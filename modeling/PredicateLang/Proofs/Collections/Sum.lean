import Mathlib
import PredicateLang.Proofs.Collections.Operator
import PredicateLang.Proofs.Integers.Arithmetic

/-!
# Sums of integers

The items of a collection are added one by one, and every sum on the way has to fit the kind. So the
order of the items matters: numbers of both signs may have a sum although it is not reached in every
order. In every order it is reached if the positive ones and the negative ones have sums of their
own.
-/

namespace PredicateLang

open Lowering

/-! ## Sums in mathematics -/

namespace Value

/-- The numbers of the integers among values. -/
def summands (items : List Value) : List Int := items.filterMap toInt?

/-- The sum of the integers among values. -/
def total (items : List Value) : Int := (summands items).sum

@[simp] theorem total_nil : total [] = 0 := rfl

@[simp] theorem total_cons_integer (n : Integer) (rest : List Value) :
    total (.integer n :: rest) = n.val + total rest := rfl

/-- Nulls do not count. -/
theorem total_present (items : List Value) : total (present items) = total items := by
  unfold total summands present
  rw [List.filterMap_filter]
  refine congrArg (fun f => (List.filterMap f items).sum) (funext fun item => ?_)
  cases item <;> rfl

end Value

namespace IntegerKind

/-- Every item is null or an integer of the kind. -/
def Holds (k : IntegerKind) (items : List Value) : Prop :=
  ∀ item ∈ items, item = .null ∨ ∃ n : Integer, n.kind = k ∧ item = .integer n

/-- Does every sum fit of a number and of the first ones among values? -/
def FitsSums (k : IntegerKind) (start : Int) (items : List Value) : Prop :=
  ∀ front, front <+: items → k.Fits (start + Value.total front)

instance (k : IntegerKind) (start : Int) (items : List Value) :
    Decidable (k.FitsSums start items) :=
  decidable_of_iff (∀ front ∈ items.inits, k.Fits (start + Value.total front))
    (forall_congr' fun front => by rw [List.mem_inits])

variable {k : IntegerKind} {start : Int} {items : List Value}

theorem FitsSums.fits (h : k.FitsSums start items) : k.Fits start := by
  simpa using h [] List.nil_prefix

theorem fitsSums_nil : k.FitsSums start [] ↔ k.Fits start := by
  refine ⟨FitsSums.fits, fun fits front before => ?_⟩
  obtain rfl := List.prefix_nil.mp before
  simpa using fits

theorem fitsSums_cons (n : Integer) (rest : List Value) :
    k.FitsSums start (.integer n :: rest) ↔ k.Fits start ∧ k.FitsSums (start + n.val) rest := by
  constructor
  · refine fun fits => ⟨fits.fits, fun front before => ?_⟩
    have sum := fits _ (List.cons_prefix_cons.mpr ⟨rfl, before⟩)
    rwa [Value.total_cons_integer, ← Int.add_assoc] at sum
  · rintro ⟨first, others⟩ front before
    rcases List.prefix_cons_iff.mp before with rfl | ⟨front', rfl, before'⟩
    · simpa using first
    · rw [Value.total_cons_integer, ← Int.add_assoc]
      exact others front' before'

theorem fitsSums_present :
    k.FitsSums start (Value.present items) ↔ k.FitsSums start items := by
  constructor
  · intro fits front before
    have sum : k.Fits (start + Value.total (Value.present front)) := fits _ (before.filter _)
    rwa [Value.total_present] at sum
  · intro fits front before
    obtain ⟨front', before', rfl⟩ := List.prefix_filter_iff.mp before
    have sum := fits front' before'
    rwa [← Value.total_present] at sum

end IntegerKind

/-! ## Orders of the items -/

theorem sum_positive_cons (n : Int) (rest : List Int) :
    ((n :: rest).filter (0 < ·)).sum = max n 0 + (rest.filter (0 < ·)).sum := by
  rw [List.filter_cons]
  split
  case isTrue positive =>
    rw [List.sum_cons, max_eq_left (of_decide_eq_true positive).le]
  case isFalse other =>
    rw [max_eq_right (not_lt.mp (by simpa using other)), Int.zero_add]

theorem sum_negative_cons (n : Int) (rest : List Int) :
    ((n :: rest).filter (· < 0)).sum = min n 0 + (rest.filter (· < 0)).sum := by
  rw [List.filter_cons]
  split
  case isTrue negative =>
    rw [List.sum_cons, min_eq_left (of_decide_eq_true negative).le]
  case isFalse other =>
    rw [min_eq_right (not_lt.mp (by simpa using other)), Int.zero_add]

/-- What some of the numbers sum up to lies between the sums of the negative and of the positive
ones. -/
theorem sum_between {some all : List Int} (h : some.Sublist all) :
    (all.filter (· < 0)).sum ≤ some.sum ∧ some.sum ≤ (all.filter (0 < ·)).sum := by
  induction h with
  | slnil => exact ⟨Int.le_refl 0, Int.le_refl 0⟩
  | cons n _ ih =>
    rw [sum_negative_cons, sum_positive_cons]
    omega
  | cons_cons n _ ih =>
    rw [sum_negative_cons, sum_positive_cons, List.sum_cons]
    omega

/-- The positive numbers and the negative ones make up the whole sum. -/
theorem sum_signs (numbers : List Int) :
    (numbers.filter (0 < ·)).sum + (numbers.filter (· < 0)).sum = numbers.sum := by
  induction numbers with
  | nil => rfl
  | cons n rest ih =>
    rw [sum_positive_cons, sum_negative_cons, List.sum_cons]
    omega

/-- In every order all the sums on the way fit, if and only if the sum of the positive numbers and
that of the negative ones do. -/
theorem IntegerKind.fitsSums_perm {k : IntegerKind} {items : List Value} :
    (∀ items' : List Value, items'.Perm items → k.FitsSums 0 items')
      ↔ k.Fits ((Value.summands items).filter (0 < ·)).sum
        ∧ k.Fits ((Value.summands items).filter (· < 0)).sum := by
  constructor
  · intro fits
    -- The numbers with the one sign may all be there before the others.
    have first (sign : Int → Bool) : k.Fits ((Value.summands items).filter sign).sum := by
      let has (item : Value) : Bool := item.toInt?.any sign
      have sum := fits _ (List.filter_append_perm has items) _ (List.prefix_append _ _)
      have same : Value.summands (items.filter has) = (Value.summands items).filter sign := by
        unfold Value.summands
        rw [List.filterMap_filter, List.filter_filterMap]
        refine congrArg (List.filterMap · items) (funext fun item => ?_)
        cases number : item.toInt? <;> simp [has, number, Option.filter]
      rwa [Int.zero_add, Value.total, same] at sum
    exact ⟨first _, first _⟩
  · rintro ⟨positive, negative⟩ items' order front before
    have same : (Value.summands items').Perm (Value.summands items) := order.filterMap _
    have part : (Value.summands front).Sublist (Value.summands items') := before.sublist.filterMap _
    obtain ⟨least, greatest⟩ := sum_between part
    rw [(same.filter _).sum_eq] at least
    rw [(same.filter _).sum_eq] at greatest
    rw [Int.zero_add]
    exact ⟨Int.le_trans negative.1 least, Int.le_trans greatest positive.2⟩

/-- In no order there is an overflow on the way to a sum that fits, if no two numbers have opposite
signs. -/
theorem IntegerKind.fitsSums_perm_of_sign {k : IntegerKind} {items : List Value}
    (sign : (∀ n ∈ Value.summands items, 0 ≤ n) ∨ ∀ n ∈ Value.summands items, n ≤ 0)
    (fits : k.Fits (Value.total items)) :
    ∀ items' : List Value, items'.Perm items → k.FitsSums 0 items' := by
  have zero : k.Fits 0 := ⟨k.least_le_zero, k.zero_le_greatest⟩
  have whole := sum_signs (Value.summands items)
  rw [fitsSums_perm]
  rcases sign with positive | negative
  · have none : (Value.summands items).filter (· < 0) = [] := by simpa using positive
    rw [none, List.sum_nil, Int.add_zero] at whole
    rw [none, whole]
    exact ⟨fits, zero⟩
  · have none : (Value.summands items).filter (0 < ·) = [] := by simpa using negative
    rw [none, List.sum_nil, Int.zero_add] at whole
    rw [none, whole]
    exact ⟨zero, fits⟩

/-! ## Adding up -/

namespace Evaluation

variable {k : IntegerKind} {items : List Value}

/-- Adding integers of a kind to one of them, one by one, comes to their sum in mathematics, if
every sum on the way fits, and otherwise to an overflow. -/
theorem foldlM_add (integers : ∀ item ∈ items, ∃ n : Integer, n.kind = k ∧ item = .integer n)
    {start : Integer} (own : start.kind = k) :
    (k.FitsSums start.val items → ∃ n : Integer, n.kind = k
      ∧ n.val = start.val + Value.total items
      ∧ items.foldlM (binary (.integer k) .add) (.integer start) = .ok (.integer n))
    ∧ (¬k.FitsSums start.val items → ∃ e : Error, e.isOverflow
      ∧ items.foldlM (binary (.integer k) .add) (.integer start) = .error e) := by
  induction items generalizing start with
  | nil =>
    have fits : k.FitsSums start.val [] := IntegerKind.fitsSums_nil.mpr (own ▸ start.fits)
    exact ⟨fun _ => ⟨start, own, by simp, rfl⟩, fun unfit => absurd fits unfit⟩
  | cons item rest ih =>
    obtain ⟨⟨n, kind, rfl⟩, others⟩ := List.forall_mem_cons.mp integers
    have exact : IsExact k (start.val + n.val)
        (binary (.integer k) .add (.integer start) (.integer n)) := by
      rw [binary_integers rfl (by decide)]
      exact (Calculation.sum.comes_integerBinary (.integer k) start n).isExact nofun
    rw [IntegerKind.fitsSums_cons, List.foldlM_cons]
    generalize binary (.integer k) .add (.integer start) (.integer n) = first at exact
    cases exact with
    | @fits next own' val =>
      obtain ⟨sum, overflow⟩ := ih others own'
      rw [val] at sum overflow
      constructor
      · rintro ⟨-, fits⟩
        obtain ⟨total, kind', sum, run⟩ := sum fits
        exact ⟨total, kind', by rw [sum, Value.total_cons_integer, Int.add_assoc], run⟩
      · intro unfit
        exact overflow fun fits => unfit ⟨own ▸ start.fits, fits⟩
    | @overflow e unfit is => exact ⟨fun fits => absurd fits.2.fits unfit, fun _ => ⟨e, is, rfl⟩⟩

end Evaluation

/-! ## Sums of collections -/

/-- The sum of a collection of integers of a kind is what it is in mathematics, as an integer of the
kind, if every sum on the way to it fits, and an overflow otherwise. In every order it is there if
and only if the sum of the positive items and that of the negative ones fit. -/
theorem Expr.result_sum {e c : Expr} (sums : e.Aggregates (.reduction .sum) c) {k : IntegerKind}
    {kind : Kind} {settings : Settings} {object : Value} {world : World} {memory : Memory}
    {items : List Value}
    (collects : c.Collects kind settings object world memory (.integer k) items)
    (holds : k.Holds items) :
    (k.FitsSums 0 items → ∃ n : Integer, n.kind = k ∧ n.val = Value.total items
      ∧ e.result kind settings object world memory = .ok (.integer n))
    ∧ (¬k.FitsSums 0 items → ∃ error : Error, error.isOverflow
      ∧ e.result kind settings object world memory = .error error)
    ∧ ((∀ items' : List Value, items'.Perm items → k.FitsSums 0 items')
      ↔ k.Fits ((Value.summands items).filter (0 < ·)).sum
        ∧ k.Fits ((Value.summands items).filter (· < 0)).sum) := by
  have integers : ∀ item ∈ Value.present items, ∃ n : Integer, n.kind = k ∧ item = .integer n := by
    intro item mem
    obtain ⟨mem, present⟩ := List.mem_filter.mp mem
    rcases holds item mem with rfl | integer
    · cases present
    · exact integer
  have added := Evaluation.foldlM_add integers (rfl : (Integer.zero k).kind = k)
  have total : (Integer.zero k).val + Value.total (Value.present items) = Value.total items := by
    rw [Value.total_present]
    exact Int.zero_add _
  have run : e.result kind settings object world memory
      = Evaluation.reduce (.integer k) .sum items := collects.result_reduction sums
  rw [total, show (Integer.zero k).val = 0 from rfl, IntegerKind.fitsSums_present] at added
  rw [run]
  exact ⟨added.1, added.2, IntegerKind.fitsSums_perm⟩

/-- A hundred in 8 bits. -/
def Integer.hundred : Integer := ⟨.sbyte, 100, by decide, by decide⟩

/-- Minus a hundred in 8 bits. -/
def Integer.minusHundred : Integer := ⟨.sbyte, -100, by decide, by decide⟩

theorem Expr.aggregates_sum_items :
    (path "items.@sum").Aggregates (.reduction .sum) (path "items") :=
  aggregates_items "@sum" (by decide +kernel) (by decide +kernel)

/-- The sum of a hundred, a hundred less and a hundred, with a null between them. -/
theorem Expr.result_sum_hundred : ∃ n : Integer, n.kind = .sbyte ∧ n.val = 100
    ∧ (path "items.@sum").result (.withItems (.integer .sbyte)) (.ofDialect .objects)
      (.withItems [.integer .hundred, .null, .integer .minusHundred, .integer .hundred])
      ⟨⟨0, 0⟩, fun _ => 0⟩ .empty = .ok (.integer n) := by
  have holds : IntegerKind.sbyte.Holds
      [.integer .hundred, .null, .integer .minusHundred, .integer .hundred] := by
    simp only [IntegerKind.Holds, List.forall_mem_cons]
    exact ⟨.inr ⟨_, rfl, rfl⟩, .inl trivial, .inr ⟨_, rfl, rfl⟩, .inr ⟨_, rfl, rfl⟩,
      List.forall_mem_nil _⟩
  exact (Expr.result_sum aggregates_sum_items (collects_items ..) holds).1 (by decide)

/-- In another order they have the same sum, which fits, but it is not reached. -/
theorem Expr.result_sum_overflow :
    (path "items.@sum").Aggregates (.reduction .sum) (path "items")
      ∧ (path "items").Collects (.withItems (.integer .sbyte)) (.ofDialect .objects)
        (.withItems [.integer .hundred, .integer .hundred, .integer .minusHundred])
        ⟨⟨0, 0⟩, fun _ => 0⟩ .empty (.integer .sbyte)
        [.integer .hundred, .integer .hundred, .integer .minusHundred]
      ∧ IntegerKind.sbyte.Holds [.integer .hundred, .integer .hundred, .integer .minusHundred]
      ∧ IntegerKind.sbyte.Fits
        (Value.total [.integer .hundred, .integer .hundred, .integer .minusHundred])
      ∧ (path "items.@sum").result (.withItems (.integer .sbyte)) (.ofDialect .objects)
        (.withItems [.integer .hundred, .integer .hundred, .integer .minusHundred])
        ⟨⟨0, 0⟩, fun _ => 0⟩ .empty = .error (.evaluation (.integerOutOfRange 200 .sbyte)) := by
  refine ⟨aggregates_sum_items, collects_items .., ?_, by decide, ?_⟩
  · simp only [IntegerKind.Holds, List.forall_mem_cons]
    exact ⟨.inr ⟨_, rfl, rfl⟩, .inr ⟨_, rfl, rfl⟩, .inr ⟨_, rfl, rfl⟩,
      List.forall_mem_nil _⟩
  · exact (collects_items ..).result_reduction aggregates_sum_items

end PredicateLang
