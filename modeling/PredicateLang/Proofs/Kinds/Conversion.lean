import PredicateLang.Proofs.Typing.Evaluation

/-!
# Numbers of another kind

Lowering converts operands to the more precise of two kinds. For an operation it makes no difference
whether a whole number is given as one of another kind of whole numbers; nor whether any number is
given in double precision, as long as the other operand is no whole number. Two whole numbers are
compared and calculated with exactly.
-/

namespace PredicateLang

/-- What operands are converted to. -/
inductive Conversion where
  /-- Nothing: the operand is kept as it is. -/
  | kept
  | integer (k : IntegerKind)
  | double

namespace Value

/-- Null, or a whole number of a kind that is at most as precise. -/
def AtMost (k : IntegerKind) (v : Value) : Prop :=
  v = .null ∨ ∃ n : Integer, v = .integer n ∧ n.kind.rank ≤ k.rank

/-- An operand of a calculation with whole numbers, given as one of a kind: it has been converted to
the kind, or is kept and at most as precise. -/
def IsWhole (k : IntegerKind) (c : Conversion) (v : Value) : Prop :=
  c = .integer k ∨ c = .kept ∧ v.AtMost k

/-- A value that has been converted, and what it was before. -/
inductive Converted : Conversion → Value → Value → Prop
  | kept (v : Value) : Converted .kept v v
  | null (c : Conversion) : Converted c .null .null
  | integer {m n : Integer} {k : IntegerKind} (same : m.val = n.val) (kind : m.kind = k)
    (le : n.kind.rank ≤ k.rank) : Converted (.integer k) (.integer m) (.integer n)
  | double {x : Float} {w : Value} (same : w.toFloat? = some x) : Converted .double (.double x) w

variable {c : Conversion} {v w r : Value} {k : IntegerKind}

theorem converted_integer (converts : w.convert? (.integer k) = some v) (most : w.AtMost k) :
    Converted (.integer k) v w := by
  rcases most with rfl | ⟨n, rfl, le⟩
  · cases converts
    exact .null _
  · unfold convert? at converts
    split at converts
    · rename_i unchanged
      have kind : n.kind = k := by
        rcases unchanged with null | dynamic | same
        · cases null
        · cases dynamic
        · exact Kind.integer.inj same
      cases converts
      exact .integer rfl kind le
    · obtain ⟨m, fits, rfl⟩ := Option.map_eq_some_iff.mp converts
      obtain ⟨kind, same⟩ := Integer.val_of_ofInt? fits
      exact .integer same kind le

theorem converted_double (converts : w.convert? .double = some v)
    (number : w = .null ∨ w.isNumeric) : Converted .double v w := by
  rcases number with rfl | number
  · cases converts
    exact .null _
  · cases w with
    | integer n =>
      cases converts
      exact .double rfl
    | float x =>
      cases converts
      exact .double rfl
    | double x =>
      cases converts
      exact .double rfl
    | _ => cases number

theorem Converted.eq_of_kept (h : Converted .kept v w) : v = w := by
  cases h <;> rfl

/-! ## Order and equality -/

theorem compare_of_toInt?_eq_none (h : r.toInt? = none) :
    (∀ n : Integer, Value.compare (.integer n) r = Value.compare (.double (Float.ofInt n.val)) r)
      ∧ ∀ n : Integer, r.compare (.integer n) = r.compare (.double (Float.ofInt n.val)) := by
  cases r with
  | integer n => cases h
  | _ => exact ⟨fun _ => rfl, fun _ => rfl⟩

theorem Converted.compare_left (h : Converted c v w) (other : c = .double → r.toInt? = none) :
    v.compare r = w.compare r := by
  cases h with
  | kept | null => rfl
  | integer same =>
    cases r <;> simp [Value.compare, toFloat?, same]
  | double same =>
    have fraction := other rfl
    cases w with
    | integer n =>
      cases same
      exact ((compare_of_toInt?_eq_none fraction).1 n).symm
    | float x =>
      cases same
      cases r <;> rfl
    | double x =>
      cases same
      rfl
    | _ => cases same

theorem Converted.compare_right (h : Converted c v w) (other : c = .double → r.toInt? = none) :
    r.compare v = r.compare w := by
  cases h with
  | kept | null => rfl
  | integer same =>
    cases r <;> simp [Value.compare, toFloat?, same]
  | double same =>
    have fraction := other rfl
    cases w with
    | integer n =>
      cases same
      exact ((compare_of_toInt?_eq_none fraction).2 n).symm
    | float x =>
      cases same
      cases r <;> rfl
    | double x =>
      cases same
      rfl
    | _ => cases same

theorem Converted.looseEq_left (h : Converted c v w) (other : c = .double → r.toInt? = none) :
    v.looseEq r = w.looseEq r := by
  have order := h.compare_left other
  cases h with
  | kept | null => rfl
  | integer same => cases r <;> simp only [looseEq, order]
  | double same =>
    cases w with
    | integer n => cases r <;> simp only [looseEq, order]
    | float x => cases r <;> simp only [looseEq, order]
    | double x => cases r <;> simp only [looseEq, order]
    | _ => cases same

theorem Converted.looseEq_right (h : Converted c v w) (other : c = .double → r.toInt? = none) :
    r.looseEq v = r.looseEq w := by
  have order := h.compare_right other
  cases h with
  | kept | null => rfl
  | integer same => cases r <;> simp only [looseEq, order]
  | double same =>
    cases w with
    | integer n => cases r <;> simp only [looseEq, order]
    | float x => cases r <;> simp only [looseEq, order]
    | double x => cases r <;> simp only [looseEq, order]
    | _ => cases same

end Value

namespace Evaluation

variable {c c' : Conversion} {v v' w w' r : Value} {k : Kind} {κ : IntegerKind} {op : BinaryOp}

open Value

/-- Is the operation a comparison? -/
def isComparison : BinaryOp → Bool
  | .equal | .notEqual | .less | .lessEqual | .greater | .greaterEqual => true
  | _ => false

theorem comparison?_left (h : Converted c v w) (other : c = .double → r.toInt? = none)
    (op : BinaryOp) : comparison? op v r = comparison? op w r := by
  cases op <;> simp only [comparison?, h.compare_left other, h.looseEq_left other]

theorem comparison?_right (h : Converted c v w) (other : c = .double → r.toInt? = none)
    (op : BinaryOp) : comparison? op r v = comparison? op r w := by
  cases op <;> simp only [comparison?, h.compare_right other, h.looseEq_right other]

/-- Of two operands that are compared at most one has been converted. -/
theorem comparison?_eq (one : c = .kept ∨ c' = .kept) (left : Converted c v w)
    (right : Converted c' v' w') (fraction : c' = .double → v.toInt? = none)
    (fraction' : c = .double → v'.toInt? = none) (op : BinaryOp) :
    comparison? op v v' = comparison? op w w' := by
  rcases one with rfl | rfl
  · rw [← left.eq_of_kept]
    exact comparison?_right right fraction op
  · rw [← right.eq_of_kept]
    exact comparison?_left left fraction' op

variable {x y a b : Value}

theorem exists_of_isComparison (h : isComparison op) (k : Kind) (x y : Value) :
    ∃ b, comparison? op x y = some b ∧ binary k op x y = .ok (.boolean b) := by
  cases op <;> first | exact ⟨_, rfl, rfl⟩ | cases h

theorem comparison_eq {k' : Kind} (compares : isComparison op) (one : c = .kept ∨ c' = .kept)
    (left : Converted c v w) (right : Converted c' v' w')
    (fraction : c' = .double → v.toInt? = none) (fraction' : c = .double → v'.toInt? = none)
    (ok : binary k op v v' = .ok a) (ok' : binary k' op w w' = .ok b) : a = b := by
  obtain ⟨told, answer, result⟩ := exists_of_isComparison compares k v v'
  obtain ⟨told', answer', result'⟩ := exists_of_isComparison compares k' w w'
  rw [comparison?_eq one left right fraction fraction' op, answer'] at answer
  cases answer
  exact Except.ok.inj (ok.symm.trans (result.trans (result'.symm.trans ok')))

/-! ## Arithmetic -/

theorem binary_of_isArithmetic (h : Target.isArithmetic op) (k : Kind) (x y : Value) :
    binary k op x y = arithmetic k op x y := by
  cases op <;> first | rfl | cases h

theorem floatBinary_eq_any (precise : k ≠ .float) (op : BinaryOp) (p q : Float) :
    floatBinary k op p q = floatBinary .any op p q := by
  simp [floatBinary, precise]

/-- Only whole numbers and numbers in single precision are asked for in another form than that of
the operands. -/
theorem binary_eq_any (fraction : k.isInteger = false) (precise : k ≠ .float) (op : BinaryOp)
    (x y : Value) : binary k op x y = binary .any op x y := by
  have narrows (op : BinaryOp) (m n : Integer) :
      integerBinary k op m n = integerBinary .any op m n := by
    cases k with
    | integer κ => cases fraction
    | _ => rfl
  unfold binary arithmetic
  simp only [narrows, floatBinary_eq_any precise]

/-- What is calculated with is null or a number. -/
theorem numbers_of_arithmetic (ok : arithmetic k op x y = .ok a) :
    (x = .null ∨ y = .null) ∧ a = .null ∨ x.isNumeric ∧ y.isNumeric := by
  unfold arithmetic at ok
  split at ok
  · cases ok
    exact .inl ⟨.inl rfl, rfl⟩
  · cases ok
    exact .inl ⟨.inr rfl, rfl⟩
  · right
    split at ok
    · exact ⟨rfl, rfl⟩
    · split at ok
      · rename_i left right
        constructor
        · cases x <;> first | rfl | cases left
        · cases y <;> first | rfl | cases right
      · cases ok

theorem arithmetic_of_fraction {p q : Float} (h : x.toInt? = none ∨ y.toInt? = none)
    (left : x.toFloat? = some p) (right : y.toFloat? = some q) :
    arithmetic k op x y = floatBinary k op p q := by
  cases x with
  | integer m =>
    cases y with
    | integer n => simp [toInt?] at h
    | float z | double z => cases left; cases right; rfl
    | _ => cases right
  | float z | double z =>
    cases y with
    | integer n | float z | double z => cases left; cases right; rfl
    | _ => cases right
  | _ => cases left

/-- A number in double precision in place of any number, before one that is no whole number. -/
theorem arithmetic_left (h : Converted .double v w) (fraction : r.toInt? = none)
    (ok : arithmetic k op v r = .ok a) (ok' : arithmetic k op w r = .ok b) : b = a := by
  cases h with
  | null =>
    rw [ok] at ok'
    exact (Except.ok.inj ok').symm
  | @double x _ same =>
    have number : w ≠ .null := by
      rintro rfl
      cases same
    rcases numbers_of_arithmetic ok with ⟨null | rfl, rfl⟩ | ⟨-, numeric⟩
    · cases null
    · rcases numbers_of_arithmetic ok' with ⟨-, rfl⟩ | ⟨-, numeric⟩
      · rfl
      · cases numeric
    · obtain ⟨q, right⟩ : ∃ q, r.toFloat? = some q := by
        cases r <;> first | exact ⟨_, rfl⟩ | cases numeric
      rw [arithmetic_of_fraction (.inl rfl) rfl right] at ok
      rw [arithmetic_of_fraction (.inr fraction) same right, ok] at ok'
      exact (Except.ok.inj ok').symm

/-- A number in double precision in place of any number, behind one that is no whole number. -/
theorem arithmetic_right (h : Converted .double v w) (fraction : r.toInt? = none)
    (ok : arithmetic k op r v = .ok a) (ok' : arithmetic k op r w = .ok b) : b = a := by
  cases h with
  | null =>
    rw [ok] at ok'
    exact (Except.ok.inj ok').symm
  | @double x _ same =>
    have number : w ≠ .null := by
      rintro rfl
      cases same
    rcases numbers_of_arithmetic ok with ⟨rfl | null, rfl⟩ | ⟨numeric, -⟩
    · rcases numbers_of_arithmetic ok' with ⟨-, rfl⟩ | ⟨numeric, -⟩
      · rfl
      · cases numeric
    · cases null
    · obtain ⟨q, left⟩ : ∃ q, r.toFloat? = some q := by
        cases r <;> first | exact ⟨_, rfl⟩ | cases numeric
      rw [arithmetic_of_fraction (.inr rfl) left rfl] at ok
      rw [arithmetic_of_fraction (.inl fraction) left same, ok] at ok'
      exact (Except.ok.inj ok').symm

/-- Of two operands that are calculated with at most one has been converted. -/
theorem arithmetic_eq (one : c = .kept ∨ c' = .kept) (only : c = .kept ∨ c = .double)
    (only' : c' = .kept ∨ c' = .double) (left : Converted c v w) (right : Converted c' v' w')
    (fraction : c' = .double → v.toInt? = none) (fraction' : c = .double → v'.toInt? = none)
    (ok : arithmetic k op v v' = .ok a) (ok' : arithmetic k op w w' = .ok b) : a = b := by
  rcases one with rfl | rfl
  · obtain rfl := left.eq_of_kept
    rcases only' with rfl | rfl
    · obtain rfl := right.eq_of_kept
      exact Except.ok.inj (ok.symm.trans ok')
    · exact (arithmetic_right right (fraction rfl) ok ok').symm
  · obtain rfl := right.eq_of_kept
    rcases only with rfl | rfl
    · obtain rfl := left.eq_of_kept
      exact Except.ok.inj (ok.symm.trans ok')
    · exact (arithmetic_left left (fraction' rfl) ok ok').symm

/-! ### Whole numbers -/

theorem rank_injective {κ κ' : IntegerKind} (h : κ.rank = κ'.rank) : κ = κ' := by
  cases κ <;> cases κ' <;> first | rfl | cases h

/-- The more precise of two kinds that are at most as precise as one of them. -/
theorem integerResultKind_any {left right : IntegerKind} (le : left.rank ≤ κ.rank)
    (le' : right.rank ≤ κ.rank) (attained : left = κ ∨ right = κ) :
    integerResultKind .any left right = κ := by
  show (if left.rank ≥ right.rank then left else right) = κ
  rcases attained with rfl | rfl
  · rw [if_pos le']
  · split
    · rename_i ge
      exact rank_injective (Nat.le_antisymm le ge)
    · rfl

theorem arithmetic_of_integers {m m' n n' : Integer} (same : m.val = m'.val)
    (same' : n.val = n'.val) (most : integerResultKind .any m'.kind n'.kind = κ) :
    arithmetic (.integer κ) op (.integer m) (.integer n)
      = arithmetic .any op (.integer m') (.integer n') := by
  have exactly : integerBinary (.integer κ) op m n = integerBinary .any op m' n' := by
    rw [integerBinary, integerBinary, same, same', most]
    rfl
  have fractions : floatBinary (.integer κ) op (Float.ofInt m.val) (Float.ofInt n.val)
      = floatBinary .any op (Float.ofInt m'.val) (Float.ofInt n'.val) := by
    rw [same, same']
    exact floatBinary_eq_any (by simp) op _ _
  simp only [arithmetic, exactly, fractions]

/-- A whole number that has been converted is null, or the same number as before. -/
theorem whole_of_converted (h : Converted c v w) (only : v.IsWhole κ c) :
    v = .null ∧ w = .null
      ∨ ∃ m n : Integer, v = .integer m ∧ w = .integer n ∧ m.val = n.val
        ∧ n.kind.rank ≤ κ.rank := by
  rcases only with rfl | ⟨rfl, most⟩
  · cases h with
    | null => exact .inl ⟨rfl, rfl⟩
    | integer same kind le => exact .inr ⟨_, _, rfl, rfl, same, le⟩
  · cases h with
    | null => exact .inl ⟨rfl, rfl⟩
    | kept =>
      rcases most with rfl | ⟨n, rfl, le⟩
      · exact .inl ⟨rfl, rfl⟩
      · exact .inr ⟨n, n, rfl, rfl, rfl, le⟩

/-- Whole numbers may be converted to the kind that the result is of anyway. -/
theorem arithmetic_most (left : Converted c v w) (right : Converted c' v' w')
    (only : v.IsWhole κ c)
    (only' : v'.IsWhole κ c')
    (most : c = .kept ∧ v.Conforms (.integer κ) ∨ c' = .kept ∧ v'.Conforms (.integer κ)) :
    arithmetic (.integer κ) op v v' = arithmetic .any op w w' := by
  rcases whole_of_converted left only with ⟨rfl, rfl⟩ | ⟨m, m', rfl, rfl, same, le⟩
  · rfl
  · rcases whole_of_converted right only' with ⟨rfl, rfl⟩ | ⟨n, n', rfl, rfl, same', le'⟩
    · rfl
    · refine arithmetic_of_integers same same' (integerResultKind_any le le' ?_)
      rcases most with ⟨rfl, conforms⟩ | ⟨rfl, conforms⟩
      · cases left with
        | kept =>
          cases conforms with
          | integer kind => exact .inl kind
      · cases right with
        | kept =>
          cases conforms with
          | integer kind => exact .inr kind

/-! ## Sums -/

/-- Is it a kind that the sum of its numbers is of, although the sum begins with an int? -/
def IsSummed (k : Kind) : Prop :=
  k = .double ∨ ∃ κ : IntegerKind, k = .integer κ ∧ IntegerKind.int.rank ≤ κ.rank

theorem add_of_conforms (summed : IsSummed k) (left : x.Conforms k) (right : y.Conforms k) :
    binary k .add x y = binary .any .add x y := by
  rcases summed with rfl | ⟨κ, rfl, -⟩
  · exact binary_eq_any rfl (by simp) .add x y
  · have most {z : Value} (conforms : z.Conforms (.integer κ)) : z.AtMost κ := by
      cases conforms with
      | null => exact .inl rfl
      | integer kind => exact .inr ⟨_, rfl, Nat.le_of_eq (congrArg IntegerKind.rank kind)⟩
    exact arithmetic_most (.kept x) (.kept y) (.inr ⟨rfl, most left⟩) (.inr ⟨rfl, most right⟩)
      (.inl ⟨rfl, left⟩)

/-- The first item decides of which kind the sum is. -/
theorem add_first (summed : IsSummed k) (conforms : y.Conforms k) :
    binary k .add k.default y = binary .any .add (.int 0) y := by
  rcases summed with rfl | ⟨κ, rfl, le⟩
  · cases conforms with
    | null => rfl
    | double z =>
      have zero : Float.ofInt 0 = 0.0 := by decide +kernel
      show floatBinary .double .add 0.0 z = floatBinary .any .add (Float.ofInt 0) z
      rw [zero]
      exact floatBinary_eq_any (by simp) .add _ _
  · cases conforms with
    | null => rfl
    | @integer n _ kind =>
      show arithmetic (.integer κ) .add (.integer (.zero κ)) (.integer n)
        = arithmetic .any .add (.integer (.wrapped 0)) (.integer n)
      refine arithmetic_of_integers rfl rfl ?_
      exact integerResultKind_any le (Nat.le_of_eq (congrArg IntegerKind.rank kind)) (.inr kind)

theorem foldlM_add_eq_any (summed : IsSummed k) {items : List Value}
    (conform : ∀ item ∈ items, item.Conforms k) (start : x.Conforms k) :
    items.foldlM (fun total item => binary k .add total item) x
      = items.foldlM (fun total item => binary .any .add total item) x := by
  have numeric : k.isNumeric := by
    rcases summed with rfl | ⟨κ, rfl, -⟩ <;> rfl
  induction items generalizing x with
  | nil => rfl
  | cons first rest ih =>
    have first_conforms := conform first List.mem_cons_self
    rw [List.foldlM_cons, List.foldlM_cons, ← add_of_conforms summed start first_conforms]
    cases added : binary k .add x first with
    | error e => rfl
    | ok total =>
      have total_conforms : total.Conforms k :=
        conforms_arithmetic added numeric nofun start first_conforms
      exact ih (fun item mem => conform item (List.mem_cons_of_mem _ mem)) total_conforms

/-- The sum of numbers of a kind is of this kind, asked for or not. Without numbers it is an int. -/
theorem sum_eq_any (summed : IsSummed k) {items : List Value}
    (conform : ∀ item ∈ items, item.Conforms k) (some : items ≠ [] ∨ k = .integer .int) :
    sum k items = sum .any items := by
  have numeric : k.isNumeric := by
    rcases summed with rfl | ⟨κ, rfl, -⟩ <;> rfl
  have known : k.isDynamic = false := by
    rcases summed with rfl | ⟨κ, rfl, -⟩ <;> rfl
  unfold sum
  rw [known]
  cases items with
  | nil =>
    rcases some with none | rfl
    · exact absurd rfl none
    · rfl
  | cons first rest =>
    have first_conforms := conform first List.mem_cons_self
    show (binary k .add k.default first >>= fun total => _)
      = (binary .any .add (.int 0) first >>= fun total => _)
    rw [← add_first summed first_conforms]
    cases added : binary k .add k.default first with
    | error e => rfl
    | ok total =>
      have total_conforms : total.Conforms k :=
        conforms_arithmetic added numeric nofun k.conforms_default first_conforms
      exact foldlM_add_eq_any summed (fun item mem => conform item (List.mem_cons_of_mem _ mem))
        total_conforms

end Evaluation

end PredicateLang
