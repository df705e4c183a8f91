import PredicateLang.Proofs.Coercion
import PredicateLang.Proofs.Kinds.Concurrence
import PredicateLang.Proofs.Kinds.Conversion

/-!
# Differences that nothing notices

Of numbers that are compared or calculated with, the less precise one is cast to the kind of the
other, and the result is of that kind. Where the kinds are not known this is not done. As long as
the operands are of their kinds and single precision is left out, neither makes a difference: the
trees concur. Nor does it make a difference of which kind a sum is, or whether a property is taken
of each item of an array or of the array, as long as there is no null among the items.
-/

namespace PredicateLang

open Evaluation

/-- The conversion to a kind of numbers. -/
def Conversion.to : Kind → Conversion
  | .integer k => .integer k
  | .double => .double
  | _ => .kept

/-- The numbers of a kind that is not single precision. -/
structure Kind.IsPrecise (kind : Kind) : Prop where
  numeric : kind.isNumeric
  precise : kind ≠ .float

namespace Kind.IsPrecise

variable {kind : Kind} {v : Value}

theorem eq_or (h : kind.IsPrecise) : kind = .double ∨ ∃ k : IntegerKind, kind = .integer k := by
  obtain ⟨numeric, precise⟩ := h
  cases kind with
  | integer k => exact .inr ⟨k, rfl⟩
  | double => exact .inl rfl
  | float => exact absurd rfl precise
  | _ => cases numeric

theorem isCastable (h : kind.IsPrecise) : kind.isCastable := by
  rcases h.eq_or with rfl | ⟨k, rfl⟩ <;> rfl

theorem isDynamic (h : kind.IsPrecise) : kind.isDynamic = false := by
  rcases h.eq_or with rfl | ⟨k, rfl⟩ <;> rfl

theorem number (h : kind.IsPrecise) (conforms : v.Conforms kind) : v = .null ∨ v.isNumeric := by
  rcases h.eq_or with rfl | ⟨k, rfl⟩ <;> cases conforms
  all_goals first | exact .inl rfl | exact .inr rfl

/-- A whole number of a kind that is at most as precise as another one. -/
theorem atMost (h : kind.IsPrecise) {k : IntegerKind} {l : Nat} (rank : kind.rank? = some l)
    (le : l ≤ k.rank) (conforms : v.Conforms kind) : v.AtMost k := by
  rcases h.eq_or with rfl | ⟨own, rfl⟩
  · cases rank
    cases k <;> simp [IntegerKind.rank] at le
  · cases rank
    cases conforms with
    | null => exact .inl rfl
    | integer same => exact .inr ⟨_, rfl, same ▸ le⟩

/-- Converted to a kind that is at least as precise, a number is the same number. -/
theorem converted (h : kind.IsPrecise) {wanted : Kind} {w : Value} {l r : Nat}
    (h' : wanted.IsPrecise) (rank : kind.rank? = some l) (rank' : wanted.rank? = some r)
    (le : l ≤ r) (conforms : v.Conforms kind) (converts : v.convert? wanted = some w) :
    Value.Converted (.to wanted) w v := by
  rcases h'.eq_or with rfl | ⟨k, rfl⟩
  · exact Value.converted_double converts (h.number conforms)
  · cases rank'
    exact Value.converted_integer converts (h.atMost rank le conforms)

end Kind.IsPrecise

theorem toInt?_eq_none_of_conforms {v : Value} (conforms : v.Conforms .double) :
    v.toInt? = none := by
  cases conforms <;> rfl

theorem Conversion.eq_double_of_to {kind : Kind} (h : Conversion.to kind = .double) :
    kind = .double := by
  cases kind <;> first | rfl | cases h

section Values

variable {kind own : Kind} {c : Conversion} {m n : Nat} {op : BinaryOp} {x x' y a b : Value}

theorem isWhole_of_converted {k : IntegerKind} (precise : own.IsPrecise) (rank : own.rank? = some m)
    (le : m ≤ k.rank) (conforms : x.Conforms own) (converted : Value.Converted c x' x)
    (only : c = .kept ∨ c = .to (.integer k)) : x'.IsWhole k c := by
  rcases only with rfl | rfl
  · obtain rfl := converted.eq_of_kept
    exact .inr ⟨rfl, precise.atMost rank le conforms⟩
  · exact .inl rfl

/-- A number is calculated with as one of the kind of the other one, of which the result is too. -/
theorem calculate_left (arithmetic : Target.isArithmetic op) (precise : own.IsPrecise)
    (precise' : kind.IsPrecise) (rank : own.rank? = some m) (rank' : kind.rank? = some n)
    (le : m ≤ n) (conforms : x.Conforms own) (conforms' : y.Conforms kind)
    (only : c = .kept ∨ c = .to kind) (converted : Value.Converted c x' x)
    (ok : binary kind op x' y = .ok a) (ok' : binary .any op x y = .ok b) : a = b := by
  rw [binary_of_isArithmetic arithmetic] at ok'
  rcases precise'.eq_or with rfl | ⟨k, rfl⟩
  · rw [binary_eq_any rfl (by simp), binary_of_isArithmetic arithmetic] at ok
    exact arithmetic_eq (.inr rfl) only (.inl rfl) converted (.kept y) nofun
      (fun _ => toInt?_eq_none_of_conforms conforms') ok ok'
  · cases rank'
    rw [binary_of_isArithmetic arithmetic, arithmetic_most converted (.kept y)
      (isWhole_of_converted precise rank le conforms converted only)
      (.inr ⟨rfl, precise'.atMost rfl (Nat.le_refl _) conforms'⟩) (.inr ⟨rfl, conforms'⟩)] at ok
    exact Except.ok.inj (ok.symm.trans ok')

theorem calculate_right (arithmetic : Target.isArithmetic op) (precise : own.IsPrecise)
    (precise' : kind.IsPrecise) (rank : own.rank? = some m) (rank' : kind.rank? = some n)
    (le : m ≤ n) (conforms : x.Conforms own) (conforms' : y.Conforms kind)
    (only : c = .kept ∨ c = .to kind) (converted : Value.Converted c x' x)
    (ok : binary kind op y x' = .ok a) (ok' : binary .any op y x = .ok b) : a = b := by
  rw [binary_of_isArithmetic arithmetic] at ok'
  rcases precise'.eq_or with rfl | ⟨k, rfl⟩
  · rw [binary_eq_any rfl (by simp), binary_of_isArithmetic arithmetic] at ok
    exact arithmetic_eq (.inl rfl) (.inl rfl) only (.kept y) converted
      (fun _ => toInt?_eq_none_of_conforms conforms') nofun ok ok'
  · cases rank'
    rw [binary_of_isArithmetic arithmetic, arithmetic_most (.kept y) converted
      (.inr ⟨rfl, precise'.atMost rfl (Nat.le_refl _) conforms'⟩)
      (isWhole_of_converted precise rank le conforms converted only) (.inl ⟨rfl, conforms'⟩)] at ok
    exact Except.ok.inj (ok.symm.trans ok')

end Values

namespace Target

variable {known : Known} {ρ : Naming} {l l' l₁ r r' r₁ s s' t u : Target} {op : BinaryOp}

/-! ## Casts -/

/-- Cast to a kind that is at least as precise, an operand gives the same number. It is of that
kind, or null. -/
theorem exists_converted {wanted : Kind} {m n : Nat} (cast : t.cast wanted = .ok u)
    (h : t.kind.IsPrecise) (h' : wanted.IsPrecise) (rank : t.kind.rank? = some m)
    (rank' : wanted.rank? = some n) (le : m ≤ n) :
    ∃ F c, Changes F t u ∧ (c = .kept ∨ c = .to wanted)
      ∧ (u.kind = wanted ∨ ∀ v w, F v w → v = .null)
      ∧ ∀ v w, v.Conforms t.kind → F v w → Value.Converted c w v := by
  by_cases same : t.kind = wanted
  · unfold Target.cast at cast
    rw [if_pos (.inl same)] at cast
    cases cast
    refine ⟨_, _, .same t, .inl rfl, .inl same, ?_⟩
    rintro v _ - rfl
    exact .kept v
  · cases constant : t.constant? with
    | some value =>
      cases t with
      | constant kind value' =>
        unfold Target.cast at cast
        rw [if_neg (not_or.mpr ⟨same, by simp [h'.isDynamic]⟩)] at cast
        dsimp only at cast
        split at cast
        · rename_i null
          cases cast
          refine ⟨_, _, .constant kind kind value' value', .inl rfl, .inr ?_, ?_⟩
          · rintro v _ ⟨rfl, -⟩
            exact Value.eq_null_of_isNull null
          · rintro v _ - ⟨rfl, rfl⟩
            exact .kept _
        · unfold castConstant at cast
          split at cast <;> cases cast
          refine ⟨_, _, .constant kind wanted value' _, .inr rfl, .inl rfl, ?_⟩
          rintro v _ conforms ⟨rfl, rfl⟩
          exact h.converted h' rank rank' le conforms ‹_›
      | _ => cases constant
    | none =>
      have guids : isStringWithGuid t.kind wanted = false := by
        rcases h'.eq_or with rfl | ⟨k, rfl⟩ <;> cases t.kind <;> rfl
      rw [cast_of_constant?_eq_none constant, if_neg] at cast
      · cases cast
        exact ⟨_, _, .convert wanted t, .inr rfl, .inl rfl, fun v w conforms converts =>
          h.converted h' rank rank' le conforms converts⟩
      · simp [same, h'.isDynamic, guids]

/-- Of two numbers at most one is cast, to the kind of the other. -/
inductive Meet (l r : Target) : Target → Target → Prop where
  | same (kinds : l.kind = r.kind) : Meet l r l r
  | left {l₁ : Target} {m n : Nat} (rank : l.kind.rank? = some m) (rank' : r.kind.rank? = some n)
    (le : m ≤ n) (cast : l.cast r.kind = .ok l₁) : Meet l r l₁ r
  | right {r₁ : Target} {m n : Nat} (rank : l.kind.rank? = some m) (rank' : r.kind.rank? = some n)
    (le : n ≤ m) (cast : r.cast l.kind = .ok r₁) : Meet l r l r₁

theorem meet_of_makeComparable (made : l.makeComparable r = .ok (l₁, r₁)) (h : l.kind.IsPrecise)
    (h' : r.kind.IsPrecise) : Meet l r l₁ r₁ := by
  cases compares_of_makeComparable made with
  | unchanged kinds =>
    rcases kinds with same | dynamic | dynamic | rigid
    · exact .same same
    · cases h.isDynamic.symm.trans dynamic
    · cases h'.isDynamic.symm.trans dynamic
    · exact absurd ⟨h.isCastable, h'.isCastable⟩ rigid
  | left rank rank' less cast => exact .left rank rank' (Nat.le_of_lt less) cast
  | right rank rank' less cast => exact .right rank rank' less cast
  | leftElement items =>
    rcases h'.eq_or with known | ⟨k, known⟩ <;> cases known.symm.trans items
  | rightElement items =>
    rcases h.eq_or with known | ⟨k, known⟩ <;> cases known.symm.trans items

/-! ## Comparisons and calculations -/

/-- A comparison of numbers does not notice that they have been cast. -/
theorem Concurs.compare (compares : isComparison op) (h : Concurs known ρ l l')
    (h' : Concurs known ρ r r') (made : l.makeComparable r = .ok (l₁, r₁))
    (precise : l.kind.IsPrecise) (precise' : r.kind.IsPrecise)
    (conforms : ∀ v, l.MayGive known v → v.Conforms l.kind)
    (conforms' : ∀ v, r.MayGive known v → v.Conforms r.kind) (kind kind' : Kind) :
    Concurs known ρ (.binary kind op l₁ r₁) (.binary kind' op l' r') := by
  have strict : op.isConnective = false := by cases op <;> first | rfl | cases compares
  cases meet_of_makeComparable made precise precise' with
  | same =>
    refine .binary kind kind' strict h (.same l) (.same l') h' (.same r) (.same r') ?_
    rintro x y _ _ _ _ v v' given given' rfl rfl rfl rfl ok ok'
    exact comparison_eq compares (.inl rfl) (.kept x) (.kept y) nofun nofun ok ok'
  | left rank rank' le cast =>
    obtain ⟨F, c, change, only, -, converted⟩ :=
      exists_converted cast precise precise' rank rank' le
    refine .binary kind kind' strict h change (.same l') h' (.same r) (.same r') ?_
    rintro x y x₁ _ _ _ v v' given given' comes rfl rfl rfl ok ok'
    refine comparison_eq compares (.inr rfl) (converted x x₁ (conforms x given) comes) (.kept y)
      nofun ?_ ok ok'
    rintro rfl
    have double := Conversion.eq_double_of_to (only.resolve_left nofun).symm
    exact toInt?_eq_none_of_conforms (double ▸ conforms' y given')
  | right rank rank' le cast =>
    obtain ⟨F, c, change, only, -, converted⟩ :=
      exists_converted cast precise' precise rank' rank le
    refine .binary kind kind' strict h (.same l) (.same l') h' change (.same r') ?_
    rintro x y _ y₁ _ _ v v' given given' rfl comes rfl rfl ok ok'
    refine comparison_eq compares (.inl rfl) (.kept x) (converted y y₁ (conforms' y given') comes)
      ?_ nofun ok ok'
    rintro rfl
    have double := Conversion.eq_double_of_to (only.resolve_left nofun).symm
    exact toInt?_eq_none_of_conforms (double ▸ conforms x given)

/-- A calculation with numbers does not notice that they have been cast and that its result is asked
for as one of the more precise kind. -/
theorem Concurs.calculate (arithmetic : isArithmetic op) (h : Concurs known ρ l l')
    (h' : Concurs known ρ r r') (made : l.makeComparable r = .ok (l₁, r₁))
    (precise : l.kind.IsPrecise) (precise' : r.kind.IsPrecise)
    (conforms : ∀ v, l.MayGive known v → v.Conforms l.kind)
    (conforms' : ∀ v, r.MayGive known v → v.Conforms r.kind) :
    Concurs known ρ (.binary l₁.kind op l₁ r₁) (.binary .any op l' r') := by
  have strict : op.isConnective = false := by cases op <;> first | rfl | cases arithmetic
  cases meet_of_makeComparable made precise precise' with
  | same kinds =>
    obtain ⟨m, rank⟩ := Option.isSome_iff_exists.mp precise.isCastable
    refine .binary _ .any strict h (.same l) (.same l') h' (.same r) (.same r') ?_
    rintro x y _ _ _ _ v v' given given' rfl rfl rfl rfl ok ok'
    exact calculate_left arithmetic precise precise rank rank (Nat.le_refl m) (conforms x given)
      (kinds ▸ conforms' y given') (.inl rfl) (.kept x) ok ok'
  | left rank rank' le cast =>
    obtain ⟨F, c, change, only, kind, converted⟩ :=
      exists_converted cast precise precise' rank rank' le
    refine .binary _ .any strict h change (.same l') h' (.same r) (.same r') ?_
    rintro x y x₁ _ _ _ v v' given given' comes rfl rfl rfl ok ok'
    have number := converted x x₁ (conforms x given) comes
    rcases kind with same | null
    · rw [same] at ok
      exact calculate_left arithmetic precise precise' rank rank' le (conforms x given)
        (conforms' y given') only number ok ok'
    · -- Whatever is calculated with null is null.
      obtain rfl := null x x₁ comes
      obtain rfl : x₁ = .null := by
        cases number with
        | kept | null => rfl
        | double same => cases same
      rw [binary_of_isArithmetic arithmetic] at ok ok'
      cases ok
      cases ok'
      rfl
  | right rank rank' le cast =>
    obtain ⟨F, c, change, only, -, converted⟩ :=
      exists_converted cast precise' precise rank' rank le
    refine .binary _ .any strict h (.same l) (.same l') h' change (.same r') ?_
    rintro x y _ y₁ _ _ v v' given given' rfl comes rfl rfl ok ok'
    exact calculate_right arithmetic precise' precise rank' rank le (conforms' y given')
      (conforms x given) only (converted y y₁ (conforms' y given') comes) ok ok'

/-! ## Collections -/

/-- Of which kind a sum is asked for makes no difference if all items are of this kind and there is
one, or if the kind is that of a sum of nothing. -/
theorem Concurs.sum {kind : Kind} (summed : IsSummed kind) (h : Concurs known ρ s s')
    (conform : ∀ item, s.MayList known item → item.Conforms kind)
    (some : kind = .integer .int ∨ ∀ items, s.MayGive known (.array items) →
      ∃ item ∈ items, item.isNull = false) :
    Concurs known ρ (.reduce kind .sum s) (.reduce .any .sum s') := by
  refine .reduce kind .any .sum h fun items v v' given ok ok' => ?_
  have same : Evaluation.reduce kind .sum items = Evaluation.reduce .any .sum items := by
    refine sum_eq_any summed
      (fun item mem => conform item ⟨items, given, (List.mem_filter.mp mem).1⟩) ?_
    rcases some with int | some
    · exact .inr int
    · obtain ⟨item, mem, present⟩ := some items given
      refine .inl (List.ne_nil_of_mem (List.mem_filter.mpr ⟨mem, ?_⟩))
      rw [present]
      rfl
  exact Except.ok.inj (ok.symm.trans (same.trans ok'))

/-- A function of each item is that of the array, as long as the default that a guard has for null
is null or never needed. -/
theorem Concurs.items {f : ItemFunction} {a b c : String} (kind kind' own own' own'' : Kind)
    {result result' : Kind} (h : Concurs known ρ t u) (absent : result'.default = .null)
    (there : result.default = .null ∨ ∀ item, t.MayList known item → item.isNull = false) :
    Concurs known ρ
      (.map kind t a (.guard result (.parameter own a) b (f.on result (.parameter own' b))))
      (.guard kind' u c (f.on result' (.parameter own'' c))) := by
  refine .changed h (.map kind own t a (.guard f result result own' (.parameter own a) b))
    (.guard f kind' result' own'' u c) ?_
  rintro v w w' given (⟨rfl, rfl⟩ | ⟨items, values, rfl, rfl, each⟩) comes
  · exact absent.symm.trans comes.symm
  · have known : ∀ item ∈ items, result.default = .null ∨ item.isNull = false :=
      fun item mem => there.imp_right fun there => there item ⟨items, given, mem⟩
    have applied : List.Forall₂ (fun v w => f.apply v = .ok w) items values := by
      refine ((List.forall₂_and_left items values).mpr ⟨known, each⟩).imp ?_
      rintro v w ⟨there, comes⟩
      cases null : v.isNull with
      | true =>
        obtain rfl := Value.eq_null_of_isNull null
        rw [show w = result.default from comes, there.resolve_right nofun]
        exact f.apply_null
      | false =>
        rw [null] at comes
        exact comes
    have comes : f.apply (.array items) = .ok w' := comes
    exact Except.ok.inj ((f.apply_of_forall₂ applied).symm.trans comes)

end Target

end PredicateLang
