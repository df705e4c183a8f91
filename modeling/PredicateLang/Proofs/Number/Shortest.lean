import Mathlib.Algebra.Order.Field.Power
import PredicateLang.Number.Shortest
import PredicateLang.Proofs.Number.Rounding

/-!
# The digits that are chosen identify the number

The search for the fewest digits compares decimals with the ends of an interval by exact arithmetic
on natural numbers. Here these comparisons are read as comparisons of rational numbers: whatever
the search gives lies in the interval of the reals that round to the number.
-/

namespace PredicateLang.Number

variable {a b M : Nat} {i j E : Int} {narrow : Bool} {d : Scientific} {tie : Tie}

/-! ## Comparing powers of ten and two -/

/-- Both sides of the comparison on natural numbers are multiplied by one number. -/
theorem scaled_sides (a b : Nat) (i j : Int) :
    ∃ c : ℚ, 0 < c
      ∧ ((a * Nat.pow 10 i.toNat * Nat.pow 2 (-j).toNat : Nat) : ℚ) = a * 10 ^ i * c
      ∧ ((b * Nat.pow 2 j.toNat * Nat.pow 10 (-i).toNat : Nat) : ℚ) = b * 2 ^ j * c := by
  have split : ∀ (base : ℚ) (k : Int), base ≠ 0 → base ^ k.toNat = base ^ k * base ^ (-k).toNat := by
    intro base k ne
    rw [← zpow_natCast, ← zpow_natCast, ← zpow_add₀ ne]
    congr 1
    omega
  refine ⟨10 ^ (-i).toNat * 2 ^ (-j).toNat, by positivity, ?_, ?_⟩
  · rw [Nat.pow_eq, Nat.pow_eq]
    push_cast
    rw [split 10 i (by norm_num)]
    ring
  · rw [Nat.pow_eq, Nat.pow_eq]
    push_cast
    rw [split 2 j (by norm_num)]
    ring

theorem compareScaled_lt : compareScaled a i b j = .lt ↔ (a : ℚ) * 10 ^ i < b * 2 ^ j := by
  obtain ⟨c, pos, left, right⟩ := scaled_sides a b i j
  rw [compareScaled, Nat.compare_eq_lt, ← Nat.cast_lt (α := ℚ), left, right,
    mul_lt_mul_iff_of_pos_right pos]

theorem compareScaled_gt : compareScaled a i b j = .gt ↔ (b : ℚ) * 2 ^ j < a * 10 ^ i := by
  obtain ⟨c, pos, left, right⟩ := scaled_sides a b i j
  rw [compareScaled, Nat.compare_eq_gt, ← Nat.cast_lt (α := ℚ), left, right,
    mul_lt_mul_iff_of_pos_right pos]

theorem compareScaled_eq : compareScaled a i b j = .eq ↔ (a : ℚ) * 10 ^ i = b * 2 ^ j := by
  obtain ⟨c, pos, left, right⟩ := scaled_sides a b i j
  rw [compareScaled, Nat.compare_eq_eq, ← Nat.cast_inj (R := ℚ), left, right,
    mul_left_inj' pos.ne']

/-! ## The search -/

namespace Scientific

/-- The number that the digits and the exponent stand for. -/
def value (d : Scientific) : ℚ := d.digits * 10 ^ d.exponent

/-- The decimal lies in the interval around a significand and an exponent. -/
def IsInside (d : Scientific) (M : Nat) (E : Int) (narrow : Bool) : Prop :=
  ∃ z, Inside M narrow z ∧ d.value = z * 2 ^ E

/-- The ends of the interval are tested in quarters of the last bit. -/
theorem quarters (n : Nat) (E : Int) : (n : ℚ) * 2 ^ (E - 2) = n / 4 * 2 ^ E := by
  rw [zpow_sub₀ (by norm_num)]
  norm_num
  ring

theorem isInside_of_identifies (pos : 0 < M) (h : d.identifies M E narrow) :
    d.IsInside M E narrow := by
  have unit : (0 : ℚ) < 2 ^ E := two_zpow_pos E
  have low : (((if narrow then 4 * M - 1 else 4 * M - 2 : Nat) : ℚ)) / 4 = lowEnd M narrow := by
    cases narrow
    · rw [if_neg Bool.false_ne_true, lowEnd, if_neg Bool.false_ne_true, Nat.cast_sub (by omega)]
      push_cast
      ring
    · rw [if_pos rfl, lowEnd, if_pos rfl, Nat.cast_sub (by omega)]
      push_cast
      ring
  have high : ((4 * M + 2 : Nat) : ℚ) / 4 = M + 1 / 2 := by
    push_cast
    ring
  obtain ⟨z, scaled⟩ : ∃ z, d.value = z * 2 ^ E := ⟨d.value / 2 ^ E, by field_simp⟩
  refine ⟨z, ?_, scaled⟩
  simp only [identifies, Bool.and_eq_true, Bool.or_eq_true, beq_iff_eq, compareScaled_lt,
    compareScaled_gt, compareScaled_eq, quarters, low, high] at h
  rw [← value, scaled, mul_lt_mul_iff_of_pos_right unit, mul_lt_mul_iff_of_pos_right unit,
    mul_left_inj' unit.ne', mul_left_inj' unit.ne'] at h
  obtain ⟨below, above⟩ := h
  refine ⟨?_, ?_, ?_⟩
  · rcases below with lt | ⟨-, eq⟩
    · exact lt.le
    · exact eq.ge
  · rcases above with lt | ⟨-, eq⟩
    · exact lt.le
    · exact eq.le
  · rintro (end' | end')
    · rcases below with lt | ⟨even, -⟩
      · exact absurd end' lt.ne'
      · exact even
    · rcases above with lt | ⟨even, -⟩
      · exact absurd end' lt.ne
      · exact even

/-- Moving zeros into the exponent changes nothing. -/
theorem value_stripZeros (fuel : Nat) (d : Scientific) : (stripZeros fuel d).value = d.value := by
  fun_induction stripZeros fuel d with
  | case1 => rfl
  | case2 fuel d zeros ih =>
    rw [Bool.and_eq_true, beq_iff_eq] at zeros
    rw [ih, value, value]
    have tens : ((d.digits / 10 : Nat) : ℚ) * 10 = d.digits := by
      have : d.digits / 10 * 10 = d.digits := by omega
      exact_mod_cast this
    dsimp only
    rw [zpow_add₀ (by norm_num), zpow_one, ← tens]
    ring
  | case3 => rfl

/-- The exact value lies in its interval. -/
theorem isInside_exact (M : Nat) (E : Int) (narrow : Bool) : (exact M E).IsInside M E narrow := by
  refine ⟨M, ⟨?_, ?_, ?_⟩, ?_⟩
  · cases narrow <;> rw [lowEnd] <;> simp
  · simp
  · rintro (low | high)
    · cases narrow <;> norm_num [lowEnd] at low <;> linarith
    · norm_num at high
  · rw [exact, value]
    split
    · rename_i negative
      obtain ⟨k, rfl⟩ : ∃ k : Nat, E = -(k : Int) := ⟨E.natAbs, by omega⟩
      have ten : (10 : ℚ) ^ k = 5 ^ k * 2 ^ k := by rw [← mul_pow]; norm_num
      simp only [Int.natAbs_neg, Int.natAbs_natCast, zpow_neg, zpow_natCast, Nat.pow_eq]
      push_cast
      rw [ten]
      field_simp
    · rename_i nonnegative
      lift E to Nat using by omega
      simp

theorem identifies_of_onGrid {grid : Int} (h : onGrid? tie M E narrow grid = some d) :
    d.identifies M E narrow := by
  unfold onGrid? at h
  dsimp only at h
  split at h
  · cases h
  · rename_i lower _
    cases h
    exact lower
  · rename_i _ upper
    cases h
    exact upper
  · rename_i lower upper
    split at h
    · cases h
      exact lower
    · cases h
      exact upper
    · split at h <;> cases h
      · exact lower
      · exact upper

/-- The digits that are chosen lie in the interval. -/
theorem isInside_shortest (pos : 0 < M) : (shortest tie M E narrow).IsInside M E narrow := by
  rw [shortest, if_neg pos.ne']
  dsimp only
  rw [IsInside, value_stripZeros]
  cases found : (List.range 17).findSome? fun (n : Nat) => onGrid? tie M E narrow
      (leadingPower M E 4 ((M.log2 + E) * 30103 / 100000) - 1 - n) with
  | none => exact isInside_exact M E narrow
  | some d =>
    obtain ⟨n, -, grid⟩ := List.exists_of_findSome?_eq_some found
    exact isInside_of_identifies pos (identifies_of_onGrid grid)

end Scientific

end PredicateLang.Number
