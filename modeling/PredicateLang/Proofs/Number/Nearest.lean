import Mathlib.Tactic.Positivity
import PredicateLang.Proofs.Number.Bits

/-!
# The nearest double of a decimal

`ofDecimal` gives the double in whose interval a decimal lies. Core's model multiplies by the power
of ten exactly, or divides by it far enough, and rounds once. Decimals that are decided without
being computed are not in the interval of any double other than zero.
-/

open Float.Model Float.Model.UnpackedFloat

namespace PredicateLang.Number

variable {m M k : Nat} {e E : Int} {z : ℚ}

/-! ## Powers of ten -/

/-- A mantissa has bits enough if it is not below the power of two. -/
theorem enough_bits (h : 2 ^ 53 ≤ m) (e : Int) :
    e ≤ Format.binary64.targetExponent (totalExponent m e) := by
  have ne : m ≠ 0 := by
    rintro rfl
    norm_num at h
  have bits : 53 ≤ m.log2 := (Nat.le_log2 ne).mpr h
  rw [target_eq, totalExponent]
  omega

/-- A product is exact. -/
theorem ofScientific_mul (pos : 0 < m) (double : IsDouble M E)
    (inside : Inside M (isNarrow M E) z) (same : (m : ℚ) * 10 ^ k = z * 2 ^ E) :
    roundWithAccuracy .binary64 .positive (m <<< 53 * 10 ^ k) (-53 + 0) .exact
      = .finite .positive M E double.pos := by
  have value : m <<< 53 * 10 ^ k = m * 10 ^ k * 2 ^ 53 := by
    rw [Nat.shiftLeft_eq, Nat.mul_right_comm]
  rw [value]
  have near : Near (m * 10 ^ k * 2 ^ 53) .exact ((m : ℚ) * 10 ^ k * 2 ^ 53) := by
    rw [Near]
    push_cast
    rfl
  have scaled : (m : ℚ) * 10 ^ k * 2 ^ 53 * 2 ^ (-53 + 0 : Int) = z * 2 ^ E := by
    rw [← same, mul_assoc, show (2 : ℚ) ^ 53 * 2 ^ (-53 + 0 : Int) = 1 by norm_num, mul_one]
  refine round_interval double inside near scaled (enough_bits ?_ _)
  have : 1 ≤ m * 10 ^ k := Nat.mul_pos pos (Nat.pow_pos (by decide))
  exact Nat.le_mul_of_pos_left _ this

/-! ## Quotients -/

/-- What is left of a division says how far the quotient is from the exact one. -/
theorem near_div {a b : Nat} (pos : 0 < b) :
    Near (a / b) (accuracyOfFraction (a % b) b) ((a : ℚ) / b) := by
  have pos' : (0 : ℚ) < b := by exact_mod_cast pos
  have split : (a : ℚ) / b = (a / b : Nat) + ((a % b : Nat) : ℚ) / b := by
    have : (a : ℚ) = b * (a / b : Nat) + (a % b : Nat) := by exact_mod_cast (Nat.div_add_mod a b).symm
    rw [this]
    field_simp
  have lt : ((a % b : Nat) : ℚ) / b < 1 := by
    rw [div_lt_one pos']
    exact_mod_cast Nat.mod_lt a pos
  rw [split]
  generalize a / b = q
  generalize a % b = r at lt
  rw [accuracyOfFraction]
  split
  · rename_i zero
    simp [zero, Near]
  · rename_i nonzero
    have some_rest : (0 : ℚ) < r / b := by
      have : (0 : ℚ) < r := by exact_mod_cast Nat.pos_of_ne_zero nonzero
      positivity
    rcases lt_trichotomy (2 * r) b with below | middle | above
    · rw [Nat.compare_eq_lt.mpr below]
      have : (r : ℚ) / b < 1 / 2 := by
        rw [div_lt_div_iff₀ pos' (by norm_num)]
        have : (2 : ℚ) * r < b := by exact_mod_cast below
        linarith
      exact ⟨by linarith, by linarith⟩
    · rw [Nat.compare_eq_eq.mpr middle]
      have : (r : ℚ) / b = 1 / 2 := by
        rw [div_eq_div_iff pos'.ne' (by norm_num)]
        have : (2 : ℚ) * r = b := by exact_mod_cast middle
        linarith
      show (q : ℚ) + r / b = q + 1 / 2
      rw [this]
    · rw [Nat.compare_eq_gt.mpr above]
      have : 1 / 2 < (r : ℚ) / b := by
        rw [div_lt_div_iff₀ (by norm_num) pos']
        have : (b : ℚ) < 2 * r := by exact_mod_cast above
        linarith
      exact ⟨by linarith, by linarith⟩

/-- A quotient of shifted numbers has as many bits as the difference of theirs leaves. -/
theorem le_log2_div {a b s : Nat} (pos : 0 < a) (pos' : 0 < b) :
    (a.log2 : Int) - b.log2 - 1 + s ≤ (a * 2 ^ s / b).log2 := by
  by_cases few : (a.log2 : Int) - b.log2 - 1 + s < 0
  · omega
  · obtain ⟨j, bits⟩ : ∃ j : Nat, j + (b.log2 + 1) = a.log2 + s :=
      ⟨((a.log2 : Int) - b.log2 - 1 + s).toNat, by omega⟩
    have below : b < 2 ^ (b.log2 + 1) := Nat.lt_log2_self
    have above : 2 ^ a.log2 ≤ a := Nat.log2_self_le pos.ne'
    have le : 2 ^ j ≤ a * 2 ^ s / b := by
      rw [Nat.le_div_iff_mul_le pos']
      calc 2 ^ j * b ≤ 2 ^ j * 2 ^ (b.log2 + 1) := Nat.mul_le_mul_left _ below.le
        _ = 2 ^ a.log2 * 2 ^ s := by rw [← pow_add, bits, pow_add]
        _ ≤ a * 2 ^ s := Nat.mul_le_mul_right _ above
    have ne : a * 2 ^ s / b ≠ 0 := (Nat.lt_of_lt_of_le (Nat.two_pow_pos j) le).ne'
    have := (Nat.le_log2 ne).mpr le
    omega

/-- A quotient is cut off far enough. -/
theorem ofScientific_div {b : Nat} (pos : 0 < m) (pos' : 0 < b) (double : IsDouble M E)
    (inside : Inside M (isNarrow M E) z) (same : (m : ℚ) / b = z * 2 ^ E) :
    roundWithAccuracy .binary64 .positive (divCore .binary64 m 0 b 0).1
        (divCore .binary64 m 0 b 0).2.1 (divCore .binary64 m 0 b 0).2.2
      = .finite .positive M E double.pos := by
  obtain ⟨s, target, core⟩ : ∃ s : Nat,
      min 0 (max ((m.log2 : Int) - b.log2 - 53) (-1074)) = -(s : Int)
        ∧ divCore .binary64 m 0 b 0
          = (m <<< s / b, -(s : Int), accuracyOfFraction (m <<< s % b) b) := by
    have same_target : min (0 - 0) (Format.binary64.targetExponent
        (totalExponent m 0 - totalExponent b 0))
          = min 0 (max ((m.log2 : Int) - b.log2 - 53) (-1074)) := by
      rw [target_eq, totalExponent, totalExponent]
      omega
    refine ⟨(-min 0 (max ((m.log2 : Int) - b.log2 - 53) (-1074))).toNat, by omega, ?_⟩
    rw [divCore, same_target]
    rw [show (0 - 0 : Int) - min 0 (max ((m.log2 : Int) - b.log2 - 53) (-1074))
      = -min 0 (max ((m.log2 : Int) - b.log2 - 53) (-1074)) by omega]
    congr 2
    omega
  rw [core, Nat.shiftLeft_eq]
  have near : Near (m * 2 ^ s / b) (accuracyOfFraction (m * 2 ^ s % b) b)
      (((m * 2 ^ s : Nat) : ℚ) / b) := near_div pos'
  have scaled : ((m * 2 ^ s : Nat) : ℚ) / b * 2 ^ (-(s : Int)) = z * 2 ^ E := by
    rw [← same, zpow_neg, zpow_natCast]
    push_cast
    field_simp
  refine round_interval double inside near scaled ?_
  have bits : (m.log2 : Int) - b.log2 - 1 + s ≤ (m * 2 ^ s / b).log2 := le_log2_div pos pos'
  show -(s : Int) ≤ Format.binary64.targetExponent (totalExponent (m * 2 ^ s / b) (-(s : Int)))
  rw [target_eq, totalExponent]
  omega

/-- The model gives the double in whose interval the decimal is. -/
theorem ofScientific_eq (pos : 0 < m) (high : e ≤ 2048) (low : -(2048 + (m.log2 : Int)) ≤ e)
    (double : IsDouble M E) (inside : Inside M (isNarrow M E) z)
    (same : (m : ℚ) * 10 ^ e = z * 2 ^ E) :
    UnpackedFloat.ofScientific .binary64 m e = .finite .positive M E double.pos := by
  rw [UnpackedFloat.ofScientific, dif_neg pos.ne', if_neg (by norm_num; exact high),
    if_neg (by norm_num; omega)]
  split
  · rename_i sign
    lift e to Nat using sign
    exact ofScientific_mul pos double inside (by exact_mod_cast same)
  · rename_i sign
    obtain ⟨k, rfl⟩ : ∃ k : Nat, e = -(k : Int) := ⟨e.natAbs, by omega⟩
    have whole : (-(-(k : Int))).toNat = k := by omega
    have quotient : (m : ℚ) / (10 ^ (-(-(k : Int))).toNat : Nat) = z * 2 ^ E := by
      rw [whole, ← same, zpow_neg, zpow_natCast, div_eq_mul_inv]
      push_cast
      rfl
    exact ofScientific_div pos (Nat.pow_pos (by decide)) double inside quotient

/-! ## Numerals -/

section Digits

variable {digits : Nat} {exponent : Int}

theorem lt_ten_pow (digits : Nat) : digits < 10 ^ (Nat.toDigits 10 digits).length :=
  (Nat.length_toDigits_le_iff (by norm_num) Nat.length_toDigits_pos).mp le_rfl

theorem ten_pow_le (pos : 0 < digits) : 10 ^ ((Nat.toDigits 10 digits).length - 1) ≤ digits := by
  by_cases single : (Nat.toDigits 10 digits).length = 1
  · rw [single]
    exact pos
  · have several : 0 < (Nat.toDigits 10 digits).length := Nat.length_toDigits_pos
    have not_shorter : ¬(Nat.toDigits 10 digits).length ≤ (Nat.toDigits 10 digits).length - 1 := by
      omega
    exact not_lt.mp fun lt => not_shorter
      ((Nat.length_toDigits_le_iff (by norm_num) (by omega)).mpr lt)

theorem length_toDigits_le (digits : Nat) : (Nat.toDigits 10 digits).length ≤ digits.log2 + 1 := by
  refine (Nat.length_toDigits_le_iff (by norm_num) (by omega)).mpr ?_
  calc digits < 2 ^ (digits.log2 + 1) := Nat.lt_log2_self
    _ ≤ 10 ^ (digits.log2 + 1) := Nat.pow_le_pow_left (by norm_num) _

theorem ten_zpow_le {a b : Int} (h : a ≤ b) : (10 : ℚ) ^ a ≤ 10 ^ b :=
  zpow_le_zpow_right₀ (by norm_num) h

theorem two_zpow_le_ten : (2 : ℚ) ^ (1075 : Int) ≤ 10 ^ (400 : Int) :=
  calc (2 : ℚ) ^ (1075 : Int) ≤ 2 ^ (3 * 400 : Int) := two_zpow_le (by norm_num)
    _ = (2 ^ (3 : Int)) ^ (400 : Int) := zpow_mul _ _ _
    _ ≤ 10 ^ (400 : Int) := zpow_le_zpow_left₀ (by norm_num) (by norm_num) (by norm_num)

/-- A decimal in the interval of a double is neither very small nor very large. -/
theorem magnitude_bounds (double : IsDouble M E) (inside : Inside M (isNarrow M E) z)
    (same : (digits : ℚ) * 10 ^ exponent = z * 2 ^ E) :
    0 < digits ∧ -400 ≤ exponent + (Nat.toDigits 10 digits).length
      ∧ exponent + (Nat.toDigits 10 digits).length ≤ 400 := by
  have one_le : (1 : ℚ) ≤ M := by exact_mod_cast double.pos
  have unit : (0 : ℚ) < 2 ^ E := two_zpow_pos E
  have ten : (0 : ℚ) < 10 ^ exponent := zpow_pos (by norm_num) exponent
  have low : (2 : ℚ) ^ (-1075 : Int) ≤ z * 2 ^ E := by
    have half : (2 : ℚ) ^ (-1 : Int) ≤ z := by
      have := inside.roundsTo.low
      norm_num
      linarith
    calc (2 : ℚ) ^ (-1075 : Int) ≤ 2 ^ (-1 + E) := two_zpow_le (by have := double.least; omega)
      _ = 2 ^ (-1 : Int) * 2 ^ E := two_zpow_add _ _
      _ ≤ z * 2 ^ E := mul_le_mul_of_nonneg_right half unit.le
  have high : z * 2 ^ E < 2 ^ (1024 : Int) := by
    have whole : z < 2 ^ (53 : Int) := by
      have : (M : ℚ) + 1 ≤ 2 ^ 53 := by exact_mod_cast double.lt
      have := inside.high
      norm_num at *
      linarith
    calc z * 2 ^ E < 2 ^ (53 : Int) * 2 ^ E := mul_lt_mul_of_pos_right whole unit
      _ = 2 ^ (53 + E) := (two_zpow_add _ _).symm
      _ ≤ 2 ^ (1024 : Int) := two_zpow_le (by have := double.most; omega)
  have pos : 0 < digits := by
    rw [Nat.pos_iff_ne_zero]
    rintro rfl
    have : (0 : ℚ) < 2 ^ (-1075 : Int) := two_zpow_pos _
    rw [Nat.cast_zero, zero_mul] at same
    linarith
  refine ⟨pos, ?_, ?_⟩
  · by_contra small
    have below : (digits : ℚ) * 10 ^ exponent < 10 ^ (-400 : Int) := by
      have : (digits : ℚ) < 10 ^ (Nat.toDigits 10 digits).length := by
        exact_mod_cast lt_ten_pow digits
      calc (digits : ℚ) * 10 ^ exponent
          < 10 ^ (Nat.toDigits 10 digits).length * 10 ^ exponent := mul_lt_mul_of_pos_right this ten
        _ = 10 ^ (((Nat.toDigits 10 digits).length : Int) + exponent) := by
          rw [zpow_add₀ (by norm_num), zpow_natCast]
        _ ≤ 10 ^ (-400 : Int) := ten_zpow_le (by omega)
    have : (10 : ℚ) ^ (-400 : Int) ≤ 2 ^ (-1075 : Int) := by
      rw [zpow_neg, zpow_neg]
      exact inv_anti₀ (two_zpow_pos _) two_zpow_le_ten
    exact absurd (low.trans_lt (same ▸ below)) (not_lt.mpr this)
  · by_contra large
    have above : (10 : ℚ) ^ (400 : Int) ≤ digits * 10 ^ exponent := by
      have : (10 : ℚ) ^ ((Nat.toDigits 10 digits).length - 1) ≤ digits := by
        exact_mod_cast ten_pow_le pos
      have several : 0 < (Nat.toDigits 10 digits).length := Nat.length_toDigits_pos
      calc (10 : ℚ) ^ (400 : Int)
          ≤ 10 ^ ((((Nat.toDigits 10 digits).length - 1 : Nat) : Int) + exponent) :=
            ten_zpow_le (by omega)
        _ = 10 ^ ((Nat.toDigits 10 digits).length - 1) * 10 ^ exponent := by
          rw [zpow_add₀ (by norm_num), zpow_natCast]
        _ ≤ digits * 10 ^ exponent := mul_le_mul_of_nonneg_right this ten.le
    have : (2 : ℚ) ^ (1024 : Int) ≤ 10 ^ (400 : Int) :=
      (two_zpow_le (by norm_num)).trans two_zpow_le_ten
    exact absurd (above.trans_lt (same ▸ high)) (not_lt.mpr this)

/-- A decimal is read as the double in whose interval it lies. -/
theorem ofDecimal_eq (double : IsDouble M E) (inside : Inside M (isNarrow M E) z)
    (same : (digits : ℚ) * 10 ^ exponent = z * 2 ^ E) :
    ofDecimal false digits exponent = ofParts .positive M E double.pos := by
  obtain ⟨pos, low, high⟩ := magnitude_bounds double inside same
  have few := length_toDigits_le digits
  have some_digit : 0 < (Nat.toDigits 10 digits).length := Nat.length_toDigits_pos
  have rounded := ofScientific_eq pos (by omega) (by omega) double inside same
  rw [ofDecimal, if_neg Bool.false_ne_true, if_neg (by omega), if_neg (by omega)]
  show Float.ofModel (.pack (UnpackedFloat.ofScientific .binary64 digits exponent)) = _
  rw [rounded]
  rfl

end Digits

end PredicateLang.Number
