import Mathlib.Data.Rat.Cast.Order
import Mathlib.Tactic.FieldSimp
import Mathlib.Tactic.Linarith
import Mathlib.Tactic.Ring

/-!
# Rounding to double precision

The numbers of double precision are products `M * 2 ^ E`, and each is the result of rounding the
numbers of an interval around it. `round_interval` says that rounding in core's model of floating
point gives `M * 2 ^ E` for every number of that interval. A number is given to the model as a
mantissa and what is known of the rest, which is less than the last bit of the mantissa; `Near` is
the meaning of that. At a power of two the interval reaches below the binade of the number, where
the bits are worth half as much: there the model carries, and shifts once more.
-/

open Float.Model Float.Model.UnpackedFloat

namespace PredicateLang.Number

/-! ## What a mantissa stands for -/

/-- The mantissa and the accuracy of what is cut off stand for a number. -/
def Near (m : Nat) : Accuracy → ℚ → Prop
  | .exact, y => y = m
  | .inexact .lt, y => m < y ∧ y < m + 1 / 2
  | .inexact .eq, y => y = m + 1 / 2
  | .inexact .gt, y => m + 1 / 2 < y ∧ y < m + 1

variable {m M : Nat} {e E : Int} {accuracy : Accuracy} {x y : ℚ} {em : ExtendedMantissa}

theorem Near.bounds (h : Near m accuracy y) : (m : ℚ) ≤ y ∧ y < m + 1 := by
  match accuracy, h with
  | .exact, h => rw [Near] at h; constructor <;> linarith
  | .inexact .lt, h => exact ⟨h.1.le, by linarith [h.2]⟩
  | .inexact .eq, h => rw [Near] at h; constructor <;> linarith
  | .inexact .gt, h => exact ⟨by linarith [h.1], h.2⟩

/-- One bit less halves the number. -/
theorem near_shiftRightOne (h : Near em.mantissa em.accuracy y) :
    Near em.shiftRightOne.mantissa em.shiftRightOne.accuracy (y / 2) := by
  obtain ⟨m, roundBit, stickyBit⟩ := em
  obtain ⟨k, rfl | rfl⟩ := m.even_or_odd'
  · have half : 2 * k / 2 = k := by omega
    cases roundBit <;> cases stickyBit <;>
      simp [ExtendedMantissa.shiftRightOne, ExtendedMantissa.accuracy, Near, half] at h ⊢ <;>
      first | linarith | constructor <;> linarith
  · have half : (2 * k + 1) / 2 = k := by omega
    cases roundBit <;> cases stickyBit <;>
      simp [ExtendedMantissa.shiftRightOne, ExtendedMantissa.accuracy, Near, half] at h ⊢ <;>
      first | linarith | constructor <;> linarith

theorem near_shift (h : Near em.mantissa em.accuracy y) (n : Nat) :
    Near (em >>> n).mantissa (em >>> n).accuracy (y / 2 ^ n) := by
  induction n with
  | zero => simpa [HShiftRight.hShiftRight, Nat.repeat] using h
  | succ n ih =>
    have shifted := near_shiftRightOne ih
    rwa [div_div, ← pow_succ] at shifted

theorem near_ofMantissa (h : Near m accuracy y) :
    Near (ExtendedMantissa.ofMantissaAndAccuracy m accuracy).mantissa
      (ExtendedMantissa.ofMantissaAndAccuracy m accuracy).accuracy y := by
  match accuracy, h with
  | .exact, h => exact h
  | .inexact .lt, h => exact h
  | .inexact .eq, h => exact h
  | .inexact .gt, h => exact h

/-! ## Rounding to a whole number -/

/-- `M` is the nearest whole number; of two it is the even one. -/
structure RoundsTo (M : Nat) (y : ℚ) : Prop where
  low : M - 1 / 2 ≤ y
  high : y ≤ M + 1 / 2
  even : y = M - 1 / 2 ∨ y = M + 1 / 2 → M % 2 = 0

theorem RoundsTo.le {N : Nat} (h : RoundsTo M y) (h' : RoundsTo N y) : M ≤ N := by
  by_contra lt
  rw [not_le] at lt
  have apart : (N : ℚ) + 1 ≤ M := by exact_mod_cast lt
  have middle : y = N + 1 / 2 := by linarith [h.low, h'.high]
  have next : M = N + 1 := by
    have : (M : ℚ) ≤ N + 1 := by linarith [h.low, h'.high]
    have : M ≤ N + 1 := by exact_mod_cast this
    omega
  have := h'.even (.inr middle)
  have := h.even (.inl (by rw [next, middle]; push_cast; ring))
  omega

theorem RoundsTo.unique {N : Nat} (h : RoundsTo M y) (h' : RoundsTo N y) : M = N :=
  Nat.le_antisymm (h.le h') (h'.le h)

theorem roundsTo_near (h : Near m accuracy y) : RoundsTo (accuracy.roundToNearestEven m) y := by
  match accuracy, h with
  | .exact, h =>
    rw [Near] at h
    rw [Accuracy.roundToNearestEven]
    exact ⟨by linarith, by linarith, by rintro (h' | h') <;> linarith⟩
  | .inexact .lt, h =>
    rw [Accuracy.roundToNearestEven]
    exact ⟨by linarith [h.1], by linarith [h.2], by rintro (h' | h') <;> linarith [h.1, h.2]⟩
  | .inexact .gt, h =>
    rw [Accuracy.roundToNearestEven]
    obtain ⟨low, high⟩ := h
    refine ⟨?_, ?_, ?_⟩ <;> push_cast
    · linarith
    · linarith
    · rintro (h' | h') <;> linarith
  | .inexact .eq, h =>
    rw [Near] at h
    rw [Accuracy.roundToNearestEven]
    obtain even | odd := Nat.mod_two_eq_zero_or_one m
    · rw [even, Nat.add_zero]
      exact ⟨by linarith, h.le, fun _ => even⟩
    · rw [odd]
      refine ⟨?_, ?_, fun _ => by omega⟩ <;> push_cast <;> linarith

/-! ## The numbers of double precision -/

/-- A significand and an exponent as they are in double precision, zero apart. -/
structure IsDouble (M : Nat) (E : Int) : Prop where
  pos : 0 < M
  lt : M < 2 ^ 53
  least : -1074 ≤ E
  most : E ≤ 971
  normal : 2 ^ 52 ≤ M ∨ E = -1074

/-- Is the gap below narrow? So it is at the least significand, but not at the least exponent. -/
def isNarrow (M : Nat) (E : Int) : Bool := M = 2 ^ 52 && -1074 < E

/-- The lower end of the interval around `M`. -/
def lowEnd (M : Nat) (narrow : Bool) : ℚ := if narrow then M - 1 / 4 else M - 1 / 2

/-- The number lies in the interval around `M`, whose ends belong to it if `M` is even. -/
structure Inside (M : Nat) (narrow : Bool) (z : ℚ) : Prop where
  low : lowEnd M narrow ≤ z
  high : z ≤ M + 1 / 2
  ends : z = lowEnd M narrow ∨ z = M + 1 / 2 → M % 2 = 0

variable {z : ℚ} {sign : Sign}

theorem lowEnd_ge (M : Nat) (narrow : Bool) : (M : ℚ) - 1 / 2 ≤ lowEnd M narrow := by
  cases narrow
  · exact le_rfl
  · rw [lowEnd, if_pos rfl]
    linarith

theorem Inside.roundsTo (h : Inside M narrow z) : RoundsTo M z where
  low := (lowEnd_ge M narrow).trans h.low
  high := h.high
  even ends := by
    rcases ends with low | high
    · exact h.ends (.inl (le_antisymm (low.le.trans (lowEnd_ge M narrow)) h.low))
    · exact h.ends (.inr high)

/-! ## Rounding in the model -/

theorem target_eq (t : Int) : Format.binary64.targetExponent t = max (t - 53) (-1074) := rfl

theorem two_zpow_pos (a : Int) : (0 : ℚ) < 2 ^ a := zpow_pos (by norm_num) a

theorem two_zpow_lt {a b : Int} (h : (2 : ℚ) ^ a < 2 ^ b) : a < b :=
  (zpow_lt_zpow_iff_right₀ (by norm_num)).mp h

theorem two_zpow_le {a b : Int} (h : a ≤ b) : (2 : ℚ) ^ a ≤ 2 ^ b :=
  zpow_le_zpow_right₀ (by norm_num) h

theorem two_zpow_add (a b : Int) : (2 : ℚ) ^ (a + b) = 2 ^ a * 2 ^ b :=
  zpow_add₀ (by norm_num) a b

/-- The number is below the power of two that the bits of the mantissa lead to. -/
theorem Near.lt_total (h : Near m accuracy y) : y * 2 ^ e < 2 ^ totalExponent m e := by
  have above : (m : ℚ) + 1 ≤ 2 ^ (m.log2 + 1) := by exact_mod_cast Nat.lt_log2_self
  have pos : (0 : ℚ) < 2 ^ e := two_zpow_pos e
  have split : (2 : ℚ) ^ totalExponent m e = 2 ^ (m.log2 + 1) * 2 ^ e := by
    rw [totalExponent, two_zpow_add]
    norm_cast
  rw [split]
  exact mul_lt_mul_of_pos_right (h.bounds.2.trans_le above) pos

/-- It is not below half of that power. -/
theorem Near.total_le (h : Near m accuracy y) (pos : 0 < m) :
    (2 : ℚ) ^ (totalExponent m e - 1) ≤ y * 2 ^ e := by
  have below : (2 : ℚ) ^ m.log2 ≤ m := by exact_mod_cast Nat.log2_self_le (by omega)
  have unit : (0 : ℚ) ≤ 2 ^ e := (two_zpow_pos e).le
  have split : (2 : ℚ) ^ (totalExponent m e - 1) = 2 ^ m.log2 * 2 ^ e := by
    rw [totalExponent, show (m.log2 : Int) + 1 + e - 1 = m.log2 + e by omega, two_zpow_add]
    norm_cast
  rw [split]
  exact mul_le_mul_of_nonneg_right (below.trans h.bounds.1) unit

/-- The exponent of the first shift is that of the number, or the one below at a power of two. -/
theorem exponent_cases (double : IsDouble M E) (inside : Inside M (isNarrow M E) z)
    (near : Near m accuracy y) (same : y * 2 ^ e = z * 2 ^ E)
    (enough : e ≤ Format.binary64.targetExponent (totalExponent m e)) :
    Format.binary64.targetExponent (totalExponent m e) = E ∨
      Format.binary64.targetExponent (totalExponent m e) = E - 1 ∧ M = 2 ^ 52
        ∧ 2 ^ 52 - 1 / 4 ≤ z ∧ z < 2 ^ 52 := by
  have least := double.least
  have unit : (0 : ℚ) < 2 ^ E := two_zpow_pos E
  have below : y * 2 ^ e < 2 ^ totalExponent m e := near.lt_total
  rw [target_eq] at enough ⊢
  have le : max (totalExponent m e - 53) (-1074) ≤ E := by
    obtain rfl | pos := m.eq_zero_or_pos
    · have total : totalExponent 0 e = 1 + e := by simp [totalExponent]
      omega
    · have above := near.total_le (e := e) pos
      have high : z * 2 ^ E < 2 ^ (53 + E) := by
        have : (M : ℚ) + 1 / 2 < 2 ^ 53 := by
          have : (M : ℚ) + 1 ≤ 2 ^ 53 := by exact_mod_cast double.lt
          linarith
        rw [two_zpow_add]
        exact mul_lt_mul_of_pos_right (inside.high.trans_lt (by exact_mod_cast this)) unit
      have := two_zpow_lt (above.trans_lt (same ▸ high))
      omega
  by_cases eq : max (totalExponent m e - 53) (-1074) = E
  · exact .inl eq
  · right
    have low_z : z < 2 ^ 52 := by
      have : z * 2 ^ E < 2 ^ (52 + E) := same ▸ below.trans_le (two_zpow_le (by omega))
      rw [two_zpow_add] at this
      exact_mod_cast lt_of_mul_lt_mul_right this unit.le
    have power : M = 2 ^ 52 := by
      have : (M : ℚ) - 1 / 2 < 2 ^ 52 := inside.roundsTo.low.trans_lt low_z
      have : (M : ℚ) < 2 ^ 52 + 1 := by linarith
      have : M < 2 ^ 52 + 1 := by exact_mod_cast this
      have := double.normal
      omega
    have narrow : isNarrow M E = true := by
      simp only [isNarrow, power, decide_true, Bool.true_and, decide_eq_true_eq]
      omega
    have high_z : 2 ^ 52 - 1 / 4 ≤ z := by
      have := inside.low
      rw [narrow, lowEnd, if_pos rfl, power] at this
      push_cast at this
      exact this
    have total : 51 + E < totalExponent m e := by
      refine two_zpow_lt (lt_of_le_of_lt ?_ (same ▸ below))
      rw [two_zpow_add]
      refine mul_le_mul_of_nonneg_right ?_ unit.le
      refine le_trans ?_ high_z
      norm_num
    exact ⟨by omega, power, high_z, low_z⟩

/-- A mantissa that has the right number of bits is not shifted. -/
theorem shift_none (double : IsDouble M E) :
    Format.binary64.targetExponent (totalExponent M E) = E := by
  have bits : M.log2 < 53 := (Nat.log2_lt (by have := double.pos; omega)).mpr double.lt
  rw [target_eq, totalExponent]
  rcases double.normal with normal | least
  · have : 52 ≤ M.log2 := (Nat.le_log2 (by have := double.pos; omega)).mpr normal
    have := double.least
    omega
  · omega

theorem shift_exact (double : IsDouble M E) :
    shiftToTargetExponent .binary64 M E .exact = (⟨M, false, false⟩, E) := by
  rw [shiftToTargetExponent, shift_none double, shiftToExponent, Int.sub_self]
  simp [ExtendedMantissa.ofMantissaAndAccuracy, HShiftRight.hShiftRight, Nat.repeat]

/-- A mantissa that has become a power of two is shifted by one bit. -/
theorem shift_carry (least : -1074 < E) :
    shiftToTargetExponent .binary64 (2 ^ 53) (E - 1) .exact = (⟨2 ^ 52, false, false⟩, E) := by
  have target : Format.binary64.targetExponent (totalExponent (2 ^ 53) (E - 1)) = E := by
    rw [target_eq, totalExponent, Nat.log2_two_pow]
    omega
  rw [shiftToTargetExponent, target, shiftToExponent, show (E - (E - 1)).toNat = 1 by omega]
  simp [ExtendedMantissa.ofMantissaAndAccuracy, HShiftRight.hShiftRight, Nat.repeat,
    ExtendedMantissa.shiftRightOne]

/-- Rounding gives the number in whose interval the mantissa and its accuracy are. -/
theorem round_interval (double : IsDouble M E) (inside : Inside M (isNarrow M E) z)
    (near : Near m accuracy y) (same : y * 2 ^ e = z * 2 ^ E)
    (enough : e ≤ Format.binary64.targetExponent (totalExponent m e)) :
    roundWithAccuracy .binary64 sign m e accuracy = .finite sign M E double.pos := by
  obtain ⟨n, amount, shifted⟩ : ∃ n : Nat,
      e + n = Format.binary64.targetExponent (totalExponent m e)
        ∧ shiftToTargetExponent .binary64 m e accuracy
          = (ExtendedMantissa.ofMantissaAndAccuracy m accuracy >>> n, e + n) :=
    ⟨(Format.binary64.targetExponent (totalExponent m e) - e).toNat, by omega, rfl⟩
  have rounded := roundsTo_near (near_shift (near_ofMantissa near) n)
  have scaled : y / 2 ^ n = z * 2 ^ (E - (e + n)) := by
    have : y = z * 2 ^ (E - e) := by
      rw [zpow_sub₀ (by norm_num), ← mul_div_assoc, ← same]
      field_simp
    rw [this, ← sub_sub, zpow_sub₀ (by norm_num) (E - e), zpow_natCast, mul_div_assoc]
  rw [roundWithAccuracy, shifted]
  dsimp only
  rw [ExtendedMantissa.roundedMantissa]
  rcases exponent_cases double inside near same enough with equal | ⟨below, power, low, high⟩
  · have mantissa := rounded.unique (by
      rw [scaled, amount, equal, sub_self, zpow_zero, mul_one]
      exact inside.roundsTo)
    rw [mantissa, amount, equal, shift_exact double]
    exact dif_neg double.pos.ne'
  · have carried : RoundsTo (2 ^ 53) (y / 2 ^ n) := by
      rw [scaled, amount, below, sub_sub_cancel, zpow_one]
      refine ⟨?_, ?_, fun _ => by norm_num⟩ <;> push_cast <;> linarith
    have least : -1074 < E := by
      have : -1074 ≤ E - 1 := by
        rw [← below, target_eq]
        omega
      omega
    subst power
    rw [rounded.unique carried, amount, below, shift_carry least]
    exact dif_neg (by norm_num)

end PredicateLang.Number
