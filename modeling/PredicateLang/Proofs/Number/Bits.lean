import Mathlib
import PredicateLang.Number.Binary
import PredicateLang.Proofs.Number.Rounding

/-!
# Taking doubles apart and putting them together

`Binary.ofFloat` takes a double apart by arithmetic on its bits; core's model packs a sign, a
significand and an exponent into bits. For the finite doubles the two are inverse to each other, so
a double is known once it is known what it is taken apart into.
-/

open Float.Model Float.Model.UnpackedFloat

namespace PredicateLang.Number

variable {M : Nat} {E : Int} {x : Float} {sign : Sign}

/-- A double is its bits. -/
theorem float_ext {x y : Float} (h : x.toBits.toNat = y.toBits.toNat) : x = y := by
  obtain ⟨⟨bits, valid⟩⟩ := x
  obtain ⟨⟨bits', valid'⟩⟩ := y
  obtain rfl : bits = bits' := UInt64.toNat_inj.mp h
  rfl

/-- The double with a significand and an exponent. -/
def ofParts (sign : Sign) (M : Nat) (E : Int) (pos : 0 < M) : Float :=
  .ofModel (.pack (.finite sign M E pos))

/-! ## Bits -/

theorem toNat_packComponents (exponent : BitVec 11) (mantissa : BitVec 52) :
    (packComponents .binary64 sign exponent mantissa).toNat
      = sign.toBitVec.toNat * 2 ^ 63 + exponent.toNat * 2 ^ 52 + mantissa.toNat := by
  have high : (sign.toBitVec ++ exponent).toNat = sign.toBitVec.toNat * 2 ^ 11 + exponent.toNat := by
    rw [BitVec.toNat_append, ← Nat.shiftLeft_add_eq_or_of_lt exponent.isLt, Nat.shiftLeft_eq]
  have whole : (packComponents .binary64 sign exponent mantissa).toNat
      = (sign.toBitVec ++ exponent).toNat * 2 ^ 52 + mantissa.toNat := by
    rw [packComponents]
    exact (BitVec.toNat_append _ _).trans (by
      rw [← Nat.shiftLeft_add_eq_or_of_lt mantissa.isLt, Nat.shiftLeft_eq])
  rw [whole, high]
  ring

theorem ofBitVec_unpackSign (exponent : BitVec 11) (mantissa : BitVec 52) :
    Sign.ofBitVec (unpackSign (packComponents .binary64 sign exponent mantissa)) = sign := by
  rw [unpackSign, packComponents, BitVec.extractLsb,
    BitVec.extractLsb'_append_eq_of_le (by decide), BitVec.extractLsb'_append_eq_of_le (by decide)]
  cases sign <;> rfl

/-- Bits with an exponent that is neither the least nor the greatest. -/
theorem unpack_normal {exponent : BitVec 11} (mantissa : BitVec 52) (pos : 0 < exponent.toNat)
    (lt : exponent.toNat < 2047) :
    UnpackedFloat.unpack .binary64 (packComponents .binary64 sign exponent mantissa)
      = .finite sign (2 ^ 52 + mantissa.toNat) (exponent.toNat - 1075) (by positivity) := by
  have not_top : ¬exponent = -1#11 := by
    rintro rfl
    exact absurd lt (by decide)
  have not_zero : ¬exponent = 0#11 := by
    rintro rfl
    exact absurd pos (by decide)
  have value : (1#1 ++ mantissa).toNat = 2 ^ 52 + mantissa.toNat := by
    rw [BitVec.toNat_append, ← Nat.shiftLeft_add_eq_or_of_lt mantissa.isLt]
    rfl
  simp only [UnpackedFloat.unpack, unpackExponent_packComponents, unpackMantissa_packComponents,
    ofBitVec_unpackSign]
  rw [if_neg not_top, if_neg not_zero]
  simp only [UnpackedFloat.finite.injEq, true_and]
  exact ⟨value, rfl⟩

/-- Bits with the least exponent. -/
theorem unpack_subnormal {mantissa : BitVec 52} (pos : 0 < mantissa.toNat) :
    UnpackedFloat.unpack .binary64 (packComponents .binary64 sign 0#11 mantissa)
      = .finite sign mantissa.toNat (-1074) pos := by
  have not_zero : ¬mantissa = 0#52 := by
    rintro rfl
    exact absurd pos (by decide)
  simp only [UnpackedFloat.unpack, unpackExponent_packComponents, unpackMantissa_packComponents,
    ofBitVec_unpackSign]
  rw [if_neg (by decide), if_pos trivial, dif_neg not_zero]
  rfl

/-- The bits of a significand and an exponent. -/
theorem pack_finite (double : IsDouble M E) :
    UnpackedFloat.pack .binary64 (.finite sign M E double.pos)
      = packComponents .binary64 sign (.ofNat 11 (if 2 ^ 52 ≤ M then (E + 1075).toNat else 0))
        (.ofNat 52 M) := by
  have biased : (E + (Format.exponentBias .binary64 : Nat) + (52 : Nat)).toNat = (E + 1075).toNat := by
    congr 1
    show E + 1023 + 52 = E + 1075
    omega
  have most := double.most
  have least := double.least
  rw [UnpackedFloat.pack, biased, if_neg (by norm_num; omega)]
  have bits : Format.mantissaBits .binary64 = 53 := rfl
  rw [bits]
  by_cases normal : 2 ^ 52 ≤ M
  · have low : 52 ≤ M.log2 := (Nat.le_log2 double.pos.ne').mpr normal
    have high : M.log2 < 53 := (Nat.log2_lt double.pos.ne').mpr double.lt
    rw [if_pos (by omega), if_pos normal]
  · have high : M.log2 < 52 := (Nat.log2_lt double.pos.ne').mpr (by omega)
    rw [if_neg (by omega), if_neg normal]

/-- The bits give the significand and the exponent back. -/
theorem unpack_pack (double : IsDouble M E) :
    UnpackedFloat.unpack .binary64 (UnpackedFloat.pack .binary64 (.finite sign M E double.pos))
      = .finite sign M E double.pos := by
  have least := double.least
  have most := double.most
  have lt := double.lt
  rw [pack_finite double]
  by_cases normal : 2 ^ 52 ≤ M
  · have exponent : (BitVec.ofNat 11 (E + 1075).toNat).toNat = (E + 1075).toNat := by
      rw [BitVec.toNat_ofNat, Nat.mod_eq_of_lt (by omega)]
    have mantissa : (BitVec.ofNat 52 M).toNat = M - 2 ^ 52 := by
      rw [BitVec.toNat_ofNat]
      omega
    rw [if_pos normal, unpack_normal _ (by omega) (by omega)]
    simp only [UnpackedFloat.finite.injEq, true_and]
    omega
  · have mantissa : (BitVec.ofNat 52 M).toNat = M := by
      rw [BitVec.toNat_ofNat, Nat.mod_eq_of_lt (by omega)]
    have := double.normal
    have := double.pos
    rw [if_neg normal, unpack_subnormal (by omega)]
    simp only [UnpackedFloat.finite.injEq, true_and]
    omega

theorem neg_ofParts (double : IsDouble M E) :
    -ofParts .positive M E double.pos = ofParts .negative M E double.pos := by
  show Float.ofModel (.pack (UnpackedFloat.unpack .binary64
    (UnpackedFloat.pack .binary64 (.finite .positive M E double.pos))).neg) = _
  rw [unpack_pack double]
  rfl

/-! ## Doubles taken apart -/

/-- The sign that a bit is. -/
def signOf (negative : Bool) : Sign := if negative then .negative else .positive

variable {negative narrow : Bool}

/-- The bits of a finite double, and what they say. -/
theorem bits_of_finite (finite : Binary.ofFloat x = .finite negative M E narrow) :
    ∃ biased fraction : Nat, biased < 2047 ∧ fraction < 2 ^ 52
      ∧ x.toBits.toNat = (signOf negative).toBitVec.toNat * 2 ^ 63 + biased * 2 ^ 52 + fraction
      ∧ (biased = 0 ∧ M = fraction ∧ E = -1074 ∧ narrow = false
        ∨ 0 < biased ∧ M = 2 ^ 52 + fraction ∧ E = (biased : Int) - 1075
          ∧ narrow = (fraction == 0 && decide (biased > 1))) := by
  have bound : x.toBits.toNat < 2 ^ 64 := x.toBits.toNat_lt
  rw [Binary.ofFloat] at finite
  generalize x.toBits.toNat = bits at finite bound
  have sign : (signOf (bits / 2 ^ 63 == 1)).toBitVec.toNat = bits / 2 ^ 63 := by
    have : bits / 2 ^ 63 = 0 ∨ bits / 2 ^ 63 = 1 := by omega
    rcases this with zero | one
    · rw [zero]
      rfl
    · rw [one]
      rfl
  have split_bits : bits = bits / 2 ^ 63 * 2 ^ 63 + bits / 2 ^ 52 % 2 ^ 11 * 2 ^ 52 + bits % 2 ^ 52 := by
    omega
  refine ⟨bits / 2 ^ 52 % 2 ^ 11, bits % 2 ^ 52, ?_⟩
  unfold Binary.ofBits at finite
  dsimp only [Nat.pow_eq] at finite
  split at finite
  · split at finite <;> cases finite
  · rename_i not_top
    have below : bits / 2 ^ 52 % 2 ^ 11 < 2047 := by omega
    split at finite
    · rename_i zero
      cases finite
      exact ⟨below, Nat.mod_lt _ (by norm_num), by rw [sign]; exact split_bits,
        .inl ⟨zero, rfl, rfl, rfl⟩⟩
    · rename_i nonzero
      cases finite
      exact ⟨below, Nat.mod_lt _ (by norm_num), by rw [sign]; exact split_bits,
        .inr ⟨Nat.pos_of_ne_zero nonzero, rfl, rfl, rfl⟩⟩

/-- A finite double other than zero is put together from what it is taken apart into. -/
theorem eq_ofParts (finite : Binary.ofFloat x = .finite negative M E narrow) (pos : 0 < M) :
    ∃ double : IsDouble M E, narrow = isNarrow M E
      ∧ x = ofParts (signOf negative) M E double.pos := by
  obtain ⟨biased, fraction, below, small, bits, parts⟩ := bits_of_finite finite
  have double : IsDouble M E := by
    rcases parts with ⟨rfl, rfl, rfl, -⟩ | ⟨nonzero, rfl, rfl, -⟩
    · exact ⟨pos, by omega, by omega, by omega, .inr rfl⟩
    · exact ⟨pos, by omega, by omega, by omega, .inl (by omega)⟩
  refine ⟨double, ?_, float_ext ?_⟩
  · rcases parts with ⟨rfl, rfl, rfl, rfl⟩ | ⟨nonzero, rfl, rfl, rfl⟩
    · simp [isNarrow]
    · rw [isNarrow, Bool.eq_iff_iff]
      simp only [Bool.and_eq_true, beq_iff_eq, decide_eq_true_eq]
      omega
  · rw [bits]
    show _ = (UnpackedFloat.pack .binary64 (.finite (signOf negative) M E double.pos)).toNat
    rw [pack_finite double, toNat_packComponents]
    rcases parts with ⟨rfl, rfl, rfl, -⟩ | ⟨nonzero, rfl, rfl, -⟩
    · rw [if_neg (by omega), BitVec.toNat_ofNat, BitVec.toNat_ofNat]
      omega
    · rw [if_pos (by omega), BitVec.toNat_ofNat, BitVec.toNat_ofNat]
      omega

/-- A double without a significand is one of the two zeros. -/
theorem eq_zero (finite : Binary.ofFloat x = .finite negative 0 E narrow) :
    x = if negative then -0.0 else 0.0 := by
  obtain ⟨biased, fraction, -, -, bits, parts⟩ := bits_of_finite finite
  refine float_ext (bits.trans ?_)
  rcases parts with ⟨rfl, rfl, -, -⟩ | ⟨-, impossible, -, -⟩
  · cases negative <;> decide +kernel
  · omega

end PredicateLang.Number
