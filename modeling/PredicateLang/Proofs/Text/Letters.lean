import Mathlib
import PredicateLang.Token.Lexer

/-!
# Characters of names and white space

A name does not begin with white space. In ASCII this is plain arithmetic; outside, two tables of
ranges are disjoint. A table is written as text, which no proof should compute with, so the lemma
about tables speaks of the list of characters that the text is made of.
-/

namespace PredicateLang.Lexing

open PredicateLang.Text

variable {c : Char}

/-- What none of the characters of a list is, checked character by character. -/
theorem forall_mem_of_all {q : Char → Bool} {cs : List Char} (h : cs.all fun c => !q c) :
    ∀ c ∈ cs, q c = false :=
  fun c mem => (Bool.not_eq_true' _).mp (List.all_eq_true.mp h c mem)

/-! ## Tables of ranges -/

section Tables

/-- No range holds one of the code points. -/
def avoids (points : List Nat) (ranges : CodeRanges) : Bool :=
  ranges.all fun (first, last) => points.all fun n => !(first ≤ n && n ≤ last)

theorem not_contains_of_avoids {points : List Nat} {ranges : CodeRanges}
    (h : avoids points ranges) (mem : c.toNat ∈ points) : ranges.contains c = false := by
  simp only [avoids, List.all_eq_true] at h
  rw [CodeRanges.contains, List.any_eq_false]
  intro range hrange
  have outside := h range hrange c.toNat mem
  rw [Bool.not_eq_true'] at outside
  rw [Bool.not_eq_true]
  exact outside

/-- A table read from characters, so that it can be computed. -/
theorem avoids_read {points : List Nat} {table : List Char}
    (h : avoids points (((splitChars ' ' (table.map fun c => if c = '\n' then ' ' else c)).filter
      (!·.isEmpty)).map CodeRanges.readRange)) :
    avoids points (CodeRanges.read (String.ofList table)) := by
  simpa [CodeRanges.read, tableItems] using h

/-- The code points of white space outside ASCII. -/
def whitePoints : List Nat :=
  [0x85, 0xA0, 0x1680, 0x2028, 0x2029, 0x202F, 0x205F, 0x3000] ++ (List.range 11).map (0x2000 + ·)

theorem mem_whitePoints (h : whiteSpaceRanges.contains c) : c.toNat ∈ whitePoints := by
  have table : whiteSpaceRanges = [(0x85, 0x85), (0xA0, 0xA0), (0x1680, 0x1680), (0x2000, 0x200A),
      (0x2028, 0x2029), (0x202F, 0x202F), (0x205F, 0x205F), (0x3000, 0x3000)] := by
    decide +kernel
  rw [table] at h
  simp only [CodeRanges.contains, List.any_cons, List.any_nil, Bool.or_false, Bool.or_eq_true,
    Bool.and_eq_true, decide_eq_true_eq] at h
  simp only [whitePoints, List.mem_append, List.mem_cons, List.mem_map, List.mem_range,
    List.not_mem_nil, or_false]
  by_cases en : 0x2000 ≤ c.toNat ∧ c.toNat ≤ 0x200A
  · exact .inr ⟨c.toNat - 0x2000, by omega, by omega⟩
  · exact .inl (by omega)

set_option maxRecDepth 100000 in
theorem alphabetic_avoids_white : avoids whitePoints alphabeticRanges := by
  rw [alphabeticRanges]
  refine avoids_read ?_
  decide +kernel

end Tables

/-! ## Letters and digits -/

theorem toNat_of_isAlpha (h : c.isAlpha) :
    (65 ≤ c.toNat ∧ c.toNat ≤ 90) ∨ (97 ≤ c.toNat ∧ c.toNat ≤ 122) := by
  simp only [Char.isAlpha, Char.isUpper, Char.isLower, Bool.or_eq_true, Bool.and_eq_true,
    decide_eq_true_eq, UInt32.le_iff_toNat_le, ge_iff_le] at h
  exact h

theorem toNat_of_isUpper (h : c.isUpper) : 65 ≤ c.toNat ∧ c.toNat ≤ 90 := by
  simp only [Char.isUpper, decide_eq_true_eq, UInt32.le_iff_toNat_le, ge_iff_le] at h
  exact h

theorem isAscii_of_isAlpha (h : c.isAlpha) : isAscii c := by
  have := toNat_of_isAlpha h
  simp only [isAscii, decide_eq_true_eq]
  omega

theorem isAlpha_of_toUpper (h : c.toUpper.isUpper) : c.isAlpha := by
  unfold Char.toUpper at h
  split at h
  · rename_i small
    have lower : c.isLower := Bool.and_eq_true_iff.mpr ⟨decide_eq_true small.1, decide_eq_true small.2⟩
    simp [Char.isAlpha, lower]
  · simp [Char.isAlpha, h]

theorem toNat_of_isDigit (h : c.isDigit) : 48 ≤ c.toNat ∧ c.toNat ≤ 57 := by
  simp only [Char.isDigit, Bool.and_eq_true, decide_eq_true_eq, UInt32.le_iff_toNat_le,
    ge_iff_le] at h
  exact h

theorem isWhiteSpace_eq_false (ascii : isAscii c) (low : 32 < c.toNat) :
    isWhiteSpace c = false := by
  have blank : c ≠ ' ' := by
    rintro rfl
    exact absurd low (by decide)
  rw [isWhiteSpace, if_pos ascii]
  simp only [blank, decide_false, Bool.false_or, Bool.and_eq_false_iff, decide_eq_false_iff_not]
  omega

/-- A name does not begin with white space. -/
theorem not_white_of_isNameStart (h : isNameStart c) : isWhiteSpace c = false := by
  rw [isNameStart, Bool.or_eq_true, decide_eq_true_eq] at h
  rcases h with h | rfl
  · rw [isAlphabetic] at h
    split at h
    · rename_i ascii
      have := toNat_of_isAlpha h
      exact isWhiteSpace_eq_false ascii (by omega)
    · rename_i other
      rw [isWhiteSpace, if_neg other, Bool.eq_false_iff]
      intro white
      have := not_contains_of_avoids alphabetic_avoids_white (mem_whitePoints white)
      rw [this] at h
      cases h
  · decide

theorem not_white_of_isDigit (h : c.isDigit) : isWhiteSpace c = false := by
  have := toNat_of_isDigit h
  exact isWhiteSpace_eq_false (by simp [isAscii]; omega) (by omega)

theorem not_isNameStart_of_isDigit (h : c.isDigit) : isNameStart c = false := by
  have digit := toNat_of_isDigit h
  have ascii : isAscii c := by simp [isAscii]; omega
  have no_letter : c.isAlpha = false := by
    rw [Bool.eq_false_iff]
    intro letter
    have := toNat_of_isAlpha letter
    omega
  have no_line : c ≠ '_' := by
    rintro rfl
    cases h
  simp [isNameStart, isAlphabetic, ascii, no_letter, no_line]

end PredicateLang.Lexing
