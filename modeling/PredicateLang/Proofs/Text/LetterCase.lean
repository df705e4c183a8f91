import PredicateLang.Proofs.Text.Letters
import PredicateLang.Text.LetterCase

/-!
# Small letters and capitals

A text in small letters has no capital of ASCII: the mapping of ASCII gives none, and the code
points that the table maps to all lie behind them. So a text that is its own form in small letters
is also the form that letter case is ignored in.

In the same way no capital is a point, so that a key path in capitals has its points where it had
them.
-/

namespace PredicateLang.Text

open PredicateLang.Lexing

variable {c d : Char} {text : List Char}

/-- Are all code points that a mapping gives above a bound? -/
def isAbove (bound : Nat) (mapping : CodeMapping) : Bool :=
  mapping.all fun run => run.target.all (bound < ·)

/-- A table read from characters, so that it can be computed. -/
theorem isAbove_read {bound : Nat} {table : List Char}
    (h : isAbove bound (((splitChars ' ' (table.map fun c => if c = '\n' then ' ' else c)).filter
      (!·.isEmpty)).map MappingRun.read)) :
    isAbove bound (CodeMapping.read (String.ofList table)) := by
  simpa [CodeMapping.read, tableItems] using h

set_option maxRecDepth 100000 in
theorem isAbove_lowerMapping : isAbove 90 lowerMapping := by
  rw [lowerMapping]
  refine isAbove_read ?_
  decide +kernel

set_option maxRecDepth 100000 in
theorem isAbove_upperMapping : isAbove 64 upperMapping := by
  rw [upperMapping]
  refine isAbove_read ?_
  decide +kernel

/-- What a mapping gives besides the character itself. -/
theorem eq_or_above_of_mem_apply {bound : Nat} {mapping : CodeMapping}
    (above : isAbove bound mapping) (mem : d ∈ mapping.apply c) :
    d = c ∨ ∃ n, bound < n ∧ d = Char.ofNat n := by
  unfold CodeMapping.apply at mem
  split at mem
  · rename_i images found
    obtain ⟨run, member, image⟩ := List.exists_of_findSome?_eq_some found
    unfold MappingRun.image? at image
    split at image <;> cases image
    obtain ⟨n, image, rfl⟩ := List.mem_map.mp mem
    obtain ⟨target, given', rfl⟩ := List.mem_map.mp image
    have all := List.all_eq_true.mp (List.all_eq_true.mp above run member) target given'
    rw [decide_eq_true_eq] at all
    exact .inr ⟨_, by omega, rfl⟩
  · exact .inl (List.mem_singleton.mp mem)

theorem isUpper_ofNat {n : Nat} (h : 90 < n) : (Char.ofNat n).isUpper = false := by
  rw [Char.ofNat]
  split
  · rename_i valid
    have code : (Char.ofNatAux n valid).toNat = n := rfl
    rw [Bool.eq_false_iff]
    intro upper
    have := toNat_of_isUpper upper
    omega
  · rfl

theorem isUpper_apply {mapping : CodeMapping} (above : isAbove 90 mapping)
    (self : c.isUpper = false) (mem : d ∈ mapping.apply c) : d.isUpper = false := by
  rcases eq_or_above_of_mem_apply above mem with rfl | ⟨n, high, rfl⟩
  · exact self
  · exact isUpper_ofNat high

/-! ## Capitals and points -/

theorem ofNat_ne_point {n : Nat} (h : 64 < n) : Char.ofNat n ≠ '.' := by
  rw [Char.ofNat]
  split
  · rename_i valid
    intro point
    have code : (Char.ofNatAux n valid).toNat = n := rfl
    rw [point] at code
    exact absurd code (by change 46 ≠ n; omega)
  · decide

/-- No capital is a point. -/
theorem point_notMem_upperChar (other : c ≠ '.') : '.' ∉ upperChar c := by
  intro mem
  unfold upperChar at mem
  split at mem
  · rename_i ascii
    have kept : ∀ n < 128, (Char.ofNat n).toUpper = '.' → Char.ofNat n = '.' := by decide +kernel
    rw [isAscii, decide_eq_true_eq] at ascii
    have point := kept c.toNat ascii
    rw [Char.ofNat_toNat] at point
    exact other (point (List.mem_singleton.mp mem).symm)
  · rcases eq_or_above_of_mem_apply isAbove_upperMapping mem with same | ⟨n, high, same⟩
    · exact other same.symm
    · exact ofNat_ne_point high same.symm

/-! ## Texts in small letters -/

theorem isUpper_toLower : c.toLower.isUpper = false := by
  rw [Bool.eq_false_iff]
  intro upper
  unfold Char.toLower at upper
  split at upper
  · rename_i capital
    have small := toNat_of_isUpper upper
    have shifted : ((c.val + ('a'.val - 'A'.val)).toNat) = c.val.toNat + 32 := by
      have : c.val.toNat ≤ 90 := UInt32.le_iff_toNat_le.mp capital.2
      rw [UInt32.toNat_add]
      exact Nat.mod_eq_of_lt (by have : ('a'.val - 'A'.val).toNat = 32 := rfl; omega)
    have : 65 ≤ c.val.toNat := UInt32.le_iff_toNat_le.mp capital.1
    have : 65 ≤ c.val.toNat + 32 ∧ c.val.toNat + 32 ≤ 90 := shifted ▸ small
    omega
  · rename_i other
    exact other (by simpa [Char.isUpper] using upper)

/-- A text in small letters has no capital of ASCII. -/
theorem isUpper_lowerFrom (before : List Char) :
    ∀ d ∈ lowerFrom before text, d.isUpper = false := by
  induction text generalizing before with
  | nil => exact fun d mem => nomatch mem
  | cons c text ih =>
    intro d mem
    rw [lowerFrom, List.mem_append] at mem
    rcases mem with mem | mem
    · split at mem
      · rw [List.mem_singleton.mp mem]
        split <;> rfl
      · rw [lowerChar] at mem
        split at mem
        · rw [List.mem_singleton.mp mem]
          exact isUpper_toLower
        · rename_i other
          refine isUpper_apply isAbove_lowerMapping ?_ mem
          rw [Bool.eq_false_iff]
          intro upper
          have letter : c.isAlpha := by simp [Char.isAlpha, upper]
          exact other (isAscii_of_isAlpha letter)
    · exact ih _ d mem

/-- What is written in small letters is not changed where letter case is ignored. -/
theorem map_toLower_of_lower {name : String} (h : lower name = name) :
    name.toList.map Char.toLower = name.toList := by
  have chars : name.toList = lowerFrom [] name.toList := by
    rw [lower, ← String.toList_inj, String.toList_ofList] at h
    exact h.symm
  have kept : ∀ c ∈ name.toList, c.toLower = id c := by
    intro c mem
    rw [chars] at mem
    have none := isUpper_lowerFrom [] c mem
    unfold Char.toLower
    split
    · rename_i capital
      exact absurd (show c.isUpper by simpa [Char.isUpper] using capital) (by simp [none])
    · rfl
  rw [List.map_congr_left kept, List.map_id]

end PredicateLang.Text
