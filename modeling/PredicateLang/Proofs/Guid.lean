import Mathlib.Data.String.Basic
import PredicateLang.Expr.Visitor
import PredicateLang.Proofs.Text.Letters

/-!
# The texts of GUIDs

The texts of GUIDs are equally long and have their hyphens at the same places. So the first digit in
which two of them differ decides their order, as it does for the numbers (`Guid.compare_text`).

A hexadecimal numeral of so many digits is the number's own one with zeros in front, but for the
letter case. So the hyphenated texts that are read as a GUID are its text in any letter case
(`Expr.guidConstant?_eq_some_iff`).
-/

namespace PredicateLang

open PredicateLang.Text

/-! ## Digits in order -/

/-- The beginnings of two lists decide if they are equally long. -/
theorem append_lt_append {a b : List Char} (same : a.length = b.length) (less : a < b)
    (c d : List Char) : a ++ c < b ++ d := by
  induction a generalizing b with
  | nil =>
    obtain rfl : b = [] := List.length_eq_zero_iff.mp same.symm
    exact absurd less (List.lt_irrefl _)
  | cons x a ih =>
    cases b with
    | nil => cases same
    | cons y b =>
      rw [List.cons_lt_cons_iff] at less
      rw [List.cons_append, List.cons_append, List.cons_lt_cons_iff]
      exact less.imp_right fun ⟨first, rest⟩ => ⟨first, ih (Nat.succ.inj same) rest⟩

theorem append_left_lt_append_left (a : List Char) {c d : List Char} (less : c < d) :
    a ++ c < a ++ d :=
  List.Lex.append_left _ less a

/-- The numeral of a number with at most so many hexadecimal digits. -/
theorem padLeft_toDigits_succ {width n : Nat} (pos : 0 < width) :
    padLeft (width + 1) (Nat.toDigits 16 n)
      = padLeft width (Nat.toDigits 16 (n / 16)) ++ [Nat.digitChar (n % 16)] := by
  unfold padLeft
  by_cases small : n < 16
  · -- There is a zero in front, which is the numeral of the quotient.
    rw [Nat.toDigits_of_lt_base small, Nat.div_eq_of_lt small, Nat.mod_eq_of_lt small,
      Nat.toDigits_of_lt_base (by decide : 0 < 16)]
    obtain ⟨k, rfl⟩ := Nat.exists_eq_succ_of_ne_zero pos.ne'
    simp [List.replicate_succ']
  · rw [Nat.toDigits_of_base_le (by decide) (Nat.le_of_not_lt small), List.length_append]
    simp

theorem digitChar_lt {d e : Nat} (less : d < e) (small : e < 16) :
    Nat.digitChar d < Nat.digitChar e := by
  have all : ∀ e < 16, ∀ d < e, Nat.digitChar d < Nat.digitChar e := by decide
  exact all e small d less

theorem length_padLeft_toDigits {width n : Nat} (pos : 0 < width) (small : n < 16 ^ width) :
    (padLeft width (Nat.toDigits 16 n)).length = width := by
  have le := (Nat.length_toDigits_le_iff (by decide) pos).mpr small
  unfold padLeft
  rw [List.length_append, List.length_replicate]
  omega

/-- Numerals of the same width are in the order of the numbers. -/
theorem padLeft_toDigits_lt {width n m : Nat} (pos : 0 < width) (less : n < m)
    (small : m < 16 ^ width) :
    padLeft width (Nat.toDigits 16 n) < padLeft width (Nat.toDigits 16 m) := by
  induction width generalizing n m with
  | zero => cases pos
  | succ width ih =>
    rcases Nat.eq_zero_or_pos width with rfl | pos
    · have small : m < 16 := by omega
      have digits : ∀ k < 16, padLeft 1 (Nat.toDigits 16 k) = [Nat.digitChar k] := by decide
      rw [digits n (less.trans small), digits m small, List.cons_lt_cons_iff]
      exact .inl (digitChar_lt less small)
    · rw [padLeft_toDigits_succ pos, padLeft_toDigits_succ pos]
      have small : m / 16 < 16 ^ width := by omega
      rcases Nat.lt_or_ge (n / 16) (m / 16) with first | first
      · refine append_lt_append ?_ (ih pos first small) _ _
        rw [length_padLeft_toDigits pos small, length_padLeft_toDigits pos (first.trans small)]
      · have same : n / 16 = m / 16 := by omega
        rw [same]
        refine append_left_lt_append_left _ (List.cons_lt_cons_iff.mpr (.inl ?_))
        exact digitChar_lt (by omega) (by omega)

namespace Guid

/-! ## Groups of digits -/

/-- Either the beginnings of two lists decide, or they are the same and the rest decides. -/
theorem take_lt_or_drop_lt {a b : List Char} (n : Nat) (same : a.length = b.length)
    (less : a < b) :
    a.take n < b.take n ∨ a.take n = b.take n ∧ a.drop n < b.drop n := by
  induction n generalizing a b with
  | zero => exact .inr ⟨rfl, less⟩
  | succ n ih =>
    cases a with
    | nil =>
      obtain rfl : b = [] := List.length_eq_zero_iff.mp same.symm
      exact absurd less (List.lt_irrefl _)
    | cons x a =>
      cases b with
      | nil => cases same
      | cons y b =>
        simp only [List.take_succ_cons, List.drop_succ_cons, List.cons_lt_cons_iff] at less ⊢
        rcases less with first | ⟨rfl, rest⟩
        · exact .inl (.inl first)
        · rcases ih (Nat.succ.inj same) rest with first | ⟨first, rest⟩
          · exact .inl (.inr ⟨rfl, first⟩)
          · exact .inr ⟨by rw [first], rest⟩

/-- Hyphens at the same places change nothing about the order. -/
theorem group_lt {lengths : List Nat} {a b : List Char} (same : a.length = b.length)
    (less : a < b) : group lengths a < group lengths b := by
  match lengths with
  | [] | [_] => exact less
  | n :: m :: rest =>
    unfold group
    rcases take_lt_or_drop_lt n same less with first | ⟨first, after⟩
    · refine append_lt_append ?_ first _ _
      rw [List.length_take, List.length_take, same]
    · rw [first]
      refine append_left_lt_append_left _ (List.cons_lt_cons_iff.mpr (.inr ⟨rfl, ?_⟩))
      refine group_lt ?_ after
      rw [List.length_drop, List.length_drop, same]

/-! ## Texts -/

theorem text_lt {g h : Guid} (less : g.bits.toNat < h.bits.toNat) : g.text < h.text := by
  have fits (g : Guid) : g.bits.toNat < 16 ^ 32 := g.bits.isLt
  rw [String.lt_iff]
  unfold text
  rw [String.toList_ofList, String.toList_ofList]
  refine group_lt ?_ (padLeft_toDigits_lt (by decide) less (fits h))
  rw [length_padLeft_toDigits (by decide) (fits g), length_padLeft_toDigits (by decide) (fits h)]

/-- The texts of GUIDs are in the order of the GUIDs. -/
theorem compare_text (g h : Guid) :
    compare g.text h.text = compare g.bits.toNat h.bits.toNat := by
  rcases Nat.lt_trichotomy g.bits.toNat h.bits.toNat with less | same | more
  · rw [Nat.compare_eq_lt.mpr less]
    exact compare_lt_iff_lt.mpr (text_lt less)
  · have equal : g = h := congrArg Guid.mk (BitVec.eq_of_toNat_eq same)
    rw [equal, compare_eq_iff_eq.mpr rfl, compare_eq_iff_eq.mpr rfl]
  · rw [Nat.compare_eq_gt.mpr more]
    exact compare_gt_iff_gt.mpr (text_lt more)

end Guid

variable {c : Char} {d n : Nat} {digits text : List Char} {lengths : List Nat}

/-! ## Digits of both letter cases -/

theorem toLower_eq_self (high : 128 ≤ c.toNat) : c.toLower = c := by
  unfold Char.toLower
  split
  · rename_i capital
    have : c.val.toNat ≤ 90 := UInt32.le_iff_toNat_le.mp capital.2
    have : 128 ≤ c.val.toNat := high
    omega
  · rfl

theorem hexDigit?_eq_none (high : 128 ≤ c.toNat) : hexDigit? c = none := by
  have high : 128 ≤ c.val.toNat := high
  have above {e : Char} (low : e.val.toNat < 128) : ¬c ≤ e := fun le => by
    have : c.val.toNat ≤ e.val.toNat := UInt32.le_iff_toNat_le.mp le
    omega
  have number : ¬c.isDigit := fun digit => by
    have : c.val.toNat ≤ 57 := (Lexing.toNat_of_isDigit digit).2
    omega
  rw [hexDigit?, if_neg number, if_neg fun h => above (by decide) h.2,
    if_neg fun h => above (by decide) h.2]

/-- Only letters differ from their small forms. -/
theorem eq_of_toLower_eq {d : Char} (other : d.isAlpha = false) (same : c.toLower = d) : c = d := by
  have ascii : ∀ n < 128, (Char.ofNat n).toLower.isAlpha = false →
      Char.ofNat n = (Char.ofNat n).toLower := by decide +kernel
  subst same
  rcases Nat.lt_or_ge c.toNat 128 with low | high
  · have kept := ascii c.toNat low
    rw [Char.ofNat_toNat] at kept
    exact kept other
  · exact (toLower_eq_self high).symm

/-- The digits of both letter cases, character by character. -/
theorem hexDigit?_ascii : ∀ n < 128, hexDigit? (Char.ofNat n).toLower = hexDigit? (Char.ofNat n) ∧
    ∀ d ∈ hexDigit? (Char.ofNat n), d < 16 ∧ (Char.ofNat n).toLower = Nat.digitChar d := by
  decide +kernel

theorem hexDigit?_toLower (c : Char) : hexDigit? c.toLower = hexDigit? c := by
  rcases Nat.lt_or_ge c.toNat 128 with low | high
  · exact Char.ofNat_toNat c ▸ (hexDigit?_ascii c.toNat low).1
  · rw [toLower_eq_self high]

/-- A hexadecimal digit is the character of its value, in either letter case. -/
theorem hexDigit?_eq_some_iff : hexDigit? c = some d ↔ d < 16 ∧ c.toLower = Nat.digitChar d := by
  constructor
  · intro digit
    rcases Nat.lt_or_ge c.toNat 128 with low | high
    · have read := (hexDigit?_ascii c.toNat low).2 d
      rw [Char.ofNat_toNat] at read
      exact read digit
    · exact nomatch (hexDigit?_eq_none high).symm.trans digit
  · rintro ⟨small, char⟩
    have read : ∀ d < 16, hexDigit? (Nat.digitChar d) = some d := by decide
    rw [← hexDigit?_toLower, char, read d small]

/-! ## Numerals that are read -/

theorem numeralFrom_append (base : Nat) (digit? : Char → Option Nat) (value : Nat)
    (digits more : List Char) :
    numeralFrom base digit? value (digits ++ more)
      = (numeralFrom base digit? value digits).bind (numeralFrom base digit? · more) := by
  induction digits generalizing value with
  | nil => rfl
  | cons c digits ih =>
    rw [List.cons_append, numeralFrom, numeralFrom]
    cases digit? c with
    | none => rfl
    | some d => exact ih _

theorem numeralFrom_singleton (value : Nat) : numeralFrom 16 hexDigit? value [c] = some n
    ↔ ∃ d, (d < 16 ∧ c.toLower = Nat.digitChar d) ∧ value * 16 + d = n := by
  simp only [← hexDigit?_eq_some_iff]
  cases h : hexDigit? c <;> simp [numeralFrom, h]

/-- A numeral of so many digits is the number's own one with zeros in front. -/
theorem hexNumeral?_eq_some_iff (some_digit : digits ≠ []) :
    hexNumeral? digits = some n ↔ n < 16 ^ digits.length ∧
      digits.map Char.toLower = padLeft digits.length (Nat.toDigits 16 n) := by
  have numeral : hexNumeral? digits = numeralFrom 16 hexDigit? 0 digits :=
    if_neg (by rwa [List.isEmpty_iff])
  rw [numeral]
  clear numeral
  induction digits using List.reverseRecOn generalizing n with
  | nil => exact absurd rfl some_digit
  | append_singleton digits c ih =>
    rw [numeralFrom_append, Option.bind_eq_some_iff, List.length_append, List.map_append]
    by_cases single : digits = []
    · subst single
      have own : ∀ n < 16, padLeft 1 (Nat.toDigits 16 n) = [Nat.digitChar n] := by decide
      constructor
      · rintro ⟨value, zero, read⟩
        obtain rfl : 0 = value := Option.some.inj zero
        obtain ⟨d, ⟨small, char⟩, rfl⟩ := (numeralFrom_singleton 0).mp read
        rw [Nat.zero_mul, Nat.zero_add]
        exact ⟨small, (congrArg ([·]) char).trans (own d small).symm⟩
      · rintro ⟨small, char⟩
        refine ⟨0, rfl, (numeralFrom_singleton 0).mpr ⟨n, ⟨small, ?_⟩, by omega⟩⟩
        exact List.head_eq_of_cons_eq (char.trans (own n small))
    · have pos : 0 < digits.length := List.length_pos_iff.mpr single
      simp only [ih single, numeralFrom_singleton, List.length_singleton, padLeft_toDigits_succ pos,
        Nat.pow_succ]
      constructor
      · rintro ⟨value, ⟨fits, chars⟩, d, ⟨small, char⟩, rfl⟩
        have quotient : (value * 16 + d) / 16 = value := by omega
        have remainder : (value * 16 + d) % 16 = d := by omega
        rw [quotient, remainder, chars, ← char]
        exact ⟨by omega, rfl⟩
      · rintro ⟨fits, chars⟩
        obtain ⟨chars, char⟩ := List.append_inj' chars rfl
        exact ⟨n / 16, ⟨by omega, chars⟩, n % 16,
          ⟨Nat.mod_lt n (by decide), List.head_eq_of_cons_eq char⟩, by omega⟩

/-- The number's own numeral has small letters. -/
theorem map_toLower_padLeft_toDigits {width : Nat} (pos : 0 < width) (fits : n < 16 ^ width) :
    (padLeft width (Nat.toDigits 16 n)).map Char.toLower = padLeft width (Nat.toDigits 16 n) := by
  have small : ∀ d < 16, (Nat.digitChar d).toLower = Nat.digitChar d := by decide
  induction width generalizing n with
  | zero => cases pos
  | succ width ih =>
    rcases Nat.eq_zero_or_pos width with rfl | pos
    · have own : ∀ n < 16, (padLeft 1 (Nat.toDigits 16 n)).map Char.toLower
          = padLeft 1 (Nat.toDigits 16 n) := by decide
      exact own n fits
    · rw [padLeft_toDigits_succ pos, List.map_append, ih pos (by omega), List.map_singleton,
        small _ (Nat.mod_lt n (by decide))]

theorem isHexDigit_of_numeralFrom {value : Nat}
    (read : numeralFrom 16 hexDigit? value digits = some n) : ∀ c ∈ digits, isHexDigit c := by
  induction digits generalizing value with
  | nil => exact List.forall_mem_nil _
  | cons c digits ih =>
    rw [numeralFrom] at read
    split at read
    · rename_i d digit
      exact List.forall_mem_cons.mpr ⟨Option.isSome_of_eq_some digit, ih read⟩
    · cases read

/-! ## Groups that are read -/

namespace Guid

/-- Digits in groups, each but the last with a hyphen behind it. -/
theorem ungroup?_eq_some_iff :
    ungroup? lengths text = some digits ↔
      digits.length = lengths.sum ∧ text = group lengths digits := by
  induction lengths generalizing text digits with
  | nil =>
    rw [ungroup?, group, List.sum_nil, List.length_eq_zero_iff, Option.ite_none_right_eq_some,
      Option.some.injEq, List.isEmpty_iff]
    exact ⟨fun ⟨empty, same⟩ => ⟨same.symm, empty.trans same⟩,
      fun ⟨empty, same⟩ => ⟨same.trans empty, empty.symm⟩⟩
  | cons n lengths ih =>
    cases lengths with
    | nil =>
      rw [ungroup?, group, List.sum_singleton, Option.ite_none_right_eq_some, Option.some.injEq]
      exact ⟨fun ⟨length, same⟩ => ⟨same ▸ length, same⟩,
        fun ⟨length, same⟩ => ⟨same ▸ length, same⟩⟩
    | cons m lengths =>
      rw [ungroup?.eq_3 _ _ _ (by simp), group.eq_3 _ _ _ (by simp), List.sum_cons]
      constructor
      · intro read
        split at read
        · rename_i behind rest
          obtain ⟨more, others, rfl⟩ := Option.map_eq_some_iff.mp read
          obtain ⟨length, rfl⟩ := ih.mp others
          have whole : n ≤ text.length := by
            have : (text.drop n).length ≠ 0 := by rw [rest]; exact Nat.succ_ne_zero _
            rw [List.length_drop] at this
            omega
          have first : (text.take n).length = n := List.length_take_of_le whole
          rw [List.length_append, first, length, List.take_left' first, List.drop_left' first,
            ← rest, List.take_append_drop]
          exact ⟨rfl, rfl⟩
        · cases read
      · rintro ⟨length, rfl⟩
        have first : (digits.take n).length = n := List.length_take_of_le (by omega)
        have rest : ungroup? (m :: lengths) (group (m :: lengths) (digits.drop n))
            = some (digits.drop n) := ih.mpr ⟨by rw [List.length_drop]; omega, rfl⟩
        rw [List.drop_left' first, List.take_left' first]
        simp only [rest, Option.map_some, List.take_append_drop]

/-- Hyphens have no letter case. -/
theorem ungroup?_map_toLower :
    ungroup? lengths (text.map Char.toLower)
      = (ungroup? lengths text).map (List.map Char.toLower) := by
  induction lengths generalizing text with
  | nil => cases text <;> rfl
  | cons n lengths ih =>
    cases lengths with
    | nil =>
      rw [ungroup?, ungroup?, List.length_map]
      split <;> rfl
    | cons m lengths =>
      rw [ungroup?.eq_3 _ _ _ (by simp), ungroup?.eq_3 _ _ _ (by simp), ← List.map_drop]
      cases text.drop n with
      | nil => rfl
      | cons c rest =>
        by_cases hyphen : c = '-'
        · subst hyphen
          rw [List.map_cons, show Char.toLower '-' = '-' from rfl]
          simp only [ih, Option.map_map, ← List.map_take]
          refine congrArg (Option.map · _) (funext fun digits => ?_)
          exact List.map_append.symm
        · rw [List.map_cons]
          have other : c.toLower ≠ '-' := fun h => hyphen (eq_of_toLower_eq rfl h)
          simp [hyphen, other]

/-! ## Texts that are read -/

variable {g : Guid}

theorem ofDigits?_eq_some_iff : ofDigits? digits = some g ↔ digits.length = 32 ∧
    digits.map Char.toLower = padLeft 32 (Nat.toDigits 16 g.bits.toNat) := by
  rw [ofDigits?, Option.ite_none_right_eq_some, Option.map_eq_some_iff]
  refine and_congr_right fun length => ?_
  have some_digit : digits ≠ [] := by
    rintro rfl
    cases length
  simp only [hexNumeral?_eq_some_iff some_digit, length]
  constructor
  · rintro ⟨n, ⟨fits, chars⟩, rfl⟩
    have fits : n < 2 ^ 128 := fits
    rw [chars, BitVec.toNat_ofNat, Nat.mod_eq_of_lt fits]
  · intro chars
    refine ⟨g.bits.toNat, ⟨g.bits.isLt, chars⟩, ?_⟩
    rw [BitVec.ofNat_toNat, BitVec.setWidth_eq]

theorem map_toLower_text (g : Guid) : g.text.toList.map Char.toLower = g.text.toList := by
  have grouped : ungroup? groupLengths g.text.toList
      = some (padLeft 32 (Nat.toDigits 16 g.bits.toNat)) := by
    rw [ungroup?_eq_some_iff, Guid.text, String.toList_ofList]
    exact ⟨length_padLeft_toDigits (by decide) g.bits.isLt, rfl⟩
  have small := ungroup?_map_toLower.trans (congrArg (Option.map (List.map Char.toLower)) grouped)
  rw [Option.map_some, map_toLower_padLeft_toDigits (by decide) g.bits.isLt] at small
  exact (ungroup?_eq_some_iff.mp small).2.trans (ungroup?_eq_some_iff.mp grouped).2.symm

/-- A hyphenated text is read as the GUID that has this text in small letters. -/
theorem ofHyphenated?_eq_some_iff :
    ofHyphenated? text = some g ↔ text.map Char.toLower = g.text.toList := by
  have width : (padLeft 32 (Nat.toDigits 16 g.bits.toNat)).length = groupLengths.sum :=
    length_padLeft_toDigits (by decide) g.bits.isLt
  have grouped : text.map Char.toLower = g.text.toList ↔
      ungroup? groupLengths (text.map Char.toLower)
        = some (padLeft 32 (Nat.toDigits 16 g.bits.toNat)) := by
    rw [ungroup?_eq_some_iff, Guid.text, String.toList_ofList]
    exact (and_iff_right width).symm
  rw [grouped, ungroup?_map_toLower, ofHyphenated?, Option.bind_eq_some_iff, Option.map_eq_some_iff]
  refine exists_congr fun digits => and_congr_right fun cut => ?_
  rw [ofDigits?_eq_some_iff]
  exact and_iff_right (ungroup?_eq_some_iff.mp cut).1

/-- Is the text hyphenated digits? -/
def isHyphenated (text : List Char) : Bool :=
  match ungroup? groupLengths text with
  | some digits => digits.length = 32 && digits.all isHexDigit
  | none => false

theorem isHyphenated_iff : isHyphenated text ↔ ∃ digits : List Char, digits.length = 32 ∧
    (∀ c ∈ digits, isHexDigit c) ∧ text = group groupLengths digits := by
  have cut (digits : List Char) (length : digits.length = groupLengths.sum) :
      ungroup? groupLengths text = some digits ↔ text = group groupLengths digits := by
    rw [ungroup?_eq_some_iff, and_iff_right length]
  unfold isHyphenated
  constructor
  · intro h
    split at h
    · rename_i digits read
      rw [Bool.and_eq_true, decide_eq_true_eq, List.all_eq_true] at h
      exact ⟨digits, h.1, h.2, (cut digits h.1).mp read⟩
    · cases h
  · rintro ⟨digits, length, all, grouped⟩
    rw [(cut digits length).mpr grouped]
    exact Bool.and_eq_true_iff.mpr ⟨decide_eq_true length, List.all_eq_true.mpr all⟩

theorem isHyphenated_of_read (read : ofHyphenated? text = some g) : isHyphenated text := by
  obtain ⟨digits, cut, made⟩ := Option.bind_eq_some_iff.mp read
  rw [ofDigits?, Option.ite_none_right_eq_some, Option.map_eq_some_iff] at made
  obtain ⟨length, n, numeral, -⟩ := made
  refine isHyphenated_iff.mpr ⟨digits, length, ?_, (ungroup?_eq_some_iff.mp cut).2⟩
  rw [hexNumeral?] at numeral
  split at numeral
  · cases numeral
  · exact isHexDigit_of_numeralFrom numeral

/-- There are 32 digits and four hyphens. -/
theorem length_of_isHyphenated (h : isHyphenated text) : text.length = 36 := by
  obtain ⟨digits, length, -, rfl⟩ := isHyphenated_iff.mp h
  simp only [group, groupLengths, List.length_append, List.length_cons, List.length_take,
    List.length_drop, length]
  rfl

/-- There is a digit in front. -/
theorem head?_of_isHyphenated (h : isHyphenated text) : text.head? ≠ some '\x7b' := by
  obtain ⟨digits, length, all, rfl⟩ := isHyphenated_iff.mp h
  cases digits with
  | nil => cases length
  | cons c digits =>
    intro brace
    obtain rfl : c = '\x7b' := Option.some.inj brace
    exact absurd (all _ (.head _)) (by decide)

/-- What a hyphenated text in braces is read as. -/
theorem read_braced (inner : List Char) :
    (if isHyphenatedText ('\x7b' :: (inner ++ ['\x7d'])) then
        ofText? ('\x7b' :: (inner ++ ['\x7d'])) else none) = ofHyphenated? inner := by
  have last : ('\x7b' :: (inner ++ ['\x7d'])).getLast? = some '\x7d' := by
    rw [← List.cons_append, List.getLast?_concat]
  have hyphenated : isHyphenatedText ('\x7b' :: (inner ++ ['\x7d'])) = isHyphenated inner := by
    rw [isHyphenatedText, if_pos ⟨rfl, last, by simp⟩, List.drop_one, List.tail_cons,
      List.dropLast_concat]
    rfl
  rw [hyphenated]
  split
  · rename_i h
    have length := length_of_isHyphenated h
    have whole : ('\x7b' :: (inner ++ ['\x7d'])).length = 38 := by simp [length]
    rw [ofText?, if_neg (by omega), if_neg (by omega), if_pos ⟨whole, rfl, last⟩, List.drop_one,
      List.tail_cons, List.take_left' length]
  · rename_i h
    cases read : ofHyphenated? inner with
    | none => rfl
    | some g => exact absurd (isHyphenated_of_read read) h

/-- What a hyphenated text without braces is read as. -/
theorem read_plain (plain : ¬∃ inner, text = '\x7b' :: (inner ++ ['\x7d'])) :
    (if isHyphenatedText text then ofText? text else none) = ofHyphenated? text := by
  have hyphenated : isHyphenatedText text = isHyphenated text := by
    rw [isHyphenatedText, if_neg]
    · rfl
    · rintro ⟨first, last, several⟩
      obtain ⟨rest, rfl⟩ := List.head?_eq_some_iff.mp first
      rcases List.eq_nil_or_concat' rest with rfl | ⟨inner, c, rfl⟩
      · exact absurd several (by decide)
      · rw [← List.cons_append, List.getLast?_concat] at last
        exact plain ⟨inner, by rw [Option.some.inj last]⟩
  rw [hyphenated]
  split
  · rename_i h
    rw [ofText?, if_neg (by have := length_of_isHyphenated h; omega),
      if_pos (length_of_isHyphenated h)]
  · rename_i h
    cases read : ofHyphenated? text with
    | none => rfl
    | some g => exact absurd (isHyphenated_of_read read) h

theorem read_eq_some_iff :
    (if isHyphenatedText text then ofText? text else none) = some g ↔
      text.map Char.toLower = g.text.toList ∨
        text.map Char.toLower = '\x7b' :: (g.text.toList ++ ['\x7d']) := by
  by_cases braced : ∃ inner, text = '\x7b' :: (inner ++ ['\x7d'])
  · obtain ⟨inner, rfl⟩ := braced
    have whole : ('\x7b' :: (inner ++ ['\x7d'])).map Char.toLower
        = '\x7b' :: (inner.map Char.toLower ++ ['\x7d']) := by
      rw [List.map_cons, List.map_append]
      rfl
    have not_bare : ¬('\x7b' :: (inner ++ ['\x7d'])).map Char.toLower = g.text.toList := fun same =>
      head?_of_isHyphenated (isHyphenated_of_read (ofHyphenated?_eq_some_iff.mpr same)) rfl
    rw [read_braced, ofHyphenated?_eq_some_iff, or_iff_right not_bare, whole, List.cons_inj_right,
      List.append_left_inj]
  · have not_braced : ¬text.map Char.toLower = '\x7b' :: (g.text.toList ++ ['\x7d']) := by
      intro same
      obtain ⟨c, rest, rfl, first, others⟩ := List.map_eq_cons_iff.mp same
      obtain ⟨inner, ends, rfl, -, last⟩ := List.map_eq_append_iff.mp others
      obtain ⟨d, _, rfl, last, none⟩ := List.map_eq_cons_iff.mp last
      rw [List.map_eq_nil_iff.mp none, eq_of_toLower_eq rfl first,
        eq_of_toLower_eq rfl last] at braced
      exact braced ⟨inner, rfl⟩
    rw [read_plain braced, ofHyphenated?_eq_some_iff, or_iff_left not_braced]

end Guid

namespace Expr

variable {e : Expr} {g : Guid}

/-- A string constant is read as a GUID if it is the text of the GUID, in any letter case, or this
text in braces. -/
theorem guidConstant?_eq_some_iff :
    e.guidConstant? = some g ↔ ∃ text, e = .constant (.string text) ∧
      (equalIgnoringCase text g.text ∨ equalIgnoringCase text ("\x7b" ++ g.text ++ "\x7d")) := by
  unfold guidConstant?
  split
  · rename_i text
    have unique {P : String → Prop} :
        (∃ text', Expr.constant (.string text) = .constant (.string text') ∧ P text') ↔ P text :=
      ⟨fun ⟨_, same, holds⟩ => by cases same; exact holds, fun holds => ⟨text, rfl, holds⟩⟩
    have braced : ("\x7b" ++ g.text ++ "\x7d").toList.map Char.toLower
        = '\x7b' :: (g.text.toList ++ ['\x7d']) := by
      rw [String.toList_append, String.toList_append, List.map_append, List.map_append,
        g.map_toLower_text]
      rfl
    rw [unique, Guid.read_eq_some_iff, equalIgnoringCase, equalIgnoringCase, beq_iff_eq, beq_iff_eq,
      braced, g.map_toLower_text]
  · rename_i other
    refine ⟨fun h => (Option.some_ne_none g h.symm).elim, ?_⟩
    rintro ⟨text, same, -⟩
    exact absurd same (other text)

end Expr

end PredicateLang
