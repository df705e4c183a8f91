import PredicateLang.Number.Format
import PredicateLang.Number.Reading
import PredicateLang.Proofs.Lexing
import PredicateLang.Proofs.Number.Nearest
import PredicateLang.Proofs.Number.Shortest

/-!
# Number literals are read back

A finite double is written as digits, a point and digits, without an exponent. However the point is
placed, what is read is the decimal that was chosen for the number; and that decimal is read as the
number.
-/

open PredicateLang.Lexing PredicateLang.Text

namespace PredicateLang.Number

variable {whole fraction : List Char} {d : Scientific}

/-! ## Reading -/

theorem toLower_of_isDigit {c : Char} (h : c.isDigit) : c.toLower = c := by
  have digit := toNat_of_isDigit h
  unfold Char.toLower
  split
  · rename_i capital
    have : 65 ≤ c.toNat := UInt32.le_iff_toNat_le.mp capital.1
    omega
  · rfl

/-- What begins with a digit is not the name of a number. -/
theorem ne_word (word : String) (letter : ∃ d rest, word.toList = d :: rest ∧ d.isDigit = false)
    {c : Char} (digit : c.isDigit) (text : List Char) :
    (c :: text).map Char.toLower ≠ word.toList := by
  obtain ⟨d, rest, chars, letter⟩ := letter
  intro e
  rw [chars, List.map_cons, toLower_of_isDigit digit] at e
  rw [(List.cons.inj e).1, letter] at digit
  cases digit

/-- Digits, a point and digits are read as one number with a negative exponent. -/
theorem ofText_decimal (ne : whole ≠ []) (digits : ∀ c ∈ whole, c.isDigit)
    (digits' : ∀ c ∈ fraction, c.isDigit) :
    Numeral.ofText? (whole ++ '.' :: fraction)
      = some (.decimal false (Nat.ofDigitChars 10 (whole ++ fraction) 0) (-fraction.length)) := by
  have point : ∀ c ∈ ('.' :: fraction).head?, c.isDigit = false := by
    rintro c ⟨⟩
    decide
  have none : ∀ c ∈ ([] : List Char).head?, c.isDigit = false := nofun
  have all : ∀ c ∈ whole ++ fraction, c.isDigit := fun c mem =>
    (List.mem_append.mp mem).elim (digits c) (digits' c)
  have taken := takeWhile_append digits' none
  have dropped := dropWhile_append digits' none
  rw [List.append_nil] at taken dropped
  have unsigned : Numeral.unsigned? false (whole ++ '.' :: fraction)
      = some (.decimal false (Nat.ofDigitChars 10 (whole ++ fraction) 0) (-fraction.length)) := by
    obtain ⟨c, tail, rfl⟩ := List.exists_cons_of_ne_nil ne
    have digit := digits c List.mem_cons_self
    rw [Numeral.unsigned?, List.cons_append, if_neg (ne_word "nan" ⟨'n', _, rfl, by decide⟩ digit _),
      if_neg (not_or.mpr ⟨ne_word "inf" ⟨'i', _, rfl, by decide⟩ digit _,
        ne_word "infinity" ⟨'i', _, rfl, by decide⟩ digit _⟩), ← List.cons_append]
    simp only [takeWhile_append digits point, dropWhile_append digits point, taken, dropped]
    rw [if_neg (by simp), Numeral.digitsValue, numeralFrom_digits all]
    simp [Numeral.exponent?]
  obtain ⟨c, tail, rfl⟩ := List.exists_cons_of_ne_nil ne
  have digit := digits c List.mem_cons_self
  unfold Numeral.ofText?
  split
  · rename_i e
    rw [(List.cons.inj e).1] at digit
    cases digit
  · rename_i e
    rw [(List.cons.inj e).1] at digit
    cases digit
  · exact unsigned

/-! ## Writing -/

/-- The digits before and behind the point of a literal. -/
theorem plain_literal (d : Scientific) : ∃ whole fraction : List Char,
    Format.literal.plain d = whole ++ '.' :: fraction ∧ whole ≠ [] ∧ (∀ c ∈ whole, c.isDigit)
      ∧ fraction ≠ [] ∧ (∀ c ∈ fraction, c.isDigit)
      ∧ (Nat.ofDigitChars 10 (whole ++ fraction) 0 : ℚ) * 10 ^ (-(fraction.length : Int))
        = d.value := by
  have digits : ∀ c ∈ Nat.toDigits 10 d.digits, c.isDigit := fun c =>
    Nat.isDigit_of_mem_toDigits (by decide) (by decide)
  have zeros : ∀ n, ∀ c ∈ List.replicate n '0', c.isDigit := by
    intro n c mem
    rw [List.eq_of_mem_replicate mem]
    decide
  have some_digit : 0 < (Nat.toDigits 10 d.digits).length := Nat.length_toDigits_pos
  rw [Format.plain]
  by_cases nonnegative : 0 ≤ d.exponent
  · refine ⟨Nat.toDigits 10 d.digits ++ List.replicate d.exponent.toNat '0', ['0'], ?_, by simp,
      ?_, by simp, by simp, ?_⟩
    · rw [if_pos nonnegative]
      rfl
    · exact fun c mem => (List.mem_append.mp mem).elim (digits c) (zeros _ c)
    · obtain ⟨n, exponent⟩ : ∃ n : Nat, d.exponent = n := ⟨d.exponent.toNat, by omega⟩
      rw [Scientific.value, exponent, Nat.ofDigitChars_append, Nat.ofDigitChars_append,
        Nat.ofDigitChars_ten_toDigits, Nat.ofDigitChars_replicate_zero, Nat.ofDigitChars_cons,
        Nat.ofDigitChars_nil, zpow_natCast]
      simp
      ring
  · by_cases whole : 0 < ((Nat.toDigits 10 d.digits).length : Int) + d.exponent
    · obtain ⟨n, length⟩ : ∃ n : Nat,
          ((Nat.toDigits 10 d.digits).length : Int) + d.exponent = n :=
        ⟨(((Nat.toDigits 10 d.digits).length : Int) + d.exponent).toNat, by omega⟩
      refine ⟨(Nat.toDigits 10 d.digits).take n, (Nat.toDigits 10 d.digits).drop n, ?_, ?_,
        fun c mem => digits c (List.mem_of_mem_take mem), ?_,
        fun c mem => digits c (List.mem_of_mem_drop mem), ?_⟩
      · rw [if_neg nonnegative, if_pos whole, length, Int.toNat_natCast]
      · rw [Ne, List.take_eq_nil_iff]
        rintro (none | none)
        · omega
        · simp [none] at some_digit
      · rw [Ne, List.drop_eq_nil_iff]
        omega
      · rw [List.take_append_drop, Nat.ofDigitChars_ten_toDigits, List.length_drop,
          Scientific.value]
        congr 2
        omega
    · refine ⟨['0'], List.replicate (-(((Nat.toDigits 10 d.digits).length : Int)
        + d.exponent)).toNat '0' ++ Nat.toDigits 10 d.digits, ?_, by simp, by simp, by simp,
        fun c mem => (List.mem_append.mp mem).elim (zeros _ c) (digits c), ?_⟩
      · rw [if_neg nonnegative, if_neg whole]
        rfl
      · rw [Nat.ofDigitChars_append, Nat.ofDigitChars_append, Nat.ofDigitChars_cons,
          Nat.ofDigitChars_nil, Nat.ofDigitChars_replicate_zero]
        simp only [Char.reduceToNat, Nat.sub_self, Nat.mul_zero, Nat.add_zero,
          Nat.ofDigitChars_ten_toDigits]
        rw [List.length_append, List.length_replicate, Scientific.value]
        congr 2
        push_cast
        omega

/-! ## Both -/

/-- A finite double is written as a numeral that is read as the double; a negative one has a minus
sign in front, which is read as its own. -/
theorem read_literal {x : Float} {negative : Bool} {m : Nat} {e : Int} {narrow : Bool}
    (finite : Binary.ofFloat x = .finite negative m e narrow) :
    ∃ (whole fraction : List Char) (y : Float), whole ≠ [] ∧ (∀ c ∈ whole, c.isDigit)
      ∧ fraction ≠ [] ∧ (∀ c ∈ fraction, c.isDigit)
      ∧ (Format.literal.text (.ofFloat x)).toList
        = (if negative then ['-'] else []) ++ (whole ++ '.' :: fraction)
      ∧ readFloat? (whole ++ '.' :: fraction) = some y ∧ x = if negative then -y else y := by
  obtain ⟨whole, fraction, plain, ne, digits, ne', digits', value⟩ := plain_literal
    (Scientific.shortest .up m e narrow)
  have text : (Format.literal.text (.ofFloat x)).toList
      = (if negative then ['-'] else []) ++ (whole ++ '.' :: fraction) := by
    rw [finite, Format.text]
    have no_exponent : ∀ power, Format.literal.isPlain power = true := fun _ => rfl
    rw [no_exponent, if_pos rfl, String.toList_ofList,
      show Format.literal.plain (Scientific.shortest Format.literal.tie m e narrow)
        = whole ++ '.' :: fraction from plain]
    cases negative <;> rfl
  refine ⟨whole, fraction, _, ne, digits, ne', digits', text, by
    rw [readFloat?, ofText_decimal ne digits digits']; rfl, ?_⟩
  rw [Numeral.toFloat]
  obtain rfl | pos := m.eq_zero_or_pos
  · have nothing : Nat.ofDigitChars 10 (whole ++ fraction) 0 = 0 := by
      have zero : Scientific.value (.shortest .up 0 e narrow) = 0 := by
        simp [Scientific.shortest, Scientific.value]
      rw [zero, mul_eq_zero] at value
      rcases value with zero | zero
      · exact_mod_cast zero
      · exact absurd zero (zpow_ne_zero _ (by norm_num))
    have read : ofDecimal false 0 (-fraction.length) = 0.0 := by
      rw [ofDecimal, if_neg Bool.false_ne_true]
      exact if_pos (.inl rfl)
    rw [nothing, read]
    exact eq_zero finite
  · obtain ⟨double, rfl, rfl⟩ := eq_ofParts finite pos
    obtain ⟨z, inside, scaled⟩ : (Scientific.shortest .up m e (isNarrow m e)).IsInside m e _ :=
      Scientific.isInside_shortest pos
    rw [ofDecimal_eq double inside (value.trans scaled)]
    cases negative
    · rfl
    · exact (neg_ofParts double).symm

end PredicateLang.Number
