import PredicateLang.Proofs.Canonical.KeyPath
import PredicateLang.Proofs.Number.Literal

/-!
# Literals are read as constants

Keywords, strings and numerals, each as the text of a constant. A negative constant has no token
of its own: its text is read as the negation of the constant without the sign, which is folded at
once. For integers the kind is part of the constant, and the kind of the numeral without the sign
may be another one; the negation has to arrive at the right kind again.
-/

open PredicateLang.Lexing PredicateLang.Parser PredicateLang.Text

namespace PredicateLang.Grammar

variable {text : List Char} {phrase : Phrase} {operands : List Operand}

/-! ## Single words -/

/-- A keyword is no word for a place. -/
theorem indexSymbol_keyword {word : String} {t : Token} (h : Token.ofKeyword? word = some t) :
    indexSymbol? t = none := by
  unfold Token.ofKeyword? at h
  split at h <;> cases h <;> rfl

/-- A keyword that is a phrase. -/
theorem spells_keyword (word : String) (t : Token) (isName : isName word)
    (keyword : Token.ofKeyword? word = some t)
    (derives : ∀ p, Derives noArguments phrase [⟨p, t⟩] operands) :
    Spells word.toList phrase operands := by
  intro p rest boundary
  obtain ⟨p', passes⟩ := Passes.name (p := p) isName boundary
  rw [keyword, Option.getD_some] at passes
  refine ⟨_, p', passes, derives p, ?_⟩
  rintro _ ⟨⟩ symbol
  rw [indexSymbol_keyword keyword] at symbol
  cases symbol

theorem spells_string (s : String) :
    Spells (Value.quote s).toList .primary [.expr (.constant (.string s))] := by
  intro p rest _
  obtain ⟨p', passes⟩ : ∃ p', Passes p ((Value.quote s).toList ++ rest) _ p' rest := Passes.string s
  exact ⟨_, p', passes, .leaf rfl (Production.makes_iff.mpr ⟨rfl, rfl⟩), by rintro _ ⟨⟩ ⟨⟩⟩

theorem spells_digits {n : Nat} (le : n ≤ greatestInteger) :
    Spells (Nat.toDigits 10 n) .primary [.expr (.constant (integerLiteral n))] := by
  intro p rest boundary
  have digits : ∀ c ∈ Nat.toDigits 10 n, c.isDigit := fun c =>
    Nat.isDigit_of_mem_toDigits (by decide) (by decide)
  have read := readNumber_integer (p := p) digits (decimalNumeral_toDigits n) le boundary
  obtain ⟨p', passes⟩ := Passes.number (by simp)
    (fun c mem => digits c (List.mem_of_mem_head? mem)) read
  exact ⟨_, p', passes, .leaf rfl (Production.makes_iff.mpr ⟨rfl, rfl⟩), by rintro _ ⟨⟩ ⟨⟩⟩

theorem spells_double {whole fraction : List Char} {x : Float} (ne : whole ≠ [])
    (digits : ∀ c ∈ whole, c.isDigit) (ne' : fraction ≠ []) (digits' : ∀ c ∈ fraction, c.isDigit)
    (value : Number.readFloat? (whole ++ '.' :: fraction) = some x) :
    Spells (whole ++ '.' :: fraction) .primary [.expr (.constant (.double x))] := by
  intro p rest boundary
  have read := readNumber_double (p := p) digits digits' ne' boundary
  rw [value, Option.getD_some] at read
  have first : ∀ c ∈ (whole ++ '.' :: fraction).head?, c.isDigit := by
    rw [List.head?_append_of_ne_nil _ ne]
    exact fun c mem => digits c (List.mem_of_mem_head? mem)
  obtain ⟨p', passes⟩ := Passes.number (by simp) first read
  exact ⟨_, p', passes, .leaf rfl (Production.makes_iff.mpr ⟨rfl, rfl⟩), by rintro _ ⟨⟩ ⟨⟩⟩

/-- The negation of a constant, when it is folded. -/
theorem spells_minus {value negative : Value} (h : Spells text .primary [.expr (.constant value)])
    (folds : (Expr.constant value).negate = .constant negative) :
    Spells ('-' :: text) .signed [.expr (.constant negative)] := by
  intro p rest boundary
  obtain ⟨p₁, minus⟩ : ∃ p₁, Passes p ('-' :: (text ++ rest)) [⟨p, .minus⟩] p₁ _ :=
    Passes.sign rfl
  obtain ⟨w, p', passes, derives, -⟩ := h p₁ rest boundary
  refine ⟨_, p', minus.trans passes, ?_, by rintro _ ⟨⟩ ⟨⟩⟩
  have made : Production.Makes noArguments p .negate [.expr (.constant value)]
      (.expr (.constant negative)) := Production.makes_iff.mpr ⟨rfl, by rw [← folds]; rfl⟩
  exact .negate rfl (.navigation_signed (.primary_navigation derives)) made

/-! ## Integers -/

section Integers

variable {k : IntegerKind} {i : Int} {m : Nat} {n : Integer}

theorem ofInt?_of_fits (h : k.least ≤ i ∧ i ≤ k.greatest) :
    Integer.ofInt? k i = some ⟨k, i, h.1, h.2⟩ := dif_pos h

theorem ofInt?_of_not_fits (h : ¬(k.least ≤ i ∧ i ≤ k.greatest)) : Integer.ofInt? k i = none :=
  dif_neg h

theorem int_range : IntegerKind.int.least = -2147483648 ∧ IntegerKind.int.greatest = 2147483647 := by
  decide

theorem long_range : IntegerKind.long.least = -9223372036854775808
    ∧ IntegerKind.long.greatest = 9223372036854775807 := by
  decide

theorem ulong_range : IntegerKind.ulong.least = 0
    ∧ IntegerKind.ulong.greatest = 18446744073709551615 := by
  decide

/-- A numeral has the first of the three kinds that it fits. -/
theorem integerLiteral_int (h : IntegerKind.int.least ≤ m ∧ (m : Int) ≤ IntegerKind.int.greatest) :
    integerLiteral m = .integer ⟨.int, m, h.1, h.2⟩ := by
  simp [integerLiteral, ofInt?_of_fits h]

theorem integerLiteral_long (not_int : IntegerKind.int.greatest < m)
    (h : IntegerKind.long.least ≤ m ∧ (m : Int) ≤ IntegerKind.long.greatest) :
    integerLiteral m = .integer ⟨.long, m, h.1, h.2⟩ := by
  have int : Integer.ofInt? .int m = none := ofInt?_of_not_fits (by omega)
  simp [integerLiteral, int, ofInt?_of_fits h]

theorem integerLiteral_ulong (not_long : IntegerKind.long.greatest < m)
    (h : IntegerKind.ulong.least ≤ m ∧ (m : Int) ≤ IntegerKind.ulong.greatest) :
    integerLiteral m = .integer ⟨.ulong, m, h.1, h.2⟩ := by
  have int : Integer.ofInt? .int m = none :=
    ofInt?_of_not_fits (by have := int_range; have := long_range; omega)
  have long : Integer.ofInt? .long m = none := ofInt?_of_not_fits (by omega)
  simp [integerLiteral, int, long, ofInt?_of_fits h]

/-- The numeral of an integer literal is read with the kind of the integer. -/
theorem integerLiteral_natAbs (literal : (Value.integer n).isLiteral) (sign : 0 ≤ n.val) :
    n.val.natAbs ≤ greatestInteger ∧ integerLiteral n.val.natAbs = .integer n := by
  obtain ⟨kind, val, least, greatest⟩ := n
  lift val to Nat using sign
  have all : greatestInteger = 18446744073709551615 := rfl
  have int := int_range
  have long := long_range
  have ulong := ulong_range
  cases kind with
  | int => exact ⟨by dsimp only; omega, integerLiteral_int ⟨least, greatest⟩⟩
  | long =>
    simp only [Value.isLiteral, Bool.or_eq_true, decide_eq_true_eq] at literal
    exact ⟨by dsimp only; omega, integerLiteral_long (by omega) ⟨least, greatest⟩⟩
  | ulong =>
    simp only [Value.isLiteral, decide_eq_true_eq] at literal
    exact ⟨by dsimp only; omega, integerLiteral_ulong literal ⟨least, greatest⟩⟩
  | byte | sbyte | ushort | short | uint => cases literal

/-- So is the numeral behind a minus sign, once the sign is taken in. -/
theorem negate_integerLiteral (literal : (Value.integer n).isLiteral) (sign : n.val < 0) :
    n.val.natAbs ≤ greatestInteger
      ∧ (Expr.constant (integerLiteral n.val.natAbs)).negate = .constant (.integer n) := by
  obtain ⟨kind, val, least, greatest⟩ := n
  obtain ⟨m, rfl⟩ : ∃ m : Nat, val = -(m : Int) := ⟨val.natAbs, by dsimp only at sign; omega⟩
  have all : greatestInteger = 18446744073709551615 := rfl
  have int := int_range
  have long := long_range
  have ulong := ulong_range
  rw [Int.natAbs_neg, Int.natAbs_natCast]
  cases kind with
  | int =>
    have int_literal : IntegerKind.int.least ≤ -(m : Int) ∧ -(m : Int) ≤ IntegerKind.int.greatest :=
      ⟨least, greatest⟩
    refine ⟨by omega, ?_⟩
    -- The least number of the kind `int` is written with a numeral of the kind `long`.
    by_cases fits : (m : Int) ≤ IntegerKind.int.greatest
    · rw [integerLiteral_int ⟨by omega, fits⟩]
      simp [Expr.negate, Expr.negateInteger?, ofInt?_of_fits int_literal]
    · rw [integerLiteral_long (by omega) ⟨by omega, by omega⟩]
      simp [Expr.negate, Expr.negateInteger?, ofInt?_of_fits int_literal]
  | long =>
    simp only [Value.isLiteral, Bool.or_eq_true, decide_eq_true_eq] at literal
    have no_int : Integer.ofInt? .int (-(m : Int)) = none := ofInt?_of_not_fits (by omega)
    have long_literal : IntegerKind.long.least ≤ -(m : Int)
        ∧ -(m : Int) ≤ IntegerKind.long.greatest := ⟨least, greatest⟩
    refine ⟨by omega, ?_⟩
    -- The least number of the kind `long` is written with a numeral of the kind `ulong`.
    by_cases fits : (m : Int) ≤ IntegerKind.long.greatest
    · rw [integerLiteral_long (by omega) ⟨by omega, fits⟩]
      simp [Expr.negate, Expr.negateInteger?, no_int, ofInt?_of_fits long_literal]
    · have least_long : (m : Int) = Nat.pow 2 63 := by
        have : (Nat.pow 2 63 : Int) = 9223372036854775808 := rfl
        omega
      rw [integerLiteral_ulong (by omega) ⟨by omega, by omega⟩]
      simp only [Expr.negate, Expr.negateInteger?, if_pos least_long, ofInt?_of_fits long_literal,
        Option.map_some, Option.getD_some]
  | ulong =>
    dsimp only at sign
    omega
  | byte | sbyte | ushort | short | uint => cases literal

end Integers

/-! ## All constants -/

section Constants

variable {value : Value}

/-- The literal is read as its value; without a minus sign it is a primary expression. -/
def IsRead (value : Value) : Prop :=
  Spells value.literal.toList .signed [.expr (.constant value)]
    ∧ (value.isSigned = false → Spells value.literal.toList .primary [.expr (.constant value)])

theorem isRead_unsigned (h : Spells value.literal.toList .primary [.expr (.constant value)]) :
    IsRead value :=
  ⟨h.lift fun derives => .navigation_signed (.primary_navigation derives), fun _ => h⟩

theorem isRead_signed {digits : List Char} (chars : value.literal.toList = '-' :: digits)
    (h : Spells ('-' :: digits) .signed [.expr (.constant value)]) : IsRead value := by
  have sign : value.isSigned = true := by simp [Value.isSigned, chars]
  rw [IsRead, sign, chars]
  exact ⟨h, nofun⟩

theorem isRead_null : IsRead .null :=
  isRead_unsigned (spells_keyword "nil" .nil (by decide) (by decide) fun _ =>
    .leaf rfl (Production.makes_iff.mpr ⟨rfl, rfl⟩))

theorem isRead_boolean (b : Bool) : IsRead (.boolean b) := by
  cases b with
  | false =>
    exact isRead_unsigned (spells_keyword "NO" (.boolean false) (by decide) (by decide) fun _ =>
      .leaf rfl (Production.makes_iff.mpr ⟨rfl, rfl⟩))
  | true =>
    exact isRead_unsigned (spells_keyword "YES" (.boolean true) (by decide) (by decide) fun _ =>
      .leaf rfl (Production.makes_iff.mpr ⟨rfl, rfl⟩))

theorem isRead_integer {n : Integer} (h : (Value.integer n).isLiteral) : IsRead (.integer n) := by
  have text : (Value.integer n).literal = integerText n.val := rfl
  by_cases sign : n.val < 0
  · obtain ⟨le, folds⟩ := negate_integerLiteral h sign
    have chars : (Value.integer n).literal.toList = '-' :: Nat.toDigits 10 n.val.natAbs := by
      simp [text, integerText, sign]
    exact isRead_signed chars (spells_minus (spells_digits le) folds)
  · obtain ⟨le, kind⟩ := integerLiteral_natAbs h (by omega)
    have primary := spells_digits le
    have chars : (Value.integer n).literal.toList = Nat.toDigits 10 n.val.natAbs := by
      simp [text, integerText, sign]
    rw [kind, ← chars] at primary
    exact isRead_unsigned primary

theorem isRead_double {x : Float} (h : (Value.double x).isLiteral) : IsRead (.double x) := by
  rw [Value.isLiteral] at h
  split at h
  · rename_i negative m e narrow finite
    obtain ⟨whole, fraction, y, ne, digits, ne', digits', chars, value, sign⟩ :=
      Number.read_literal finite
    have text : (Value.double x).literal = Number.Format.literal.text (.ofFloat x) := rfl
    rw [← text] at chars
    have primary := spells_double ne digits ne' digits' value
    cases negative with
    | false =>
      obtain rfl : x = y := sign
      rw [if_neg Bool.false_ne_true, List.nil_append] at chars
      rw [← chars] at primary
      exact isRead_unsigned primary
    | true =>
      obtain rfl : x = -y := sign
      exact isRead_signed chars (spells_minus primary rfl)
  · cases h

theorem isRead_of_isLiteral (h : value.isLiteral) : IsRead value := by
  cases value with
  | null => exact isRead_null
  | boolean b => exact isRead_boolean b
  | integer n => exact isRead_integer h
  | double x => exact isRead_double h
  | string s => exact isRead_unsigned (spells_string s)
  | float | guid | date | array | object => cases h

end Constants

end PredicateLang.Grammar
