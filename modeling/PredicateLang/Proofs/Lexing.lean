import PredicateLang.Proofs.Text.Letters
import PredicateLang.Value.Literal

/-!
# Cutting off words

`Lexing.Passes position text words position' rest` says that the lexer takes `words` off the front
of a text and goes on with `rest`. Passing is transitive, so what a long text is cut into follows
from what its pieces are cut into; each piece is one token, read by `readToken`, or white space.

A name or a number goes on as long as its characters do, so its lemma asks for a boundary behind
it (`isBoundary`). The boundaries are those that canonical text has: the end, a blank, a bracket,
a comma, or a point that no digit follows.
-/

namespace PredicateLang.Lexing

open PredicateLang.Text

variable {c : Char} {p p' p'' : Nat} {text rest rest' : List Char} {u v : List Lexeme}

/-! ## Passing -/

/-- What is cut, with words in front. -/
def after (words : List Lexeme) (lexing : Lexing) : Lexing :=
  ⟨words ++ lexing.lexemes, lexing.fault⟩

theorem ofChars_end (h : text.dropWhile isWhiteSpace = []) :
    ofChars p text = ⟨[⟨p + text.length, .eof⟩], none⟩ := by
  rw [ofChars]
  split
  · rfl
  · rename_i e
    simp [h] at e

theorem ofChars_token (h : text.dropWhile isWhiteSpace = c :: rest) :
    ofChars p text = match readToken (p + (text.length - (rest.length + 1))) c rest with
      | .error error => ⟨[], some error⟩
      | .ok (t, rest') => (ofChars (p + (text.length - rest'.length)) rest').after
          [⟨p + (text.length - (rest.length + 1)), t⟩] := by
  rw [ofChars]
  split
  · rename_i e
    simp [h] at e
  · rename_i c' rest'' e
    obtain ⟨rfl, rfl⟩ := List.cons.inj (h.symm.trans e)
    dsimp only
    split
    · rename_i read
      rw [read]
    · rename_i read
      rw [read]
      rfl

/-- The lexer cuts `words` off the text at `p` and goes on with `rest` at `p'`. -/
def Passes (p : Nat) (text : List Char) (words : List Lexeme) (p' : Nat) (rest : List Char) :
    Prop :=
  ofChars p text = (ofChars p' rest).after words

namespace Passes

theorem refl (p : Nat) (text : List Char) : Passes p text [] p text := by
  rw [Passes, Lexing.after, List.nil_append]

theorem trans (h : Passes p text u p' rest) (h' : Passes p' rest v p'' rest') :
    Passes p text (u ++ v) p'' rest' := by
  unfold Passes at *
  rw [h, h', Lexing.after, Lexing.after, Lexing.after, List.append_assoc]

/-- White space is skipped. -/
theorem blank (white : isWhiteSpace c) : Passes p (c :: text) [] (p + 1) text := by
  have skipped : (c :: text).dropWhile isWhiteSpace = text.dropWhile isWhiteSpace :=
    List.dropWhile_cons_of_pos white
  unfold Passes
  cases h : text.dropWhile isWhiteSpace with
  | nil =>
    rw [ofChars_end (skipped.trans h), ofChars_end h, List.length_cons, Lexing.after]
    simp [Nat.add_assoc, Nat.add_comm 1]
  | cons d rest =>
    have le : rest.length + 1 ≤ text.length := by
      have := length_dropWhile_le isWhiteSpace text
      rwa [h] at this
    have start : p + ((c :: text).length - (rest.length + 1))
        = p + 1 + (text.length - (rest.length + 1)) := by
      rw [List.length_cons]
      omega
    rw [ofChars_token (skipped.trans h), ofChars_token h, start]
    cases read : readToken (p + 1 + (text.length - (rest.length + 1))) d rest with
    | error error => rfl
    | ok result =>
      obtain ⟨t, rest'⟩ := result
      have lt := readToken_length read
      have next : p + ((c :: text).length - rest'.length) = p + 1 + (text.length - rest'.length) := by
        rw [List.length_cons] at *
        omega
      dsimp only
      rw [next]
      rfl

/-- A token is read. -/
theorem token {t : Token} (black : isWhiteSpace c = false)
    (read : readToken p c rest = .ok (t, rest')) :
    Passes p (c :: rest) [⟨p, t⟩] (p + (rest.length + 1 - rest'.length)) rest' := by
  have unskipped : (c :: rest).dropWhile isWhiteSpace = c :: rest :=
    List.dropWhile_cons_of_neg (by simp [black])
  have start : p + ((c :: rest).length - (rest.length + 1)) = p := by simp
  rw [Passes, ofChars_token unskipped, start, read]
  rfl

end Passes

/-! ## Boundaries -/

/-- Neither a name nor a number goes on with the text. -/
def isBoundary : List Char → Bool
  | [] => true
  | c :: rest =>
    if c = '.' then rest.head?.all (!·.isDigit) else [' ', ',', '(', ')', '[', ']'].contains c

/-- The characters that a boundary begins with. -/
def boundaryChars : List Char := ['.', ' ', ',', '(', ')', '[', ']']

theorem mem_boundaryChars (h : isBoundary text) : ∀ c ∈ text.head?, c ∈ boundaryChars := by
  cases text with
  | nil => simp
  | cons c rest =>
    rintro _ ⟨⟩
    rw [isBoundary] at h
    split at h
    · rename_i point
      exact point ▸ List.mem_cons_self
    · exact List.mem_cons_of_mem _ (List.contains_iff_mem.mp h)

theorem isNameChar_of_boundary (h : isBoundary text) :
    ∀ c ∈ text.head?, isNameChar c = false := by
  have none : ∀ c ∈ boundaryChars, isNameChar c = false := forall_mem_of_all (by decide)
  exact fun c mem => none c (mem_boundaryChars h c mem)

theorem isDigit_of_boundary (h : isBoundary text) : ∀ c ∈ text.head?, c.isDigit = false := by
  have none : ∀ c ∈ boundaryChars, c.isDigit = false := forall_mem_of_all (by decide)
  exact fun c mem => none c (mem_boundaryChars h c mem)

theorem fractionOf_boundary (h : isBoundary text) : fractionOf text = [] := by
  unfold fractionOf
  split
  · simp_all [isBoundary]
  · rfl

theorem exponentOf_boundary (h : isBoundary text) : exponentOf text = [] := by
  have mark : ∀ c ∈ boundaryChars, ¬(c = 'e' ∨ c = 'E') := by simp [boundaryChars]
  have mem := mem_boundaryChars h
  unfold exponentOf
  split
  · rw [if_neg (mark _ (mem _ rfl))]
  · rw [if_neg (fun both => mark _ (mem _ rfl) both.1)]
  · rfl

/-- The longest part of a text whose characters all have a property ends where one has it not. -/
theorem takeWhile_append {q : Char → Bool} (all : ∀ c ∈ text, q c)
    (stops : ∀ c ∈ rest.head?, q c = false) : (text ++ rest).takeWhile q = text := by
  rw [List.takeWhile_append_of_pos all]
  cases rest with
  | nil => simp
  | cons c rest => simp [stops c rfl]

theorem dropWhile_append {q : Char → Bool} (all : ∀ c ∈ text, q c)
    (stops : ∀ c ∈ rest.head?, q c = false) : (text ++ rest).dropWhile q = rest := by
  rw [List.dropWhile_append_of_pos all]
  cases rest with
  | nil => simp
  | cons c rest => simp [stops c rfl]

/-! ## Which reader a character chooses -/

/-- The characters that signs begin with. -/
def signChars : List Char :=
  ['*', '=', '<', '>', '!', '&', '|', ':', '.', ',', '+', '-', '/', '(', ')', '[', ']', '\x7b',
    '\x7d']

theorem readSign_eq_none (h : c ∉ signChars) : readSign (c :: rest) = none := by
  unfold readSign
  split <;> first
    | rfl
    | rename_i e
      rw [(List.cons.inj e).1] at h
      exact absurd (by decide) h

/-- The characters that begin tokens other than names and numbers. -/
def specialChars : List Char := signChars ++ ['$', '#', '@', '%', '\x22', '\x27']

/-- A property of characters that no special one has. -/
theorem not_special {q : Char → Bool} (none : ∀ d ∈ specialChars, q d = false) (h : q c) :
    c ∉ specialChars := by
  intro mem
  rw [none c mem] at h
  cases h

theorem readToken_plain (h : c ∉ specialChars) : readToken p c rest =
    if isNameStart c then
      .ok ((Token.ofKeyword? (nameOf (c :: rest))).getD (.identifier (nameOf (c :: rest))),
        afterName (c :: rest))
    else if c.isDigit then readNumber p (c :: rest)
    else .error ⟨p, .unexpectedCharacter c⟩ := by
  have noSign : c ∉ signChars := fun mem => h (List.mem_append_left _ mem)
  have noColon : c ≠ ':' := by
    rintro rfl
    exact h (by decide)
  simp only [specialChars, List.mem_append, List.mem_cons, List.not_mem_nil, not_or] at h
  obtain ⟨-, h₁, h₂, h₃, h₄, h₅, h₆, -⟩ := h
  rw [readToken, readSign_eq_none noSign]
  simp only [h₁, h₂, h₃, h₄, h₅, h₆, noColon, if_false, or_self]

/-! ## Names -/

/-- Is the text a name, as the lexer reads one? -/
def isName (name : String) : Bool :=
  name.toList.head?.any isNameStart && name.toList.all isNameChar

theorem isName_iff {name : String} : isName name ↔
    ∃ c rest, name.toList = c :: rest ∧ isNameStart c ∧ ∀ d ∈ c :: rest, isNameChar d := by
  rw [isName, Bool.and_eq_true, List.all_eq_true]
  cases name.toList with
  | nil => simp
  | cons c rest => exact ⟨fun ⟨h, h'⟩ => ⟨c, rest, rfl, h, h'⟩, fun ⟨_, _, e, h, h'⟩ => by
      cases e
      exact ⟨h, h'⟩⟩

theorem nameOf_append {name : String} (all : ∀ c ∈ name.toList, isNameChar c)
    (boundary : isBoundary rest) : nameOf (name.toList ++ rest) = name := by
  rw [nameOf, takeWhile_append all (isNameChar_of_boundary boundary), String.ofList_toList]

theorem afterName_append {name : String} (all : ∀ c ∈ name.toList, isNameChar c)
    (boundary : isBoundary rest) : afterName (name.toList ++ rest) = rest := by
  rw [afterName, dropWhile_append all (isNameChar_of_boundary boundary)]

/-! ## Strings -/

theorem readString_quoteChar {quoted read : List Char} {start position : Nat} (c : Char) :
    readString '\x27' start position read (Value.quoteChar c ++ quoted)
      = readString '\x27' start (position + (Value.quoteChar c).length) (c :: read) quoted := by
  unfold Value.quoteChar
  split
  · rfl
  · rfl
  · rfl
  · rfl
  · rfl
  · rfl
  · rename_i mark slash _ _ _ percent
    rw [List.singleton_append, readString, if_neg mark]
    · rfl
    · exact fun e _ => slash e
    · exact fun _ _ e _ => slash e
    · exact fun _ e _ => percent e

theorem readString_quoted {start : Nat} (s : List Char) (position : Nat) (read : List Char) :
    readString '\x27' start position read (s.flatMap Value.quoteChar ++ '\x27' :: rest)
      = .ok (.string (String.ofList (read.reverse ++ s)), rest) := by
  induction s generalizing position read with
  | nil => simp [readString]
  | cons c s ih =>
    rw [List.flatMap_cons, List.append_assoc, readString_quoteChar, ih]
    simp

/-! ## Numbers -/

theorem numeralFrom_digits {digits : List Char} (all : ∀ c ∈ digits, c.isDigit) (n : Nat) :
    numeralFrom 10 decimalDigit? n digits = some (Nat.ofDigitChars 10 digits n) := by
  induction digits generalizing n with
  | nil => rfl
  | cons c digits ih =>
    have digit : decimalDigit? c = some (c.toNat - 48) := if_pos (all c List.mem_cons_self)
    rw [numeralFrom, digit, Nat.ofDigitChars_cons]
    dsimp only
    rw [ih fun d mem => all d (List.mem_cons_of_mem _ mem), Nat.mul_comm]
    rfl

theorem decimalNumeral_toDigits (n : Nat) : decimalNumeral? (Nat.toDigits 10 n) = some n := by
  have digits : ∀ c ∈ Nat.toDigits 10 n, c.isDigit := fun c =>
    Nat.isDigit_of_mem_toDigits (by decide) (by decide)
  have some_digit : (Nat.toDigits 10 n).isEmpty = false := by simp
  rw [decimalNumeral?, some_digit, numeralFrom_digits digits, Nat.ofDigitChars_ten_toDigits]
  rfl

theorem readNumber_integer {digits : List Char} {n : Nat} (all : ∀ c ∈ digits, c.isDigit)
    (value : decimalNumeral? digits = some n) (le : n ≤ greatestInteger)
    (boundary : isBoundary rest) : readNumber p (digits ++ rest) = .ok (.integer n, rest) := by
  have stops := isDigit_of_boundary boundary
  rw [readNumber]
  simp only [takeWhile_append all stops, dropWhile_append all stops, fractionOf_boundary boundary,
    List.length_nil, List.drop_zero, exponentOf_boundary boundary, List.isEmpty_nil, and_self,
    if_true, value, if_pos le]

theorem readNumber_double {whole fraction : List Char} (digits : ∀ c ∈ whole, c.isDigit)
    (digits' : ∀ c ∈ fraction, c.isDigit) (ne : fraction ≠ []) (boundary : isBoundary rest) :
    readNumber p (whole ++ '.' :: fraction ++ rest) =
      .ok (.double ((Number.readFloat? (whole ++ '.' :: fraction)).getD Number.nan), rest) := by
  obtain ⟨d, ds, rfl⟩ := List.exists_cons_of_ne_nil ne
  have point : ∀ c ∈ ('.' :: (d :: ds) ++ rest).head?, c.isDigit = false := by
    rintro c ⟨⟩
    decide
  have all : ∀ c ∈ ds, c.isDigit := fun c mem => digits' c (List.mem_cons_of_mem _ mem)
  have stops := isDigit_of_boundary boundary
  have fraction : fractionOf ('.' :: (d :: ds) ++ rest) = '.' :: d :: ds := by
    simp only [List.cons_append, fractionOf, digits' d List.mem_cons_self, if_true,
      takeWhile_append all stops]
  have left : ('.' :: (d :: ds) ++ rest).drop ('.' :: d :: ds).length = rest := List.drop_left
  rw [readNumber, List.append_assoc]
  simp only [takeWhile_append digits point, dropWhile_append digits point, fraction, left,
    exponentOf_boundary boundary, List.length_nil, List.drop_zero, List.append_nil]
  rfl

/-! ## The tokens of canonical text -/

namespace Passes

/-- A sign needs no boundary behind it. -/
theorem sign {t : Token} (read : readSign (c :: rest) = some (t, rest')) :
    ∃ p', Passes p (c :: rest) [⟨p, t⟩] p' rest' := by
  refine ⟨_, token ?_ (by rw [readToken, read])⟩
  have black : ∀ d ∈ signChars, isWhiteSpace d = false := forall_mem_of_all (by decide)
  by_cases mem : c ∈ signChars
  · exact black c mem
  · rw [readSign_eq_none mem] at read
    cases read

/-- A name, which may be a keyword. -/
theorem name {name : String} (h : isName name) (boundary : isBoundary rest) :
    ∃ p', Passes p (name.toList ++ rest)
      [⟨p, (Token.ofKeyword? name).getD (.identifier name)⟩] p' rest := by
  obtain ⟨c, tail, chars, start, all⟩ := isName_iff.mp h
  have plain : c ∉ specialChars := not_special (forall_mem_of_all (by decide)) start
  have read := nameOf_append (chars ▸ all) boundary
  have left := afterName_append (chars ▸ all) boundary
  rw [chars, List.cons_append] at read left ⊢
  refine ⟨_, token (not_white_of_isNameStart start) ?_⟩
  rw [readToken_plain plain, if_pos start, read, left]

/-- A name marked as such, which is no keyword. -/
theorem marked {name : String} (ne : name ≠ "") (all : ∀ c ∈ name.toList, isNameChar c)
    (boundary : isBoundary rest) :
    ∃ p', Passes p ('#' :: (name.toList ++ rest)) [⟨p, .identifier name⟩] p' rest := by
  refine ⟨_, token (by decide) ?_⟩
  rw [readToken, readSign_eq_none (by decide)]
  simp [readSigned, nameOf_append all boundary, afterName_append all boundary, ne]

/-- A segment that names an operator. -/
theorem operator {name : String} (ne : name ≠ "") (all : ∀ c ∈ name.toList, isNameChar c)
    (boundary : isBoundary rest) :
    ∃ p', Passes p ('@' :: (name.toList ++ rest)) [⟨p, .atIdentifier name⟩] p' rest := by
  refine ⟨_, token (by decide) ?_⟩
  rw [readToken, readSign_eq_none (by decide)]
  simp [readSigned, nameOf_append all boundary, afterName_append all boundary, ne]

/-- A variable. -/
theorem var {name : String} (h : isName name) (boundary : isBoundary rest) :
    ∃ p', Passes p ('$' :: (name.toList ++ rest)) [⟨p, .var name⟩] p' rest := by
  obtain ⟨c, tail, chars, start, all⟩ := isName_iff.mp h
  have head : ((name.toList ++ rest).head?.map isNameStart).getD false = true := by
    simp [chars, start]
  refine ⟨_, token (by decide) ?_⟩
  rw [readToken, readSign_eq_none (by decide)]
  simp only [if_true, head, nameOf_append (chars ▸ all) boundary,
    afterName_append (chars ▸ all) boundary]

/-- A string literal needs no boundary behind it. -/
theorem string (s : String) :
    ∃ p', Passes p ((Value.quote s).toList ++ rest) [⟨p, .string s⟩] p' rest := by
  have chars : (Value.quote s).toList ++ rest
      = '\x27' :: (s.toList.flatMap Value.quoteChar ++ '\x27' :: rest) := by
    simp [Value.quote]
  rw [chars]
  refine ⟨_, token (by decide) ?_⟩
  rw [readToken, readSign_eq_none (by decide)]
  simp [readString_quoted]

/-- Anything that is read as a number. -/
theorem number {t : Token} {digits : List Char} (ne : digits ≠ [])
    (all : ∀ c ∈ digits.head?, c.isDigit)
    (read : readNumber p (digits ++ rest) = .ok (t, rest)) :
    ∃ p', Passes p (digits ++ rest) [⟨p, t⟩] p' rest := by
  obtain ⟨c, digits, rfl⟩ := List.exists_cons_of_ne_nil ne
  have digit : c.isDigit := all c rfl
  have plain : c ∉ specialChars := not_special (forall_mem_of_all (by decide)) digit
  refine ⟨_, token (not_white_of_isDigit digit) ?_⟩
  rw [readToken_plain plain, if_neg (by simp [not_isNameStart_of_isDigit digit]), if_pos digit]
  exact read

end Passes

end PredicateLang.Lexing
