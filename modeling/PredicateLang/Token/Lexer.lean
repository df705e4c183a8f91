import PredicateLang.Number.Reading
import PredicateLang.Text.Letters
import PredicateLang.Token

/-!
# Cutting text into tokens

`lex` cuts a text into tokens with white space between them. The characters that were read before
the first fault give a list of tokens; a text without a fault ends in the token `eof`. Positions
count characters from the beginning of the text.

Two characters are special inside strings: after a backslash stands one of six escapes, and a
doubled percent sign is one percent sign. Outside strings a percent sign opens a placeholder.

`placeholderOffsets` finds the placeholders without cutting the text into tokens, so that arguments
can be counted before anything is parsed.
-/

namespace PredicateLang

open PredicateLang.Text

/-- Why a text cannot be cut into tokens. -/
inductive LexicalFault where
  | invalidEscape (c : Char)
  | unterminatedString
  | integerOutOfRange (digits : String)
  | percentOutsideString
  | missingConversion
  | missingVariableName
  /-- No name follows the sign. -/
  | missingName (sign : Char)
  | strayColon
  | unexpectedCharacter (c : Char)
deriving DecidableEq, Repr

namespace LexicalFault

/-- The explanation of the fault. -/
def message : LexicalFault → String
  | invalidEscape c => "invalid escape sequence \\" ++ c.toString
  | unterminatedString => "unterminated string literal"
  | integerOutOfRange digits => "integer literal " ++ digits ++ " out of range"
  | percentOutsideString => "'%%' is only meaningful inside a string literal"
  | missingConversion => "expected a format specifier after '%'"
  | missingVariableName => "expected a variable name after '$'"
  | missingName sign => "expected an identifier after '" ++ sign.toString ++ "'"
  | strayColon => "unexpected ':' (did you mean ':='?)"
  | unexpectedCharacter c => "unexpected character '" ++ c.toString ++ "'"

end LexicalFault

/-- A fault and where it is. -/
structure LexicalError where
  position : Nat
  fault : LexicalFault
deriving DecidableEq, Repr

/-- A token and where it starts. -/
structure Lexeme where
  start : Nat
  token : Token
deriving DecidableEq

/-- The tokens of a text up to its end or its first fault. -/
structure Lexing where
  lexemes : List Lexeme
  fault : Option LexicalError

namespace Lexing

/-! ## Names -/

/-- The characters that names begin with. -/
def isNameStart (c : Char) : Bool := isAlphabetic c || c = '_'

/-- The characters that names go on with. -/
def isNameChar (c : Char) : Bool := isAlphanumeric c || c = '_'

/-- The longest name at the front of a text. -/
def nameOf (text : List Char) : String := String.ofList (text.takeWhile isNameChar)

/-- What follows the longest name at the front of a text. -/
def afterName (text : List Char) : List Char := text.dropWhile isNameChar

/-! ## Strings -/

/-- The character that a letter after a backslash stands for. -/
def escaped? : Char → Option Char
  | 'n' => some '\n'
  | 't' => some '\t'
  | 'r' => some '\r'
  | '\x27' => some '\x27'
  | '\x22' => some '\x22'
  | '\\' => some '\\'
  | _ => none

/-- Reads a string up to its closing quotation mark. `start` is where the string starts and
`position` where the text goes on; `read` holds the characters so far in reverse. -/
def readString (quote : Char) (start position : Nat) (read : List Char) :
    List Char → Except LexicalError (Token × List Char)
  | [] => .error ⟨start, .unterminatedString⟩
  | c :: rest =>
    if c = quote then .ok (.string (String.ofList read.reverse), rest)
    else
      match c, rest with
      | '\\', [] => .error ⟨start, .unterminatedString⟩
      | '\\', e :: rest =>
        match escaped? e with
        | some c => readString quote start (position + 2) (c :: read) rest
        | none => .error ⟨position + 1, .invalidEscape e⟩
      | '%', '%' :: rest => readString quote start (position + 2) ('%' :: read) rest
      | c, rest => readString quote start (position + 1) (c :: read) rest

/-! ## Numbers -/

/-- The fraction at the front of a text: a point and at least one digit, or nothing. -/
def fractionOf : List Char → List Char
  | '.' :: d :: rest => if d.isDigit then '.' :: d :: rest.takeWhile Char.isDigit else []
  | _ => []

/-- The exponent at the front of a text: the mark, an optional sign and at least one digit, or
nothing. -/
def exponentOf : List Char → List Char
  | mark :: sign :: d :: rest =>
    if mark = 'e' ∨ mark = 'E' then
      if sign.isDigit then mark :: sign :: (d :: rest).takeWhile Char.isDigit
      else if (sign = '+' ∨ sign = '-') ∧ d.isDigit then
        mark :: sign :: d :: rest.takeWhile Char.isDigit
      else []
    else []
  | [mark, d] => if (mark = 'e' ∨ mark = 'E') ∧ d.isDigit then [mark, d] else []
  | _ => []

/-- The greatest integer that a literal can have. -/
def greatestInteger : Nat := Nat.pow 2 64 - 1

/-- Reads a number: digits, and if they are there a fraction and an exponent. -/
def readNumber (start : Nat) (text : List Char) : Except LexicalError (Token × List Char) :=
  let digits := text.takeWhile Char.isDigit
  let afterDigits := text.dropWhile Char.isDigit
  let fraction := fractionOf afterDigits
  let afterFraction := afterDigits.drop fraction.length
  let power := exponentOf afterFraction
  let rest := afterFraction.drop power.length
  if fraction.isEmpty ∧ power.isEmpty then
    match decimalNumeral? digits with
    | some n =>
      if n ≤ greatestInteger then .ok (.integer n, rest)
      else .error ⟨start, .integerOutOfRange (String.ofList digits)⟩
    | none => .error ⟨start, .integerOutOfRange (String.ofList digits)⟩
  else
    .ok (.double ((Number.readFloat? (digits ++ fraction ++ power)).getD Number.nan), rest)

/-! ## Placeholders -/

/-- The characters that a conversion can be. -/
def isConversion (c : Char) : Bool := c = '@' || c.isAlpha

/-- Drops the letters that only give a length, as long as another letter follows. -/
def afterLength : List Char → List Char
  | c :: d :: rest =>
    if (c = 'l' ∨ c = 'h' ∨ c = 'q') ∧ d.isAlpha then afterLength (d :: rest) else c :: d :: rest
  | text => text

/-- Reads what follows the percent sign of a placeholder. -/
def readPlaceholder (start : Nat) (text : List Char) :
    Except LexicalError (Token × List Char) :=
  match afterLength text with
  | c :: rest =>
    if isConversion c then .ok (.placeholder c, rest)
    else if c = '%' then .error ⟨start, .percentOutsideString⟩
    else .error ⟨start, .missingConversion⟩
  | [] => .error ⟨start, .missingConversion⟩

/-! ## Tokens -/

/-- Reads a name after a sign. -/
def readSigned (start : Nat) (sign : Char) (token : String → Token) (text : List Char) :
    Except LexicalError (Token × List Char) :=
  if (nameOf text).isEmpty then .error ⟨start, .missingName sign⟩
  else .ok (token (nameOf text), afterName text)

/-- The signs of one or two characters that are tokens, longer ones first. -/
def readSign : List Char → Option (Token × List Char)
  | '*' :: '*' :: rest => some (.starStar, rest)
  | '=' :: '=' :: rest => some (.equal, rest)
  | '=' :: '<' :: rest => some (.lessEqual, rest)
  | '=' :: '>' :: rest => some (.greaterEqual, rest)
  | '<' :: '=' :: rest => some (.lessEqual, rest)
  | '<' :: '>' :: rest => some (.notEqual, rest)
  | '>' :: '=' :: rest => some (.greaterEqual, rest)
  | '!' :: '=' :: rest => some (.notEqual, rest)
  | '&' :: '&' :: rest => some (.and, rest)
  | '|' :: '|' :: rest => some (.or, rest)
  | ':' :: '=' :: rest => some (.assign, rest)
  | '.' :: rest => some (.dot, rest)
  | ',' :: rest => some (.comma, rest)
  | '+' :: rest => some (.plus, rest)
  | '-' :: rest => some (.minus, rest)
  | '*' :: rest => some (.star, rest)
  | '/' :: rest => some (.slash, rest)
  | '=' :: rest => some (.equal, rest)
  | '<' :: rest => some (.less, rest)
  | '>' :: rest => some (.greater, rest)
  | '!' :: rest => some (.not, rest)
  | '(' :: rest => some (.openParen, rest)
  | ')' :: rest => some (.closeParen, rest)
  | '[' :: rest => some (.openBracket, rest)
  | ']' :: rest => some (.closeBracket, rest)
  | '\x7b' :: rest => some (.openBrace, rest)
  | '\x7d' :: rest => some (.closeBrace, rest)
  | _ => none

/-- Reads the token that starts with `c` at `start`; gives what follows it. -/
def readToken (start : Nat) (c : Char) (rest : List Char) :
    Except LexicalError (Token × List Char) :=
  match readSign (c :: rest) with
  | some signed => .ok signed
  | none =>
    if c = '$' then
      if (rest.head?.map isNameStart).getD false then .ok (.var (nameOf rest), afterName rest)
      else .error ⟨start, .missingVariableName⟩
    else if c = '#' then readSigned start c .identifier rest
    else if c = '@' then readSigned start c .atIdentifier rest
    else if c = '%' then readPlaceholder start rest
    else if c = ':' then .error ⟨start, .strayColon⟩
    else if c = '\x22' ∨ c = '\x27' then readString c start (start + 1) [] rest
    else if isNameStart c then
      let name := nameOf (c :: rest)
      .ok ((Token.ofKeyword? name).getD (.identifier name), afterName (c :: rest))
    else if c.isDigit then readNumber start (c :: rest)
    else .error ⟨start, .unexpectedCharacter c⟩

/-! ### Every token takes at least one character -/

theorem length_dropWhile_le (p : Char → Bool) (text : List Char) :
    (text.dropWhile p).length ≤ text.length := (List.dropWhile_sublist p).length_le

theorem readString_length {quote : Char} {start position : Nat} {read text : List Char}
    {t : Token} {after : List Char}
    (h : readString quote start position read text = .ok (t, after)) :
    after.length < text.length := by
  fun_induction readString quote start position read text with
  | case1 => cases h
  | case2 => cases h; exact Nat.lt_succ_self _
  | case3 => cases h
  | case4 =>
    rename_i ih
    exact Nat.lt_trans (ih h) (by simp only [List.length_cons]; omega)
  | case5 => cases h
  | case6 =>
    rename_i ih
    exact Nat.lt_trans (ih h) (by simp only [List.length_cons]; omega)
  | case7 =>
    rename_i ih
    exact Nat.lt_trans (ih h) (Nat.lt_succ_self _)

theorem length_afterLength_le (text : List Char) :
    (afterLength text).length ≤ text.length := by
  fun_induction afterLength text <;> grind

theorem readPlaceholder_length {start : Nat} {text : List Char} {t : Token} {after : List Char}
    (h : readPlaceholder start text = .ok (t, after)) : after.length < text.length := by
  unfold readPlaceholder at h
  have := length_afterLength_le text
  split at h
  · rename_i c rest e
    rw [e, List.length_cons] at this
    split at h
    · cases h
      omega
    · split at h <;> cases h
  · cases h

theorem readSign_length {text : List Char} {t : Token} {after : List Char}
    (h : readSign text = some (t, after)) : after.length < text.length := by
  unfold readSign at h
  split at h <;> cases h <;> simp only [List.length_cons] <;> omega

theorem length_afterName_lt {c : Char} {rest : List Char} (h : isNameChar c = true) :
    (afterName (c :: rest)).length < (c :: rest).length := by
  have := length_dropWhile_le isNameChar rest
  simp only [afterName, List.dropWhile_cons, h, List.length_cons, if_true]
  omega

theorem isNameChar_of_isNameStart {c : Char} (h : isNameStart c = true) : isNameChar c = true := by
  simp only [isNameStart, isNameChar, isAlphabetic, isAlphanumeric, Char.isAlphanum] at *
  grind

theorem readNumber_length {start : Nat} {c : Char} {rest : List Char} {t : Token}
    {after : List Char} (hc : c.isDigit = true)
    (h : readNumber start (c :: rest) = .ok (t, after)) :
    after.length < (c :: rest).length := by
  have digits : ((c :: rest).dropWhile Char.isDigit).length < (c :: rest).length := by
    have := length_dropWhile_le Char.isDigit rest
    simp only [List.dropWhile_cons, hc, List.length_cons, if_true]
    omega
  simp only [readNumber] at h
  split at h
  · split at h
    · split at h <;> simp at h
      obtain ⟨_, rfl⟩ := h
      simp only [List.length_drop]
      omega
    · simp at h
  · simp at h
    obtain ⟨_, rfl⟩ := h
    simp only [List.length_drop]
    omega

theorem readSigned_length {start : Nat} {sign : Char} {token : String → Token} {text : List Char}
    {t : Token} {after : List Char} (h : readSigned start sign token text = .ok (t, after)) :
    after.length ≤ text.length := by
  unfold readSigned at h
  split at h <;> simp at h
  obtain ⟨_, rfl⟩ := h
  exact length_dropWhile_le _ _

theorem readToken_length {start : Nat} {c : Char} {rest : List Char} {t : Token}
    {after : List Char} (h : readToken start c rest = .ok (t, after)) :
    after.length < (c :: rest).length := by
  unfold readToken at h
  split at h
  · rename_i signed e
    cases h
    exact readSign_length e
  · split at h
    · split at h <;> simp at h
      obtain ⟨_, rfl⟩ := h
      have := length_dropWhile_le isNameChar rest
      simp only [afterName, List.length_cons]
      omega
    · split at h
      · have := readSigned_length h
        simp only [List.length_cons]; omega
      · split at h
        · have := readSigned_length h
          simp only [List.length_cons]; omega
        · split at h
          · have := readPlaceholder_length h
            simp only [List.length_cons]; omega
          · split at h
            · simp at h
            · split at h
              · have := readString_length h
                simp only [List.length_cons]; omega
              · split at h
                · rename_i hc
                  simp at h
                  obtain ⟨_, rfl⟩ := h
                  exact length_afterName_lt (isNameChar_of_isNameStart hc)
                · split at h
                  · rename_i hc
                    exact readNumber_length hc h
                  · simp at h

/-! ## Texts -/

/-- The tokens of a text that starts at `position`. -/
def ofChars (position : Nat) (text : List Char) : Lexing :=
  match _h : text.dropWhile isWhiteSpace with
  | [] => ⟨[⟨position + text.length, .eof⟩], none⟩
  | c :: rest =>
    let start := position + (text.length - (rest.length + 1))
    match _e : readToken start c rest with
    | .error error => ⟨[], some error⟩
    | .ok (token, after) =>
      let following := Lexing.ofChars (position + (text.length - after.length)) after
      ⟨⟨start, token⟩ :: following.lexemes, following.fault⟩
termination_by text.length
decreasing_by
  have shorter := readToken_length _e
  have le := length_dropWhile_le isWhiteSpace text
  rw [_h] at le
  omega

end Lexing

/-- The tokens of a text. -/
def lex (text : String) : Lexing := Lexing.ofChars 0 text.toList

/-! ## Placeholders before parsing -/

/-- The positions of the percent signs that open placeholders. `quote` is the quotation mark of the
string that the text begins in, if it begins in one, and `skip` says that its first character
belongs to the one before it. -/
def placeholderOffsetsFrom (quote : Option Char) (skip : Bool) (position : Nat) :
    List Char → List Nat
  | [] => []
  | c :: rest =>
    if skip then placeholderOffsetsFrom quote false (position + 1) rest
    else
      match quote with
      | some q =>
        if c = '\\' then placeholderOffsetsFrom quote true (position + 1) rest
        else placeholderOffsetsFrom (if c = q then none else quote) false (position + 1) rest
      | none =>
        if c = '\x27' ∨ c = '\x22' then
          placeholderOffsetsFrom (some c) false (position + 1) rest
        else if c = '%' ∧ rest.head? = some '%' then
          placeholderOffsetsFrom none true (position + 1) rest
        else if c = '%' ∧ (rest.head?.map Lexing.isConversion).getD false then
          position :: placeholderOffsetsFrom none false (position + 1) rest
        else placeholderOffsetsFrom none false (position + 1) rest

/-- The positions of the percent signs that open placeholders outside strings, in order. -/
def placeholderOffsets (text : String) : List Nat :=
  placeholderOffsetsFrom none false 0 text.toList

end PredicateLang
