import PredicateLang.Json
import PredicateLang.Text.Digits

/-!
# Lexemes of JSON documents

A document is cut into brackets, separators, literals, strings and numbers; the blanks between them
are the space, the tab and the two line ends. A string with a control character, an unknown escape
or half of a surrogate pair is refused.

A number without fraction and exponent that fits 64 bits is an integer, except for the negative
zero. Every other number is computed in double precision from as many leading digits as fit 64
bits: those digits, rounded, times or divided by a power of ten. The two roundings make the result
differ from the nearest double now and then, and a result beyond the largest double is refused.
-/

namespace PredicateLang.Json

open PredicateLang.Text

/-- A lexeme of a document. -/
inductive Token where
  | openArray | closeArray | openObject | closeObject | comma | colon
  | null
  | boolean (b : Bool)
  | string (s : String)
  | number (n : JsonNumber)

/-! ## Strings -/

/-- The four hexadecimal digits at the front of a text. -/
def unit? (text : List Char) : Option Nat :=
  if 4 ≤ text.length then hexNumeral? (text.take 4) else none

/-- The character that stands for itself after a backslash or that a letter there names. -/
def escaped? : Char → Option Char
  | '\x22' => some '\x22'
  | '\\' => some '\\'
  | '/' => some '/'
  | 'b' => some '\x08'
  | 'f' => some '\x0c'
  | 'n' => some '\n'
  | 'r' => some '\r'
  | 't' => some '\t'
  | _ => none

/-- Is this the first half of a surrogate pair? -/
def isHighSurrogate (unit : Nat) : Bool := 0xD800 ≤ unit && unit ≤ 0xDBFF

/-- Is this the second half of a surrogate pair? -/
def isLowSurrogate (unit : Nat) : Bool := 0xDC00 ≤ unit && unit ≤ 0xDFFF

/-- The characters of a string up to its closing quotation mark, and the text after that. What has
been read is kept reversed in `read`. -/
def readString (read : List Char) (text : List Char) :
    Option (String × { rest : List Char // rest.length < text.length }) :=
  match text with
  | [] => none
  | '\x22' :: rest => some (String.ofList read.reverse, ⟨rest, by simp⟩)
  | '\\' :: 'u' :: rest =>
    match unit? rest with
    | none => none
    | some unit =>
      if isLowSurrogate unit then none
      else if isHighSurrogate unit then
        match h : rest.drop 4 with
        | '\\' :: 'u' :: rest' =>
          match unit? rest' with
          | none => none
          | some low =>
            if isLowSurrogate low then
              let code := 0x10000 + (unit - 0xD800) * 0x400 + (low - 0xDC00)
              (readString (Char.ofNat code :: read) (rest'.drop 4)).map
                fun (s, r) => (s, ⟨r.val, by
                  have := r.property
                  have := congrArg List.length h
                  simp only [List.length_drop, List.length_cons] at *; omega⟩)
            else none
        | _ => none
      else
        (readString (Char.ofNat unit :: read) (rest.drop 4)).map
          fun (s, r) => (s, ⟨r.val, by
          have := r.property
          simp only [List.length_drop, List.length_cons] at *; omega⟩)
  | '\\' :: c :: rest =>
    match escaped? c with
    | none => none
    | some c =>
      (readString (c :: read) rest).map
        fun (s, r) => (s, ⟨r.val, by have := r.property; simp only [List.length_cons]; omega⟩)
  | c :: rest =>
    if c.toNat < 32 ∨ c = '\\' then none
    else
      (readString (c :: read) rest).map
        fun (s, r) => (s, ⟨r.val, by have := r.property; simp only [List.length_cons]; omega⟩)
termination_by text.length
decreasing_by
  · have := congrArg List.length h
    simp only [List.length_drop, List.length_cons] at *; omega
  all_goals simp only [List.length_drop, List.length_cons]; omega

/-! ## Numbers -/

/-- The greatest number of 64 bits. -/
def greatestSignificand : Nat := Nat.pow 2 64 - 1

/-- Appends digits to a significand as long as it fits 64 bits; the significand, how many digits it
took, and the text from the first digit that did not fit or from the end of the digits on. -/
def takeDigits (significand taken : Nat) : List Char → Nat × Nat × List Char
  | [] => (significand, taken, [])
  | c :: rest =>
    match decimalDigit? c with
    | none => (significand, taken, c :: rest)
    | some d =>
      if significand * 10 + d ≤ greatestSignificand then
        takeDigits (significand * 10 + d) (taken + 1) rest
      else (significand, taken, c :: rest)

/-- Does the text go on with a digit? -/
def startsWithDigit : List Char → Bool
  | c :: _ => c.isDigit
  | [] => false

/-- Divides by `10 ^ 308` until the power of ten that is left to divide by is at most that. -/
def divideDown : (steps : Nat) → Float → Nat → Float
  | 0, x, _ => x
  | steps + 1, x, power =>
    if power ≤ 308 then x / Float.ofScientific 1 false power
    else if x == 0.0 then x
    else divideDown steps (x / 1e308) (power - 308)

/-- A significand times a power of ten in double precision, unless it is too large. -/
def scaled? (negative : Bool) (significand : Nat) (exponent : Int) : Option JsonNumber :=
  let x := Float.ofNat significand
  let result : Option Float :=
    if exponent < 0 then some (divideDown 4 x exponent.natAbs)
    else if 308 < exponent then (if x == 0.0 then some x else none)
    else
      let y := x * Float.ofScientific 1 false exponent.natAbs
      if y.isFinite then some y else none
  result.map fun y => .float (if negative then -y else y)

/-- The exponent after its mark, and the text after it. An exponent of more digits than a machine
word has is as good as infinite. -/
def readExponent (text : List Char) : Option (Int × List Char) :=
  let (negative, digits) :=
    match text with
    | '+' :: rest => (false, rest)
    | '-' :: rest => (true, rest)
    | rest => (false, rest)
  (decimalNumeral? (digits.takeWhile Char.isDigit)).map fun n =>
    let n := min n (Nat.pow 2 31)
    (if negative then -(n : Int) else n, digits.dropWhile Char.isDigit)

/-- A number whose digits have been read: applies an exponent if one follows. -/
def finishNumber (negative : Bool) (significand : Nat) (exponent : Int) (text : List Char) :
    Option (JsonNumber × List Char) :=
  match text with
  | mark :: rest =>
    if mark = 'e' ∨ mark = 'E' then do
      let (power, rest) ← readExponent rest
      let n ← scaled? negative significand (exponent + power)
      some (n, rest)
    else (scaled? negative significand exponent).map (·, text)
  | [] => (scaled? negative significand exponent).map (·, text)

/-- The fraction after the point: at least one digit. Digits that no longer fit are dropped. -/
def readFraction (negative : Bool) (significand : Nat) (exponent : Int) (text : List Char) :
    Option (JsonNumber × List Char) :=
  let (significand, taken, rest) := takeDigits significand 0 text
  if taken = 0 ∧ !startsWithDigit rest then none
  else finishNumber negative significand (exponent - taken) (rest.dropWhile Char.isDigit)

/-- A number without its sign: digits without a needless zero in front, a fraction, an exponent. -/
def readUnsigned (negative : Bool) (text : List Char) : Option (JsonNumber × List Char) :=
  if !startsWithDigit text then none
  else
    let (significand, _, rest) := takeDigits 0 0 text
    let excess := (rest.takeWhile Char.isDigit).length
    let after := rest.dropWhile Char.isDigit
    if text.head? = some '0' ∧ startsWithDigit (text.drop 1) then none
    else
      match after with
      | '.' :: fraction => readFraction negative significand excess fraction
      | mark :: _ =>
        if mark = 'e' ∨ mark = 'E' ∨ excess ≠ 0 then
          finishNumber negative significand excess after
        else some (whole significand, after)
      | [] =>
        if excess ≠ 0 then finishNumber negative significand excess after
        else some (whole significand, after)
where
  /-- An integer if it fits, and otherwise, or for the negative zero, a number of double
  precision. -/
  whole (significand : Nat) : JsonNumber :=
    if negative then
      if significand = 0 ∨ Nat.pow 2 63 < significand then .float (-(Float.ofNat significand))
      else .integer (-(significand : Int))
    else .integer significand

/-- A number. -/
def readNumber : List Char → Option (JsonNumber × List Char)
  | '-' :: rest => readUnsigned true rest
  | text => readUnsigned false text

/-! ## Documents -/

/-- Is the character a blank between lexemes? -/
def isBlank (c : Char) : Bool := c = ' ' || c = '\n' || c = '\t' || c = '\r'

/-- The lexeme at the front of a text that does not start with a blank, and the text after it. -/
def readToken (text : List Char) : Option (Token × List Char) :=
  match text with
  | '[' :: rest => some (.openArray, rest)
  | ']' :: rest => some (.closeArray, rest)
  | '\x7b' :: rest => some (.openObject, rest)
  | '\x7d' :: rest => some (.closeObject, rest)
  | ',' :: rest => some (.comma, rest)
  | ':' :: rest => some (.colon, rest)
  | '\x22' :: rest => (readString [] rest).map fun (s, r) => (.string s, r.val)
  | 'n' :: 'u' :: 'l' :: 'l' :: rest => some (.null, rest)
  | 't' :: 'r' :: 'u' :: 'e' :: rest => some (.boolean true, rest)
  | 'f' :: 'a' :: 'l' :: 's' :: 'e' :: rest => some (.boolean false, rest)
  | text => (readNumber text).map fun (n, rest) => (.number n, rest)

/-- The lexemes of a text. Each takes at least one character, so a text of `n` characters has at
most `n`, and `fuel` need not be more. -/
def tokensWithin : (fuel : Nat) → List Char → Option (List Token)
  | fuel, text =>
    match text.dropWhile isBlank with
    | [] => some []
    | c :: rest =>
      match fuel with
      | 0 => none
      | fuel + 1 => do
        let (token, after) ← readToken (c :: rest)
        let tokens ← tokensWithin fuel after
        some (token :: tokens)

/-- The lexemes of a text, if it can be cut into lexemes. -/
def tokens? (text : List Char) : Option (List Token) := tokensWithin text.length text

end PredicateLang.Json
