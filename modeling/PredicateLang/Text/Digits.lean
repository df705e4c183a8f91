/-!
# Digits and numerals

Digits of the decimal and the hexadecimal system as characters, the value of a run of digits, and
the numeral that writes a number. A numeral is read most significant digit first; a run without
digits has no value, so that a reader never mistakes nothing for zero.
-/

namespace PredicateLang.Text

/-- The value of a decimal digit. -/
def decimalDigit? (c : Char) : Option Nat :=
  if c.isDigit then some (c.toNat - 48) else none

/-- The value of a hexadecimal digit, its letter in either case. -/
def hexDigit? (c : Char) : Option Nat :=
  if c.isDigit then some (c.toNat - 48)
  else if 'a' ≤ c ∧ c ≤ 'f' then some (c.toNat - 87)
  else if 'A' ≤ c ∧ c ≤ 'F' then some (c.toNat - 55)
  else none

/-- Is `c` one of the sixteen hexadecimal digits, in either case? -/
def isHexDigit (c : Char) : Bool := (hexDigit? c).isSome

/-- Continues a numeral in `base` whose value so far is `value`. -/
def numeralFrom (base : Nat) (digit? : Char → Option Nat) (value : Nat) :
    List Char → Option Nat
  | [] => some value
  | c :: rest =>
    match digit? c with
    | some d => numeralFrom base digit? (value * base + d) rest
    | none => none

/-- The value of a decimal numeral: at least one digit, and nothing but digits. -/
def decimalNumeral? (digits : List Char) : Option Nat :=
  if digits.isEmpty then none else numeralFrom 10 decimalDigit? 0 digits

/-- The value of a hexadecimal numeral: at least one digit, and nothing but digits. -/
def hexNumeral? (digits : List Char) : Option Nat :=
  if digits.isEmpty then none else numeralFrom 16 hexDigit? 0 digits

/-- The value of a decimal numeral with an optional sign in front. -/
def signedNumeral? : List Char → Option Int
  | '-' :: digits => (decimalNumeral? digits).map fun n => -(n : Int)
  | '+' :: digits => (decimalNumeral? digits).map Int.ofNat
  | digits => (decimalNumeral? digits).map Int.ofNat

/-- `text`, with zeros in front until it has `width` characters. -/
def padLeft (width : Nat) (text : List Char) : List Char :=
  List.replicate (width - text.length) '0' ++ text

/-- The decimal numeral of `n`, with zeros in front until it has `width` digits. -/
def paddedDecimal (width n : Nat) : String :=
  String.ofList (padLeft width (Nat.toDigits 10 n))

/-- The hexadecimal numeral of `n` in small letters, with zeros in front until it has `width`
digits. -/
def paddedHex (width n : Nat) : String :=
  String.ofList (padLeft width (Nat.toDigits 16 n))

/-- The decimal numeral of an integer, a minus sign in front of a negative one. -/
def integerText (n : Int) : String :=
  if n < 0 then "-" ++ String.ofList (Nat.toDigits 10 n.natAbs)
  else String.ofList (Nat.toDigits 10 n.natAbs)

end PredicateLang.Text
