import PredicateLang.Number.Binary
import PredicateLang.Text.Digits

/-!
# Reading numbers

A decimal numeral is a sign, digits with at most one point among, before or after them, and a
power of ten; `inf`, `infinity` and `nan` in any letter case name the numbers without digits. At
least one digit has to stand before the exponent and, if there is an exponent, in it. What is read
is exact; turning it into a number of some width rounds once.
-/

namespace PredicateLang.Number

open PredicateLang.Text

/-- What a numeral says, before rounding. -/
inductive Numeral where
  | nan
  | infinity (negative : Bool)
  | decimal (negative : Bool) (digits : Nat) (exponent : Int)
deriving DecidableEq, Repr

namespace Numeral

/-- The value of a run of decimal digits, zero for the empty run. -/
def digitsValue (digits : List Char) : Nat := (numeralFrom 10 decimalDigit? 0 digits).getD 0

/-- The power of ten after the mark `e`, if the text has the form of one; the empty text stands
for the power zero. -/
def exponent? : List Char → Option Int
  | [] => some 0
  | mark :: digits => if mark = 'e' ∨ mark = 'E' then signedNumeral? digits else none

/-- A numeral without a sign. -/
def unsigned? (negative : Bool) (text : List Char) : Option Numeral :=
  let small := text.map Char.toLower
  if small = "nan".toList then some .nan
  else if small = "inf".toList ∨ small = "infinity".toList then some (.infinity negative)
  else
    let whole := text.takeWhile Char.isDigit
    let afterWhole := text.dropWhile Char.isDigit
    let (fraction, afterFraction) :=
      match afterWhole with
      | '.' :: rest => (rest.takeWhile Char.isDigit, rest.dropWhile Char.isDigit)
      | rest => ([], rest)
    if whole.isEmpty ∧ fraction.isEmpty then none
    else (exponent? afterFraction).map fun power =>
      .decimal negative (digitsValue (whole ++ fraction)) (power - fraction.length)

/-- The numeral that a text is, if it is one. -/
def ofText? : List Char → Option Numeral
  | '-' :: rest => unsigned? true rest
  | '+' :: rest => unsigned? false rest
  | rest => unsigned? false rest

/-- The nearest double-precision number. -/
def toFloat : Numeral → Float
  | .nan => Number.nan
  | .infinity negative => Number.infinity negative
  | .decimal negative digits exponent => ofDecimal negative digits exponent

/-- The nearest single-precision number. -/
def toFloat32 : Numeral → Float32
  | .nan => 0.0 / 0.0
  | .infinity negative => if negative then -1.0 / 0.0 else 1.0 / 0.0
  | .decimal negative digits exponent => ofDecimal32 negative digits exponent

end Numeral

/-- Reads a double-precision number. -/
def readFloat? (text : List Char) : Option Float := (Numeral.ofText? text).map Numeral.toFloat

/-- Reads a single-precision number. -/
def readFloat32? (text : List Char) : Option Float32 :=
  (Numeral.ofText? text).map Numeral.toFloat32

end PredicateLang.Number
