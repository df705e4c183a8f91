import PredicateLang.Number.Shortest
import PredicateLang.Text.Digits

/-!
# Writing numbers

A number is written from the fewest digits that identify it. What is left to decide is how the
digits are laid out: when the point is placed among them and when an exponent is used instead,
whether a whole number shows a fraction, and which of two equally short numerals is taken. A
`Format` holds these decisions; the formats of the program's texts are values of it.
-/

namespace PredicateLang.Number

/-- How the digits of a number are laid out. -/
structure Format where
  /-- Numbers whose leading digit stands for a power of ten from this one on … -/
  plainFrom : Option Int
  /-- … and below this one are written without an exponent. A missing bound is no bound. -/
  plainBelow : Option Int
  /-- Do whole numbers end in `.0`? -/
  pointZero : Bool
  /-- Does an exponent that is not negative carry a plus sign? -/
  exponentPlus : Bool
  tie : Tie

namespace Format

/-- Text for people: never an exponent, and no fraction on whole numbers. -/
def display : Format := ⟨none, none, false, false, .up⟩

/-- Literals of the language: never an exponent, but always a fraction, which tells them from
integers. -/
def literal : Format := ⟨none, none, true, false, .up⟩

/-- Numbers in error texts: an exponent below 0.0001 and from 10¹⁶ on. -/
def diagnostic : Format := ⟨some (-4), some 16, true, false, .up⟩

/-- Numbers in JSON documents: a signed exponent below 0.00001 and from 10¹⁶ on. -/
def json : Format := ⟨some (-5), some 16, true, true, .even⟩

/-- Is a number whose leading digit stands for `10 ^ power` written without an exponent? -/
def isPlain (format : Format) (power : Int) : Bool :=
  format.plainFrom.all (· ≤ power) && format.plainBelow.all (power < ·)

/-- The digits with the point among them, zeros filling the places up to it. -/
def plain (format : Format) (d : Scientific) : List Char :=
  let digits := Nat.toDigits 10 d.digits
  let whole : Int := digits.length + d.exponent
  if 0 ≤ d.exponent then
    digits ++ List.replicate d.exponent.toNat '0' ++ (if format.pointZero then ['.', '0'] else [])
  else if 0 < whole then
    digits.take whole.toNat ++ '.' :: digits.drop whole.toNat
  else '0' :: '.' :: (List.replicate (-whole).toNat '0' ++ digits)

/-- One digit before the point, and the power of ten. -/
def scientific (format : Format) (d : Scientific) : List Char :=
  let digits := Nat.toDigits 10 d.digits
  let power : Int := digits.length - 1 + d.exponent
  let sign := if power < 0 then ['-'] else if format.exponentPlus then ['+'] else []
  digits.take 1 ++ (if digits.length = 1 then [] else '.' :: digits.drop 1)
    ++ 'e' :: sign ++ Nat.toDigits 10 power.natAbs

/-- The text of a number. -/
def text (format : Format) : Binary → String
  | .nan => "NaN"
  | .infinity negative => if negative then "-inf" else "inf"
  | .finite negative significand exponent narrowBelow =>
    let d := Scientific.shortest format.tie significand exponent narrowBelow
    let power : Int := (Nat.toDigits 10 d.digits).length - 1 + d.exponent
    let unsigned :=
      if format.isPlain power then format.plain d else format.scientific d
    String.ofList (if negative then '-' :: unsigned else unsigned)

end Format

/-- Double-precision numbers as text for people. -/
def displayFloat (x : Float) : String := Format.display.text (.ofFloat x)

/-- Single-precision numbers as text for people. -/
def displayFloat32 (x : Float32) : String := Format.display.text (.ofFloat32 x)

/-- All digits of a number that has no fraction, and a fraction of zero. -/
def wholeText : Binary → String
  | .finite negative significand exponent _ =>
    let whole :=
      if exponent < 0 then significand / Nat.pow 2 exponent.natAbs
      else significand * Nat.pow 2 exponent.natAbs
    (if negative then "-" else "") ++ String.ofList (Nat.toDigits 10 whole) ++ ".0"
  | other => Format.literal.text other

end PredicateLang.Number
