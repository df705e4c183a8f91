/-!
# Binary floating-point numbers as exact numbers

A finite floating-point number is a sign, a significand and a power of two. This module takes
numbers of both widths apart into that form and puts them together again by rounding, so that
everything exact (digits, decimal arithmetic, remainders, truncation) is done on natural numbers
and integers.
-/

namespace PredicateLang.Number

/-- What a binary floating-point number stands for. -/
inductive Binary where
  | nan
  | infinity (negative : Bool)
  /-- The number `significand * 2 ^ exponent`, negated if `negative`. At a power of two the gap to
  the number below is half the gap to the number above, which `narrowBelow` records. -/
  | finite (negative : Bool) (significand : Nat) (exponent : Int) (narrowBelow : Bool)
deriving DecidableEq, Repr

namespace Binary

/-- Takes apart a bit pattern with `fractionBits` bits of fraction below `exponentBits` bits of
exponent. -/
def ofBits (fractionBits exponentBits bits : Nat) : Binary :=
  let fraction := bits % Nat.pow 2 fractionBits
  let biased := bits / Nat.pow 2 fractionBits % Nat.pow 2 exponentBits
  let negative := bits / Nat.pow 2 (fractionBits + exponentBits) == 1
  let bias : Int := Nat.pow 2 (exponentBits - 1) - 1 + fractionBits
  if biased = Nat.pow 2 exponentBits - 1 then
    if fraction = 0 then .infinity negative else .nan
  else if biased = 0 then .finite negative fraction (1 - bias) false
  else
    .finite negative (Nat.pow 2 fractionBits + fraction) (biased - bias)
      (fraction == 0 && biased > 1)

/-- A double-precision number taken apart. -/
def ofFloat (x : Float) : Binary := ofBits 52 11 x.toBits.toNat

/-- A single-precision number taken apart. -/
def ofFloat32 (x : Float32) : Binary := ofBits 23 8 x.toBits.toNat

end Binary

/-- Not a number. -/
def nan : Float := 0.0 / 0.0

/-- The infinity of a sign. -/
def infinity (negative : Bool) : Float := if negative then -1.0 / 0.0 else 1.0 / 0.0

/-- The double-precision number nearest to `digits * 10 ^ exponent`, halves to even. Powers far
outside the range of double precision are decided without being computed. -/
def ofDecimal (negative : Bool) (digits : Nat) (exponent : Int) : Float :=
  let magnitude := exponent + (Nat.toDigits 10 digits).length
  let x : Float :=
    if digits = 0 ∨ magnitude < -400 then 0.0
    else if magnitude > 400 then infinity false
    else .ofModel (.ofScientific digits exponent)
  if negative then -x else x

/-- The single-precision number nearest to `digits * 10 ^ exponent`, halves to even. -/
def ofDecimal32 (negative : Bool) (digits : Nat) (exponent : Int) : Float32 :=
  let magnitude := exponent + (Nat.toDigits 10 digits).length
  let x : Float32 :=
    if digits = 0 ∨ magnitude < -400 then 0.0
    else if magnitude > 400 then 1.0 / 0.0
    else .ofModel (.ofScientific digits exponent)
  if negative then -x else x

/-- The double-precision number nearest to `significand * 2 ^ exponent`. -/
def ofScaled (negative : Bool) (significand : Nat) (exponent : Int) : Float :=
  if exponent < 0 then
    ofDecimal negative (significand * Nat.pow 5 exponent.natAbs) exponent
  else ofDecimal negative (significand * Nat.pow 2 exponent.natAbs) 0

/-- The integer that is left of a finite number without its fraction. -/
def truncate? (x : Float) : Option Int :=
  match Binary.ofFloat x with
  | .finite negative significand exponent _ =>
    let whole :=
      if exponent < 0 then significand / Nat.pow 2 exponent.natAbs
      else significand * Nat.pow 2 exponent.natAbs
    some (if negative then -(whole : Int) else whole)
  | _ => none

/-- The number without its fraction, its sign kept. -/
def truncate (x : Float) : Float := if x < 0.0 then x.ceil else x.floor

/-- Is `x` a finite number without a fraction? -/
def isWhole (x : Float) : Bool :=
  match Binary.ofFloat x with
  | .finite _ significand exponent _ =>
    0 ≤ exponent || significand % Nat.pow 2 exponent.natAbs = 0
  | _ => false

/-- The exact remainder of the truncated quotient, with the sign of the dividend. -/
def remainder (x y : Float) : Float :=
  match Binary.ofFloat x, Binary.ofFloat y with
  | .finite negative m e _, .finite _ n f _ =>
    if n = 0 then nan
    else
      let least := min e f
      let r := m * Nat.pow 2 (e - least).toNat % (n * Nat.pow 2 (f - least).toNat)
      ofScaled negative r least
  | .finite .., .infinity _ => x
  | _, _ => nan

end PredicateLang.Number
