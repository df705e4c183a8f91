import PredicateLang.Number.Binary

/-!
# Decimal arithmetic

Numbers with a fraction are added, multiplied and divided as decimals, so that a hundred times 1.1
is 110. A decimal is a mantissa of at most 96 bits and a scale, the number of digits after the
point, of at most 28. A result that needs more is rounded to the largest scale at which it fits,
halves to the even neighbour; one that does not fit at scale zero does not exist, and the caller
falls back on binary arithmetic.

Two conversions connect decimals with double precision. `ofFloat?` keeps about as many digits as a
double holds. `toFloat` adds the whole and the fractional part in double precision and rounds the
sum to the scale again, so the nearest double is not always what comes out.
-/

namespace PredicateLang.Number

/-- The number `mantissa / 10 ^ scale`, negated if `negative`. -/
structure Decimal where
  negative : Bool
  mantissa : Nat
  scale : Nat
deriving DecidableEq, Repr

namespace Decimal

/-- Mantissas are below this bound. -/
def mantissaBound : Nat := Nat.pow 2 96

/-- The largest scale. -/
def maxScale : Nat := 28

/-- The positive zero. -/
def zero : Decimal := ⟨false, 0, 0⟩

/-- `n / d` rounded to the nearest natural number, halves to even. -/
def divideToEven (n d : Nat) : Nat :=
  match compare (2 * (n % d)) d with
  | .lt => n / d
  | .gt => n / d + 1
  | .eq => if n / d % 2 = 0 then n / d else n / d + 1

/-! ## From double precision

A double is a mantissa times powers of five and two. The negative power of two is taken away
first, one step at a time, and what remains is a power of ten. -/

/-- Turns `m / 2 ^ twos` into `m' * 10 ^ tens'`: each step halves an even mantissa, or multiplies
the mantissa by five as long as it fits, and gives up its last bit otherwise. -/
def clearHalves : (twos : Nat) → Nat × Int → Nat × Int
  | 0, state => state
  | twos + 1, (m, tens) =>
    if m % 2 = 0 then clearHalves twos (m / 2, tens + 1)
    else if 5 * m < mantissaBound then clearHalves twos (5 * m, tens)
    else clearHalves twos (m / 2, tens + 1)

/-- Turns a power of five below the point into a power of ten: each step doubles a mantissa that
leaves room for it and divides one that does not by five. -/
def clearFifths : (fives : Nat) → Nat × Int → Option (Nat × Int)
  | 0, state => some state
  | fives + 1, (m, tens) =>
    if 2 * m < mantissaBound then clearFifths fives (2 * m, tens - 1)
    else if 2 * tens > fives + 1 then none
    else clearFifths fives (m / 5, tens)

/-- Multiplies by powers of ten, as long as the mantissa fits. -/
def raise : (tens : Nat) → Nat → Option Nat
  | 0, m => some m
  | tens + 1, m => if 10 * m < mantissaBound then raise tens (10 * m) else none

/-- Drops digits after the point until the scale is in range, each time rounding a half up. A
mantissa that vanishes has scale zero. -/
def lowerScale : (excess : Nat) → Nat × Nat → Nat × Nat
  | 0, state => state
  | excess + 1, (m, scale) =>
    if m / 10 = 0 then (0, 0)
    else lowerScale excess (if m % 10 ≥ 5 then m / 10 + 1 else m / 10, scale - 1)

/-- Drops digits after the point while the mantissa is longer than that of a double. -/
def shorten : (scale : Nat) → Nat → Nat × Nat
  | 0, m => (m, 0)
  | scale + 1, m =>
    if m < Nat.pow 2 52 then (m, scale + 1)
    else shorten scale (if m % 10 ≥ 5 then m / 10 + 1 else m / 10)

/-- Drops zeros at the end of the fraction. -/
def trimZeros : (scale : Nat) → Nat → Nat × Nat
  | 0, m => (m, 0)
  | scale + 1, m => if m % 10 = 0 then trimZeros scale (m / 10) else (m, scale + 1)

/-- The decimal of a double, if it is finite and not too large. -/
def ofFloat? (x : Float) : Option Decimal :=
  match Binary.ofFloat x with
  | .finite negative significand exponent _ =>
    if significand = 0 then some ⟨negative, 0, 0⟩
    else
      let start := (significand, exponent)
      let cleared :=
        if exponent < 0 then some (clearHalves exponent.natAbs start)
        else clearFifths exponent.natAbs start
      cleared.bind fun (m, tens) =>
        if 0 ≤ tens then (raise tens.toNat m).map fun m => ⟨negative, m, 0⟩
        else
          let scale := (-tens).toNat
          let (m, scale) := lowerScale (scale - maxScale) (m, scale)
          let (m, scale) := shorten scale m
          let (m, scale) := trimZeros scale m
          some ⟨negative, m, scale⟩
  | _ => none

/-! ## To double precision -/

/-- `r * base ^ n` by repeated squaring, the factors of low powers first. -/
def powerOf (r base : Float) (n : Nat) : Float :=
  if h : n = 0 then r
  else powerOf (if n % 2 = 1 then r * base else r) (base * base) (n / 2)
termination_by n
decreasing_by omega

/-- The double of a decimal. A negative zero keeps its sign only if it has a scale. -/
def toFloat (d : Decimal) : Float :=
  if d.scale = 0 then
    let m := Float.ofInt d.mantissa
    if d.negative ∧ d.mantissa ≠ 0 then -m else m
  else
    let unit := Nat.pow 10 d.scale
    let whole := Float.ofInt ((d.mantissa / unit : Nat) : Int)
    let fraction := Float.ofInt ((d.mantissa % unit : Nat) : Int) / Float.ofInt ((unit : Nat) : Int)
    let power := powerOf 1.0 10.0 d.scale
    let unsigned :=
      if d.mantissa % unit = 0 then whole
      else ((whole + fraction) * power).round / power
    if d.negative then -unsigned else unsigned

/-! ## Arithmetic -/

/-- `numerator / 10 ^ exactScale`, rounded to the largest scale from `scale` downwards at which the
mantissa fits. -/
def fit (negative : Bool) (numerator exactScale : Nat) : (scale : Nat) → Option Decimal
  | 0 =>
    let m := divideToEven numerator (Nat.pow 10 exactScale)
    if m < mantissaBound then some ⟨negative, m, 0⟩ else none
  | scale + 1 =>
    let m := divideToEven numerator (Nat.pow 10 (exactScale - (scale + 1)))
    if m < mantissaBound then some ⟨negative, m, scale + 1⟩
    else fit negative numerator exactScale scale

/-- The mantissa with its sign. -/
def signedMantissa (d : Decimal) : Int := if d.negative then -d.mantissa else d.mantissa

/-- The mantissa, with its sign, at a larger scale. -/
def rescaled (d : Decimal) (scale : Nat) : Int := d.signedMantissa * Nat.pow 10 (scale - d.scale)

/-- The number with the other sign. -/
def negate (d : Decimal) : Decimal := { d with negative := !d.negative }

/-- The sum. Where both cancel, the zero keeps the sign of the first. -/
def add? (x y : Decimal) : Option Decimal :=
  if x.mantissa = 0 then some y
  else if y.mantissa = 0 then some x
  else
    let scale := max x.scale y.scale
    let sum := x.rescaled scale + y.rescaled scale
    let negative := if sum = 0 then x.negative else sum < 0
    fit negative sum.natAbs scale scale

/-- The difference. A zero that is subtracted keeps its sign. -/
def subtract? (x y : Decimal) : Option Decimal :=
  add? x (if y.mantissa = 0 then y else y.negate)

/-- The product. -/
def multiply? (x y : Decimal) : Option Decimal :=
  if x.mantissa = 0 ∨ y.mantissa = 0 then some zero
  else
    let scale := x.scale + y.scale
    (fit (x.negative != y.negative) (x.mantissa * y.mantissa) scale (min maxScale scale)).map
      fun d =>
        if d.mantissa = 0 ∧ x.mantissa < Nat.pow 2 32 ∧ y.mantissa < Nat.pow 2 32 then zero else d

/-- How many digits the quotient may grow by: at most nine, at most up to the largest scale, and
only while it fits. -/
def growth (quotient : Nat) (scale : Int) : Nat :=
  ((List.range 10).reverse.find? fun (k : Nat) =>
    scale + k ≤ maxScale && quotient * Nat.pow 10 k < mantissaBound).getD 0

/-- Long division, up to nine digits at a time. The remainder is `r`, the scale so far `scale`;
the answer also says whether the quotient was ever inexact. -/
def divideDigits (divisor : Nat) : (fuel : Nat) → (q r : Nat) → (scale : Int) → (inexact : Bool) →
    Option (Nat × Nat × Bool)
  | 0, _, _, _, _ => none
  | fuel + 1, q, r, scale, inexact =>
    let extend (k : Nat) (inexact : Bool) :=
      let unit := Nat.pow 10 k
      if q * unit < mantissaBound then
        divideDigits divisor fuel (q * unit + r * unit / divisor) (r * unit % divisor)
          (scale + k) inexact
      else none
    if r = 0 then
      if 0 ≤ scale then some (q, scale.toNat, inexact)
      else extend (min 9 scale.natAbs) inexact
    else
      let k := growth q scale
      if k < 9 ∧ scale + k < 0 then none
      else if k = 0 then some (divideToEven (q * divisor + r) divisor, scale.toNat, true)
      else extend k true

/-- Takes `10 ^ 8` out of the quotient while its low 32 bits are zero. -/
def takeEights : (fuel : Nat) → Nat × Nat → Nat × Nat
  | 0, state => state
  | fuel + 1, (q, scale) =>
    if q % Nat.pow 2 32 = 0 ∧ 8 ≤ scale ∧ q % Nat.pow 10 8 = 0 then
      takeEights fuel (q / Nat.pow 10 8, scale - 8)
    else (q, scale)

/-- Takes `10 ^ e` out of the quotient, if it divides it. -/
def takePower (e : Nat) : Nat × Nat → Nat × Nat
  | (q, scale) =>
    if e ≤ scale ∧ q % Nat.pow 10 e = 0 then (q / Nat.pow 10 e, scale - e) else (q, scale)

/-- The quotient. -/
def divide? (x y : Decimal) : Option Decimal :=
  if y.mantissa = 0 then none
  else if x.mantissa = 0 then some zero
  else
    (divideDigits y.mantissa 64 (x.mantissa / y.mantissa) (x.mantissa % y.mantissa)
        ((x.scale : Int) - y.scale) false).map fun (q, scale, inexact) =>
      let (q, scale) :=
        if inexact then takePower 1 (takePower 2 (takePower 4 (takeEights 4 (q, scale))))
        else (q, scale)
      if q = 0 then zero else ⟨x.negative != y.negative, q, scale⟩

/-- The remainder of the truncated quotient, with the sign of the dividend. -/
def remainder? (x y : Decimal) : Option Decimal :=
  if y.mantissa = 0 then none
  else if x.mantissa = 0 then some zero
  else
    let scale := max x.scale y.scale
    let dividend := (x.rescaled scale).natAbs
    let divisor := (y.rescaled scale).natAbs
    if dividend < divisor then some x
    else
      let r := dividend % divisor
      if r = 0 then some zero
      else if r < mantissaBound then some ⟨x.negative, r, scale⟩
      else none

end Decimal

end PredicateLang.Number
