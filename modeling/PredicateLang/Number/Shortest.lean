import PredicateLang.Number.Binary

/-!
# The fewest digits that identify a number

A binary floating-point number stands for an interval of reals: those that are nearer to it than
to its neighbours. Every decimal in the interval reads back as that number. `Scientific.shortest`
gives a decimal of the interval with the fewest digits, and among those the one nearest to the
number. The search is by exact arithmetic on natural numbers: for one digit, two digits and so on
it tries the two neighbours of the number on the decimal grid of that many digits.

The interval is the same for every width of the binary format; only the significand, the exponent
and the narrower gap below a power of two enter.
-/

namespace PredicateLang.Number

/-- The decimal number `digits * 10 ^ exponent`. -/
structure Scientific where
  digits : Nat
  exponent : Int
deriving DecidableEq, Repr

/-- Which of two equally near decimals is taken. -/
inductive Tie where
  | even
  | up
deriving DecidableEq, Repr

/-- Compares `a * 10 ^ i` with `b * 2 ^ j`. -/
def compareScaled (a : Nat) (i : Int) (b : Nat) (j : Int) : Ordering :=
  compare (a * Nat.pow 10 i.toNat * Nat.pow 2 (-j).toNat)
    (b * Nat.pow 2 j.toNat * Nat.pow 10 (-i).toNat)

namespace Scientific

/-- Is the decimal in the interval of the reals that round to `significand * 2 ^ exponent`? The
ends of the interval belong to it exactly when the significand is even. -/
def identifies (significand : Nat) (exponent : Int) (narrowBelow : Bool) (d : Scientific) :
    Bool :=
  let low := if narrowBelow then 4 * significand - 1 else 4 * significand - 2
  let high := 4 * significand + 2
  let closed := significand % 2 == 0
  let below := compareScaled d.digits d.exponent low (exponent - 2)
  let above := compareScaled d.digits d.exponent high (exponent - 2)
  (below == .gt || (closed && below == .eq)) && (above == .lt || (closed && above == .eq))

/-- The least `k` from `guess` on with `significand * 2 ^ exponent < 10 ^ k`, trying `fuel`
candidates. -/
def leadingPower (significand : Nat) (exponent : Int) : Nat → Int → Int
  | 0, guess => guess
  | fuel + 1, guess =>
    if compareScaled 1 guess significand exponent == .gt then guess
    else leadingPower significand exponent fuel (guess + 1)

/-- The decimal nearest to the number on the grid of the multiples of `10 ^ grid`, if one of the
number's two neighbours there identifies it. -/
def onGrid? (tie : Tie) (significand : Nat) (exponent : Int) (narrowBelow : Bool) (grid : Int) :
    Option Scientific :=
  let numerator := significand * Nat.pow 2 exponent.toNat * Nat.pow 10 (-grid).toNat
  let denominator := Nat.pow 2 (-exponent).toNat * Nat.pow 10 grid.toNat
  let floor := numerator / denominator
  let lower : Scientific := ⟨floor, grid⟩
  let upper : Scientific := ⟨floor + 1, grid⟩
  match lower.identifies significand exponent narrowBelow,
      upper.identifies significand exponent narrowBelow with
  | false, false => none
  | true, false => some lower
  | false, true => some upper
  | true, true =>
    match compare (2 * (numerator % denominator)) denominator with
    | .lt => some lower
    | .gt => some upper
    | .eq => if tie == .even && floor % 2 == 0 then some lower else some upper

/-- Moves zeros at the end of the digits into the exponent, at most `fuel` of them. -/
def stripZeros : Nat → Scientific → Scientific
  | 0, d => d
  | fuel + 1, d =>
    if d.digits % 10 == 0 && d.digits != 0 then
      stripZeros fuel ⟨d.digits / 10, d.exponent + 1⟩
    else d

/-- The exact value of `significand * 2 ^ exponent`. -/
def exact (significand : Nat) (exponent : Int) : Scientific :=
  if exponent < 0 then ⟨significand * Nat.pow 5 exponent.natAbs, exponent⟩
  else ⟨significand * Nat.pow 2 exponent.natAbs, 0⟩

/-- The fewest digits that identify `significand * 2 ^ exponent`, the nearest of that many. A
number that seventeen digits do not identify, which no binary format up to double precision has,
would be given exactly. -/
def shortest (tie : Tie) (significand : Nat) (exponent : Int) (narrowBelow : Bool) :
    Scientific :=
  if significand = 0 then ⟨0, 0⟩
  else
    let bits : Int := significand.log2 + exponent
    let leading := leadingPower significand exponent 4 (bits * 30103 / 100000)
    let found := (List.range 17).findSome? fun (n : Nat) =>
      onGrid? tie significand exponent narrowBelow (leading - 1 - n)
    stripZeros 20 (found.getD (exact significand exponent))

end Scientific

end PredicateLang.Number
