import PredicateLang.Error
import PredicateLang.Number.Decimal
import PredicateLang.Value.Conversion
import PredicateLang.Value.Order

/-!
# Operations on values

Comparisons never fail: values without an order are simply not less, greater or equal. Arithmetic
with null is null. Two integers are calculated with exactly, in 128 bits, and the result has to fit
its kind; any other two numbers are calculated with as decimals if that is possible, and in double
precision otherwise.

Dates are moved by an amount of a unit. Months and years are moved by as whole ones; an amount of
any other unit is rounded to milliseconds.
-/

namespace PredicateLang.Evaluation

/-- Fails because values do not fit. -/
def fault {α : Type} (f : EvaluationFault) : Except Error α := .error (.evaluation f)

/-! ## Integers -/

/-- Does an integer fit in 128 bits? -/
def fitsWide (n : Int) : Bool := -(Nat.pow 2 127) ≤ n && n < Nat.pow 2 127

/-- An operation on the bits of two integers of at most 128 bits. -/
def onBits (f : BitVec 128 → BitVec 128 → BitVec 128) (a b : Int) : Int :=
  (f (BitVec.ofInt 128 a) (BitVec.ofInt 128 b)).toInt

/-- The result of an operation on integers, if it fits in 128 bits. Bits that are shifted out are
lost. -/
def integerResult? (op : BinaryOp) (a b : Int) : Option Int :=
  match op with
  | .add => if fitsWide (a + b) then some (a + b) else none
  | .subtract => if fitsWide (a - b) then some (a - b) else none
  | .multiply => if fitsWide (a * b) then some (a * b) else none
  | .divide => some (a.tdiv b)
  | .modulo => some (a.tmod b)
  | .bitAnd => some (onBits (· &&& ·) a b)
  | .bitOr => some (onBits (· ||| ·) a b)
  | .bitXor => some (onBits (· ^^^ ·) a b)
  | .shiftLeft =>
    if 0 ≤ b ∧ b < 128 then some ((a * Nat.pow 2 b.toNat).bmod (Nat.pow 2 128)) else none
  | .shiftRight => if 0 ≤ b ∧ b < 128 then some (a >>> b.toNat) else none
  | _ => none

/-- The kind of the result of an operation on two integers: the kind asked for, or the more precise
of their kinds. -/
def integerResultKind (kind : Kind) (left right : IntegerKind) : IntegerKind :=
  match kind with
  | .integer k => k
  | _ => if left.rank ≥ right.rank then left else right

/-- The integer as a value of a kind. -/
def narrow (kind : IntegerKind) (n : Int) : Except Error Value :=
  match Value.narrow? kind n with
  | some v => .ok v
  | none => fault (.integerOutOfRange n kind)

/-- An operation on two integers. -/
def integerBinary (kind : Kind) (op : BinaryOp) (a b : Integer) : Except Error Value :=
  if (op = .divide ∨ op = .modulo) ∧ b.val = 0 then .error .divisionByZero
  else
    match integerResult? op a.val b.val with
    | some n => narrow (integerResultKind kind a.kind b.kind) n
    | none => fault (.integerOverflow op a.val b.val)

/-! ## Numbers with a fraction -/

/-- The result of an operation as decimals. -/
def decimalResult? (op : BinaryOp) (x y : Float) : Option Float := do
  let a ← Number.Decimal.ofFloat? x
  let b ← Number.Decimal.ofFloat? y
  let result ←
    match op with
    | .add => a.add? b
    | .subtract => a.subtract? b
    | .multiply => a.multiply? b
    | .divide => a.divide? b
    | .modulo => a.remainder? b
    | _ => none
  return result.toFloat

/-- The result of an operation in double precision. -/
def floatResult? (op : BinaryOp) (x y : Float) : Option Float :=
  match op with
  | .add => some (x + y)
  | .subtract => some (x - y)
  | .multiply => some (x * y)
  | .divide => some (x / y)
  | .modulo => some (Number.remainder x y)
  | .power => some (x ^ y)
  | _ => none

/-- An operation on two numbers that are not both integers, or a power. -/
def floatBinary (kind : Kind) (op : BinaryOp) (x y : Float) : Except Error Value :=
  match (decimalResult? op x y).orElse fun _ => floatResult? op x y with
  | some result => .ok (if kind = .float then .float result.toFloat32 else .double result)
  | none => fault (.integersWanted op)

/-! ## Operations -/

/-- The result of a comparison. -/
def comparison? (op : BinaryOp) (left right : Value) : Option Bool :=
  match op with
  | .equal => some (left.looseEq right)
  | .notEqual => some (!left.looseEq right)
  | .less => some (left.compare right = some .lt)
  | .lessEqual => some (left.compare right = some .lt || left.compare right = some .eq)
  | .greater => some (left.compare right = some .gt)
  | .greaterEqual => some (left.compare right = some .gt || left.compare right = some .eq)
  | _ => none

/-- An arithmetic operation. -/
def arithmetic (kind : Kind) (op : BinaryOp) (left right : Value) : Except Error Value :=
  match left, right with
  | .null, _ | _, .null => .ok .null
  | left, right =>
    match left, right, op with
    | .integer a, .integer b, op =>
      if op = .power then floatBinary kind op (Float.ofInt a.val) (Float.ofInt b.val)
      else integerBinary kind op a b
    | left, right, op =>
      match left.toFloat?, right.toFloat? with
      | some x, some y => floatBinary kind op x y
      | _, _ => fault (.inapplicable op left.typeName right.typeName)

/-- An operation on two values that is asked for a value of a kind. -/
def binary (kind : Kind) (op : BinaryOp) (left right : Value) : Except Error Value :=
  match comparison? op left right with
  | some b => .ok (.boolean b)
  | none => arithmetic kind op left right

/-- A function of integers. -/
def onInteger (f : Int → Int) : Value → Except Error Value
  | .null => .ok .null
  | .integer n => narrow n.kind (f n.val)
  | other => fault (.unexpected .integer other.typeName)

/-- An operation on a value. -/
def unary (op : UnaryOp) (v : Value) : Except Error Value :=
  match op, v with
  | .not, .boolean b => .ok (.boolean !b)
  | .not, .null => .ok (.boolean true)
  | .not, other => fault (.negationOf other.typeName)
  | .negate, .float x => .ok (.float (-x))
  | .negate, .double x => .ok (.double (-x))
  | .negate, v => onInteger (-·) v
  | .onesComplement, v => onInteger (-· - 1) v

/-! ## Functions of numbers -/

/-- A function of numbers. -/
def onFloat (f : Float → Float) : Value → Except Error Value
  | .null => .ok .null
  | v =>
    match v.toFloat? with
    | some x => .ok (.double (f x))
    | none => fault (.unexpected .number v.typeName)

/-- A function that rounds numbers; integers are round. -/
def onFraction (f : Float → Float) : Value → Except Error Value
  | .integer n => .ok (.integer n)
  | v => onFloat f v

/-- The absolute value. -/
def absolute : Value → Except Error Value
  | .float x => .ok (.float x.abs)
  | .double x => .ok (.double x.abs)
  | v => onInteger (fun n => n.natAbs) v

/-! ## Dates -/

/-- How many seconds a unit has, if all of that unit have the same. -/
def secondsPerUnit? : DateUnit → Option Float
  | .seconds => some 1.0
  | .minutes => some 60.0
  | .hours => some 3600.0
  | .days => some 86400.0
  | .months | .years => none

/-- How many months an amount of a unit of months is. Not a number counts as none. -/
def monthsOf (amount : Float) (unit : DateUnit) : Option Int :=
  let whole := Number.truncate amount
  let months := if unit = .years then whole * 12.0 else whole
  if months.isNaN then some 0 else Number.truncate? months

/-- The date moved by an amount of a unit, if there is such a date. -/
def moved? (date : Instant) (amount : Float) (unit : DateUnit) : Option Instant :=
  match secondsPerUnit? unit with
  | some seconds => (Number.truncate? (amount * seconds * 1000.0).round).bind date.addMillis?
  | none => (monthsOf amount unit).bind date.addMonths?

/-- A date moved by an amount of a unit, of which a backend takes the whole part only. -/
def moveDate (date amount : Value) (unit : DateUnit) (wholeAmount : Bool) : Except Error Value :=
  match date with
  | .null => .ok .null
  | .date t =>
    match amount with
    | .null => .ok .null
    | amount =>
      match amount.toFloat? with
      | none => fault (.offsetBy amount.typeName)
      | some x =>
        let x := if wholeAmount then Number.truncate x else x
        match moved? t x unit with
        | some t => .ok (.date t)
        | none => fault (.offsetOutOfRange x unit)
  | other => fault (.offsetFrom other.typeName)

end PredicateLang.Evaluation
