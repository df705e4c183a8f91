/-!
# Operations of lowered trees

The names of what a lowered tree can do: binary and unary operations, folds over collections, and
the fixed set of builtin calls.
-/

namespace PredicateLang

/-- Must a predicate hold for all items, or for one? -/
inductive Quantifier where
  | all | any
deriving DecidableEq, Repr

/-- A collection reduced to one value. -/
inductive Reduction where
  | sum | min | max | average
deriving DecidableEq, Repr

/-- Operations on two values. -/
inductive BinaryOp where
  | add | subtract | multiply | divide | modulo | power
  | bitAnd | bitOr | bitXor | shiftLeft | shiftRight
  | equal | notEqual | less | lessEqual | greater | greaterEqual
  /-- The second operand is evaluated only if the first is true. -/
  | andAlso
  /-- The second operand is evaluated only if the first is false. -/
  | orElse
deriving DecidableEq, Repr

/-- Operations on one value. -/
inductive UnaryOp where
  | not | negate | onesComplement
deriving DecidableEq, Repr

/-- Units that dates are moved by. -/
inductive DateUnit where
  | seconds | minutes | hours | days | months | years
deriving DecidableEq, Repr

/-- Builtin calls. -/
inductive Builtin where
  | sqrt | log10 | ln | exp
  | floor | ceiling | trunc | abs
  | uppercase | lowercase | length
  /-- A random number. -/
  | random
  /-- A random number below a bound. -/
  | randomBelow
  | now
  /-- Does a regular expression occur in the subject? -/
  | isMatch
  /-- Has the whole subject the form of a pattern with `*` and `?`? -/
  | like
  | beginsWith | endsWith
  /-- Is the second operand a part of a string or an item of a collection? -/
  | contains
  /-- A date moved by an amount that may have a fraction. -/
  | dateAdd (unit : DateUnit)
  /-- A date moved by a whole amount, as a query backend does it. -/
  | backendDateAdd (unit : DateUnit)
  | castNumber | castString | castDate
deriving DecidableEq, Repr

/-- The name of the quantifier. -/
def Quantifier.name : Quantifier → String
  | all => "All"
  | any => "Any"

/-- The name of the reduction. -/
def Reduction.name : Reduction → String
  | sum => "Sum"
  | min => "Min"
  | max => "Max"
  | average => "Average"

/-- The name of the operation in messages. -/
def BinaryOp.name : BinaryOp → String
  | add => "Add"
  | subtract => "Subtract"
  | multiply => "Multiply"
  | divide => "Divide"
  | modulo => "Modulo"
  | power => "Power"
  | bitAnd => "BitAnd"
  | bitOr => "BitOr"
  | bitXor => "BitXor"
  | shiftLeft => "ShiftLeft"
  | shiftRight => "ShiftRight"
  | equal => "Equal"
  | notEqual => "NotEqual"
  | less => "Less"
  | lessEqual => "LessEqual"
  | greater => "Greater"
  | greaterEqual => "GreaterEqual"
  | andAlso => "AndAlso"
  | orElse => "OrElse"

/-- The name of the operation. -/
def UnaryOp.name : UnaryOp → String
  | not => "Not"
  | negate => "Negate"
  | onesComplement => "OnesComplement"

/-- The name of the unit in messages. -/
def DateUnit.name : DateUnit → String
  | seconds => "Seconds"
  | minutes => "Minutes"
  | hours => "Hours"
  | days => "Days"
  | months => "Months"
  | years => "Years"

/-- All units. -/
def DateUnit.all : List DateUnit := [seconds, minutes, hours, days, months, years]

/-- The name of the call in messages. -/
def Builtin.name : Builtin → String
  | sqrt => "Sqrt"
  | log10 => "Log10"
  | ln => "Ln"
  | exp => "Exp"
  | floor => "Floor"
  | ceiling => "Ceiling"
  | trunc => "Trunc"
  | abs => "Abs"
  | uppercase => "Uppercase"
  | lowercase => "Lowercase"
  | length => "Length"
  | random => "Random"
  | randomBelow => "RandomBelow"
  | now => "Now"
  | isMatch => "Matches"
  | like => "Like"
  | beginsWith => "BeginsWith"
  | endsWith => "EndsWith"
  | contains => "Contains"
  | dateAdd unit => "DateAdd(" ++ unit.name ++ ")"
  | backendDateAdd unit => "BackendDateAdd(" ++ unit.name ++ ")"
  | castNumber => "CastNumber"
  | castString => "CastString"
  | castDate => "CastDate"

/-- All quantifiers. -/
def Quantifier.values : List Quantifier := [all, any]

/-- All reductions. -/
def Reduction.values : List Reduction := [sum, min, max, average]

/-- All binary operations. -/
def BinaryOp.values : List BinaryOp :=
  [add, subtract, multiply, divide, modulo, power, bitAnd, bitOr, bitXor, shiftLeft, shiftRight,
    equal, notEqual, less, lessEqual, greater, greaterEqual, andAlso, orElse]

/-- All unary operations. -/
def UnaryOp.values : List UnaryOp := [not, negate, onesComplement]

/-- All builtin calls. -/
def Builtin.values : List Builtin :=
  [sqrt, log10, ln, exp, floor, ceiling, trunc, abs, uppercase, lowercase, length, random,
    randomBelow, now, isMatch, like, beginsWith, endsWith, contains, castNumber, castString,
    castDate] ++ DateUnit.all.map dateAdd ++ DateUnit.all.map backendDateAdd

end PredicateLang
