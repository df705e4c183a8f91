import PredicateLang.Lowering.KeyPath
import PredicateLang.Selector
import PredicateLang.Value.Conversion

/-!
# Lowering builtin functions

What a builtin function becomes when its arguments are lowered. The kinds of the arguments decide
whether the function makes sense and what kind its value has; arguments whose kind is not known are
put off until evaluation.
-/

namespace PredicateLang.Lowering

/-! ## Demands on arguments -/

/-- An argument that may be a number. -/
def numeric (selector : String) (argument : Target) : Lowering Target :=
  if argument.kind.isNumeric ∨ argument.kind.isDynamic then pure argument
  else typeFault (.demand selector .number argument.kind)

/-- An argument that may be an integer. -/
def integral (selector : String) (argument : Target) : Lowering Target :=
  if argument.kind.isInteger ∨ argument.kind.isDynamic then pure argument
  else typeFault (.demand selector .integer argument.kind)

/-- An argument as a number with a fraction, unless its kind is not known. -/
def fractional (argument : Target) : Lowering Target :=
  if argument.kind.isDynamic then pure argument else ofResult (argument.cast .double)

/-! ## Numbers -/

/-- An operation on two arguments of one kind, which is also that of its value; any if the kind of
one is not known. -/
def onSharedKind (op : BinaryOp) (left right : Target) : Lowering Target := do
  if left.kind.isDynamic ∨ right.kind.isDynamic then return .binary .any op left right
  else
    let (left, right) ← ofResult (left.makeComparable right)
    return .binary left.kind op left right

/-- An arithmetic operation. Powers always have a fraction. -/
def arithmetic (selector : String) (op : BinaryOp) (left right : Target) : Lowering Target := do
  let left ← numeric selector left
  let right ← numeric selector right
  if op = .power then
    let left ← ofResult (left.cast .double)
    let right ← ofResult (right.cast .double)
    return .binary .double op left right
  else onSharedKind op left right

/-- The kind of a rounded number: integers stay what they are. -/
def roundedKind (kind : Kind) : Kind :=
  if kind.isInteger ∨ kind.isDynamic then kind else .double

/-! ## Casts -/

/-- A cast to the type with a constant name. Constants but null are cast at once; no other value is
cast for a backend. -/
def castTo (value typeName : Target) : Lowering Target := do
  let some name := typeName.constantString? | typeFault .computedTypeName
  let (builtin, kind, cast) ←
    match name with
    | "NSNumber" => pure (Builtin.castNumber, Kind.double, Value.castToNumber)
    | "NSString" => pure (Builtin.castString, Kind.string, Value.castToString)
    | "NSDate" => pure (Builtin.castDate, Kind.date, Value.castToDate)
    | other => typeFault (.unknownTypeName other)
  match value.constant? with
  | some constant =>
    if constant.isNull then castLater builtin kind
    else
      match cast constant with
      | .ok result => return .ofValue result
      | .error fault => throw (.evaluation fault)
  | none => castLater builtin kind
where
  /-- The cast at the time of evaluation. -/
  castLater (builtin : Builtin) (kind : Kind) : Lowering Target := do
    if (← dialect) = .backend then throw (.unsupported "castObject:toType:" .backend)
    else return .call kind builtin [value]

/-! ## Dates -/

/-- The amount that a backend moves a date by: an integer, if it is a constant. -/
def backendAmount (amount : Target) : Lowering Target :=
  if amount.constant?.isSome ∧ amount.kind.isNumeric then
    ofResult (amount.cast (.integer .int))
  else pure amount

/-- A date moved by an amount of a unit. -/
def moveDate (selector : String) (unit : DateUnit) (date amount : Target) : Lowering Target := do
  let amount ← numeric selector amount
  match date.kind with
  | .date | .any | .null =>
    match ← dialect with
    | .objects => do
      let amount ← fractional amount
      guarded date fun date => return .call .date (.dateAdd unit) [date, amount]
    | .backend => return .call .date (.backendDateAdd unit) [date, ← backendAmount amount]
  | kind => typeFault (.demand selector .dateReceiver kind)

/-! ## Collections -/

/-- A place in a collection that a word names: its first or last item, or the number of items. -/
def indexBySymbol (source : Target) (element : Kind) : IndexSymbol → Lowering Target
  | .size => count source
  | .first => guarded source fun source => return .elementAt element source (.ofValue (.int 0))
  | .last =>
    guarded source fun source =>
      let last := .binary (.integer .int) .subtract (.count (.integer .int) source)
        (.ofValue (.int 1))
      return .elementAt element source last

/-- The item of a collection at an index. -/
def indexBy (source : Target) (element : Kind) (index : Target) : Lowering Target := do
  let index ← integral Expr.indexSelector index
  guarded source fun source => return .elementAt element source index

/-! ## Functions -/

/-- A function of a string, or of the strings in an unknown value. -/
def textFunction (selector : String) (builtin : Builtin) (argument : Target) : Lowering Target :=
  match argument.kind with
  | .string | .any | .null =>
    let kind := if builtin = .length then .integer .int else .string
    guarded argument fun argument => return .call kind builtin [argument]
  | kind => typeFault (.demand selector .string kind)

/-- A builtin function of one argument; `none` if its meaning is one of other arguments. -/
def unaryCall? (selector : String) (argument : Target) : Meaning → Option (Lowering Target)
  | .reduce reduction => some do
    reduce argument reduction (← elementOf selector .collection argument)
  | .count => some do
    let _ ← elementOf selector .collection argument
    count argument
  | .math builtin => some do
    return .call .double builtin [← fractional (← numeric selector argument)]
  | .rounding builtin => some do
    let argument ← numeric selector argument
    return .call (roundedKind argument.kind) builtin [argument]
  | .abs => some do
    let argument ← numeric selector argument
    return .call argument.kind .abs [argument]
  | .negate => some do
    let argument ← numeric selector argument
    return .unary argument.kind .negate argument
  | .text builtin => some (textFunction selector builtin argument)
  | .onesComplement => some do
    let argument ← integral selector argument
    return .unary argument.kind .onesComplement argument
  | .randomBelow => some do
    return .call (.integer .int) .randomBelow [← numeric selector argument]
  | _ => none

/-- A builtin function of two arguments; `none` if its meaning is one of other arguments. -/
def binaryCall? (selector : String) (left right : Target) : Meaning → Option (Lowering Target)
  | .arithmetic op => some (arithmetic selector op left right)
  | .bitwise op => some do
    onSharedKind op (← integral selector left) (← integral selector right)
  | .shift op => some do
    let left ← integral selector left
    let right ← integral selector right
    return .binary left.kind op left right
  | .cast => some (castTo left right)
  | .dateAdd unit => some (moveDate selector unit left right)
  | _ => none

/-- A builtin function without arguments; `none` if its meaning is one of arguments. -/
def constantCall? : Meaning → Option (Lowering Target)
  | .random => some (return .call (.integer .int) .random [])
  | .now => some (return .call .date .now [])
  | _ => none

/-- A builtin function of lowered arguments; `none` if its meaning is one of another number of
arguments. -/
def call? (f : BuiltinFunction) (args : List Target) : Option (Lowering Target) :=
  match args with
  | [] => constantCall? f.meaning
  | [argument] => unaryCall? f.selector argument f.meaning
  | [left, right] => binaryCall? f.selector left right f.meaning
  | _ => none

end PredicateLang.Lowering
