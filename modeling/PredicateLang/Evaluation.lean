import PredicateLang.Evaluation.Collection
import PredicateLang.Evaluation.Memory
import PredicateLang.Pattern.Glob
import PredicateLang.Pattern.Regex.Parser
import PredicateLang.Target
import PredicateLang.Text.LetterCase
import PredicateLang.Value.Conversion

/-!
# Evaluation

`Target.eval` evaluates a lowered tree: operands from left to right, each once, and the second
operand of a connective only if the first does not decide.
-/

namespace PredicateLang

namespace Evaluation

/-! ## Strings -/

mutual

/-- A function of strings, applied to a string or to the items of an array. -/
def onText (f : String → Value) : Value → Except Error Value
  | .null => .ok .null
  | .string s => .ok (f s)
  | .array items => do return .array (← onTexts f items)
  | other => fault (.unexpected .string other.typeName)

/-- A function of strings, applied to each of several values. -/
def onTexts (f : String → Value) : List Value → Except Error (List Value)
  | [] => .ok []
  | item :: rest => return (← onText f item) :: (← onTexts f rest)

end

/-- The number of characters of a string, or of items of an array. -/
def length : Value → Except Error Value
  | .array items => countValue items.length
  | v => onText (fun s => .int s.length) v

/-- A test of a string against another. With null it fails. -/
def testStrings (test : String → String → Except Error Bool) (subject pattern : Value) :
    Except Error Value :=
  match subject, pattern with
  | .string s, .string p => do return .boolean (← test s p)
  | .null, _ | _, .null => .ok (.boolean false)
  | subject, pattern => fault (.stringOperator subject.typeName pattern.typeName)

/-- Does a regular expression occur in a text? -/
def matchesRegex (text pattern : String) : Except Error Bool :=
  match Regex.search? pattern text with
  | some found => .ok found
  | none => fault .invalidRegex

/-- Has a text the form of a pattern with wildcards? -/
def matchesGlob (text pattern : String) : Except Error Bool :=
  .ok (Glob.isMatch pattern.toList text.toList)

/-- Does a text begin with another? -/
def beginsWith (text start : String) : Except Error Bool :=
  .ok (start.toList.isPrefixOf text.toList)

/-- Does a text end with another? -/
def endsWith (text ending : String) : Except Error Bool :=
  .ok (ending.toList.isSuffixOf text.toList)

/-! ## Random numbers -/

/-- The greatest bound of random numbers. -/
def greatestBound : Float := 2147483647.0

/-- The bound of random numbers that a value is: its whole part, which has to be positive. -/
def randomBound (v : Value) : Except Error Int :=
  match v.toFloat? with
  | none => fault .boundWanted
  | some x =>
    if x < 1.0 then fault (.positiveBoundWanted x)
    else .ok ((Number.truncate? (if x < greatestBound then x else greatestBound)).getD 1)

/-- A random number from zero on and below a bound. -/
def drawBelow (bound : Value) : Evaluation Value := do
  let bound ← ofResult (randomBound bound)
  return .int ((← draw) % bound)

/-! ## Calls -/

/-- The value of a builtin function. An argument that is not there is null. -/
def call (builtin : Builtin) (args : List Value) : Evaluation Value :=
  let first := args.headD .null
  let second := (args.drop 1).headD .null
  match builtin with
  | .sqrt => ofResult (onFloat Float.sqrt first)
  | .log10 => ofResult (onFloat Float.log10 first)
  | .ln => ofResult (onFloat Float.log first)
  | .exp => ofResult (onFloat Float.exp first)
  | .floor => ofResult (onFraction Float.floor first)
  | .ceiling => ofResult (onFraction Float.ceil first)
  | .trunc => ofResult (onFraction Number.truncate first)
  | .abs => ofResult (absolute first)
  | .uppercase => ofResult (onText (fun s => .string (Text.upper s)) first)
  | .lowercase => ofResult (onText (fun s => .string (Text.lower s)) first)
  | .length => ofResult (length first)
  | .random => return .int (← draw)
  | .randomBelow => drawBelow first
  | .now => return .date (← read).now
  | .isMatch => ofResult (testStrings matchesRegex first second)
  | .like => ofResult (testStrings matchesGlob first second)
  | .beginsWith => ofResult (testStrings beginsWith first second)
  | .endsWith => ofResult (testStrings endsWith first second)
  | .contains => ofResult (contains first second)
  | .dateAdd unit => ofResult (moveDate first second unit false)
  | .backendDateAdd unit => ofResult (moveDate first second unit true)
  | .castNumber => ofResult (first.castToNumber.mapError .evaluation)
  | .castString => ofResult (first.castToString.mapError .evaluation)
  | .castDate => ofResult (first.castToDate.mapError .evaluation)

/-! ## Iteration -/

/-- A value as truth; null counts as false. -/
def truth : Value → Evaluation Bool
  | .boolean b => return b
  | .null => return false
  | other => throw (.evaluation (.unexpected .boolean other.typeName))

/-- The items of a collection, unless it is null. -/
def items? : Value → Evaluation (Option (List Value))
  | .null => return none
  | .array items => return some items
  | other => throw (.evaluation (.unexpected .collection other.typeName))

/-- The values of the body for the items. -/
def mapItems (parameter : String) (body : Evaluation Value) :
    List Value → Evaluation (List Value)
  | [] => return []
  | item :: rest => do
    let value ← withSlot parameter item body
    return value :: (← mapItems parameter body rest)

/-- The items for which the predicate holds. -/
def filterItems (parameter : String) (predicate : Evaluation Bool) :
    List Value → Evaluation (List Value)
  | [] => return []
  | item :: rest => do
    let keep ← withSlot parameter item predicate
    let kept ← filterItems parameter predicate rest
    return if keep then item :: kept else kept

/-- Does the predicate hold for all items, or for one? The items behind the first one that decides
are left alone. -/
def quantifyItems (quantifier : Quantifier) (parameter : String) (predicate : Evaluation Bool) :
    List Value → Evaluation Bool
  | [] => return quantifier = .all
  | item :: rest => do
    let holds ← withSlot parameter item predicate
    match quantifier, holds with
    | .any, true => return true
    | .all, false => return false
    | _, _ => quantifyItems quantifier parameter predicate rest

end Evaluation

open Evaluation

mutual

/-- The value of a tree. -/
def Target.eval : Target → Evaluation Value
  | .constant _ value => return value
  | .parameter _ name => lookup name
  | .property _ receiver name => do ofResult (Evaluation.property name (← Target.eval receiver))
  | .guard _ subject binding body => do
    let value ← Target.eval subject
    if value.isNull then return body.kind.default else withSlot binding value (Target.eval body)
  | .map _ source item body => do
    match ← items? (← Target.eval source) with
    | some items => return .array (← mapItems item (Target.eval body) items)
    | none => return .null
  | .filter _ source item predicate => do
    match ← items? (← Target.eval source) with
    | some items =>
      return .array (← filterItems item (do truth (← Target.eval predicate)) items)
    | none => return .null
  | .quantify _ quantifier source item predicate => do
    match ← items? (← Target.eval source) with
    | some items =>
      return .boolean
        (← quantifyItems quantifier item (do truth (← Target.eval predicate)) items)
    | none => return .boolean (quantifier = .all)
  | .count _ source => do ofResult (Evaluation.count (← Target.eval source))
  | .reduce kind reduction source => do
    match ← items? (← Target.eval source) with
    | some items => ofResult (Evaluation.reduce kind reduction items)
    | none => return .null
  | .elementAt _ source index => do
    let source ← Target.eval source
    let index ← Target.eval index
    ofResult (Evaluation.elementAt source index)
  | .list _ items => return .array (← Target.evalAll items)
  | .binary _ .andAlso left right => do
    if ← truth (← Target.eval left) then return .boolean (← truth (← Target.eval right))
    else return .boolean false
  | .binary _ .orElse left right => do
    if ← truth (← Target.eval left) then return .boolean true
    else return .boolean (← truth (← Target.eval right))
  | .binary kind op left right => do
    let left ← Target.eval left
    let right ← Target.eval right
    ofResult (Evaluation.binary kind op left right)
  | .unary _ op operand => do ofResult (Evaluation.unary op (← Target.eval operand))
  | .call _ builtin args => do Evaluation.call builtin (← Target.evalAll args)
  | .convert kind operand => do
    let value ← Target.eval operand
    match value.convert? kind with
    | some converted => return converted
    | none => throw (.evaluation (.inconvertible value kind))
  | .assign _ name value => do
    let value ← Target.eval value
    Evaluation.assign name value
    return value
  | .bind _ value binding body => do
    let value ← Target.eval value
    withSlot binding value (Target.eval body)

/-- The values of trees. -/
def Target.evalAll : List Target → Evaluation (List Value)
  | [] => return []
  | t :: rest => return (← Target.eval t) :: (← Target.evalAll rest)

end

/-- The truth of a tree. -/
def Target.evalTruth (t : Target) : Evaluation Bool := do truth (← t.eval)

end PredicateLang
