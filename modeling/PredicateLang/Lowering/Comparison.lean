import PredicateLang.Lowering.Scope
import PredicateLang.Lowering.KeyPath
import PredicateLang.Text.LetterCase

/-!
# Lowering comparisons

Each operator of a comparison has a form of its own: order and equality become operations on
comparable operands, the operators on strings become calls, membership is containment the other way
round, and a range is two comparisons. Operands with effects are evaluated once and from left to
right in any of them.
-/

namespace PredicateLang.Lowering

/-! ## Letter case -/

/-- A string, or anything that may be one, in small letters. -/
def foldString (subject : Target) : Lowering Target :=
  match subject.constantString? with
  | some s => return .ofValue (.string (Text.lower s))
  | none => guarded subject fun string => return .call subject.kind .lowercase [string]

/-- Can values of the kind be strings? -/
def mayBeString : Kind → Bool
  | .string | .any => true
  | _ => false

mutual

/-- An operand whose strings are in small letters: a string, or the items of a collection. -/
def foldCase : Target → Lowering Target
  | .list kind items => do
    match kind with
    | .sequence element =>
      if mayBeString element then return .list kind (← foldCaseAll items)
      else return .list kind items
    | kind => if mayBeString kind then foldString (.list kind items) else return .list kind items
  | subject =>
    match subject.kind with
    | .sequence element =>
      if mayBeString element then do
        let parameter ← fresh "f"
        let body ← foldString (.parameter element parameter)
        return .map subject.kind subject parameter body
      else return subject
    | kind => if mayBeString kind then foldString subject else return subject

/-- Operands whose strings are in small letters. -/
def foldCaseAll : List Target → Lowering (List Target)
  | [] => return []
  | item :: rest => return (← foldCase item) :: (← foldCaseAll rest)

end

/-! ## Operators -/

/-- Order or equality of two operands. -/
def relate (op : BinaryOp) (left right : Target) : Lowering Target := do
  let (left, right) ← ofResult (left.makeComparable right)
  return .binary .boolean op left right

/-- Fails if an operand of an operator on strings cannot be one. -/
def demandString (builtin : Builtin) (operand : Target) : Lowering Unit :=
  match operand.kind with
  | .string | .any | .null => return
  | kind => typeFault (.demand builtin.name .stringOperands kind)

/-- An operator on strings. -/
def stringTest (builtin : Builtin) (left right : Target) : Lowering Target := do
  demandString builtin left
  demandString builtin right
  shared left fun left => shared right fun right =>
    guarded left fun left => return .call .boolean builtin [left, right]

/-- A part of a string or an item of a collection. -/
def contains (haystack needle : Target) : Lowering Target := do
  let (haystack, needle) ←
    if haystack.kind.isSequence then ofResult (haystack.makeComparable needle)
    else pure (haystack, needle)
  shared haystack fun haystack => shared needle fun needle =>
    guarded haystack fun haystack => return .call .boolean .contains [haystack, needle]

/-- A value in a range, ends included. -/
def within (value lower upper : Target) : Lowering Target := do
  let low ← relate .greaterEqual value lower
  let high ← relate .lessEqual value upper
  return .binary .boolean .andAlso low high

/-- A value between the two items of a collection. -/
def between (value bounds : Target) : Lowering Target :=
  shared value fun value =>
    match bounds with
    | .list _ [lower, upper] => within value lower upper
    | .list .. => typeFault .boundsCount
    | bounds => do
      let element ← elementOf "BETWEEN" .twoElementCollection bounds
      shared bounds fun bounds =>
        let at_ (i : Int) : Target := .elementAt element bounds (.ofValue (.int i))
        within value (at_ 0) (at_ 1)

/-- A comparison of two operands. -/
def compare (operator : Operator) (left right : Target) : Lowering Target :=
  match operator with
  | .less => relate .less left right
  | .lessEqual => relate .lessEqual left right
  | .greater => relate .greater left right
  | .greaterEqual => relate .greaterEqual left right
  | .equal => relate .equal left right
  | .notEqual => relate .notEqual left right
  | .isMatch => stringTest .isMatch left right
  | .like => stringTest .like left right
  | .beginsWith => stringTest .beginsWith left right
  | .endsWith => stringTest .endsWith left right
  | .contains => contains left right
  | .member => contains right left
  | .between => between left right

/-! ## Modifiers -/

/-- The quantifier that a modifier asks for. -/
def quantifier? : Modifier → Option Quantifier
  | .direct => none
  | .all => some .all
  | .any => some .any

/-- The word for a quantifier. -/
def quantifierWord : Quantifier → String
  | .all => "ALL"
  | .any => "ANY"

/-- A comparison of the items of the left operand. The right operand is evaluated once, even if
there are no items. -/
def quantified (quantifier : Quantifier) (operator : Operator) (left right : Target) :
    Lowering Target := do
  let element ← elementOf (quantifierWord quantifier) .collectionOnTheLeft left
  shared left fun left => shared right fun right => do
    let parameter ← fresh "q"
    let predicate ← compare operator (.parameter element parameter) right
    return .quantify .boolean quantifier left parameter predicate

/-- Operands as the options want them compared. A regular expression keeps its letter case. -/
def foldOperands (options : Options) (operator : Operator) (left right : Target) :
    Lowering (Target × Target) := do
  if options.caseInsensitive ∧ (← read).foldsCase then
    let left ← foldCase left
    let right ← if operator = .isMatch then pure right else foldCase right
    return (left, right)
  else return (left, right)

/-- A comparison of two lowered operands. -/
def comparison (operator : Operator) (modifier : Modifier) (options : Options)
    (left right : Target) : Lowering Target := do
  let (left, right) ← foldOperands options operator left right
  match quantifier? modifier with
  | none => compare operator left right
  | some quantifier => quantified quantifier operator left right

end PredicateLang.Lowering
