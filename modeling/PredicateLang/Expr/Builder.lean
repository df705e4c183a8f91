import PredicateLang.Expr.SyntaxError
import PredicateLang.Selector
import PredicateLang.Text.LetterCase

/-!
# Building trees

Trees are built by productions on a stack of operands: each takes what it needs from the top and
puts what it makes there. The parser reports every phrase that it recognizes as a production, and
anyone else may do the same. A production that fails leaves the stack as it was at that moment,
without the operands it had already taken.

Placeholders stand for arguments. The arguments are counted against the placeholders of the text
before anything is built, and a placeholder finds its argument by its position in the text.
-/

namespace PredicateLang

open PredicateLang.Text

/-! ## Arguments -/

/-- Arguments and the positions of the placeholders that stand for them, in the same order. -/
structure Arguments where
  offsets : List Nat
  values : List Value

namespace Arguments

/-- The arguments of a text, if there are as many as placeholders. -/
def ofText (text : String) (values : List Value) : Except SyntaxError Arguments :=
  let offsets := placeholderOffsets text
  if offsets.length = values.length then .ok ⟨offsets, values⟩
  else
    .error ⟨(offsets[values.length]?).getD 0, .argumentCount offsets.length values.length⟩

/-- Conversions that ask for an integer. -/
def integerConversions : List Char := ['d', 'i', 'u', 'x', 'X', 'o']

/-- Conversions that ask for a number. -/
def numberConversions : List Char := ['f', 'e', 'E', 'g', 'G', 'a', 'A']

/-- Conversions that ask for a string. -/
def stringConversions : List Char := ['s', 'S', 'c', 'C']

/-- The expression that an argument becomes under a conversion; otherwise what the conversion asks
for. -/
def convert (conversion : Char) (argument : Value) : Except (Option String) Expr :=
  if conversion = 'K' then
    match argument with
    | .string path => .ok (.path path)
    | _ => .error (some "a key path string")
  else if conversion = '@' then .ok (.constant argument)
  else if integerConversions.contains conversion then
    if argument.toInt?.isSome then .ok (.constant argument) else .error (some "an integer")
  else if numberConversions.contains conversion then
    if argument.isNumeric then .ok (.constant argument) else .error (some "a number")
  else if stringConversions.contains conversion then
    match argument with
    | .string _ => .ok (.constant argument)
    | _ => .error (some "a string")
  else .error none

/-- The expression that the placeholder at a position stands for. -/
def placeholder (arguments : Arguments) (position : Nat) (conversion : Char) :
    Except SyntaxError Expr :=
  match arguments.offsets.idxOf? position with
  | none => .error ⟨position, .uncountedPlaceholder⟩
  | some index =>
    match arguments.values[index]? with
    | none => .error ⟨position, .missingArgument⟩
    | some argument =>
      match convert conversion argument with
      | .ok e => .ok e
      | .error (some wanted) =>
        .error ⟨position, .argumentMismatch (index + 1) conversion wanted argument.typeName⟩
      | .error none => .error ⟨position, .unsupportedConversion conversion⟩

end Arguments

/-! ## Productions -/

/-- The signs of arithmetic. -/
inductive ArithmeticSign where
  | plus | minus | times | divide | power
deriving DecidableEq, Repr

/-- The selector of the builtin function that the sign stands for. -/
def ArithmeticSign.selector : ArithmeticSign → String
  | plus => "add:to:"
  | minus => "from:subtract:"
  | times => "multiply:by:"
  | divide => "divide:by:"
  | power => "raise:toPower:"

/-- The words in front of a comparison that apply it to a collection. -/
inductive QuantifierWord where
  | any | all | none
deriving DecidableEq, Repr

/-- A phrase of the language that has been recognized. -/
inductive Production where
  | literal (value : Value)
  | placeholder (conversion : Char)
  | self
  | var (name : String)
  | path (segment : String)
  | symbol (place : IndexSymbol)
  /-- Takes a segment and what is navigated from. -/
  | dot
  /-- Takes a position and a collection. -/
  | index
  /-- Takes as many items. -/
  | list (count : Nat)
  /-- Takes as many arguments of a call by name. -/
  | call (name : String) (arity : Nat)
  /-- Takes as many arguments of the form `FUNCTION`. -/
  | functionForm (arity : Nat)
  /-- Takes a predicate and a collection. -/
  | subquery (name : String)
  /-- Takes two operands. -/
  | arithmetic (sign : ArithmeticSign)
  /-- Takes an operand. -/
  | negate
  /-- Takes a value and a variable. -/
  | assignment
  /-- Takes two operands. -/
  | comparison (operator : Operator) (options : Options)
  /-- Takes a comparison. -/
  | quantified (word : QuantifierWord)
  | predicateConstant (value : Bool)
  /-- Takes an expression that stands in place of a predicate. -/
  | expressionPredicate
  /-- Takes as many predicates. -/
  | and (count : Nat)
  /-- Takes as many predicates. -/
  | or (count : Nat)
  /-- Takes a predicate. -/
  | not

/-- What is on the stack. -/
inductive Operand where
  | expr (e : Expr)
  | predicate (p : Predicate)

/-- The operands, the topmost first. -/
abbrev Stack := List Operand

/-- A step of building: it changes the stack, and may fail. -/
abbrev Building := EStateM SyntaxError Stack

namespace Stack

/-- Drops operands from the top until at most `depth` are left. -/
def truncate (stack : Stack) (depth : Nat) : Stack := stack.drop (stack.length - depth)

end Stack

namespace Building

/-- Fails at a position. -/
def fail {α : Type} (position : Nat) (fault : SyntaxFault) : Building α :=
  throw ⟨position, fault⟩

/-- Puts an operand on the stack. -/
def push (operand : Operand) : Building Unit := modify (operand :: ·)

/-- Takes an operand from the stack, if there is one. -/
def pop? : Building (Option Operand) := do
  match ← get with
  | [] => pure none
  | operand :: rest =>
    set rest
    pure (some operand)

/-- Takes an expression from the stack. -/
def popExpr (position : Nat) : Building Expr := do
  match ← pop? with
  | some (.expr e) => pure e
  | some (.predicate _) => fail position .expressionWanted
  | none => fail position .missingOperand

/-- Takes a predicate from the stack. -/
def popPredicate (position : Nat) : Building Predicate := do
  match ← pop? with
  | some (.predicate p) => pure p
  | some (.expr e) => fail position (.predicateWanted e)
  | none => fail position .missingPredicate

/-- Takes `count` more expressions from the stack; the topmost becomes the last. -/
def popExprs (position : Nat) : (count : Nat) → List Expr → Building (List Expr)
  | 0, taken => pure taken
  | count + 1, taken => do
    let e ← popExpr position
    popExprs position count (e :: taken)

/-- Takes `count` more predicates from the stack; the topmost becomes the last. -/
def popPredicates (position : Nat) : (count : Nat) → List Predicate → Building (List Predicate)
  | 0, taken => pure taken
  | count + 1, taken => do
    let p ← popPredicate position
    popPredicates position count (p :: taken)

end Building

/-! ## What productions make -/

namespace Expr

/-- Navigation from `left` along the segment that `right` is. -/
def dot (position : Nat) (left right : Expr) : Except SyntaxError Expr :=
  match right with
  | .path segment =>
    match left with
    | .path before => .ok (.path (before ++ "." ++ segment))
    | .pathOn operand before => .ok (.pathOn operand (before ++ "." ++ segment))
    | operand => .ok (.pathOn operand segment)
  | other => .error ⟨position, .pathWanted left other⟩

/-- The negative of an integer constant: of the kind `int` if it fits and `long` otherwise. The
negative of the least number of a kind does not fit, and of the greatest kind only the number one
above the greatest `long` has a negative. -/
def negateInteger? (n : Integer) : Option Integer :=
  match n.kind with
  | .int => Integer.ofInt? .int (-n.val)
  | .long => (Integer.ofInt? .int (-n.val)).orElse fun _ => Integer.ofInt? .long (-n.val)
  | .ulong => if n.val = Nat.pow 2 63 then Integer.ofInt? .long (-n.val) else none
  | _ => none

/-- The negative of an expression: of a constant at once, of others as a difference from zero. -/
def negate (operand : Expr) : Expr :=
  let difference := .call ArithmeticSign.minus.selector [.constant (.int 0), operand]
  match operand with
  | .constant (.integer n) =>
    ((negateInteger? n).map fun m => .constant (.integer m)).getD difference
  | .constant (.double x) => .constant (.double (-x))
  | .constant (.float x) => .constant (.float (-x))
  | _ => difference

/-- A call by name, which is taken in small letters. A name that no builtin function with that many
arguments has becomes a selector of its own. -/
def callByName (name : String) (args : List Expr) : Expr :=
  let small := lower name
  match BuiltinFunction.selectorOfCall? small args.length with
  | some selector => .call selector args
  | none => .call (if args.isEmpty then small else small ++ ":") args

/-- The text of a string constant that can be a selector. Where other strings may stand, it has to
contain a colon. -/
def selector? (anyString : Bool) : Expr → Option String
  | .constant (.string s) => if anyString || s.toList.contains ':' then some s else none
  | _ => none

/-- The form `FUNCTION`: a selector and its arguments, or a receiver, a selector and the other
arguments. -/
def functionForm (position : Nat) (args : List Expr) : Except SyntaxError Expr :=
  match args with
  | [] => .error ⟨position, .missingSelector⟩
  | first :: rest =>
    match selector? rest.isEmpty first with
    | some selector => .ok (.call selector rest)
    | none =>
      match rest with
      | second :: others =>
        match selector? true second with
        | some selector => .ok (.call selector (first :: others))
        | none => .error ⟨position, .selectorWanted⟩
      | [] => .error ⟨position, .selectorWanted⟩

end Expr

namespace Predicate

/-- A direct comparison applied to the items of its left operand. `NONE` denies `ANY`. -/
def quantify (position : Nat) (word : QuantifierWord) (p : Predicate) :
    Except SyntaxError Predicate :=
  match p with
  | .comparison left operator right .direct options =>
    match word with
    | .all => .ok (.comparison left operator right .all options)
    | .any => .ok (.comparison left operator right .any options)
    | .none => .ok (.compound .not [.comparison left operator right .any options])
  | _ => .error ⟨position, .singleComparisonWanted⟩

end Predicate

namespace Production

open Building

/-- Puts an expression on the stack, or fails. -/
def pushExpr : Except SyntaxError Expr → Building Unit
  | .ok e => push (.expr e)
  | .error error => throw error

/-- Applies a production that was found at a position. -/
def apply (arguments : Arguments) (position : Nat) : Production → Building Unit
  | literal value => push (.expr (.constant value))
  | placeholder conversion => pushExpr (arguments.placeholder position conversion)
  | self => push (.expr .self)
  | var name => push (.expr (.var name))
  | path segment => push (.expr (.path segment))
  | symbol place => push (.expr (.symbol place))
  | dot => do
    let right ← popExpr position
    let left ← popExpr position
    pushExpr (Expr.dot position left right)
  | index => do
    let place ← popExpr position
    let collection ← popExpr position
    push (.expr (.index collection place))
  | list count => do
    let items ← popExprs position count []
    push (.expr (.list items))
  | call name arity => do
    let args ← popExprs position arity []
    push (.expr (Expr.callByName name args))
  | functionForm arity => do
    let args ← popExprs position arity []
    pushExpr (Expr.functionForm position args)
  | subquery name => do
    let predicate ← popPredicate position
    let collection ← popExpr position
    push (.expr (.subquery collection (Expr.withoutDollar name) predicate))
  | arithmetic sign => do
    let right ← popExpr position
    let left ← popExpr position
    push (.expr (.call sign.selector [left, right]))
  | negate => do
    let operand ← popExpr position
    push (.expr operand.negate)
  | assignment => do
    let value ← popExpr position
    match ← popExpr position with
    | .var name => push (.expr (.assign (Expr.withoutDollar name) value))
    | other => fail position (.notAssignable other)
  | comparison operator options => do
    let right ← popExpr position
    let left ← popExpr position
    push (.predicate (.comparison left operator right .direct options))
  | quantified word => do
    let p ← popPredicate position
    match p.quantify position word with
    | .ok p => push (.predicate p)
    | .error error => throw error
  | predicateConstant value => push (.predicate (.constant value))
  | expressionPredicate => do
    match ← popExpr position with
    | .constant (.boolean value) => push (.predicate (.constant value))
    | other => fail position (.comparisonWanted other)
  | and count => do
    let parts ← popPredicates position count []
    push (.predicate (.compound .and parts))
  | or count => do
    let parts ← popPredicates position count []
    push (.predicate (.compound .or parts))
  | not => do
    let p ← popPredicate position
    push (.predicate (.compound .not [p]))

end Production

namespace Building

/-- Fails if operands are left. -/
def finish {α : Type} (tree : α) : Building α := do
  match ← get with
  | [] => pure tree
  | rest => fail 0 (.leftOver rest.length)

/-- Takes the expression that has been built. -/
def finishExpr : Building Expr := do finish (← popExpr 0)

/-- Takes the predicate that has been built. -/
def finishPredicate : Building Predicate := do finish (← popPredicate 0)

end Building

end PredicateLang
