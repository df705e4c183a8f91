import PredicateLang.Dialect
import PredicateLang.Expr.SyntaxError
import PredicateLang.Kind
import PredicateLang.Target.Operation

/-!
# Errors

What can go wrong between a text and a value. An error says what happened; `Error.message` words it.
-/

namespace PredicateLang

/-! ## Kinds that do not fit -/

/-- What an operation asks of the kind of an operand. -/
inductive Demand where
  | collection | collectionOnTheLeft | twoElementCollection
  | number | integer | string | stringOperands | dateReceiver
deriving DecidableEq, Repr

/-- The words for a demand. -/
def Demand.text : Demand → String
  | collection => "a collection"
  | collectionOnTheLeft => "a collection on the left"
  | twoElementCollection => "a two element collection"
  | number => "a number"
  | integer => "an integer"
  | string => "a string"
  | stringOperands => "string operands"
  | dateReceiver => "a date receiver"

/-- Why a tree cannot be lowered for the kinds of its parts. -/
inductive TypeFault where
  /-- An operation asks for something else than it gets. -/
  | demand (operation : String) (wanted : Demand) (got : Kind)
  | arity (selector : String) (wanted got : Nat)
  | negationArity (got : Nat)
  | misplacedSymbol (symbol : IndexSymbol)
  | unknownCollectionOperator (name : String)
  | notAggregable (element : Kind)
  | boundsCount
  | computedTypeName
  | unknownTypeName (name : String)
  | incomparable (left right : Kind)
  | notGuid (value : Value)
  | inconvertible (value : Value) (wanted : Kind)
  | missingProperty (record property : String)
  | noProperties (kind : Kind) (property : String)

/-- The explanation of a fault. -/
def TypeFault.message : TypeFault → String
  | demand operation wanted got => operation ++ " requires " ++ wanted.text ++ ", got " ++ got.text
  | arity selector wanted got =>
    selector ++ " takes " ++ toString wanted ++ " argument(s), got " ++ toString got
  | negationArity got => "NOT takes exactly one predicate, got " ++ toString got
  | misplacedSymbol symbol => symbol.word ++ " is only meaningful as an index"
  | unknownCollectionOperator name => "unknown collection operator @" ++ name
  | notAggregable element => "cannot aggregate a collection of " ++ element.text
  | boundsCount => "BETWEEN requires a two element collection"
  | computedTypeName => "castObject:toType: requires a constant type name"
  | unknownTypeName name => "unsupported cast target '" ++ name ++ "'"
  | incomparable left right => "cannot compare " ++ left.text ++ " with " ++ right.text
  | notGuid value => "'" ++ value.text ++ "' is not a valid GUID"
  | inconvertible value wanted => "cannot convert " ++ value.text ++ " to " ++ wanted.text
  | missingProperty record property => "type " ++ record ++ " has no property '" ++ property ++ "'"
  | noProperties kind property =>
    "cannot access property '" ++ property ++ "' on " ++ kind.text

/-! ## Values that do not fit -/

/-- What an operation asks of a value. -/
inductive Expectation where
  | boolean | collection | integer | number | string
deriving DecidableEq, Repr

/-- The words for an expectation. -/
def Expectation.text : Expectation → String
  | boolean => "a boolean"
  | collection => "a collection"
  | integer => "an integer"
  | number => "a number"
  | string => "a string"

/-- Why a lowered tree has no value, or no text for a backend. Values are described by the words for
their types. -/
inductive EvaluationFault where
  | unboundParameter (name : String)
  | unexpected (wanted : Expectation) (type : String)
  | notCountable (type : String)
  | countTooLarge (count : Nat)
  | noProperties (property type : String)
  | notIndexable (type : String)
  | indexType (type : String)
  | notAveragable (type : String)
  | incomparable (left right : String)
  | integerOutOfRange (n : Int) (kind : IntegerKind)
  | integerOverflow (op : BinaryOp) (left right : Int)
  | inapplicable (op : BinaryOp) (left right : String)
  | integersWanted (op : BinaryOp)
  | negationOf (type : String)
  | boundWanted
  | positiveBoundWanted (bound : Float)
  | invalidRegex
  | stringOperator (left right : String)
  | notSearchable (haystack needle : String)
  | offsetFrom (type : String)
  | offsetBy (type : String)
  | offsetOutOfRange (amount : Float) (unit : DateUnit)
  | inconvertible (value : Value) (wanted : Kind)
  | notNumeral (text : String)
  | notDate (text : String)
  | notCastable (type typeName : String)
  | dateOutOfRange (seconds : Float)
  | missingOperand (index : Nat)
  | searchArity

/-- The explanation of a fault. -/
def EvaluationFault.message : EvaluationFault → String
  | unboundParameter name => "unbound parameter " ++ name
  | unexpected wanted type => "expected " ++ wanted.text ++ ", got " ++ type
  | notCountable type => "cannot count a " ++ type
  | countTooLarge count => "count " ++ toString count ++ " does not fit an int"
  | noProperties property type => "cannot read property '" ++ property ++ "' of " ++ type
  | notIndexable type => "cannot index into " ++ type
  | indexType type => "index must be an integer, got " ++ type
  | notAveragable type => "cannot average a " ++ type
  | incomparable left right => "cannot compare " ++ left ++ " with " ++ right
  | integerOutOfRange n kind =>
    "integer overflow: " ++ Text.integerText n ++ " does not fit " ++ kind.name
  | integerOverflow op left right =>
    "integer overflow in " ++ op.name ++ " of " ++ Text.integerText left ++ " and "
      ++ Text.integerText right
  | inapplicable op left right => "cannot apply " ++ op.name ++ " to " ++ left ++ " and " ++ right
  | integersWanted op => op.name ++ " requires integer operands"
  | negationOf type => "NOT requires a boolean, got " ++ type
  | boundWanted => "randomn: requires a number"
  | positiveBoundWanted bound =>
    "randomn: requires a positive bound, got " ++ Number.displayFloat bound
  | invalidRegex => "invalid regex"
  | stringOperator left right => "string operator applied to " ++ left ++ " and " ++ right
  | notSearchable haystack needle =>
    "cannot test whether " ++ haystack ++ " contains " ++ needle
  | offsetFrom type => "date offset requires a date, got " ++ type
  | offsetBy type => "date offset requires a number, got " ++ type
  | offsetOutOfRange amount unit =>
    "date offset out of range: " ++ Number.displayFloat amount ++ " " ++ unit.name
  | inconvertible value wanted =>
    "cannot convert " ++ value.typeName ++ " value " ++ value.text ++ " to " ++ wanted.text
  | notNumeral text => "'" ++ text ++ "' is not a number"
  | notDate text => "'" ++ text ++ "' is not a date"
  | notCastable type typeName => "cannot cast " ++ type ++ " to " ++ typeName
  | dateOutOfRange seconds => "date " ++ Number.displayFloat seconds ++ " out of range"
  | missingOperand index => "missing argument " ++ toString index
  | searchArity => "CONTAINS takes two arguments"

/-! ## Errors -/

/-- What can go wrong between a text and a value. -/
inductive Error where
  | malformed (e : SyntaxError)
  | unknownFunction (selector : String)
  | type (fault : TypeFault)
  /-- A reference to a variable that nothing gives a value. -/
  | unboundVariable (name : String)
  /-- A construct that a dialect cannot express. -/
  | unsupported (construct : String) (dialect : Dialect)
  | divisionByZero
  | evaluation (fault : EvaluationFault)

/-- The explanation of the error. -/
def Error.message : Error → String
  | malformed e => e.message
  | unknownFunction selector => "Unknown function: " ++ selector
  | type fault => "Type error: " ++ fault.message
  | unboundVariable name => "Unbound variable: $" ++ name
  | unsupported construct dialect =>
    construct ++ " is not supported in the " ++ dialect.name ++ " dialect"
  | divisionByZero => "Division by zero"
  | evaluation fault => "Evaluation error: " ++ fault.message

end PredicateLang
