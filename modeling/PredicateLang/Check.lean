import PredicateLang.Compilation
import PredicateLang.Expr.Parser
import PredicateLang.Json.Parser
import PredicateLang.Value.Text

/-!
# Checking

A check takes the text of a predicate or an expression, and arguments and an input as documents. It
parses the text, and unless only the syntax is wanted, evaluates it for the input or writes it as a
query. An input that is a list may be filtered instead of being looked at as one object.
-/

namespace PredicateLang

/-- What is to be checked. -/
structure Check where
  source : String
  /-- The document of the object. -/
  input : Option String
  /-- The documents of the values for placeholders. -/
  arguments : List String
  /-- Is the text an expression? Otherwise it is a predicate. -/
  isExpression : Bool
  dialect : Dialect
  caseInsensitiveCollation : Bool
  syntaxOnly : Bool
  /-- Is the canonical text wanted? -/
  withFormat : Bool
  /-- Are the items of a list wanted that the predicate holds for? -/
  filters : Bool

/-- What can go wrong in a check. -/
inductive CheckError where
  | failed (e : Error)
  | invalidJson
  | noInput

/-- The explanation of the error. -/
def CheckError.message : CheckError → String
  | failed e => e.message
  | invalidJson => "Invalid JSON"
  | noInput => "No input provided. Use --input or pipe JSON to stdin."

/-- What a check finds. -/
inductive Finding where
  | valid
  | value (document : Json)
  | sql (text : String)

/-- The outcome of a check: the canonical text, if it is wanted, and what is found. -/
structure CheckOutcome where
  format : Option String
  finding : Finding

namespace Check

/-- A predicate or an expression. -/
inductive Source where
  | predicate (p : Predicate)
  | expr (e : Expr)

/-- The canonical text. -/
def Source.text : Source → String
  | predicate p => p.text
  | expr e => e.text

/-- The compiled form for objects of a kind. -/
def Source.compile (source : Source) (object : Kind) (settings : Settings) :
    Except Error Compiled :=
  match source with
  | predicate p => p.compile object settings
  | expr e => e.compile object none settings

/-- A step that fails with an error of the language. -/
def failing {α : Type} : Except Error α → Except CheckError α := Except.mapError .failed

/-- The value of a document. -/
def readValue (document : String) : Except CheckError Value :=
  match Json.ofText? document with
  | some json => .ok (.ofJson json)
  | none => .error .invalidJson

/-- The parsed source. -/
def parse (check : Check) : Except CheckError Source := do
  let arguments ← check.arguments.mapM readValue
  if check.isExpression then
    return .expr (← failing ((Expr.parse check.source arguments).mapError .malformed))
  else
    return .predicate (← failing ((Predicate.parse check.source arguments).mapError .malformed))

/-- The settings of the check. -/
def settings (check : Check) : Settings :=
  { Settings.ofDialect check.dialect with
    caseInsensitiveCollation := check.caseInsensitiveCollation }

/-- The object, which an expression may do without. -/
def object (check : Check) : Except CheckError Value :=
  match check.input with
  | some document => readValue document
  | none => if check.isExpression then .ok .null else .error .noInput

/-- The result of a step of evaluation. -/
def evaluated {α : Type} (world : World) (step : Evaluation α) : Except CheckError α :=
  match step world .empty with
  | .ok a _ => .ok a
  | .error e _ => .error (.failed e)

/-- Evaluates the source for the object. -/
def evaluate (check : Check) (world : World) (source : Source) : Except CheckError Json := do
  let object ← check.object
  match source, check.filters, object with
  | .predicate p, true, .array items =>
    let compiled ← failing (p.compile .any check.settings)
    return .array (Value.itemsToJson (← evaluated world (compiled.filter items)))
  | .predicate p, _, object =>
    let compiled ← failing (p.compile (.ofValue object) check.settings)
    return .boolean (← evaluated world (compiled.test object))
  | .expr e, _, object =>
    let compiled ← failing (e.compile (.ofValue object) none check.settings)
    return (← evaluated world (compiled.value object)).toJson

/-- What is found about the parsed source. -/
def find (check : Check) (world : World) (source : Source) : Except CheckError Finding := do
  if check.syntaxOnly then return .valid
  else if check.dialect = .backend then
    let compiled ← failing (source.compile .any check.settings)
    return .sql (← failing compiled.sql)
  else return .value (← check.evaluate world source)

/-- Performs the check. -/
def run (check : Check) (world : World) : Except CheckError CheckOutcome := do
  let source ← check.parse
  let finding ← check.find world source
  return ⟨if check.withFormat then some source.text else none, finding⟩

end Check

end PredicateLang
