import PredicateLang.Lowering.Scope
import PredicateLang.Sql.Literal

/-!
# Queries

A lowered tree is written as a condition or a value of a query. The object is the row `t0`, and every
collection that the query ranges over gets the next alias. What a tree becomes depends on its place:
as an operand it is a text, and as a collection it is a range of rows with a value for each and
conditions on them. `Target.written` gives both.

Guards and bindings disappear: the text of the subject stands wherever the name stood. The text of an
assigned value stands for its variable from then on.
-/

namespace PredicateLang

namespace Sql

open PredicateLang.Text

/-! ## Ranges -/

/-- The rows that a query ranges over. -/
structure Rows where
  /-- Where the rows come from. -/
  origin : String
  /-- The value of a row. -/
  value : String
  conditions : List String

namespace Rows

/-- A query for something of every row. -/
def select (rows : Rows) (what : String) : String :=
  "SELECT " ++ what ++ " FROM " ++ rows.origin
    ++ if rows.conditions.isEmpty then "" else " WHERE " ++ join " AND " rows.conditions

/-- The rows with one more condition. -/
def restrict (rows : Rows) (condition : String) : Rows :=
  { rows with conditions := rows.conditions ++ [condition] }

/-- A query in parentheses for something of every row. -/
def selected (rows : Rows) (what : String) : String := "(" ++ rows.select what ++ ")"

end Rows

/-! ## Writing -/

/-- What has been written so far: the texts of assigned variables and the number of aliases. -/
structure Sheet where
  assigned : Fields String
  aliases : Nat

/-- A step of writing: it depends on the texts of the names in scope, the latest first. -/
abbrev Writing := ReaderT (List (String × String)) (EStateM Error Sheet)

/-- A step that only may fail. -/
def ofResult {α : Type} : Except Error α → Writing α
  | .ok a => pure a
  | .error e => throw e

/-- The text that a name stands for. -/
def textOf (name : String) : Writing String := do
  match Fields.find? (← read) name with
  | some text => return text
  | none =>
    match (← get).assigned.find? name with
    | some text => return text
    | none => throw (.evaluation (.unboundParameter name))

/-- Writes while a name stands for a text. -/
def withText {α : Type} (name text : String) (step : Writing α) : Writing α :=
  fun names => step ((name, text) :: names)

/-- The next alias of a collection. -/
def nextAlias : Writing String := do
  let sheet ← get
  set { sheet with aliases := sheet.aliases + 1 }
  return "t" ++ toString (sheet.aliases + 1)

/-- Keeps the text of an assigned value. -/
def assign (name text : String) : Writing Unit :=
  modify fun sheet => { sheet with assigned := sheet.assigned.insert name text }

/-- What a tree is written as: a text, or rows. -/
structure Written where
  text : Writing String
  rows : Writing Rows

/-- The rows of a collection whose text is known, as a table under an alias. -/
def table (text : Writing String) : Writing Rows := do
  let text ← text
  let name ← nextAlias
  return ⟨text ++ " AS " ++ name, name, []⟩

/-- A tree that is a text, and a table if rows are wanted. -/
def ofText (text : Writing String) : Written := ⟨text, table text⟩

/-- A tree that is rows, and a query for their values if a text is wanted. -/
def ofRows (rows : Writing Rows) : Written where
  text := do
    let rows ← rows
    return rows.selected rows.value
  rows := rows

/-- The texts of written trees in order. -/
def texts : List Written → Writing (List String)
  | [] => return []
  | w :: rest => return (← w.text) :: (← texts rest)

/-- The tree while a name stands for the text of another. -/
def withSubject (subject : Written) (name : String) (body : Written) : Written where
  text := do withText name (← subject.text) body.text
  rows := do withText name (← subject.text) body.rows

/-! ## Collections -/

/-- The rows with another value. -/
def mapRows (source : Written) (name : String) (body : Written) : Writing Rows := do
  let rows ← source.rows
  let value ← withText name rows.value body.text
  return { rows with value }

/-- The rows for which a condition holds. -/
def filterRows (source : Written) (name : String) (predicate : Written) : Writing Rows := do
  let rows ← source.rows
  let condition ← withText name rows.value predicate.text
  return rows.restrict condition

/-- A test of whether a condition holds for all rows, or for one. -/
def quantify (quantifier : Quantifier) (source : Written) (name : String) (predicate : Written) :
    Writing String := do
  let rows ← source.rows
  let condition ← withText name rows.value predicate.text
  match quantifier with
  | .any => return "EXISTS " ++ (rows.restrict condition).selected "1"
  | .all => return "NOT EXISTS " ++ (rows.restrict ("NOT " ++ condition)).selected "1"

/-- The function that reduces a column. -/
def reductionName : Reduction → String
  | .sum => "SUM"
  | .min => "MIN"
  | .max => "MAX"
  | .average => "AVG"

/-- A list of written items, as rows of one column. -/
def listRows (items : List Written) : Writing Rows := do
  let name ← nextAlias
  if items.isEmpty then
    return ⟨"(SELECT NULL AS value WHERE 1 = 0) AS " ++ name, name ++ ".value", []⟩
  else
    let rows := (← texts items).map fun text => "(" ++ text ++ ")"
    return ⟨"(VALUES " ++ join ", " rows ++ ") AS " ++ name ++ "(value)", name ++ ".value", []⟩

/-- A list of written items. -/
def list (items : List Written) : Written where
  text := do return "(" ++ join ", " (← texts items) ++ ")"
  rows := listRows items

/-! ## Operations -/

/-- The sign between two operands, but for powers. -/
def signOf : BinaryOp → String
  | .add => "+"
  | .subtract => "-"
  | .multiply => "*"
  | .divide => "/"
  | .modulo => "%"
  | .power => "POWER"
  | .bitAnd => "&"
  | .bitOr => "|"
  | .bitXor => "^"
  | .shiftLeft => "<<"
  | .shiftRight => ">>"
  | .equal => "="
  | .notEqual => "<>"
  | .less => "<"
  | .lessEqual => "<="
  | .greater => ">"
  | .greaterEqual => ">="
  | .andAlso => "AND"
  | .orElse => "OR"

/-- A test for null, if the operation is an equality with the constant null. -/
def nullTest? (op : BinaryOp) : Option String :=
  match op with
  | .equal => some "IS NULL"
  | .notEqual => some "IS NOT NULL"
  | _ => none

/-- An operation on two operands. -/
def binary (op : BinaryOp) (leftIsNull rightIsNull : Bool) (left right : Written) :
    Writing String := do
  match nullTest? op, leftIsNull, rightIsNull with
  | some test, _, true => return "(" ++ (← left.text) ++ " " ++ test ++ ")"
  | some test, true, false => return "(" ++ (← right.text) ++ " " ++ test ++ ")"
  | _, _, _ =>
    let left ← left.text
    let right ← right.text
    if op = .power then return "POWER(" ++ left ++ ", " ++ right ++ ")"
    else return "(" ++ left ++ " " ++ signOf op ++ " " ++ right ++ ")"

/-- The sign in front of an operand. -/
def signBefore : UnaryOp → String
  | .not => "NOT "
  | .negate => "-"
  | .onesComplement => "~"

/-! ## Calls -/

/-- An argument with the tree that it was written from. -/
structure Argument where
  tree : Target
  written : Written

/-- The text of an argument. -/
def argument (args : List Argument) (index : Nat) : Writing String :=
  match args[index]? with
  | some a => a.written.text
  | none => throw (.evaluation (.missingOperand index))

/-- The text of an argument that is a constant string. -/
def stringArgument? (args : List Argument) (index : Nat) : Option String :=
  (args[index]?).bind fun a => a.tree.constantString?

/-- A test of a string against a pattern with wildcards, which has to be constant. -/
def glob (args : List Argument) : Writing String := do
  let subject ← argument args 0
  match stringArgument? args 1 with
  | some pattern => return like subject (ofGlob pattern)
  | none => throw (.unsupported "LIKE with a computed pattern" .backend)

/-- A test of how a string begins. -/
def beginsWith (args : List Argument) : Writing String := do
  let subject ← argument args 0
  match stringArgument? args 1 with
  | some start => return like subject (escape start ++ ['%'])
  | none => return "(" ++ subject ++ " LIKE " ++ (← argument args 1) ++ " || '%')"

/-- A test of how a string ends. -/
def endsWith (args : List Argument) : Writing String := do
  let subject ← argument args 0
  match stringArgument? args 1 with
  | some ending => return like subject ('%' :: escape ending)
  | none => return "(" ++ subject ++ " LIKE '%' || " ++ (← argument args 1) ++ ")"

/-- Is this a search in a string? If the kind is not known, then what is looked for decides. -/
def searchesString (haystack needle : Target) : Bool :=
  match haystack.kind with
  | .string => true
  | .any | .null => needle.constantString?.isSome
  | _ => false

/-- A search for a part of a string. -/
def searchString (haystack needle : Argument) : Writing String := do
  let subject ← haystack.written.text
  match needle.tree.constantString? with
  | some piece => return like subject ('%' :: escape piece ++ ['%'])
  | none => return "(POSITION(" ++ (← needle.written.text) ++ " IN " ++ subject ++ ") > 0)"

/-- A search for an item of a collection. -/
def searchRows (haystack needle : Argument) : Writing String := do
  let needle ← needle.written.text
  let rows ← haystack.written.rows
  return "(" ++ needle ++ " IN " ++ rows.selected rows.value ++ ")"

/-- A search for an item of a list, or for a part of a string, or for an item of a collection. -/
def contains (args : List Argument) : Writing String :=
  match args with
  | [haystack, needle] =>
    match haystack.tree with
    | .list .. => do
      let needle ← needle.written.text
      return "(" ++ needle ++ " IN " ++ (← haystack.written.text) ++ ")"
    | tree =>
      if searchesString tree needle.tree then searchString haystack needle
      else searchRows haystack needle
  | _ => throw (.evaluation .searchArity)

/-- The name of a unit of dates. -/
def unitName : DateUnit → String
  | .seconds => "second"
  | .minutes => "minute"
  | .hours => "hour"
  | .days => "day"
  | .months => "month"
  | .years => "year"

/-- A date moved by a whole amount. -/
def moveDate (args : List Argument) (unit : DateUnit) : Writing String := do
  let date ← argument args 0
  let amount ← argument args 1
  return "DATEADD(" ++ unitName unit ++ ", CAST(" ++ amount ++ " AS INT), " ++ date ++ ")"

/-- An application of a function of the backend. -/
def apply (name : String) (args : List Argument) : Writing String := do
  return name ++ "(" ++ join ", " (← texts (args.map Argument.written)) ++ ")"

/-- A builtin call. Casts cannot be written. -/
def call (builtin : Builtin) (args : List Argument) : Writing String :=
  match builtin with
  | .sqrt => apply "SQRT" args
  | .log10 => apply "LOG10" args
  | .ln => apply "LN" args
  | .exp => apply "EXP" args
  | .floor => apply "FLOOR" args
  | .ceiling => apply "CEILING" args
  | .abs => apply "ABS" args
  | .trunc => apply "TRUNC" args
  | .uppercase => apply "UPPER" args
  | .lowercase => apply "LOWER" args
  | .length => apply "LENGTH" args
  | .random => return "RANDOM()"
  | .now => return "CURRENT_TIMESTAMP"
  | .randomBelow => do return "(ABS(RANDOM()) % " ++ (← argument args 0) ++ ")"
  | .isMatch => do
    let subject ← argument args 0
    return "REGEXP_LIKE(" ++ subject ++ ", " ++ (← argument args 1) ++ ")"
  | .like => glob args
  | .beginsWith => beginsWith args
  | .endsWith => endsWith args
  | .contains => contains args
  | .dateAdd unit | .backendDateAdd unit => moveDate args unit
  | .castNumber | .castString | .castDate => throw (.unsupported "castObject:toType:" .backend)

end Sql

open Sql

mutual

/-- What a tree is written as. -/
def Target.written : Target → Written
  | .constant _ value => ofText (ofResult (literal value))
  | .parameter _ name => ofText (textOf name)
  | .property _ receiver name =>
    let receiver := Target.written receiver
    ofText do return (← receiver.text) ++ "." ++ identifier name
  | .guard _ subject binding body =>
    withSubject (Target.written subject) binding (Target.written body)
  | .bind _ value binding body =>
    withSubject (Target.written value) binding (Target.written body)
  | .map _ source item body => ofRows (mapRows (Target.written source) item (Target.written body))
  | .filter _ source item predicate =>
    ofRows (filterRows (Target.written source) item (Target.written predicate))
  | .quantify _ quantifier source item predicate =>
    ofText (Sql.quantify quantifier (Target.written source) item (Target.written predicate))
  | .count _ source =>
    let source := Target.written source
    ofText do return (← source.rows).selected "COUNT(*)"
  | .reduce _ reduction source =>
    let source := Target.written source
    ofText do
      let rows ← source.rows
      return rows.selected (reductionName reduction ++ "(" ++ rows.value ++ ")")
  | .elementAt _ source index =>
    let source := Target.written source
    let index := Target.written index
    ofText do
      let index ← index.text
      let rows ← source.rows
      return "(" ++ rows.select rows.value ++ " LIMIT 1 OFFSET " ++ index ++ ")"
  | .list _ items => Sql.list (Target.writtenAll items)
  | .binary _ op left right =>
    ofText (Sql.binary op left.isNullConstant right.isNullConstant (Target.written left)
      (Target.written right))
  | .unary _ op operand =>
    let operand := Target.written operand
    ofText do return signBefore op ++ (← operand.text)
  | .call _ builtin args =>
    ofText (Sql.call builtin (List.zipWith Argument.mk args (Target.writtenAll args)))
  | .convert kind operand =>
    let operand := Target.written operand
    ofText do
      let text ← operand.text
      return "CAST(" ++ text ++ " AS " ++ (← ofResult (typeOf kind)) ++ ")"
  | .assign _ name value =>
    let value := Target.written value
    ofText do
      let text ← value.text
      Sql.assign name text
      return text

/-- What trees are written as. -/
def Target.writtenAll : List Target → List Written
  | [] => []
  | t :: rest => Target.written t :: Target.writtenAll rest

end

/-- A lowered tree as the text of a query. -/
def Target.sql (t : Target) : Except Error String :=
  match t.written.text [(Scope.objectName, "t0")] ⟨[], 0⟩ with
  | .ok text _ => .ok text
  | .error e _ => .error e

end PredicateLang
