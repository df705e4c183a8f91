import PredicateLang.Error
import PredicateLang.Text.Letters
import PredicateLang.Value.Text

/-!
# Words of the query language

Literals, names and patterns of the query language. A quotation mark inside a literal or a quoted
name is written twice. In a pattern of `LIKE` the percent sign stands for any characters and the
underscore for one; a backslash takes the meaning away from either and from itself.
-/

namespace PredicateLang.Sql

open PredicateLang.Text

/-- A text in quotation marks, those inside written twice. -/
def enclose (mark : Char) (text : List Char) : List Char :=
  mark :: (text.flatMap fun c => if c = mark then [c, c] else [c]) ++ [mark]

/-- A string literal. -/
def quote (text : List Char) : String := String.ofList (enclose '\x27' text)

/-- May a name stand without quotation marks? -/
def isPlainName : List Char → Bool
  | [] => false
  | c :: rest => (c.isAlpha || c = '_') && rest.all fun c => c.isAlphanum || c = '_'

/-- A name, in quotation marks if it needs them. -/
def identifier (name : String) : String :=
  if isPlainName name.toList then name else String.ofList (enclose '\x22' name.toList)

/-! ## Patterns -/

/-- A character that stands for itself in a pattern. -/
def escapeChar (c : Char) : List Char :=
  if c = '%' ∨ c = '_' ∨ c = '\\' then ['\\', c] else [c]

/-- A text that stands for itself in a pattern. -/
def escape (text : String) : List Char := text.toList.flatMap escapeChar

/-- A pattern with `*` and `?` as wildcards. -/
def ofGlob (pattern : String) : List Char :=
  pattern.toList.flatMap fun c =>
    if c = '*' then ['%'] else if c = '?' then ['_'] else escapeChar c

/-- A test of a written subject against a pattern. -/
def like (subject : String) (pattern : List Char) : String :=
  "(" ++ subject ++ " LIKE " ++ quote pattern ++ " ESCAPE '\\')"

/-! ## Values -/

/-- A number with a fraction. One without has a zero after the point. -/
def floatLiteral (x : Float) : String :=
  if Number.isWhole x then Number.wholeText (.ofFloat x) else Number.displayFloat x

mutual

/-- The literal of a value. Objects have none. -/
def literal : Value → Except Error String
  | .null => .ok "NULL"
  | .boolean b => .ok (if b then "TRUE" else "FALSE")
  | .integer n => .ok n.text
  | .float x => .ok (floatLiteral x.toFloat)
  | .double x => .ok (floatLiteral x)
  | .string s => .ok (quote s.toList)
  | .guid g => .ok (quote g.text.toList)
  | .date t => .ok ("TIMESTAMP " ++ quote t.text.toList)
  | .array items => do return "(" ++ join ", " (← literals items) ++ ")"
  | .object _ => .error (.unsupported "an object literal" .backend)

/-- The literals of values. -/
def literals : List Value → Except Error (List String)
  | [] => .ok []
  | item :: rest => return (← literal item) :: (← literals rest)

end

/-- The type that values of a kind are converted to. -/
def typeOf (kind : Kind) : Except Error String :=
  match kind with
  | .boolean => .ok "BOOLEAN"
  | .integer .byte | .integer .sbyte | .integer .ushort | .integer .short => .ok "SMALLINT"
  | .integer .uint | .integer .int => .ok "INTEGER"
  | .integer .ulong | .integer .long => .ok "BIGINT"
  | .float => .ok "REAL"
  | .double => .ok "DOUBLE PRECISION"
  | .string => .ok "VARCHAR"
  | .guid => .ok "UUID"
  | .date => .ok "TIMESTAMP"
  | other => .error (.unsupported ("a conversion to " ++ other.text) .backend)

end PredicateLang.Sql
