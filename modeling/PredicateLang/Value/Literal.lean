import PredicateLang.Value.Text

/-!
# Literals

How values are written in the language. Strings are quoted, GUIDs and objects are written as
strings, dates as the cast of one, and arrays as lists. Reading a quoted string gives it back: the
quotation mark and the backslash are escaped, line ends and tabs are named, and a percent sign,
which would open a placeholder elsewhere, is doubled.
-/

namespace PredicateLang.Value

open PredicateLang.Text

/-- A character of a string literal. -/
def quoteChar (c : Char) : List Char :=
  match c with
  | '\x27' => ['\\', '\x27']
  | '\\' => ['\\', '\\']
  | '\n' => ['\\', 'n']
  | '\t' => ['\\', 't']
  | '\r' => ['\\', 'r']
  | '%' => ['%', '%']
  | c => [c]

/-- A string literal. -/
def quote (s : String) : String :=
  String.ofList ('\x27' :: (s.toList.flatMap quoteChar ++ ['\x27']))

/-- A list of written items. -/
def listText (items : List String) : String :=
  if items.isEmpty then "\x7b\x7d" else "\x7b " ++ join ", " items ++ " \x7d"

mutual

/-- The literal of a value. -/
def literal : Value → String
  | .null => "nil"
  | .boolean b => if b then "YES" else "NO"
  | .integer n => n.text
  | .float x => Number.Format.literal.text (.ofFloat x.toFloat)
  | .double x => Number.Format.literal.text (.ofFloat x)
  | .string s => quote s
  | .guid g => quote g.text
  | .date t => "CAST(" ++ quote t.text ++ ", 'NSDate')"
  | .array items => listText (literals items)
  | .object fields => quote (Json.object (fieldsToJson fields)).text

/-- The literals of the items of an array. -/
def literals : List Value → List String
  | [] => []
  | item :: rest => literal item :: literals rest

end

end PredicateLang.Value
