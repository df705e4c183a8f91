import PredicateLang.Json
import PredicateLang.Number.Format
import PredicateLang.Text.Split

/-!
# Writing JSON documents

Documents are written without blanks. In a string the quotation mark, the backslash and the control
characters are escaped, and everything else stands for itself.
-/

namespace PredicateLang.Json

open PredicateLang.Text

/-- A character of a string as it is written between the quotation marks. -/
def escape (c : Char) : List Char :=
  match c with
  | '\x22' => ['\\', '\x22']
  | '\\' => ['\\', '\\']
  | '\n' => ['\\', 'n']
  | '\t' => ['\\', 't']
  | '\r' => ['\\', 'r']
  | '\x08' => ['\\', 'b']
  | '\x0c' => ['\\', 'f']
  | c => if c.toNat < 32 then "\\u".toList ++ (paddedHex 4 c.toNat).toList else [c]

/-- A string with its quotation marks. -/
def quote (s : String) : String := "\"" ++ String.ofList (s.toList.flatMap escape) ++ "\""

/-- A number. -/
def numberText : JsonNumber → String
  | .integer n => integerText n
  | .float x => Number.Format.json.text (.ofFloat x)

mutual

/-- The text of a document. -/
def text : Json → String
  | .null => "null"
  | .boolean b => if b then "true" else "false"
  | .number n => numberText n
  | .string s => quote s
  | .array items => "[" ++ join "," (itemTexts items) ++ "]"
  | .object fields => "\x7b" ++ join "," (fieldTexts fields) ++ "\x7d"

/-- The texts of the items of an array. -/
def itemTexts : List Json → List String
  | [] => []
  | item :: rest => text item :: itemTexts rest

/-- The texts of the fields of an object. -/
def fieldTexts : List (String × Json) → List String
  | [] => []
  | (name, value) :: rest => (quote name ++ ":" ++ text value) :: fieldTexts rest

end

/-! ## Over several lines -/

/-- The beginning of a line at a depth. -/
def lineStart (depth : Nat) : String := "\n" ++ String.ofList (List.replicate (2 * depth) ' ')

/-- Written parts between brackets, each on a line of its own. -/
def block (opening closing : String) (depth : Nat) (parts : List String) : String :=
  if parts.isEmpty then opening ++ closing
  else
    opening ++ lineStart (depth + 1) ++ join ("," ++ lineStart (depth + 1)) parts
      ++ lineStart depth ++ closing

mutual

/-- The text of a document at a depth, with every item and every field on a line of its own. -/
def prettyAt (depth : Nat) : Json → String
  | .array items => block "[" "]" depth (prettyItems (depth + 1) items)
  | .object fields => block "\x7b" "\x7d" depth (prettyFields (depth + 1) fields)
  | document => text document

/-- The texts of the items of an array. -/
def prettyItems (depth : Nat) : List Json → List String
  | [] => []
  | item :: rest => prettyAt depth item :: prettyItems depth rest

/-- The texts of the fields of an object. -/
def prettyFields (depth : Nat) : List (String × Json) → List String
  | [] => []
  | (name, value) :: rest =>
    (quote name ++ ": " ++ prettyAt depth value) :: prettyFields depth rest

end

/-- The text of a document over several lines. -/
def prettyText (document : Json) : String := prettyAt 0 document

end PredicateLang.Json
