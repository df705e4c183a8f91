import PredicateLang.Json.Printer
import PredicateLang.Value

/-!
# Values as documents and as text

Values and JSON documents are converted into each other. Documents know fewer types than values:
every integer becomes a number, a GUID and a date become strings, and a number that is not finite
becomes null. Back again an integer is long if it fits and unsigned long otherwise.

The text of a value is what people read: a scalar without quotation marks, and the document of an
array or object.
-/

namespace PredicateLang.Value

/-! ## Documents -/

/-- A floating-point number in a document; null if it is not finite. -/
def floatToJson (x : Float) : Json := if x.isFinite then .number (.float x) else .null

mutual

/-- The document of a value. -/
def toJson : Value → Json
  | .null => .null
  | .boolean b => .boolean b
  | .integer n => .number (.integer n.val)
  | .float x => floatToJson x.toFloat
  | .double x => floatToJson x
  | .string s => .string s
  | .guid g => .string g.text
  | .date t => .string t.text
  | .array items => .array (itemsToJson items)
  | .object fields => .object (fieldsToJson fields)

/-- The documents of the items of an array. -/
def itemsToJson : List Value → List Json
  | [] => []
  | item :: rest => toJson item :: itemsToJson rest

/-- The documents of the fields of an object. -/
def fieldsToJson : List (String × Value) → List (String × Json)
  | [] => []
  | (name, value) :: rest => (name, toJson value) :: fieldsToJson rest

end

/-- The value of a number in a document. -/
def ofJsonNumber : JsonNumber → Value
  | .integer n =>
    match (Integer.ofInt? .long n).orElse fun _ => Integer.ofInt? .ulong n with
    | some n => .integer n
    | none => .double (Float.ofInt n)
  | .float x => .double x

mutual

/-- The value of a document. -/
def ofJson : Json → Value
  | .null => .null
  | .boolean b => .boolean b
  | .number n => ofJsonNumber n
  | .string s => .string s
  | .array items => .array (itemsOfJson items)
  | .object fields => .object (fieldsOfJson fields)

/-- The values of the items of an array. -/
def itemsOfJson : List Json → List Value
  | [] => []
  | item :: rest => ofJson item :: itemsOfJson rest

/-- The values of the fields of an object. -/
def fieldsOfJson : List (String × Json) → List (String × Value)
  | [] => []
  | (name, value) :: rest => (name, ofJson value) :: fieldsOfJson rest

end

/-! ## Text -/

/-- A value as people read it. -/
def text : Value → String
  | .null => "null"
  | .boolean b => if b then "true" else "false"
  | .integer n => n.text
  | .float x => Number.displayFloat32 x
  | .double x => Number.displayFloat x
  | .string s => s
  | .guid g => g.text
  | .date t => t.text
  | .array items => (Json.array (itemsToJson items)).text
  | .object fields => (Json.object (fieldsToJson fields)).text

end PredicateLang.Value
