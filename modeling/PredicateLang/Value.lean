import PredicateLang.Fields
import PredicateLang.Guid
import PredicateLang.Instant
import PredicateLang.Integer

/-!
# Values

What predicates are evaluated on: the scalars of the language, arrays, and objects with named
fields. A number keeps the kind it is stored in, so that a short integer can be told from a long
one; arithmetic and comparison look through that by `toInt?` and `toFloat?`.
-/

namespace PredicateLang

/-- A value. -/
inductive Value where
  | null
  | boolean (b : Bool)
  | integer (n : Integer)
  | float (x : Float32)
  | double (x : Float)
  | string (s : String)
  | guid (g : Guid)
  | date (t : Instant)
  | array (items : List Value)
  | object (fields : List (String × Value))

namespace Value

/-- The number `n` of the kind `int`, for the values that the program itself makes. -/
def int (n : Int) : Value := .integer (.wrapped n)

/-- Is this the null value? -/
def isNull : Value → Bool
  | .null => true
  | _ => false

/-- The truth value of a boolean. -/
def toBool? : Value → Option Bool
  | .boolean b => some b
  | _ => none

/-- The number of an integer, whatever its kind. -/
def toInt? : Value → Option Int
  | .integer n => some n.val
  | _ => none

/-- The number of a numeric value in double precision. -/
def toFloat? : Value → Option Float
  | .integer n => some (Float.ofInt n.val)
  | .float x => some x.toFloat
  | .double x => some x
  | _ => none

/-- Is this a number? -/
def isNumeric : Value → Bool
  | .integer _ | .float _ | .double _ => true
  | _ => false

/-- The word for the type of a value in messages. -/
def typeName : Value → String
  | .null => "null"
  | .boolean _ => "boolean"
  | .integer n => n.kind.name
  | .float _ => "float"
  | .double _ => "double"
  | .string _ => "string"
  | .guid _ => "guid"
  | .date _ => "date"
  | .array _ => "array"
  | .object _ => "object"

end Value

end PredicateLang
