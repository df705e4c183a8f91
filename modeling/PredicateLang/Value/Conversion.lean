import PredicateLang.Error
import PredicateLang.Kind
import PredicateLang.Number.Reading
import PredicateLang.Value.Text

/-!
# Converting values

`convert?` turns a value into one of another kind. Null, and any value asked for a dynamic kind,
stays as it is. Numbers lose their fraction when they become integers and have to fit; strings are
read as numbers and GUIDs, white space around them aside; every scalar has a text. Nothing else is
converted.

A cast reads a value as a number, a text or a date, whatever its type. A date as a number is a count
of seconds since the beginning of 2001, with milliseconds as its fraction. Null stays null.
-/

namespace PredicateLang

/-- The beginning of 2001, which dates are counted from. -/
def Instant.reference : Instant := ⟨978307200, 0⟩

namespace Value

open PredicateLang.Text

/-- The integer of a kind with a value, if it fits. -/
def narrow? (k : IntegerKind) (n : Int) : Option Value := (Integer.ofInt? k n).map .integer

/-- The number of a kind nearest to an integer, if the kind has it. -/
def ofInt? (k : Kind) (n : Int) : Option Value :=
  match k with
  | .integer k => narrow? k n
  | .float => some (.float (Float32.ofInt n))
  | .double => some (.double (Float.ofInt n))
  | _ => none

/-- The integer of a kind that a floating-point number is without its fraction. -/
def truncateTo? (k : IntegerKind) (x : Float) : Option Value :=
  (Number.truncate? x).bind (narrow? k)

/-- Converts a floating-point number to a kind of numbers. -/
def convertFloat? (x : Float) : Kind → Option Value
  | .integer k => truncateTo? k x
  | .float => some (.float x.toFloat32)
  | .double => some (.double x)
  | _ => none

/-- Reads a string as a value of a kind. -/
def convertString? (s : String) : Kind → Option Value
  | .guid => (Guid.ofText? (trim s.toList)).map .guid
  | .integer k => (signedNumeral? (trim s.toList)).bind (narrow? k)
  | .float => (Number.readFloat? (trim s.toList)).map fun x => .float x.toFloat32
  | .double => (Number.readFloat? (trim s.toList)).map .double
  | _ => none

/-- Converts a value that is not of the kind already. -/
def convertAcross? (v : Value) (k : Kind) : Option Value :=
  match v, k with
  | .integer n, .integer k => narrow? k n.val
  | .boolean b, .integer k => narrow? k (if b then 1 else 0)
  | .array _, .string | .object _, .string => none
  | v, .string => some (.string v.text)
  | .string s, k => convertString? s k
  | v, k => v.toFloat?.bind fun x => convertFloat? x k

/-- The value as one of the kind, if it can be converted. -/
def convert? (v : Value) (k : Kind) : Option Value :=
  if v.isNull ∨ k.isDynamic ∨ Kind.ofValue v = k then some v else convertAcross? v k

/-! ## Casts -/

/-- The value as a number. -/
def castToNumber : Value → Except EvaluationFault Value
  | .null => .ok .null
  | .boolean b => .ok (.double (if b then 1.0 else 0.0))
  | .string s =>
    match Number.readFloat? (trim s.toList) with
    | some x => .ok (.double x)
    | none => .error (.notNumeral s)
  | .date t => .ok (.double (Float.ofInt (t.millisSince .reference) / 1000.0))
  | v =>
    match v.toFloat? with
    | some x => .ok (.double x)
    | none => .error (.notCastable v.typeName "NSNumber")

/-- The value as a text. -/
def castToString : Value → Except EvaluationFault Value
  | .null => .ok .null
  | v => .ok (.string v.text)

/-- The date a number of seconds after the reference date. -/
def dateAfterReference? (seconds : Float) : Option Instant :=
  (Number.truncate? (seconds * 1000.0).round).bind Instant.reference.addMillis?

/-- The value as a date. -/
def castToDate : Value → Except EvaluationFault Value
  | .null => .ok .null
  | .date t => .ok (.date t)
  | .string s =>
    match Instant.ofText? (trim s.toList) with
    | some t => .ok (.date t)
    | none => .error (.notDate s)
  | v =>
    match v.toFloat? with
    | none => .error (.notCastable v.typeName "NSDate")
    | some seconds =>
      match dateAfterReference? seconds with
      | some t => .ok (.date t)
      | none => .error (.dateOutOfRange seconds)

end Value

end PredicateLang
