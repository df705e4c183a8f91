import PredicateLang.Text.LetterCase
import PredicateLang.Value

/-!
# Comparing values

`compare` orders two scalars: integers exactly whatever their kinds, other numbers in double
precision, strings by their code points, GUIDs, dates and truth values in their own order. A GUID
and a string are compared as texts in small letters. Everything else has no order, and so does a
comparison with a number that is not one.

`looseEq` is the equality of the language: equal in that order, item by item in arrays. `strictEq`
compares the stored values, kinds included, and is what the fields of objects are compared by.
-/

namespace PredicateLang

/-- The order of two floating-point numbers, if both are numbers. The zeros are equal. -/
def Number.compareFloats (x y : Float) : Option Ordering :=
  if x < y then some .lt
  else if y < x then some .gt
  else if x == y then some .eq
  else none

namespace Value

/-- The order of two values, if they have one. -/
def compare (a b : Value) : Option Ordering :=
  match a, b with
  | .integer m, .integer n => some (Ord.compare m.val n.val)
  | .string s, .string t => some (Ord.compare s t)
  | .guid g, .guid h => some (Ord.compare g.bits.toNat h.bits.toNat)
  | .guid g, .string s => some (Ord.compare g.text (Text.lower s))
  | .string s, .guid g => some (Ord.compare (Text.lower s) g.text)
  | .date t, .date u => some (t.compare u)
  | .boolean p, .boolean q => some (Ord.compare p q)
  | a, b =>
    match a.toFloat?, b.toFloat? with
    | some x, some y => Number.compareFloats x y
    | _, _ => none

mutual

/-- Are the stored values the same? Numbers that are not numbers differ from themselves, and the
zeros are the same. -/
def strictEq : Value → Value → Bool
  | .null, .null => true
  | .boolean p, .boolean q => p == q
  | .integer m, .integer n => m == n
  | .float x, .float y => x == y
  | .double x, .double y => x == y
  | .string s, .string t => s == t
  | .guid g, .guid h => g == h
  | .date t, .date u => t == u
  | .array items, .array items' => strictEqItems items items'
  | .object fields, .object fields' => strictEqFields fields fields'
  | _, _ => false

/-- Are two lists of items the same? -/
def strictEqItems : List Value → List Value → Bool
  | [], [] => true
  | a :: rest, b :: rest' => strictEq a b && strictEqItems rest rest'
  | _, _ => false

/-- Are two lists of fields the same? -/
def strictEqFields : List (String × Value) → List (String × Value) → Bool
  | [], [] => true
  | (n, a) :: rest, (m, b) :: rest' => n == m && strictEq a b && strictEqFields rest rest'
  | _, _ => false

end

mutual

/-- Equality in the language. Null equals null alone. -/
def looseEq : Value → Value → Bool
  | .null, .null => true
  | .array items, .array items' => looseEqItems items items'
  | .object fields, .object fields' => strictEqFields fields fields'
  | a, b => compare a b == some .eq

/-- Are two lists of the same length equal item by item? -/
def looseEqItems : List Value → List Value → Bool
  | [], [] => true
  | a :: rest, b :: rest' => looseEq a b && looseEqItems rest rest'
  | _, _ => false

end

end Value

end PredicateLang
