import PredicateLang.Fields

/-!
# JSON documents

A document is a tree of null, truth values, numbers, strings, arrays and objects. A number is
either an integer that fits 64 bits, with or without sign, or a finite number of double precision.
-/

namespace PredicateLang

/-- A number of a document. -/
inductive JsonNumber where
  | integer (n : Int)
  | float (x : Float)

/-- A document. -/
inductive Json where
  | null
  | boolean (b : Bool)
  | number (n : JsonNumber)
  | string (s : String)
  | array (items : List Json)
  | object (fields : List (String × Json))

end PredicateLang
