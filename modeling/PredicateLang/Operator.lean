/-!
# Operators of comparisons

The operators that a comparison can have, how it applies to a collection on its left, the options
in brackets after the operator, and the words that stand for a place in a collection.
-/

namespace PredicateLang

/-- The operator of a comparison. -/
inductive Operator where
  | less | lessEqual | greater | greaterEqual | equal | notEqual
  /-- A regular expression occurs in the left operand. -/
  | isMatch
  /-- The left operand has the form of a pattern with `*` and `?`. -/
  | like
  | beginsWith | endsWith
  /-- The left operand is an item of the right one. -/
  | member
  /-- The right operand is an item or a part of the left one. -/
  | contains
  /-- The left operand lies between the two items of the right one, ends included. -/
  | between
deriving DecidableEq, Repr

namespace Operator

/-- The spelling of the operator in canonical text. -/
def symbol : Operator → String
  | less => "<"
  | lessEqual => "<="
  | greater => ">"
  | greaterEqual => ">="
  | equal => "=="
  | notEqual => "!="
  | isMatch => "MATCHES"
  | like => "LIKE"
  | beginsWith => "BEGINSWITH"
  | endsWith => "ENDSWITH"
  | member => "IN"
  | contains => "CONTAINS"
  | between => "BETWEEN"

/-- All operators. -/
def all : List Operator :=
  [less, lessEqual, greater, greaterEqual, equal, notEqual, isMatch, like, beginsWith, endsWith,
    member, contains, between]

/-- The operator with a canonical spelling. -/
def ofSymbol? (symbol : String) : Option Operator := all.find? (·.symbol = symbol)

/-- Does the operator ask for order or equality? -/
def isRelational : Operator → Bool
  | less | lessEqual | greater | greaterEqual | equal | notEqual => true
  | _ => false

end Operator

/-- How a comparison applies to its left operand. -/
inductive Modifier where
  /-- To the operand itself. -/
  | direct
  /-- To every item of the operand. -/
  | all
  /-- To some item of the operand. -/
  | any
deriving DecidableEq, Repr

/-- The options of a comparison. -/
structure Options where
  caseInsensitive : Bool
  diacriticInsensitive : Bool
  normalized : Bool
deriving DecidableEq, Repr

namespace Options

/-- No option. -/
def none : Options := ⟨false, false, false⟩

/-- Is no option set? -/
def isEmpty (o : Options) : Bool := o = none

/-- Adds the option that a letter stands for. -/
def addFlag? (o : Options) (letter : Char) : Option Options :=
  match letter.toLower with
  | 'c' => some { o with caseInsensitive := true }
  | 'd' => some { o with diacriticInsensitive := true }
  | 'n' => some { o with normalized := true }
  | _ => Option.none

/-- The options that letters stand for, in any order and letter case. -/
def ofFlags? (letters : String) : Option Options := letters.toList.foldlM addFlag? none

/-- The letters of the options in canonical order. -/
def flags (o : Options) : String :=
  (if o.caseInsensitive then "c" else "") ++ (if o.diacriticInsensitive then "d" else "")
    ++ (if o.normalized then "n" else "")

end Options

/-- A place in a collection, named by a word between the brackets of an index. -/
inductive IndexSymbol where
  | first | last | size
deriving DecidableEq, Repr

namespace IndexSymbol

/-- The word. -/
def word : IndexSymbol → String
  | first => "FIRST"
  | last => "LAST"
  | size => "SIZE"

/-- The place that a word in any letter case names. -/
def ofWord? (word : String) : Option IndexSymbol :=
  match String.ofList (word.toList.map Char.toUpper) with
  | "FIRST" => some .first
  | "LAST" => some .last
  | "SIZE" => some .size
  | _ => none

end IndexSymbol

end PredicateLang
