import PredicateLang.Pattern.Binary
import PredicateLang.Pattern.Script
import PredicateLang.Text.LetterCase

/-!
# Sets of characters

Sets of characters by their properties: the sets that a name of a Unicode property stands for, the
classes of digits, of word characters and of white space, and the classes that are named after their
use in ASCII. Names of properties are compared without regard to letter case, separators and a `is`
in front.
-/

namespace PredicateLang

open PredicateLang.Text

/-- A set of characters. -/
abbrev CharSet := Char → Bool

namespace CharSet

/-- The characters of ranges of code points. -/
def ofRanges (ranges : CodeRanges) : CharSet := ranges.contains

/-- The characters from one to another. -/
def range (first last : Char) : CharSet := fun c => first ≤ c && c ≤ last

/-- The characters that are in one of the sets. -/
def union (sets : List CharSet) : CharSet := fun c => sets.any fun set => set c

/-- The characters that are not in the set. -/
def complement (set : CharSet) : CharSet := fun c => !set c

/-- The characters in the set, or of which another in the other letter case is. -/
def foldCase (variants : Char → List Char) (set : CharSet) : CharSet := fun c =>
  (variants c).any set

end CharSet

namespace Unicode

/-- A name of a property in small ASCII letters, without separators and without a `is` in front. -/
def looseName (name : List Char) : String :=
  let isSignificant := fun c => isAscii c && c ≠ ' ' && c ≠ '_' && c ≠ '-'
  let letters := fun (name : List Char) => (name.filter isSignificant).map Char.toLower
  match name with
  | i :: s :: rest =>
    if i.toLower = 'i' && s.toLower = 's' && letters rest ≠ ['c'] then String.ofList (letters rest)
    else String.ofList (letters name)
  | name => String.ofList (letters name)

/-- The set with a name in a table. -/
def lookup? (table : List NamedRanges) (name : String) : Option CharSet :=
  (table.find? fun entry => entry.names.contains name).map fun entry =>
    .ofRanges (CodeRanges.read entry.ranges)

/-- The categories that groups of categories consist of. -/
def categoryGroups : List (List String × List String) :=
  [ (["l", "letter"], ["lu", "ll", "lt", "lm", "lo"]),
    (["lc", "casedletter"], ["lu", "ll", "lt"]),
    (["m", "mark", "combiningmark"], ["mn", "mc", "me"]),
    (["n", "number"], ["nd", "nl", "no"]),
    (["p", "punctuation", "punct"], ["pc", "pd", "ps", "pe", "pi", "pf", "po"]),
    (["s", "symbol"], ["sm", "sc", "sk", "so"]),
    (["z", "separator"], ["zs", "zl", "zp"]) ]

/-- The characters of categories. -/
def ofCategories (names : List String) : CharSet :=
  .union (names.filterMap (lookup? generalCategories))

/-- The characters that are in a category of the table. -/
def assigned : CharSet := .union (generalCategories.map fun entry => .ofRanges (.read entry.ranges))

/-- The characters of a general category or of a group of categories. -/
def category? (name : String) : Option CharSet :=
  match name with
  | "any" => some fun _ => true
  | "ascii" => some isAscii
  | "assigned" => some assigned
  | "cn" | "unassigned" => some (.complement assigned)
  | "c" | "other" =>
    some (.union [ofCategories ["cc", "cf", "co"], .complement assigned])
  | name =>
    match categoryGroups.find? fun (names, _) => names.contains name with
    | some (_, members) => some (ofCategories members)
    | none => lookup? generalCategories name

/-- The characters with a binary property. -/
def binary? (name : String) : Option CharSet :=
  match name with
  | "alphabetic" | "alpha" => some isAlphabetic
  | "lowercase" | "lower" =>
    some (.union [ofCategories ["ll"], .ofRanges (.read otherLowercase)])
  | "uppercase" | "upper" =>
    some (.union [ofCategories ["lu"], .ofRanges (.read otherUppercase)])
  | name => lookup? binaryProperties name

/-- The characters with a property that is only named. -/
def property? (name : List Char) : Option CharSet :=
  let name := looseName name
  ((binary? name).orElse fun _ => category? name).orElse fun _ => lookup? scripts name

/-- The characters for which a property has a value. -/
def valued? (property value : List Char) : Option CharSet :=
  match looseName property with
  | "generalcategory" | "gc" => category? (looseName value)
  | "script" | "sc" => lookup? scripts (looseName value)
  | _ => none

/-! ## Classes -/

/-- Decimal digits outside ASCII. -/
def digitSet : CharSet := ofCategories ["nd"]

/-- Decimal digits. -/
def isDigit (c : Char) : Bool := if isAscii c then c.isDigit else digitSet c

/-- Word characters outside ASCII that are not alphabetic. -/
def joiningSet : CharSet :=
  .union [ofCategories ["mn", "mc", "me", "nd", "pc"], .range '\u200c' '\u200d']

/-- Characters of words: letters, marks, digits, and what connects them. -/
def isWord (c : Char) : Bool :=
  if isAscii c then c.isAlphanum || c = '_' else isAlphabetic c || joiningSet c

/-- Characters of words in ASCII. -/
def isAsciiWord (c : Char) : Bool := c.isAlphanum || c = '_'

/-- White space in ASCII. -/
def isAsciiSpace (c : Char) : Bool := isAscii c && isWhiteSpace c

/-- The class of ASCII characters with a name. -/
def asciiClass? (name : String) : Option CharSet :=
  match name with
  | "alnum" => some Char.isAlphanum
  | "alpha" => some Char.isAlpha
  | "ascii" => some isAscii
  | "blank" => some fun c => c = ' ' || c = '\t'
  | "cntrl" => some fun c => c.toNat < 32 || c.toNat = 127
  | "digit" => some Char.isDigit
  | "graph" => some (.range '!' '~')
  | "lower" => some Char.isLower
  | "print" => some (.range ' ' '~')
  | "punct" => some fun c => CharSet.range '!' '~' c && !c.isAlphanum
  | "space" => some isAsciiSpace
  | "upper" => some Char.isUpper
  | "word" => some isAsciiWord
  | "xdigit" => some isHexDigit
  | _ => none

end Unicode

end PredicateLang
