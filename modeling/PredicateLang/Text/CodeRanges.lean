import PredicateLang.Text.Digits
import PredicateLang.Text.Split

/-!
# Sets of code points

The classes and case mappings of the Unicode character database, as data: a class is a list of
inclusive ranges of code points, a mapping a list of runs that shift alike. Both are written as
text in hexadecimal, which keeps the tables compact and readable:

* `41-5A AA` is the class of the letters `A` to `Z` and of the code point `AA`;
* `61-7A>41` maps `61` to `41`, `62` to `42` and so on; `101-12F/2>100` does so for every second
  code point; `DF>53+53` maps one code point to two.
-/

namespace PredicateLang.Text

/-- The pieces of a table between blanks and line ends. -/
def tableItems (table : String) : List (List Char) :=
  (splitChars ' ' (table.toList.map fun c => if c = '\n' then ' ' else c)).filter (!·.isEmpty)

/-- A set of code points as inclusive ranges. -/
abbrev CodeRanges := List (Nat × Nat)

namespace CodeRanges

/-- Is the code point of `c` in one of the ranges? -/
def contains (ranges : CodeRanges) (c : Char) : Bool :=
  ranges.any fun (first, last) => first ≤ c.toNat && c.toNat ≤ last

/-- Reads `41-5A` or `AA`. -/
def readRange (text : List Char) : Nat × Nat :=
  match (splitChars '-' text).map fun piece => (hexNumeral? piece).getD 0 with
  | [first, last] => (first, last)
  | [only] => (only, only)
  | _ => (1, 0)

/-- Reads a table of ranges. -/
def read (table : String) : CodeRanges := (tableItems table).map readRange

end CodeRanges

/-- Code points that are mapped by one shift: `first`, `first + step`, … up to `last`. -/
structure MappingRun where
  first : Nat
  last : Nat
  step : Nat
  /-- The image of `first`. The image of a later member is moved by the same distance. -/
  target : List Nat

namespace MappingRun

/-- The image of a code point, if the run holds it. -/
def image? (run : MappingRun) (code : Nat) : Option (List Nat) :=
  if run.first ≤ code ∧ code ≤ run.last ∧ (code - run.first) % run.step = 0 then
    some (run.target.map (· + (code - run.first)))
  else none

/-- The member of the run whose image is the single code point `image`, if there is one. -/
def preimage? (run : MappingRun) (image : Nat) : Option Nat :=
  match run.target with
  | [target] =>
    let code := run.first + (image - target)
    if target ≤ image ∧ code ≤ run.last ∧ (code - run.first) % run.step = 0 then some code
    else none
  | _ => none

/-- Reads `61-7A>41`, `101-12F/2>100` or `DF>53+53`. -/
def read (text : List Char) : MappingRun :=
  match splitChars '>' text with
  | [source, target] =>
    let images := (splitChars '+' target).map fun piece => (hexNumeral? piece).getD 0
    match splitChars '/' source with
    | [range, step] =>
      let (first, last) := CodeRanges.readRange range
      ⟨first, last, (hexNumeral? step).getD 1, images⟩
    | _ =>
      let (first, last) := CodeRanges.readRange source
      ⟨first, last, 1, images⟩
  | _ => ⟨1, 0, 1, []⟩

end MappingRun

/-- A mapping of code points to texts; what no run holds is mapped to itself. -/
abbrev CodeMapping := List MappingRun

namespace CodeMapping

/-- The image of a character. -/
def apply (mapping : CodeMapping) (c : Char) : List Char :=
  match mapping.findSome? fun run => run.image? c.toNat with
  | some images => images.map Char.ofNat
  | none => [c]

/-- The characters that the runs map to the single character `c`. -/
def preimages (mapping : CodeMapping) (c : Char) : List Char :=
  (mapping.filterMap fun run => run.preimage? c.toNat).map Char.ofNat

/-- Reads a table of runs. -/
def read (table : String) : CodeMapping := (tableItems table).map MappingRun.read

end CodeMapping

end PredicateLang.Text
