import PredicateLang.Pattern.Property

/-!
# Regular expressions

A regular expression reads a part of a text. Whether it occurs is decided without backtracking: the
places of the text that a reading may have reached are marked, and every part of the expression moves
the marks. Repetition moves them until nothing changes, so the work is bounded by the lengths of the
text and of the expression whatever is nested in it.
-/

namespace PredicateLang

/-- A condition on a place in a text. -/
inductive Assertion where
  | textStart | textEnd
  | lineStart | lineEnd
  /-- At lines that end in a carriage return, a line feed or both. -/
  | anyLineStart | anyLineEnd
  /-- Between a word character and another one, or not; in a set of word characters. -/
  | wordBoundary (word : CharSet)
  | notWordBoundary (word : CharSet)
  /-- Before, or after, a word. -/
  | wordStart (word : CharSet)
  | wordEnd (word : CharSet)
  /-- Not after, or not before, a word character. -/
  | notAfterWord (word : CharSet)
  | notBeforeWord (word : CharSet)

/-- Does the condition hold between two characters? At the ends of the text one is missing. -/
def Assertion.holds (before after : Option Char) : Assertion → Bool
  | textStart => before.isNone
  | textEnd => after.isNone
  | lineStart => before.isNone || before = some '\n'
  | lineEnd => after.isNone || after = some '\n'
  | anyLineStart =>
    before.isNone || before = some '\n' || before = some '\r' && after ≠ some '\n'
  | anyLineEnd => after.isNone || after = some '\r' || after = some '\n' && before ≠ some '\r'
  | wordBoundary word => before.any word != after.any word
  | notWordBoundary word => before.any word == after.any word
  | wordStart word => !before.any word && after.any word
  | wordEnd word => before.any word && !after.any word
  | notAfterWord word => !before.any word
  | notBeforeWord word => !after.any word

/-- A regular expression. -/
inductive Regex where
  | empty
  | char (set : CharSet)
  | assertion (a : Assertion)
  | seq (first second : Regex)
  | either (left right : Regex)
  /-- The expression from `least` to `most` times. -/
  | repeated (r : Regex) (least : Nat) (most : Option Nat)

namespace Regex

/-- Marks on the places of a text: before each character, and at the end. -/
abbrev Marks := List Bool

/-- The marks moved over a character of the set. -/
def moveOver (set : CharSet) (text : List Char) (marks : Marks) : Marks :=
  false :: List.zipWith (fun c mark => mark && set c) text marks

/-- The marks where a condition holds. -/
def keepWhere (a : Assertion) (before : Option Char) : List Char → Marks → Marks
  | _, [] => []
  | [], mark :: _ => [mark && a.holds before none]
  | c :: text, mark :: marks =>
    (mark && a.holds before (some c)) :: keepWhere a (some c) text marks

/-- The marks of both. -/
def both (a b : Marks) : Marks := List.zipWith (· || ·) a b

/-- The marks moved a number of times. -/
def moveTimes (move : Marks → Marks) : Nat → Marks → Marks
  | 0, marks => marks
  | n + 1, marks =>
    let moved := move marks
    if moved = marks then marks else moveTimes move n moved

/-- The marks together with those moved up to a number of times. -/
def moveUpTo (move : Marks → Marks) : Nat → Marks → Marks
  | 0, marks => marks
  | n + 1, marks =>
    let more := both marks (move marks)
    if more = marks then marks else moveUpTo move n more

/-- The places where readings of the expression end that begin at marked places. -/
def move (text : List Char) : Regex → Marks → Marks
  | empty, marks => marks
  | char set, marks => moveOver set text marks
  | assertion a, marks => keepWhere a none text marks
  | seq first second, marks => move text second (move text first marks)
  | either left right, marks => both (move text left marks) (move text right marks)
  | repeated r least most, marks =>
    let rest :=
      match most with
      | some most => most - least
      | none => text.length
    moveUpTo (move text r) rest (moveTimes (move text r) least marks)

/-- Does the expression occur in the text? -/
def occursIn (r : Regex) (text : List Char) : Bool :=
  (move text r (List.replicate (text.length + 1) true)).contains true

/-- Expressions one after another. -/
def ofSeq : List Regex → Regex
  | [] => empty
  | [r] => r
  | r :: rest => seq r (ofSeq rest)

/-- One of several expressions. -/
def ofChoices : List Regex → Regex
  | [] => empty
  | [r] => r
  | r :: rest => either r (ofChoices rest)

end Regex

end PredicateLang
