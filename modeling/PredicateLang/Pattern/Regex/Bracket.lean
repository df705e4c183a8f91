import PredicateLang.Pattern.Regex.Escape

/-!
# Sets in brackets

A set in brackets lists characters, ranges, classes and further sets in brackets. A caret in front
takes the complement. The operators of intersection, difference and symmetric difference join what
stands between them from the left to the right.
-/

namespace PredicateLang.Regex

open PredicateLang.Text

/-- A set in brackets that is read up to a place. -/
structure Bracket where
  negated : Bool
  /-- The operator before the place, with the set before it. -/
  joined : CharSet → CharSet
  /-- The sets that are listed after the operator. -/
  listed : List CharSet

namespace Bracket

/-- The set with one more listed. -/
def add (bracket : Bracket) (set : CharSet) : Bracket :=
  { bracket with listed := set :: bracket.listed }

/-- The set up to the place. -/
def value (mode : Mode) (bracket : Bracket) : CharSet :=
  bracket.joined (mode.fold (.union bracket.listed))

/-- The set with an operator at the place. -/
def join (mode : Mode) (operator : Bool → Bool → Bool) (bracket : Bracket) : Bracket :=
  let left := bracket.value mode
  { bracket with joined := fun right c => operator (left c) (right c), listed := [] }

/-- The set of a closed bracket. -/
def close? (mode : Mode) (bracket : Bracket) : Option CharSet :=
  mode.complementIf? bracket.negated (bracket.value mode)

end Bracket

/-- The operators on sets. -/
def setOperator? : List Char → Option (Bool → Bool → Bool)
  | '&' :: '&' :: _ => some fun left right => left && right
  | '-' :: '-' :: _ => some fun left right => left && !right
  | '~' :: '~' :: _ => some fun left right => left != right
  | _ => none

/-- A class of ASCII characters at the front of a text, and how many characters its name takes. -/
def asciiClassAt? (text : List Char) : Option (Bool × CharSet × Nat) :=
  match text with
  | '[' :: ':' :: rest =>
    let negated := rest.head? = some '^'
    let (name, closing) := (if negated then rest.tail else rest).span (· ≠ ':')
    match closing, Unicode.asciiClass? (String.ofList name) with
    | ':' :: ']' :: _, some set => some (negated, set, name.length + if negated then 5 else 4)
    | _, _ => none
  | _ => none

/-- Takes hyphens, which are characters in front of all else. -/
def hyphens (mode : Mode) : Reader Bool :=
  .iterate (fun any => do
    if ← .accept ['-'] then
      blanks mode
      return .inl true
    else return .inr any) false

/-- The beginning of a set, whose bracket is taken: a bracket that closes nothing is a character. -/
def openBracket (mode : Mode) : Reader Bracket := do
  blanks mode
  let negated ← .accept ['^']
  blanks mode
  let bracket : Bracket := { negated, joined := fun set => set, listed := [] }
  if ← hyphens mode then return bracket.add (.range '-' '-')
  else if ← .accept [']'] then return bracket.add (.range ']' ']')
  else return bracket

/-- The character of an atom that may bound a range. -/
def bound? (mode : Mode) : Atom → Option Char
  | .char c => if mode.unicode || isAscii c then some c else none
  | _ => none

/-- The set of an atom. -/
def atomSet? (mode : Mode) : Atom → Option CharSet
  | .set set => some set
  | atom => (bound? mode atom).map fun c => .range c c

/-- A listed atom, or a range of characters from an atom to another. -/
def listedSet (mode : Mode) : Reader CharSet := do
  let first ← literal mode
  blanks mode
  match ← .ahead with
  | '-' :: rest =>
    match if mode.spaced then dropBlanks false rest else rest with
    | ']' :: _ | '-' :: _ => .ofOption (atomSet? mode first)
    | _ =>
      .skip 1
      blanks mode
      let last ← literal mode
      match bound? mode first, bound? mode last with
      | some first, some last => if first ≤ last then return .range first last else .fail
      | _, _ => .fail
  | _ => .ofOption (atomSet? mode first)

/-- One step through a set in brackets that may be inside others. -/
def bracketStep (mode : Mode) (state : Bracket × List Bracket) :
    Reader ((Bracket × List Bracket) ⊕ CharSet) := do
  let (bracket, outer) := state
  blanks mode
  let text ← .ahead
  match text with
  | [] => .fail
  | '[' :: _ =>
    match asciiClassAt? text with
    | some (negated, set, length) =>
      .skip length
      let set ← .ofOption (mode.complementIf? negated (mode.fold set))
      return .inl (bracket.add set, outer)
    | none =>
      .skip 1
      return .inl (← openBracket mode, bracket :: outer)
  | ']' :: _ =>
    .skip 1
    let set ← .ofOption (bracket.close? mode)
    match outer with
    | [] => return .inr set
    | next :: outer => return .inl (next.add set, outer)
  | _ =>
    match setOperator? text with
    | some operator =>
      .skip 2
      return .inl (bracket.join mode operator, outer)
    | none => return .inl (bracket.add (← listedSet mode), outer)

/-- A set in brackets, of which the first is taken. -/
def bracket (mode : Mode) : Reader CharSet := do
  let opened ← openBracket mode
  .iterate (bracketStep mode) (opened, [])

end PredicateLang.Regex
