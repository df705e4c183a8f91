import PredicateLang.Pattern.Regex.Bracket

/-!
# Reading regular expressions

An expression is a choice of sequences of atoms, sets in brackets and groups, each of which may be
repeated. A group may set the mode for what is in it, and a setting without an expression holds to
the end of the group around it. Groups are read with those around them in a list, so that one pass
over the text reads the expression.
-/

namespace PredicateLang.Regex

open PredicateLang.Text

/-- A group that is read up to a place. -/
structure Group where
  mode : Mode
  /-- The finished sequences, the last one first. -/
  choices : List Regex
  /-- The parts of the sequence at the place, the last one first; none is a setting of the mode. -/
  parts : List (Option Regex)

namespace Group

/-- A group of which nothing is read. -/
def begin (mode : Mode) : Group := { mode, choices := [], parts := [] }

/-- The group with one more part. -/
def add (group : Group) (part : Regex) : Group := { group with parts := some part :: group.parts }

/-- The group with its sequence finished. -/
def finish (group : Group) : Group :=
  { group with choices := ofSeq (group.parts.reverse.filterMap id) :: group.choices, parts := [] }

/-- The expression of a finished group. -/
def value (group : Group) : Regex := ofChoices group.finish.choices.reverse

/-- The group with its last part repeated. There has to be one. -/
def repeatLast? (group : Group) (least : Nat) (most : Option Nat) : Option Group :=
  match group.parts with
  | some part :: parts => some { group with parts := some (repeated part least most) :: parts }
  | _ => none

end Group

/-- What is read of an expression: the innermost group, those around it, and all names of groups. -/
structure Reading where
  group : Group
  outer : List Group
  names : List (List Char)

namespace Reading

/-- The expression with one more part of the innermost group. -/
def add (reading : Reading) (part : Regex) : Reading :=
  { reading with group := reading.group.add part }

/-- The expression with a group begun. -/
def enter (reading : Reading) (mode : Mode) : Reading :=
  { reading with group := .begin mode, outer := reading.group :: reading.outer }

/-- The expression with the innermost group finished. It has to be in another. -/
def leave? (reading : Reading) : Option Reading :=
  match reading.outer with
  | [] => none
  | group :: outer => some { reading with group := group.add reading.group.value, outer }

end Reading

/-! ## Groups -/

/-- Takes the flags of a group: those after a hyphen are unset. Says which character ended them. -/
def flags (mode : Mode) : Reader (Mode × List Char × Char) :=
  .iterate (fun (mode, seen) => do
    let c ← .next
    if c = ':' || c = ')' then
      if seen.head? = some '-' then .fail else return .inr (mode, seen, c)
    else if seen.contains c then .fail
    else if c = '-' then return .inl (mode, c :: seen)
    else
      let mode ← .ofOption (mode.set? (!seen.contains '-') c)
      return .inl (mode, c :: seen)) (mode, [])

/-- Is it a name of a group? -/
def isGroupName : List Char → Bool
  | [] => false
  | c :: rest =>
    (c = '_' || isAlphabetic c) &&
      rest.all fun c => isAlphanumeric c || ['_', '.', '[', ']'].contains c

/-- Takes a name of a group that is not taken before, with the bracket after it. -/
def groupName (names : List (List Char)) : Reader (List Char) := do
  let name ← .takeWhile (· ≠ '>')
  .expect ['>']
  if isGroupName name && !names.contains name then return name else .fail

/-- The beginning of a group, whose parenthesis is taken. -/
def openGroup (reading : Reading) : Reader Reading := do
  let mode := reading.group.mode
  blanks mode
  if (← .accept "?P<".toList) || (← .accept "?<".toList) then
    let name ← groupName reading.names
    return { reading.enter mode with names := name :: reading.names }
  else if ← .accept ['?'] then
    match ← flags mode with
    | (mode, _, ':') => return reading.enter mode
    | (_, [], _) => .fail
    | (mode, _, _) =>
      return { reading with
        group := { reading.group with mode, parts := none :: reading.group.parts } }
  else return reading.enter mode

/-! ## Repetition -/

/-- Takes a decimal number that may have blanks around it. -/
def decimal (mode : Mode) : Reader Nat := do
  let _ ← .takeWhile isWhiteSpace
  let digits ← .iterate (fun digits => do
    match ← .ahead with
    | c :: _ =>
      if c.isDigit then
        .skip 1
        blanks mode
        return .inl (c :: digits)
      else return .inr digits.reverse
    | [] => .fail) []
  let _ ← .takeWhile isWhiteSpace
  blanks mode
  let n ← .ofOption (decimalNumeral? digits)
  if n < Nat.pow 2 32 then return n else .fail

/-- The least and the most number of repetitions in braces, of which the first is taken. -/
def counts (mode : Mode) : Reader (Nat × Option Nat) := do
  blanks mode
  let least ← decimal mode
  let most ←
    if ← .accept [','] then
      blanks mode
      if ['\x7d'].isPrefixOf (← .ahead) then pure none else some <$> decimal mode
    else pure (some least)
  .expect ['\x7d']
  blanks mode
  match most with
  | some most => if least ≤ most then return (least, some most) else .fail
  | none => return (least, none)

/-- Takes an operator of repetition if it is next, with the mark that makes it take the least. -/
def repetition (mode : Mode) : Reader (Option (Nat × Option Nat)) := do
  let range ←
    if ← .accept ['*'] then pure (some (0, none))
    else if ← .accept ['+'] then pure (some (1, none))
    else if ← .accept ['?'] then pure (some (0, some 1))
    else if ← .accept ['\x7b'] then some <$> counts mode
    else pure none
  if range.isSome then
    let _ ← .accept ['?']
  return range

/-! ## Expressions -/

/-- The expression of an atom. -/
def ofAtom (mode : Mode) : Atom → Regex
  | .char c => char (if mode.ignoreCase then (mode.variants c).contains else (· == c))
  | .set set => char set
  | .assertion a => assertion a

/-- A part that is not a group. -/
def part (mode : Mode) : Reader Regex := do
  if ← .accept ['['] then return char (← bracket mode)
  else if ← .accept ['.'] then return char (← .ofOption mode.dot?)
  else if ← .accept ['^'] then return assertion mode.start
  else if ← .accept ['$'] then return assertion mode.finish
  else return ofAtom mode (← literal mode)

/-- One step through an expression. -/
def step (reading : Reading) : Reader (Reading ⊕ Regex) := do
  let mode := reading.group.mode
  blanks mode
  if (← .ahead).isEmpty then
    if reading.outer.isEmpty then return .inr reading.group.value else .fail
  else if ← .accept ['('] then return .inl (← openGroup reading)
  else if ← .accept [')'] then return .inl (← .ofOption reading.leave?)
  else if ← .accept ['|'] then return .inl { reading with group := reading.group.finish }
  else
    match ← repetition mode with
    | some (least, most) =>
      let group ← .ofOption (reading.group.repeatLast? least most)
      return .inl { reading with group }
    | none => return .inl (reading.add (← part mode))

/-- The expression that a text is written as, if it is one. -/
def parse? (pattern : String) : Option Regex :=
  (Reader.iterate step { group := .begin {}, outer := [], names := [] }).run pattern.toList

/-- Does the expression that is written as a pattern occur in a text? There may be none. -/
def search? (pattern text : String) : Option Bool :=
  (parse? pattern).map (·.occursIn text.toList)

end PredicateLang.Regex
