import PredicateLang.Pattern.Reader
import PredicateLang.Pattern.Regex
import PredicateLang.Text.Digits

/-!
# Escapes

What stands for one thing in a regular expression: a character, a set of characters, or a condition
on a place. An escape gives each of them a name that begins with a backslash. How escapes are read
depends on the mode, which an expression may set for its parts.
-/

namespace PredicateLang.Regex

open PredicateLang.Text

/-- How an expression is read. -/
structure Mode where
  /-- Are the letter cases of a character the same? -/
  ignoreCase : Bool := false
  /-- Do `^` and `$` hold at the ends of lines? -/
  lines : Bool := false
  /-- Is `.` the line feed, too? -/
  dotAll : Bool := false
  /-- Do words, digits, blanks and letter case go by Unicode, or by ASCII? -/
  unicode : Bool := true
  /-- Does a carriage return end a line, too? -/
  carriageReturns : Bool := false
  /-- Are white space and comments left out? -/
  spaced : Bool := false

namespace Mode

/-- The mode with a flag set or not. Whether repetition is greedy by default does not matter here. -/
def set? (mode : Mode) (value : Bool) : Char → Option Mode
  | 'i' => some { mode with ignoreCase := value }
  | 'm' => some { mode with lines := value }
  | 's' => some { mode with dotAll := value }
  | 'u' => some { mode with unicode := value }
  | 'R' => some { mode with carriageReturns := value }
  | 'x' => some { mode with spaced := value }
  | 'U' => some mode
  | _ => none

/-- The characters that a character stands for if letter case is ignored. -/
def variants (mode : Mode) (c : Char) : List Char :=
  if mode.unicode then caseVariants c else [c, c.toLower, c.toUpper]

/-- The set that a set stands for. -/
def fold (mode : Mode) (set : CharSet) : CharSet :=
  if mode.ignoreCase then set.foldCase mode.variants else set

/-- The characters that are not in a set. With ASCII alone there is no such set. -/
def complement? (mode : Mode) (set : CharSet) : Option CharSet :=
  if mode.unicode then some set.complement else none

/-- The set or its complement. -/
def complementIf? (mode : Mode) (negated : Bool) (set : CharSet) : Option CharSet :=
  if negated then mode.complement? set else some set

/-- The characters of words. -/
def word (mode : Mode) : CharSet :=
  if mode.unicode then Unicode.isWord else Unicode.isAsciiWord

/-- Where `^` holds. -/
def start (mode : Mode) : Assertion :=
  match mode.lines, mode.carriageReturns with
  | false, _ => .textStart
  | true, false => .lineStart
  | true, true => .anyLineStart

/-- Where `$` holds. -/
def finish (mode : Mode) : Assertion :=
  match mode.lines, mode.carriageReturns with
  | false, _ => .textEnd
  | true, false => .lineEnd
  | true, true => .anyLineEnd

/-- The characters that `.` stands for. -/
def dot? (mode : Mode) : Option CharSet :=
  if mode.unicode then
    some fun c => mode.dotAll || c ≠ '\n' && !(mode.carriageReturns && c = '\r')
  else none

end Mode

/-! ## Blanks -/

/-- The text without white space and comments in front. A comment ends with its line. -/
def dropBlanks (inComment : Bool) : List Char → List Char
  | [] => []
  | c :: rest =>
    if inComment then dropBlanks (c ≠ '\n') rest
    else if isWhiteSpace c then dropBlanks false rest
    else if c = '#' then dropBlanks true rest
    else c :: rest

/-- Takes what is left out of a spaced expression. -/
def blanks (mode : Mode) : Reader Unit := do
  if mode.spaced then
    let text ← .ahead
    .skip (text.length - (dropBlanks false text).length)

/-- Takes a character and the blanks after it. -/
def spacedNext (mode : Mode) : Reader Char := do
  let c ← .next
  blanks mode
  return c

/-- Takes what stands before a closing brace, and the brace. -/
def braced (mode : Mode) : Reader (List Char) :=
  .iterate (fun taken => do
    blanks mode
    match ← .next with
    | '\x7d' => return .inr taken.reverse
    | c => return .inl (c :: taken)) []

/-! ## Escapes -/

/-- One thing that is not made of parts. -/
inductive Atom where
  | char (c : Char)
  | set (set : CharSet)
  | assertion (a : Assertion)

/-- The character with a number. -/
def charOfCode? (code : Nat) : Option Char :=
  if code.isValidChar then some (Char.ofNat code) else none

/-- Takes a number of hexadecimal digits. -/
def hexDigits (mode : Mode) : Nat → Reader (List Char)
  | 0 => pure []
  | n + 1 => do
    let digit ← spacedNext mode
    return digit :: (← hexDigits mode n)

/--
A character by its number: so many digits, or digits in braces. With ASCII alone, two digits are a
byte of a text, which may not be half a character.
-/
def characterCode (mode : Mode) (digits : Nat) : Reader Char := do
  blanks mode
  let inBraces ← .accept ['\x7b']
  let code ← if inBraces then braced mode else hexDigits mode digits
  let c ← .ofOption ((hexNumeral? code).bind charOfCode?)
  if !inBraces && digits = 2 && !mode.unicode && !isAscii c then .fail else return c

/-- The parts of a text before and after the first occurrence of a sign. -/
def cut? (sign : List Char) : List Char → Option (List Char × List Char)
  | [] => none
  | c :: rest =>
    if sign.isPrefixOf (c :: rest) then some ([], (c :: rest).drop sign.length)
    else (cut? sign rest).map fun (before, after) => (c :: before, after)

/-- The set of a property of Unicode: its name, or a property and its value with a sign in between,
which may be `!=`, `:` or `=` and says no more than that. -/
def propertySet? (name : List Char) : Option CharSet :=
  match [['!', '='], [':'], ['=']].findSome? (cut? · name) with
  | some (property, value) => Unicode.valued? property value
  | none => Unicode.property? name

/-- The characters with a property, or those without it. -/
def propertyClass (mode : Mode) (negated : Bool) : Reader CharSet := do
  blanks mode
  let c ← .next
  let name ← if c = '\x7b' then braced mode else pure [c]
  if mode.unicode then
    .ofOption ((propertySet? name).bind fun set => mode.complementIf? negated (mode.fold set))
  else .fail

/-- The set of a class that is named by one letter. -/
def classSet? (mode : Mode) : Char → Option CharSet
  | 'd' => some (if mode.unicode then Unicode.isDigit else Char.isDigit)
  | 's' => some (if mode.unicode then isWhiteSpace else Unicode.isAsciiSpace)
  | 'w' => some mode.word
  | _ => none

/-- The control character that a letter stands for. -/
def control? : Char → Option Char
  | 'a' => some '\x07'
  | 'f' => some '\x0c'
  | 't' => some '\t'
  | 'n' => some '\n'
  | 'r' => some '\r'
  | 'v' => some '\x0b'
  | _ => none

/-- What an escaped character other than a boundary of words stands for. -/
def simpleAtom? (mode : Mode) (c : Char) : Option Atom :=
  match c with
  | 'A' => some (.assertion .textStart)
  | 'z' => some (.assertion .textEnd)
  | 'B' => some (.assertion (.notWordBoundary mode.word))
  | '<' => some (.assertion (.wordStart mode.word))
  | '>' => some (.assertion (.wordEnd mode.word))
  | c =>
    if isAscii c && !c.isAlphanum then some (.char c)
    else if let some set := classSet? mode c then some (.set set)
    else if let some set := classSet? mode c.toLower then (mode.complement? set).map .set
    else (control? c).map .char

/-- A boundary of words with a name. -/
def boundary? (word : CharSet) (name : List Char) : Option Assertion :=
  match String.ofList name with
  | "start" => some (.wordStart word)
  | "end" => some (.wordEnd word)
  | "start-half" => some (.notAfterWord word)
  | "end-half" => some (.notBeforeWord word)
  | _ => none

/--
What follows a boundary of words: the name of a sort of boundary in braces, or nothing that belongs
to it. Braces without a letter or a hyphen are a number of repetitions.
-/
def boundary (mode : Mode) : Reader Assertion := do
  match ← .ahead with
  | '\x7b' :: rest =>
    match if mode.spaced then dropBlanks false rest else rest with
    | [] => .fail
    | c :: _ =>
      if c.isAlpha || c = '-' then
        let name ← do .skip 1; braced mode
        .ofOption (boundary? mode.word name)
      else return .wordBoundary mode.word
  | _ => return .wordBoundary mode.word

/-- What an escape stands for. The backslash is taken. -/
def escape (mode : Mode) : Reader Atom := do
  match ← .next with
  | 'x' => return .char (← characterCode mode 2)
  | 'u' => return .char (← characterCode mode 4)
  | 'U' => return .char (← characterCode mode 8)
  | 'p' => return .set (← propertyClass mode false)
  | 'P' => return .set (← propertyClass mode true)
  | 'b' => return .assertion (← boundary mode)
  | c => .ofOption (simpleAtom? mode c)

/-- A character, or what an escape stands for. -/
def literal (mode : Mode) : Reader Atom := do
  match ← .next with
  | '\\' => escape mode
  | c => return .char c

end PredicateLang.Regex
