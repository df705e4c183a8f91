import PredicateLang.Check
import PredicateLang.Json.Printer

/-!
# The command line

The command `check` takes the text of a predicate, and options before and after it. An option is
named by a word after two hyphens, or by a letter after one; its value follows as the next argument,
after an equals sign, or directly after the letter. Letters without values may stand together. After
two hyphens alone every argument is a text.
-/

namespace PredicateLang

/-- Why the arguments of a command line make no sense. -/
inductive UsageError where
  | missingCommand
  | unknownCommand (word : String)
  | missingSource
  | unexpected (argument : String)
  | missingValue (option : String)
  | unwantedValue (option : String)
  | repeated (option : String)
  | unknownDialect (explanation : String)
deriving DecidableEq, Repr

/-- The explanation of the error. -/
def UsageError.message : UsageError → String
  | missingCommand => "a command is required"
  | unknownCommand word => "unrecognized subcommand '" ++ word ++ "'"
  | missingSource => "the text of a predicate is required"
  | unexpected argument => "unexpected argument '" ++ argument ++ "' found"
  | missingValue option => "a value is required for '" ++ option ++ "' but none was supplied"
  | unwantedValue option => "no value is wanted for '" ++ option ++ "'"
  | repeated option => "the argument '" ++ option ++ "' cannot be used multiple times"
  | unknownDialect explanation => explanation

/-- What an option sets. -/
inductive Setting where
  | input | argument | dialect
  | expression | caseInsensitiveCollation | filter | syntaxOnly | format | pretty
deriving DecidableEq, Repr

namespace Setting

/-- The word for an option. -/
def word : Setting → String
  | input => "input"
  | argument => "arg"
  | dialect => "dialect"
  | expression => "expr"
  | caseInsensitiveCollation => "case-insensitive-collation"
  | filter => "filter"
  | syntaxOnly => "syntax-only"
  | format => "format"
  | pretty => "pretty"

/-- The letter for an option, if it has one. -/
def letter? : Setting → Option Char
  | input => some 'i'
  | argument => some 'a'
  | dialect => some 'd'
  | pretty => some 'p'
  | _ => none

/-- Has the option a value? -/
def hasValue : Setting → Bool
  | input | argument | dialect => true
  | _ => false

/-- All options. -/
def all : List Setting :=
  [input, argument, dialect, expression, caseInsensitiveCollation, filter, syntaxOnly, format,
    pretty]

/-- The option as messages show it. -/
def text (s : Setting) : String := "--" ++ s.word

/-- The option with a word. -/
def ofWord? (word : List Char) : Option Setting := all.find? fun s => s.word.toList = word

/-- The option with a letter. -/
def ofLetter? (letter : Char) : Option Setting := all.find? fun s => s.letter? = some letter

end Setting

/-- A check that is asked for on a command line. -/
structure CommandLine where
  check : Check
  /-- Is a document to be written over several lines? -/
  pretty : Bool

namespace CommandLine

/-! ## Arguments -/

/-- What an argument says: a text that is no option, or an option with its value. -/
inductive Item where
  | text (s : String)
  | option (s : Setting) (value : String)

/-- May the argument be the value of the option before it? -/
def isValue (argument : String) : Bool :=
  argument = "-" || argument.toList.head? ≠ some '-'

/-- An option whose value is in the same argument, if `inside` is one, or else in the next one. -/
def withValue (s : Setting) (inside : Option (List Char)) (rest : List String) :
    Except UsageError (Item × List String) :=
  match inside, rest with
  | some value, rest => .ok (.option s (String.ofList value), rest)
  | none, value :: rest =>
    if isValue value then .ok (.option s value, rest) else .error (.missingValue s.text)
  | none, [] => .error (.missingValue s.text)

/-- Reads an option that is named by a word, and what follows the word in the argument. -/
def readWord (argument : List Char) (rest : List String) :
    Except UsageError (List Item × List String) :=
  let word := argument.takeWhile (· ≠ '=')
  let inside :=
    if word.length < argument.length then some (argument.drop (word.length + 1)) else none
  match Setting.ofWord? word with
  | none => .error (.unexpected ("--" ++ String.ofList argument))
  | some s =>
    if s.hasValue then (withValue s inside rest).map fun (item, rest) => ([item], rest)
    else if inside.isSome then .error (.unwantedValue s.text)
    else .ok ([.option s ""], rest)

/-- Reads options that are named by letters. -/
def readLetters (rest : List String) : List Char → Except UsageError (List Item × List String)
  | [] => .ok ([], rest)
  | letter :: more =>
    match Setting.ofLetter? letter with
    | none => .error (.unexpected (String.ofList ['-', letter]))
    | some s =>
      if s.hasValue then
        let inside :=
          match more with
          | [] => none
          | '=' :: value => some value
          | value => some value
        (withValue s inside rest).map fun (item, rest) => ([item], rest)
      else (readLetters rest more).map fun (items, rest) => (.option s "" :: items, rest)

/-- Reads an argument, and the next one if it is its value. -/
def readArgument (argument : String) (rest : List String) :
    Except UsageError (List Item × List String) :=
  match argument.toList with
  | ['-', '-'] => .ok (rest.map .text, [])
  | '-' :: '-' :: word => readWord word rest
  | '-' :: letter :: letters => readLetters rest (letter :: letters)
  | _ => .ok ([.text argument], rest)

/-- Reads arguments. Every step takes one at least, so `fuel` need not be more than their number. -/
def readArguments : (fuel : Nat) → List String → Except UsageError (List Item)
  | _, [] => .ok []
  | 0, _ :: _ => .ok []
  | fuel + 1, argument :: rest => do
    let (items, rest) ← readArgument argument rest
    return items ++ (← readArguments fuel rest)

/-! ## What the arguments ask for -/

/-- The values of an option, in order. -/
def valuesOf (items : List Item) (s : Setting) : List String :=
  items.filterMap fun
    | .option t value => if s = t then some value else none
    | .text _ => none

/-- The texts that are no options, in order. -/
def textsOf (items : List Item) : List String :=
  items.filterMap fun
    | .option .. => none
    | .text s => some s

/-- The value of an option that may be given once. -/
def valueOf? (items : List Item) (s : Setting) : Except UsageError (Option String) :=
  match valuesOf items s with
  | [] => .ok none
  | [value] => .ok (some value)
  | _ => .error (.repeated s.text)

/-- Is an option given that may be given once? -/
def isSet (items : List Item) (s : Setting) : Except UsageError Bool :=
  (valueOf? items s).map Option.isSome

/-- The check that the arguments of the command ask for. -/
def ofItems (items : List Item) : Except UsageError CommandLine := do
  let source ←
    match textsOf items with
    | [] => .error .missingSource
    | [source] => .ok source
    | _ :: second :: _ => .error (.unexpected second)
  let dialect ← (Dialect.ofName ((← valueOf? items .dialect).getD "objects")).mapError
    .unknownDialect
  let check : Check := {
    source
    input := ← valueOf? items .input
    arguments := valuesOf items .argument
    isExpression := ← isSet items .expression
    dialect
    caseInsensitiveCollation := ← isSet items .caseInsensitiveCollation
    syntaxOnly := ← isSet items .syntaxOnly
    withFormat := ← isSet items .format
    filters := ← isSet items .filter }
  return ⟨check, ← isSet items .pretty⟩

/-- What a command line asks for. -/
def ofArguments : List String → Except UsageError CommandLine
  | [] => .error .missingCommand
  | "check" :: rest => do ofItems (← readArguments rest.length rest)
  | word :: _ => .error (.unknownCommand word)

/-! ## Input and output -/

/-- Is the object to be read from the standard input, if there is one? -/
def readsInput (command : CommandLine) : Bool :=
  command.check.input.isNone && !command.check.syntaxOnly && command.check.dialect = .objects

/-- The check for an object that has been read. -/
def withInput (command : CommandLine) (document : String) : Check :=
  { command.check with input := some document }

/-- What is found, as it is written. -/
def findingText (command : CommandLine) : Finding → String
  | .valid => "Syntax is valid"
  | .value document => if command.pretty then document.prettyText else document.text
  | .sql text => text

/-- The lines of an outcome. -/
def lines (command : CommandLine) (outcome : CheckOutcome) : List String :=
  outcome.format.toList ++ [command.findingText outcome.finding]

end CommandLine

end PredicateLang
