import PredicateLang.Expr.Text
import PredicateLang.Text.Quoted
import PredicateLang.Token.Lexer

/-!
# Syntax errors

Why a text is not a predicate or an expression, with the position that the error is reported at.
-/

namespace PredicateLang

namespace Token

/-- The token as messages show it: the name of its sort, followed by what it holds in parentheses. -/
def text (t : Token) : String :=
  match payload t with
  | some p => t.name ++ "(" ++ p ++ ")"
  | Option.none => t.name
where
  /-- What the token holds. -/
  payload : Token → Option String
    | integer n => some (Text.integerText n)
    | double x => some (Number.Format.diagnostic.text (.ofFloat x))
    | string s => some (Text.quoted s)
    | boolean b => some (if b then "true" else "false")
    | predicateConstant b => some (if b then "true" else "false")
    | identifier n | atIdentifier n | var n => some (Text.quoted n)
    | placeholder c => some (String.ofList ['\x27', c, '\x27'])
    | _ => Option.none

end Token

/-- Why a text cannot be parsed, or a tree not be built. -/
inductive SyntaxFault where
  | lexical (fault : LexicalFault)
  /-- Another token was wanted. -/
  | unexpected (wanted : String) (got : Token)
  | argumentCount (placeholders arguments : Nat)
  /-- A placeholder is at none of the positions where placeholders were counted. -/
  | uncountedPlaceholder
  | missingArgument
  | argumentMismatch (number : Nat) (conversion : Char) (wanted : String) (got : String)
  | unsupportedConversion (conversion : Char)
  | missingOperand
  | missingPredicate
  | expressionWanted
  | predicateWanted (got : Expr)
  | leftOver (operands : Nat)
  | pathWanted (left right : Expr)
  | notAssignable (target : Expr)
  | comparisonWanted (got : Expr)
  | missingSelector
  | selectorWanted
  | singleComparisonWanted

namespace SyntaxFault

/-- The explanation of the fault. -/
def message : SyntaxFault → String
  | lexical fault => fault.message
  | unexpected wanted got => "expected " ++ wanted ++ ", got " ++ got.text
  | argumentCount placeholders arguments =>
    "format has " ++ toString placeholders ++ " placeholder(s) but " ++ toString arguments
      ++ " argument(s) were supplied"
  | uncountedPlaceholder => "placeholder was not found by the argument scan"
  | missingArgument => "missing positional argument"
  | argumentMismatch number conversion wanted got =>
    "argument " ++ toString number ++ " for %" ++ conversion.toString ++ " must be " ++ wanted
      ++ ", got " ++ got
  | unsupportedConversion conversion => "unsupported format specifier %" ++ conversion.toString
  | missingOperand => "missing operand"
  | missingPredicate => "missing predicate"
  | expressionWanted => "expected an expression, found a predicate"
  | predicateWanted got => "expected a predicate, found expression " ++ got.text
  | leftOver operands => toString operands ++ " operand(s) left over after building"
  | pathWanted left right =>
    "expression to the right of '.' must be a key path (instead saw " ++ left.text ++ " '.' "
      ++ right.text ++ ")"
  | notAssignable target => "cannot assign to " ++ target.text
  | comparisonWanted got => "expected a comparison after " ++ got.text
  | missingSelector => "FUNCTION requires a selector"
  | selectorWanted => "FUNCTION expects a selector string as its first or second argument"
  | singleComparisonWanted => "ANY, ALL and NONE must be followed by a single comparison"

end SyntaxFault

/-- A fault and the position it is reported at, in characters from the beginning of the text. -/
structure SyntaxError where
  position : Nat
  fault : SyntaxFault

/-- The explanation of the error with its position. -/
def SyntaxError.message (e : SyntaxError) : String :=
  "Syntax error at position " ++ toString e.position ++ ": " ++ e.fault.message

/-- A fault in cutting a text into tokens is a syntax error. -/
def SyntaxError.ofLexical (e : LexicalError) : SyntaxError := ⟨e.position, .lexical e.fault⟩

end PredicateLang
