import PredicateLang.Number.Format

/-!
# Tokens

The tokens of the language. Keywords are recognized in any letter case.
-/

namespace PredicateLang

/-- A token. -/
inductive Token where
  /-- An integer without a sign, of at most 64 bits. -/
  | integer (n : Nat)
  /-- A number with a fraction or an exponent. -/
  | double (x : Float)
  | string (s : String)
  | boolean (b : Bool)
  | nil
  | predicateConstant (b : Bool)
  | identifier (name : String)
  /-- A segment of a key path that names an operator, without its sign. -/
  | atIdentifier (name : String)
  /-- A variable without its dollar sign. -/
  | var (name : String)
  | self
  /-- A placeholder for an argument, with the letter of its conversion. -/
  | placeholder (conversion : Char)
  | and | or | not | any | all | none | member | contains | beginsWith | endsWith | like | isMatch
  | between | subquery | function
  | equal | notEqual | less | lessEqual | greater | greaterEqual
  | plus | minus | star | slash | starStar | assign
  | openParen | closeParen | openBracket | closeBracket | openBrace | closeBrace | comma | dot
  | eof
deriving DecidableEq

namespace Token

/-- The token that a word is, if it is a keyword. -/
def ofKeyword? (word : String) : Option Token :=
  match String.ofList (word.toList.map Char.toUpper) with
  | "AND" => some .and
  | "OR" => some .or
  | "NOT" => some .not
  | "ANY" | "SOME" => some .any
  | "ALL" => some .all
  | "NONE" => some .none
  | "IN" => some .member
  | "CONTAINS" => some .contains
  | "BEGINSWITH" => some .beginsWith
  | "ENDSWITH" => some .endsWith
  | "LIKE" => some .like
  | "MATCHES" => some .isMatch
  | "BETWEEN" => some .between
  | "SUBQUERY" => some .subquery
  | "FUNCTION" => some .function
  | "SELF" => some .self
  | "TRUE" | "YES" => some (.boolean true)
  | "FALSE" | "NO" => some (.boolean false)
  | "NIL" | "NULL" => some .nil
  | "TRUEPREDICATE" => some (.predicateConstant true)
  | "FALSEPREDICATE" => some (.predicateConstant false)
  | _ => Option.none

/-- The name of the sort of token in messages. -/
def name : Token → String
  | integer _ => "Integer"
  | double _ => "Double"
  | string _ => "String"
  | boolean _ => "Boolean"
  | nil => "Nil"
  | predicateConstant _ => "PredicateConstant"
  | identifier _ => "Identifier"
  | atIdentifier _ => "AtIdentifier"
  | var _ => "Variable"
  | self => "SelfKw"
  | placeholder _ => "Format"
  | and => "And"
  | or => "Or"
  | not => "Not"
  | any => "Any"
  | all => "All"
  | none => "None"
  | member => "In"
  | contains => "Contains"
  | beginsWith => "BeginsWith"
  | endsWith => "EndsWith"
  | like => "Like"
  | isMatch => "Matches"
  | between => "Between"
  | subquery => "Subquery"
  | function => "Function"
  | equal => "EqEq"
  | notEqual => "NotEq"
  | less => "Lt"
  | lessEqual => "LtEq"
  | greater => "Gt"
  | greaterEqual => "GtEq"
  | plus => "Plus"
  | minus => "Minus"
  | star => "Star"
  | slash => "Slash"
  | starStar => "StarStar"
  | assign => "ColonEqual"
  | openParen => "LParen"
  | closeParen => "RParen"
  | openBracket => "LBracket"
  | closeBracket => "RBracket"
  | openBrace => "LBrace"
  | closeBrace => "RBrace"
  | comma => "Comma"
  | dot => "Dot"
  | eof => "Eof"

end Token

end PredicateLang
