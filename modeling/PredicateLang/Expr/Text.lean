import PredicateLang.Expr
import PredicateLang.Token
import PredicateLang.Value.Literal

/-!
# Canonical text

The text of a tree is written so that parsing gives an equal tree wherever the language can express
one. Comparisons, compounds and arithmetic are always in parentheses, an assignment inside another
expression is too, and a segment of a key path that would be read as a keyword is marked with `#`.
-/

namespace PredicateLang

open PredicateLang.Text

namespace Expr

/-- A segment of a key path; one that would be read as a keyword is marked. -/
def segmentText (segment : String) : String :=
  match Token.ofKeyword? segment with
  | some .self | none => segment
  | some _ => "#" ++ segment

/-- A key path. -/
def pathText (path : String) : String := join "." ((split '.' path).map segmentText)

/-- The sign between the operands of a builtin function, if it has one. -/
def infixSign? (selector : String) : Option String :=
  match selector with
  | "add:to:" => some "+"
  | "from:subtract:" => some "-"
  | "multiply:by:" => some "*"
  | "divide:by:" => some "/"
  | "raise:toPower:" => some "**"
  | _ => none

/-- An application written as the form `FUNCTION`, with the receiver before a selector that takes
one argument more. -/
def functionFormText (selector : String) (args : List String) : String :=
  match args with
  | [] => selector ++ "()"
  | [receiver, argument] =>
    if selector.toList.count ':' = 1 then
      "FUNCTION(" ++ receiver ++ ", " ++ Value.quote selector ++ ", " ++ argument ++ ")"
    else "FUNCTION(" ++ Value.quote selector ++ ", " ++ join ", " args ++ ")"
  | args => "FUNCTION(" ++ Value.quote selector ++ ", " ++ join ", " args ++ ")"

/-- An application of a builtin function to written arguments. -/
def callText (selector : String) (args : List String) : String :=
  match args with
  | [left, right] =>
    match infixSign? selector with
    | some sign => "(" ++ left ++ " " ++ sign ++ " " ++ right ++ ")"
    | none =>
      if equalIgnoringCase selector indexSelector then left ++ "[" ++ right ++ "]"
      else functionFormText selector args
  | args => functionFormText selector args

/-- The text of an expression as part of another: an assignment is put in parentheses, so that it
does not take in what follows. -/
def enclose : Expr → String → String
  | .assign .., text => "(" ++ text ++ ")"
  | _, text => text

end Expr

namespace Predicate

/-- The word in front of a quantified comparison. -/
def modifierText : Modifier → String
  | .direct => ""
  | .any => "ANY "
  | .all => "ALL "

/-- The options in brackets, if there are any. -/
def optionsText (o : Options) : String := if o.isEmpty then "" else "[" ++ o.flags ++ "]"

/-- May the text of the predicate follow `NOT` without parentheses? -/
def followsNot : Predicate → Bool
  | .comparison .. => true
  | .compound connective _ => connective ≠ .not
  | .constant _ => false

/-- Written predicates with a word between each two, in parentheses; a single one stands alone. -/
def compoundText (separator : String) (parts : List String) : String :=
  match parts with
  | [] => "FALSEPREDICATE"
  | [part] => part
  | parts => "(" ++ join separator parts ++ ")"

end Predicate

mutual

/-- The canonical text of an expression. -/
def Expr.text : Expr → String
  | .constant value => value.literal
  | .self => "SELF"
  | .var name => "$" ++ name
  | .path path => Expr.pathText path
  | .pathOn operand path => Expr.enclose operand (Expr.text operand) ++ "." ++ Expr.pathText path
  | .call selector args => Expr.callText selector (Expr.operandTexts args)
  | .subquery collection var predicate =>
    "SUBQUERY(" ++ Expr.enclose collection (Expr.text collection) ++ ", $" ++ var ++ ", "
      ++ Predicate.text predicate ++ ")"
  | .list items => Value.listText (Expr.operandTexts items)
  | .symbol symbol => symbol.word
  | .assign var value => "$" ++ var ++ " := " ++ Expr.enclose value (Expr.text value)

/-- The texts of expressions that are parts of another. -/
def Expr.operandTexts : List Expr → List String
  | [] => []
  | e :: rest => Expr.enclose e (Expr.text e) :: Expr.operandTexts rest

/-- The canonical text of a predicate. -/
def Predicate.text : Predicate → String
  | .constant value => if value then "TRUEPREDICATE" else "FALSEPREDICATE"
  | .comparison left operator right modifier options =>
    "(" ++ Predicate.modifierText modifier ++ Expr.enclose left (Expr.text left) ++ " "
      ++ operator.symbol ++ Predicate.optionsText options ++ " "
      ++ Expr.enclose right (Expr.text right) ++ ")"
  | .compound .not [] => "NOT (FALSEPREDICATE)"
  | .compound .not (part :: _) =>
    if part.followsNot then "NOT " ++ Predicate.text part
    else "NOT (" ++ Predicate.text part ++ ")"
  | .compound .and parts => Predicate.compoundText " AND " (Predicate.texts parts)
  | .compound .or parts => Predicate.compoundText " OR " (Predicate.texts parts)

/-- The canonical texts of predicates. -/
def Predicate.texts : List Predicate → List String
  | [] => []
  | p :: rest => Predicate.text p :: Predicate.texts rest

end

end PredicateLang
