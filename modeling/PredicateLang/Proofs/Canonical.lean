import PredicateLang.Expr.Parser
import PredicateLang.Expr.Text
import PredicateLang.Proofs.Lexing

/-!
# Trees that canonical text can express

Not every tree has a text that is read as that tree: a constant may have no literal, a name may not
be one for the lexer, and a few constructs that stand side by side are read together. A tree is
canonical if none of this happens anywhere in it. Each condition is one without which some text
would be read as another tree, or not at all.
-/

namespace PredicateLang

open PredicateLang.Text

namespace Value

/-- Is the value a constant that its literal is read as? Of the numbers these are the finite
doubles, and the integers of the kinds that literals are given. -/
def isLiteral : Value → Bool
  | .null | .boolean _ | .string _ => true
  | .double x =>
    match Number.Binary.ofFloat x with
    | .finite .. => true
    | _ => false
  | .integer n =>
    match n.kind with
    | .int => true
    | .long => n.val < IntegerKind.int.least || IntegerKind.int.greatest < n.val
    | .ulong => IntegerKind.long.greatest < n.val
    | _ => false
  | _ => false

/-- Does the literal begin with a minus sign, which binds less than what may follow? -/
def isSigned (value : Value) : Bool := value.literal.toList.head? = some '-'

end Value

namespace Expr

/-- Is the expression a constant that is written with a minus sign? -/
def isSigned : Expr → Bool
  | .constant value => value.isSigned
  | _ => false

/-- Is the expression navigation along a key path, to which further segments would be added? -/
def isPath : Expr → Bool
  | .path _ | .pathOn .. => true
  | _ => false

/-- Is the segment read as a segment of that name? `SELF` is one only behind a point. -/
def isSegment (behindPoint : Bool) (segment : String) : Bool :=
  match segment.toList with
  | '@' :: name => !name.isEmpty && name.all Lexing.isNameChar
  | _ =>
    Lexing.isName segment
      && (Token.ofKeyword? segment ≠ some .self || behindPoint && segment = "SELF")

/-- Are the segments of a key path read as such? -/
def isKeyPath (behindPoint : Bool) (path : String) : Bool :=
  match split '.' path with
  | [] => false
  | first :: others => isSegment behindPoint first && others.all (isSegment true)

/-- Does a text begin with a word for a place, so that an opening bracket in front would take the
word for that place? -/
def namesPlace (text : String) : Bool :=
  (IndexSymbol.ofWord? (Lexing.nameOf text.toList)).isSome

/-- Is the name that of a function without arguments, as a call by name gives it? -/
def isFunctionName (name : String) : Bool :=
  Lexing.isName name && (Token.ofKeyword? name).isNone && lower name = name

/-- Is the expression the name of a place? -/
def isSymbol : Expr → Bool
  | .symbol _ => true
  | _ => false

/-- Is the expression a string that can be a selector in the form `FUNCTION`? -/
def isSelector (e : Expr) : Bool := (selector? false e).isSome

/-- Is the selector that of indexing, in any letter case? -/
def isIndexSelector (selector : String) : Bool := equalIgnoringCase selector indexSelector

/-- Is a call with the selector read from its text, if the arguments are? The name of a place is an
argument of indexing only. -/
def isCall (selector : String) (args : List Expr) : Bool :=
  match args with
  | [] => isFunctionName selector
  | [left, right] =>
    if (infixSign? selector).isSome then !left.isSymbol && !right.isSymbol
    else if isIndexSelector selector then
      selector = indexSelector && !left.isSymbol && !left.isSigned
        && (right.isSymbol || !namesPlace right.text)
    else
      selector.toList.contains ':' && !left.isSymbol && !right.isSymbol
        && !(selector.toList.count ':' = 1 && left.isSelector)
  | args => selector.toList.contains ':' && args.all (!·.isSymbol)

end Expr

mutual

/-- Is the expression read from its canonical text? -/
def Expr.isCanonical : Expr → Bool
  | .constant value => value.isLiteral
  | .self => true
  | .var name => Lexing.isName name
  | .path path => Expr.isKeyPath false path
  | .pathOn operand path =>
    operand.isCanonical && !operand.isPath && !operand.isSigned && Expr.isKeyPath true path
  | .call selector args => Expr.isCall selector args && Expr.areCanonical args
  | .subquery collection var predicate =>
    collection.isCanonical && Lexing.isName var && predicate.isCanonical
  | .list items => items.all (!·.isSymbol) && Expr.areCanonical items
  | .symbol _ => false
  | .assign var value => Lexing.isName var && value.isCanonical

/-- Is each of the expressions the name of a place or read from its canonical text? -/
def Expr.areCanonical : List Expr → Bool
  | [] => true
  | e :: rest => (e.isSymbol || e.isCanonical) && Expr.areCanonical rest

/-- Is the predicate read from its canonical text? -/
def Predicate.isCanonical : Predicate → Bool
  | .constant _ => true
  | .comparison left _ right _ _ => left.isCanonical && right.isCanonical
  | .compound .not parts => parts.length = 1 && Predicate.areCanonical parts
  | .compound _ parts => 2 ≤ parts.length && Predicate.areCanonical parts

/-- Is each of the predicates read from its canonical text? -/
def Predicate.areCanonical : List Predicate → Bool
  | [] => true
  | p :: rest => p.isCanonical && Predicate.areCanonical rest

end

theorem Expr.areCanonical_iff {es : List Expr} :
    Expr.areCanonical es ↔ ∀ e ∈ es, e.isSymbol ∨ e.isCanonical := by
  induction es with
  | nil => simp [Expr.areCanonical]
  | cons e es ih => simp [Expr.areCanonical, ih]

theorem Predicate.areCanonical_iff {ps : List Predicate} :
    Predicate.areCanonical ps ↔ ∀ p ∈ ps, p.isCanonical := by
  induction ps with
  | nil => simp [Predicate.areCanonical]
  | cons p ps ih => simp [Predicate.areCanonical, ih]

end PredicateLang
