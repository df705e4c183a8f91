import PredicateLang.Operator
import PredicateLang.Value

/-!
# Expressions and predicates

The two trees of the language, which contain each other: expressions stand for values and
predicates for truth. They are built by parsing or directly, written in canonical text, changed
by visitors, and lowered for evaluation.
-/

namespace PredicateLang

/-- How a compound predicate joins its parts. -/
inductive Connective where
  | and | or
  /-- Negation, which makes sense of one part only. -/
  | not
deriving DecidableEq, Repr

mutual

/-- A tree that stands for a value. -/
inductive Expr where
  | constant (value : Value)
  /-- The object that the predicate is about. -/
  | self
  /-- A variable, named without its dollar sign. -/
  | var (name : String)
  /-- Navigation from the object along segments that are separated by points. -/
  | path (path : String)
  /-- Navigation from the value of an expression. -/
  | pathOn (operand : Expr) (path : String)
  /-- A builtin function, named by its selector, applied to arguments. -/
  | call (selector : String) (args : List Expr)
  /-- The items of a collection for which a predicate on the variable holds. -/
  | subquery (collection : Expr) (var : String) (predicate : Predicate)
  /-- A list of the values of expressions. -/
  | list (items : List Expr)
  /-- A place in the collection that is being indexed. -/
  | symbol (symbol : IndexSymbol)
  /-- The value of an expression, which a variable keeps. -/
  | assign (var : String) (value : Expr)

/-- A tree that stands for truth. -/
inductive Predicate where
  | constant (value : Bool)
  | comparison (left : Expr) (operator : Operator) (right : Expr) (modifier : Modifier)
      (options : Options)
  | compound (connective : Connective) (parts : List Predicate)

end

namespace Expr

/-- A name without one dollar sign in front. -/
def withoutDollar (name : String) : String :=
  match name.toList with
  | '$' :: rest => String.ofList rest
  | _ => name

/-- The selector of indexing. -/
def indexSelector : String := "objectFrom:withIndex:"

/-- An item of a collection. -/
def index (collection position : Expr) : Expr := .call indexSelector [collection, position]

end Expr

end PredicateLang
