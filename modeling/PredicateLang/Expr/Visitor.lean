import PredicateLang.Expr.Text
import PredicateLang.Text.LetterCase

/-!
# Visiting trees

A visitor is called once for every node of a tree, for a node before its children and for children
from left to right. It carries a state along and may put another node in the place of the one that
it is called with; what is visited next are the children of the new node. A visitor may not make a
node bigger, so that every visit ends.

Three visitors come with the language: `pascalCase` capitalizes property names, `guidConstants`
turns strings that are GUIDs into GUIDs, and `trace` lists the nodes that it is called with.
-/

namespace PredicateLang

open PredicateLang.Text

/-! ## Size -/

mutual

/-- The number of nodes of an expression. -/
def Expr.size : Expr → Nat
  | .constant _ | .self | .var _ | .path _ | .symbol _ => 1
  | .pathOn operand _ => operand.size + 1
  | .call _ args => Expr.sizeAll args + 1
  | .subquery collection _ predicate => collection.size + predicate.size + 1
  | .list items => Expr.sizeAll items + 1
  | .assign _ value => value.size + 1

/-- The number of nodes of expressions. -/
def Expr.sizeAll : List Expr → Nat
  | [] => 0
  | e :: rest => e.size + Expr.sizeAll rest

/-- The number of nodes of a predicate. -/
def Predicate.size : Predicate → Nat
  | .constant _ => 1
  | .comparison left _ right _ _ => left.size + right.size + 1
  | .compound _ parts => Predicate.sizeAll parts + 1

/-- The number of nodes of predicates. -/
def Predicate.sizeAll : List Predicate → Nat
  | [] => 0
  | p :: rest => p.size + Predicate.sizeAll rest

end

theorem Expr.size_pos (e : Expr) : 0 < e.size := by cases e <;> simp [Expr.size]

theorem Predicate.size_pos (p : Predicate) : 0 < p.size := by cases p <;> simp [Predicate.size]

/-! ## Visitors -/

/-- What happens at the nodes of a tree. -/
structure Visitor (σ : Type) where
  expr : Expr → StateM σ Expr
  predicate : Predicate → StateM σ Predicate
  size_expr : ∀ e s, (expr e s).1.size ≤ e.size
  size_predicate : ∀ p s, (predicate p s).1.size ≤ p.size

namespace Visitor

variable {σ : Type} (v : Visitor σ)

mutual

/-- Visits an expression. -/
def visitExpr (e : Expr) (s : σ) : Expr × σ :=
  have _le := v.size_expr e s
  match _h : v.expr e s with
  | (.pathOn operand path, s) =>
    let (operand, s) := visitExpr operand s
    (.pathOn operand path, s)
  | (.call selector args, s) =>
    let (args, s) := visitExprs args s
    (.call selector args, s)
  | (.subquery collection var predicate, s) =>
    let (collection, s) := visitExpr collection s
    let (predicate, s) := visitPredicate predicate s
    (.subquery collection var predicate, s)
  | (.list items, s) =>
    let (items, s) := visitExprs items s
    (.list items, s)
  | (.assign var value, s) =>
    let (value, s) := visitExpr value s
    (.assign var value, s)
  | (.constant value, s) => (.constant value, s)
  | (.self, s) => (.self, s)
  | (.var name, s) => (.var name, s)
  | (.path segments, s) => (.path segments, s)
  | (.symbol symbol, s) => (.symbol symbol, s)
termination_by 2 * e.size
decreasing_by all_goals (rw [_h] at _le; simp only [Expr.size] at _le; omega)

/-- Visits expressions in order. -/
def visitExprs (es : List Expr) (s : σ) : List Expr × σ :=
  match es with
  | [] => ([], s)
  | e :: rest =>
    let (first, s) := visitExpr e s
    let (rest, s) := visitExprs rest s
    (first :: rest, s)
termination_by 2 * Expr.sizeAll es + 1
decreasing_by all_goals (simp only [Expr.sizeAll]; have := e.size_pos; omega)

/-- Visits a predicate. -/
def visitPredicate (p : Predicate) (s : σ) : Predicate × σ :=
  have _le := v.size_predicate p s
  match _h : v.predicate p s with
  | (.constant value, s) => (.constant value, s)
  | (.comparison left operator right modifier options, s) =>
    let (left, s) := visitExpr left s
    let (right, s) := visitExpr right s
    (.comparison left operator right modifier options, s)
  | (.compound connective parts, s) =>
    let (parts, s) := visitPredicates parts s
    (.compound connective parts, s)
termination_by 2 * p.size
decreasing_by all_goals (rw [_h] at _le; simp only [Predicate.size] at _le; omega)

/-- Visits predicates in order. -/
def visitPredicates (ps : List Predicate) (s : σ) : List Predicate × σ :=
  match ps with
  | [] => ([], s)
  | p :: rest =>
    let (first, s) := visitPredicate p s
    let (rest, s) := visitPredicates rest s
    (first :: rest, s)
termination_by 2 * Predicate.sizeAll ps + 1
decreasing_by all_goals (simp only [Predicate.sizeAll]; have := p.size_pos; omega)

end

/-! ## The visitors of the language -/

/-- Does nothing at any node. -/
def idle : Visitor Unit where
  expr := pure
  predicate := pure
  size_expr _ _ := Nat.le_refl _
  size_predicate _ _ := Nat.le_refl _

end Visitor

/-- A segment of a key path with its first character in capitals; operators and the word for the
object itself stay as they are. -/
def Expr.capitalizeSegment (segment : String) : String :=
  if segment.startsWith "@" ∨ equalIgnoringCase segment "self" then segment
  else capitalize segment

/-- A key path with its segments capitalized. -/
def Expr.capitalizePath (path : String) : String :=
  join "." ((split '.' path).map Expr.capitalizeSegment)

/-- The node with its key path, if it has one, capitalized. -/
def Expr.capitalizeNode : Expr → Expr
  | .path segments => .path (Expr.capitalizePath segments)
  | .pathOn operand segments => .pathOn operand (Expr.capitalizePath segments)
  | e => e

/-- The GUID that a string constant stands for, if the node is one. Its text has to be hyphenated,
and may be in braces. -/
def Expr.guidConstant? : Expr → Option Guid
  | .constant (.string text) =>
    if Guid.isHyphenatedText text.toList then Guid.ofText? text.toList else none
  | _ => none

namespace Visitor

/-- Capitalizes the segments of key paths. -/
def pascalCase : Visitor Unit where
  expr e := pure e.capitalizeNode
  predicate := pure
  size_expr e _ := by cases e <;> exact Nat.le_refl _
  size_predicate _ _ := Nat.le_refl _

/-- Turns string constants that are GUIDs into GUIDs, and counts them. -/
def guidConstants : Visitor Nat where
  expr e count :=
    match e.guidConstant? with
    | some guid => (.constant (.guid guid), count + 1)
    | none => (e, count)
  predicate := pure
  size_expr e count := by
    split
    · exact e.size_pos
    · exact Nat.le_refl _
  size_predicate _ _ := Nat.le_refl _

/-- Lists the canonical texts of the nodes, marked as expressions or predicates. -/
def trace : Visitor (List String) where
  expr e texts := (e, texts ++ ["E " ++ e.text])
  predicate p texts := (p, texts ++ ["P " ++ p.text])
  size_expr _ _ := Nat.le_refl _
  size_predicate _ _ := Nat.le_refl _

end Visitor

end PredicateLang
