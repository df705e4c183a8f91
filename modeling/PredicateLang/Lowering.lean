import PredicateLang.Lowering.Call
import PredicateLang.Lowering.Comparison

/-!
# Lowering

`Expr.lower` and `Predicate.lower` turn trees into lowered ones, from left to right. An assignment
brings its variable into scope for what follows it; everything that a subquery brings into scope
goes out of scope with it.

`Expr.target` and `Predicate.target` lower a whole tree for an object of a kind.
-/

namespace PredicateLang

namespace Lowering

/-- The tree of the object. -/
def object : Lowering Target := do
  match ← binding? Scope.objectName with
  | some target => return target
  | none => throw (.unboundVariable Scope.objectName)

/-- The tree that a variable stands for. -/
def reference (name : String) : Lowering Target := do
  match ← binding? (Scope.variableKey name) with
  | some target => return target
  | none => throw (.unboundVariable name)

/-- An assignment of a lowered value; the variable is in scope after it. -/
def assign (name : String) (value : Target) : Lowering Target := do
  let key := Scope.variableKey name
  bind key (.parameter value.kind key)
  return .assign value.kind key value

/-! ## Lists -/

/-- The kind that all of the kinds can be brought to: the one that they share, or the most precise of
those that can be cast to one another, or any. Nulls do not count. `common` is that of the kinds
before. -/
def commonKind (common : Option Kind) : List Kind → Kind
  | [] => common.getD .any
  | kind :: rest =>
    if kind = .null then commonKind common rest
    else
      match common with
      | none => commonKind (some kind) rest
      | some current =>
        if current = kind then commonKind common rest
        else
          match current.rank?, kind.rank? with
          | some a, some b => commonKind (some (if a ≥ b then current else kind)) rest
          | _, _ => .any

/-- A list of lowered items, cast to their common kind. -/
def list (items : List Target) : Lowering Target := do
  let element := commonKind none (items.map Target.kind)
  let items ← if element.isCastable then ofResult (items.mapM (·.cast element)) else pure items
  return .list (.sequence element) items

/-! ## Functions -/

/-- The builtin function with a selector, if it takes that many arguments. -/
def function (selector : String) (arity : Nat) : Lowering BuiltinFunction := do
  match BuiltinFunction.ofSelector? selector with
  | none => throw (.unknownFunction selector)
  | some f =>
    if f.arity = arity then return f else typeFault (.arity f.selector f.arity arity)

/-- A builtin function of lowered arguments. -/
def call (f : BuiltinFunction) (args : List Target) : Lowering Target :=
  match call? f args with
  | some lowering => lowering
  | none => typeFault (.arity f.selector f.arity args.length)

/-! ## Subqueries -/

/-- The items of a lowered collection for which a predicate on the variable holds. -/
def filter (source : Target) (name : String) (predicate : Lowering Target) : Lowering Target := do
  let element ← elementOf "SUBQUERY" .collection source
  let key := Scope.variableKey name
  bind key (.parameter element key)
  let predicate ← predicate
  guarded source fun guardedSource => return .filter source.kind guardedSource key predicate

end Lowering

open Lowering

mutual

/-- The lowered form of an expression. -/
def Expr.lower : Expr → Lowering Target
  | .constant value => return .ofValue value
  | .self => object
  | .var name => reference name
  | .path path => do keyPath (← object) path
  | .pathOn operand path => do keyPath (← Expr.lower operand) path
  | .call selector args => do
    let f ← function selector args.length
    if f.meaning = .index then Expr.lowerIndex args else call f (← Expr.lowerAll args)
  | .subquery collection var predicate =>
    enclosed do filter (← Expr.lower collection) var (Predicate.lower predicate)
  | .list items => do list (← Expr.lowerAll items)
  | .symbol symbol => typeFault (.misplacedSymbol symbol)
  | .assign var value => do assign var (← Expr.lower value)

/-- The lowered form of indexing. A name of a place makes sense with the collection only. -/
def Expr.lowerIndex : List Expr → Lowering Target
  | [collection, .symbol symbol] => do
    let source ← Expr.lower collection
    indexBySymbol source (← elementOf Expr.indexSelector .collection source) symbol
  | [collection, place] => do
    let source ← Expr.lower collection
    let element ← elementOf Expr.indexSelector .collection source
    indexBy source element (← Expr.lower place)
  | args => typeFault (.arity Expr.indexSelector 2 args.length)

/-- The lowered forms of expressions. -/
def Expr.lowerAll : List Expr → Lowering (List Target)
  | [] => return []
  | e :: rest => return (← Expr.lower e) :: (← Expr.lowerAll rest)

/-- The lowered form of a predicate. -/
def Predicate.lower : Predicate → Lowering Target
  | .constant value => return .ofValue (.boolean value)
  | .comparison left operator right modifier options => do
    let left ← Expr.lower left
    let right ← Expr.lower right
    comparison operator modifier options left right
  | .compound .not [part] => return .unary .boolean .not (← Predicate.lower part)
  | .compound .not parts => typeFault (.negationArity parts.length)
  | .compound .and parts => Predicate.lowerJoined .andAlso parts
  | .compound .or parts => Predicate.lowerJoined .orElse parts

/-- Predicates with an operation between them, which associates to the right. Without any it is
false. -/
def Predicate.lowerJoined (op : BinaryOp) : List Predicate → Lowering Target
  | [] => return .ofValue (.boolean false)
  | [part] => Predicate.lower part
  | part :: rest => do
    let first ← Predicate.lower part
    let others ← Predicate.lowerJoined op rest
    return .binary .boolean op first others

end

/-- A step of lowering for an object of a kind, from the beginning. -/
def Lowering.runFor {α : Type} (step : Lowering α) (object : Kind) (settings : Settings) :
    Except Error α :=
  match step settings (.root object settings) with
  | .ok a _ => .ok a
  | .error e _ => .error e

/-- An expression lowered for an object of a kind. -/
def Expr.target (e : Expr) (object : Kind) (settings : Settings) : Except Error Target :=
  e.lower.runFor object settings

/-- A predicate lowered for an object of a kind. -/
def Predicate.target (p : Predicate) (object : Kind) (settings : Settings) : Except Error Target :=
  p.lower.runFor object settings

/-- A lowered expression as a value of a kind. -/
def Target.asResult (t : Target) (result : Kind) : Except Error Target :=
  if t.kind = result ∨ result.isDynamic then .ok t
  else if t.constant?.isSome then t.cast result
  else .ok (.convert result t)

end PredicateLang
