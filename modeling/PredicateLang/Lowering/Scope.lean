import PredicateLang.Target.Coercion

/-!
# Names while a tree is lowered

Lowering goes through a tree from left to right with the names that are in scope: the object, the
external variables, and the variables assigned so far. Names that it makes up itself begin with `#`,
which no variable does, and are numbered throughout.

Two helpers decide how often an operand is evaluated. `guarded` puts a guard around an operation on
something that may be absent; `shared` evaluates an operand with effects ahead of an operation. A
query backend needs neither.
-/

namespace PredicateLang

/-- The names in scope with the trees that they stand for, and the number of names made up. -/
structure Scope where
  bindings : Fields Target
  counter : Nat

namespace Scope

/-- The name of the object. -/
def objectName : String := "SELF"

/-- The name of a variable in a scope. -/
def variableKey (name : String) : String := "$" ++ name

/-- What is in scope for an object of a kind. -/
def root (object : Kind) (settings : Settings) : Scope where
  bindings :=
    settings.externals.foldl
      (fun bindings (name, value) => bindings.insert (variableKey name) (.ofValue value))
      [(objectName, .parameter object objectName)]
  counter := 0

end Scope

/-- A step of lowering: it depends on settings, changes the scope and may fail. -/
abbrev Lowering := ReaderT Settings (EStateM Error Scope)

namespace Lowering

/-- A step that only may fail. -/
def ofResult {α : Type} : Except Error α → Lowering α
  | .ok a => pure a
  | .error e => throw e

/-- Fails because kinds do not fit. -/
def typeFault {α : Type} (fault : TypeFault) : Lowering α := throw (.type fault)

/-- The dialect to lower for. -/
def dialect : Lowering Dialect := return (← read).dialect

/-- A new name that begins with a letter. -/
def fresh (letter : String) : Lowering String := do
  let scope ← get
  let number := scope.counter + 1
  set { scope with counter := number }
  return "#" ++ letter ++ toString number

/-- What a name stands for. -/
def binding? (name : String) : Lowering (Option Target) := return (← get).bindings.find? name

/-- Lets a name stand for a tree. -/
def bind (name : String) (target : Target) : Lowering Unit :=
  modify fun scope => { scope with bindings := scope.bindings.insert name target }

/-- Does a step whose bindings go out of scope after it, also when it fails. -/
def enclosed {α : Type} (step : Lowering α) : Lowering α := fun settings scope =>
  match step settings scope with
  | .ok a after => .ok a { after with bindings := scope.bindings }
  | .error e after => .error e { after with bindings := scope.bindings }

/-- Does an operation on the subject need a guard? Constants but null and lists are there. -/
def needsGuard (dialect : Dialect) (subject : Target) : Bool :=
  dialect = .objects && match subject with
    | .constant _ value => value.isNull
    | .list .. => false
    | _ => true

/-- An operation on a subject, behind a guard for objects. -/
def guarded (subject : Target) (build : Target → Lowering Target) : Lowering Target := do
  if needsGuard (← dialect) subject then
    let binding ← fresh "g"
    let body ← build (.parameter subject.kind binding)
    return .guard body.kind subject binding body
  else build subject

/-- An operation on a subject, which is evaluated once and before anything else of it. -/
def shared (subject : Target) (build : Target → Lowering Target) : Lowering Target := do
  if (← dialect) = .objects ∧ subject.hasEffects then
    let binding ← fresh "b"
    let body ← build (.parameter subject.kind binding)
    return .bind body.kind subject binding body
  else build subject

end Lowering

end PredicateLang
