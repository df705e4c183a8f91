import PredicateLang.Evaluation
import PredicateLang.Lowering
import PredicateLang.Sql

/-!
# Compiled trees

A predicate or an expression is compiled once, for one kind of objects and one dialect, and then used
on many objects or written as a query.
-/

namespace PredicateLang

/-- A lowered tree and the dialect that it is lowered for. -/
structure Compiled where
  target : Target
  dialect : Dialect

/-- A predicate compiled for objects of a kind. -/
def Predicate.compile (p : Predicate) (object : Kind) (settings : Settings) :
    Except Error Compiled := do
  return ⟨← p.target object settings, settings.dialect⟩

/-- An expression compiled for objects of a kind, and for a value of a kind if one is asked for. -/
def Expr.compile (e : Expr) (object : Kind) (result : Option Kind) (settings : Settings) :
    Except Error Compiled := do
  let target ← e.target object settings
  match result with
  | some kind => return ⟨← target.asResult kind, settings.dialect⟩
  | none => return ⟨target, settings.dialect⟩

namespace Evaluation

/-- Does a step about an object, with nothing else remembered but the random numbers drawn. -/
def about {α : Type} (object : Value) (step : Evaluation α) : Evaluation α :=
  fun world memory =>
    match step world ({ Memory.empty with drawn := memory.drawn }.push Scope.objectName object) with
    | .ok a after => .ok a { memory with drawn := after.drawn }
    | .error e after => .error e { memory with drawn := after.drawn }

end Evaluation

namespace Compiled

/-- The value for an object. -/
def value (c : Compiled) (object : Value) : Evaluation Value :=
  Evaluation.about object c.target.eval

/-- The truth for an object. -/
def test (c : Compiled) (object : Value) : Evaluation Bool :=
  Evaluation.about object c.target.evalTruth

/-- The objects that are accepted, in order. -/
def filter (c : Compiled) : (objects : List Value) → Evaluation (List Value)
  | [] => return []
  | object :: rest => do
    let accepted ← c.test object
    let kept ← filter c rest
    return if accepted then object :: kept else kept

/-- The text of a query. Nothing but what is compiled for a backend has one. -/
def sql (c : Compiled) : Except Error String :=
  if c.dialect = .backend then c.target.sql
  else .error (.unsupported "SQL rendering" c.dialect)

end Compiled

end PredicateLang
