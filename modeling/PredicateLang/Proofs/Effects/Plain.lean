import PredicateLang.Proofs.Alike.Compiled
import PredicateLang.Proofs.Effects.Comparison
import PredicateLang.Proofs.Effects.Compiled

/-!
# Operations without effects

Operands without effects are left where they are: nothing is shared, and what stands in front of an
operation is at most a guard. Without the option for it, letter case is left alone too.
-/

namespace PredicateLang

open Tracing

/-! ## Operations behind guards -/

namespace Target

/-- The tree is an operation on a subject, or such an operation behind a guard for the subject. -/
def MayGuard (node : Target → Target) (subject t : Target) : Prop :=
  t = node subject ∨ ∃ name : String, Scope.isMadeUp name
    ∧ t = .guard (node (.parameter subject.kind name)).kind subject name
        (node (.parameter subject.kind name))

variable {subject t : Target} {world : World} {around : Surroundings} {store : Store}

/-- In a slot a name has its value. -/
theorem result_lookup_push (name : String) (v : Value) :
    (lookup name world (around.push name v) store).result = .ok v := by
  have found : (around.push name v).lookup? store name = some v := by
    simp [Surroundings.lookup?, Surroundings.push, Fields.find?]
  simp only [lookup, found]

end Target

/-! ## Lowering -/

/-- When lowering starts, the object stands for itself. -/
theorem Scope.find?_root_object (kind : Kind) (settings : Settings) :
    (Scope.root kind settings).bindings.find? objectName = some (.parameter kind objectName) := by
  have kept : ∀ (externals : List (String × Value)) (bindings : Fields Target),
      (externals.foldl (fun bindings external =>
        bindings.insert (variableKey external.1) (.ofValue external.2)) bindings).find? objectName
        = bindings.find? objectName := by
    intro externals
    induction externals with
    | nil => exact fun _ => rfl
    | cons first rest ih =>
      intro bindings
      rw [List.foldl_cons, ih,
        Fields.find?_insert_of_ne _ _ (objectName_ne_variableKey first.1).symm]
  exact kept settings.externals _

namespace Lowering

variable {settings : Settings} {options : Options} {operator : Operator}
  {left right subject : Target}

section Runs

variable {α β : Type} {step : Lowering α} {next : α → Lowering β} {scope after : Scope}

theorem bind_run_of_ok {a : α} (run : step settings scope = .ok a after) :
    (step >>= next) settings scope = next a settings after := by
  simp only [Bind.bind, ReaderT.bind, EStateM.bind, run]

theorem bind_run_of_error {e : Error} (run : step settings scope = .error e after) :
    (step >>= next) settings scope = .error e after := by
  simp only [Bind.bind, ReaderT.bind, EStateM.bind, run]

end Runs

/-- The object stands for itself. -/
theorem object_run {kind : Kind} {scope : Scope}
    (known : scope.bindings.find? Scope.objectName = some (.parameter kind Scope.objectName)) :
    object settings scope = .ok (.parameter kind Scope.objectName) scope := by
  unfold object
  rw [bind_run_of_ok (show binding? Scope.objectName settings scope = .ok _ scope from rfl), known]
  rfl

/-- Without effects nothing is shared. -/
theorem shared_of_pure (quiet : subject.hasEffects = false) (build : Target → Lowering Target) :
    shared subject build = build subject := by
  unfold shared
  simp only [quiet, Bool.false_eq_true, and_false, if_false]
  rfl

/-- What is built of a subject stands behind a guard if one is needed. -/
theorem guarded_run (subject : Target) (build : Target → Lowering Target) (settings : Settings)
    (scope : Scope) :
    guarded subject build settings scope
      = (if needsGuard settings.dialect subject then (do
          let binding ← fresh "g"
          let body ← build (.parameter subject.kind binding)
          return .guard body.kind subject binding body)
        else build subject : Lowering Target) settings scope := rfl

/-- An operation of the subject alone is lowered with a guard or without. -/
theorem exists_guarded (node : Target → Target) (subject : Target) (settings : Settings)
    (scope : Scope) :
    ∃ t after, guarded subject (fun s => return node s) settings scope = .ok t after
      ∧ Target.MayGuard node subject t := by
  rw [guarded_run]
  by_cases needs : needsGuard settings.dialect subject
  · rw [if_pos needs]
    exact ⟨_, _, rfl, .inr ⟨_, Scope.isMadeUp_madeUp "g" (scope.counter + 1), rfl⟩⟩
  · rw [if_neg needs]
    exact ⟨_, _, rfl, .inl rfl⟩

/-- Without the option, letter case is left alone. -/
theorem foldOperands_of_exact (exact : options.caseInsensitive = false) :
    foldOperands options operator left right = pure (left, right) := by
  unfold foldOperands
  simp only [exact, Bool.false_eq_true, false_and, if_false]
  rfl

theorem comparison_direct (exact : options.caseInsensitive = false) :
    comparison operator .direct options left right = compare operator left right := by
  unfold comparison
  rw [foldOperands_of_exact exact, pure_bind]
  rfl

theorem comparison_quantified {modifier : Modifier} {quantifier : Quantifier}
    (known : quantifier? modifier = some quantifier) (exact : options.caseInsensitive = false) :
    comparison operator modifier options left right
      = quantified quantifier operator left right := by
  unfold comparison
  rw [foldOperands_of_exact exact, pure_bind]
  simp only [known]

theorem elementOf_of_some {operation : String} {wanted : Demand} {element : Kind}
    (known : subject.kind.element? = some element) :
    elementOf operation wanted subject = pure element := by
  simp only [elementOf, known]

theorem elementOf_of_none {operation : String} {wanted : Demand}
    (unknown : subject.kind.element? = none) :
    elementOf operation wanted subject = typeFault (.demand operation wanted subject.kind) := by
  simp only [elementOf, unknown]

/-- What a tree without effects is lowered to has none, and reads no made-up name from outside. -/
theorem plain_of_lower {e : Expr} {scope after : Scope} {t : Target} (pure : e.isPure)
    (proper : scope.IsProper) (run : e.lower settings scope = .ok t after) :
    t.Alike false .outer t ∧ after.IsProper ∧ after.bindings = scope.bindings := by
  have still : (false : Bool) ∨ e.isPure := .inr pure
  have named : e.mentionsOnly fun _ => true := e.mentionsOnly_of_forall fun _ => rfl
  have self := e.matches_lower still named settings scope scope proper fun _ _ => rfl
  rw [run] at self
  obtain ⟨alike, -, moves⟩ := self.of_ok
  exact ⟨alike.extend (Naming.extend_only fun _ _ => trivial), moves.proper, moves.bindings rfl⟩

/-- Wherever a tree without effects stands, it is lowered to alike trees. -/
theorem alike_of_lower {e : Expr} {scope scope' after after' : Scope} {t t' : Target}
    (pure : e.isPure) (proper : scope.IsProper) (same : scope'.bindings = scope.bindings)
    (run : e.lower settings scope = .ok t after) (run' : e.lower settings scope' = .ok t' after') :
    t.Alike false .outer t' := by
  have still : (false : Bool) ∨ e.isPure := .inr pure
  have named : e.mentionsOnly fun _ => true := e.mentionsOnly_of_forall fun _ => rfl
  have both := e.matches_lower still named settings scope scope' proper fun _ _ => by rw [same]
  rw [run, run'] at both
  exact both.of_ok.1.extend (Naming.extend_only fun _ _ => trivial)

end Lowering

/-- Alike trees have the same result. -/
theorem Target.Alike.result_eq {effects : Bool} {t t' : Target} (h : t.Alike effects .outer t')
    (world : World) (around : Surroundings) (store : Store) :
    (t'.traced world around store).result = (t.traced world around store).result :=
  (h.follow world around around store (Surroundings.match_only _ around)).result

/-! ## Key paths -/

namespace Lowering

/-- Does the segment of a key path name a property? -/
def isProperty (segment : String) : Bool := segment.toList.head? ≠ some '@'

theorem follow_cons {segment : String} (property : isProperty segment) (receiver : Target)
    (rest : List String) :
    follow receiver (segment :: rest)
      = (do follow (← Lowering.property receiver segment) rest) := by
  conv =>
    lhs
    unfold follow
  split
  · rename_i name is
    rw [isProperty, is] at property
    simp at property
  · rfl

end Lowering

/-! ## Indexing -/

open Lowering

/-- Indexing by what is no word for a place. -/
theorem Expr.lowerIndex_of_not_symbol (collection : Expr) {place : Expr}
    (other : ∀ symbol, place ≠ .symbol symbol) :
    Expr.lowerIndex [collection, place] = (do
      let source ← Expr.lower collection
      let element ← elementOf Expr.indexSelector .collection source
      indexBy source element (← Expr.lower place)) := by
  cases place <;> first | rfl | exact absurd rfl (other _)

theorem Expr.lowerIndex_of_length {args : List Expr} (other : args.length ≠ 2) :
    Expr.lowerIndex args = typeFault (.arity Expr.indexSelector 2 args.length) := by
  unfold Expr.lowerIndex
  split
  · exact absurd rfl other
  · exact absurd rfl other
  · rfl

end PredicateLang
