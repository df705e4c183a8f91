import PredicateLang.Proofs.Mirror

/-!
# What lowering comes to

What is in scope decides what a tree without effects is lowered to, up to the names that are made up
on the way. So there is one outcome for it, which is a result and no longer a step with a scope:
`Lowering.Comes` says that a step comes to a result wherever certain names are in scope. Two trees
that are lowered in different orders can then be compared by what they come to, and alike trees are
evaluated to the same.
-/

namespace PredicateLang

open Lowering

/-! ## Outcomes -/

namespace Lowering

variable {α α' β β' : Type} {settings : Settings} {bindings : Fields Target}
  {P : α → α' → Prop} {Q : β → β' → Prop} {made : Except Error α} {step : Lowering α'}

/-- What a step gives in a scope. -/
def outcome (step : Lowering α) (settings : Settings) (scope : Scope) : Except Error α :=
  match step settings scope with
  | .ok a _ => .ok a
  | .error e _ => .error e

/-- A result and the run of a step: both have succeeded, what they gave is related and the bindings
are these, or both have failed. -/
inductive Reached (bindings : Fields Target) (P : α → α' → Prop) :
    Except Error α → EStateM.Result Error Scope α' → Prop where
  | ok {a : α} {a' : α'} {after : Scope} (holds : P a a') (same : after.bindings = bindings) :
    Reached bindings P (.ok a) (.ok a' after)
  | error (e e' : Error) (after : Scope) : Reached bindings P (.error e) (.error e' after)

/-- Wherever the bindings are in scope, the step comes to the result, up to related values, and
brings nothing into scope. -/
def Comes (settings : Settings) (bindings : Fields Target) (made : Except Error α)
    (step : Lowering α') (P : α → α' → Prop) : Prop :=
  ∀ scope : Scope, scope.bindings = bindings → Reached bindings P made (step settings scope)

theorem comes_pure {a : α} {a' : α'} (h : P a a') :
    Comes settings bindings (.ok a) (pure a') P := fun _ same => .ok h same

theorem Comes.bind {next : α → Except Error β} {next' : α' → Lowering β'}
    (h : Comes settings bindings made step P)
    (h' : ∀ a a', made = .ok a → P a a' → Comes settings bindings (next a) (next' a') Q) :
    Comes settings bindings (made >>= next) (step >>= next') Q := by
  intro scope same
  have first := h scope same
  generalize run : step settings scope = run at first
  cases first with
  | ok holds same =>
    rw [bind_run_of_ok run]
    exact h' _ _ rfl holds _ same
  | error e e' after =>
    rw [bind_run_of_error run]
    exact .error e e' after

/-- Steps of which nothing stays in scope, the first one of which brings nothing into it anyway. -/
theorem Comes.enclosed_bind {next : α → Except Error β} {next' : α' → Lowering β'}
    (h : Comes settings bindings made step P)
    (h' : ∀ a a', made = .ok a → P a a' →
      Comes settings bindings (next a) (enclosed (next' a')) Q) :
    Comes settings bindings (made >>= next) (enclosed (step >>= next')) Q := by
  intro scope same
  have first := h scope same
  generalize run : step settings scope = run at first
  unfold enclosed
  cases first with
  | @ok a a' after holds same' =>
    have further := h' a a' rfl holds after same'
    rw [bind_run_of_ok run, same]
    unfold enclosed at further
    rw [same'] at further
    exact further
  | error e e' after =>
    rw [bind_run_of_error run]
    exact .error e e' _

/-- A step that is done alike anywhere comes to what it gives in one place. -/
theorem Alike.comes {step : Lowering α} {step' : Lowering α'} (h : Alike .outer step step' P)
    (scope : Scope) : Comes settings bindings (outcome step settings scope) step' P := by
  intro scope' same
  have both := h settings scope scope' (Naming.old_only _ _ _)
  unfold outcome
  generalize step settings scope = run at both
  generalize step' settings scope' = run' at both
  cases both with
  | ok holds leads => exact .ok holds (leads.2.bindings.trans same)
  | error e e' after after' => exact .error e e' after'

/-- A step that matches itself comes to what it gives in one proper scope. -/
theorem Matches.comes {step : Lowering Target} {scope : Scope}
    (h : Matches (fun _ => true) true step step (Target.Alike false (.keys fun _ => true)))
    (proper : scope.IsProper) :
    Comes settings scope.bindings (outcome step settings scope) step
      (Target.Alike false .outer) := by
  intro scope' same
  have both := h settings scope scope' proper fun _ _ => by rw [same]
  have self := h settings scope' scope' (proper.of_bindings_eq same) fun _ _ => rfl
  unfold outcome
  generalize step settings scope = run at both
  generalize step settings scope' = run' at both self
  cases both with
  | ok holds _ =>
    have moves := self.of_ok.2.2
    exact .ok (holds.extend (Naming.extend_only fun _ _ => trivial))
      ((moves.bindings rfl).trans same)
  | error e e' after after' => exact .error e e' after'

end Lowering

/-- What an expression without effects is lowered to where it stands once, it is lowered to wherever
the same is in scope. -/
theorem Expr.comes_lower {e : Expr} (settings : Settings) {scope : Scope} (pure : e.isPure)
    (proper : scope.IsProper) :
    Comes settings scope.bindings (e.lower.outcome settings scope) e.lower
      (Target.Alike false .outer) :=
  (e.matches_lower (.inr pure) (e.mentionsOnly_of_forall fun _ => rfl)).comes proper

/-- What a predicate without effects is lowered to where it stands once, it is lowered to wherever
the same is in scope. -/
theorem Predicate.comes_lower {p : Predicate} (settings : Settings) {scope : Scope}
    (pure : p.isPure) (proper : scope.IsProper) :
    Comes settings scope.bindings (p.lower.outcome settings scope) p.lower
      (Target.Alike false .outer) :=
  (p.matches_lower (.inr pure) (p.mentionsOnly_of_forall fun _ => rfl)).comes proper

/-- What two predicates come to, with "and" between them. -/
theorem Predicate.comes_and {p q : Predicate} {settings : Settings} {bindings : Fields Target}
    {made made' : Except Error Target}
    (h : Comes settings bindings made p.lower (Target.Alike false .outer))
    (h' : Comes settings bindings made' q.lower (Target.Alike false .outer)) :
    Comes settings bindings (do return .binary .boolean .andAlso (← made) (← made'))
      (compound .and [p, q]).lower (Target.Alike false .outer) :=
  h.bind fun _ _ _ left => h'.bind fun _ _ _ right =>
    comes_pure (.binary .boolean .andAlso left right)

/-! ## Evaluation -/

/-- Alike trees are evaluated to the same. -/
theorem Target.Alike.eval_eq {effects : Bool} {t t' : Target} (h : t.Alike effects .outer t') :
    t'.eval = t.eval := by
  funext world m
  have agree := h.follow world _ _ ⟨m.assigned, m.drawn⟩
    (Surroundings.match_only (fun _ => True) ⟨m.slots, []⟩)
  rw [← t.outcome_runFrom, ← t'.outcome_runFrom, Run.outcome, Run.outcome, runFrom, runFrom,
    agree.result, agree.store]

/-- Two predicates say the same of every object if they come to the same tree, or both to none. -/
theorem Predicate.answer?_eq_of_comes {p p' : Predicate} {kind : Kind} {settings : Settings}
    {made made' : Except Error Target}
    (h : Comes settings (Scope.root kind settings).bindings made p.lower
      (Target.Alike false .outer))
    (h' : Comes settings (Scope.root kind settings).bindings made' p'.lower
      (Target.Alike false .outer))
    (agree : Agrees Eq made made') (object : Value) (world : World) (memory : Memory) :
    p.answer? kind settings object world memory = p'.answer? kind settings object world memory := by
  have one := h (.root kind settings) rfl
  have other := h' (.root kind settings) rfl
  generalize run : p.lower settings (.root kind settings) = lowered at one
  generalize run' : p'.lower settings (.root kind settings) = lowered' at other
  cases agree with
  | error e e' =>
    cases one with
    | error => cases other with
      | error => rw [answer?_of_lower_error run, answer?_of_lower_error run']
  | ok same =>
    subst same
    cases one with
    | ok alike => cases other with
      | ok alike' =>
        rw [answer?_of_lower run, answer?_of_lower run', Compiled.answer?, Compiled.answer?,
          Compiled.test, Compiled.test, Target.evalTruth, Target.evalTruth, alike.eval_eq,
          alike'.eval_eq]

end PredicateLang
