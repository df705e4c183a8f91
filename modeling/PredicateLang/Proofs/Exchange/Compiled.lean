import PredicateLang.Proofs.Effects.Compiled
import PredicateLang.Proofs.Exchange.Lowering

/-!
# Scopes and compiled trees

What a name stands for may be exchanged for itself. Trees that are carried over from one to another
by lowering are compiled to trees with the same outcomes.
-/

namespace PredicateLang

open Tracing Target

namespace Lowering

variable {α α' : Type} {exact : Bool} {d : Dialect} {step : Lowering α} {step' : Lowering α'}
  {P : α → α' → Prop} {t t' : Target}

/-! ## Scopes -/

/-- A name stands for one tree in both scopes, which may stand for itself. -/
theorem carries_bound (key : String) (e : Error) :
    Carries exact d .outer
      (do match ← binding? key with | some target => return target | none => throw e)
      (do match ← binding? key with | some target => return target | none => throw e)
      (Parallel .none false .outer) := by
  intro settings scope scope' own twin old
  show Carried exact _ _
    ((match scope.bindings.find? key with | some t => return t | none => throw e : Lowering Target)
      settings scope)
    ((match scope'.bindings.find? key with | some t => return t | none => throw e : Lowering Target)
      settings scope')
  rw [twin.bindings]
  cases found : scope.bindings.find? key with
  | none => exact .error e e scope scope'
  | some t =>
    have alike : t.Alike false (.keys fun _ => true) t :=
      twin.proper.alike false (fun _ _ => rfl) found
    exact .ok (alike.extend (Naming.extend_only fun _ _ => trivial)).parallel (.refl twin)

/-- Bringing a variable into scope. -/
theorem carries_bindVariable (name : String) (kind : Kind) :
    Carries exact d .outer
      (Lowering.bind (Scope.variableKey name) (.parameter kind (Scope.variableKey name)))
      (Lowering.bind (Scope.variableKey name) (.parameter kind (Scope.variableKey name)))
      (fun _ _ => True) := by
  intro settings scope scope' own twin old
  refine .ok trivial ⟨⟨twin.proper.insert (.inr ⟨kind, rfl, by simp⟩), ?_⟩, Nat.le_refl _,
    Nat.le_refl _⟩
  exact congrArg (·.insert (Scope.variableKey name) (.parameter kind (Scope.variableKey name)))
    twin.bindings

theorem carries_assign (name : String) (h : Exchanges .none false .outer t t') :
    Carries exact d .outer (assign name t) (assign name t') (Parallel .none false .outer) := by
  unfold assign
  rw [h.kind_eq]
  exact (carries_bindVariable name _).bind fun _ _ _ =>
    carries_pure ((h.acts.assign _ _).parallel ⟨rfl, rfl⟩)

/-- What is brought into scope by an enclosed step goes out of scope with it. -/
theorem Carries.enclosed (h : Carries exact d .outer step step' P) :
    Carries exact d .outer (enclosed step) (enclosed step') P := by
  intro settings scope scope' own twin old
  have inner := h settings scope scope' own twin old
  unfold Lowering.enclosed
  generalize step settings scope = run at inner
  generalize step' settings scope' = run' at inner
  cases inner with
  | ok holds onward =>
    exact .ok holds ⟨⟨twin.proper.of_bindings_eq rfl, twin.bindings⟩, onward.counter,
      onward.counter'⟩
  | error e e' after after' => exact .error e e' _ _
  | excused inexact e a' after after' => exact .excused inexact e a' _ _

theorem carries_filter (name : String) {predicate predicate' : Lowering Target}
    (h : Exchanges .none false .outer t t')
    (h' : Carries exact d .outer predicate predicate' (Parallel .none false .outer)) :
    Carries exact d .outer (filter t name predicate) (filter t' name predicate')
      (Parallel .none false .outer) := by
  refine (carries_elementOf _ _ h.kind_eq).bind ?_
  rintro element _ rfl
  refine (carries_bindVariable name element).bind fun _ _ _ => h'.bind fun _ _ predicate => ?_
  refine carries_guarded h nofun fun ρ' s s' extend source => carries_pure ?_
  rw [h.kind_eq]
  have self : ρ' (Scope.variableKey name) (Scope.variableKey name) :=
    extend _ _ ⟨rfl, Scope.isMadeUp_variableKey name, trivial⟩
  exact (source.acts.filter (predicate.exchanges.acts.extend extend) _ self).parallel ⟨rfl, rfl⟩

end Lowering

/-! ## Outcomes -/

namespace Compiled

/-- Where the assumption holds for an object, trees that do the same under it are tested with the
same outcome. -/
theorem test_eq_of_acts {A : Assumption} {c c' : Compiled} {object : Value} {world : World}
    {memory : Memory} (acts : Acts A .outer c.target c'.target)
    (holds : A.Holds world ⟨(start object memory).slots, []⟩
      ⟨(start object memory).assigned, (start object memory).drawn⟩) :
    c'.test object world memory = c.test object world memory := by
  have evaluated : c'.target.eval world (start object memory)
      = c.target.eval world (start object memory) := by
    rw [← outcome_runOn, ← outcome_runOn]
    have agree := (acts.follow world _ _ _ holds (Surroundings.match_only _ _)).1
    have same : (c'.runOn object world memory).result = (c.runOn object world memory).result :=
      agree.result
    have store : (c'.runOn object world memory).store = (c.runOn object world memory).store :=
      agree.store
    unfold Run.outcome
    rw [same, store]
  unfold test Evaluation.about evalTruth
  simp only [Bind.bind, ReaderT.bind, EStateM.bind]
  rw [← start, evaluated]

end Compiled

end PredicateLang
