import PredicateLang.Proofs.Alike.Evaluation
import PredicateLang.Proofs.Effects.Steps

/-!
# Trees without effects do nothing

A tree without effects assigns nothing and draws nothing while it is evaluated, also when evaluation
fails: what the surroundings remember is the same before and after it. `Tracing.Quiet` says this of a
step.
-/

namespace PredicateLang

namespace Tracing

variable {α β : Type} {step : Tracing α}

/-- The step has no effects. -/
def Quiet (step : Tracing α) : Prop :=
  ∀ world around store, (step world around store).effects = []
    ∧ (step world around store).store = store

theorem quiet_pure (a : α) : Quiet (pure a) := fun _ _ _ => ⟨rfl, rfl⟩

theorem quiet_still (step : Evaluation α) : Quiet (still step) := by
  intro world around store
  unfold still
  cases step world .empty <;> exact ⟨rfl, rfl⟩

theorem quiet_lookup (name : String) : Quiet (lookup name) := by
  intro world around store
  unfold lookup
  cases around.lookup? store name <;> exact ⟨rfl, rfl⟩

theorem Quiet.bind {next : α → Tracing β} (h : Quiet step) (h' : ∀ a, Quiet (next a)) :
    Quiet (step >>= next) := by
  intro world around store
  obtain ⟨effects, same⟩ := h world around store
  cases first : (step world around store).result with
  | error e =>
    rw [bind_of_error first]
    exact ⟨effects, same⟩
  | ok a =>
    obtain ⟨effects', same'⟩ := h' a world around (step world around store).store
    rw [bind_of_ok first]
    refine ⟨?_, same'.trans same⟩
    simp only [Run.effects, List.filter_append] at effects effects' ⊢
    rw [effects, effects']
    rfl

theorem Quiet.withSlot (h : Quiet step) (name : String) (v : Value) :
    Quiet (withSlot name v step) := fun world _ store => h world _ store

theorem Quiet.inside (h : Quiet step) (name : String) : Quiet (inside name step) :=
  fun world _ store => h world _ store

theorem composes_quiet : Composes fun _ step => Quiet step where
  ofResult _ := quiet_still _
  lookup := quiet_lookup
  bind := Quiet.bind
  withSlot := Quiet.withSlot
  inside := Quiet.inside

theorem Quiet.truth {step : Tracing Value} (h : Quiet step) :
    Quiet (do still (Evaluation.truth (← step))) := h.bind fun _ => quiet_still _

theorem Quiet.mapItems {body : Tracing Value} (h : Quiet body) (parameter : String)
    (items : List Value) : Quiet (mapItems parameter body items) :=
  composes_quiet.mapItems h parameter items

theorem Quiet.filterItems {predicate : Tracing Bool} (h : Quiet predicate) (parameter : String)
    (items : List Value) : Quiet (filterItems parameter predicate items) :=
  composes_quiet.filterItems h parameter items

theorem Quiet.quantifyItems {predicate : Tracing Bool} (h : Quiet predicate)
    (quantifier : Quantifier) (parameter : String) (items : List Value) :
    Quiet (quantifyItems quantifier parameter predicate items) :=
  composes_quiet.quantifyItems h quantifier parameter items

theorem quiet_call {builtin : Builtin} (still : builtin ≠ .random ∧ builtin ≠ .randomBelow)
    (args : List Value) : Quiet (call builtin args) := by
  cases builtin with
  | random => exact absurd rfl still.1
  | randomBelow => exact absurd rfl still.2
  | _ => exact quiet_still _

/-! ## Results -/

section Result

variable {world : World} {around : Surroundings} {store : Store}

@[simp] theorem result_pure (a : α) :
    ((pure a : Tracing α) world around store).result = .ok a := rfl

@[simp] theorem result_still_ofResult (result : Except Error α) :
    (still (Evaluation.ofResult result) world around store).result = result := by
  cases result <;> rfl

/-- After a quiet step the next one starts as if it were the first. -/
theorem Quiet.result_bind (h : Quiet step) (next : α → Tracing β) :
    ((step >>= next) world around store).result
      = (step world around store).result >>= fun a => (next a world around store).result := by
  obtain ⟨-, same⟩ := h world around store
  cases first : (step world around store).result with
  | error e =>
    rw [bind_of_error first]
    rfl
  | ok a =>
    rw [bind_of_ok first, same]
    rfl

end Result

end Tracing

open Tracing

namespace Target

/-- A tree without effects has none when it is evaluated. -/
theorem quiet_traced (t : Target) (h : t.hasEffects = false) : Quiet t.traced :=
  composes_quiet.traced_of_still h fun _ _ => quiet_still _

/-- Trees without effects have none when they are evaluated. -/
theorem quiet_tracedAll (ts : List Target) (h : anyHasEffects ts = false) :
    Quiet (tracedAll ts) := by
  rw [anyHasEffects_eq] at h
  exact composes_quiet.tracedAll fun t mem =>
    t.quiet_traced (Bool.eq_false_of_not_eq_true (List.any_eq_false.mp h t mem))

end Target

end PredicateLang
