import PredicateLang.Proofs.Effects.Quiet
import PredicateLang.Proofs.Effects.Steps

/-!
# What evaluation leaves behind

Whatever comes of evaluating a tree, a value or an error, the slots are afterwards what they were
before, only the variables that are assigned somewhere in the tree may have another value, and
random numbers have been drawn only if a function that draws them is called in it. A tree without
effects leaves everything as it was, so that evaluating it another time gives the same
(`Target.eval_footprint`).
-/

namespace PredicateLang

/-- The memory after a step, whatever comes of it. -/
def Evaluation.after {α : Type} (step : Evaluation α) (world : World) (m : Memory) : Memory :=
  match step world m with
  | .ok _ m' | .error _ m' => m'

namespace Tracing

variable {α β : Type} {step : Tracing α} {names : String → Prop} {draws clock : Prop}

/-! ## What a step may change -/

/-- Only the variables with the names are assigned, and random numbers only drawn if it says so. -/
def Touches (names : String → Prop) (draws : Prop) (step : Tracing α) : Prop :=
  ∀ world around store,
    (∀ name, (step world around store).store.assigned.find? name ≠ store.assigned.find? name →
      names name) ∧ ((step world around store).store.drawn ≠ store.drawn → draws)

theorem touches_of_same (h : ∀ world around store, (step world around store).store = store) :
    Touches names draws step := by
  intro world around store
  rw [h world around store]
  exact ⟨fun _ differs => absurd rfl differs, fun differs => absurd rfl differs⟩

theorem touches_still (step : Evaluation α) : Touches names draws (still step) :=
  touches_of_same fun world around store => by
    unfold still
    cases step world .empty <;> rfl

theorem touches_lookup (name : String) : Touches names draws (lookup name) :=
  touches_of_same fun world around store => by
    unfold lookup
    cases around.lookup? store name <;> rfl

theorem Touches.bind {next : α → Tracing β} (h : Touches names draws step)
    (h' : ∀ a, Touches names draws (next a)) : Touches names draws (step >>= next) := by
  intro world around store
  obtain ⟨assigned, drawn⟩ := h world around store
  cases first : (step world around store).result with
  | error e =>
    rw [bind_of_error first]
    exact ⟨assigned, drawn⟩
  | ok a =>
    obtain ⟨assigned', drawn'⟩ := h' a world around (step world around store).store
    rw [bind_of_ok first]
    constructor
    · intro name differs
      by_cases same : (step world around store).store.assigned.find? name
          = store.assigned.find? name
      · exact assigned' name (same ▸ differs)
      · exact assigned name same
    · intro differs
      by_cases same : (step world around store).store.drawn = store.drawn
      · exact drawn' (same ▸ differs)
      · exact drawn same

theorem touches_assign {name : String} (h : names name) (v : Value) :
    Touches names draws (assign name v) := by
  intro world around store
  refine ⟨fun other differs => ?_, fun differs => absurd rfl differs⟩
  by_cases same : name = other
  · exact same ▸ h
  · exact absurd (Fields.find?_insert_of_ne _ _ same) differs

theorem touches_draw (h : draws) : Touches names draws draw :=
  fun _ _ _ => ⟨fun _ differs => absurd rfl differs, fun _ => h⟩

theorem composes_touches (names : String → Prop) (draws : Prop) :
    Composes fun _ step => Touches names draws step where
  ofResult _ := touches_still _
  lookup := touches_lookup
  bind := Touches.bind
  withSlot h _ _ := fun world _ store => h world _ store
  inside h _ := fun world _ store => h world _ store

/-! ## What a step depends on -/

/-- In another world the step is the same, if the time is, as far as it says so. -/
def SameInWorlds (clock : Prop) (step : Tracing α) : Prop :=
  ∀ world world' : World, (clock → world'.now = world.now) →
    ∀ around store, step world' around store = step world around store

theorem SameInWorlds.bind {next : α → Tracing β} (h : SameInWorlds clock step)
    (h' : ∀ a, SameInWorlds clock (next a)) : SameInWorlds clock (step >>= next) := by
  intro world world' time around store
  show Tracing.bind step next world' around store = Tracing.bind step next world around store
  simp only [Tracing.bind, h world world' time, fun a => h' a world world' time]

theorem sameInWorlds_ofResult (result : Except Error α) :
    SameInWorlds clock (still (Evaluation.ofResult result)) := by
  intro world world' _ around store
  cases result <;> rfl

theorem sameInWorlds_now (h : clock) (args : List Value) : SameInWorlds clock (call .now args) := by
  intro world world' time around store
  show (⟨[], store, .ok (.date world'.now)⟩ : Run Value) = ⟨[], store, .ok (.date world.now)⟩
  rw [time h]

theorem composes_sameInWorlds (clock : Prop) : Composes fun _ step => SameInWorlds clock step where
  ofResult := sameInWorlds_ofResult
  lookup _ := fun _ _ _ _ _ => rfl
  bind := SameInWorlds.bind
  withSlot h _ _ := fun world world' time _ store => h world world' time _ store
  inside h _ := fun world world' time _ store => h world world' time _ store

end Tracing

open Tracing

namespace Target

theorem touches_traced (t : Target) : Touches t.Assigns t.Draws t.traced := by
  have composes := composes_touches t.Assigns t.Draws
  refine composes.traced (fun name assigned v => touches_assign assigned v) ?_
  intro builtin called args
  exact composes.call (fun random => touches_draw ⟨builtin, random, called⟩)
    (fun _ args => touches_still _) args

theorem sameInWorlds_traced {t : Target} (still : t.hasEffects = false) :
    SameInWorlds (t.Calls .now) t.traced :=
  (composes_sameInWorlds (t.Calls .now)).traced_of_still still sameInWorlds_now

theorem after_eval (t : Target) (world : World) (m : Memory) :
    t.eval.after world m = m.withStore (t.runFrom world m).store := by
  rw [Evaluation.after, ← t.outcome_runFrom, Run.outcome]
  cases (t.runFrom world m).result <;> rfl

/-- Evaluation leaves the slots as they were, whatever comes of it, assigns only variables that are
assigned somewhere in the tree, and draws random numbers only if a function that does is called in
it. A tree without effects leaves everything as it was, and gives the same another time. -/
theorem eval_footprint (t : Target) (world : World) (m : Memory) :
    (t.eval.after world m).slots = m.slots
      ∧ (∀ name, (t.eval.after world m).assigned.find? name ≠ m.assigned.find? name →
          t.Assigns name)
      ∧ ((t.eval.after world m).drawn ≠ m.drawn → t.Draws)
      ∧ (t.hasEffects = false → t.eval.after world m = m
          ∧ ∀ world' : World, (t.Calls .now → world'.now = world.now) →
              t.eval world' (t.eval.after world m) = t.eval world m) := by
  rw [after_eval]
  obtain ⟨assigned, drawn⟩ := t.touches_traced world ⟨m.slots, []⟩ ⟨m.assigned, m.drawn⟩
  refine ⟨rfl, assigned, drawn, fun still => ?_⟩
  have same : m.withStore (t.runFrom world m).store = m := by
    rw [runFrom, (t.quiet_traced still world _ _).2]
    rfl
  refine ⟨same, fun world' time => ?_⟩
  rw [same, ← t.outcome_runFrom, ← t.outcome_runFrom, runFrom, runFrom,
    sameInWorlds_traced still world world' time]

/-- The first tree fails at the last item, under a name, after it has assigned a variable and drawn
a number. In the second one the time is looked at, but random numbers make no difference to it. -/
theorem eval_footprint_halfway :
    let m : Memory := ⟨[("$x", .int 1)], [], 0⟩
    let world : World := ⟨⟨0, 0⟩, fun number => number⟩
    let other : World := ⟨⟨0, 0⟩, fun number => number + 1⟩
    let halfway : Target := .bind .any (.constant .any (.int 2)) "#v0"
      (.list .any [.assign .any "$a" (.parameter .any "#v0"), .call .any .random [],
        .parameter .any "$b"])
    let timed : Target := .bind .any (.call .any .now []) "#v0"
      (.list .any [.parameter .any "#v0", .parameter .any "$b"])
    halfway.eval world m = .error (.evaluation (.unboundParameter "$b"))
        ⟨m.slots, [("$a", .int 2)], 1⟩
      ∧ halfway.Assigns "$a" ∧ halfway.Draws ∧ timed.eval other m = timed.eval world m := by
  intro m world other halfway timed
  have fails : halfway.eval world m = .error (.evaluation (.unboundParameter "$b"))
      ⟨m.slots, [("$a", .int 2)], 1⟩ := rfl
  obtain ⟨-, assigned, drawn, -⟩ := eval_footprint halfway world m
  rw [Evaluation.after, fails] at assigned drawn
  obtain ⟨unchanged, again⟩ := (eval_footprint timed world m).2.2.2 rfl
  have again := again other fun _ => rfl
  rw [unchanged] at again
  exact ⟨fails, assigned "$a" (Option.some_ne_none _), drawn Nat.one_ne_zero, again⟩

end Target

end PredicateLang
