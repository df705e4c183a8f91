import PredicateLang.Proofs.Dialects.Occurrence
import PredicateLang.Proofs.Effects.Trace
import PredicateLang.Proofs.Scoping.Operations

/-!
# Evaluation of trees whose names are introduced

If every name in a tree is introduced above it, by a node of the tree or from outside, then no name
stands for nothing while the tree is evaluated. `Tracing.Bound Γ step` says so of a step, as long as
there are slots for the names in `Γ`. A slot that is opened is for a name that is introduced.
-/

namespace PredicateLang

/-- Is the tree no name, or one that is introduced above? -/
def Target.IsIntroduced (Γ : Binders) : Target → Prop
  | .parameter _ name => (Fields.find? Γ name).isSome
  | _ => True

/-- There is a slot for each name that is introduced. -/
def Surroundings.Covers (around : Surroundings) (Γ : Binders) : Prop :=
  ∀ name, (Fields.find? Γ name).isSome → (Fields.find? around.slots name).isSome

theorem Surroundings.Covers.push {around : Surroundings} {Γ : Binders} (h : around.Covers Γ)
    (name : String) (binder : Binder) (v : Value) :
    (around.push name v).Covers ((name, binder) :: Γ) := by
  intro other introduced
  rw [Surroundings.push, Fields.find?]
  rw [Fields.find?] at introduced
  split
  · rfl
  · rw [if_neg ‹_›] at introduced
    exact h other introduced

namespace Tracing

open Evaluation (Nameless nameless_ok nameless_error)

variable {α β : Type} {Γ : Binders} {step : Tracing α} {name : String} {binder : Binder}

/-- With slots for the names the step does not fail because another name stands for nothing. -/
def Bound (Γ : Binders) (step : Tracing α) : Prop :=
  ∀ world around store, around.Covers Γ → Nameless (step world around store).result

/-! ## Rules -/

theorem bound_pure (a : α) : Bound Γ (pure a) := fun _ _ _ _ => nameless_ok a

theorem Bound.bind {next : α → Tracing β} (h : Bound Γ step) (h' : ∀ a, Bound Γ (next a)) :
    Bound Γ (step >>= next) := by
  intro world around store covers
  have nameless := h world around store covers
  cases first : (step world around store).result with
  | error e =>
    rw [first] at nameless
    rw [bind_of_error first]
    exact nameless_error fun name same => nameless name (congrArg _ same)
  | ok a =>
    rw [bind_of_ok first]
    exact h' a world around _ covers

theorem bound_ofResult {result : Except Error α} (h : Nameless result) :
    Bound Γ (still (Evaluation.ofResult result)) := by
  intro _ _ _ _
  cases result with
  | ok a => exact nameless_ok a
  | error e => exact nameless_error fun name same => h name (congrArg _ same)

theorem bound_lookup (introduced : (Fields.find? Γ name).isSome) : Bound Γ (lookup name) := by
  intro world around store covers
  obtain ⟨v, slot⟩ := Option.isSome_iff_exists.mp (covers name introduced)
  have found : around.lookup? store name = some v := by
    rw [Surroundings.lookup?, slot]
    rfl
  unfold lookup
  rw [found]
  exact nameless_ok v

theorem bound_truth (v : Value) : Bound Γ (still (Evaluation.truth v)) := by
  cases v with
  | boolean b => exact bound_pure b
  | null => exact bound_pure false
  | _ => exact fun _ _ _ _ => nameless_error nofun

theorem bound_items? (v : Value) : Bound Γ (still (Evaluation.items? v)) := by
  cases v with
  | null => exact bound_pure none
  | array items => exact bound_pure (some items)
  | _ => exact fun _ _ _ _ => nameless_error nofun

theorem bound_draw : Bound Γ draw := fun _ _ _ _ => nameless_ok _

theorem bound_assign (name : String) (v : Value) : Bound Γ (assign name v) :=
  fun _ _ _ _ => nameless_ok _

theorem bound_call (builtin : Builtin) (args : List Value) : Bound Γ (call builtin args) := by
  cases builtin with
  | random => exact bound_draw.bind fun _ => bound_pure _
  | randomBelow =>
    exact (bound_ofResult (Evaluation.nameless_randomBound _)).bind fun _ =>
      bound_draw.bind fun _ => bound_pure _
  | now => exact fun _ _ _ _ => nameless_ok _
  | sqrt | log10 | ln | exp => exact bound_ofResult (Evaluation.nameless_onFloat _ _)
  | floor | ceiling | trunc => exact bound_ofResult (Evaluation.nameless_onFraction _ _)
  | abs => exact bound_ofResult (Evaluation.nameless_absolute _)
  | uppercase | lowercase => exact bound_ofResult (Evaluation.nameless_onText _ _)
  | length => exact bound_ofResult (Evaluation.nameless_length _)
  | isMatch =>
    exact bound_ofResult (Evaluation.nameless_testStrings Evaluation.nameless_matchesRegex _ _)
  | like | beginsWith | endsWith =>
    exact bound_ofResult (Evaluation.nameless_testStrings (fun _ _ => nameless_ok _) _ _)
  | contains => exact bound_ofResult (Evaluation.nameless_contains _ _)
  | dateAdd | backendDateAdd => exact bound_ofResult (Evaluation.nameless_moveDate _ _ _ _)
  | castNumber => exact bound_ofResult (Evaluation.nameless_castToNumber _)
  | castString => exact bound_ofResult (Evaluation.nameless_castToString _)
  | castDate => exact bound_ofResult (Evaluation.nameless_castToDate _)

/-! ## Slots -/

theorem Bound.withSlot (h : Bound ((name, binder) :: Γ) step) (v : Value) :
    Bound Γ (withSlot name v step) :=
  fun world _ store covers => h world _ store (covers.push name binder v)

theorem Bound.inside (h : Bound Γ step) (name : String) : Bound Γ (inside name step) :=
  fun world around store covers => h world (around.enter name) store covers

theorem Bound.truth {step : Tracing Value} (h : Bound Γ step) :
    Bound Γ (do still (Evaluation.truth (← step))) := h.bind fun v => bound_truth v

theorem Bound.mapItems {body : Tracing Value} (h : Bound ((name, binder) :: Γ) body)
    (items : List Value) : Bound Γ (mapItems name body items) := by
  induction items with
  | nil => exact bound_pure []
  | cons item rest ih => exact (h.withSlot item).bind fun _ => ih.bind fun _ => bound_pure _

theorem Bound.filterItems {predicate : Tracing Bool} (h : Bound ((name, binder) :: Γ) predicate)
    (items : List Value) : Bound Γ (filterItems name predicate items) := by
  induction items with
  | nil => exact bound_pure []
  | cons item rest ih => exact (h.withSlot item).bind fun _ => ih.bind fun _ => bound_pure _

theorem Bound.quantifyItems {predicate : Tracing Bool}
    (h : Bound ((name, binder) :: Γ) predicate) (quantifier : Quantifier) (items : List Value) :
    Bound Γ (quantifyItems quantifier name predicate items) := by
  induction items with
  | nil => exact bound_pure _
  | cons item rest ih =>
    refine (h.withSlot item).bind fun holds => ?_
    cases quantifier <;> cases holds <;> first | exact bound_pure _ | exact ih

/-- A step on the items of a source, and another in case that the source is null. -/
theorem Bound.items {source : Tracing Value} {next : Option (List Value) → Tracing β}
    (h : Bound Γ source) (none : Bound Γ (next none))
    (some : ∀ items, Bound Γ (next (some items))) :
    Bound Γ (do next (← still (Evaluation.items? (← source)))) := by
  refine h.bind fun v => (bound_items? v).bind fun items => ?_
  cases items with
  | none => exact none
  | some items => exact some items

end Tracing

open Tracing

namespace Target

/-! ## Trees -/

mutual

/-- Where every name in a tree is introduced, the tree is evaluated without a name that stands for
nothing. -/
theorem bound_traced {Γ : Binders} (t : Target) (h : t.Everywhere IsIntroduced Γ) :
    Bound Γ t.traced := by
  match t with
  | .constant _ value => exact bound_pure value
  | .parameter _ name => exact bound_lookup (everywhere_iff.mp h).1
  | .property _ receiver name =>
    exact (receiver.bound_traced (h.only rfl)).bind fun v =>
      bound_ofResult (Evaluation.nameless_property name v)
  | .count _ source =>
    exact (source.bound_traced (h.only rfl)).bind fun v =>
      bound_ofResult (Evaluation.nameless_count v)
  | .unary _ op operand =>
    exact (operand.bound_traced (h.only rfl)).bind fun v =>
      bound_ofResult (Evaluation.nameless_unary op v)
  | .reduce kind reduction source =>
    exact (source.bound_traced (h.only rfl)).items (bound_pure _) fun items =>
      bound_ofResult (Evaluation.nameless_reduce kind reduction items)
  | .convert kind operand =>
    refine (operand.bound_traced (h.only rfl)).bind fun v => ?_
    cases v.convert? kind with
    | some converted => exact bound_pure converted
    | none => exact fun _ _ _ _ => Evaluation.nameless_error nofun
  | .assign _ name value =>
    exact (value.bound_traced (h.only rfl)).bind fun v =>
      (bound_assign name v).bind fun _ => bound_pure v
  | .guard _ subject binding body =>
    obtain ⟨first, second⟩ := h.both rfl
    refine (subject.bound_traced first).bind fun v => ?_
    cases v.isNull with
    | true => exact bound_pure _
    | false => exact (body.bound_traced second).withSlot v
  | .bind _ value binding body =>
    obtain ⟨first, second⟩ := h.both rfl
    exact (value.bound_traced first).bind fun v => (body.bound_traced second).withSlot v
  | .map _ source item body =>
    obtain ⟨first, second⟩ := h.both rfl
    exact (source.bound_traced first).items (bound_pure _) fun items =>
      ((body.bound_traced second).mapItems items).bind fun _ => bound_pure _
  | .filter _ source item predicate =>
    obtain ⟨first, second⟩ := h.both rfl
    exact (source.bound_traced first).items (bound_pure _) fun items =>
      (((predicate.bound_traced second).truth.inside item).filterItems items).bind fun _ =>
        bound_pure _
  | .quantify _ quantifier source item predicate =>
    obtain ⟨first, second⟩ := h.both rfl
    exact (source.bound_traced first).items (bound_pure _) fun items =>
      ((predicate.bound_traced second).truth.quantifyItems quantifier items).bind fun _ =>
        bound_pure _
  | .elementAt _ source index =>
    obtain ⟨first, second⟩ := h.both rfl
    exact (source.bound_traced first).bind fun v => (index.bound_traced second).bind fun i =>
      bound_ofResult (Evaluation.nameless_elementAt v i)
  | .binary kind op left right =>
    obtain ⟨first, second⟩ := h.both rfl
    have left := left.bound_traced first
    have right := right.bound_traced second
    -- a connective does not always evaluate its right operand
    cases op with
    | andAlso =>
      refine left.bind fun v => (bound_truth v).bind fun b => ?_
      cases b with
      | true => exact right.bind fun v => (bound_truth v).bind fun _ => bound_pure _
      | false => exact bound_pure _
    | orElse =>
      refine left.bind fun v => (bound_truth v).bind fun b => ?_
      cases b with
      | true => exact bound_pure _
      | false => exact right.bind fun v => (bound_truth v).bind fun _ => bound_pure _
    | _ =>
      exact left.bind fun v => right.bind fun v' =>
        bound_ofResult (Evaluation.nameless_binary kind _ v v')
  | .list _ items =>
    exact (bound_tracedAll items (h.all rfl)).bind fun _ => bound_pure _
  | .call _ builtin args =>
    exact (bound_tracedAll args (h.all rfl)).bind fun values => bound_call builtin values

theorem bound_tracedAll {Γ : Binders} (ts : List Target)
    (h : ∀ t ∈ ts, t.Everywhere IsIntroduced Γ) : Bound Γ (tracedAll ts) := by
  match ts with
  | [] => exact bound_pure []
  | t :: rest =>
    rw [List.forall_mem_cons] at h
    exact (t.bound_traced h.1).bind fun _ => (bound_tracedAll rest h.2).bind fun _ => bound_pure _

end

end Target

end PredicateLang
