import PredicateLang.Proofs.Alike.Relation
import PredicateLang.Proofs.Effects.Trace

/-!
# Alike trees are evaluated alike

What a tree gives, and the effects that it has, depend on the values of the names that it reads and
not on how these are called. `Tracing.Follow ρ step step'` says that two steps agree whenever what is
around them gives the same values to names that stand for the same; alike trees do.
-/

namespace PredicateLang

/-- The effects of a step, in order. -/
def Run.effects {α : Type} (run : Run α) : List Event := run.events.filter Event.isEffect

/-- The runs have the same effects and the same outcome. -/
structure Run.Agree {α : Type} (run run' : Run α) : Prop where
  effects : run'.effects = run.effects
  store : run'.store = run.store
  result : run'.result = run.result

/-- Names that stand for the same have the same values around two steps. -/
structure Surroundings.Match (ρ : Naming) (around around' : Surroundings) : Prop where
  unique : ρ.OneToOne
  same : ∀ x y, ρ x y → Fields.find? around'.slots y = Fields.find? around.slots x
  unbound : ∀ x y, ρ x y → Fields.find? around.slots x = none → x = y

/-- Names stand for themselves around one step. -/
theorem Surroundings.match_only (names : String → Prop) (around : Surroundings) :
    Surroundings.Match (.only names) around around := by
  refine ⟨Naming.oneToOne_only names, ?_, fun x y join _ => join.1⟩
  rintro x _ ⟨rfl, -⟩
  rfl

/-- What is around two steps may be taken the other way round where names stand for themselves. -/
theorem Surroundings.Match.symm {names : String → Prop} {around around' : Surroundings}
    (h : Surroundings.Match (.only names) around around') :
    Surroundings.Match (.only names) around' around := by
  refine ⟨h.unique, ?_, fun x y join _ => join.1⟩
  rintro x _ ⟨rfl, outer⟩
  exact (h.same x x ⟨rfl, outer⟩).symm

namespace Naming

/-- Two names such that slots for them with the same value make the one naming the other. -/
def Open (ρ ρ' : Naming) (a b : String) : Prop :=
  ∀ around around' v, Surroundings.Match ρ around around' →
    Surroundings.Match ρ' (around.push a v) (around'.push b v)

variable {ρ : Naming} {a b name : String}

theorem open_push (ρ : Naming) (a b : String) : ρ.Open (ρ.push a b) a b := by
  intro around around' v h
  have slots : ρ.Joins around.slots around'.slots := ⟨h.unique, h.same, h.unbound⟩
  obtain ⟨unique, same, unbound⟩ := slots.push a b v
  exact ⟨unique, same, unbound⟩

/-- A name that stands for itself does so in a slot too. -/
theorem open_self (stands : ρ name name) : ρ.Open ρ name name := by
  intro around around' v h
  have slots : ρ.Joins around.slots around'.slots := ⟨h.unique, h.same, h.unbound⟩
  obtain ⟨unique, same, unbound⟩ := slots.self stands v
  exact ⟨unique, same, unbound⟩

end Naming

namespace Tracing

variable {α β : Type} {ρ ρ' : Naming} {step step' : Tracing α} {a b : String}

/-- The steps agree wherever names that stand for the same have the same values. -/
def Follow (ρ : Naming) (step step' : Tracing α) : Prop :=
  ∀ world around around' store, Surroundings.Match ρ around around' →
    (step world around store).Agree (step' world around' store)

theorem follow_pure (a : α) : Follow ρ (pure a) (pure a) := fun _ _ _ _ _ => ⟨rfl, rfl, rfl⟩

theorem Follow.bind {next next' : α → Tracing β} (h : Follow ρ step step')
    (h' : ∀ a, Follow ρ (next a) (next' a)) : Follow ρ (step >>= next) (step' >>= next') := by
  intro world around around' store same
  obtain ⟨effects, stores, results⟩ := h world around around' store same
  cases first : (step world around store).result with
  | error e =>
    rw [bind_of_error first, bind_of_error (results.trans first)]
    exact ⟨effects, stores, rfl⟩
  | ok a =>
    obtain ⟨effects', stores', results'⟩ :=
      h' a world around around' (step world around store).store same
    rw [bind_of_ok first, bind_of_ok (results.trans first), stores]
    refine ⟨?_, stores', results'⟩
    simp only [Run.effects, List.filter_append] at effects effects' ⊢
    rw [effects, effects']

theorem follow_still (step : Evaluation α) : Follow ρ (still step) (still step) := by
  intro world around around' store same
  unfold still
  cases step world .empty <;> exact ⟨rfl, rfl, rfl⟩

theorem follow_lookup {x y : String} (join : ρ x y) : Follow ρ (lookup x) (lookup y) := by
  intro world around around' store same
  have slots := same.same x y join
  unfold lookup Surroundings.lookup?
  cases found : Fields.find? around.slots x with
  | some value =>
    rw [slots, found]
    exact ⟨rfl, rfl, rfl⟩
  | none =>
    obtain rfl := same.unbound x y join found
    rw [slots, found]
    cases store.assigned.find? x <;> exact ⟨rfl, rfl, rfl⟩

theorem follow_assign (name : String) (v : Value) : Follow ρ (assign name v) (assign name v) :=
  fun _ _ _ _ _ => ⟨rfl, rfl, rfl⟩

theorem follow_draw : Follow ρ draw draw := fun _ _ _ _ _ => ⟨rfl, rfl, rfl⟩

theorem follow_call (builtin : Builtin) (args : List Value) :
    Follow ρ (call builtin args) (call builtin args) := by
  cases builtin with
  | random => exact follow_draw.bind fun _ => follow_pure _
  | randomBelow => exact (follow_still _).bind fun _ => follow_draw.bind fun _ => follow_pure _
  | now => exact follow_still (Evaluation.call .now args)
  | _ => exact follow_still (Evaluation.ofResult _)

theorem Follow.withSlot (h : Follow ρ' step step') (opens : ρ.Open ρ' a b) (v : Value) :
    Follow ρ (withSlot a v step) (withSlot b v step') :=
  fun world around around' store same => h world _ _ store (opens around around' v same)

/-- It makes no difference of which subqueries a step is inside. -/
theorem Follow.inside (h : Follow ρ step step') (a b : String) :
    Follow ρ (inside a step) (inside b step') :=
  fun world _ _ store same => h world _ _ store ⟨same.unique, same.same, same.unbound⟩

theorem Follow.truth {step step' : Tracing Value} (h : Follow ρ step step') :
    Follow ρ (do still (Evaluation.truth (← step))) (do still (Evaluation.truth (← step'))) :=
  h.bind fun _ => follow_still _

/-- A step on the items of a source, and another in case that the source is null. -/
theorem Follow.items {source source' : Tracing Value}
    {next next' : Option (List Value) → Tracing β} (h : Follow ρ source source')
    (none : Follow ρ (next none) (next' none))
    (some : ∀ items, Follow ρ (next (some items)) (next' (some items))) :
    Follow ρ (do next (← still (Evaluation.items? (← source))))
      (do next' (← still (Evaluation.items? (← source')))) := by
  apply h.bind
  intro v
  apply (follow_still (Evaluation.items? v)).bind
  intro items
  cases items with
  | none => exact none
  | some items => exact some items

theorem Follow.mapItems {body body' : Tracing Value} (h : Follow ρ' body body')
    (opens : ρ.Open ρ' a b) (items : List Value) :
    Follow ρ (mapItems a body items) (mapItems b body' items) := by
  induction items with
  | nil => exact follow_pure []
  | cons item rest ih =>
    exact (h.withSlot opens item).bind fun v => ih.bind fun _ => follow_pure _

theorem Follow.filterItems {predicate predicate' : Tracing Bool} (h : Follow ρ' predicate predicate')
    (opens : ρ.Open ρ' a b) (items : List Value) :
    Follow ρ (filterItems a predicate items) (filterItems b predicate' items) := by
  induction items with
  | nil => exact follow_pure []
  | cons item rest ih =>
    exact (h.withSlot opens item).bind fun v => ih.bind fun _ => follow_pure _

theorem Follow.quantifyItems {predicate predicate' : Tracing Bool}
    (h : Follow ρ' predicate predicate') (opens : ρ.Open ρ' a b) (quantifier : Quantifier)
    (items : List Value) :
    Follow ρ (quantifyItems quantifier a predicate items)
      (quantifyItems quantifier b predicate' items) := by
  induction items with
  | nil => exact follow_pure _
  | cons item rest ih =>
    refine (h.withSlot opens item).bind fun holds => ?_
    cases quantifier <;> cases holds <;> first | exact follow_pure _ | exact ih

end Tracing

open Tracing

namespace Target

/-! ## Nodes -/

section

variable {ρ ρ' : Naming} {a b : String} {s s' t t' : Target}

theorem follow_guard (h : Follow ρ s.traced s'.traced) (opens : ρ.Open ρ' a b)
    (h' : Follow ρ' t.traced t'.traced) (same : t'.kind = t.kind) (kind : Kind) :
    Follow ρ (guard kind s a t).traced (guard kind s' b t').traced := by
  apply h.bind
  intro v
  cases v.isNull with
  | true => exact same ▸ follow_pure _
  | false => exact h'.withSlot opens v

theorem follow_map (h : Follow ρ s.traced s'.traced) (opens : ρ.Open ρ' a b)
    (h' : Follow ρ' t.traced t'.traced) (kind : Kind) :
    Follow ρ (map kind s a t).traced (map kind s' b t').traced :=
  h.items (follow_pure _) fun items => (h'.mapItems opens items).bind fun _ => follow_pure _

theorem follow_filter (h : Follow ρ s.traced s'.traced) (opens : ρ.Open ρ' a b)
    (h' : Follow ρ' t.traced t'.traced) (kind : Kind) :
    Follow ρ (filter kind s a t).traced (filter kind s' b t').traced :=
  h.items (follow_pure _) fun items =>
    ((h'.truth.inside a b).filterItems opens items).bind fun _ => follow_pure _

theorem follow_quantify (h : Follow ρ s.traced s'.traced) (opens : ρ.Open ρ' a b)
    (h' : Follow ρ' t.traced t'.traced) (kind : Kind) (quantifier : Quantifier) :
    Follow ρ (quantify kind quantifier s a t).traced (quantify kind quantifier s' b t').traced :=
  h.items (follow_pure _) fun items =>
    (h'.truth.quantifyItems opens quantifier items).bind fun _ => follow_pure _

theorem follow_reduce (h : Follow ρ s.traced s'.traced) (kind : Kind) (reduction : Reduction) :
    Follow ρ (reduce kind reduction s).traced (reduce kind reduction s').traced :=
  h.items (follow_pure _) fun _ => follow_still _

/-- Whether the right operand is evaluated depends on what the left one gives. -/
theorem follow_binary (h : Follow ρ s.traced s'.traced) (h' : Follow ρ t.traced t'.traced)
    (kind : Kind) (op : BinaryOp) :
    Follow ρ (binary kind op s t).traced (binary kind op s' t').traced := by
  have right : Follow ρ
      (do return .boolean (← still (Evaluation.truth (← t.traced))) : Tracing Value)
      (do return .boolean (← still (Evaluation.truth (← t'.traced))) : Tracing Value) :=
    h'.bind fun _ => (follow_still _).bind fun _ => follow_pure _
  cases op with
  | andAlso =>
    refine h.bind fun v => (follow_still _).bind fun b => ?_
    cases b with
    | true => exact right
    | false => exact follow_pure _
  | orElse =>
    refine h.bind fun v => (follow_still _).bind fun b => ?_
    cases b with
    | true => exact follow_pure _
    | false => exact right
  | _ => exact h.bind fun v => h'.bind fun v' => follow_still _

theorem follow_convert (h : Follow ρ t.traced t'.traced) (kind : Kind) :
    Follow ρ (convert kind t).traced (convert kind t').traced := by
  apply h.bind
  intro v
  cases v.convert? kind with
  | some converted => exact follow_pure converted
  | none => exact follow_still _

theorem follow_assigned (h : Follow ρ t.traced t'.traced) (kind : Kind) (name : String) :
    Follow ρ (assign kind name t).traced (assign kind name t').traced :=
  h.bind fun v => (follow_assign name v).bind fun _ => follow_pure v

theorem follow_bind (h : Follow ρ s.traced s'.traced) (opens : ρ.Open ρ' a b)
    (h' : Follow ρ' t.traced t'.traced) (kind : Kind) :
    Follow ρ (bind kind s a t).traced (bind kind s' b t').traced :=
  h.bind fun v => h'.withSlot opens v

end

/-! ## Trees -/

variable {effects : Bool}

mutual

/-- Alike trees give the same and have the same effects. -/
theorem Alike.follow {ρ : Naming} {t t' : Target} (h : Alike effects ρ t t') :
    Follow ρ t.traced t'.traced := by
  cases h with
  | constant kind value => exact follow_pure value
  | parameter kind join => exact follow_lookup join
  | property _ _ h | count _ h | unary _ _ h => exact h.follow.bind fun v => follow_still _
  | guard kind h _ h' =>
    exact follow_guard h.follow (Naming.open_push _ _ _) h'.follow h'.kind_eq kind
  | map kind h _ h' => exact follow_map h.follow (Naming.open_push _ _ _) h'.follow kind
  | filter kind h join h' => exact follow_filter h.follow (Naming.open_self join) h'.follow kind
  | quantify kind quantifier h _ h' =>
    exact follow_quantify h.follow (Naming.open_push _ _ _) h'.follow kind quantifier
  | reduce kind reduction h => exact follow_reduce h.follow kind reduction
  | elementAt _ h h' => exact h.follow.bind fun v => h'.follow.bind fun i => follow_still _
  | list _ h => exact h.follow.bind fun values => follow_pure _
  | binary kind op h h' => exact follow_binary h.follow h'.follow kind op
  | call _ builtin _ h => exact h.follow.bind fun values => follow_call builtin values
  | convert kind h => exact follow_convert h.follow kind
  | assign kind name _ h => exact follow_assigned h.follow kind name
  | bind kind h _ h' => exact follow_bind h.follow (Naming.open_push _ _ _) h'.follow kind

/-- Alike trees give the same and have the same effects, one after the other. -/
theorem AllAlike.follow {ρ : Naming} {ts ts' : List Target} (h : AllAlike effects ρ ts ts') :
    Follow ρ (tracedAll ts) (tracedAll ts') := by
  cases h with
  | nil => exact follow_pure []
  | cons first rest => exact first.follow.bind fun v => rest.follow.bind fun _ => follow_pure _

end

end Target

end PredicateLang
