import PredicateLang.Proofs.Effects.Quiet

/-!
# Steps that agree under an assumption

`Tracing.FollowUnder A ρ step step'` says that two steps agree wherever an assumption holds and
names that stand for the same have the same values. The assumption may be about the values around
the steps, but not about made-up names, and it still holds after the steps.
-/

namespace PredicateLang

namespace Tracing

/-- Something that is assumed of where a step is done, made-up names aside. -/
structure Assumption where
  Holds : World → Surroundings → Store → Prop
  push : ∀ {world : World} {around : Surroundings} {store : Store} {name : String} (v : Value),
    Scope.isMadeUp name → (Holds world (around.push name v) store ↔ Holds world around store)

/-- Nothing is assumed. -/
def Assumption.none : Assumption := ⟨fun _ _ _ => True, fun _ _ => Iff.rfl⟩

variable {α β : Type} {A : Assumption} {ρ ρ' : Naming} {step step' : Tracing α} {a b : String}

/-- Where the assumption holds and names that stand for the same have the same values, the steps
agree, and the assumption holds after them. -/
def FollowUnder (A : Assumption) (ρ : Naming) (step step' : Tracing α) : Prop :=
  ∀ world around around' store, A.Holds world around store → Surroundings.Match ρ around around' →
    (step world around store).Agree (step' world around' store)
      ∧ A.Holds world around (step world around store).store

/-! ## Rules -/

theorem followUnder_none : FollowUnder .none ρ step step' ↔ Follow ρ step step' :=
  ⟨fun h world around around' store same => (h world around around' store trivial same).1,
    fun h world around around' store _ same => ⟨h world around around' store same, trivial⟩⟩

/-- A step that changes nothing which is remembered keeps every assumption. -/
theorem Follow.under (h : Follow ρ step step') (quiet : Quiet step) :
    FollowUnder A ρ step step' := by
  intro world around around' store holds same
  refine ⟨h world around around' store same, ?_⟩
  rw [(quiet world around store).2]
  exact holds

theorem followUnder_pure (a : α) : FollowUnder A ρ (pure a) (pure a) :=
  (follow_pure a).under (quiet_pure a)

theorem followUnder_still (step : Evaluation α) : FollowUnder A ρ (still step) (still step) :=
  (follow_still step).under (quiet_still step)

/-- What is known of the result of the first step may be used of the next ones. -/
theorem FollowUnder.bind_of {next next' : α → Tracing β} {P : α → Prop}
    (h : FollowUnder A ρ step step')
    (gives : ∀ world around store a, (step world around store).result = .ok a → P a)
    (h' : ∀ a, P a → FollowUnder A ρ (next a) (next' a)) :
    FollowUnder A ρ (step >>= next) (step' >>= next') := by
  intro world around around' store holds same
  have agree := h world around around' store holds same
  cases first : (step world around store).result with
  | error e =>
    obtain ⟨⟨effects, stores, results⟩, holds⟩ := agree
    rw [bind_of_error first, bind_of_error (results.trans first)]
    exact ⟨⟨effects, stores, rfl⟩, holds⟩
  | ok a =>
    obtain ⟨⟨effects, stores, results⟩, holds⟩ := agree
    obtain ⟨⟨effects', stores', results'⟩, holds'⟩ :=
      h' a (gives _ _ _ a first) world around around' (step world around store).store holds same
    rw [bind_of_ok first, bind_of_ok (results.trans first), stores]
    refine ⟨⟨?_, stores', results'⟩, holds'⟩
    simp only [Run.effects, List.filter_append] at effects effects' ⊢
    rw [effects, effects']

theorem FollowUnder.bind {next next' : α → Tracing β} (h : FollowUnder A ρ step step')
    (h' : ∀ a, FollowUnder A ρ (next a) (next' a)) :
    FollowUnder A ρ (step >>= next) (step' >>= next') :=
  h.bind_of (fun _ _ _ _ _ => trivial) fun a _ => h' a

theorem FollowUnder.extend (h : FollowUnder A ρ step step') (extend : ρ.Extend ρ') :
    FollowUnder A ρ' step step' := by
  intro world around around' store holds same
  refine h world around around' store holds ⟨?_, ?_, ?_⟩
  · exact fun x y x' y' join join' => same.unique x y x' y' (extend x y join) (extend x' y' join')
  · exact fun x y join => same.same x y (extend x y join)
  · exact fun x y join => same.unbound x y (extend x y join)

theorem FollowUnder.withSlot (h : FollowUnder A (ρ.push a b) step step') (made : Scope.isMadeUp a)
    (v : Value) : FollowUnder A ρ (withSlot a v step) (withSlot b v step') := by
  intro world around around' store holds same
  obtain ⟨agree, holds'⟩ := h world (around.push a v) (around'.push b v) store
    ((A.push v made).mpr holds) (Naming.open_push ρ a b around around' v same)
  exact ⟨agree, (A.push v made).mp holds'⟩

theorem FollowUnder.truth {step step' : Tracing Value} (h : FollowUnder A ρ step step') :
    FollowUnder A ρ (do still (Evaluation.truth (← step)))
      (do still (Evaluation.truth (← step'))) :=
  h.bind fun _ => followUnder_still _

/-- A step on the items of a source, and another in case that the source is null. -/
theorem FollowUnder.items {source source' : Tracing Value}
    {next next' : Option (List Value) → Tracing β} (h : FollowUnder A ρ source source')
    (none : FollowUnder A ρ (next none) (next' none))
    (some : ∀ items, FollowUnder A ρ (next (some items)) (next' (some items))) :
    FollowUnder A ρ (do next (← still (Evaluation.items? (← source))))
      (do next' (← still (Evaluation.items? (← source')))) := by
  apply h.bind
  intro v
  apply (followUnder_still (Evaluation.items? v)).bind
  intro items
  cases items with
  | none => exact none
  | some items => exact some items

theorem FollowUnder.mapItems {body body' : Tracing Value}
    (h : FollowUnder A (ρ.push a b) body body') (made : Scope.isMadeUp a) (items : List Value) :
    FollowUnder A ρ (mapItems a body items) (mapItems b body' items) := by
  induction items with
  | nil => exact followUnder_pure []
  | cons item rest ih =>
    exact (h.withSlot made item).bind fun v => ih.bind fun _ => followUnder_pure _

theorem FollowUnder.quantifyItems {predicate predicate' : Tracing Bool}
    (h : FollowUnder A (ρ.push a b) predicate predicate') (made : Scope.isMadeUp a)
    (quantifier : Quantifier) (items : List Value) :
    FollowUnder A ρ (quantifyItems quantifier a predicate items)
      (quantifyItems quantifier b predicate' items) := by
  induction items with
  | nil => exact followUnder_pure _
  | cons item rest ih =>
    refine (h.withSlot made item).bind fun holds => ?_
    cases quantifier <;> cases holds <;> first | exact followUnder_pure _ | exact ih

end Tracing

open Tracing

namespace Target

/-- Under the assumption the trees do the same, and they are of the same kind. -/
structure Acts (A : Assumption) (ρ : Naming) (t t' : Target) : Prop where
  kind : t'.kind = t.kind
  effects : t'.hasEffects = t.hasEffects
  follow : FollowUnder A ρ t.traced t'.traced

/-- Under the assumption the trees do the same, one after the other. -/
structure AllAct (A : Assumption) (ρ : Naming) (ts ts' : List Target) : Prop where
  effects : anyHasEffects ts' = anyHasEffects ts
  follow : FollowUnder A ρ (tracedAll ts) (tracedAll ts')

variable {A : Assumption} {ρ ρ' : Naming} {t t' s s' : Target} {ts ts' : List Target} {a b : String}

theorem Acts.extend (h : Acts A ρ t t') (extend : ρ.Extend ρ') : Acts A ρ' t t' :=
  ⟨h.kind, h.effects, h.follow.extend extend⟩

/-- Alike trees without effects do the same under any assumption. -/
theorem Alike.acts (h : t.Alike false ρ t') : Acts A ρ t t' where
  kind := h.kind_eq
  effects := h.hasEffects_eq
  follow := h.follow.under (t.quiet_traced h.hasEffects_eq_false)

theorem allAct_nil : AllAct A ρ [] [] := ⟨rfl, followUnder_pure []⟩

theorem Acts.cons (h : Acts A ρ t t') (h' : AllAct A ρ ts ts') :
    AllAct A ρ (t :: ts) (t' :: ts') where
  effects := by rw [anyHasEffects, anyHasEffects, h.effects, h'.effects]
  follow := h.follow.bind fun _ => h'.follow.bind fun _ => followUnder_pure _

/-! ## Nodes -/

theorem acts_constant (kind : Kind) (value : Value) :
    Acts A ρ (.constant kind value) (.constant kind value) :=
  ⟨rfl, rfl, followUnder_pure value⟩

theorem acts_parameter (kind : Kind) {x y : String} (join : ρ x y) :
    Acts A ρ (.parameter kind x) (.parameter kind y) :=
  ⟨rfl, rfl, (follow_lookup join).under (quiet_lookup x)⟩

/-- A node over one tree that does something to its value. -/
theorem Acts.above {node node' : Target} (h : Acts A ρ t t') (kind : node'.kind = node.kind)
    (effects : node.hasEffects = t.hasEffects ∧ node'.hasEffects = t'.hasEffects)
    (step : Value → Evaluation Value)
    (does : node.traced = (do still (step (← t.traced)))
      ∧ node'.traced = (do still (step (← t'.traced)))) : Acts A ρ node node' where
  kind := kind
  effects := by rw [effects.1, effects.2, h.effects]
  follow := by
    rw [does.1, does.2]
    exact h.follow.bind fun _ => followUnder_still _

theorem Acts.property (h : Acts A ρ t t') (kind : Kind) (name : String) :
    Acts A ρ (.property kind t name) (.property kind t' name) :=
  h.above rfl ⟨rfl, rfl⟩ (fun v => Evaluation.ofResult (Evaluation.property name v)) ⟨rfl, rfl⟩

theorem Acts.count (h : Acts A ρ t t') (kind : Kind) :
    Acts A ρ (.count kind t) (.count kind t') :=
  h.above rfl ⟨rfl, rfl⟩ (fun v => Evaluation.ofResult (Evaluation.count v)) ⟨rfl, rfl⟩

theorem Acts.unary (h : Acts A ρ t t') (kind : Kind) (op : UnaryOp) :
    Acts A ρ (.unary kind op t) (.unary kind op t') :=
  h.above rfl ⟨rfl, rfl⟩ (fun v => Evaluation.ofResult (Evaluation.unary op v)) ⟨rfl, rfl⟩

theorem Acts.convert (h : Acts A ρ t t') (kind : Kind) :
    Acts A ρ (.convert kind t) (.convert kind t') where
  kind := rfl
  effects := h.effects
  follow := by
    refine h.follow.bind fun v => ?_
    cases v.convert? kind with
    | some converted => exact followUnder_pure converted
    | none => exact followUnder_still _

theorem Acts.reduce (h : Acts A ρ t t') (kind : Kind) (reduction : Reduction) :
    Acts A ρ (.reduce kind reduction t) (.reduce kind reduction t') where
  kind := rfl
  effects := h.effects
  follow := h.follow.items (followUnder_pure _) fun _ => followUnder_still _

theorem Acts.elementAt (h : Acts A ρ t t') (h' : Acts A ρ s s') (kind : Kind) :
    Acts A ρ (.elementAt kind t s) (.elementAt kind t' s') where
  kind := rfl
  effects := by simp only [hasEffects, h.effects, h'.effects]
  follow := h.follow.bind fun _ => h'.follow.bind fun _ => followUnder_still _

theorem Acts.binary (h : Acts A ρ t t') (h' : Acts A ρ s s') (kind : Kind) (op : BinaryOp) :
    Acts A ρ (.binary kind op t s) (.binary kind op t' s') where
  kind := rfl
  effects := by simp only [hasEffects, h.effects, h'.effects]
  follow := by
    cases op with
    | andAlso =>
      refine h.follow.bind fun v => (followUnder_still _).bind fun b => ?_
      cases b with
      | true => exact h'.follow.bind fun v => (followUnder_still _).bind fun b => followUnder_pure _
      | false => exact followUnder_pure _
    | orElse =>
      refine h.follow.bind fun v => (followUnder_still _).bind fun b => ?_
      cases b with
      | true => exact followUnder_pure _
      | false =>
        exact h'.follow.bind fun v => (followUnder_still _).bind fun b => followUnder_pure _
    | _ => exact h.follow.bind fun v => h'.follow.bind fun v' => followUnder_still _

theorem AllAct.list (h : AllAct A ρ ts ts') (kind : Kind) :
    Acts A ρ (.list kind ts) (.list kind ts') :=
  ⟨rfl, h.effects, h.follow.bind fun _ => followUnder_pure _⟩

/-- A builtin that draws no random numbers. -/
theorem AllAct.call (h : AllAct A ρ ts ts') (kind : Kind) {builtin : Builtin}
    (still : builtin ≠ .random ∧ builtin ≠ .randomBelow) :
    Acts A ρ (.call kind builtin ts) (.call kind builtin ts') where
  kind := rfl
  effects := by rw [hasEffects, hasEffects, h.effects]
  follow := h.follow.bind fun values => (follow_call builtin values).under (quiet_call still values)

/-! ### Nodes that name values -/

section

variable (h : Acts A ρ s s') (made : Scope.isMadeUp a) (h' : Acts A (ρ.push a b) t t') (kind : Kind)

include h made h'

theorem Acts.guard : Acts A ρ (.guard kind s a t) (.guard kind s' b t') where
  kind := rfl
  effects := by simp only [hasEffects, h.effects, h'.effects]
  follow := by
    refine h.follow.bind fun v => ?_
    cases v.isNull with
    | true => exact h'.kind ▸ followUnder_pure _
    | false => exact h'.follow.withSlot made v

theorem Acts.bind : Acts A ρ (.bind kind s a t) (.bind kind s' b t') where
  kind := rfl
  effects := by simp only [hasEffects, h.effects, h'.effects]
  follow := h.follow.bind fun v => h'.follow.withSlot made v

theorem Acts.map : Acts A ρ (.map kind s a t) (.map kind s' b t') where
  kind := rfl
  effects := by simp only [hasEffects, h.effects, h'.effects]
  follow := h.follow.items (followUnder_pure _) fun items =>
    (h'.follow.mapItems made items).bind fun _ => followUnder_pure _

theorem Acts.quantify (quantifier : Quantifier) :
    Acts A ρ (.quantify kind quantifier s a t) (.quantify kind quantifier s' b t') where
  kind := rfl
  effects := by simp only [hasEffects, h.effects, h'.effects]
  follow := h.follow.items (followUnder_pure _) fun items =>
    (h'.follow.truth.quantifyItems made quantifier items).bind fun _ => followUnder_pure _

end

/-! ### Nodes with effects -/

theorem Acts.of_follow (kind : t'.kind = t.kind) (effects : t'.hasEffects = t.hasEffects)
    (follow : Follow ρ t.traced t'.traced) : Acts .none ρ t t' :=
  ⟨kind, effects, followUnder_none.mpr follow⟩

theorem Acts.assign (h : Acts .none ρ t t') (kind : Kind) (name : String) :
    Acts .none ρ (.assign kind name t) (.assign kind name t') :=
  .of_follow rfl rfl (follow_assigned (followUnder_none.mp h.follow) kind name)

theorem Acts.filter (h : Acts .none ρ s s') (h' : Acts .none ρ t t') (kind : Kind) {name : String}
    (join : ρ name name) : Acts .none ρ (.filter kind s name t) (.filter kind s' name t') := by
  refine .of_follow rfl (by simp only [hasEffects, h.effects, h'.effects]) ?_
  exact follow_filter (followUnder_none.mp h.follow) (Naming.open_self join)
    (followUnder_none.mp h'.follow) kind

theorem AllAct.anyCall (h : AllAct .none ρ ts ts') (kind : Kind) (builtin : Builtin) :
    Acts .none ρ (.call kind builtin ts) (.call kind builtin ts') :=
  .of_follow rfl (by rw [hasEffects, hasEffects, h.effects])
    ((followUnder_none.mp h.follow).bind fun values => follow_call builtin values)

end Target

end PredicateLang
