import PredicateLang.Proofs.Condition
import PredicateLang.Proofs.Dialects.Occurrence
import PredicateLang.Proofs.Effects.Trace

/-!
# What holds of the steps holds of the tree

Evaluation puts the steps of a tree together in four ways: one after the other, with a slot, inside
the predicate of a subquery, and once for each item. A property that is kept by these
(`Tracing.Composes`) holds of the evaluation of a whole tree as soon as it holds of the assignments
and calls in it (`Tracing.Composes.traced`). The induction on trees is done here, by
`Target.induct`, on the trees right below a tree.

`Target.hasEffects` tells whether one of the nodes has effects.
-/

namespace PredicateLang

namespace Target

/-! ## Induction -/

theorem sizeOf_lt_of_mem_children {t : Target} {child : Binders × Target}
    (mem : child ∈ t.children) : sizeOf child.2 < sizeOf t := by
  cases t with
  | list _ ts | call _ _ ts =>
    obtain ⟨s, mem', rfl⟩ := List.mem_map.mp mem
    have smaller := List.sizeOf_lt_of_mem mem'
    show sizeOf s < _
    simp only [list.sizeOf_spec, call.sizeOf_spec]
    omega
  | constant | parameter => cases mem
  | _ =>
    simp only [children, List.mem_cons, List.not_mem_nil, or_false] at mem
    rcases mem with rfl | rfl <;> simp <;> omega

/-- What holds of a tree if it holds of the trees right below it holds of every tree. -/
theorem induct {motive : Target → Prop}
    (node : ∀ t : Target, (∀ child ∈ t.children, motive child.2) → motive t) (t : Target) :
    motive t :=
  node t fun child _ => induct node child.2
termination_by sizeOf t
decreasing_by exact sizeOf_lt_of_mem_children ‹_›

end Target

namespace Target

/-! ## Nodes with effects -/

/-- Does the second tree occur in the first? -/
def Contains (t s : Target) : Prop := ∃ Δ, Occurs [] t Δ s

/-- Is the variable assigned in the tree? -/
def Assigns (t : Target) (name : String) : Prop := ∃ kind value, t.Contains (assign kind name value)

/-- Is the builtin function called in the tree? -/
def Calls (t : Target) (builtin : Builtin) : Prop := ∃ kind args, t.Contains (call kind builtin args)

/-- Is a function called in the tree that draws a random number? -/
def Draws (t : Target) : Prop := ∃ builtin : Builtin, builtin.isRandom ∧ t.Calls builtin

/-- Does the step of the node itself have effects? -/
def isEffect : Target → Bool
  | assign .. => true
  | call _ builtin _ => builtin.isRandom
  | _ => false

theorem anyHasEffects_eq (ts : List Target) : anyHasEffects ts = ts.any hasEffects := by
  induction ts with
  | nil => rfl
  | cons t rest ih => rw [anyHasEffects, ih, List.any_cons]

theorem hasEffects_eq (t : Target) :
    t.hasEffects = (t.isEffect || t.children.any fun child => child.2.hasEffects) := by
  cases t with
  | list | call =>
    simp [hasEffects, anyHasEffects_eq, isEffect, children, Builtin.isRandom, Function.comp_def]
  | _ => simp [hasEffects, isEffect, children]

/-- A tree is without effects if none of its nodes has effects. -/
theorem hasEffects_eq_false_iff {Γ : Binders} {t : Target} :
    t.hasEffects = false ↔ t.Everywhere (fun _ s => s.isEffect = false) Γ := by
  induction t using induct generalizing Γ with
  | node t ih =>
  rw [hasEffects_eq, everywhere_iff, Bool.or_eq_false_iff, List.any_eq_false]
  refine and_congr_right fun _ => forall₂_congr fun child mem => ?_
  rw [Bool.not_eq_true, ih child mem]

/-- A tree has effects if a variable is assigned in it or a random number drawn, and only then. -/
theorem hasEffects_iff {t : Target} : t.hasEffects ↔ (∃ name, t.Assigns name) ∨ t.Draws := by
  rw [← not_iff_not, Bool.not_eq_true, hasEffects_eq_false_iff (Γ := [])]
  constructor
  · rintro still (⟨name, kind, value, Δ, occurs⟩ | ⟨builtin, random, kind, args, Δ, occurs⟩)
    · cases still Δ _ occurs
    · cases random.symm.trans (still Δ _ occurs)
  · intro none Δ s occurs
    rw [← Bool.not_eq_true]
    intro effect
    apply none
    cases s with
    | assign kind name value => exact .inl ⟨name, kind, value, Δ, occurs⟩
    | call kind builtin args => exact .inr ⟨builtin, effect, kind, args, Δ, occurs⟩
    | _ => cases effect

end Target

namespace Tracing

/-! ## Properties of steps -/

/-- A property of the steps that do no more than to look at something, which steps put together from
steps with the property have too. -/
structure Composes (P : (α : Type) → Tracing α → Prop) : Prop where
  ofResult {α : Type} (result : Except Error α) : P α (still (Evaluation.ofResult result))
  lookup (name : String) : P Value (lookup name)
  bind {α β : Type} {step : Tracing α} {next : α → Tracing β} (h : P α step)
    (h' : ∀ a, P β (next a)) : P β (step >>= next)
  withSlot {α : Type} {step : Tracing α} (h : P α step) (name : String) (v : Value) :
    P α (withSlot name v step)
  inside {α : Type} {step : Tracing α} (h : P α step) (name : String) : P α (inside name step)

namespace Composes

variable {P : (α : Type) → Tracing α → Prop} {α : Type}

theorem pure (h : Composes P) (a : α) : P α (pure a) := h.ofResult (.ok a)

theorem throw (h : Composes P) (e : Error) : P α (still (throw e)) := h.ofResult (.error e)

theorem truth (h : Composes P) (v : Value) : P Bool (still (Evaluation.truth v)) := by
  cases v with
  | boolean b => exact h.pure b
  | null => exact h.pure false
  | _ => exact h.throw _

/-- A step on the items of a source, and another in case that the source is null. -/
theorem items (h : Composes P) {source : Tracing Value} {next : Option (List Value) → Tracing α}
    (hs : P Value source) (none : P α (next none)) (some : ∀ items, P α (next (some items))) :
    P α (do next (← still (Evaluation.items? (← source)))) := by
  have found (v : Value) : P (Option (List Value)) (still (Evaluation.items? v)) := by
    cases v with
    | null => exact h.pure Option.none
    | array items => exact h.pure (Option.some items)
    | _ => exact h.throw _
  refine h.bind hs fun v => h.bind (found v) fun items => ?_
  cases items with
  | none => exact none
  | some items => exact some items

theorem mapItems (h : Composes P) {body : Tracing Value} (hb : P Value body) (parameter : String)
    (items : List Value) : P (List Value) (mapItems parameter body items) := by
  induction items with
  | nil => exact h.pure []
  | cons item rest ih =>
    exact h.bind (h.withSlot hb parameter item) fun _ => h.bind ih fun _ => h.pure _

theorem filterItems (h : Composes P) {predicate : Tracing Bool} (hp : P Bool predicate)
    (parameter : String) (items : List Value) :
    P (List Value) (filterItems parameter predicate items) := by
  induction items with
  | nil => exact h.pure []
  | cons item rest ih =>
    exact h.bind (h.withSlot hp parameter item) fun _ => h.bind ih fun _ => h.pure _

theorem quantifyItems (h : Composes P) {predicate : Tracing Bool} (hp : P Bool predicate)
    (quantifier : Quantifier) (parameter : String) (items : List Value) :
    P Bool (quantifyItems quantifier parameter predicate items) := by
  induction items with
  | nil => exact h.pure _
  | cons item rest ih =>
    refine h.bind (h.withSlot hp parameter item) fun holds => ?_
    cases quantifier <;> cases holds <;> first | exact h.pure _ | exact ih

/-- Calls have the property, if drawing a random number has it for the functions that do and looking
at the time for the one that does. -/
theorem call (h : Composes P) {builtin : Builtin} (draws : builtin.isRandom → P Int draw)
    (looks : builtin = .now → ∀ args, P Value (Tracing.call .now args)) (args : List Value) :
    P Value (Tracing.call builtin args) := by
  cases builtin with
  | random => exact h.bind (draws rfl) fun _ => h.pure _
  | randomBelow => exact h.bind (h.ofResult _) fun _ => h.bind (draws rfl) fun _ => h.pure _
  | now => exact looks rfl args
  | _ => exact h.ofResult _

theorem tracedAll (h : Composes P) {ts : List Target} (each : ∀ t ∈ ts, P Value t.traced) :
    P (List Value) (Target.tracedAll ts) := by
  induction ts with
  | nil => exact h.pure []
  | cons t rest ih =>
    exact h.bind (each t (.head _)) fun _ =>
      h.bind (ih fun t mem => each t (.tail _ mem)) fun _ => h.pure _

end Composes

/-! ## Properties of trees -/

/-- If the tree is an assignment or a call, then the step of its own has the property. -/
def Allows (P : (α : Type) → Tracing α → Prop) : Target → Prop
  | .assign _ name _ => ∀ v, P Unit (assign name v)
  | .call _ builtin _ => ∀ args, P Value (call builtin args)
  | _ => True

/-- If every assignment and call in the tree has the property, whatever it is for, then the tree
has it. -/
theorem Composes.traced_of_everywhere {P : (α : Type) → Tracing α → Prop} (h : Composes P)
    {Γ : Binders} {t : Target} (steps : t.Everywhere (fun _ => Allows P) Γ) : P Value t.traced := by
  induction t using Target.induct generalizing Γ with
  | node t ih =>
  obtain ⟨here, below⟩ := Target.everywhere_iff.mp steps
  have ih : ∀ child ∈ t.children, P Value child.2.traced :=
    fun child mem => ih child mem (below child mem)
  cases t with
  | constant _ value => exact h.pure value
  | parameter _ name => exact h.lookup name
  | property _ s _ | count _ s | unary _ _ s =>
    exact h.bind (ih _ (.head _)) fun _ => h.ofResult _
  | guard _ s name t =>
    refine h.bind (ih _ (.head _)) fun v => ?_
    cases v.isNull with
    | true => exact h.pure _
    | false => exact h.withSlot (ih _ (.tail _ (.head _))) name v
  | map _ s name t =>
    exact h.items (ih _ (.head _)) (h.pure _) fun items =>
      h.bind (h.mapItems (ih _ (.tail _ (.head _))) name items) fun _ => h.pure _
  | filter _ s name t =>
    exact h.items (ih _ (.head _)) (h.pure _) fun items =>
      h.bind (h.filterItems (h.inside (h.bind (ih _ (.tail _ (.head _))) h.truth) name) name items)
        fun _ => h.pure _
  | quantify _ quantifier s name t =>
    exact h.items (ih _ (.head _)) (h.pure _) fun items =>
      h.bind (h.quantifyItems (h.bind (ih _ (.tail _ (.head _))) h.truth) quantifier name items)
        fun _ => h.pure _
  | reduce _ _ s => exact h.items (ih _ (.head _)) (h.pure _) fun _ => h.ofResult _
  | elementAt _ s t =>
    exact h.bind (ih _ (.head _)) fun _ => h.bind (ih _ (.tail _ (.head _))) fun _ => h.ofResult _
  | list _ ts =>
    exact h.bind (h.tracedAll fun t mem => ih _ (List.mem_map_of_mem mem)) fun _ => h.pure _
  | binary _ op s t =>
    have first := ih _ (.head _)
    have second := ih _ (.tail _ (.head _))
    have last : P Value (do return .boolean (← still (Evaluation.truth (← t.traced)))) :=
      h.bind second fun v => h.bind (h.truth v) fun _ => h.pure _
    -- A connective may leave the second operand alone.
    cases op with
    | andAlso =>
      refine h.bind first fun v => h.bind (h.truth v) fun b => ?_
      cases b with
      | true => exact last
      | false => exact h.pure _
    | orElse =>
      refine h.bind first fun v => h.bind (h.truth v) fun b => ?_
      cases b with
      | true => exact h.pure _
      | false => exact last
    | _ => exact h.bind first fun _ => h.bind second fun _ => h.ofResult _
  | call _ builtin ts =>
    exact h.bind (h.tracedAll fun t mem => ih _ (List.mem_map_of_mem mem)) fun values => here values
  | convert kind s =>
    refine h.bind (ih _ (.head _)) fun v => ?_
    cases v.convert? kind with
    | some converted => exact h.pure converted
    | none => exact h.throw _
  | assign _ name s =>
    exact h.bind (ih _ (.head _)) fun v => h.bind (here v) fun _ => h.pure v
  | bind _ s name t =>
    exact h.bind (ih _ (.head _)) fun v => h.withSlot (ih _ (.tail _ (.head _))) name v

/-- If every assignment in the tree has the property and every call, then the tree has it. -/
theorem Composes.traced {P : (α : Type) → Tracing α → Prop} (h : Composes P) {t : Target}
    (assigns : ∀ name, t.Assigns name → ∀ v, P Unit (assign name v))
    (calls : ∀ builtin, t.Calls builtin → ∀ args, P Value (Tracing.call builtin args)) :
    P Value t.traced := by
  refine h.traced_of_everywhere (Γ := []) fun Δ s occurs => ?_
  cases s with
  | assign kind name value => exact assigns name ⟨kind, value, Δ, occurs⟩
  | call kind builtin args => exact calls builtin ⟨kind, args, Δ, occurs⟩
  | _ => trivial

/-- A tree without effects has the property, if looking at the time has it where that is done. -/
theorem Composes.traced_of_still {P : (α : Type) → Tracing α → Prop} (h : Composes P) {t : Target}
    (still : t.hasEffects = false)
    (looks : t.Calls .now → ∀ args, P Value (Tracing.call .now args)) : P Value t.traced := by
  have none : ¬ ((∃ name, t.Assigns name) ∨ t.Draws) := by
    rw [← Target.hasEffects_iff, still]
    exact Bool.false_ne_true
  refine h.traced (fun name assigned => absurd (.inl ⟨name, assigned⟩) none) ?_
  intro builtin called args
  refine h.call (fun random => absurd (.inr ⟨builtin, random, called⟩) none) ?_ args
  rintro rfl args
  exact looks called args

end Tracing

end PredicateLang
