import PredicateLang.Proofs.Effects.Compiled
import PredicateLang.Proofs.Effects.Plain

/-!
# Steps that agree if neither fails

Of two steps that may fail for different reasons, `Tracing.Accord known ρ R step step'` says what
holds if neither does: what they give is related by `R`, and they leave the same behind. It is said
of surroundings of which something is known, and in which names that stand for the same have the
same values. What a step may give in such surroundings can be added to what is known of the next
one.
-/

namespace PredicateLang

/-- What is known of the slots around a step. -/
abbrev Known := List (String × Value) → Prop

namespace Known

/-- One more slot, for a value of which something is known. -/
def push (known : Known) (name : String) (P : Value → Prop) : Known := fun slots =>
  ∃ before v, known before ∧ P v ∧ slots = (name, v) :: before

/-- There are no such surroundings. -/
def Never (known : Known) : Prop := ∀ slots, ¬ known slots

theorem Never.push {known : Known} (h : known.Never) (name : String) (P : Value → Prop) :
    (known.push name P).Never := by
  rintro slots ⟨before, -, holds, -⟩
  exact h before holds

end Known

namespace Tracing

variable {α α' β β' : Type} {known : Known} {ρ ρ' : Naming} {a b : String}
  {step : Tracing α} {step' : Tracing α'} {R : α → α' → Prop} {S : β → β' → Prop}

/-- In such surroundings the step may give this. -/
def MayGive (known : Known) (step : Tracing α) (a : α) : Prop :=
  ∃ world around store, known around.slots ∧ (step world around store).result = .ok a

/-- Where names that stand for the same have the same values, what the steps give, if both do, is
related, and they leave the same behind. -/
def Accord (known : Known) (ρ : Naming) (R : α → α' → Prop) (step : Tracing α)
    (step' : Tracing α') : Prop :=
  ∀ world around around' store a a', known around.slots → Surroundings.Match ρ around around' →
    (step world around store).result = .ok a → (step' world around' store).result = .ok a' →
      R a a' ∧ (step' world around' store).store = (step world around store).store

/-! ## Rules -/

theorem Follow.accord {step' : Tracing α} (h : Follow ρ step step') :
    Accord known ρ Eq step step' := by
  intro world around around' store a a' _ same ok ok'
  obtain ⟨-, stores, results⟩ := h world around around' store same
  rw [results, ok] at ok'
  exact ⟨Except.ok.inj ok', stores⟩

theorem accord_pure {a : α} {a' : α'} (h : R a a') : Accord known ρ R (pure a) (pure a') := by
  intro world around around' store v v' _ _ ok ok'
  cases ok
  cases ok'
  exact ⟨h, rfl⟩

/-- Two results, which are related if both are there. -/
theorem accord_ofResult {made : Except Error α} {made' : Except Error α'}
    (h : ∀ a a', made = .ok a → made' = .ok a' → R a a') :
    Accord known ρ R (still (Evaluation.ofResult made)) (still (Evaluation.ofResult made')) := by
  intro world around around' store a a' _ _ ok ok'
  rw [result_still_ofResult] at ok ok'
  refine ⟨h a a' ok ok', ?_⟩
  rw [ok, ok']
  rfl

theorem Accord.bind {next : α → Tracing β} {next' : α' → Tracing β'}
    (h : Accord known ρ R step step')
    (h' : ∀ a a', R a a' → Accord known ρ S (next a) (next' a')) :
    Accord known ρ S (step >>= next) (step' >>= next') := by
  intro world around around' store b b' holds same ok ok'
  obtain ⟨a, first, rest⟩ := exists_of_bind ok
  obtain ⟨a', first', rest'⟩ := exists_of_bind ok'
  obtain ⟨related, stores⟩ := h world around around' store a a' holds same first first'
  rw [bind_of_ok first, bind_of_ok first', stores]
  rw [stores] at rest'
  exact h' a a' related world around around' _ b b' holds same rest rest'

/-- What the first step may give is known of what it gives. -/
theorem Accord.told (h : Accord known ρ R step step') :
    Accord known ρ (fun a a' => R a a' ∧ MayGive known step a) step step' := by
  intro world around around' store a a' holds same ok ok'
  obtain ⟨related, stores⟩ := h world around around' store a a' holds same ok ok'
  exact ⟨⟨related, world, around, store, holds, ok⟩, stores⟩

theorem Accord.mono {S : α → α' → Prop} (h : Accord known ρ R step step')
    (le : ∀ a a', R a a' → S a a') : Accord known ρ S step step' := by
  intro world around around' store a a' holds same ok ok'
  obtain ⟨related, stores⟩ := h world around around' store a a' holds same ok ok'
  exact ⟨le a a' related, stores⟩

theorem Accord.withSlot {Q : Value → Prop} {v : Value}
    (h : Accord (known.push a Q) ρ' R step step') (opens : ρ.Open ρ' a b) (holds : Q v) :
    Accord known ρ R (withSlot a v step) (withSlot b v step') :=
  fun world around around' store r r' before same ok ok' =>
    h world _ _ store r r' ⟨around.slots, v, before, holds, rfl⟩ (opens around around' v same) ok
      ok'

theorem Accord.inside (h : Accord known ρ R step step') (name : String) :
    Accord known ρ R (inside name step) (inside name step') :=
  fun world _ _ store r r' holds same ok ok' =>
    h world _ _ store r r' holds ⟨same.unique, same.same, same.unbound⟩ ok ok'

theorem Accord.truth {step step' : Tracing Value} (h : Accord known ρ Eq step step') :
    Accord known ρ Eq (do still (Evaluation.truth (← step)))
      (do still (Evaluation.truth (← step'))) := by
  refine h.bind ?_
  rintro v _ rfl
  exact (follow_still _).accord

/-! ## Items -/

section Items

variable {Q : Value → Prop} {items : List Value}

theorem Accord.filterItems {predicate predicate' : Tracing Bool}
    (h : Accord (known.push a Q) ρ' Eq predicate predicate') (opens : ρ.Open ρ' a b)
    (hold : ∀ item ∈ items, Q item) :
    Accord known ρ Eq (filterItems a predicate items) (filterItems b predicate' items) := by
  induction items with
  | nil => exact accord_pure rfl
  | cons item rest ih =>
    rw [List.forall_mem_cons] at hold
    refine (h.withSlot opens hold.1).bind ?_
    rintro keep _ rfl
    refine (ih hold.2).bind ?_
    rintro kept _ rfl
    exact accord_pure rfl

theorem Accord.quantifyItems {predicate predicate' : Tracing Bool}
    (h : Accord (known.push a Q) ρ' Eq predicate predicate') (opens : ρ.Open ρ' a b)
    (quantifier : Quantifier) (hold : ∀ item ∈ items, Q item) :
    Accord known ρ Eq (quantifyItems quantifier a predicate items)
      (quantifyItems quantifier b predicate' items) := by
  induction items with
  | nil => exact accord_pure rfl
  | cons item rest ih =>
    rw [List.forall_mem_cons] at hold
    refine (h.withSlot opens hold.1).bind ?_
    rintro told _ rfl
    cases quantifier <;> cases told <;> first | exact accord_pure rfl | exact ih hold.2

end Items

/-- Only an array has items, and only null goes without them. -/
theorem eq_of_items? {v : Value} {found : Option (List Value)} {world : World}
    {around : Surroundings} {store : Store}
    (ok : (still (Evaluation.items? v) world around store).result = .ok found) :
    v = found.elim .null .array := by
  cases v with
  | array | null =>
    cases ok
    rfl
  | _ => cases ok

/-- A step on the items of a source, and another in case that the source is null. -/
theorem Accord.items {source source' : Tracing Value} {next : Option (List Value) → Tracing β}
    {next' : Option (List Value) → Tracing β'} (h : Accord known ρ Eq source source')
    (none : Accord known ρ S (next none) (next' none))
    (some : ∀ items, source.MayGive known (.array items) →
      Accord known ρ S (next (some items)) (next' (some items))) :
    Accord known ρ S (do next (← still (Evaluation.items? (← source))))
      (do next' (← still (Evaluation.items? (← source')))) := by
  refine h.told.bind ?_
  rintro v _ ⟨rfl, given⟩
  refine (follow_still (Evaluation.items? v)).accord.told.bind ?_
  rintro found _ ⟨rfl, world, around, store, -, ok⟩
  cases found with
  | none => exact none
  | some items =>
    obtain rfl : v = .array items := eq_of_items? ok
    exact some items given

end Tracing

end PredicateLang
