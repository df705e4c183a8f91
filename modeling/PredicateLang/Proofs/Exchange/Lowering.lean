import PredicateLang.Proofs.Alike.Compiled
import PredicateLang.Proofs.Exchange.Relation

/-!
# Lowering trees that may be exchanged

`Lowering.Carries exact d ρ step step' P` says of two steps of lowering for a dialect that, in
scopes with the same names in them, both fail or neither does, and that what they give is related by
`P`. Unless `exact` is true, the first step may also fail alone.

There is one lemma for each function of lowering that builds a tree on an operand or puts something
in front of one.
-/

namespace PredicateLang

open Target

/-- The one scope is proper, and the other one has the same names in it. -/
structure Scope.Twin (scope scope' : Scope) : Prop where
  proper : scope.IsProper
  bindings : scope'.bindings = scope.bindings

/-- Whatever the one result is, the other one is there too and related to it. -/
def Entails {ε α α' : Type} (P : α → α' → Prop) (made : Except ε α) (made' : Except ε α') : Prop :=
  ∀ a, made = .ok a → ∃ a', made' = .ok a' ∧ P a a'

section

variable {ε α α' β β' : Type} {P : α → α' → Prop} {Q : β → β' → Prop} {made : Except ε α}
  {made' : Except ε α'}

theorem entails_ok {a : α} {a' : α'} (h : P a a') :
    Entails P (.ok a : Except ε α) (.ok a' : Except ε α') := by
  rintro b ⟨⟩
  exact ⟨a', rfl, h⟩

theorem entails_error (e : ε) : Entails P (.error e) made' := nofun

theorem Agrees.entails (h : Agrees P made made') : Entails P made made' := by
  cases h with
  | ok holds => exact entails_ok holds
  | error e e' => exact entails_error e

theorem Entails.bind {next : α → Except ε β} {next' : α' → Except ε β'} (h : Entails P made made')
    (h' : ∀ a a', P a a' → Entails Q (next a) (next' a')) :
    Entails Q (made >>= next) (made' >>= next') := by
  intro b done
  obtain ⟨a, made, done⟩ := exists_of_bind_ok done
  obtain ⟨a', made', holds⟩ := h a made
  rw [made']
  exact h' a a' holds b done

end

namespace Lowering

variable {α β α' β' : Type} {exact : Bool} {d : Dialect} {ρ : Naming} {step : Lowering α}
  {step' : Lowering α'}
  {P : α → α' → Prop} {Q : β → β' → Prop}

/-- Both steps have succeeded, and what they gave and the scopes after them are related, or both
have failed, or only the first one has, which is excused unless the steps have to be exact. -/
inductive Carried (exact : Bool) (P : α → α' → Prop) (R : Scope → Scope → Prop) :
    EStateM.Result Error Scope α → EStateM.Result Error Scope α' → Prop where
  | ok {a : α} {a' : α'} {after after' : Scope} (holds : P a a') (scopes : R after after') :
    Carried exact P R (.ok a after) (.ok a' after')
  | error (e e' : Error) (after after' : Scope) :
    Carried exact P R (.error e after) (.error e' after')
  | excused (inexact : exact = false) (e : Error) (a' : α') (after after' : Scope) :
    Carried exact P R (.error e after) (.ok a' after')

/-- Lowering has gone on from two scopes to twin scopes. -/
structure Onward (scope scope' after after' : Scope) : Prop where
  twin : after.Twin after'
  counter : scope.counter ≤ after.counter
  counter' : scope'.counter ≤ after'.counter

theorem Onward.refl {scope scope' : Scope} (twin : scope.Twin scope') :
    Onward scope scope' scope scope' := ⟨twin, Nat.le_refl _, Nat.le_refl _⟩

theorem Onward.trans {scope scope' between between' after after' : Scope}
    (h : Onward scope scope' between between') (h' : Onward between between' after after') :
    Onward scope scope' after after' :=
  ⟨h'.twin, Nat.le_trans h.counter h'.counter, Nat.le_trans h.counter' h'.counter'⟩

/-- Wherever the steps are done in twin scopes, what they give is related, unless both fail. -/
def Carries (exact : Bool) (d : Dialect) (ρ : Naming) (step : Lowering α) (step' : Lowering α')
    (P : α → α' → Prop) : Prop :=
  ∀ settings scope scope', settings.dialect = d → scope.Twin scope' →
    ρ.Old scope.counter scope'.counter →
    Carried exact P (Onward scope scope') (step settings scope) (step' settings scope')

/-! ## Rules -/

theorem Carries.mono {P' : α → α' → Prop} (h : Carries exact d ρ step step' P)
    (le : ∀ a a', P a a' → P' a a') : Carries exact d ρ step step' P' := by
  intro settings scope scope' own twin old
  have both := h settings scope scope' own twin old
  generalize step settings scope = run at both
  generalize step' settings scope' = run' at both
  cases both with
  | ok holds scopes => exact .ok (le _ _ holds) scopes
  | error e e' after after' => exact .error e e' after after'
  | excused inexact e a' after after' => exact .excused inexact e a' after after'

theorem carries_pure {a : α} {a' : α'} (h : P a a') : Carries exact d ρ (pure a) (pure a') P :=
  fun _ _ _ _ twin _ => .ok h (.refl twin)

theorem carries_throw (e e' : Error) : Carries exact d ρ (throw e) (throw e') P :=
  fun _ scope scope' _ _ _ => .error e e' scope scope'

theorem carries_typeFault (fault fault' : TypeFault) :
    Carries exact d ρ (typeFault fault) (typeFault fault') P :=
  carries_throw (.type fault) (.type fault')

theorem carries_ofResult {made : Except Error α} {made' : Except Error α'}
    (h : Agrees P made made') : Carries exact d ρ (ofResult made) (ofResult made') P := by
  cases h with
  | ok holds => exact carries_pure holds
  | error e e' => exact carries_throw e e'

/-- The first step may fail alone. -/
theorem carries_ofResult_of_entails {made : Except Error α} {made' : Except Error α'}
    (h : Entails P made made') : Carries false d ρ (ofResult made) (ofResult made') P := by
  cases made with
  | ok a =>
    obtain ⟨a', rfl, holds⟩ := h a rfl
    exact carries_pure holds
  | error e =>
    cases made' with
    | ok a' => exact fun _ scope scope' _ _ _ => .excused rfl e a' scope scope'
    | error e' => exact carries_throw e e'

theorem Carries.bind {next : α → Lowering β} {next' : α' → Lowering β'}
    (h : Carries exact d ρ step step' P)
    (h' : ∀ a a', P a a' → Carries exact d ρ (next a) (next' a') Q) :
    Carries exact d ρ (step >>= next) (step' >>= next') Q := by
  intro settings scope scope' own twin old
  have both := h settings scope scope' own twin old
  simp only [Bind.bind, ReaderT.bind, EStateM.bind]
  generalize step settings scope = run at both
  generalize step' settings scope' = run' at both
  cases both with
  | error e e' after after' => exact .error e e' after after'
  | excused inexact e a' after after' =>
    dsimp only
    cases next' a' settings after' with
    | ok b' last => exact .excused inexact e b' after last
    | error e' last => exact .error e e' after last
  | ok holds onward =>
    have rest := h' _ _ holds settings _ _ own onward.twin
      (old.mono onward.counter onward.counter')
    dsimp only
    generalize next _ settings _ = run at rest
    generalize next' _ settings _ = run' at rest
    cases rest with
    | ok holds' further => exact .ok holds' (onward.trans further)
    | error e e' after after' => exact .error e e' after after'
    | excused inexact e a' after after' => exact .excused inexact e a' after after'

theorem carries_settings :
    Carries exact d ρ read read (fun settings settings' => settings' = settings
      ∧ settings.dialect = d) :=
  fun _ _ _ own twin _ => .ok ⟨rfl, own⟩ (.refl twin)

theorem carries_dialect :
    Carries exact d ρ dialect dialect (fun one other => one = d ∧ other = d) := by
  refine carries_settings.bind ?_
  rintro settings _ ⟨rfl, own⟩
  exact carries_pure ⟨own, own⟩

section Fresh

variable {letter : String} (length : letter.toList.length = 1)

include length

/-- A new name stands for the other new name. -/
theorem carries_fresh {next : String → Lowering β} {next' : String → Lowering β'}
    (h : ∀ a b, Scope.isMadeUp a → ρ.Extend (ρ.push a b) →
      Carries exact d (ρ.push a b) (next a) (next' b) Q) :
    Carries exact d ρ (fresh letter >>= next) (fresh letter >>= next') Q := by
  intro settings scope scope' own twin old
  have further := h (Scope.madeUp letter (scope.counter + 1))
    (Scope.madeUp letter (scope'.counter + 1)) (Scope.isMadeUp_madeUp _ _) (old.extend_next length)
    settings { scope with counter := scope.counter + 1 }
    { scope' with counter := scope'.counter + 1 } own
    ⟨twin.proper.of_bindings_eq rfl, twin.bindings⟩ (old.next length)
  show Carried exact Q (Onward scope scope')
    (next (Scope.madeUp letter (scope.counter + 1)) settings
      { scope with counter := scope.counter + 1 })
    (next' (Scope.madeUp letter (scope'.counter + 1)) settings
      { scope' with counter := scope'.counter + 1 })
  generalize next _ settings _ = run at further ⊢
  generalize next' _ settings _ = run' at further ⊢
  cases further with
  | ok holds onward =>
    exact .ok holds ⟨onward.twin, Nat.le_of_succ_le onward.counter,
      Nat.le_of_succ_le onward.counter'⟩
  | error e e' after after' => exact .error e e' after after'
  | excused inexact e a' after after' => exact .excused inexact e a' after after'

/-- Only the second step makes up a name, for which no other name stands. -/
theorem carries_fresh_right {next' : String → Lowering α'}
    (h : ∀ b, Scope.isMadeUp b → (∀ x y, ρ x y → y ≠ b) → Carries exact d ρ step (next' b) P) :
    Carries exact d ρ step (fresh letter >>= next') P := by
  intro settings scope scope' own twin old
  have further := h (Scope.madeUp letter (scope'.counter + 1)) (Scope.isMadeUp_madeUp _ _)
    (fun x y join => Naming.ne_madeUp length (old x y join).2)
    settings scope { scope' with counter := scope'.counter + 1 } own
    ⟨twin.proper, twin.bindings⟩ (old.mono (Nat.le_refl _) (Nat.le_succ _))
  show Carried exact P (Onward scope scope') (step settings scope)
    (next' (Scope.madeUp letter (scope'.counter + 1)) settings
      { scope' with counter := scope'.counter + 1 })
  generalize step settings scope = run at further ⊢
  generalize next' _ settings _ = run' at further ⊢
  cases further with
  | ok holds onward =>
    exact .ok holds ⟨onward.twin, onward.counter, Nat.le_of_succ_le onward.counter'⟩
  | error e e' after after' => exact .error e e' after after'
  | excused inexact e a' after after' => exact .excused inexact e a' after after'

end Fresh

/-! ## Guards and shared operands -/

variable {A : Tracing.Assumption} {folded : Bool} {t t' s s' : Target}

theorem carries_elementOf (operation : String) (wanted : Demand) (same : t'.kind = t.kind) :
    Carries exact d ρ (elementOf operation wanted t) (elementOf operation wanted t') (· = ·) := by
  unfold elementOf
  rw [same]
  cases t.kind.element? with
  | some element => exact carries_pure rfl
  | none => exact carries_typeFault _ _

section Build

variable {build build' : Target → Lowering Target} (h : Exchanges A folded ρ t t')

/-- A tree that names an operand, wherever the operand has got its name. -/
abbrev CarriesNamed (exact : Bool) (d : Dialect) (A : Tracing.Assumption) (ρ : Naming) (kind : Kind)
    (build build' : Target → Lowering Target) : Prop :=
  ∀ a b, ρ.Extend (ρ.push a b) → Carries exact d (ρ.push a b) (build (.parameter kind a))
    (build' (.parameter kind b)) (Parallel A false (ρ.push a b))

include h

/-- An operation on either of two trees that need the same guard. -/
theorem carries_guarded_of (same : needsGuard d t' = needsGuard d t)
    (as_is : Carries exact d ρ (build t) (build' t') (Parallel A false ρ))
    (named : CarriesNamed exact d A ρ t.kind build build') :
    Carries exact d ρ (guarded t build) (guarded t' build') (Parallel A false ρ) := by
  refine carries_dialect.bind ?_
  rintro _ _ ⟨rfl, rfl⟩
  rw [same]
  split
  · refine carries_fresh rfl fun a b made extend => ?_
    rw [h.kind_eq]
    refine (named a b extend).bind fun body body' alike => carries_pure ?_
    rw [alike.exchanges.kind_eq]
    exact (h.acts.guard made alike.exchanges.acts _).parallel ⟨rfl, rfl⟩
  · exact as_is

/-- An operation on either of two trees, which are left where they are if they have no effects. -/
theorem carries_shared_of
    (as_is : (d = .objects → t.hasEffects = false) →
      Carries exact d ρ (build t) (build' t') (Parallel A false ρ))
    (named : CarriesNamed exact d A ρ t.kind build build') :
    Carries exact d ρ (shared t build) (shared t' build') (Parallel A false ρ) := by
  refine carries_dialect.bind ?_
  rintro _ _ ⟨rfl, rfl⟩
  rw [h.hasEffects_eq]
  split
  · refine carries_fresh rfl fun a b made extend => ?_
    rw [h.kind_eq]
    refine (named a b extend).bind fun body body' alike => carries_pure ?_
    rw [alike.exchanges.kind_eq]
    exact (h.acts.bind made alike.exchanges.acts _).parallel ⟨rfl, rfl⟩
  · rename_i stays
    exact as_is fun objects => Bool.eq_false_iff.mpr fun effects => stays ⟨objects, effects⟩

/-- An operation that carries over to whatever may be exchanged does so behind a guard. Where letter
case has been folded, it must not be one on collections. -/
theorem carries_guarded (scalar : folded → t.kind.isSequence = false)
    (h' : ∀ ρ' s s', ρ.Extend ρ' → Exchanges A folded ρ' s s' →
      Carries exact d ρ' (build s) (build' s') (Parallel A false ρ')) :
    Carries exact d ρ (guarded t build) (guarded t' build') (Parallel A false ρ) :=
  carries_guarded_of h (h.needsGuard_eq scalar d) (h' ρ t t' (.refl ρ) h)
    fun a b extend => h' _ _ _ extend (parallel_parameter t.kind (Naming.push_self ρ a b)).exchanges

/-- An operation that carries over to whatever may be exchanged does so if the operand is evaluated
ahead of it. -/
theorem carries_shared
    (h' : ∀ ρ' s s', ρ.Extend ρ' → Exchanges A folded ρ' s s' → s.kind = t.kind →
      (d = .objects → s.hasEffects = false) →
        Carries exact d ρ' (build s) (build' s') (Parallel A false ρ')) :
    Carries exact d ρ (shared t build) (shared t' build') (Parallel A false ρ) :=
  carries_shared_of h (h' ρ t t' (.refl ρ) h rfl) fun a b extend => h' _ _ _ extend
    (parallel_parameter t.kind (Naming.push_self ρ a b)).exchanges rfl fun _ => rfl

end Build

/-! ## Casts -/

theorem exchanges_cast {kind : Kind} (h : Exchanges A folded ρ t t')
    (scalar : t.kind.isSequence = false) :
    Agrees (Exchanges A folded ρ) (t.cast kind) (t'.cast kind) := by
  have same := h.constant?_eq scalar
  cases is : t.constant? with
  | none =>
    rw [cast_of_constant?_eq_none is, cast_of_constant?_eq_none (same.trans is), h.kind_eq]
    refine .ok ?_
    split
    · exact h
    · exact ((h.acts.convert kind).parallel ⟨rfl, rfl⟩).exchanges
  | some value =>
    rw [is] at same
    cases t with
    | constant own value =>
      cases t' with
      | constant own' value' =>
        obtain rfl : own' = own := h.kind_eq
        obtain rfl : value' = value := Option.some.inj (same.trans is.symm)
        cases cast : (Target.constant own' value').cast kind with
        | error e => exact .error e e
        | ok u =>
          obtain ⟨kind', value, rfl⟩ := exists_constant_of_cast cast
          exact .ok (parallel_constant kind' value).exchanges
      | _ => cases same
    | _ => cases is

/-- Kinds that can be cast to one another are not those of collections. -/
theorem not_isSequence_of_isCastable {kind : Kind} (castable : kind.isCastable) :
    kind.isSequence = false := by
  cases kind <;> first | rfl | cases castable

/-- Of each pair the trees may be exchanged. -/
def ExchangedPairs (A : Tracing.Assumption) (folded : Bool) (ρ : Naming)
    (p p' : Target × Target) : Prop :=
  Exchanges A folded ρ p.1 p'.1 ∧ Exchanges A folded ρ p.2 p'.2

theorem exchanges_castToElement {kind : Kind} (h : Exchanges A folded ρ t t') :
    Agrees (Exchanges A folded ρ) (t.castToElement kind) (t'.castToElement kind) := by
  unfold castToElement
  rw [h.kind_eq]
  split
  · split
    · rename_i castable
      exact exchanges_cast h (not_isSequence_of_isCastable castable.2)
    · exact .ok h
  · exact .ok h

theorem exchanges_makeScalarsComparable (h : Exchanges A folded ρ t t')
    (h' : Exchanges A folded ρ s s') : Agrees (ExchangedPairs A folded ρ)
      (t.makeScalarsComparable s) (t'.makeScalarsComparable s') := by
  have castable {kind : Kind} {n : Nat} (ranked : kind.rank? = some n) : kind.isCastable := by
    rw [Kind.isCastable, ranked]
    rfl
  unfold makeScalarsComparable
  rw [h.kind_eq, h'.kind_eq]
  split
  · rename_i ranked ranked'
    split
    · exact (exchanges_cast h (not_isSequence_of_isCastable (castable ranked))).bind
        fun _ _ left => .ok ⟨left, h'⟩
    · exact (exchanges_cast h' (not_isSequence_of_isCastable (castable ranked'))).bind
        fun _ _ right => .ok ⟨h, right⟩
  · exact .ok ⟨h, h'⟩
  · split
    · exact .error _ _
    · exact .ok ⟨h, h'⟩

theorem exchanges_makeComparable (h : Exchanges A folded ρ t t') (h' : Exchanges A folded ρ s s') :
    Agrees (ExchangedPairs A folded ρ) (t.makeComparable s) (t'.makeComparable s') := by
  unfold makeComparable
  rw [h.kind_eq, h'.kind_eq]
  split
  · exact .ok ⟨h, h'⟩
  · split
    · exact (exchanges_castToElement h').bind fun _ _ right => .ok ⟨h, right⟩
    · exact (exchanges_castToElement h).bind fun _ _ left => .ok ⟨left, h'⟩
    · exact .ok ⟨h, h'⟩
    · exact exchanges_makeScalarsComparable h h'

end Lowering

end PredicateLang
