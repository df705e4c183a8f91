import PredicateLang.Lowering
import PredicateLang.Proofs.Alike.Relation
import PredicateLang.Proofs.Coercion
import PredicateLang.Proofs.Typing.Lowering

/-!
# Lowering gives alike trees

`Lowering.Alike ρ step step' Q` says of two steps of lowering that, wherever in the numbering each of
them is done, both fail or neither does, that what they give is related by `Q`, and that neither
brings anything into scope. There is one lemma for each function of lowering: of alike operands it
makes alike trees. A function that makes up a name does the rest of its work under one more pair of
names, so a lemma for what it builds must hold under every extension of the naming.
-/

namespace PredicateLang

/-- Lowering has gone on from one scope to another and brought nothing into scope. -/
structure Scope.Leads (scope after : Scope) : Prop where
  bindings : after.bindings = scope.bindings
  counter : scope.counter ≤ after.counter

theorem Scope.Leads.refl (scope : Scope) : scope.Leads scope := ⟨rfl, Nat.le_refl _⟩

theorem Scope.Leads.trans {scope between after : Scope} (h : scope.Leads between)
    (h' : between.Leads after) : scope.Leads after where
  bindings := h'.bindings.trans h.bindings
  counter := Nat.le_trans h.counter h'.counter

namespace Lowering

variable {α β α' β' : Type} {ρ : Naming} {step : Lowering α} {step' : Lowering α'}
  {P : α → α' → Prop} {Q : β → β' → Prop}

/-! ## Two outcomes -/

/-- Both steps have succeeded, and what they gave and the scopes after them are related, or both have
failed. -/
inductive Outcomes (P : α → α' → Prop) (R : Scope → Scope → Prop) :
    EStateM.Result Error Scope α → EStateM.Result Error Scope α' → Prop where
  | ok {a : α} {a' : α'} {after after' : Scope} (holds : P a a') (scopes : R after after') :
    Outcomes P R (.ok a after) (.ok a' after')
  | error (e e' : Error) (after after' : Scope) : Outcomes P R (.error e after) (.error e' after')

section

variable {R R' : Scope → Scope → Prop} {settings : Settings} {scope scope' : Scope}
  {run : EStateM.Result Error Scope α} {run' : EStateM.Result Error Scope α'}

theorem Outcomes.of_ok {a : α} {a' : α'} {after after' : Scope}
    (h : Outcomes P R (.ok a after) (.ok a' after')) : P a a' ∧ R after after' := by
  cases h with
  | ok holds scopes => exact ⟨holds, scopes⟩

/-- If the one step has succeeded, then so has the other. -/
theorem Outcomes.exists_ok {a : α} {after : Scope} (h : Outcomes P R (.ok a after) run') :
    ∃ a' after', run' = .ok a' after' ∧ P a a' ∧ R after after' := by
  cases h with
  | ok holds scopes => exact ⟨_, _, rfl, holds, scopes⟩

theorem Outcomes.mono {P' : α → α' → Prop} (h : Outcomes P R run run')
    (le : ∀ a a', P a a' → P' a a') (le' : ∀ after after', R after after' → R' after after') :
    Outcomes P' R' run run' := by
  cases h with
  | ok holds scopes => exact .ok (le _ _ holds) (le' _ _ scopes)
  | error e e' after after' => exact .error e e' after after'

theorem Outcomes.bind {next : α → Lowering β} {next' : α' → Lowering β'}
    (h : Outcomes P R (step settings scope) (step' settings scope'))
    (h' : ∀ a a' between between', P a a' → R between between' →
      Outcomes Q R' (next a settings between) (next' a' settings between')) :
    Outcomes Q R' ((step >>= next) settings scope) ((step' >>= next') settings scope') := by
  simp only [Bind.bind, ReaderT.bind, EStateM.bind]
  -- What comes next depends on the runs of the first steps alone.
  generalize step settings scope = run at h
  generalize step' settings scope' = run' at h
  cases h with
  | ok holds scopes => exact h' _ _ _ _ holds scopes
  | error e e' after after' => exact .error e e' after after'

end

/-- Wherever the steps are done, both fail, or what they give is related. -/
def Alike (ρ : Naming) (step : Lowering α) (step' : Lowering α') (P : α → α' → Prop) : Prop :=
  ∀ settings scope scope', ρ.Old scope.counter scope'.counter →
    Outcomes P (fun after after' => scope.Leads after ∧ scope'.Leads after')
      (step settings scope) (step' settings scope')

/-! ## Rules -/

theorem Alike.mono {P' : α → α' → Prop} (h : Alike ρ step step' P) (le : ∀ a a', P a a' → P' a a') :
    Alike ρ step step' P' := fun settings scope scope' old =>
  (h settings scope scope' old).mono le fun _ _ leads => leads

theorem alike_pure {a : α} {a' : α'} (h : P a a') : Alike ρ (pure a) (pure a') P :=
  fun _ scope scope' _ => .ok h ⟨.refl scope, .refl scope'⟩

theorem alike_throw (e e' : Error) : Alike ρ (throw e) (throw e') P :=
  fun _ scope scope' _ => .error e e' scope scope'

theorem alike_typeFault (fault fault' : TypeFault) :
    Alike ρ (typeFault fault) (typeFault fault') P :=
  alike_throw (.type fault) (.type fault')

theorem alike_ofResult {result : Except Error α} {result' : Except Error α'}
    (h : Agrees P result result') : Alike ρ (ofResult result) (ofResult result') P := by
  cases h with
  | ok holds => exact alike_pure holds
  | error e e' => exact alike_throw e e'

theorem Alike.bind {next : α → Lowering β} {next' : α' → Lowering β'} (h : Alike ρ step step' P)
    (h' : ∀ a a', P a a' → Alike ρ (next a) (next' a') Q) :
    Alike ρ (step >>= next) (step' >>= next') Q := by
  intro settings scope scope' old
  refine (h settings scope scope' old).bind ?_
  rintro a a' between between' holds ⟨leads, leads'⟩
  refine (h' a a' holds settings between between' (old.mono leads.counter leads'.counter)).mono
    (fun _ _ holds => holds) ?_
  rintro after after' ⟨further, further'⟩
  exact ⟨leads.trans further, leads'.trans further'⟩

theorem alike_settings : Alike ρ (read : Lowering Settings) read (· = ·) :=
  fun _ scope scope' _ => .ok rfl ⟨.refl scope, .refl scope'⟩

theorem alike_dialect : Alike ρ dialect dialect (· = ·) :=
  alike_settings.bind fun _ _ same => alike_pure (congrArg Settings.dialect same)

/-- A new name stands for the other new name. -/
theorem alike_fresh {letter : String} (length : letter.toList.length = 1)
    {next : String → Lowering β} {next' : String → Lowering β'}
    (h : ∀ a b, (Scope.isMadeUp a ∧ Scope.isMadeUp b) → ρ.Extend (ρ.push a b) →
      Alike (ρ.push a b) (next a) (next' b) Q) :
    Alike ρ (fresh letter >>= next) (fresh letter >>= next') Q := by
  intro settings scope scope' old
  have further := h (Scope.madeUp letter (scope.counter + 1))
    (Scope.madeUp letter (scope'.counter + 1))
    ⟨Scope.isMadeUp_madeUp _ _, Scope.isMadeUp_madeUp _ _⟩ (old.extend_next length)
    settings { scope with counter := scope.counter + 1 }
    { scope' with counter := scope'.counter + 1 } (old.next length)
  refine further.mono (fun _ _ holds => holds) ?_
  rintro after after' ⟨leads, leads'⟩
  exact ⟨⟨leads.bindings, Nat.le_of_succ_le leads.counter⟩,
    ⟨leads'.bindings, Nat.le_of_succ_le leads'.counter⟩⟩

/-! ## Guards and shared operands -/

variable {effects : Bool} {t t' s s' : Target}

theorem alike_elementOf (operation : String) (wanted : Demand) (h : t.Alike effects ρ t') :
    Alike ρ (elementOf operation wanted t) (elementOf operation wanted t') (· = ·) := by
  unfold elementOf
  rw [h.kind_eq]
  cases t.kind.element? with
  | some element => exact alike_pure rfl
  | none => exact alike_typeFault _ _

theorem alike_parameter (same : t'.kind = t.kind) {a b : String} :
    (Target.parameter t.kind a).Alike effects (ρ.push a b) (.parameter t'.kind b) := by
  rw [same]
  exact .parameter t.kind (Naming.push_self _ a b)

section Build

variable {build build' : Target → Lowering Target} (h : t.Alike effects ρ t')
  (h' : ∀ ρ' s s', ρ.Extend ρ' → s.Alike effects ρ' s' →
    Alike ρ' (build s) (build' s') (Target.Alike effects ρ'))

include h h'

theorem alike_guarded : Alike ρ (guarded t build) (guarded t' build') (Target.Alike effects ρ) := by
  refine alike_dialect.bind ?_
  rintro dialect _ rfl
  rw [h.needsGuard_eq]
  split
  · refine alike_fresh rfl fun a b made extend => ?_
    refine (h' _ _ _ extend (alike_parameter h.kind_eq)).bind fun body body' alike => alike_pure ?_
    rw [alike.kind_eq]
    exact .guard _ h made alike
  · exact h' ρ t t' (.refl ρ) h

theorem alike_shared : Alike ρ (shared t build) (shared t' build') (Target.Alike effects ρ) := by
  refine alike_dialect.bind ?_
  rintro dialect _ rfl
  rw [h.hasEffects_eq]
  split
  · refine alike_fresh rfl fun a b made extend => ?_
    refine (h' _ _ _ extend (alike_parameter h.kind_eq)).bind fun body body' alike => alike_pure ?_
    rw [alike.kind_eq]
    exact .bind _ h made alike
  · exact h' ρ t t' (.refl ρ) h

end Build

/-! ## Key paths -/

theorem alike_propertyOn {ρ : Naming} {t t' : Target} (name : String) (kind : Kind)
    (h : t.Alike effects ρ t') :
    Alike ρ (propertyOn name kind t) (propertyOn name kind t') (Target.Alike effects ρ) := by
  cases kind with
  | sequence element =>
    unfold propertyOn
    refine alike_fresh rfl fun a b made extend => ?_
    refine (alike_propertyOn name element (.parameter element (Naming.push_self _ a b))).bind
      fun body body' alike => alike_pure ?_
    rw [alike.kind_eq]
    exact .map _ h made alike
  | _ =>
    unfold propertyOn
    split
    · exact alike_guarded h fun _ _ _ _ alike => alike_pure (.property _ name alike)
    · exact alike_typeFault _ _

theorem alike_property (name : String) (h : t.Alike effects ρ t') :
    Alike ρ (property t name) (property t' name) (Target.Alike effects ρ) := by
  unfold property
  rw [h.kind_eq]
  exact alike_propertyOn name t.kind h

theorem alike_count (h : t.Alike effects ρ t') :
    Alike ρ (count t) (count t') (Target.Alike effects ρ) :=
  alike_guarded h fun _ _ _ _ alike => alike_pure (.count _ alike)

theorem alike_reduce (reduction : Reduction) (element : Kind) (h : t.Alike effects ρ t') :
    Alike ρ (reduce t reduction element) (reduce t' reduction element) (Target.Alike effects ρ) := by
  unfold reduce
  split
  · exact alike_guarded h fun _ _ _ _ alike => alike_pure (.reduce _ reduction alike)
  · exact alike_typeFault _ _

theorem alike_collectionOperator (name : String) (h : t.Alike effects ρ t') :
    Alike ρ (collectionOperator t name) (collectionOperator t' name) (Target.Alike effects ρ) := by
  refine (alike_elementOf _ _ h).bind ?_
  rintro element _ rfl
  dsimp only
  split
  · exact alike_count h
  · split
    · exact alike_reduce _ element h
    · exact alike_typeFault _ _

theorem alike_follow (segments : List String) (h : t.Alike effects ρ t') :
    Alike ρ (follow t segments) (follow t' segments) (Target.Alike effects ρ) := by
  induction segments generalizing t t' with
  | nil => exact alike_pure h
  | cons segment rest ih =>
    unfold follow
    split
    · exact (ih h).bind fun s s' alike => alike_collectionOperator _ alike
    · exact (alike_property segment h).bind fun s s' alike => ih alike

theorem alike_keyPath (path : String) (h : t.Alike effects ρ t') :
    Alike ρ (keyPath t path) (keyPath t' path) (Target.Alike effects ρ) :=
  alike_follow (segments path) h

/-! ## Casts -/

theorem alike_cast {kind : Kind} (h : t.Alike effects ρ t') :
    Agrees (Target.Alike effects ρ) (t.cast kind) (t'.cast kind) := by
  cases constant : t.constant? with
  | some value =>
    cases h with
    | constant own value =>
      cases cast : (Target.constant own value).cast kind with
      | error e => exact .error e e
      | ok u =>
        obtain ⟨kind', value', rfl⟩ := Target.exists_constant_of_cast cast
        exact .ok (.constant kind' value')
    | _ => cases constant
  | none =>
    rw [Target.cast_of_constant?_eq_none constant,
      Target.cast_of_constant?_eq_none (h.constant?_eq.trans constant), h.kind_eq]
    refine .ok ?_
    split
    · exact h
    · exact .convert kind h

theorem alike_castAll {kind : Kind} {ts ts' : List Target} (h : Target.AllAlike effects ρ ts ts') :
    Agrees (Target.AllAlike effects ρ) (ts.mapM (·.cast kind)) (ts'.mapM (·.cast kind)) := by
  induction ts generalizing ts' with
  | nil =>
    cases h
    exact .ok .nil
  | cons t ts ih =>
    cases h with
    | cons first rest =>
      rw [List.mapM_cons, List.mapM_cons]
      exact (alike_cast first).bind fun _ _ first => (ih rest).bind fun _ _ rest =>
        .ok (.cons first rest)

/-- Pairs of alike trees. -/
def AlikePairs (effects : Bool) (ρ : Naming) (p p' : Target × Target) : Prop :=
  p.1.Alike effects ρ p'.1 ∧ p.2.Alike effects ρ p'.2

theorem alike_castToElement {kind : Kind} (h : t.Alike effects ρ t') :
    Agrees (Target.Alike effects ρ) (t.castToElement kind) (t'.castToElement kind) := by
  unfold Target.castToElement
  rw [h.kind_eq]
  split
  · split
    · exact alike_cast h
    · exact .ok h
  · exact .ok h

theorem alike_makeScalarsComparable (h : t.Alike effects ρ t') (h' : s.Alike effects ρ s') :
    Agrees (AlikePairs effects ρ) (t.makeScalarsComparable s) (t'.makeScalarsComparable s') := by
  unfold Target.makeScalarsComparable
  rw [h.kind_eq, h'.kind_eq]
  split
  · split
    · exact (alike_cast h).bind fun _ _ left => .ok ⟨left, h'⟩
    · exact (alike_cast h').bind fun _ _ right => .ok ⟨h, right⟩
  · exact .ok ⟨h, h'⟩
  · split
    · exact .error _ _
    · exact .ok ⟨h, h'⟩

theorem alike_makeComparable (h : t.Alike effects ρ t') (h' : s.Alike effects ρ s') :
    Agrees (AlikePairs effects ρ) (t.makeComparable s) (t'.makeComparable s') := by
  unfold Target.makeComparable
  rw [h.kind_eq, h'.kind_eq]
  split
  · exact .ok ⟨h, h'⟩
  · split
    · exact (alike_castToElement h').bind fun _ _ right => .ok ⟨h, right⟩
    · exact (alike_castToElement h).bind fun _ _ left => .ok ⟨left, h'⟩
    · exact .ok ⟨h, h'⟩
    · exact alike_makeScalarsComparable h h'

end Lowering

end PredicateLang
