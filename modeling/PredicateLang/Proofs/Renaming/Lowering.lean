import PredicateLang.Lowering
import PredicateLang.Proofs.Coercion
import PredicateLang.Proofs.Renaming.Relation

/-!
# Lowering gives renamed trees

`Lowering.Tracks step step' P` says of two steps of lowering that, if the same number of names has
been made up before them, they make up the same names: then both give something, which `P` relates,
or both fail with the same error. Neither looks at a name in scope or brings one into scope, and of
the settings they leave the external variables aside. There is one lemma for each function of
lowering: of renamed operands it makes renamed trees.
-/

namespace PredicateLang

/-- The settings are the same but for the external variables. -/
def Settings.Beside (settings settings' : Settings) : Prop :=
  ∃ externals : Fields Value, settings' = { settings with externals }

theorem Settings.Beside.refl (settings : Settings) : settings.Beside settings :=
  ⟨settings.externals, rfl⟩

theorem Settings.Beside.dialect_eq {settings settings' : Settings}
    (h : settings.Beside settings') : settings'.dialect = settings.dialect := by
  obtain ⟨externals, rfl⟩ := h
  rfl

theorem Settings.Beside.foldsCase_eq {settings settings' : Settings}
    (h : settings.Beside settings') : settings'.foldsCase = settings.foldsCase := by
  obtain ⟨externals, rfl⟩ := h
  rfl

/-- Nothing has been brought into either scope, and the same number of names has been made up. -/
structure Scope.Keeps (scope scope' after after' : Scope) : Prop where
  bindings : after.bindings = scope.bindings
  bindings' : after'.bindings = scope'.bindings
  counter : after'.counter = after.counter

theorem Scope.Keeps.trans {scope scope' between between' after after' : Scope}
    (h : Keeps scope scope' between between') (h' : Keeps between between' after after') :
    Keeps scope scope' after after' :=
  ⟨h'.bindings.trans h.bindings, h'.bindings'.trans h.bindings', h'.counter⟩

/-- Both results are there and related, or both are the same error. -/
inductive Coincide {ε α α' : Type} (P : α → α' → Prop) : Except ε α → Except ε α' → Prop where
  | ok {a : α} {a' : α'} (holds : P a a') : Coincide P (.ok a) (.ok a')
  | error (e : ε) : Coincide P (.error e) (.error e)

theorem Coincide.bind {ε α α' β β' : Type} {P : α → α' → Prop} {Q : β → β' → Prop}
    {made : Except ε α} {made' : Except ε α'} {next : α → Except ε β} {next' : α' → Except ε β'}
    (h : Coincide P made made') (h' : ∀ a a', P a a' → Coincide Q (next a) (next' a')) :
    Coincide Q (made >>= next) (made' >>= next') := by
  cases h with
  | ok holds => exact h' _ _ holds
  | error e => exact .error e

namespace Lowering

variable {α β α' β' : Type} {step : Lowering α} {step' : Lowering α'} {P : α → α' → Prop}
  {Q : β → β' → Prop}

/-! ## Two outcomes -/

/-- Both steps have succeeded, and what they gave and the scopes after them are related, or both
have failed with the same error. -/
inductive Paired (P : α → α' → Prop) (R E : Scope → Scope → Prop) :
    EStateM.Result Error Scope α → EStateM.Result Error Scope α' → Prop where
  | ok {a : α} {a' : α'} {after after' : Scope} (holds : P a a') (scopes : R after after') :
    Paired P R E (.ok a after) (.ok a' after')
  | error (e : Error) {after after' : Scope} (scopes : E after after') :
    Paired P R E (.error e after) (.error e after')

section

variable {R R' E E' : Scope → Scope → Prop} {settings settings' : Settings} {scope scope' : Scope}
  {run : EStateM.Result Error Scope α} {run' : EStateM.Result Error Scope α'}

theorem Paired.mono {P' : α → α' → Prop} (h : Paired P R E run run') (le : ∀ a a', P a a' → P' a a')
    (scopes : ∀ after after', R after after' → R' after after')
    (errors : ∀ after after', E after after' → E' after after') : Paired P' R' E' run run' := by
  cases h with
  | ok holds related => exact .ok (le _ _ holds) (scopes _ _ related)
  | error e related => exact .error e (errors _ _ related)

/-- What is not needed of the scopes may be forgotten, and everything after a failure. -/
theorem Paired.forget (h : Paired P R E run run')
    (scopes : ∀ after after', R after after' → R' after after') :
    Paired P R' (fun _ _ => True) run run' :=
  h.mono (fun _ _ holds => holds) scopes fun _ _ _ => trivial

theorem Paired.bind {next : α → Lowering β} {next' : α' → Lowering β'}
    (h : Paired P R E (step settings scope) (step' settings' scope'))
    (h' : ∀ a a' between between', P a a' → R between between' →
      Paired Q R' E (next a settings between) (next' a' settings' between')) :
    Paired Q R' E ((step >>= next) settings scope) ((step' >>= next') settings' scope') := by
  simp only [Bind.bind, ReaderT.bind, EStateM.bind]
  -- What comes next depends on the runs of the first steps alone.
  generalize step settings scope = run at h
  generalize step' settings' scope' = run' at h
  cases h with
  | ok holds scopes => exact h' _ _ _ _ holds scopes
  | error e scopes => exact .error e scopes

end

/-- The steps make up the same names, and what they give is related, or both fail in the same
way. -/
def Tracks (step : Lowering α) (step' : Lowering α') (P : α → α' → Prop) : Prop :=
  ∀ settings settings' scope scope', settings.Beside settings' → scope'.counter = scope.counter →
    Paired P (scope.Keeps scope') (scope.Keeps scope') (step settings scope)
      (step' settings' scope')

/-! ## Rules -/

theorem tracks_pure {a : α} {a' : α'} (h : P a a') : Tracks (pure a) (pure a') P :=
  fun _ _ _ _ _ counter => .ok h ⟨rfl, rfl, counter⟩

theorem tracks_throw (e : Error) : Tracks (throw e) (throw e) P :=
  fun _ _ _ _ _ counter => .error e ⟨rfl, rfl, counter⟩

theorem tracks_typeFault (fault : TypeFault) : Tracks (typeFault fault) (typeFault fault) P :=
  tracks_throw (.type fault)

theorem tracks_ofResult {result : Except Error α} {result' : Except Error α'}
    (h : Coincide P result result') : Tracks (ofResult result) (ofResult result') P := by
  cases h with
  | ok holds => exact tracks_pure holds
  | error e => exact tracks_throw e

theorem Tracks.bind {next : α → Lowering β} {next' : α' → Lowering β'} (h : Tracks step step' P)
    (h' : ∀ a a', P a a' → Tracks (next a) (next' a') Q) :
    Tracks (step >>= next) (step' >>= next') Q := by
  intro settings settings' scope scope' beside counter
  apply (h settings settings' scope scope' beside counter).bind
  intro a a' between between' holds kept
  exact (h' a a' holds settings settings' between between' beside kept.counter).mono
    (fun _ _ holds => holds) (fun _ _ further => kept.trans further)
    (fun _ _ further => kept.trans further)

theorem tracks_settings : Tracks (read : Lowering Settings) read Settings.Beside :=
  fun _ _ _ _ beside counter => .ok beside ⟨rfl, rfl, counter⟩

theorem tracks_dialect : Tracks dialect dialect (· = ·) :=
  tracks_settings.bind fun _ _ beside => tracks_pure beside.dialect_eq.symm

/-- The same name is made up twice. -/
theorem tracks_fresh (letter : String) :
    Tracks (fresh letter) (fresh letter) (fun a b => a = b ∧ Scope.isMadeUp a) := by
  intro settings settings' scope scope' _ counter
  have same : Scope.madeUp letter (scope'.counter + 1)
      = Scope.madeUp letter (scope.counter + 1) := by
    rw [counter]
  have keeps : scope.Keeps scope' { scope with counter := scope.counter + 1 }
      { scope' with counter := scope'.counter + 1 } := ⟨rfl, rfl, by rw [counter]⟩
  exact .ok ⟨same.symm, Scope.isMadeUp_madeUp letter _⟩ keeps

/-! ## Guards and shared operands -/

variable {exact : Bool} {ρ : Naming} {t t' s s' : Target}

theorem tracks_elementOf (operation : String) (wanted : Demand) (h : t.Renamed exact ρ t') :
    Tracks (elementOf operation wanted t) (elementOf operation wanted t') (· = ·) := by
  unfold elementOf
  rw [h.kind_eq]
  cases t.kind.element? with
  | some element => exact tracks_pure rfl
  | none => exact tracks_typeFault _

section

variable (steady : ρ.Steady)

include steady

/-- A made-up name stands for itself in what comes next. -/
theorem tracks_fresh_bind (letter : String) {next : String → Lowering β}
    {next' : String → Lowering β'} (h : ∀ name, ρ name name → Tracks (next name) (next' name) Q) :
    Tracks (fresh letter >>= next) (fresh letter >>= next') Q := by
  apply (tracks_fresh letter).bind
  rintro name _ ⟨rfl, made⟩
  exact h name (steady name made)

section Build

variable {build build' : Target → Lowering Target} (h : t.Renamed exact ρ t')
  (h' : ∀ s s', s.Renamed exact ρ s' → Tracks (build s) (build' s') (Target.Renamed exact ρ))

include h h'

/-- A tree around what is built of a parameter with a made-up name. -/
theorem tracks_around (letter : String) {around around' : String → Target → Target}
    (h'' : ∀ name body body', ρ name name → body.Renamed exact ρ body' →
      (around name body).Renamed exact ρ (around' name body')) :
    Tracks
      (do
        let name ← fresh letter
        let body ← build (.parameter t.kind name)
        return around name body)
      (do
        let name ← fresh letter
        let body ← build' (.parameter t'.kind name)
        return around' name body)
      (Target.Renamed exact ρ) := by
  rw [h.kind_eq]
  apply tracks_fresh_bind steady
  intro name self
  apply (h' _ _ (.parameter t.kind self)).bind
  intro body body' renamed
  exact tracks_pure (h'' name body body' self renamed)

theorem tracks_guarded : Tracks (guarded t build) (guarded t' build') (Target.Renamed exact ρ) := by
  apply tracks_dialect.bind
  rintro dialect _ rfl
  rw [h.needsGuard_eq]
  split
  · apply tracks_around steady h h' "g"
    intro name body body' self renamed
    rw [renamed.kind_eq]
    exact .guard _ h self renamed
  · exact h' t t' h

theorem tracks_shared : Tracks (shared t build) (shared t' build') (Target.Renamed exact ρ) := by
  apply tracks_dialect.bind
  rintro dialect _ rfl
  rw [h.hasEffects_eq]
  split
  · apply tracks_around steady h h' "b"
    intro name body body' self renamed
    rw [renamed.kind_eq]
    exact .bind _ h self renamed
  · exact h' t t' h

end Build

/-! ## Key paths -/

theorem tracks_propertyOn {t t' : Target} (name : String) (kind : Kind)
    (h : t.Renamed exact ρ t') :
    Tracks (propertyOn name kind t) (propertyOn name kind t') (Target.Renamed exact ρ) := by
  cases kind with
  | sequence element =>
    unfold propertyOn
    apply tracks_fresh_bind steady
    intro parameter self
    refine (tracks_propertyOn name element (.parameter element self)).bind
      fun body body' renamed => tracks_pure ?_
    rw [renamed.kind_eq]
    exact .map _ h self renamed
  | _ =>
    unfold propertyOn
    split
    · exact tracks_guarded steady h fun _ _ renamed => tracks_pure (.property _ name renamed)
    · exact tracks_typeFault _

theorem tracks_property (name : String) (h : t.Renamed exact ρ t') :
    Tracks (property t name) (property t' name) (Target.Renamed exact ρ) := by
  unfold property
  rw [h.kind_eq]
  exact tracks_propertyOn steady name t.kind h

theorem tracks_count (h : t.Renamed exact ρ t') :
    Tracks (count t) (count t') (Target.Renamed exact ρ) :=
  tracks_guarded steady h fun _ _ renamed => tracks_pure (.count _ renamed)

theorem tracks_reduce (reduction : Reduction) (element : Kind) (h : t.Renamed exact ρ t') :
    Tracks (reduce t reduction element) (reduce t' reduction element) (Target.Renamed exact ρ) := by
  unfold reduce
  split
  · exact tracks_guarded steady h fun _ _ renamed => tracks_pure (.reduce _ reduction renamed)
  · exact tracks_typeFault _

theorem tracks_collectionOperator (name : String) (h : t.Renamed exact ρ t') :
    Tracks (collectionOperator t name) (collectionOperator t' name) (Target.Renamed exact ρ) := by
  apply (tracks_elementOf _ _ h).bind
  rintro element _ rfl
  dsimp only
  split
  · exact tracks_count steady h
  · split
    · exact tracks_reduce steady _ element h
    · exact tracks_typeFault _

theorem tracks_follow (segments : List String) (h : t.Renamed exact ρ t') :
    Tracks (follow t segments) (follow t' segments) (Target.Renamed exact ρ) := by
  induction segments generalizing t t' with
  | nil => exact tracks_pure h
  | cons segment rest ih =>
    unfold follow
    split
    · exact (ih h).bind fun _ _ renamed => tracks_collectionOperator steady _ renamed
    · exact (tracks_property steady segment h).bind fun _ _ renamed => ih renamed

theorem tracks_keyPath (path : String) (h : t.Renamed exact ρ t') :
    Tracks (keyPath t path) (keyPath t' path) (Target.Renamed exact ρ) :=
  tracks_follow steady (segments path) h

end

/-! ## Casts -/

theorem coincide_cast (kind : Kind) (h : t.Renamed exact ρ t') :
    Coincide (Target.Renamed exact ρ) (t.cast kind) (t'.cast kind) := by
  cases constant : t.constant? with
  | some value =>
    cases h with
    | constant own value =>
      cases cast : (Target.constant own value).cast kind with
      | error e => exact .error e
      | ok u =>
        obtain ⟨kind', value', rfl⟩ := Target.exists_constant_of_cast cast
        exact .ok (.constant kind' value')
    | _ => cases constant
  | none =>
    rw [Target.cast_of_constant?_eq_none constant,
      Target.cast_of_constant?_eq_none (h.constant?_eq.trans constant), h.kind_eq]
    apply Coincide.ok
    split
    · exact h
    · exact .convert kind h

theorem coincide_castAll (kind : Kind) {ts ts' : List Target}
    (h : Target.AllRenamed exact ρ ts ts') :
    Coincide (Target.AllRenamed exact ρ) (ts.mapM (·.cast kind)) (ts'.mapM (·.cast kind)) := by
  induction ts generalizing ts' with
  | nil =>
    cases h
    exact .ok .nil
  | cons t ts ih =>
    cases h with
    | cons first rest =>
      rw [List.mapM_cons, List.mapM_cons]
      exact (coincide_cast kind first).bind fun _ _ first => (ih rest).bind fun _ _ rest =>
        .ok (.cons first rest)

/-- Pairs of renamed trees. -/
def RenamedPairs (exact : Bool) (ρ : Naming) (p p' : Target × Target) : Prop :=
  p.1.Renamed exact ρ p'.1 ∧ p.2.Renamed exact ρ p'.2

theorem coincide_castToElement (kind : Kind) (h : t.Renamed exact ρ t') :
    Coincide (Target.Renamed exact ρ) (t.castToElement kind) (t'.castToElement kind) := by
  unfold Target.castToElement
  rw [h.kind_eq]
  split
  · split
    · exact coincide_cast _ h
    · exact .ok h
  · exact .ok h

theorem coincide_makeScalarsComparable (h : t.Renamed exact ρ t') (h' : s.Renamed exact ρ s') :
    Coincide (RenamedPairs exact ρ) (t.makeScalarsComparable s) (t'.makeScalarsComparable s') := by
  unfold Target.makeScalarsComparable
  rw [h.kind_eq, h'.kind_eq]
  split
  · split
    · exact (coincide_cast _ h).bind fun _ _ left => .ok ⟨left, h'⟩
    · exact (coincide_cast _ h').bind fun _ _ right => .ok ⟨h, right⟩
  · exact .ok ⟨h, h'⟩
  · split
    · exact .error _
    · exact .ok ⟨h, h'⟩

theorem coincide_makeComparable (h : t.Renamed exact ρ t') (h' : s.Renamed exact ρ s') :
    Coincide (RenamedPairs exact ρ) (t.makeComparable s) (t'.makeComparable s') := by
  unfold Target.makeComparable
  rw [h.kind_eq, h'.kind_eq]
  split
  · exact .ok ⟨h, h'⟩
  · split
    · exact (coincide_castToElement _ h').bind fun _ _ right => .ok ⟨h, right⟩
    · exact (coincide_castToElement _ h).bind fun _ _ left => .ok ⟨left, h'⟩
    · exact .ok ⟨h, h'⟩
    · exact coincide_makeScalarsComparable h h'

/-- A tree as one of a kind that is asked for. -/
theorem coincide_asResult (kind : Kind) (h : t.Renamed exact ρ t') :
    Coincide (Target.Renamed exact ρ) (t.asResult kind) (t'.asResult kind) := by
  unfold Target.asResult
  rw [h.kind_eq, h.constant?_eq]
  split
  · exact .ok h
  · split
    · exact coincide_cast kind h
    · exact .ok (.convert kind h)

end Lowering

end PredicateLang
