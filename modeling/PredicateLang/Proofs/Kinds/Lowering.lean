import PredicateLang.Proofs.Alike.Lowering
import PredicateLang.Proofs.Kinds.Concurrence

/-!
# What lowering for different kinds may differ in

Lowering looks at the kinds of operands, and so goes different ways for operands of different kinds.
`Lowering.Accord ρ step step' P` says of two steps that, if both succeed, what they give is related
by `P`. Where the steps do more to one operand than to the other, each of them is looked at alone
(`Lowering.Makes`); where they put operands together, they do so in the same way.

Two operands are `Counterpart`s if the one is what the other is for another kind: the same constant,
lists of trees that resemble one another, or trees of any other form that do.
-/

namespace PredicateLang

namespace Target

variable {ρ ρ' : Naming} {t t' u u' s s' : Target} {ts us ts' us' : List Target} {a b : String}

/-- The trees differ in nothing but what trees may differ in that concur. -/
def Resembles (ρ : Naming) (t u : Target) : Prop :=
  ∀ known : Known, known.Never → Concurs known ρ t u

/-- Something may have been done to the value of the tree. -/
def Changed (t u : Target) : Prop := ∃ F : Value → Value → Prop, Changes F t u

theorem Changed.same (t : Target) : t.Changed t := ⟨_, .same t⟩

theorem not_mayGive {known : Known} (never : known.Never) (t : Target) (v : Value) :
    ¬ t.MayGive known v := by
  rintro ⟨world, around, store, holds, -⟩
  exact never _ holds

namespace Resembles

theorem hasEffects_eq_false (h : Resembles ρ t u) : t.hasEffects = false ∧ u.hasEffects = false :=
  (h (fun _ => False) fun _ => id).hasEffects_eq_false

theorem extend (h : Resembles ρ t u) (extend : ρ.Extend ρ') : Resembles ρ' t u :=
  fun known never => (h known never).extend extend

theorem changed (h : Resembles ρ t u) (change : t.Changed t') (change' : u.Changed u') :
    Resembles ρ t' u' := by
  obtain ⟨F, change⟩ := change
  obtain ⟨F', change'⟩ := change'
  exact fun known never => .changed (h known never) change change' fun v w w' given =>
    absurd given (not_mayGive never t v)

theorem guard (h : Resembles ρ s s') (h' : Resembles (ρ.push a b) t t') (kind kind' : Kind) :
    Resembles ρ (.guard kind s a t) (.guard kind' s' b t') :=
  fun known never => .guard kind kind' (h known never)
    (.inr fun v given => absurd given (not_mayGive never s v)) (h' _ (never.push _ _))

theorem filter (h : Resembles ρ s s') (join : ρ a a) (h' : Resembles ρ t t') (kind kind' : Kind) :
    Resembles ρ (.filter kind s a t) (.filter kind' s' a t') :=
  fun known never => .filter kind kind' (h known never) join (h' _ (never.push _ _))

theorem quantify (h : Resembles ρ s s') (h' : Resembles (ρ.push a b) t t')
    (quantifier : Quantifier) (kind kind' : Kind) :
    Resembles ρ (.quantify kind quantifier s a t) (.quantify kind' quantifier s' b t') :=
  fun known never => .quantify kind kind' quantifier (h known never) (h' _ (never.push _ _))

theorem count (h : Resembles ρ s s') (kind kind' : Kind) :
    Resembles ρ (.count kind s) (.count kind' s') :=
  fun known never => .count kind kind' (h known never)

theorem reduce (h : Resembles ρ s s') (reduction : Reduction) (kind kind' : Kind) :
    Resembles ρ (.reduce kind reduction s) (.reduce kind' reduction s') :=
  fun known never => .reduce kind kind' reduction (h known never) fun _ _ _ given =>
    absurd given (not_mayGive never s _)

theorem elementAt (h : Resembles ρ s s') (h' : Resembles ρ t t') (kind kind' : Kind) :
    Resembles ρ (.elementAt kind s t) (.elementAt kind' s' t') :=
  fun known never => .elementAt kind kind' (h known never) (h' known never)

theorem binary (h : Resembles ρ s s') (h' : Resembles ρ t t') (op : BinaryOp) (kind kind' : Kind) :
    Resembles ρ (.binary kind op s t) (.binary kind' op s' t') := by
  intro known never
  cases is : op.isConnective with
  | true => exact .connective kind kind' op is (h known never) (h' known never)
  | false =>
    exact .binary kind kind' is (h known never) (.same s) (.same s') (h' known never) (.same t)
      (.same t') fun x y _ _ _ _ _ _ given => absurd given (not_mayGive never s x)

theorem unary (h : Resembles ρ t t') (op : UnaryOp) (kind kind' : Kind) :
    Resembles ρ (.unary kind op t) (.unary kind' op t') :=
  fun known never => .unary kind kind' op (h known never)

end Resembles

theorem allConcur_of_forall₂ (h : List.Forall₂ (Resembles ρ) ts us) (known : Known)
    (never : known.Never) : AllConcur known ρ ts us := by
  induction h with
  | nil => exact .nil
  | cons first rest ih => exact .cons (first known never) ih

theorem resembles_list (h : List.Forall₂ (Resembles ρ) ts us) (kind kind' : Kind) :
    Resembles ρ (.list kind ts) (.list kind' us) :=
  fun known never => .list kind kind' (allConcur_of_forall₂ h known never)

theorem AllChange.exists_same (ts : List Target) : ∃ F, AllChange F ts ts := by
  induction ts with
  | nil => exact ⟨_, .nil⟩
  | cons t ts ih =>
    obtain ⟨F, rest⟩ := ih
    exact ⟨_, .cons (.same t) rest⟩

theorem resembles_call {builtin : Builtin} (still : builtin ≠ .random ∧ builtin ≠ .randomBelow)
    (h : List.Forall₂ (Resembles ρ) ts us) (kind kind' : Kind) :
    Resembles ρ (.call kind builtin ts) (.call kind' builtin us) := by
  intro known never
  obtain ⟨F, change⟩ := AllChange.exists_same ts
  obtain ⟨F', change'⟩ := AllChange.exists_same us
  refine .call kind kind' still (allConcur_of_forall₂ h known never) change change' ?_
  rintro vs ws ws' ⟨world, around, store, holds, -⟩
  exact absurd holds (never _)

/-- Lists of trees that resemble one another still do when something is done to each tree. -/
theorem forall₂_changed (h : List.Forall₂ (Resembles ρ) ts us)
    (change : List.Forall₂ Changed ts ts') (change' : List.Forall₂ Changed us us') :
    List.Forall₂ (Resembles ρ) ts' us' := by
  induction h generalizing ts' us' with
  | nil =>
    cases change
    cases change'
    exact .nil
  | cons first rest ih =>
    cases change with
    | cons changed all =>
      cases change' with
      | cons changed' all' => exact .cons (first.changed changed changed') (ih all all')

theorem AllChange.forall₂ {F : List Value → List Value → Prop} (h : AllChange F ts us) :
    List.Forall₂ Changed ts us := by
  induction ts generalizing F us with
  | nil =>
    cases h
    exact .nil
  | cons t ts ih =>
    cases h with
    | cons first rest => exact .cons ⟨_, first⟩ (ih rest)

/-! ## Counterparts -/

theorem needsGuard_of_isPlain (h : t.isPlain) (dialect : Dialect) :
    Lowering.needsGuard dialect t = decide (dialect = .objects) := by
  cases t <;> first | exact Bool.and_true _ | cases h

/-- The trees resemble one another and are neither constants nor lists. -/
structure Akin (ρ : Naming) (t u : Target) : Prop where
  resembles : Resembles ρ t u
  plain : t.isPlain
  plain' : u.isPlain

/-- The one tree is for its kind what the other is for its own. -/
inductive Counterpart (ρ : Naming) : Target → Target → Prop where
  | value (v : Value) : Counterpart ρ (.ofValue v) (.ofValue v)
  | list {ts us : List Target} (element element' : Kind)
    (items : List.Forall₂ (Resembles ρ) ts us) :
    Counterpart ρ (.list (.sequence element) ts) (.list (.sequence element') us)
  | akin {t u : Target} (h : Akin ρ t u) : Counterpart ρ t u

namespace Counterpart

theorem resembles (h : Counterpart ρ t u) : Resembles ρ t u := by
  cases h with
  | value v => exact fun known never => .constant _ _ v
  | list element element' items => exact resembles_list items _ _
  | akin h => exact h.resembles

theorem extend (h : Counterpart ρ t u) (extend : ρ.Extend ρ') : Counterpart ρ' t u := by
  cases h with
  | value v => exact .value v
  | list element element' items =>
    exact .list element element' (items.imp fun _ _ h => h.extend extend)
  | akin h => exact .akin ⟨h.resembles.extend extend, h.plain, h.plain'⟩

theorem needsGuard_eq (h : Counterpart ρ t u) (dialect : Dialect) :
    Lowering.needsGuard dialect u = Lowering.needsGuard dialect t := by
  cases h with
  | value | list => rfl
  | akin h => rw [needsGuard_of_isPlain h.plain, needsGuard_of_isPlain h.plain']

theorem constant?_eq (h : Counterpart ρ t u) : u.constant? = t.constant? := by
  cases h with
  | value | list => rfl
  | akin h => rw [constant?_of_isPlain h.plain, constant?_of_isPlain h.plain']

theorem constantString?_eq (h : Counterpart ρ t u) : u.constantString? = t.constantString? := by
  cases h with
  | value | list => rfl
  | akin h => rw [constantString?_of_isPlain h.plain, constantString?_of_isPlain h.plain']

end Counterpart

/-- Slots for the same. -/
theorem counterpart_slot (kind kind' : Kind) :
    Counterpart (ρ.push a b) (.parameter kind a) (.parameter kind' b) :=
  .akin ⟨fun _ _ => .parameter kind kind' (Naming.push_self ρ a b), rfl, rfl⟩

end Target

namespace Lowering

open Target

variable {α β α' β' : Type} {ρ : Naming} {step : Lowering α} {step' : Lowering α'}
  {P : α → α' → Prop} {Q : β → β' → Prop}

/-! ## One step -/

/-- What the step gives, if it succeeds, satisfies `P`, and nothing is brought into scope. -/
def Makes (step : Lowering α) (P : α → Prop) : Prop :=
  ∀ settings scope a after, step settings scope = .ok a after → P a ∧ scope.Leads after

section Makes

variable {P : α → Prop} {Q : β → Prop}

theorem Makes.mono {P' : α → Prop} (h : Makes step P) (le : ∀ a, P a → P' a) : Makes step P' := by
  intro settings scope a after run
  obtain ⟨holds, leads⟩ := h settings scope a after run
  exact ⟨le a holds, leads⟩

theorem makes_pure {a : α} (h : P a) : Makes (pure a) P := by
  intro settings scope b after run
  cases run
  exact ⟨h, .refl scope⟩

theorem makes_throw (e : Error) : Makes (throw e : Lowering α) P := by
  intro settings scope a after run
  cases run

theorem makes_typeFault (fault : TypeFault) : Makes (typeFault fault : Lowering α) P :=
  makes_throw (.type fault)

theorem makes_ofResult {made : Except Error α} (h : ∀ a, made = .ok a → P a) :
    Makes (ofResult made) P := by
  cases made with
  | ok a => exact makes_pure (h a rfl)
  | error e => exact makes_throw e

theorem Makes.bind {next : α → Lowering β} (h : Makes step P) (h' : ∀ a, P a → Makes (next a) Q) :
    Makes (step >>= next) Q := by
  intro settings scope b after run
  obtain ⟨a, between, first, run⟩ := run_bind run
  obtain ⟨holds, leads⟩ := h settings scope a between first
  obtain ⟨holds', leads'⟩ := h' a holds settings between b after run
  exact ⟨holds', leads.trans leads'⟩

theorem makes_dialect : Makes dialect fun _ => True := by
  intro settings scope a after run
  cases run
  exact ⟨trivial, .refl scope⟩

theorem makes_fresh (letter : String) : Makes (fresh letter) fun _ => True := by
  intro settings scope a after run
  cases run
  exact ⟨trivial, rfl, Nat.le_succ _⟩

theorem makes_elementOf (operation : String) (wanted : Demand) (source : Target) :
    Makes (elementOf operation wanted source) fun _ => True := by
  unfold elementOf
  split
  · exact makes_pure trivial
  · exact makes_typeFault _

end Makes

/-! ## Two steps -/

/-- If both steps succeed, what they give is related, and nothing is brought into scope. -/
def Accord (ρ : Naming) (step : Lowering α) (step' : Lowering α') (P : α → α' → Prop) : Prop :=
  ∀ settings scope scope' a a' after after', ρ.Old scope.counter scope'.counter →
    step settings scope = .ok a after → step' settings scope' = .ok a' after' →
      P a a' ∧ scope.Leads after ∧ scope'.Leads after'

theorem Makes.accord {S : α → Prop} {S' : α' → Prop} (h : Makes step S) (h' : Makes step' S')
    (related : ∀ a a', S a → S' a' → P a a') : Accord ρ step step' P := by
  intro settings scope scope' a a' after after' _ run run'
  obtain ⟨holds, leads⟩ := h settings scope a after run
  obtain ⟨holds', leads'⟩ := h' settings scope' a' after' run'
  exact ⟨related a a' holds holds', leads, leads'⟩

theorem Accord.mono {P' : α → α' → Prop} (h : Accord ρ step step' P)
    (le : ∀ a a', P a a' → P' a a') : Accord ρ step step' P' := by
  intro settings scope scope' a a' after after' old run run'
  obtain ⟨holds, leads⟩ := h settings scope scope' a a' after after' old run run'
  exact ⟨le a a' holds, leads⟩

theorem accord_pure {a : α} {a' : α'} (h : P a a') : Accord ρ (pure a) (pure a') P := by
  intro settings scope scope' b b' after after' _ run run'
  cases run
  cases run'
  exact ⟨h, .refl scope, .refl scope'⟩

theorem accord_throw (e : Error) : Accord ρ (throw e) step' P := by
  intro settings scope scope' a a' after after' _ run
  cases run

theorem accord_throw' (e : Error) : Accord ρ step (throw e) P := by
  intro settings scope scope' a a' after after' _ _ run
  cases run

theorem accord_typeFault (fault : TypeFault) : Accord ρ (typeFault fault) step' P :=
  accord_throw (.type fault)

theorem accord_typeFault' (fault : TypeFault) : Accord ρ step (typeFault fault) P :=
  accord_throw' (.type fault)

theorem Accord.bind {next : α → Lowering β} {next' : α' → Lowering β'} (h : Accord ρ step step' P)
    (h' : ∀ a a', P a a' → Accord ρ (next a) (next' a') Q) :
    Accord ρ (step >>= next) (step' >>= next') Q := by
  intro settings scope scope' b b' after after' old run run'
  obtain ⟨a, between, first, run⟩ := run_bind run
  obtain ⟨a', between', first', run'⟩ := run_bind run'
  obtain ⟨holds, leads, leads'⟩ := h settings scope scope' a a' between between' old first first'
  obtain ⟨holds', further, further'⟩ := h' a a' holds settings between between' b b' after after'
    (old.mono leads.counter leads'.counter) run run'
  exact ⟨holds', leads.trans further, leads'.trans further'⟩

theorem accord_settings : Accord ρ (read : Lowering Settings) read Eq := by
  intro settings scope scope' a a' after after' _ run run'
  cases run
  cases run'
  exact ⟨rfl, .refl scope, .refl scope'⟩

theorem accord_dialect : Accord ρ dialect dialect Eq :=
  accord_settings.bind fun _ _ same => accord_pure (congrArg Settings.dialect same)

/-- A new name stands for the other new name. -/
theorem accord_fresh {letter : String} (length : letter.toList.length = 1)
    {next : String → Lowering β} {next' : String → Lowering β'}
    (h : ∀ a b, ρ.Extend (ρ.push a b) → Accord (ρ.push a b) (next a) (next' b) Q) :
    Accord ρ (fresh letter >>= next) (fresh letter >>= next') Q := by
  intro settings scope scope' b b' after after' old run run'
  obtain ⟨holds, leads, leads'⟩ := h (Scope.madeUp letter (scope.counter + 1))
    (Scope.madeUp letter (scope'.counter + 1)) (old.extend_next length) settings
    { scope with counter := scope.counter + 1 } { scope' with counter := scope'.counter + 1 }
    b b' after after' (old.next length) run run'
  exact ⟨holds, ⟨leads.bindings, Nat.le_of_succ_le leads.counter⟩,
    ⟨leads'.bindings, Nat.le_of_succ_le leads'.counter⟩⟩

/-! ## Guards and shared operands -/

variable {t u : Target} {build build' : Target → Lowering Target}

theorem accord_guarded (h : Counterpart ρ t u)
    (h' : ∀ ρ' s s', ρ.Extend ρ' → Counterpart ρ' s s' →
      Accord ρ' (build s) (build' s') (Akin ρ')) :
    Accord ρ (guarded t build) (guarded u build') (Akin ρ) := by
  refine accord_dialect.bind ?_
  rintro dialect _ rfl
  rw [h.needsGuard_eq]
  split
  · refine accord_fresh rfl fun a b extend => ?_
    refine (h' _ _ _ extend (counterpart_slot _ _)).bind fun body body' akin => accord_pure ?_
    exact ⟨h.resembles.guard akin.resembles _ _, rfl, rfl⟩
  · exact h' ρ t u (.refl ρ) h

/-- Without effects nothing is shared. -/
theorem accord_shared (h : Resembles ρ t u) {P : Target → Target → Prop}
    (h' : Accord ρ (build t) (build' u) P) : Accord ρ (shared t build) (shared u build') P := by
  rw [shared_of_pure h.hasEffects_eq_false.1, shared_of_pure h.hasEffects_eq_false.2]
  exact h'

/-! ## Key paths -/

/-- A function of a subject, behind a guard or not. -/
theorem makes_function (f : ItemFunction) (kind : Kind) (t : Target) :
    Makes (guarded t fun subject => return f.on kind subject) fun u => t.Changed u ∧ u.isPlain := by
  refine makes_dialect.bind fun dialect _ => ?_
  split
  · refine (makes_fresh "g").bind fun name _ => ?_
    rw [pure_bind, f.kind_on]
    exact makes_pure ⟨⟨_, .guard f kind kind t.kind t name⟩, rfl⟩
  · exact makes_pure ⟨⟨_, .apply f kind t⟩, by cases f <;> rfl⟩

/-- A property, of a receiver or of its items, however deep these are. -/
theorem makes_propertyOn (name : String) (kind : Kind) (t : Target) :
    Makes (propertyOn name kind t) fun u => t.Changed u ∧ u.isPlain := by
  cases kind with
  | sequence element =>
    unfold propertyOn
    refine (makes_fresh "e").bind fun item _ =>
      (makes_propertyOn name element (.parameter element item)).bind fun body made => ?_
    obtain ⟨⟨F, each⟩, -⟩ := made
    exact makes_pure ⟨⟨_, .map _ element t item each⟩, rfl⟩
  | _ =>
    unfold propertyOn
    split
    · exact makes_function (.property name) _ t
    · exact makes_typeFault _

theorem accord_elementOf (operation : String) (wanted : Demand) (t u : Target) :
    Accord ρ (elementOf operation wanted t) (elementOf operation wanted u) fun _ _ => True :=
  (makes_elementOf operation wanted t).accord (makes_elementOf operation wanted u)
    fun _ _ _ _ => trivial

section KeyPath

variable {t u : Target} (h : Counterpart ρ t u)

include h

theorem accord_property (name : String) : Accord ρ (property t name) (property u name) (Akin ρ) :=
  (makes_propertyOn name t.kind t).accord (makes_propertyOn name u.kind u)
    fun _ _ made made' => ⟨h.resembles.changed made.1 made'.1, made.2, made'.2⟩

theorem accord_count : Accord ρ (count t) (count u) (Akin ρ) :=
  accord_guarded h fun _ _ _ _ source => accord_pure ⟨source.resembles.count _ _, rfl, rfl⟩

theorem accord_reduce (reduction : Reduction) (element element' : Kind) :
    Accord ρ (reduce t reduction element) (reduce u reduction element') (Akin ρ) := by
  unfold reduce
  split
  · split
    · exact accord_guarded h fun _ _ _ _ source =>
        accord_pure ⟨source.resembles.reduce reduction _ _, rfl, rfl⟩
    · exact accord_typeFault' _
  · exact accord_typeFault _

theorem accord_collectionOperator (name : String) :
    Accord ρ (collectionOperator t name) (collectionOperator u name) (Akin ρ) := by
  refine (accord_elementOf _ _ t u).bind fun element element' _ => ?_
  dsimp only
  split
  · exact accord_count h
  · split
    · exact accord_reduce h _ element element'
    · exact accord_typeFault _

end KeyPath

theorem accord_follow {t u : Target} (segments : List String) (h : Counterpart ρ t u) :
    Accord ρ (follow t segments) (follow u segments) (Counterpart ρ) := by
  induction segments generalizing t u with
  | nil => exact accord_pure h
  | cons segment rest ih =>
    unfold follow
    split
    · exact (ih h).bind fun s s' h => (accord_collectionOperator h _).mono fun _ _ => .akin
    · exact (accord_property h segment).bind fun s s' h => ih (.akin h)

theorem accord_keyPath {t u : Target} (path : String) (h : Counterpart ρ t u) :
    Accord ρ (keyPath t path) (keyPath u path) (Counterpart ρ) :=
  accord_follow (segments path) h

/-! ## Casts -/

theorem changed_of_cast {t u : Target} {kind : Kind} (cast : t.cast kind = .ok u) :
    t.Changed u := by
  cases constant : t.constant? with
  | some value =>
    cases t with
    | constant own value' =>
      obtain ⟨kind', value'', rfl⟩ := exists_constant_of_cast cast
      exact ⟨_, .constant own kind' value' value''⟩
    | _ => cases constant
  | none =>
    rw [cast_of_constant?_eq_none constant] at cast
    cases cast
    split
    · exact .same t
    · exact ⟨_, .convert kind t⟩

theorem changed_of_isCast {t u : Target} (h : t.IsCast u) : t.Changed u := by
  rcases h with rfl | ⟨kind, cast⟩
  · exact .same _
  · exact changed_of_cast cast

theorem changed_of_castAll {ts us : List Target} {kind : Kind}
    (cast : ts.mapM (·.cast kind) = .ok us) : List.Forall₂ Changed ts us := by
  induction ts generalizing us with
  | nil =>
    cases cast
    exact .nil
  | cons t ts ih =>
    rw [List.mapM_cons] at cast
    obtain ⟨u, first, cast⟩ := exists_of_bind_ok cast
    obtain ⟨others, rest, cast⟩ := exists_of_bind_ok cast
    cases cast
    exact .cons (changed_of_cast first) (ih rest)

end Lowering

end PredicateLang
