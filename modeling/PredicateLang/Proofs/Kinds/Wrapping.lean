import Mathlib.Data.List.Forall2
import PredicateLang.Proofs.Kinds.Accord

/-!
# Operands that are changed on the way

Lowering does more to an operand the more is known of it: it is converted to another kind, its
strings are brought to small letters, a property is taken of each of its items. `Target.Changes F t
u` says that `u` is the operand `t` with some of this done to it, and `F` relates the value of `t`
to what comes of it. The operand is evaluated once, and nothing else is done before or after it.
-/

namespace PredicateLang

open Tracing

/-- After a quiet step the same is left behind as before it. -/
theorem Tracing.exists_of_bind_quiet {α β : Type} {step : Tracing α} {next : α → Tracing β}
    (quiet : ∀ a, Quiet (next a)) {world : World} {around : Surroundings} {store : Store} {b : β}
    (ok : ((step >>= next) world around store).result = .ok b) :
    ∃ a, (step world around store).result = .ok a
      ∧ (next a world around (step world around store).store).result = .ok b
      ∧ ((step >>= next) world around store).store = (step world around store).store := by
  obtain ⟨a, first, rest⟩ := exists_of_bind ok
  refine ⟨a, first, rest, ?_⟩
  rw [bind_of_ok first]
  exact (quiet a world around _).2

/-! ## Functions of items -/

/-- A function that is applied to an array by applying it to the items. -/
inductive ItemFunction where
  | property (name : String)
  | lowercase

namespace ItemFunction

/-- The value of the function. -/
def apply : ItemFunction → Value → Except Error Value
  | property name, v => Evaluation.property name v
  | lowercase, v => Evaluation.onText (fun s => .string (Text.lower s)) v

/-- The tree of the function of a subject. -/
def on (kind : Kind) (subject : Target) : ItemFunction → Target
  | property name => .property kind subject name
  | lowercase => .call kind .lowercase [subject]

variable {kind : Kind} {subject : Target} {world : World} {around : Surroundings} {store : Store}
  {v w : Value}

theorem apply_null (f : ItemFunction) : f.apply .null = .ok .null := by
  cases f <;> rfl

theorem apply_array (f : ItemFunction) (items : List Value) :
    f.apply (.array items) = (items.mapM f.apply).map .array := by
  cases f with
  | property name =>
    have all : Evaluation.propertyOfAll name items = items.mapM (property name).apply := by
      induction items with
      | nil => rfl
      | cons first rest ih =>
        rw [Evaluation.propertyOfAll, List.mapM_cons, ih]
        rfl
    show Evaluation.property name (.array items) = _
    rw [Evaluation.property, all]
    cases items.mapM (property name).apply <;> rfl
  | lowercase =>
    have all : Evaluation.onTexts (fun s => .string (Text.lower s)) items
        = items.mapM lowercase.apply := by
      induction items with
      | nil => rfl
      | cons first rest ih =>
        rw [Evaluation.onTexts, List.mapM_cons, ih]
        rfl
    show Evaluation.onText (fun s => .string (Text.lower s)) (.array items) = _
    rw [Evaluation.onText, all]
    cases items.mapM lowercase.apply <;> rfl

/-- The function of an array, if it is known of each item. -/
theorem apply_of_forall₂ (f : ItemFunction) {items values : List Value}
    (h : List.Forall₂ (fun v w => f.apply v = .ok w) items values) :
    f.apply (.array items) = .ok (.array values) := by
  have all : items.mapM f.apply = .ok values := by
    induction h with
    | nil => rfl
    | cons first rest ih =>
      rw [List.mapM_cons, first, ih]
      rfl
  rw [apply_array, all]
  rfl

@[simp] theorem kind_on (f : ItemFunction) (kind : Kind) (subject : Target) :
    (f.on kind subject).kind = kind := by
  cases f <;> rfl

@[simp] theorem hasEffects_on (f : ItemFunction) (kind : Kind) (subject : Target) :
    (f.on kind subject).hasEffects = subject.hasEffects := by
  cases f <;> simp [on, Target.hasEffects, Target.anyHasEffects]

/-- The tree is evaluated to the function of what the subject is evaluated to. -/
theorem exists_of_on (f : ItemFunction)
    (ok : ((f.on kind subject).traced world around store).result = .ok w) :
    ∃ v, (subject.traced world around store).result = .ok v ∧ f.apply v = .ok w
      ∧ ((f.on kind subject).traced world around store).store
        = (subject.traced world around store).store := by
  cases f with
  | property name =>
    simp only [on, Target.traced] at ok ⊢
    obtain ⟨v, first, rest, stores⟩ := exists_of_bind_quiet (fun _ => quiet_still _) ok
    rw [result_still_ofResult] at rest
    exact ⟨v, first, rest, stores⟩
  | lowercase =>
    simp only [on, Target.traced] at ok ⊢
    obtain ⟨args, first, rest, stores⟩ :=
      exists_of_bind_quiet (fun _ => quiet_call (by simp) _) ok
    simp only [Target.tracedAll] at first stores ⊢
    obtain ⟨v, subject, first, stores'⟩ := exists_of_bind_quiet (fun _ => quiet_pure _) first
    cases first
    have rest : (still (Evaluation.ofResult (lowercase.apply v)) world around _).result = .ok w :=
      rest
    rw [result_still_ofResult] at rest
    exact ⟨v, subject, rest, stores.trans stores'⟩

end ItemFunction

/-! ## Wrapped operands -/

namespace Target

mutual

/-- The second tree is the first one with something done to its value. -/
inductive Changes : (Value → Value → Prop) → Target → Target → Prop where
  | same (t : Target) : Changes Eq t t
  | convert (kind : Kind) (t : Target) :
    Changes (fun v w => v.convert? kind = some w) t (.convert kind t)
  /-- A constant is changed before it is evaluated. -/
  | constant (kind kind' : Kind) (value value' : Value) :
    Changes (fun v w => v = value ∧ w = value') (.constant kind value) (.constant kind' value')
  | apply (f : ItemFunction) (kind : Kind) (t : Target) :
    Changes (fun v w => f.apply v = .ok w) t (f.on kind t)
  /-- Of null there is the default of the kind of the function. -/
  | guard (f : ItemFunction) (kind kind' own : Kind) (t : Target) (name : String) :
    Changes (fun v w => if v.isNull then w = kind'.default else f.apply v = .ok w) t
      (.guard kind t name (f.on kind' (.parameter own name)))
  | map (kind own : Kind) (t : Target) (name : String) {F : Value → Value → Prop} {body : Target}
    (each : Changes F (.parameter own name) body) :
    Changes (fun v w => v = .null ∧ w = .null ∨ ∃ items values, v = .array items
      ∧ w = .array values ∧ List.Forall₂ F items values) t (.map kind t name body)
  | list (kind kind' : Kind) {F : List Value → List Value → Prop} {ts us : List Target}
    (items : AllChange F ts us) :
    Changes (fun v w => ∃ items values, v = .array items ∧ w = .array values ∧ F items values)
      (.list kind ts) (.list kind' us)

/-- The trees are those of the first list with something done to their values. -/
inductive AllChange : (List Value → List Value → Prop) → List Target → List Target → Prop where
  | nil : AllChange Eq [] []
  | cons {F : Value → Value → Prop} {G : List Value → List Value → Prop} {t u : Target}
    {ts us : List Target} (first : Changes F t u) (rest : AllChange G ts us) :
    AllChange (fun vs ws => ∃ v w vs' ws', vs = v :: vs' ∧ ws = w :: ws' ∧ F v w ∧ G vs' ws')
      (t :: ts) (u :: us)

end

variable {F : Value → Value → Prop} {t u : Target} {world : World} {around : Surroundings}
  {store : Store}

mutual

theorem Changes.hasEffects_eq {F : Value → Value → Prop} {t u : Target} (h : Changes F t u) :
    u.hasEffects = t.hasEffects := by
  cases h with
  | same | convert | constant => rfl
  | apply f kind => exact f.hasEffects_on kind t
  | guard f kind kind' own =>
    simp [hasEffects]
  | map kind own t name each =>
    simp [hasEffects, each.hasEffects_eq]
  | list kind kind' items => exact items.anyHasEffects_eq

theorem AllChange.anyHasEffects_eq {F : List Value → List Value → Prop} {ts us : List Target}
    (h : AllChange F ts us) : anyHasEffects us = anyHasEffects ts := by
  cases h with
  | nil => rfl
  | cons first rest => rw [anyHasEffects, anyHasEffects, first.hasEffects_eq, rest.anyHasEffects_eq]

end

/-- What comes of the items of an array, if the values of a body are what comes of those of a slot.
-/
theorem forall₂_of_mapItems {F : Value → Value → Prop} {body : Tracing Value} {name : String}
    {world : World} {around : Surroundings} {store : Store} (quiet : body.Quiet)
    (each : ∀ v w, (body world (around.push name v) store).result = .ok w → F v w)
    {items values : List Value}
    (ok : (mapItems name body items world around store).result = .ok values) :
    List.Forall₂ F items values := by
  induction items generalizing values with
  | nil =>
    cases ok
    exact .nil
  | cons item rest ih =>
    unfold mapItems at ok
    rw [(quiet.withSlot name item).result_bind] at ok
    obtain ⟨w, first, ok⟩ := exists_of_bind_ok ok
    rw [(quiet.mapItems name rest).result_bind] at ok
    obtain ⟨others, mapped, ok⟩ := exists_of_bind_ok ok
    cases ok
    exact .cons (each item w first) (ih mapped)

mutual

/-- The changed tree gives what comes of a value of the tree, and leaves the same behind. -/
theorem Changes.exists_of_ok {F : Value → Value → Prop} {t u : Target} (h : Changes F t u)
    {world : World} {around : Surroundings} {store : Store} {w : Value}
    (ok : (u.traced world around store).result = .ok w) :
    ∃ v, (t.traced world around store).result = .ok v ∧ F v w
      ∧ (u.traced world around store).store = (t.traced world around store).store := by
  cases h with
  | same => exact ⟨w, ok, rfl, rfl⟩
  | convert kind =>
    have quiet (v : Value) : (match v.convert? kind with
        | some converted => pure converted
        | none => still (throw (.evaluation (.inconvertible v kind))) : Tracing Value).Quiet := by
      cases v.convert? kind with
      | some converted => exact quiet_pure converted
      | none => exact quiet_still _
    simp only [traced] at ok ⊢
    obtain ⟨v, first, rest, stores⟩ := exists_of_bind_quiet quiet ok
    refine ⟨v, first, ?_, stores⟩
    cases made : v.convert? kind with
    | some converted =>
      rw [made] at rest
      cases rest
      rfl
    | none =>
      rw [made] at rest
      cases rest
  | constant kind kind' value value' =>
    cases ok
    exact ⟨value, rfl, ⟨rfl, rfl⟩, rfl⟩
  | apply f => exact f.exists_of_on ok
  | guard f kind kind' own t name =>
    have quiet (v : Value) : (if v.isNull then pure (f.on kind' (.parameter own name)).kind.default
        else withSlot name v (f.on kind' (.parameter own name)).traced : Tracing Value).Quiet := by
      cases v.isNull with
      | true => exact quiet_pure _
      | false => exact (quiet_traced _ (by simp [hasEffects])).withSlot name v
    simp only [traced] at ok ⊢
    obtain ⟨v, first, rest, stores⟩ := exists_of_bind_quiet quiet ok
    refine ⟨v, first, ?_, stores⟩
    cases null : v.isNull with
    | true =>
      rw [null] at rest
      cases rest
      rw [f.kind_on]
      rfl
    | false =>
      rw [null] at rest
      obtain ⟨x, slot, applied, -⟩ := f.exists_of_on rest
      cases (result_lookup_push name v).symm.trans slot
      exact applied
  | @map kind own t name F body each =>
    have plain := (quiet_traced _ each.hasEffects_eq).mapItems name
    have quiet (v : Value) : (still (Evaluation.items? v) >>= fun found => match found with
        | some items => do return .array (← mapItems name body.traced items)
        | none => return .null : Tracing Value).Quiet := by
      refine (quiet_still _).bind fun found => ?_
      cases found with
      | some items => exact (plain items).bind fun _ => quiet_pure _
      | none => exact quiet_pure _
    simp only [traced] at ok ⊢
    obtain ⟨v, first, rest, stores⟩ := exists_of_bind_quiet quiet ok
    refine ⟨v, first, ?_, stores⟩
    obtain ⟨found, known, rest⟩ := exists_of_bind rest
    cases found with
    | some items =>
      obtain ⟨values, mapped, rest⟩ := exists_of_bind rest
      cases rest
      refine .inr ⟨items, values, eq_of_items? known, rfl, ?_⟩
      refine forall₂_of_mapItems (quiet_traced _ each.hasEffects_eq) (fun v w ok => ?_) mapped
      obtain ⟨x, slot, holds, -⟩ := each.exists_of_ok ok
      cases (result_lookup_push name v).symm.trans slot
      exact holds
    | none =>
      cases rest
      exact .inl ⟨eq_of_items? known, rfl⟩
  | list kind kind' items =>
    simp only [traced] at ok ⊢
    obtain ⟨values, first, rest, stores⟩ := exists_of_bind_quiet (fun _ => quiet_pure _) ok
    cases rest
    obtain ⟨vs, given, holds, stores'⟩ := items.exists_of_ok first
    rw [bind_of_ok given]
    exact ⟨.array vs, rfl, ⟨vs, values, rfl, rfl, holds⟩, stores.trans stores'⟩

theorem AllChange.exists_of_ok {F : List Value → List Value → Prop} {ts us : List Target}
    (h : AllChange F ts us) {world : World} {around : Surroundings} {store : Store}
    {ws : List Value} (ok : (tracedAll us world around store).result = .ok ws) :
    ∃ vs, (tracedAll ts world around store).result = .ok vs ∧ F vs ws
      ∧ (tracedAll us world around store).store = (tracedAll ts world around store).store := by
  cases h with
  | nil => exact ⟨ws, ok, rfl, rfl⟩
  | cons first rest =>
    simp only [tracedAll] at ok ⊢
    obtain ⟨w, ok', last⟩ := exists_of_bind ok
    obtain ⟨ws', ok'', last⟩ := exists_of_bind last
    cases last
    obtain ⟨v, given, holds, stores⟩ := first.exists_of_ok ok'
    rw [stores] at ok''
    obtain ⟨vs', given', holds', stores'⟩ := rest.exists_of_ok ok''
    rw [bind_of_ok given, bind_of_ok given', bind_of_ok ok', stores, bind_of_ok ok'']
    exact ⟨v :: vs', rfl, ⟨v, w, vs', ws', rfl, rfl, holds, holds'⟩, stores'⟩

end

end Target

end PredicateLang
