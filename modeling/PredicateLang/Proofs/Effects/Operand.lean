import PredicateLang.Lowering.Comparison
import PredicateLang.Proofs.Coercion
import PredicateLang.Proofs.Effects.Quiet
import PredicateLang.Proofs.Typing.Lowering

/-!
# Operands made ready for an operation

Before an operation its operands are cast, and their letter case is folded. `Target.Wraps t u` says
that `u` is such a form of `t`: if `u` has a value, then so has `t`, and evaluating `u` has the
effects of evaluating `t` once.
-/

namespace PredicateLang

namespace Tracing

variable {α β γ : Type}

/-- If the second step succeeds, then so does the first, and they do the same. -/
def Wraps (step : Tracing α) (step' : Tracing β) : Prop :=
  ∀ world around store b, (step' world around store).result = .ok b →
    (∃ a, (step world around store).result = .ok a)
      ∧ (step' world around store).effects = (step world around store).effects
      ∧ (step' world around store).store = (step world around store).store

theorem Wraps.refl (step : Tracing α) : Wraps step step := fun _ _ _ _ ok => ⟨⟨_, ok⟩, rfl, rfl⟩

theorem Wraps.trans {step : Tracing α} {step' : Tracing β} {step'' : Tracing γ}
    (h : Wraps step step') (h' : Wraps step' step'') : Wraps step step'' := by
  intro world around store c ok
  obtain ⟨⟨b, ok⟩, effects', same'⟩ := h' world around store c ok
  obtain ⟨ok, effects, same⟩ := h world around store b ok
  exact ⟨ok, effects'.trans effects, same'.trans same⟩

/-- The value of a sequence of steps comes from a value of the first. -/
theorem exists_of_bind {step : Tracing α} {next : α → Tracing β} {world : World}
    {around : Surroundings} {store : Store} {b : β}
    (ok : ((step >>= next) world around store).result = .ok b) :
    ∃ a, (step world around store).result = .ok a
      ∧ (next a world around (step world around store).store).result = .ok b := by
  cases first : (step world around store).result with
  | error e =>
    rw [bind_of_error first] at ok
    cases ok
  | ok a =>
    rw [bind_of_ok first] at ok
    exact ⟨a, rfl, ok⟩

theorem effects_append (events events' : List Event) (store : Store) (result : Except Error α) :
    (Run.mk (events ++ events') store result).effects
      = events.filter Event.isEffect ++ events'.filter Event.isEffect :=
  List.filter_append ..

/-- Two steps after each other do the same as two others. -/
theorem Wraps.bind {α' β' : Type} {step : Tracing α} {step' : Tracing α'} {next : α → Tracing β}
    {next' : α' → Tracing β'} (h : Wraps step step') (h' : ∀ a a', Wraps (next a) (next' a')) :
    Wraps (step >>= next) (step' >>= next') := by
  intro world around store b' ok
  obtain ⟨a', ok', last⟩ := exists_of_bind ok
  obtain ⟨⟨a, first⟩, effects, same⟩ := h world around store a' ok'
  rw [same] at last
  obtain ⟨⟨b, second⟩, effects', same'⟩ := h' a a' world around _ b' last
  rw [bind_of_ok first, bind_of_ok ok']
  refine ⟨⟨b, second⟩, ?_, same ▸ same'⟩
  rw [effects_append, effects_append, same]
  exact congr (congrArg _ effects) effects'

/-- A quiet step after another one does nothing more. -/
theorem effects_before {step : Tracing α} {next : α → Tracing β} (h : ∀ a, Quiet (next a))
    (world : World) (around : Surroundings) (store : Store) :
    ((step >>= next) world around store).effects = (step world around store).effects
      ∧ ((step >>= next) world around store).store = (step world around store).store := by
  cases first : (step world around store).result with
  | error e =>
    rw [bind_of_error first]
    exact ⟨rfl, rfl⟩
  | ok a =>
    obtain ⟨effects, same⟩ := h a world around (step world around store).store
    rw [bind_of_ok first]
    refine ⟨?_, same⟩
    rw [effects_append]
    exact (congrArg _ effects).trans (List.append_nil _)

theorem wraps_before {step : Tracing α} {next : α → Tracing β} (h : ∀ a, Quiet (next a)) :
    Wraps step (step >>= next) := by
  intro world around store b ok
  obtain ⟨a, first, -⟩ := exists_of_bind ok
  exact ⟨⟨a, first⟩, effects_before h world around store⟩

end Tracing

open Tracing

namespace Target

/-- The second tree is evaluated by evaluating the first one once, with nothing else that has
effects. -/
structure Wraps (t u : Target) : Prop where
  hasEffects : u.hasEffects = t.hasEffects
  traced : Tracing.Wraps t.traced u.traced

variable {t u : Target}

theorem Wraps.refl (t : Target) : t.Wraps t := ⟨rfl, .refl _⟩

theorem wraps_constant (kind kind' : Kind) (value value' : Value) :
    (constant kind value).Wraps (constant kind' value') :=
  ⟨rfl, fun _ _ _ _ _ => ⟨⟨_, rfl⟩, rfl, rfl⟩⟩

theorem wraps_convert (kind : Kind) (t : Target) : t.Wraps (.convert kind t) := by
  refine ⟨rfl, wraps_before fun v => ?_⟩
  cases v.convert? kind with
  | some converted => exact quiet_pure converted
  | none => exact quiet_still _

theorem wraps_guard (kind : Kind) (t : Target) (name : String) {body : Target}
    (h : body.hasEffects = false) : t.Wraps (.guard kind t name body) := by
  refine ⟨?_, wraps_before fun v => ?_⟩
  · rw [Target.hasEffects, h, Bool.or_false]
  · cases v.isNull with
    | true => exact quiet_pure _
    | false => exact (body.quiet_traced h).withSlot name v

theorem wraps_map (kind : Kind) (t : Target) (name : String) {body : Target}
    (h : body.hasEffects = false) : t.Wraps (.map kind t name body) := by
  refine ⟨?_, wraps_before fun v => (quiet_still _).bind fun items => ?_⟩
  · rw [Target.hasEffects, h, Bool.or_false]
  · cases items with
    | none => exact quiet_pure _
    | some items => exact ((body.quiet_traced h).mapItems name items).bind fun _ => quiet_pure _

theorem wraps_lowercase (kind : Kind) (t : Target) : t.Wraps (.call kind .lowercase [t]) := by
  refine ⟨by simp [Target.hasEffects, anyHasEffects], ?_⟩
  have called : Tracing.Wraps (tracedAll [t])
      (do Tracing.call .lowercase (← tracedAll [t])) :=
    wraps_before fun values => quiet_call (by simp) values
  exact (wraps_before fun _ => quiet_pure _).trans called

/-- The trees of the second list wrap those of the first, one by one. -/
inductive AllWrap : List Target → List Target → Prop where
  | nil : AllWrap [] []
  | cons {t u : Target} {ts us : List Target} (first : t.Wraps u) (rest : AllWrap ts us) :
    AllWrap (t :: ts) (u :: us)

theorem AllWrap.refl (ts : List Target) : AllWrap ts ts := by
  induction ts with
  | nil => exact .nil
  | cons t ts ih => exact .cons (.refl t) ih

theorem AllWrap.hasEffects {ts us : List Target} (h : AllWrap ts us) :
    anyHasEffects us = anyHasEffects ts := by
  induction h with
  | nil => rfl
  | cons first rest ih => rw [anyHasEffects, anyHasEffects, first.hasEffects, ih]

theorem AllWrap.traced {ts us : List Target} (h : AllWrap ts us) :
    Tracing.Wraps (tracedAll ts) (tracedAll us) := by
  induction h with
  | nil => exact .refl _
  | cons first rest ih =>
    exact first.traced.bind fun _ _ => ih.bind fun _ _ => fun _ _ _ _ _ => ⟨⟨_, rfl⟩, rfl, rfl⟩

theorem AllWrap.list {ts us : List Target} (h : AllWrap ts us) (kind : Kind) :
    (Target.list kind ts).Wraps (.list kind us) :=
  ⟨h.hasEffects, h.traced.bind fun _ _ => fun _ _ _ _ _ => ⟨⟨_, rfl⟩, rfl, rfl⟩⟩

/-! ## Casts -/

theorem wraps_of_cast {kind : Kind} (h : t.cast kind = .ok u) : t.Wraps u := by
  cases constant : t.constant? with
  | some value =>
    cases t with
    | constant own value' =>
      obtain ⟨kind', value'', rfl⟩ := exists_constant_of_cast h
      exact wraps_constant _ _ _ _
    | _ => cases constant
  | none =>
    rw [cast_of_constant?_eq_none constant] at h
    cases h
    split
    · exact .refl t
    · exact wraps_convert kind t

theorem wraps_of_isCast (h : t.IsCast u) : t.Wraps u := by
  rcases h with rfl | ⟨kind, cast⟩
  · exact .refl _
  · exact wraps_of_cast cast

end Target

/-! ## Letter case -/

namespace Lowering

variable {names : Fields Target} {subject : Target}

/-- A guard around an operation without effects wraps the subject if the operation does. -/
theorem keeps_guardedWraps {build : Target → Lowering Target}
    (h : ∀ name, Keeps names (build (.parameter subject.kind name)) (·.hasEffects = false))
    (h' : Keeps names (build subject) subject.Wraps) :
    Keeps names (guarded subject build) subject.Wraps := by
  refine keeps_dialect.bind fun dialect _ => ?_
  split
  · exact (keeps_fresh _).bind fun name _ => (h name).bind fun body pure =>
      keeps_pure (Target.wraps_guard _ _ _ pure)
  · exact h'

theorem keeps_foldString : Keeps names (foldString subject) subject.Wraps := by
  unfold foldString
  split
  · rename_i s known
    cases subject with
    | constant => exact keeps_pure (Target.wraps_constant _ _ _ _)
    | _ => cases known
  · exact keeps_guardedWraps (fun _ => keeps_pure rfl) (keeps_pure (Target.wraps_lowercase _ _))

/-- Folding the letter case of an operand that is no list. -/
theorem keeps_foldSubject :
    Keeps names
      (match subject.kind with
        | .sequence element =>
          if mayBeString element then do
            let parameter ← fresh "f"
            let body ← foldString (.parameter element parameter)
            return .map subject.kind subject parameter body
          else return subject
        | kind => if mayBeString kind then foldString subject else return subject)
      subject.Wraps := by
  split
  · split
    · exact (keeps_fresh _).bind fun name _ => keeps_foldString.bind fun body wraps =>
        keeps_pure (Target.wraps_map _ _ _ wraps.hasEffects)
    · exact keeps_pure (.refl _)
  · split
    · exact keeps_foldString
    · exact keeps_pure (.refl _)

mutual

/-- An operand with its letter case folded wraps the operand. -/
theorem keeps_foldCase {names : Fields Target} (subject : Target) :
    Keeps names (foldCase subject) subject.Wraps := by
  match subject with
  | .list kind items =>
    unfold foldCase
    split
    · split
      · exact (keeps_foldCaseAll items).bind fun folded all => keeps_pure (all.list _)
      · exact keeps_pure (.refl _)
    · split
      · exact keeps_foldString
      · exact keeps_pure (.refl _)
  | .constant .. | .parameter .. | .property .. | .guard .. | .map .. | .filter .. | .quantify ..
  | .count .. | .reduce .. | .elementAt .. | .binary .. | .unary .. | .call .. | .convert ..
  | .assign .. | .bind .. =>
    unfold foldCase
    exact keeps_foldSubject

theorem keeps_foldCaseAll {names : Fields Target} (items : List Target) :
    Keeps names (foldCaseAll items) (Target.AllWrap items) := by
  match items with
  | [] => exact keeps_pure .nil
  | item :: rest =>
    unfold foldCaseAll
    exact (keeps_foldCase item).bind fun _ first => (keeps_foldCaseAll rest).bind fun _ others =>
      keeps_pure (.cons first others)

end

theorem keeps_foldString_notList :
    Keeps names (foldString subject) (fun t => ∀ kind ts, t ≠ .list kind ts) := by
  unfold foldString
  split
  · exact keeps_pure (by simp [Target.ofValue])
  · refine keeps_dialect.bind fun dialect _ => ?_
    split
    · exact (keeps_fresh _).bind fun name _ =>
        (keeps_pure (P := fun _ => True) trivial).bind fun body _ => keeps_pure (by simp)
    · exact keeps_pure (by simp)

/-- With its letter case folded, only a list becomes one. -/
theorem keeps_foldCase_list (subject : Target) :
    Keeps names (foldCase subject) (fun t => ∀ kind us, t = .list kind us →
      ∃ ts : List Target, subject = .list kind ts ∧ Target.AllWrap ts us) := by
  have same : Keeps names (pure subject) (fun t => ∀ kind us, t = .list kind us →
      ∃ ts : List Target, subject = .list kind ts ∧ Target.AllWrap ts us) :=
    keeps_pure fun kind us list => ⟨us, list, .refl us⟩
  have string : Keeps names (foldString subject) (fun t => ∀ kind us, t = .list kind us →
      ∃ ts : List Target, subject = .list kind ts ∧ Target.AllWrap ts us) :=
    keeps_foldString_notList.mono fun t other kind us list => absurd list (other kind us)
  cases subject with
  | list kind items =>
    unfold foldCase
    split
    · split
      · refine (keeps_foldCaseAll items).bind fun folded all => keeps_pure ?_
        rintro _ _ ⟨⟩
        exact ⟨items, rfl, all⟩
      · exact same
    · split
      · exact string
      · exact same
  | _ =>
    unfold foldCase
    split
    · split
      · exact (keeps_fresh _).bind fun name _ => keeps_foldString.bind fun body _ =>
          keeps_pure (by simp)
      · exact same
    · split
      · exact string
      · exact same

end Lowering

end PredicateLang
