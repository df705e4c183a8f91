import PredicateLang.Proofs.Coercion
import PredicateLang.Proofs.Condition
import PredicateLang.Proofs.Effects.Quiet

/-!
# How often something is done

A tree says where a variable is assigned and where a random number is drawn. `Target.Does os t`
says that evaluating the tree does what is listed in `os`, in that order, each at most once, and
nothing else, also when evaluation fails half way. There is a lemma for each sort of node that an
expression without subqueries is lowered to.
-/

namespace PredicateLang

/-- Something that is done where it stands: a variable is assigned, or a random number drawn. -/
inductive Occurrence where
  | assign (name : String)
  | draw
deriving DecidableEq, Repr

/-- What is done when the event happens. -/
def Event.occurrence? : Event → Option Occurrence
  | .read .. => none
  | .assign name _ => some (.assign name)
  | .draw _ => some .draw

/-- What is done in a run, in order. -/
def Run.occurrences {α : Type} (run : Run α) : List Occurrence :=
  run.events.filterMap Event.occurrence?

/-- The place where a random number is drawn, if one is. -/
def Occurrence.draws (random : Bool) : List Occurrence := if random then [.draw] else []

namespace Tracing

variable {α β : Type} {os os' : List Occurrence} {step : Tracing α}

/-- The step does what is listed, in that order and each at most once, and nothing else. As many
random numbers are taken as are drawn. -/
def AtMost (os : List Occurrence) (step : Tracing α) : Prop :=
  ∀ world around store, (step world around store).occurrences.Sublist os
    ∧ (step world around store).store.drawn
      = store.drawn + (step world around store).occurrences.count .draw

theorem AtMost.mono (h : AtMost os step) (le : os.Sublist os') : AtMost os' step :=
  fun world around store => ⟨(h world around store).1.trans le, (h world around store).2⟩

theorem atMost_of_nil (h : AtMost [] step) : AtMost os step := h.mono (List.nil_sublist os)

theorem atMost_pure (a : α) : AtMost [] (pure a) := fun _ _ _ => ⟨.slnil, rfl⟩

theorem atMost_still (step : Evaluation α) : AtMost [] (still step) := by
  intro world around store
  unfold still
  cases step world .empty <;> exact ⟨.slnil, rfl⟩

theorem atMost_lookup (name : String) : AtMost [] (lookup name) := by
  intro world around store
  unfold lookup
  cases around.lookup? store name <;> exact ⟨.slnil, rfl⟩

theorem AtMost.bind {next : α → Tracing β} (h : AtMost os step) (h' : ∀ a, AtMost os' (next a)) :
    AtMost (os ++ os') (step >>= next) := by
  intro world around store
  obtain ⟨first, drawn⟩ := h world around store
  cases result : (step world around store).result with
  | error e =>
    rw [bind_of_error result]
    exact ⟨first.trans (List.sublist_append_left os os'), drawn⟩
  | ok a =>
    obtain ⟨second, drawn'⟩ := h' a world around (step world around store).store
    rw [bind_of_ok result]
    simp only [Run.occurrences, List.filterMap_append, List.count_append] at *
    exact ⟨first.append second, by omega⟩

/-- A step after which nothing is done. -/
theorem AtMost.before {next : α → Tracing β} (h : AtMost os step) (h' : ∀ a, AtMost [] (next a)) :
    AtMost os (step >>= next) := by
  simpa using h.bind h'

theorem occurrences_bind {next : α → Tracing β} {world : World} {around : Surroundings}
    {store : Store} {a : α} (ok : (step world around store).result = .ok a) :
    ((step >>= next) world around store).occurrences = (step world around store).occurrences
      ++ (next a world around (step world around store).store).occurrences := by
  rw [bind_of_ok ok]
  exact List.filterMap_append

theorem occurrences_before {next : α → Tracing β} (h : ∀ a, AtMost [] (next a)) {world : World}
    {around : Surroundings} {store : Store} :
    ((step >>= next) world around store).occurrences = (step world around store).occurrences := by
  cases result : (step world around store).result with
  | error e =>
    rw [bind_of_error result]
    rfl
  | ok a =>
    rw [occurrences_bind result, List.sublist_nil.mp (h a world around _).1, List.append_nil]

theorem AtMost.withSlot (h : AtMost os step) (name : String) (v : Value) :
    AtMost os (withSlot name v step) := fun world _ store => h world _ store

theorem atMost_assign (name : String) (v : Value) : AtMost [.assign name] (assign name v) :=
  fun _ _ _ => ⟨.refl _, rfl⟩

theorem atMost_draw : AtMost [.draw] draw := fun _ _ _ => ⟨.refl _, rfl⟩

theorem atMost_call (builtin : Builtin) (args : List Value) :
    AtMost (Occurrence.draws builtin.isRandom) (call builtin args) := by
  cases builtin with
  | random => exact atMost_draw.before fun _ => atMost_pure _
  | randomBelow =>
    exact (atMost_still _).bind fun bound => atMost_draw.before fun _ => atMost_pure _
  | _ => exact atMost_still _

/-- If nothing is done for an item, nothing is done for all of them. -/
theorem AtMost.mapItems {body : Tracing Value} (h : AtMost [] body) (parameter : String)
    (items : List Value) : AtMost [] (mapItems parameter body items) := by
  induction items with
  | nil => exact atMost_pure []
  | cons item rest ih =>
    exact (h.withSlot parameter item).bind fun _ => ih.before fun _ => atMost_pure _

end Tracing

namespace Target

open Tracing

/-- Evaluating the tree does what is listed, in that order and each at most once, and nothing
else. -/
def Does (os : List Occurrence) (t : Target) : Prop := AtMost os t.traced

/-- What is listed is what each of the trees does, one after the other. -/
inductive AllDo : List Occurrence → List Target → Prop where
  | nil : AllDo [] []
  | cons {os os' : List Occurrence} {t : Target} {ts : List Target} (first : t.Does os)
    (rest : AllDo os' ts) : AllDo (os ++ os') (t :: ts)

variable {os os' : List Occurrence} {s t u : Target} {ts us : List Target}

theorem Does.mono (h : t.Does os) (le : os.Sublist os') : t.Does os' := AtMost.mono h le

/-! ## Nodes -/

theorem does_constant (kind : Kind) (value : Value) : (constant kind value).Does os :=
  atMost_of_nil (atMost_pure value)

theorem does_parameter (kind : Kind) (name : String) : (parameter kind name).Does os :=
  atMost_of_nil (atMost_lookup name)

theorem Does.property (h : t.Does os) (kind : Kind) (name : String) :
    (property kind t name).Does os := AtMost.before h fun _ => atMost_still _

theorem Does.count (h : t.Does os) (kind : Kind) : (count kind t).Does os :=
  AtMost.before h fun _ => atMost_still _

theorem Does.unary (h : t.Does os) (kind : Kind) (op : UnaryOp) : (unary kind op t).Does os :=
  AtMost.before h fun _ => atMost_still _

theorem Does.convert (h : t.Does os) (kind : Kind) : (convert kind t).Does os := by
  refine AtMost.before h fun v => ?_
  cases v.convert? kind with
  | some converted => exact atMost_pure converted
  | none => exact atMost_still _

theorem Does.reduce (h : t.Does os) (kind : Kind) (reduction : Reduction) :
    (reduce kind reduction t).Does os := by
  refine AtMost.before h fun v => (atMost_still _).bind fun items => ?_
  cases items with
  | none => exact atMost_pure _
  | some items => exact atMost_still _

theorem Does.map (h : t.Does os) (h' : u.Does []) (kind : Kind) (name : String) :
    (map kind t name u).Does os := by
  refine AtMost.before h fun v => (atMost_still _).bind fun items => ?_
  cases items with
  | none => exact atMost_pure _
  | some items => exact (AtMost.mapItems h' name items).before fun _ => atMost_pure _

theorem Does.guard (h : t.Does os) (h' : u.Does os') (kind : Kind) (name : String) :
    (guard kind t name u).Does (os ++ os') := by
  refine AtMost.bind h fun v => ?_
  cases v.isNull with
  | true => exact atMost_of_nil (atMost_pure _)
  | false => exact AtMost.withSlot h' name v

theorem Does.elementAt (h : s.Does os) (h' : t.Does os') (kind : Kind) :
    (elementAt kind s t).Does (os ++ os') :=
  AtMost.bind h fun _ => AtMost.before h' fun _ => atMost_still _

theorem Does.binary (h : s.Does os) (h' : t.Does os') (kind : Kind) (op : BinaryOp) :
    (binary kind op s t).Does (os ++ os') := by
  have truth : AtMost os'
      (do return Value.boolean (← still (Evaluation.truth (← t.traced))) : Tracing Value) :=
    AtMost.before h' fun _ => (atMost_still _).before fun _ => atMost_pure _
  -- A connective may leave the second operand alone.
  cases op with
  | andAlso =>
    refine AtMost.bind h fun _ => (atMost_still _).bind fun b => ?_
    cases b with
    | true => exact truth
    | false => exact atMost_of_nil (atMost_pure _)
  | orElse =>
    refine AtMost.bind h fun _ => (atMost_still _).bind fun b => ?_
    cases b with
    | true => exact atMost_of_nil (atMost_pure _)
    | false => exact truth
  | _ => exact AtMost.bind h fun _ => AtMost.before h' fun _ => atMost_still _

theorem Does.assign (h : t.Does os) (kind : Kind) (name : String) :
    (assign kind name t).Does (os ++ [.assign name]) :=
  AtMost.bind h fun v => (atMost_assign name v).before fun _ => atMost_pure _

theorem AllDo.traced (h : AllDo os ts) : AtMost os (tracedAll ts) := by
  induction h with
  | nil => exact atMost_pure []
  | cons first rest ih => exact AtMost.bind first fun _ => ih.before fun _ => atMost_pure _

theorem AllDo.list (h : AllDo os ts) (kind : Kind) : (list kind ts).Does os :=
  h.traced.before fun _ => atMost_pure _

theorem AllDo.call (h : AllDo os ts) (kind : Kind) (builtin : Builtin) :
    (call kind builtin ts).Does (os ++ Occurrence.draws builtin.isRandom) :=
  h.traced.bind fun values => atMost_call builtin values

theorem Does.call (h : t.Does os) (kind : Kind) (builtin : Builtin) :
    (Target.call kind builtin [t]).Does (os ++ Occurrence.draws builtin.isRandom) := by
  have alone : AllDo os [t] := by simpa using AllDo.cons h .nil
  exact alone.call kind builtin

/-- The tree does what is listed, and is no list but an operation. -/
structure Operates (os : List Occurrence) (t : Target) : Prop where
  does : t.Does os
  isList : t.isList = false

theorem Operates.mono (h : t.Operates os) (le : os.Sublist os') : t.Operates os' :=
  ⟨h.does.mono le, h.isList⟩

/-! ## Casts -/

theorem does_of_cast {kind : Kind} (h : t.Does os) (cast : t.cast kind = .ok u) : u.Does os := by
  cases constant : t.constant? with
  | some value =>
    cases t with
    | constant own value' =>
      obtain ⟨kind', value'', rfl⟩ := exists_constant_of_cast cast
      exact does_constant kind' value''
    | _ => cases constant
  | none =>
    rw [cast_of_constant?_eq_none constant] at cast
    cases cast
    split
    · exact h
    · exact h.convert kind

theorem does_of_isCast (h : t.Does os) (cast : t.IsCast u) : u.Does os := by
  rcases cast with rfl | ⟨kind, cast⟩
  · exact h
  · exact does_of_cast h cast

theorem allDo_of_casts {kind : Kind} (h : AllDo os ts) (casts : ts.mapM (·.cast kind) = .ok us) :
    AllDo os us := by
  induction h generalizing us with
  | nil =>
    cases casts
    exact .nil
  | cons first rest ih =>
    rw [List.mapM_cons] at casts
    obtain ⟨u, cast, casts⟩ := exists_of_bind_ok casts
    obtain ⟨others, all, made⟩ := exists_of_bind_ok casts
    cases made
    exact .cons (does_of_cast first cast) (ih all)

end Target

end PredicateLang
