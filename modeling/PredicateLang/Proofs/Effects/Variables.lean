import PredicateLang.Proofs.Effects.Comparison
import PredicateLang.Proofs.Effects.Compiled

/-!
# Reading variables

Variables are assigned in one table that nothing truncates. So a variable that is read has the value
that it was assigned last, and it makes no difference whether this was inside the predicate of a
subquery or outside. Only inside the predicate of a subquery over the variable itself it has a slot,
which is looked at first.

`Tracing.Tracks` says this of a step: what the trace lists before a read accounts for its value. It
holds of a tree as soon as no guard, iteration or binding has the name of a variable.
-/

namespace PredicateLang

/-! ## The latest assignment -/

namespace Event

/-- The value that the event assigns to a name. -/
def assigned? (name : String) : Event → Option Value
  | .assign name' value => if name' = name then some value else none
  | .read .. | .draw _ => none

/-- The value that a name was assigned last. -/
def last? (name : String) (events : List Event) : Option Value :=
  events.reverse.findSome? (assigned? name)

variable {name : String} {value : Value} {events events' : List Event}

theorem assigned?_eq_some {event : Event} :
    event.assigned? name = some value ↔ event = .assign name value := by
  cases event with
  | assign name' value' => simp [assigned?]
  | read within name' value' => simp [assigned?]
  | draw number => simp [assigned?]

@[simp] theorem last?_nil : last? name [] = none := rfl

@[simp] theorem last?_append :
    last? name (events ++ events') = (last? name events').or (last? name events) := by
  simp [last?]

@[simp] theorem last?_singleton {event : Event} : last? name [event] = event.assigned? name := by
  simp only [last?, List.reverse_singleton, List.findSome?_cons, List.findSome?_nil]
  cases event.assigned? name <;> rfl

/-- After the latest assignment there is no other. -/
theorem exists_of_last? (h : last? name events = some value) :
    ∃ earlier later, events = earlier ++ .assign name value :: later
      ∧ ∀ other, .assign name other ∉ later := by
  obtain ⟨later, event, earlier, split, gives, none⟩ := List.findSome?_eq_some_iff.mp h
  have is_assign : event = .assign name value := assigned?_eq_some.mp gives
  refine ⟨earlier.reverse, later.reverse, ?_, ?_⟩
  · have := congrArg List.reverse split
    simpa [is_assign] using this
  · intro other mem
    have assigns := none _ (List.mem_reverse.mp mem)
    rw [assigned?_eq_some.mpr rfl] at assigns
    cases assigns

end Event

open Event Scope

/-- Variables have slots only inside the predicates of subqueries over them. -/
def Surroundings.Clear (around : Surroundings) : Prop :=
  ∀ v, variableKey v ∉ around.within → Fields.find? around.slots (variableKey v) = none

theorem Surroundings.Clear.push {around : Surroundings} (h : around.Clear) {name : String}
    (made : isMadeUp name) (value : Value) : (around.push name value).Clear := by
  intro v outside
  have other : name ≠ variableKey v := (ne_of_isMadeUp (isMadeUp_variableKey v) made).symm
  rw [Surroundings.push, Fields.find?, if_neg other]
  exact h v outside

/-- The slot of the variable of a subquery is there inside its predicate. -/
theorem Surroundings.Clear.enter {around : Surroundings} (h : around.Clear) (name : String)
    (value : Value) : ((around.push name value).enter name).Clear := by
  intro v outside
  have outside : variableKey v ≠ name ∧ variableKey v ∉ around.within := by
    simpa [Surroundings.enter, Surroundings.push] using outside
  show Fields.find? ((name, value) :: around.slots) (variableKey v) = none
  rw [Fields.find?, if_neg (Ne.symm outside.1)]
  exact h v outside.2

/-! ## Runs -/

/-- The events of a run that begins with a store account for the variables in the store after it and
for the values of those that are read on the way. -/
structure Run.Tracks {α : Type} (run : Run α) (store : Store) : Prop where
  assigned : ∀ v, run.store.assigned.find? (variableKey v)
    = (last? (variableKey v) run.events).or (store.assigned.find? (variableKey v))
  reads : ∀ before within v value after,
    run.events = before ++ .read within (variableKey v) value :: after → variableKey v ∉ within →
      (last? (variableKey v) before).or (store.assigned.find? (variableKey v)) = some value

namespace Run

variable {α β : Type} {store : Store}

theorem tracks_still (store : Store) (result : Except Error α) :
    (Run.mk [] store result).Tracks store := by
  refine ⟨fun v => rfl, ?_⟩
  intro before within v value after events
  simp at events

/-- An event that is no read. -/
theorem tracks_effect {event : Event} {after : Store} (effect : event.isEffect)
    (result : Except Error α)
    (assigned : ∀ v, after.assigned.find? (variableKey v)
      = (event.assigned? (variableKey v)).or (store.assigned.find? (variableKey v))) :
    (Run.mk [event] after result).Tracks store := by
  refine ⟨fun v => by rw [assigned, last?_singleton], ?_⟩
  intro before within v value later events
  obtain ⟨-, rfl, -⟩ : before = [] ∧ event = .read within (variableKey v) value ∧ later = [] := by
    rcases List.cons_eq_append_iff.mp events with ⟨rfl, same⟩ | ⟨rest, -, same⟩
    · simp only [List.cons.injEq] at same
      exact ⟨rfl, same.1.symm, same.2⟩
    · simp at same
  cases effect

/-- One run after the other. -/
theorem Tracks.append {run : Run α} {run' : Run β} (h : run.Tracks store)
    (h' : run'.Tracks run.store) :
    (Run.mk (run.events ++ run'.events) run'.store run'.result).Tracks store := by
  constructor
  · intro v
    rw [h'.assigned, h.assigned, last?_append, Option.or_assoc]
  · intro before within v value after split outside
    -- The read is in the second run or in the first one.
    rcases List.append_eq_append_iff.mp split with ⟨rest, rfl, second⟩ | ⟨rest, first, last⟩
    · rw [last?_append, Option.or_assoc, ← h.assigned]
      exact h'.reads rest within v value after second outside
    · cases rest with
      | nil =>
        rw [List.append_nil] at first
        subst first
        rw [← h.assigned]
        exact h'.reads [] within v value after last.symm outside
      | cons event rest =>
        simp only [List.cons_append, List.cons.injEq] at last
        rw [← last.1] at first
        exact h.reads before within v value rest first outside

end Run

/-! ## Steps -/

namespace Tracing

variable {α β : Type} {step : Tracing α}

/-- In clear surroundings the events of the step account for the variables. -/
def Tracks (step : Tracing α) : Prop :=
  ∀ world around store, around.Clear → (step world around store).Tracks store

theorem tracks_pure (a : α) : Tracks (pure a) := fun _ _ store _ => Run.tracks_still store _

theorem tracks_still (step : Evaluation α) : Tracks (still step) := by
  intro world around store clear
  unfold still
  cases step world .empty <;> exact Run.tracks_still store _

theorem Tracks.bind {next : α → Tracing β} (h : Tracks step) (h' : ∀ a, Tracks (next a)) :
    Tracks (step >>= next) := by
  intro world around store clear
  have first := h world around store clear
  cases result : (step world around store).result with
  | error e =>
    rw [bind_of_error result]
    exact ⟨first.assigned, first.reads⟩
  | ok a =>
    rw [bind_of_ok result]
    exact first.append (h' a world around _ clear)

/-- A variable without a slot is looked for in the table. -/
theorem tracks_lookup (name : String) : Tracks (lookup name) := by
  intro world around store clear
  unfold lookup
  cases found : around.lookup? store name with
  | none => exact Run.tracks_still store _
  | some value =>
    constructor
    · intro v
      rfl
    · intro before within v value' after events outside
      obtain ⟨rfl, rfl, rfl, rfl⟩ : before = [] ∧ within = around.within ∧ name = variableKey v
          ∧ value' = value := by
        rcases List.cons_eq_append_iff.mp events with ⟨rfl, same⟩ | ⟨rest, -, same⟩
        · simp only [List.cons.injEq, Event.read.injEq] at same
          exact ⟨rfl, same.1.1, same.1.2.1.symm, same.1.2.2⟩
        · simp at same
      unfold Surroundings.lookup? at found
      rw [clear v outside] at found
      exact found

theorem tracks_assign (name : String) (value : Value) : Tracks (assign name value) := by
  intro world around store clear
  refine Run.tracks_effect rfl _ fun v => ?_
  show (store.assigned.insert name value).find? (variableKey v) = _
  by_cases same : name = variableKey v
  · subst same
    simp [assigned?]
  · rw [Fields.find?_insert_of_ne _ _ same]
    simp [assigned?, same]

theorem tracks_draw : Tracks draw := fun _ _ _ _ => Run.tracks_effect rfl _ fun _ => rfl

theorem tracks_call (builtin : Builtin) (args : List Value) : Tracks (call builtin args) := by
  cases builtin with
  | random => exact tracks_draw.bind fun _ => tracks_pure _
  | randomBelow =>
    exact (tracks_still _).bind fun _ => tracks_draw.bind fun _ => tracks_pure _
  | now => exact tracks_still (Evaluation.call .now args)
  | _ => exact tracks_still _

theorem Tracks.truth {step : Tracing Value} (h : Tracks step) :
    Tracks (do still (Evaluation.truth (← step))) := h.bind fun _ => tracks_still _

/-- A slot with a name that is no variable's. -/
theorem Tracks.withSlot (h : Tracks step) {name : String} (made : isMadeUp name) (value : Value) :
    Tracks (withSlot name value step) := by
  intro world around store clear
  exact h world _ store (clear.push made value)

/-- The slot of the variable of a subquery, inside its predicate. -/
theorem Tracks.inside (h : Tracks step) (name : String) (value : Value) :
    Tracks (Tracing.withSlot name value (inside name step)) := by
  intro world around store clear
  exact h world _ store (clear.enter name value)

theorem Tracks.mapItems {body : Tracing Value} (h : Tracks body) {name : String}
    (made : isMadeUp name) (items : List Value) : Tracks (mapItems name body items) := by
  induction items with
  | nil => exact tracks_pure []
  | cons item rest ih =>
    exact (h.withSlot made item).bind fun _ => ih.bind fun _ => tracks_pure _

theorem Tracks.filterItems {predicate : Tracing Bool} (h : Tracks predicate) (name : String)
    (items : List Value) : Tracks (filterItems name (Tracing.inside name predicate) items) := by
  induction items with
  | nil => exact tracks_pure []
  | cons item rest ih =>
    exact (h.inside name item).bind fun _ => ih.bind fun _ => tracks_pure _

theorem Tracks.quantifyItems {predicate : Tracing Bool} (h : Tracks predicate)
    (quantifier : Quantifier) {name : String} (made : isMadeUp name) (items : List Value) :
    Tracks (quantifyItems quantifier name predicate items) := by
  induction items with
  | nil => exact tracks_pure _
  | cons item rest ih =>
    refine (h.withSlot made item).bind fun holds => ?_
    cases quantifier <;> cases holds <;> first | exact tracks_pure _ | exact ih

/-- A step on the items of a source, and another in case that the source is null. -/
theorem Tracks.items {source : Tracing Value} {next : Option (List Value) → Tracing β}
    (h : Tracks source) (next_tracks : ∀ items, Tracks (next items)) :
    Tracks (do next (← still (Evaluation.items? (← source)))) :=
  h.bind fun _ => (tracks_still _).bind next_tracks

end Tracing

/-! ## Trees -/

open Tracing

mutual

/-- The trace of a tree whose own names are made up accounts for the variables. -/
theorem Target.Alike.tracks {effects : Bool} {ρ : Naming} {t t' : Target}
    (h : t.Alike effects ρ t') : Tracks t.traced := by
  cases h with
  | constant _ value => exact tracks_pure value
  | parameter => exact tracks_lookup _
  | property _ _ h | count _ h | unary _ _ h => exact h.tracks.bind fun _ => tracks_still _
  | guard _ h made h' =>
    refine h.tracks.bind fun v => ?_
    cases v.isNull with
    | true => exact tracks_pure _
    | false => exact h'.tracks.withSlot made.1 v
  | map _ h made h' =>
    refine h.tracks.items fun items => ?_
    cases items with
    | none => exact tracks_pure _
    | some items => exact (h'.tracks.mapItems made.1 items).bind fun _ => tracks_pure _
  | filter _ h _ h' =>
    refine h.tracks.items fun items => ?_
    cases items with
    | none => exact tracks_pure _
    | some items => exact (h'.tracks.truth.filterItems _ items).bind fun _ => tracks_pure _
  | quantify _ quantifier h made h' =>
    refine h.tracks.items fun items => ?_
    cases items with
    | none => exact tracks_pure _
    | some items =>
      exact (h'.tracks.truth.quantifyItems quantifier made.1 items).bind fun _ => tracks_pure _
  | reduce _ _ h =>
    refine h.tracks.items fun items => ?_
    cases items with
    | none => exact tracks_pure _
    | some items => exact tracks_still _
  | elementAt _ h h' => exact h.tracks.bind fun _ => h'.tracks.bind fun _ => tracks_still _
  | list _ h => exact h.tracks.bind fun _ => tracks_pure _
  | binary _ op h h' =>
    cases op with
    | andAlso | orElse =>
      -- The right side is evaluated or not.
      refine h.tracks.bind fun v => (tracks_still _).bind fun b => ?_
      cases b <;> first
        | exact tracks_pure _
        | exact h'.tracks.bind fun _ => (tracks_still _).bind fun _ => tracks_pure _
    | _ => exact h.tracks.bind fun _ => h'.tracks.bind fun _ => tracks_still _
  | call _ builtin _ h => exact h.tracks.bind fun values => tracks_call builtin values
  | convert kind h =>
    refine h.tracks.bind fun v => ?_
    cases v.convert? kind with
    | some converted => exact tracks_pure converted
    | none => exact tracks_still _
  | assign _ name _ h =>
    exact h.tracks.bind fun v => (tracks_assign name v).bind fun _ => tracks_pure v
  | bind _ h made h' => exact h.tracks.bind fun v => h'.tracks.withSlot made.1 v

theorem Target.AllAlike.tracks {effects : Bool} {ρ : Naming} {ts ts' : List Target}
    (h : Target.AllAlike effects ρ ts ts') : Tracks (Target.tracedAll ts) := by
  cases h with
  | nil => exact tracks_pure []
  | cons h h' => exact h.tracks.bind fun _ => h'.tracks.bind fun _ => tracks_pure _

end

/-! ## Compiled trees -/

section

variable {c : Compiled} {object : Kind} {settings : Settings}

theorem Target.closed_of_asResult {t t' : Target} {kind : Kind} (h : t.Alike true .outer t)
    (ok : t.asResult kind = .ok t') : t'.Alike true .outer t' := by
  unfold Target.asResult at ok
  split at ok
  · cases ok
    exact h
  · split at ok
    · have both : Agrees (Target.Alike true .outer) (t.cast kind) (t.cast kind) :=
        Lowering.alike_cast h
      rw [ok] at both
      exact both.of_ok
    · cases ok
      exact .convert kind h

/-- A compiled expression reads no made-up name from outside. -/
theorem Expr.closed_of_compile {e : Expr} {result : Option Kind}
    (compiles : e.compile object result settings = .ok c) :
    c.target.Alike true .outer c.target := by
  unfold Expr.compile at compiles
  obtain ⟨t, lowered, compiles⟩ := exists_of_bind_ok compiles
  have plain : e.compile object none settings = .ok ⟨t, settings.dialect⟩ := by
    unfold Expr.compile
    rw [lowered]
    rfl
  obtain ⟨-, after, run⟩ := Expr.compile_eq_ok.mp plain
  have closed := (Expr.closed_of_lower (isProper_root object settings) run).1
  cases result with
  | none =>
    cases compiles
    exact closed
  | some kind =>
    obtain ⟨t', ok, compiles⟩ := exists_of_bind_ok compiles
    cases compiles
    exact Target.closed_of_asResult closed ok

/-- A compiled predicate reads no made-up name from outside. -/
theorem Predicate.closed_of_compile {p : Predicate} (compiles : p.compile object settings = .ok c) :
    c.target.Alike true .outer c.target := by
  obtain ⟨-, after, run⟩ := Predicate.compile_eq_ok.mp compiles
  have named : p.mentionsOnly fun _ => true := p.mentionsOnly_of_forall fun _ => rfl
  have both := p.matches_lower (.inl (rfl : true = true)) named settings _ _
    (isProper_root object settings) fun _ _ => rfl
  rw [run] at both
  exact both.of_ok.1.extend (Naming.extend_only fun _ _ => trivial)

/-- A variable that is read in an evaluation has the value of the latest assignment to it in this
evaluation, unless this is inside the predicate of a subquery over the variable. -/
theorem Compiled.reads_latest
    (compiles : (∃ p : Predicate, p.compile object settings = .ok c)
      ∨ ∃ (e : Expr) (result : Option Kind), e.compile object result settings = .ok c)
    {v value : Value} {world : World} {memory : Memory} {before after : List Event}
    {within : List String} {name : String}
    (reads : (c.runOn v world memory).events
      = before ++ .read within (variableKey name) value :: after)
    (outside : variableKey name ∉ within) :
    ∃ earlier later, before = earlier ++ .assign (variableKey name) value :: later
      ∧ ∀ other, .assign (variableKey name) other ∉ later := by
  have closed : c.target.Alike true .outer c.target := by
    rcases compiles with ⟨p, compiles⟩ | ⟨e, result, compiles⟩
    · exact Predicate.closed_of_compile compiles
    · exact Expr.closed_of_compile compiles
  -- When evaluation begins, only the object has a slot.
  have clear : Surroundings.Clear ⟨(start v memory).slots, []⟩ := by
    intro name' _
    exact if_neg (objectName_ne_variableKey name')
  have tracks := closed.tracks world _ ⟨(start v memory).assigned, (start v memory).drawn⟩ clear
  have latest := tracks.reads before within name value after reads outside
  exact exists_of_last? (by simpa [start, Memory.push, Memory.empty, Fields.find?] using latest)

/-- Is `$a`, which is assigned before, equal to a number inside the predicate of a subquery? -/
def Predicate.readsInside : Predicate :=
  .compound .and
    [.comparison (.assign "a" (.constant (.int 5))) .equal (.constant (.int 5)) .direct .none,
      .comparison (.pathOn (.subquery (.list [.constant (.int 1)]) "k"
          (.comparison (.var "a") .equal (.constant (.int 5)) .direct .none)) "@count")
        .equal (.constant (.int 1)) .direct .none]

/-- In `($a := 5) == 5 AND SUBQUERY({1}, $k, $a == 5).@count == 1` the variable is read inside the
predicate of the subquery and has the value that it was assigned outside. -/
theorem Compiled.reads_latest_inside : ∃ c : Compiled,
    Predicate.readsInside.compile .any (.ofDialect .objects) = .ok c
      ∧ (c.runOn .null ⟨⟨0, 0⟩, fun _ => 0⟩ .empty).events
        = [.assign (variableKey "a") (.int 5)] ++ [.read ["$k"] (variableKey "a") (.int 5),
            .read [] "#g1" (.array [.int 1])]
      ∧ variableKey "a" ∉ ["$k"]
      ∧ ∃ earlier later : List Event,
        [.assign (variableKey "a") (.int 5)]
            = earlier ++ .assign (variableKey "a") (.int 5) :: later
          ∧ ∀ other, .assign (variableKey "a") other ∉ later := by
  obtain ⟨c, compiles, reads⟩ : ∃ c : Compiled,
      Predicate.readsInside.compile .any (.ofDialect .objects) = .ok c
        ∧ (c.runOn .null ⟨⟨0, 0⟩, fun _ => 0⟩ .empty).events
          = [.assign (variableKey "a") (.int 5)] ++ [.read ["$k"] (variableKey "a") (.int 5),
              .read [] "#g1" (.array [.int 1])] :=
    ⟨_, rfl, rfl⟩
  have outside : variableKey "a" ∉ ["$k"] := by decide
  exact ⟨c, compiles, reads, outside,
    Compiled.reads_latest (.inl ⟨_, compiles⟩) reads outside⟩

/-- Is `$a` equal to 1 after it was assigned 1, and then 7 inside the predicate of a subquery? -/
def Predicate.assignsInside : Predicate :=
  .compound .and
    [.comparison (.assign "a" (.constant (.int 1))) .equal (.constant (.int 1)) .direct .none,
      .comparison (.pathOn (.subquery (.list [.constant (.int 7)]) "k"
          (.comparison (.assign "a" (.var "k")) .equal (.constant (.int 7)) .direct .none))
        "@count") .equal (.constant (.int 1)) .direct .none,
      .comparison (.var "a") .equal (.constant (.int 1)) .direct .none]

/-- What is assigned inside the predicate of a subquery is read outside: after
`($a := 1) == 1 AND SUBQUERY({7}, $k, ($a := $k) == 7).@count == 1` the variable is 7, not 1. -/
theorem Compiled.reads_assigned_inside : ∃ c : Compiled,
    Predicate.assignsInside.compile .any (.ofDialect .objects) = .ok c
      ∧ c.test .null ⟨⟨0, 0⟩, fun _ => 0⟩ .empty = .ok false .empty
      ∧ (c.runOn .null ⟨⟨0, 0⟩, fun _ => 0⟩ .empty).events
        = [.assign "$a" (.int 1), .read ["$k"] "$k" (.int 7), .assign "$a" (.int 7),
            .read [] "#g1" (.array [.int 7]), .read [] "$a" (.int 7)] :=
  ⟨_, rfl, rfl, rfl⟩

end

end PredicateLang
