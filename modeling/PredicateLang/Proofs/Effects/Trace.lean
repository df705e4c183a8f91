import PredicateLang.Proofs.Typing.Evaluation

/-!
# Traces of evaluation

Evaluation gives a value and a memory, from which it cannot be seen how often and in which order the
parts of a tree have done something. `Target.traced` evaluates a tree and lists what happens on the
way: names are read, variables assigned, random numbers drawn. `Target.evaluation_traced` says that
it is the same evaluation.

Slots are opened and closed again, so they belong to the surroundings of a step. What a step leaves
behind are the assigned variables and the number of random numbers drawn, its `Store`.
-/

namespace PredicateLang

/-- Something that happens while a tree is evaluated. -/
inductive Event where
  /-- A name is read, inside the predicates of subqueries over the variables `within`. -/
  | read (within : List String) (name : String) (value : Value)
  | assign (name : String) (value : Value)
  | draw (number : Int)

/-- Is it more than a look at a name? -/
def Event.isEffect : Event → Bool
  | read .. => false
  | assign .. | draw _ => true

/-- What evaluation leaves behind. -/
structure Store where
  assigned : Fields Value
  drawn : Nat

/-- What is around a step of evaluation: the slots, the latest first, and the variables of the
subqueries whose predicates are being evaluated. -/
structure Surroundings where
  slots : List (String × Value)
  within : List String

namespace Surroundings

/-- Opens a slot. -/
def push (around : Surroundings) (name : String) (value : Value) : Surroundings :=
  { around with slots := (name, value) :: around.slots }

/-- Enters the predicate of a subquery. -/
def enter (around : Surroundings) (name : String) : Surroundings :=
  { around with within := name :: around.within }

/-- The value of a name: in the latest slot, or as a variable. -/
def lookup? (around : Surroundings) (store : Store) (name : String) : Option Value :=
  (Fields.find? around.slots name).orElse fun _ => store.assigned.find? name

end Surroundings

/-- What comes of a step of evaluation, and what happened on the way. -/
structure Run (α : Type) where
  events : List Event
  store : Store
  result : Except Error α

/-- A step of evaluation that lists what happens. -/
def Tracing (α : Type) := World → Surroundings → Store → Run α

namespace Tracing

variable {α β : Type}

/-- One step after the other; an error ends it. -/
protected def bind (step : Tracing α) (next : α → Tracing β) : Tracing β :=
  fun world around store =>
    let first := step world around store
    match first.result with
    | .ok a =>
      let second := next a world around first.store
      ⟨first.events ++ second.events, second.store, second.result⟩
    | .error e => ⟨first.events, first.store, .error e⟩

instance : Monad Tracing where
  pure a := fun _ _ store => ⟨[], store, .ok a⟩
  bind := Tracing.bind

section Bind

variable {step : Tracing α} {next : α → Tracing β} {world : World} {around : Surroundings}
  {store : Store}

theorem bind_of_ok {a : α} (h : (step world around store).result = .ok a) :
    (step >>= next) world around store
      = ⟨(step world around store).events
          ++ (next a world around (step world around store).store).events,
        (next a world around (step world around store).store).store,
        (next a world around (step world around store).store).result⟩ := by
  simp only [Bind.bind, Tracing.bind, h]

theorem bind_of_error {e : Error} (h : (step world around store).result = .error e) :
    (step >>= next) world around store
      = ⟨(step world around store).events, (step world around store).store, .error e⟩ := by
  simp only [Bind.bind, Tracing.bind, h]

end Bind

/-- A step that neither looks at the memory nor changes it. -/
def still (step : Evaluation α) : Tracing α := fun world _ store =>
  match step world .empty with
  | .ok a _ => ⟨[], store, .ok a⟩
  | .error e _ => ⟨[], store, .error e⟩

/-- The value of a name. -/
def lookup (name : String) : Tracing Value := fun _ around store =>
  match around.lookup? store name with
  | some value => ⟨[.read around.within name value], store, .ok value⟩
  | none => ⟨[], store, .error (.evaluation (.unboundParameter name))⟩

/-- Assigns a variable. -/
def assign (name : String) (value : Value) : Tracing Unit := fun _ _ store =>
  ⟨[.assign name value], { store with assigned := store.assigned.insert name value }, .ok ()⟩

/-- The next random number. -/
def draw : Tracing Int := fun world _ store =>
  let number := world.randomNumbers store.drawn
  ⟨[.draw number], { store with drawn := store.drawn + 1 }, .ok number⟩

/-- Does a step with a slot. -/
def withSlot (name : String) (value : Value) (step : Tracing α) : Tracing α :=
  fun world around store => step world (around.push name value) store

/-- Does a step inside the predicate of a subquery. -/
def inside (name : String) (step : Tracing α) : Tracing α :=
  fun world around store => step world (around.enter name) store

/-- The value of a builtin function. -/
def call (builtin : Builtin) (args : List Value) : Tracing Value :=
  match builtin with
  | .random => do return .int (← draw)
  | .randomBelow => do
    let bound ← still (Evaluation.ofResult (Evaluation.randomBound (args.headD .null)))
    return .int ((← draw) % bound)
  | builtin => still (Evaluation.call builtin args)

/-- The values of the body for the items. -/
def mapItems (parameter : String) (body : Tracing Value) : List Value → Tracing (List Value)
  | [] => return []
  | item :: rest => do
    let value ← withSlot parameter item body
    return value :: (← mapItems parameter body rest)

/-- The items for which the predicate holds. -/
def filterItems (parameter : String) (predicate : Tracing Bool) :
    List Value → Tracing (List Value)
  | [] => return []
  | item :: rest => do
    let keep ← withSlot parameter item predicate
    let kept ← filterItems parameter predicate rest
    return if keep then item :: kept else kept

/-- Does the predicate hold for all items, or for one? -/
def quantifyItems (quantifier : Quantifier) (parameter : String) (predicate : Tracing Bool) :
    List Value → Tracing Bool
  | [] => return quantifier = .all
  | item :: rest => do
    let holds ← withSlot parameter item predicate
    match quantifier, holds with
    | .any, true => return true
    | .all, false => return false
    | _, _ => quantifyItems quantifier parameter predicate rest

end Tracing

open Tracing

mutual

/-- The value of a tree, with a trace. -/
def Target.traced : Target → Tracing Value
  | .constant _ value => return value
  | .parameter _ name => lookup name
  | .property _ receiver name => do
    still (Evaluation.ofResult (Evaluation.property name (← Target.traced receiver)))
  | .guard _ subject binding body => do
    let value ← Target.traced subject
    if value.isNull then return body.kind.default else withSlot binding value (Target.traced body)
  | .map _ source item body => do
    match ← still (Evaluation.items? (← Target.traced source)) with
    | some items => return .array (← mapItems item (Target.traced body) items)
    | none => return .null
  | .filter _ source item predicate => do
    match ← still (Evaluation.items? (← Target.traced source)) with
    | some items =>
      return .array (← filterItems item
        (inside item do still (Evaluation.truth (← Target.traced predicate))) items)
    | none => return .null
  | .quantify _ quantifier source item predicate => do
    match ← still (Evaluation.items? (← Target.traced source)) with
    | some items =>
      return .boolean (← quantifyItems quantifier item
        (do still (Evaluation.truth (← Target.traced predicate))) items)
    | none => return .boolean (quantifier = .all)
  | .count _ source => do
    still (Evaluation.ofResult (Evaluation.count (← Target.traced source)))
  | .reduce kind reduction source => do
    match ← still (Evaluation.items? (← Target.traced source)) with
    | some items => still (Evaluation.ofResult (Evaluation.reduce kind reduction items))
    | none => return .null
  | .elementAt _ source index => do
    let source ← Target.traced source
    let index ← Target.traced index
    still (Evaluation.ofResult (Evaluation.elementAt source index))
  | .list _ items => do return .array (← Target.tracedAll items)
  | .binary _ .andAlso left right => do
    if ← still (Evaluation.truth (← Target.traced left)) then
      return .boolean (← still (Evaluation.truth (← Target.traced right)))
    else return .boolean false
  | .binary _ .orElse left right => do
    if ← still (Evaluation.truth (← Target.traced left)) then return .boolean true
    else return .boolean (← still (Evaluation.truth (← Target.traced right)))
  | .binary kind op left right => do
    let left ← Target.traced left
    let right ← Target.traced right
    still (Evaluation.ofResult (Evaluation.binary kind op left right))
  | .unary _ op operand => do
    still (Evaluation.ofResult (Evaluation.unary op (← Target.traced operand)))
  | .call _ builtin args => do Tracing.call builtin (← Target.tracedAll args)
  | .convert kind operand => do
    let value ← Target.traced operand
    match value.convert? kind with
    | some converted => return converted
    | none => still (throw (.evaluation (.inconvertible value kind)))
  | .assign _ name value => do
    let value ← Target.traced value
    Tracing.assign name value
    return value
  | .bind _ value binding body => do
    let value ← Target.traced value
    withSlot binding value (Target.traced body)

/-- The values of trees, with a trace. -/
def Target.tracedAll : List Target → Tracing (List Value)
  | [] => return []
  | t :: rest => do return (← Target.traced t) :: (← Target.tracedAll rest)

end

/-- Is it an operation that does not always look at both operands? -/
def BinaryOp.isConnective : BinaryOp → Bool
  | .andAlso | .orElse => true
  | _ => false

/-- An operation that is no connective evaluates its operands one after the other. -/
theorem Target.traced_binary (kind : Kind) {op : BinaryOp} (strict : op.isConnective = false)
    (left right : Target) : (binary kind op left right).traced = (do
      let l ← left.traced
      let r ← right.traced
      still (Evaluation.ofResult (Evaluation.binary kind op l r))) := by
  cases op <;> first | rfl | cases strict

/-! ## It is the same evaluation -/

namespace Evaluation

variable {α : Type}

/-- The step neither looks at the memory nor changes it. -/
def IsStill (step : Evaluation α) : Prop :=
  ∀ world m, step world m = match step world .empty with
    | .ok a _ => .ok a m
    | .error e _ => .error e m

theorem still_ofResult (result : Except Error α) : (ofResult result).IsStill := by
  intro world m
  cases result <;> rfl

theorem still_truth (v : Value) : (truth v).IsStill := by
  intro world m
  cases v <;> rfl

theorem still_items? (v : Value) : (items? v).IsStill := by
  intro world m
  cases v <;> rfl

end Evaluation

/-- What comes of a step, with the slots that were there before it. -/
def Run.outcome {α : Type} (run : Run α) (slots : List (String × Value)) :
    EStateM.Result Error Memory α :=
  match run.result with
  | .ok a => .ok a ⟨slots, run.store.assigned, run.store.drawn⟩
  | .error e => .error e ⟨slots, run.store.assigned, run.store.drawn⟩

namespace Tracing

variable {α β : Type} {step : Tracing α} {plain : Evaluation α}

/-- A step without its trace. -/
def evaluation (within : List String) (step : Tracing α) : Evaluation α := fun world m =>
  (step world ⟨m.slots, within⟩ ⟨m.assigned, m.drawn⟩).outcome m.slots

/-- The step is a plain one with a trace, whatever subqueries it is inside of. -/
def Traces (step : Tracing α) (plain : Evaluation α) : Prop :=
  ∀ within, evaluation within step = plain

theorem traces_pure (a : α) : Traces (pure a) (pure a) := fun _ => rfl

theorem Traces.bind {next : α → Tracing β} {plainNext : α → Evaluation β} (h : Traces step plain)
    (h' : ∀ a, Traces (next a) (plainNext a)) : Traces (step >>= next) (plain >>= plainNext) := by
  intro within
  funext world m
  have h' (a : α) : plainNext a = evaluation within (next a) := (h' a within).symm
  rw [← h within]
  show (Tracing.bind step next world ⟨m.slots, within⟩ ⟨m.assigned, m.drawn⟩).outcome m.slots = _
  cases first : (step world ⟨m.slots, within⟩ ⟨m.assigned, m.drawn⟩).result <;>
    simp only [evaluation, Run.outcome, Tracing.bind, Bind.bind, ReaderT.bind, EStateM.bind, first,
      h']

theorem traces_lookup (name : String) : Traces (lookup name) (Evaluation.lookup name) := by
  intro within
  funext world m
  have same : Surroundings.lookup? ⟨m.slots, within⟩ ⟨m.assigned, m.drawn⟩ name = m.lookup? name :=
    rfl
  rw [Evaluation.lookup_run, evaluation, lookup, same]
  cases m.lookup? name <;> rfl

theorem Traces.withSlot (h : Traces step plain) (name : String) (v : Value) :
    Traces (withSlot name v step) (Evaluation.withSlot name v plain) := by
  intro within
  funext world m
  have closed (store : Store) :
      Memory.truncate ⟨(m.push name v).slots, store.assigned, store.drawn⟩ m.slots.length
        = ⟨m.slots, store.assigned, store.drawn⟩ :=
    congrArg (Memory.mk · store.assigned store.drawn) (Memory.slots_truncate rfl)
  rw [← h within, evaluation, Evaluation.withSlot, evaluation]
  show (step world ⟨(m.push name v).slots, within⟩ ⟨m.assigned, m.drawn⟩).outcome m.slots
    = match (step world ⟨(m.push name v).slots, within⟩ ⟨m.assigned, m.drawn⟩).outcome _ with
      | .ok a after => .ok a (after.truncate m.slots.length)
      | .error e after => .error e (after.truncate m.slots.length)
  obtain ⟨events, store, result⟩ :=
    step world ⟨(m.push name v).slots, within⟩ ⟨m.assigned, m.drawn⟩
  cases result with
  | ok a => exact congrArg (EStateM.Result.ok a) (closed store).symm
  | error e => exact congrArg (EStateM.Result.error e) (closed store).symm

theorem Traces.inside (h : Traces step plain) (name : String) : Traces (inside name step) plain :=
  fun within => h (name :: within)

theorem traces_still (h : plain.IsStill) : Traces (still plain) plain := by
  intro within
  funext world m
  rw [h world m, evaluation, still]
  cases plain world .empty <;> rfl

theorem traces_ofResult (result : Except Error α) :
    Traces (still (Evaluation.ofResult result)) (Evaluation.ofResult result) :=
  traces_still (Evaluation.still_ofResult result)

theorem traces_call (builtin : Builtin) (args : List Value) :
    Traces (call builtin args) (Evaluation.call builtin args) := by
  cases builtin with
  | random => exact fun _ => rfl
  | randomBelow => exact (traces_ofResult _).bind fun bound _ => rfl
  | now => exact traces_still (show (Evaluation.call .now args).IsStill from fun _ _ => rfl)
  | _ => exact traces_ofResult _

theorem Traces.truth {step : Tracing Value} {plain : Evaluation Value} (h : Traces step plain) :
    Traces (do still (Evaluation.truth (← step))) (do Evaluation.truth (← plain)) :=
  h.bind fun v => traces_still (Evaluation.still_truth v)

theorem Traces.mapItems {body : Tracing Value} {plain : Evaluation Value} (h : Traces body plain)
    (parameter : String) (items : List Value) :
    Traces (mapItems parameter body items) (Evaluation.mapItems parameter plain items) := by
  induction items with
  | nil => exact traces_pure []
  | cons item rest ih => exact (h.withSlot parameter item).bind fun v => ih.bind fun _ => traces_pure _

theorem Traces.filterItems {predicate : Tracing Bool} {plain : Evaluation Bool}
    (h : Traces predicate plain) (parameter : String) (items : List Value) :
    Traces (filterItems parameter predicate items) (Evaluation.filterItems parameter plain items) := by
  induction items with
  | nil => exact traces_pure []
  | cons item rest ih => exact (h.withSlot parameter item).bind fun v => ih.bind fun _ => traces_pure _

theorem Traces.quantifyItems {predicate : Tracing Bool} {plain : Evaluation Bool}
    (h : Traces predicate plain) (quantifier : Quantifier) (parameter : String)
    (items : List Value) :
    Traces (quantifyItems quantifier parameter predicate items)
      (Evaluation.quantifyItems quantifier parameter plain items) := by
  induction items with
  | nil => exact traces_pure _
  | cons item rest ih =>
    refine (h.withSlot parameter item).bind fun holds => ?_
    cases quantifier <;> cases holds <;> first | exact traces_pure _ | exact ih

/-- A step on the items of a source, and another in case that the source is null. -/
theorem Traces.items {source : Tracing Value} {plain : Evaluation Value}
    {next : Option (List Value) → Tracing β} {plainNext : Option (List Value) → Evaluation β}
    (h : Traces source plain) (none : Traces (next none) (plainNext none))
    (some : ∀ items, Traces (next (some items)) (plainNext (some items))) :
    Traces (do next (← still (Evaluation.items? (← source))))
      (do plainNext (← Evaluation.items? (← plain))) := by
  refine h.bind fun v => (traces_still (Evaluation.still_items? v)).bind fun items => ?_
  cases items with
  | none => exact none
  | some items => exact some items

end Tracing

open Tracing Evaluation

mutual

/-- A tree is traced as it is evaluated. -/
theorem Target.traces_eval (t : Target) : Traces t.traced t.eval := by
  match t with
  | .constant _ value => exact traces_pure value
  | .parameter _ name => exact traces_lookup name
  | .property _ receiver name | .count _ receiver | .unary _ _ receiver =>
    exact receiver.traces_eval.bind fun v => traces_ofResult _
  | .guard _ subject binding body =>
    refine subject.traces_eval.bind fun v => ?_
    cases v.isNull with
    | true => exact traces_pure _
    | false => exact body.traces_eval.withSlot binding v
  | .map _ source item body =>
    exact source.traces_eval.items (traces_pure _) fun items =>
      (body.traces_eval.mapItems item items).bind fun values => traces_pure _
  | .filter _ source item predicate =>
    exact source.traces_eval.items (traces_pure _) fun items =>
      ((predicate.traces_eval.truth.inside item).filterItems item items).bind fun kept =>
        traces_pure _
  | .quantify _ quantifier source item predicate =>
    exact source.traces_eval.items (traces_pure _) fun items =>
      (predicate.traces_eval.truth.quantifyItems quantifier item items).bind fun b => traces_pure _
  | .reduce kind reduction source =>
    exact source.traces_eval.items (traces_pure _) fun items => traces_ofResult _
  | .elementAt _ source index =>
    exact source.traces_eval.bind fun v => index.traces_eval.bind fun i => traces_ofResult _
  | .list _ items => exact (traces_evalAll items).bind fun values => traces_pure _
  | .binary kind op left right =>
    cases op with
    | andAlso =>
      refine left.traces_eval.bind fun v => (traces_still (still_truth v)).bind fun b => ?_
      cases b with
      | true =>
        exact right.traces_eval.bind fun v => (traces_still (still_truth v)).bind fun b =>
          traces_pure _
      | false => exact traces_pure _
    | orElse =>
      refine left.traces_eval.bind fun v => (traces_still (still_truth v)).bind fun b => ?_
      cases b with
      | true => exact traces_pure _
      | false =>
        exact right.traces_eval.bind fun v => (traces_still (still_truth v)).bind fun b =>
          traces_pure _
    | _ =>
      exact left.traces_eval.bind fun v => right.traces_eval.bind fun v' => traces_ofResult _
  | .call _ builtin args => exact (traces_evalAll args).bind fun values => traces_call builtin values
  | .convert kind operand =>
    refine operand.traces_eval.bind fun v => ?_
    cases v.convert? kind with
    | some converted => exact traces_pure converted
    | none => exact traces_still fun _ _ => rfl
  | .assign _ name value =>
    exact value.traces_eval.bind fun v => fun _ => rfl
  | .bind _ value binding body =>
    exact value.traces_eval.bind fun v => body.traces_eval.withSlot binding v

/-- Trees are traced as they are evaluated. -/
theorem Target.traces_evalAll (items : List Target) : Traces (tracedAll items) (evalAll items) := by
  match items with
  | [] => exact traces_pure []
  | t :: rest => exact t.traces_eval.bind fun v => (traces_evalAll rest).bind fun _ => traces_pure _

end

/-! ## Runs -/

/-- The run of a tree from a memory. -/
def Target.runFrom (t : Target) (world : World) (m : Memory) : Run Value :=
  t.traced world ⟨m.slots, []⟩ ⟨m.assigned, m.drawn⟩

/-- The memory with what a run leaves behind. -/
def Memory.withStore (m : Memory) (store : Store) : Memory := ⟨m.slots, store.assigned, store.drawn⟩

/-- A run is what comes of evaluation. -/
theorem Target.outcome_runFrom (t : Target) (world : World) (m : Memory) :
    (t.runFrom world m).outcome m.slots = t.eval world m :=
  congrFun (congrFun (t.traces_eval []) world) m

theorem Target.runFrom_of_ok {t : Target} {world : World} {m m' : Memory} {v : Value}
    (ok : t.eval world m = .ok v m') :
    (t.runFrom world m).result = .ok v ∧ m' = m.withStore (t.runFrom world m).store := by
  rw [← t.outcome_runFrom, Run.outcome] at ok
  split at ok <;> cases ok
  exact ⟨‹_›, rfl⟩

theorem Target.eval_of_result {t : Target} {world : World} {m : Memory} {v : Value}
    (ok : (t.runFrom world m).result = .ok v) :
    t.eval world m = .ok v (m.withStore (t.runFrom world m).store) := by
  rw [← t.outcome_runFrom, Run.outcome, ok]
  rfl

end PredicateLang
