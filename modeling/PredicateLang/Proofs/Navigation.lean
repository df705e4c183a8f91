import PredicateLang.Proofs.Effects.Plain
import PredicateLang.Proofs.Typing.Conforms

/-!
# Safe navigation

A key path is lowered to a nest of guards and maps. What it comes to is a walk (`Value.walk`): step
by step a property of the value is taken, of each item where the kind says that there are items.
Where a value is null, the walk goes on from the default of the kind that the property has.

Evaluating the lowered path is that walk and nothing else (`Compiled.value_path`): it has the same
value or the same error, and leaves the memory as it was. From a value of a kind in which everything
is known, the walk never fails.
-/

namespace PredicateLang

/-! ## The walk -/

/-- The kind of a property of a value of a kind, or of the properties of its items. -/
def Kind.navigate : Kind → (name : String) → Except TypeFault Kind
  | .sequence element, name => do return .sequence (← element.navigate name)
  | kind, name => kind.property name

/-- A step from a value of a kind to a property of it, or to the properties of its items. From null
it leads to the default of the kind of the property. -/
def Value.navigate (name : String) : Kind → Value → Except Error Value
  | .sequence element, v =>
    match v with
    | .null => .ok .null
    | .array items => do return .array (← items.mapM (Value.navigate name element))
    | other => .error (.evaluation (.unexpected .collection other.typeName))
  | kind, v =>
    match kind.property name with
    | .ok segment => if v.isNull then .ok segment.default else Evaluation.property name v
    | .error fault => .error (.type fault)

/-- The steps from a value of a kind along segments. -/
def Value.walk : Kind → (segments : List String) → Value → Except Error Value
  | _, [], v => .ok v
  | kind, name :: rest, v =>
    match kind.navigate name with
    | .ok next => do Value.walk next rest (← v.navigate name kind)
    | .error fault => .error (.type fault)

section

variable {kind segment : Kind} {name : String}

/-- A kind that has properties of its own is no kind of collections. -/
theorem Kind.navigate_of_property (h : kind.property name = .ok segment) :
    kind.navigate name = .ok segment := by
  cases kind with
  | sequence element => cases h
  | _ => exact h

/-- The step from an array is the step from each item. -/
theorem Value.navigate_array (items : List Value) (element : Kind) :
    (Value.array items).navigate name (.sequence element)
      = (do return .array (← items.mapM (Value.navigate name element))) := rfl

theorem Value.navigate_of_property (h : kind.property name = .ok segment) (v : Value) :
    v.navigate name kind
      = if v.isNull then .ok segment.default else Evaluation.property name v := by
  cases kind with
  | sequence element => cases h
  | _ =>
    unfold navigate
    rw [h]

end

/-! ## Steps of evaluation -/

namespace Evaluation

variable {α β : Type} {world : World} {memory : Memory} {name : String} {v : Value}

/-- A step that gives a result and leaves the memory alone, and another one after it. -/
theorem bind_ofResult {step : Evaluation α} {next : α → Evaluation β} {r : Except Error α}
    {f : α → Except Error β} (h : step world memory = ofResult r world memory)
    (h' : ∀ a, next a world memory = ofResult (f a) world memory) :
    (step >>= next) world memory = ofResult (r >>= f) world memory := by
  simp only [Bind.bind, ReaderT.bind, EStateM.bind]
  rw [h]
  cases r with
  | ok a => exact h' a
  | error e => rfl

/-- The slot is closed again. -/
theorem withSlot_ofResult {step : Evaluation α} {r : Except Error α}
    (h : step world (memory.push name v) = ofResult r world (memory.push name v)) :
    withSlot name v step world memory = ofResult r world memory := by
  have closed : (memory.push name v).truncate memory.slots.length = memory := by
    simp [Memory.push, Memory.truncate]
  unfold withSlot
  rw [h]
  cases r with
  | ok a => exact congrArg (EStateM.Result.ok a) closed
  | error e => exact congrArg (EStateM.Result.error e) closed

theorem lookup_push (name : String) (v : Value) (world : World) (memory : Memory) :
    lookup name world (memory.push name v) = ofResult (.ok v) world (memory.push name v) := by
  have found : (memory.push name v).lookup? name = some v := by
    simp [Memory.lookup?, Memory.push, Fields.find?]
  rw [lookup_run, found]
  rfl

theorem mapItems_ofResult {body : Evaluation Value} {f : Value → Except Error Value}
    (h : ∀ item, body world (memory.push name item)
      = ofResult (f item) world (memory.push name item)) (items : List Value) :
    mapItems name body items world memory = ofResult (items.mapM f) world memory := by
  induction items with
  | nil => rfl
  | cons item rest ih =>
    rw [List.mapM_cons]
    exact bind_ofResult (withSlot_ofResult (h item)) fun value =>
      bind_ofResult ih fun values => rfl

end Evaluation

/-! ## Lowered steps -/

open Lowering

namespace Lowering

variable {settings : Settings} {scope after : Scope} {receiver t : Target} {name : String}

/-- Behind a guard stands the operation on what is guarded. -/
theorem exists_guard (node : Target → Target) {subject : Target}
    (needs : needsGuard settings.dialect subject)
    (run : guarded subject (fun s => return node s) settings scope = .ok t after) :
    ∃ binding : String, t = .guard (node (.parameter subject.kind binding)).kind subject binding
      (node (.parameter subject.kind binding)) := by
  rw [guarded_run, if_pos needs] at run
  cases run
  exact ⟨_, rfl⟩

end Lowering

/-- From whatever the receiver gives the tree makes a step to a property. The next step from it will
need a guard too. -/
structure Target.Navigates (t : Target) (name : String) (kind : Kind) (receiver : Target) :
    Prop where
  leads : kind.navigate name = .ok t.kind
  guard : needsGuard .objects t
  eval : ∀ world memory r, receiver.eval world memory = Evaluation.ofResult r world memory →
    t.eval world memory = Evaluation.ofResult (r >>= Value.navigate name kind) world memory

namespace Target

variable {name binding : String} {kind segment : Kind} {receiver body : Target}

/-- A property behind a guard is a step from a kind that has properties of its own. -/
theorem navigates_guard (h : kind.property name = .ok segment) (own : Kind) :
    Navigates (.guard segment receiver binding (.property segment (.parameter own binding) name))
      name kind receiver where
  leads := Kind.navigate_of_property h
  guard := rfl
  eval := by
    intro world memory r gives
    apply Evaluation.bind_ofResult gives
    intro v
    rw [Value.navigate_of_property h]
    cases v.isNull with
    | true => rfl
    | false =>
      apply Evaluation.withSlot_ofResult
      have found := Evaluation.lookup_push binding v world memory
      exact Evaluation.bind_ofResult found fun _ => rfl

/-- Steps from the items of a collection are a step from the collection. -/
theorem Navigates.map (h : body.Navigates name kind (.parameter kind binding)) :
    Navigates (.map (.sequence body.kind) receiver binding body) name (.sequence kind)
      receiver where
  leads := by
    rw [Kind.navigate, h.leads]
    rfl
  guard := rfl
  eval := by
    intro world memory r gives
    apply Evaluation.bind_ofResult gives
    intro v
    cases v with
    | array items =>
      have each : ∀ item, body.eval world (memory.push binding item)
          = Evaluation.ofResult (item.navigate name kind) world (memory.push binding item) :=
        fun item => h.eval world _ (.ok item) (Evaluation.lookup_push binding item world memory)
      exact Evaluation.bind_ofResult (Evaluation.mapItems_ofResult each items) fun _ => rfl
    | _ => rfl

end Target

namespace Lowering

variable {settings : Settings} (objects : settings.dialect = .objects) {scope after : Scope}
  {receiver t : Target} {kind : Kind} {name : String}

include objects

/-- A property of what has properties of its own is lowered to a step. -/
theorem navigates_propertyOf (needs : needsGuard .objects receiver)
    (run : (match kind.property name with
      | .ok kind => guarded receiver fun receiver => return .property kind receiver name
      | .error fault => typeFault fault) settings scope = .ok t after) :
    t.Navigates name kind receiver := by
  cases known : kind.property name with
  | ok segment =>
    rw [known] at run
    rw [← objects] at needs
    obtain ⟨binding, rfl⟩ := exists_guard (.property segment · name) needs run
    exact Target.navigates_guard known receiver.kind
  | error fault =>
    rw [known] at run
    cases run

/-- A property is lowered to a step. The recursion is on the kind, with a map for each collection of
collections. -/
theorem navigates_propertyOn (name : String) (kind : Kind) {receiver t : Target}
    {scope after : Scope} (needs : needsGuard .objects receiver)
    (run : propertyOn name kind receiver settings scope = .ok t after) :
    t.Navigates name kind receiver := by
  match kind with
  | .sequence element =>
    obtain ⟨binding, between, -, run⟩ := exists_of_run_bind run
    obtain ⟨body, last, made, run⟩ := exists_of_run_bind run
    cases run
    exact (navigates_propertyOn name element rfl made).map
  | .any | .null | .boolean | .integer _ | .float | .double | .string | .guid | .date
  | .record .. => exact navigates_propertyOf objects needs run

/-- Properties are lowered to a walk. The induction is on the segments. -/
theorem eval_follow {names : List String} (properties : ∀ name ∈ names, isProperty name)
    (needs : needsGuard .objects receiver)
    (run : follow receiver names settings scope = .ok t after) :
    names.foldlM Kind.navigate receiver.kind = .ok t.kind ∧ ∀ world memory r,
      receiver.eval world memory = Evaluation.ofResult r world memory → t.eval world memory
        = Evaluation.ofResult (r >>= Value.walk receiver.kind names) world memory := by
  induction names generalizing receiver scope with
  | nil =>
    cases run
    refine ⟨rfl, fun world memory r gives => ?_⟩
    rw [gives]
    cases r <;> rfl
  | cons name rest ih =>
    obtain ⟨proper, others⟩ := List.forall_mem_cons.mp properties
    rw [follow_cons proper] at run
    obtain ⟨next, between, made, run⟩ := exists_of_run_bind run
    have step := navigates_propertyOn objects name receiver.kind needs made
    obtain ⟨leads, walks⟩ := ih others step.guard run
    rw [List.foldlM_cons, step.leads]
    refine ⟨leads, fun world memory r gives => ?_⟩
    -- The step that is lowered next is the first one of the walk.
    have onward : r >>= Value.walk receiver.kind (name :: rest)
        = (r >>= Value.navigate name receiver.kind) >>= Value.walk next.kind rest := by
      cases r with
      | ok v =>
        simp only [Value.walk, step.leads]
        rfl
      | error e => rfl
    rw [onward]
    exact walks world memory _ (step.eval world memory r gives)

end Lowering

/-! ## Kinds in which everything is known -/

mutual

/-- Is there no unknown in the kind, and no open record? -/
def Kind.isClosed : Kind → Bool
  | .any => false
  | .sequence element => element.isClosed
  | .record _ fields isOpen => !isOpen && Kind.areClosed fields
  | _ => true

/-- Are the kinds of fields closed? -/
def Kind.areClosed : List (String × Kind) → Bool
  | [] => true
  | (_, kind) :: rest => kind.isClosed && Kind.areClosed rest

end

/-- The value is of a closed kind, but for nulls, which may be of any. -/
inductive Value.Settled : Value → Kind → Prop where
  | null (kind : Kind) : Settled .null kind
  | closed {v : Value} {kind : Kind} (closed : kind.isClosed) (conforms : v.Conforms kind) :
      Settled v kind
  | array {items : List Value} {element : Kind} (h : ∀ item ∈ items, Settled item element) :
      Settled (.array items) (.sequence element)

namespace Kind

theorem isClosed_of_find? {fields : List (String × Kind)} {name : String} {kind : Kind}
    (closed : areClosed fields) (h : Fields.find? fields name = some kind) : kind.isClosed := by
  induction fields with
  | nil => cases h
  | cons field rest ih =>
    obtain ⟨other, first⟩ := field
    simp only [areClosed, Bool.and_eq_true] at closed
    rw [Fields.find?] at h
    split at h
    · cases h
      exact closed.1
    · exact ih closed.2 h

/-- The default of a kind is null or of a scalar kind. -/
theorem settled_default (kind : Kind) : kind.default.Settled kind := by
  cases kind with
  | boolean => exact .closed rfl (.boolean false)
  | integer k => exact .closed rfl (.integer rfl)
  | float => exact .closed rfl (.float 0.0)
  | double => exact .closed rfl (.double 0.0)
  | _ => exact .null _

end Kind

namespace Value

variable {v : Value} {kind element segment next : Kind} {name : String}

/-- At a kind of collections stand null and collections. -/
theorem Settled.of_sequence (h : v.Settled (.sequence element)) :
    v = .null ∨ ∃ items, v = .array items ∧ ∀ item ∈ items, item.Settled element := by
  cases h with
  | null => exact .inl rfl
  | array settled => exact .inr ⟨_, rfl, settled⟩
  | closed closed conforms =>
    cases conforms with
    | null => exact .inl rfl
    | array conform =>
      exact .inr ⟨_, rfl, fun item mem => .closed closed (conform item mem)⟩

/-- A step to a property of its own succeeds. -/
theorem Settled.navigate_property (h : v.Settled kind) (known : kind.property name = .ok segment) :
    ∃ w, v.navigate name kind = .ok w ∧ w.Settled segment := by
  rw [navigate_of_property known]
  cases h with
  | null => exact ⟨_, rfl, segment.settled_default⟩
  | array => cases known
  | closed closed conforms =>
    cases conforms with
    | null => exact ⟨_, rfl, segment.settled_default⟩
    | any => cases closed
    | @object entries recordName fields isOpen conform =>
      obtain ⟨shut, closed⟩ := Bool.and_eq_true_iff.mp closed
      refine ⟨(Fields.find? entries name).getD .null, rfl, ?_⟩
      cases field : Fields.find? fields name with
      | none =>
        rw [Bool.not_eq_true'] at shut
        simp [Kind.property, field, shut] at known
      | some listed =>
        simp only [Kind.property, field] at known
        cases known
        cases found : Fields.find? entries name with
        | none => exact .null segment
        | some value =>
          exact .closed (Kind.isClosed_of_find? closed field)
            (conform name segment value field found)
    | _ => cases known

/-- A step succeeds, and where it leads to the next one will. The recursion is on the kind. -/
theorem Settled.navigate (kind : Kind) {v : Value} {next : Kind} (h : v.Settled kind)
    (known : kind.navigate name = .ok next) :
    ∃ w, v.navigate name kind = .ok w ∧ w.Settled next := by
  match kind with
  | .sequence element =>
    obtain ⟨segment, inner, made⟩ := exists_of_bind_ok known
    cases made
    obtain rfl | ⟨items, rfl, settled⟩ := h.of_sequence
    · exact ⟨.null, rfl, .null _⟩
    · obtain ⟨values, all, settled'⟩ :=
        exists_mapM_ok fun item mem => (settled item mem).navigate element inner
      refine ⟨.array values, ?_, .array settled'⟩
      rw [navigate_array, all]
      rfl
  | .any | .null | .boolean | .integer _ | .float | .double | .string | .guid | .date
  | .record .. => exact h.navigate_property known

/-- A walk succeeds if there is somewhere that it leads to. -/
theorem Settled.walk {names : List String} {last : Kind} (h : v.Settled kind)
    (leads : names.foldlM Kind.navigate kind = .ok last) :
    ∃ w, Value.walk kind names v = .ok w ∧ w.Settled last := by
  induction names generalizing kind v with
  | nil =>
    cases leads
    exact ⟨v, rfl, h⟩
  | cons name rest ih =>
    rw [List.foldlM_cons] at leads
    obtain ⟨next, known, leads⟩ := exists_of_bind_ok leads
    obtain ⟨w, step, settled⟩ := h.navigate kind known
    obtain ⟨u, onward, settled'⟩ := ih settled leads
    refine ⟨u, ?_, settled'⟩
    simp only [Value.walk, known, step]
    exact onward

end Value

/-! ## Compiled key paths -/

/-- Evaluation about an object that gives a result. -/
theorem Evaluation.about_ofResult {α : Type} {object : Value} {step : Evaluation α}
    {r : Except Error α} (h : ∀ world (memory : Memory),
      step world (memory.push Scope.objectName object)
        = Evaluation.ofResult r world (memory.push Scope.objectName object)) :
    Evaluation.about object step = Evaluation.ofResult r := by
  funext world memory
  unfold about
  rw [h]
  cases r <;> rfl

/-- Evaluating a key path of properties is walking along it from the object, step by step, with the
default of a kind in place of what null has not got. About objects of a kind without unknowns and
open records it never fails. -/
theorem Compiled.value_path {path : String} {kind : Kind} {settings : Settings} {c : Compiled}
    (objects : settings.dialect = .objects) (properties : ∀ name ∈ segments path, isProperty name)
    (compiled : (Expr.path path).compile kind none settings = .ok c) (object : Value) :
    c.value object = Evaluation.ofResult (Value.walk kind (segments path) object)
      ∧ (kind.isClosed → object.Conforms kind → ∃ w, c.value object = pure w) := by
  obtain ⟨-, after, run⟩ := Expr.compile_eq_ok.mp compiled
  obtain ⟨root, between, first, run⟩ := exists_of_run_bind run
  rw [object_run (Scope.find?_root_object kind settings)] at first
  cases first
  obtain ⟨leads, walks⟩ := eval_follow objects properties rfl run
  have evaluated : c.value object
      = Evaluation.ofResult (Value.walk kind (segments path) object) :=
    Evaluation.about_ofResult fun world memory =>
      walks world _ (.ok object) (Evaluation.lookup_push Scope.objectName object world memory)
  refine ⟨evaluated, fun closed conforms => ?_⟩
  obtain ⟨w, walk, -⟩ := (Value.Settled.closed closed conforms).walk leads
  rw [evaluated, walk]
  exact ⟨w, rfl⟩

/-- Orders are collections of lines, and a line has a price. -/
def Kind.orders : Kind :=
  .sequence (.sequence (.record "line" [("price", .integer .int)] false))

/-- An order whose lines have a price, have none and are null, and one that is null itself. -/
def Value.orders : Value :=
  .array [.array [.object [("price", .int 5)], .object [], .null], .null]

theorem Value.conforms_orders : Value.orders.Conforms .orders := by
  have price : ∀ name kind value, Fields.find? [("price", Kind.integer .int)] name = some kind →
      Fields.find? [("price", Value.int 5)] name = some value → value.Conforms kind := by
    intro name kind value listed found
    simp only [Fields.find?, Option.ite_none_right_eq_some] at listed found
    obtain ⟨-, ⟨⟩⟩ := listed
    obtain ⟨-, ⟨⟩⟩ := found
    exact Value.conforms_int 5
  have nothing : ∀ name kind (value : Value),
      Fields.find? [("price", Kind.integer .int)] name = some kind →
      Fields.find? [] name = some value → value.Conforms kind := by
    intro name kind value _ found
    cases found
  have lines : ∀ line ∈ [Value.object [("price", .int 5)], .object [], .null],
      line.Conforms (.record "line" [("price", .integer .int)] false) := by
    simp only [List.forall_mem_cons]
    exact ⟨.object price, .object nothing, .null _, List.forall_mem_nil _⟩
  apply Value.Conforms.array
  simp only [List.forall_mem_cons]
  exact ⟨.array lines, .null _, List.forall_mem_nil _⟩

/-- A missing price is null, that of a missing line is zero, and a missing order has none. -/
theorem Compiled.value_path_orders :
    Kind.orders.isClosed ∧ Value.orders.Conforms .orders ∧ ∃ c,
      (Expr.path "self.price").compile .orders none (.ofDialect .objects) = .ok c
        ∧ c.value .orders = pure (.array [.array [.int 5, .null, .int 0], .null]) := by
  obtain ⟨c, compiled, -⟩ := exists_of_any
    ((Expr.path "self.price").compile .orders none (.ofDialect .objects)) (fun _ => true)
    (by decide +kernel)
  obtain ⟨walks, -⟩ := Compiled.value_path rfl (by decide +kernel) compiled .orders
  have names : segments "self.price" = ["price"] := by decide +kernel
  refine ⟨rfl, Value.conforms_orders, c, compiled, ?_⟩
  rw [names] at walks
  exact walks

end PredicateLang
