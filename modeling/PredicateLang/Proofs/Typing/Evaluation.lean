import PredicateLang.Proofs.Typing.Operations

/-!
# Evaluation keeps to kinds

`Evaluation.Gives Γ step Q` says of a step that, as long as the latest slots of the names in `Γ`
hold values of their kinds, what the step gives satisfies `Q` and leaves the slots as they were.
Every tree leaves them so (`Target.gives_eval`), whatever it is; this is what lets operands be
looked at one after the other.

`Target.Sound Γ t` says that the tree is evaluated to values of its own kind. There is a lemma for
each sort of node that an expression is lowered to: it asks for the kinds of those operands only
that the kind of the node depends on.
-/

namespace PredicateLang

/-- Kinds of names, of which the latest hides earlier ones. -/
abbrev Context := List (String × Kind)

/-- The slots hold values of the kinds. -/
def Memory.Fits (m : Memory) (Γ : Context) : Prop :=
  ∀ name kind, Fields.find? Γ name = some kind →
    ∃ v, Fields.find? m.slots name = some v ∧ v.Conforms kind

namespace Memory

variable {m m' : Memory} {Γ : Context} {name : String} {v : Value} {kind : Kind}

theorem Fits.push (h : m.Fits Γ) (conforms : v.Conforms kind) :
    (m.push name v).Fits ((name, kind) :: Γ) := by
  intro other found known
  rw [Fields.find?] at known
  by_cases same : name = other
  · rw [if_pos same] at known
    cases known
    exact ⟨v, by rw [Memory.push, Fields.find?, if_pos same], conforms⟩
  · rw [if_neg same] at known
    obtain ⟨w, at_name, conforms'⟩ := h other found known
    exact ⟨w, by rw [Memory.push, Fields.find?, if_neg same, at_name], conforms'⟩

theorem Fits.of_slots (h : m.Fits Γ) (same : m'.slots = m.slots) : m'.Fits Γ := by
  intro name kind known
  rw [same]
  exact h name kind known

/-- Closing the slot that was opened last gives back the slots before it. -/
theorem slots_truncate (h : m'.slots = (m.push name v).slots) :
    (m'.truncate m.slots.length).slots = m.slots := by
  have one : ((name, v) :: m.slots).length - m.slots.length = 1 := by simp
  rw [truncate, h]
  show List.drop (((name, v) :: m.slots).length - m.slots.length) ((name, v) :: m.slots) = m.slots
  rw [one]
  rfl

end Memory

namespace Evaluation

variable {α β : Type} {Γ : Context} {Q : α → Prop} {R : β → Prop} {step : Evaluation α}

/-- From slots that fit, what the step gives satisfies `Q` and leaves the slots as they were. -/
def Gives (Γ : Context) (step : Evaluation α) (Q : α → Prop) : Prop :=
  ∀ world m a m', m.Fits Γ → step world m = .ok a m' → Q a ∧ m'.slots = m.slots

/-! ## Rules -/

theorem Gives.mono {Q' : α → Prop} (h : Gives Γ step Q) (le : ∀ a, Q a → Q' a) :
    Gives Γ step Q' := by
  intro world m a m' fits run
  obtain ⟨gives, same⟩ := h world m a m' fits run
  exact ⟨le a gives, same⟩

theorem gives_pure {a : α} (h : Q a) : Gives Γ (pure a) Q := by
  intro world m b m' fits run
  cases run
  exact ⟨h, rfl⟩

theorem gives_throw (e : Error) : Gives Γ (throw e) Q := by
  intro world m b m' fits run
  cases run

theorem gives_ofResult {result : Except Error α} (h : ∀ a, result = .ok a → Q a) :
    Gives Γ (ofResult result) Q := by
  cases result with
  | ok a => exact gives_pure (h a rfl)
  | error e => exact gives_throw e

theorem Gives.bind {next : α → Evaluation β} (h : Gives Γ step Q)
    (h' : ∀ a, Q a → Gives Γ (next a) R) : Gives Γ (step >>= next) R := by
  intro world m b m'' fits run
  cases first : step world m with
  | error e m' =>
    have run : EStateM.Result.error e m' = .ok b m'' := by
      simpa only [Bind.bind, ReaderT.bind, EStateM.bind, first] using run
    cases run
  | ok a m' =>
    have run : next a world m' = .ok b m'' := by
      simpa only [Bind.bind, ReaderT.bind, EStateM.bind, first] using run
    obtain ⟨gives, same⟩ := h world m a m' fits first
    obtain ⟨gives', same'⟩ := h' a gives world m' b m'' (fits.of_slots same) run
    exact ⟨gives', same'.trans same⟩

theorem Gives.withSlot {name : String} {v : Value} {kind : Kind}
    (h : Gives ((name, kind) :: Γ) step Q) (conforms : v.Conforms kind) :
    Gives Γ (withSlot name v step) Q := by
  intro world m a m' fits run
  unfold Evaluation.withSlot at run
  split at run <;> cases run
  obtain ⟨gives, same⟩ := h _ _ _ _ (fits.push conforms) ‹_›
  exact ⟨gives, Memory.slots_truncate same⟩

/-! ## Steps -/

theorem lookup_run (name : String) (world : World) (m : Memory) :
    lookup name world m
      = match m.lookup? name with
        | some value => .ok value m
        | none => .error (.evaluation (.unboundParameter name)) m := by
  show (match m.lookup? name with
    | some value => pure value
    | none => throw (.evaluation (.unboundParameter name)) : Evaluation Value) world m = _
  cases m.lookup? name <;> rfl

theorem gives_lookup {name : String} {kind : Kind} (h : Fields.find? Γ name = some kind) :
    Gives Γ (lookup name) (·.Conforms kind) := by
  intro world m v m' fits run
  obtain ⟨w, slot, conforms⟩ := fits name kind h
  have found : m.lookup? name = some w := by
    rw [Memory.lookup?, slot]
    rfl
  rw [lookup_run, found] at run
  cases run
  exact ⟨conforms, rfl⟩

theorem gives_lookup_any (name : String) : Gives Γ (lookup name) (fun _ => True) := by
  intro world m v m' fits run
  rw [lookup_run] at run
  split at run <;> cases run
  exact ⟨trivial, rfl⟩

theorem gives_assign (name : String) (v : Value) : Gives Γ (assign name v) (fun _ => True) := by
  intro world m a m' fits run
  cases run
  exact ⟨trivial, rfl⟩

theorem gives_draw : Gives Γ draw (fun _ => True) := by
  intro world m a m' fits run
  cases run
  exact ⟨trivial, rfl⟩

theorem gives_read : Gives Γ (read : Evaluation World) (fun _ => True) := by
  intro world m a m' fits run
  cases run
  exact ⟨trivial, rfl⟩

theorem gives_truth (v : Value) : Gives Γ (truth v) (fun _ => True) := by
  unfold truth
  split
  · exact gives_pure trivial
  · exact gives_pure trivial
  · exact gives_throw _

theorem gives_items? (v : Value) :
    Gives Γ (items? v) (fun items => ∀ some', items = some some' → v = .array some') := by
  unfold items?
  split
  · exact gives_pure nofun
  · exact gives_pure fun _ same => by rw [Option.some.inj same]
  · exact gives_throw _

theorem gives_mapItems {name : String} {kind : Kind} {body : Evaluation Value} {Q : Value → Prop}
    {items : List Value} (h : Gives ((name, kind) :: Γ) body Q)
    (conform : ∀ item ∈ items, item.Conforms kind) :
    Gives Γ (mapItems name body items) (fun values => ∀ v ∈ values, Q v) := by
  induction items with
  | nil => exact gives_pure (List.forall_mem_nil _)
  | cons item rest ih =>
    rw [List.forall_mem_cons] at conform
    exact (h.withSlot conform.1).bind fun v holds =>
      (ih conform.2).bind fun values hold =>
        gives_pure (List.forall_mem_cons.mpr ⟨holds, hold⟩)

theorem gives_filterItems {name : String} {predicate : Evaluation Bool} {items : List Value}
    (h : Gives ((name, .any) :: Γ) predicate (fun _ => True)) :
    Gives Γ (filterItems name predicate items) (fun kept => ∀ v ∈ kept, v ∈ items) := by
  induction items with
  | nil => exact gives_pure (List.forall_mem_nil _)
  | cons item rest ih =>
    refine (h.withSlot (.any item)).bind fun keep _ => ih.bind fun kept among => gives_pure ?_
    intro v mem
    split at mem
    · rcases List.mem_cons.mp mem with rfl | mem
      · exact List.mem_cons_self
      · exact List.mem_cons_of_mem _ (among v mem)
    · exact List.mem_cons_of_mem _ (among v mem)

theorem gives_quantifyItems {quantifier : Quantifier} {name : String}
    {predicate : Evaluation Bool} {items : List Value}
    (h : Gives ((name, .any) :: Γ) predicate (fun _ => True)) :
    Gives Γ (quantifyItems quantifier name predicate items) (fun _ => True) := by
  induction items with
  | nil => exact gives_pure trivial
  | cons item rest ih =>
    refine (h.withSlot (.any item)).bind fun holds _ => ?_
    split
    · exact gives_pure trivial
    · exact gives_pure trivial
    · exact ih

theorem gives_drawBelow (bound : Value) :
    Gives Γ (drawBelow bound) (·.Conforms (.integer .int)) :=
  (gives_ofResult fun _ _ => trivial).bind fun (_ : Int) _ =>
    gives_draw.bind fun _ _ => gives_pure (Value.conforms_int _)

theorem gives_call_any (builtin : Builtin) (args : List Value) :
    Gives Γ (call builtin args) (fun _ => True) := by
  cases builtin with
  | random => exact gives_draw.bind fun _ _ => gives_pure trivial
  | randomBelow => exact (gives_drawBelow _).mono fun _ _ => trivial
  | now => exact gives_read.bind fun _ _ => gives_pure trivial
  | _ => exact gives_ofResult fun _ _ => trivial

end Evaluation

open Evaluation

namespace Target

/-! ## Every tree -/

mutual

/-- Whatever a tree gives, it leaves the slots as they were. -/
theorem gives_eval (t : Target) (Γ : Context) : Gives Γ t.eval (fun _ => True) := by
  match t with
  | .constant _ value => exact gives_pure trivial
  | .parameter _ name => exact gives_lookup_any name
  | .property _ receiver name | .count _ receiver | .unary _ _ receiver =>
    exact (gives_eval receiver Γ).bind fun v _ => gives_ofResult fun _ _ => trivial
  | .guard _ subject binding body =>
    refine (gives_eval subject Γ).bind fun v _ => ?_
    split
    · exact gives_pure trivial
    · exact (gives_eval body _).withSlot (.any v)
  | .map _ source item body =>
    refine (gives_eval source Γ).bind fun v _ => (gives_items? v).bind fun items _ => ?_
    cases items with
    | none => exact gives_pure trivial
    | some items =>
      exact (gives_mapItems (gives_eval body _) fun item _ => .any item).bind fun _ _ =>
        gives_pure trivial
  | .filter _ source item predicate =>
    have holds (Γ : Context) := (gives_eval predicate Γ).bind fun v _ => gives_truth v
    refine (gives_eval source Γ).bind fun v _ => (gives_items? v).bind fun items _ => ?_
    cases items with
    | none => exact gives_pure trivial
    | some items => exact (gives_filterItems (holds _)).bind fun _ _ => gives_pure trivial
  | .quantify _ quantifier source item predicate =>
    have holds (Γ : Context) := (gives_eval predicate Γ).bind fun v _ => gives_truth v
    refine (gives_eval source Γ).bind fun v _ => (gives_items? v).bind fun items _ => ?_
    cases items with
    | none => exact gives_pure trivial
    | some items => exact (gives_quantifyItems (holds _)).bind fun _ _ => gives_pure trivial
  | .reduce kind reduction source =>
    refine (gives_eval source Γ).bind fun v _ => (gives_items? v).bind fun items _ => ?_
    cases items with
    | none => exact gives_pure trivial
    | some items => exact gives_ofResult fun _ _ => trivial
  | .elementAt _ source index =>
    exact (gives_eval source Γ).bind fun _ _ => (gives_eval index Γ).bind fun _ _ =>
      gives_ofResult fun _ _ => trivial
  | .list _ items => exact (gives_evalAll items Γ).bind fun _ _ => gives_pure trivial
  | .binary kind op left right =>
    have left' := gives_eval left Γ
    have right' := gives_eval right Γ
    have truth' (v : Value) : Gives Γ (truth v) (fun _ => True) := gives_truth v
    cases op with
    | andAlso =>
      refine left'.bind fun v _ => (truth' v).bind fun holds _ => ?_
      cases holds with
      | true => exact right'.bind fun w _ => (truth' w).bind fun _ _ => gives_pure trivial
      | false => exact gives_pure trivial
    | orElse =>
      refine left'.bind fun v _ => (truth' v).bind fun holds _ => ?_
      cases holds with
      | true => exact gives_pure trivial
      | false => exact right'.bind fun w _ => (truth' w).bind fun _ _ => gives_pure trivial
    | _ => exact left'.bind fun _ _ => right'.bind fun _ _ => gives_ofResult fun _ _ => trivial
  | .call _ builtin args =>
    exact (gives_evalAll args Γ).bind fun values _ => gives_call_any builtin values
  | .convert kind operand =>
    refine (gives_eval operand Γ).bind fun v _ => ?_
    split
    · exact gives_pure trivial
    · exact gives_throw _
  | .assign _ name value =>
    exact (gives_eval value Γ).bind fun v _ => (gives_assign name v).bind fun _ _ =>
      gives_pure trivial
  | .bind _ value binding body =>
    exact (gives_eval value Γ).bind fun v _ => (gives_eval body _).withSlot (.any v)

theorem gives_evalAll (ts : List Target) (Γ : Context) :
    Gives Γ (evalAll ts) (fun _ => True) := by
  match ts with
  | [] => exact gives_pure trivial
  | t :: rest =>
    exact (gives_eval t Γ).bind fun _ _ => (gives_evalAll rest Γ).bind fun _ _ =>
      gives_pure trivial

end

/-! ## Trees of their kind -/

/-- Under names of given kinds, the tree is evaluated to values of its kind. -/
def Sound (Γ : Context) (t : Target) : Prop := Gives Γ t.eval (·.Conforms t.kind)

variable {Γ : Context} {kind element : Kind} {name : String} {subject source body : Target}

theorem sound_constant {v : Value} (h : v.Conforms kind) : Sound Γ (constant kind v) :=
  gives_pure h

theorem sound_ofValue (v : Value) : Sound Γ (ofValue v) := sound_constant v.conforms_ofValue

theorem sound_parameter (h : Fields.find? Γ name = some kind) : Sound Γ (parameter kind name) :=
  gives_lookup h

theorem Sound.property (h : Sound Γ subject) (known : subject.kind.property name = .ok kind) :
    Sound Γ (property kind subject name) :=
  h.bind fun _ conforms => gives_ofResult fun _ found => conforms_property found conforms known

/-- If the subject is null, then the default of the kind of the body is. -/
theorem Sound.guard {binding : String} (h : Sound Γ subject)
    (h' : Sound ((binding, subject.kind) :: Γ) body) :
    Sound Γ (guard body.kind subject binding body) := by
  refine h.bind fun v conforms => ?_
  split
  · exact gives_pure body.kind.conforms_default
  · exact h'.withSlot conforms

theorem Sound.map (h : Sound Γ source) (known : source.kind.element? = some element)
    (h' : Sound ((name, element) :: Γ) body) :
    Sound Γ (map (.sequence body.kind) source name body) := by
  refine h.bind fun v conforms => (gives_items? v).bind fun items same => ?_
  cases items with
  | none => exact gives_pure (.null _)
  | some items =>
    rw [same items rfl] at conforms
    exact (gives_mapItems h' (conforms_items conforms known)).bind fun values conform =>
      gives_pure (.array conform)

/-- What is left of a collection is a collection of the same items, whatever the predicate. -/
theorem Sound.filter {predicate : Target} (h : Sound Γ source) :
    Sound Γ (filter source.kind source name predicate) := by
  refine h.bind fun v conforms => (gives_items? v).bind fun items same => ?_
  cases items with
  | none => exact gives_pure (.null _)
  | some items =>
    rw [same items rfl] at conforms
    have holds := (gives_eval predicate ((name, .any) :: Γ)).bind fun v _ => gives_truth v
    exact (gives_filterItems holds).bind fun kept among => gives_pure (conforms.sub among)

theorem sound_count : Sound Γ (count (.integer .int) source) :=
  (gives_eval source Γ).bind fun _ _ => gives_ofResult fun _ counted => conforms_count counted

theorem Sound.reduce {reduction : Reduction} (h : Sound Γ source)
    (known : source.kind.element? = some element) (more : element ≠ .null)
    (reducible : Lowering.isReducible reduction element) :
    Sound Γ (reduce (Lowering.reducedKind reduction element) reduction source) := by
  refine h.bind fun v conforms => (gives_items? v).bind fun items same => ?_
  cases items with
  | none => exact gives_pure (.null _)
  | some items =>
    rw [same items rfl] at conforms
    exact gives_ofResult fun _ reduced =>
      conforms_reduce reducible more (conforms_items conforms known) reduced

theorem Sound.elementAt {index : Target} (h : Sound Γ source)
    (known : source.kind.element? = some element) : Sound Γ (elementAt element source index) :=
  h.bind fun _ conforms => (gives_eval index Γ).bind fun _ _ =>
    gives_ofResult fun _ found => conforms_elementAt found conforms known

/-- Items of a kind, those that are always null among them. -/
theorem sound_list {items : List Target} (h : ∀ item ∈ items, Gives Γ item.eval (·.Conforms element)) :
    Sound Γ (list (.sequence element) items) := by
  have all : Gives Γ (evalAll items) (fun values => ∀ v ∈ values, v.Conforms element) := by
    induction items with
    | nil => exact gives_pure (List.forall_mem_nil _)
    | cons item rest ih =>
      rw [List.forall_mem_cons] at h
      exact h.1.bind fun v conforms => (ih h.2).bind fun values conform =>
        gives_pure (List.forall_mem_cons.mpr ⟨conforms, conform⟩)
  exact all.bind fun values conform => gives_pure (.array conform)

theorem sound_convert (known : kind.isDynamic = false) : Sound Γ (convert kind subject) := by
  refine (gives_eval subject Γ).bind fun v _ => ?_
  split
  · exact gives_pure (Value.conforms_convert ‹_› known)
  · exact gives_throw _

/-! ### Operations -/

/-- Is the operation one of numbers or of bits, and no connective or comparison? -/
def isArithmetic : BinaryOp → Bool
  | .add | .subtract | .multiply | .divide | .modulo | .power | .bitAnd | .bitOr | .bitXor
  | .shiftLeft | .shiftRight => true
  | _ => false

theorem Gives.binary {op : BinaryOp} {left right : Target} {P Q : Value → Prop}
    (arithmetic : isArithmetic op) (h : Gives Γ left.eval P) (h' : Gives Γ right.eval Q)
    (conforms : ∀ l r v, P l → Q r → Evaluation.arithmetic kind op l r = .ok v → v.Conforms kind) :
    Sound Γ (binary kind op left right) := by
  cases op with
  | equal | notEqual | less | lessEqual | greater | greaterEqual | andAlso | orElse =>
    cases arithmetic
  | _ =>
    exact h.bind fun l holds => h'.bind fun r holds' => gives_ofResult fun v result =>
      conforms l r v holds holds' result

theorem Sound.unary {op : UnaryOp} (h : Sound Γ subject) (ne : op ≠ .not) :
    Sound Γ (unary subject.kind op subject) :=
  h.bind fun _ conforms => gives_ofResult fun _ result => conforms_unary result ne conforms

/-- A call that gives values of a kind from whatever arguments. -/
theorem sound_call_any {builtin : Builtin} {args : List Target}
    (h : ∀ values, Gives Γ (Evaluation.call builtin values) (·.Conforms kind)) :
    Sound Γ (.call kind builtin args) :=
  (gives_evalAll args Γ).bind fun values _ => h values

theorem Sound.call {builtin : Builtin} (h : Sound Γ subject)
    (h' : ∀ v, v.Conforms subject.kind → Gives Γ (Evaluation.call builtin [v]) (·.Conforms kind)) :
    Sound Γ (.call kind builtin [subject]) := by
  have one : Gives Γ (evalAll [subject])
      (fun values => ∃ v, values = [v] ∧ v.Conforms subject.kind) :=
    h.bind fun v conforms => gives_pure ⟨v, rfl, conforms⟩
  refine one.bind fun values single => ?_
  obtain ⟨v, rfl, conforms⟩ := single
  exact h' v conforms

end Target

end PredicateLang
