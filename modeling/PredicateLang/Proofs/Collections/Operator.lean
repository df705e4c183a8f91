import PredicateLang.Proofs.Integers.Operands
import PredicateLang.Proofs.Quantifiers

/-!
# Operators on collections

A collection is counted, or reduced to a sum, an average, a least or a greatest item, by an operator
in a key path and by a builtin function: `items.@sum` and `sum:(items)`, and `items.@sum.price` is
the sum of `items.price`. `Expr.Aggregates` says which expressions do this to a collection. They are
all lowered to the same (`Expr.Aggregates.lower_eq`), and what they come to is the reduction of the
items of the collection (`Expr.Collects.result_reduction`).
-/

namespace PredicateLang

open Lowering

/-! ## Aggregations -/

/-- What an operator makes of a collection. -/
inductive Aggregation where
  | count
  | reduction (r : Reduction)
deriving DecidableEq

namespace Aggregation

/-- The meaning of the builtin function. -/
def meaning : Aggregation → Meaning
  | count => .count
  | reduction r => .reduce r

/-- The aggregation that a segment of a key path stands for, in any letter case. -/
def ofSegment? (segment : String) : Option Aggregation :=
  match segment.toList with
  | '@' :: name =>
    let small := String.ofList (name.map Char.toLower)
    if small = "count" then some .count else (reduction? small).map .reduction
  | _ => none

/-- The aggregation of a lowered collection with items of a kind. -/
def lower (a : Aggregation) (source : Target) (element : Kind) : Lowering Target :=
  match a with
  | count => Lowering.count source
  | reduction r => Lowering.reduce source r element

/-- The aggregation of whatever is a collection; the operation is named if it is none. -/
def lowerAs (a : Aggregation) (operation : String) (source : Target) : Lowering Target := do
  a.lower source (← elementOf operation .collection source)

theorem meaning_ne_index (a : Aggregation) : a.meaning ≠ .index := by cases a <;> nofun

end Aggregation

namespace Lowering

variable {a : Aggregation} {word : String}

/-- Properties lead on from what the ones in front of them lead to. -/
theorem follow_append {names : List String} (properties : ∀ name ∈ names, isProperty name)
    (rest : List String) (receiver : Target) :
    follow receiver (names ++ rest) = (do follow (← follow receiver names) rest) := by
  induction names generalizing receiver with
  | nil => exact (pure_bind receiver fun t => follow t rest).symm
  | cons name others ih =>
    obtain ⟨proper, properties⟩ := List.forall_mem_cons.mp properties
    rw [List.cons_append, follow_cons proper, follow_cons proper, bind_assoc]
    exact congrArg _ (funext fun t => ih properties t)

theorem follow_marked {name : List Char} (marked : word.toList = '@' :: name) (rest : List String)
    (receiver : Target) :
    follow receiver (word :: rest)
      = (do collectionOperator (← follow receiver rest) (String.ofList name)) := by
  conv =>
    lhs
    unfold follow
  split
  · rename_i other marked'
    obtain ⟨-, rfl⟩ := List.cons.inj (marked.symm.trans marked')
    rfl
  · rename_i unmarked
    exact absurd marked (unmarked name)

/-- An operator applies to what the segments behind it lead to. -/
theorem follow_operator (known : Aggregation.ofSegment? word = some a) (rest : List String)
    (receiver : Target) :
    follow receiver (word :: rest) = (do a.lowerAs word (← follow receiver rest)) := by
  unfold Aggregation.ofSegment? at known
  split at known
  · rename_i name is
    have whole : "@" ++ String.ofList name = word := by
      rw [← String.toList_inj]
      simp [is]
    rw [follow_marked is]
    refine congrArg _ (funext fun source => ?_)
    unfold collectionOperator Aggregation.lowerAs
    simp only [whole, String.toList_ofList]
    refine congrArg _ (funext fun element => ?_)
    by_cases count : String.ofList (name.map Char.toLower) = "count"
    · rw [if_pos count] at known ⊢
      cases known
      rfl
    · rw [if_neg count] at known ⊢
      obtain ⟨r, found, rfl⟩ := Option.map_eq_some_iff.mp known
      rw [found]
      rfl
  · cases known

/-- A builtin function that takes as many arguments is found, and nothing else is done. -/
theorem function_of_known {selector name : String} {arity : Nat} {meaning : Meaning}
    (known : BuiltinFunction.ofSelector? selector = some ⟨name, arity, meaning⟩) :
    function selector arity = pure ⟨name, arity, meaning⟩ := by
  unfold function
  rw [known]
  exact if_pos rfl

end Lowering

/-! ## Expressions that aggregate -/

/-- From the one expression segments lead to the other one. -/
inductive Expr.Leads : Expr → (segments : List String) → Expr → Prop where
  | here (e : Expr) : Leads e [] e
  | path (path : String) : Leads .self (Lowering.segments path) (.path path)
  | pathOn (operand : Expr) (path : String) :
    Leads operand (Lowering.segments path) (.pathOn operand path)

/-- The expression aggregates the collection: it is the builtin function of the collection, or there
is an operator in a key path, and without the operator the path leads to the collection. -/
inductive Expr.Aggregates (a : Aggregation) : (e collection : Expr) → Prop where
  | call {selector name : String} (c : Expr)
    (known : BuiltinFunction.ofSelector? selector = some ⟨name, 1, a.meaning⟩) :
    Aggregates a (.call selector [c]) c
  | operator {receiver c e : Expr} {names rest : List String} {word : String}
    (properties : ∀ name ∈ names, isProperty name) (known : Aggregation.ofSegment? word = some a)
    (whole : receiver.Leads (names ++ word :: rest) e)
    (collection : receiver.Leads (names ++ rest) c) : Aggregates a e c

namespace Expr

variable {a : Aggregation} {receiver c e : Expr} {names : List String}

theorem Leads.lower_eq (h : receiver.Leads names e) :
    e.lower = (do follow (← receiver.lower) names) := by
  cases h with
  | here => exact (bind_pure receiver.lower).symm
  | path | pathOn => rw [lower]; rfl

/-- However it is written, an aggregation is lowered in the same way. -/
theorem Aggregates.lower_eq (h : e.Aggregates a c) :
    ∃ operation, e.lower = (do a.lowerAs operation (← c.lower)) := by
  cases h with
  | @call selector name _ known =>
    refine ⟨name, ?_⟩
    rw [lower, List.length_singleton, function_of_known known, pure_bind,
      if_neg a.meaning_ne_index]
    simp only [lowerAll, bind_assoc, pure_bind]
    refine congrArg _ (funext fun source => ?_)
    cases a <;> rfl
  | @operator receiver _ _ names rest word properties known whole collection =>
    refine ⟨word, ?_⟩
    rw [whole.lower_eq, collection.lower_eq]
    simp only [follow_append properties, follow_operator known, bind_assoc]

end Expr

/-- Every expression is counted by the operator behind it. -/
theorem Expr.aggregates_count (c : Expr) : (pathOn c "@count").Aggregates .count c := by
  have names : segments "@count" = ["@count"] := by decide +kernel
  have whole : c.Leads ["@count"] (pathOn c "@count") := names ▸ .pathOn c "@count"
  have none : ∀ name ∈ [], isProperty name := nofun
  exact .operator none (by decide +kernel) whole (.here c)

/-! ## What collections are reduced to -/

/-- The items that are there. -/
def Value.present (items : List Value) : List Value := items.filter fun item => !item.isNull

/-- What an operation behind a guard comes to for a subject that is there. -/
theorem Target.MayGuard.resultOf_eval {node : Target → Target} {subject t : Target} {v : Value}
    {result : Except Error Value} {world : World} {memory after : Memory}
    (h : MayGuard node subject t) (gives : subject.eval world memory = .ok v after)
    (there : v.isNull = false)
    (operation : ∀ (s : Target) memory after, s.eval world memory = .ok v after →
      (node s).eval world memory = Evaluation.ofResult result world after) :
    Evaluation.resultOf (t.eval world memory) = result := by
  rcases h with rfl | ⟨binding, -, rfl⟩
  · rw [operation subject memory after gives, Evaluation.resultOf_ofResult]
  · have body := operation (.parameter subject.kind binding) _ _
      (Evaluation.lookup_push binding v world after)
    rw [Target.eval, Evaluation.bind_run_of_ok gives, if_neg (by simp [there]),
      Evaluation.withSlot_ofResult body, Evaluation.resultOf_ofResult]

theorem Evaluation.exists_of_resultOf {α : Type} {outcome : EStateM.Result Error Memory α} {a : α}
    (h : resultOf outcome = .ok a) : ∃ after, outcome = .ok a after := by
  cases outcome with
  | ok b after =>
    cases h
    exact ⟨after, rfl⟩
  | error e after => cases h

/-- The expression comes to an array of the items. Of its kind is known that it is one of a
collection, with items of the kind `element`, or nothing is known of it. -/
structure Expr.Collects (c : Expr) (kind : Kind) (settings : Settings) (object : Value)
    (world : World) (memory : Memory) (element : Kind) (items : List Value) : Prop where
  lowered : ∃ t after, c.lower settings (.root kind settings) = .ok t after
    ∧ t.kind.element? = some element
  value : c.result kind settings object world memory = .ok (.array items)

/-- The items of a collection are reduced if they are known to be of a kind that can be, or their
kind is not known. -/
theorem Expr.Collects.result_reduction {c e : Expr} {kind element : Kind} {settings : Settings}
    {object : Value} {world : World} {memory : Memory} {items : List Value} {r : Reduction}
    (collects : c.Collects kind settings object world memory element items)
    (aggregates : e.Aggregates (.reduction r) c) :
    e.result kind settings object world memory
      = if isReducible r element then Evaluation.reduce (reducedKind r element) r items
        else .error (.type (.notAggregable element)) := by
  obtain ⟨source, between, lowered, known⟩ := collects.lowered
  have value := collects.value
  rw [result_of_lower lowered] at value
  obtain ⟨after, gives⟩ := Evaluation.exists_of_resultOf value
  obtain ⟨operation, shape⟩ := aggregates.lower_eq
  have onward : e.lower settings (.root kind settings)
      = Lowering.reduce source r element settings between := by
    rw [shape, bind_run_of_ok lowered, Aggregation.lowerAs, elementOf_of_some known, pure_bind]
    rfl
  unfold Lowering.reduce at onward
  split
  case isTrue reducible =>
    rw [if_pos reducible] at onward
    obtain ⟨t, last, run, guard⟩ :=
      exists_guarded (.reduce (reducedKind r element) r) source settings between
    rw [result_of_lower (onward.trans run)]
    refine guard.resultOf_eval gives rfl fun s memory after run => ?_
    rw [Target.eval, Evaluation.bind_run_of_ok run]
    rfl
  case isFalse unfit =>
    rw [if_neg unfit] at onward
    exact result_of_lower_error onward

/-- A key path along which there is a collection. -/
theorem Expr.collects_path {path : String} {kind known element : Kind} {settings : Settings}
    {object : Value} {items : List Value} (objects : settings.dialect = .objects)
    (properties : ∀ name ∈ segments path, isProperty name)
    (leads : (segments path).foldlM Kind.property kind = .ok known)
    (collection : known.element? = some element)
    (found : Value.walk kind (segments path) object = .ok (.array items)) (world : World)
    (memory : Memory) :
    (Expr.path path).Collects kind settings object world memory element items := by
  obtain ⟨t, after, run, own, -⟩ := exists_follow (.parameter kind Scope.objectName) properties
    leads settings (.root kind settings)
  have lowered : (Expr.path path).lower settings (.root kind settings) = .ok t after := by
    rw [lower, bind_run_of_ok (object_run (Scope.find?_root_object kind settings))]
    exact run
  refine ⟨⟨t, after, lowered, own ▸ collection⟩, ?_⟩
  have walks := (eval_follow objects properties rfl run).2 world (Compiled.start object memory)
    (.ok object) (Evaluation.lookup_push _ object world _)
  rw [result_of_lower lowered, walks, Evaluation.resultOf_ofResult]
  exact found

/-- An object with items. -/
def Value.withItems (items : List Value) : Value := .object [("items", .array items)]

/-- Of an object is known that its items are of a kind. -/
def Kind.withItems (element : Kind) : Kind := .record "object" [("items", .sequence element)] true

/-- The items of an object are a collection. -/
theorem Expr.collects_items (element : Kind) (items : List Value) (world : World)
    (memory : Memory) : (Expr.path "items").Collects (.withItems element) (.ofDialect .objects)
      (.withItems items) world memory element items := by
  have names : segments "items" = ["items"] := by decide +kernel
  have leads : (segments "items").foldlM Kind.property (.withItems element)
      = .ok (.sequence element) := by
    rw [names]
    rfl
  refine collects_path rfl ?_ leads rfl ?_ world memory
  · rw [names]
    decide
  · rw [names]
    rfl

/-- An operator behind the path of the items of an object. -/
theorem Expr.aggregates_items {a : Aggregation} {path : String} (word : String)
    (names : segments path = ["items", word]) (known : Aggregation.ofSegment? word = some a) :
    (Expr.path path).Aggregates a (.path "items") := by
  have items : segments "items" = ["items"] := by decide +kernel
  have properties : ∀ name ∈ ["items"], isProperty name := by decide
  have whole : Expr.self.Leads ["items", word] (.path path) := names ▸ .path path
  have collection : Expr.self.Leads ["items"] (.path "items") := items ▸ .path "items"
  exact .operator properties known whole collection

end PredicateLang
