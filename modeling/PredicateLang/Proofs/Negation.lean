import PredicateLang.Compilation
import PredicateLang.Proofs.Effects.Trace
import PredicateLang.Proofs.Result

/-!
# Negation

What a predicate is lowered to tells the truth: if it has a value at all, then the value is true or
false, and never null. So negation always turns the one into the other. It can be moved through
`AND` and `OR`, which change into each other, and two negations come to none. Nothing else changes:
what is evaluated, in which order, which error ends it and what is remembered after it stay the
same.
-/

namespace PredicateLang

/-! ## Trees of truth -/

namespace Target

/-- The tree is of the kind of truth values, and evaluated to one, if to anything. -/
structure IsTruth (t : Target) : Prop where
  kind : t.kind = .boolean
  value : ∀ world before v after, t.eval world before = .ok v after → ∃ b, v = .boolean b

variable {t l r : Target}

/-- A slot is only around a step. -/
theorem exists_of_withSlot {α : Type} {name : String} {v : Value} {step : Evaluation α}
    {world : World} {before after : Memory} {a : α}
    (run : Evaluation.withSlot name v step world before = .ok a after) :
    ∃ before' after', step world before' = .ok a after' := by
  unfold Evaluation.withSlot at run
  split at run <;> cases run
  exact ⟨_, _, ‹_›⟩

/-- A result of a step that only may fail. -/
theorem eq_of_ofResult {α : Type} {made : Except Error α} {world : World} {before after : Memory}
    {a : α} (run : Evaluation.ofResult made world before = .ok a after) : made = .ok a := by
  cases made <;> cases run
  rfl

theorem isTruth_constant (b : Bool) : (ofValue (.boolean b)).IsTruth where
  kind := rfl
  value world before v after run := by
    cases run
    exact ⟨b, rfl⟩

/-- In place of a truth about nothing there is the default of its kind, which is false. -/
theorem IsTruth.guard (h : t.IsTruth) (subject : Target) (binding : String) :
    (Target.guard t.kind subject binding t).IsTruth where
  kind := h.kind
  value world before v after run := by
    obtain ⟨w, between, -, run⟩ := exists_of_run_bind run
    split at run
    · cases run
      rw [h.kind]
      exact ⟨false, rfl⟩
    · obtain ⟨before', after', run⟩ := exists_of_withSlot run
      exact h.value world before' v after' run

theorem IsTruth.bind (h : t.IsTruth) (value : Target) (binding : String) :
    (Target.bind t.kind value binding t).IsTruth where
  kind := h.kind
  value world before v after run := by
    obtain ⟨w, between, -, run⟩ := exists_of_run_bind run
    obtain ⟨before', after', run⟩ := exists_of_withSlot run
    exact h.value world before' v after' run

theorem isTruth_quantify (quantifier : Quantifier) (source : Target) (parameter : String)
    (predicate : Target) : (quantify .boolean quantifier source parameter predicate).IsTruth where
  kind := rfl
  value world before v after run := by
    obtain ⟨w, between, -, run⟩ := exists_of_run_bind run
    obtain ⟨found, between', -, run⟩ := exists_of_run_bind run
    cases found with
    | none =>
      cases run
      exact ⟨_, rfl⟩
    | some items =>
      obtain ⟨told, last, -, run⟩ := exists_of_run_bind run
      cases run
      exact ⟨told, rfl⟩

/-- Order and equality never fail. -/
theorem isTruth_relation {op : BinaryOp}
    (answers : ∀ v w, (Evaluation.comparison? op v w).isSome) :
    (binary .boolean op l r).IsTruth where
  kind := rfl
  value world before v after run := by
    have strict : (binary .boolean op l r).eval = (do
        let v ← l.eval
        let w ← r.eval
        Evaluation.ofResult (Evaluation.binary .boolean op v w)) := by
      cases op <;> first | rfl | cases answers .null .null
    rw [strict] at run
    obtain ⟨a, between, -, run⟩ := exists_of_run_bind run
    obtain ⟨b, between', -, run⟩ := exists_of_run_bind run
    replace run := eq_of_ofResult run
    obtain ⟨told, known⟩ := Option.isSome_iff_exists.mp (answers a b)
    unfold Evaluation.binary at run
    rw [known] at run
    cases run
    exact ⟨told, rfl⟩

/-- Tests of strings and collections tell the truth. -/
theorem isTruth_test {builtin : Builtin} {args : List Target}
    {answer : Value → Value → Except Error Value}
    (asks : ∀ vs, Evaluation.call builtin vs
      = Evaluation.ofResult (answer (vs.headD .null) ((vs.drop 1).headD .null)))
    (tells : ∀ v w u, answer v w = .ok u → ∃ b, u = .boolean b) :
    (call .boolean builtin args).IsTruth where
  kind := rfl
  value world before v after run := by
    obtain ⟨vs, between, -, run⟩ := exists_of_run_bind run
    rw [asks] at run
    exact tells _ _ v (eq_of_ofResult run)

/-! ### Connectives -/

/-- The other connective. -/
def dual : BinaryOp → BinaryOp
  | .andAlso => .orElse
  | .orElse => .andAlso
  | op => op

/-- The value at which a connective leaves out its second operand, which is then its own. -/
def deciding : BinaryOp → Bool
  | .orElse => true
  | _ => false

/-- What a connective makes of two truths. -/
def connect (op : BinaryOp) (first second : Evaluation Bool) : Evaluation Bool := do
  if (← first) = deciding op then return deciding op else second

variable {op : BinaryOp}

theorem isConnective_dual (connective : op.isConnective) : (dual op).isConnective := by
  cases op <;> cases connective <;> rfl

theorem deciding_dual (connective : op.isConnective) : deciding (dual op) = !deciding op := by
  cases op <;> cases connective <;> rfl

theorem eval_connective (kind : Kind) (connective : op.isConnective) (l r : Target) :
    (binary kind op l r).eval
      = do return .boolean (← connect op l.evalTruth r.evalTruth) := by
  cases op <;> cases connective
  all_goals
    simp only [eval, connect, deciding, evalTruth, bind_assoc]
    refine congrArg _ (funext fun v => congrArg _ (funext fun b => ?_))
    cases b <;> simp

theorem isTruth_connective (connective : op.isConnective) :
    (binary .boolean op l r).IsTruth where
  kind := rfl
  value world before v after run := by
    rw [eval_connective .boolean connective] at run
    obtain ⟨b, between, -, run⟩ := exists_of_run_bind run
    cases run
    exact ⟨b, rfl⟩

theorem isTruth_not : (unary .boolean .not t).IsTruth where
  kind := rfl
  value world before v after run := by
    obtain ⟨w, between, -, run⟩ := exists_of_run_bind run
    replace run := eq_of_ofResult run
    cases w <;> cases run <;> exact ⟨_, rfl⟩

/-! ### Negation -/

/-- The value of a truth is its truth. -/
theorem IsTruth.eval_eq (h : t.IsTruth) : t.eval = do return .boolean (← t.evalTruth) := by
  funext world before
  simp only [evalTruth, Bind.bind, ReaderT.bind, EStateM.bind]
  cases run : t.eval world before with
  | error e after => rfl
  | ok v after =>
    obtain ⟨b, rfl⟩ := h.value world before v after run
    rfl

theorem IsTruth.eval_not (h : t.IsTruth) :
    (unary .boolean .not t).eval = do return .boolean !(← t.evalTruth) := by
  show (do Evaluation.ofResult (Evaluation.unary .not (← t.eval))) = _
  rw [h.eval_eq]
  simp only [bind_assoc, pure_bind]
  rfl

theorem eval_not_of_eval {world : World} {before after : Memory} {b : Bool}
    (run : t.eval world before = .ok (.boolean b) after) :
    (unary .boolean .not t).eval world before = .ok (.boolean !b) after := by
  show (t.eval >>= _) world before = _
  simp only [Bind.bind, ReaderT.bind, EStateM.bind, run]
  rfl

/-- A tree whose value is a truth has this truth. -/
theorem evalTruth_of_eval {step : Evaluation Bool} (h : t.eval = do return .boolean (← step)) :
    t.evalTruth = step := by
  unfold evalTruth
  rw [h, bind_assoc]
  simp only [pure_bind, Evaluation.truth, bind_pure]

theorem IsTruth.evalTruth_not (h : t.IsTruth) :
    (unary .boolean .not t).evalTruth = do return !(← t.evalTruth) := by
  apply evalTruth_of_eval
  rw [h.eval_not]
  simp only [bind_assoc, pure_bind]

/-- Negation of what a connective gives is the other connective of the negated operands. -/
theorem IsTruth.eval_not_connective (connective : op.isConnective) (h : l.IsTruth)
    (h' : r.IsTruth) :
    (unary .boolean .not (binary .boolean op l r)).eval
      = (binary .boolean (dual op) (unary .boolean .not l) (unary .boolean .not r)).eval := by
  rw [(isTruth_connective connective).eval_not,
    evalTruth_of_eval (eval_connective _ connective l r),
    eval_connective _ (isConnective_dual connective), h.evalTruth_not, h'.evalTruth_not]
  simp only [connect, deciding_dual connective, bind_assoc, pure_bind]
  refine congrArg _ (funext fun b => ?_)
  by_cases decides : b = deciding op
  · simp [decides]
  · simp [decides]

/-- Two negations come to none. -/
theorem IsTruth.eval_not_not (h : t.IsTruth) :
    (unary .boolean .not (unary .boolean .not t)).eval = t.eval := by
  rw [isTruth_not.eval_not, h.evalTruth_not, h.eval_eq]
  simp only [bind_assoc, pure_bind, Bool.not_not]

end Target

/-! ## Predicates are lowered to trees of truth -/

namespace Lowering

open Target

variable {α β : Type} {step : Lowering α} {P : α → Prop} {Q : β → Prop} {t s : Target}

/-- What the step gives, if anything, satisfies `P`. -/
def Gives (step : Lowering α) (P : α → Prop) : Prop :=
  ∀ settings scope a after, step settings scope = .ok a after → P a

theorem gives_pure {a : α} (h : P a) : Gives (pure a) P := by
  intro settings scope b after run
  cases run
  exact h

theorem gives_throw (e : Error) : Gives (throw e) P := nofun

theorem gives_typeFault (fault : TypeFault) : Gives (typeFault fault) P := gives_throw _

/-- Nothing is asked of the first of two steps. -/
theorem Gives.after {next : α → Lowering β} (h : ∀ a, Gives (next a) Q) :
    Gives (step >>= next) Q := by
  intro settings scope b after run
  obtain ⟨a, between, -, run⟩ := exists_of_run_bind run
  exact h a settings between b after run

theorem Gives.bind {next : α → Lowering β} (h : Gives step P) (h' : ∀ a, P a → Gives (next a) Q) :
    Gives (step >>= next) Q := by
  intro settings scope b after run
  obtain ⟨a, between, first, run⟩ := exists_of_run_bind run
  exact h' a (h settings scope a between first) settings between b after run

/-- Steps that do the same with whatever a first step can give. -/
theorem Gives.bind_congr {next next' : α → Lowering β} (h : Gives step P)
    (same : ∀ a, P a → next a = next' a) : step >>= next = step >>= next' := by
  funext settings scope
  simp only [Bind.bind, ReaderT.bind, EStateM.bind]
  cases run : step settings scope with
  | error e after => rfl
  | ok a after =>
    simp only
    rw [same a (h settings scope a after run)]

theorem gives_guarded {build : Target → Lowering Target} (h : ∀ t, Gives (build t) IsTruth) :
    Gives (guarded t build) IsTruth := by
  refine .after fun d => ?_
  split
  · exact .after fun binding => (h _).bind fun body truth => gives_pure (truth.guard t binding)
  · exact h t

theorem gives_shared {build : Target → Lowering Target} (h : ∀ t, Gives (build t) IsTruth) :
    Gives (shared t build) IsTruth := by
  refine .after fun d => ?_
  split
  · exact .after fun binding => (h _).bind fun body truth => gives_pure (truth.bind t binding)
  · exact h t

theorem gives_relate {op : BinaryOp}
    (answers : ∀ v w, (Evaluation.comparison? op v w).isSome) (t s : Target) :
    Gives (relate op t s) IsTruth :=
  .after fun _ => gives_pure (isTruth_relation answers)

/-- A test of strings, behind a guard. -/
theorem gives_stringTest {builtin : Builtin} {test : String → String → Except Error Bool}
    (asks : ∀ vs, Evaluation.call builtin vs = Evaluation.ofResult
      (Evaluation.testStrings test (vs.headD .null) ((vs.drop 1).headD .null))) (t s : Target) :
    Gives (stringTest builtin t s) IsTruth := by
  refine .after fun _ => .after fun _ => gives_shared fun t => gives_shared fun s =>
    gives_guarded fun t => gives_pure (isTruth_test asks fun v w u made => ?_)
  unfold Evaluation.testStrings at made
  split at made
  · obtain ⟨b, -, made⟩ := exists_of_bind_ok made
    cases made
    exact ⟨b, rfl⟩
  all_goals cases made
  all_goals exact ⟨false, rfl⟩

theorem gives_contains (t s : Target) : Gives (contains t s) IsTruth := by
  have operands (p : Target × Target) : Gives (shared p.1 fun t => shared p.2 fun s =>
      guarded t fun t => return .call .boolean .contains [t, s]) IsTruth := by
    refine gives_shared fun t => gives_shared fun s => gives_guarded fun t => gives_pure ?_
    refine isTruth_test (fun _ => rfl) fun v w u made => ?_
    unfold Evaluation.contains at made
    split at made <;> cases made <;> exact ⟨_, rfl⟩
  unfold contains
  dsimp only
  split
  · exact .after operands
  · exact operands (t, s)

theorem gives_within (t low high : Target) : Gives (within t low high) IsTruth :=
  .after fun _ => .after fun _ => gives_pure (isTruth_connective rfl)

theorem gives_between (t bounds : Target) : Gives (between t bounds) IsTruth := by
  refine gives_shared fun t => ?_
  split
  · exact gives_within _ _ _
  · exact gives_typeFault _
  · exact .after fun element => gives_shared fun bounds => gives_within _ _ _

/-- Every operator asks something that is true or false. -/
theorem gives_compare (operator : Operator) (t s : Target) :
    Gives (compare operator t s) IsTruth := by
  cases operator with
  | less | lessEqual | greater | greaterEqual | equal | notEqual =>
    exact gives_relate (fun _ _ => rfl) t s
  | isMatch | like | beginsWith | endsWith => exact gives_stringTest (fun _ => rfl) t s
  | contains => exact gives_contains t s
  | member => exact gives_contains s t
  | between => exact gives_between t s

theorem gives_quantified (quantifier : Quantifier) (operator : Operator) (t s : Target) :
    Gives (quantified quantifier operator t s) IsTruth :=
  .after fun _ => gives_shared fun _ => gives_shared fun _ => .after fun _ => .after fun _ =>
    gives_pure (isTruth_quantify ..)

theorem gives_comparison (operator : Operator) (modifier : Modifier) (options : Options)
    (t s : Target) : Gives (comparison operator modifier options t s) IsTruth := by
  refine .after ?_
  rintro ⟨t, s⟩
  dsimp only
  split
  · exact gives_compare _ _ _
  · exact gives_quantified _ _ _ _

end Lowering

open Lowering

/-- Whatever is joined, the parts are truths. -/
theorem Predicate.gives_lowerJoined {op : BinaryOp} (connective : op.isConnective)
    {parts : List Predicate} (h : ∀ p ∈ parts, Gives p.lower Target.IsTruth) :
    Gives (Predicate.lowerJoined op parts) Target.IsTruth := by
  match parts with
  | [] => exact gives_pure (Target.isTruth_constant false)
  | [part] => exact h part List.mem_cons_self
  | part :: other :: rest =>
    exact .after fun _ => .after fun _ => gives_pure (Target.isTruth_connective connective)

/-- What a predicate is lowered to tells the truth. -/
theorem Predicate.gives_lower (p : Predicate) : Gives p.lower Target.IsTruth := by
  match p with
  | .constant b => exact gives_pure (Target.isTruth_constant b)
  | .comparison .. => exact .after fun _ => .after fun _ => gives_comparison _ _ _ _ _
  | .compound .not [_] => exact .after fun _ => gives_pure Target.isTruth_not
  | .compound .not [] | .compound .not (_ :: _ :: _) => exact gives_typeFault _
  | .compound .and parts => exact gives_lowerJoined rfl fun p _ => p.gives_lower
  | .compound .or parts => exact gives_lowerJoined rfl fun p _ => p.gives_lower

/-! ## Negation of predicates -/

/-- The value of a predicate, as a step of evaluation, for objects of a kind; or the error that it
cannot be lowered for. -/
def Predicate.outcome (p : Predicate) (object : Kind) (settings : Settings) :
    Except Error (Evaluation Value) :=
  (p.target object settings).map Target.eval

namespace Predicate

variable {object : Kind} {settings : Settings}

theorem runFor_map {α β : Type} (f : α → β) (step : Lowering α) :
    Lowering.runFor (f <$> step) object settings = (step.runFor object settings).map f := by
  unfold Lowering.runFor
  simp only [Functor.map, EStateM.map]
  cases step settings (.root object settings) <;> rfl

/-- Predicates that are lowered to the same steps of evaluation have the same outcome. -/
theorem outcome_congr {p q : Predicate}
    (same : (Target.eval <$> p.lower) = (Target.eval <$> q.lower)) :
    p.outcome object settings = q.outcome object settings := by
  unfold outcome target
  rw [← runFor_map, ← runFor_map, same]

theorem isTruth_of_target {p : Predicate} {t : Target} (made : p.target object settings = .ok t) :
    t.IsTruth := by
  unfold target Lowering.runFor at made
  split at made <;> cases made
  exact p.gives_lower _ _ _ _ ‹_›

theorem target_not (p : Predicate) : (compound .not [p]).target object settings
    = (p.target object settings).map (.unary .boolean .not) := by
  unfold target
  rw [← runFor_map, map_eq_pure_bind]
  simp only [lower]

/-- Negation goes from what is joined to its parts, and the connective changes. -/
theorem eval_lower_not_joined {op : BinaryOp} (connective : op.isConnective) (p : Predicate)
    (rest : List Predicate) :
    (Target.eval <$> do return .unary .boolean .not (← lowerJoined op (p :: rest)))
      = Target.eval <$> lowerJoined (Target.dual op)
          ((p :: rest).map fun q => compound .not [q]) := by
  induction rest generalizing p with
  | nil => rfl
  | cons q rest ih =>
    have parts : Gives (lowerJoined op (q :: rest)) Target.IsTruth :=
      gives_lowerJoined connective fun p _ => p.gives_lower
    let joined (l : Target) (rest : Evaluation Value) : Evaluation Value := do
      return .boolean (← Target.connect (Target.dual op) (Target.unary .boolean .not l).evalTruth
        (do Evaluation.truth (← rest)))
    calc (Target.eval <$> do return .unary .boolean .not (← lowerJoined op (p :: q :: rest)))
      _ = (do
          let l ← p.lower
          let r ← lowerJoined op (q :: rest)
          return (Target.unary .boolean .not (.binary .boolean op l r)).eval) := by
        simp only [lowerJoined, map_eq_pure_bind, bind_assoc, pure_bind]
      _ = (do
          let l ← p.lower
          let r ← lowerJoined op (q :: rest)
          return joined l (Target.unary .boolean .not r).eval) := by
        refine p.gives_lower.bind_congr fun l truth => parts.bind_congr fun r truth' => ?_
        rw [truth.eval_not_connective connective truth', Target.eval_connective]
        · rfl
        · exact Target.isConnective_dual connective
      _ = (do
          let l ← p.lower
          let rest ← Target.eval <$> do
            return .unary .boolean .not (← lowerJoined op (q :: rest))
          return joined l rest) := by
        simp only [map_eq_pure_bind, bind_assoc, pure_bind]
      _ = (do
          let l ← p.lower
          let rest ← Target.eval <$> lowerJoined (Target.dual op)
            ((q :: rest).map fun q => compound .not [q])
          return joined l rest) := by
        rw [ih q]
      _ = _ := by
        simp only [List.map_cons, lowerJoined, lower, map_eq_pure_bind, bind_assoc, pure_bind,
          Target.eval_connective _ (Target.isConnective_dual connective)]
        rfl

/-- A predicate is true or false of an object, if it can be evaluated at all, and its negation is
the other. Negation of several predicates that are joined is the same as their negations joined by
the other connective, and two negations are the same as none: they fail to be lowered with the same
error, or they are evaluated to the same value or the same error with the same assignments and
draws. -/
theorem outcome_negation (p : Predicate) (rest : List Predicate) (object : Kind)
    (settings : Settings) :
    (∀ t, p.target object settings = .ok t →
        ∃ n, (compound .not [p]).target object settings = .ok n
          ∧ ∀ world before v after, t.eval world before = .ok v after →
            ∃ b, v = .boolean b ∧ n.eval world before = .ok (.boolean !b) after)
      ∧ (compound .not [compound .and (p :: rest)]).outcome object settings
        = (compound .or ((p :: rest).map fun q => compound .not [q])).outcome object settings
      ∧ (compound .not [compound .or (p :: rest)]).outcome object settings
        = (compound .and ((p :: rest).map fun q => compound .not [q])).outcome object settings
      ∧ (compound .not [compound .not [p]]).outcome object settings
        = p.outcome object settings := by
  refine ⟨fun t made => ?_, ?_, ?_, ?_⟩
  · have truth := isTruth_of_target made
    refine ⟨.unary .boolean .not t, ?_, fun world before v after run => ?_⟩
    · rw [target_not, made]
      rfl
    · obtain ⟨b, rfl⟩ := truth.value world before v after run
      exact ⟨b, rfl, t.eval_not_of_eval run⟩
  · exact outcome_congr (eval_lower_not_joined rfl p rest)
  · exact outcome_congr (eval_lower_not_joined rfl p rest)
  · refine outcome_congr ?_
    simp only [lower, map_eq_pure_bind, bind_assoc, pure_bind]
    exact p.gives_lower.bind_congr fun t truth => by rw [truth.eval_not_not]

/-- Of someone whose age is not known it is not true that they are a minor, so it is true that they
are none. -/
theorem outcome_negation_unknown :
    ∃ n, (compound .not
        [comparison (.path "age") .less (.constant (.int 18)) .direct .none]).target .any
          (.ofDialect .objects) = .ok n
      ∧ n.eval ⟨.reference, fun _ => 0⟩ (Memory.empty.push Scope.objectName (.object []))
        = .ok (.boolean true) (Memory.empty.push Scope.objectName (.object [])) := by
  obtain ⟨n, made, tells⟩ := (outcome_negation
    (comparison (.path "age") .less (.constant (.int 18)) .direct .none) [] .any
    (.ofDialect .objects)).1 _ rfl
  obtain ⟨b, is, run⟩ := tells ⟨.reference, fun _ => 0⟩
    (Memory.empty.push Scope.objectName (.object [])) (.boolean false) _ rfl
  cases is
  exact ⟨n, made, run⟩

end Predicate

end PredicateLang
