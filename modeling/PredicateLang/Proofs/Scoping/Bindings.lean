import Mathlib.Data.List.Infix
import PredicateLang.Proofs.Renaming.Trees

/-!
# What a failure leaves in scope

An assignment brings its variable into the scope that lowering was begun in, where the variable
stays, also if something after it cannot be lowered. Nothing else is ever brought into that scope:
what goes on in a subquery goes out of scope with it.

`Expr.assignments` and `Predicate.assignments` list the variables in the order in which they are
brought into scope. `Lowering.Gains names step` says of a step that it brings the named variables
into scope, or fails after the first few of them.
-/

namespace PredicateLang

/-! ## Assignments -/

mutual

/-- The variables that the expression assigns outside of subqueries, in the order of lowering. -/
def Expr.assignments : Expr → List String
  | .pathOn operand _ => operand.assignments
  | .call _ args | .list args => Expr.assignmentsAll args
  | .assign var value => value.assignments ++ [var]
  | _ => []

/-- The variables that the expressions assign, those of the first one first. -/
def Expr.assignmentsAll : List Expr → List String
  | [] => []
  | e :: rest => e.assignments ++ Expr.assignmentsAll rest

/-- The variables that the predicate assigns outside of subqueries, in the order of lowering. -/
def Predicate.assignments : Predicate → List String
  | .constant _ => []
  | .comparison left _ right _ _ => left.assignments ++ right.assignments
  | .compound _ parts => Predicate.assignmentsAll parts

/-- The variables that the predicates assign, those of the first one first. -/
def Predicate.assignmentsAll : List Predicate → List String
  | [] => []
  | p :: rest => p.assignments ++ Predicate.assignmentsAll rest

end

namespace Scope

/-- The bindings with variables of certain kinds brought into scope one after the other. Each stands
for itself. -/
def bindAll (vars : List (String × Kind)) (bindings : Fields Target) : Fields Target :=
  vars.foldl
    (fun bindings var =>
      bindings.insert (variableKey var.1) (.parameter var.2 (variableKey var.1)))
    bindings

variable {bindings : Fields Target} {vars : List (String × Kind)}

theorem bindAll_append (vars others : List (String × Kind)) (bindings : Fields Target) :
    bindAll (vars ++ others) bindings = bindAll others (bindAll vars bindings) :=
  List.foldl_append

/-- What other names stand for is the same. -/
theorem find?_bindAll_of_ne {key : String} (ne : ∀ var ∈ vars, key ≠ variableKey var.1) :
    (bindAll vars bindings).find? key = bindings.find? key := by
  induction vars generalizing bindings with
  | nil => rfl
  | cons var rest ih =>
    obtain ⟨first, others⟩ := List.forall_mem_cons.mp ne
    apply (ih others).trans
    exact Fields.find?_insert_of_ne _ _ first.symm

end Scope

namespace Lowering

variable {α β : Type} {names others : List String} {step : Lowering α}

/-- The step has brought the named variables into scope, or has failed after the first few. -/
inductive Gained (names : List String) (scope : Scope) : EStateM.Result Error Scope α → Prop where
  | ok {a : α} {after : Scope} (vars : List (String × Kind)) (all : vars.map Prod.fst = names)
    (bindings : after.bindings = Scope.bindAll vars scope.bindings) :
    Gained names scope (.ok a after)
  | error {e : Error} {after : Scope} (vars : List (String × Kind))
    (some : vars.map Prod.fst <+: names)
    (bindings : after.bindings = Scope.bindAll vars scope.bindings) :
    Gained names scope (.error e after)

/-- The step brings the named variables into scope, or fails after the first few. -/
def Gains (names : List String) (step : Lowering α) : Prop :=
  ∀ settings scope, Gained names scope (step settings scope)

/-! ## Rules -/

theorem gains_throw (e : Error) : Gains names (throw e : Lowering α) :=
  fun _ _ => .error [] List.nil_prefix rfl

theorem gains_pure (a : α) : Gains [] (pure a : Lowering α) :=
  fun _ _ => .ok [] rfl rfl

/-- A step that leaves names alone brings nothing into scope. -/
theorem Tracks.gains {P : α → α → Prop} (h : Tracks step step P) : Gains [] step := by
  intro settings scope
  have run := h settings settings scope scope (.refl settings) rfl
  generalize step settings scope = result at run
  cases run with
  | ok _ keeps => exact .ok [] rfl keeps.bindings
  | error e keeps => exact .error [] List.nil_prefix keeps.bindings

theorem Gains.bind {next : α → Lowering β} (h : Gains names step)
    (h' : ∀ a, Gains others (next a)) : Gains (names ++ others) (step >>= next) := by
  intro settings scope
  have first := h settings scope
  simp only [Bind.bind, ReaderT.bind, EStateM.bind]
  cases run : step settings scope with
  | error e between =>
    rw [run] at first
    cases first with
    | error vars some bindings =>
      exact .error vars (some.trans (List.prefix_append names others)) bindings
  | ok a between =>
    rw [run] at first
    cases first with
    | ok vars all bindings =>
      -- All of the first step has been done, so that a failure of the second is after the first few.
      have second := h' a settings between
      dsimp only
      cases run' : next a settings between with
      | ok b after =>
        rw [run'] at second
        cases second with
        | ok vars' all' bindings' =>
          refine .ok (vars ++ vars') (by rw [List.map_append, all, all']) ?_
          rw [bindings', bindings, Scope.bindAll_append]
      | error e after =>
        rw [run'] at second
        cases second with
        | error vars' some bindings' =>
          refine .error (vars ++ vars') ?_ ?_
          · rw [List.map_append, all]
            exact (List.prefix_append_right_inj names).mpr some
          · rw [bindings', bindings, Scope.bindAll_append]

/-- What follows brings nothing more into scope. -/
theorem Gains.still {next : α → Lowering β} (h : Gains names step) (h' : ∀ a, Gains [] (next a)) :
    Gains names (step >>= next) := by
  have both := h.bind h'
  rwa [List.append_nil] at both

theorem gains_bound (key : String) (e : Error) :
    Gains [] (do match ← binding? key with | some target => return target | none => throw e :
      Lowering Target) := by
  have look : Gains [] (binding? key) := fun _ _ => .ok [] rfl rfl
  refine look.bind fun found => ?_
  cases found with
  | none => exact gains_throw e
  | some t => exact gains_pure t

theorem gains_assign (name : String) (t : Target) : Gains [name] (assign name t) :=
  fun _ _ => .ok [(name, t.kind)] rfl rfl

/-- Whatever an enclosed step does, nothing of it stays in scope. -/
theorem gains_enclosed (step : Lowering α) : Gains [] (enclosed step) := by
  intro settings scope
  unfold enclosed
  cases step settings scope with
  | ok a after => exact .ok [] rfl rfl
  | error e after => exact .error [] List.nil_prefix rfl

end Lowering

/-! ## Trees -/

open Lowering

mutual

/-- Lowering an expression brings the variables that it assigns into scope, or fails after the first
few. -/
theorem Expr.gains_lower (e : Expr) : Gains e.assignments e.lower := by
  match e with
  | .constant value => exact gains_pure _
  | .self | .var name => exact gains_bound _ _
  | .path keys =>
    exact (gains_bound _ _).still fun t =>
      (tracks_keyPath Naming.steady_eq keys t.renamed_refl).gains
  | .pathOn operand keys =>
    exact operand.gains_lower.still fun t =>
      (tracks_keyPath Naming.steady_eq keys t.renamed_refl).gains
  | .call selector args =>
    refine (tracks_function selector args.length).gains.bind fun f => ?_
    split
    · exact Expr.gains_lowerIndex args
    · exact (Expr.gains_lowerAll args).still fun ts =>
        (tracks_call Naming.steady_eq f (Target.allRenamed_refl ts)).gains
  | .subquery collection var predicate => exact gains_enclosed _
  | .list items =>
    exact (Expr.gains_lowerAll items).still fun ts =>
      (tracks_list (Target.allRenamed_refl ts)).gains
  | .symbol symbol => exact gains_throw _
  | .assign var value => exact value.gains_lower.bind fun t => gains_assign var t

theorem Expr.gains_lowerIndex (args : List Expr) :
    Gains (Expr.assignmentsAll args) (Expr.lowerIndex args) := by
  match args with
  | [] | [_] => exact gains_throw _
  | _ :: _ :: _ :: rest =>
    rw [Expr.lowerIndex_of_length (by simp)]
    exact gains_throw _
  | [collection, place] =>
    have element (t : Target) : Gains [] (elementOf Expr.indexSelector .collection t) :=
      (tracks_elementOf _ _ t.renamed_refl).gains
    by_cases word : ∃ symbol, place = .symbol symbol
    · obtain ⟨symbol, rfl⟩ := word
      refine collection.gains_lower.bind fun t => (element t).still fun kind => ?_
      exact (tracks_indexBySymbol Naming.steady_eq kind symbol t.renamed_refl).gains
    · rw [not_exists] at word
      rw [Expr.lowerIndex_of_not_symbol _ word]
      show Gains (collection.assignments ++ (place.assignments ++ [])) _
      rw [List.append_nil]
      refine collection.gains_lower.bind fun t => (element t).bind fun kind => ?_
      exact place.gains_lower.still fun s =>
        (tracks_indexBy Naming.steady_eq kind t.renamed_refl s.renamed_refl).gains

theorem Expr.gains_lowerAll (es : List Expr) :
    Gains (Expr.assignmentsAll es) (Expr.lowerAll es) := by
  match es with
  | [] => exact gains_pure _
  | e :: rest =>
    exact e.gains_lower.bind fun _ => (Expr.gains_lowerAll rest).still fun _ => gains_pure _

/-- Lowering a predicate brings the variables that it assigns into scope, or fails after the first
few. -/
theorem Predicate.gains_lower (p : Predicate) : Gains p.assignments p.lower := by
  match p with
  | .constant value => exact gains_pure _
  | .comparison left operator right modifier options =>
    refine left.gains_lower.bind fun t => right.gains_lower.still fun s => ?_
    exact (tracks_comparison Naming.steady_eq operator modifier options t.renamed_refl
      s.renamed_refl).gains
  | .compound .not [part] =>
    show Gains (part.assignments ++ []) _
    rw [List.append_nil]
    exact part.gains_lower.still fun _ => gains_pure _
  | .compound .not [] | .compound .not (_ :: _ :: _) => exact gains_throw _
  | .compound .and parts | .compound .or parts => exact Predicate.gains_lowerJoined _ parts

theorem Predicate.gains_lowerJoined (op : BinaryOp) (ps : List Predicate) :
    Gains (Predicate.assignmentsAll ps) (Predicate.lowerJoined op ps) := by
  match ps with
  | [] => exact gains_pure _
  | [part] =>
    show Gains (part.assignments ++ []) _
    rw [List.append_nil]
    exact part.gains_lower
  | part :: next :: rest =>
    exact part.gains_lower.bind fun _ =>
      (Predicate.gains_lowerJoined op (next :: rest)).still fun _ => gains_pure _

end

/-! ## Failures -/

/-- The scope after a failure of a tree with these assignments is the one before it, but that some
of the assigned variables, the first few, stand for themselves. Any other variable that was not in
scope is not in scope after it. -/
def Scope.LeftBy (assignments : List String) (scope after : Scope) : Prop :=
  ∃ vars : List (String × Kind), vars.map Prod.fst <+: assignments
    ∧ after.bindings = bindAll vars scope.bindings
    ∧ ∀ name, scope.bindings.find? (variableKey name) = none → name ∉ vars.map Prod.fst →
      ∀ settings, (Expr.var name).lower settings after = .error (.unboundVariable name) after

theorem Lowering.Gains.leftBy {α : Type} {names : List String} {step : Lowering α}
    (h : Gains names step) {settings : Settings} {scope after : Scope} {error : Error}
    (failed : step settings scope = .error error after) : scope.LeftBy names after := by
  have gained := h settings scope
  rw [failed] at gained
  cases gained with
  | error vars some bindings =>
    refine ⟨vars, some, bindings, fun name unbound other settings => ?_⟩
    have ne : ∀ var ∈ vars, Scope.variableKey name ≠ Scope.variableKey var.1 := by
      intro var mem key
      rw [Scope.variableKey_injective key] at other
      exact other (List.mem_map_of_mem mem)
    apply (bound_run (Scope.variableKey name) (.unboundVariable name) settings after).trans
    rw [bindings, Scope.find?_bindAll_of_ne ne, unbound]
    rfl

/-- A tree that cannot be lowered leaves nothing in scope but the variables of some of its
assignments, those before the failure and outside of subqueries. If it has none, then the bindings
are what they were. Any other variable that is not in scope is reported when it is lowered later. -/
theorem bindings_of_failure (settings : Settings) (scope after : Scope) (error : Error) :
    (∀ e : Expr, e.lower settings scope = .error error after →
      scope.LeftBy e.assignments after
        ∧ (e.assignments = [] → after.bindings = scope.bindings))
      ∧ ∀ p : Predicate, p.lower settings scope = .error error after →
        scope.LeftBy p.assignments after
          ∧ (p.assignments = [] → after.bindings = scope.bindings) := by
  have same {names : List String} (left : scope.LeftBy names after) (none : names = []) :
      after.bindings = scope.bindings := by
    obtain ⟨vars, some, bindings, -⟩ := left
    rw [none, List.prefix_nil, List.map_eq_nil_iff] at some
    rw [bindings, some]
    rfl
  constructor
  · intro e failed
    have left := e.gains_lower.leftBy failed
    exact ⟨left, same left⟩
  · intro p failed
    have left := p.gains_lower.leftBy failed
    exact ⟨left, same left⟩

/-- In `($a := 1) == $b AND ($c := 2) == 2` only the first assignment has been lowered before the
failure. -/
theorem bindings_of_failure_first :
    ∃ after, (Predicate.compound .and
        [.comparison (.assign "a" (.constant (.int 1))) .equal (.var "b") .direct .none,
          .comparison (.assign "c" (.constant (.int 2))) .equal (.constant (.int 2)) .direct
            .none]).lower (.ofDialect .objects) (.root .any (.ofDialect .objects))
        = .error (.unboundVariable "b") after
      ∧ (Scope.root .any (.ofDialect .objects)).LeftBy ["a", "c"] after := by
  have failed : ∃ after, (Predicate.compound .and
      [.comparison (.assign "a" (.constant (.int 1))) .equal (.var "b") .direct .none,
        .comparison (.assign "c" (.constant (.int 2))) .equal (.constant (.int 2)) .direct
          .none]).lower (.ofDialect .objects) (.root .any (.ofDialect .objects))
      = .error (.unboundVariable "b") after := ⟨_, rfl⟩
  obtain ⟨after, failed⟩ := failed
  exact ⟨after, failed, ((bindings_of_failure _ _ _ _).2 _ failed).1⟩

/-- The variable that `($a := 1) == $b` assigns stays in scope after the failure, so that it is
lowered later. -/
theorem bindings_change_on_failure :
    ∃ after, (Predicate.comparison (.assign "a" (.constant (.int 1))) .equal (.var "b") .direct
        .none).lower (.ofDialect .objects) (.root .any (.ofDialect .objects))
        = .error (.unboundVariable "b") after
      ∧ after.bindings ≠ (Scope.root .any (.ofDialect .objects)).bindings
      ∧ ∃ t last, (Expr.var "a").lower (.ofDialect .objects) after = .ok t last := by
  refine ⟨_, rfl, ?_, _, _, rfl⟩
  intro same
  have lengths := congrArg List.length same
  cases lengths

end PredicateLang
