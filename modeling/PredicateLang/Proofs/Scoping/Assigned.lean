import PredicateLang.Proofs.Result
import PredicateLang.Proofs.Scoping.Bindings

/-!
# What lowering leaves in scope

A tree that can be lowered leaves the scope as it was, but for the variables that are assigned in it
outside of subqueries. Each of them stands for itself afterwards, with the kind of the value that is
assigned to it last.

`Expr.assigned` and `Predicate.assigned` list these variables with the kinds of their values, in the
order of lowering. What a value is lowered to depends on what has been assigned before it, so that
the lists are those of a tree in a scope.
-/

namespace PredicateLang

/-! ## Assignments with kinds -/

/-- The scope after a step, whatever comes of it. -/
def Lowering.scopeAfter {α : Type} (step : Lowering α) (settings : Settings) (scope : Scope) :
    Scope :=
  match step settings scope with
  | .ok _ after | .error _ after => after

/-- The kind of what the expression is lowered to in the scope; any, if it cannot be lowered. -/
def Expr.kindIn (e : Expr) (settings : Settings) (scope : Scope) : Kind :=
  match e.lower settings scope with
  | .ok t _ => t.kind
  | .error _ _ => .any

section

variable (settings : Settings)

mutual

/-- The variables that the expression assigns outside of subqueries, with the kinds of their values,
in the order of lowering. -/
def Expr.assigned (scope : Scope) : Expr → List (String × Kind)
  | .pathOn operand _ => operand.assigned scope
  | .call _ args | .list args => Expr.assignedAll scope args
  | .assign var value => value.assigned scope ++ [(var, value.kindIn settings scope)]
  | _ => []

/-- The variables that the expressions assign, with the kinds of their values, those of the first
one first. -/
def Expr.assignedAll (scope : Scope) : List Expr → List (String × Kind)
  | [] => []
  | e :: rest => e.assigned scope ++ Expr.assignedAll (e.lower.scopeAfter settings scope) rest

/-- The variables that the predicate assigns outside of subqueries, with the kinds of their values,
in the order of lowering. -/
def Predicate.assigned (scope : Scope) : Predicate → List (String × Kind)
  | .constant _ => []
  | .comparison left _ right _ _ =>
    left.assigned scope ++ right.assigned (left.lower.scopeAfter settings scope)
  | .compound _ parts => Predicate.assignedAll scope parts

/-- The variables that the predicates assign, with the kinds of their values, those of the first one
first. -/
def Predicate.assignedAll (scope : Scope) : List Predicate → List (String × Kind)
  | [] => []
  | p :: rest => p.assigned scope ++ Predicate.assignedAll (p.lower.scopeAfter settings scope) rest

end

end

section

variable (settings : Settings)

mutual

/-- They are the variables that the expression assigns. -/
theorem Expr.fst_assigned (scope : Scope) (e : Expr) :
    (e.assigned settings scope).map Prod.fst = e.assignments := by
  match e with
  | .pathOn operand _ => exact operand.fst_assigned scope
  | .call _ args | .list args => exact Expr.fst_assignedAll scope args
  | .assign var value =>
    rw [Expr.assigned, List.map_append, value.fst_assigned scope]
    rfl
  | .constant _ | .self | .var _ | .path _ | .subquery .. | .symbol _ => rfl

theorem Expr.fst_assignedAll (scope : Scope) (es : List Expr) :
    (Expr.assignedAll settings scope es).map Prod.fst = Expr.assignmentsAll es := by
  match es with
  | [] => rfl
  | e :: rest =>
    rw [Expr.assignedAll, List.map_append, e.fst_assigned scope, Expr.fst_assignedAll _ rest]
    rfl

/-- They are the variables that the predicate assigns. -/
theorem Predicate.fst_assigned (scope : Scope) (p : Predicate) :
    (p.assigned settings scope).map Prod.fst = p.assignments := by
  match p with
  | .constant _ => rfl
  | .comparison left _ right _ _ =>
    rw [Predicate.assigned, List.map_append, left.fst_assigned, right.fst_assigned]
    rfl
  | .compound _ parts => exact Predicate.fst_assignedAll scope parts

theorem Predicate.fst_assignedAll (scope : Scope) (ps : List Predicate) :
    (Predicate.assignedAll settings scope ps).map Prod.fst = Predicate.assignmentsAll ps := by
  match ps with
  | [] => rfl
  | p :: rest =>
    rw [Predicate.assignedAll, List.map_append, p.fst_assigned, Predicate.fst_assignedAll _ rest]
    rfl

end

end

/-! ## Steps that succeed -/

namespace Lowering

variable {α β : Type} {settings : Settings} {scope : Scope} {vars others : List (String × Kind)}
  {step : Lowering α}

/-- If the step succeeds in the scope, then it has brought the variables into it, with their kinds
and in that order. -/
def Binds (settings : Settings) (scope : Scope) (vars : List (String × Kind)) (step : Lowering α) :
    Prop :=
  ∀ a after, step settings scope = .ok a after → after.bindings = Scope.bindAll vars scope.bindings

theorem scopeAfter_of_ok {a : α} {after : Scope} (run : step settings scope = .ok a after) :
    step.scopeAfter settings scope = after := by
  rw [scopeAfter, run]

theorem binds_pure (a : α) : Binds settings scope [] (pure a) := by
  intro b after run
  cases run
  rfl

theorem binds_throw (e : Error) : Binds settings scope vars (throw e : Lowering α) :=
  fun _ _ run => nomatch run

/-- A step that brings nothing into scope, whether it succeeds or not. -/
theorem Gains.binds {names : List String} (h : Gains names step) (none : names = []) :
    Binds settings scope [] step := by
  intro a after run
  have gained := h settings scope
  rw [run] at gained
  cases gained with
  | ok brought all bindings =>
    rw [List.map_eq_nil_iff.mp (all.trans none)] at bindings
    exact bindings

theorem Binds.bind {next : α → Lowering β} (h : Binds settings scope vars step)
    (h' : ∀ a, step settings scope = .ok a (step.scopeAfter settings scope) →
      Binds settings (step.scopeAfter settings scope) others (next a)) :
    Binds settings scope (vars ++ others) (step >>= next) := by
  intro b after run
  obtain ⟨a, between, first, second⟩ := exists_of_run_bind run
  rw [Scope.bindAll_append, ← h a between first]
  obtain rfl := scopeAfter_of_ok first
  exact h' a first b after second

/-- What follows brings nothing more into scope. -/
theorem Binds.still {next : α → Lowering β} (h : Binds settings scope vars step)
    (h' : ∀ a, Gains [] (next a)) : Binds settings scope vars (step >>= next) := by
  have both := h.bind fun a _ => (h' a).binds rfl
  rwa [List.append_nil] at both

/-- A step that only may fail leaves the scope for the next one. -/
theorem binds_check (check : ∃ made, step = ofResult made) {next : α → Lowering β}
    (h : ∀ a, Binds settings scope vars (next a)) :
    Binds settings scope vars (step >>= next) := by
  obtain ⟨made, rfl⟩ := check
  cases made with
  | ok a => exact h a
  | error e => exact binds_throw e

theorem exists_function (selector : String) (arity : Nat) :
    ∃ made, function selector arity = ofResult made := by
  unfold function
  split
  · exact ⟨.error _, rfl⟩
  · split
    · exact ⟨.ok _, rfl⟩
    · exact ⟨.error _, rfl⟩

theorem exists_elementOf (operation : String) (wanted : Demand) (source : Target) :
    ∃ made, elementOf operation wanted source = ofResult made := by
  unfold elementOf
  split
  · exact ⟨.ok _, rfl⟩
  · exact ⟨.error _, rfl⟩

end Lowering

/-! ## Trees -/

open Lowering

section

variable (settings : Settings)

mutual

/-- Lowering an expression brings the variables into scope that it assigns. -/
theorem Expr.binds_lower (scope : Scope) (e : Expr) :
    Binds settings scope (e.assigned settings scope) e.lower := by
  match e with
  | .constant _ | .self | .var _ | .path _ | .subquery .. | .symbol _ =>
    exact (Expr.gains_lower _).binds rfl
  | .pathOn operand keys =>
    exact (operand.binds_lower scope).still fun t =>
      (tracks_keyPath Naming.steady_eq keys t.renamed_refl).gains
  | .call selector args =>
    refine binds_check (exists_function selector args.length) fun f => ?_
    split
    · exact Expr.binds_lowerIndex scope args
    · exact (Expr.binds_lowerAll scope args).still fun ts =>
        (tracks_call Naming.steady_eq f (Target.allRenamed_refl ts)).gains
  | .list items =>
    exact (Expr.binds_lowerAll scope items).still fun ts =>
      (tracks_list (Target.allRenamed_refl ts)).gains
  | .assign var value =>
    refine (value.binds_lower scope).bind fun t run => ?_
    rw [Expr.kindIn, run]
    intro u after run
    cases run
    rfl

theorem Expr.binds_lowerIndex (scope : Scope) (args : List Expr) :
    Binds settings scope (Expr.assignedAll settings scope args) (Expr.lowerIndex args) := by
  match args with
  | [] | [_] => exact binds_throw _
  | _ :: _ :: _ :: rest =>
    rw [Expr.lowerIndex_of_length (by simp)]
    exact binds_throw _
  | [collection, place] =>
    have element (t : Target) := exists_elementOf Expr.indexSelector .collection t
    by_cases word : ∃ symbol, place = .symbol symbol
    · obtain ⟨symbol, rfl⟩ := word
      refine (collection.binds_lower scope).bind fun t _ => binds_check (element t) fun kind => ?_
      exact (tracks_indexBySymbol Naming.steady_eq kind symbol t.renamed_refl).gains.binds rfl
    · rw [not_exists] at word
      rw [Expr.lowerIndex_of_not_symbol _ word]
      refine (collection.binds_lower scope).bind fun t _ => binds_check (element t) fun kind => ?_
      show Binds settings _ (place.assigned settings _ ++ []) _
      rw [List.append_nil]
      exact (place.binds_lower _).still fun s =>
        (tracks_indexBy Naming.steady_eq kind t.renamed_refl s.renamed_refl).gains

theorem Expr.binds_lowerAll (scope : Scope) (es : List Expr) :
    Binds settings scope (Expr.assignedAll settings scope es) (Expr.lowerAll es) := by
  match es with
  | [] => exact binds_pure _
  | e :: rest =>
    exact (e.binds_lower scope).bind fun _ _ =>
      (Expr.binds_lowerAll _ rest).still fun _ => gains_pure _

/-- Lowering a predicate brings the variables into scope that it assigns. -/
theorem Predicate.binds_lower (scope : Scope) (p : Predicate) :
    Binds settings scope (p.assigned settings scope) p.lower := by
  match p with
  | .constant value => exact binds_pure _
  | .comparison left operator right modifier options =>
    refine (left.binds_lower scope).bind fun t _ => (right.binds_lower _).still fun s => ?_
    exact (tracks_comparison Naming.steady_eq operator modifier options t.renamed_refl
      s.renamed_refl).gains
  | .compound .not [part] =>
    show Binds settings scope (part.assigned settings scope ++ []) _
    rw [List.append_nil]
    exact (part.binds_lower scope).still fun _ => gains_pure _
  | .compound .not [] | .compound .not (_ :: _ :: _) => exact binds_throw _
  | .compound .and parts | .compound .or parts => exact Predicate.binds_lowerJoined scope _ parts

theorem Predicate.binds_lowerJoined (scope : Scope) (op : BinaryOp) (ps : List Predicate) :
    Binds settings scope (Predicate.assignedAll settings scope ps)
      (Predicate.lowerJoined op ps) := by
  match ps with
  | [] => exact binds_pure _
  | [part] =>
    show Binds settings scope (part.assigned settings scope ++ []) _
    rw [List.append_nil]
    exact part.binds_lower scope
  | part :: next :: rest =>
    exact (part.binds_lower scope).bind fun _ _ =>
      (Predicate.binds_lowerJoined _ op (next :: rest)).still fun _ => gains_pure _

end

end

/-! ## Scopes -/

theorem Fields.exists_find? {α : Type} {fields : Fields α} {name : String}
    (mem : name ∈ fields.names) : ∃ a, fields.find? name = some a := by
  induction fields with
  | nil => cases mem
  | cons entry rest ih =>
    rw [Fields.find?]
    split
    · exact ⟨_, rfl⟩
    · rename_i ne
      exact ih ((List.mem_cons.mp mem).resolve_left (Ne.symm ne))

namespace Scope

/-- The kind that a variable has last in the list. -/
def lastKind? (vars : List (String × Kind)) (name : String) : Option Kind :=
  Fields.find? vars.reverse name

variable {vars : List (String × Kind)} {name : String}

theorem exists_lastKind? (mem : name ∈ vars.map Prod.fst) :
    ∃ kind, lastKind? vars name = some kind := by
  apply Fields.exists_find?
  rw [Fields.names, List.map_reverse, List.mem_reverse]
  exact mem

/-- The last of the bindings of a variable counts. -/
theorem find?_bindAll_of_lastKind? {kind : Kind} (last : lastKind? vars name = some kind)
    (bindings : Fields Target) :
    (bindAll vars bindings).find? (variableKey name) = some (.parameter kind (variableKey name)) := by
  induction vars using List.reverseRecOn with
  | nil => cases last
  | append_singleton vars var ih =>
    rw [lastKind?, List.reverse_concat, Fields.find?] at last
    rw [bindAll_append]
    show Fields.find? (Fields.insert (variableKey var.1) _ (bindAll vars bindings)) _ = _
    split at last
    · rename_i same
      cases last
      rw [same, Fields.find?_insert_self]
    · rename_i ne
      rw [Fields.find?_insert_of_ne _ _ fun key => ne (variableKey_injective key)]
      exact ih last

/-- The second scope is the first one but for the named variables, each of which stands for itself,
with the kind that it has last in the list. -/
structure Extended (names : List String) (vars : List (String × Kind)) (scope after : Scope) :
    Prop where
  listed : vars.map Prod.fst = names
  assigned : ∀ name ∈ names, ∃ kind, lastKind? vars name = some kind
    ∧ after.bindings.find? (variableKey name) = some (.parameter kind (variableKey name))
  others : ∀ key, (∀ name ∈ names, key ≠ variableKey name) →
    after.bindings.find? key = scope.bindings.find? key
  object : after.bindings.find? objectName = scope.bindings.find? objectName

end Scope

theorem Lowering.Binds.extended {α : Type} {settings : Settings} {scope after : Scope}
    {vars : List (String × Kind)} {names : List String} {step : Lowering α} {a : α}
    (h : Binds settings scope vars step) (listed : vars.map Prod.fst = names)
    (run : step settings scope = .ok a after) : scope.Extended names vars after := by
  have bindings := h a after run
  have others (key : String) (ne : ∀ name ∈ names, key ≠ Scope.variableKey name) :
      after.bindings.find? key = scope.bindings.find? key := by
    rw [bindings]
    refine Scope.find?_bindAll_of_ne fun var mem => ne var.1 ?_
    exact listed ▸ List.mem_map_of_mem mem
  refine ⟨listed, fun name mem => ?_, others, others _ fun name _ => ?_⟩
  · obtain ⟨kind, last⟩ := Scope.exists_lastKind? (listed ▸ mem)
    exact ⟨kind, last, bindings ▸ Scope.find?_bindAll_of_lastKind? last _⟩
  · exact Scope.objectName_ne_variableKey name

/-- A tree that can be lowered leaves in scope what was in scope, and the variables that it assigns
outside of subqueries. Each of these stands for itself, with the kind of the value that is assigned
to it last in the order of lowering. -/
theorem bindings_of_success (settings : Settings) (scope after : Scope) (t : Target) :
    (∀ e : Expr, e.lower settings scope = .ok t after →
      scope.Extended e.assignments (e.assigned settings scope) after)
      ∧ ∀ p : Predicate, p.lower settings scope = .ok t after →
        scope.Extended p.assignments (p.assigned settings scope) after :=
  ⟨fun e run => (e.binds_lower settings scope).extended (e.fst_assigned settings scope) run,
    fun p run => (p.binds_lower settings scope).extended (p.fst_assigned settings scope) run⟩

/-- In `($a := 1) == 1 AND SUBQUERY({1}, $b, ($c := $b) == 1) == NULL AND ($a := 'x') == 'x'` a
number is assigned first and a string last. What goes on in the subquery is not seen outside. -/
theorem bindings_of_success_twice :
    ∃ t after, (Predicate.compound .and
        [.comparison (.assign "a" (.constant (.int 1))) .equal (.constant (.int 1)) .direct .none,
          .comparison (.subquery (.list [.constant (.int 1)]) "b"
              (.comparison (.assign "c" (.var "b")) .equal (.constant (.int 1)) .direct .none))
            .equal (.constant .null) .direct .none,
          .comparison (.assign "a" (.constant (.string "x"))) .equal (.constant (.string "x"))
            .direct .none]).lower (.ofDialect .objects) (.root .any (.ofDialect .objects))
        = .ok t after
      ∧ after.bindings.find? "$a" = some (.parameter .string "$a")
      ∧ after.bindings.find? "$b" = none ∧ after.bindings.find? "$c" = none := by
  have lowered : ∃ t after, (Predicate.compound .and
      [.comparison (.assign "a" (.constant (.int 1))) .equal (.constant (.int 1)) .direct .none,
        .comparison (.subquery (.list [.constant (.int 1)]) "b"
            (.comparison (.assign "c" (.var "b")) .equal (.constant (.int 1)) .direct .none))
          .equal (.constant .null) .direct .none,
        .comparison (.assign "a" (.constant (.string "x"))) .equal (.constant (.string "x"))
          .direct .none]).lower (.ofDialect .objects) (.root .any (.ofDialect .objects))
      = .ok t after := ⟨_, _, rfl⟩
  obtain ⟨t, after, lowered⟩ := lowered
  have extended := (bindings_of_success _ _ _ _).2 _ lowered
  obtain ⟨kind, last, bound⟩ := extended.assigned "a" (.head _)
  cases last
  exact ⟨t, after, lowered, bound, extended.others "$b" (by decide),
    extended.others "$c" (by decide)⟩

end PredicateLang
