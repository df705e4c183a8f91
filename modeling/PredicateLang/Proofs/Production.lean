import Mathlib.Data.List.Induction
import PredicateLang.Expr.Builder
import PredicateLang.Proofs.Result

/-!
# What a production takes and makes

A production finds the operands it needs on top of the stack, the last one topmost, and leaves
what is below them alone. `Production.takes` names the sorts of these operands and
`Production.make` says what becomes of them; `Production.apply_run` is the one place where the
stack is opened. Everything later speaks of `Production.Makes`: the operand that a production puts
in the place of operands, on whatever stack it is applied.
-/

namespace PredicateLang

/-! ## Sorts of operands -/

/-- Expressions and predicates are told apart on the stack. -/
inductive OperandSort where
  | expr | predicate
deriving DecidableEq, Repr

namespace Operand

/-- The sort of an operand. -/
def sort : Operand → OperandSort
  | expr _ => .expr
  | predicate _ => .predicate

@[simp] theorem sort_expr (e : Expr) : (expr e).sort = .expr := rfl

@[simp] theorem sort_predicate (p : Predicate) : (predicate p).sort = .predicate := rfl

theorem sort_eq_expr {o : Operand} : o.sort = .expr ↔ ∃ e, o = .expr e := by
  cases o <;> simp [sort]

theorem sort_eq_predicate {o : Operand} : o.sort = .predicate ↔ ∃ p, o = .predicate p := by
  cases o <;> simp [sort]

theorem eq_map_expr {operands : List Operand} {n : Nat}
    (h : operands.map sort = List.replicate n .expr) :
    ∃ es : List Expr, es.length = n ∧ operands = es.map expr := by
  induction operands generalizing n with
  | nil => exact ⟨[], by cases n <;> simp_all, rfl⟩
  | cons o rest ih =>
    obtain _ | n := n
    · simp at h
    · rw [List.map_cons, List.replicate_succ, List.cons.injEq] at h
      obtain ⟨e, rfl⟩ := sort_eq_expr.mp h.1
      obtain ⟨es, hn, rfl⟩ := ih h.2
      exact ⟨e :: es, by simp [hn], rfl⟩

theorem eq_map_predicate {operands : List Operand} {n : Nat}
    (h : operands.map sort = List.replicate n .predicate) :
    ∃ ps : List Predicate, ps.length = n ∧ operands = ps.map predicate := by
  induction operands generalizing n with
  | nil => exact ⟨[], by cases n <;> simp_all, rfl⟩
  | cons o rest ih =>
    obtain _ | n := n
    · simp at h
    · rw [List.map_cons, List.replicate_succ, List.cons.injEq] at h
      obtain ⟨p, rfl⟩ := sort_eq_predicate.mp h.1
      obtain ⟨ps, hn, rfl⟩ := ih h.2
      exact ⟨p :: ps, by simp [hn], rfl⟩

theorem eq_one_expr {operands : List Operand} (h : operands.map sort = [.expr]) :
    ∃ e, operands = [.expr e] := by
  obtain ⟨es, hn, rfl⟩ := eq_map_expr (n := 1) h
  obtain ⟨e, rfl⟩ := List.length_eq_one_iff.mp hn
  exact ⟨e, rfl⟩

theorem eq_two_exprs {operands : List Operand} (h : operands.map sort = [.expr, .expr]) :
    ∃ left right, operands = [.expr left, .expr right] := by
  obtain ⟨es, hn, rfl⟩ := eq_map_expr (n := 2) h
  match es, hn with
  | [left, right], _ => exact ⟨left, right, rfl⟩

theorem eq_one_predicate {operands : List Operand} (h : operands.map sort = [.predicate]) :
    ∃ p, operands = [.predicate p] := by
  obtain ⟨ps, hn, rfl⟩ := eq_map_predicate (n := 1) h
  obtain ⟨p, rfl⟩ := List.length_eq_one_iff.mp hn
  exact ⟨p, rfl⟩

theorem eq_expr_predicate {operands : List Operand} (h : operands.map sort = [.expr, .predicate]) :
    ∃ e p, operands = [.expr e, .predicate p] := by
  match operands, h with
  | [.expr e, .predicate p], _ => exact ⟨e, p, rfl⟩

end Operand

/-! ## Taking operands from a stack -/

namespace Building

@[simp] theorem run_push (operand : Operand) (stack : Stack) :
    (push operand).run stack = .ok () (operand :: stack) := rfl

@[simp] theorem run_popExpr (position : Nat) (e : Expr) (stack : Stack) :
    (popExpr position).run (.expr e :: stack) = .ok e stack := rfl

@[simp] theorem run_popPredicate (position : Nat) (p : Predicate) (stack : Stack) :
    (popPredicate position).run (.predicate p :: stack) = .ok p stack := rfl

theorem run_popExprs (position : Nat) (es taken : List Expr) (stack : Stack) :
    (popExprs position es.length taken).run ((es.map Operand.expr).reverse ++ stack)
      = .ok (es ++ taken) stack := by
  induction es using List.reverseRecOn generalizing taken stack with
  | nil => rfl
  | append_singleton es e ih =>
    have step : (popExprs position (es.length + 1) taken).run
        (.expr e :: ((es.map Operand.expr).reverse ++ stack))
          = (popExprs position es.length (e :: taken)).run
              ((es.map Operand.expr).reverse ++ stack) := rfl
    simpa using step.trans (ih (e :: taken) stack)

theorem run_popPredicates (position : Nat) (ps taken : List Predicate) (stack : Stack) :
    (popPredicates position ps.length taken).run ((ps.map Operand.predicate).reverse ++ stack)
      = .ok (ps ++ taken) stack := by
  induction ps using List.reverseRecOn generalizing taken stack with
  | nil => rfl
  | append_singleton ps p ih =>
    have step : (popPredicates position (ps.length + 1) taken).run
        (.predicate p :: ((ps.map Operand.predicate).reverse ++ stack))
          = (popPredicates position ps.length (p :: taken)).run
              ((ps.map Operand.predicate).reverse ++ stack) := rfl
    simpa using step.trans (ih (p :: taken) stack)

/-- What follows a step that succeeds starts from the stack that the step leaves. -/
theorem run_bind_ok {α β : Type} {step : Building α} {next : α → Building β} {stack after : Stack}
    {result : α} (h : step.run stack = .ok result after) :
    (step >>= next).run stack = (next result).run after := by
  simp only [EStateM.run] at h
  simp only [EStateM.run, bind, EStateM.bind, h]

end Building

/-! ## Productions -/

namespace Production

open Building

/-- The sorts of the operands that a production takes, the topmost last. -/
def takes : Production → List OperandSort
  | literal _ | placeholder _ | self | var _ | path _ | symbol _ | predicateConstant _ => []
  | dot | index | arithmetic _ | assignment | comparison .. => [.expr, .expr]
  | list n | call _ n | functionForm n => List.replicate n .expr
  | subquery _ => [.expr, .predicate]
  | negate | expressionPredicate => [.expr]
  | quantified _ | not => [.predicate]
  | and n | or n => List.replicate n .predicate

/-- The sort of the operand that a production makes. -/
def gives : Production → OperandSort
  | literal _ | placeholder _ | self | var _ | path _ | symbol _ | dot | index | list _ | call ..
  | functionForm _ | subquery _ | arithmetic _ | negate | assignment => .expr
  | comparison .. | quantified _ | predicateConstant _ | expressionPredicate | and _ | or _
  | not => .predicate

end Production

namespace Operand

/-- The expressions among operands. -/
def exprs (operands : List Operand) : List Expr :=
  operands.filterMap fun | expr e => some e | predicate _ => none

/-- The predicates among operands. -/
def predicates (operands : List Operand) : List Predicate :=
  operands.filterMap fun | expr _ => none | predicate p => some p

@[simp] theorem exprs_map (es : List Expr) : exprs (es.map expr) = es := by
  induction es with
  | nil => rfl
  | cons e es ih => simp_all [exprs]

@[simp] theorem predicates_map (ps : List Predicate) : predicates (ps.map predicate) = ps := by
  induction ps with
  | nil => rfl
  | cons p ps ih => simp_all [predicates]

end Operand

namespace Production

open Building

/-- What a production makes of the operands that it takes. -/
def make (arguments : Arguments) (position : Nat) :
    Production → List Operand → Except SyntaxError Operand
  | literal value, _ => .ok (.expr (.constant value))
  | placeholder conversion, _ => (arguments.placeholder position conversion).map .expr
  | self, _ => .ok (.expr .self)
  | var name, _ => .ok (.expr (.var name))
  | path segment, _ => .ok (.expr (.path segment))
  | symbol place, _ => .ok (.expr (.symbol place))
  | dot, [.expr left, .expr right] => (Expr.dot position left right).map .expr
  | index, [.expr collection, .expr place] => .ok (.expr (.index collection place))
  | list _, operands => .ok (.expr (.list (Operand.exprs operands)))
  | call name _, operands => .ok (.expr (Expr.callByName name (Operand.exprs operands)))
  | functionForm _, operands =>
    (Expr.functionForm position (Operand.exprs operands)).map .expr
  | subquery name, [.expr collection, .predicate p] =>
    .ok (.expr (.subquery collection (Expr.withoutDollar name) p))
  | arithmetic sign, [.expr left, .expr right] => .ok (.expr (.call sign.selector [left, right]))
  | negate, [.expr operand] => .ok (.expr operand.negate)
  | assignment, [.expr (.var name), .expr value] =>
    .ok (.expr (.assign (Expr.withoutDollar name) value))
  | assignment, [.expr target, .expr _] => .error ⟨position, .notAssignable target⟩
  | comparison operator options, [.expr left, .expr right] =>
    .ok (.predicate (.comparison left operator right .direct options))
  | quantified word, [.predicate p] => (p.quantify position word).map .predicate
  | predicateConstant value, _ => .ok (.predicate (.constant value))
  | expressionPredicate, [.expr (.constant (.boolean value))] =>
    .ok (.predicate (.constant value))
  | expressionPredicate, [.expr e] => .error ⟨position, .comparisonWanted e⟩
  | and _, operands => .ok (.predicate (.compound .and (Operand.predicates operands)))
  | or _, operands => .ok (.predicate (.compound .or (Operand.predicates operands)))
  | not, [.predicate p] => .ok (.predicate (.compound .not [p]))
  | _, _ => .error ⟨position, .missingOperand⟩

/-- Putting an expression that may be missing on a stack. -/
theorem run_pushExpr (made : Except SyntaxError Expr) (stack : Stack) :
    (pushExpr made).run stack
      = match made.map Operand.expr with
        | .ok operand => .ok () (operand :: stack)
        | .error error => .error error stack := by
  cases made <;> rfl

/-- The stack under a production: it takes the operands on top, and whether or not it makes
something of them, what is below stays. -/
theorem apply_run {arguments : Arguments} {position : Nat} {production : Production}
    {operands : List Operand} (h : operands.map Operand.sort = production.takes) (below : Stack) :
    (production.apply arguments position).run (operands.reverse ++ below)
      = match production.make arguments position operands with
        | .ok operand => .ok () (operand :: below)
        | .error error => .error error below := by
  cases production with
  | literal | self | var | path | symbol | predicateConstant =>
    obtain rfl : operands = [] := by simpa [takes] using h
    rfl
  | placeholder conversion =>
    obtain rfl : operands = [] := by simpa [takes] using h
    exact run_pushExpr _ below
  | list count =>
    obtain ⟨es, rfl, rfl⟩ := Operand.eq_map_expr h
    rw [apply, run_bind_ok (run_popExprs position es [] below)]
    simp [make]
  | call name arity =>
    obtain ⟨es, rfl, rfl⟩ := Operand.eq_map_expr h
    rw [apply, run_bind_ok (run_popExprs position es [] below)]
    simp [make]
  | functionForm arity =>
    obtain ⟨es, rfl, rfl⟩ := Operand.eq_map_expr h
    rw [apply, run_bind_ok (run_popExprs position es [] below), run_pushExpr]
    simp [make]
  | and count =>
    obtain ⟨ps, rfl, rfl⟩ := Operand.eq_map_predicate h
    rw [apply, run_bind_ok (run_popPredicates position ps [] below)]
    simp [make]
  | or count =>
    obtain ⟨ps, rfl, rfl⟩ := Operand.eq_map_predicate h
    rw [apply, run_bind_ok (run_popPredicates position ps [] below)]
    simp [make]
  | dot =>
    obtain ⟨left, right, rfl⟩ := Operand.eq_two_exprs h
    exact run_pushExpr _ below
  | index | arithmetic | comparison =>
    obtain ⟨left, right, rfl⟩ := Operand.eq_two_exprs h
    rfl
  | assignment =>
    obtain ⟨left, right, rfl⟩ := Operand.eq_two_exprs h
    cases left <;> rfl
  | subquery name =>
    obtain ⟨e, p, rfl⟩ := Operand.eq_expr_predicate h
    rfl
  | negate =>
    obtain ⟨e, rfl⟩ := Operand.eq_one_expr h
    rfl
  | expressionPredicate =>
    obtain ⟨e, rfl⟩ := Operand.eq_one_expr h
    cases e with
    | constant value => cases value <;> rfl
    | _ => rfl
  | quantified word =>
    obtain ⟨p, rfl⟩ := Operand.eq_one_predicate h
    rw [apply, List.reverse_singleton, List.singleton_append,
      run_bind_ok (run_popPredicate position p below), make]
    cases p.quantify position word <;> rfl
  | not =>
    obtain ⟨p, rfl⟩ := Operand.eq_one_predicate h
    rfl

/-- What a production makes is of the sort that it gives. -/
theorem sort_of_make {arguments : Arguments} {position : Nat} {production : Production}
    {operands : List Operand} {operand : Operand}
    (h : production.make arguments position operands = .ok operand) :
    operand.sort = production.gives := by
  unfold make at h
  split at h <;> first | cases h; rfl | cases h | obtain ⟨made, _, rfl⟩ := eq_ok_of_map h; rfl

/-! ## The operand in the place of others -/

/-- On every stack the production puts `operand` in the place of `operands`. -/
def Makes (arguments : Arguments) (position : Nat) (production : Production)
    (operands : List Operand) (operand : Operand) : Prop :=
  operands.map Operand.sort = production.takes ∧ ∀ below : Stack,
    (production.apply arguments position).run (operands.reverse ++ below)
      = .ok () (operand :: below)

variable {arguments : Arguments} {position : Nat} {production : Production}
  {operands : List Operand} {operand : Operand}

theorem makes_iff :
    Makes arguments position production operands operand
      ↔ operands.map Operand.sort = production.takes
        ∧ production.make arguments position operands = .ok operand := by
  refine and_congr_right fun sorts => ⟨fun run => ?_, fun made below => ?_⟩
  · have run := run []
    rw [apply_run sorts] at run
    cases made : production.make arguments position operands with
    | ok other => rw [made] at run; cases run; rfl
    | error error => rw [made] at run; cases run
  · rw [apply_run sorts, made]

/-- A production makes one operand of given ones. -/
theorem Makes.unique {other : Operand} (h : Makes arguments position production operands operand)
    (h' : Makes arguments position production operands other) : operand = other :=
  Except.ok.inj ((makes_iff.mp h).2.symm.trans (makes_iff.mp h').2)

theorem Makes.sort (h : Makes arguments position production operands operand) :
    operand.sort = production.gives := sort_of_make (makes_iff.mp h).2


end Production

end PredicateLang
