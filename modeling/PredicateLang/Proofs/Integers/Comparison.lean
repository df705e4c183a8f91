import PredicateLang.Proofs.ConstantFolding
import PredicateLang.Proofs.Integers.Operands

/-!
# Exact comparison of integers

Integers are compared as numbers, whatever their kinds. Where the kinds are known there may be no
answer, and it is known when: if the integer of the lower rank is none of the other kind, which
happens where one kind has a sign and the other has none. A comparison with such a constant does not
compile; with another operand it fails when it is evaluated.
-/

namespace PredicateLang

open Lowering

/-! ## Answers -/

/-- Does the relation that the operator asks for hold between two numbers? -/
def Operator.compares : Operator → Int → Int → Bool
  | .less, a, b => a < b
  | .lessEqual, a, b => a ≤ b
  | .greater, a, b => b < a
  | .greaterEqual, a, b => b ≤ a
  | .equal, a, b => a = b
  | .notEqual, a, b => a ≠ b
  | _, _, _ => false

/-- The integers are in the order of their numbers. -/
theorem Value.compare_integers (a b : Integer) :
    (Value.integer a).compare (.integer b) = some (Ord.compare a.val b.val) := by
  unfold compare
  rfl

theorem Value.looseEq_integers (a b : Integer) :
    (Value.integer a).looseEq (.integer b) = decide (a.val = b.val) := by
  unfold looseEq
  rw [compare_integers, Bool.eq_iff_iff]
  simp

/-- A relational operator is lowered to one that compares the numbers of integers. -/
theorem exists_relation_integers {op : Operator} (relational : op.isRelational) :
    ∃ o : BinaryOp, compare op = relate o ∧ o.isConnective = false
      ∧ ∀ (k : Kind) (a b : Integer), Evaluation.binary k o (.integer a) (.integer b)
        = .ok (.boolean (op.compares a.val b.val)) := by
  cases op <;> cases relational
  all_goals refine ⟨_, rfl, rfl, fun k a b => ?_⟩
  all_goals
    simp only [Evaluation.binary, Evaluation.comparison?, Value.compare_integers,
      Value.looseEq_integers, Operator.compares, Option.some.injEq, Std.compare_eq_lt,
      Std.compare_eq_gt, Std.compare_eq_iff_eq]
  case lessEqual => rw [← Bool.decide_or, decide_eq_decide.mpr Int.le_iff_lt_or_eq]
  case greaterEqual =>
    have same : decide (a.val = b.val) = decide (b.val = a.val) := decide_eq_decide.mpr eq_comm
    rw [same, ← Bool.decide_or, decide_eq_decide.mpr Int.le_iff_lt_or_eq]
  case notEqual => rw [← decide_not]

/-! ## Compiled comparisons -/

section

variable {x y : Expr} {kind : Kind} {settings : Settings} {object : Value} {world : World}
  {memory : Memory} {l r t : Target} {a b : Integer} {op : Operator} {o : BinaryOp} {scope : Scope}

/-- The truth of an operation that gives a truth value for the integers of the operands. -/
theorem Target.Give.result_evalTruth (give : l.Give r world memory a b)
    (strict : o.isConnective = false) {answer : Bool}
    (tells : Evaluation.binary .boolean o (.integer a) (.integer b) = .ok (.boolean answer)) :
    Evaluation.resultOf ((binary .boolean o l r).evalTruth world memory) = .ok answer := by
  obtain ⟨after, run⟩ := give.eval_binary .boolean strict
  rw [tells] at run
  unfold evalTruth
  rw [Evaluation.bind_run_of_ok run]
  rfl

theorem Target.GiveNone.result_evalTruth (none : l.GiveNone r world memory)
    (strict : o.isConnective = false) :
    ∃ e, Evaluation.resultOf ((binary .boolean o l r).evalTruth world memory) = .error e := by
  obtain ⟨e, after, run⟩ := none .boolean o strict
  unfold evalTruth
  rw [Evaluation.bind_run_of_error run]
  exact ⟨e, rfl⟩

/-- The operands of a comparison are made comparable when it is lowered. -/
theorem Operands.lower_comparison
    (operands : Operands x y kind settings object world memory l r a b)
    (lowered : compare op = relate o) : ∃ scope,
    (Predicate.comparison x op y .direct .none).lower settings (.root kind settings)
      = relate o l r settings scope := by
  obtain ⟨between, after, left, right⟩ := operands.lowered
  refine ⟨after, ?_⟩
  rw [Predicate.lower, bind_run_of_ok left, bind_run_of_ok right, comparison_direct rfl, lowered]

/-- A comparison whose operands are made comparable tells what the operation on them does. -/
theorem Predicate.exists_compile_of_relate {p : Predicate} {l' r' : Target}
    (run : p.lower settings (.root kind settings) = relate o l r settings scope)
    (made : l.makeComparable r = .ok (l', r')) :
    ∃ c, p.compile kind settings = .ok c ∧ ∀ object world memory,
      Evaluation.resultOf (c.test object world memory)
        = Evaluation.resultOf ((Target.binary .boolean o l' r').evalTruth world
          (Compiled.start object memory)) := by
  have lowered : relate o l r settings scope = .ok (.binary .boolean o l' r') scope := by
    unfold relate
    rw [made]
    rfl
  exact ⟨⟨.binary .boolean o l' r', settings.dialect⟩,
    compile_eq_ok.mpr ⟨rfl, scope, run.trans lowered⟩,
    fun object => Evaluation.resultOf_about object _⟩

theorem Predicate.compile_of_relate_error {p : Predicate} {e : Error}
    (run : p.lower settings (.root kind settings) = relate o l r settings scope)
    (made : l.makeComparable r = .error e) : p.compile kind settings = .error e := by
  have refused : relate o l r settings scope = .error e scope := by
    unfold relate
    rw [made]
    rfl
  unfold compile target runFor
  rw [run, refused]
  rfl

/-- A comparison of operands that give integers tells how their numbers compare, also where the kind
of an operand is not known. Where both kinds are known, the integer of the lower rank has to fit the
other kind: a comparison with a constant that does not is not compiled, and any other one fails. -/
theorem Predicate.test_integers (relational : op.isRelational)
    (operands : Operands x y kind settings object world memory l r a b) :
    ((l.kind.isDynamic ∨ r.kind.isDynamic
        ∨ (a.kind.higher b.kind).Fits (a.kind.ofLower b.kind a b).val) →
      ∃ c, (comparison x op y .direct .none).compile kind settings = .ok c
        ∧ Evaluation.resultOf (c.test object world memory) = .ok (op.compares a.val b.val))
    ∧ (l.kind.isDynamic = false → r.kind.isDynamic = false →
        ¬(a.kind.higher b.kind).Fits (a.kind.ofLower b.kind a b).val →
      ((a.kind.ofLower b.kind l r).constant?.isSome →
        ∃ e, (comparison x op y .direct .none).compile kind settings = .error e)
      ∧ ((a.kind.ofLower b.kind l r).constant? = none →
        ∃ c e, (comparison x op y .direct .none).compile kind settings = .ok c
          ∧ Evaluation.resultOf (c.test object world memory) = .error e)) := by
  obtain ⟨o, lowered, strict, tells⟩ := exists_relation_integers relational
  obtain ⟨scope, run⟩ := operands.lower_comparison lowered
  by_cases dynamic : l.kind.isDynamic ∨ r.kind.isDynamic
  · obtain ⟨c, compiled, test⟩ :=
      exists_compile_of_relate run (makeComparable_of_isDynamic dynamic)
    refine ⟨fun _ => ⟨c, compiled, ?_⟩, fun left right => ?_⟩
    · rw [test, operands.give.result_evalTruth strict (tells .boolean a b)]
    · simp [left, right] at dynamic
  · rw [not_or] at dynamic
    have brought := Target.brought_of_give (operands.kind_left.resolve_left dynamic.1)
      (operands.kind_right.resolve_left dynamic.2) operands.give
    -- The cast succeeds, is refused when it is lowered, or fails when it is evaluated.
    generalize made : l.makeComparable r = pair at brought
    cases brought with
    | fits fits own own' same val same' val' give =>
      obtain ⟨c, compiled, test⟩ := exists_compile_of_relate run made
      refine ⟨fun _ => ⟨c, compiled, ?_⟩, fun _ _ unfit => absurd fits unfit⟩
      rw [test, give.result_evalTruth strict (tells .boolean _ _), val, val']
    | refused unfit constant e =>
      refine ⟨fun fits => ?_, fun _ _ _ => ⟨fun _ => ⟨e, compile_of_relate_error run made⟩, ?_⟩⟩
      · simp [dynamic, unfit] at fits
      · intro computed
        rw [computed] at constant
        cases constant
    | fails unfit computed own none =>
      obtain ⟨c, compiled, test⟩ := exists_compile_of_relate run made
      obtain ⟨e, error⟩ := none.result_evalTruth strict
      refine ⟨fun fits => ?_, fun _ _ _ => ⟨fun constant => ?_, fun _ => ⟨c, e, compiled, ?_⟩⟩⟩
      · simp [dynamic, unfit] at fits
      · rw [computed] at constant
        cases constant
      · exact (test object world memory).trans error

/-- Minus one is less than five. If the kinds are known, of which the greater one has no sign, there
is no answer: to compare the property fails, and to compare the constant is not compiled. -/
theorem Predicate.test_integers_unfit :
    Operator.less.isRelational
    ∧ (∃ l r, Operands (.path "minus") (.constant (.integer .five)) .any (.ofDialect .objects)
        .integers ⟨⟨0, 0⟩, fun _ => 0⟩ .empty l r .minusOne .five ∧ l.kind = .any
      ∧ ∃ c, (comparison (.path "minus") .less (.constant (.integer .five)) .direct .none).compile
          .any (.ofDialect .objects) = .ok c
        ∧ Evaluation.resultOf (c.test .integers ⟨⟨0, 0⟩, fun _ => 0⟩ .empty) = .ok true)
    ∧ (∃ l r, Operands (.path "minus") (.path "five") (.ofValue .integers) (.ofDialect .objects)
        .integers ⟨⟨0, 0⟩, fun _ => 0⟩ .empty l r .minusOne .five ∧ l.constant? = none
      ∧ ∃ c e, (comparison (.path "minus") .less (.path "five") .direct .none).compile
          (.ofValue .integers) (.ofDialect .objects) = .ok c
        ∧ Evaluation.resultOf (c.test .integers ⟨⟨0, 0⟩, fun _ => 0⟩ .empty) = .error e)
    ∧ ∃ l r, Operands (.constant (.integer .minusOne)) (.path "five") (.ofValue .integers)
        (.ofDialect .objects) .integers ⟨⟨0, 0⟩, fun _ => 0⟩ .empty l r .minusOne .five
      ∧ l.constant?.isSome ∧ ∃ e, (comparison (.constant (.integer .minusOne)) .less
          (.path "five") .direct .none).compile (.ofValue .integers) (.ofDialect .objects)
        = .error e := by
  have relational : Operator.less.isRelational := rfl
  refine ⟨relational, ?unknown, ?property, ?constant⟩
  case unknown =>
    obtain ⟨l, r, operands, own, -⟩ := Operands.of_supplies Value.supplies_minus (.inl rfl)
      (Expr.supplies_constant .five) (.inr rfl)
    exact ⟨l, r, operands _ _, own,
      (test_integers relational (operands ⟨⟨0, 0⟩, fun _ => 0⟩ .empty)).1 (.inl (own ▸ rfl))⟩
  case property =>
    obtain ⟨l, r, operands, own, own', computed, -⟩ := Operands.of_supplies
      Value.supplies_minus_known (.inr rfl) Value.supplies_five_known (.inr rfl)
    have none : l.constant? = none := by simpa using computed
    exact ⟨l, r, operands _ _, none, ((test_integers relational (operands _ _)).2 (own ▸ rfl)
      (own' ▸ rfl) (by decide)).2 none⟩
  case constant =>
    obtain ⟨l, r, operands, own, own', constant, -⟩ := Operands.of_supplies
      (Expr.supplies_constant .minusOne) (.inr rfl) Value.supplies_five_known (.inr rfl)
    exact ⟨l, r, operands _ _, constant, ((test_integers relational (operands
      ⟨⟨0, 0⟩, fun _ => 0⟩ .empty)).2 (own ▸ rfl) (own' ▸ rfl) (by decide)).1 constant⟩

end

end PredicateLang
