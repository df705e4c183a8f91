import PredicateLang.Evaluation.Arithmetic
import PredicateLang.Operator

/-!
# Comparisons read from the other side

The order of values is the other way round when they are exchanged, and equality does not tell which
value stands on the left. So every comparison has a mirror image, another comparison that gives of the
exchanged operands what the one gives of the operands: "less" has "greater", and equality has itself.

Floating-point numbers are ordered by their parts: sign, exponent and mantissa.
-/

namespace PredicateLang

open Float.Model (UnpackedFloat)

/-- To be equal in an order is the same from both sides. -/
theorem map_swap_beq_eq (order? : Option Ordering) :
    (order?.map Ordering.swap == some .eq) = (order? == some .eq) := by
  cases order? with
  | none => rfl
  | some order => cases order <;> rfl

/-! ## Floating-point numbers -/

namespace Number

/-- Of two numbers that are not zero the exponents decide, and then the mantissas. -/
theorem compareMagnitudes_swap (e e' : Int) (m m' : Nat) :
    (compare e' e).then (compare m' m) = ((compare e e').then (compare m m')).swap := by
  rw [Ordering.swap_then, Int.compare_swap, Nat.compare_swap]

theorem compareParts_swap (p q : UnpackedFloat) :
    q.compare p = (p.compare q).map Ordering.swap := by
  match p, q with
  | .notANumber, q => cases q <;> rfl
  | .infinity s, .infinity s' => cases s <;> cases s' <;> rfl
  | .infinity s, .notANumber | .infinity s, .zero _ | .infinity s, .finite .. => cases s <;> rfl
  | .zero _, .infinity s | .zero _, .finite s .. => cases s <;> rfl
  | .zero _, .notANumber | .zero _, .zero _ => rfl
  | .finite s .., .notANumber | .finite s .., .zero _ => cases s <;> rfl
  | .finite s .., .infinity s' => cases s <;> cases s' <;> rfl
  | .finite .negative .., .finite .positive .. | .finite .positive .., .finite .negative .. => rfl
  | .finite .positive m e _, .finite .positive m' e' _ =>
    exact congrArg some (compareMagnitudes_swap e e' m m')
  | .finite .negative m e _, .finite .negative m' e' _ =>
    exact congrArg (fun order => some order.swap) (compareMagnitudes_swap e e' m m')

/-- The order of two numbers is that of their parts. -/
theorem compareFloats_eq (x y : Float) :
    compareFloats x y = x.toModel.unpack.compare y.toModel.unpack := by
  have lt (a b : Float) : a < b ↔ a.toModel.unpack.compare b.toModel.unpack = some .lt := by
    change decide ((a.toModel.unpack.compare b.toModel.unpack == some .lt) = true) = true ↔ _
    rw [decide_eq_true_iff, beq_iff_eq]
  have beq : (x == y) = (x.toModel.unpack.compare y.toModel.unpack == some .eq) := rfl
  unfold compareFloats
  simp only [lt, beq, compareParts_swap x.toModel.unpack]
  cases x.toModel.unpack.compare y.toModel.unpack with
  | none => rfl
  | some order => cases order <;> rfl

theorem compareFloats_swap (x y : Float) :
    compareFloats y x = (compareFloats x y).map Ordering.swap := by
  rw [compareFloats_eq, compareFloats_eq, compareParts_swap]

theorem beqParts_comm (p q : UnpackedFloat) : p.beq q = q.beq p := by
  change (p.compare q == some .eq) = (q.compare p == some .eq)
  rw [compareParts_swap p q, map_swap_beq_eq]

theorem beq_comm_float (x y : Float) : (x == y) = (y == x) :=
  beqParts_comm x.toModel.unpack y.toModel.unpack

theorem beq_comm_float32 (x y : Float32) : (x == y) = (y == x) :=
  beqParts_comm x.toModel.unpack y.toModel.unpack

end Number

/-! ## Values -/

theorem Instant.compare_swap (t u : Instant) : u.compare t = (t.compare u).swap := by
  unfold compare
  rw [Ordering.swap_then, Int.compare_swap, Nat.compare_swap]

namespace Value

/-- The order of two values as floating-point numbers, if both are numbers. -/
def floatOrder? (a b : Value) : Option Ordering :=
  match a.toFloat?, b.toFloat? with
  | some x, some y => Number.compareFloats x y
  | _, _ => none

theorem floatOrder?_swap (a b : Value) : b.floatOrder? a = (a.floatOrder? b).map Ordering.swap := by
  unfold floatOrder?
  cases a.toFloat? with
  | none => cases b.toFloat? <;> rfl
  | some x =>
    cases b.toFloat? with
    | none => rfl
    | some y => exact Number.compareFloats_swap x y

/-- Values have an order or have none from either side, and it is the other way round. -/
theorem compare_swap (a b : Value) : b.compare a = (a.compare b).map Ordering.swap := by
  have floats := floatOrder?_swap a b
  cases a <;> cases b <;> first
    | exact floats
    | exact congrArg some Std.OrientedCmp.eq_swap
    | exact congrArg some (Instant.compare_swap _ _)

mutual

theorem strictEq_comm (a b : Value) : a.strictEq b = b.strictEq a := by
  cases a with
  | array items =>
    cases b with
    | array items' => exact strictEqItems_comm items items'
    | _ => rfl
  | object fields =>
    cases b with
    | object fields' => exact strictEqFields_comm fields fields'
    | _ => rfl
  | float x =>
    cases b with
    | float y => exact Number.beq_comm_float32 x y
    | _ => rfl
  | double x =>
    cases b with
    | double y => exact Number.beq_comm_float x y
    | _ => rfl
  | null | boolean | integer | string | guid | date =>
    cases b <;> first | rfl | exact BEq.comm

theorem strictEqItems_comm (items items' : List Value) :
    strictEqItems items items' = strictEqItems items' items := by
  match items, items' with
  | [], [] | [], _ :: _ | _ :: _, [] => rfl
  | a :: rest, b :: rest' =>
    rw [strictEqItems, strictEqItems, strictEq_comm a, strictEqItems_comm rest]

theorem strictEqFields_comm (fields fields' : List (String × Value)) :
    strictEqFields fields fields' = strictEqFields fields' fields := by
  match fields, fields' with
  | [], [] | [], _ :: _ | _ :: _, [] => rfl
  | (n, a) :: rest, (m, b) :: rest' =>
    rw [strictEqFields, strictEqFields, strictEq_comm a, strictEqFields_comm rest, BEq.comm]

end

/-- In whatever way two values are equal in order, they are so from both sides. -/
theorem compare_eq_comm (a b : Value) : (a.compare b == some .eq) = (b.compare a == some .eq) := by
  rw [compare_swap a b, map_swap_beq_eq]

mutual

/-- It makes no difference to equality which value stands on the left. -/
theorem looseEq_comm (a b : Value) : a.looseEq b = b.looseEq a := by
  cases a with
  | array items =>
    cases b with
    | array items' => exact looseEqItems_comm items items'
    | _ => exact compare_eq_comm _ _
  | object fields =>
    cases b with
    | object fields' => exact strictEqFields_comm fields fields'
    | _ => exact compare_eq_comm _ _
  | null =>
    cases b with
    | null => rfl
    | _ => exact compare_eq_comm _ _
  | _ => cases b <;> exact compare_eq_comm _ _

theorem looseEqItems_comm (items items' : List Value) :
    looseEqItems items items' = looseEqItems items' items := by
  match items, items' with
  | [], [] | [], _ :: _ | _ :: _, [] => rfl
  | a :: rest, b :: rest' => rw [looseEqItems, looseEqItems, looseEq_comm a, looseEqItems_comm rest]

end

end Value

/-! ## Operators -/

/-- The operation that gives of the exchanged operands what this one gives of the operands. -/
def BinaryOp.mirror? : BinaryOp → Option BinaryOp
  | .equal => some .equal
  | .notEqual => some .notEqual
  | .less => some .greater
  | .lessEqual => some .greaterEqual
  | .greater => some .less
  | .greaterEqual => some .lessEqual
  | _ => none

/-- The operator that says of the exchanged operands what this one says of the operands. -/
def Operator.mirror? : Operator → Option Operator
  | .equal => some .equal
  | .notEqual => some .notEqual
  | .less => some .greater
  | .lessEqual => some .greaterEqual
  | .greater => some .less
  | .greaterEqual => some .lessEqual
  | _ => none

namespace Evaluation

theorem comparison?_mirror {op op' : BinaryOp} (mirror : op.mirror? = some op') (a b : Value) :
    comparison? op' b a = comparison? op a b := by
  have lt : (b.compare a = some .lt ↔ a.compare b = some .gt)
      ∧ (b.compare a = some .gt ↔ a.compare b = some .lt)
      ∧ (b.compare a = some .eq ↔ a.compare b = some .eq) := by
    rw [Value.compare_swap a b]
    cases a.compare b with
    | none => simp
    | some order => cases order <;> simp
  cases op <;> cases mirror <;> simp [comparison?, Value.looseEq_comm b a, lt]

/-- A comparison has a mirror image. -/
theorem binary_mirror {op op' : BinaryOp} (mirror : op.mirror? = some op') (kind : Kind)
    (a b : Value) : ∃ answer,
      binary kind op a b = .ok (.boolean answer) ∧ binary kind op' b a = .ok (.boolean answer) := by
  obtain ⟨answer, known⟩ : ∃ answer, comparison? op a b = some answer := by
    cases op <;> cases mirror <;> exact ⟨_, rfl⟩
  refine ⟨answer, ?_, ?_⟩
  · rw [binary, known]
  · rw [binary, comparison?_mirror mirror, known]

end Evaluation

end PredicateLang
