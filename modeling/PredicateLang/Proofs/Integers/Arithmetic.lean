import PredicateLang.Expr.Builder
import PredicateLang.Proofs.Integers.Operands

/-!
# Exact arithmetic on integers

The sum, the difference, the product, the quotient and the remainder of two integers are what they
are in mathematics, as integers of the kind of the higher rank, or there is none: no result wraps
around. They are calculated in 128 bits, which only a product can exceed, and then no kind has the
product either.
-/

namespace PredicateLang

open Lowering

/-! ## Exact results -/

/-- Does the error say that a number is out of range? -/
def Error.isOverflow : Error → Bool
  | .evaluation (.integerOutOfRange ..) | .evaluation (.integerOverflow ..) => true
  | _ => false

namespace Evaluation

/-- The result is the number, as an integer of the kind, or the kind has no such number. -/
inductive IsExact (k : IntegerKind) (n : Int) : Except Error Value → Prop where
  | fits {m : Integer} (kind : m.kind = k) (val : m.val = n) : IsExact k n (.ok (.integer m))
  | overflow {e : Error} (unfit : ¬k.Fits n) (is : e.isOverflow) : IsExact k n (.error e)

variable {k : IntegerKind} {n : Int} {kind : Kind} {op : BinaryOp} {a b : Integer}

theorem IsExact.eq_ok {result : Except Error Value} (h : IsExact k n result) {m : Integer}
    (kind : m.kind = k) (val : m.val = n) : result = .ok (.integer m) := by
  cases h with
  | fits kind' val' =>
    rw [Integer.eq_of_val (kind'.trans kind.symm) (val'.trans val.symm)]
  | overflow unfit is =>
    subst kind val
    exact absurd m.fits unfit

theorem IsExact.error_of_unfit {result : Except Error Value} (h : IsExact k n result)
    (unfit : ¬k.Fits n) : ∃ e, e.isOverflow ∧ result = .error e := by
  cases h with
  | fits kind val =>
    subst kind val
    exact absurd (Integer.fits _) unfit
  | overflow _ is => exact ⟨_, is, rfl⟩

theorem isExact_narrow (k : IntegerKind) (n : Int) : IsExact k n (narrow k n) := by
  unfold narrow
  by_cases fits : k.Fits n
  · rw [Value.narrow?_eq_some (m := ⟨k, n, fits.1, fits.2⟩) rfl rfl]
    exact .fits rfl rfl
  · rw [Value.narrow?_eq_none fits]
    exact .overflow fits rfl

/-- Every integer fits in 128 bits. -/
theorem fitsWide_of_fits (h : k.Fits n) : fitsWide n := by
  have bounds : -(Nat.pow 2 127) ≤ k.least ∧ k.greatest < Nat.pow 2 127 := by
    cases k <;> decide
  simp only [fitsWide, Bool.and_eq_true, decide_eq_true_eq]
  exact ⟨Int.le_trans bounds.1 h.1, Int.lt_of_le_of_lt h.2 bounds.2⟩

/-- All operations on integers but powers are done in 128 bits. -/
theorem binary_integers (arithmetic : Target.isArithmetic op) (ne : op ≠ .power) (kind : Kind)
    (a b : Integer) :
    binary kind op (.integer a) (.integer b) = integerBinary kind op a b := by
  rw [binary_of_isArithmetic arithmetic]
  exact if_neg ne

section

variable (nonzero : op = .divide ∨ op = .modulo → b.val ≠ 0)

include nonzero

theorem integerBinary_of_some (result : integerResult? op a.val b.val = some n) :
    integerBinary kind op a b = narrow (integerResultKind kind a.kind b.kind) n := by
  unfold integerBinary
  rw [if_neg fun h => nonzero h.1 h.2, result]

theorem integerBinary_of_none (result : integerResult? op a.val b.val = none) :
    integerBinary kind op a b = .error (.evaluation (.integerOverflow op a.val b.val)) := by
  unfold integerBinary
  rw [if_neg fun h => nonzero h.1 h.2, result]
  rfl

/-- What is calculated in 128 bits is exact where it is checked. -/
theorem isExact_integerBinary (checked : integerResult? op a.val b.val = some n
      ∨ integerResult? op a.val b.val = none ∧ ¬fitsWide n) :
    IsExact (integerResultKind kind a.kind b.kind) n (integerBinary kind op a b) := by
  rcases checked with some | ⟨none, wide⟩
  · rw [integerBinary_of_some nonzero some]
    exact isExact_narrow _ n
  · rw [integerBinary_of_none nonzero none]
    exact .overflow (fun fits => wide (fitsWide_of_fits fits)) rfl

end

end Evaluation

/-! ## Calculations -/

/-- The operations of arithmetic on two integers that have an integer as their result. -/
inductive Calculation where
  | sum | difference | product | quotient | remainder

namespace Calculation

/-- The selector of the builtin function. -/
def selector : Calculation → String
  | sum => ArithmeticSign.plus.selector
  | difference => ArithmeticSign.minus.selector
  | product => ArithmeticSign.times.selector
  | quotient => ArithmeticSign.divide.selector
  | remainder => "modulus:by:"

/-- The operation that the builtin function is lowered to. -/
def op : Calculation → BinaryOp
  | sum => .add
  | difference => .subtract
  | product => .multiply
  | quotient => .divide
  | remainder => .modulo

/-- The call of the builtin function. -/
def apply (c : Calculation) (x y : Expr) : Expr := .call c.selector [x, y]

/-- The result in mathematics. A quotient is rounded toward zero, and a remainder has the sign of
the dividend. -/
def exact : Calculation → Int → Int → Int
  | sum => (· + ·)
  | difference => (· - ·)
  | product => (· * ·)
  | quotient => Int.tdiv
  | remainder => Int.tmod

/-- Is it a division? -/
def divides : Calculation → Bool
  | quotient | remainder => true
  | _ => false

/-- What the calculation on two numbers comes to in a kind: zero does not divide, and otherwise the
result is exact. -/
inductive Comes (c : Calculation) (k : IntegerKind) (a b : Int) : Except Error Value → Prop where
  | zero (divides : c.divides) (zero : b = 0) : Comes c k a b (.error .divisionByZero)
  | exact {result : Except Error Value} (nonzero : c.divides → b ≠ 0)
      (exact : Evaluation.IsExact k (c.exact a b) result) : Comes c k a b result

theorem Comes.isExact {c : Calculation} {k : IntegerKind} {a b : Int} {result : Except Error Value}
    (h : c.Comes k a b result) (nonzero : c.divides → b ≠ 0) :
    Evaluation.IsExact k (c.exact a b) result := by
  cases h with
  | zero divides zero => exact absurd zero (nonzero divides)
  | exact _ exact => exact exact

variable (c : Calculation)

theorem ofSelector?_selector :
    BuiltinFunction.ofSelector? c.selector = some ⟨c.selector, 2, .arithmetic c.op⟩ := by
  cases c <;> decide +kernel

theorem isArithmetic_op : Target.isArithmetic c.op := by cases c <;> rfl

theorem isConnective_op : c.op.isConnective = false := by cases c <;> rfl

theorem op_ne_power : c.op ≠ .power := by cases c <;> nofun

theorem divides_iff : c.divides ↔ c.op = .divide ∨ c.op = .modulo := by
  cases c <;> simp [divides, op]

/-- In 128 bits a calculation is exact, or there is no result. -/
theorem integerResult?_op (a b : Int) :
    Evaluation.integerResult? c.op a b = some (c.exact a b)
      ∨ Evaluation.integerResult? c.op a b = none ∧ ¬Evaluation.fitsWide (c.exact a b) := by
  cases c with
  | sum | difference | product =>
    simp only [op, exact, Evaluation.integerResult?]
    split
    · exact .inl rfl
    · exact .inr ⟨rfl, ‹_›⟩
  | quotient | remainder => exact .inl rfl

theorem comes_integerBinary (kind : Kind) (a b : Integer) :
    c.Comes (Evaluation.integerResultKind kind a.kind b.kind) a.val b.val
      (Evaluation.integerBinary kind c.op a b) := by
  by_cases zero : c.divides ∧ b.val = 0
  · have refused : Evaluation.integerBinary kind c.op a b = .error .divisionByZero :=
      if_pos ⟨c.divides_iff.mp zero.1, zero.2⟩
    rw [refused]
    exact .zero zero.1 zero.2
  · have nonzero (divides : c.divides) : b.val ≠ 0 := fun h => zero ⟨divides, h⟩
    exact .exact nonzero (Evaluation.isExact_integerBinary
      (fun h => nonzero (c.divides_iff.mpr h)) (c.integerResult?_op a.val b.val))

end Calculation

/-! ## Compiled calculations -/

/-- Of operands that give integers, a calculation comes to what it does in mathematics, in the kind
of the higher rank, also where the kind of an operand is not known. Where both kinds are known, the
integer of the lower rank has to fit the other kind. -/
theorem Expr.result_calculation (c : Calculation) {x y : Expr} {kind : Kind} {settings : Settings}
    {object : Value} {world : World} {memory : Memory} {l r : Target} {a b : Integer}
    (operands : Operands x y kind settings object world memory l r a b) :
    ((l.kind.isDynamic ∨ r.kind.isDynamic
        ∨ (a.kind.higher b.kind).Fits (a.kind.ofLower b.kind a b).val) →
      c.Comes (a.kind.higher b.kind) a.val b.val
        ((c.apply x y).result kind settings object world memory))
    ∧ (l.kind.isDynamic = false → r.kind.isDynamic = false →
        ¬(a.kind.higher b.kind).Fits (a.kind.ofLower b.kind a b).val →
      ∃ e, (c.apply x y).result kind settings object world memory = .error e) := by
  obtain ⟨scope, run⟩ := operands.lower_call c.ofSelector?_selector nofun
  have shared : (c.apply x y).lower settings (.root kind settings)
      = onSharedKind c.op l r settings scope := by
    refine run.trans ?_
    show Lowering.arithmetic c.selector c.op l r settings scope = _
    unfold Lowering.arithmetic
    rw [bind_run_of_ok (numeric_run c.selector operands.kind_left),
      bind_run_of_ok (numeric_run c.selector operands.kind_right), if_neg c.op_ne_power]
  obtain ⟨made, fails⟩ := operands.result_onSharedKind c.isConnective_op shared
  refine ⟨fun fits => ?_, fails⟩
  obtain ⟨own, a', b', val, val', higher, result⟩ := made fits
  rw [result, Evaluation.binary_integers c.isArithmetic_op c.op_ne_power, ← higher, ← val, ← val']
  exact c.comes_integerBinary own a' b'

/-- Of an unknown object, the least number divided by minus one is out of range. If the kinds are
known, minus one cannot be added to a number without a sign. -/
theorem Expr.result_calculation_integers :
    (∃ l r, Operands (.path "least") (.path "minus") .any (.ofDialect .objects) .integers
        ⟨⟨0, 0⟩, fun _ => 0⟩ .empty l r .leastLong .minusOne ∧ l.kind = .any
      ∧ ∃ e, e.isOverflow ∧ (Calculation.quotient.apply (.path "least") (.path "minus")).result .any
        (.ofDialect .objects) .integers ⟨⟨0, 0⟩, fun _ => 0⟩ .empty = .error e)
    ∧ ∃ l r, Operands (.path "minus") (.path "five") (.ofValue .integers) (.ofDialect .objects)
        .integers ⟨⟨0, 0⟩, fun _ => 0⟩ .empty l r .minusOne .five
      ∧ l.kind = .integer .sbyte ∧ r.kind = .integer .ulong
      ∧ ∃ e, (Calculation.sum.apply (.path "minus") (.path "five")).result (.ofValue .integers)
        (.ofDialect .objects) .integers ⟨⟨0, 0⟩, fun _ => 0⟩ .empty = .error e := by
  constructor
  · have least : (Expr.path "least").Supplies .any (.ofDialect .objects) .integers .leastLong .any
        false := Expr.supplies_path rfl (by decide +kernel) rfl rfl
    obtain ⟨l, r, operands, own, -⟩ :=
      Operands.of_supplies least (.inl rfl) Value.supplies_minus (.inl rfl)
    have comes := (Expr.result_calculation .quotient (operands ⟨⟨0, 0⟩, fun _ => 0⟩ .empty)).1
      (.inl (own ▸ rfl))
    exact ⟨l, r, operands _ _, own,
      (comes.isExact fun _ => by decide).error_of_unfit (by decide +kernel)⟩
  · obtain ⟨l, r, operands, own, own', -⟩ := Operands.of_supplies Value.supplies_minus_known
      (.inr rfl) Value.supplies_five_known (.inr rfl)
    exact ⟨l, r, operands _ _, own, own', (Expr.result_calculation .sum (operands _ _)).2
      (own ▸ rfl) (own' ▸ rfl) (by decide)⟩

end PredicateLang
