import Mathlib.Algebra.Order.Ring.Int
import PredicateLang.Proofs.Integers.Arithmetic

/-!
# Shifts of integers

A shift is one in 128 bits, and its result has to fit the kind of what is shifted. To the right it
is the division by a power of two, rounded down. To the left it is the multiplication by that power
as long as the product fits in 128 bits; of a greater product the bits that do not fit are lost, and
the result is not the product, nor is there an error. By less than 64 places this never happens.
-/

namespace PredicateLang

open Lowering

/-- The directions of shifts. -/
inductive Shift where
  | left | right

namespace Shift

/-- The selector of the builtin function. -/
def selector : Shift → String
  | left => "leftshift:by:"
  | right => "rightshift:by:"

/-- The operation that the builtin function is lowered to. -/
def op : Shift → BinaryOp
  | left => .shiftLeft
  | right => .shiftRight

/-- The call of the builtin function. -/
def apply (s : Shift) (x y : Expr) : Expr := .call s.selector [x, y]

/-- The result in mathematics. -/
def exact : Shift → Int → Nat → Int
  | left, a, places => a * 2 ^ places
  | right, a, places => a / 2 ^ places

/-- The result in 128 bits. -/
def wide : Shift → Int → Nat → Int
  | left, a, places => (a * 2 ^ places).bmod (2 ^ 128)
  | right, a, places => a / 2 ^ places

variable (s : Shift)

theorem ofSelector?_selector :
    BuiltinFunction.ofSelector? s.selector = some ⟨s.selector, 2, .shift s.op⟩ := by
  cases s <;> decide +kernel

theorem isArithmetic_op : Target.isArithmetic s.op := by cases s <;> rfl

theorem isConnective_op : s.op.isConnective = false := by cases s <;> rfl

theorem op_ne_power : s.op ≠ .power := by cases s <;> nofun

theorem not_divides : ¬(s.op = .divide ∨ s.op = .modulo) := by cases s <;> simp [op]

/-- A number is the same in 128 bits if it fits. -/
theorem bmod_eq_self_iff (n : Int) : n.bmod (2 ^ 128) = n ↔ Evaluation.fitsWide n := by
  rw [Int.bmod_eq_iff (by decide), Int.sub_self, Evaluation.fitsWide, Bool.and_eq_true,
    decide_eq_true_eq, decide_eq_true_eq]
  simp

/-- The bits that do not fit in 128 bits are lost, and no others. -/
theorem wide_eq_exact_iff (a : Int) (places : Nat) :
    s.wide a places = s.exact a places ↔ s = right ∨ Evaluation.fitsWide (s.exact a places) := by
  cases s with
  | right => exact iff_of_true rfl (.inl rfl)
  | left =>
    rw [or_iff_right nofun]
    exact bmod_eq_self_iff (left.exact a places)

/-- By less than 64 places every integer is shifted exactly. -/
theorem fitsWide_exact (a : Integer) {places : Nat} (few : places < 64) :
    Evaluation.fitsWide (left.exact a.val places) := by
  -- 64 bits and less than 64 places are less than 128 bits.
  have bounds : -2 ^ 63 ≤ a.kind.least ∧ a.kind.greatest < 2 ^ 64 := by
    cases a.kind <;> decide
  obtain ⟨least, greatest⟩ := a.fits
  have factor : (2 : Int) ^ places ≤ 2 ^ 63 := pow_le_pow_right₀ (by decide) (by omega)
  have positive : (0 : Int) < 2 ^ places := Int.pow_pos (by decide)
  have lower : -2 ^ 63 * 2 ^ places ≤ a.val * 2 ^ places :=
    Int.mul_le_mul_of_nonneg_right (bounds.1.trans least) positive.le
  have upper : a.val * 2 ^ places < 2 ^ 64 * 2 ^ places :=
    Int.mul_lt_mul_of_pos_right (Int.lt_of_le_of_lt greatest bounds.2) positive
  rw [Evaluation.fitsWide, Bool.and_eq_true, decide_eq_true_eq, decide_eq_true_eq, exact]
  simp only [Nat.pow_eq, Nat.cast_pow, Nat.cast_ofNat]
  omega

theorem integerResult?_op {b : Int} (a : Int) (amount : 0 ≤ b ∧ b < 128) :
    Evaluation.integerResult? s.op a b = some (s.wide a b.toNat) := by
  cases s with
  | left => exact if_pos amount
  | right => exact (if_pos amount).trans (congrArg some (Int.shiftRight_eq_div_pow a b.toNat))

theorem integerResult?_op_eq_none {a b : Int} (amount : ¬(0 ≤ b ∧ b < 128)) :
    Evaluation.integerResult? s.op a b = none := by
  cases s <;> exact if_neg amount

/-- The kind of the result: that of what is shifted, or if it is not known, the kind of the higher
rank. -/
def resultKind (shifted : Kind) (a b : Integer) : IntegerKind :=
  if shifted.isDynamic then a.kind.higher b.kind else a.kind

theorem integerResultKind_eq {kind : Kind} {a : Integer}
    (known : kind.isDynamic ∨ kind = .integer a.kind) (b : Integer) :
    Evaluation.integerResultKind kind a.kind b.kind = resultKind kind a b := by
  rcases known with dynamic | rfl
  · rw [resultKind, if_pos dynamic, ← Evaluation.integerResultKind_any_eq_higher]
    cases kind <;> first | rfl | cases dynamic
  · rfl

end Shift

/-! ## Compiled shifts -/

section

variable {x y : Expr} {kind : Kind} {settings : Settings} {object : Value} {world : World}
  {memory : Memory} {l r : Target} {a b m : Integer}

theorem Operands.result_shift (s : Shift)
    (operands : Operands x y kind settings object world memory l r a b) :
    (s.apply x y).result kind settings object world memory
      = Evaluation.integerBinary l.kind s.op a b := by
  obtain ⟨scope, run⟩ := operands.lower_call s.ofSelector?_selector nofun
  have lowered : (s.apply x y).lower settings (.root kind settings)
      = .ok (.binary l.kind s.op l r) scope := by
    refine run.trans ?_
    show (integral s.selector l >>= _) settings scope = _
    rw [bind_run_of_ok (integral_run s.selector operands.kind_left),
      bind_run_of_ok (integral_run s.selector operands.kind_right)]
    rfl
  rw [Expr.result_of_lower lowered, operands.give.result_binary _ s.isConnective_op,
    Evaluation.binary_integers s.isArithmetic_op s.op_ne_power]

/-- An integer is shifted by up to 127 places in 128 bits, and the result is exact if the kind has
it. By any other amount it is not shifted. -/
theorem Expr.result_shift (s : Shift)
    (operands : Operands x y kind settings object world memory l r a b) :
    (0 ≤ b.val ∧ b.val < 128 →
      Evaluation.IsExact (Shift.resultKind l.kind a b) (s.wide a.val b.val.toNat)
        ((s.apply x y).result kind settings object world memory))
    ∧ (¬(0 ≤ b.val ∧ b.val < 128) → ∃ e, e.isOverflow
      ∧ (s.apply x y).result kind settings object world memory = .error e) := by
  rw [operands.result_shift s]
  constructor
  · intro amount
    rw [Evaluation.integerBinary_of_some (absurd · s.not_divides)
      (s.integerResult?_op a.val amount), Shift.integerResultKind_eq operands.kind_left]
    exact Evaluation.isExact_narrow _ _
  · intro amount
    rw [Evaluation.integerBinary_of_none (absurd · s.not_divides)
      (s.integerResult?_op_eq_none amount)]
    exact ⟨_, rfl, rfl⟩

/-- By less than 64 places, no bits are lost. -/
theorem Expr.result_shift_exact (s : Shift)
    (operands : Operands x y kind settings object world memory l r a b)
    (amount : 0 ≤ b.val ∧ b.val < 64) :
    Evaluation.IsExact (Shift.resultKind l.kind a b) (s.exact a.val b.val.toNat)
      ((s.apply x y).result kind settings object world memory) := by
  have shifted := (Expr.result_shift s operands).1 (by omega)
  have exact : s.wide a.val b.val.toNat = s.exact a.val b.val.toNat := by
    cases s with
    | left => exact (Shift.wide_eq_exact_iff _ _ _).mpr (.inr (Shift.fitsWide_exact a (by omega)))
    | right => rfl
  rwa [exact] at shifted

/-- A shift that succeeds is exact unless bits are lost to the left of 128. -/
theorem Expr.shift_eq_exact_iff (s : Shift)
    (operands : Operands x y kind settings object world memory l r a b)
    (ok : (s.apply x y).result kind settings object world memory = .ok (.integer m)) :
    m.kind = Shift.resultKind l.kind a b
      ∧ (m.val = s.exact a.val b.val.toNat
        ↔ s = .right ∨ Evaluation.fitsWide (s.exact a.val b.val.toNat)) := by
  obtain ⟨shifted, refused⟩ := Expr.result_shift s operands
  by_cases amount : 0 ≤ b.val ∧ b.val < 128
  · have exact := shifted amount
    rw [ok] at exact
    cases exact with
    | fits kind val => exact ⟨kind, val ▸ s.wide_eq_exact_iff a.val b.val.toNat⟩
  · obtain ⟨e, -, error⟩ := refused amount
    cases ok.symm.trans error

/-- The only bit of two is lost by 127 places. -/
theorem Expr.result_shift_lost (world : World) (memory : Memory) :
    (Shift.left.apply (.constant (.int 2)) (.constant (.int 127))).result .any (.ofDialect .objects)
      .null world memory = .ok (.int 0) := rfl

end

end PredicateLang
