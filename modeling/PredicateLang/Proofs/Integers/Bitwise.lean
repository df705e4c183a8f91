import Mathlib.Algebra.Order.Ring.Int
import PredicateLang.Proofs.Integers.Arithmetic

/-!
# Operations on the bits of integers

The operations on bits are ones in 128 bits, to which an integer is extended, by its sign if its
kind has one. Conjunction, disjunction and exclusive disjunction of integers of one kind are those
of their bits in the width of the kind, and so is the complement if the kind has a sign. The
complement of an integer without a sign is negative in 128 bits, so there is none.
-/

namespace PredicateLang

open Lowering

/-! ## Bits -/

namespace IntegerKind

variable (k : IntegerKind)

/-- The number of the kind that has the bits. -/
def ofBits (x : BitVec k.width) : Int := if k.signed then x.toInt else x.toNat

/-- The bits of a number of the kind in 128 bits. -/
def extend (x : BitVec k.width) : BitVec 128 :=
  if k.signed then x.signExtend 128 else x.setWidth 128

theorem width_pos : 0 < k.width := by cases k <;> decide

theorem fits_of_signed (signed : k.signed) (n : Int) :
    k.Fits n ↔ -2 ^ (k.width - 1) ≤ n ∧ n < 2 ^ (k.width - 1) := by
  have power : ((Nat.pow 2 (k.width - 1) : Nat) : Int) = 2 ^ (k.width - 1) := Int.natCast_pow 2 _
  rw [Fits, least, greatest, if_pos signed, if_pos signed, power, Int.le_sub_one_iff]

theorem fits_of_unsigned (unsigned : k.signed = false) (n : Int) :
    k.Fits n ↔ 0 ≤ n ∧ n < 2 ^ k.width := by
  have power : ((Nat.pow 2 k.width : Nat) : Int) = 2 ^ k.width := Int.natCast_pow 2 _
  have none : ¬k.signed := by simp [unsigned]
  rw [Fits, least, greatest, if_neg none, if_neg none, power, Int.le_sub_one_iff]

variable {k}

theorem fits_ofBits (x : BitVec k.width) : k.Fits (k.ofBits x) := by
  cases signed : k.signed with
  | true =>
    rw [k.fits_of_signed signed, ofBits, if_pos signed]
    exact ⟨x.le_toInt, x.toInt_lt⟩
  | false =>
    have bound : (x.toNat : Int) < 2 ^ k.width := mod_cast x.isLt
    rw [k.fits_of_unsigned signed, ofBits, signed]
    exact ⟨Int.natCast_nonneg _, bound⟩

theorem ofInt_ofBits (x : BitVec k.width) : BitVec.ofInt k.width (k.ofBits x) = x := by
  unfold ofBits
  cases k.signed with
  | true => exact BitVec.ofInt_toInt
  | false => simp

theorem ofBits_ofInt {n : Int} (fits : k.Fits n) : k.ofBits (BitVec.ofInt k.width n) = n := by
  cases signed : k.signed with
  | true =>
    obtain ⟨least, greatest⟩ := (k.fits_of_signed signed n).mp fits
    rw [ofBits, if_pos signed, BitVec.toInt_ofInt_eq_self k.width_pos least greatest]
  | false =>
    obtain ⟨least, greatest⟩ := (k.fits_of_unsigned signed n).mp fits
    have same : n % (2 ^ k.width : Nat) = n := Int.emod_eq_of_lt least (mod_cast greatest)
    rw [ofBits, signed, BitVec.toNat_ofInt, same]
    exact Int.toNat_of_nonneg least

/-- A number of the kind has the bits of the kind, extended. -/
theorem ofInt_ofBits_wide (x : BitVec k.width) : BitVec.ofInt 128 (k.ofBits x) = k.extend x := by
  unfold ofBits extend
  cases k.signed with
  | true => rfl
  | false => simp

theorem toInt_extend (x : BitVec k.width) : (k.extend x).toInt = k.ofBits x := by
  have wide := Evaluation.fitsWide_of_fits (fits_ofBits x)
  rw [Evaluation.fitsWide, Bool.and_eq_true, decide_eq_true_eq, decide_eq_true_eq] at wide
  rw [← ofInt_ofBits_wide, BitVec.toInt_ofInt_eq_self (by decide) wide.1 wide.2]

end IntegerKind

/-! ## Operations on two integers -/

/-- The operations on the bits of two integers. -/
inductive Bitwise where
  | conjunction | disjunction | exclusive

namespace Bitwise

/-- The selector of the builtin function. -/
def selector : Bitwise → String
  | conjunction => "bitwiseAnd:with:"
  | disjunction => "bitwiseOr:with:"
  | exclusive => "bitwiseXor:with:"

/-- The operation that the builtin function is lowered to. -/
def op : Bitwise → BinaryOp
  | conjunction => .bitAnd
  | disjunction => .bitOr
  | exclusive => .bitXor

/-- The operation on bits. -/
def onBits {w : Nat} : Bitwise → BitVec w → BitVec w → BitVec w
  | conjunction => (· &&& ·)
  | disjunction => (· ||| ·)
  | exclusive => (· ^^^ ·)

/-- The call of the builtin function. -/
def apply (f : Bitwise) (x y : Expr) : Expr := .call f.selector [x, y]

variable (f : Bitwise) {k : IntegerKind}

theorem ofSelector?_selector :
    BuiltinFunction.ofSelector? f.selector = some ⟨f.selector, 2, .bitwise f.op⟩ := by
  cases f <;> decide +kernel

theorem isArithmetic_op : Target.isArithmetic f.op := by cases f <;> rfl

theorem isConnective_op : f.op.isConnective = false := by cases f <;> rfl

theorem op_ne_power : f.op ≠ .power := by cases f <;> nofun

theorem not_divides : ¬(f.op = .divide ∨ f.op = .modulo) := by cases f <;> simp [op]

/-- Extended bits are combined as the bits are. -/
theorem onBits_extend (x y : BitVec k.width) :
    f.onBits (k.extend x) (k.extend y) = k.extend (f.onBits x y) := by
  unfold IntegerKind.extend
  cases k.signed with
  | true =>
    cases f with
    | conjunction => exact BitVec.signExtend_and.symm
    | disjunction => exact BitVec.signExtend_or.symm
    | exclusive => exact BitVec.signExtend_xor.symm
  | false =>
    cases f with
    | conjunction => exact BitVec.setWidth_and.symm
    | disjunction => exact BitVec.setWidth_or.symm
    | exclusive => exact BitVec.setWidth_xor.symm

theorem integerResult?_op (a b : Int) : Evaluation.integerResult? f.op a b
    = some (f.onBits (BitVec.ofInt 128 a) (BitVec.ofInt 128 b)).toInt := by
  cases f <;> rfl

/-- In 128 bits the result is the number with the combined bits. -/
theorem integerResult?_op_of_fits {a b : Int} (fits : k.Fits a) (fits' : k.Fits b) :
    Evaluation.integerResult? f.op a b
      = some (k.ofBits (f.onBits (BitVec.ofInt k.width a) (BitVec.ofInt k.width b))) := by
  have wide {n : Int} (fits : k.Fits n) :
      BitVec.ofInt 128 n = k.extend (BitVec.ofInt k.width n) := by
    rw [← IntegerKind.ofInt_ofBits_wide, IntegerKind.ofBits_ofInt fits]
  rw [f.integerResult?_op, wide fits, wide fits', f.onBits_extend, IntegerKind.toInt_extend]

end Bitwise

section

variable {x y : Expr} {kind : Kind} {settings : Settings} {object : Value} {world : World}
  {memory : Memory} {l r : Target} {a b : Integer}

/-- The bits of two integers of one kind are combined in the width of the kind. -/
theorem Expr.result_bitwise (f : Bitwise)
    (operands : Operands x y kind settings object world memory l r a b) (same : b.kind = a.kind) :
    ∃ m : Integer, m.kind = a.kind
      ∧ BitVec.ofInt a.kind.width m.val
        = f.onBits (BitVec.ofInt a.kind.width a.val) (BitVec.ofInt a.kind.width b.val)
      ∧ (f.apply x y).result kind settings object world memory = .ok (.integer m) := by
  obtain ⟨scope, run⟩ := operands.lower_call f.ofSelector?_selector nofun
  have shared : (f.apply x y).lower settings (.root kind settings)
      = onSharedKind f.op l r settings scope := by
    refine run.trans ?_
    show (integral f.selector l >>= _) settings scope = _
    rw [bind_run_of_ok (integral_run f.selector operands.kind_left),
      bind_run_of_ok (integral_run f.selector operands.kind_right)]
  -- The kinds are the same, so the cast of an operand does not fail.
  have fits' : a.kind.Fits b.val := same ▸ b.fits
  have higher : a.kind.higher b.kind = a.kind := by rw [same, IntegerKind.higher_self]
  have lower : (a.kind.higher b.kind).Fits (a.kind.ofLower b.kind a b).val := by
    rw [higher, IntegerKind.ofLower, same, if_neg (Nat.lt_irrefl _)]
    exact fits'
  obtain ⟨own, a', b', val, val', kind, result⟩ :=
    (operands.result_onSharedKind f.isConnective_op shared).1 (.inr (.inr lower))
  have made := f.integerResult?_op_of_fits a.fits fits'
  generalize f.onBits (BitVec.ofInt a.kind.width a.val) (BitVec.ofInt a.kind.width b.val) = bits
    at made
  rw [← val, ← val'] at made
  have fits := IntegerKind.fits_ofBits bits
  refine ⟨⟨a.kind, a.kind.ofBits bits, fits.1, fits.2⟩, rfl, IntegerKind.ofInt_ofBits bits, ?_⟩
  rw [result, Evaluation.binary_integers f.isArithmetic_op f.op_ne_power,
    Evaluation.integerBinary_of_some (absurd · f.not_divides) made, kind, higher]
  exact (Evaluation.isExact_narrow _ _).eq_ok rfl rfl

end

/-! ## The complement -/

/-- The call of the builtin function for the complement of the bits. -/
def Expr.onesComplement (x : Expr) : Expr := .call "onesComplement:" [x]

section

variable {x : Expr} {kind : Kind} {settings : Settings} {object : Value} {world : World}
  {memory after : Memory} {scope : Scope} {t : Target} {a : Integer}

/-- The number that has the complement of the bits of a number. -/
theorem Integer.ofInt_complement (w : Nat) (n : Int) :
    BitVec.ofInt w (-n - 1) = ~~~BitVec.ofInt w n := by
  rw [BitVec.not_eq_neg_add, BitVec.sub_eq_add_neg, Int.sub_eq_add_neg, BitVec.ofInt_add,
    BitVec.ofInt_neg, BitVec.ofInt_neg]
  rfl

theorem IntegerKind.fits_complement {k : IntegerKind} {n : Int} (fits : k.Fits n) :
    k.Fits (-n - 1) ↔ k.signed := by
  cases signed : k.signed with
  | true =>
    rw [k.fits_of_signed signed] at fits ⊢
    exact iff_of_true (by omega) rfl
  | false =>
    rw [k.fits_of_unsigned signed] at fits ⊢
    exact iff_of_false (by omega) nofun

/-- The complement of an integer whose kind has a sign has the complement of its bits. An integer
without a sign has no complement. -/
theorem Expr.result_onesComplement (run : x.lower settings (.root kind settings) = .ok t scope)
    (gives : t.eval world (Compiled.start object memory) = .ok (.integer a) after)
    (known : t.kind.isDynamic ∨ t.kind = .integer a.kind) :
    (a.kind.signed → ∃ m : Integer, m.kind = a.kind
      ∧ BitVec.ofInt a.kind.width m.val = ~~~BitVec.ofInt a.kind.width a.val
      ∧ x.onesComplement.result kind settings object world memory = .ok (.integer m))
    ∧ (a.kind.signed = false → ∃ e, e.isOverflow
      ∧ x.onesComplement.result kind settings object world memory = .error e) := by
  have all : Expr.lowerAll [x] settings (.root kind settings) = .ok [t] scope := by
    simp only [Expr.lowerAll]
    rw [bind_run_of_ok run]
    rfl
  have meaning : BuiltinFunction.ofSelector? "onesComplement:"
      = some ⟨"onesComplement:", 1, .onesComplement⟩ := by decide +kernel
  have lowered : x.onesComplement.lower settings (.root kind settings)
      = .ok (.unary t.kind .onesComplement t) scope := by
    refine (Expr.lower_call meaning (by nofun) all).trans ?_
    show (integral "onesComplement:" t >>= _) settings scope = _
    rw [bind_run_of_ok (integral_run "onesComplement:" known)]
    rfl
  have result : x.onesComplement.result kind settings object world memory
      = Evaluation.narrow a.kind (-a.val - 1) := by
    rw [Expr.result_of_lower lowered]
    have applied : (Target.unary t.kind .onesComplement t).eval world (Compiled.start object memory)
        = _ := Evaluation.bind_run_of_ok gives
    rw [applied]
    exact Evaluation.resultOf_ofResult _ world after
  rw [result]
  constructor
  · intro signed
    have fits := (IntegerKind.fits_complement a.fits).mpr signed
    exact ⟨⟨a.kind, -a.val - 1, fits.1, fits.2⟩, rfl, Integer.ofInt_complement _ _,
      (Evaluation.isExact_narrow _ _).eq_ok rfl rfl⟩
  · intro unsigned
    have unfit : ¬a.kind.Fits (-a.val - 1) := by
      rw [IntegerKind.fits_complement a.fits, unsigned]
      nofun
    exact (Evaluation.isExact_narrow _ _).error_of_unfit unfit

/-- Of the byte 5 there is no complement, which would be 250. -/
theorem Expr.result_onesComplement_byte (world : World) (memory : Memory) :
    (Expr.onesComplement (.constant (.integer ⟨.byte, 5, by decide, by decide⟩))).result .any
        (.ofDialect .objects) .null world memory
      = .error (.evaluation (.integerOutOfRange (-6) .byte))
    ∧ ~~~BitVec.ofInt IntegerKind.byte.width 5 = BitVec.ofInt IntegerKind.byte.width 250 :=
  ⟨rfl, by decide⟩

end

end PredicateLang
