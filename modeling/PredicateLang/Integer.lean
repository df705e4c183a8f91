import PredicateLang.Text.Digits

/-!
# Integers of a width

The language has eight kinds of integers, signed and unsigned of 8 to 64 bits. An `Integer` is a
number together with the kind that stores it and the proof that it fits, so arithmetic is done on
`Int` and the only thing that can go wrong is narrowing the result (`Integer.ofInt?`).
-/

namespace PredicateLang

/-- The eight kinds of integers. -/
inductive IntegerKind where
  | byte | sbyte | ushort | short | uint | int | ulong | long
deriving DecidableEq, Repr

namespace IntegerKind

/-- How many bits a number of the kind has. -/
def width : IntegerKind → Nat
  | byte | sbyte => 8
  | ushort | short => 16
  | uint | int => 32
  | ulong | long => 64

/-- Can a number of the kind be negative? -/
def signed : IntegerKind → Bool
  | byte | ushort | uint | ulong => false
  | sbyte | short | int | long => true

/-- The least number of the kind. -/
def least (k : IntegerKind) : Int := if k.signed then -(Nat.pow 2 (k.width - 1)) else 0

/-- The greatest number of the kind. -/
def greatest (k : IntegerKind) : Int :=
  if k.signed then Nat.pow 2 (k.width - 1) - 1 else Nat.pow 2 k.width - 1

/-- Position in the order of the kinds from the least to the most precise. -/
def rank : IntegerKind → Nat
  | byte => 0
  | sbyte => 1
  | ushort => 2
  | short => 3
  | uint => 4
  | int => 5
  | ulong => 6
  | long => 7

/-- The name of the kind. -/
def name : IntegerKind → String
  | byte => "byte"
  | sbyte => "sbyte"
  | ushort => "ushort"
  | short => "short"
  | uint => "uint"
  | int => "int"
  | ulong => "ulong"
  | long => "long"

theorem least_le_zero (k : IntegerKind) : k.least ≤ 0 := by cases k <;> decide

theorem zero_le_greatest (k : IntegerKind) : 0 ≤ k.greatest := by cases k <;> decide

end IntegerKind

/-- A number of an integer kind. -/
structure Integer where
  kind : IntegerKind
  val : Int
  least_le : kind.least ≤ val
  le_greatest : val ≤ kind.greatest
deriving DecidableEq

namespace Integer

/-- The number of a kind with a value, if the value fits. -/
def ofInt? (k : IntegerKind) (n : Int) : Option Integer :=
  if h : k.least ≤ n ∧ n ≤ k.greatest then some ⟨k, n, h.1, h.2⟩ else none

/-- The zero of a kind. -/
def zero (k : IntegerKind) : Integer := ⟨k, 0, k.least_le_zero, k.zero_le_greatest⟩

/-- A number of the kind `int`; one that does not fit keeps its low bits. -/
def wrapped (n : Int) : Integer :=
  ⟨.int, n.bmod (Nat.pow 2 32),
    by have := Int.le_bmod (x := n) (m := Nat.pow 2 32) (by decide); simp [IntegerKind.least,
      IntegerKind.signed, IntegerKind.width] at *; omega,
    by have := Int.bmod_lt (x := n) (m := Nat.pow 2 32) (by decide); simp [IntegerKind.greatest,
      IntegerKind.signed, IntegerKind.width] at *; omega⟩

/-- The number one of the kind `int`. -/
def one : Integer := ⟨.int, 1, by decide, by decide⟩

/-- The decimal numeral of the value. -/
def text (n : Integer) : String := Text.integerText n.val

theorem ofInt?_val (n : Integer) : ofInt? n.kind n.val = some n := by
  simp [ofInt?, n.least_le, n.le_greatest]

theorem val_of_ofInt? {k : IntegerKind} {i : Int} {n : Integer} (h : ofInt? k i = some n) :
    n.kind = k ∧ n.val = i := by
  unfold ofInt? at h
  split at h
  · cases h; exact ⟨rfl, rfl⟩
  · cases h

end Integer

end PredicateLang
