import PredicateLang.Proofs.Integers.Operands

/-!
# Values converted to a kind

A value that has been converted is of the kind that was asked for, so it stays as it is when it is
converted again. The two exceptions leave the value alone: null is not converted, and nothing is
converted to a kind that may turn out to be anything.

Between kinds of integers nothing is lost. The number either stays what it is or does not fit, and
converted back it is the value that it came from.
-/

namespace PredicateLang

theorem Kind.isDynamic_iff {k : Kind} : k.isDynamic ↔ k = .any ∨ k = .null := by
  cases k <;> simp [isDynamic]

namespace Value

variable {v w : Value} {k : Kind} {n : Integer} {l : IntegerKind}

theorem isNull_iff : v.isNull ↔ v = .null := by
  cases v <;> simp [isNull]

/-! ## The kind of what is converted -/

/-- A value that is of the kind already stays as it is. -/
theorem convert?_of_ofValue (own : Kind.ofValue v = k) : v.convert? k = some v :=
  if_pos (.inr (.inr own))

/-- A value is left alone or becomes one of the kind. -/
theorem left_or_ofValue_of_convert? (h : v.convert? k = some w) :
    (v.isNull ∨ k.isDynamic) ∧ w = v ∨ Kind.ofValue w = k := by
  unfold convert? at h
  split at h
  · rename_i kept
    cases h
    rcases kept with null | dynamic | own
    · exact .inl ⟨.inl null, rfl⟩
    · exact .inl ⟨.inr dynamic, rfl⟩
    · exact .inr own
  · exact .inr (ofValue_convertAcross h)

/-- Converting once is enough. -/
theorem convert?_convert? (h : v.convert? k = some w) : w.convert? k = some w := by
  rcases left_or_ofValue_of_convert? h with ⟨-, rfl⟩ | own
  · exact h
  · exact convert?_of_ofValue own

/-! ## Kinds of integers -/

/-- An integer is converted to the kinds that its number fits, and to no others. -/
theorem exists_convert?_integer :
    (∃ w, (Value.integer n).convert? (.integer l) = some w) ↔ l.Fits n.val := by
  constructor
  · rintro ⟨w, converted⟩
    by_contra unfit
    rw [convert?_integer_eq_none unfit] at converted
    cases converted
  · intro fits
    exact ⟨_, convert?_integer (m := ⟨l, n.val, fits.1, fits.2⟩) rfl rfl⟩

/-- Converted to another kind of integers and back, an integer is the same. -/
theorem convert?_back (h : (Value.integer n).convert? (.integer l) = some w) :
    w.toInt? = some n.val ∧ w.convert? (.integer n.kind) = some (.integer n) := by
  have fits : l.Fits n.val := exists_convert?_integer.mp ⟨w, h⟩
  let m : Integer := ⟨l, n.val, fits.1, fits.2⟩
  have converted : (Value.integer n).convert? (.integer l) = some (.integer m) :=
    convert?_integer rfl rfl
  obtain rfl : Value.integer m = w := Option.some.inj (converted.symm.trans h)
  exact ⟨rfl, convert?_integer rfl rfl⟩

/-! ## All kinds -/

/-- Conversion is to the kind asked for. What is null stays so, and so does everything that is
converted to a dynamic kind; any other value that can be converted becomes one of the kind. A second
conversion changes nothing more. An integer becomes one of another kind of integers exactly if its
number fits that kind; it keeps its number, and can be converted back. -/
theorem convert?_sound (v : Value) (k : Kind) :
    (∀ w, v.convert? k = some w →
      ((v = .null ∨ k = .any ∨ k = .null) ∧ w = v ∨ Kind.ofValue w = k)
        ∧ w.convert? k = some w)
    ∧ ∀ (n : Integer) (l : IntegerKind), v = .integer n → k = .integer l →
      ((∃ w, v.convert? k = some w) ↔ l.Fits n.val)
      ∧ ∀ w, v.convert? k = some w →
        w.toInt? = some n.val ∧ w.convert? (.ofValue v) = some v := by
  constructor
  · intro w converted
    refine ⟨?_, convert?_convert? converted⟩
    rw [← isNull_iff, ← Kind.isDynamic_iff]
    exact left_or_ofValue_of_convert? converted
  · rintro n l rfl rfl
    exact ⟨exists_convert?_integer, fun w converted => convert?_back converted⟩

/-- The text `" 300 "` becomes the short integer 300 and is then left alone; the long integer 300 is
no byte, and becomes the same short integer, which becomes the long one again. -/
theorem convert?_sound_three_hundred :
    let short : Value := .integer ⟨.short, 300, by decide, by decide⟩
    let long : Value := .integer ⟨.long, 300, by decide, by decide⟩
    (Value.string " 300 ").convert? (.integer .short) = some short
    ∧ Kind.ofValue short = .integer .short ∧ short.convert? (.integer .short) = some short
    ∧ (¬∃ w, long.convert? (.integer .byte) = some w)
    ∧ long.convert? (.integer .short) = some short
    ∧ short.convert? (.integer .long) = some long := by
  intro short long
  have read : (Value.string " 300 ").convert? (.integer .short) = some short := by rfl
  have narrowed : long.convert? (.integer .short) = some short := by rfl
  have ⟨sound, again⟩ := (convert?_sound (.string " 300 ") (.integer .short)).1 short read
  have unfit := ((convert?_sound long (.integer .byte)).2 _ .byte rfl rfl).1
  have back := ((convert?_sound long (.integer .short)).2 _ .short rfl rfl).2 short narrowed
  refine ⟨read, ?_, again, fun fits => ?_, narrowed, back.2⟩
  · exact sound.resolve_left (by simp)
  · exact absurd (unfit.mp fits) (by decide)

end Value

end PredicateLang
