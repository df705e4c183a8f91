import PredicateLang.Proofs.Fields
import PredicateLang.Proofs.Order

/-!
# Equality of collections

Equality does not tell which value stands on the left, and it goes into arrays: two arrays are equal
if they have as many items, each equal to the one at its place. It does not go into objects. Two
objects are equal if they have the same names with the same stored values under them, so that the
numbers 1 and 1.0, which are equal and are equal as items of arrays, make a difference as fields.
-/

namespace PredicateLang.Value

variable {items items' : List Value} {fields fields' : Fields Value}

/-! ## Arrays -/

theorem looseEqItems_iff :
    looseEqItems items items' ↔ List.Forall₂ (fun a b => a.looseEq b) items items' := by
  induction items generalizing items' with
  | nil => cases items' <;> simp [looseEqItems]
  | cons a rest ih =>
    cases items' with
    | nil => simp [looseEqItems]
    | cons b rest' => rw [looseEqItems, Bool.and_eq_true, ih, List.forall₂_cons]

theorem looseEq_array_iff : (array items).looseEq (array items')
    ↔ items.length = items'.length ∧ ∀ i (h : i < items.length) (h' : i < items'.length),
      items[i].looseEq items'[i] := by
  rw [looseEq, looseEqItems_iff]
  exact List.forall₂_iff_get

/-! ## Objects -/

theorem strictEqFields_iff :
    strictEqFields fields fields' ↔ fields.Correspond (fun a b => a.strictEq b) fields' := by
  induction fields generalizing fields' with
  | nil => cases fields' <;> simp [strictEqFields]
  | cons entry rest ih =>
    cases fields' with
    | nil => simp [strictEqFields]
    | cons entry' rest' =>
      rw [strictEqFields, Bool.and_eq_true, Bool.and_eq_true, beq_iff_eq, ih,
        Fields.correspond_cons]

theorem looseEq_object_iff (sorted : fields.IsSorted) (sorted' : fields'.IsSorted) :
    (object fields).looseEq (object fields')
      ↔ ∀ name, Option.Rel (fun a b => a.strictEq b) (fields.find? name) (fields'.find? name) := by
  rw [looseEq, strictEqFields_iff]
  exact Fields.correspond_iff_find? sorted sorted'

/-! ## All values -/

/-- Equality is symmetric. Arrays are equal if they have the same length and equal items at every
place; objects are equal if they have the same names and, under every name, the same stored value
(equal values are not enough). -/
theorem looseEq_structural :
    (∀ a b : Value, a.looseEq b = b.looseEq a)
    ∧ (∀ items items' : List Value, (array items).looseEq (array items')
      ↔ items.length = items'.length ∧ ∀ i (h : i < items.length) (h' : i < items'.length),
        items[i].looseEq items'[i])
    ∧ ∀ fields fields' : Fields Value, fields.IsSorted → fields'.IsSorted →
      ((object fields).looseEq (object fields') ↔ ∀ name,
        Option.Rel (fun a b => a.strictEq b) (fields.find? name) (fields'.find? name)) :=
  ⟨looseEq_comm, fun _ _ => looseEq_array_iff, fun _ _ => looseEq_object_iff⟩

/-- The objects with the numbers 1 and 1.0 under the name `n` are not equal, though they have the
same names and equal values under each of them. In arrays the numbers are equal. -/
theorem looseEq_object_of_equal_fields :
    let one : Value := .integer ⟨.long, 1, by decide, by decide⟩
    let oneAsDouble : Value := .double 1.0
    (∀ name, Option.Rel (fun a b => a.looseEq b) (Fields.find? [("n", one)] name)
      (Fields.find? [("n", oneAsDouble)] name))
    ∧ (array [one]).looseEq (array [oneAsDouble])
    ∧ (object [("n", one)]).looseEq (object [("n", oneAsDouble)]) = false := by
  intro one oneAsDouble
  have equal : one.looseEq oneAsDouble := by decide
  refine ⟨fun name => ?_, looseEq_array_iff.mpr ⟨rfl, ?_⟩, by decide⟩
  · have same : Fields.Correspond (fun a b : Value => a.looseEq b) [("n", one)]
        [("n", oneAsDouble)] := .cons ⟨rfl, equal⟩ .nil
    exact same.find? name
  · intro i h _
    obtain rfl : i = 0 := Nat.lt_one_iff.mp h
    exact equal

end PredicateLang.Value
