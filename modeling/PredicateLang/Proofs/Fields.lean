import Mathlib.Data.List.Forall2
import Mathlib.Data.String.Basic
import PredicateLang.Fields

/-!
# Entries in the order of their names

Inserting keeps entries in the order of their names, each name once, and so does reading them off a
list. In two collections in order the same name stands at the same place, so that comparing them
from front to back is comparing what they have under each name (`correspond_iff_find?`).
-/

namespace PredicateLang.Fields

variable {α β : Type} {fields : Fields α} {fields' : Fields β} {name n : String} {a : α} {b : β}
  {R : α → β → Prop}

/-- The entries stand in the order of their names, each name once. -/
def IsSorted (fields : Fields α) : Prop := fields.Pairwise fun entry other => entry.1 < other.1

instance (fields : Fields α) : Decidable fields.IsSorted := List.instDecidablePairwise fields

theorem isSorted_cons :
    IsSorted ((n, a) :: fields) ↔ (∀ entry ∈ fields, n < entry.1) ∧ IsSorted fields :=
  List.pairwise_cons

theorem isSorted_map (f : α → β) :
    IsSorted (fields.map fun entry => (entry.1, f entry.2)) ↔ fields.IsSorted :=
  List.pairwise_map

theorem map_eq_self {f : α → α} (same : ∀ entry ∈ fields, f entry.2 = entry.2) :
    (fields.map fun entry => (entry.1, f entry.2)) = fields := by
  have each : ∀ entry ∈ fields, (entry.1, f entry.2) = id entry :=
    fun entry mem => Prod.ext rfl (same entry mem)
  rw [List.map_congr_left each, List.map_id]

/-! ## Inserting -/

theorem mem_insert {entry : String × α} (mem : entry ∈ fields.insert name a) :
    entry = (name, a) ∨ entry ∈ fields := by
  induction fields with
  | nil => exact .inl (List.mem_singleton.mp mem)
  | cons first rest ih => grind [insert]

theorem mem_of_find? (h : fields.find? name = some a) : (name, a) ∈ fields := by
  induction fields with
  | nil => cases h
  | cons first rest ih => grind [find?]

theorem isSorted_insert (sorted : fields.IsSorted) : (fields.insert name a).IsSorted := by
  induction fields with
  | nil => exact List.pairwise_singleton _ _
  | cons first rest ih =>
    obtain ⟨n, b⟩ := first
    obtain ⟨above, rest_sorted⟩ := isSorted_cons.mp sorted
    rw [insert]
    split_ifs with same less
    · exact isSorted_cons.mpr ⟨same ▸ above, rest_sorted⟩
    · refine isSorted_cons.mpr ⟨List.forall_mem_cons.mpr ⟨less, fun entry mem => ?_⟩, sorted⟩
      exact lt_trans less (above entry mem)
    · refine isSorted_cons.mpr ⟨fun entry mem => ?_, ih rest_sorted⟩
      rcases mem_insert mem with rfl | mem
      · exact lt_of_le_of_ne (not_lt.mp less) (Ne.symm same)
      · exact above entry mem

/-- Entries that are read off a list are put in order. -/
theorem isSorted_ofList (entries : List (String × α)) : (ofList entries).IsSorted := by
  have all : ∀ fields : Fields α, fields.IsSorted →
      (entries.foldl (fun fields entry => fields.insert entry.1 entry.2) fields).IsSorted := by
    induction entries with
    | nil => exact fun _ sorted => sorted
    | cons entry rest ih => exact fun fields sorted => ih _ (isSorted_insert sorted)
  exact all [] .nil

/-! ## Comparing -/

/-- In front of all names nothing is found. -/
theorem find?_of_lt (below : ∀ entry ∈ fields, name < entry.1) : fields.find? name = none := by
  induction fields with
  | nil => rfl
  | cons first rest ih =>
    obtain ⟨less, below⟩ := List.forall_mem_cons.mp below
    rw [find?, if_neg (ne_of_gt less), ih below]

theorem find?_cons_self : find? ((n, a) :: fields) n = some a := if_pos rfl

theorem find?_cons_of_ne (other : n ≠ name) :
    find? ((n, a) :: fields) name = fields.find? name := if_neg other

/-- The entries correspond one to one, with the same name and related. -/
abbrev Correspond (R : α → β → Prop) (fields : Fields α) (fields' : Fields β) : Prop :=
  List.Forall₂ (fun entry entry' => entry.1 = entry'.1 ∧ R entry.2 entry'.2) fields fields'

theorem correspond_cons {rest : Fields α} {rest' : Fields β} :
    Correspond R ((name, a) :: rest) ((n, b) :: rest')
      ↔ (name = n ∧ R a b) ∧ Correspond R rest rest' :=
  List.forall₂_cons

theorem Correspond.find? (h : Correspond R fields fields') (name : String) :
    Option.Rel R (fields.find? name) (fields'.find? name) := by
  induction h with
  | nil => exact .none
  | @cons entry entry' rest rest' same _ ih =>
    obtain ⟨n, a⟩ := entry
    obtain ⟨m, b⟩ := entry'
    obtain ⟨rfl, related⟩ := same
    by_cases here : n = name
    · subst here
      rw [find?_cons_self, find?_cons_self]
      exact .some related
    · rw [find?_cons_of_ne here, find?_cons_of_ne here]
      exact ih

/-- Entries in order correspond if what is found under each name does. -/
theorem correspond_iff_find? (sorted : fields.IsSorted) (sorted' : fields'.IsSorted) :
    Correspond R fields fields'
      ↔ ∀ name, Option.Rel R (fields.find? name) (fields'.find? name) := by
  refine ⟨Correspond.find?, fun under => ?_⟩
  induction fields generalizing fields' with
  | nil =>
    cases fields' with
    | nil => exact .nil
    | cons entry _ =>
      have only := under entry.1
      rw [find?_cons_self] at only
      cases only
  | cons entry rest ih =>
    obtain ⟨n, a⟩ := entry
    obtain ⟨above, rest_sorted⟩ := isSorted_cons.mp sorted
    have first := under n
    rw [find?_cons_self] at first
    cases fields' with
    | nil => cases first
    | cons entry' rest' =>
      obtain ⟨m, b⟩ := entry'
      obtain ⟨above', rest_sorted'⟩ := isSorted_cons.mp sorted'
      have first' := under m
      rw [find?_cons_self] at first'
      -- the lesser of the two first names would be found on one side only
      obtain less | rfl | more := lt_trichotomy n m
      · have missing : find? ((m, b) :: rest') n = none := find?_of_lt
          (List.forall_mem_cons.mpr ⟨less, fun entry mem => lt_trans less (above' entry mem)⟩)
        rw [missing] at first
        cases first
      · rw [find?_cons_self] at first
        refine .cons ⟨rfl, Option.rel_some_some.mp first⟩
          (ih rest_sorted rest_sorted' fun name => ?_)
        by_cases here : n = name
        · subst here
          rw [find?_of_lt above, find?_of_lt above']
          exact .none
        · have both := under name
          rwa [find?_cons_of_ne here, find?_cons_of_ne here] at both
      · have missing : find? ((n, a) :: rest) m = none := find?_of_lt
          (List.forall_mem_cons.mpr ⟨more, fun entry mem => lt_trans more (above entry mem)⟩)
        rw [missing] at first'
        cases first'

end PredicateLang.Fields
