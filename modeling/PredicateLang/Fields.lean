/-!
# Named entries

Objects, record kinds and JSON documents hold entries under names. The entries stand in the order
of their names, each name once: this is the order in which documents are written, and it makes two
collections with the same entries equal. `insert` keeps the order; `find?` does not rely on it.
-/

namespace PredicateLang

/-- Entries under names, in the order of the names. -/
abbrev Fields (α : Type) := List (String × α)

namespace Fields

variable {α β : Type}

/-- The entry under a name. -/
def find? : Fields α → String → Option α
  | [], _ => none
  | (n, a) :: rest, name => if n = name then some a else find? rest name

/-- Is there an entry under the name? -/
def hasName (fields : Fields α) (name : String) : Bool := (fields.find? name).isSome

/-- Puts an entry under a name, in place of one that was there. -/
def insert (name : String) (a : α) : Fields α → Fields α
  | [] => [(name, a)]
  | (n, b) :: rest =>
    if name = n then (name, a) :: rest
    else if name < n then (name, a) :: (n, b) :: rest
    else (n, b) :: insert name a rest

/-- The entries of a list; of several under one name the last. -/
def ofList (entries : List (String × α)) : Fields α :=
  entries.foldl (fun fields (name, a) => fields.insert name a) []

/-- The names in their order. -/
def names (fields : Fields α) : List String := fields.map Prod.fst

@[simp] theorem find?_insert_self (fields : Fields α) (name : String) (a : α) :
    (fields.insert name a).find? name = some a := by
  induction fields with
  | nil => simp [insert, find?]
  | cons entry rest ih => grind [insert, find?]

theorem find?_insert_of_ne (fields : Fields α) {name other : String} (a : α) (h : name ≠ other) :
    (fields.insert name a).find? other = fields.find? other := by
  induction fields with
  | nil => simp [insert, find?, h]
  | cons entry rest ih => grind [insert, find?]

end Fields

end PredicateLang
