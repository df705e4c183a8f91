import PredicateLang.Value

/-!
# Kinds

A kind says what is known about a value before it is there. It is given, or inferred from a sample
value (`Kind.ofValue`), and lowering looks at nothing else. `any` stands for a value that may turn
out to be anything, and `null` for the literal that is always absent; the two are the dynamic
kinds, on which every operation is put off until evaluation.

Twelve scalar kinds can be cast to one another. They are ranked by precision, from the bytes up to
GUIDs, and of two kinds that meet in a comparison the lower ranked is cast to the higher.
-/

namespace PredicateLang

/-- The kind of a value. A record lists the kinds of its fields; an open record may have more. -/
inductive Kind where
  | any
  | null
  | boolean
  | integer (k : IntegerKind)
  | float
  | double
  | string
  | guid
  | date
  | sequence (element : Kind)
  | record (name : String) (fields : List (String × Kind)) (isOpen : Bool)

namespace Kind

/-! ## Equality -/

mutual

/-- Are two kinds the same? -/
def beq : Kind → Kind → Bool
  | .any, .any | .null, .null | .boolean, .boolean | .float, .float | .double, .double
  | .string, .string | .guid, .guid | .date, .date => true
  | .integer k, .integer l => k == l
  | .sequence a, .sequence b => beq a b
  | .record n fields o, .record m fields' p => n == m && beqFields fields fields' && o == p
  | _, _ => false

/-- Are two lists of fields the same? -/
def beqFields : List (String × Kind) → List (String × Kind) → Bool
  | [], [] => true
  | (n, a) :: rest, (m, b) :: rest' => n == m && beq a b && beqFields rest rest'
  | _, _ => false

end

mutual

theorem beq_refl : ∀ a : Kind, beq a a = true
  | .any | .null | .boolean | .float | .double | .string | .guid | .date => by simp [beq]
  | .integer _ => by simp [beq]
  | .sequence a => by simp [beq, beq_refl a]
  | .record _ fields _ => by simp [beq, beqFields_refl fields]

theorem beqFields_refl : ∀ fields : List (String × Kind), beqFields fields fields = true
  | [] => by simp [beqFields]
  | (_, a) :: rest => by simp [beqFields, beq_refl a, beqFields_refl rest]

end

mutual

theorem eq_of_beq : ∀ a b : Kind, beq a b = true → a = b
  | .sequence a, .sequence b, h => by
    simp only [beq] at h
    rw [eq_of_beq a b h]
  | .record n fields o, .record m fields' p, h => by
    simp only [beq, Bool.and_eq_true, beq_iff_eq] at h
    rw [h.1.1, eq_of_beqFields fields fields' h.1.2, h.2]
  | .integer k, .integer l, h => by
    simp only [beq, beq_iff_eq] at h
    rw [h]
  | .any, b, h | .null, b, h | .boolean, b, h | .float, b, h | .double, b, h | .string, b, h
  | .guid, b, h | .date, b, h => by
    cases b <;> simp_all [beq]
  | .integer k, .any, h | .integer k, .null, h | .integer k, .boolean, h | .integer k, .float, h
  | .integer k, .double, h | .integer k, .string, h | .integer k, .guid, h | .integer k, .date, h
  | .integer k, .sequence _, h | .integer k, .record _ _ _, h => by simp [beq] at h
  | .sequence a, .any, h | .sequence a, .null, h | .sequence a, .boolean, h
  | .sequence a, .float, h | .sequence a, .double, h | .sequence a, .string, h
  | .sequence a, .guid, h | .sequence a, .date, h | .sequence a, .integer _, h
  | .sequence a, .record _ _ _, h => by simp [beq] at h
  | .record n f o, .any, h | .record n f o, .null, h | .record n f o, .boolean, h
  | .record n f o, .float, h | .record n f o, .double, h | .record n f o, .string, h
  | .record n f o, .guid, h | .record n f o, .date, h | .record n f o, .integer _, h
  | .record n f o, .sequence _, h => by simp [beq] at h

theorem eq_of_beqFields :
    ∀ fields fields' : List (String × Kind), beqFields fields fields' = true → fields = fields'
  | [], [], _ => rfl
  | (n, a) :: rest, (m, b) :: rest', h => by
    simp only [beqFields, Bool.and_eq_true, beq_iff_eq] at h
    rw [h.1.1, eq_of_beq a b h.1.2, eq_of_beqFields rest rest' h.2]
  | [], _ :: _, h | _ :: _, [], h => by simp [beqFields] at h

end

instance : DecidableEq Kind := fun a b =>
  decidable_of_iff (beq a b = true) ⟨eq_of_beq a b, fun h => h ▸ beq_refl a⟩

/-! ## Classes of kinds -/

/-- Position among the kinds that can be cast to one another, the least precise first. -/
def rank? : Kind → Option Nat
  | .integer k => some k.rank
  | .float => some 8
  | .double => some 9
  | .string => some 10
  | .guid => some 11
  | _ => none

/-- Can the kind be cast to another? -/
def isCastable (k : Kind) : Bool := k.rank?.isSome

/-- The kinds of whole numbers. -/
def isInteger : Kind → Bool
  | .integer _ => true
  | _ => false

/-- The kinds of numbers. -/
def isNumeric : Kind → Bool
  | .integer _ | .float | .double => true
  | _ => false

/-- Kinds of collections. -/
def isSequence : Kind → Bool
  | .sequence _ => true
  | _ => false

/-- Kinds whose values may turn out to be anything. -/
def isDynamic : Kind → Bool
  | .any | .null => true
  | _ => false

/-- Kinds on which comparison is by a value and not by a structure. -/
def isScalar (k : Kind) : Bool :=
  k.isCastable || match k with
    | .boolean | .date => true
    | _ => false

/-- The kind of the items of a collection; of an unknown value, any. -/
def element? : Kind → Option Kind
  | .sequence element => some element
  | .any => some .any
  | _ => none

/-- What navigation yields in place of a property of something absent: false, zero or null. -/
def default : Kind → Value
  | .boolean => .boolean false
  | .integer k => .integer (.zero k)
  | .float => .float 0.0
  | .double => .double 0.0
  | _ => .null

/-- The kind in messages. A record is named and not described. -/
def text : Kind → String
  | .any => "any"
  | .null => "null"
  | .boolean => "boolean"
  | .integer k => k.name
  | .float => "float"
  | .double => "double"
  | .string => "string"
  | .guid => "guid"
  | .date => "date"
  | .sequence element => "sequence<" ++ element.text ++ ">"
  | .record name _ _ => name

/-! ## Inference -/

/-- The kind that all of the kinds are, or any. -/
def shared : List Kind → Kind
  | [] => .any
  | first :: rest => if rest.all (· = first) then first else .any

mutual

/-- The kind of a sample value. Null items and fields say nothing. An object is an open record. -/
def ofValue : Value → Kind
  | .null => .null
  | .boolean _ => .boolean
  | .integer n => .integer n.kind
  | .float _ => .float
  | .double _ => .double
  | .string _ => .string
  | .guid _ => .guid
  | .date _ => .date
  | .array items => .sequence (shared (ofItems items))
  | .object fields => .record "object" (ofFields fields) true

/-- The kinds of the items that are not null. -/
def ofItems : List Value → List Kind
  | [] => []
  | item :: rest => if item.isNull then ofItems rest else ofValue item :: ofItems rest

/-- The kinds of the fields that are not null. -/
def ofFields : List (String × Value) → List (String × Kind)
  | [] => []
  | (name, value) :: rest =>
    if value.isNull then ofFields rest else (name, ofValue value) :: ofFields rest

end

end Kind

end PredicateLang
