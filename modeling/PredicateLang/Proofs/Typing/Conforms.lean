import PredicateLang.Kind
import PredicateLang.Value.Conversion

/-!
# Values of a kind

`Value.Conforms v kind` says that a value is one of a kind: null is of every kind, everything is of
the kind `any`, a scalar of its own, the items of an array are of the kind of a sequence, and the
fields of an object of the kinds that a record lists for them.

The kinds that are inferred from values never have `null` for items or fields, since nulls say
nothing. That and the absence of GUIDs is what lowering relies on (`Kind.isRegular`).
-/

namespace PredicateLang

/-! ## Conformance -/

/-- The value is one of the kind. -/
inductive Value.Conforms : Value → Kind → Prop
  | null (kind : Kind) : Conforms .null kind
  | any (v : Value) : Conforms v .any
  | boolean (b : Bool) : Conforms (.boolean b) .boolean
  | integer {n : Integer} {k : IntegerKind} (h : n.kind = k) : Conforms (.integer n) (.integer k)
  | float (x : Float32) : Conforms (.float x) .float
  | double (x : Float) : Conforms (.double x) .double
  | string (s : String) : Conforms (.string s) .string
  | guid (g : Guid) : Conforms (.guid g) .guid
  | date (t : Instant) : Conforms (.date t) .date
  | array {items : List Value} {element : Kind} (h : ∀ item ∈ items, Conforms item element) :
      Conforms (.array items) (.sequence element)
  | object {entries : List (String × Value)} {recordName : String} {fields : List (String × Kind)}
      {isOpen : Bool} (h : ∀ name kind value, Fields.find? fields name = some kind →
        Fields.find? entries name = some value → Conforms value kind) :
      Conforms (.object entries) (.record recordName fields isOpen)

namespace Value

variable {v : Value} {kind : Kind}

theorem eq_null_of_isNull (h : v.isNull = true) : v = .null := by
  cases v with
  | null => rfl
  | _ => cases h

/-- Only null is of the kind `null`. -/
theorem Conforms.eq_null (h : v.Conforms .null) : v = .null := by
  cases h with
  | null => rfl

/-- Some of the items of an array are of every kind that the array is of. -/
theorem Conforms.sub {items kept : List Value} (h : (Value.array items).Conforms kind)
    (among : ∀ v ∈ kept, v ∈ items) : (Value.array kept).Conforms kind := by
  cases h with
  | any => exact .any _
  | array conform => exact .array fun v mem => conform v (among v mem)

/-- The numbers that the program makes itself. -/
theorem conforms_int (n : Int) : (Value.int n).Conforms (.integer .int) := .integer rfl

end Value

/-- The default of a kind is of the kind. -/
theorem Kind.conforms_default (kind : Kind) : kind.default.Conforms kind := by
  cases kind with
  | boolean => exact .boolean false
  | integer k => exact .integer rfl
  | float => exact .float 0.0
  | double => exact .double 0.0
  | _ => exact .null _

/-! ## Inference -/

namespace Kind

/-- The kind that kinds share is each of them, unless it is any. -/
theorem shared_eq {kinds : List Kind} {kind : Kind} (mem : kind ∈ kinds) :
    shared kinds = kind ∨ shared kinds = .any := by
  cases kinds with
  | nil => cases mem
  | cons first rest =>
    rw [shared]
    split
    · rename_i same
      left
      rcases List.mem_cons.mp mem with rfl | mem
      · rfl
      · exact (of_decide_eq_true (List.all_eq_true.mp same kind mem)).symm
    · exact .inr rfl

theorem mem_ofItems {items : List Value} {item : Value} (mem : item ∈ items)
    (there : item.isNull = false) : ofValue item ∈ ofItems items := by
  induction items with
  | nil => cases mem
  | cons first rest ih =>
    rw [ofItems]
    rcases List.mem_cons.mp mem with rfl | mem
    · rw [there]
      exact List.mem_cons_self
    · split
      · exact ih mem
      · exact List.mem_cons_of_mem _ (ih mem)

/-- A field that is inferred is one of the object, and so is its kind. -/
theorem find?_ofFields {entries : List (String × Value)} {name : String} {kind : Kind}
    {value : Value} (h : Fields.find? (ofFields entries) name = some kind)
    (found : Fields.find? entries name = some value) : value = .null ∨ kind = ofValue value := by
  induction entries with
  | nil => cases found
  | cons entry rest ih =>
    obtain ⟨other, first⟩ := entry
    rw [Fields.find?] at found
    rw [ofFields] at h
    by_cases same : other = name
    · rw [if_pos same] at found
      cases found
      cases null : value.isNull with
      | true => exact .inl (Value.eq_null_of_isNull null)
      | false =>
        rw [null, if_neg Bool.false_ne_true, Fields.find?, if_pos same] at h
        exact .inr (Option.some.inj h).symm
    · rw [if_neg same] at found
      split at h
      · exact ih h found
      · rw [Fields.find?, if_neg same] at h
        exact ih h found

end Kind

namespace Value

mutual

/-- Every value is of the kind that is inferred from it. -/
theorem conforms_ofValue (v : Value) : v.Conforms (.ofValue v) := by
  match v with
  | .null => exact .null _
  | .boolean b => exact .boolean b
  | .integer n => exact .integer rfl
  | .float x => exact .float x
  | .double x => exact .double x
  | .string s => exact .string s
  | .guid g => exact .guid g
  | .date t => exact .date t
  | .array items =>
    refine .array fun item mem => ?_
    cases there : item.isNull with
    | true =>
      rw [eq_null_of_isNull there]
      exact .null _
    | false =>
      rcases Kind.shared_eq (Kind.mem_ofItems mem there) with same | same
      · rw [same]
        exact conforms_ofItems items item mem
      · rw [same]
        exact .any item
  | .object entries =>
    refine .object fun name kind value listed found => ?_
    rcases Kind.find?_ofFields listed found with rfl | rfl
    · exact .null kind
    · exact conforms_ofFields entries name value found

theorem conforms_ofItems (items : List Value) : ∀ item ∈ items, item.Conforms (.ofValue item) := by
  match items with
  | [] => exact nofun
  | first :: rest =>
    exact List.forall_mem_cons.mpr ⟨conforms_ofValue first, conforms_ofItems rest⟩

theorem conforms_ofFields (entries : List (String × Value)) : ∀ name value,
    Fields.find? entries name = some value → value.Conforms (.ofValue value) := by
  match entries with
  | [] => exact nofun
  | (other, first) :: rest =>
    intro name value found
    rw [Fields.find?] at found
    split at found
    · cases found
      exact conforms_ofValue first
    · exact conforms_ofFields rest name value found

end

end Value

/-! ## Conversion -/

namespace Value

variable {v w : Value} {kind : Kind}

theorem ofValue_narrow {k : IntegerKind} {n : Int} (h : narrow? k n = some w) :
    Kind.ofValue w = .integer k := by
  obtain ⟨m, fits, rfl⟩ := Option.map_eq_some_iff.mp h
  exact congrArg Kind.integer (Integer.val_of_ofInt? fits).1

theorem ofValue_convertFloat {x : Float} (h : convertFloat? x kind = some w) :
    Kind.ofValue w = kind := by
  unfold convertFloat? at h
  split at h
  · obtain ⟨n, -, fits⟩ := Option.bind_eq_some_iff.mp h
    exact ofValue_narrow fits
  · cases h
    rfl
  · cases h
    rfl
  · cases h

theorem ofValue_convertString {s : String} (h : convertString? s kind = some w) :
    Kind.ofValue w = kind := by
  unfold convertString? at h
  split at h
  · obtain ⟨g, -, rfl⟩ := Option.map_eq_some_iff.mp h
    rfl
  · obtain ⟨n, -, fits⟩ := Option.bind_eq_some_iff.mp h
    exact ofValue_narrow fits
  · obtain ⟨x, -, rfl⟩ := Option.map_eq_some_iff.mp h
    rfl
  · obtain ⟨x, -, rfl⟩ := Option.map_eq_some_iff.mp h
    rfl
  · cases h

/-- What is converted to another kind is of that kind. -/
theorem ofValue_convertAcross (h : v.convertAcross? kind = some w) : Kind.ofValue w = kind := by
  unfold convertAcross? at h
  split at h
  · exact ofValue_narrow h
  · exact ofValue_narrow h
  · cases h
  · cases h
  · cases h
    rfl
  · exact ofValue_convertString h
  · obtain ⟨x, -, converted⟩ := Option.bind_eq_some_iff.mp h
    exact ofValue_convertFloat converted

theorem conforms_narrow {k : IntegerKind} {n : Int} (h : narrow? k n = some v) :
    v.Conforms (.integer k) :=
  ofValue_narrow h ▸ conforms_ofValue v

/-- What a value is converted to is of the kind asked for, unless the kind is not known. -/
theorem conforms_convert (h : v.convert? kind = some w) (known : kind.isDynamic = false) :
    w.Conforms kind := by
  unfold convert? at h
  split at h
  · rename_i same
    cases h
    rcases same with null | dynamic | rfl
    · rw [eq_null_of_isNull null]
      exact .null kind
    · rw [known] at dynamic
      cases dynamic
    · exact conforms_ofValue v
  · exact ofValue_convertAcross h ▸ conforms_ofValue w

end Value

/-! ## Regular kinds -/

mutual

/-- Are there no GUIDs in the kind, and are its items and fields more than nulls? -/
def Kind.isRegular : Kind → Bool
  | .guid => false
  | .sequence element => element ≠ .null && element.isRegular
  | .record _ fields _ => Kind.areRegular fields
  | _ => true

/-- Are the kinds of fields regular, and more than nulls? -/
def Kind.areRegular : List (String × Kind) → Bool
  | [] => true
  | (_, kind) :: rest => kind ≠ .null && kind.isRegular && Kind.areRegular rest

end

mutual

/-- Are there no GUIDs in the value? -/
def Value.isGuidFree : Value → Bool
  | .guid _ => false
  | .array items => Value.areGuidFree items
  | .object entries => Value.fieldsAreGuidFree entries
  | _ => true

/-- Are there no GUIDs in the values? -/
def Value.areGuidFree : List Value → Bool
  | [] => true
  | item :: rest => item.isGuidFree && Value.areGuidFree rest

/-- Are there no GUIDs in the values of fields? -/
def Value.fieldsAreGuidFree : List (String × Value) → Bool
  | [] => true
  | (_, value) :: rest => value.isGuidFree && Value.fieldsAreGuidFree rest

end

namespace Kind

theorem isNumeric_of_isInteger {kind : Kind} (integer : kind.isInteger) : kind.isNumeric := by
  cases kind with
  | integer => rfl
  | _ => cases integer

/-- The kinds of numbers are known, no sequences, ranked and regular. -/
theorem of_isNumeric {kind : Kind} (numeric : kind.isNumeric) : kind.isDynamic = false
    ∧ kind.isSequence = false ∧ ∃ rank, kind.rank? = some rank ∧ kind.isRegular := by
  cases kind with
  | integer k => exact ⟨rfl, rfl, k.rank, rfl, rfl⟩
  | float => exact ⟨rfl, rfl, 8, rfl, rfl⟩
  | double => exact ⟨rfl, rfl, 9, rfl, rfl⟩
  | _ => cases numeric

/-- Of the dynamic kinds one has more than null. -/
theorem eq_any_of_isDynamic {kind : Kind} (dynamic : kind.isDynamic) (more : kind ≠ .null) :
    kind = .any := by
  cases kind with
  | any => rfl
  | null => exact absurd rfl more
  | _ => cases dynamic

theorem isRegular_of_find? {fields : List (String × Kind)} {name : String} {kind : Kind}
    (regular : areRegular fields) (h : Fields.find? fields name = some kind) :
    kind ≠ .null ∧ kind.isRegular := by
  induction fields with
  | nil => cases h
  | cons field rest ih =>
    obtain ⟨other, first⟩ := field
    simp only [areRegular, Bool.and_eq_true, decide_eq_true_eq] at regular
    rw [Fields.find?] at h
    split at h
    · cases h
      exact regular.1
    · exact ih regular.2 h

/-- The items of a regular kind are of a regular kind, and more than nulls. -/
theorem isRegular_of_element? {kind element : Kind} (regular : kind.isRegular)
    (h : kind.element? = some element) : element ≠ .null ∧ element.isRegular := by
  cases kind with
  | sequence =>
    cases h
    rw [isRegular, Bool.and_eq_true] at regular
    exact ⟨of_decide_eq_true regular.1, regular.2⟩
  | any =>
    cases h
    exact ⟨nofun, rfl⟩
  | _ => cases h

theorem shared_mem (kinds : List Kind) : shared kinds ∈ kinds ∨ shared kinds = .any := by
  cases kinds with
  | nil => exact .inr rfl
  | cons first rest =>
    rw [shared]
    split
    · exact .inl List.mem_cons_self
    · exact .inr rfl

theorem ofValue_ne_null {v : Value} (there : v.isNull = false) : ofValue v ≠ .null := by
  cases v with
  | null => cases there
  | _ => rw [ofValue]; exact nofun

mutual

/-- The kind of a value without GUIDs is regular. -/
theorem isRegular_ofValue (v : Value) (free : v.isGuidFree) : (ofValue v).isRegular := by
  match v with
  | .null | .boolean _ | .integer _ | .float _ | .double _ | .string _ | .date _ => rfl
  | .guid _ => cases free
  | .array items =>
    have regular := isRegular_ofItems items free
    rw [ofValue, isRegular, Bool.and_eq_true, decide_eq_true_eq]
    rcases shared_mem (ofItems items) with mem | any
    · exact regular _ mem
    · rw [any]
      exact ⟨nofun, rfl⟩
  | .object entries =>
    rw [ofValue, isRegular]
    exact areRegular_ofFields entries free

theorem isRegular_ofItems (items : List Value) (free : Value.areGuidFree items) :
    ∀ kind ∈ ofItems items, kind ≠ .null ∧ kind.isRegular := by
  match items with
  | [] => exact nofun
  | first :: rest =>
    rw [Value.areGuidFree, Bool.and_eq_true] at free
    have others := isRegular_ofItems rest free.2
    rw [ofItems]
    cases there : first.isNull with
    | true => exact others
    | false =>
      refine List.forall_mem_cons.mpr ⟨⟨ofValue_ne_null there, ?_⟩, others⟩
      exact isRegular_ofValue first free.1

theorem areRegular_ofFields (entries : List (String × Value))
    (free : Value.fieldsAreGuidFree entries) : areRegular (ofFields entries) := by
  match entries with
  | [] => rfl
  | (name, first) :: rest =>
    rw [Value.fieldsAreGuidFree, Bool.and_eq_true] at free
    have others := areRegular_ofFields rest free.2
    rw [ofFields]
    cases there : first.isNull with
    | true => exact others
    | false =>
      have regular := isRegular_ofValue first free.1
      simp only [Bool.false_eq_true, if_false, areRegular, regular, others, Bool.and_true,
        decide_eq_true_eq]
      exact ofValue_ne_null there

end

end Kind

end PredicateLang
