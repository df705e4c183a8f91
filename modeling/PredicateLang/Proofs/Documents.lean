import PredicateLang.Proofs.Fields
import PredicateLang.Proofs.Integers.Operands
import PredicateLang.Value.Text

/-!
# Values that are documents

Documents and values are converted into each other without loss, as long as values keep to the kinds
that documents have: integers that fit 64 bits are long if they can be and unsigned long otherwise,
and every other number is a finite one of double precision. These values are the images of
documents, and the two conversions undo each other.
-/

namespace PredicateLang

/-! ## Documents -/

/-- A number that can stand in a document: an integer of 64 bits, with or without sign, or a finite
number of double precision. -/
inductive JsonNumber.IsProper : JsonNumber → Prop where
  | integer {n : Int} (fits : IntegerKind.long.Fits n ∨ IntegerKind.ulong.Fits n) :
    IsProper (.integer n)
  | float {x : Float} (finite : x.isFinite) : IsProper (.float x)

/-- A document: its numbers are proper, and the fields of its objects stand in order, each name
once. -/
inductive Json.IsProper : Json → Prop where
  | null : IsProper .null
  | boolean (b : Bool) : IsProper (.boolean b)
  | number {n : JsonNumber} (proper : n.IsProper) : IsProper (.number n)
  | string (s : String) : IsProper (.string s)
  | array {items : List Json} (each : ∀ item ∈ items, IsProper item) : IsProper (.array items)
  | object {fields : Fields Json} (sorted : fields.IsSorted)
    (each : ∀ entry ∈ fields, IsProper entry.2) : IsProper (.object fields)

/-- A value of the kinds that documents have. -/
inductive Value.IsDocument : Value → Prop where
  | null : IsDocument .null
  | boolean (b : Bool) : IsDocument (.boolean b)
  | long {n : Integer} (kind : n.kind = .long) : IsDocument (.integer n)
  | ulong {n : Integer} (kind : n.kind = .ulong) (above : IntegerKind.long.greatest < n.val) :
    IsDocument (.integer n)
  | double {x : Float} (finite : x.isFinite) : IsDocument (.double x)
  | string (s : String) : IsDocument (.string s)
  | array {items : List Value} (each : ∀ item ∈ items, IsDocument item) : IsDocument (.array items)
  | object {fields : Fields Value} (sorted : fields.IsSorted)
    (each : ∀ entry ∈ fields, IsDocument entry.2) : IsDocument (.object fields)

namespace Value

variable {n : Int} {x : Float} {d : Json} {v : Value}

/-! ## Numbers -/

theorem ofJsonNumber_long {m : Integer} (kind : m.kind = .long) :
    ofJsonNumber (.integer m.val) = .integer m := by
  have fits : Integer.ofInt? .long m.val = some m := kind ▸ Integer.ofInt?_val m
  simp only [ofJsonNumber, fits, Option.orElse_some]

theorem ofJsonNumber_ulong {m : Integer} (kind : m.kind = .ulong)
    (above : IntegerKind.long.greatest < m.val) : ofJsonNumber (.integer m.val) = .integer m := by
  have unfit : Integer.ofInt? .long m.val = none :=
    dif_neg fun fits => absurd fits.2 (Int.not_le.mpr above)
  have fits : Integer.ofInt? .ulong m.val = some m := kind ▸ Integer.ofInt?_val m
  simp only [ofJsonNumber, unfit, fits, Option.orElse_none]

/-- An integer of 64 bits is read as a long integer or, above those, as an unsigned one. -/
theorem exists_ofJsonNumber (fits : IntegerKind.long.Fits n ∨ IntegerKind.ulong.Fits n) :
    ∃ m : Integer, m.val = n ∧ ofJsonNumber (.integer n) = .integer m
      ∧ (Value.integer m).IsDocument := by
  by_cases signed : IntegerKind.long.Fits n
  · let m : Integer := ⟨.long, n, signed.1, signed.2⟩
    exact ⟨m, rfl, ofJsonNumber_long (m := m) rfl, .long rfl⟩
  · have unsigned := fits.resolve_left signed
    have above : IntegerKind.long.greatest < n := by
      have negative : IntegerKind.long.least ≤ IntegerKind.ulong.least := by decide
      exact Int.not_le.mp fun le => signed ⟨Int.le_trans negative unsigned.1, le⟩
    let m : Integer := ⟨.ulong, n, unsigned.1, unsigned.2⟩
    exact ⟨m, rfl, ofJsonNumber_ulong (m := m) rfl above, .ulong rfl above⟩

theorem floatToJson_of_finite (finite : x.isFinite) : floatToJson x = .number (.float x) :=
  if_pos finite

/-! ## Collections -/

theorem itemsToJson_eq (items : List Value) : itemsToJson items = items.map toJson := by
  induction items with
  | nil => rfl
  | cons item rest ih => rw [itemsToJson, ih, List.map_cons]

theorem itemsOfJson_eq (items : List Json) : itemsOfJson items = items.map ofJson := by
  induction items with
  | nil => rfl
  | cons item rest ih => rw [itemsOfJson, ih, List.map_cons]

theorem fieldsToJson_eq (fields : Fields Value) :
    fieldsToJson fields = fields.map fun entry => (entry.1, entry.2.toJson) := by
  induction fields with
  | nil => rfl
  | cons entry rest ih => rw [fieldsToJson, ih, List.map_cons]

theorem fieldsOfJson_eq (fields : Fields Json) :
    fieldsOfJson fields = fields.map fun entry => (entry.1, ofJson entry.2) := by
  induction fields with
  | nil => rfl
  | cons entry rest ih => rw [fieldsOfJson, ih, List.map_cons]

/-! ## There and back -/

/-- Every document is read as a value of the kinds that documents have. -/
theorem isDocument_ofJson (h : d.IsProper) : (ofJson d).IsDocument := by
  induction h with
  | null => exact .null
  | boolean b => exact .boolean b
  | number proper =>
    cases proper with
    | integer fits =>
      obtain ⟨m, -, read, document⟩ := exists_ofJsonNumber fits
      rw [ofJson, read]
      exact document
    | float finite => exact .double finite
  | string s => exact .string s
  | array _ ih =>
    rw [ofJson, itemsOfJson_eq]
    exact .array (List.forall_mem_map.mpr ih)
  | object sorted _ ih =>
    rw [ofJson, fieldsOfJson_eq]
    exact .object ((Fields.isSorted_map ofJson).mpr sorted) (List.forall_mem_map.mpr ih)

theorem toJson_ofJson (h : d.IsProper) : (ofJson d).toJson = d := by
  induction h with
  | null | boolean _ | string _ => rfl
  | number proper =>
    cases proper with
    | integer fits =>
      obtain ⟨m, rfl, read, -⟩ := exists_ofJsonNumber fits
      rw [ofJson, read, toJson]
    | float finite => exact floatToJson_of_finite finite
  | @array items _ ih =>
    rw [ofJson, toJson, itemsOfJson_eq, itemsToJson_eq, List.map_map]
    exact congrArg Json.array ((List.map_congr_left ih).trans (List.map_id items))
  | object _ _ ih =>
    rw [ofJson, toJson, fieldsOfJson_eq, fieldsToJson_eq, List.map_map]
    exact congrArg Json.object (Fields.map_eq_self (f := fun d => (ofJson d).toJson) ih)

/-- A value of the kinds that documents have is written as a document. -/
theorem isProper_toJson (h : v.IsDocument) : v.toJson.IsProper := by
  induction h with
  | null => exact .null
  | boolean b => exact .boolean b
  | @long n kind => exact .number (.integer (.inl (kind ▸ n.fits)))
  | @ulong n kind _ => exact .number (.integer (.inr (kind ▸ n.fits)))
  | double finite =>
    rw [toJson, floatToJson_of_finite finite]
    exact .number (.float finite)
  | string s => exact .string s
  | array _ ih =>
    rw [toJson, itemsToJson_eq]
    exact .array (List.forall_mem_map.mpr ih)
  | object sorted _ ih =>
    rw [toJson, fieldsToJson_eq]
    exact .object ((Fields.isSorted_map toJson).mpr sorted) (List.forall_mem_map.mpr ih)

theorem ofJson_toJson (h : v.IsDocument) : ofJson v.toJson = v := by
  induction h with
  | null | boolean _ | string _ => rfl
  | long kind => exact ofJsonNumber_long kind
  | ulong kind above => exact ofJsonNumber_ulong kind above
  | double finite =>
    rw [toJson, floatToJson_of_finite finite]
    rfl
  | @array items _ ih =>
    rw [toJson, ofJson, itemsToJson_eq, itemsOfJson_eq, List.map_map]
    exact congrArg Value.array ((List.map_congr_left ih).trans (List.map_id items))
  | object _ _ ih =>
    rw [toJson, ofJson, fieldsToJson_eq, fieldsOfJson_eq, List.map_map]
    exact congrArg Value.object (Fields.map_eq_self (f := fun v => ofJson v.toJson) ih)

/-- A document is read as a value that is written as the document again, and a value of the kinds
that documents have is written as a document that is read as the value again. -/
theorem document_round_trip :
    (∀ d : Json, d.IsProper → (ofJson d).IsDocument ∧ (ofJson d).toJson = d)
    ∧ ∀ v : Value, v.IsDocument → v.toJson.IsProper ∧ ofJson v.toJson = v :=
  ⟨fun _ proper => ⟨isDocument_ofJson proper, toJson_ofJson proper⟩,
    fun _ document => ⟨isProper_toJson document, ofJson_toJson document⟩⟩

/-- The document `{"a": [1, 2.5, "x", null], "b": 9223372036854775808}`, whose last number is the
first that is not long. -/
theorem document_round_trip_limit :
    let d : Json := .object [("a", .array [.number (.integer 1), .number (.float 2.5), .string "x",
      .null]), ("b", .number (.integer 9223372036854775808))]
    d.IsProper ∧ (ofJson d).toJson = d ∧ (ofJson d).IsDocument
      ∧ ofJson (ofJson d).toJson = ofJson d := by
  intro d
  have numbers : JsonNumber.IsProper (.integer 1) ∧ JsonNumber.IsProper (.float 2.5)
      ∧ JsonNumber.IsProper (.integer 9223372036854775808) :=
    ⟨.integer (.inl (by decide)), .float (by decide), .integer (.inr (by decide))⟩
  have proper : d.IsProper := by
    refine .object (by decide) ?_
    simp only [List.forall_mem_cons]
    refine ⟨.array ?_, .number numbers.2.2, nofun⟩
    simp only [List.forall_mem_cons]
    exact ⟨.number numbers.1, .number numbers.2.1, .string "x", .null, nofun⟩
  obtain ⟨document, written⟩ := document_round_trip.1 d proper
  exact ⟨proper, written, document, (document_round_trip.2 (ofJson d) document).2⟩

end Value

end PredicateLang
