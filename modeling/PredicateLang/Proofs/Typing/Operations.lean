import PredicateLang.Evaluation
import PredicateLang.Lowering.Call
import PredicateLang.Proofs.Result
import PredicateLang.Proofs.Typing.Conforms

/-!
# The kinds of results

What operations on values give, if they give anything: from operands of a kind, a value of the kind
that lowering writes down for the operation.
-/

namespace PredicateLang

namespace Evaluation

variable {kind : Kind} {op : BinaryOp} {l r v w : Value}

/-! ## Arithmetic -/

theorem conforms_narrow {k : IntegerKind} {n : Int} (h : narrow k n = .ok v) :
    v.Conforms (.integer k) := by
  unfold narrow at h
  split at h <;> cases h
  exact Value.conforms_narrow ‹_›

theorem conforms_integerBinary {k : IntegerKind} {a b : Integer}
    (h : integerBinary (.integer k) op a b = .ok v) : v.Conforms (.integer k) := by
  unfold integerBinary at h
  split at h
  · cases h
  · split at h
    · exact conforms_narrow h
    · cases h

theorem conforms_floatBinary {x y : Float} (fraction : kind = .float ∨ kind = .double)
    (h : floatBinary kind op x y = .ok v) : v.Conforms kind := by
  unfold floatBinary at h
  split at h <;> cases h
  rcases fraction with rfl | rfl
  · exact .float _
  · exact .double _

/-- No operation on bits is one on numbers with a fraction. -/
theorem floatBinary_shift (shift : op = .shiftLeft ∨ op = .shiftRight) {x y : Float} :
    floatBinary kind op x y ≠ .ok v := by
  have decimal : decimalResult? op x y = none := by
    unfold decimalResult?
    rcases shift with rfl | rfl <;> cases Number.Decimal.ofFloat? x <;>
      cases Number.Decimal.ofFloat? y <;> rfl
  rw [floatBinary, decimal]
  rcases shift with rfl | rfl <;> exact nofun

theorem arithmetic_integers {a b : Integer} (ne : op ≠ .power) :
    arithmetic kind op (.integer a) (.integer b) = integerBinary kind op a b := by
  cases op with
  | power => exact absurd rfl ne
  | _ => rfl

/-- Of two values of a kind of numbers, arithmetic gives one of that kind. Powers have a fraction. -/
theorem conforms_arithmetic (h : arithmetic kind op l r = .ok v) (numeric : kind.isNumeric)
    (fraction : op = .power → kind = .double) (left : l.Conforms kind) (right : r.Conforms kind) :
    v.Conforms kind := by
  cases kind with
  | integer k =>
    -- two integers of the kind, or null
    cases left with
    | null => cases h; exact .null _
    | integer same =>
      cases right with
      | null => cases h; exact .null _
      | integer same' =>
        by_cases power : op = .power
        · cases fraction power
        · rw [arithmetic_integers power] at h
          exact conforms_integerBinary h
  | float =>
    cases left with
    | null => cases h; exact .null _
    | float x =>
      cases right with
      | null => cases h; exact .null _
      | float y => exact conforms_floatBinary (.inl rfl) h
  | double =>
    cases left with
    | null => cases h; exact .null _
    | double x =>
      cases right with
      | null => cases h; exact .null _
      | double y => exact conforms_floatBinary (.inr rfl) h
  | _ => cases numeric

/-- A shifted integer is of the kind of the integer, whatever it is shifted by. -/
theorem conforms_shift (h : arithmetic kind op l r = .ok v)
    (shift : op = .shiftLeft ∨ op = .shiftRight) (integer : kind.isInteger)
    (left : l.Conforms kind) : v.Conforms kind := by
  cases kind with
  | integer k =>
    cases left with
    | null => cases h; exact .null _
    | integer same =>
      cases r with
      | null => cases h; exact .null _
      | integer b =>
        rw [arithmetic_integers (by rcases shift with rfl | rfl <;> exact nofun)] at h
        exact conforms_integerBinary h
      | float | double => exact absurd h (floatBinary_shift shift)
      | _ => cases h
  | _ => cases integer

/-! ## Functions of one value -/

theorem conforms_onInteger {f : Int → Int} (h : onInteger f v = .ok w) (arg : v.Conforms kind) :
    w.Conforms kind := by
  unfold onInteger at h
  split at h
  · cases h; exact .null _
  · cases arg with
    | any => exact .any _
    | integer same => exact same ▸ conforms_narrow h
  · cases h

/-- The negative and the complement of a value are of its kind. -/
theorem conforms_unary {op : UnaryOp} (h : unary op v = .ok w) (ne : op ≠ .not)
    (arg : v.Conforms kind) : w.Conforms kind := by
  unfold unary at h
  split at h
  · exact absurd rfl ne
  · exact absurd rfl ne
  · exact absurd rfl ne
  · cases h
    cases arg with
    | any => exact .any _
    | float => exact .float _
  · cases h
    cases arg with
    | any => exact .any _
    | double => exact .double _
  · exact conforms_onInteger h arg
  · exact conforms_onInteger h arg

theorem conforms_absolute (h : absolute v = .ok w) (arg : v.Conforms kind) : w.Conforms kind := by
  unfold absolute at h
  split at h
  · cases h
    cases arg with
    | any => exact .any _
    | float => exact .float _
  · cases h
    cases arg with
    | any => exact .any _
    | double => exact .double _
  · exact conforms_onInteger h arg

theorem conforms_onFloat {f : Float → Float} (h : onFloat f v = .ok w) : w.Conforms .double := by
  unfold onFloat at h
  split at h
  · cases h; exact .null _
  · split at h <;> cases h
    exact .double _

/-- A rounded number is of the kind that rounding gives. -/
theorem conforms_onFraction {f : Float → Float} (h : onFraction f v = .ok w)
    (arg : v.Conforms kind) : w.Conforms (Lowering.roundedKind kind) := by
  cases arg with
  | any => exact .any _
  | integer same => cases h; exact .integer same
  | null =>
    cases h; exact .null _
  | float x => exact conforms_onFloat (show onFloat f (.float x) = .ok w from h)
  | double x => exact conforms_onFloat (show onFloat f (.double x) = .ok w from h)
  | _ => cases h

/-! ## Collections -/

/-- A property of a value that is no array is of the kind that its kind has for the property. -/
theorem conforms_property {name : String} {found : Kind} (h : property name v = .ok w)
    (receiver : v.Conforms kind) (known : kind.property name = .ok found) : w.Conforms found := by
  cases receiver with
  | null => cases h; exact .null _
  | any => cases known; exact .any _
  | object fields =>
    rename_i entries recordName listed isOpen
    cases h
    unfold Kind.property at known
    dsimp only at known
    split at known
    · cases known
      cases entry : Fields.find? entries name with
      | none => exact .null _
      | some value => exact fields _ _ _ ‹_› entry
    · split at known <;> cases known
      exact .any _
  | _ => cases known

/-- The items of a value are of the kind of the items of its kind. -/
theorem conforms_items {items : List Value} {element : Kind} (source : (Value.array items).Conforms kind)
    (known : kind.element? = some element) : ∀ item ∈ items, item.Conforms element := by
  cases source with
  | any =>
    cases known
    exact fun item _ => .any item
  | array conform =>
    cases known
    exact conform

theorem conforms_elementAt {element : Kind} (h : elementAt l r = .ok v) (source : l.Conforms kind)
    (known : kind.element? = some element) : v.Conforms element := by
  unfold elementAt at h
  split at h
  · cases h; exact .null _
  · split at h
    · cases h; exact .null _
    · cases h
      split
      · rename_i items _ n _
        cases found : items[n.val.toNat]? with
        | none => exact .null _
        | some item => exact conforms_items source known item (List.mem_of_getElem? found)
      · exact .null _
    · cases h
  · cases h

/-! ## Reductions -/

/-- A sum of numbers of a kind is of that kind, at every step. -/
theorem conforms_sum {items : List Value} {total : Value} (numeric : kind.isNumeric)
    (conform : ∀ item ∈ items, item.Conforms kind) (start : total.Conforms kind)
    (h : items.foldlM (fun total item => binary kind .add total item) total = .ok v) :
    v.Conforms kind := by
  induction items generalizing total with
  | nil => cases h; exact start
  | cons first rest ih =>
    rw [List.foldlM_cons] at h
    obtain ⟨next, added, h⟩ := exists_of_bind_ok h
    have next_conforms : next.Conforms kind :=
      conforms_arithmetic added numeric nofun start (conform first List.mem_cons_self)
    exact ih (fun item mem => conform item (List.mem_cons_of_mem _ mem)) next_conforms h

theorem conforms_extreme {wanted : Ordering} {items : List Value} {best : Value}
    (conform : ∀ item ∈ items, item.Conforms kind) (start : best.Conforms kind)
    (h : extreme wanted best items = .ok v) : v.Conforms kind := by
  induction items generalizing best with
  | nil => cases h; exact start
  | cons first rest ih =>
    have first_conforms := conform first List.mem_cons_self
    have rest_conform : ∀ item ∈ rest, item.Conforms kind := fun item mem =>
      conform item (List.mem_cons_of_mem _ mem)
    rw [extreme] at h
    split at h
    · split at h
      · exact ih rest_conform first_conforms h
      · exact ih rest_conform start h
    · cases h

theorem conforms_extremeOf {wanted : Ordering} {items : List Value}
    (conform : ∀ item ∈ items, item.Conforms kind) (h : extremeOf wanted items = .ok v) :
    v.Conforms kind := by
  cases items with
  | nil => cases h; exact .null _
  | cons first rest =>
    exact conforms_extreme (fun item mem => conform item (List.mem_cons_of_mem _ mem))
      (conform first List.mem_cons_self) h

theorem conforms_average {items : List Value} (h : average items = .ok v) :
    v.Conforms .double := by
  unfold average at h
  split at h
  · cases h; exact .null _
  · obtain ⟨total, -, h⟩ := exists_of_bind_ok h
    cases h
    exact .double _

/-- Items of a kind are reduced to a value of the kind that a reduction of them has. -/
theorem conforms_reduce {reduction : Reduction} {items : List Value} {element : Kind}
    (reducible : Lowering.isReducible reduction element) (more : element ≠ .null)
    (conform : ∀ item ∈ items, item.Conforms element)
    (h : reduce (Lowering.reducedKind reduction element) reduction items = .ok v) :
    v.Conforms (Lowering.reducedKind reduction element) := by
  have present : ∀ item ∈ items.filter fun item => !item.isNull, item.Conforms element :=
    fun item mem => conform item (List.mem_filter.mp mem).1
  cases reduction with
  | min | max => exact conforms_extremeOf present h
  | sum =>
    cases dynamic : element.isDynamic with
    | true =>
      rw [Kind.eq_any_of_isDynamic dynamic more]
      exact .any v
    | false =>
      have numeric : element.isNumeric := by
        simpa [Lowering.isReducible, dynamic] using reducible
      have total : (if element.isDynamic then Value.int 0 else element.default).Conforms element := by
        rw [dynamic]
        exact element.conforms_default
      exact conforms_sum numeric present total h
  | average =>
    cases dynamic : element.isDynamic with
    | true =>
      rw [Kind.eq_any_of_isDynamic dynamic more]
      exact .any v
    | false =>
      have kind_eq : Lowering.reducedKind .average element = .double := by
        simp [Lowering.reducedKind, dynamic]
      rw [kind_eq]
      exact conforms_average h

/-! ## Texts, dates and casts -/

theorem conforms_countValue {n : Nat} (h : countValue n = .ok v) :
    v.Conforms (.integer .int) := by
  unfold countValue at h
  split at h <;> cases h
  exact Value.conforms_narrow ‹_›

theorem conforms_count (h : count v = .ok w) : w.Conforms (.integer .int) := by
  unfold count at h
  split at h
  · cases h; exact Value.conforms_int 0
  · exact conforms_countValue h
  · exact conforms_countValue h
  · exact conforms_countValue h
  · cases h

theorem conforms_length (h : length v = .ok w) : w.Conforms (.integer .int) := by
  cases v with
  | array items => exact conforms_countValue (show countValue items.length = .ok w from h)
  | null => cases h; exact .null _
  | string => cases h; exact Value.conforms_int _
  | _ => cases h

theorem conforms_moveDate {unit : DateUnit} {whole : Bool} (h : moveDate l r unit whole = .ok v) :
    v.Conforms .date := by
  unfold moveDate at h
  split at h
  · cases h; exact .null _
  · split at h
    · cases h; exact .null _
    · split at h
      · cases h
      · dsimp only at h
        split at h <;> cases h
        exact .date _
  · cases h

end Evaluation

namespace Value

variable {v w : Value}

theorem conforms_castToNumber (h : v.castToNumber = .ok w) : w.Conforms .double := by
  unfold castToNumber at h
  split at h
  · cases h; exact .null _
  · cases h; exact .double _
  · split at h <;> cases h
    exact .double _
  · cases h; exact .double _
  · split at h <;> cases h
    exact .double _

theorem conforms_castToString (h : v.castToString = .ok w) : w.Conforms .string := by
  unfold castToString at h
  split at h <;> cases h
  · exact .null _
  · exact .string _

theorem conforms_castToDate (h : v.castToDate = .ok w) : w.Conforms .date := by
  unfold castToDate at h
  split at h
  · cases h; exact .null _
  · cases h; exact .date _
  · split at h <;> cases h
    exact .date _
  · split at h
    · cases h
    · split at h <;> cases h
      exact .date _

end Value

end PredicateLang
