import PredicateLang.Evaluation

/-!
# Operations on values know no names

No operation on values fails because a name does not stand for anything: `Evaluation.Nameless` says
this of a result. Only looking a name up can fail so.
-/

namespace PredicateLang.Evaluation

variable {α β : Type}

/-- The result is no failure because of a name. -/
def Nameless (result : Except Error α) : Prop :=
  ∀ name, result ≠ .error (.evaluation (.unboundParameter name))

/-! ## Rules -/

theorem nameless_ok (a : α) : Nameless (.ok a : Except Error α) := nofun

theorem nameless_error {e : Error} (other : ∀ name, e ≠ .evaluation (.unboundParameter name)) :
    Nameless (.error e : Except Error α) := by
  intro name failed
  cases failed
  exact other name rfl

theorem nameless_fault {f : EvaluationFault} (other : ∀ name, f ≠ .unboundParameter name) :
    Nameless (fault f : Except Error α) :=
  nameless_error fun name same => other name (Error.evaluation.inj same)

theorem Nameless.bind {result : Except Error α} {next : α → Except Error β}
    (h : Nameless result) (h' : ∀ a, Nameless (next a)) : Nameless (result >>= next) := by
  cases result with
  | error e =>
    intro name failed
    exact h name (congrArg _ (Except.error.inj failed))
  | ok a => exact h' a

/-! ## Numbers -/

theorem nameless_narrow (kind : IntegerKind) (n : Int) : Nameless (narrow kind n) := by
  unfold narrow
  split
  · exact nameless_ok _
  · exact nameless_fault nofun

theorem nameless_integerBinary (kind : Kind) (op : BinaryOp) (a b : Integer) :
    Nameless (integerBinary kind op a b) := by
  unfold integerBinary
  split
  · exact nameless_error nofun
  · split
    · exact nameless_narrow _ _
    · exact nameless_fault nofun

theorem nameless_floatBinary (kind : Kind) (op : BinaryOp) (x y : Float) :
    Nameless (floatBinary kind op x y) := by
  unfold floatBinary
  split
  · exact nameless_ok _
  · exact nameless_fault nofun

theorem nameless_arithmetic (kind : Kind) (op : BinaryOp) (left right : Value) :
    Nameless (arithmetic kind op left right) := by
  unfold arithmetic
  split
  · exact nameless_ok _
  · exact nameless_ok _
  · split
    · split
      · exact nameless_floatBinary _ _ _ _
      · exact nameless_integerBinary _ _ _ _
    · split
      · exact nameless_floatBinary _ _ _ _
      · exact nameless_fault nofun

theorem nameless_binary (kind : Kind) (op : BinaryOp) (left right : Value) :
    Nameless (binary kind op left right) := by
  unfold binary
  split
  · exact nameless_ok _
  · exact nameless_arithmetic _ _ _ _

theorem nameless_onInteger (f : Int → Int) (v : Value) : Nameless (onInteger f v) := by
  unfold onInteger
  split
  · exact nameless_ok _
  · exact nameless_narrow _ _
  · exact nameless_fault nofun

theorem nameless_unary (op : UnaryOp) (v : Value) : Nameless (unary op v) := by
  unfold unary
  split
  · exact nameless_ok _
  · exact nameless_ok _
  · exact nameless_fault nofun
  · exact nameless_ok _
  · exact nameless_ok _
  · exact nameless_onInteger _ _
  · exact nameless_onInteger _ _

theorem nameless_onFloat (f : Float → Float) (v : Value) : Nameless (onFloat f v) := by
  unfold onFloat
  split
  · exact nameless_ok _
  · split
    · exact nameless_ok _
    · exact nameless_fault nofun

theorem nameless_onFraction (f : Float → Float) (v : Value) : Nameless (onFraction f v) := by
  unfold onFraction
  split
  · exact nameless_ok _
  · exact nameless_onFloat _ _

theorem nameless_absolute (v : Value) : Nameless (absolute v) := by
  unfold absolute
  split
  · exact nameless_ok _
  · exact nameless_ok _
  · exact nameless_onInteger _ _

theorem nameless_randomBound (v : Value) : Nameless (randomBound v) := by
  unfold randomBound
  split
  · exact nameless_fault nofun
  · split
    · exact nameless_fault nofun
    · exact nameless_ok _

/-! ## Collections -/

theorem nameless_countValue (n : Nat) : Nameless (countValue n) := by
  unfold countValue
  split
  · exact nameless_ok _
  · exact nameless_fault nofun

theorem nameless_count (v : Value) : Nameless (count v) := by
  unfold count
  split
  · exact nameless_ok _
  iterate 3 exact nameless_countValue _
  exact nameless_fault nofun

mutual

theorem nameless_property (name : String) (v : Value) : Nameless (property name v) := by
  cases v with
  | null => exact nameless_ok _
  | object => exact nameless_ok _
  | array items => exact (nameless_propertyOfAll name items).bind fun _ => nameless_ok _
  | _ => exact nameless_fault nofun

theorem nameless_propertyOfAll (name : String) (items : List Value) :
    Nameless (propertyOfAll name items) := by
  match items with
  | [] => exact nameless_ok _
  | item :: rest =>
    exact (nameless_property name item).bind fun _ =>
      (nameless_propertyOfAll name rest).bind fun _ => nameless_ok _

end

theorem nameless_elementAt (source index : Value) : Nameless (elementAt source index) := by
  unfold elementAt
  split
  · exact nameless_ok _
  · split
    · exact nameless_ok _
    · exact nameless_ok _
    · exact nameless_fault nofun
  · exact nameless_fault nofun

theorem nameless_contains (haystack needle : Value) : Nameless (contains haystack needle) := by
  unfold contains
  split
  iterate 5 exact nameless_ok _
  exact nameless_fault nofun

theorem nameless_foldlM {f : β → α → Except Error β} (h : ∀ b a, Nameless (f b a))
    (items : List α) (b : β) : Nameless (items.foldlM f b) := by
  induction items generalizing b with
  | nil => exact nameless_ok _
  | cons item rest ih =>
    rw [List.foldlM_cons]
    exact (h b item).bind ih

theorem nameless_floatSum (total : Float) (items : List Value) :
    Nameless (floatSum total items) := by
  induction items generalizing total with
  | nil => exact nameless_ok _
  | cons item rest ih =>
    unfold floatSum
    split
    · exact ih _
    · exact nameless_fault nofun

theorem nameless_average (items : List Value) : Nameless (average items) := by
  unfold average
  split
  · exact nameless_ok _
  · exact (nameless_floatSum _ _).bind fun _ => nameless_ok _

theorem nameless_extreme (wanted : Ordering) (best : Value) (items : List Value) :
    Nameless (extreme wanted best items) := by
  induction items generalizing best with
  | nil => exact nameless_ok _
  | cons item rest ih =>
    unfold extreme
    split
    · exact ih _
    · exact nameless_fault nofun

theorem nameless_extremeOf (wanted : Ordering) (items : List Value) :
    Nameless (extremeOf wanted items) := by
  cases items with
  | nil => exact nameless_ok _
  | cons first rest => exact nameless_extreme wanted first rest

theorem nameless_reduce (kind : Kind) (reduction : Reduction) (items : List Value) :
    Nameless (reduce kind reduction items) := by
  cases reduction with
  | sum => exact nameless_foldlM (fun _ _ => nameless_binary _ _ _ _) _ _
  | average => exact nameless_average _
  | min | max => exact nameless_extremeOf _ _

/-! ## Dates and strings -/

theorem nameless_moveDate (date amount : Value) (unit : DateUnit) (whole : Bool) :
    Nameless (moveDate date amount unit whole) := by
  unfold moveDate
  split
  · exact nameless_ok _
  · split
    · exact nameless_ok _
    · split
      · exact nameless_fault nofun
      · dsimp only
        split
        · exact nameless_ok _
        · exact nameless_fault nofun
  · exact nameless_fault nofun

mutual

theorem nameless_onText (f : String → Value) (v : Value) : Nameless (onText f v) := by
  cases v with
  | null => exact nameless_ok _
  | string => exact nameless_ok _
  | array items => exact (nameless_onTexts f items).bind fun _ => nameless_ok _
  | _ => exact nameless_fault nofun

theorem nameless_onTexts (f : String → Value) (items : List Value) :
    Nameless (onTexts f items) := by
  match items with
  | [] => exact nameless_ok _
  | item :: rest =>
    exact (nameless_onText f item).bind fun _ => (nameless_onTexts f rest).bind fun _ =>
      nameless_ok _

end

theorem nameless_length (v : Value) : Nameless (length v) := by
  unfold length
  split
  · exact nameless_countValue _
  · exact nameless_onText _ _

theorem nameless_testStrings {test : String → String → Except Error Bool}
    (h : ∀ s p, Nameless (test s p)) (subject pattern : Value) :
    Nameless (testStrings test subject pattern) := by
  unfold testStrings
  split
  · exact (h _ _).bind fun _ => nameless_ok _
  · exact nameless_ok _
  · exact nameless_ok _
  · exact nameless_fault nofun

theorem nameless_matchesRegex (text pattern : String) : Nameless (matchesRegex text pattern) := by
  unfold matchesRegex
  split
  · exact nameless_ok _
  · exact nameless_fault nofun

/-! ## Casts -/

theorem nameless_mapError {made : Except EvaluationFault α}
    (h : ∀ name, made ≠ .error (.unboundParameter name)) :
    Nameless (made.mapError .evaluation) := by
  cases made with
  | ok a => exact nameless_ok a
  | error f => exact nameless_fault fun name same => h name (congrArg _ same)

theorem nameless_castToNumber (v : Value) : Nameless (v.castToNumber.mapError .evaluation) := by
  refine nameless_mapError fun name => ?_
  unfold Value.castToNumber
  split
  · nofun
  · nofun
  · split <;> nofun
  · nofun
  · split <;> nofun

theorem nameless_castToString (v : Value) : Nameless (v.castToString.mapError .evaluation) := by
  refine nameless_mapError fun name => ?_
  unfold Value.castToString
  split <;> nofun

theorem nameless_castToDate (v : Value) : Nameless (v.castToDate.mapError .evaluation) := by
  refine nameless_mapError fun name => ?_
  unfold Value.castToDate
  split
  · nofun
  · nofun
  · split <;> nofun
  · split
    · nofun
    · split <;> nofun

end PredicateLang.Evaluation
