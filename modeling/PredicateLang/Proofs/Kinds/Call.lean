import PredicateLang.Proofs.Condition
import PredicateLang.Proofs.Kinds.Lowering

/-!
# Functions and lists for different kinds

Of counterparts a builtin function makes counterparts, if it makes anything of both. What is
demanded of the arguments and what they are cast to depends on their kinds; what the function
becomes does not.
-/

namespace PredicateLang.Lowering

open Target (Resembles Changed Akin Counterpart resembles_call forall₂_changed)

variable {ρ : Naming} {t u s s' l l' r r' : Target}

/-! ## Demands on arguments -/

theorem makes_numeric (selector : String) (t : Target) : Makes (numeric selector t) (· = t) := by
  unfold numeric
  split
  · exact makes_pure rfl
  · exact makes_typeFault _

theorem makes_integral (selector : String) (t : Target) : Makes (integral selector t) (· = t) := by
  unfold integral
  split
  · exact makes_pure rfl
  · exact makes_typeFault _

theorem makes_fractional (t : Target) : Makes (fractional t) t.Changed := by
  unfold fractional
  split
  · exact makes_pure (.same t)
  · exact makes_ofResult fun _ => changed_of_cast

theorem makes_backendAmount (t : Target) : Makes (backendAmount t) t.Changed := by
  unfold backendAmount
  split
  · exact makes_ofResult fun _ => changed_of_cast
  · exact makes_pure (.same t)

/-- Operands of which the first steps make what they were. -/
theorem accord_numeric (selector : String) (h : Counterpart ρ t u) :
    Accord ρ (numeric selector t) (numeric selector u) (Counterpart ρ) := by
  refine (makes_numeric selector t).accord (makes_numeric selector u) ?_
  rintro _ _ rfl rfl
  exact h

theorem accord_integral (selector : String) (h : Counterpart ρ t u) :
    Accord ρ (integral selector t) (integral selector u) (Counterpart ρ) := by
  refine (makes_integral selector t).accord (makes_integral selector u) ?_
  rintro _ _ rfl rfl
  exact h

/-! ## Numbers -/

/-- The tree is the operation on the operands with something done to them. -/
def IsOperation (op : BinaryOp) (l r t : Target) : Prop :=
  ∃ kind l' r', t = .binary kind op l' r' ∧ l.Changed l' ∧ r.Changed r'

theorem IsOperation.akin {op : BinaryOp} (h : IsOperation op l r t) (h' : IsOperation op l' r' u)
    (left : Resembles ρ l l') (right : Resembles ρ r r') : Akin ρ t u := by
  obtain ⟨kind, l₁, r₁, rfl, changeL, changeR⟩ := h
  obtain ⟨kind', l₂, r₂, rfl, changeL', changeR'⟩ := h'
  exact ⟨(left.changed changeL changeL').binary (right.changed changeR changeR') op kind kind',
    rfl, rfl⟩

theorem makes_onSharedKind (op : BinaryOp) (l r : Target) :
    Makes (onSharedKind op l r) (IsOperation op l r) := by
  unfold onSharedKind
  split
  · exact makes_pure ⟨_, l, r, rfl, .same l, .same r⟩
  · refine (makes_ofResult fun _ => Target.isCast_of_makeComparable).bind ?_
    rintro ⟨l', r'⟩ ⟨left, right⟩
    exact makes_pure ⟨_, l', r', rfl, changed_of_isCast left, changed_of_isCast right⟩

theorem makes_arithmetic (selector : String) (op : BinaryOp) (l r : Target) :
    Makes (arithmetic selector op l r) (IsOperation op l r) := by
  refine (makes_numeric selector l).bind ?_
  rintro l rfl
  refine (makes_numeric selector r).bind ?_
  rintro r rfl
  split
  · refine (makes_ofResult fun _ => changed_of_cast).bind fun l' left => ?_
    refine (makes_ofResult fun _ => changed_of_cast).bind fun r' right => ?_
    exact makes_pure ⟨_, l', r', rfl, left, right⟩
  · exact makes_onSharedKind op l r

theorem accord_arithmetic (selector : String) (op : BinaryOp) (h : Resembles ρ l l')
    (h' : Resembles ρ r r') :
    Accord ρ (arithmetic selector op l r) (arithmetic selector op l' r') (Akin ρ) :=
  (makes_arithmetic selector op l r).accord (makes_arithmetic selector op l' r')
    fun _ _ is is' => is.akin is' h h'

/-! ## Calls -/

theorem akin_call {builtin : Builtin} {ts us : List Target}
    (still : builtin ≠ .random ∧ builtin ≠ .randomBelow) (h : List.Forall₂ (Resembles ρ) ts us)
    (kind kind' : Kind) : Akin ρ (.call kind builtin ts) (.call kind' builtin us) :=
  ⟨resembles_call still h kind kind', rfl, rfl⟩

theorem ne_of_isRandom_eq_false {builtin : Builtin} (still : builtin.isRandom = false) :
    builtin ≠ .random ∧ builtin ≠ .randomBelow := by
  simpa [Builtin.isRandom] using still

/-! ### Casts -/

theorem accord_castLater {builtin : Builtin} (still : builtin.isRandom = false) (kind : Kind)
    (h : Counterpart ρ t u) :
    Accord ρ (castTo.castLater t builtin kind) (castTo.castLater u builtin kind)
      (Counterpart ρ) := by
  refine accord_dialect.bind ?_
  rintro dialect _ rfl
  split
  · exact accord_throw _
  · exact accord_pure (.akin (akin_call (ne_of_isRandom_eq_false still)
      (.cons h.resembles .nil) kind kind))

/-- The cast of a constant, now, or of anything else later. -/
theorem accord_castNow {builtin : Builtin} (still : builtin.isRandom = false) (kind : Kind)
    (cast : Value → Except EvaluationFault Value) (h : Counterpart ρ t u) :
    Accord ρ
      (match t.constant? with
        | some constant =>
          if constant.isNull then castTo.castLater t builtin kind
          else
            match cast constant with
            | .ok result => return .ofValue result
            | .error fault => throw (.evaluation fault)
        | none => castTo.castLater t builtin kind)
      (match t.constant? with
        | some constant =>
          if constant.isNull then castTo.castLater u builtin kind
          else
            match cast constant with
            | .ok result => return .ofValue result
            | .error fault => throw (.evaluation fault)
        | none => castTo.castLater u builtin kind)
      (Counterpart ρ) := by
  split
  · split
    · exact accord_castLater still kind h
    · split
      · exact accord_pure (.value _)
      · exact accord_throw _
  · exact accord_castLater still kind h

theorem accord_castTo (h : Counterpart ρ t u) (h' : Counterpart ρ s s') :
    Accord ρ (castTo t s) (castTo u s') (Counterpart ρ) := by
  unfold castTo
  rw [h'.constantString?_eq, h.constant?_eq]
  split
  · dsimp only
    split
    iterate 3 exact accord_castNow rfl _ _ h
    exact (accord_typeFault (P := fun _ _ => False) _).bind fun _ _ never => never.elim
  · exact accord_typeFault _

/-! ### Dates -/

theorem accord_moveDate (selector : String) (unit : DateUnit) (h : Counterpart ρ t u)
    (h' : Counterpart ρ s s') :
    Accord ρ (moveDate selector unit t s) (moveDate selector unit u s') (Akin ρ) := by
  have objects : Accord ρ
      (do
        let amount ← fractional s
        guarded t fun date => return .call .date (.dateAdd unit) [date, amount])
      (do
        let amount ← fractional s'
        guarded u fun date => return .call .date (.dateAdd unit) [date, amount]) (Akin ρ) := by
    refine ((makes_fractional s).accord (makes_fractional s')
      fun _ _ change change' => h'.resembles.changed change change').bind fun a a' amount => ?_
    exact accord_guarded h fun ρ' _ _ extend date => accord_pure (akin_call (by simp)
      (.cons date.resembles (.cons (amount.extend extend) .nil)) _ _)
  have backend : Accord ρ
      (do return .call .date (.backendDateAdd unit) [t, ← backendAmount s])
      (do return .call .date (.backendDateAdd unit) [u, ← backendAmount s']) (Akin ρ) := by
    refine ((makes_backendAmount s).accord (makes_backendAmount s')
      fun _ _ change change' => h'.resembles.changed change change').bind fun a a' amount => ?_
    exact accord_pure (akin_call (by simp) (.cons h.resembles (.cons amount .nil)) _ _)
  have unchanged : Accord ρ (numeric selector s) (numeric selector s')
      fun amount amount' => amount = s ∧ amount' = s' :=
    (makes_numeric selector s).accord (makes_numeric selector s') fun _ _ => And.intro
  refine unchanged.bind ?_
  rintro s s' ⟨rfl, rfl⟩
  -- Each of the two dates may be of three kinds.
  split
  iterate 3
    split
    iterate 3
      refine accord_dialect.bind ?_
      rintro dialect _ rfl
      cases dialect with
      | objects => exact objects
      | backend => exact backend
    exact accord_typeFault' _
  exact accord_typeFault _

/-! ### Collections -/

theorem accord_indexBySymbol (element element' : Kind) (symbol : IndexSymbol)
    (h : Counterpart ρ t u) :
    Accord ρ (indexBySymbol t element symbol) (indexBySymbol u element' symbol) (Akin ρ) := by
  have number (ρ' : Naming) (i : Int) : Resembles ρ' (.ofValue (.int i)) (.ofValue (.int i)) :=
    (Counterpart.value _).resembles
  cases symbol with
  | size => exact accord_count h
  | first =>
    exact accord_guarded h fun ρ' _ _ _ source =>
      accord_pure ⟨source.resembles.elementAt (number ρ' 0) _ _, rfl, rfl⟩
  | last =>
    unfold indexBySymbol
    refine accord_guarded h fun ρ' s s' _ source => ?_
    have place := (source.resembles.count (.integer .int) (.integer .int)).binary (number ρ' 1)
      .subtract (.integer .int) (.integer .int)
    exact accord_pure ⟨source.resembles.elementAt place element element', rfl, rfl⟩

theorem accord_indexBy (element element' : Kind) (h : Counterpart ρ t u)
    (h' : Counterpart ρ s s') :
    Accord ρ (indexBy t element s) (indexBy u element' s') (Akin ρ) :=
  (accord_integral _ h').bind fun _ _ index =>
    accord_guarded h fun _ _ _ extend source =>
      accord_pure ⟨source.resembles.elementAt (index.resembles.extend extend) _ _, rfl, rfl⟩

theorem accord_list {ts us : List Target} (h : List.Forall₂ (Counterpart ρ) ts us) :
    Accord ρ (list ts) (list us) (Counterpart ρ) := by
  have makes (ts : List Target) : Makes (list ts) fun t =>
      ∃ element ts', t = .list (.sequence element) ts' ∧ List.Forall₂ Changed ts ts' := by
    unfold list
    dsimp only
    split
    · exact (makes_ofResult fun _ => changed_of_castAll).bind fun ts' changed =>
        makes_pure ⟨_, ts', rfl, changed⟩
    · exact makes_pure ⟨_, ts, rfl, List.forall₂_same.mpr fun t _ => .same t⟩
  refine (makes ts).accord (makes us) ?_
  rintro _ _ ⟨element, ts', rfl, changed⟩ ⟨element', us', rfl, changed'⟩
  exact .list element element'
    (forall₂_changed (h.imp fun _ _ h => h.resembles) changed changed')

/-! ## Functions -/

theorem accord_function (selector : String) (arity : Nat) :
    Accord ρ (function selector arity) (function selector arity)
      (fun f f' => f = f' ∧ BuiltinFunction.ofSelector? selector = some f) := by
  unfold function
  split
  · exact accord_throw _
  · split
    · exact accord_pure ⟨rfl, ‹_›⟩
    · exact accord_typeFault _

theorem accord_textFunction (selector : String) {builtin : Builtin}
    (still : builtin.isRandom = false) (h : Counterpart ρ t u) :
    Accord ρ (textFunction selector builtin t) (textFunction selector builtin u) (Akin ρ) := by
  have guardedCall (kind : Kind) : Accord ρ
      (guarded t fun argument => return .call kind builtin [argument])
      (guarded u fun argument => return .call kind builtin [argument]) (Akin ρ) :=
    accord_guarded h fun _ _ _ _ argument => accord_pure
      (akin_call (ne_of_isRandom_eq_false still) (.cons argument.resembles .nil) kind kind)
  unfold textFunction
  dsimp only
  generalize (if builtin = .length then Kind.integer .int else .string) = kind
  split
  iterate 3
    split
    iterate 3 exact guardedCall kind
    exact accord_typeFault' _
  exact accord_typeFault _

/-- Two lowerings that may not be there: neither is, or both are and give counterparts. -/
inductive AccordCalls (ρ : Naming) :
    Option (Lowering Target) → Option (Lowering Target) → Prop where
  | none : AccordCalls ρ none none
  | some {step step' : Lowering Target} (accord : Accord ρ step step' (Counterpart ρ)) :
    AccordCalls ρ (some step) (some step')

theorem AccordCalls.akin {step step' : Lowering Target} (accord : Accord ρ step step' (Akin ρ)) :
    AccordCalls ρ (Option.some step) (Option.some step') :=
  .some (accord.mono fun _ _ => .akin)

theorem accord_unaryCall? (selector : String) (meaning : Meaning)
    (still : meaning.isRandom = false) (h : Counterpart ρ t u) :
    AccordCalls ρ (unaryCall? selector t meaning) (unaryCall? selector u meaning) := by
  cases meaning with
  | reduce reduction =>
    exact .akin ((accord_elementOf _ _ t u).bind fun element element' _ =>
      accord_reduce h reduction element element')
  | count => exact .akin ((accord_elementOf _ _ t u).bind fun _ _ _ => accord_count h)
  | math builtin =>
    refine .akin ((accord_numeric _ h).bind fun s s' h => ?_)
    refine ((makes_fractional s).accord (makes_fractional s')
      fun _ _ change change' => h.resembles.changed change change').bind fun _ _ argument => ?_
    exact accord_pure (akin_call (ne_of_isRandom_eq_false still) (.cons argument .nil) _ _)
  | rounding builtin =>
    exact .akin ((accord_numeric _ h).bind fun _ _ h => accord_pure
      (akin_call (ne_of_isRandom_eq_false still) (.cons h.resembles .nil) _ _))
  | abs =>
    exact .akin ((accord_numeric _ h).bind fun _ _ h => accord_pure
      (akin_call (by simp) (.cons h.resembles .nil) _ _))
  | negate =>
    exact .akin ((accord_numeric _ h).bind fun _ _ h =>
      accord_pure ⟨h.resembles.unary _ _ _, rfl, rfl⟩)
  | text builtin => exact .akin (accord_textFunction _ still h)
  | onesComplement =>
    exact .akin ((accord_integral _ h).bind fun _ _ h =>
      accord_pure ⟨h.resembles.unary _ _ _, rfl, rfl⟩)
  | random | randomBelow => cases still
  | _ => exact .none

theorem accord_binaryCall? (selector : String) (meaning : Meaning) (h : Counterpart ρ t u)
    (h' : Counterpart ρ s s') :
    AccordCalls ρ (binaryCall? selector t s meaning) (binaryCall? selector u s' meaning) := by
  cases meaning with
  | arithmetic op => exact .akin (accord_arithmetic _ op h.resembles h'.resembles)
  | bitwise op =>
    refine .akin ((accord_integral _ h).bind fun l l' h => (accord_integral _ h').bind
      fun r r' h' => ?_)
    exact (makes_onSharedKind op l r).accord (makes_onSharedKind op l' r')
      fun _ _ is is' => is.akin is' h.resembles h'.resembles
  | shift op =>
    exact .akin ((accord_integral _ h).bind fun _ _ h => (accord_integral _ h').bind
      fun _ _ h' => accord_pure ⟨h.resembles.binary h'.resembles op _ _, rfl, rfl⟩)
  | cast => exact .some (accord_castTo h h')
  | dateAdd unit => exact .akin (accord_moveDate _ unit h h')
  | _ => exact .none

theorem accord_constantCall? (meaning : Meaning) (still : meaning.isRandom = false) :
    AccordCalls ρ (constantCall? meaning) (constantCall? meaning) := by
  cases meaning with
  | random => cases still
  | now => exact .akin (accord_pure (akin_call (by simp) .nil _ _))
  | _ => exact .none

theorem accord_call (f : BuiltinFunction) (still : f.meaning.isRandom = false)
    {ts us : List Target} (h : List.Forall₂ (Counterpart ρ) ts us) :
    Accord ρ (call f ts) (call f us) (Counterpart ρ) := by
  have calls : AccordCalls ρ (call? f ts) (call? f us) := by
    cases h with
    | nil => exact accord_constantCall? _ still
    | cons first rest =>
      cases rest with
      | nil => exact accord_unaryCall? _ _ still first
      | cons second rest =>
        cases rest with
        | nil => exact accord_binaryCall? _ _ first second
        | cons => exact .none
  unfold call
  generalize call? f ts = lowering at calls
  generalize call? f us = lowering' at calls
  cases calls with
  | none => exact accord_typeFault _
  | some accord => exact accord

end PredicateLang.Lowering
