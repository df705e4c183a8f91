import PredicateLang.Proofs.Alike.Lowering
import PredicateLang.Proofs.Condition

/-!
# Functions and lists of alike operands

Of alike arguments a builtin function makes alike trees. If it draws random numbers, then the trees
have effects.
-/

namespace PredicateLang.Lowering

variable {effects : Bool} {ρ : Naming} {t t' s s' : Target}

/-! ## Demands on arguments -/

theorem alike_numeric (selector : String) (h : t.Alike effects ρ t') :
    Alike ρ (numeric selector t) (numeric selector t') (Target.Alike effects ρ) := by
  unfold numeric
  rw [h.kind_eq]
  split
  · exact alike_pure h
  · exact alike_typeFault _ _

theorem alike_integral (selector : String) (h : t.Alike effects ρ t') :
    Alike ρ (integral selector t) (integral selector t') (Target.Alike effects ρ) := by
  unfold integral
  rw [h.kind_eq]
  split
  · exact alike_pure h
  · exact alike_typeFault _ _

theorem alike_ofCast (kind : Kind) (h : t.Alike effects ρ t') :
    Alike ρ (ofResult (t.cast kind)) (ofResult (t'.cast kind)) (Target.Alike effects ρ) :=
  alike_ofResult (alike_cast h)

theorem alike_fractional (h : t.Alike effects ρ t') :
    Alike ρ (fractional t) (fractional t') (Target.Alike effects ρ) := by
  unfold fractional
  rw [h.kind_eq]
  split
  · exact alike_pure h
  · exact alike_ofCast _ h

/-! ## Numbers -/

theorem alike_onSharedKind (op : BinaryOp) (h : t.Alike effects ρ t') (h' : s.Alike effects ρ s') :
    Alike ρ (onSharedKind op t s) (onSharedKind op t' s') (Target.Alike effects ρ) := by
  unfold onSharedKind
  rw [h.kind_eq, h'.kind_eq]
  split
  · exact alike_pure (.binary _ op h h')
  · refine (alike_ofResult (alike_makeComparable h h')).bind ?_
    rintro ⟨u, v⟩ ⟨u', v'⟩ ⟨first, second⟩
    refine alike_pure ?_
    rw [first.kind_eq]
    exact .binary _ op first second

theorem alike_arithmetic (selector : String) (op : BinaryOp) (h : t.Alike effects ρ t')
    (h' : s.Alike effects ρ s') :
    Alike ρ (arithmetic selector op t s) (arithmetic selector op t' s') (Target.Alike effects ρ) := by
  refine (alike_numeric selector h).bind fun u u' h => ?_
  refine (alike_numeric selector h').bind fun v v' h' => ?_
  split
  · exact (alike_ofCast _ h).bind fun _ _ h => (alike_ofCast _ h').bind fun _ _ h' =>
      alike_pure (.binary _ op h h')
  · exact alike_onSharedKind op h h'

/-! ## Casts -/

theorem alike_castLater {value value' : Target} (h : value.Alike effects ρ value')
    {builtin : Builtin} (still : builtin.isRandom = false) (kind : Kind) :
    Alike ρ (castTo.castLater value builtin kind) (castTo.castLater value' builtin kind)
      (Target.Alike effects ρ) := by
  refine alike_dialect.bind ?_
  rintro dialect _ rfl
  split
  · exact alike_throw _ _
  · exact alike_pure (.call kind builtin (by simp_all [Builtin.isRandom]) (.cons h .nil))

/-- The cast of a constant, now, or of anything else later. -/
theorem alike_castNow {builtin : Builtin} (still : builtin.isRandom = false) (kind : Kind)
    (cast : Value → Except EvaluationFault Value) (h : t.Alike effects ρ t') :
    Alike ρ
      (match t.constant? with
        | some constant =>
          if constant.isNull then castTo.castLater t builtin kind
          else
            match cast constant with
            | .ok result => return .ofValue result
            | .error fault => throw (.evaluation fault)
        | none => castTo.castLater t builtin kind)
      (match t.constant? with
        | some constant =>
          if constant.isNull then castTo.castLater t' builtin kind
          else
            match cast constant with
            | .ok result => return .ofValue result
            | .error fault => throw (.evaluation fault)
        | none => castTo.castLater t' builtin kind)
      (Target.Alike effects ρ) := by
  split
  · split
    · exact alike_castLater h still kind
    · split
      · exact alike_pure (.constant _ _)
      · exact alike_throw _ _
  · exact alike_castLater h still kind

theorem alike_castTo (h : t.Alike effects ρ t') (h' : s.Alike effects ρ s') :
    Alike ρ (castTo t s) (castTo t' s') (Target.Alike effects ρ) := by
  unfold castTo
  rw [h'.constantString?_eq, h.constant?_eq]
  split
  · dsimp only
    split
    iterate 3 exact alike_castNow rfl _ _ h
    exact (alike_typeFault (P := fun _ _ => False) _ _).bind fun _ _ never => never.elim
  · exact alike_typeFault _ _

/-! ## Dates -/

theorem alike_backendAmount (h : t.Alike effects ρ t') :
    Alike ρ (backendAmount t) (backendAmount t') (Target.Alike effects ρ) := by
  unfold backendAmount
  rw [h.constant?_eq, h.kind_eq]
  split
  · exact alike_ofCast _ h
  · exact alike_pure h

theorem alike_moveDate (selector : String) (unit : DateUnit) (h : t.Alike effects ρ t')
    (h' : s.Alike effects ρ s') :
    Alike ρ (moveDate selector unit t s) (moveDate selector unit t' s') (Target.Alike effects ρ) := by
  refine (alike_numeric selector h').bind fun u u' h' => ?_
  rw [h.kind_eq]
  generalize t.kind = kind
  cases kind with
  | date | any | null =>
    refine alike_dialect.bind ?_
    rintro dialect _ rfl
    cases dialect with
    | objects =>
      exact (alike_fractional h').bind fun _ _ amount =>
        alike_guarded h fun _ _ _ extend date =>
          alike_pure (.call _ _ (by simp) (.cons date (.cons (amount.extend extend) .nil)))
    | backend =>
      exact (alike_backendAmount h').bind fun _ _ amount =>
        alike_pure (.call _ _ (by simp) (.cons h (.cons amount .nil)))
  | _ => exact alike_typeFault _ _

/-! ## Collections -/

theorem alike_indexBySymbol (element : Kind) (symbol : IndexSymbol) (h : t.Alike effects ρ t') :
    Alike ρ (indexBySymbol t element symbol) (indexBySymbol t' element symbol)
      (Target.Alike effects ρ) := by
  cases symbol with
  | size => exact alike_count h
  | first =>
    exact alike_guarded h fun _ _ _ _ source => alike_pure (.elementAt _ source (.constant _ _))
  | last =>
    exact alike_guarded h fun _ _ _ _ source => alike_pure
      (.elementAt _ source (.binary _ .subtract (.count _ source) (.constant _ _)))

theorem alike_indexBy (element : Kind) (h : t.Alike effects ρ t') (h' : s.Alike effects ρ s') :
    Alike ρ (indexBy t element s) (indexBy t' element s') (Target.Alike effects ρ) :=
  (alike_integral _ h').bind fun _ _ index =>
    alike_guarded h fun _ _ _ extend source =>
      alike_pure (.elementAt _ source (index.extend extend))

theorem alike_list {ts ts' : List Target} (h : Target.AllAlike effects ρ ts ts') :
    Alike ρ (list ts) (list ts') (Target.Alike effects ρ) := by
  unfold list
  rw [h.kinds_eq]
  dsimp only
  split
  · exact (alike_ofResult (alike_castAll h)).bind fun _ _ items =>
      alike_pure (.list _ items)
  · exact alike_pure (.list _ h)

/-! ## Functions -/

theorem alike_function (selector : String) (arity : Nat) :
    Alike ρ (function selector arity) (function selector arity)
      (fun f f' => f = f' ∧ BuiltinFunction.ofSelector? selector = some f) := by
  unfold function
  split
  · exact alike_throw _ _
  · split
    · exact alike_pure ⟨rfl, ‹_›⟩
    · exact alike_typeFault _ _

/-- The effects of a builtin call of alike arguments are allowed if drawing random numbers is. -/
theorem alike_builtin (kind : Kind) {builtin : Builtin} (allowed : builtin.isRandom → effects)
    {ts ts' : List Target} (h : Target.AllAlike effects ρ ts ts') :
    (Target.call kind builtin ts).Alike effects ρ (.call kind builtin ts') :=
  .call kind builtin (fun random => allowed (by simpa [Builtin.isRandom] using random)) h

theorem alike_textFunction (selector : String) {builtin : Builtin}
    (allowed : builtin.isRandom → effects) (h : t.Alike effects ρ t') :
    Alike ρ (textFunction selector builtin t) (textFunction selector builtin t')
      (Target.Alike effects ρ) := by
  unfold textFunction
  rw [h.kind_eq]
  dsimp only
  have guardedCall (kind : Kind) : Alike ρ
      (guarded t fun argument => return .call kind builtin [argument])
      (guarded t' fun argument => return .call kind builtin [argument]) (Target.Alike effects ρ) :=
    alike_guarded h fun _ _ _ _ argument =>
      alike_pure (alike_builtin _ allowed (.cons argument .nil))
  split
  iterate 3 exact guardedCall _
  exact alike_typeFault _ _

/-- Two lowerings that may not be there: neither is, or both are and give alike trees. -/
inductive AlikeCalls (effects : Bool) (ρ : Naming) :
    Option (Lowering Target) → Option (Lowering Target) → Prop where
  | none : AlikeCalls effects ρ none none
  | some {step step' : Lowering Target} (alike : Alike ρ step step' (Target.Alike effects ρ)) :
    AlikeCalls effects ρ (some step) (some step')

theorem alike_unaryCall? (selector : String) (meaning : Meaning)
    (allowed : meaning.isRandom → effects) (h : t.Alike effects ρ t') :
    AlikeCalls effects ρ (unaryCall? selector t meaning) (unaryCall? selector t' meaning) := by
  cases meaning with
  | reduce reduction =>
    refine .some ((alike_elementOf _ _ h).bind ?_)
    rintro element _ rfl
    exact alike_reduce reduction element h
  | count => exact .some ((alike_elementOf _ _ h).bind fun _ _ _ => alike_count h)
  | math builtin =>
    exact .some ((alike_numeric _ h).bind fun _ _ h => (alike_fractional h).bind
      fun _ _ h => alike_pure (alike_builtin _ allowed (.cons h .nil)))
  | rounding builtin =>
    refine .some ((alike_numeric _ h).bind fun _ _ h => alike_pure ?_)
    rw [h.kind_eq]
    exact alike_builtin _ allowed (.cons h .nil)
  | abs =>
    refine .some ((alike_numeric _ h).bind fun _ _ h => alike_pure ?_)
    rw [h.kind_eq]
    exact .call _ _ (by simp) (.cons h .nil)
  | negate =>
    refine .some ((alike_numeric _ h).bind fun _ _ h => alike_pure ?_)
    rw [h.kind_eq]
    exact .unary _ _ h
  | text builtin => exact .some (alike_textFunction _ allowed h)
  | onesComplement =>
    refine .some ((alike_integral _ h).bind fun _ _ h => alike_pure ?_)
    rw [h.kind_eq]
    exact .unary _ _ h
  | randomBelow =>
    exact .some ((alike_numeric _ h).bind fun _ _ h =>
      alike_pure (alike_builtin _ (fun _ => allowed rfl) (.cons h .nil)))
  | _ => exact .none

theorem alike_binaryCall? (selector : String) (meaning : Meaning) (h : t.Alike effects ρ t')
    (h' : s.Alike effects ρ s') :
    AlikeCalls effects ρ (binaryCall? selector t s meaning) (binaryCall? selector t' s' meaning) := by
  cases meaning with
  | arithmetic op => exact .some (alike_arithmetic _ op h h')
  | bitwise op =>
    exact .some ((alike_integral _ h).bind fun _ _ h => (alike_integral _ h').bind
      fun _ _ h' => alike_onSharedKind op h h')
  | shift op =>
    refine .some ((alike_integral _ h).bind fun _ _ h => (alike_integral _ h').bind
      fun _ _ h' => alike_pure ?_)
    rw [h.kind_eq]
    exact .binary _ op h h'
  | cast => exact .some (alike_castTo h h')
  | dateAdd unit => exact .some (alike_moveDate _ unit h h')
  | _ => exact .none

theorem alike_constantCall? (meaning : Meaning) (allowed : meaning.isRandom → effects) :
    AlikeCalls effects ρ (constantCall? meaning) (constantCall? meaning) := by
  cases meaning with
  | random => exact .some (alike_pure (alike_builtin _ (fun _ => allowed rfl) .nil))
  | now => exact .some (alike_pure (.call _ _ (by simp) .nil))
  | _ => exact .none

theorem alike_call (f : BuiltinFunction) (allowed : f.meaning.isRandom → effects)
    {ts ts' : List Target} (h : Target.AllAlike effects ρ ts ts') :
    Alike ρ (call f ts) (call f ts') (Target.Alike effects ρ) := by
  have calls : AlikeCalls effects ρ (call? f ts) (call? f ts') := by
    cases h with
    | nil => exact alike_constantCall? _ allowed
    | cons first rest =>
      cases rest with
      | nil => exact alike_unaryCall? _ _ allowed first
      | cons second rest =>
        cases rest with
        | nil => exact alike_binaryCall? _ _ first second
        | cons => exact .none
  unfold call
  generalize call? f ts = lowering at calls
  generalize call? f ts' = lowering' at calls
  cases calls with
  | none => exact alike_typeFault _ _
  | some alike => exact alike

end PredicateLang.Lowering
