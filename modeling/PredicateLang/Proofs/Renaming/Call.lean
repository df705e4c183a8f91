import PredicateLang.Proofs.Renaming.Lowering

/-!
# Functions and lists of renamed operands

Of renamed arguments a builtin function makes renamed trees, or fails in the same way.
-/

namespace PredicateLang.Lowering

variable {exact : Bool} {ρ : Naming} {t t' s s' : Target}

/-! ## Demands on arguments -/

theorem tracks_numeric (selector : String) (h : t.Renamed exact ρ t') :
    Tracks (numeric selector t) (numeric selector t') (Target.Renamed exact ρ) := by
  unfold numeric
  rw [h.kind_eq]
  split
  · exact tracks_pure h
  · exact tracks_typeFault _

theorem tracks_integral (selector : String) (h : t.Renamed exact ρ t') :
    Tracks (integral selector t) (integral selector t') (Target.Renamed exact ρ) := by
  unfold integral
  rw [h.kind_eq]
  split
  · exact tracks_pure h
  · exact tracks_typeFault _

theorem tracks_ofCast (kind : Kind) (h : t.Renamed exact ρ t') :
    Tracks (ofResult (t.cast kind)) (ofResult (t'.cast kind)) (Target.Renamed exact ρ) :=
  tracks_ofResult (coincide_cast kind h)

theorem tracks_fractional (h : t.Renamed exact ρ t') :
    Tracks (fractional t) (fractional t') (Target.Renamed exact ρ) := by
  unfold fractional
  rw [h.kind_eq]
  split
  · exact tracks_pure h
  · exact tracks_ofCast _ h

/-! ## Numbers -/

theorem tracks_onSharedKind (op : BinaryOp) (h : t.Renamed exact ρ t')
    (h' : s.Renamed exact ρ s') :
    Tracks (onSharedKind op t s) (onSharedKind op t' s') (Target.Renamed exact ρ) := by
  unfold onSharedKind
  rw [h.kind_eq, h'.kind_eq]
  split
  · exact tracks_pure (.binary _ op h h')
  · apply (tracks_ofResult (coincide_makeComparable h h')).bind
    rintro ⟨u, v⟩ ⟨u', v'⟩ ⟨first, second⟩
    apply tracks_pure
    rw [first.kind_eq]
    exact .binary _ op first second

theorem tracks_arithmetic (selector : String) (op : BinaryOp) (h : t.Renamed exact ρ t')
    (h' : s.Renamed exact ρ s') :
    Tracks (arithmetic selector op t s) (arithmetic selector op t' s')
      (Target.Renamed exact ρ) := by
  refine (tracks_numeric selector h).bind fun u u' h => ?_
  refine (tracks_numeric selector h').bind fun v v' h' => ?_
  split
  · exact (tracks_ofCast _ h).bind fun _ _ h => (tracks_ofCast _ h').bind fun _ _ h' =>
      tracks_pure (.binary _ op h h')
  · exact tracks_onSharedKind op h h'

/-! ## Casts -/

theorem tracks_castLater (builtin : Builtin) (kind : Kind) (h : t.Renamed exact ρ t') :
    Tracks (castTo.castLater t builtin kind) (castTo.castLater t' builtin kind)
      (Target.Renamed exact ρ) := by
  apply tracks_dialect.bind
  rintro dialect _ rfl
  split
  · exact tracks_throw _
  · exact tracks_pure (.call kind builtin (.cons h .nil))

/-- The cast of a constant, now, or of anything else later. -/
theorem tracks_castNow (builtin : Builtin) (kind : Kind)
    (cast : Value → Except EvaluationFault Value) (h : t.Renamed exact ρ t') :
    Tracks
      (match t.constant? with
        | some constant =>
          if constant.isNull then castTo.castLater t builtin kind
          else
            match cast constant with
            | .ok result => return .ofValue result
            | .error fault => throw (.evaluation fault)
        | none => castTo.castLater t builtin kind)
      (match t.constant? with
        | some constant =>
          if constant.isNull then castTo.castLater t' builtin kind
          else
            match cast constant with
            | .ok result => return .ofValue result
            | .error fault => throw (.evaluation fault)
        | none => castTo.castLater t' builtin kind)
      (Target.Renamed exact ρ) := by
  split
  · split
    · exact tracks_castLater builtin kind h
    · split
      · exact tracks_pure (.constant _ _)
      · exact tracks_throw _
  · exact tracks_castLater builtin kind h

theorem tracks_castTo (h : t.Renamed exact ρ t') (h' : s.Renamed exact ρ s') :
    Tracks (castTo t s) (castTo t' s') (Target.Renamed exact ρ) := by
  unfold castTo
  rw [h'.constantString?_eq, h.constant?_eq]
  split
  · dsimp only
    split
    iterate 3 exact tracks_castNow _ _ _ h
    exact (tracks_typeFault (P := fun _ _ => False) _).bind fun _ _ never => never.elim
  · exact tracks_typeFault _

/-! ## Dates -/

theorem tracks_backendAmount (h : t.Renamed exact ρ t') :
    Tracks (backendAmount t) (backendAmount t') (Target.Renamed exact ρ) := by
  unfold backendAmount
  rw [h.constant?_eq, h.kind_eq]
  split
  · exact tracks_ofCast _ h
  · exact tracks_pure h

/-! ## Lists -/

theorem tracks_list {ts ts' : List Target} (h : Target.AllRenamed exact ρ ts ts') :
    Tracks (list ts) (list ts') (Target.Renamed exact ρ) := by
  unfold list
  rw [h.kinds_eq]
  dsimp only
  split
  · exact (tracks_ofResult (coincide_castAll _ h)).bind fun _ _ items =>
      tracks_pure (.list _ items)
  · exact tracks_pure (.list _ h)

/-! ## Functions -/

theorem tracks_function (selector : String) (arity : Nat) :
    Tracks (function selector arity) (function selector arity) (· = ·) := by
  unfold function
  split
  · exact tracks_throw _
  · split
    · exact tracks_pure rfl
    · exact tracks_typeFault _

/-- Two lowerings that may not be there: neither is, or both are and give renamed trees. -/
inductive RenamedCalls (exact : Bool) (ρ : Naming) :
    Option (Lowering Target) → Option (Lowering Target) → Prop where
  | none : RenamedCalls exact ρ none none
  | some {step step' : Lowering Target} (tracks : Tracks step step' (Target.Renamed exact ρ)) :
    RenamedCalls exact ρ (some step) (some step')

theorem tracks_constantCall? (meaning : Meaning) :
    RenamedCalls exact ρ (constantCall? meaning) (constantCall? meaning) := by
  cases meaning with
  | random | now => exact .some (tracks_pure (.call _ _ .nil))
  | _ => exact .none

section

variable (steady : ρ.Steady)

include steady

theorem tracks_moveDate (selector : String) (unit : DateUnit) (h : t.Renamed exact ρ t')
    (h' : s.Renamed exact ρ s') :
    Tracks (moveDate selector unit t s) (moveDate selector unit t' s')
      (Target.Renamed exact ρ) := by
  refine (tracks_numeric selector h').bind fun u u' h' => ?_
  rw [h.kind_eq]
  generalize t.kind = kind
  cases kind with
  | date | any | null =>
    apply tracks_dialect.bind
    rintro dialect _ rfl
    cases dialect with
    | objects =>
      exact (tracks_fractional h').bind fun _ _ amount =>
        tracks_guarded steady h fun _ _ date =>
          tracks_pure (.call _ _ (.cons date (.cons amount .nil)))
    | backend =>
      exact (tracks_backendAmount h').bind fun _ _ amount =>
        tracks_pure (.call _ _ (.cons h (.cons amount .nil)))
  | _ => exact tracks_typeFault _

theorem tracks_indexBySymbol (element : Kind) (symbol : IndexSymbol) (h : t.Renamed exact ρ t') :
    Tracks (indexBySymbol t element symbol) (indexBySymbol t' element symbol)
      (Target.Renamed exact ρ) := by
  cases symbol with
  | size => exact tracks_count steady h
  | first =>
    exact tracks_guarded steady h fun _ _ source =>
      tracks_pure (.elementAt _ source (.constant _ _))
  | last =>
    exact tracks_guarded steady h fun _ _ source => tracks_pure
      (.elementAt _ source (.binary _ .subtract (.count _ source) (.constant _ _)))

theorem tracks_indexBy (element : Kind) (h : t.Renamed exact ρ t') (h' : s.Renamed exact ρ s') :
    Tracks (indexBy t element s) (indexBy t' element s') (Target.Renamed exact ρ) :=
  (tracks_integral _ h').bind fun _ _ index =>
    tracks_guarded steady h fun _ _ source => tracks_pure (.elementAt _ source index)

theorem tracks_textFunction (selector : String) (builtin : Builtin) (h : t.Renamed exact ρ t') :
    Tracks (textFunction selector builtin t) (textFunction selector builtin t')
      (Target.Renamed exact ρ) := by
  have guardedCall (kind : Kind) : Tracks
      (guarded t fun argument => return .call kind builtin [argument])
      (guarded t' fun argument => return .call kind builtin [argument])
      (Target.Renamed exact ρ) :=
    tracks_guarded steady h fun _ _ argument =>
      tracks_pure (.call kind builtin (.cons argument .nil))
  unfold textFunction
  rw [h.kind_eq]
  dsimp only
  split
  iterate 3 exact guardedCall _
  exact tracks_typeFault _

theorem tracks_unaryCall? (selector : String) (meaning : Meaning) (h : t.Renamed exact ρ t') :
    RenamedCalls exact ρ (unaryCall? selector t meaning) (unaryCall? selector t' meaning) := by
  cases meaning with
  | reduce reduction =>
    apply RenamedCalls.some
    apply (tracks_elementOf _ _ h).bind
    rintro element _ rfl
    exact tracks_reduce steady reduction element h
  | count => exact .some ((tracks_elementOf _ _ h).bind fun _ _ _ => tracks_count steady h)
  | math builtin =>
    exact .some ((tracks_numeric _ h).bind fun _ _ h => (tracks_fractional h).bind
      fun _ _ h => tracks_pure (.call _ _ (.cons h .nil)))
  | rounding builtin =>
    refine .some ((tracks_numeric _ h).bind fun _ _ h => tracks_pure ?_)
    rw [h.kind_eq]
    exact .call _ _ (.cons h .nil)
  | abs =>
    refine .some ((tracks_numeric _ h).bind fun _ _ h => tracks_pure ?_)
    rw [h.kind_eq]
    exact .call _ _ (.cons h .nil)
  | negate =>
    refine .some ((tracks_numeric _ h).bind fun _ _ h => tracks_pure ?_)
    rw [h.kind_eq]
    exact .unary _ _ h
  | text builtin => exact .some (tracks_textFunction steady _ builtin h)
  | onesComplement =>
    refine .some ((tracks_integral _ h).bind fun _ _ h => tracks_pure ?_)
    rw [h.kind_eq]
    exact .unary _ _ h
  | randomBelow =>
    exact .some ((tracks_numeric _ h).bind fun _ _ h => tracks_pure (.call _ _ (.cons h .nil)))
  | _ => exact .none

theorem tracks_binaryCall? (selector : String) (meaning : Meaning) (h : t.Renamed exact ρ t')
    (h' : s.Renamed exact ρ s') :
    RenamedCalls exact ρ (binaryCall? selector t s meaning)
      (binaryCall? selector t' s' meaning) := by
  cases meaning with
  | arithmetic op => exact .some (tracks_arithmetic _ op h h')
  | bitwise op =>
    exact .some ((tracks_integral _ h).bind fun _ _ h => (tracks_integral _ h').bind
      fun _ _ h' => tracks_onSharedKind op h h')
  | shift op =>
    refine .some ((tracks_integral _ h).bind fun _ _ h => (tracks_integral _ h').bind
      fun _ _ h' => tracks_pure ?_)
    rw [h.kind_eq]
    exact .binary _ op h h'
  | cast => exact .some (tracks_castTo h h')
  | dateAdd unit => exact .some (tracks_moveDate steady _ unit h h')
  | _ => exact .none

/-- A builtin function of renamed arguments. -/
theorem tracks_call (f : BuiltinFunction) {ts ts' : List Target}
    (h : Target.AllRenamed exact ρ ts ts') :
    Tracks (call f ts) (call f ts') (Target.Renamed exact ρ) := by
  have calls : RenamedCalls exact ρ (call? f ts) (call? f ts') := by
    cases h with
    | nil => exact tracks_constantCall? _
    | cons first rest =>
      cases rest with
      | nil => exact tracks_unaryCall? steady _ _ first
      | cons second rest =>
        cases rest with
        | nil => exact tracks_binaryCall? steady _ _ first second
        | cons => exact .none
  have length : ts'.length = ts.length := by
    simpa using congrArg List.length h.kinds_eq
  unfold call
  rw [length]
  generalize call? f ts = lowering at calls
  generalize call? f ts' = lowering' at calls
  cases calls with
  | none => exact tracks_typeFault _
  | some tracks => exact tracks

end

end PredicateLang.Lowering
