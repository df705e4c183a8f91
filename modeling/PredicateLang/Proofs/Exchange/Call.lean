import PredicateLang.Proofs.Exchange.Lowering

/-!
# Key paths and functions of operands that may be exchanged

Key paths and functions carry over to operands that may be exchanged. A cast looks at its argument
whether it is a constant, so neither side may have a list of constants there where the other one has
a collection.
-/

namespace PredicateLang.Lowering

open Tracing Target

variable {exact : Bool} {d : Dialect} {ρ : Naming} {t t' s s' : Target}

/-! ## Key paths -/

theorem carries_propertyOn {ρ : Naming} {t t' : Target} (name : String) (kind : Kind)
    (h : Exchanges .none false ρ t t') :
    Carries exact d ρ (propertyOn name kind t) (propertyOn name kind t')
      (Parallel .none false ρ) := by
  cases kind with
  | sequence element =>
    unfold propertyOn
    refine carries_fresh rfl fun a b made extend => ?_
    refine (carries_propertyOn name element
      (parallel_parameter element (Naming.push_self ρ a b)).exchanges).bind
        fun body body' alike => carries_pure ?_
    rw [alike.exchanges.kind_eq]
    exact (h.acts.map made alike.exchanges.acts _).parallel ⟨rfl, rfl⟩
  | _ =>
    unfold propertyOn
    split
    · exact carries_guarded h nofun fun _ _ _ _ h =>
        carries_pure ((h.acts.property _ name).parallel ⟨rfl, rfl⟩)
    · exact carries_typeFault _ _

theorem carries_property (name : String) (h : Exchanges .none false ρ t t') :
    Carries exact d ρ (property t name) (property t' name) (Parallel .none false ρ) := by
  unfold property
  rw [h.kind_eq]
  exact carries_propertyOn name t.kind h

theorem carries_count (h : Exchanges .none false ρ t t') :
    Carries exact d ρ (count t) (count t') (Parallel .none false ρ) :=
  carries_guarded h nofun fun _ _ _ _ h => carries_pure ((h.acts.count _).parallel ⟨rfl, rfl⟩)

theorem carries_reduce (reduction : Reduction) (element : Kind) (h : Exchanges .none false ρ t t') :
    Carries exact d ρ (reduce t reduction element) (reduce t' reduction element)
      (Parallel .none false ρ) := by
  unfold reduce
  split
  · exact carries_guarded h nofun fun _ _ _ _ h =>
      carries_pure ((h.acts.reduce _ reduction).parallel ⟨rfl, rfl⟩)
  · exact carries_typeFault _ _

theorem carries_collectionOperator (name : String) (h : Exchanges .none false ρ t t') :
    Carries exact d ρ (collectionOperator t name) (collectionOperator t' name)
      (Parallel .none false ρ) := by
  refine (carries_elementOf _ _ h.kind_eq).bind ?_
  rintro element _ rfl
  dsimp only
  split
  · exact carries_count h
  · split
    · exact carries_reduce _ element h
    · exact carries_typeFault _ _

theorem carries_follow (segments : List String) (h : Exchanges .none false ρ t t') :
    Carries exact d ρ (follow t segments) (follow t' segments) (Exchanges .none false ρ) := by
  induction segments generalizing t t' with
  | nil => exact carries_pure h
  | cons segment rest ih =>
    unfold follow
    split
    · exact (ih h).bind fun _ _ h => (carries_collectionOperator _ h).mono fun _ _ h => h.exchanges
    · exact (carries_property segment h).bind fun _ _ h => ih h.exchanges

/-- A key path that leads nowhere leads from a list to the list. -/
theorem carries_follow_parallel (segments : List String) (h : Exchanges .none false ρ t t')
    (shape : segments = [] → t'.isList = t.isList) :
    Carries exact d ρ (follow t segments) (follow t' segments) (Parallel .none false ρ) := by
  induction segments generalizing t t' with
  | nil => exact carries_pure ⟨h, shape rfl⟩
  | cons segment rest ih =>
    unfold follow
    split
    · exact (carries_follow rest h).bind fun _ _ h => carries_collectionOperator _ h
    · exact (carries_property segment h).bind fun _ _ h => ih h.exchanges fun _ => h.isList

/-! ## Demands on arguments -/

theorem carries_numeric (selector : String) (h : Exchanges .none false ρ t t') :
    Carries exact d ρ (numeric selector t) (numeric selector t')
      (fun u u' => Exchanges .none false ρ u u' ∧ u.kind.isSequence = false) := by
  unfold numeric
  rw [h.kind_eq]
  split
  · rename_i wanted
    refine carries_pure ⟨h, ?_⟩
    generalize t.kind = kind at wanted
    cases kind <;> first | rfl | simp [Kind.isNumeric, Kind.isDynamic] at wanted
  · exact carries_typeFault _ _

theorem carries_integral (selector : String) (h : Exchanges .none false ρ t t') :
    Carries exact d ρ (integral selector t) (integral selector t') (Exchanges .none false ρ) := by
  unfold integral
  rw [h.kind_eq]
  split
  · exact carries_pure h
  · exact carries_typeFault _ _

theorem carries_ofCast (kind : Kind) (h : Exchanges .none false ρ t t')
    (scalar : t.kind.isSequence = false) :
    Carries exact d ρ (ofResult (t.cast kind)) (ofResult (t'.cast kind))
      (Exchanges .none false ρ) :=
  carries_ofResult (exchanges_cast h scalar)

theorem carries_fractional (h : Exchanges .none false ρ t t') (scalar : t.kind.isSequence = false) :
    Carries exact d ρ (fractional t) (fractional t') (Exchanges .none false ρ) := by
  unfold fractional
  rw [h.kind_eq]
  split
  · exact carries_pure h
  · exact carries_ofCast _ h scalar

/-! ## Numbers -/

theorem carries_onSharedKind (op : BinaryOp) (h : Exchanges .none false ρ t t')
    (h' : Exchanges .none false ρ s s') :
    Carries exact d ρ (onSharedKind op t s) (onSharedKind op t' s') (Parallel .none false ρ) := by
  unfold onSharedKind
  rw [h.kind_eq, h'.kind_eq]
  split
  · exact carries_pure ((h.acts.binary h'.acts _ op).parallel ⟨rfl, rfl⟩)
  · refine (carries_ofResult (exchanges_makeComparable h h')).bind ?_
    rintro ⟨u, v⟩ ⟨u', v'⟩ ⟨first, second⟩
    refine carries_pure ?_
    rw [first.kind_eq]
    exact (first.acts.binary second.acts _ op).parallel ⟨rfl, rfl⟩

theorem carries_arithmetic (selector : String) (op : BinaryOp) (h : Exchanges .none false ρ t t')
    (h' : Exchanges .none false ρ s s') :
    Carries exact d ρ (arithmetic selector op t s) (arithmetic selector op t' s')
      (Parallel .none false ρ) := by
  refine (carries_numeric selector h).bind fun u u' h => ?_
  refine (carries_numeric selector h').bind fun v v' h' => ?_
  split
  · exact (carries_ofCast _ h.1 h.2).bind fun _ _ h => (carries_ofCast _ h'.1 h'.2).bind
      fun _ _ h' => carries_pure ((h.acts.binary h'.acts _ op).parallel ⟨rfl, rfl⟩)
  · exact carries_onSharedKind op h.1 h'.1

/-! ## Casts -/

theorem carries_castLater (h : Exchanges .none false ρ t t') (builtin : Builtin) (kind : Kind) :
    Carries exact d ρ (castTo.castLater t builtin kind) (castTo.castLater t' builtin kind)
      (Parallel .none false ρ) := by
  refine carries_dialect.bind ?_
  rintro _ _ ⟨rfl, rfl⟩
  split
  · exact carries_throw _ _
  · exact carries_pure (((h.acts.cons allAct_nil).anyCall kind builtin).parallel ⟨rfl, rfl⟩)

/-- The cast of a constant, now, or of anything else later. -/
theorem carries_castNow (builtin : Builtin) (kind : Kind)
    (cast : Value → Except EvaluationFault Value) (h : Exchanges .none false ρ t t') :
    Carries exact d ρ
      (match t.constant? with
        | some value =>
          if value.isNull then castTo.castLater t builtin kind
          else
            match cast value with
            | .ok result => return .ofValue result
            | .error fault => throw (.evaluation fault)
        | none => castTo.castLater t builtin kind)
      (match t.constant? with
        | some value =>
          if value.isNull then castTo.castLater t' builtin kind
          else
            match cast value with
            | .ok result => return .ofValue result
            | .error fault => throw (.evaluation fault)
        | none => castTo.castLater t' builtin kind)
      (Parallel .none false ρ) := by
  split
  · split
    · exact carries_castLater h builtin kind
    · split
      · exact carries_pure (parallel_constant _ _)
      · exact carries_throw _ _
  · exact carries_castLater h builtin kind

theorem carries_castTo (h : Parallel .none false ρ t t') (h' : Exchanges .none false ρ s s') :
    Carries exact d ρ (castTo t s) (castTo t' s') (Parallel .none false ρ) := by
  unfold castTo
  rw [h'.constantString?_eq nofun, h.constant?_eq]
  split
  · dsimp only
    split
    iterate 3 exact carries_castNow _ _ _ h.exchanges
    exact (carries_typeFault (P := fun _ _ => False) _ _).bind fun _ _ never => never.elim
  · exact carries_typeFault _ _

/-! ## Dates -/

theorem carries_backendAmount (h : Exchanges .none false ρ t t')
    (scalar : t.kind.isSequence = false) :
    Carries exact d ρ (backendAmount t) (backendAmount t') (Exchanges .none false ρ) := by
  unfold backendAmount
  rw [h.constant?_eq scalar, h.kind_eq]
  split
  · exact carries_ofCast _ h scalar
  · exact carries_pure h

theorem carries_moveDate (selector : String) (unit : DateUnit) (h : Exchanges .none false ρ t t')
    (h' : Exchanges .none false ρ s s') :
    Carries exact d ρ (moveDate selector unit t s) (moveDate selector unit t' s')
      (Parallel .none false ρ) := by
  refine (carries_numeric selector h').bind fun u u' h' => ?_
  rw [h.kind_eq]
  split
  iterate 3
    refine carries_dialect.bind ?_
    rintro _ dialect ⟨rfl, rfl⟩
    cases dialect with
    | objects =>
      exact (carries_fractional h'.1 h'.2).bind fun _ _ amount =>
        carries_guarded h nofun fun _ _ _ extend date =>
          carries_pure (((date.acts.cons ((amount.extend extend).acts.cons allAct_nil)).anyCall _
            _).parallel ⟨rfl, rfl⟩)
    | backend =>
      exact (carries_backendAmount h'.1 h'.2).bind fun _ _ amount =>
        carries_pure (((h.acts.cons (amount.acts.cons allAct_nil)).anyCall _ _).parallel ⟨rfl, rfl⟩)
  exact carries_typeFault _ _

/-! ## Collections -/

theorem carries_elementAt (element : Kind) (place : Target → Target)
    (h : Exchanges .none false ρ t t')
    (places : ∀ ρ' s s', ρ.Extend ρ' → Exchanges .none false ρ' s s' →
      Acts .none ρ' (place s) (place s')) :
    Carries exact d ρ (guarded t fun source => return .elementAt element source (place source))
      (guarded t' fun source => return .elementAt element source (place source))
      (Parallel .none false ρ) :=
  carries_guarded h nofun fun ρ' s s' extend source =>
    carries_pure
      ((source.acts.elementAt (places ρ' s s' extend source) element).parallel ⟨rfl, rfl⟩)

theorem carries_indexBySymbol (element : Kind) (symbol : IndexSymbol)
    (h : Exchanges .none false ρ t t') :
    Carries exact d ρ (indexBySymbol t element symbol) (indexBySymbol t' element symbol)
      (Parallel .none false ρ) := by
  cases symbol with
  | size => exact carries_count h
  | first => exact carries_elementAt element _ h fun _ _ _ _ _ => acts_constant _ _
  | last =>
    exact carries_elementAt element
      (fun source => .binary (.integer .int) .subtract (.count (.integer .int) source)
        (.ofValue (.int 1))) h
      fun _ _ _ _ source => (source.acts.count _).binary (acts_constant _ _) _ _

theorem carries_indexBy (element : Kind) (h : Exchanges .none false ρ t t')
    (h' : Exchanges .none false ρ s s') :
    Carries exact d ρ (indexBy t element s) (indexBy t' element s') (Parallel .none false ρ) :=
  (carries_integral _ h').bind fun _ _ index =>
    carries_guarded h nofun fun _ _ _ extend source =>
      carries_pure ((source.acts.elementAt (index.extend extend).acts element).parallel ⟨rfl, rfl⟩)

/-! ### Lists -/

/-- If kinds can be cast to their common kind, then each of them can, or it is that of null. -/
theorem of_isCastable_commonKind (common : Option Kind) (kinds : List Kind)
    (castable : (commonKind common kinds).isCastable) :
    (∀ kind ∈ common, kind.isCastable) ∧ ∀ kind ∈ kinds, kind = .null ∨ kind.isCastable := by
  induction kinds generalizing common with
  | nil =>
    refine ⟨?_, nofun⟩
    rintro kind rfl
    exact castable
  | cons kind rest ih =>
    by_cases null : kind = .null
    · rw [null, commonKind_null] at castable
      obtain ⟨known, all⟩ := ih common castable
      exact ⟨known, List.forall_mem_cons.mpr ⟨.inl null, all⟩⟩
    · rw [commonKind_cons common rest null] at castable
      cases common with
      | none =>
        obtain ⟨first, all⟩ := ih (some kind) castable
        exact ⟨nofun, List.forall_mem_cons.mpr ⟨.inr (first kind rfl), all⟩⟩
      | some current =>
        dsimp only at castable
        split at castable
        · rename_i same
          obtain ⟨known, all⟩ := ih (some current) castable
          exact ⟨known, List.forall_mem_cons.mpr ⟨.inr (same ▸ known current rfl), all⟩⟩
        · split at castable
          · rename_i ranked ranked'
            refine ⟨?_, List.forall_mem_cons.mpr ⟨.inr ?_, (ih _ castable).2⟩⟩
            · rintro kind ⟨⟩
              rw [Kind.isCastable, ranked]
              rfl
            · rw [Kind.isCastable, ranked']
              rfl
          · cases castable

theorem exchange_castAll {kind : Kind} {ts ts' : List Target} (h : AllExchange .none false ρ ts ts')
    (scalar : ∀ t ∈ ts, t.kind.isSequence = false) :
    Agrees (AllExchange .none false ρ) (ts.mapM (·.cast kind)) (ts'.mapM (·.cast kind)) := by
  induction ts generalizing ts' with
  | nil =>
    cases h
    exact .ok .nil
  | cons t ts ih =>
    rw [List.forall_mem_cons] at scalar
    cases h with
    | cons first rest =>
      rw [List.mapM_cons, List.mapM_cons]
      exact (exchanges_cast first scalar.1).bind fun _ _ first => (ih rest scalar.2).bind
        fun _ _ rest => .ok (.cons first rest)

theorem carries_list {ts ts' : List Target} (h : AllExchange .none false ρ ts ts') :
    Carries exact d ρ (list ts) (list ts') (Parallel .none false ρ) := by
  unfold list
  rw [h.kinds_eq]
  dsimp only
  split
  · rename_i castable
    have scalar : ∀ t ∈ ts, t.kind.isSequence = false := by
      intro t mem
      have known := (of_isCastable_commonKind _ _ castable).2 _ (List.mem_map_of_mem mem)
      rcases known with null | castable
      · rw [null]
        rfl
      · exact not_isSequence_of_isCastable castable
    exact (carries_ofResult (exchange_castAll h scalar)).bind fun _ _ items =>
      carries_pure (items.parallel _)
  · exact carries_pure (h.parallel _)

/-! ## Functions -/

theorem carries_function (selector : String) (arity : Nat) :
    Carries exact d ρ (function selector arity) (function selector arity)
      (fun f f' => f = f' ∧ BuiltinFunction.ofSelector? selector = some f) := by
  unfold function
  split
  · exact carries_throw _ _
  · split
    · exact carries_pure ⟨rfl, ‹_›⟩
    · exact carries_typeFault _ _

/-- A builtin call of arguments that may be exchanged. -/
theorem parallel_call (kind : Kind) (builtin : Builtin) (h : Exchanges .none false ρ t t') :
    Parallel .none false ρ (.call kind builtin [t]) (.call kind builtin [t']) :=
  ((h.acts.cons allAct_nil).anyCall kind builtin).parallel ⟨rfl, rfl⟩

theorem carries_textFunction (selector : String) (builtin : Builtin)
    (h : Exchanges .none false ρ t t') :
    Carries exact d ρ (textFunction selector builtin t) (textFunction selector builtin t')
      (Parallel .none false ρ) := by
  unfold textFunction
  rw [h.kind_eq]
  split
  iterate 3 exact carries_guarded h nofun fun _ _ _ _ h => carries_pure (parallel_call _ _ h)
  exact carries_typeFault _ _

/-- Two lowerings that may not be there: neither is, or both are and give parallel trees. -/
inductive CarriedCalls (exact : Bool) (d : Dialect) (ρ : Naming) :
    Option (Lowering Target) → Option (Lowering Target) → Prop where
  | none : CarriedCalls exact d ρ none none
  | some {step step' : Lowering Target}
    (carries : Carries exact d ρ step step' (Parallel .none false ρ)) :
    CarriedCalls exact d ρ (some step) (some step')

theorem carries_unaryCall? (selector : String) (meaning : Meaning)
    (h : Exchanges .none false ρ t t') :
    CarriedCalls exact d ρ (unaryCall? selector t meaning) (unaryCall? selector t' meaning) := by
  cases meaning with
  | reduce reduction =>
    refine .some ((carries_elementOf _ _ h.kind_eq).bind ?_)
    rintro element _ rfl
    exact carries_reduce reduction element h
  | count => exact .some ((carries_elementOf _ _ h.kind_eq).bind fun _ _ _ => carries_count h)
  | math builtin =>
    exact .some ((carries_numeric _ h).bind fun _ _ h => (carries_fractional h.1 h.2).bind
      fun _ _ h => carries_pure (parallel_call _ _ h))
  | rounding builtin =>
    refine .some ((carries_numeric _ h).bind fun _ _ h => carries_pure ?_)
    rw [h.1.kind_eq]
    exact parallel_call _ _ h.1
  | abs =>
    refine .some ((carries_numeric _ h).bind fun _ _ h => carries_pure ?_)
    rw [h.1.kind_eq]
    exact parallel_call _ _ h.1
  | negate =>
    refine .some ((carries_numeric _ h).bind fun _ _ h => carries_pure ?_)
    rw [h.1.kind_eq]
    exact (h.1.acts.unary _ _).parallel ⟨rfl, rfl⟩
  | text builtin => exact .some (carries_textFunction _ _ h)
  | onesComplement =>
    refine .some ((carries_integral _ h).bind fun _ _ h => carries_pure ?_)
    rw [h.kind_eq]
    exact (h.acts.unary _ _).parallel ⟨rfl, rfl⟩
  | randomBelow =>
    exact .some ((carries_numeric _ h).bind fun _ _ h => carries_pure (parallel_call _ _ h.1))
  | _ => exact .none

theorem carries_binaryCall? (selector : String) (meaning : Meaning)
    (h : Exchanges .none false ρ t t') (h' : Exchanges .none false ρ s s')
    (cast : meaning = .cast → t'.isList = t.isList) :
    CarriedCalls exact d ρ (binaryCall? selector t s meaning)
      (binaryCall? selector t' s' meaning) := by
  cases meaning with
  | arithmetic op => exact .some (carries_arithmetic _ op h h')
  | bitwise op =>
    exact .some ((carries_integral _ h).bind fun _ _ h => (carries_integral _ h').bind
      fun _ _ h' => carries_onSharedKind op h h')
  | shift op =>
    refine .some ((carries_integral _ h).bind fun _ _ h => (carries_integral _ h').bind
      fun _ _ h' => carries_pure ?_)
    rw [h.kind_eq]
    exact (h.acts.binary h'.acts _ _).parallel ⟨rfl, rfl⟩
  | cast => exact .some (carries_castTo ⟨h, cast rfl⟩ h')
  | dateAdd unit => exact .some (carries_moveDate _ unit h h')
  | _ => exact .none

theorem carries_constantCall? (meaning : Meaning) :
    CarriedCalls exact d ρ (constantCall? meaning) (constantCall? meaning) := by
  cases meaning with
  | random | now => exact .some (carries_pure ((allAct_nil.anyCall _ _).parallel ⟨rfl, rfl⟩))
  | _ => exact .none

/-- A function carries over to arguments that may be exchanged. Of a cast, both first arguments or
neither have to be lists. -/
theorem carries_call (f : BuiltinFunction) {ts ts' : List Target}
    (h : AllExchange .none false ρ ts ts')
    (cast : f.meaning = .cast → ts'.head?.map isList = ts.head?.map isList) :
    Carries exact d ρ (call f ts) (call f ts') (Parallel .none false ρ) := by
  have calls : CarriedCalls exact d ρ (call? f ts) (call? f ts') := by
    cases h with
    | nil => exact carries_constantCall? _
    | cons first rest =>
      cases rest with
      | nil => exact carries_unaryCall? _ _ first
      | cons second rest =>
        cases rest with
        | nil =>
          exact carries_binaryCall? _ _ first second fun is => Option.some.inj (cast is)
        | cons => exact .none
  unfold call
  generalize call? f ts = lowering at calls
  generalize call? f ts' = lowering' at calls
  cases calls with
  | none => exact carries_typeFault _ _
  | some carries => exact carries

end PredicateLang.Lowering
