import PredicateLang.Lowering
import PredicateLang.Proofs.Typing.Evaluation

/-!
# Lowering gives trees of their kind

`Lowering.Keeps names step P` says of a step of lowering that, in a scope with the bindings `names`,
what the step gives satisfies `P` and leaves the bindings as they were. There is one lemma for each
function of lowering that an expression needs. Those for comparisons are not needed: a predicate
only picks items of a collection, and so says nothing about the kind of a value.
-/

namespace PredicateLang

/-- Under names of given kinds, the tree is evaluated to values of its kind, which is regular. -/
structure Target.Typed (Γ : Context) (t : Target) : Prop where
  sound : t.Sound Γ
  regular : t.kind.isRegular

namespace Lowering

variable {α β : Type} {names : Fields Target} {step : Lowering α} {P : α → Prop} {Q : β → Prop}

/-- In a scope with the bindings, what the step gives satisfies `P` and leaves the bindings as they
were. -/
def Keeps (names : Fields Target) (step : Lowering α) (P : α → Prop) : Prop :=
  ∀ settings scope a after, scope.bindings = names → step settings scope = .ok a after →
    P a ∧ after.bindings = names

/-! ## Rules -/

theorem Keeps.mono {P' : α → Prop} (h : Keeps names step P) (le : ∀ a, P a → P' a) :
    Keeps names step P' := by
  intro settings scope a after bindings run
  obtain ⟨holds, same⟩ := h settings scope a after bindings run
  exact ⟨le a holds, same⟩

theorem keeps_pure {a : α} (h : P a) : Keeps names (pure a) P := by
  intro settings scope b after bindings run
  cases run
  exact ⟨h, bindings⟩

theorem keeps_throw (e : Error) : Keeps names (throw e) P := by
  intro settings scope a after bindings run
  cases run

theorem keeps_typeFault (fault : TypeFault) : Keeps names (typeFault fault) P :=
  keeps_throw (.type fault)

theorem keeps_ofResult {result : Except Error α} (h : ∀ a, result = .ok a → P a) :
    Keeps names (ofResult result) P := by
  cases result with
  | ok a => exact keeps_pure (h a rfl)
  | error e => exact keeps_throw e

theorem run_bind {next : α → Lowering β} {settings : Settings} {scope after : Scope} {b : β}
    (run : (step >>= next) settings scope = .ok b after) :
    ∃ a between, step settings scope = .ok a between ∧ next a settings between = .ok b after :=
  exists_of_run_bind run

theorem Keeps.bind {next : α → Lowering β} (h : Keeps names step P)
    (h' : ∀ a, P a → Keeps names (next a) Q) : Keeps names (step >>= next) Q := by
  intro settings scope b after bindings run
  obtain ⟨a, between, first, run⟩ := run_bind run
  obtain ⟨holds, same⟩ := h settings scope a between bindings first
  exact h' a holds settings between b after same run

theorem keeps_dialect : Keeps names dialect (fun _ => True) := by
  intro settings scope a after bindings run
  cases run
  exact ⟨trivial, bindings⟩

theorem keeps_fresh (letter : String) : Keeps names (fresh letter) (fun _ => True) := by
  intro settings scope a after bindings run
  cases run
  exact ⟨trivial, bindings⟩

theorem keeps_binding? (name : String) :
    Keeps names (binding? name) (· = names.find? name) := by
  intro settings scope a after bindings run
  cases run
  exact ⟨by rw [bindings], bindings⟩

/-- What is brought into scope by an enclosed step goes out of scope with it. -/
theorem keeps_enclosed (h : ∀ settings scope a after, scope.bindings = names →
    step settings scope = .ok a after → P a) : Keeps names (enclosed step) P := by
  intro settings scope a after bindings run
  unfold enclosed at run
  split at run <;> cases run
  exact ⟨h _ _ _ _ bindings ‹_›, bindings⟩

theorem keeps_elementOf (operation : String) (wanted : Demand) (source : Target) :
    Keeps names (elementOf operation wanted source) (fun element =>
      source.kind.element? = some element) := by
  unfold elementOf
  split
  · exact keeps_pure ‹_›
  · exact keeps_typeFault _

/-! ## Guards -/

variable {Γ : Context} {t subject source : Target} {K : Kind → Prop}

theorem typed_parameter {name : String} {kind : Kind} (regular : kind.isRegular) :
    (Target.parameter kind name).Typed ((name, kind) :: Γ) :=
  ⟨Target.sound_parameter (by rw [Fields.find?, if_pos rfl]), regular⟩

/-- An operation that makes a typed tree of every typed subject of a kind makes one of this subject,
behind a guard or not. What else its kind satisfies, the kind of the guard does. -/
theorem Keeps.guardedOf {build : Target → Lowering Target} (h : subject.Typed Γ)
    (h' : ∀ Γ' subject', subject'.Typed Γ' → subject'.kind = subject.kind →
      Keeps names (build subject') (fun body => body.Typed Γ' ∧ K body.kind)) :
    Keeps names (guarded subject build) (fun t => t.Typed Γ ∧ K t.kind) := by
  refine keeps_dialect.bind fun dialect _ => ?_
  split
  · refine (keeps_fresh "g").bind fun binding _ => ?_
    refine (h' ((binding, subject.kind) :: Γ) _ (typed_parameter h.regular) rfl).bind ?_
    rintro body ⟨typed, holds⟩
    exact keeps_pure ⟨⟨h.sound.guard typed.sound, typed.regular⟩, holds⟩
  · exact h' Γ subject h rfl

theorem Keeps.guarded {build : Target → Lowering Target} (h : subject.Typed Γ)
    (h' : ∀ Γ' subject', subject'.Typed Γ' → subject'.kind = subject.kind →
      Keeps names (build subject') (·.Typed Γ')) :
    Keeps names (guarded subject build) (·.Typed Γ) := by
  have every : Keeps names (Lowering.guarded subject build) (fun t => t.Typed Γ ∧ True) :=
    Keeps.guardedOf (K := fun _ => True) h fun Γ' subject' typed same =>
      (h' Γ' subject' typed same).mono fun _ typed => ⟨typed, trivial⟩
  exact every.mono fun _ typed => typed.1

/-! ## Key paths -/

/-- A property of a regular kind is of a regular kind, and more than null. -/
theorem isRegular_of_property {kind found : Kind} {name : String} (regular : kind.isRegular)
    (known : kind.property name = .ok found) : found ≠ .null ∧ found.isRegular := by
  unfold Kind.property at known
  split at known
  · cases known
    exact ⟨by simp, rfl⟩
  · cases known
    exact ⟨by simp, rfl⟩
  · split at known
    · cases known
      exact Kind.isRegular_of_find? regular ‹_›
    · split at known <;> cases known
      exact ⟨by simp, rfl⟩
  · cases known

theorem keeps_propertyOf (name : String) (h : t.Typed Γ) :
    Keeps names (match t.kind.property name with
      | .ok kind => guarded t fun receiver => return .property kind receiver name
      | .error fault => typeFault fault) (fun t => t.Typed Γ ∧ t.kind ≠ .null) := by
  split
  · rename_i kind known
    refine Keeps.guardedOf (K := (· ≠ .null)) h fun Γ' receiver typed same => keeps_pure ?_
    rw [← same] at known
    obtain ⟨more, regular⟩ := isRegular_of_property typed.regular known
    exact ⟨⟨typed.sound.property known, regular⟩, more⟩
  · exact keeps_typeFault _

/-- The property of a collection is that of its items; the induction is on how deep they are. -/
theorem keeps_propertyOn (name : String) (kind : Kind) {Γ : Context} {t : Target} (h : t.Typed Γ)
    (same : t.kind = kind) :
    Keeps names (propertyOn name kind t) (fun t => t.Typed Γ ∧ t.kind ≠ .null) := by
  match kind with
  | .sequence element =>
    have known : t.kind.element? = some element := by rw [same]; rfl
    obtain ⟨more, regular⟩ := Kind.isRegular_of_element? h.regular known
    refine (keeps_fresh "e").bind fun parameter _ => ?_
    have item : (Target.parameter element parameter).Typed ((parameter, element) :: Γ) :=
      typed_parameter regular
    refine (keeps_propertyOn name element item rfl).bind ?_
    rintro body ⟨typed, more⟩
    refine keeps_pure ⟨⟨h.sound.map known typed.sound, ?_⟩, nofun⟩
    show decide (body.kind ≠ .null) && body.kind.isRegular
    rw [typed.regular, decide_eq_true more]
    rfl
  | .any | .null | .boolean | .integer _ | .float | .double | .string | .guid | .date
  | .record .. =>
    rw [← same]
    have plain : Keeps names _ _ := keeps_propertyOf name h
    rw [same] at plain ⊢
    exact plain

theorem keeps_count (h : t.Typed Γ) : Keeps names (count t) (·.Typed Γ) :=
  Keeps.guarded h fun _ _ _ _ => keeps_pure ⟨Target.sound_count, rfl⟩

theorem isRegular_reducedKind {reduction : Reduction} {element : Kind} (regular : element.isRegular) :
    (reducedKind reduction element).isRegular := by
  unfold reducedKind
  split
  · split <;> rfl
  · exact regular

theorem keeps_reduce {reduction : Reduction} {element : Kind} (h : t.Typed Γ)
    (known : t.kind.element? = some element) :
    Keeps names (reduce t reduction element) (·.Typed Γ) := by
  unfold reduce
  split
  · rename_i reducible
    refine Keeps.guarded h fun Γ' source typed same => ?_
    rw [← same] at known
    obtain ⟨more, regular⟩ := Kind.isRegular_of_element? typed.regular known
    exact keeps_pure ⟨typed.sound.reduce known more reducible, isRegular_reducedKind regular⟩
  · exact keeps_typeFault _

theorem keeps_collectionOperator (name : String) (h : t.Typed Γ) :
    Keeps names (collectionOperator t name) (·.Typed Γ) := by
  refine (keeps_elementOf _ _ t).bind fun element known => ?_
  dsimp only
  split
  · exact keeps_count h
  · split
    · exact keeps_reduce h known
    · exact keeps_typeFault _

theorem keeps_follow (segments : List String) (h : t.Typed Γ) :
    Keeps names (follow t segments) (·.Typed Γ) := by
  induction segments generalizing t with
  | nil => exact keeps_pure h
  | cons segment rest ih =>
    unfold follow
    split
    · exact (ih h).bind fun t typed => keeps_collectionOperator _ typed
    · exact (keeps_propertyOn segment t.kind h rfl).bind fun t typed => ih typed.1

theorem keeps_keyPath (path : String) (h : t.Typed Γ) :
    Keeps names (keyPath t path) (·.Typed Γ) := keeps_follow (segments path) h

/-! ## Casts -/

theorem isStringWithGuid_eq_false {kind wanted : Kind} (regular : kind.isRegular)
    (regular' : wanted.isRegular) : Target.isStringWithGuid kind wanted = false := by
  unfold Target.isStringWithGuid
  split
  · cases regular'
  · cases regular
  · rfl

/-- A cast gives values of the kind asked for. Its own kind is another only if it is null. -/
theorem gives_cast {wanted : Kind} {t' : Target} (h : t.Typed Γ) (known : wanted.isDynamic = false)
    (regular : wanted.isRegular) (cast : t.cast wanted = .ok t') :
    Evaluation.Gives Γ t'.eval (·.Conforms wanted) ∧ t'.kind.isRegular
      ∧ (t'.kind = wanted ∨ Evaluation.Gives Γ t'.eval (· = .null)) := by
  unfold Target.cast at cast
  split at cast
  · rename_i same
    cases cast
    rcases same with rfl | dynamic
    · exact ⟨h.sound, h.regular, .inl rfl⟩
    · rw [known] at dynamic
      cases dynamic
  · split at cast
    · rename_i kind value _
      split at cast
      · rename_i null
        cases cast
        rw [Value.eq_null_of_isNull null]
        exact ⟨Evaluation.gives_pure (.null wanted), h.regular, .inr (Evaluation.gives_pure rfl)⟩
      · unfold Target.castConstant at cast
        split at cast <;> cases cast
        exact ⟨Evaluation.gives_pure (Value.conforms_convert ‹_› known), regular, .inl rfl⟩
    · rw [isStringWithGuid_eq_false h.regular regular] at cast
      cases cast
      exact ⟨Target.sound_convert known, regular, .inl rfl⟩

/-- Two operands of numeric kinds are brought to one of the kinds. -/
theorem gives_makeComparable {left right left' right' : Target} (h : left.Typed Γ)
    (h' : right.Typed Γ) (numeric : left.kind.isNumeric) (numeric' : right.kind.isNumeric)
    (made : left.makeComparable right = .ok (left', right')) :
    ∃ kind : Kind, kind.isNumeric ∧ Evaluation.Gives Γ left'.eval (·.Conforms kind)
      ∧ Evaluation.Gives Γ right'.eval (·.Conforms kind) ∧ left'.kind.isRegular
      ∧ (left'.kind = kind ∨ Evaluation.Gives Γ left'.eval (· = .null)) := by
  obtain ⟨known, plain, rank, ranked, regular⟩ := Kind.of_isNumeric numeric
  obtain ⟨known', plain', rank', ranked', regular'⟩ := Kind.of_isNumeric numeric'
  unfold Target.makeComparable at made
  rw [known, known', plain, plain'] at made
  split at made
  · rename_i same
    cases made
    rcases same with same | dynamic | dynamic
    · exact ⟨left.kind, numeric, h.sound, same ▸ h'.sound, h.regular, .inl rfl⟩
    · cases dynamic
    · cases dynamic
  · dsimp only at made
    unfold Target.makeScalarsComparable at made
    rw [ranked, ranked'] at made
    dsimp only at made
    split at made
    · obtain ⟨cast, run, made⟩ := exists_of_bind_ok made
      cases made
      obtain ⟨gives, regular, kind_or⟩ := gives_cast h known' regular' run
      exact ⟨right.kind, numeric', gives, h'.sound, regular, kind_or⟩
    · obtain ⟨cast, run, made⟩ := exists_of_bind_ok made
      cases made
      obtain ⟨gives, -, -⟩ := gives_cast h' known regular run
      exact ⟨left.kind, numeric, h.sound, gives, h.regular, .inl rfl⟩

/-! ## Arithmetic -/

theorem keeps_numeric (selector : String) (t : Target) :
    Keeps names (numeric selector t) (fun t' => t' = t
      ∧ (t.kind.isNumeric ∨ t.kind.isDynamic)) := by
  unfold numeric
  split
  · exact keeps_pure ⟨rfl, ‹_›⟩
  · exact keeps_typeFault _

theorem keeps_integral (selector : String) (t : Target) :
    Keeps names (integral selector t) (fun t' => t' = t
      ∧ (t.kind.isInteger ∨ t.kind.isDynamic)) := by
  unfold integral
  split
  · exact keeps_pure ⟨rfl, ‹_›⟩
  · exact keeps_typeFault _

theorem keeps_fractional (t : Target) : Keeps names (fractional t) (fun _ => True) := by
  unfold fractional
  split
  · exact keeps_pure trivial
  · exact keeps_ofResult fun _ _ => trivial

/-- An operation on numbers has the kind that the operands are brought to. -/
theorem keeps_onSharedKind {op : BinaryOp} {left right : Target}
    (arithmetic : Target.isArithmetic op) (ne : op ≠ .power) (h : left.Typed Γ)
    (h' : right.Typed Γ) (number : left.kind.isNumeric ∨ left.kind.isDynamic)
    (number' : right.kind.isNumeric ∨ right.kind.isDynamic) :
    Keeps names (onSharedKind op left right) (·.Typed Γ) := by
  unfold onSharedKind
  split
  · refine keeps_pure ⟨?_, rfl⟩
    exact Target.Gives.binary arithmetic h.sound h'.sound fun _ _ v _ _ _ => .any v
  · rename_i known
    rw [not_or] at known
    have numeric := number.resolve_right known.1
    have numeric' := number'.resolve_right known.2
    refine (keeps_ofResult (P := fun operands => left.makeComparable right = .ok operands)
      fun _ made => made).bind ?_
    rintro ⟨left', right'⟩ made
    obtain ⟨kind, numeric, gives, gives', regular, kind_or⟩ :=
      gives_makeComparable h h' numeric numeric' made
    refine keeps_pure ⟨?_, regular⟩
    rcases kind_or with same | null
    · rw [← same] at gives gives' numeric
      exact Target.Gives.binary arithmetic gives gives' fun _ _ _ holds holds' result =>
        Evaluation.conforms_arithmetic result numeric (absurd · ne) holds holds'
    · refine Target.Gives.binary arithmetic null gives' fun l r v none _ result => ?_
      -- whatever is calculated with null is null
      rw [none] at result
      cases result
      exact .null _

/-- Powers are calculated with fractions. -/
theorem keeps_arithmetic (selector : String) {op : BinaryOp} {left right : Target}
    (arithmetic : Target.isArithmetic op) (h : left.Typed Γ) (h' : right.Typed Γ) :
    Keeps names (Lowering.arithmetic selector op left right) (·.Typed Γ) := by
  refine (keeps_numeric selector left).bind ?_
  rintro left ⟨rfl, number⟩
  refine (keeps_numeric selector right).bind ?_
  rintro right ⟨rfl, number'⟩
  split
  · refine (keeps_ofResult (P := fun t => left.cast .double = .ok t) fun _ made => made).bind ?_
    intro left' cast
    refine (keeps_ofResult (P := fun t => right.cast .double = .ok t) fun _ made => made).bind ?_
    intro right' cast'
    obtain ⟨gives, -, -⟩ := gives_cast h rfl rfl cast
    obtain ⟨gives', -, -⟩ := gives_cast h' rfl rfl cast'
    refine keeps_pure ⟨?_, rfl⟩
    exact Target.Gives.binary arithmetic gives gives' fun _ _ _ holds holds' result =>
      Evaluation.conforms_arithmetic result rfl (fun _ => rfl) holds holds'
  · rename_i ne
    exact keeps_onSharedKind arithmetic ne h h' number number'

/-- A shifted integer is of its kind, by whatever it is shifted. -/
theorem typed_shift {op : BinaryOp} {left right : Target} (shift : op = .shiftLeft ∨ op = .shiftRight)
    (h : left.Typed Γ) (number : left.kind.isInteger ∨ left.kind.isDynamic) :
    (Target.binary left.kind op left right).Typed Γ := by
  have arithmetic : Target.isArithmetic op := by rcases shift with rfl | rfl <;> rfl
  refine ⟨Target.Gives.binary arithmetic h.sound (right.gives_eval Γ) ?_, h.regular⟩
  intro l r v holds _ result
  rcases number with integer | dynamic
  · exact Evaluation.conforms_shift result shift integer holds
  · cases kind : left.kind with
    | any => exact .any v
    | null =>
      rw [kind] at holds
      rw [holds.eq_null] at result
      cases result
      exact .null _
    | _ => rw [kind] at dynamic; cases dynamic

/-! ## Lists -/

theorem commonKind_null (common : Option Kind) (rest : List Kind) :
    commonKind common (.null :: rest) = commonKind common rest := by
  rw [commonKind.eq_def]
  exact if_pos rfl

theorem commonKind_cons (common : Option Kind) {kind : Kind} (rest : List Kind)
    (more : kind ≠ .null) : commonKind common (kind :: rest)
      = match common with
        | none => commonKind (some kind) rest
        | some current =>
          if current = kind then commonKind common rest
          else
            match current.rank?, kind.rank? with
            | some a, some b => commonKind (some (if a ≥ b then current else kind)) rest
            | _, _ => .any := by
  rw [commonKind.eq_def]
  exact if_neg more

theorem commonKind_mem (common : Option Kind) (kinds : List Kind)
    (more : common ≠ some .null) : commonKind common kinds = .any
      ∨ commonKind common kinds ∈ common.toList ++ kinds ∧ commonKind common kinds ≠ .null := by
  induction kinds generalizing common with
  | nil =>
    cases common with
    | none => exact .inl rfl
    | some current =>
      refine .inr ⟨by simp [commonKind], fun null => more ?_⟩
      exact congrArg some null
  | cons kind rest ih =>
    have step : ∀ next : Kind, next ≠ .null → next ∈ common.toList ++ kind :: rest →
        commonKind (some next) rest = .any
          ∨ commonKind (some next) rest ∈ common.toList ++ kind :: rest
            ∧ commonKind (some next) rest ≠ .null := by
      intro next more' mem
      rcases ih (some next) (by simpa using more') with any | ⟨among, found⟩
      · exact .inl any
      · refine .inr ⟨?_, found⟩
        rcases List.mem_cons.mp among with same | among
        · rw [same]
          exact mem
        · exact List.mem_append_right _ (List.mem_cons_of_mem _ among)
    by_cases null : kind = .null
    · rw [null, commonKind_null]
      rcases ih common more with any | ⟨among, found⟩
      · exact .inl any
      · refine .inr ⟨?_, found⟩
        rcases List.mem_append.mp among with among | among
        · exact List.mem_append_left _ among
        · exact List.mem_append_right _ (List.mem_cons_of_mem _ among)
    · rw [commonKind_cons common rest null]
      have kind_mem : kind ∈ common.toList ++ kind :: rest := by simp
      cases common with
      | none => exact step kind null kind_mem
      | some current =>
        have current_mem : current ∈ (some current).toList ++ kind :: rest := by simp
        have more : current ≠ .null := fun null => more (congrArg some null)
        dsimp only
        split
        · exact step current more current_mem
        · split
          · split
            · exact step current more current_mem
            · exact step kind null kind_mem
          · exact .inl rfl

/-- A common kind that nothing can be cast to is that of all items but the nulls, or any. -/
theorem eq_commonKind (common : Option Kind) (kinds : List Kind)
    (rigid : (commonKind common kinds).isCastable = false) : commonKind common kinds = .any
      ∨ (∀ kind ∈ common, kind = commonKind common kinds)
        ∧ ∀ kind ∈ kinds, kind = .null ∨ kind = commonKind common kinds := by
  induction kinds generalizing common with
  | nil =>
    cases common with
    | none => exact .inl rfl
    | some current => exact .inr ⟨fun kind same => (Option.some.inj same).symm, nofun⟩
  | cons kind rest ih =>
    by_cases null : kind = .null
    · rw [null, commonKind_null] at rigid ⊢
      rcases ih common rigid with any | ⟨same, all⟩
      · exact .inl any
      · exact .inr ⟨same, List.forall_mem_cons.mpr ⟨.inl rfl, all⟩⟩
    · rw [commonKind_cons common rest null] at rigid ⊢
      cases common with
      | none =>
        rcases ih (some kind) rigid with any | ⟨same, all⟩
        · exact .inl any
        · exact .inr ⟨nofun, List.forall_mem_cons.mpr ⟨.inr (same kind rfl), all⟩⟩
      | some current =>
        dsimp only at rigid ⊢
        split at rigid
        · rename_i equal
          rw [if_pos equal]
          rcases ih (some current) rigid with any | ⟨same, all⟩
          · exact .inl any
          · refine .inr ⟨same, List.forall_mem_cons.mpr ⟨.inr ?_, all⟩⟩
            exact equal ▸ same current rfl
        · rename_i differ
          rw [if_neg differ]
          split at rigid
          · rename_i a b ranked ranked'
            -- of two kinds that can be cast, neither is the rigid one
            rcases ih _ rigid with any | ⟨same, -⟩
            · exact .inl any
            · exfalso
              have castable : (if a ≥ b then current else kind).isCastable := by
                split
                · rw [Kind.isCastable, ranked]; rfl
                · rw [Kind.isCastable, ranked']; rfl
              rw [same _ rfl, rigid] at castable
              cases castable
          · exact .inl rfl

theorem of_isCastable {kind : Kind} (castable : kind.isCastable) : kind.isDynamic = false := by
  cases kind <;> first | rfl | cases castable

/-- The items of a list are cast to their common kind, or else are of that kind already. -/
theorem keeps_list {items : List Target} (h : ∀ item ∈ items, item.Typed Γ) :
    Keeps names (Lowering.list items) (·.Typed Γ) := by
  have element_cases := commonKind_mem none (items.map Target.kind) (by simp)
  have element_rigid := eq_commonKind none (items.map Target.kind)
  unfold Lowering.list
  generalize commonKind none (items.map Target.kind) = element at element_cases element_rigid
  have regular : element ≠ .null ∧ element.isRegular := by
    rcases element_cases with rfl | ⟨mem, more⟩
    · exact ⟨by simp, rfl⟩
    · obtain ⟨item, among, rfl⟩ := List.mem_map.mp mem
      exact ⟨more, (h item among).regular⟩
  have typed : ∀ {items' : List Target},
      (∀ item ∈ items', Evaluation.Gives Γ item.eval (·.Conforms element)) →
        (Target.list (.sequence element) items').Typed Γ := by
    intro items' conform
    refine ⟨Target.sound_list conform, ?_⟩
    show decide (element ≠ .null) && element.isRegular
    rw [decide_eq_true regular.1, regular.2]
    rfl
  dsimp only
  split
  · rename_i castable
    have known := of_isCastable castable
    refine (keeps_ofResult (P := fun items' => items.mapM (·.cast element) = .ok items')
      fun _ made => made).bind fun items' made => keeps_pure (typed fun item mem => ?_)
    obtain ⟨item', among, cast⟩ := exists_of_mapM_ok made item mem
    exact (gives_cast (h item' among) known regular.2 cast).1
  · rename_i rigid
    refine (keeps_pure (P := (· = items)) rfl).bind ?_
    rintro _ rfl
    refine keeps_pure (typed fun item mem => ?_)
    rcases element_rigid ((Bool.not_eq_true _).mp rigid) with rfl | ⟨-, all⟩
    · exact (h item mem).sound.mono fun v _ => .any v
    · rcases all item.kind (List.mem_map_of_mem mem) with null | same
      · refine (h item mem).sound.mono fun v conforms => ?_
        rw [null] at conforms
        rw [conforms.eq_null]
        exact .null element
      · exact same ▸ (h item mem).sound

/-! ## Functions -/

/-- What the functions of the table mean, but those that change the case of letters: operations
that give values of the kind written down for them. -/
def keepsKind : Meaning → Bool
  | .arithmetic op => Target.isArithmetic op
  | .bitwise op => Target.isArithmetic op && op ≠ .power
  | .shift op => op = .shiftLeft || op = .shiftRight
  | .math builtin => builtin = .sqrt || builtin = .log10 || builtin = .ln || builtin = .exp
  | .rounding builtin => builtin = .floor || builtin = .ceiling || builtin = .trunc
  | .text builtin => builtin = .length
  | _ => true

/-- Is the selector that of a function that changes the case of letters? -/
def changesCase (selector : String) : Bool :=
  Text.equalIgnoringCase "uppercase:" selector || Text.equalIgnoringCase "lowercase:" selector

theorem keepsKind_of_mem : ∀ f ∈ BuiltinFunction.table, f.selector ≠ "uppercase:" →
    f.selector ≠ "lowercase:" → keepsKind f.meaning := by
  decide

/-- A function that is found keeps to its kind, if it does not change the case of letters. -/
theorem keepsKind_of_ofSelector? {selector : String} {f : BuiltinFunction}
    (found : BuiltinFunction.ofSelector? selector = some f) (same_case : changesCase selector = false) :
    keepsKind f.meaning := by
  unfold BuiltinFunction.ofSelector? at found
  have mem := List.mem_of_find?_eq_some found
  have named := List.find?_some found
  rw [changesCase, Bool.or_eq_false_iff] at same_case
  refine keepsKind_of_mem f mem (fun upper => ?_) fun lower => ?_
  · rw [upper, same_case.1] at named
    cases named
  · rw [lower, same_case.2] at named
    cases named

theorem conforms_ofMapError {cast : Except EvaluationFault Value} {v : Value}
    (h : cast.mapError Error.evaluation = .ok v) : cast = .ok v := by
  cases cast with
  | error => cases h
  | ok w => cases h; rfl

/-- A builtin and a function, one for now and one for later, that cast to the same scalar kind. -/
structure IsCast (builtin : Builtin) (kind : Kind)
    (cast : Value → Except EvaluationFault Value) : Prop where
  scalar : kind = .double ∨ kind = .string ∨ kind = .date
  now : ∀ v w, cast v = .ok w → w.Conforms kind
  later : ∀ (Γ : Context) values, Evaluation.Gives Γ (Evaluation.call builtin values)
    (·.Conforms kind)

theorem isCast_number : IsCast .castNumber .double Value.castToNumber where
  scalar := .inl rfl
  now _ _ h := Value.conforms_castToNumber h
  later _ _ := Evaluation.gives_ofResult fun _ h =>
    Value.conforms_castToNumber (conforms_ofMapError h)

theorem isCast_string : IsCast .castString .string Value.castToString where
  scalar := .inr (.inl rfl)
  now _ _ h := Value.conforms_castToString h
  later _ _ := Evaluation.gives_ofResult fun _ h =>
    Value.conforms_castToString (conforms_ofMapError h)

theorem isCast_date : IsCast .castDate .date Value.castToDate where
  scalar := .inr (.inr rfl)
  now _ _ h := Value.conforms_castToDate h
  later _ _ := Evaluation.gives_ofResult fun _ h =>
    Value.conforms_castToDate (conforms_ofMapError h)

namespace IsCast

variable {value : Target} {builtin : Builtin} {kind : Kind}
  {cast : Value → Except EvaluationFault Value}

theorem keeps_castLater (h : IsCast builtin kind cast) :
    Keeps names (castTo.castLater value builtin kind) (·.Typed Γ) := by
  refine keeps_dialect.bind fun dialect _ => ?_
  split
  · exact keeps_throw _
  · refine keeps_pure ⟨Target.sound_call_any fun values => h.later _ values, ?_⟩
    rcases h.scalar with rfl | rfl | rfl <;> rfl

theorem typed_ofValue (h : IsCast builtin kind cast) {v w : Value} (result : cast v = .ok w) :
    (Target.ofValue w).Typed Γ := by
  have conforms := h.now v w result
  have free : w.isGuidFree := by
    rcases h.scalar with rfl | rfl | rfl <;> cases conforms <;> rfl
  exact ⟨Target.sound_ofValue w, Kind.isRegular_ofValue w free⟩

end IsCast

/-- The cast of a constant, now, or of anything else later. -/
theorem IsCast.keeps {value : Target} {builtin : Builtin} {kind : Kind}
    {cast : Value → Except EvaluationFault Value} (h : IsCast builtin kind cast) :
    Keeps names (match value.constant? with
      | some constant =>
        if constant.isNull then castTo.castLater value builtin kind
        else
          match cast constant with
          | .ok result => return .ofValue result
          | .error fault => throw (.evaluation fault)
      | none => castTo.castLater value builtin kind) (·.Typed Γ) := by
  split
  · split
    · exact h.keeps_castLater
    · split
      · exact keeps_pure (h.typed_ofValue ‹_›)
      · exact keeps_throw _
  · exact h.keeps_castLater

theorem keeps_castTo (value typeName : Target) : Keeps names (castTo value typeName) (·.Typed Γ) := by
  unfold castTo
  split
  · dsimp only
    split
    · exact isCast_number.keeps
    · exact isCast_string.keeps
    · exact isCast_date.keeps
    · exact (keeps_typeFault (P := fun _ => False) _).bind fun _ never => never.elim
  · exact keeps_typeFault _

theorem keeps_backendAmount (t : Target) : Keeps names (backendAmount t) (fun _ => True) := by
  unfold backendAmount
  split
  · exact keeps_ofResult fun _ _ => trivial
  · exact keeps_pure trivial

theorem keeps_moveDate (selector : String) {unit : DateUnit} {date amount : Target}
    (h : date.Typed Γ) : Keeps names (moveDate selector unit date amount) (·.Typed Γ) := by
  refine (keeps_numeric selector amount).bind fun amount _ => ?_
  split
  case h_4 => exact keeps_typeFault _
  all_goals
    refine keeps_dialect.bind fun dialect _ => ?_
    cases dialect with
    | objects =>
      refine (keeps_fractional amount).bind fun amount _ => ?_
      refine Keeps.guarded h fun Γ' date _ _ => keeps_pure ⟨Target.sound_call_any fun _ => ?_, rfl⟩
      exact Evaluation.gives_ofResult fun _ moved => Evaluation.conforms_moveDate moved
    | backend =>
      refine (keeps_backendAmount amount).bind fun amount _ => ?_
      refine keeps_pure ⟨Target.sound_call_any fun _ => ?_, rfl⟩
      exact Evaluation.gives_ofResult fun _ moved => Evaluation.conforms_moveDate moved

theorem keeps_indexBySymbol {element : Kind} (symbol : IndexSymbol) (h : t.Typed Γ)
    (known : t.kind.element? = some element) :
    Keeps names (indexBySymbol t element symbol) (·.Typed Γ) := by
  have item (index : Target → Target) : Keeps names
      (guarded t fun source => return .elementAt element source (index source)) (·.Typed Γ) := by
    refine Keeps.guarded h fun Γ' source typed same => ?_
    rw [← same] at known
    exact keeps_pure ⟨typed.sound.elementAt known,
      (Kind.isRegular_of_element? typed.regular known).2⟩
  cases symbol with
  | size => exact keeps_count h
  | first => exact item fun _ => .ofValue (.int 0)
  | last =>
    exact item fun source =>
      .binary (.integer .int) .subtract (.count (.integer .int) source) (.ofValue (.int 1))

theorem keeps_indexBy {element : Kind} (index : Target) (h : t.Typed Γ)
    (known : t.kind.element? = some element) :
    Keeps names (indexBy t element index) (·.Typed Γ) := by
  refine (keeps_integral Expr.indexSelector index).bind fun index _ => ?_
  refine Keeps.guarded h fun Γ' source typed same => ?_
  rw [← same] at known
  exact keeps_pure ⟨typed.sound.elementAt known,
    (Kind.isRegular_of_element? typed.regular known).2⟩

/-- The number of characters, or of items. -/
theorem keeps_length (selector : String) (h : t.Typed Γ) :
    Keeps names (textFunction selector .length t) (·.Typed Γ) := by
  unfold textFunction
  split
  case h_4 => exact keeps_typeFault _
  all_goals
    refine Keeps.guarded h fun Γ' t _ _ => keeps_pure ⟨Target.sound_call_any fun _ => ?_, rfl⟩
    exact Evaluation.gives_ofResult fun _ counted => Evaluation.conforms_length counted

theorem keeps_unaryCall {selector : String} {meaning : Meaning} {lowering : Lowering Target}
    (known : unaryCall? selector t meaning = some lowering) (keeps : keepsKind meaning)
    (h : t.Typed Γ) : Keeps names lowering (·.Typed Γ) := by
  cases meaning with
  | reduce reduction =>
    cases known
    exact (keeps_elementOf _ _ t).bind fun element known => keeps_reduce h known
  | count =>
    cases known
    exact (keeps_elementOf _ _ t).bind fun element known => keeps_count h
  | math builtin =>
    cases known
    refine (keeps_numeric selector t).bind fun t _ => (keeps_fractional t).bind fun t _ => ?_
    refine keeps_pure ⟨Target.sound_call_any fun _ => ?_, rfl⟩
    simp only [keepsKind, Bool.or_eq_true, decide_eq_true_eq] at keeps
    rcases keeps with ((rfl | rfl) | rfl) | rfl <;>
      exact Evaluation.gives_ofResult fun _ result => Evaluation.conforms_onFloat result
  | rounding builtin =>
    cases known
    refine (keeps_numeric selector t).bind ?_
    rintro t ⟨rfl, -⟩
    refine keeps_pure ⟨h.sound.call fun v conforms => ?_, ?_⟩
    · simp only [keepsKind, Bool.or_eq_true, decide_eq_true_eq] at keeps
      rcases keeps with (rfl | rfl) | rfl <;>
        exact Evaluation.gives_ofResult fun _ result => Evaluation.conforms_onFraction result conforms
    · show (roundedKind t.kind).isRegular
      unfold roundedKind
      split
      · exact h.regular
      · rfl
  | abs =>
    cases known
    refine (keeps_numeric selector t).bind ?_
    rintro t ⟨rfl, -⟩
    exact keeps_pure ⟨h.sound.call fun v conforms => Evaluation.gives_ofResult fun _ result =>
      Evaluation.conforms_absolute result conforms, h.regular⟩
  | negate =>
    cases known
    refine (keeps_numeric selector t).bind ?_
    rintro t ⟨rfl, -⟩
    exact keeps_pure ⟨h.sound.unary nofun, h.regular⟩
  | text builtin =>
    cases known
    rw [of_decide_eq_true (show decide (builtin = .length) from keeps)]
    exact keeps_length selector h
  | onesComplement =>
    cases known
    refine (keeps_integral selector t).bind ?_
    rintro t ⟨rfl, -⟩
    exact keeps_pure ⟨h.sound.unary nofun, h.regular⟩
  | randomBelow =>
    cases known
    refine (keeps_numeric selector t).bind fun t _ => keeps_pure ⟨?_, rfl⟩
    exact Target.sound_call_any fun values => Evaluation.gives_drawBelow _
  | _ => cases known

theorem keeps_binaryCall {selector : String} {meaning : Meaning} {lowering : Lowering Target}
    {left right : Target} (known : binaryCall? selector left right meaning = some lowering)
    (keeps : keepsKind meaning) (h : left.Typed Γ) (h' : right.Typed Γ) :
    Keeps names lowering (·.Typed Γ) := by
  cases meaning with
  | arithmetic op =>
    cases known
    exact keeps_arithmetic selector keeps h h'
  | bitwise op =>
    cases known
    rw [keepsKind, Bool.and_eq_true, decide_eq_true_eq] at keeps
    refine (keeps_integral selector left).bind ?_
    rintro left ⟨rfl, number⟩
    refine (keeps_integral selector right).bind ?_
    rintro right ⟨rfl, number'⟩
    exact keeps_onSharedKind keeps.1 keeps.2 h h' (number.imp_left Kind.isNumeric_of_isInteger)
      (number'.imp_left Kind.isNumeric_of_isInteger)
  | shift op =>
    cases known
    rw [keepsKind, Bool.or_eq_true, decide_eq_true_eq, decide_eq_true_eq] at keeps
    refine (keeps_integral selector left).bind ?_
    rintro left ⟨rfl, number⟩
    refine (keeps_integral selector right).bind ?_
    rintro right ⟨rfl, -⟩
    exact keeps_pure (typed_shift keeps h number)
  | cast =>
    cases known
    exact keeps_castTo left right
  | dateAdd unit =>
    cases known
    exact keeps_moveDate selector h
  | _ => cases known

theorem keeps_constantCall {meaning : Meaning} {lowering : Lowering Target}
    (known : constantCall? meaning = some lowering) : Keeps names lowering (·.Typed Γ) := by
  cases meaning with
  | random =>
    cases known
    refine keeps_pure ⟨Target.sound_call_any fun _ => ?_, rfl⟩
    exact Evaluation.gives_draw.bind fun _ _ => Evaluation.gives_pure (Value.conforms_int _)
  | now =>
    cases known
    refine keeps_pure ⟨Target.sound_call_any fun _ => ?_, rfl⟩
    exact Evaluation.gives_read.bind fun _ _ => Evaluation.gives_pure (.date _)
  | _ => cases known

/-- A builtin function of typed arguments is typed, if it does not change the case of letters. -/
theorem keeps_call {f : BuiltinFunction} {args : List Target} (keeps : keepsKind f.meaning)
    (h : ∀ t ∈ args, t.Typed Γ) : Keeps names (Lowering.call f args) (·.Typed Γ) := by
  unfold Lowering.call
  split
  · rename_i lowering known
    unfold call? at known
    split at known
    · exact keeps_constantCall known
    · exact keeps_unaryCall known keeps (h _ (by simp))
    · exact keeps_binaryCall known keeps (h _ (by simp)) (h _ (by simp))
    · cases known
  · exact keeps_typeFault _

end Lowering

end PredicateLang
