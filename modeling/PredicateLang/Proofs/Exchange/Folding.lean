import PredicateLang.Proofs.Exchange.Comparison

/-!
# Operands in small letters

Letter case is folded in front of a comparison. A string is put in small letters; the items of a
list are each folded for themselves, and those of any other collection all in the same way. Operands
that may be exchanged still may be after that: the collection of what is in a list of constants has
become a tree that is no constant, but it does the same as the list.
-/

namespace PredicateLang

open Tracing

/-- A string in small letters, or any other value as it is. -/
def Value.small : Value → Value
  | .string s => .string (Text.lower s)
  | v => v

/-- A string stays one in small letters. -/
theorem Value.ofValue_small (v : Value) : Kind.ofValue v.small = Kind.ofValue v := by
  cases v <;> rfl

/-! ## Results -/

namespace Tracing

/-- If a step tells for each item what it becomes, then this is what the items become. -/
theorem result_mapItems {body : Tracing Value} {name : String} {world : World}
    {around : Surroundings} {store : Store} (quiet : Quiet body) (f : Value → Value)
    (items : List Value)
    (each : ∀ v ∈ items, (body world (around.push name v) store).result = .ok (f v)) :
    (mapItems name body items world around store).result = .ok (items.map f) := by
  induction items with
  | nil => rfl
  | cons item rest ih =>
    rw [List.forall_mem_cons] at each
    rw [mapItems, (quiet.withSlot name item).result_bind]
    show (body world (around.push name item) store).result >>= _ = _
    rw [each.1]
    show ((mapItems name body rest >>= fun values => pure (f item :: values)) world around
      store).result = _
    rw [(quiet.mapItems name rest).result_bind, ih each.2]
    rfl

end Tracing

namespace Target

variable {subject t : Target} {world : World} {around : Surroundings} {store : Store}

theorem anyHasEffects_constants (kind : Kind) (values : List Value) :
    anyHasEffects (values.map (.constant kind)) = false := by
  induction values with
  | nil => rfl
  | cons v rest ih => exact ih

theorem result_constants (kind : Kind) (values : List Value) :
    (tracedAll (values.map (.constant kind)) world around store).result = .ok values := by
  induction values with
  | nil => rfl
  | cons v rest ih =>
    rw [List.map_cons, result_tracedAll_cons rfl, ih]
    rfl

/-- The value of a list of constants. -/
theorem result_literal (kind own : Kind) (values : List Value) :
    ((list kind (values.map (.constant own))).traced world around store).result
      = .ok (.array values) := by
  rw [traced, (quiet_tracedAll _ (anyHasEffects_constants own values)).result_bind,
    result_constants]
  rfl

/-- Small letters of a value. -/
def lowered (v : Value) : Except Error Value :=
  Evaluation.onText (fun s => .string (Text.lower s)) v

theorem result_lowercase (kind : Kind) (quiet : subject.hasEffects = false) :
    ((call kind .lowercase [subject]).traced world around store).result
      = (subject.traced world around store).result >>= lowered := by
  have quietAll : anyHasEffects [subject] = false := by simp [anyHasEffects, quiet]
  rw [traced, (quiet_tracedAll _ quietAll).result_bind, result_tracedAll_cons quiet]
  cases (subject.traced world around store).result with
  | error e => rfl
  | ok v => exact result_still_ofResult (lowered v)

/-- A string is put in small letters with a guard or without, since null stays null. -/
theorem MayGuard.result_lowercase {kind : Kind}
    (h : MayGuard (fun s => .call kind .lowercase [s]) subject t)
    (may : Lowering.mayBeString kind) (quiet : subject.hasEffects = false) :
    (t.traced world around store).result
      = (subject.traced world around store).result >>= lowered := by
  rcases h with rfl | ⟨name, -, rfl⟩
  · exact Target.result_lowercase kind quiet
  · rw [traced, (subject.quiet_traced quiet).result_bind]
    congr 1
    funext v
    cases null : v.isNull with
    | true =>
      have default : kind.default = .null := by cases kind <;> first | rfl | cases may
      cases v <;> first | exact congrArg Except.ok default | cases null
    | false =>
      have inner : ((call kind .lowercase [.parameter subject.kind name]).traced world
          (around.push name v) store).result = _ := Target.result_lowercase kind rfl
      rw [traced, result_lookup_push] at inner
      exact inner

section Items

variable {element : Kind} {name : String} {body : Target}
  (guards : MayGuard (fun s => .call element .lowercase [s]) (.parameter element name) body)

include guards

/-- What has been put in small letters has no effects. -/
theorem hasEffects_of_mayGuard : body.hasEffects = false := by
  rcases guards with rfl | ⟨_, -, rfl⟩ <;> rfl

/-- The items of a collection, each put in small letters. -/
theorem MayGuard.result_map {kind : Kind} {items : List Value} {f : Value → Value}
    (may : Lowering.mayBeString element) (quiet : subject.hasEffects = false)
    (source : (subject.traced world around store).result = .ok (.array items))
    (each : ∀ v ∈ items, lowered v = .ok (f v)) :
    ((map kind subject name body).traced world around store).result
      = .ok (.array (items.map f)) := by
  have quietBody := body.quiet_traced (hasEffects_of_mayGuard guards)
  have lowers : ∀ v ∈ items, (body.traced world (around.push name v) store).result = .ok (f v) := by
    intro v mem
    rw [guards.result_lowercase may rfl, traced, result_lookup_push]
    exact each v mem
  rw [traced, (subject.quiet_traced quiet).result_bind, source]
  show ((mapItems name body.traced items >>= fun mapped => pure (Value.array mapped)) world around
    store).result = _
  rw [(quietBody.mapItems name items).result_bind, result_mapItems quietBody f items lowers]
  rfl

end Items

end Target

/-! ## Literals -/

namespace Lowering

open Target

variable {exact : Bool} {d : Dialect} {A : Assumption} {ρ : Naming} {t t' : Target}

/-- A value whose kind may be that of strings is a string. -/
theorem exists_text {v : Value} (may : mayBeString (Kind.ofValue v)) : ∃ s, v = .string s := by
  cases v <;> first | exact ⟨_, rfl⟩ | cases may

/-- Values of a kind that is not that of strings stay what they are. -/
theorem map_small_eq_self {element : Kind} {values : List Value}
    (never : mayBeString element = false) (kinds : ∀ v ∈ values, Kind.ofValue v = element) :
    values.map Value.small = values := by
  have same : values.map Value.small = values.map id := by
    refine List.map_congr_left fun v mem => ?_
    obtain rfl := kinds v mem
    cases v <;> first | rfl | cases never
  rw [same, List.map_id]

theorem foldCaseAll_literal {element : Kind} {values : List Value} (may : mayBeString element)
    (kinds : ∀ v ∈ values, Kind.ofValue v = element) :
    foldCaseAll (values.map (.constant element))
      = pure ((values.map Value.small).map (.constant element)) := by
  induction values with
  | nil => rfl
  | cons v rest ih =>
    rw [List.forall_mem_cons] at kinds
    obtain ⟨rfl, kinds⟩ := kinds
    obtain ⟨s, rfl⟩ := exists_text may
    rw [List.map_cons, foldCaseAll, ih kinds]
    rfl

/-- Of a list of constants each string is put in small letters. -/
theorem foldCase_literal {element : Kind} {values : List Value}
    (kinds : ∀ v ∈ values, Kind.ofValue v = element) :
    foldCase (.list (.sequence element) (values.map (.constant element)))
      = pure (.list (.sequence element) ((values.map Value.small).map (.constant element))) := by
  rw [foldCase]
  split
  · rw [foldCaseAll_literal ‹_› kinds]
    rfl
  · rw [map_small_eq_self (Bool.eq_false_iff.mpr ‹_›) kinds]

/-- What is done to an operand that is no list. -/
theorem foldCase_of_not_list (plain : t.isList = false) :
    foldCase t = match t.kind with
      | .sequence element =>
        if mayBeString element then do
          let parameter ← fresh "f"
          let body ← foldString (.parameter element parameter)
          return .map t.kind t parameter body
        else return t
      | kind => if mayBeString kind then foldString t else return t := by
  cases t <;> first | rfl | cases plain

/-- Only the second step puts something in front of an operation on a subject. -/
theorem carries_guarded_right (node : Target → Target) (subject : Target) :
    Carries exact d ρ (pure ()) (guarded subject fun s => return node s)
      (fun _ t => MayGuard node subject t) := by
  intro settings scope scope' own twin old
  rw [guarded_run]
  split
  · exact .ok (.inr ⟨_, Scope.isMadeUp_madeUp "g" (scope'.counter + 1), rfl⟩)
      ⟨⟨twin.proper, twin.bindings⟩, Nat.le_refl _, Nat.le_succ _⟩
  · exact .ok (.inl rfl) (.refl twin)

/-- The items of a collection of strings, put in small letters one by one. -/
theorem acts_foldedLiteral {element : Kind} {values : List Value} {name : String} {body : Target}
    (may : mayBeString element) (kinds : ∀ v ∈ values, Kind.ofValue v = element)
    (guards : MayGuard (fun s => .call element .lowercase [s]) (.parameter element name) body) :
    Acts A ρ (.list (.sequence element) ((values.map Value.small).map (.constant element)))
      (.map (.sequence element) (.constant (.sequence element) (.array values)) name body) := by
  have effects := hasEffects_of_mayGuard guards
  refine ⟨rfl, effects.trans (anyHasEffects_constants _ _).symm,
    .of_quiet (quiet_traced _ (anyHasEffects_constants _ _)) (quiet_traced _ effects)
      fun world around around' store _ _ => ?_⟩
  have each : ∀ v ∈ values, lowered v = .ok v.small := by
    intro v mem
    obtain ⟨s, rfl⟩ := exists_text (kinds v mem ▸ may)
    rfl
  rw [result_literal, guards.result_map may rfl rfl each]

/-- A list of constants may be exchanged for the collection of their values. -/
theorem exchanges_literal {element : Kind} {values : List Value} {folded : Bool}
    (kinds : ∀ v ∈ values, Kind.ofValue v = element) :
    Exchanges A folded ρ (.list (.sequence element) (values.map (.constant element)))
      (.constant (.sequence element) (.array values)) := by
  refine .literal element values kinds ⟨rfl, (anyHasEffects_constants element values).symm,
    .of_quiet (quiet_traced _ (anyHasEffects_constants element values)) (quiet_pure _)
      fun _ _ _ _ _ _ => (result_literal _ _ values).symm⟩ rfl (.inl rfl)

/-- Only the second step folds the items of a collection. -/
theorem carries_foldItems {element : Kind} {P : Target → Target → Prop}
    (h : ∀ name body,
      MayGuard (fun s => .call element .lowercase [s]) (.parameter element name) body →
        P t (.map t'.kind t' name body)) :
    Carries exact d ρ (pure t) (do
      let parameter ← fresh "f"
      let body ← foldString (.parameter element parameter)
      return .map t'.kind t' parameter body) P := by
  refine carries_fresh_right rfl fun name made new => ?_
  have folds : foldString (.parameter element name)
      = guarded (.parameter element name) fun s => return .call element .lowercase [s] := rfl
  rw [folds, ← pure_bind () fun _ => (pure t : Lowering Target)]
  exact (carries_guarded_right _ _).bind fun _ body guards => carries_pure (h name body guards)

theorem carries_foldLiteral {element : Kind} {values : List Value}
    (kinds : ∀ v ∈ values, Kind.ofValue v = element) :
    Carries exact d ρ
      (pure (.list (.sequence element) ((values.map Value.small).map (.constant element))))
      (foldCase (.constant (.sequence element) (.array values)))
      (fun u u' =>
        u = .list (.sequence element) ((values.map Value.small).map (.constant element))
          ∧ Exchanges A true ρ u u') := by
  have kinds' : ∀ v ∈ values.map Value.small, Kind.ofValue v = element := by
    rw [List.forall_mem_map]
    exact fun v mem => v.ofValue_small.trans (kinds v mem)
  rw [foldCase_of_not_list rfl]
  show Carries exact d ρ _ (if mayBeString element then _ else _) _
  split
  · rename_i may
    exact carries_foldItems fun name body guards => ⟨rfl,
      .literal element _ kinds' (acts_foldedLiteral may kinds guards) rfl (.inr ⟨rfl, rfl⟩)⟩
  · rw [map_small_eq_self (Bool.eq_false_iff.mpr ‹_›) kinds]
    exact carries_pure ⟨rfl, exchanges_literal kinds⟩

/-! ## Operands that may be exchanged -/

theorem carries_foldString (h : Exchanges .none false ρ t t') :
    Carries exact d ρ (foldString t) (foldString t') (Parallel .none true ρ) := by
  unfold foldString
  rw [h.constantString?_eq nofun, h.kind_eq]
  split
  · exact carries_pure (parallel_constant _ _)
  · refine (carries_guarded h nofun fun _ _ _ _ h => carries_pure
      (((h.acts.cons allAct_nil).call _ (by simp)).parallel ⟨rfl, rfl⟩)).mono fun _ _ h => ?_
    exact ⟨h.exchanges.fold, h.isList⟩

/-- Operands that are no lists, or both the same sort of list, are folded to such. -/
theorem carries_foldSubject (h : Exchanges .none false ρ t t')
    (plain : t.isList = false ∧ t'.isList = false) :
    Carries exact d ρ (foldCase t) (foldCase t') (Parallel .none true ρ) := by
  rw [foldCase_of_not_list plain.1, foldCase_of_not_list plain.2, h.kind_eq]
  split
  · split
    · refine carries_fresh rfl fun a b made extend => ?_
      exact (carries_foldString (parallel_parameter _ (Naming.push_self ρ a b)).exchanges).bind
        fun _ _ body => carries_pure ((h.acts.map made body.exchanges.acts _).parallel ⟨rfl, rfl⟩)
    · exact carries_pure ⟨h.fold, plain.2.trans plain.1.symm⟩
  · split
    · exact carries_foldString h
    · exact carries_pure ⟨h.fold, plain.2.trans plain.1.symm⟩

mutual

theorem carries_foldCase {t t' : Target} (h : Exchanges .none false ρ t t') :
    Carries exact d ρ (foldCase t) (foldCase t') (fun u u' => Exchanges .none true ρ u u'
      ∧ (t'.isList = t.isList → u'.isList = u.isList)) := by
  match t, t', h with
  | _, _, .single acts plain same =>
    exact (carries_foldSubject (.single acts plain same) plain).mono
      fun _ _ h => ⟨h.exchanges, fun _ => h.isList⟩
  | .list _ ts, .list _ ts', .list kind items =>
    have whole (u u' : Target) (h : Parallel .none true ρ u u') : Exchanges .none true ρ u u'
        ∧ ((Target.list kind ts').isList = (Target.list kind ts).isList → u'.isList = u.isList) :=
      ⟨h.exchanges, fun _ => h.isList⟩
    refine Carries.mono ?_ whole
    unfold foldCase
    split
    · split
      · exact (carries_foldCaseAll items).bind fun _ _ items => carries_pure (items.parallel _)
      · exact carries_pure (items.fold.parallel _)
    · split
      · exact carries_foldString (.list kind items)
      · exact carries_pure (items.fold.parallel _)
  | _, t', .literal element values kinds acts plain known =>
    have is := known.resolve_right nofun
    cases t' with
    | constant own value =>
      obtain rfl : value = .array values := Option.some.inj is
      obtain rfl : own = .sequence element := acts.kind
      rw [foldCase_literal kinds]
      exact (carries_foldLiteral kinds).mono fun _ _ h => ⟨h.2, nofun⟩
    | _ => cases is

theorem carries_foldCaseAll {ts ts' : List Target} (h : AllExchange .none false ρ ts ts') :
    Carries exact d ρ (foldCaseAll ts) (foldCaseAll ts') (AllExchange .none true ρ) := by
  match h with
  | .nil => exact carries_pure .nil
  | .cons first rest =>
    exact (carries_foldCase first).bind fun _ _ first => (carries_foldCaseAll rest).bind
      fun _ _ rest => carries_pure (.cons first.1 rest)

end

/-- The trees may be exchanged on the right of an operator, with letter case folded or not. -/
structure Comparable (exact : Bool) (d : Dialect) (operator : Operator) (ρ : Naming)
    (s s' : Target) : Prop where
  unfolded : Comparands exact .none operator ρ s s'
  folded : Carries exact d ρ (foldCase s) (foldCase s') (Comparands exact .none operator ρ)

section

variable {operator : Operator} {s s' : Target}

theorem comparable_of_ne_between (other : operator ≠ .between) (h : Exchanges .none false ρ s s') :
    Comparable exact d operator ρ s s' where
  unfolded := ⟨h.fold, fun is => absurd is other⟩
  folded := (carries_foldCase h).mono fun _ _ h => ⟨h.1, fun is => absurd is other⟩

theorem comparable_of_parallel (h : Parallel .none false ρ s s') :
    Comparable exact d operator ρ s s' where
  unfolded := ⟨h.exchanges.fold, fun _ => .inl h.isList⟩
  folded := (carries_foldCase h.exchanges).mono fun _ _ folded =>
    ⟨folded.1, fun _ => .inl (folded.2 h.isList)⟩

/-- Two bounds that no GUID can be made of, in small letters or not. -/
theorem comparable_bounds {element : Kind} {low high : Value} (inexact : exact = false)
    (kinds : ∀ v ∈ [low, high], Kind.ofValue v = element)
    (plain : ∀ v ∈ [low, high], v.convert? .guid = none ∧ v.small.convert? .guid = none) :
    Comparable exact d operator ρ
      (.list (.sequence element) [.constant element low, .constant element high])
      (.constant (.sequence element) (.array [low, high])) where
  unfolded := ⟨exchanges_literal kinds, fun _ =>
    .inr ⟨inexact, element, low, high, rfl, fun v mem => ⟨kinds v mem, (plain v mem).1⟩⟩⟩
  folded := by
    have left := foldCase_literal kinds
    rw [show [low, high].map (constant element) = [constant element low, constant element high]
      from rfl] at left
    rw [left]
    refine (carries_foldLiteral (A := .none) kinds).mono ?_
    rintro _ u' ⟨rfl, h⟩
    refine ⟨h, fun _ => .inr ⟨inexact, element, low.small, high.small, rfl, ?_⟩⟩
    show ∀ v ∈ [low, high].map Value.small, _
    rw [List.forall_mem_map]
    exact fun v mem => ⟨v.ofValue_small.trans (kinds v mem), (plain v mem).2⟩

theorem carries_comparison (modifier : Modifier) (options : Options)
    (h : Exchanges .none false ρ t t') (h' : Comparable exact d operator ρ s s') :
    Carries exact d ρ (comparison operator modifier options t s)
      (comparison operator modifier options t' s') (Parallel .none false ρ) := by
  have operands : Carries exact d ρ (foldOperands options operator t s)
      (foldOperands options operator t' s')
      (fun p p' => Exchanges .none true ρ p.1 p'.1
        ∧ Comparands exact .none operator ρ p.2 p'.2) := by
    refine carries_settings.bind ?_
    rintro settings _ ⟨rfl, -⟩
    split
    · refine (carries_foldCase h).bind fun _ _ left => ?_
      split
      · exact carries_pure ⟨left.1, h'.unfolded⟩
      · exact h'.folded.bind fun _ _ right => carries_pure ⟨left.1, right⟩
    · exact carries_pure ⟨h.fold, h'.unfolded⟩
  exact operands.bind fun _ _ both => carries_modified modifier both.1 both.2

end

end Lowering

end PredicateLang
