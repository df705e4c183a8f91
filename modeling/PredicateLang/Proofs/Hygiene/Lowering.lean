import PredicateLang.Lowering
import PredicateLang.Proofs.Hygiene.Paths

/-!
# Lowered trees stay tidy

`Lowering.Stays w step P` says of a step of lowering at a site `w`, in a scope whose names stand for
constants or for the object and variables, that what the step gives satisfies `P` at the site that
lowering has come to, and that the scope is still such a one. There is a rule for each way that steps
are put together, and a lemma for each function of lowering: of tidy operands it makes a tidy tree.

A function may put its operands under names that it makes up. So what is said of an operation under a
guard, or of one that is evaluated ahead, is said at every site further on.
-/

open PredicateLang.Scope PredicateLang.Target

namespace PredicateLang

/-- Each name stands for a constant, or for the object or a variable. -/
def Scope.IsOwn (scope : Scope) : Prop :=
  ∀ name t, scope.bindings.find? name = some t →
    (∃ kind value, t = .constant kind value) ∨ ∃ kind key, t = .parameter kind key ∧ IsOuter key

namespace Scope

variable {scope : Scope} {name : String} {t : Target}

theorem IsOwn.tidy (h : scope.IsOwn) (w : Site) (found : scope.bindings.find? name = some t) :
    t.Tidy w := by
  rcases h name t found with ⟨kind, value, rfl⟩ | ⟨kind, key, rfl, outer⟩
  · exact tidy_constant kind value
  · exact tidy_parameter kind (.inl outer)

theorem IsOwn.insert (h : scope.IsOwn)
    (own : (∃ kind value, t = .constant kind value)
      ∨ ∃ kind key, t = .parameter kind key ∧ IsOuter key) :
    IsOwn { scope with bindings := scope.bindings.insert name t } := by
  intro name' t' found
  by_cases same : name = name'
  · subst same
    obtain rfl : t = t' := by simpa using found
    exact own
  · rw [Fields.find?_insert_of_ne _ _ same] at found
    exact h name' t' found

theorem isOwn_externals {bindings : Fields Target} {counter : Nat}
    (externals : List (String × Value)) (h : IsOwn ⟨bindings, counter⟩) :
    IsOwn ⟨externals.foldl (fun bindings (name, value) =>
      bindings.insert (variableKey name) (.ofValue value)) bindings, counter⟩ := by
  induction externals generalizing bindings with
  | nil => exact h
  | cons external rest ih => exact ih (h.insert (.inl ⟨_, _, rfl⟩))

/-- Lowering starts with the object and the external variables. -/
theorem isOwn_root (object : Kind) (settings : Settings) : (root object settings).IsOwn := by
  refine isOwn_externals settings.externals fun name t found => ?_
  unfold Fields.find? at found
  split at found <;> cases found
  exact .inr ⟨object, objectName, rfl, .inl rfl⟩

end Scope

namespace Lowering

variable {α β : Type} {w : Site} {step : Lowering α} {P : Site → α → Prop} {Q : Site → β → Prop}
  {s t : Target} {ts : List Target}

/-- At the site, in a scope of constants, the object and variables, what the step gives satisfies `P`
when more names have been made up, and the scope is such a one after it. -/
def Stays (w : Site) (step : Lowering α) (P : Site → α → Prop) : Prop :=
  ∀ settings scope a after, scope.counter = w.counter → scope.IsOwn →
    step settings scope = .ok a after →
    after.IsOwn ∧ ∃ le : w.counter ≤ after.counter, P (w.later after.counter le) a

/-- The step makes a tidy tree. -/
abbrev StaysTidy (w : Site) (step : Lowering Target) : Prop := Stays w step Tidy

/-! ## Rules -/

theorem Stays.bind {next : α → Lowering β} (h : Stays w step P)
    (h' : ∀ w' a, w ≤ w' → P w' a → Stays w' (next a) Q) : Stays w (step >>= next) Q := by
  intro settings scope b after count own run
  obtain ⟨a, between, first, run⟩ := exists_of_run_bind run
  obtain ⟨own, le, holds⟩ := h settings scope a between count own first
  obtain ⟨own, le', holds⟩ := h' _ a (w.le_later le) holds settings between b after rfl own run
  exact ⟨own, Nat.le_trans le le', holds⟩

/-- A step that changes nothing. -/
theorem stays_of_still (h : ∀ settings scope a after, scope.IsOwn →
    step settings scope = .ok a after → after = scope ∧ P w a) : Stays w step P := by
  intro settings scope a after count own run
  obtain ⟨rfl, holds⟩ := h settings scope a after own run
  obtain ⟨names, counter, made⟩ := w
  subst count
  exact ⟨own, Nat.le_refl _, holds⟩

theorem stays_pure {a : α} (h : P w a) : Stays w (pure a) P :=
  stays_of_still fun _ _ _ _ _ run => by
    cases run
    exact ⟨rfl, h⟩

theorem stays_throw (e : Error) : Stays w (throw e) P := by
  intro settings scope a after count own run
  cases run

theorem stays_typeFault (fault : TypeFault) : Stays w (typeFault fault) P :=
  stays_throw (.type fault)

theorem stays_ofResult {made : Except Error α} (h : ∀ a, made = .ok a → P w a) :
    Stays w (ofResult made) P := by
  cases made with
  | ok a => exact stays_pure (h a rfl)
  | error e => exact stays_throw e

theorem stays_settings : Stays w read (fun _ _ => True) :=
  stays_of_still fun _ _ _ _ _ run => by
    cases run
    exact ⟨rfl, trivial⟩

theorem stays_dialect : Stays w dialect (fun _ _ => True) :=
  stays_settings.bind fun _ _ _ _ => stays_pure trivial

theorem stays_binding? (name : String) :
    Stays w (binding? name) (fun w found => ∀ t, found = some t → t.Tidy w) :=
  stays_of_still fun _ _ _ _ own run => by
    cases run
    exact ⟨rfl, fun _ found => own.tidy w found⟩

/-- A variable that stands for its value from now on. -/
theorem stays_bind (kind : Kind) (name : String) :
    Stays w (bind (variableKey name) (.parameter kind (variableKey name))) (fun _ _ => True) := by
  intro settings scope a after count own run
  cases run
  exact ⟨own.insert (.inr ⟨kind, _, rfl, .inr ⟨name, rfl⟩⟩), Nat.le_of_eq count.symm, trivial⟩

/-- What an enclosed step brings into scope goes out of scope with it. -/
theorem Stays.enclosed (h : Stays w step P) : Stays w (Lowering.enclosed step) P := by
  intro settings scope a after count own run
  unfold Lowering.enclosed at run
  split at run <;> cases run
  rename_i between inside
  exact ⟨own, (h settings scope a between count own inside).2⟩

/-- A node that introduces a name for its body, which is made with the name. -/
theorem stays_introduce (letter : String) (length : letter.toList.length = 1)
    {body : String → Lowering Target} {node : String → Target → Target} {binder : Binder}
    (is : ∀ name u, (node name u).children = [([], s), ([(name, binder)], u)])
    (introduces : ∀ name u, (node name u).binding? = some name) (h : s.Tidy w)
    (h' : StaysTidy (w.below letter length) (body (w.next letter))) :
    StaysTidy w (do
      let name ← fresh letter
      let u ← body name
      return node name u) := by
  intro settings scope t after count own run
  obtain ⟨name, between, made, rest⟩ := exists_of_run_bind run
  obtain ⟨u, between', inside, last⟩ := exists_of_run_bind rest
  cases made
  cases last
  have next : "#" ++ letter ++ toString (scope.counter + 1) = w.next letter := by
    rw [count]
    rfl
  rw [next] at inside ⊢
  obtain ⟨own, le, tidy⟩ := h' settings ⟨scope.bindings, scope.counter + 1⟩ u _
    (congrArg (· + 1) count) own inside
  exact ⟨own, Nat.le_of_succ_le le,
    Tidy.introduce length le (is _ _) (introduces _ _) h tidy⟩

theorem stays_elementOf (operation : String) (wanted : Demand) (source : Target) :
    Stays w (elementOf operation wanted source) (fun _ _ => True) := by
  unfold elementOf
  split
  · exact stays_pure trivial
  · exact stays_typeFault _

/-! ## Guards -/

/-- An operation on a subject, under a guard or not. -/
theorem stays_guarded {build : Target → Lowering Target} (h : s.Tidy w)
    (h' : ∀ w' s', w ≤ w' → s'.Tidy w' → StaysTidy w' (build s')) :
    StaysTidy w (guarded s build) := by
  refine stays_dialect.bind fun w₁ dialect le _ => ?_
  have h := h.mono le
  split
  · have name : (Target.parameter s.kind (w₁.next "g")).Tidy (w₁.below "g" rfl) :=
      tidy_parameter _ (.inr (Set.mem_insert _ _))
    exact stays_introduce "g" rfl (fun _ _ => rfl) (fun _ _ => rfl) h
      (h' _ _ (le.trans (Site.le_below rfl)) name)
  · exact h' w₁ s le h

/-- An operation on a subject that is evaluated ahead of it. -/
theorem stays_shared {build : Target → Lowering Target} (h : s.Tidy w)
    (h' : ∀ w' s', w ≤ w' → s'.Tidy w' → StaysTidy w' (build s')) :
    StaysTidy w (shared s build) := by
  refine stays_dialect.bind fun w₁ dialect le _ => ?_
  have h := h.mono le
  split
  · have name : (Target.parameter s.kind (w₁.next "b")).Tidy (w₁.below "b" rfl) :=
      tidy_parameter _ (.inr (Set.mem_insert _ _))
    exact stays_introduce "b" rfl (fun _ _ => rfl) (fun _ _ => rfl) h
      (h' _ _ (le.trans (Site.le_below rfl)) name)
  · exact h' w₁ s le h

/-- An operation on two operands that are evaluated ahead of it, the left one first. -/
theorem stays_sharedBoth {build : Target → Target → Lowering Target} (h : s.Tidy w)
    (h' : t.Tidy w)
    (h'' : ∀ w' s' t', w ≤ w' → s'.Tidy w' → t'.Tidy w' → StaysTidy w' (build s' t')) :
    StaysTidy w (shared s fun s => shared t fun t => build s t) :=
  stays_shared h fun _ _ le left => stays_shared (h'.mono le) fun _ _ le' right =>
    h'' _ _ _ (le.trans le') (left.mono le') right

/-! ## Key paths -/

theorem stays_propertyOn (name : String) (kind : Kind) {w : Site} {t : Target} (h : t.Tidy w) :
    StaysTidy w (propertyOn name kind t) := by
  cases kind with
  | sequence element =>
    unfold propertyOn
    have item : (Target.parameter element (w.next "e")).Tidy (w.below "e" rfl) :=
      tidy_parameter _ (.inr (Set.mem_insert _ _))
    exact stays_introduce "e" rfl (fun _ _ => rfl) (fun _ _ => rfl) h
      (stays_propertyOn name element item)
  | _ =>
    unfold propertyOn
    split
    · exact stays_guarded h fun _ _ _ holds => stays_pure (holds.above rfl rfl)
    · exact stays_typeFault _

theorem stays_count (h : t.Tidy w) : StaysTidy w (count t) :=
  stays_guarded h fun _ _ _ holds => stays_pure (holds.above rfl rfl)

theorem stays_reduce (reduction : Reduction) (element : Kind) (h : t.Tidy w) :
    StaysTidy w (reduce t reduction element) := by
  unfold reduce
  split
  · exact stays_guarded h fun _ _ _ holds => stays_pure (holds.above rfl rfl)
  · exact stays_typeFault _

theorem stays_collectionOperator (name : String) (h : t.Tidy w) :
    StaysTidy w (collectionOperator t name) := by
  refine (stays_elementOf _ _ t).bind fun w' element le _ => ?_
  have h := h.mono le
  dsimp only
  split
  · exact stays_count h
  · split
    · exact stays_reduce _ element h
    · exact stays_typeFault _

theorem stays_follow (segments : List String) {w : Site} {t : Target} (h : t.Tidy w) :
    StaysTidy w (follow t segments) := by
  induction segments generalizing w t with
  | nil => exact stays_pure h
  | cons segment rest ih =>
    unfold follow
    split
    · exact (ih h).bind fun _ _ _ holds => stays_collectionOperator _ holds
    · exact (stays_propertyOn segment t.kind h).bind fun _ _ _ holds => ih holds

/-! ## Operations -/

theorem stays_cast {kind : Kind} (h : t.Tidy w) : StaysTidy w (ofResult (t.cast kind)) :=
  stays_ofResult fun _ cast => h.cast cast

/-- Both trees are tidy. -/
def TidyPair (w : Site) (pair : Target × Target) : Prop := pair.1.Tidy w ∧ pair.2.Tidy w

theorem stays_makeComparable (h : s.Tidy w) (h' : t.Tidy w) :
    Stays w (ofResult (s.makeComparable t)) TidyPair :=
  stays_ofResult fun _ made =>
    have casts := isCast_of_makeComparable made
    ⟨h.of_isCast casts.1, h'.of_isCast casts.2⟩

theorem stays_numeric (selector : String) (h : t.Tidy w) : StaysTidy w (numeric selector t) := by
  unfold numeric
  split
  · exact stays_pure h
  · exact stays_typeFault _

theorem stays_integral (selector : String) (h : t.Tidy w) : StaysTidy w (integral selector t) := by
  unfold integral
  split
  · exact stays_pure h
  · exact stays_typeFault _

theorem stays_fractional (h : t.Tidy w) : StaysTidy w (fractional t) := by
  unfold fractional
  split
  · exact stays_pure h
  · exact stays_cast h

theorem stays_onSharedKind (op : BinaryOp) (h : s.Tidy w) (h' : t.Tidy w) :
    StaysTidy w (onSharedKind op s t) := by
  unfold onSharedKind
  split
  · exact stays_pure (h.binary _ op h')
  · exact (stays_makeComparable h h').bind fun _ _ _ holds =>
      stays_pure (holds.1.binary _ op holds.2)

theorem stays_arithmetic (selector : String) (op : BinaryOp) (h : s.Tidy w) (h' : t.Tidy w) :
    StaysTidy w (arithmetic selector op s t) := by
  refine (stays_numeric selector h).bind fun _ s le h => ?_
  refine (stays_numeric selector (h'.mono le)).bind fun _ t le h' => ?_
  have h := h.mono le
  split
  · refine (stays_cast h).bind fun _ _ le holds => ?_
    refine (stays_cast (h'.mono le)).bind fun _ _ le holds' => ?_
    exact stays_pure ((holds.mono le).binary _ op holds')
  · exact stays_onSharedKind op h h'

/-! ## Casts and dates -/

theorem stays_castLater (builtin : Builtin) (kind : Kind) (h : t.Tidy w) :
    StaysTidy w (castTo.castLater t builtin kind) := by
  unfold castTo.castLater
  refine stays_dialect.bind fun _ dialect le _ => ?_
  split
  · exact stays_throw _
  · exact stays_pure (tidy_call _ _ (List.forall_mem_singleton.mpr (h.mono le)))

/-- A cast of a constant, now, or of anything else later. -/
theorem stays_castNow (builtin : Builtin) (kind : Kind)
    (cast : Value → Except EvaluationFault Value) (h : t.Tidy w) :
    StaysTidy w
      (match t.constant? with
        | some value =>
          if value.isNull then castTo.castLater t builtin kind
          else
            match cast value with
            | .ok result => return .ofValue result
            | .error fault => throw (.evaluation fault)
        | none => castTo.castLater t builtin kind) := by
  split
  · split
    · exact stays_castLater builtin kind h
    · split
      · exact stays_pure (tidy_constant _ _)
      · exact stays_throw _
  · exact stays_castLater builtin kind h

theorem stays_castTo (h : s.Tidy w) : StaysTidy w (castTo s t) := by
  unfold castTo
  split
  · dsimp only
    split
    iterate 3 exact stays_castNow _ _ _ h
    exact (stays_typeFault (P := fun _ _ => False) _).bind fun _ _ _ never => never.elim
  · exact stays_typeFault _

/-- Dates are moved by each dialect in its own way. -/
theorem stays_moveDate (selector : String) (unit : DateUnit) (h : s.Tidy w) (h' : t.Tidy w) :
    StaysTidy w (moveDate selector unit s t) := by
  have objects {w : Site} {t : Target} (h : s.Tidy w) (h' : t.Tidy w) : StaysTidy w (do
        let amount ← fractional t
        guarded s fun date => return .call .date (.dateAdd unit) [date, amount]) := by
    refine (stays_fractional h').bind fun _ amount le holds => ?_
    refine stays_guarded (h.mono le) fun _ date le' holds' => stays_pure (tidy_call _ _ ?_)
    exact List.forall_mem_cons.mpr ⟨holds', List.forall_mem_singleton.mpr (holds.mono le')⟩
  have backend {w : Site} {t : Target} (h : s.Tidy w) (h' : t.Tidy w) : StaysTidy w (do
        return Target.call .date (.backendDateAdd unit) [s, ← backendAmount t]) := by
    have amount : StaysTidy w (backendAmount t) := by
      unfold backendAmount
      split
      · exact stays_cast h'
      · exact stays_pure h'
    refine amount.bind fun _ amount le holds => stays_pure (tidy_call _ _ ?_)
    exact List.forall_mem_cons.mpr ⟨h.mono le, List.forall_mem_singleton.mpr holds⟩
  unfold moveDate
  refine (stays_numeric selector h').bind fun _ t le h' => ?_
  -- The date may be of three kinds.
  split
  iterate 3
    refine stays_dialect.bind fun _ dialect le' _ => ?_
    cases dialect with
    | objects => exact objects (h.mono (le.trans le')) (h'.mono le')
    | backend => exact backend (h.mono (le.trans le')) (h'.mono le')
  exact stays_typeFault _

/-! ## Functions -/

theorem stays_indexBySymbol (element : Kind) (symbol : IndexSymbol) (h : s.Tidy w) :
    StaysTidy w (indexBySymbol s element symbol) := by
  cases symbol with
  | size => exact stays_count h
  | first =>
    exact stays_guarded h fun _ _ _ holds => stays_pure (holds.elementAt _ (tidy_constant _ _))
  | last =>
    -- the collection is there twice, side by side
    unfold indexBySymbol
    refine stays_guarded h fun w source _ holds => stays_pure ?_
    have size : (Target.count (.integer .int) source).Tidy w := holds.above rfl rfl
    exact holds.elementAt _ (size.binary _ _ (tidy_constant _ _))

theorem stays_indexBy (element : Kind) (h : s.Tidy w) (h' : t.Tidy w) :
    StaysTidy w (indexBy s element t) :=
  (stays_integral _ h').bind fun _ _ le holds => stays_guarded (h.mono le) fun _ _ le' holds' =>
    stays_pure (holds'.elementAt _ (holds.mono le'))

theorem stays_textFunction (selector : String) (builtin : Builtin) (h : t.Tidy w) :
    StaysTidy w (textFunction selector builtin t) := by
  have guardedCall (kind : Kind) :
      StaysTidy w (guarded t fun argument => return .call kind builtin [argument]) :=
    stays_guarded h fun _ _ _ holds =>
      stays_pure (tidy_call _ _ (List.forall_mem_singleton.mpr holds))
  unfold textFunction
  split
  iterate 3 exact guardedCall _
  exact stays_typeFault _

/-! ## Calls -/

theorem stays_function (selector : String) (arity : Nat) :
    Stays w (function selector arity) (fun _ _ => True) := by
  unfold function
  split
  · exact stays_throw _
  · split
    · exact stays_pure trivial
    · exact stays_typeFault _

theorem stays_unaryCall? (selector : String) {meaning : Meaning} (h : t.Tidy w)
    {lowering : Lowering Target} (known : unaryCall? selector t meaning = some lowering) :
    StaysTidy w lowering := by
  have call {w : Site} {t : Target} (kind : Kind) (builtin : Builtin) (h : t.Tidy w) :
      (Target.call kind builtin [t]).Tidy w := tidy_call _ _ (List.forall_mem_singleton.mpr h)
  cases meaning with
  | reduce reduction =>
    cases known
    exact (stays_elementOf _ _ t).bind fun _ element le _ =>
      stays_reduce reduction element (h.mono le)
  | count =>
    cases known
    exact (stays_elementOf _ _ t).bind fun _ _ le _ => stays_count (h.mono le)
  | math builtin =>
    cases known
    exact (stays_numeric _ h).bind fun _ _ _ holds => (stays_fractional holds).bind
      fun _ _ _ holds => stays_pure (call _ _ holds)
  | rounding builtin =>
    cases known
    exact (stays_numeric _ h).bind fun _ _ _ holds => stays_pure (call _ _ holds)
  | abs =>
    cases known
    exact (stays_numeric _ h).bind fun _ _ _ holds => stays_pure (call _ _ holds)
  | negate =>
    cases known
    exact (stays_numeric _ h).bind fun _ _ _ holds => stays_pure (holds.above rfl rfl)
  | text builtin =>
    cases known
    exact stays_textFunction selector builtin h
  | onesComplement =>
    cases known
    exact (stays_integral _ h).bind fun _ _ _ holds => stays_pure (holds.above rfl rfl)
  | randomBelow =>
    cases known
    exact (stays_numeric _ h).bind fun _ _ _ holds => stays_pure (call _ _ holds)
  | _ => cases known

theorem stays_binaryCall? (selector : String) {meaning : Meaning} (h : s.Tidy w) (h' : t.Tidy w)
    {lowering : Lowering Target} (known : binaryCall? selector s t meaning = some lowering) :
    StaysTidy w lowering := by
  cases meaning with
  | arithmetic op =>
    cases known
    exact stays_arithmetic selector op h h'
  | bitwise op =>
    cases known
    exact (stays_integral _ h).bind fun _ _ le holds => (stays_integral _ (h'.mono le)).bind
      fun _ _ le' holds' => stays_onSharedKind op (holds.mono le') holds'
  | shift op =>
    cases known
    exact (stays_integral _ h).bind fun _ _ le holds => (stays_integral _ (h'.mono le)).bind
      fun _ _ le' holds' => stays_pure ((holds.mono le').binary _ op holds')
  | cast =>
    cases known
    exact stays_castTo h
  | dateAdd unit =>
    cases known
    exact stays_moveDate selector unit h h'
  | _ => cases known

theorem stays_constantCall? {meaning : Meaning} {lowering : Lowering Target}
    (known : constantCall? meaning = some lowering) : StaysTidy w lowering := by
  cases meaning with
  | random | now =>
    cases known
    exact stays_pure (tidy_call _ _ (List.forall_mem_nil _))
  | _ => cases known

theorem stays_call {f : BuiltinFunction} (h : ∀ t ∈ ts, t.Tidy w) : StaysTidy w (call f ts) := by
  unfold call
  split
  · rename_i lowering known
    unfold call? at known
    split at known
    · exact stays_constantCall? known
    · exact stays_unaryCall? _ (List.forall_mem_singleton.mp h) known
    · rw [List.forall_mem_cons, List.forall_mem_singleton] at h
      exact stays_binaryCall? _ h.1 h.2 known
    · cases known
  · exact stays_typeFault _

/-! ## Letter case -/

theorem stays_foldString (h : t.Tidy w) : StaysTidy w (foldString t) := by
  unfold foldString
  split
  · exact stays_pure (tidy_constant _ _)
  · exact stays_guarded h fun _ _ _ holds =>
      stays_pure (tidy_call _ _ (List.forall_mem_singleton.mpr holds))

/-- What is done to an operand that is no list: to a collection item by item. -/
theorem stays_foldSubject (h : t.Tidy w) :
    StaysTidy w
      (match t.kind with
        | .sequence element =>
          if mayBeString element then do
            let parameter ← fresh "f"
            let body ← foldString (.parameter element parameter)
            return .map t.kind t parameter body
          else return t
        | kind => if mayBeString kind then foldString t else return t) := by
  split
  · rename_i element _
    split
    · have item : (Target.parameter element (w.next "f")).Tidy (w.below "f" rfl) :=
        tidy_parameter _ (.inr (Set.mem_insert _ _))
      exact stays_introduce "f" rfl (fun _ _ => rfl) (fun _ _ => rfl) h (stays_foldString item)
    · exact stays_pure h
  · split
    · exact stays_foldString h
    · exact stays_pure h

/-- All trees are tidy. -/
def AllTidy (w : Site) (ts : List Target) : Prop := ∀ t ∈ ts, t.Tidy w

theorem AllTidy.mono {w' : Site} (h : AllTidy w ts) (le : w ≤ w') : AllTidy w' ts :=
  fun t mem => (h t mem).mono le

mutual

theorem stays_foldCase (t : Target) {w : Site} (h : t.Tidy w) : StaysTidy w (foldCase t) := by
  match t with
  | .list kind items =>
    unfold foldCase
    split
    · split
      · exact (stays_foldCaseAll items fun t mem => h.item mem).bind fun _ _ _ holds =>
          stays_pure (tidy_list _ holds)
      · exact stays_pure h
    · split
      · exact stays_foldString h
      · exact stays_pure h
  | .constant .. | .parameter .. | .property .. | .guard .. | .map .. | .filter .. | .quantify ..
  | .count .. | .reduce .. | .elementAt .. | .binary .. | .unary .. | .call .. | .convert ..
  | .assign .. | .bind .. =>
    unfold foldCase
    exact stays_foldSubject h

theorem stays_foldCaseAll (ts : List Target) {w : Site} (h : AllTidy w ts) :
    Stays w (foldCaseAll ts) AllTidy := by
  match ts with
  | [] => exact stays_pure nofun
  | t :: ts =>
    unfold foldCaseAll
    have first := h t (.head _)
    have others : AllTidy w ts := fun t mem => h t (.tail _ mem)
    refine (stays_foldCase t first).bind fun _ _ le holds => ?_
    refine (stays_foldCaseAll ts (others.mono le)).bind fun _ _ le' all => stays_pure ?_
    exact List.forall_mem_cons.mpr ⟨holds.mono le', all⟩

end

theorem stays_foldOperands (options : Options) (operator : Operator) (h : s.Tidy w)
    (h' : t.Tidy w) : Stays w (foldOperands options operator s t) TidyPair := by
  refine stays_settings.bind fun _ settings le _ => ?_
  have h := h.mono le
  have h' := h'.mono le
  split
  · refine (stays_foldCase s h).bind fun _ _ le holds => ?_
    have h' := h'.mono le
    split
    · exact stays_pure ⟨holds, h'⟩
    · exact (stays_foldCase t h').bind fun _ _ le holds' => stays_pure ⟨holds.mono le, holds'⟩
  · exact stays_pure ⟨h, h'⟩

/-! ## Comparisons -/

theorem stays_relate (op : BinaryOp) (h : s.Tidy w) (h' : t.Tidy w) :
    StaysTidy w (relate op s t) :=
  (stays_makeComparable h h').bind fun _ _ _ holds =>
    stays_pure (holds.1.binary _ op holds.2)

theorem stays_demandString (builtin : Builtin) (t : Target) :
    Stays w (demandString builtin t) (fun _ _ => True) := by
  unfold demandString
  split
  iterate 3 exact stays_pure trivial
  exact stays_typeFault _

/-- A call on two operands that are evaluated first, the first of them under a guard. -/
theorem stays_sharedCall (builtin : Builtin) (h : s.Tidy w) (h' : t.Tidy w) :
    StaysTidy w (shared s fun s => shared t fun t => guarded s fun s =>
      return .call .boolean builtin [s, t]) := by
  refine stays_sharedBoth h h' fun _ s t _ h h' => ?_
  refine stays_guarded h fun _ s' le holds => stays_pure (tidy_call _ _ ?_)
  exact List.forall_mem_cons.mpr ⟨holds, List.forall_mem_singleton.mpr (h'.mono le)⟩

theorem stays_stringTest (builtin : Builtin) (h : s.Tidy w) (h' : t.Tidy w) :
    StaysTidy w (stringTest builtin s t) := by
  refine (stays_demandString builtin s).bind fun _ _ le _ => ?_
  refine (stays_demandString builtin t).bind fun _ _ le' _ => ?_
  have le := le.trans le'
  exact stays_sharedCall builtin (h.mono le) (h'.mono le)

theorem stays_contains (h : s.Tidy w) (h' : t.Tidy w) : StaysTidy w (contains s t) := by
  unfold contains
  split
  · exact (stays_makeComparable h h').bind fun _ _ _ holds => stays_sharedCall _ holds.1 holds.2
  · exact stays_sharedCall _ h h'

/-- The value is there twice, side by side. -/
theorem stays_within {lower upper : Target} (h : t.Tidy w) (h' : lower.Tidy w)
    (h'' : upper.Tidy w) : StaysTidy w (within t lower upper) := by
  refine (stays_relate _ h h').bind fun _ _ le low => ?_
  refine (stays_relate _ (h.mono le) (h''.mono le)).bind fun _ _ le' high => ?_
  exact stays_pure ((low.mono le').binary _ _ high)

theorem stays_between (h : s.Tidy w) (h' : t.Tidy w) : StaysTidy w (between s t) := by
  refine stays_shared h fun _ s le h => ?_
  have h' := h'.mono le
  split
  · exact stays_within h (h'.item (by simp)) (h'.item (by simp))
  · exact stays_typeFault _
  · refine (stays_elementOf _ _ _).bind fun _ element le _ => ?_
    refine stays_shared (h'.mono le) fun w' t le' h' => ?_
    have item (i : Int) : (Target.elementAt element t (.ofValue (.int i))).Tidy w' :=
      h'.elementAt _ (tidy_constant _ _)
    exact stays_within (h.mono (le.trans le')) (item 0) (item 1)

theorem stays_compare (operator : Operator) (h : s.Tidy w) (h' : t.Tidy w) :
    StaysTidy w (compare operator s t) := by
  cases operator with
  | less | lessEqual | greater | greaterEqual | equal | notEqual => exact stays_relate _ h h'
  | isMatch | like | beginsWith | endsWith => exact stays_stringTest _ h h'
  | contains => exact stays_contains h h'
  | member => exact stays_contains h' h
  | between => exact stays_between h h'

theorem stays_quantified (quantifier : Quantifier) (operator : Operator) (h : s.Tidy w)
    (h' : t.Tidy w) : StaysTidy w (quantified quantifier operator s t) := by
  refine (stays_elementOf _ _ s).bind fun _ element le _ => ?_
  refine stays_sharedBoth (h.mono le) (h'.mono le) fun w s t _ h h' => ?_
  have item : (Target.parameter element (w.next "q")).Tidy (w.below "q" rfl) :=
    tidy_parameter _ (.inr (Set.mem_insert _ _))
  exact stays_introduce "q" rfl (fun _ _ => rfl) (fun _ _ => rfl) h
    (stays_compare operator item (h'.mono (Site.le_below rfl)))

theorem stays_comparison (operator : Operator) (modifier : Modifier) (options : Options)
    (h : s.Tidy w) (h' : t.Tidy w) : StaysTidy w (comparison operator modifier options s t) := by
  refine (stays_foldOperands options operator h h').bind fun _ pair _ holds => ?_
  dsimp only
  split
  · exact stays_compare operator holds.1 holds.2
  · exact stays_quantified _ operator holds.1 holds.2

end Lowering

end PredicateLang
