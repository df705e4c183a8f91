import PredicateLang.Lowering
import PredicateLang.Proofs.Invariant

/-!
# Lowering keeps invariants

`Invariant.Upholds N step P` says of a step of lowering, in a scope of trees that have the invariant
under the names in `N`, that what the step gives satisfies `P`, and that the scope still is one of
such trees after it. There is a rule for each way that steps are put together, and a lemma for each
function of lowering. The two helpers that put something around an operation, `guarded` and `shared`,
have lemmas that say what the operation may rely on; the other lemmas do not look at the dialect, but
for casts and dates.

The names in `N` are those of the scope. Operands may stand under more names, those in `G`.
-/

open PredicateLang.Scope PredicateLang.Target

namespace PredicateLang

variable {α β : Type} {d : Dialect} {I : Invariant d} {N G : Set String} {step : Lowering α}
  {P : α → Prop} {Q : β → Prop} {t s : Target} {ts : List Target}

namespace Invariant

/-- Every name in scope stands for a tree that has the invariant under the names. -/
def InScope (I : Invariant d) (N : Set String) (scope : Scope) : Prop :=
  ∀ name t, scope.bindings.find? name = some t → I.Holds N t

/-- If the trees in scope have the invariant, then what the step gives for the dialect satisfies `P`,
and the trees in scope have the invariant after it. -/
def Upholds (I : Invariant d) (N : Set String) (step : Lowering α) (P : α → Prop) : Prop :=
  ∀ settings scope a after, settings.dialect = d → I.InScope N scope →
    step settings scope = .ok a after → P a ∧ I.InScope N after

/-- The same, but for the scope after the step. -/
def Yields (I : Invariant d) (N : Set String) (step : Lowering α) (P : α → Prop) : Prop :=
  ∀ settings scope a after, settings.dialect = d → I.InScope N scope →
    step settings scope = .ok a after → P a

/-! ## Rules -/

theorem Upholds.bind {next : α → Lowering β} (h : I.Upholds N step P)
    (h' : ∀ a, P a → I.Upholds N (next a) Q) : I.Upholds N (step >>= next) Q := by
  intro settings scope b after same inside run
  obtain ⟨a, between, first, run⟩ := exists_of_run_bind run
  obtain ⟨holds, inside⟩ := h settings scope a between same inside first
  exact h' a holds settings between b after same inside run

theorem Upholds.bind_yields {next : α → Lowering β} (h : I.Upholds N step P)
    (h' : ∀ a, P a → I.Yields N (next a) Q) : I.Yields N (step >>= next) Q := by
  intro settings scope b after same inside run
  obtain ⟨a, between, first, run⟩ := exists_of_run_bind run
  obtain ⟨holds, inside⟩ := h settings scope a between same inside first
  exact h' a holds settings between b after same inside run

theorem Upholds.yields (h : I.Upholds N step P) : I.Yields N step P :=
  fun settings scope a after same inside run => (h settings scope a after same inside run).1

/-- What an enclosed step brings into scope goes out of scope with it. -/
theorem Yields.enclosed (h : I.Yields N step P) : I.Upholds N (Lowering.enclosed step) P := by
  intro settings scope a after same inside run
  unfold Lowering.enclosed at run
  split at run <;> cases run
  exact ⟨h settings scope a _ same inside ‹_›, inside⟩

theorem InScope.mono {N' : Set String} {scope : Scope} (h : I.InScope N scope) (le : N ⊆ N') :
    I.InScope N' scope := fun name t found => I.mono (h name t found) le

theorem InScope.insert {scope : Scope} (h : I.InScope N scope) {key : String} (holds : I.Holds N t) :
    I.InScope N { scope with bindings := scope.bindings.insert key t } := by
  intro name u found
  by_cases is : key = name
  · rw [is, Fields.find?_insert_self] at found
    cases found
    exact holds
  · rw [Fields.find?_insert_of_ne _ _ is] at found
    exact h name u found

end Invariant

namespace Lowering

theorem upholds_pure {a : α} (h : P a) : I.Upholds N (pure a) P := by
  intro settings scope a after same inside run
  cases run
  exact ⟨h, inside⟩

theorem upholds_throw (e : Error) : I.Upholds N (throw e) P := by
  intro settings scope a after same inside run
  cases run

theorem upholds_typeFault (fault : TypeFault) : I.Upholds N (typeFault fault) P :=
  upholds_throw (.type fault)

theorem upholds_ofResult {made : Except Error α} (h : ∀ a, made = .ok a → P a) :
    I.Upholds N (ofResult made) P := by
  cases made with
  | ok a => exact upholds_pure (h a rfl)
  | error e => exact upholds_throw e

theorem upholds_settings : I.Upholds N read (·.dialect = d) := by
  intro settings scope a after same inside run
  cases run
  exact ⟨same, inside⟩

theorem upholds_dialect : I.Upholds N dialect (· = d) :=
  upholds_settings.bind fun _ same => upholds_pure same

theorem upholds_fresh (letter : String) :
    I.Upholds N (fresh letter) (fun name => ∃ number, name = madeUp letter number) := by
  intro settings scope a after same inside run
  cases run
  exact ⟨⟨_, rfl⟩, inside⟩

theorem upholds_binding? (name : String) :
    I.Upholds N (binding? name) (fun found => ∀ t, found = some t → I.Holds N t) := by
  intro settings scope a after same inside run
  cases run
  exact ⟨inside name, inside⟩

/-- A name that stands for a tree from now on. -/
theorem upholds_bind (key : String) (h : I.Holds N t) : I.Upholds N (bind key t) (fun _ => True) := by
  intro settings scope a after same inside run
  cases run
  exact ⟨trivial, inside.insert h⟩

/-- A name that is introduced later for what is done from now on. -/
theorem yields_bind {key : String} {kind : Kind} {next : Lowering α}
    (h : I.Yields (insert key N) next P) :
    I.Yields N (do bind key (.parameter kind key); next) P := by
  intro settings scope a after same inside run
  obtain ⟨_, between, first, run⟩ := exists_of_run_bind run
  cases first
  refine h settings _ a after same ?_ run
  exact (inside.mono (Set.subset_insert key N)).insert (I.parameter kind (Set.mem_insert key N))

theorem upholds_elementOf (operation : String) (wanted : Demand) (source : Target) :
    I.Upholds N (elementOf operation wanted source) (fun _ => True) := by
  unfold elementOf
  split
  · exact upholds_pure trivial
  · exact upholds_typeFault _

/-! ## Names -/

/-- Names that are made up with another letter are no names for guards. -/
theorem not_isGuardName {letter name : String} (length : letter.toList.length = 1)
    (other : letter ≠ "g") (made : ∃ number, name = madeUp letter number) :
    ¬ IsGuardName name := by
  obtain ⟨number, rfl⟩ := made
  rintro ⟨number', same⟩
  have chars := congrArg String.toList same
  simp only [madeUp, String.toList_append, List.append_assoc, List.append_cancel_left_eq] at chars
  exact other (String.ext (List.append_inj chars length).1)

/-- Variables are no names for guards. -/
theorem not_isGuardName_variableKey (name : String) : ¬ IsGuardName (variableKey name) := by
  rintro ⟨number, same⟩
  exact ne_of_isMadeUp (isMadeUp_variableKey name) (isMadeUp_madeUp "g" number) same

/-! ## Guards -/

/-- What needs no guard is there. -/
theorem ready_of_needsGuard (h : needsGuard d t = false) : Ready d G t := by
  rintro rfl Γ guard
  unfold needsGuard at h
  rw [decide_eq_true rfl, Bool.true_and] at h
  split at h
  · exact h
  · exact trivial
  · cases h

/-- An operation may look into its subject, under a guard or not. -/
theorem upholds_guarded {build : Target → Lowering Target} (h : I.Holds G s)
    (h' : ∀ G' s', G ⊆ G' → I.Holds G' s' → Ready d G' s' →
      I.Upholds N (build s') (I.Holds G')) : I.Upholds N (guarded s build) (I.Holds G) := by
  refine upholds_dialect.bind fun dialect same => ?_
  rw [same]
  split
  · rename_i needs
    refine (upholds_fresh "g").bind fun binding made => ?_
    have ready : Ready d (insert binding G) (.parameter s.kind binding) :=
      fun _ Γ guard => guard binding (Set.mem_insert binding G) made
    have introduced := I.parameter s.kind (Set.mem_insert binding G)
    refine (h' _ _ (Set.subset_insert binding G) introduced ready).bind fun body holds => ?_
    -- a guard is only put around something for objects
    obtain rfl : d = .objects := by
      unfold needsGuard at needs
      rw [Bool.and_eq_true, decide_eq_true_eq] at needs
      exact needs.1
    exact upholds_pure (I.guard rfl body.kind binding h holds)
  · rename_i none
    exact h' G s subset_rfl h (ready_of_needsGuard (Bool.eq_false_iff.mpr none))

/-- An operation on a subject that is evaluated ahead of it. -/
theorem upholds_shared {build : Target → Lowering Target} (h : I.Holds G s)
    (h' : ∀ G' s', G ⊆ G' → I.Holds G' s' → I.Upholds N (build s') (I.Holds G')) :
    I.Upholds N (shared s build) (I.Holds G) := by
  refine upholds_dialect.bind fun dialect same => ?_
  rw [same]
  split
  · rename_i effects
    refine (upholds_fresh "b").bind fun binding made => ?_
    have introduced := I.parameter s.kind (Set.mem_insert binding G)
    refine (h' _ _ (Set.subset_insert binding G) introduced).bind fun body holds => ?_
    have plain := not_isGuardName rfl (by decide) made
    exact upholds_pure (I.bind effects.1 body.kind plain h holds)
  · exact h' G s subset_rfl h

/-- An operation on two operands that are evaluated ahead of it, the left one first. -/
theorem upholds_sharedBoth {build : Target → Target → Lowering Target} (h : I.Holds G s)
    (h' : I.Holds G t)
    (h'' : ∀ G' s' t', G ⊆ G' → I.Holds G' s' → I.Holds G' t' →
      I.Upholds N (build s' t') (I.Holds G')) :
    I.Upholds N (shared s fun s => shared t fun t => build s t) (I.Holds G) :=
  upholds_shared h fun _ _ le left => upholds_shared (I.mono h' le) fun _ _ le' right =>
    h'' _ _ _ (le.trans le') (I.mono left le') right

/-! ## Key paths -/

theorem upholds_propertyOn {G : Set String} (name : String) (kind : Kind) {t : Target}
    (h : I.Holds G t) : I.Upholds N (propertyOn name kind t) (I.Holds G) := by
  cases kind with
  | sequence element =>
    unfold propertyOn
    refine (upholds_fresh "e").bind fun parameter made => ?_
    have plain := not_isGuardName rfl (by decide) made
    have item := I.parameter element (Set.mem_insert parameter G)
    refine (upholds_propertyOn name element item).bind fun body holds => ?_
    exact upholds_pure (I.map _ plain h holds)
  | _ =>
    unfold propertyOn
    split
    · exact upholds_guarded h fun G' receiver _ holds ready =>
        upholds_pure (I.property _ name holds ready)
    · exact upholds_typeFault _

theorem upholds_count (h : I.Holds G t) : I.Upholds N (count t) (I.Holds G) :=
  upholds_guarded h fun _ _ _ holds _ => upholds_pure (I.count _ holds)

theorem upholds_reduce (reduction : Reduction) (element : Kind) (h : I.Holds G t) :
    I.Upholds N (reduce t reduction element) (I.Holds G) := by
  unfold reduce
  split
  · exact upholds_guarded h fun _ _ _ holds ready =>
      upholds_pure (I.reduce _ reduction holds ready)
  · exact upholds_typeFault _

theorem upholds_collectionOperator (name : String) (h : I.Holds G t) :
    I.Upholds N (collectionOperator t name) (I.Holds G) := by
  refine (upholds_elementOf _ _ t).bind fun element _ => ?_
  dsimp only
  split
  · exact upholds_count h
  · split
    · exact upholds_reduce _ element h
    · exact upholds_typeFault _

theorem upholds_follow (segments : List String) (h : I.Holds G t) :
    I.Upholds N (follow t segments) (I.Holds G) := by
  induction segments generalizing t with
  | nil => exact upholds_pure h
  | cons segment rest ih =>
    unfold follow
    split
    · exact (ih h).bind fun t holds => upholds_collectionOperator _ holds
    · exact (upholds_propertyOn segment t.kind h).bind fun t holds => ih holds

/-! ## Operations -/

theorem upholds_cast {kind : Kind} (h : I.Holds G t) :
    I.Upholds N (ofResult (t.cast kind)) (I.Holds G) :=
  upholds_ofResult fun _ cast => I.cast h cast

/-- Both trees have the invariant. -/
def Pair (I : Invariant d) (G : Set String) (pair : Target × Target) : Prop :=
  I.Holds G pair.1 ∧ I.Holds G pair.2

theorem upholds_makeComparable (h : I.Holds G s) (h' : I.Holds G t) :
    I.Upholds N (ofResult (s.makeComparable t)) (Pair I G) :=
  upholds_ofResult fun _ made =>
    have casts := isCast_of_makeComparable made
    ⟨I.of_isCast h casts.1, I.of_isCast h' casts.2⟩

theorem upholds_numeric (selector : String) (h : I.Holds G t) :
    I.Upholds N (numeric selector t) (I.Holds G) := by
  unfold numeric
  split
  · exact upholds_pure h
  · exact upholds_typeFault _

theorem upholds_integral (selector : String) (h : I.Holds G t) :
    I.Upholds N (integral selector t) (I.Holds G) := by
  unfold integral
  split
  · exact upholds_pure h
  · exact upholds_typeFault _

theorem upholds_fractional (h : I.Holds G t) : I.Upholds N (fractional t) (I.Holds G) := by
  unfold fractional
  split
  · exact upholds_pure h
  · exact upholds_cast h

theorem upholds_onSharedKind (op : BinaryOp) (h : I.Holds G s) (h' : I.Holds G t) :
    I.Upholds N (onSharedKind op s t) (I.Holds G) := by
  unfold onSharedKind
  split
  · exact upholds_pure (I.binary _ op h h')
  · exact (upholds_makeComparable h h').bind fun _ holds =>
      upholds_pure (I.binary _ op holds.1 holds.2)

theorem upholds_arithmetic (selector : String) (op : BinaryOp) (h : I.Holds G s)
    (h' : I.Holds G t) : I.Upholds N (arithmetic selector op s t) (I.Holds G) := by
  refine (upholds_numeric selector h).bind fun s h => ?_
  refine (upholds_numeric selector h').bind fun t h' => ?_
  split
  · exact (upholds_cast h).bind fun _ holds => (upholds_cast h').bind fun _ holds' =>
      upholds_pure (I.binary _ op holds holds')
  · exact upholds_onSharedKind op h h'

/-! ## Casts and dates -/

/-- Is it a call that every dialect has? -/
def isCommon : Builtin → Bool
  | .dateAdd _ | .backendDateAdd _ | .castNumber | .castString | .castDate => false
  | _ => true

theorem holds_commonCall {builtin : Builtin} (kind : Kind) (common : isCommon builtin)
    (h : ∀ t ∈ ts, I.Holds G t) : I.Holds G (.call kind builtin ts) := by
  refine I.call (fun Γ => d.has_of Γ ?_ rfl) h
  cases builtin with
  | dateAdd | backendDateAdd | castNumber | castString | castDate => cases common
  | _ => exact ⟨rfl, rfl⟩

/-- A backend casts no values. -/
theorem upholds_castLater (builtin : Builtin) (kind : Kind)
    (own : ∀ unit, builtin ≠ .backendDateAdd unit) (h : I.Holds G t) :
    I.Upholds N (castTo.castLater t builtin kind) (I.Holds G) := by
  unfold castTo.castLater
  refine upholds_dialect.bind fun dialect same => ?_
  split
  · exact upholds_throw _
  · rename_i ne
    obtain rfl : d = .objects := by
      rw [same] at ne
      cases d with
      | objects => rfl
      | backend => exact absurd rfl ne
    refine upholds_pure (I.call (fun Γ => ⟨?_, nofun⟩) (List.forall_mem_singleton.mpr h))
    unfold isForBackend
    split
    · rename_i is
      cases is
      exact absurd rfl (own _)
    · rfl

/-- A cast of a constant, now, or of anything else later. -/
theorem upholds_castNow {builtin : Builtin} (own : ∀ unit, builtin ≠ .backendDateAdd unit)
    (kind : Kind) (cast : Value → Except EvaluationFault Value) (h : I.Holds G t) :
    I.Upholds N
      (match t.constant? with
        | some value =>
          if value.isNull then castTo.castLater t builtin kind
          else
            match cast value with
            | .ok result => return .ofValue result
            | .error fault => throw (.evaluation fault)
        | none => castTo.castLater t builtin kind)
      (I.Holds G) := by
  split
  · split
    · exact upholds_castLater builtin kind own h
    · split
      · exact upholds_pure (I.constant _ _)
      · exact upholds_throw _
  · exact upholds_castLater builtin kind own h

theorem upholds_castTo (h : I.Holds G s) : I.Upholds N (castTo s t) (I.Holds G) := by
  unfold castTo
  split
  · dsimp only
    split
    iterate 3 exact upholds_castNow (by nofun) _ _ h
    exact (upholds_typeFault (P := fun _ => False) _).bind fun _ never => never.elim
  · exact upholds_typeFault _

/-- Dates are moved by each dialect in its own way. -/
theorem upholds_moveDate (selector : String) (unit : DateUnit) (h : I.Holds G s)
    (h' : I.Holds G t) : I.Upholds N (moveDate selector unit s t) (I.Holds G) := by
  have objects (is : d = .objects) {t : Target} (h' : I.Holds G t) :
      I.Upholds N (do
        let amount ← fractional t
        guarded s fun date => return .call .date (.dateAdd unit) [date, amount])
      (I.Holds G) := by
    refine (upholds_fractional h').bind fun amount holds => ?_
    refine upholds_guarded h fun G' date le holds' _ => upholds_pure ?_
    refine I.call (fun _ => is ▸ ⟨rfl, nofun⟩) ?_
    exact List.forall_mem_cons.mpr ⟨holds', List.forall_mem_singleton.mpr (I.mono holds le)⟩
  have backend (is : d = .backend) {t : Target} (h' : I.Holds G t) :
      I.Upholds N (do return Target.call .date (.backendDateAdd unit) [s, ← backendAmount t])
      (I.Holds G) := by
    have amount : I.Upholds N (backendAmount t) (I.Holds G) := by
      unfold backendAmount
      split
      · exact upholds_cast h'
      · exact upholds_pure h'
    refine amount.bind fun amount holds => upholds_pure (I.call (fun _ => is ▸ rfl) ?_)
    exact List.forall_mem_cons.mpr ⟨h, List.forall_mem_singleton.mpr holds⟩
  unfold moveDate
  refine (upholds_numeric selector h').bind fun t h' => ?_
  -- The date may be of three kinds.
  split
  iterate 3
    refine upholds_dialect.bind fun dialect same => ?_
    cases dialect with
    | objects => exact objects same.symm h'
    | backend => exact backend same.symm h'
  exact upholds_typeFault _

/-! ## Functions -/

theorem upholds_indexBySymbol (element : Kind) (symbol : IndexSymbol) (h : I.Holds G s) :
    I.Upholds N (indexBySymbol s element symbol) (I.Holds G) := by
  cases symbol with
  | size => exact upholds_count h
  | first =>
    exact upholds_guarded h fun _ _ _ holds _ =>
      upholds_pure (I.elementAt _ holds (I.constant _ _))
  | last =>
    exact upholds_guarded h fun _ _ _ holds _ => upholds_pure (I.elementAt _ holds
      (I.binary _ _ (I.count _ holds) (I.constant _ _)))

theorem upholds_indexBy (element : Kind) (h : I.Holds G s) (h' : I.Holds G t) :
    I.Upholds N (indexBy s element t) (I.Holds G) :=
  (upholds_integral _ h').bind fun _ holds => upholds_guarded h fun _ _ le holds' _ =>
    upholds_pure (I.elementAt _ holds' (I.mono holds le))

theorem upholds_textFunction (selector : String) {builtin : Builtin} (common : isCommon builtin)
    (h : I.Holds G t) : I.Upholds N (textFunction selector builtin t) (I.Holds G) := by
  have guardedCall (kind : Kind) :
      I.Upholds N (guarded t fun argument => return .call kind builtin [argument]) (I.Holds G) :=
    upholds_guarded h fun _ _ _ holds _ =>
      upholds_pure (holds_commonCall _ common (List.forall_mem_singleton.mpr holds))
  unfold textFunction
  split
  iterate 3 exact guardedCall _
  exact upholds_typeFault _

/-! ## Calls -/

/-- Does the meaning name no call but those that every dialect has? -/
def isCommonMeaning : Meaning → Bool
  | .math builtin | .rounding builtin | .text builtin => isCommon builtin
  | _ => true

theorem isCommonMeaning_of_ofSelector? {selector : String} {f : BuiltinFunction}
    (h : BuiltinFunction.ofSelector? selector = some f) : isCommonMeaning f.meaning := by
  have all : ∀ f ∈ BuiltinFunction.table, isCommonMeaning f.meaning := by decide
  exact all f (List.mem_of_find?_eq_some h)

theorem upholds_function (selector : String) (arity : Nat) :
    I.Upholds N (function selector arity) (fun f => isCommonMeaning f.meaning) := by
  unfold function
  split
  · exact upholds_throw _
  · split
    · exact upholds_pure (isCommonMeaning_of_ofSelector? ‹_›)
    · exact upholds_typeFault _

theorem upholds_unaryCall? (selector : String) {meaning : Meaning}
    (common : isCommonMeaning meaning) (h : I.Holds G t) {lowering : Lowering Target}
    (known : unaryCall? selector t meaning = some lowering) :
    I.Upholds N lowering (I.Holds G) := by
  cases meaning with
  | reduce reduction =>
    cases known
    exact (upholds_elementOf _ _ t).bind fun element _ => upholds_reduce reduction element h
  | count =>
    cases known
    exact (upholds_elementOf _ _ t).bind fun _ _ => upholds_count h
  | math builtin =>
    cases known
    exact (upholds_numeric _ h).bind fun _ holds => (upholds_fractional holds).bind fun _ holds =>
      upholds_pure (holds_commonCall _ common (List.forall_mem_singleton.mpr holds))
  | rounding builtin =>
    cases known
    exact (upholds_numeric _ h).bind fun _ holds =>
      upholds_pure (holds_commonCall _ common (List.forall_mem_singleton.mpr holds))
  | abs =>
    cases known
    exact (upholds_numeric _ h).bind fun _ holds =>
      upholds_pure (holds_commonCall _ rfl (List.forall_mem_singleton.mpr holds))
  | negate =>
    cases known
    exact (upholds_numeric _ h).bind fun _ holds => upholds_pure (I.unary _ _ holds)
  | text builtin =>
    cases known
    exact upholds_textFunction selector common h
  | onesComplement =>
    cases known
    exact (upholds_integral _ h).bind fun _ holds => upholds_pure (I.unary _ _ holds)
  | randomBelow =>
    cases known
    exact (upholds_numeric _ h).bind fun _ holds =>
      upholds_pure (holds_commonCall _ rfl (List.forall_mem_singleton.mpr holds))
  | _ => cases known

theorem upholds_binaryCall? (selector : String) {meaning : Meaning} (h : I.Holds G s)
    (h' : I.Holds G t) {lowering : Lowering Target}
    (known : binaryCall? selector s t meaning = some lowering) :
    I.Upholds N lowering (I.Holds G) := by
  cases meaning with
  | arithmetic op =>
    cases known
    exact upholds_arithmetic selector op h h'
  | bitwise op =>
    cases known
    exact (upholds_integral _ h).bind fun _ holds => (upholds_integral _ h').bind fun _ holds' =>
      upholds_onSharedKind op holds holds'
  | shift op =>
    cases known
    exact (upholds_integral _ h).bind fun _ holds => (upholds_integral _ h').bind fun _ holds' =>
      upholds_pure (I.binary _ op holds holds')
  | cast =>
    cases known
    exact upholds_castTo h
  | dateAdd unit =>
    cases known
    exact upholds_moveDate selector unit h h'
  | _ => cases known

theorem upholds_constantCall? {meaning : Meaning} {lowering : Lowering Target}
    (known : constantCall? meaning = some lowering) : I.Upholds N lowering (I.Holds G) := by
  cases meaning with
  | random | now =>
    cases known
    exact upholds_pure (holds_commonCall _ rfl (List.forall_mem_nil _))
  | _ => cases known

theorem upholds_call {f : BuiltinFunction} (common : isCommonMeaning f.meaning)
    (h : ∀ t ∈ ts, I.Holds G t) : I.Upholds N (call f ts) (I.Holds G) := by
  unfold call
  split
  · rename_i lowering known
    unfold call? at known
    split at known
    · exact upholds_constantCall? known
    · exact upholds_unaryCall? _ common (List.forall_mem_singleton.mp h) known
    · rw [List.forall_mem_cons, List.forall_mem_singleton] at h
      exact upholds_binaryCall? _ h.1 h.2 known
    · cases known
  · exact upholds_typeFault _

/-! ## Letter case -/

theorem upholds_foldString (h : I.Holds G t) : I.Upholds N (foldString t) (I.Holds G) := by
  unfold foldString
  split
  · exact upholds_pure (I.constant _ _)
  · exact upholds_guarded h fun _ _ _ holds _ =>
      upholds_pure (holds_commonCall _ rfl (List.forall_mem_singleton.mpr holds))

/-- What is done to an operand that is no list: to a collection item by item. -/
theorem upholds_foldSubject (h : I.Holds G t) :
    I.Upholds N
      (match t.kind with
        | .sequence element =>
          if mayBeString element then do
            let parameter ← fresh "f"
            let body ← foldString (.parameter element parameter)
            return .map t.kind t parameter body
          else return t
        | kind => if mayBeString kind then foldString t else return t)
      (I.Holds G) := by
  split
  · rename_i element _
    split
    · refine (upholds_fresh "f").bind fun parameter made => ?_
      have plain := not_isGuardName rfl (by decide) made
      have item := I.parameter element (Set.mem_insert parameter G)
      exact (upholds_foldString item).bind fun body holds => upholds_pure (I.map _ plain h holds)
    · exact upholds_pure h
  · split
    · exact upholds_foldString h
    · exact upholds_pure h

mutual

theorem upholds_foldCase (t : Target) (h : I.Holds G t) : I.Upholds N (foldCase t) (I.Holds G) := by
  match t with
  | .list kind items =>
    unfold foldCase
    split
    · split
      · exact (upholds_foldCaseAll items fun t mem => I.item h mem).bind fun _ holds =>
          upholds_pure (I.list _ holds)
      · exact upholds_pure h
    · split
      · exact upholds_foldString h
      · exact upholds_pure h
  | .constant .. | .parameter .. | .property .. | .guard .. | .map .. | .filter .. | .quantify ..
  | .count .. | .reduce .. | .elementAt .. | .binary .. | .unary .. | .call .. | .convert ..
  | .assign .. | .bind .. =>
    unfold foldCase
    exact upholds_foldSubject h

theorem upholds_foldCaseAll (ts : List Target) (h : ∀ t ∈ ts, I.Holds G t) :
    I.Upholds N (foldCaseAll ts) (fun us => ∀ u ∈ us, I.Holds G u) := by
  match ts with
  | [] => exact upholds_pure nofun
  | t :: ts =>
    unfold foldCaseAll
    rw [List.forall_mem_cons] at h
    exact (upholds_foldCase t h.1).bind fun _ holds => (upholds_foldCaseAll ts h.2).bind fun _ all =>
      upholds_pure (List.forall_mem_cons.mpr ⟨holds, all⟩)

end

theorem upholds_foldOperands (options : Options) (operator : Operator) (h : I.Holds G s)
    (h' : I.Holds G t) : I.Upholds N (foldOperands options operator s t) (Pair I G) := by
  refine upholds_settings.bind fun settings _ => ?_
  split
  · refine (upholds_foldCase s h).bind fun _ holds => ?_
    split
    · exact upholds_pure ⟨holds, h'⟩
    · exact (upholds_foldCase t h').bind fun _ holds' => upholds_pure ⟨holds, holds'⟩
  · exact upholds_pure ⟨h, h'⟩

/-! ## Comparisons -/

theorem upholds_relate (op : BinaryOp) (h : I.Holds G s) (h' : I.Holds G t) :
    I.Upholds N (relate op s t) (I.Holds G) :=
  (upholds_makeComparable h h').bind fun _ holds => upholds_pure (I.binary _ op holds.1 holds.2)

theorem upholds_demandString (builtin : Builtin) (t : Target) :
    I.Upholds N (demandString builtin t) (fun _ => True) := by
  unfold demandString
  split
  iterate 3 exact upholds_pure trivial
  exact upholds_typeFault _

/-- A call on two operands that are evaluated first, the first of them under a guard. -/
theorem upholds_sharedCall {builtin : Builtin} (common : isCommon builtin) (h : I.Holds G s)
    (h' : I.Holds G t) :
    I.Upholds N (shared s fun s => shared t fun t => guarded s fun s =>
      return .call .boolean builtin [s, t]) (I.Holds G) := by
  refine upholds_sharedBoth h h' fun G s t _ h h' => ?_
  refine upholds_guarded h fun G' s' le holds _ => upholds_pure (holds_commonCall _ common ?_)
  exact List.forall_mem_cons.mpr ⟨holds, List.forall_mem_singleton.mpr (I.mono h' le)⟩

theorem upholds_stringTest {builtin : Builtin} (common : isCommon builtin) (h : I.Holds G s)
    (h' : I.Holds G t) : I.Upholds N (stringTest builtin s t) (I.Holds G) :=
  (upholds_demandString builtin s).bind fun _ _ => (upholds_demandString builtin t).bind fun _ _ =>
    upholds_sharedCall common h h'

theorem upholds_contains (h : I.Holds G s) (h' : I.Holds G t) :
    I.Upholds N (contains s t) (I.Holds G) := by
  unfold contains
  split
  · exact (upholds_makeComparable h h').bind fun _ holds => upholds_sharedCall rfl holds.1 holds.2
  · exact upholds_sharedCall rfl h h'

theorem upholds_within {lower upper : Target} (h : I.Holds G t) (h' : I.Holds G lower)
    (h'' : I.Holds G upper) : I.Upholds N (within t lower upper) (I.Holds G) :=
  (upholds_relate _ h h').bind fun _ low => (upholds_relate _ h h'').bind fun _ high =>
    upholds_pure (I.binary _ _ low high)

theorem upholds_between (h : I.Holds G s) (h' : I.Holds G t) :
    I.Upholds N (between s t) (I.Holds G) := by
  refine upholds_shared h fun G s le h => ?_
  have h' := I.mono h' le
  split
  · exact upholds_within h (I.item h' (by simp)) (I.item h' (by simp))
  · exact upholds_typeFault _
  · refine (upholds_elementOf _ _ _).bind fun element _ => upholds_shared h' fun G t le h' => ?_
    have item (i : Int) : I.Holds G (.elementAt element t (.ofValue (.int i))) :=
      I.elementAt _ h' (I.constant _ _)
    exact upholds_within (I.mono h le) (item 0) (item 1)

theorem upholds_compare (operator : Operator) (h : I.Holds G s) (h' : I.Holds G t) :
    I.Upholds N (compare operator s t) (I.Holds G) := by
  cases operator with
  | less | lessEqual | greater | greaterEqual | equal | notEqual => exact upholds_relate _ h h'
  | isMatch | like | beginsWith | endsWith => exact upholds_stringTest rfl h h'
  | contains => exact upholds_contains h h'
  | member => exact upholds_contains h' h
  | between => exact upholds_between h h'

theorem upholds_quantified (quantifier : Quantifier) (operator : Operator) (h : I.Holds G s)
    (h' : I.Holds G t) : I.Upholds N (quantified quantifier operator s t) (I.Holds G) := by
  refine (upholds_elementOf _ _ s).bind fun element _ => ?_
  refine upholds_sharedBoth h h' fun G s t _ h h' => (upholds_fresh "q").bind fun parameter made => ?_
  have plain := not_isGuardName rfl (by decide) made
  have item := I.parameter element (Set.mem_insert parameter G)
  have other := I.mono h' (Set.subset_insert parameter G)
  exact (upholds_compare operator item other).bind fun _ holds =>
    upholds_pure (I.quantify _ quantifier plain h holds)

theorem upholds_comparison (operator : Operator) (modifier : Modifier) (options : Options)
    (h : I.Holds G s) (h' : I.Holds G t) :
    I.Upholds N (comparison operator modifier options s t) (I.Holds G) := by
  refine (upholds_foldOperands options operator h h').bind fun pair holds => ?_
  dsimp only
  split
  · exact upholds_compare operator holds.1 holds.2
  · exact upholds_quantified _ operator holds.1 holds.2

end Lowering

end PredicateLang
