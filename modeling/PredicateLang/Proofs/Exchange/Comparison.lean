import PredicateLang.Proofs.Effects.Plain
import PredicateLang.Proofs.Exchange.Lowering

/-!
# Comparisons of operands that may be exchanged

A comparison carries over to operands that may be exchanged. Only the bounds of `BETWEEN` are looked
into: a list of bounds is taken apart when it is lowered, and any other collection when it is
evaluated. So they have to be both lists or neither. Two bounds that no GUID can be made of may also
be a list on the one side and its collection on the other; but constants are converted when they are
lowered, and items of a collection when they are evaluated, so the list may fail to be lowered where
the collection is not.
-/

namespace PredicateLang

open Tracing

/-! ## Results of steps without effects -/

/-- A slot for a name that no name stands for is not seen. -/
theorem Surroundings.Match.push_right {ρ : Naming} {around around' : Surroundings} {b : String}
    (h : Surroundings.Match ρ around around') (new : ∀ x y, ρ x y → y ≠ b) (v : Value) :
    Surroundings.Match ρ around (around'.push b v) where
  unique := h.unique
  same x y join := by
    simp only [Surroundings.push, Fields.find?, if_neg (Ne.symm (new x y join))]
    exact h.same x y join
  unbound := h.unbound

namespace Tracing

variable {α : Type} {A : Assumption} {ρ : Naming} {step step' : Tracing α}

/-- Of steps without effects only the results matter. -/
theorem FollowUnder.of_quiet (quiet : Quiet step) (quiet' : Quiet step')
    (same : ∀ world around around' store, A.Holds world around store →
      Surroundings.Match ρ around around' →
      (step' world around' store).result = (step world around store).result) :
    FollowUnder A ρ step step' := by
  intro world around around' store holds names
  obtain ⟨effects, stays⟩ := quiet world around store
  obtain ⟨effects', stays'⟩ := quiet' world around' store
  refine ⟨⟨effects'.trans effects.symm, stays'.trans stays.symm,
    same world around around' store holds names⟩, ?_⟩
  rw [stays]
  exact holds

end Tracing

namespace Target

variable {A : Assumption} {folded : Bool} {ρ : Naming} {t t' s s' : Target} {b : String}
  {world : World} {around : Surroundings} {store : Store}

theorem result_tracedAll_cons (quiet : t.hasEffects = false) (ts : List Target) :
    (tracedAll (t :: ts) world around store).result = (do
      return (← (t.traced world around store).result)
        :: (← (tracedAll ts world around store).result)) := by
  rw [tracedAll, (t.quiet_traced quiet).result_bind]
  cases (t.traced world around store).result with
  | error e => rfl
  | ok v =>
    show ((tracedAll ts >>= fun vs => pure (v :: vs)) world around store).result = _
    cases rest : (tracedAll ts world around store).result with
    | error e => rw [bind_of_error rest]; rfl
    | ok vs => rw [bind_of_ok rest]; rfl

theorem result_contains (quiet : t.hasEffects = false) (quiet' : s.hasEffects = false)
    (kind : Kind) :
    ((call kind .contains [t, s]).traced world around store).result = (do
      Evaluation.contains (← (t.traced world around store).result)
        (← (s.traced world around store).result)) := by
  have quietAll : anyHasEffects [t, s] = false := by simp [anyHasEffects, quiet, quiet']
  rw [traced, (quiet_tracedAll _ quietAll).result_bind, result_tracedAll_cons quiet,
    result_tracedAll_cons quiet']
  cases (t.traced world around store).result with
  | error e => rfl
  | ok v =>
    cases (s.traced world around store).result with
    | error e => rfl
    | ok w => exact result_still_ofResult (Evaluation.contains v w)

/-! ## Guards that are not needed -/

/-- A subject that is never null needs no guard. -/
theorem Acts.contains_guard (h : Acts A ρ t t') (h' : Acts A ρ s s')
    (quiet : t.hasEffects = false) (quiet' : s.hasEffects = false)
    (there : ∀ world around store v, (t.traced world around store).result = .ok v →
      v.isNull = false)
    (new : ∀ x y, ρ x y → y ≠ b) (kind own : Kind) :
    Acts A ρ (.call kind .contains [t, s])
      (.guard kind t' b (.call kind .contains [.parameter own b, s'])) := by
  have effects : anyHasEffects [t, s] = false := by simp [anyHasEffects, quiet, quiet']
  have effects' : (Target.guard kind t' b (.call kind .contains [.parameter own b, s'])).hasEffects
      = false := by
    simp [hasEffects, anyHasEffects, h.effects, h'.effects, quiet, quiet']
  have effects : (Target.call kind .contains [t, s]).hasEffects = false := by
    simp [hasEffects, effects]
  refine ⟨rfl, effects'.trans effects.symm, .of_quiet (quiet_traced _ effects)
    (quiet_traced _ effects') fun world around around' store holds names => ?_⟩
  have first := (h.follow world around around' store holds names).1.result
  rw [traced, (t'.quiet_traced (h.effects.trans quiet)).result_bind, result_contains quiet quiet',
    first]
  cases subject : (t.traced world around store).result with
  | error e => rfl
  | ok v =>
    have second (v : Value) :=
      (h'.follow world around _ store holds (names.push_right new v)).1.result
    have inner : ((Target.call kind .contains [.parameter own b, s']).traced world
        (around'.push b v) store).result = _ :=
      result_contains rfl (h'.effects.trans quiet') kind
    rw [second, traced, result_lookup_push] at inner
    simp only [Bind.bind, Except.bind, there world around store v subject, Bool.false_eq_true,
      if_false] at inner ⊢
    exact inner

end Target

/-! ## Bounds -/

namespace Target

/-- The bounds are two constants of one kind that no GUID can be made of. -/
def IsBounds (t : Target) : Prop :=
  ∃ element low high, t = .list (.sequence element) [.constant element low, .constant element high]
    ∧ ∀ v ∈ [low, high], Kind.ofValue v = element ∧ v.convert? .guid = none

/-- The trees may be exchanged on the right of an operator. -/
structure Comparands (exact : Bool) (A : Assumption) (operator : Operator) (ρ : Naming)
    (s s' : Target) : Prop where
  exchanges : Exchanges A true ρ s s'
  bounds : operator = .between → s'.isList = s.isList ∨ exact = false ∧ s.IsBounds

variable {exact : Bool} {d : Dialect} {A : Assumption} {operator : Operator} {folded : Bool}
  {ρ ρ' : Naming} {t t' s s' u : Target}

theorem Comparands.extend (h : Comparands exact A operator ρ s s') (extend : ρ.Extend ρ') :
    Comparands exact A operator ρ' s s' :=
  ⟨h.exchanges.extend extend, h.bounds⟩

theorem Parallel.comparands (h : Parallel A true ρ s s') : Comparands exact A operator ρ s s' :=
  ⟨h.exchanges, fun _ => .inl h.isList⟩

/-- A tree that is traced as another one acts as this does. -/
theorem Acts.of_traced_eq (h : Acts A ρ t t') (kind : u.kind = t.kind)
    (effects : u.hasEffects = t.hasEffects) (same : u.traced = t.traced) : Acts A ρ u t' :=
  ⟨h.kind.trans kind.symm, h.effects.trans effects.symm, same ▸ h.follow⟩

/-- A value that no GUID can be made of is no GUID, and there. -/
theorem of_convert?_guid {v : Value} (foreign : v.convert? .guid = none) :
    v.isNull = false ∧ Kind.ofValue v ≠ .guid := by
  unfold Value.convert? at foreign
  split at foreign
  · cases foreign
  · simp_all

/-- A bound that no GUID can be made of is converted when it is lowered as it is when it is
evaluated. -/
theorem entails_cast {element wanted : Kind} {v : Value}
    (known : Kind.ofValue v = element ∧ v.convert? .guid = none)
    (h : Acts A ρ (.constant element v) t') (plain : t'.constant? = none) :
    Entails (Acts A ρ) ((constant element v).cast wanted) (t'.cast wanted) := by
  intro u cast
  obtain ⟨rfl, foreign⟩ := known
  obtain ⟨there, kind⟩ := of_convert?_guid foreign
  refine ⟨_, cast_of_constant?_eq_none plain, ?_⟩
  rw [show t'.kind = Kind.ofValue v from h.kind]
  unfold Target.cast at cast
  split at cast
  · have early : Kind.ofValue v = wanted ∨ wanted.isDynamic := ‹_›
    cases cast
    rw [if_pos (early.imp_right Or.inl)]
    exact h
  · rename_i late
    dsimp only at cast
    rw [there, if_neg Bool.false_ne_true] at cast
    unfold castConstant at cast
    split at cast <;> cases cast
    rename_i converted conversion
    have mixed : ¬ isStringWithGuid (Kind.ofValue v) wanted := by
      intro mixed
      unfold isStringWithGuid at mixed
      split at mixed
      · rw [foreign] at conversion
        cases conversion
      · exact kind ‹_›
      · cases mixed
    rw [if_neg fun kept => kept.elim (fun same => late (.inl same))
      fun kept => kept.elim (fun dynamic => late (.inr dynamic)) mixed]
    refine (h.convert wanted).of_traced_eq rfl rfl ?_
    funext world around store
    rw [traced, traced, traced, bind_of_ok rfl, conversion]
    rfl

/-- Trees that are compared with trees that act alike. -/
def ActPairs (A : Assumption) (ρ : Naming) (p p' : Target × Target) : Prop :=
  Acts A ρ p.1 p'.1 ∧ Acts A ρ p.2 p'.2

section Bound

variable {element : Kind} {v : Value} (h : Exchanges A folded ρ t t')
  (known : Kind.ofValue v = element ∧ v.convert? .guid = none)
  (bound : Acts A ρ (.constant element v) s') (plain : s'.constant? = none)

include h known bound plain

theorem entails_makeScalarsComparable :
    Entails (ActPairs A ρ) (t.makeScalarsComparable (.constant element v))
      (t'.makeScalarsComparable s') := by
  unfold makeScalarsComparable
  rw [h.kind_eq, bound.kind]
  split
  · rename_i ranked ranked'
    have castable : t.kind.isCastable := by
      rw [Kind.isCastable, ranked]
      rfl
    split
    · exact (Lowering.exchanges_cast h
        (Lowering.not_isSequence_of_isCastable castable)).entails.bind
          fun _ _ left => entails_ok ⟨left.acts, bound⟩
    · exact (entails_cast known bound plain).bind fun _ _ right => entails_ok ⟨h.acts, right⟩
  · exact entails_ok ⟨h.acts, bound⟩
  · split
    · exact entails_error _
    · exact entails_ok ⟨h.acts, bound⟩

theorem entails_makeComparable :
    Entails (ActPairs A ρ) (t.makeComparable (.constant element v)) (t'.makeComparable s') := by
  unfold makeComparable
  rw [h.kind_eq, bound.kind]
  split
  · exact entails_ok ⟨h.acts, bound⟩
  · split
    · refine Entails.bind (P := Acts A ρ) ?_ fun _ _ right => entails_ok ⟨h.acts, right⟩
      unfold castToElement
      rw [bound.kind]
      split
      · split
        · exact entails_cast known bound plain
        · exact entails_ok bound
      · exact entails_ok bound
    · exact (Lowering.exchanges_castToElement h).entails.bind
        fun _ _ left => entails_ok ⟨left.acts, bound⟩
    · exact entails_ok ⟨h.acts, bound⟩
    · exact entails_makeScalarsComparable h known bound plain

end Bound

end Target

/-! ## Operators -/

namespace Lowering

open Target

variable {exact folded : Bool} {d : Dialect} {A : Assumption} {ρ : Naming} {operator : Operator}
  {t t' s s' : Target}

theorem carries_relate (op : BinaryOp) (h : Exchanges A folded ρ t t')
    (h' : Exchanges A folded ρ s s') :
    Carries exact d ρ (relate op t s) (relate op t' s') (Parallel A false ρ) := by
  refine (carries_ofResult (exchanges_makeComparable h h')).bind ?_
  rintro ⟨u, v⟩ ⟨u', v'⟩ ⟨left, right⟩
  exact carries_pure ((left.acts.binary right.acts _ op).parallel ⟨rfl, rfl⟩)

/-- An operand that may be a string is no collection. -/
theorem carries_demandString (builtin : Builtin) (h : Exchanges A folded ρ t t') :
    Carries exact d ρ (demandString builtin t) (demandString builtin t')
      (fun _ _ => t.kind.isSequence = false) := by
  unfold demandString
  rw [h.kind_eq]
  split
  iterate 3 exact carries_pure (by simp only [*]; rfl)
  exact carries_typeFault _ _

theorem carries_stringTest {builtin : Builtin}
    (still : builtin ≠ .random ∧ builtin ≠ .randomBelow) (h : Exchanges A true ρ t t')
    (h' : Exchanges A true ρ s s') :
    Carries exact d ρ (stringTest builtin t s) (stringTest builtin t' s') (Parallel A false ρ) := by
  refine (carries_demandString builtin h).bind fun _ _ scalar => ?_
  refine (carries_demandString builtin h').bind fun _ _ _ => ?_
  refine carries_shared h fun ρ₁ t t' extend₁ h kind _ => ?_
  refine carries_shared (h'.extend extend₁) fun ρ₂ s s' extend₂ h' _ _ => ?_
  refine carries_guarded (h.extend extend₂) (fun _ => kind ▸ scalar) fun ρ₃ t t' extend₃ h => ?_
  have operands := h.acts.cons ((h'.extend extend₃).acts.cons allAct_nil)
  exact carries_pure ((operands.call _ still).parallel ⟨rfl, rfl⟩)

/-- A search in a collection that has become none that lowering knows is behind a guard, which it
was not before. -/
theorem carries_search (h : Exchanges A true ρ t t') (h' : Exchanges A true ρ s s')
    (quiet : d = .objects → t.hasEffects = false) (quiet' : d = .objects → s.hasEffects = false) :
    Carries exact d ρ (guarded t fun t => return .call .boolean .contains [t, s])
      (guarded t' fun t => return .call .boolean .contains [t, s']) (Parallel A false ρ) := by
  have searches {ρ' : Naming} {u u' v v' : Target} (h : Acts A ρ' u u') (h' : Acts A ρ' v v') :
      Carries exact d ρ' (return .call .boolean .contains [u, v])
        (return .call .boolean .contains [u', v']) (Parallel A false ρ') :=
    carries_pure (((h.cons (h'.cons allAct_nil)).call _ (by simp)).parallel ⟨rfl, rfl⟩)
  by_cases same : needsGuard d t' = needsGuard d t
  · exact carries_guarded_of h same (searches h.acts h'.acts) fun a b extend =>
      searches (acts_parameter _ (Naming.push_self ρ a b)) (h'.extend extend).acts
  · have needs : needsGuard d t = false :=
      Bool.eq_false_iff.mpr fun needs => same ((h.needsGuard needs).trans needs.symm)
    have needs' : needsGuard d t' = true :=
      (Bool.not_eq_false _).mp fun needs' => same (needs'.trans needs.symm)
    have objects : d = .objects := by
      simp only [needsGuard, Bool.and_eq_true, decide_eq_true_eq] at needs'
      exact needs'.1
    refine carries_dialect.bind ?_
    rintro _ _ ⟨rfl, rfl⟩
    rw [if_neg (Bool.eq_false_iff.mp needs), if_pos needs']
    refine carries_fresh_right rfl fun b made new => carries_pure ?_
    exact (h.acts.contains_guard h'.acts (quiet objects) (quiet' objects)
      (fun _ _ _ _ => isNull_eq_false_of_needsGuard (objects ▸ needs)) new _ _).parallel ⟨rfl, rfl⟩

theorem carries_contains (h : Exchanges A true ρ t t') (h' : Exchanges A true ρ s s') :
    Carries exact d ρ (contains t s) (contains t' s') (Parallel A false ρ) := by
  have operands {p p' : Target × Target} (pairs : ExchangedPairs A true ρ p p') :
      Carries exact d ρ
        (shared p.1 fun t => shared p.2 fun s =>
          guarded t fun t => return .call .boolean .contains [t, s])
        (shared p'.1 fun t => shared p'.2 fun s =>
          guarded t fun t => return .call .boolean .contains [t, s]) (Parallel A false ρ) :=
    carries_shared pairs.1 fun ρ₁ t t' extend₁ h _ quiet =>
      carries_shared (pairs.2.extend extend₁) fun ρ₂ s s' extend₂ h' _ quiet' =>
        carries_search (h.extend extend₂) h' quiet quiet'
  unfold contains
  rw [h.kind_eq]
  dsimp only
  split
  · exact (carries_ofResult (exchanges_makeComparable h h')).bind fun _ _ pairs => operands pairs
  · have pair : ExchangedPairs A true ρ (t, s) (t', s') := ⟨h, h'⟩
    exact operands pair

/-! ### Ranges -/

theorem carries_within {low low' high high' : Target} (h : Exchanges A true ρ t t')
    (lower : Exchanges A true ρ low low') (upper : Exchanges A true ρ high high') :
    Carries exact d ρ (within t low high) (within t' low' high') (Parallel A false ρ) :=
  (carries_relate _ h lower).bind fun _ _ first => (carries_relate _ h upper).bind fun _ _ second =>
    carries_pure ((first.exchanges.acts.binary second.exchanges.acts _ _).parallel ⟨rfl, rfl⟩)

/-- A comparison with a bound that no GUID can be made of. -/
theorem carries_relate_bound (op : BinaryOp) {element : Kind} {v : Value}
    (h : Exchanges A true ρ t t') (known : Kind.ofValue v = element ∧ v.convert? .guid = none)
    (bound : Acts A ρ (.constant element v) s') (plain : s'.constant? = none) :
    Carries false d ρ (relate op t (.constant element v)) (relate op t' s')
      (Parallel A false ρ) := by
  refine (carries_ofResult_of_entails (entails_makeComparable h known bound plain)).bind ?_
  rintro ⟨u, v⟩ ⟨u', v'⟩ ⟨left, right⟩
  exact carries_pure ((left.binary right _ op).parallel ⟨rfl, rfl⟩)

/-- An item of what acts as a list of two constants. -/
theorem acts_bound {element : Kind} {low high : Value}
    (h : Acts A ρ (.list (.sequence element) [.constant element low, .constant element high]) s') :
    Acts A ρ (.constant element low) (.elementAt element s' (.ofValue (.int 0)))
      ∧ Acts A ρ (.constant element high) (.elementAt element s' (.ofValue (.int 1))) :=
  ⟨(h.elementAt (acts_constant _ (.int 0)) element).of_traced_eq rfl rfl rfl,
    (h.elementAt (acts_constant _ (.int 1)) element).of_traced_eq rfl rfl rfl⟩

/-- The range between the items of a collection. -/
theorem carries_betweenItems (h : Exchanges A true ρ t t') (h' : Exchanges A true ρ s s') :
    Carries exact d ρ
      (do
        let element ← elementOf "BETWEEN" .twoElementCollection s
        shared s fun bounds => within t (.elementAt element bounds (.ofValue (.int 0)))
          (.elementAt element bounds (.ofValue (.int 1))))
      (do
        let element ← elementOf "BETWEEN" .twoElementCollection s'
        shared s' fun bounds => within t' (.elementAt element bounds (.ofValue (.int 0)))
          (.elementAt element bounds (.ofValue (.int 1))))
      (Parallel A false ρ) := by
  refine (carries_elementOf _ _ h'.kind_eq).bind ?_
  rintro element _ rfl
  refine carries_shared h' fun ρ' s s' extend h' _ _ => ?_
  have item (i : Int) : Exchanges A true ρ' (.elementAt element s (.ofValue (.int i)))
      (.elementAt element s' (.ofValue (.int i))) :=
    ((h'.acts.elementAt (acts_constant _ _) element).parallel ⟨rfl, rfl⟩).exchanges
  exact carries_within (h.extend extend) (item 0) (item 1)

theorem carries_between (h : Exchanges A true ρ t t') (h' : Comparands exact A .between ρ s s') :
    Carries exact d ρ (between t s) (between t' s') (Parallel A false ρ) := by
  obtain ⟨exchanges, bounds⟩ := h'
  cases exchanges with
  | single acts plain same =>
    rw [between_of_not_list _ (ne_list_of_isList plain.1),
      between_of_not_list _ (ne_list_of_isList plain.2)]
    exact carries_shared h fun ρ' t t' extend h _ _ =>
      carries_betweenItems h (.single (acts.extend extend) plain same)
  | list kind items =>
    refine carries_shared h fun ρ' t t' extend h _ _ => ?_
    cases items with
    | nil => exact carries_typeFault _ _
    | cons lower rest =>
      cases rest with
      | nil => exact carries_typeFault _ _
      | cons upper rest =>
        cases rest with
        | nil => exact carries_within h (lower.extend extend) (upper.extend extend)
        | cons => exact carries_typeFault _ _
  | literal element values kinds acts plain value =>
    rcases bounds rfl with same | ⟨rfl, element', low, high, is, known⟩
    · rw [plain] at same
      cases same
    · simp only [list.injEq, Kind.sequence.injEq] at is
      obtain ⟨rfl, items⟩ := is
      rw [items] at acts ⊢
      rw [between_of_not_list _ (ne_list_of_isList plain)]
      refine carries_shared h fun ρ' t t' extend h _ _ => ?_
      obtain ⟨lower, upper⟩ := acts_bound (acts.extend extend)
      have quiet : s'.hasEffects = false := acts.effects
      have items : elementOf "BETWEEN" .twoElementCollection s' = pure element :=
        elementOf_of_some (by rw [show s'.kind = .sequence element from acts.kind]; rfl)
      rw [items, pure_bind, shared_of_pure quiet]
      exact (carries_relate_bound _ h (known low (by simp)) lower rfl).bind fun _ _ first =>
        (carries_relate_bound _ h (known high (by simp)) upper rfl).bind fun _ _ second =>
          carries_pure ((first.exchanges.acts.binary second.exchanges.acts _ _).parallel ⟨rfl, rfl⟩)

theorem carries_compare (h : Exchanges A true ρ t t') (h' : Comparands exact A operator ρ s s') :
    Carries exact d ρ (compare operator t s) (compare operator t' s') (Parallel A false ρ) := by
  cases operator with
  | less | lessEqual | greater | greaterEqual | equal | notEqual =>
    exact carries_relate _ h h'.exchanges
  | isMatch | like | beginsWith | endsWith => exact carries_stringTest (by simp) h h'.exchanges
  | contains => exact carries_contains h h'.exchanges
  | member => exact carries_contains h'.exchanges h
  | between => exact carries_between h h'

/-! ## Modifiers -/

theorem carries_quantified (quantifier : Quantifier) (h : Exchanges A true ρ t t')
    (h' : Comparands exact A operator ρ s s') :
    Carries exact d ρ (quantified quantifier operator t s) (quantified quantifier operator t' s')
      (Parallel A false ρ) := by
  refine (carries_elementOf _ _ h.kind_eq).bind ?_
  rintro element _ rfl
  -- the items of the left operand are compared with the right one under a new name for them
  have items {ρ' : Naming} {t t' s s' : Target} (h : Exchanges A true ρ' t t')
      (h' : Comparands exact A operator ρ' s s') :
      Carries exact d ρ'
        (do
          let parameter ← fresh "q"
          let predicate ← compare operator (.parameter element parameter) s
          return .quantify .boolean quantifier t parameter predicate)
        (do
          let parameter ← fresh "q"
          let predicate ← compare operator (.parameter element parameter) s'
          return .quantify .boolean quantifier t' parameter predicate)
        (Parallel A false ρ') := by
    refine carries_fresh rfl fun a b made extend => ?_
    refine (carries_compare (parallel_parameter element (Naming.push_self ρ' a b)).exchanges
      (h'.extend extend)).bind fun _ _ predicate => carries_pure ?_
    exact (h.acts.quantify made predicate.exchanges.acts _ quantifier).parallel ⟨rfl, rfl⟩
  refine carries_shared h fun ρ' t t' extend h _ _ => ?_
  replace h' := h'.extend extend
  exact carries_shared_of h'.exchanges (fun _ => items h h') fun a b extend =>
    items (h.extend extend) (parallel_parameter _ (Naming.push_self _ a b)).comparands

/-- A comparison as the modifier wants it. -/
theorem carries_modified (modifier : Modifier) (h : Exchanges A true ρ t t')
    (h' : Comparands exact A operator ρ s s') :
    Carries exact d ρ
      (match quantifier? modifier with
        | none => compare operator t s
        | some quantifier => quantified quantifier operator t s)
      (match quantifier? modifier with
        | none => compare operator t' s'
        | some quantifier => quantified quantifier operator t' s')
      (Parallel A false ρ) := by
  cases quantifier? modifier with
  | none => exact carries_compare h h'
  | some quantifier => exact carries_quantified quantifier h h'

end Lowering

end PredicateLang
