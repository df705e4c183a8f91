import PredicateLang.Proofs.Alike.Compiled
import PredicateLang.Proofs.Effects.Operand

/-!
# The effects of a comparison

`Target.InOrder whole first second t` says what evaluating `t` does if it succeeds: it assigns and
draws exactly what evaluating `first` once does, and then `second` once. Comparisons of all forms
evaluate their operands so. Membership begins with the collection, which is its right operand.
Bounds that are written out are no operand of their own: the upper bound is left alone if the lower
one does not hold, so the statement leaves out upper bounds with effects.
-/

namespace PredicateLang

/-! ## Surroundings with a made-up name -/

theorem Surroundings.match_push {name : String} (made : Scope.isMadeUp name)
    (around : Surroundings) (v : Value) :
    Surroundings.Match .outer around (around.push name v) := by
  refine ⟨Naming.oneToOne_only _, ?_, fun _ _ join _ => join.1⟩
  rintro x _ ⟨rfl, outer, -⟩
  rw [Surroundings.push, Fields.find?, if_neg (Ne.symm (Scope.ne_of_isMadeUp outer made))]

namespace Target

/-- The run of a tree that reads no made-up name from outside is the same with one more of them. -/
theorem Alike.agree_push {effects : Bool} {t : Target} (closed : t.Alike effects .outer t)
    {name : String} (made : Scope.isMadeUp name) (world : World) (around : Surroundings)
    (store : Store) (v : Value) :
    (t.traced world around store).Agree (t.traced world (around.push name v) store) :=
  closed.follow world around _ store (Surroundings.match_push made around v)

/-! ## Order of effects -/

/-- If evaluating the tree succeeds, then it does what evaluating the operand does. If the operand
has effects, then, where it is taken as a whole, it has a value too. -/
def Performs (whole : Prop) (operand t : Target) : Prop :=
  ∀ world around store v, (t.traced world around store).result = .ok v →
    (t.traced world around store).effects = (operand.traced world around store).effects
      ∧ (t.traced world around store).store = (operand.traced world around store).store
      ∧ (whole → operand.hasEffects →
          ∃ a, (operand.traced world around store).result = .ok a)

/-- If evaluating the tree succeeds, then it does what evaluating the one operand and then the other
does. An operand with effects has a value, the second one where it is taken as a whole. -/
def InOrder (whole : Prop) (first second t : Target) : Prop :=
  ∀ world around store v, (t.traced world around store).result = .ok v →
    let between := (first.traced world around store).store
    (t.traced world around store).effects
        = (first.traced world around store).effects ++ (second.traced world around between).effects
      ∧ (t.traced world around store).store = (second.traced world around between).store
      ∧ (first.hasEffects → ∃ a, (first.traced world around store).result = .ok a)
      ∧ (whole → second.hasEffects → ∃ a, (second.traced world around between).result = .ok a)

variable {whole : Prop} {first second t : Target}

theorem performs_of_pure {operand : Target} (h : operand.hasEffects = false)
    (h' : t.hasEffects = false) : Performs whole operand t := by
  intro world around store v ok
  obtain ⟨effects, same⟩ := operand.quiet_traced h world around store
  obtain ⟨effects', same'⟩ := t.quiet_traced h' world around store
  exact ⟨effects'.trans effects.symm, same'.trans same.symm, fun _ has => by simp [h] at has⟩

/-- What an operand does, if the form of it that is evaluated has a value or no effects. -/
theorem Wraps.performs {operand operand' : Target} (h : operand.Wraps operand') {world : World}
    {around : Surroundings} {store : Store}
    (ok : operand'.hasEffects → ∃ a, (operand'.traced world around store).result = .ok a) :
    (operand'.traced world around store).effects = (operand.traced world around store).effects
      ∧ (operand'.traced world around store).store = (operand.traced world around store).store
      ∧ (operand.hasEffects → ∃ a, (operand.traced world around store).result = .ok a) := by
  cases has : operand.hasEffects with
  | false =>
    obtain ⟨effects, same⟩ := operand.quiet_traced has world around store
    obtain ⟨effects', same'⟩ := operand'.quiet_traced (h.hasEffects.trans has) world around store
    exact ⟨effects'.trans effects.symm, same'.trans same.symm, by simp⟩
  | true =>
    obtain ⟨a, value⟩ := ok (h.hasEffects.trans has)
    obtain ⟨ok, effects, same⟩ := h.traced world around store a value
    exact ⟨effects, same, fun _ => ok⟩

theorem InOrder.of_wraps {first' second' : Target} (h : InOrder True first' second' t)
    (wraps : first.Wraps first') (wraps' : second.Wraps second') :
    InOrder True first second t := by
  intro world around store v ok
  obtain ⟨effects, same, evaluated, evaluated'⟩ := h world around store v ok
  obtain ⟨effects₁, same₁, ok₁⟩ := wraps.performs evaluated
  rw [same₁] at effects same evaluated'
  obtain ⟨effects₂, same₂, ok₂⟩ := wraps'.performs (evaluated' trivial)
  exact ⟨by rw [effects, effects₁, effects₂], same.trans same₂, ok₁, fun _ => ok₂⟩

/-- Where only the first operand is evaluated in another form. -/
theorem InOrder.of_wraps_first {first' : Target} (h : InOrder whole first' second t)
    (wraps : first.Wraps first') : InOrder whole first second t := by
  intro world around store v ok
  obtain ⟨effects, same, evaluated, evaluated'⟩ := h world around store v ok
  obtain ⟨effects₁, same₁, ok₁⟩ := wraps.performs evaluated
  rw [same₁] at effects same evaluated'
  exact ⟨by rw [effects, effects₁], same, ok₁, evaluated'⟩

theorem InOrder.weaken {whole' : Prop} (h : InOrder whole first second t) (le : whole' → whole) :
    InOrder whole' first second t := by
  intro world around store v ok
  obtain ⟨effects, same, evaluated, evaluated'⟩ := h world around store v ok
  exact ⟨effects, same, evaluated, fun all => evaluated' (le all)⟩

/-- An operation that is no connective does what its operands do, one after the other. -/
theorem inOrder_binary (kind : Kind) {op : BinaryOp} (first second : Target)
    (strict : op.isConnective = false) :
    InOrder True first second (.binary kind op first second) := by
  intro world around store v ok
  rw [traced_binary kind strict] at ok ⊢
  obtain ⟨a, value, ok⟩ := Tracing.exists_of_bind ok
  obtain ⟨b, value', -⟩ := Tracing.exists_of_bind ok
  obtain ⟨effects, same⟩ :=
    Tracing.quiet_still (Evaluation.ofResult (Evaluation.binary kind op a b)) world
      around (second.traced world around (first.traced world around store).store).store
  rw [Tracing.bind_of_ok value, Tracing.bind_of_ok value']
  refine ⟨?_, same, fun _ => ⟨a, value⟩, fun _ _ => ⟨b, value'⟩⟩
  rw [Tracing.effects_append, List.filter_append]
  exact congrArg _ ((congrArg _ effects).trans (List.append_nil _))

/-- A binding evaluates its value, and then its body. -/
theorem traced_bind {value body : Target} {name : String} (kind : Kind) {world : World}
    {around : Surroundings} {store : Store} {a : Value}
    (ok : (value.traced world around store).result = .ok a) :
    let between := (value.traced world around store).store
    let last := body.traced world (around.push name a) between
    (bind kind value name body).traced world around store
      = ⟨(value.traced world around store).events ++ last.events, last.store, last.result⟩ :=
  Tracing.bind_of_ok ok

/-- The value of a binding comes first. The made-up name makes no difference to the operand that its
body evaluates. -/
theorem inOrder_bind {name : String} (made : Scope.isMadeUp name) (kind : Kind) (first : Target)
    {body : Target} (closed : second.Alike true .outer second) (h : Performs whole second body) :
    InOrder whole first second (.bind kind first name body) := by
  intro world around store v ok
  obtain ⟨a, value, ok⟩ := Tracing.exists_of_bind ok
  obtain ⟨effects, same, evaluated⟩ := h world _ _ v ok
  have agree := closed.agree_push made world around (first.traced world around store).store a
  rw [traced_bind kind value]
  refine ⟨?_, same.trans agree.store, fun _ => ⟨a, value⟩, fun all has => ?_⟩
  · rw [Tracing.effects_append]
    exact congrArg _ (effects.trans agree.effects)
  · exact agree.result ▸ evaluated all has

end Target

/-! ## Shared operands -/

namespace Lowering

variable {settings : Settings} {scope after : Scope} {whole : Prop} {first second t : Target}

/-- An operand without effects is left where it is; any other gets a made-up name. -/
theorem exists_of_shared {subject : Target} {build : Target → Lowering Target}
    (objects : settings.dialect = .objects)
    (run : shared subject build settings scope = .ok t after) :
    (subject.hasEffects = false ∧ build subject settings scope = .ok t after)
      ∨ ∃ name : String, name = Scope.madeUp "b" (scope.counter + 1) ∧ ∃ body : Target,
        t = .bind body.kind subject name body
          ∧ build (.parameter subject.kind name) settings
              { scope with counter := scope.counter + 1 } = .ok body after := by
  obtain ⟨dialect, between, first, run⟩ := run_bind run
  cases first
  split at run
  · obtain ⟨name, between', made, run⟩ := run_bind run
    cases made
    obtain ⟨body, between'', built, run⟩ := run_bind run
    cases run
    exact .inr ⟨_, rfl, body, rfl, built⟩
  · rename_i pure
    refine .inl ⟨?_, run⟩
    cases has : subject.hasEffects with
    | false => rfl
    | true => exact absurd ⟨objects, has⟩ pure

/-- Of one step two runs are the same. -/
theorem Alike.self {α : Type} {ρ : Naming} {step : Lowering α} {P : α → α → Prop} {a : α}
    (h : Alike ρ step step P) (old : ρ.Old scope.counter scope.counter)
    (run : step settings scope = .ok a after) : P a a := by
  have both := h settings scope scope old
  rw [run] at both
  exact both.of_ok.1

/-- An operation without effects of its own does what its shared operand does. -/
theorem performs_of_shared {ρ : Naming} {build : Target → Lowering Target}
    (objects : settings.dialect = .objects) (closed : second.Alike true .outer second)
    (wider : Naming.outer.Extend ρ) (old : ρ.Old scope.counter scope.counter)
    (still : ∀ ρ' operand, ρ.Extend ρ' → operand.Alike false ρ' operand →
      Alike ρ' (build operand) (build operand) (Target.Alike false ρ'))
    (run : shared second build settings scope = .ok t after) : Target.Performs True second t := by
  rcases exists_of_shared objects run with ⟨pure, built⟩ | ⟨name, named, body, rfl, built⟩
  · have alike := (closed.of_hasEffects_eq_false pure).extend wider
    have body := (still ρ second (.refl ρ) alike).self old built
    exact Target.performs_of_pure pure body.hasEffects_eq_false
  · have pure : body.hasEffects = false := by
      subst named
      have length : "b".toList.length = 1 := rfl
      refine ((still _ _ ?_ ?_).self (old.next length) built).hasEffects_eq_false
      · exact old.extend_next length
      · exact .parameter _ (Naming.push_self _ _ _)
    have wraps : Tracing.Wraps second.traced (Target.bind body.kind second name body).traced :=
      Tracing.wraps_before fun v => (body.quiet_traced pure).withSlot name v
    intro world around store v ok
    obtain ⟨ok, effects, same⟩ := wraps world around store v ok
    exact ⟨effects, same, fun _ _ => ok⟩

/-- An operation that does what the second operand does comes after the first one if it shares it.
-/
theorem inOrder_of_shared {build : Target → Lowering Target} (objects : settings.dialect = .objects)
    (closed : first.Alike true .outer first) (closed' : second.Alike true .outer second)
    (performs : ∀ (ρ : Naming) operand scope after t, Naming.outer.Extend ρ →
      ρ.Old scope.counter scope.counter → operand.Alike false ρ operand →
        build operand settings scope = .ok t after → Target.Performs whole second t)
    (run : shared first build settings scope = .ok t after) :
    Target.InOrder whole first second t := by
  have old : Naming.outer.Old scope.counter scope.counter := Naming.old_only _ _ _
  rcases exists_of_shared objects run with ⟨pure, built⟩ | ⟨name, named, body, rfl, built⟩
  · have alike := closed.of_hasEffects_eq_false pure
    intro world around store v ok
    obtain ⟨effects, same, evaluated⟩ :=
      performs .outer first _ _ _ (.refl _) old alike built world around store v ok
    obtain ⟨none, still⟩ := first.quiet_traced pure world around store
    rw [none, still]
    exact ⟨effects, same, fun has => by simp [pure] at has, evaluated⟩
  · subst named
    have length : "b".toList.length = 1 := rfl
    exact Target.inOrder_bind (Scope.isMadeUp_madeUp _ _) _ first closed'
      (performs _ _ _ _ _ (old.extend_next length) (old.next length)
        (.parameter _ (Naming.push_self _ _ _)) built)

/-- Two shared operands are evaluated in order. -/
theorem inOrder_of_sharedBoth {build : Target → Target → Lowering Target}
    (objects : settings.dialect = .objects) (closed : first.Alike true .outer first)
    (closed' : second.Alike true .outer second)
    (still : ∀ (ρ : Naming) l r, l.Alike false ρ l → r.Alike false ρ r →
      Alike ρ (build l r) (build l r) (Target.Alike false ρ))
    (run : (shared first fun l => shared second fun r => build l r) settings scope = .ok t after) :
    Target.InOrder True first second t :=
  inOrder_of_shared objects closed closed' (fun _ _ _ _ _ wider old alike built =>
    performs_of_shared objects closed' wider old (fun _ _ extend alike' =>
      still _ _ _ (alike.extend extend) alike') built) run

/-! ## Operators -/

theorem ofResult_run {α : Type} {result : Except Error α} {a : α}
    (run : ofResult result settings scope = .ok a after) : result = .ok a ∧ after = scope := by
  cases result <;> cases run
  exact ⟨rfl, rfl⟩

theorem elementOf_run {operation : String} {wanted : Demand} {source : Target} {element : Kind}
    (run : elementOf operation wanted source settings scope = .ok element after) :
    after = scope := by
  unfold elementOf at run
  cases known : source.kind.element? with
  | some kind =>
    rw [known] at run
    cases run
    rfl
  | none =>
    rw [known] at run
    cases run

theorem inOrder_of_relate {op : BinaryOp} (strict : op.isConnective = false)
    (run : relate op first second settings scope = .ok t after) :
    Target.InOrder True first second t := by
  obtain ⟨⟨first', second'⟩, between, made, run⟩ := run_bind run
  cases run
  obtain ⟨cast, cast'⟩ := Target.isCast_of_makeComparable (ofResult_run made).1
  exact (Target.inOrder_binary _ _ _ strict).of_wraps (Target.wraps_of_isCast cast)
    (Target.wraps_of_isCast cast')

theorem inOrder_of_stringTest {builtin : Builtin}
    (still : builtin ≠ .random ∧ builtin ≠ .randomBelow) (objects : settings.dialect = .objects)
    (closed : first.Alike true .outer first) (closed' : second.Alike true .outer second)
    (run : stringTest builtin first second settings scope = .ok t after) :
    Target.InOrder True first second t := by
  obtain ⟨_, between, -, run⟩ := run_bind run
  obtain ⟨_, between', -, run⟩ := run_bind run
  exact inOrder_of_sharedBoth objects closed closed' (fun _ _ _ => alike_guardedTest still) run

theorem inOrder_of_contains (objects : settings.dialect = .objects)
    (closed : first.Alike true .outer first) (closed' : second.Alike true .outer second)
    (run : contains first second settings scope = .ok t after) :
    Target.InOrder True first second t := by
  unfold contains at run
  dsimp only at run
  split at run
  · obtain ⟨⟨first', second'⟩, between, made, run⟩ := run_bind run
    have made := (ofResult_run made).1
    obtain ⟨cast, cast'⟩ := Target.isCast_of_makeComparable made
    have both := alike_makeComparable closed closed'
    rw [made] at both
    obtain ⟨alike, alike'⟩ := both.of_ok
    exact (inOrder_of_sharedBoth objects alike alike' (fun _ _ _ => alike_guardedTest (by simp))
      run).of_wraps (Target.wraps_of_isCast cast) (Target.wraps_of_isCast cast')
  · exact inOrder_of_sharedBoth objects closed closed'
      (fun _ _ _ => alike_guardedTest (by simp)) run

/-- Bounds that are no list are shared. -/
theorem between_of_not_list (value : Target) {bounds : Target}
    (plain : ∀ kind items, bounds ≠ .list kind items) :
    between value bounds = (shared value fun value => do
      let element ← elementOf "BETWEEN" .twoElementCollection bounds
      shared bounds fun bounds =>
        let at_ (i : Int) : Target := .elementAt element bounds (.ofValue (.int i))
        within value (at_ 0) (at_ 1)) := by
  cases bounds with
  | list kind items => exact absurd rfl (plain kind items)
  | _ => rfl

theorem inOrder_of_between (objects : settings.dialect = .objects)
    (closed : first.Alike true .outer first) (closed' : second.Alike true .outer second)
    (plain : ∀ kind items, second ≠ .list kind items)
    (run : between first second settings scope = .ok t after) :
    Target.InOrder True first second t := by
  rw [between_of_not_list first plain] at run
  refine inOrder_of_shared objects closed closed' ?_ run
  intro ρ value scope' after' t' wider old alike run
  obtain ⟨element, between, known, built⟩ := run_bind run
  have same := elementOf_run known
  subst same
  refine performs_of_shared objects closed' wider old ?_ built
  intro ρ' bounds extend alike'
  exact alike_within (alike.extend extend) (.elementAt _ alike' (.constant _ _))
    (.elementAt _ alike' (.constant _ _))

/-- Of bounds that are written out, if the upper one has no effects, those of the lower one are all
that there are. -/
theorem effects_bounds (kind : Kind) (lower : Target) {upper : Target}
    (still : upper.hasEffects = false) (world : World) (around : Surroundings) (store : Store) :
    ((Target.list kind [lower, upper]).traced world around store).effects
        = (lower.traced world around store).effects
      ∧ ((Target.list kind [lower, upper]).traced world around store).store
        = (lower.traced world around store).store := by
  have rest (v : Value) : Tracing.Quiet (do return v :: (← Target.tracedAll [upper])) :=
    (Target.quiet_tracedAll [upper] (Bool.or_eq_false_iff.mpr ⟨still, rfl⟩)).bind fun _ =>
      Tracing.quiet_pure _
  have array (values : List Value) : Tracing.Quiet (pure (Value.array values)) :=
    Tracing.quiet_pure _
  obtain ⟨effects, same⟩ := Tracing.effects_before rest world around store
  obtain ⟨effects', same'⟩ := Tracing.effects_before array world around store
  exact ⟨effects'.trans effects, same'.trans same⟩

/-- Bounds that are written out, of which the upper one has no effects. The comparison evaluates
them in the form `lower'` and `upper'`. -/
theorem performs_of_within {ρ : Naming} {value lower upper lower' upper' : Target} (kind : Kind)
    (wider : Naming.outer.Extend ρ) (old : ρ.Old scope.counter scope.counter)
    (alike : value.Alike false ρ value)
    (closed' : upper'.Alike true .outer upper') (wraps : lower.Wraps lower')
    (wraps' : upper.Wraps upper') (pure : upper.hasEffects = false)
    (run : within value lower' upper' settings scope = .ok t after) :
    Target.Performs False (.list kind [lower, upper]) t := by
  obtain ⟨low, between, related, run⟩ := run_bind run
  obtain ⟨high, between', related', run⟩ := run_bind run
  cases run
  have leads : between = scope := by
    obtain ⟨p, between'', made, run⟩ := run_bind related
    cases run
    exact (ofResult_run made).2
  have still : high.hasEffects = false := by
    have alike' := (closed'.of_hasEffects_eq_false (wraps'.hasEffects.trans pure)).extend wider
    subst leads
    exact ((alike_relate .lessEqual alike alike').self old related').hasEffects_eq_false
  have first : Tracing.Wraps low.traced (Target.binary .boolean .andAlso low high).traced := by
    refine Tracing.wraps_before fun v => (Tracing.quiet_still _).bind fun b => ?_
    cases b with
    | true =>
      exact (high.quiet_traced still).bind fun _ => (Tracing.quiet_still _).bind fun _ =>
        Tracing.quiet_pure _
    | false => exact Tracing.quiet_pure _
  intro world around store v ok
  obtain ⟨⟨a, ok⟩, effects, same⟩ := first world around store v ok
  obtain ⟨effects', same', -, evaluated⟩ :=
    inOrder_of_relate rfl related world around store a ok
  obtain ⟨none, unchanged⟩ := value.quiet_traced alike.hasEffects_eq_false world around store
  rw [none, unchanged] at effects'
  rw [unchanged] at same' evaluated
  obtain ⟨effects'', same'', -⟩ := wraps.performs (evaluated trivial)
  obtain ⟨all, last⟩ := effects_bounds kind lower pure world around store
  refine ⟨?_, ?_, False.elim⟩
  · rw [effects, effects', all, ← effects'', List.nil_append]
  · rw [same, same', last, ← same'']

theorem inOrder_of_betweenBounds {lower upper lower' upper' : Target} {kind kind' : Kind}
    (objects : settings.dialect = .objects) (closed : first.Alike true .outer first)
    (closed' : (Target.list kind [lower, upper]).Alike true .outer (.list kind [lower, upper]))
    (alike : upper'.Alike true .outer upper') (wraps : lower.Wraps lower')
    (wraps' : upper.Wraps upper') (pure : upper.hasEffects = false)
    (run : between first (.list kind' [lower', upper']) settings scope = .ok t after) :
    Target.InOrder False first (.list kind [lower, upper]) t :=
  inOrder_of_shared objects closed closed'
    (fun _ _ _ _ _ wider old value built =>
      performs_of_within kind wider old value alike wraps wraps' pure built) run

/-- The operand that a comparison begins with, and the other one: membership begins with the
collection. -/
def operandsInOrder (operator : Operator) (modifier : Modifier) (left right : Target) :
    Target × Target :=
  if operator = .member ∧ modifier = .direct then (right, left) else (left, right)

/-- Any comparison but one with bounds that are written out takes both operands as a whole. -/
theorem inOrder_of_compare {operator : Operator} (objects : settings.dialect = .objects)
    (closed : first.Alike true .outer first) (closed' : second.Alike true .outer second)
    (plain : operator = .between → ∀ kind items, second ≠ .list kind items)
    (run : compare operator first second settings scope = .ok t after) :
    Target.InOrder True (operandsInOrder operator .direct first second).1
      (operandsInOrder operator .direct first second).2 t := by
  cases operator with
  | less | lessEqual | greater | greaterEqual | equal | notEqual =>
    exact inOrder_of_relate rfl run
  | isMatch | like | beginsWith | endsWith =>
    exact inOrder_of_stringTest (by simp) objects closed closed' run
  | contains => exact inOrder_of_contains objects closed closed' run
  | member => exact inOrder_of_contains objects closed' closed run
  | between => exact inOrder_of_between objects closed closed' (plain rfl) run

theorem inOrder_of_quantified {quantifier : Quantifier} {operator : Operator}
    (objects : settings.dialect = .objects) (closed : first.Alike true .outer first)
    (closed' : second.Alike true .outer second)
    (run : quantified quantifier operator first second settings scope = .ok t after) :
    Target.InOrder True first second t := by
  obtain ⟨element, between, -, run⟩ := run_bind run
  exact inOrder_of_sharedBoth objects closed closed'
    (fun _ _ _ => alike_quantify quantifier operator element) run

/-! ## Letter case -/

/-- An operand and a form of it that is evaluated in its place. Of a list only lists are such. -/
structure Readies (operand operand' : Target) : Prop where
  closed : operand'.Alike true .outer operand'
  wraps : operand.Wraps operand'
  items : ∀ kind us, operand' = .list kind us → ∃ ts : List Target,
    operand = .list kind ts ∧ Target.AllWrap ts us

theorem Readies.refl (closed : t.Alike true .outer t) : Readies t t :=
  ⟨closed, .refl t, fun _ us list => ⟨us, list, .refl us⟩⟩

theorem readies_of_foldCase (closed : first.Alike true .outer first)
    (run : foldCase first settings scope = .ok t after) : Readies first t where
  closed := (alike_foldCase closed).self (Naming.old_only _ _ _) run
  wraps := (keeps_foldCase first settings scope t after rfl run).1
  items := (keeps_foldCase_list first settings scope t after rfl run).1

theorem readies_of_foldOperands {options : Options} {operator : Operator} {p : Target × Target}
    (closed : first.Alike true .outer first) (closed' : second.Alike true .outer second)
    (run : foldOperands options operator first second settings scope = .ok p after) :
    Readies first p.1 ∧ Readies second p.2 := by
  obtain ⟨settings', between, known, run⟩ := run_bind run
  split at run
  · obtain ⟨left, between', folded, run⟩ := run_bind run
    split at run
    · cases run
      exact ⟨readies_of_foldCase closed folded, .refl closed'⟩
    · obtain ⟨right, between'', folded', run⟩ := run_bind run
      cases run
      exact ⟨readies_of_foldCase closed folded, readies_of_foldCase closed' folded'⟩
  · cases run
    exact ⟨.refl closed, .refl closed'⟩

/-! ## Comparisons -/

/-- Bounds that are written out, of which the upper one has effects. -/
def HasOpenBounds (bounds : Target) : Prop :=
  ∃ (kind : Kind) (lower upper : Target), bounds = .list kind [lower, upper] ∧ upper.hasEffects

theorem wraps_operandsInOrder {first' second' : Target} (operator : Operator) (modifier : Modifier)
    (wraps : first.Wraps first') (wraps' : second.Wraps second') :
    (operandsInOrder operator modifier first second).1.Wraps
        (operandsInOrder operator modifier first' second').1
      ∧ (operandsInOrder operator modifier first second).2.Wraps
        (operandsInOrder operator modifier first' second').2 := by
  unfold operandsInOrder
  split
  · exact ⟨wraps', wraps⟩
  · exact ⟨wraps, wraps'⟩

/-- Bounds that are written out are two. -/
theorem exists_bounds_of_between {value : Target} {kind : Kind} {us : List Target}
    (run : between value (.list kind us) settings scope = .ok t after) :
    ∃ lower upper : Target, us = [lower, upper] := by
  match us with
  | [lower, upper] => exact ⟨lower, upper, rfl⟩
  | [] | [_] | _ :: _ :: _ :: _ =>
    obtain ⟨dialect, between, -, run⟩ := run_bind run
    split at run
    · obtain ⟨name, between', -, run⟩ := run_bind run
      obtain ⟨body, between'', built, -⟩ := run_bind run
      cases built
    · cases run

theorem inOrder_of_list {first' bounds : Target} {kind : Kind} {us : List Target}
    (objects : settings.dialect = .objects) (closed' : bounds.Alike true .outer bounds)
    (ready : Readies first first') (ready' : Readies bounds (.list kind us))
    (pure : ¬HasOpenBounds bounds)
    (run : between first' (.list kind us) settings scope = .ok t after) :
    Target.InOrder False first bounds t := by
  obtain ⟨ts, rfl, wraps⟩ := ready'.items kind us rfl
  obtain ⟨lower', upper', rfl⟩ := exists_bounds_of_between run
  obtain ⟨us', same, alike⟩ := ready'.closed.exists_list
  cases same
  cases alike with
  | cons _ alike =>
    cases alike with
    | cons alike' _ =>
      cases wraps with
      | cons wraps rest =>
        cases rest with
        | cons wraps' rest =>
          cases rest with
          | nil =>
            have pure : _ = false := Bool.eq_false_iff.mpr fun has => pure ⟨_, _, _, rfl, has⟩
            exact (inOrder_of_betweenBounds objects ready.closed closed' alike' wraps wraps' pure
              run).of_wraps_first ready.wraps

theorem inOrder_of_readies {operator : Operator} {first' second' : Target}
    (objects : settings.dialect = .objects) (closed' : second.Alike true .outer second)
    (ready : Readies first first') (ready' : Readies second second')
    (bounds : operator = .between → ¬HasOpenBounds second)
    (run : compare operator first' second' settings scope = .ok t after) :
    Target.InOrder (operator = .between → ∀ kind items, second ≠ .list kind items)
      (operandsInOrder operator .direct first second).1
      (operandsInOrder operator .direct first second).2 t := by
  by_cases written : operator = .between ∧ ∃ kind items, second' = .list kind items
  · obtain ⟨rfl, kind, us, rfl⟩ := written
    obtain ⟨ts, rfl, -⟩ := ready'.items kind us rfl
    exact (inOrder_of_list objects closed' ready ready' (bounds rfl) run).weaken
      fun plain => plain rfl _ _ rfl
  · have plain : operator = .between → ∀ kind items, second' ≠ .list kind items :=
      fun between kind items list => written ⟨between, kind, items, list⟩
    obtain ⟨wraps, wraps'⟩ := wraps_operandsInOrder operator .direct ready.wraps ready'.wraps
    exact ((inOrder_of_compare objects ready.closed ready'.closed plain run).of_wraps wraps
      wraps').weaken fun _ => trivial

theorem inOrder_of_comparison {operator : Operator} {modifier : Modifier} {options : Options}
    (objects : settings.dialect = .objects) (closed : first.Alike true .outer first)
    (closed' : second.Alike true .outer second)
    (bounds : operator = .between → modifier = .direct → ¬HasOpenBounds second)
    (run : comparison operator modifier options first second settings scope = .ok t after) :
    Target.InOrder
      (operator = .between → modifier = .direct → ∀ kind items, second ≠ .list kind items)
      (operandsInOrder operator modifier first second).1
      (operandsInOrder operator modifier first second).2 t := by
  obtain ⟨⟨first', second'⟩, between, folded, run⟩ := run_bind run
  obtain ⟨ready, ready'⟩ := readies_of_foldOperands closed closed' folded
  cases modifier with
  | direct =>
    exact (inOrder_of_readies objects closed' ready ready' (fun same => bounds same rfl) run).weaken
      fun plain same => plain same rfl
  | all | any =>
    have swapped (pair : Target × Target) : (if operator = .member ∧ False then pair
        else (first, second)) = (first, second) := if_neg fun both => both.2
    simp only [operandsInOrder, reduceCtorEq, swapped]
    exact ((inOrder_of_quantified objects ready.closed ready'.closed run).of_wraps ready.wraps
      ready'.wraps).weaken fun _ => trivial

end Lowering

open Lowering

/-- In a proper scope an expression is lowered to a tree that reads no made-up name from outside. -/
theorem Expr.closed_of_lower {e : Expr} {settings : Settings} {scope after : Scope} {t : Target}
    (proper : scope.IsProper) (run : e.lower settings scope = .ok t after) :
    t.Alike true .outer t ∧ after.IsProper := by
  have named : e.mentionsOnly fun _ => true := e.mentionsOnly_of_forall fun _ => rfl
  have both := e.matches_lower (.inl (rfl : true = true)) named settings scope scope proper
    fun _ _ => rfl
  rw [run] at both
  obtain ⟨alike, -, moves⟩ := both.of_ok
  exact ⟨alike.extend (Naming.extend_only fun _ _ => trivial), moves.proper⟩

/-- The operands of a comparison are evaluated once each and in order: evaluating the lowered
comparison assigns and draws what evaluating the one lowered operand does, and then the other. An
operand with effects is evaluated to its end. The left operand is the first one, but for membership;
bounds that are written out are left out if the upper one has effects. -/
theorem Predicate.effects_comparison {left right : Expr} {operator : Operator} {modifier : Modifier}
    {options : Options} {settings : Settings} {scope between last after : Scope} {l r t : Target}
    (objects : settings.dialect = .objects) (proper : scope.IsProper)
    (lowered : left.lower settings scope = .ok l between)
    (lowered' : right.lower settings between = .ok r last)
    (compared : (Predicate.comparison left operator right modifier options).lower settings scope
      = .ok t after)
    (bounds : operator = .between → modifier = .direct → ¬HasOpenBounds r)
    {world : World} {m m' : Memory} {v : Value} (evaluates : t.eval world m = .ok v m') :
    let first := (operandsInOrder operator modifier l r).1
    let second := (operandsInOrder operator modifier l r).2
    let middle := m.withStore (first.runFrom world m).store
    (t.runFrom world m).effects = (first.runFrom world m).effects
          ++ (second.runFrom world middle).effects
      ∧ m' = middle.withStore (second.runFrom world middle).store
      ∧ (first.hasEffects → ∃ a, first.eval world m = .ok a middle)
      ∧ ((operator = .between → modifier = .direct → ∀ kind items, r ≠ .list kind items) →
          second.hasEffects → ∃ b, second.eval world middle = .ok b m') := by
  obtain ⟨l', between', left_run, compared⟩ := run_bind compared
  cases lowered.symm.trans left_run
  obtain ⟨r', last', right_run, compared⟩ := run_bind compared
  cases lowered'.symm.trans right_run
  obtain ⟨closed, proper'⟩ := Expr.closed_of_lower proper lowered
  obtain ⟨closed', -⟩ := Expr.closed_of_lower proper' lowered'
  obtain ⟨ok, rfl⟩ := Target.runFrom_of_ok evaluates
  obtain ⟨effects, same, evaluated, evaluated'⟩ :=
    inOrder_of_comparison objects closed closed' bounds compared world _ _ _ ok
  refine ⟨effects, congrArg m.withStore same, fun has => ?_, fun plain has => ?_⟩
  · obtain ⟨a, value⟩ := evaluated has
    exact ⟨a, Target.eval_of_result value⟩
  · obtain ⟨b, value⟩ := evaluated' plain has
    have last := Target.eval_of_result (m := m.withStore _) value
    exact ⟨b, last.trans (congrArg (EStateM.Result.ok b) (congrArg m.withStore same.symm))⟩

/-- An object without a name. -/
def nameless : Memory := Memory.empty.push Scope.objectName (.object [("name", .null)])

/-- Both operands of `($a := name) BEGINSWITH ($b := 'x')` are evaluated, although the receiver is
null. -/
theorem Predicate.effects_comparison_null : ∃ (l r t : Target) (m' : Memory) (v : Value),
    t.eval ⟨⟨0, 0⟩, fun _ => 0⟩ nameless = .ok v m'
      ∧ (t.runFrom ⟨⟨0, 0⟩, fun _ => 0⟩ nameless).effects
        = (l.runFrom ⟨⟨0, 0⟩, fun _ => 0⟩ nameless).effects
          ++ (r.runFrom ⟨⟨0, 0⟩, fun _ => 0⟩
            (nameless.withStore (l.runFrom ⟨⟨0, 0⟩, fun _ => 0⟩ nameless).store)).effects
      ∧ (t.runFrom ⟨⟨0, 0⟩, fun _ => 0⟩ nameless).effects
        = [.assign "$a" .null, .assign "$b" (.string "x")] :=
  have lowered : (Expr.assign "a" (.path "name")).lower (.ofDialect .objects)
      (.root (.record "person" [("name", .string)] false) (.ofDialect .objects)) = .ok _ _ := rfl
  have lowered' : (Expr.assign "b" (.constant (.string "x"))).lower (.ofDialect .objects) _
      = .ok _ _ := rfl
  have compared : (Predicate.comparison (.assign "a" (.path "name")) .beginsWith
      (.assign "b" (.constant (.string "x"))) .direct .none).lower (.ofDialect .objects)
      (.root (.record "person" [("name", .string)] false) (.ofDialect .objects)) = .ok _ _ := rfl
  ⟨_, _, _, _, _, rfl, (Predicate.effects_comparison rfl (Scope.isProper_root _ _) lowered lowered'
    compared (by simp) (m := nameless) rfl).1, rfl⟩

/-- Membership begins with the collection: after `($a := 'x') IN {($a := 'y')}` the variable has the
value of the left operand. -/
theorem Predicate.effects_member : ∃ (l : Target) (between : Scope) (r : Target) (last : Scope)
    (t : Target) (after : Scope) (v : Value) (m' : Memory),
    (Expr.assign "a" (.constant (.string "x"))).lower (.ofDialect .objects)
        (.root .any (.ofDialect .objects)) = .ok l between
      ∧ (Expr.list [.assign "a" (.constant (.string "y"))]).lower (.ofDialect .objects) between
        = .ok r last
      ∧ (Predicate.comparison (.assign "a" (.constant (.string "x"))) .member
          (.list [.assign "a" (.constant (.string "y"))]) .direct .none).lower (.ofDialect .objects)
        (.root .any (.ofDialect .objects)) = .ok t after
      ∧ t.eval ⟨⟨0, 0⟩, fun _ => 0⟩ nameless = .ok v m'
      ∧ (t.runFrom ⟨⟨0, 0⟩, fun _ => 0⟩ nameless).effects
        ≠ (l.runFrom ⟨⟨0, 0⟩, fun _ => 0⟩ nameless).effects
          ++ (r.runFrom ⟨⟨0, 0⟩, fun _ => 0⟩
            (nameless.withStore (l.runFrom ⟨⟨0, 0⟩, fun _ => 0⟩ nameless).store)).effects := by
  refine ⟨_, _, _, _, _, _, _, _, rfl, rfl, rfl, rfl, ?_⟩
  intro same
  have same : [Event.assign "$a" (.string "y"), .assign "$a" (.string "x")]
      = [.assign "$a" (.string "x"), .assign "$a" (.string "y")] := same
  simp at same

end PredicateLang
