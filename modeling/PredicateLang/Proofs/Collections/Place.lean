import PredicateLang.Proofs.Collections.Operator
import PredicateLang.Proofs.Integers.Arithmetic
import PredicateLang.Proofs.Mirror

/-!
# Places in a collection

The words for places in a collection are shorthands. `c[FIRST]` is `c[0]` and `c[SIZE]` is
`c.@count`. `c[LAST]` is `c[c.@count - 1]`, although the one is lowered to an operation that shares
its collection and the other lowers the collection twice: without effects, both look for the item at
the place of the last one (`Evaluation.lastPlace`) in the value of the collection.
-/

namespace PredicateLang

open Lowering Tracing

/-- The place of the last item of a collection. -/
def Evaluation.lastPlace (v : Value) : Except Error Value := do
  binary (.integer .int) .subtract (← count v) (.int 1)

/-! ## Operations on a collection -/

namespace Target

variable {subject s i t : Target} {world : World} {around : Surroundings} {store : Store}

theorem resultOf_eval (t : Target) (world : World) (memory : Memory) :
    Evaluation.resultOf (t.eval world memory) = (t.runFrom world memory).result := by
  rw [← t.outcome_runFrom, Run.outcome]
  cases (t.runFrom world memory).result <;> rfl

theorem result_elementAt (kind : Kind) (quiet : s.hasEffects = false)
    (quiet' : i.hasEffects = false) :
    ((elementAt kind s i).traced world around store).result = (do
      let v ← (s.traced world around store).result
      Evaluation.elementAt v (← (i.traced world around store).result)) := by
  simp only [traced]
  rw [(s.quiet_traced quiet).result_bind]
  refine congrArg _ (funext fun v => ?_)
  rw [(i.quiet_traced quiet').result_bind]
  exact congrArg _ (funext fun w => result_still_ofResult _)

/-- What comes of an operation on the subject, behind a guard if it needs one. -/
theorem result_guarded {node : Target → Target} {settings : Settings} {scope after : Scope}
    (run : guarded subject (fun s => return node s) settings scope = .ok t after)
    {kind : Kind} (own : ∀ s, (node s).kind = kind) (quiet : subject.hasEffects = false)
    {f : Value → Except Error Value}
    (plain : ((node subject).traced world around store).result
      = (subject.traced world around store).result >>= f)
    (inner : ∀ name v, Scope.isMadeUp name → (subject.traced world around store).result = .ok v →
      ((node (.parameter subject.kind name)).traced world (around.push name v) store).result
        = f v) :
    (t.traced world around store).result = (do
      let v ← (subject.traced world around store).result
      if needsGuard settings.dialect subject && v.isNull then .ok kind.default else f v) := by
  rw [guarded_run] at run
  cases needs : needsGuard settings.dialect subject with
  | false =>
    rw [needs] at run
    cases run
    exact plain
  | true =>
    rw [needs] at run
    cases run
    simp only [traced]
    rw [(subject.quiet_traced quiet).result_bind]
    cases gives : (subject.traced world around store).result with
    | error e => rfl
    | ok v =>
      simp only [Bind.bind, Except.bind, Bool.true_and]
      cases v.isNull with
      | true => exact congrArg (fun kind : Kind => Except.ok kind.default) (own _)
      | false => exact inner _ v (Scope.isMadeUp_madeUp "g" (scope.counter + 1)) gives

/-- The item of a collection at the place before a number. -/
def itemBefore (kind : Kind) (number source : Target) : Target :=
  .elementAt kind source (.binary (.integer .int) .subtract number (.ofValue (.int 1)))

/-- The item before the number of the items is the one at the last place. -/
theorem result_itemBefore (kind : Kind) (quiet : s.hasEffects = false) {counted : Target}
    (quiet' : counted.hasEffects = false)
    (count : (counted.traced world around store).result
      = (s.traced world around store).result >>= Evaluation.count) :
    ((itemBefore kind counted s).traced world around store).result = (do
      let v ← (s.traced world around store).result
      Evaluation.elementAt v (← Evaluation.lastPlace v)) := by
  have quiet'' : (Target.binary (.integer .int) .subtract counted (.ofValue (.int 1))).hasEffects
      = false := by
    simp [hasEffects, quiet', ofValue]
  rw [itemBefore, result_elementAt kind quiet quiet'', result_binary quiet' rfl rfl, count]
  cases (s.traced world around store).result with
  | error e => rfl
  | ok v => rfl

/-- To share the collection or to evaluate an alike tree once more makes no difference to what the
last item is. -/
theorem result_last_eq {element : Kind} {source source' counted last other : Target}
    {settings : Settings} {scope scope' after after' : Scope}
    (alike : source.Alike false .outer source')
    (count : MayGuard (.count (.integer .int)) source' counted)
    (run : guarded source (fun s => return itemBefore element (.count (.integer .int) s) s) settings
      scope = .ok last after)
    (run' : guarded source (fun s => return itemBefore element counted s) settings scope'
      = .ok other after') :
    (last.traced world around store).result = (other.traced world around store).result := by
  have quiet : source.hasEffects = false := alike.hasEffects_eq_false
  have quiet' : source'.hasEffects = false := alike.hasEffects_eq.trans quiet
  have quiet'' : counted.hasEffects = false := by
    rcases count with rfl | ⟨binding, -, rfl⟩ <;> simp [hasEffects, quiet']
  have there (name : String) (v : Value) :
      ((parameter source.kind name).traced world (around.push name v) store).result = .ok v :=
    result_lookup_push name v
  have counts {u : Target} (quiet : u.hasEffects = false) (around : Surroundings) :
      ((Target.count (.integer .int) u).traced world around store).result
        = (u.traced world around store).result >>= Evaluation.count :=
    MayGuard.result_count (.inl rfl) quiet
  have shared : (last.traced world around store).result = _ :=
    result_guarded run (fun _ => rfl) quiet
      (result_itemBefore element quiet quiet (counts quiet around)) fun name v _ _ => by
        rw [result_itemBefore element rfl rfl (counts rfl _), there]
        rfl
  have twice : (other.traced world around store).result = _ :=
    result_guarded run' (fun _ => rfl) quiet (result_itemBefore element quiet quiet''
      (by rw [count.result_count quiet', alike.result_eq])) fun name v made gives => by
        have agree := alike.follow world around _ store (Surroundings.match_push made around v)
        have same : (source'.traced world (around.push name v) store).result = .ok v :=
          agree.result.trans gives
        rw [result_itemBefore element rfl quiet'' (by rw [count.result_count quiet', same, there]),
          there]
        rfl
  exact shared.trans twice.symm

end Target

/-! ## Lowering -/

namespace Lowering

variable {settings : Settings}

/-- Where the same is in scope as before, an expression without effects is lowered again, to an
alike tree. -/
theorem exists_alike_of_lower {e : Expr} {scope scope' after : Scope} {t : Target}
    (pure : e.isPure) (proper : scope.IsProper) (same : scope'.bindings = scope.bindings)
    (run : e.lower settings scope = .ok t after) :
    ∃ t' after', e.lower settings scope' = .ok t' after' ∧ t.Alike false .outer t' := by
  have still : (false : Bool) ∨ e.isPure := .inr pure
  have named : e.mentionsOnly fun _ => true := e.mentionsOnly_of_forall fun _ => rfl
  have both := e.matches_lower still named settings scope scope' proper fun _ _ => by rw [same]
  rw [run] at both
  obtain ⟨t', after', run', -⟩ := both.exists_ok
  exact ⟨t', after', run', alike_of_lower pure proper same run run'⟩

/-- Numbers of the kind that the program counts in are brought to no other kind. -/
theorem arithmetic_ints (selector : String) {op : BinaryOp} (ne : op ≠ .power) {l r : Target}
    (own : l.kind = .integer .int) (own' : r.kind = .integer .int) :
    arithmetic selector op l r = pure (.binary (.integer .int) op l r) := by
  have accepted {t : Target} (own : t.kind = .integer .int) : numeric selector t = pure t := by
    unfold numeric
    rw [own]
    exact if_pos (.inl rfl)
  have comparable : l.makeComparable r = .ok (l, r) := if_pos (.inl (own.trans own'.symm))
  have known : ¬(l.kind.isDynamic ∨ r.kind.isDynamic) := by simp [own, own', Kind.isDynamic]
  unfold arithmetic onSharedKind
  rw [accepted own, accepted own', pure_bind, pure_bind, if_neg ne, if_neg known, comparable, ← own]
  rfl

/-- What comes of a lowered tree, if there is one. -/
def resultOf (run : EStateM.Result Error Scope Target) (object : Value) (world : World)
    (memory : Memory) : Except Error Value :=
  match run with
  | .ok t _ => (t.runFrom world (Compiled.start object memory)).result
  | .error e _ => .error e

end Lowering

namespace Expr

variable {c e e' n : Expr} {kind : Kind} {settings : Settings} {object : Value} {world : World}
  {memory : Memory}

theorem result_eq (e : Expr) (kind : Kind) (settings : Settings) (object : Value) (world : World)
    (memory : Memory) :
    e.result kind settings object world memory
      = Lowering.resultOf (e.lower settings (.root kind settings)) object world memory := by
  cases run : e.lower settings (.root kind settings) with
  | ok t after =>
    rw [result_of_lower run, Target.resultOf_eval]
    rfl
  | error error after => exact result_of_lower_error run

theorem lower_index (c i : Expr) : (c.index i).lower = lowerIndex [c, i] := by
  have known : BuiltinFunction.ofSelector? indexSelector = some ⟨indexSelector, 2, .index⟩ := by
    decide +kernel
  have found : function indexSelector [c, i].length = pure ⟨indexSelector, 2, .index⟩ :=
    function_of_known known
  rw [index, lower, found, pure_bind, if_pos rfl]

/-- Two operations on the items of a collection agree, whatever they call themselves, if they do on
every collection. -/
theorem agrees_on_collection {operation operation' : String}
    {f f' : Target → Kind → Lowering Target}
    (shape : e.lower = (do
      let source ← c.lower
      f source (← elementOf operation .collection source)))
    (shape' : e'.lower = (do
      let source ← c.lower
      f' source (← elementOf operation' .collection source)))
    (agree : ∀ source between element,
      c.lower settings (.root kind settings) = .ok source between →
      source.kind.element? = some element →
      Agrees Eq (Lowering.resultOf (f source element settings between) object world memory)
        (Lowering.resultOf (f' source element settings between) object world memory)) :
    Agrees Eq (e.result kind settings object world memory)
      (e'.result kind settings object world memory) := by
  rw [result_eq, result_eq, shape, shape']
  cases run : c.lower settings (.root kind settings) with
  | error error after =>
    rw [bind_run_of_error run, bind_run_of_error run]
    exact .error error error
  | ok source between =>
    rw [bind_run_of_ok run, bind_run_of_ok run]
    cases known : source.kind.element? with
    | none =>
      rw [elementOf_of_none known, elementOf_of_none known]
      exact .error _ _
    | some element =>
      rw [elementOf_of_some known, elementOf_of_some known, pure_bind, pure_bind]
      exact agree source between element run known

/-- A number less one, of a collection that is counted. -/
theorem lower_count_less_one (counts : n.Aggregates .count c) {scope after : Scope} {t : Target}
    {element : Kind} (run : c.lower settings scope = .ok t after)
    (known : t.kind.element? = some element) :
    ∃ counted last, Target.MayGuard (.count (.integer .int)) t counted
      ∧ (Calculation.difference.apply n (.constant (.int 1))).lower settings scope
        = .ok (.binary (.integer .int) .subtract counted (.ofValue (.int 1))) last := by
  obtain ⟨counted, last, made, guard⟩ := exists_guarded (.count (.integer .int)) t settings after
  have first : n.lower settings scope = .ok counted last := by
    obtain ⟨operation, shape⟩ := counts.lower_eq
    rw [shape, bind_run_of_ok run, Aggregation.lowerAs, elementOf_of_some known, pure_bind]
    exact made
  have both : lowerAll [n, .constant (.int 1)] settings scope
      = .ok [counted, .ofValue (.int 1)] last := by
    simp only [lowerAll]
    rw [bind_run_of_ok first]
    rfl
  have own : counted.kind = .integer .int := by
    rcases guard with rfl | ⟨binding, -, rfl⟩ <;> rfl
  refine ⟨counted, last, guard, ?_⟩
  have calls := lower_call Calculation.difference.ofSelector?_selector (by decide) both
  refine calls.trans ?_
  show arithmetic _ _ counted _ settings last = _
  rw [arithmetic_ints _ (by decide) own rfl]
  rfl

/-- The words for places in a collection are shorthands, if the collection has no effects: the first
item is the one at zero, the last one is at the number of the items less one, and the size is that
number. The values are the same, or neither is there. -/
theorem result_symbols (pure : c.isPure) (counts : n.Aggregates .count c) (kind : Kind)
    (settings : Settings) (object : Value) (world : World) (memory : Memory) :
    Agrees Eq ((c.index (.symbol .first)).result kind settings object world memory)
        ((c.index (.constant (.int 0))).result kind settings object world memory)
      ∧ Agrees Eq ((c.index (.symbol .last)).result kind settings object world memory)
        ((c.index (Calculation.difference.apply n (.constant (.int 1)))).result kind settings object
          world memory)
      ∧ Agrees Eq ((c.index (.symbol .size)).result kind settings object world memory)
        (n.result kind settings object world memory) := by
  refine ⟨?_, ?_, ?_⟩
  · exact agrees_on_collection (lower_index c _) (lower_index c _) fun _ _ _ _ _ => agrees_refl _
  · refine agrees_on_collection (lower_index c _)
      ((lower_index c _).trans (lowerIndex_of_not_symbol c nofun))
      fun source between element run known => ?_
    obtain ⟨-, proper, same⟩ := plain_of_lower pure (Scope.isProper_root kind settings) run
    obtain ⟨source', between', run', alike⟩ :=
      exists_alike_of_lower pure (Scope.isProper_root kind settings) same run
    obtain ⟨counted, last, guard, place⟩ :=
      lower_count_less_one counts run' (alike.kind_eq ▸ known)
    obtain ⟨t, after, run, -⟩ := exists_guarded
      (fun s => Target.itemBefore element (.count (.integer .int) s) s) source settings between
    obtain ⟨t', after', run', -⟩ :=
      exists_guarded (Target.itemBefore element counted) source settings last
    have shared : indexBySymbol source element .last settings between = .ok t after := run
    have twice : (do indexBy source element (← lower
        (Calculation.difference.apply n (.constant (.int 1)))) : Lowering Target) settings between
        = .ok t' after' := by
      rw [bind_run_of_ok place]
      exact run'
    rw [shared, twice]
    simp only [Lowering.resultOf, Target.runFrom, Target.result_last_eq alike guard run run']
    exact agrees_refl _
  · obtain ⟨operation, shape⟩ := counts.lower_eq
    exact agrees_on_collection (lower_index c _) shape fun _ _ _ _ _ => agrees_refl _

/-- The last item of an object without items. -/
theorem result_symbols_items : Agrees Eq
    (((path "items").index (.symbol .last)).result .any (.ofDialect .objects) (.withItems [])
      ⟨⟨0, 0⟩, fun _ => 0⟩ .empty)
    (((path "items").index (Calculation.difference.apply (pathOn (path "items") "@count")
      (.constant (.int 1)))).result .any (.ofDialect .objects) (.withItems [])
      ⟨⟨0, 0⟩, fun _ => 0⟩ .empty) :=
  (Expr.result_symbols rfl (aggregates_count _) .any (.ofDialect .objects) (.withItems [])
    ⟨⟨0, 0⟩, fun _ => 0⟩ .empty).2.1

end Expr

end PredicateLang
