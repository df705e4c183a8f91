import PredicateLang.Proofs.Effects.Plain

/-!
# Quantifiers count items

`ANY c OP y` asks whether a subquery over `c` with the predicate `$k OP y` has items, and `ALL c OP
y` whether it has as many as `c`. The two are lowered to different trees: to a quantifier over a
made-up name, and to a filter behind a guard over the name of the variable. `Lowering.Counts` says
how these trees are related, `Lowering.outcomes_counted` that lowering makes them so, and
`Counts.result` that they are evaluated to the same.
-/

namespace PredicateLang

/-- What a quantifier says of a collection by the number of its items and of those that are kept. -/
def Quantifier.ofCounts (quantifier : Quantifier) (kept total : Int) : Bool :=
  match quantifier with
  | .any => 0 < kept
  | .all => kept = total

/-! ## Counting items -/

namespace Tracing

variable {a b : String} {predicate predicate' : Tracing Bool} {world : World}
  {around around' : Surroundings} {store : Store}

/-- Filtering that succeeds keeps no more items than there are, and the quantifier answers by their
number, if its predicate gives the same for each item. -/
theorem quantifyItems_of_filterItems (quiet : Quiet predicate) (quiet' : Quiet predicate')
    (same : ∀ item, (withSlot b item predicate' world around' store).result
      = (withSlot a item predicate world around store).result)
    (quantifier : Quantifier) {items kept : List Value}
    (filtered : (filterItems a predicate items world around store).result = .ok kept) :
    kept.length ≤ items.length
      ∧ (quantifyItems quantifier b predicate' items world around' store).result
        = .ok (quantifier.ofCounts kept.length items.length) := by
  induction items generalizing kept with
  | nil =>
    obtain rfl : [] = kept := Except.ok.inj filtered
    refine ⟨Nat.le_refl _, ?_⟩
    cases quantifier <;> rfl
  | cons item rest ih =>
    rw [filterItems, (quiet.withSlot a item).result_bind] at filtered
    obtain ⟨keep, holds, filtered⟩ := exists_of_bind_ok filtered
    rw [(quiet.filterItems a rest).result_bind] at filtered
    obtain ⟨others, filtered', last⟩ := exists_of_bind_ok filtered
    obtain ⟨le, answer⟩ := ih filtered'
    obtain rfl : (if keep then item :: others else others) = kept := Except.ok.inj last
    have holds' : (withSlot b item predicate' world around' store).result = .ok keep :=
      (same item).trans holds
    constructor
    · split <;> simp only [List.length_cons] <;> omega
    · rw [quantifyItems, (quiet'.withSlot b item).result_bind, holds']
      -- The quantifier goes on unless the item decides.
      cases quantifier <;> cases keep
      case all.false =>
        have less : (others.length : Int) ≠ (item :: rest).length := by
          simp only [List.length_cons]
          omega
        exact congrArg (fun b => Except.ok b) (decide_eq_false less).symm
      case any.true =>
        have some : (0 : Int) < (item :: others).length := Int.natCast_pos.mpr (Nat.succ_pos _)
        exact congrArg (fun b => Except.ok b) (decide_eq_true some).symm
      case all.true =>
        refine answer.trans ?_
        simp [Quantifier.ofCounts]
      case any.false => exact answer

end Tracing

open Tracing

/-! ## Operations behind guards -/

namespace Target

variable {subject t : Target} {world : World} {around : Surroundings} {store : Store}

/-- Counting is the same with a guard and without, since nothing counts as no items. -/
theorem MayGuard.result_count (h : MayGuard (.count (.integer .int)) subject t)
    (quiet : subject.hasEffects = false) :
    (t.traced world around store).result
      = (subject.traced world around store).result >>= Evaluation.count := by
  rcases h with rfl | ⟨name, -, rfl⟩
  · simp only [traced]
    rw [(subject.quiet_traced quiet).result_bind]
    simp only [result_still_ofResult]
  · simp only [traced]
    rw [(subject.quiet_traced quiet).result_bind]
    congr 1
    funext v
    cases null : v.isNull with
    | true => cases v <;> first | rfl | cases null
    | false =>
      show ((do still (.ofResult (Evaluation.count (← lookup name))) : Tracing Value) world
        (around.push name v) store).result = _
      rw [(quiet_lookup name).result_bind, result_lookup_push]
      exact result_still_ofResult _

/-- The items of a value are there, or the value is null. -/
theorem exists_of_items? {v : Value} {found : Option (List Value)}
    (ok : (still (Evaluation.items? v) world around store).result = .ok found) :
    (v = .null ∧ found = none) ∨ ∃ items, v = .array items ∧ found = some items := by
  cases v with
  | null =>
    cases ok
    exact .inl ⟨rfl, rfl⟩
  | array items =>
    cases ok
    exact .inr ⟨items, rfl, rfl⟩
  | _ => cases ok

/-- A filter that has a value filters the items of its source, or its source is null. -/
theorem exists_of_filter {kind : Kind} {source predicate : Target} {key : String} {v : Value}
    (quiet : source.hasEffects = false)
    (ok : ((filter kind source key predicate).traced world around store).result = .ok v) :
    ((source.traced world around store).result = .ok .null ∧ v = .null)
      ∨ ∃ items kept, (source.traced world around store).result = .ok (.array items)
        ∧ v = .array kept
        ∧ (filterItems key (inside key do still (Evaluation.truth (← predicate.traced))) items
            world around store).result = .ok kept := by
  simp only [traced] at ok
  rw [(source.quiet_traced quiet).result_bind] at ok
  obtain ⟨collection, value, ok⟩ := exists_of_bind_ok ok
  rw [(quiet_still _).result_bind] at ok
  obtain ⟨found, known, ok⟩ := exists_of_bind_ok ok
  rcases exists_of_items? known with ⟨rfl, rfl⟩ | ⟨items, rfl, rfl⟩
  · exact .inl ⟨value, (Except.ok.inj ok).symm⟩
  · obtain ⟨kept, filtered, last⟩ := Tracing.exists_of_bind ok
    exact .inr ⟨items, kept, value, (Except.ok.inj last).symm, filtered⟩

/-- Behind a guard a filter does so in surroundings with one more made-up name. -/
theorem MayGuard.exists_of_filter {kind : Kind} {key : String} {predicate : Target} {v : Value}
    (h : MayGuard (fun source => .filter kind source key predicate) subject t)
    (quiet : subject.hasEffects = false) (absent : kind.default = .null)
    (ok : (t.traced world around store).result = .ok v) :
    ((subject.traced world around store).result = .ok .null ∧ v = .null)
      ∨ ∃ items kept around', (subject.traced world around store).result = .ok (.array items)
        ∧ v = .array kept ∧ Surroundings.Match .outer around' around
        ∧ (filterItems key (inside key do still (Evaluation.truth (← predicate.traced))) items
            world around' store).result = .ok kept := by
  rcases h with rfl | ⟨name, made, rfl⟩
  · rcases Target.exists_of_filter quiet ok with null | ⟨items, kept, value, rfl, filtered⟩
    · exact .inl null
    · exact .inr ⟨items, kept, around, value, rfl, Surroundings.match_only _ around, filtered⟩
  · simp only [traced] at ok
    rw [(subject.quiet_traced quiet).result_bind] at ok
    obtain ⟨a, value, ok⟩ := exists_of_bind_ok ok
    cases null : a.isNull with
    | true =>
      rw [null, if_pos rfl] at ok
      refine .inl ⟨?_, (Except.ok.inj ok).symm.trans absent⟩
      cases a <;> first | exact value | cases null
    | false =>
      rw [null] at ok
      have inner : ((filter kind (parameter subject.kind name) key predicate).traced world
          (around.push name a) store).result = .ok v := ok
      rcases Target.exists_of_filter rfl inner with ⟨absent, -⟩ | ⟨items, kept, same, rfl, filtered⟩
      · obtain rfl : a = .null := Except.ok.inj ((result_lookup_push name a).symm.trans absent)
        cases null
      · obtain rfl : a = .array items :=
          Except.ok.inj ((result_lookup_push name a).symm.trans same)
        exact .inr ⟨items, kept, around.push name (.array items), value, rfl,
          (Surroundings.match_push made around _).symm, filtered⟩

end Target

/-- A number of items as a value. -/
theorem Evaluation.exists_of_countValue {n : Nat} {v : Value} (ok : countValue n = .ok v) :
    ∃ i : Integer, v = .integer i ∧ i.val = n := by
  unfold countValue at ok
  split at ok <;> cases ok
  rename_i narrowed
  obtain ⟨i, known, rfl⟩ := Option.map_eq_some_iff.mp narrowed
  exact ⟨i, rfl, (Integer.val_of_ofInt? known).2⟩

/-- What stands for a collection is nothing if it is absent. -/
theorem Kind.default_of_element? {kind element : Kind} (known : kind.element? = some element) :
    kind.default = .null := by
  cases kind with
  | any | sequence => rfl
  | _ => cases known

/-- Of two trees the one filters the items of a source, and the other one puts a quantifier on them,
with alike predicates. -/
def Counts (quantifier : Quantifier) (source filtered quantified : Target) : Prop :=
  (∃ element, source.kind.element? = some element)
    ∧ ∃ (key name : String) (predicate predicate' : Target),
    predicate.Alike false (Naming.outer.push key name) predicate'
      ∧ Target.MayGuard (fun s => .filter source.kind s key predicate) source filtered
      ∧ quantified = .quantify .boolean quantifier source name predicate'

namespace Counts

variable {quantifier : Quantifier} {source filtered quantified counted total : Target} {v w : Value}
  {world : World} {around : Surroundings} {store : Store}

theorem kind_eq (h : Counts quantifier source filtered quantified) :
    filtered.kind = source.kind := by
  obtain ⟨-, key, name, predicate, predicate', -, shape, -⟩ := h
  rcases shape with rfl | ⟨_, -, rfl⟩ <;> rfl

theorem hasEffects_eq_false (h : Counts quantifier source filtered quantified)
    (quiet : source.hasEffects = false) :
    filtered.hasEffects = false ∧ quantified.hasEffects = false := by
  obtain ⟨-, key, name, predicate, predicate', alike, shape, rfl⟩ := h
  have pure := alike.hasEffects_eq_false
  have pure' := alike.hasEffects_eq.trans pure
  constructor
  · rcases shape with rfl | ⟨_, -, rfl⟩ <;> simp [Target.hasEffects, quiet, pure]
  · simp [Target.hasEffects, quiet, pure']

/-- The quantifier answers by the numbers of the items that are kept and of all items. -/
theorem result (h : Counts quantifier source filtered quantified)
    (quiet : source.hasEffects = false)
    (counts : Target.MayGuard (.count (.integer .int)) filtered counted)
    (counts' : Target.MayGuard (.count (.integer .int)) source total)
    (ok : (counted.traced world around store).result = .ok v)
    (ok' : (total.traced world around store).result = .ok w) :
    ∃ n m : Integer, v = .integer n ∧ w = .integer m
      ∧ (quantified.traced world around store).result
        = .ok (.boolean (quantifier.ofCounts n.val m.val)) := by
  obtain ⟨quiet', -⟩ := h.hasEffects_eq_false quiet
  obtain ⟨⟨element, known⟩, key, name, predicate, predicate', alike, shape, rfl⟩ := h
  rw [counts.result_count quiet'] at ok
  rw [counts'.result_count quiet] at ok'
  obtain ⟨a, kept_value, ok⟩ := exists_of_bind_ok ok
  obtain ⟨b, value, ok'⟩ := exists_of_bind_ok ok'
  simp only [Target.traced]
  rw [(source.quiet_traced quiet).result_bind]
  rcases shape.exists_of_filter quiet (Kind.default_of_element? known) kept_value with
    ⟨null, rfl⟩ | ⟨items, kept, around', array, rfl, match', filtered⟩
  · obtain rfl : b = .null := Except.ok.inj (value.symm.trans null)
    obtain rfl : Value.int 0 = v := Except.ok.inj ok
    obtain rfl : Value.int 0 = w := Except.ok.inj ok'
    refine ⟨_, _, rfl, rfl, ?_⟩
    rw [null]
    cases quantifier <;> rfl
  · obtain rfl : b = .array items := Except.ok.inj (value.symm.trans array)
    obtain ⟨n, rfl, is_kept⟩ := Evaluation.exists_of_countValue ok
    obtain ⟨m, rfl, is_all⟩ := Evaluation.exists_of_countValue ok'
    refine ⟨n, m, rfl, rfl, ?_⟩
    rw [is_kept, is_all]
    have pure : Quiet predicate.traced := predicate.quiet_traced alike.hasEffects_eq_false
    have pure' : Quiet predicate'.traced :=
      predicate'.quiet_traced (alike.hasEffects_eq.trans alike.hasEffects_eq_false)
    have opens := Naming.open_push .outer key name
    have same (item : Value) :
        (withSlot name item (do still (Evaluation.truth (← predicate'.traced))) world around
            store).result
          = (withSlot key item (inside key do still (Evaluation.truth (← predicate.traced))) world
            around' store).result := by
      have m := opens around' around item match'
      exact (alike.follow.truth world ((around'.push key item).enter key) _ store
        ⟨m.unique, m.same, m.unbound⟩).result
    obtain ⟨-, answer⟩ := quantifyItems_of_filterItems (pure.truth.inside key) pure'.truth same
      quantifier filtered
    rw [array]
    show ((do return .boolean (← quantifyItems quantifier name _ items) : Tracing Value) world
      around store).result = _
    rw [(pure'.truth.quantifyItems quantifier name items).result_bind, answer]
    rfl

end Counts

/-! ## Lowering -/

namespace Lowering

variable {settings : Settings} {options : Options} {operator : Operator}
  {left right subject : Target}

/-- The path that counts the items. -/
theorem keyPath_count {element : Kind} (known : subject.kind.element? = some element) :
    keyPath subject "@count" = count subject := by
  have one : segments "@count" = ["@count"] := by decide
  unfold keyPath
  rw [one]
  show (follow subject [] >>= fun s => collectionOperator s "count") = _
  rw [show follow subject [] = pure subject from rfl, pure_bind]
  unfold collectionOperator elementOf
  simp only [known]
  rfl

/-! ## The two trees -/

section Counted

variable {scope : Scope} {modifier : Modifier} {quantifier : Quantifier} {c y : Expr} {k : String}
  {source : Target}

/-- What only the variable stood for, the made-up name stands for, and all else is left as it is. -/
theorem extend_item {made : String} (up : Scope.isMadeUp made) :
    (Naming.keys (· ≠ k)).Extend (Naming.outer.push (Scope.variableKey k) made) := by
  rintro x _ ⟨rfl, outer, named⟩
  refine .inr ⟨?_, Scope.ne_of_isMadeUp outer up, rfl, outer, trivial⟩
  rintro rfl
  simpa using named k rfl

theorem old_item (counter counter' : Nat) :
    (Naming.outer.push (Scope.variableKey k) (Scope.madeUp "q" (counter' + 1))).Old counter
      (counter' + 1) := by
  rintro x y (⟨rfl, rfl⟩ | ⟨-, -, join⟩)
  · exact ⟨by simp, fun _ => ⟨"q", _, rfl, Nat.le_refl _, rfl⟩⟩
  · exact Naming.old_only _ _ _ x y join

/-- Of the same source and the same operand, a filter with the comparison of the variable and a
quantified comparison are lowered to trees of which the one counts for the other, or neither is. -/
theorem outcomes_counted (settings : Settings) (operator : Operator)
    (known : quantifier? modifier = some quantifier) (exact : options.caseInsensitive = false)
    (pure : y.isPure)
    (avoids : y.mentionsOnly (· ≠ k)) (quiet : source.hasEffects = false)
    (proper : scope.IsProper) :
    Outcomes (Counts quantifier source) (fun _ _ => True)
      (filter source k (Predicate.comparison (.var k) operator y .direct options).lower settings
        scope)
      ((do comparison operator modifier options source (← y.lower)) settings scope) := by
  have quantifies (r : Target) : comparison operator modifier options source r
      = quantified quantifier operator source r := comparison_quantified known exact
  simp only [quantifies]
  cases items : source.kind.element? with
  | none =>
    -- The one asks for a collection before it looks at the operand, the other one after it.
    have fails : filter source k (Predicate.comparison (.var k) operator y .direct options).lower
        = typeFault (.demand "SUBQUERY" .collection source.kind) := by
      unfold filter
      rw [elementOf_of_none items]
      rfl
    rw [fails]
    cases lowered : y.lower settings scope with
    | error e after =>
      rw [bind_run_of_error lowered]
      exact .error _ _ _ _
    | ok r between =>
      rw [bind_run_of_ok lowered]
      unfold quantified
      rw [elementOf_of_none items]
      exact .error _ _ _ _
  | some element =>
    have key : Scope.variableKey k = "$" ++ k := rfl
    -- In the subquery the variable stands for the item.
    let inner : Scope :=
      ⟨scope.bindings.insert (Scope.variableKey k) (.parameter element (Scope.variableKey k)),
        scope.counter⟩
    have agree : inner.AgreeOn (· ≠ k) scope := by
      intro name named
      refine (Fields.find?_insert_of_ne _ _ ?_).symm
      rintro rfl
      simpa using named k rfl
    have proper' : inner.IsProper := proper.insert (.inr ⟨element, rfl, by simp⟩)
    have filters : filter source k
          (Predicate.comparison (.var k) operator y .direct options).lower settings scope
        = (do
            let r ← y.lower
            let predicate ←
              compare operator (.parameter element (Scope.variableKey k)) r
            guarded source fun s =>
              return .filter source.kind s (Scope.variableKey k) predicate) settings inner := by
      have item : (Expr.var k).lower settings inner
          = .ok (.parameter element (Scope.variableKey k)) inner := by
        show reference k settings inner = _
        unfold reference
        have found : binding? (Scope.variableKey k) settings inner
            = .ok (some (.parameter element (Scope.variableKey k))) inner :=
          congrArg (EStateM.Result.ok · inner) (Fields.find?_insert_self _ _ _)
        rw [bind_run_of_ok found]
        rfl
      have predicate : (Predicate.comparison (.var k) operator y .direct options).lower
          = (do
            let l ← (Expr.var k).lower
            let r ← y.lower
            compare operator l r) := by
        rw [Predicate.lower]
        simp only [comparison_direct exact]
      unfold filter
      rw [elementOf_of_some items, pure_bind, predicate]
      show (_ >>= _ : Lowering Target) settings inner = _
      rw [bind_assoc, bind_run_of_ok item, bind_assoc]
    rw [filters]
    have still : (false : Bool) ∨ y.isPure := .inr pure
    refine (y.matches_lower still avoids settings inner scope proper' agree).bind ?_
    rintro r r' between between' alike -
    -- Neither operand has effects, so that neither is shared.
    have quiet' : r'.hasEffects = false := alike.hasEffects_eq.trans alike.hasEffects_eq_false
    unfold quantified
    rw [elementOf_of_some items, pure_bind, shared_of_pure quiet, shared_of_pure quiet']
    have up : Scope.isMadeUp (Scope.madeUp "q" (between'.counter + 1)) :=
      Scope.isMadeUp_madeUp _ _
    have compared := alike_compare operator
      (.parameter element (Naming.push_self .outer (Scope.variableKey k) _))
      (alike.extend (extend_item up)) settings between
      { between' with counter := between'.counter + 1 } (old_item _ _)
    refine compared.bind ?_
    rintro predicate predicate' last last' alike -
    obtain ⟨t, after, run, shape⟩ := exists_guarded
      (fun s => .filter source.kind s (Scope.variableKey k) predicate) source settings last
    rw [run]
    exact .ok ⟨⟨element, items⟩, _, _, predicate, predicate', alike, shape, rfl⟩ trivial

/-- So are a subquery and a quantified comparison. -/
theorem outcomes_subquery (settings : Settings) (operator : Operator)
    (known : quantifier? modifier = some quantifier) (exact : options.caseInsensitive = false)
    (pure : c.isPure) (pure' : y.isPure)
    (avoids : y.mentionsOnly (· ≠ k)) (proper : scope.IsProper) :
    Outcomes
      (fun t t' => ∃ source between, c.lower settings scope = .ok source between
        ∧ source.hasEffects = false ∧ Counts quantifier source t t')
      (fun _ _ => True)
      ((Expr.subquery c k (.comparison (.var k) operator y .direct options)).lower settings scope)
      ((Predicate.comparison c operator y modifier options).lower settings scope) := by
  have compares : (Predicate.comparison c operator y modifier options).lower
      = c.lower >>= fun l => y.lower >>= fun r => comparison operator modifier options l r := by
    rw [Predicate.lower]
  rw [compares, Expr.lower]
  unfold enclosed
  cases lowered : c.lower settings scope with
  | error e after =>
    rw [bind_run_of_error lowered, bind_run_of_error lowered]
    exact .error _ _ _ _
  | ok source between =>
    obtain ⟨alike, proper', -⟩ := plain_of_lower pure proper lowered
    have quiet := alike.hasEffects_eq_false
    have both := outcomes_counted settings operator known exact pure' avoids quiet proper'
    rw [bind_run_of_ok lowered, bind_run_of_ok lowered]
    generalize filter source k _ settings between = run at both
    generalize (y.lower >>= _ : Lowering Target) settings between = run' at both
    cases both with
    | ok counts _ => exact .ok ⟨source, between, rfl, quiet, counts⟩ trivial
    | error e e' after after' => exact .error _ _ _ _

end Counted

end Lowering

open Lowering

/-! ## Compiled trees -/

section

variable {c y : Expr} {k : String} {operator : Operator} {options : Options} {settings : Settings}

/-- The items of a collection for which a comparison holds. -/
abbrev Expr.itemsWith (c : Expr) (k : String) (operator : Operator) (y : Expr) (options : Options) :
    Expr :=
  .subquery c k (.comparison (.var k) operator y .direct options)

/-- A quantified comparison can be compiled if and only if the subquery can. -/
theorem compiles_iff_itemsWith {modifier : Modifier} {quantifier : Quantifier}
    (known : quantifier? modifier = some quantifier) (exact : options.caseInsensitive = false)
    (pure : c.isPure) (pure' : y.isPure) (avoids : y.mentionsOnly (· ≠ k)) (object : Kind) :
    (∃ q, (Predicate.comparison c operator y modifier options).compile object settings = .ok q)
      ↔ ∃ s, (c.itemsWith k operator y options).compile object none settings = .ok s := by
  have both := outcomes_subquery settings operator known exact pure pure' avoids
    (Scope.isProper_root object settings)
  constructor
  · rintro ⟨q, compiled⟩
    obtain ⟨-, after, run⟩ := Predicate.compile_eq_ok.mp compiled
    rw [run] at both
    generalize ran : (c.itemsWith k operator y options).lower settings _ = other at both
    cases both with
    | ok => exact ⟨⟨_, _⟩, Expr.compile_eq_ok.mpr ⟨rfl, _, ran⟩⟩
  · rintro ⟨s, compiled⟩
    obtain ⟨-, after, run⟩ := Expr.compile_eq_ok.mp compiled
    rw [run] at both
    obtain ⟨t, last, ran, -⟩ := both.exists_ok
    exact ⟨⟨t, _⟩, Predicate.compile_eq_ok.mpr ⟨rfl, last, ran⟩⟩

/-- What follows `@count` is lowered to: the number of the items of what the operand is lowered to.
-/
theorem exists_of_count {e : Expr} {t : Target} {scope after : Scope}
    (run : (e.pathOn "@count").lower settings scope = .ok t after) :
    ∃ operand between, e.lower settings scope = .ok operand between
      ∧ ∀ element, operand.kind.element? = some element →
        Target.MayGuard (.count (.integer .int)) operand t := by
  rw [Expr.lower] at run
  obtain ⟨operand, between, lowered, run⟩ := run_bind run
  refine ⟨operand, between, lowered, fun element known => ?_⟩
  rw [keyPath_count known] at run
  obtain ⟨t', after', run', shape⟩ :=
    exists_guarded (.count (.integer .int)) operand settings between
  cases run'.symm.trans run
  exact shape

/-- If the number of items for which a comparison holds and that of all items can be compiled, then
so can the quantified comparison, and it answers by their values. -/
theorem exists_quantified {modifier : Modifier} {quantifier : Quantifier}
    (known : quantifier? modifier = some quantifier) (exact : options.caseInsensitive = false)
    (pure : c.isPure) (pure' : y.isPure) (avoids : y.mentionsOnly (· ≠ k)) {object : Kind}
    {counted total : Compiled}
    (counts : ((c.itemsWith k operator y options).pathOn "@count").compile object none settings
      = .ok counted)
    (counts' : (c.pathOn "@count").compile object none settings = .ok total) :
    ∃ q, (Predicate.comparison c operator y modifier options).compile object settings = .ok q
      ∧ ∀ v world memory n m after after',
        counted.value v world memory = .ok n after → total.value v world memory = .ok m after' →
          ∃ i j : Integer, n = .integer i ∧ m = .integer j
            ∧ q.test v world memory = .ok (quantifier.ofCounts i.val j.val) memory := by
  obtain ⟨-, last, run⟩ := Expr.compile_eq_ok.mp counts
  obtain ⟨-, last', run'⟩ := Expr.compile_eq_ok.mp counts'
  obtain ⟨filtered, between, lowered, shape⟩ := exists_of_count run
  obtain ⟨source, between', lowered', shape'⟩ := exists_of_count run'
  have both := outcomes_subquery settings operator known exact pure pure' avoids
    (Scope.isProper_root object settings)
  rw [lowered] at both
  obtain ⟨t, after, ran, ⟨source', between'', lowered'', quiet, answers⟩, -⟩ := both.exists_ok
  cases lowered'.symm.trans lowered''
  obtain ⟨element, items⟩ := answers.1
  have shape := shape element (answers.kind_eq ▸ items)
  have shape' := shape' element items
  refine ⟨⟨t, settings.dialect⟩, Predicate.compile_eq_ok.mpr ⟨rfl, after, ran⟩, ?_⟩
  intro v world memory n m after after' value value'
  obtain ⟨i, j, rfl, rfl, answer⟩ := answers.result quiet shape shape'
    (Compiled.result_of_value value) (Compiled.result_of_value value')
  exact ⟨i, j, rfl, rfl, Compiled.test_of_result (answers.hasEffects_eq_false quiet).2 answer⟩

/-- Quantifiers agree with subqueries: whenever the number of the items of a collection for which a
comparison holds and the number of all items have values, `ANY` asks whether the first is positive
and `ALL` whether they are the same; and a quantified comparison can be compiled if and only if the
subquery can. -/
theorem Predicate.quantified_counts (pure : c.isPure) (pure' : y.isPure)
    (avoids : y.mentionsOnly (· ≠ k)) (exact : options.caseInsensitive = false) (object : Kind) :
    (∀ modifier ≠ .direct,
      (∃ q, (Predicate.comparison c operator y modifier options).compile object settings = .ok q)
        ↔ ∃ s, (c.itemsWith k operator y options).compile object none settings = .ok s)
      ∧ ∀ counted total,
        ((c.itemsWith k operator y options).pathOn "@count").compile object none settings
            = .ok counted →
          (c.pathOn "@count").compile object none settings = .ok total →
            ∃ any all,
              (Predicate.comparison c operator y .any options).compile object settings = .ok any
                ∧ (Predicate.comparison c operator y .all options).compile object settings = .ok all
                ∧ ∀ v world memory n m after after',
                  counted.value v world memory = .ok n after →
                    total.value v world memory = .ok m after' →
                      ∃ i j : Integer, n = .integer i ∧ m = .integer j
                        ∧ any.test v world memory = .ok (decide (0 < i.val)) memory
                        ∧ all.test v world memory = .ok (decide (i.val = j.val)) memory := by
  constructor
  · intro modifier quantified
    cases modifier with
    | direct => exact absurd rfl quantified
    | all =>
      have known : quantifier? .all = some .all := rfl
      exact compiles_iff_itemsWith known exact pure pure' avoids object
    | any =>
      have known : quantifier? .any = some .any := rfl
      exact compiles_iff_itemsWith known exact pure pure' avoids object
  · intro counted total counts counts'
    have known : quantifier? .any = some .any := rfl
    have known' : quantifier? .all = some .all := rfl
    obtain ⟨any, compiled, anyAnswers⟩ :=
      exists_quantified known exact pure pure' avoids counts counts'
    obtain ⟨all, compiled', allAnswers⟩ :=
      exists_quantified known' exact pure pure' avoids counts counts'
    refine ⟨any, all, compiled, compiled', ?_⟩
    intro v world memory n m after after' value value'
    obtain ⟨i, j, rfl, rfl, some⟩ := anyAnswers v world memory _ _ _ _ value value'
    obtain ⟨i', j', same, same', every⟩ := allAnswers v world memory _ _ _ _ value value'
    cases same
    cases same'
    exact ⟨i, j, rfl, rfl, some, every⟩

/-- A record of numbers. -/
abbrev Kind.numbers : Kind := .record "sample" [("n", .sequence (.integer .int))] false

/-- Of the numbers 1 and 5 one is less than 3: `ANY n < 3` holds, and `ALL n < 3` does not. -/
theorem Predicate.quantified_counts_less : ∃ any all : Compiled,
    (Predicate.comparison (.path "n") .less (.constant (.int 3)) .any .none).compile .numbers
        (.ofDialect .objects) = .ok any
      ∧ (Predicate.comparison (.path "n") .less (.constant (.int 3)) .all .none).compile .numbers
        (.ofDialect .objects) = .ok all
      ∧ any.test (.object [("n", .array [.int 1, .int 5])]) ⟨⟨0, 0⟩, fun _ => 0⟩ .empty
        = .ok true .empty
      ∧ all.test (.object [("n", .array [.int 1, .int 5])]) ⟨⟨0, 0⟩, fun _ => 0⟩ .empty
        = .ok false .empty := by
  have counted : (((Expr.path "n").itemsWith "k" .less (.constant (.int 3)) .none).pathOn
      "@count").compile .numbers none (.ofDialect .objects) = .ok _ := rfl
  have total : ((Expr.path "n").pathOn "@count").compile .numbers none (.ofDialect .objects)
      = .ok _ := rfl
  obtain ⟨any, all, compiled, compiled', answers⟩ :=
    (Predicate.quantified_counts (c := .path "n") (y := .constant (.int 3)) (k := "k") rfl rfl rfl
      rfl .numbers).2 _ _ counted total
  obtain ⟨i, j, same, same', some, every⟩ :=
    answers (.object [("n", .array [.int 1, .int 5])]) ⟨⟨0, 0⟩, fun _ => 0⟩ .empty (.int 1)
      (.int 2) _ _ rfl rfl
  cases same
  cases same'
  exact ⟨any, all, compiled, compiled', some, every⟩

end

end PredicateLang
