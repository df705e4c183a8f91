import PredicateLang.Proofs.Alike.Outcome
import PredicateLang.Proofs.Collections.Place

/-!
# Subqueries of subqueries

`SUBQUERY(SUBQUERY(c, $x, p), $x, q)` comes to the same as `SUBQUERY(c, $x, p AND q)`, if nothing in
them has effects: to the same items in the same order, to null, or to nothing at all. The one goes
through the collection for `p` and through what is left for `q`; the other one goes through it once
and looks at both predicates of an item before the next item.
-/

namespace PredicateLang

open Lowering Tracing

/-! ## Keeping items -/

namespace Evaluation

variable {test test' : Value → Except Error Bool}

/-- The items for which the test holds. It is done for every item. -/
def keep (test : Value → Except Error Bool) : List Value → Except Error (List Value)
  | [] => return []
  | item :: rest => do
    let holds ← test item
    let kept ← keep test rest
    return if holds then item :: kept else kept

/-- The items of a collection for which the test holds; null of null. -/
def sift (test : Value → Except Error Bool) : Value → Except Error Value
  | .null => return .null
  | .array items => return .array (← keep test items)
  | other => .error (.evaluation (.unexpected .collection other.typeName))

/-- A test after another one that holds. -/
def both (test test' : Value → Except Error Bool) (item : Value) : Except Error Bool := do
  if ← test item then test' item else return false

/-- To keep items twice is to keep them once by both tests. -/
theorem keep_keep (items : List Value) :
    Agrees Eq (do keep test' (← keep test items)) (keep (both test test') items) := by
  induction items with
  | nil => exact .ok rfl
  | cons item rest ih =>
    simp only [keep, both, bind_assoc]
    cases test item with
    | error e => exact .error e e
    | ok holds =>
      cases holds with
      | false =>
        have left : Agrees Eq (keep test rest >>= keep test')
            (keep (both test test') rest >>= pure) := by
          rw [bind_pure]
          exact ih
        exact left
      | true =>
        -- Behind an item that holds, the rest is kept before the second test or after it.
        refine (agrees_swap (keep test rest) (test' item) fun kept holds => do
          let kept' ← keep test' kept
          return if holds then item :: kept' else kept').eq_trans ?_
        refine (agrees_refl (test' item)).bind fun holds _ same => ?_
        subst same
        simp only [← bind_assoc]
        refine ih.bind fun kept _ same => ?_
        subst same
        exact .ok rfl

/-- To sift a collection twice is to sift it once by both tests, and leaves a collection or null. -/
theorem sift_sift (v : Value) :
    Agrees (fun w w' => w' = w ∧ (w = .null ∨ ∃ items, w = .array items))
      (do sift test' (← sift test v)) (sift (both test test') v) := by
  cases v with
  | null => exact .ok ⟨rfl, .inl rfl⟩
  | array items =>
    have twice : (do sift test' (← sift test (.array items)))
        = (do keep test' (← keep test items)) >>= fun kept => pure (Value.array kept) := by
      simp only [sift, bind_assoc, pure_bind]
    rw [twice]
    refine (keep_keep items).bind fun kept _ same => ?_
    subst same
    exact .ok ⟨rfl, .inr ⟨kept, rfl⟩⟩
  | _ => exact .error _ _

end Evaluation

/-! ## Filters -/

section

variable {world : World} {around around' : Surroundings} {store : Store} {key : String}

/-- The results of filtering are those items for which the predicate results in truth. -/
theorem Tracing.result_filterItems {predicate : Tracing Bool} (quiet : Quiet predicate)
    (items : List Value) :
    (filterItems key predicate items world around store).result
      = Evaluation.keep (fun item => (withSlot key item predicate world around store).result)
          items := by
  induction items with
  | nil => rfl
  | cons item rest ih =>
    rw [filterItems, (quiet.withSlot key item).result_bind, Evaluation.keep]
    refine congrArg _ (funext fun holds => ?_)
    rw [(quiet.filterItems key rest).result_bind, ih]
    rfl

namespace Target

variable {s t p p' q : Target}

/-- Does the tree, taken for a predicate, hold there? -/
def holdsIn (t : Target) (world : World) (around : Surroundings) (store : Store) :
    Except Error Bool :=
  ((do still (Evaluation.truth (← t.traced)) : Tracing Bool) world around store).result

/-- Does the predicate of a filter hold for the item? -/
def holdsOf (key : String) (predicate : Target) (world : World) (around : Surroundings)
    (store : Store) (item : Value) : Except Error Bool :=
  predicate.holdsIn world ((around.push key item).enter key) store

/-- Around alike predicates, made-up names make no difference. -/
theorem Alike.holdsOf_eq (h : p.Alike false .outer p') (own : Scope.isMadeUp key = false)
    (same : Surroundings.Match .outer around around') :
    p'.holdsOf key world around' store = p.holdsOf key world around store := by
  funext item
  have outer : Naming.outer key key := ⟨rfl, own, trivial⟩
  have opens := Naming.open_self outer
  exact (((h.follow.truth.inside key key).withSlot opens item) world around around' store
    same).result

/-- Of "and" the second operand is asked for if the first one holds. -/
theorem result_andAlso (quiet : p.hasEffects = false) (quiet' : q.hasEffects = false) :
    ((binary .boolean .andAlso p q).traced world around store).result = (do
      if ← p.holdsIn world around store then
        return .boolean (← q.holdsIn world around store)
      else return .boolean false) := by
  simp only [traced]
  rw [(p.quiet_traced quiet).result_bind, holdsIn, (p.quiet_traced quiet).result_bind, bind_assoc]
  refine congrArg _ (funext fun v => ?_)
  rw [(quiet_still _).result_bind]
  refine congrArg _ (funext fun holds => ?_)
  cases holds with
  | false => rfl
  | true =>
    show ((q.traced >>= fun w => still (Evaluation.truth w) >>= fun b =>
      pure (Value.boolean b) : Tracing Value) world around store).result = _
    rw [if_pos rfl, (q.quiet_traced quiet').result_bind, holdsIn,
      (q.quiet_traced quiet').result_bind, bind_assoc]
    refine congrArg _ (funext fun w => ?_)
    rw [(quiet_still _).result_bind]
    rfl

/-- To hold by "and" is to hold by both operands. -/
theorem holdsOf_andAlso (quiet : p.hasEffects = false) (quiet' : q.hasEffects = false) :
    (binary .boolean .andAlso p q).holdsOf key world around store
      = Evaluation.both (p.holdsOf key world around store) (q.holdsOf key world around store) := by
  funext item
  have quiet'' : (binary .boolean .andAlso p q).hasEffects = false := by
    simp [hasEffects, quiet, quiet']
  rw [holdsOf, Evaluation.both, holdsOf, holdsOf]
  generalize (around.push key item).enter key = inner
  rw [holdsIn, (quiet_traced _ quiet'').result_bind, result_andAlso quiet quiet', bind_assoc]
  refine congrArg _ (funext fun holds => ?_)
  cases holds with
  | false => rfl
  | true =>
    show ((do return Value.boolean (← q.holdsIn world inner store)) >>= fun v =>
      (still (Evaluation.truth v) world inner store).result) = q.holdsIn world inner store
    rw [bind_assoc]
    exact bind_pure _

theorem result_filter (kind : Kind) (quiet : s.hasEffects = false) (quiet' : p.hasEffects = false) :
    ((filter kind s key p).traced world around store).result
      = (s.traced world around store).result >>= Evaluation.sift (p.holdsOf key world around store)
    := by
  simp only [traced]
  rw [(s.quiet_traced quiet).result_bind]
  refine congrArg _ (funext fun v => ?_)
  have kept := ((p.quiet_traced quiet').truth.inside key)
  cases v with
  | null => rfl
  | array items =>
    show ((do return Value.array (← filterItems key (inside key do
      still (Evaluation.truth (← p.traced))) items) : Tracing Value) world around store).result = _
    rw [(kept.filterItems key items).result_bind, result_filterItems kept]
    rfl
  | _ => rfl

/-- Behind a guard a filter has the same results, since nothing is left of nothing. What it calls
things in its predicate makes no difference. -/
theorem MayGuard.result_filter {kind : Kind}
    (h : MayGuard (fun s => .filter kind s key p') s t) (quiet : s.hasEffects = false)
    (alike : p.Alike false .outer p') (own : Scope.isMadeUp key = false)
    (absent : kind.default = .null) :
    (t.traced world around store).result
      = (s.traced world around store).result >>= Evaluation.sift (p.holdsOf key world around store)
    := by
  have quiet' : p'.hasEffects = false := alike.hasEffects_eq.trans alike.hasEffects_eq_false
  rcases h with rfl | ⟨name, made, rfl⟩
  · rw [Target.result_filter kind quiet quiet',
      alike.holdsOf_eq own (Surroundings.match_only _ around)]
  · simp only [traced]
    rw [(s.quiet_traced quiet).result_bind]
    refine congrArg _ (funext fun v => ?_)
    cases null : v.isNull with
    | true =>
      cases v <;> first | exact congrArg Except.ok absent | cases null
    | false =>
      show ((filter kind (parameter s.kind name) key p').traced world (around.push name v)
        store).result = _
      have there : ((parameter s.kind name).traced world (around.push name v) store).result
          = .ok v := result_lookup_push name v
      rw [Target.result_filter kind rfl quiet', there,
        alike.holdsOf_eq own (Surroundings.match_push made around v)]
      rfl

end Target

end

/-! ## Lowering -/

namespace Lowering

variable {β γ : Type} {settings : Settings} {bindings : Fields Target}

/-- The kind of the items of a collection of a kind. -/
def itemKind (kind : Kind) : Except Error Kind :=
  match kind.element? with
  | some element => .ok element
  | none => .error (.type (.demand "SUBQUERY" .collection kind))

/-- The bindings with the variable of a subquery brought into scope. -/
def bindItem (name : String) (element : Kind) (bindings : Fields Target) : Fields Target :=
  bindings.insert (Scope.variableKey name) (.parameter element (Scope.variableKey name))

/-- What comes of a collection, and then what comes of a predicate about its items. -/
def itemwise (collection : Except Error γ) (kindOf : γ → Kind) (predicate : Kind → Except Error β) :
    Except Error (γ × β) := do
  let c ← collection
  return (c, ← predicate (← itemKind (kindOf c)))

/-- Behind a collection of known kind only the predicate can fail. -/
theorem itemwise_ok {c : γ} {kindOf : γ → Kind} {predicate : Kind → Except Error β} {element : Kind}
    (known : itemKind (kindOf c) = .ok element) :
    itemwise (.ok c) kindOf predicate = (predicate element).map (c, ·) := by
  show (itemKind (kindOf c) >>= fun element => (do return (c, ← predicate element))) = _
  rw [known]
  rfl

theorem itemwise_error {c : γ} {kindOf : γ → Kind} {predicate : Kind → Except Error β} {e : Error}
    (unknown : itemKind (kindOf c) = .error e) : itemwise (.ok c) kindOf predicate = .error e := by
  show (itemKind (kindOf c) >>= fun element => (do return (c, ← predicate element))) = _
  rw [unknown]
  rfl

/-- A filter of what is related to the one with what is related to the other. -/
def Filters (name : String) (S : γ → Target → Prop) (R : β → Target → Prop) (made : γ × β)
    (t : Target) : Prop :=
  ∃ source predicate, S made.1 source ∧ R made.2 predicate
    ∧ (∃ element, source.kind.element? = some element)
    ∧ Target.MayGuard
      (fun s => .filter source.kind s (Scope.variableKey name) predicate) source t

/-- What a subquery comes to is determined by what the collection and the predicate come to. -/
theorem comes_filter {name : String} {source predicate : Lowering Target} {sources : Except Error γ}
    {S : γ → Target → Prop} {kindOf : γ → Kind} {made : Kind → Except Error β}
    {R : β → Target → Prop} (h : Comes settings bindings sources source S)
    (own : ∀ a t, S a t → t.kind = kindOf a)
    (h' : ∀ element, Comes settings (bindItem name element bindings) (made element) predicate R) :
    Comes settings bindings (itemwise sources kindOf made)
      (enclosed do filter (← source) name predicate) (Filters name S R) := by
  refine h.enclosed_bind fun a s _ related scope same => ?_
  rw [← own a s related]
  unfold itemKind enclosed
  cases known : s.kind.element? with
  | none =>
    unfold filter
    rw [elementOf_of_none known]
    exact .error _ _ _
  | some element =>
    have inner := h' element { scope with bindings := bindItem name element scope.bindings }
      (congrArg (bindItem name element) same)
    -- The scope that `enclosed` puts back is all that is left of the variable.
    have lowers : filter s name predicate settings scope
        = (predicate >>= fun predicate => guarded s fun guardedSource =>
          return .filter s.kind guardedSource (Scope.variableKey name) predicate : Lowering Target)
          settings { scope with bindings := bindItem name element scope.bindings } := by
      unfold filter
      rw [elementOf_of_some known, pure_bind]
      rfl
    rw [lowers]
    generalize run : predicate settings _ = run at inner
    show Reached bindings (Filters name S R) (do return (a, ← made element)) _
    generalize made element = made at inner ⊢
    cases inner with
    | @ok b predicate after holds =>
      obtain ⟨t, last, lowered, guard⟩ := exists_guarded
        (fun source => .filter s.kind source (Scope.variableKey name) predicate) s settings after
      rw [bind_run_of_ok run, lowered]
      exact .ok ⟨s, predicate, related, holds, ⟨element, known⟩, guard⟩ same
    | error e e' after =>
      rw [bind_run_of_error run]
      exact .error _ _ _

namespace Filters

variable {name : String} {S : γ → Target → Prop} {made : γ × Target} {t : Target}

theorem kind_eq {kindOf : γ → Kind} (h : Filters name S (Target.Alike false .outer) made t)
    (own : ∀ s, S made.1 s → s.kind = kindOf made.1) : t.kind = kindOf made.1 := by
  obtain ⟨source, predicate, related, -, -, guard⟩ := h
  rw [← own source related]
  rcases guard with rfl | ⟨_, -, rfl⟩ <;> rfl

/-- What comes of a filter, if something comes of its source, are the items of that for which the
predicate holds. -/
theorem result (h : Filters name S (Target.Alike false .outer) made t) {world : World}
    {around : Surroundings} {store : Store} {collection : Except Error Value}
    (sources : ∀ s, S made.1 s →
      s.hasEffects = false ∧ (s.traced world around store).result = collection) :
    t.hasEffects = false ∧ (t.traced world around store).result
      = collection >>= Evaluation.sift
          (made.2.holdsOf (Scope.variableKey name) world around store) := by
  obtain ⟨source, predicate, related, alike, ⟨element, known⟩, guard⟩ := h
  obtain ⟨quiet, rfl⟩ := sources source related
  have quiet' : predicate.hasEffects = false := alike.hasEffects_eq.trans alike.hasEffects_eq_false
  constructor
  · rcases guard with rfl | ⟨_, -, rfl⟩ <;> simp [Target.hasEffects, quiet, quiet']
  · exact guard.result_filter quiet alike (Scope.isMadeUp_variableKey name)
      (Kind.default_of_element? known)

end Filters

/-- A predicate about the items after another one is lowered like both of them at once. -/
theorem itemwise_itemwise (source : Except Error Target)
    (first second : Kind → Except Error Target) :
    Agrees (fun made made' => made'.1 = made.1.1
        ∧ made'.2 = Target.binary .boolean .andAlso made.1.2 made.2)
      (itemwise (itemwise source Target.kind first) (fun made => made.1.kind) second)
      (itemwise source Target.kind fun element => do
        return .binary .boolean .andAlso (← first element) (← second element)) := by
  cases source with
  | error e => exact .error e e
  | ok s =>
    cases known : itemKind s.kind with
    | error e =>
      rw [itemwise_error known, itemwise_error known]
      exact .error e e
    | ok element =>
      rw [itemwise_ok known, itemwise_ok known]
      cases first element with
      | error e => exact .error e e
      | ok a =>
        have further : itemwise (.ok (s, a)) (fun made => made.1.kind) second
            = (second element).map ((s, a), ·) := itemwise_ok known
        show Agrees _ (itemwise (.ok (s, a)) (fun made => made.1.kind) second) _
        rw [further]
        cases second element with
        | error e => exact .error e e
        | ok b => exact .ok ⟨rfl, rfl⟩

end Lowering

/-! ## Results -/

namespace Expr

variable {kind : Kind} {settings : Settings} {object : Value} {world : World} {memory : Memory}

/-- Two expressions come to related values if what they are lowered to does. -/
theorem agrees_of_comes {α α' : Type} {e e' : Expr} {made : Except Error α}
    {made' : Except Error α'} {R : α → Target → Prop} {R' : α' → Target → Prop} {T : α → α' → Prop}
    {V : Value → Value → Prop}
    (h : Comes settings (Scope.root kind settings).bindings made e.lower R)
    (h' : Comes settings (Scope.root kind settings).bindings made' e'.lower R')
    (agree : Agrees T made made')
    (same : ∀ a a' t t', T a a' → R a t → R' a' t' →
      Agrees V (t.runFrom world (Compiled.start object memory)).result
        (t'.runFrom world (Compiled.start object memory)).result) :
    Agrees V (e.result kind settings object world memory)
      (e'.result kind settings object world memory) := by
  rw [result_eq, result_eq]
  have one := h (.root kind settings) rfl
  have other := h' (.root kind settings) rfl
  generalize e.lower settings (.root kind settings) = run at one ⊢
  generalize e'.lower settings (.root kind settings) = run' at other ⊢
  cases agree with
  | error e e' =>
    cases one with
    | error => cases other with
      | error => exact .error _ _
  | ok related =>
    cases one with
    | ok holds => cases other with
      | ok holds' => exact same _ _ _ _ related holds holds'

/-- A subquery of a subquery comes to the same as one with both predicates: to the same collection,
to null, or to nothing. -/
theorem result_subquery_subquery {c : Expr} {p q : Predicate} (pure : c.isPure) (pure' : p.isPure)
    (pure'' : q.isPure) (x : String) (kind : Kind) (settings : Settings) (object : Value)
    (world : World) (memory : Memory) :
    Agrees (fun v w => w = v ∧ (v = .null ∨ ∃ items, v = .array items))
      (((c.subquery x p).subquery x q).result kind settings object world memory)
      ((c.subquery x (.compound .and [p, q])).result kind settings object world memory) := by
  have proper := Scope.isProper_root kind settings
  have source := Expr.comes_lower settings pure proper
  have predicate {r : Predicate} (pure : r.isPure) (element : Kind) :=
    r.comes_lower settings pure
      (proper.insert (.inr ⟨element, rfl, Scope.isMadeUp_variableKey x⟩))
  -- The item has one kind in both filters, since a filter keeps the kind of its collection.
  have inner := comes_filter source (fun _ _ alike => alike.kind_eq) (predicate pure')
  have kind_eq (made : Target × Target) (t : Target)
      (filters : Filters x (Target.Alike false .outer) (Target.Alike false .outer) made t) :
      t.kind = made.1.kind := filters.kind_eq fun _ alike => alike.kind_eq
  have twice := comes_filter inner kind_eq (predicate pure'')
  have once := comes_filter source (fun _ _ alike => alike.kind_eq)
    fun element => Predicate.comes_and (predicate pure' element) (predicate pure'' element)
  refine agrees_of_comes twice once (itemwise_itemwise _ _ _) ?_
  rintro ⟨⟨s, a⟩, b⟩ ⟨s', d⟩ t t' ⟨same, same'⟩ filters filters'
  dsimp only at same same'
  subst same same'
  -- Both expressions start from trees that are alike, of which the same comes.
  have sources (u : Target) (alike : s'.Alike false .outer u) :
      u.hasEffects = false ∧ (u.traced world ⟨(Compiled.start object memory).slots, []⟩
        ⟨(Compiled.start object memory).assigned, (Compiled.start object memory).drawn⟩).result
        = _ := ⟨alike.hasEffects_eq.trans alike.hasEffects_eq_false, alike.result_eq _ _ _⟩
  have left := (filters.result fun u filters => filters.result sources).2
  have right := (filters'.result sources).2
  obtain ⟨_, _, ⟨_, _, _, alike, -⟩, alike', -⟩ := filters
  rw [Target.holdsOf_andAlso alike.hasEffects_eq_false alike'.hasEffects_eq_false] at right
  rw [Target.runFrom, Target.runFrom, left, right, bind_assoc]
  exact (agrees_refl _).bind fun v _ same => same ▸ Evaluation.sift_sift v

/-- Of `1`, `5`, `3` and `9` those above `2` and below `9` are left, in their order. -/
theorem result_subquery_subquery_numbers :
    (((Expr.path "items").subquery "n"
        (.compound .and [.comparison (.var "n") .greater (.constant (.int 2)) .direct .none,
          .comparison (.var "n") .less (.constant (.int 9)) .direct .none])).result .any
        (.ofDialect .objects) (.object [("items", .array [.int 1, .int 5, .int 3, .int 9])])
        ⟨.reference, fun _ => 0⟩ .empty).toOption.any (·.strictEq (.array [.int 5, .int 3])) := by
  obtain ⟨v, twice, left⟩ := exists_of_any
    ((((Expr.path "items").subquery "n"
      (.comparison (.var "n") .greater (.constant (.int 2)) .direct .none)).subquery "n"
        (.comparison (.var "n") .less (.constant (.int 9)) .direct .none)).result .any
        (.ofDialect .objects) (.object [("items", .array [.int 1, .int 5, .int 3, .int 9])])
        ⟨.reference, fun _ => 0⟩ .empty)
    (·.strictEq (.array [.int 5, .int 3])) (by decide +kernel)
  have agree := result_subquery_subquery (c := .path "items")
    (p := .comparison (.var "n") .greater (.constant (.int 2)) .direct .none)
    (q := .comparison (.var "n") .less (.constant (.int 9)) .direct .none) rfl rfl rfl "n" .any
    (.ofDialect .objects) (.object [("items", .array [.int 1, .int 5, .int 3, .int 9])])
    ⟨.reference, fun _ => 0⟩ .empty
  rw [twice] at agree
  generalize Expr.result _ _ _ _ _ _ = once at agree ⊢
  cases agree with
  | ok same => exact same.1 ▸ left

end Expr

end PredicateLang
