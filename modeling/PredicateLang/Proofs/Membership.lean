import PredicateLang.Proofs.Quantifiers

/-!
# Membership and quantified equality

`x IN c` and `c CONTAINS x` are the same test, lowered from one end or the other. `ANY c == x` asks
the same in another way: membership casts `x` to the kind of the items, and a comparison casts the
operand whose kind is less precise. `SameMeaning` says for which items and values this makes no
difference.
-/

namespace PredicateLang

/-! ## Values -/

namespace Value

/-- Is it a whole number, or null? -/
def isWhole : Value → Bool
  | .null | .integer _ => true
  | _ => false

/-- Is it a collection, or null? -/
def isItems : Value → Bool
  | .null | .array _ => true
  | _ => false

/-- The value has been left as it is, or converted to a kind. -/
def Becomes (k : Kind) (v w : Value) : Prop := w = v ∨ v.convert? k = some w

variable {k : Kind} {v w a b : Value}

theorem toInt?_of_narrow {kind : IntegerKind} {n : Int} (h : narrow? kind n = some v) :
    v.isWhole ∧ v.toInt? = some n := by
  obtain ⟨i, known, rfl⟩ := Option.map_eq_some_iff.mp h
  exact ⟨rfl, congrArg some (Integer.val_of_ofInt? known).2⟩

/-- A whole number that becomes another integer is the same number. -/
theorem Becomes.whole {kind : IntegerKind} (h : v.Becomes (.integer kind) w) (whole : v.isWhole) :
    w.isWhole ∧ w.toInt? = v.toInt? := by
  rcases h with rfl | converted
  · exact ⟨whole, rfl⟩
  · unfold convert? at converted
    split at converted
    · cases converted
      exact ⟨whole, rfl⟩
    · cases v with
      | null => simp [Value.isNull] at *
      | integer n => exact toInt?_of_narrow converted
      | _ => cases whole

/-- Whole numbers are equal by their numbers. -/
theorem looseEq_of_isWhole (whole : a.isWhole) (whole' : b.isWhole) :
    a.looseEq b = decide (a.toInt? = b.toInt?) := by
  cases a <;> cases whole <;> cases b <;> cases whole'
  case integer.refl.integer.refl m n =>
    show (some (Ord.compare m.val n.val) == some Ordering.eq) = decide (some m.val = some n.val)
    by_cases same : m.val = n.val
    · simp [same]
    · simp [same]
  all_goals rfl

/-- Across kinds nothing is converted to a collection or to null, nor a collection to anything. -/
theorem isItems_of_convertAcross (h : v.convertAcross? k = some w) (present : v.isNull = false) :
    v.isItems = false ∧ w.isItems = false := by
  have narrowed {kind : IntegerKind} {n : Int} (h : narrow? kind n = some w) :
      w.isItems = false := by
    obtain ⟨i, -, rfl⟩ := Option.map_eq_some_iff.mp h
    rfl
  have floats {x : Float} (h : convertFloat? x k = some w) : w.isItems = false := by
    unfold convertFloat? at h
    split at h
    · obtain ⟨n, -, fits⟩ := Option.bind_eq_some_iff.mp h
      exact narrowed fits
    · cases h
      rfl
    · cases h
      rfl
    · cases h
  have strings {s : String} (h : convertString? s k = some w) : w.isItems = false := by
    unfold convertString? at h
    split at h
    · obtain ⟨g, -, rfl⟩ := Option.map_eq_some_iff.mp h
      rfl
    · obtain ⟨n, -, fits⟩ := Option.bind_eq_some_iff.mp h
      exact narrowed fits
    · obtain ⟨x, -, rfl⟩ := Option.map_eq_some_iff.mp h
      rfl
    · obtain ⟨x, -, rfl⟩ := Option.map_eq_some_iff.mp h
      rfl
    · cases h
  unfold convertAcross? at h
  split at h
  · exact ⟨rfl, narrowed h⟩
  · exact ⟨rfl, narrowed h⟩
  · cases h
  · cases h
  · cases h
    refine ⟨?_, rfl⟩
    cases v <;> simp_all [isItems, isNull]
  · exact ⟨rfl, strings h⟩
  · obtain ⟨x, number, converted⟩ := Option.bind_eq_some_iff.mp h
    refine ⟨?_, floats converted⟩
    cases v <;> first | rfl | cases number

/-- A value that becomes one of another kind stays what it is, or neither is a collection or null.
-/
theorem Becomes.items (h : v.Becomes k w) :
    w = v ∨ (v.isItems = false ∧ w.isItems = false) := by
  rcases h with rfl | converted
  · exact .inl rfl
  · unfold convert? at converted
    split at converted
    · exact .inl (Option.some.inj converted).symm
    · rename_i other
      refine .inr (isItems_of_convertAcross converted ?_)
      cases null : v.isNull with
      | true => exact absurd (.inl null) other
      | false => rfl

/-- A collection or null is equal to no value that is neither. -/
theorem looseEq_items_left (items : a.isItems) (other : b.isItems = false) :
    a.looseEq b = false := by
  cases a <;> cases items <;> cases b <;> first | rfl | cases other

theorem looseEq_items_right (other : a.isItems = false) (items : b.isItems) :
    a.looseEq b = false := by
  cases b <;> cases items <;> cases a <;> first | rfl | cases other

end Value

/-! ## Casts -/

namespace Target

variable {t u : Target} {k : Kind} {w : Value} {world : World} {around : Surroundings}
  {store : Store}

/-- The value of a cast comes from the value of the operand. -/
theorem exists_of_cast (cast : t.cast k = .ok u) (quiet : t.hasEffects = false)
    (ok : (u.traced world around store).result = .ok w) :
    ∃ v, (t.traced world around store).result = .ok v ∧ v.Becomes k w := by
  cases constant : t.constant? with
  | some value =>
    cases t with
    | constant kind value' =>
      unfold Target.cast at cast
      split at cast
      · cases cast
        exact ⟨w, ok, .inl rfl⟩
      · dsimp only at cast
        split at cast
        · cases cast
          exact ⟨w, ok, .inl rfl⟩
        · unfold castConstant at cast
          split at cast <;> cases cast
          cases ok
          exact ⟨value', rfl, .inr ‹_›⟩
    | _ => cases constant
  | none =>
    rw [cast_of_constant?_eq_none constant] at cast
    cases cast
    split at ok
    · exact ⟨w, ok, .inl rfl⟩
    · simp only [traced] at ok
      rw [(t.quiet_traced quiet).result_bind] at ok
      obtain ⟨v, value, ok⟩ := exists_of_bind_ok ok
      refine ⟨v, value, ?_⟩
      cases converted : v.convert? k with
      | some w' =>
        rw [converted] at ok
        cases ok
        exact .inr converted
      | none =>
        rw [converted] at ok
        cases ok

end Target

/-! ## One comparison -/

theorem Kind.not_castable_of_isDynamic {k : Kind} (h : k.isDynamic) : ¬k.isCastable := by
  cases k with
  | any | null => exact Bool.false_ne_true
  | _ => cases h

theorem Kind.isCastable_of_rank {k : Kind} {r : Nat} (h : k.rank? = some r) : k.isCastable := by
  rw [isCastable, h]
  rfl

/-- What membership and quantified equality have to know of an item and a value to mean the same. If
the kind of the items is less precise, then both are whole numbers of integer kinds; and if only one
of the kinds is that of collections, then what it stands for is a collection or null. -/
structure SameMeaning (element needle : Kind) (item x : Value) : Prop where
  ranked : ∀ l r, element.rank? = some l → needle.rank? = some r → l < r →
    element.isInteger ∧ needle.isInteger ∧ item.isWhole ∧ x.isWhole
  items : element.isSequence → needle.isCastable → item.isItems
  needle : needle.isSequence → element.isCastable → x.isItems

namespace SameMeaning

variable {element needle : Kind} {item x y z : Value}

/-- A whole number and an item of less precise kinds are equal whichever of them is converted. -/
theorem looseEq_whole (h : SameMeaning element needle item x) {l r : Nat}
    (rank : element.rank? = some l) (rank' : needle.rank? = some r) (less : l < r)
    (converts : item.Becomes needle y) (converts' : x.Becomes element z) :
    y.looseEq x = item.looseEq z := by
  obtain ⟨whole, whole', item_whole, x_whole⟩ := h.ranked l r rank rank' less
  cases element <;> cases whole
  cases needle <;> cases whole'
  obtain ⟨y_whole, y_same⟩ := converts.whole item_whole
  obtain ⟨z_whole, z_same⟩ := converts'.whole x_whole
  rw [Value.looseEq_of_isWhole y_whole x_whole, Value.looseEq_of_isWhole item_whole z_whole,
    y_same, z_same]

/-- A value that becomes one of another kind is still equal to no collection. -/
theorem looseEq_items {k : Kind} (items : item.isItems) (converts : x.Becomes k y) :
    item.looseEq y = item.looseEq x := by
  rcases converts.items with rfl | ⟨other, other'⟩
  · rfl
  · rw [Value.looseEq_items_left items other, Value.looseEq_items_left items other']

theorem looseEq_needle {k : Kind} (items : x.isItems) (converts : item.Becomes k y) :
    y.looseEq x = item.looseEq x := by
  rcases converts.items with rfl | ⟨other, other'⟩
  · rfl
  · rw [Value.looseEq_items_right other items, Value.looseEq_items_right other' items]

end SameMeaning

/-- Nothing is cast to its own kind, nor to a dynamic one. -/
theorem Target.eq_of_sought {element : Kind} {t u : Target}
    (kinds : element = t.kind ∨ element.isDynamic ∨ t.kind.isDynamic
      ∨ ¬(element.isCastable ∧ t.kind.isCastable))
    (sought : (if element.isCastable ∧ t.kind.isCastable then t.cast element else .ok t) = .ok u) :
    u = t := by
  by_cases castable : element.isCastable ∧ t.kind.isCastable
  · have static : t.kind = element ∨ element.isDynamic := by
      rcases kinds with same | dynamic | dynamic | other
      · exact .inl same.symm
      · exact .inr dynamic
      · exact absurd castable.2 (Kind.not_castable_of_isDynamic dynamic)
      · exact absurd castable other
    rw [if_pos castable] at sought
    unfold Target.cast at sought
    rw [if_pos static] at sought
    exact (Except.ok.inj sought).symm
  · rw [if_neg castable] at sought
    exact (Except.ok.inj sought).symm

section

variable {element : Kind} {name : String} {X X' L R : Target} {world : World}
  {around : Surroundings} {store : Store} {item x y l r : Value}

/-- An item is compared with a value as if it were looked for among the items. -/
theorem looseEq_of_compares (made : Scope.isMadeUp name) (closed : X.Alike false .outer X)
    (compared : (Target.parameter element name).Compares X L R)
    (sought : (if element.isCastable ∧ X.kind.isCastable then X.cast element else .ok X) = .ok X')
    (value : (X.traced world around store).result = .ok x)
    (value' : (X'.traced world around store).result = .ok y)
    (left : (L.traced world (around.push name item) store).result = .ok l)
    (right : (R.traced world (around.push name item) store).result = .ok r)
    (same : SameMeaning element X.kind item x) : l.looseEq r = item.looseEq y := by
  have quiet := closed.hasEffects_eq_false
  -- Under the made-up name is the item, and the value is what it was without the name.
  have is_item : ((Target.parameter element name).traced world (around.push name item)
      store).result = .ok item := Target.result_lookup_push name item
  have is_value : (X.traced world (around.push name item) store).result = .ok x :=
    (closed.agree_push made world around store item).result.trans value
  cases compared with
  | unchanged kinds =>
    obtain rfl := Target.eq_of_sought kinds sought
    cases left.symm.trans is_item
    cases right.symm.trans is_value
    cases value'.symm.trans value
    rfl
  | left rank rank' less cast =>
    -- The item is converted, where membership converts the value.
    rw [if_pos ⟨Kind.isCastable_of_rank rank, Kind.isCastable_of_rank rank'⟩] at sought
    obtain ⟨item', known, converts⟩ := Target.exists_of_cast cast rfl left
    obtain ⟨x', known', converts'⟩ := Target.exists_of_cast sought quiet value'
    cases known.symm.trans is_item
    cases known'.symm.trans value
    cases right.symm.trans is_value
    exact same.looseEq_whole rank rank' less converts converts'
  | right rank rank' less cast =>
    -- Both convert the value.
    rw [if_pos ⟨Kind.isCastable_of_rank rank, Kind.isCastable_of_rank rank'⟩] at sought
    have alike : Agrees (Target.Alike false .outer) (X.cast element) (X.cast element) :=
      Lowering.alike_cast closed
    rw [sought] at alike
    have stays := (alike.of_ok.agree_push made world around store item).result.trans value'
    cases left.symm.trans is_item
    cases cast.symm.trans sought
    cases right.symm.trans stays
    rfl
  | leftElement items castable cast =>
    have nested : X.kind.isSequence := by rw [items]; rfl
    have needle := same.needle nested castable
    rw [if_neg fun both => Target.not_castable_of_isSequence nested both.2] at sought
    cases sought
    obtain ⟨item', known, converts⟩ := Target.exists_of_cast cast rfl left
    cases known.symm.trans is_item
    cases right.symm.trans is_value
    cases value'.symm.trans value
    exact SameMeaning.looseEq_needle needle converts
  | rightElement items castable cast =>
    have nested : element.isSequence := by
      rw [show element = _ from items]
      rfl
    have collections := same.items nested castable
    rw [if_neg fun both => Target.not_castable_of_isSequence nested both.1] at sought
    cases sought
    obtain ⟨x', known, converts⟩ := Target.exists_of_cast cast quiet right
    cases known.symm.trans is_value
    cases left.symm.trans is_item
    cases value'.symm.trans value
    exact SameMeaning.looseEq_items collections converts

end

open Tracing

/-! ## Membership -/

namespace Target

variable {source needle subject t : Target} {world : World} {around : Surroundings} {store : Store}
  {items : List Value} {v : Value}

/-- The values of two trees without effects. -/
theorem exists_of_tracedAll_pair {values : List Value} (quiet : source.hasEffects = false)
    (quiet' : needle.hasEffects = false)
    (ok : (tracedAll [source, needle] world around store).result = .ok values) :
    ∃ a b, values = [a, b] ∧ (source.traced world around store).result = .ok a
      ∧ (needle.traced world around store).result = .ok b := by
  simp only [tracedAll] at ok
  rw [(source.quiet_traced quiet).result_bind] at ok
  obtain ⟨a, first, ok⟩ := exists_of_bind_ok ok
  obtain ⟨others, rest, last⟩ := Tracing.exists_of_bind ok
  rw [(needle.quiet_traced quiet').result_bind] at rest
  obtain ⟨b, second, rest⟩ := exists_of_bind_ok rest
  cases rest
  cases last
  exact ⟨a, b, rfl, first, second⟩

/-- A collection contains what one of its items is equal to. -/
theorem exists_of_contains (quiet : source.hasEffects = false) (quiet' : needle.hasEffects = false)
    (value : (source.traced world around store).result = .ok (.array items))
    (ok : ((call .boolean .contains [source, needle]).traced world around store).result = .ok v) :
    ∃ y, (needle.traced world around store).result = .ok y
      ∧ v = .boolean (items.any (·.looseEq y)) := by
  have whole : ((tracedAll [source, needle] >>= fun values => Tracing.call .contains values)
      world around store).result = .ok v := ok
  obtain ⟨values, evaluated, called⟩ := Tracing.exists_of_bind whole
  obtain ⟨a, y, rfl, first, second⟩ := exists_of_tracedAll_pair quiet quiet' evaluated
  cases first.symm.trans value
  exact ⟨y, second, (Except.ok.inj called).symm⟩

/-- Behind a guard it does too. -/
theorem MayGuard.exists_of_contains
    (h : MayGuard (fun s => .call .boolean .contains [s, needle]) subject t)
    (quiet : subject.hasEffects = false) (closed : needle.Alike false .outer needle)
    (value : (subject.traced world around store).result = .ok (.array items))
    (ok : (t.traced world around store).result = .ok v) :
    ∃ y, (needle.traced world around store).result = .ok y
      ∧ v = .boolean (items.any (·.looseEq y)) := by
  have quiet' := closed.hasEffects_eq_false
  rcases h with rfl | ⟨name, made, rfl⟩
  · exact Target.exists_of_contains quiet quiet' value ok
  · simp only [traced] at ok
    rw [(subject.quiet_traced quiet).result_bind, value] at ok
    have inner : ((call .boolean .contains [parameter subject.kind name, needle]).traced world
        (around.push name (.array items)) store).result = .ok v := ok
    have slot : ((parameter subject.kind name).traced world (around.push name (.array items))
        store).result = .ok (.array items) := result_lookup_push name (.array items)
    obtain ⟨y, found, rfl⟩ := Target.exists_of_contains rfl quiet' slot inner
    exact ⟨y, (closed.agree_push made world around store _).result.symm.trans found, rfl⟩

/-- A comparison says whether the values of its operands are equal. -/
theorem exists_of_equal {left right : Target} {b : Bool} (quiet : left.hasEffects = false)
    (quiet' : right.hasEffects = false)
    (ok : ((do still (Evaluation.truth (← (binary .boolean .equal left right).traced)) :
      Tracing Bool) world around store).result = .ok b) :
    ∃ l r, (left.traced world around store).result = .ok l
      ∧ (right.traced world around store).result = .ok r ∧ b = l.looseEq r := by
  simp only [traced] at ok
  obtain ⟨w, compared, told⟩ := Tracing.exists_of_bind ok
  rw [(left.quiet_traced quiet).result_bind] at compared
  obtain ⟨l, first, compared⟩ := exists_of_bind_ok compared
  rw [(right.quiet_traced quiet').result_bind] at compared
  obtain ⟨r, second, compared⟩ := exists_of_bind_ok compared
  rw [result_still_ofResult] at compared
  cases compared
  cases told
  exact ⟨l, r, first, second, rfl⟩

end Target

/-- There is an item for which the predicate holds, if the predicate tells of each item that it is
asked for whether it is such. -/
theorem Tracing.eq_any_of_quantifyItems {name : String} {predicate : Tracing Bool} {world : World}
    {around : Surroundings} {store : Store} {items : List Value} {holds : Value → Bool} {b : Bool}
    (quiet : Quiet predicate)
    (tells : ∀ item ∈ items, ∀ b,
      (withSlot name item predicate world around store).result = .ok b → b = holds item)
    (ok : (quantifyItems .any name predicate items world around store).result = .ok b) :
    b = items.any holds := by
  induction items with
  | nil => exact (Except.ok.inj ok).symm
  | cons item rest ih =>
    rw [quantifyItems, (quiet.withSlot name item).result_bind] at ok
    obtain ⟨told, answer, ok⟩ := exists_of_bind_ok ok
    obtain rfl := tells item List.mem_cons_self told answer
    rw [List.any_cons]
    cases known : holds item with
    | true =>
      rw [known] at ok
      exact (Except.ok.inj ok).symm
    | false =>
      rw [known] at ok
      exact ih (fun item mem => tells item (List.mem_cons_of_mem _ mem)) ok

/-! ## Lowering -/

namespace Lowering

variable {settings : Settings} {scope after : Scope} {element : Kind} {source needle t : Target}

/-- What is looked for in a collection is cast to the kind of its items, and nothing else is. -/
theorem makeComparable_of_sequence (items : source.kind = .sequence element) (needle : Target) :
    source.makeComparable needle = do return (source, ← needle.castToElement source.kind) := by
  have known : source.kind.element? = some element := congrArg Kind.element? items
  have nested : source.kind.isSequence := by rw [items]; rfl
  unfold Target.makeComparable
  split
  · rename_i early
    have other : ¬(element.isCastable ∧ needle.kind.isCastable) := by
      rintro ⟨-, castable⟩
      rcases early with same | dynamic | dynamic
      · exact Target.not_castable_of_isSequence nested (same ▸ castable)
      · rw [items] at dynamic
        cases dynamic
      · exact Kind.not_castable_of_isDynamic dynamic castable
    rw [Target.castToElement_eq known, if_neg other]
    rfl
  · rw [nested]
    cases nested' : needle.kind.isSequence with
    | false => rfl
    | true =>
      have other : ¬(element.isCastable ∧ needle.kind.isCastable) :=
        fun both => Target.not_castable_of_isSequence nested' both.2
      dsimp only
      rw [Target.castToElement_eq known, if_neg other]
      rfl

/-- Membership calls a builtin function of the collection and of what is looked for, which is cast.
-/
theorem exists_of_contains_run (known : source.kind.element? = some element)
    (quiet : source.hasEffects = false) (closed : needle.Alike false .outer needle)
    (run : contains source needle settings scope = .ok t after) :
    ∃ sought : Target, (if element.isCastable ∧ needle.kind.isCastable then needle.cast element
          else .ok needle) = .ok sought
      ∧ sought.Alike false .outer sought
      ∧ Target.MayGuard (fun s => .call .boolean .contains [s, sought]) source t := by
  -- Where the collection is of an unknown kind, nothing can be cast to it.
  have cases_run : ∃ sought, needle.castToElement source.kind = .ok sought
      ∧ (shared source fun s => shared sought fun n =>
        guarded s fun s => return .call .boolean .contains [s, n]) settings scope
      = .ok t after := by
    unfold contains at run
    by_cases nested : source.kind.isSequence
    · obtain ⟨element', items⟩ := Target.exists_of_isSequence nested
      rw [if_pos nested, makeComparable_of_sequence items] at run
      obtain ⟨⟨haystack, sought⟩, between, made, run⟩ := run_bind run
      obtain ⟨cast, rfl⟩ := ofResult_run made
      obtain ⟨u, cast, pair⟩ := exists_of_bind_ok cast
      cases pair
      exact ⟨_, cast, run⟩
    · rw [if_neg nested] at run
      refine ⟨needle, ?_, run⟩
      rw [Target.castToElement_eq known]
      cases kind : source.kind <;> rw [kind] at known nested <;> first
        | exact absurd rfl nested
        | (cases known; rfl)
        | cases known
  obtain ⟨sought, cast, run⟩ := cases_run
  have alike : Agrees (Target.Alike false .outer) (needle.castToElement source.kind)
      (needle.castToElement source.kind) := alike_castToElement closed
  rw [cast] at alike
  have closed' := alike.of_ok
  rw [shared_of_pure quiet, shared_of_pure closed'.hasEffects_eq_false] at run
  obtain ⟨t', after', run', shape⟩ :=
    exists_guarded (fun s => .call .boolean .contains [s, sought]) source settings scope
  cases run'.symm.trans run
  rw [Target.castToElement_eq known] at cast
  exact ⟨sought, cast, closed', shape⟩

/-- Quantified equality compares a made-up name with the value. -/
theorem exists_of_any_run (known : source.kind.element? = some element)
    (quiet : source.hasEffects = false) (quiet' : needle.hasEffects = false)
    (run : quantified .any .equal source needle settings scope = .ok t after) :
    ∃ (name : String) (left right : Target), Scope.isMadeUp name
      ∧ (Target.parameter element name).makeComparable needle = .ok (left, right)
      ∧ t = .quantify .boolean .any source name (.binary .boolean .equal left right) := by
  unfold quantified at run
  rw [elementOf_of_some known, pure_bind, shared_of_pure quiet, shared_of_pure quiet'] at run
  obtain ⟨name, between, fresh, run⟩ := run_bind run
  cases fresh
  obtain ⟨predicate, between', compared, run⟩ := run_bind run
  cases run
  obtain ⟨⟨left, right⟩, between'', made, compared⟩ := run_bind compared
  cases compared
  exact ⟨_, left, right, Scope.isMadeUp_madeUp "q" _, (ofResult_run made).1, rfl⟩

end Lowering

/-! ## The three tests -/

section

open Lowering

variable {settings : Settings} {scope after after' : Scope} {world : World}
  {around : Surroundings} {store : Store} {C X t t' : Target} {items : List Value}

/-- On a collection, `CONTAINS` has the answer of quantified equality for items and values of which
the two mean the same. -/
theorem any_eq_contains {element : Kind} {b b' : Bool} (known : C.kind.element? = some element)
    (closed : C.Alike false .outer C) (closed' : X.Alike false .outer X)
    (run : contains C X settings scope = .ok t after)
    (run' : quantified .any .equal C X settings scope = .ok t' after')
    (array : (C.traced world around store).result = .ok (.array items))
    (ok : (t.traced world around store).Tells b) (ok' : (t'.traced world around store).Tells b') :
    ∃ y, (X.traced world around store).result = .ok y
      ∧ ((∀ item ∈ items, SameMeaning element X.kind item y) → b' = b) := by
  have quiet := closed.hasEffects_eq_false
  have quiet' := closed'.hasEffects_eq_false
  obtain ⟨sought, cast, soughtClosed, shape⟩ := exists_of_contains_run known quiet closed' run
  obtain ⟨name, L, R, made, compared, rfl⟩ := exists_of_any_run known quiet quiet' run'
  have contained : ∃ z, (sought.traced world around store).result = .ok z
      ∧ b = items.any (·.looseEq z) := by
    rcases ok with ok | ⟨null, -⟩
    · obtain ⟨z, found, answer⟩ := shape.exists_of_contains quiet soughtClosed array ok
      exact ⟨z, found, Value.boolean.inj answer⟩
    · obtain ⟨z, -, answer⟩ := shape.exists_of_contains quiet soughtClosed array null
      cases answer
  obtain ⟨z, found, rfl⟩ := contained
  -- What is looked for has a value, and so has the value that it is cast from.
  have evaluated : ∃ y, (X.traced world around store).result = .ok y := by
    split at cast
    · obtain ⟨y, value, -⟩ := Target.exists_of_cast cast quiet' found
      exact ⟨y, value⟩
    · cases cast
      exact ⟨z, found⟩
  obtain ⟨y, value⟩ := evaluated
  refine ⟨y, value, fun same => ?_⟩
  obtain ⟨isCast, isCast'⟩ := Target.isCast_of_makeComparable compared
  have quietL : L.hasEffects = false := (Target.wraps_of_isCast isCast).hasEffects
  have quietR : R.hasEffects = false := (Target.wraps_of_isCast isCast').hasEffects.trans quiet'
  have quietPredicate : (Target.binary .boolean .equal L R).hasEffects = false := by
    simp [Target.hasEffects, quietL, quietR]
  have predicate := ((Target.binary .boolean .equal L R).quiet_traced quietPredicate).truth
  have quantifies {v : Value} (ok : ((Target.quantify .boolean .any C name
      (.binary .boolean .equal L R)).traced world around store).result = .ok v) :
      ∃ told, v = .boolean told ∧ (quantifyItems .any name
        (do still (Evaluation.truth (← (Target.binary .boolean .equal L R).traced))) items world
          around store).result = .ok told := by
    simp only [Target.traced] at ok
    rw [(C.quiet_traced quiet).result_bind, array] at ok
    have whole : ((quantifyItems .any name
        (do still (Evaluation.truth (← (Target.binary .boolean .equal L R).traced))) items
          >>= fun told => pure (Value.boolean told) : Tracing Value) world around store).result
        = .ok v := ok
    obtain ⟨told, asked, last⟩ := Tracing.exists_of_bind whole
    exact ⟨told, (Except.ok.inj last).symm, asked⟩
  have asked : (quantifyItems .any name
      (do still (Evaluation.truth (← (Target.binary .boolean .equal L R).traced))) items world
        around store).result = .ok b' := by
    rcases ok' with ok | ⟨null, -⟩
    · obtain ⟨told, answer, asked⟩ := quantifies ok
      cases answer
      exact asked
    · obtain ⟨told, answer, -⟩ := quantifies null
      cases answer
  refine Tracing.eq_any_of_quantifyItems predicate ?_ asked
  intro item mem b'' holds
  obtain ⟨l, r, left, right, rfl⟩ := Target.exists_of_equal quietL quietR holds
  exact looseEq_of_compares made closed' (Target.compares_of_makeComparable compared) cast value
    found left right (same item mem)

/-- A truth is told once. -/
theorem Run.Tells.unique {run : Run Value} {b b' : Bool} (h : run.Tells b) (h' : run.Tells b') :
    b = b' := by
  rcases h with told | ⟨null, rfl⟩ <;> rcases h' with told' | ⟨null', rfl⟩
  · exact Value.boolean.inj (Except.ok.inj (told.symm.trans told'))
  · cases told.symm.trans null'
  · cases null.symm.trans told'
  · rfl

end

section

open Lowering

variable {c x : Expr} {options : Options} {settings : Settings} {object : Kind}
  {collection member contained any : Compiled} {v : Value} {world : World}
  {memory m₀ m₁ m₂ m₃ : Memory} {items : List Value} {b b' b'' : Bool}

/-- Membership has one meaning: of a collection and a value without effects, `IN` and `CONTAINS`
have the same answer. So has quantified equality, if the kinds of the items and of the value, the
items and the value itself are such that both mean the same. -/
theorem Predicate.membership (pure : c.isPure) (pure' : x.isPure)
    (exact : options.caseInsensitive = false)
    (compiles : c.compile object none settings = .ok collection)
    (isMember : (comparison x .member c .direct options).compile object settings = .ok member)
    (isContained :
      (comparison c .contains x .direct options).compile object settings = .ok contained)
    (isAny : (comparison c .equal x .any options).compile object settings = .ok any)
    (array : collection.value v world memory = .ok (.array items) m₀)
    (ok : member.test v world memory = .ok b m₁) (ok' : contained.test v world memory = .ok b' m₂)
    (ok'' : any.test v world memory = .ok b'' m₃) :
    b = b' ∧ ∃ element needle y, collection.target.kind.element? = some element
      ∧ x.compile object none settings = .ok needle
      ∧ needle.value v world memory = .ok y memory
      ∧ ((∀ item ∈ items, SameMeaning element needle.target.kind item y) → b'' = b') := by
  have proper := Scope.isProper_root object settings
  obtain ⟨-, s₁, runC⟩ := Expr.compile_eq_ok.mp compiles
  obtain ⟨-, s₂, runMember⟩ := Predicate.compile_eq_ok.mp isMember
  obtain ⟨-, s₃, runContained⟩ := Predicate.compile_eq_ok.mp isContained
  obtain ⟨-, s₄, runAny⟩ := Predicate.compile_eq_ok.mp isAny
  rw [Predicate.lower] at runMember runContained runAny
  -- The collection and the value are lowered in one order or the other.
  obtain ⟨X₁, after₁, runX₁, restMember⟩ := run_bind runMember
  obtain ⟨C₁, after₁', runC₁, comparesMember⟩ := run_bind restMember
  obtain ⟨C₂, after₂, runC₂, restContained⟩ := run_bind runContained
  obtain ⟨X₂, after₂', runX₂, comparesContained⟩ := run_bind restContained
  obtain ⟨C₃, after₃, runC₃, restAny⟩ := run_bind runAny
  obtain ⟨X₃, after₃', runX₃, comparesAny⟩ := run_bind restAny
  cases runC.symm.trans runC₂
  cases runC.symm.trans runC₃
  cases runX₂.symm.trans runX₃
  obtain ⟨closed, properC, same⟩ := plain_of_lower pure proper runC
  obtain ⟨closedX, -, sameX⟩ := plain_of_lower pure' proper runX₁
  obtain ⟨closedX', -, -⟩ := plain_of_lower pure' properC runX₂
  have alikeC : collection.target.Alike false .outer C₁ :=
    alike_of_lower pure proper sameX runC runC₁
  have alikeX : X₂.Alike false .outer X₁ := alike_of_lower pure' properC same.symm runX₂ runX₁
  rw [comparison_direct exact] at comparesMember comparesContained
  have known : quantifier? .any = some .any := rfl
  rw [comparison_quantified known exact] at comparesAny
  -- `IN` is lowered as `CONTAINS` is.
  have both := alike_contains alikeC alikeX settings after₂' after₁' (Naming.old_only _ _ _)
  have isContains : contains C₁ X₁ settings after₁' = .ok member.target s₂ := comparesMember
  have isContains' : contains collection.target X₂ settings after₂' = .ok contained.target s₃ :=
    comparesContained
  rw [isContains, isContains'] at both
  have told : (contained.runOn v world memory).Tells b := by
    have told := Compiled.tells_of_test ok
    unfold Run.Tells Compiled.runOn Target.runFrom at told
    rw [both.of_ok.1.result_eq] at told
    exact told
  have told' := Compiled.tells_of_test ok'
  obtain ⟨element, items⟩ : ∃ element, collection.target.kind.element? = some element := by
    cases items : collection.target.kind.element? with
    | some element => exact ⟨element, rfl⟩
    | none =>
      unfold quantified at comparesAny
      rw [elementOf_of_none items] at comparesAny
      cases comparesAny
  obtain ⟨y, value, agree⟩ := any_eq_contains items closed closedX' isContains' comparesAny
    (Compiled.result_of_value array) told' (Compiled.tells_of_test ok'')
  refine ⟨told.unique told', element, ⟨X₁, settings.dialect⟩, y, items,
    Expr.compile_eq_ok.mpr ⟨rfl, after₁, runX₁⟩, ?_, ?_⟩
  · exact Compiled.value_of_result closedX.hasEffects_eq_false
      ((alikeX.result_eq _ _ _).trans value)
  · rw [show (Compiled.mk X₁ settings.dialect).target.kind = X₂.kind from alikeX.kind_eq]
    exact agree

/-- The number 5 of another kind of integers. -/
abbrev Value.longFive : Value := .integer ⟨.long, 5, by decide, by decide⟩

/-- An object with the numbers 1 and 5. -/
abbrev Value.numbers : Value := .object [("n", .array [.int 1, .int 5])]

/-- The long 5 is one of the numbers 1 and 5 in all three ways. -/
theorem Predicate.membership_long : ∃ (member contained any : Compiled) (b b' b'' : Bool),
    (comparison (.constant .longFive) .member (.path "n") .direct .none).compile .numbers
        (.ofDialect .objects) = .ok member
      ∧ (comparison (.path "n") .contains (.constant .longFive) .direct .none).compile .numbers
        (.ofDialect .objects) = .ok contained
      ∧ (comparison (.path "n") .equal (.constant .longFive) .any .none).compile .numbers
        (.ofDialect .objects) = .ok any
      ∧ member.test .numbers ⟨⟨0, 0⟩, fun _ => 0⟩ .empty = .ok b .empty
      ∧ contained.test .numbers ⟨⟨0, 0⟩, fun _ => 0⟩ .empty = .ok b' .empty
      ∧ any.test .numbers ⟨⟨0, 0⟩, fun _ => 0⟩ .empty = .ok b'' .empty
      ∧ b = b' ∧ b'' = b' := by
  obtain ⟨collection, isCollection, array⟩ : ∃ collection : Compiled,
      (Expr.path "n").compile .numbers none (.ofDialect .objects) = .ok collection
        ∧ collection.value .numbers ⟨⟨0, 0⟩, fun _ => 0⟩ .empty
          = .ok (.array [.int 1, .int 5]) .empty := ⟨_, rfl, rfl⟩
  obtain ⟨member, isMember, ok⟩ : ∃ member : Compiled,
      (comparison (.constant .longFive) .member (.path "n") .direct .none).compile .numbers
          (.ofDialect .objects) = .ok member
        ∧ member.test .numbers ⟨⟨0, 0⟩, fun _ => 0⟩ .empty = .ok true .empty := ⟨_, rfl, rfl⟩
  obtain ⟨contained, isContained, ok'⟩ : ∃ contained : Compiled,
      (comparison (.path "n") .contains (.constant .longFive) .direct .none).compile .numbers
          (.ofDialect .objects) = .ok contained
        ∧ contained.test .numbers ⟨⟨0, 0⟩, fun _ => 0⟩ .empty = .ok true .empty := ⟨_, rfl, rfl⟩
  obtain ⟨any, isAny, ok''⟩ : ∃ any : Compiled,
      (comparison (.path "n") .equal (.constant .longFive) .any .none).compile .numbers
          (.ofDialect .objects) = .ok any
        ∧ any.test .numbers ⟨⟨0, 0⟩, fun _ => 0⟩ .empty = .ok true .empty := ⟨_, rfl, rfl⟩
  obtain ⟨same, element, needle, y, known, compiled, value, agree⟩ :=
    Predicate.membership rfl rfl rfl isCollection isMember isContained isAny array ok ok' ok''
  refine ⟨member, contained, any, true, true, true, isMember, isContained, isAny, ok, ok', ok'',
    same, agree ?_⟩
  cases isCollection
  cases known
  cases compiled
  cases value
  intro item mem
  constructor
  · intro l r _ _ _
    refine ⟨rfl, rfl, ?_, rfl⟩
    rcases List.mem_cons.mp mem with rfl | mem
    · rfl
    · rcases List.mem_singleton.mp mem with rfl
      rfl
  · intro nested
    cases nested
  · intro nested
    cases nested

/-- A text is cast to an int to be looked for among ints, and an int to a text to be compared with
one: `'01' IN {1}` holds, and `ANY {1} == '01'` does not. -/
theorem Predicate.membership_text : ∃ collection member any : Compiled,
    (Expr.list [.constant (.int 1)]).isPure
      ∧ (Expr.list [.constant (.int 1)]).compile .any none (.ofDialect .objects) = .ok collection
      ∧ collection.value .null ⟨⟨0, 0⟩, fun _ => 0⟩ .empty = .ok (.array [.int 1]) .empty
      ∧ (comparison (.constant (.string "01")) .member (.list [.constant (.int 1)]) .direct
        .none).compile .any (.ofDialect .objects) = .ok member
      ∧ (comparison (.list [.constant (.int 1)]) .equal (.constant (.string "01")) .any
        .none).compile .any (.ofDialect .objects) = .ok any
      ∧ member.test .null ⟨⟨0, 0⟩, fun _ => 0⟩ .empty = .ok true .empty
      ∧ any.test .null ⟨⟨0, 0⟩, fun _ => 0⟩ .empty = .ok false .empty :=
  ⟨_, _, _, by decide, rfl, rfl, rfl, rfl, rfl, rfl⟩

end

end PredicateLang
