import PredicateLang.Proofs.Guid
import PredicateLang.Proofs.Membership
import PredicateLang.Proofs.Mirror
import PredicateLang.Proofs.Sql.StringTests

/-!
# Constants and properties

A comparison of constants is lowered with its operands converted already; of properties it is
converted when it is evaluated. The kinds decide what is converted, so both convert the same operand
to the same kind, and compare the same values.

Between strings and GUIDs it is only constants that are converted. A string property is compared as
a text with the text of a GUID, which comes to the same if it is spelled like that text.
-/

open PredicateLang.Lowering PredicateLang.Target

namespace PredicateLang

/-! ## Which operand is cast -/

/-- What two operands of the kinds `l` and `r` are cast to when they are compared. -/
inductive Kind.Meets (l r : Kind) : Kind → Kind → Prop where
  | neither : Meets l r l r
  | left {m n : Nat} (rank : l.rank? = some m) (rank' : r.rank? = some n) (less : m < n) :
    Meets l r r r
  | right {m n : Nat} (rank : l.rank? = some m) (rank' : r.rank? = some n) (le : n ≤ m) :
    Meets l r l l
  | leftElement {element : Kind} (items : r = .sequence element) : Meets l r element r
  | rightElement {element : Kind} (items : l = .sequence element) : Meets l r l element

namespace Target

variable {l r : Kind}

/-- Operands of these kinds, if they can be compared at all, are cast to the kinds `k` and `k'`. -/
def CastTo (l r k k' : Kind) (compared : Target → Target → Except Error (Target × Target)) : Prop :=
  ∀ t s t' s', t.kind = l → s.kind = r → compared t s = .ok (t', s') →
    t.cast k = .ok t' ∧ s.cast k' = .ok s'

theorem CastTo.neither {compared : Target → Target → Except Error (Target × Target)}
    (h : ∀ t s t' s', t.kind = l → s.kind = r → compared t s = .ok (t', s') → t' = t ∧ s' = s) :
    CastTo l r l r compared := by
  rintro t s t' s' rfl rfl made
  obtain ⟨rfl, rfl⟩ := h t s t' s' rfl rfl made
  exact ⟨cast_self _, cast_self _⟩

theorem exists_castTo_scalars (l r : Kind) :
    ∃ k k', Kind.Meets l r k k' ∧ CastTo l r k k' makeScalarsComparable := by
  unfold makeScalarsComparable
  cases rank : l.rank? with
  | none =>
    refine ⟨l, r, .neither, .neither ?_⟩
    rintro t s t' s' rfl rfl made
    rw [rank] at made
    split at made
    · cases ‹none = some _›
    · cases made
      exact ⟨rfl, rfl⟩
    · split at made <;> cases made
      exact ⟨rfl, rfl⟩
  | some m =>
    cases rank' : r.rank? with
    | none =>
      refine ⟨l, r, .neither, .neither ?_⟩
      rintro t s t' s' rfl rfl made
      simp only [rank, rank'] at made
      split at made <;> cases made
      exact ⟨rfl, rfl⟩
    | some n =>
      rcases Nat.lt_or_ge m n with less | le
      · refine ⟨r, r, .left rank rank' less, ?_⟩
        rintro t s t' s' rfl rfl made
        simp only [rank, rank', if_pos less] at made
        obtain ⟨u, cast, made⟩ := exists_of_bind_ok made
        cases made
        exact ⟨cast, cast_self _⟩
      · refine ⟨l, l, .right rank rank' le, ?_⟩
        rintro t s t' s' rfl rfl made
        simp only [rank, rank', if_neg (Nat.not_lt_of_le le)] at made
        obtain ⟨u, cast, made⟩ := exists_of_bind_ok made
        cases made
        exact ⟨cast_self _, cast⟩

/-- What is looked for is cast to the kind of the items or to its own. -/
theorem cast_of_castToElement {element : Kind} {t t' : Target}
    (made : t.castToElement (.sequence element) = .ok t') :
    t.cast (if element.isCastable ∧ t.kind.isCastable then element else t.kind) = .ok t' := by
  rw [castToElement_eq rfl] at made
  split at made
  · rwa [if_pos ‹_›]
  · rw [if_neg ‹_›, cast_self]
    exact made

/-- The kinds alone decide what is cast to what. -/
theorem exists_castTo (l r : Kind) :
    ∃ k k', Kind.Meets l r k k' ∧ CastTo l r k k' makeComparable := by
  by_cases early : l = r ∨ l.isDynamic ∨ r.isDynamic
  · refine ⟨l, r, .neither, .neither ?_⟩
    rintro t s t' s' rfl rfl made
    rw [makeComparable, if_pos early] at made
    cases made
    exact ⟨rfl, rfl⟩
  cases items : l.isSequence <;> cases items' : r.isSequence
  case false.false =>
    obtain ⟨k, k', meets, casts⟩ := exists_castTo_scalars l r
    refine ⟨k, k', meets, ?_⟩
    rintro t s t' s' rfl rfl made
    rw [makeComparable, if_neg early, items, items'] at made
    exact casts t s t' s' rfl rfl made
  case true.true =>
    refine ⟨l, r, .neither, .neither ?_⟩
    rintro t s t' s' rfl rfl made
    rw [makeComparable, if_neg early, items, items'] at made
    cases made
    exact ⟨rfl, rfl⟩
  case true.false =>
    obtain ⟨element, rfl⟩ := exists_of_isSequence items
    refine ⟨.sequence element, if element.isCastable ∧ r.isCastable then element else r, ?_, ?_⟩
    · split
      · exact .rightElement rfl
      · exact .neither
    · rintro t s t' s' same rfl made
      rw [makeComparable, same, if_neg early, items'] at made
      obtain ⟨u, cast, made⟩ := exists_of_bind_ok made
      cases made
      exact ⟨same ▸ cast_self _, cast_of_castToElement cast⟩
  case false.true =>
    obtain ⟨element, rfl⟩ := exists_of_isSequence items'
    refine ⟨if element.isCastable ∧ l.isCastable then element else l, .sequence element, ?_, ?_⟩
    · split
      · exact .leftElement rfl
      · exact .neither
    · rintro t s t' s' rfl same made
      rw [makeComparable, same, if_neg early, items] at made
      obtain ⟨u, cast, made⟩ := exists_of_bind_ok made
      cases made
      exact ⟨cast_of_castToElement cast, same ▸ cast_self _⟩

/-! ## The value of a cast -/

section

variable {kind k : Kind} {v x : Value} {t u : Target} {world : World} {around : Surroundings}
  {store : Store}

/-- A constant has the converted value after a cast. -/
theorem convert?_of_cast_constant (cast : (constant (.ofValue v) v).cast k = .ok u)
    (ok : (u.traced world around store).result = .ok x) : v.convert? k = some x := by
  unfold Target.cast at cast
  split at cast
  · rename_i same
    cases cast
    cases ok
    exact if_pos (.inr same.symm)
  · dsimp only at cast
    split at cast
    · rename_i null
      cases cast
      cases ok
      exact if_pos (.inl null)
    · unfold castConstant at cast
      split at cast <;> cases cast
      cases ok
      assumption

/-- Any tree of the kind of its value has the converted value after a cast, or its own one if
strings and GUIDs meet. -/
theorem convert?_of_cast (cast : t.cast k = .ok u) (quiet : t.hasEffects = false)
    (kind : t.kind = .ofValue v) (value : (t.traced world around store).result = .ok v)
    (ok : (u.traced world around store).result = .ok x) :
    v.convert? k = some x ∨ x = v ∧ isStringWithGuid (.ofValue v) k := by
  cases is : t.constant? with
  | some w =>
    cases t with
    | constant kind' w' =>
      cases value
      subst kind
      exact .inl (convert?_of_cast_constant cast ok)
    | _ => cases is
  | none =>
    rw [cast_of_constant?_eq_none is, kind] at cast
    cases cast
    split at ok
    · rename_i kept
      obtain rfl : v = x := Except.ok.inj (value.symm.trans ok)
      rcases kept with same | dynamic | mixed
      · exact .inl (if_pos (.inr (.inr same)))
      · exact .inl (if_pos (.inr (.inl dynamic)))
      · exact .inr ⟨rfl, mixed⟩
    · simp only [traced] at ok
      rw [(t.quiet_traced quiet).result_bind, value] at ok
      refine .inl ?_
      cases converted : v.convert? k with
      | some w =>
        simp only [Bind.bind, Except.bind, converted] at ok
        cases ok
        rfl
      | none =>
        simp only [Bind.bind, Except.bind, converted] at ok
        cases ok

end

end Target

/-! ## Comparisons of what is converted -/

/-- A GUID is spelled as its text, letter case aside, if the string is one at all. -/
def Guid.IsSpelling (s : String) : Prop :=
  ∀ g, Guid.ofText? (Text.trim s.toList) = some g → Text.lower s = g.text

/-- If one of the values is a GUID and the other a string, then a GUID is spelled as its text. -/
def Value.Spelled (v w : Value) : Prop :=
  ∀ s g, v = .string s ∧ w = .guid g ∨ v = .guid g ∧ w = .string s → Guid.IsSpelling s

namespace Evaluation

/-- Whether a value is in order with a collection does not depend on what the value is, unless it is
a collection too. -/
theorem comparison?_items (op : BinaryOp) (items : List Value) {x y : Value}
    (other : x.isItems = false) (other' : y.isItems = false) :
    comparison? op (.array items) x = comparison? op (.array items) y
      ∧ comparison? op x (.array items) = comparison? op y (.array items) := by
  have plain {x : Value} (other : x.isItems = false) :
      (Value.array items).looseEq x = false ∧ x.looseEq (.array items) = false
        ∧ (Value.array items).compare x = none ∧ x.compare (.array items) = none := by
    refine ⟨Value.looseEq_items_left rfl other, Value.looseEq_items_right other rfl, ?_, ?_⟩
    · cases x <;> rfl
    · cases x <;> rfl
  obtain ⟨equal, equal', order, order'⟩ := plain other
  obtain ⟨equal₂, equal₂', order₂, order₂'⟩ := plain other'
  cases op <;> simp only [comparison?, equal, equal', order, order', equal₂, equal₂', order₂,
    order₂', and_self]

/-- So it does not depend on what the value has been converted to. -/
theorem comparison?_becomes (op : BinaryOp) (items : List Value) {k : Kind} {v x y : Value}
    (h : v.Becomes k x) (h' : v.Becomes k y) :
    comparison? op (.array items) x = comparison? op (.array items) y
      ∧ comparison? op x (.array items) = comparison? op y (.array items) := by
  rcases h.items with rfl | ⟨scalar, other⟩
  · rcases h'.items with rfl | ⟨scalar, other⟩
    · exact ⟨rfl, rfl⟩
    · exact comparison?_items op items scalar other
  · rcases h'.items with rfl | ⟨-, other'⟩
    · exact comparison?_items op items other scalar
    · exact comparison?_items op items other other'

/-- A string that is spelled like the GUID that it is read as is in the order of that GUID. -/
theorem comparison?_spelled (op : BinaryOp) {s : String} {g h : Guid} (spelled : Guid.IsSpelling s)
    (read : (Value.string s).convert? .guid = some (.guid h)) :
    comparison? op (.string s) (.guid g) = comparison? op (.guid h) (.guid g)
      ∧ comparison? op (.guid g) (.string s) = comparison? op (.guid g) (.guid h) := by
  have text : Text.lower s = h.text := by
    refine spelled h ?_
    obtain ⟨h', found, is⟩ := Option.map_eq_some_iff.mp read
    cases is
    exact found
  have order : (Value.string s).compare (.guid g) = (Value.guid h).compare (.guid g) := by
    show some (compare (Text.lower s) g.text) = some (compare h.bits.toNat g.bits.toNat)
    rw [text, Guid.compare_text]
  have order' : (Value.guid g).compare (.string s) = (Value.guid g).compare (.guid h) := by
    show some (compare g.text (Text.lower s)) = some (compare g.bits.toNat h.bits.toNat)
    rw [text, Guid.compare_text]
  have equal : (Value.string s).looseEq (.guid g) = (Value.guid h).looseEq (.guid g) :=
    congrArg (· == some Ordering.eq) order
  have equal' : (Value.guid g).looseEq (.string s) = (Value.guid g).looseEq (.guid h) :=
    congrArg (· == some Ordering.eq) order'
  cases op <;> simp only [comparison?, equal, equal', order, order', and_self]

/-- What a value is compared as if it is converted to a kind: the converted value, or itself if
strings and GUIDs meet. -/
def ComparedAs (k : Kind) (v x : Value) : Prop :=
  v.convert? k = some x ∨ x = v ∧ Target.isStringWithGuid (.ofValue v) k

theorem ComparedAs.becomes {k : Kind} {v x : Value} (h : ComparedAs k v x) : v.Becomes k x := by
  rcases h with converted | ⟨rfl, -⟩
  · exact .inr converted
  · exact .inl rfl

theorem ComparedAs.eq_self {v x : Value} (h : ComparedAs (.ofValue v) v x) : x = v := by
  rcases h with converted | ⟨rfl, -⟩
  · rw [Value.convert?, if_pos (.inr (.inr rfl))] at converted
    exact (Option.some.inj converted).symm
  · rfl

/-- Where a value is compared as itself, it is a string and a GUID is asked for, or the other way
round. -/
theorem ComparedAs.eq_or_mixed {k : Kind} {v v' x : Value} (h : ComparedAs k v x)
    (converted : v.convert? k = some v') :
    x = v' ∨ x = v ∧ ((∃ s, v = .string s) ∧ k = .guid ∨ (∃ g, v = .guid g) ∧ k = .string) := by
  refine h.imp (fun also => ?_) (And.imp_right fun mixed => ?_)
  · exact Option.some.inj (also.symm.trans converted)
  · unfold Target.isStringWithGuid at mixed
    split at mixed
    · rename_i is
      cases v <;> cases is
      exact .inl ⟨⟨_, rfl⟩, rfl⟩
    · rename_i is
      cases v <;> cases is
      exact .inr ⟨⟨_, rfl⟩, rfl⟩
    · cases mixed

theorem exists_guid_of_convert? {s : String} {v : Value}
    (read : (Value.string s).convert? .guid = some v) : ∃ h, v = .guid h := by
  obtain ⟨h, -, rfl⟩ := Option.map_eq_some_iff.mp read
  exact ⟨h, rfl⟩

/-- It makes no difference to a comparison whether strings that are spelled like GUIDs are read as
GUIDs. -/
theorem comparison?_converted (op : BinaryOp) {v w v' w' x y : Value} {k k' : Kind}
    (meets : Kind.Meets (.ofValue v) (.ofValue w) k k') (spelled : v.Spelled w)
    (left : v.convert? k = some v') (right : w.convert? k' = some w')
    (left' : ComparedAs k v x) (right' : ComparedAs k' w y) :
    comparison? op x y = comparison? op v' w' := by
  cases meets with
  | neither =>
    have left : ComparedAs _ v v' := .inl left
    have right : ComparedAs _ w w' := .inl right
    rw [left.eq_self, left'.eq_self, right.eq_self, right'.eq_self]
  | left rank rank' less =>
    have right : ComparedAs _ w w' := .inl right
    rw [right.eq_self, right'.eq_self]
    rcases left'.eq_or_mixed left with rfl | ⟨rfl, ⟨⟨s, rfl⟩, guid⟩ | ⟨⟨g, rfl⟩, string⟩⟩
    · rfl
    · cases w <;> cases guid
      obtain ⟨h, rfl⟩ := exists_guid_of_convert? left
      exact (comparison?_spelled op (spelled s _ (.inl ⟨rfl, rfl⟩)) left).1
    · -- A GUID is more precise than a string.
      rw [string] at rank'
      cases rank
      cases rank'
      cases Nat.not_lt_of_le (by decide) less
  | right rank rank' le =>
    have left : ComparedAs _ v v' := .inl left
    rw [left.eq_self, left'.eq_self]
    rcases right'.eq_or_mixed right with rfl | ⟨rfl, ⟨⟨s, rfl⟩, guid⟩ | ⟨⟨g, rfl⟩, string⟩⟩
    · rfl
    · cases v <;> cases guid
      obtain ⟨h, rfl⟩ := exists_guid_of_convert? right
      exact (comparison?_spelled op (spelled s _ (.inr ⟨rfl, rfl⟩)) right).2
    · rw [string] at rank
      cases rank
      cases rank'
      cases Nat.not_le_of_lt (by decide) le
  | leftElement items =>
    have right : ComparedAs _ w w' := .inl right
    rw [right.eq_self, right'.eq_self]
    cases w <;> cases items
    exact (comparison?_becomes op _ left'.becomes (.inr left)).2
  | rightElement items =>
    have left : ComparedAs _ v v' := .inl left
    rw [left.eq_self, left'.eq_self]
    cases v <;> cases items
    exact (comparison?_becomes op _ right'.becomes (.inr right)).1

end Evaluation

/-! ## Comparisons of operands -/

namespace Lowering

variable {settings : Settings} {scope after : Scope} {o : BinaryOp} {t s u : Target}
  {v w : Value} {world : World} {around : Surroundings} {store : Store} {b : Bool}

/-- Order and equality are operations that always have an answer. -/
theorem exists_relation {op : Operator} (relational : op.isRelational) :
    ∃ o : BinaryOp, compare op = relate o ∧ o.isConnective = false
      ∧ ∀ v w, (Evaluation.comparison? o v w).isSome := by
  cases op <;> cases relational <;> exact ⟨_, rfl, rfl, fun _ _ => rfl⟩

/-- What a comparison of operands without effects tells is about the values of the operands that
they are made comparable to. -/
theorem exists_of_relate (strict : o.isConnective = false)
    (answers : ∀ v w, (Evaluation.comparison? o v w).isSome) (quiet : t.hasEffects = false)
    (quiet' : s.hasEffects = false) (run : relate o t s settings scope = .ok u after)
    (tells : (u.traced world around store).Tells b) :
    ∃ t' s' x y, t.makeComparable s = .ok (t', s') ∧ (t'.traced world around store).result = .ok x
      ∧ (s'.traced world around store).result = .ok y
      ∧ Evaluation.comparison? o x y = some b := by
  obtain ⟨⟨t', s'⟩, between, made, run⟩ := run_bind run
  cases run
  replace made := (ofResult_run made).1
  obtain ⟨cast, cast'⟩ := Target.isCast_of_makeComparable made
  have quiet : t'.hasEffects = false := (Target.wraps_of_isCast cast).hasEffects.trans quiet
  have quiet' : s'.hasEffects = false := (Target.wraps_of_isCast cast').hasEffects.trans quiet'
  obtain ⟨z, result, told⟩ : ∃ z, ((Target.binary .boolean o t' s').traced world around
      store).result = .ok z ∧ (z = .boolean b ∨ z = .null ∧ b = false) := by
    rcases tells with ok | ⟨ok, rfl⟩
    · exact ⟨_, ok, .inl rfl⟩
    · exact ⟨_, ok, .inr ⟨rfl, rfl⟩⟩
  have whole := result
  rw [Target.result_binary quiet quiet' strict] at result
  obtain ⟨x, left, result⟩ := exists_of_bind_ok result
  obtain ⟨y, right, result⟩ := exists_of_bind_ok result
  refine ⟨t', s', x, y, made, left, right, ?_⟩
  obtain ⟨answer, known⟩ := Option.isSome_iff_exists.mp (answers x y)
  unfold Evaluation.binary at result
  rw [known] at result
  cases result
  rcases told with told | ⟨null, -⟩
  · cases told
    exact known
  · cases null

/-- Operands of a kind that is not known are compared as they are. -/
theorem makeComparable_of_isDynamic (dynamic : t.kind.isDynamic ∨ s.kind.isDynamic) :
    t.makeComparable s = .ok (t, s) := by
  rw [Target.makeComparable, if_pos (.inr dynamic)]

/-- The kind of a property with a value in a sample object. -/
def propertyKind (v : Value) : Kind := if v.isNull then .any else .ofValue v

theorem isDynamic_propertyKind (null : v.isNull) : (propertyKind v).isDynamic := by
  rw [propertyKind, if_pos null]
  rfl

theorem isDynamic_ofValue (null : v.isNull) : (Target.ofValue v).kind.isDynamic := by
  cases v <;> cases null
  rfl

theorem property_of_first (v w : Value) :
    (Kind.ofValue (.object [("a", v), ("b", w)])).property "a" = .ok (propertyKind v) := by
  cases v <;> cases w <;> rfl

theorem property_of_second (v w : Value) :
    (Kind.ofValue (.object [("a", v), ("b", w)])).property "b" = .ok (propertyKind w) := by
  cases v <;> cases w <;> rfl

/-- A comparison of constants and one of operands that have the same values tell the same. -/
theorem relate_constants_eq (strict : o.isConnective = false)
    (answers : ∀ v w, (Evaluation.comparison? o v w).isSome) (spelled : v.Spelled w)
    {settings' : Settings} {scope' after' : Scope} {u' : Target} {world' : World}
    {around' : Surroundings} {store' : Store} {b' : Bool}
    (run : relate o (.ofValue v) (.ofValue w) settings scope = .ok u after)
    (tells : (u.traced world around store).Tells b) (quiet : t.hasEffects = false)
    (quiet' : s.hasEffects = false) (kind : t.kind = propertyKind v)
    (kind' : s.kind = propertyKind w)
    (value : (t.traced world' around' store').result = .ok v)
    (value' : (s.traced world' around' store').result = .ok w)
    (run' : relate o t s settings' scope' = .ok u' after')
    (tells' : (u'.traced world' around' store').Tells b') : b = b' := by
  obtain ⟨c, d, v', w', made, left, right, answer⟩ :=
    exists_of_relate strict answers rfl rfl run tells
  obtain ⟨t', s', x, y, made', left', right', answer'⟩ :=
    exists_of_relate strict answers quiet quiet' run' tells'
  suffices same : Evaluation.comparison? o x y = Evaluation.comparison? o v' w' by
    rw [answer, answer'] at same
    exact (Option.some.inj same).symm
  by_cases null : v.isNull ∨ w.isNull
  · have constants : (Target.ofValue v).kind.isDynamic ∨ (Target.ofValue w).kind.isDynamic :=
      null.imp isDynamic_ofValue isDynamic_ofValue
    have properties : t.kind.isDynamic ∨ s.kind.isDynamic := by
      rw [kind, kind']
      exact null.imp isDynamic_propertyKind isDynamic_propertyKind
    rw [makeComparable_of_isDynamic constants] at made
    rw [makeComparable_of_isDynamic properties] at made'
    cases made
    cases made'
    cases left
    cases right
    rw [value] at left'
    rw [value'] at right'
    cases left'
    cases right'
    rfl
  · rw [not_or] at null
    rw [propertyKind, if_neg null.1] at kind
    rw [propertyKind, if_neg null.2] at kind'
    obtain ⟨k, k', meets, casts⟩ := Target.exists_castTo (.ofValue v) (.ofValue w)
    obtain ⟨cast, cast'⟩ := casts _ _ _ _ rfl rfl made
    obtain ⟨castP, castP'⟩ := casts _ _ _ _ kind kind' made'
    exact Evaluation.comparison?_converted o meets spelled
      (Target.convert?_of_cast_constant cast left) (Target.convert?_of_cast_constant cast' right)
      (Target.convert?_of_cast castP quiet kind value left')
      (Target.convert?_of_cast castP' quiet' kind' value' right')

end Lowering

/-! ## Predicates -/

namespace Predicate

variable {v w : Value} {op : Operator} {settings : Settings} {kind : Kind}
  {constants properties : Compiled} {x : Value} {world world' : World}
  {memory after memory' after' : Memory} {b b' : Bool}

theorem compare_run {e e' : Expr} {scope between after last : Scope} {t s u : Target}
    (run : (comparison e op e' .direct .none).lower settings scope = .ok u last)
    (left : e.lower settings scope = .ok t between)
    (right : e'.lower settings between = .ok s after) :
    compare op t s settings after = .ok u last := by
  rw [lower, bind_run_of_ok left, bind_run_of_ok right, comparison_direct rfl] at run
  exact run

/-- What a property of the object is lowered to. -/
theorem exists_lower_property {name : String} (single : segments name = [name])
    (proper : isProperty name) {property : Kind} (known : kind.property name = .ok property)
    {scope : Scope}
    (found : scope.bindings.find? Scope.objectName = some (.parameter kind Scope.objectName)) :
    ∃ t after, (Expr.path name).lower settings scope = .ok t after ∧ t.kind = property
      ∧ t.hasEffects = false
      ∧ ∀ (world : World) (store : Store) (object v : Value), object.field? name = some v →
        (t.traced world (Surroundings.push ⟨[], []⟩ Scope.objectName object) store).result
          = .ok v := by
  have properties : ∀ segment ∈ segments name, isProperty segment := by
    simpa [single] using proper
  have kinds : (segments name).foldlM Kind.property kind = .ok property := by
    rw [single, List.foldlM_cons, known]
    rfl
  obtain ⟨t, after, run, same, leads⟩ : ∃ t after, (Expr.path name).lower settings scope
      = .ok t after ∧ t.kind = property
      ∧ (Target.parameter kind Scope.objectName).Leads settings.dialect (segments name) t :=
    Expr.exists_lower_path properties kinds found
  refine ⟨t, after, run, same, leads.effects rfl, fun world store object v field => ?_⟩
  refine leads.value rfl world _ store object v
    (Target.result_lookup_push Scope.objectName object) ?_
  rw [single]
  simpa using field

/-- A comparison of two constants and the same comparison of two properties with these values, if
both have an answer, have the same one. If one of the values is a GUID and the other one a string,
then the string has to be spelled like the text of the GUID that it is read as. -/
theorem test_constants_eq (relational : op.isRelational) (spelled : v.Spelled w)
    (folded : (comparison (.constant v) op (.constant w) .direct .none).compile kind settings
      = .ok constants)
    (computed : (comparison (.path "a") op (.path "b") .direct .none).compile
      (.ofValue (.object [("a", v), ("b", w)])) settings = .ok properties)
    (told : constants.test x world memory = .ok b after)
    (told' : properties.test (.object [("a", v), ("b", w)]) world' memory' = .ok b' after') :
    b = b' := by
  obtain ⟨o, lowered, strict, answers⟩ := exists_relation relational
  obtain ⟨-, last, run⟩ := compile_eq_ok.mp folded
  replace run := compare_run run rfl rfl
  obtain ⟨-, last', run'⟩ := compile_eq_ok.mp computed
  have root := Scope.find?_root_object (.ofValue (.object [("a", v), ("b", w)])) settings
  obtain ⟨t, between, first, kindA, quiet, value⟩ :=
    exists_lower_property (by decide +kernel) (by decide +kernel) (property_of_first v w) root
  have kept := (plain_of_lower rfl (Scope.isProper_root _ settings) first).2.2
  obtain ⟨s, between', second, kindB, quiet', value'⟩ :=
    exists_lower_property (by decide +kernel) (by decide +kernel) (property_of_second v w)
      (kept ▸ root)
  replace run' := compare_run run' first second
  rw [lowered] at run run'
  exact relate_constants_eq strict answers spelled run (Compiled.tells_of_test told) quiet quiet'
    kindA kindB (value _ _ _ v rfl) (value' _ _ _ w rfl) run' (Compiled.tells_of_test told')

/-- A predicate with an answer has been compiled and evaluated. -/
theorem exists_of_answer? {p : Predicate} {object : Value}
    (h : p.answer? kind settings object world memory = some b) :
    ∃ c after, p.compile kind settings = .ok c ∧ c.test object world memory = .ok b after := by
  unfold answer? at h
  split at h
  · rename_i c compiled
    unfold Compiled.answer? at h
    split at h <;> cases h
    exact ⟨c, _, compiled, ‹_›⟩
  · cases h

/-- A GUID and a string that is its text in capital letters. -/
theorem test_constants_eq_capitals : ∃ (g : Guid) (s : String) (constants properties : Compiled)
    (b b' : Bool) (after after' : Memory), (Value.guid g).Spelled (.string s)
      ∧ (comparison (.constant (.guid g)) .equal (.constant (.string s)) .direct .none).compile .any
        (.ofDialect .objects) = .ok constants
      ∧ (comparison (.path "a") .equal (.path "b") .direct .none).compile
        (.ofValue (.object [("a", .guid g), ("b", .string s)])) (.ofDialect .objects)
        = .ok properties
      ∧ constants.test .null ⟨.reference, fun _ => 0⟩ .empty = .ok b after
      ∧ properties.test (.object [("a", .guid g), ("b", .string s)]) ⟨.reference, fun _ => 0⟩ .empty
        = .ok b' after'
      ∧ b = b' := by
  have spelled : (Value.guid ⟨0x6f9619ff8b86d011b42d00c04fc964ff⟩).Spelled
      (.string "6F9619FF-8B86-D011-B42D-00C04FC964FF") := by
    have read : Guid.ofText? (Text.trim "6F9619FF-8B86-D011-B42D-00C04FC964FF".toList)
        = some ⟨0x6f9619ff8b86d011b42d00c04fc964ff⟩ := by decide +kernel
    rintro s g (⟨is, is'⟩ | ⟨is, is'⟩) <;> cases is
    cases is'
    intro h same
    rw [read] at same
    cases same
    decide +kernel
  have answer : (comparison (.constant (.guid ⟨0x6f9619ff8b86d011b42d00c04fc964ff⟩)) .equal
      (.constant (.string "6F9619FF-8B86-D011-B42D-00C04FC964FF")) .direct .none).answer? .any
      (.ofDialect .objects) .null ⟨.reference, fun _ => 0⟩ .empty = some true := by
    decide +kernel
  have answer' : (comparison (.path "a") .equal (.path "b") .direct .none).answer?
      (.ofValue (.object [("a", .guid ⟨0x6f9619ff8b86d011b42d00c04fc964ff⟩),
        ("b", .string "6F9619FF-8B86-D011-B42D-00C04FC964FF")])) (.ofDialect .objects)
      (.object [("a", .guid ⟨0x6f9619ff8b86d011b42d00c04fc964ff⟩),
        ("b", .string "6F9619FF-8B86-D011-B42D-00C04FC964FF")]) ⟨.reference, fun _ => 0⟩ .empty
      = some true := by
    decide +kernel
  obtain ⟨constants, after, folded, told⟩ := exists_of_answer? answer
  obtain ⟨properties, after', computed, told'⟩ := exists_of_answer? answer'
  exact ⟨_, _, constants, properties, true, true, after, after', spelled, folded, computed, told,
    told', test_constants_eq rfl spelled folded computed told told'⟩

/-- Of a string without hyphens a constant is read as a GUID, and a property is not. -/
theorem answer?_constants_ne :
    (comparison (.constant (.guid ⟨0x6f9619ff8b86d011b42d00c04fc964ff⟩)) .equal
        (.constant (.string "6f9619ff8b86d011b42d00c04fc964ff")) .direct .none).answer?
        (.ofValue (.object [("a", .guid ⟨0x6f9619ff8b86d011b42d00c04fc964ff⟩),
          ("b", .string "6f9619ff8b86d011b42d00c04fc964ff")])) (.ofDialect .objects)
        (.object [("a", .guid ⟨0x6f9619ff8b86d011b42d00c04fc964ff⟩),
          ("b", .string "6f9619ff8b86d011b42d00c04fc964ff")]) ⟨.reference, fun _ => 0⟩ .empty
        = some true
      ∧ (comparison (.path "a") .equal (.path "b") .direct .none).answer?
        (.ofValue (.object [("a", .guid ⟨0x6f9619ff8b86d011b42d00c04fc964ff⟩),
          ("b", .string "6f9619ff8b86d011b42d00c04fc964ff")])) (.ofDialect .objects)
        (.object [("a", .guid ⟨0x6f9619ff8b86d011b42d00c04fc964ff⟩),
          ("b", .string "6f9619ff8b86d011b42d00c04fc964ff")]) ⟨.reference, fun _ => 0⟩ .empty
        = some false := by
  constructor <;> decide +kernel

end Predicate

end PredicateLang
