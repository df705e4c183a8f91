import PredicateLang.Proofs.Result
import PredicateLang.Target.Coercion

/-!
# What a cast makes of a tree

A cast converts a constant at once, and puts a conversion around any other tree, unless there is
nothing to convert. Operands are made comparable by casts alone.
-/

namespace PredicateLang.Target

/-- Is it neither a constant nor a list? -/
def isPlain : Target → Bool
  | .constant .. | .list .. => false
  | _ => true

theorem constant?_of_isPlain {t : Target} (h : t.isPlain) : t.constant? = none := by
  cases t <;> first | rfl | cases h

theorem constantString?_of_isPlain {t : Target} (h : t.isPlain) : t.constantString? = none := by
  cases t <;> first | rfl | cases h

/-- Is the tree a list of items? -/
def isList : Target → Bool
  | .list .. => true
  | _ => false

theorem ne_list_of_isList {t : Target} (plain : t.isList = false) (kind : Kind)
    (items : List Target) : t ≠ .list kind items := by
  rintro rfl
  cases plain

theorem cast_self (t : Target) : t.cast t.kind = .ok t := by
  unfold cast
  rw [if_pos (.inl rfl)]

/-- A tree that is no constant stays what it is, or a conversion is put around it. -/
theorem cast_of_constant?_eq_none {t : Target} {wanted : Kind} (h : t.constant? = none) :
    t.cast wanted = .ok
      (if t.kind = wanted ∨ wanted.isDynamic ∨ isStringWithGuid t.kind wanted then t
        else .convert wanted t) := by
  unfold cast
  by_cases same : t.kind = wanted ∨ wanted.isDynamic
  · have any : t.kind = wanted ∨ wanted.isDynamic ∨ isStringWithGuid t.kind wanted :=
      same.imp_right .inl
    rw [if_pos same, if_pos any]
  · rw [if_neg same]
    rw [not_or] at same
    cases t with
    | constant => cases h
    | _ => simp [same.1, same.2]

/-- A constant is cast to a constant. -/
theorem exists_constant_of_cast {kind wanted : Kind} {value : Value} {u : Target}
    (h : (Target.constant kind value).cast wanted = .ok u) :
    ∃ kind' value', u = .constant kind' value' := by
  unfold cast at h
  split at h
  · cases h
    exact ⟨kind, value, rfl⟩
  · dsimp only at h
    split at h
    · cases h
      exact ⟨kind, value, rfl⟩
    · unfold castConstant at h
      split at h <;> cases h
      exact ⟨wanted, _, rfl⟩

/-- The tree, or a cast of it. -/
def IsCast (t u : Target) : Prop := u = t ∨ ∃ kind, t.cast kind = .ok u

theorem isCast_of_castToElement {t u : Target} {haystack : Kind}
    (h : t.castToElement haystack = .ok u) : t.IsCast u := by
  unfold castToElement at h
  split at h
  · split at h
    · exact .inr ⟨_, h⟩
    · exact .inl (Except.ok.inj h).symm
  · exact .inl (Except.ok.inj h).symm

theorem isCast_of_makeScalarsComparable {t s t' s' : Target}
    (h : t.makeScalarsComparable s = .ok (t', s')) : t.IsCast t' ∧ s.IsCast s' := by
  unfold makeScalarsComparable at h
  split at h
  · split at h
    · obtain ⟨u, cast, h⟩ := exists_of_bind_ok h
      cases h
      exact ⟨.inr ⟨_, cast⟩, .inl rfl⟩
    · obtain ⟨u, cast, h⟩ := exists_of_bind_ok h
      cases h
      exact ⟨.inl rfl, .inr ⟨_, cast⟩⟩
  · cases h
    exact ⟨.inl rfl, .inl rfl⟩
  · split at h <;> cases h
    exact ⟨.inl rfl, .inl rfl⟩

theorem isCast_of_makeComparable {t s t' s' : Target}
    (h : t.makeComparable s = .ok (t', s')) : t.IsCast t' ∧ s.IsCast s' := by
  unfold makeComparable at h
  split at h
  · cases h
    exact ⟨.inl rfl, .inl rfl⟩
  · split at h
    · obtain ⟨u, cast, h⟩ := exists_of_bind_ok h
      cases h
      exact ⟨.inl rfl, isCast_of_castToElement cast⟩
    · obtain ⟨u, cast, h⟩ := exists_of_bind_ok h
      cases h
      exact ⟨isCast_of_castToElement cast, .inl rfl⟩
    · cases h
      exact ⟨.inl rfl, .inl rfl⟩
    · exact isCast_of_makeScalarsComparable h

/-! ## What is cast -/

/-- What becomes of two operands that are compared, and when: nothing, unless both kinds can be cast;
then the less precise one is cast. An operand is cast to the kind of the items of the other one, if
that is a collection. -/
inductive Compares (t s : Target) : Target → Target → Prop where
  | unchanged
    (kinds : t.kind = s.kind ∨ t.kind.isDynamic ∨ s.kind.isDynamic
      ∨ ¬(t.kind.isCastable ∧ s.kind.isCastable)) :
    Compares t s t s
  | left {l r : Nat} {t' : Target} (rank : t.kind.rank? = some l) (rank' : s.kind.rank? = some r)
    (less : l < r) (cast : t.cast s.kind = .ok t') : Compares t s t' s
  | right {l r : Nat} {s' : Target} (rank : t.kind.rank? = some l) (rank' : s.kind.rank? = some r)
    (less : r ≤ l) (cast : s.cast t.kind = .ok s') : Compares t s t s'
  | leftElement {element : Kind} {t' : Target} (items : s.kind = .sequence element)
    (castable : t.kind.isCastable) (cast : t.cast element = .ok t') : Compares t s t' s
  | rightElement {element : Kind} {s' : Target} (items : t.kind = .sequence element)
    (castable : s.kind.isCastable) (cast : s.cast element = .ok s') : Compares t s t s'

theorem compares_of_makeScalarsComparable {t s t' s' : Target}
    (h : t.makeScalarsComparable s = .ok (t', s')) : Compares t s t' s' := by
  unfold makeScalarsComparable at h
  split at h
  · rename_i l r rank rank'
    split at h
    · obtain ⟨u, cast, h⟩ := exists_of_bind_ok h
      cases h
      exact .left rank rank' ‹_› cast
    · obtain ⟨u, cast, h⟩ := exists_of_bind_ok h
      cases h
      exact .right rank rank' (Nat.le_of_not_lt ‹_›) cast
  · rename_i unranked unranked'
    cases h
    refine .unchanged (.inr (.inr (.inr ?_)))
    simp [Kind.isCastable, unranked]
  · rename_i mixed unranked
    split at h <;> cases h
    refine .unchanged (.inr (.inr (.inr ?_)))
    rintro ⟨castable, castable'⟩
    obtain ⟨l, rank⟩ := Option.isSome_iff_exists.mp castable
    obtain ⟨r, rank'⟩ := Option.isSome_iff_exists.mp castable'
    exact mixed l r rank rank'

theorem exists_of_isSequence {kind : Kind} (h : kind.isSequence) :
    ∃ element, kind = .sequence element := by
  cases kind with
  | sequence element => exact ⟨element, rfl⟩
  | _ => cases h

theorem not_castable_of_isSequence {kind : Kind} (h : kind.isSequence) : ¬kind.isCastable := by
  obtain ⟨element, rfl⟩ := exists_of_isSequence h
  exact Bool.false_ne_true

/-- Only an operand that can be cast is cast to the kind of items that it is looked for among. -/
theorem castToElement_eq {haystack element : Kind} (known : haystack.element? = some element)
    (t : Target) :
    t.castToElement haystack
      = if element.isCastable ∧ t.kind.isCastable then t.cast element else .ok t := by
  unfold castToElement
  simp only [known]

theorem compares_of_makeComparable {t s t' s' : Target} (h : t.makeComparable s = .ok (t', s')) :
    Compares t s t' s' := by
  unfold makeComparable at h
  split at h
  · rename_i early
    cases h
    refine .unchanged ?_
    rcases early with same | dynamic | dynamic
    · exact .inl same
    · exact .inr (.inl dynamic)
    · exact .inr (.inr (.inl dynamic))
  · split at h
    · rename_i items other
      obtain ⟨element, kind⟩ := exists_of_isSequence items
      obtain ⟨u, cast, h⟩ := exists_of_bind_ok h
      cases h
      rw [castToElement_eq (congrArg Kind.element? kind)] at cast
      split at cast
      · exact .rightElement kind (And.right ‹_›) cast
      · cases cast
        exact .unchanged (.inr (.inr (.inr fun both => not_castable_of_isSequence items both.1)))
    · rename_i other items
      obtain ⟨element, kind⟩ := exists_of_isSequence items
      obtain ⟨u, cast, h⟩ := exists_of_bind_ok h
      cases h
      rw [castToElement_eq (congrArg Kind.element? kind)] at cast
      split at cast
      · exact .leftElement kind (And.right ‹_›) cast
      · cases cast
        exact .unchanged (.inr (.inr (.inr fun both => not_castable_of_isSequence items both.2)))
    · rename_i items items'
      cases h
      exact .unchanged (.inr (.inr (.inr fun both => not_castable_of_isSequence items both.1)))
    · exact compares_of_makeScalarsComparable h

end PredicateLang.Target
