import PredicateLang.Lowering.Comparison
import PredicateLang.Proofs.Kinds.Call

/-!
# Comparisons for different kinds

Of counterparts a comparison makes trees that resemble one another. Letter case is folded where
there may be strings, and operands are cast where their kinds are known: more is done to the
operands the more is known of them, and that is all.
-/

namespace PredicateLang.Lowering

open Target (Resembles Changed AllChange Akin Counterpart)

variable {ρ : Naming} {t u l l' r r' s s' : Target}

/-! ## Letter case -/

theorem makes_foldString (t : Target) : Makes (foldString t) t.Changed := by
  unfold foldString
  split
  · rename_i s known
    cases t with
    | constant kind value => exact makes_pure ⟨_, .constant kind _ value _⟩
    | _ => cases known
  · exact (makes_function .lowercase t.kind t).mono fun _ => And.left

theorem makes_foldString_isPlain (h : t.isPlain) : Makes (foldString t) (·.isPlain) := by
  unfold foldString
  rw [Target.constantString?_of_isPlain h]
  exact (makes_function .lowercase t.kind t).mono fun _ => And.right

/-- The letter case of each item is folded. -/
theorem makes_foldItems (element : Kind) (t : Target) :
    Makes (do
        let parameter ← fresh "f"
        let body ← foldString (.parameter element parameter)
        return .map t.kind t parameter body) fun u => t.Changed u ∧ u.isPlain := by
  refine (makes_fresh "f").bind fun item _ => (makes_foldString _).bind fun body each => ?_
  obtain ⟨F, each⟩ := each
  exact makes_pure ⟨⟨_, .map _ element t item each⟩, rfl⟩

/-- What is done to an operand that is no list. -/
theorem makes_foldSubject (t : Target) :
    Makes
      (match t.kind with
        | .sequence element =>
          if mayBeString element then do
            let parameter ← fresh "f"
            let body ← foldString (.parameter element parameter)
            return .map t.kind t parameter body
          else return t
        | kind => if mayBeString kind then foldString t else return t)
      fun u => t.Changed u ∧ (t.isPlain → u.isPlain) := by
  have same : Makes (pure t) fun u => t.Changed u ∧ (t.isPlain → u.isPlain) :=
    makes_pure ⟨.same t, id⟩
  split
  · split
    · exact (makes_foldItems _ t).mono fun _ made => ⟨made.1, fun _ => made.2⟩
    · exact same
  · split
    · intro settings scope u after run
      obtain ⟨changed, leads⟩ := makes_foldString t settings scope u after run
      exact ⟨⟨changed, fun plain => (makes_foldString_isPlain plain settings scope u after run).1⟩,
        leads⟩
    · exact same

mutual

theorem makes_foldCase (t : Target) : Makes (foldCase t) t.Changed := by
  match t with
  | .list kind items =>
    unfold foldCase
    split
    · split
      · refine (makes_foldCaseAll items).bind fun folded all => ?_
        obtain ⟨F, all⟩ := all
        exact makes_pure ⟨_, .list _ _ all⟩
      · exact makes_pure (.same _)
    · split
      · exact makes_foldString _
      · exact makes_pure (.same _)
  | .constant .. | .parameter .. | .property .. | .guard .. | .map .. | .filter .. | .quantify ..
  | .count .. | .reduce .. | .elementAt .. | .binary .. | .unary .. | .call .. | .convert ..
  | .assign .. | .bind .. =>
    unfold foldCase
    exact (makes_foldSubject _).mono fun _ => And.left

theorem makes_foldCaseAll (ts : List Target) :
    Makes (foldCaseAll ts) fun us => ∃ F, AllChange F ts us := by
  match ts with
  | [] => exact makes_pure ⟨_, .nil⟩
  | t :: rest =>
    unfold foldCaseAll
    refine (makes_foldCase t).bind fun u first => (makes_foldCaseAll rest).bind fun us others => ?_
    obtain ⟨F, first⟩ := first
    obtain ⟨G, others⟩ := others
    exact makes_pure ⟨_, .cons first others⟩

end

/-- With letter case folded or not, a list of items stays one. -/
theorem makes_foldCase_list (element : Kind) (ts : List Target) :
    Makes (foldCase (.list (.sequence element) ts)) fun t =>
      ∃ us, t = .list (.sequence element) us ∧ List.Forall₂ Changed ts us := by
  unfold foldCase
  dsimp only
  split
  · refine (makes_foldCaseAll ts).bind fun folded all => ?_
    obtain ⟨F, all⟩ := all
    exact makes_pure ⟨folded, rfl, all.forall₂⟩
  · exact makes_pure ⟨ts, rfl, List.forall₂_same.mpr fun t _ => .same t⟩

theorem makes_foldCase_isPlain (h : t.isPlain) : Makes (foldCase t) fun u =>
    t.Changed u ∧ u.isPlain := by
  cases t with
  | constant | list => cases h
  | _ =>
    unfold foldCase
    exact (makes_foldSubject _).mono fun _ made => ⟨made.1, made.2 h⟩

theorem accord_foldCase_value (v : Value) :
    Accord ρ (foldCase (.ofValue v)) (foldCase (.ofValue v)) (Counterpart ρ) := by
  cases v with
  | array items =>
    -- Only of an array more than a constant is made.
    have unfolded (element : Kind) (same : Kind.ofValue (.array items) = .sequence element) :
        Accord ρ (foldCase (.constant (.sequence element) (.array items)))
          (foldCase (.constant (.sequence element) (.array items))) (Counterpart ρ) := by
      have self : Counterpart ρ (.constant (.sequence element) (.array items))
          (.constant (.sequence element) (.array items)) := by
        rw [← same]
        exact .value _
      unfold foldCase
      dsimp only [Target.kind]
      split
      · exact (makes_foldItems element (.constant (.sequence element) (.array items))).accord
          (makes_foldItems element (.constant (.sequence element) (.array items)))
          fun _ _ made made' =>
            .akin ⟨self.resembles.changed made.1 made'.1, made.2, made'.2⟩
      · exact accord_pure self
    exact unfolded _ rfl
  | string s => exact accord_pure (.value (.string (Text.lower s)))
  | _ => exact accord_pure (.value _)

theorem accord_foldCase (h : Counterpart ρ t u) :
    Accord ρ (foldCase t) (foldCase u) (Counterpart ρ) := by
  cases h with
  | value v => exact accord_foldCase_value v
  | @list ts us element element' items =>
    refine (makes_foldCase_list element ts).accord (makes_foldCase_list element' us) ?_
    rintro _ _ ⟨ts', rfl, changed⟩ ⟨us', rfl, changed'⟩
    exact .list element element' (Target.forall₂_changed items changed changed')
  | akin h =>
    exact (makes_foldCase_isPlain h.plain).accord (makes_foldCase_isPlain h.plain')
      fun _ _ made made' => .akin ⟨h.resembles.changed made.1 made'.1, made.2, made'.2⟩

/-- Pairs of counterparts. -/
def CounterpartPairs (ρ : Naming) (p p' : Target × Target) : Prop :=
  Counterpart ρ p.1 p'.1 ∧ Counterpart ρ p.2 p'.2

theorem accord_foldOperands (options : Options) (operator : Operator) (h : Counterpart ρ l l')
    (h' : Counterpart ρ r r') :
    Accord ρ (foldOperands options operator l r) (foldOperands options operator l' r')
      (CounterpartPairs ρ) := by
  refine accord_settings.bind ?_
  rintro settings _ rfl
  split
  · refine (accord_foldCase h).bind fun _ _ left => ?_
    split
    · exact accord_pure ⟨left, h'⟩
    · exact (accord_foldCase h').bind fun _ _ right => accord_pure ⟨left, right⟩
  · exact accord_pure ⟨h, h'⟩

/-! ## Operators -/

theorem makes_relate (op : BinaryOp) (l r : Target) :
    Makes (relate op l r) (IsOperation op l r) := by
  refine (makes_ofResult fun _ => Target.isCast_of_makeComparable).bind ?_
  rintro ⟨l', r'⟩ ⟨left, right⟩
  exact makes_pure ⟨_, l', r', rfl, changed_of_isCast left, changed_of_isCast right⟩

theorem accord_relate (op : BinaryOp) (h : Resembles ρ l l') (h' : Resembles ρ r r') :
    Accord ρ (relate op l r) (relate op l' r') (Akin ρ) :=
  (makes_relate op l r).accord (makes_relate op l' r') fun _ _ is is' => is.akin is' h h'

theorem makes_demandString (builtin : Builtin) (t : Target) :
    Makes (demandString builtin t) fun _ => True := by
  unfold demandString
  split
  iterate 3 exact makes_pure trivial
  exact makes_typeFault _

theorem accord_demandString (builtin : Builtin) (t u : Target) :
    Accord ρ (demandString builtin t) (demandString builtin u) fun _ _ => True :=
  (makes_demandString builtin t).accord (makes_demandString builtin u) fun _ _ _ _ => trivial

theorem accord_stringTest {builtin : Builtin} (still : builtin ≠ .random ∧ builtin ≠ .randomBelow)
    (h : Counterpart ρ l l') (h' : Resembles ρ r r') :
    Accord ρ (stringTest builtin l r) (stringTest builtin l' r') (Akin ρ) := by
  refine (accord_demandString builtin l l').bind fun _ _ _ => ?_
  refine (accord_demandString builtin r r').bind fun _ _ _ => ?_
  refine accord_shared h.resembles (accord_shared h' ?_)
  exact accord_guarded h fun _ _ _ extend left => accord_pure (akin_call still
    (.cons left.resembles (.cons (h'.extend extend) .nil)) _ _)

/-- What is looked for may be cast, and what it is looked for in is not. -/
theorem makes_needle (haystack needle : Target) :
    Makes (if haystack.kind.isSequence then ofResult (haystack.makeComparable needle)
        else pure (haystack, needle)) fun p => p.1 = haystack ∧ needle.Changed p.2 := by
  split
  · rename_i items
    refine makes_ofResult fun p made =>
        ⟨?_, changed_of_isCast (Target.isCast_of_makeComparable made).2⟩
    unfold Target.makeComparable at made
    rw [items] at made
    split at made
    · cases made
      rfl
    · split at made
      · obtain ⟨cast, -, made⟩ := exists_of_bind_ok made
        cases made
        rfl
      · rename_i other _
        cases other
      · cases made
        rfl
      · rename_i other _
        cases other
  · exact makes_pure ⟨rfl, .same needle⟩

theorem contains_eq (haystack needle : Target) :
    contains haystack needle = (if haystack.kind.isSequence
        then ofResult (haystack.makeComparable needle) else pure (haystack, needle)) >>= fun p =>
      shared p.1 fun haystack => shared p.2 fun needle =>
        guarded haystack fun haystack => return .call .boolean .contains [haystack, needle] := by
  unfold contains
  dsimp only
  split <;> rfl

theorem accord_contains (h : Counterpart ρ l l') (h' : Resembles ρ r r') :
    Accord ρ (contains l r) (contains l' r') (Akin ρ) := by
  have operands : Accord ρ
      (if l.kind.isSequence then ofResult (l.makeComparable r) else pure (l, r))
      (if l'.kind.isSequence then ofResult (l'.makeComparable r') else pure (l', r'))
      fun p p' => Counterpart ρ p.1 p'.1 ∧ Resembles ρ p.2 p'.2 := by
    refine (makes_needle l r).accord (makes_needle l' r') ?_
    rintro ⟨_, r₁⟩ ⟨_, r₂⟩ ⟨rfl, change⟩ ⟨rfl, change'⟩
    exact ⟨h, h'.changed change change'⟩
  rw [contains_eq, contains_eq]
  refine operands.bind ?_
  rintro ⟨l, r⟩ ⟨l', r'⟩ ⟨haystack, needle⟩
  refine accord_shared haystack.resembles (accord_shared needle ?_)
  exact accord_guarded haystack fun _ _ _ extend haystack => accord_pure (akin_call (by simp)
    (.cons haystack.resembles (.cons (needle.extend extend) .nil)) _ _)

theorem accord_within {lower upper lower' upper' : Target} (h : Resembles ρ t u)
    (h' : Resembles ρ lower lower') (h'' : Resembles ρ upper upper') :
    Accord ρ (within t lower upper) (within u lower' upper') (Akin ρ) :=
  (accord_relate .greaterEqual h h').bind fun _ _ low =>
    (accord_relate .lessEqual h h'').bind fun _ _ high =>
      accord_pure ⟨low.resembles.binary high.resembles .andAlso _ _, rfl, rfl⟩

/-- A value between the first two items of a collection. -/
theorem accord_betweenItems (h : Resembles ρ t u) (h' : Resembles ρ s s') :
    Accord ρ
      (do
        let element ← elementOf "BETWEEN" .twoElementCollection s
        shared s fun bounds =>
          within t (.elementAt element bounds (.ofValue (.int 0)))
            (.elementAt element bounds (.ofValue (.int 1))))
      (do
        let element ← elementOf "BETWEEN" .twoElementCollection s'
        shared s' fun bounds =>
          within u (.elementAt element bounds (.ofValue (.int 0)))
            (.elementAt element bounds (.ofValue (.int 1))))
      (Akin ρ) := by
  have number (i : Int) : Resembles ρ (.ofValue (.int i)) (.ofValue (.int i)) :=
    (Counterpart.value _).resembles
  refine (accord_elementOf _ _ s s').bind fun element element' _ => accord_shared h' ?_
  exact accord_within h (h'.elementAt (number 0) _ _) (h'.elementAt (number 1) _ _)

theorem between_of_isPlain (h : s.isPlain) (t : Target) :
    between t s = shared t fun value => (do
      let element ← elementOf "BETWEEN" .twoElementCollection s
      shared s fun bounds =>
        within value (.elementAt element bounds (.ofValue (.int 0)))
          (.elementAt element bounds (.ofValue (.int 1)))) := by
  cases s with
  | constant | list => cases h
  | _ => rfl

theorem accord_between (h : Counterpart ρ t u) (h' : Counterpart ρ s s') :
    Accord ρ (between t s) (between u s') (Akin ρ) := by
  have value := h.resembles
  cases h' with
  | value v => exact accord_shared value (accord_betweenItems value (Counterpart.value v).resembles)
  | list element element' items =>
    refine accord_shared value ?_
    cases items with
    | nil => exact accord_typeFault _
    | cons lower rest =>
      cases rest with
      | nil => exact accord_typeFault _
      | cons upper rest =>
        cases rest with
        | nil => exact accord_within value lower upper
        | cons => exact accord_typeFault _
  | akin h' =>
    rw [between_of_isPlain h'.plain, between_of_isPlain h'.plain']
    exact accord_shared value (accord_betweenItems value h'.resembles)

theorem accord_compare (operator : Operator) (h : Counterpart ρ l l') (h' : Counterpart ρ r r') :
    Accord ρ (compare operator l r) (compare operator l' r') (Akin ρ) := by
  cases operator with
  | less | lessEqual | greater | greaterEqual | equal | notEqual =>
    exact accord_relate _ h.resembles h'.resembles
  | isMatch | like | beginsWith | endsWith => exact accord_stringTest (by simp) h h'.resembles
  | contains => exact accord_contains h h'.resembles
  | member => exact accord_contains h' h.resembles
  | between => exact accord_between h h'

/-! ## Modifiers -/

theorem accord_quantified (quantifier : Quantifier) (operator : Operator) (h : Counterpart ρ l l')
    (h' : Counterpart ρ r r') :
    Accord ρ (quantified quantifier operator l r) (quantified quantifier operator l' r')
      (Akin ρ) := by
  refine (accord_elementOf _ _ l l').bind fun element element' _ => ?_
  refine accord_shared h.resembles (accord_shared h'.resembles ?_)
  refine accord_fresh rfl fun a b extend => ?_
  refine (accord_compare operator (Target.counterpart_slot element element')
    (h'.extend extend)).bind fun _ _ predicate => accord_pure ?_
  exact ⟨h.resembles.quantify predicate.resembles quantifier _ _, rfl, rfl⟩

theorem accord_comparison (operator : Operator) (modifier : Modifier) (options : Options)
    (h : Counterpart ρ l l') (h' : Counterpart ρ r r') :
    Accord ρ (comparison operator modifier options l r) (comparison operator modifier options l' r')
      (Akin ρ) := by
  refine (accord_foldOperands options operator h h').bind ?_
  rintro ⟨l, r⟩ ⟨l', r'⟩ ⟨left, right⟩
  dsimp only
  cases quantifier? modifier with
  | none => exact accord_compare operator left right
  | some quantifier => exact accord_quantified quantifier operator left right

end PredicateLang.Lowering
