import PredicateLang.Proofs.Alike.Lowering

/-!
# Comparisons of alike operands

Of alike operands a comparison is lowered to alike trees. It has no effects of its own.
-/

namespace PredicateLang.Lowering

variable {effects : Bool}

/-! ## Letter case -/

section

variable {ρ : Naming} {t t' : Target}

theorem alike_foldString (h : t.Alike effects ρ t') :
    Alike ρ (foldString t) (foldString t') (Target.Alike effects ρ) := by
  unfold foldString
  rw [h.constantString?_eq, h.kind_eq]
  split
  · exact alike_pure (.constant _ _)
  · exact alike_guarded h fun _ _ _ _ string =>
      alike_pure (.call _ .lowercase (by simp) (.cons string .nil))

/-- What is done to an operand that is no list. -/
theorem alike_foldSubject (h : t.Alike effects ρ t') :
    Alike ρ
      (match t.kind with
        | .sequence element =>
          if mayBeString element then do
            let parameter ← fresh "f"
            let body ← foldString (.parameter element parameter)
            return .map t.kind t parameter body
          else return t
        | kind => if mayBeString kind then foldString t else return t)
      (match t'.kind with
        | .sequence element =>
          if mayBeString element then do
            let parameter ← fresh "f"
            let body ← foldString (.parameter element parameter)
            return .map t'.kind t' parameter body
          else return t'
        | kind => if mayBeString kind then foldString t' else return t')
      (Target.Alike effects ρ) := by
  rw [h.kind_eq]
  split
  · split
    · refine alike_fresh rfl fun a b made extend => ?_
      exact (alike_foldString (.parameter _ (Naming.push_self _ a b))).bind fun _ _ body =>
        alike_pure (.map _ h made body)
    · exact alike_pure h
  · split
    · exact alike_foldString h
    · exact alike_pure h

end

mutual

theorem alike_foldCase {ρ : Naming} {t t' : Target} (h : t.Alike effects ρ t') :
    Alike ρ (foldCase t) (foldCase t') (Target.Alike effects ρ) := by
  match t with
  | .list kind ts =>
    obtain ⟨ts', rfl, items⟩ := h.exists_list
    unfold foldCase
    split
    · split
      · exact (alike_foldCaseAll items).bind fun _ _ items => alike_pure (.list _ items)
      · exact alike_pure (.list _ items)
    · split
      · exact alike_foldString (.list _ items)
      · exact alike_pure (.list _ items)
  | .constant .. | .parameter .. | .property .. | .guard .. | .map .. | .filter .. | .quantify ..
  | .count .. | .reduce .. | .elementAt .. | .binary .. | .unary .. | .call .. | .convert ..
  | .assign .. | .bind .. =>
    have whole := h
    cases h
    unfold foldCase
    exact alike_foldSubject whole

theorem alike_foldCaseAll {ρ : Naming} {ts ts' : List Target}
    (h : Target.AllAlike effects ρ ts ts') :
    Alike ρ (foldCaseAll ts) (foldCaseAll ts') (Target.AllAlike effects ρ) := by
  match ts with
  | [] =>
    cases h
    exact alike_pure .nil
  | t :: rest =>
    obtain ⟨t', rest', rfl, first, others⟩ := h.exists_cons
    unfold foldCaseAll
    exact (alike_foldCase first).bind fun _ _ first => (alike_foldCaseAll others).bind
      fun _ _ others => alike_pure (.cons first others)

end

/-! ## Operators -/

variable {ρ : Naming} {t t' s s' : Target}

theorem alike_relate (op : BinaryOp) (h : t.Alike effects ρ t') (h' : s.Alike effects ρ s') :
    Alike ρ (relate op t s) (relate op t' s') (Target.Alike effects ρ) := by
  refine (alike_ofResult (alike_makeComparable h h')).bind ?_
  rintro ⟨u, v⟩ ⟨u', v'⟩ ⟨left, right⟩
  exact alike_pure (.binary _ op left right)

theorem alike_demandString (builtin : Builtin) (h : t.Alike effects ρ t') :
    Alike ρ (demandString builtin t) (demandString builtin t') (fun _ _ => True) := by
  unfold demandString
  rw [h.kind_eq]
  split
  iterate 3 exact alike_pure trivial
  exact alike_typeFault _ _

/-- Two operands that are both shared, the left one first. -/
theorem alike_sharedBoth {build build' : Target → Target → Lowering Target}
    (h : t.Alike effects ρ t') (h' : s.Alike effects ρ s')
    (h'' : ∀ ρ' u u' v v', ρ.Extend ρ' → u.Alike effects ρ' u' → v.Alike effects ρ' v' →
      Alike ρ' (build u v) (build' u' v') (Target.Alike effects ρ')) :
    Alike ρ (shared t fun t => shared s fun s => build t s)
      (shared t' fun t' => shared s' fun s' => build' t' s') (Target.Alike effects ρ) :=
  alike_shared h fun _ _ _ extend left =>
    alike_shared (h'.extend extend) fun _ _ _ extend' right =>
      h'' _ _ _ _ _ (extend.trans extend') (left.extend extend') right

/-- A test of two operands behind a guard. -/
theorem alike_guardedTest {builtin : Builtin} (still : builtin ≠ .random ∧ builtin ≠ .randomBelow)
    (h : t.Alike effects ρ t') (h' : s.Alike effects ρ s') :
    Alike ρ (guarded t fun t => return .call .boolean builtin [t, s])
      (guarded t' fun t' => return .call .boolean builtin [t', s']) (Target.Alike effects ρ) :=
  alike_guarded h fun _ _ _ extend subject =>
    alike_pure (.call _ builtin (by simp [still]) (.cons subject (.cons (h'.extend extend) .nil)))

theorem alike_stringTest {builtin : Builtin} (still : builtin ≠ .random ∧ builtin ≠ .randomBelow)
    (h : t.Alike effects ρ t') (h' : s.Alike effects ρ s') :
    Alike ρ (stringTest builtin t s) (stringTest builtin t' s') (Target.Alike effects ρ) :=
  (alike_demandString builtin h).bind fun _ _ _ => (alike_demandString builtin h').bind fun _ _ _ =>
    alike_sharedBoth h h' fun _ _ _ _ _ _ left right => alike_guardedTest still left right

theorem alike_contains (h : t.Alike effects ρ t') (h' : s.Alike effects ρ s') :
    Alike ρ (contains t s) (contains t' s') (Target.Alike effects ρ) := by
  have shares {t t' s s' : Target} (h : t.Alike effects ρ t') (h' : s.Alike effects ρ s') :
      Alike ρ
        (shared t fun haystack => shared s fun needle =>
          guarded haystack fun haystack => return .call .boolean .contains [haystack, needle])
        (shared t' fun haystack => shared s' fun needle =>
          guarded haystack fun haystack => return .call .boolean .contains [haystack, needle])
        (Target.Alike effects ρ) :=
    alike_sharedBoth h h' fun _ _ _ _ _ _ haystack needle =>
      alike_guardedTest (by simp) haystack needle
  unfold contains
  rw [h.kind_eq]
  dsimp only
  split
  · refine (alike_ofResult (alike_makeComparable h h')).bind ?_
    rintro ⟨u, v⟩ ⟨u', v'⟩ ⟨haystack, needle⟩
    exact shares haystack needle
  · exact shares h h'

theorem alike_within {u u' : Target} (h : t.Alike effects ρ t') (h' : s.Alike effects ρ s')
    (h'' : u.Alike effects ρ u') :
    Alike ρ (within t s u) (within t' s' u') (Target.Alike effects ρ) :=
  (alike_relate _ h h').bind fun _ _ low => (alike_relate _ h h'').bind fun _ _ high =>
    alike_pure (.binary _ .andAlso low high)

/-- A value between the items of bounds that are no list. -/
theorem alike_betweenItems (h : t.Alike effects ρ t') (h' : s.Alike effects ρ s') :
    Alike ρ
      (do
        let element ← elementOf "BETWEEN" .twoElementCollection s
        shared s fun bounds =>
          let at_ (i : Int) : Target := .elementAt element bounds (.ofValue (.int i))
          within t (at_ 0) (at_ 1))
      (do
        let element ← elementOf "BETWEEN" .twoElementCollection s'
        shared s' fun bounds =>
          let at_ (i : Int) : Target := .elementAt element bounds (.ofValue (.int i))
          within t' (at_ 0) (at_ 1))
      (Target.Alike effects ρ) := by
  refine (alike_elementOf _ _ h').bind ?_
  rintro element _ rfl
  exact alike_shared h' fun _ _ _ extend bounds =>
    alike_within (h.extend extend) (.elementAt _ bounds (.constant _ _))
      (.elementAt _ bounds (.constant _ _))

theorem alike_between (h : t.Alike effects ρ t') (h' : s.Alike effects ρ s') :
    Alike ρ (between t s) (between t' s') (Target.Alike effects ρ) := by
  refine alike_shared h fun ρ' v v' extend value => ?_
  have bounds := h'.extend extend
  cases h' with
  | list kind items =>
    cases items with
    | nil => exact alike_typeFault _ _
    | cons lower rest =>
      cases rest with
      | nil => exact alike_typeFault _ _
      | cons upper rest =>
        cases rest with
        | nil => exact alike_within value (lower.extend extend) (upper.extend extend)
        | cons => exact alike_typeFault _ _
  | _ => exact alike_betweenItems value bounds

theorem alike_compare (operator : Operator) (h : t.Alike effects ρ t') (h' : s.Alike effects ρ s') :
    Alike ρ (compare operator t s) (compare operator t' s') (Target.Alike effects ρ) := by
  cases operator with
  | less | lessEqual | greater | greaterEqual | equal | notEqual => exact alike_relate _ h h'
  | isMatch | like | beginsWith | endsWith => exact alike_stringTest (by simp) h h'
  | contains => exact alike_contains h h'
  | member => exact alike_contains h' h
  | between => exact alike_between h h'

/-! ## Modifiers -/

/-- A comparison of each item of an operand. -/
theorem alike_quantify (quantifier : Quantifier) (operator : Operator) (element : Kind)
    (h : t.Alike effects ρ t') (h' : s.Alike effects ρ s') :
    Alike ρ
      (do
        let parameter ← fresh "q"
        let predicate ← compare operator (.parameter element parameter) s
        return .quantify .boolean quantifier t parameter predicate)
      (do
        let parameter ← fresh "q"
        let predicate ← compare operator (.parameter element parameter) s'
        return .quantify .boolean quantifier t' parameter predicate)
      (Target.Alike effects ρ) := by
  refine alike_fresh rfl fun a b made extend => ?_
  exact (alike_compare operator (.parameter _ (Naming.push_self _ a b)) (h'.extend extend)).bind
    fun _ _ predicate => alike_pure (.quantify _ quantifier h made predicate)

theorem alike_quantified (quantifier : Quantifier) (operator : Operator)
    (h : t.Alike effects ρ t') (h' : s.Alike effects ρ s') :
    Alike ρ (quantified quantifier operator t s) (quantified quantifier operator t' s')
      (Target.Alike effects ρ) := by
  refine (alike_elementOf _ _ h).bind ?_
  rintro element _ rfl
  exact alike_sharedBoth h h' fun _ _ _ _ _ _ left right =>
    alike_quantify quantifier operator element left right

theorem alike_foldOperands (options : Options) (operator : Operator) (h : t.Alike effects ρ t')
    (h' : s.Alike effects ρ s') :
    Alike ρ (foldOperands options operator t s) (foldOperands options operator t' s')
      (AlikePairs effects ρ) := by
  unfold foldOperands
  refine alike_settings.bind ?_
  rintro settings _ rfl
  dsimp only
  split
  · refine (alike_foldCase h).bind fun _ _ left => ?_
    split
    · exact alike_pure ⟨left, h'⟩
    · exact (alike_foldCase h').bind fun _ _ right => alike_pure ⟨left, right⟩
  · exact alike_pure ⟨h, h'⟩

/-- A comparison of alike operands is lowered to alike trees. -/
theorem alike_comparison (operator : Operator) (modifier : Modifier) (options : Options)
    (h : t.Alike effects ρ t') (h' : s.Alike effects ρ s') :
    Alike ρ (comparison operator modifier options t s) (comparison operator modifier options t' s')
      (Target.Alike effects ρ) := by
  refine (alike_foldOperands options operator h h').bind ?_
  rintro ⟨u, v⟩ ⟨u', v'⟩ ⟨left, right⟩
  dsimp only
  split
  · exact alike_compare operator left right
  · exact alike_quantified _ operator left right

end PredicateLang.Lowering
