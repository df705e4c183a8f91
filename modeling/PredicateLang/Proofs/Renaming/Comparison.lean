import PredicateLang.Proofs.Renaming.Lowering

/-!
# Comparisons of renamed operands

Of renamed operands a comparison is lowered to renamed trees, or fails in the same way.
-/

namespace PredicateLang.Lowering

variable {exact : Bool} {ρ : Naming}

/-! ## Operators without names of their own -/

section

variable {t t' s s' : Target}

theorem tracks_relate (op : BinaryOp) (h : t.Renamed exact ρ t') (h' : s.Renamed exact ρ s') :
    Tracks (relate op t s) (relate op t' s') (Target.Renamed exact ρ) := by
  apply (tracks_ofResult (coincide_makeComparable h h')).bind
  rintro ⟨u, v⟩ ⟨u', v'⟩ ⟨left, right⟩
  exact tracks_pure (.binary _ op left right)

theorem tracks_demandString (builtin : Builtin) (h : t.Renamed exact ρ t') :
    Tracks (demandString builtin t) (demandString builtin t') (· = ·) := by
  unfold demandString
  rw [h.kind_eq]
  split
  iterate 3 exact tracks_pure rfl
  exact tracks_typeFault _

theorem tracks_within {u u' : Target} (h : t.Renamed exact ρ t') (h' : s.Renamed exact ρ s')
    (h'' : u.Renamed exact ρ u') :
    Tracks (within t s u) (within t' s' u') (Target.Renamed exact ρ) :=
  (tracks_relate _ h h').bind fun _ _ low => (tracks_relate _ h h'').bind fun _ _ high =>
    tracks_pure (.binary _ .andAlso low high)

end

/-! ## Letter case -/

section

variable (steady : ρ.Steady) {t t' : Target}

include steady

theorem tracks_foldString (h : t.Renamed exact ρ t') :
    Tracks (foldString t) (foldString t') (Target.Renamed exact ρ) := by
  unfold foldString
  rw [h.constantString?_eq, h.kind_eq]
  split
  · exact tracks_pure (.constant _ _)
  · exact tracks_guarded steady h fun _ _ string =>
      tracks_pure (.call _ .lowercase (.cons string .nil))

/-- What is done to an operand that is no list. -/
theorem tracks_foldSubject (h : t.Renamed exact ρ t') :
    Tracks
      (match t.kind with
        | .sequence element =>
          if mayBeString element then do
            let parameter ← fresh "f"
            let body ← foldString (.parameter element parameter)
            return .map t.kind t parameter body
          else return t
        | kind => if mayBeString kind then foldString t else return t)
      (match t'.kind with
        | .sequence element =>
          if mayBeString element then do
            let parameter ← fresh "f"
            let body ← foldString (.parameter element parameter)
            return .map t'.kind t' parameter body
          else return t'
        | kind => if mayBeString kind then foldString t' else return t')
      (Target.Renamed exact ρ) := by
  rw [h.kind_eq]
  split
  · split
    · apply tracks_fresh_bind steady
      intro name self
      exact (tracks_foldString steady (.parameter _ self)).bind fun _ _ body =>
        tracks_pure (.map _ h self body)
    · exact tracks_pure h
  · split
    · exact tracks_foldString steady h
    · exact tracks_pure h

end

mutual

theorem tracks_foldCase {t t' : Target} (steady : ρ.Steady) (h : t.Renamed exact ρ t') :
    Tracks (foldCase t) (foldCase t') (Target.Renamed exact ρ) := by
  match t with
  | .list kind ts =>
    obtain ⟨ts', rfl, items⟩ := h.exists_list
    unfold foldCase
    split
    · split
      · exact (tracks_foldCaseAll steady items).bind fun _ _ items => tracks_pure (.list _ items)
      · exact tracks_pure (.list _ items)
    · split
      · exact tracks_foldString steady (.list _ items)
      · exact tracks_pure (.list _ items)
  | .constant .. | .parameter .. | .property .. | .guard .. | .map .. | .filter .. | .quantify ..
  | .count .. | .reduce .. | .elementAt .. | .binary .. | .unary .. | .call .. | .convert ..
  | .assign .. | .bind .. =>
    have whole := h
    cases h
    unfold foldCase
    exact tracks_foldSubject steady whole

theorem tracks_foldCaseAll {ts ts' : List Target} (steady : ρ.Steady)
    (h : Target.AllRenamed exact ρ ts ts') :
    Tracks (foldCaseAll ts) (foldCaseAll ts') (Target.AllRenamed exact ρ) := by
  match ts with
  | [] =>
    cases h
    exact tracks_pure .nil
  | t :: rest =>
    obtain ⟨t', rest', rfl, first, others⟩ := h.exists_cons
    unfold foldCaseAll
    exact (tracks_foldCase steady first).bind fun _ _ first =>
      (tracks_foldCaseAll steady others).bind fun _ _ others => tracks_pure (.cons first others)

end

/-! ## Operators -/

variable (steady : ρ.Steady) {t t' s s' : Target}

include steady

/-- Two operands that are both shared, the left one first. -/
theorem tracks_sharedBoth {build build' : Target → Target → Lowering Target}
    (h : t.Renamed exact ρ t') (h' : s.Renamed exact ρ s')
    (h'' : ∀ u u' v v', u.Renamed exact ρ u' → v.Renamed exact ρ v' →
      Tracks (build u v) (build' u' v') (Target.Renamed exact ρ)) :
    Tracks (shared t fun t => shared s fun s => build t s)
      (shared t' fun t' => shared s' fun s' => build' t' s') (Target.Renamed exact ρ) :=
  tracks_shared steady h fun _ _ left => tracks_shared steady h' fun _ _ right =>
    h'' _ _ _ _ left right

/-- A test of two operands behind a guard. -/
theorem tracks_guardedTest (builtin : Builtin) (h : t.Renamed exact ρ t')
    (h' : s.Renamed exact ρ s') :
    Tracks (guarded t fun t => return .call .boolean builtin [t, s])
      (guarded t' fun t' => return .call .boolean builtin [t', s']) (Target.Renamed exact ρ) :=
  tracks_guarded steady h fun _ _ subject =>
    tracks_pure (.call _ builtin (.cons subject (.cons h' .nil)))

theorem tracks_stringTest (builtin : Builtin) (h : t.Renamed exact ρ t')
    (h' : s.Renamed exact ρ s') :
    Tracks (stringTest builtin t s) (stringTest builtin t' s') (Target.Renamed exact ρ) :=
  (tracks_demandString builtin h).bind fun _ _ _ => (tracks_demandString builtin h').bind
    fun _ _ _ => tracks_sharedBoth steady h h' fun _ _ _ _ left right =>
      tracks_guardedTest steady builtin left right

theorem tracks_contains (h : t.Renamed exact ρ t') (h' : s.Renamed exact ρ s') :
    Tracks (contains t s) (contains t' s') (Target.Renamed exact ρ) := by
  have shares {t t' s s' : Target} (h : t.Renamed exact ρ t') (h' : s.Renamed exact ρ s') :
      Tracks
        (shared t fun haystack => shared s fun needle =>
          guarded haystack fun haystack => return .call .boolean .contains [haystack, needle])
        (shared t' fun haystack => shared s' fun needle =>
          guarded haystack fun haystack => return .call .boolean .contains [haystack, needle])
        (Target.Renamed exact ρ) :=
    tracks_sharedBoth steady h h' fun _ _ _ _ haystack needle =>
      tracks_guardedTest steady .contains haystack needle
  unfold contains
  rw [h.kind_eq]
  dsimp only
  split
  · apply (tracks_ofResult (coincide_makeComparable h h')).bind
    rintro ⟨u, v⟩ ⟨u', v'⟩ ⟨haystack, needle⟩
    exact shares haystack needle
  · exact shares h h'

/-- A value between the items of bounds that are no list. -/
theorem tracks_betweenItems (h : t.Renamed exact ρ t') (h' : s.Renamed exact ρ s') :
    Tracks
      (do
        let element ← elementOf "BETWEEN" .twoElementCollection s
        shared s fun bounds =>
          let at_ (i : Int) : Target := .elementAt element bounds (.ofValue (.int i))
          within t (at_ 0) (at_ 1))
      (do
        let element ← elementOf "BETWEEN" .twoElementCollection s'
        shared s' fun bounds =>
          let at_ (i : Int) : Target := .elementAt element bounds (.ofValue (.int i))
          within t' (at_ 0) (at_ 1))
      (Target.Renamed exact ρ) := by
  apply (tracks_elementOf _ _ h').bind
  rintro element _ rfl
  exact tracks_shared steady h' fun _ _ bounds =>
    tracks_within h (.elementAt _ bounds (.constant _ _)) (.elementAt _ bounds (.constant _ _))

theorem tracks_between (h : t.Renamed exact ρ t') (h' : s.Renamed exact ρ s') :
    Tracks (between t s) (between t' s') (Target.Renamed exact ρ) := by
  refine tracks_shared steady h fun v v' value => ?_
  have bounds := h'
  cases h' with
  | list kind items =>
    cases items with
    | nil => exact tracks_typeFault _
    | cons lower rest =>
      cases rest with
      | nil => exact tracks_typeFault _
      | cons upper rest =>
        cases rest with
        | nil => exact tracks_within value lower upper
        | cons => exact tracks_typeFault _
  | _ => exact tracks_betweenItems steady value bounds

theorem tracks_compare (operator : Operator) (h : t.Renamed exact ρ t')
    (h' : s.Renamed exact ρ s') :
    Tracks (compare operator t s) (compare operator t' s') (Target.Renamed exact ρ) := by
  cases operator with
  | less | lessEqual | greater | greaterEqual | equal | notEqual => exact tracks_relate _ h h'
  | isMatch | like | beginsWith | endsWith => exact tracks_stringTest steady _ h h'
  | contains => exact tracks_contains steady h h'
  | member => exact tracks_contains steady h' h
  | between => exact tracks_between steady h h'

/-! ## Modifiers -/

/-- A comparison of each item of an operand. -/
theorem tracks_quantify (quantifier : Quantifier) (operator : Operator) (element : Kind)
    (h : t.Renamed exact ρ t') (h' : s.Renamed exact ρ s') :
    Tracks
      (do
        let parameter ← fresh "q"
        let predicate ← compare operator (.parameter element parameter) s
        return .quantify .boolean quantifier t parameter predicate)
      (do
        let parameter ← fresh "q"
        let predicate ← compare operator (.parameter element parameter) s'
        return .quantify .boolean quantifier t' parameter predicate)
      (Target.Renamed exact ρ) := by
  apply tracks_fresh_bind steady
  intro name self
  exact (tracks_compare steady operator (.parameter _ self) h').bind fun _ _ predicate =>
    tracks_pure (.quantify _ quantifier h self predicate)

theorem tracks_quantified (quantifier : Quantifier) (operator : Operator)
    (h : t.Renamed exact ρ t') (h' : s.Renamed exact ρ s') :
    Tracks (quantified quantifier operator t s) (quantified quantifier operator t' s')
      (Target.Renamed exact ρ) := by
  apply (tracks_elementOf _ _ h).bind
  rintro element _ rfl
  exact tracks_sharedBoth steady h h' fun _ _ _ _ left right =>
    tracks_quantify steady quantifier operator element left right

theorem tracks_foldOperands (options : Options) (operator : Operator) (h : t.Renamed exact ρ t')
    (h' : s.Renamed exact ρ s') :
    Tracks (foldOperands options operator t s) (foldOperands options operator t' s')
      (RenamedPairs exact ρ) := by
  apply tracks_settings.bind
  intro settings settings' beside
  rw [beside.foldsCase_eq]
  split
  · refine (tracks_foldCase steady h).bind fun _ _ left => ?_
    split
    · exact tracks_pure ⟨left, h'⟩
    · exact (tracks_foldCase steady h').bind fun _ _ right => tracks_pure ⟨left, right⟩
  · exact tracks_pure ⟨h, h'⟩

/-- A comparison of renamed operands is lowered to renamed trees. -/
theorem tracks_comparison (operator : Operator) (modifier : Modifier) (options : Options)
    (h : t.Renamed exact ρ t') (h' : s.Renamed exact ρ s') :
    Tracks (comparison operator modifier options t s) (comparison operator modifier options t' s')
      (Target.Renamed exact ρ) := by
  apply (tracks_foldOperands steady options operator h h').bind
  rintro ⟨u, v⟩ ⟨u', v'⟩ ⟨left, right⟩
  dsimp only
  split
  · exact tracks_compare steady operator left right
  · exact tracks_quantified steady _ operator left right

end PredicateLang.Lowering
