import PredicateLang.Proofs.Alike.Outcome

/-!
# Ranges

`x BETWEEN {lo, hi}` says of every object the same as `x >= lo AND x <= hi`, if no operand has
effects and the bounds are lowered to one kind, which is not that of a collection. The range lowers
`x` once and takes the bounds out of a list, in which they keep their kind; the two comparisons lower
`x` twice and bring the letter case of each operand down on its own.
-/

namespace PredicateLang

open Lowering

namespace Lowering

variable {settings : Settings} {bindings : Fields Target} {options : Options}

/-! ## Letter case of one operand -/

/-- An operand as the options want it compared. -/
def folded (options : Options) (operand : Target) : Lowering Target := do
  if options.caseInsensitive ∧ (← read).foldsCase then foldCase operand else return operand

theorem folded_run (options : Options) (t : Target) (settings : Settings) :
    folded options t settings
      = (if options.caseInsensitive ∧ settings.foldsCase then foldCase t else pure t :
        Lowering Target) settings := rfl

/-- Unless one of them is a regular expression, the operands are folded one after the other. -/
theorem foldOperands_eq {operator : Operator} (text : operator ≠ .isMatch) (left right : Target) :
    foldOperands options operator left right = (do
      let left ← folded options left
      return (left, ← folded options right)) := by
  funext settings
  show foldOperands options operator left right settings
    = (folded options left settings >>= fun left => folded options right settings >>= fun right =>
      pure (left, right))
  show (if options.caseInsensitive ∧ settings.foldsCase then (do
        let left ← foldCase left
        let right ← if operator = .isMatch then pure right else foldCase right
        return (left, right))
      else return (left, right) : Lowering (Target × Target)) settings = _
  rw [folded_run, folded_run]
  by_cases folds : options.caseInsensitive ∧ settings.foldsCase
  · simp only [if_pos folds, if_neg text]
    rfl
  · simp only [if_neg folds]
    rfl

theorem alike_folded {t t' : Target} (h : t.Alike false .outer t') :
    Alike .outer (folded options t) (folded options t') (Target.Alike false .outer) := by
  unfold folded
  refine alike_settings.bind ?_
  rintro settings _ rfl
  split
  · exact alike_foldCase h
  · exact alike_pure h

/-! ## Bounds -/

/-- The kind of the items of a list of two items of one kind. -/
def pairKind (kind : Kind) : Kind := if kind = .null then .any else kind

theorem commonKind_pair (kind : Kind) : commonKind none [kind, kind] = pairKind kind := by
  by_cases null : kind = .null
  · subst null
    rfl
  · simp [commonKind, pairKind, null]

/-- Two items of one kind are left as they are in a list. -/
theorem list_pair {lower upper : Target} (same : lower.kind = upper.kind) :
    list [lower, upper] = pure (.list (.sequence (pairKind lower.kind)) [lower, upper]) := by
  have element : commonKind none ([lower, upper].map Target.kind) = pairKind lower.kind := by
    rw [← commonKind_pair]
    simp [same]
  unfold list
  rw [element]
  dsimp only
  -- Only to a castable kind the items are cast, and they have it already.
  split
  · rename_i castable
    have own : pairKind lower.kind = lower.kind := by
      unfold pairKind at castable ⊢
      split
      · rename_i null
        rw [if_pos null] at castable
        cases castable
      · rfl
    have kept {t : Target} (is : t.kind = lower.kind) : t.cast (pairKind lower.kind) = .ok t :=
      if_pos (.inl (is.trans own.symm))
    simp only [List.mapM_cons, kept rfl, kept same.symm]
    rfl
  · rfl

/-- What is no collection and cannot be a string is not folded. -/
theorem foldCase_of_other {t : Target} (single : t.kind.isSequence = false)
    (other : mayBeString t.kind = false) : foldCase t = pure t := by
  unfold foldCase
  split
  · rename_i kind items
    split
    · cases single
    · exact if_neg (Bool.eq_false_iff.mp other)
  · split
    · rename_i element is
      rw [is] at single
      cases single
    · exact if_neg (Bool.eq_false_iff.mp other)

/-- The strings in a list of two items of one kind are folded as they are one by one. -/
theorem folded_pair {lower upper : Target} (same : lower.kind = upper.kind)
    (single : lower.kind.isSequence = false) :
    folded options (.list (.sequence (pairKind lower.kind)) [lower, upper]) = (do
      let lower' ← folded options lower
      let upper' ← folded options upper
      return .list (.sequence (pairKind lower.kind)) [lower', upper']) := by
  have items : foldCase (.list (.sequence (pairKind lower.kind)) [lower, upper]) = (do
      let lower' ← foldCase lower
      let upper' ← foldCase upper
      return .list (.sequence (pairKind lower.kind)) [lower', upper']) := by
    rw [foldCase]
    -- If its items cannot be strings, the list is left alone and so is each of them.
    by_cases text : mayBeString (pairKind lower.kind)
    · rw [if_pos text]
      simp only [foldCaseAll, bind_assoc, pure_bind]
    · have other : mayBeString lower.kind = false := by
        rw [Bool.not_eq_true] at text
        unfold pairKind at text
        split at text
        · cases text
        · exact text
      rw [if_neg text, foldCase_of_other single other,
        foldCase_of_other (same ▸ single) (same ▸ other)]
      simp only [pure_bind]
  funext settings
  show _ = (folded options lower settings >>= fun lower' => folded options upper settings >>=
    fun upper' => pure (Target.list (.sequence (pairKind lower.kind)) [lower', upper']))
  rw [folded_run, folded_run _ lower, folded_run _ upper]
  by_cases folds : options.caseInsensitive ∧ settings.foldsCase
  · simp only [if_pos folds]
    rw [items]
    rfl
  · simp only [if_neg folds]
    rfl

/-! ## Comparisons -/

/-- Operands of one comparison, which have been lowered, folded and compared in a scope. -/
def compared (options : Options) (settings : Settings) (scope : Scope) (op : BinaryOp)
    (t s : Target) : Except Error Target := do
  let u ← outcome (folded options t) settings scope
  let v ← outcome (folded options s) settings scope
  outcome (relate op u v) settings scope

/-- An operand between two others, all of which are lowered, folded and compared in a scope. -/
def ranged (options : Options) (settings : Settings) (scope : Scope) (t lower upper : Target) :
    Except Error Target := do
  let u ← outcome (folded options t) settings scope
  let v ← outcome (folded options lower) settings scope
  let w ← outcome (folded options upper) settings scope
  let low ← outcome (relate .greaterEqual u v) settings scope
  let high ← outcome (relate .lessEqual u w) settings scope
  return .binary .boolean .andAlso low high

theorem comparison_relate {operator : Operator} {op : BinaryOp} (text : operator ≠ .isMatch)
    (is : compare operator = relate op) (t s : Target) :
    comparison operator .direct options t s = (do
      let u ← folded options t
      let v ← folded options s
      relate op u v) := by
  unfold comparison
  rw [foldOperands_eq text]
  simp only [bind_assoc, pure_bind, quantifier?, is]

/-- What a comparison comes to where it stands once, it comes to wherever the same is in scope. -/
theorem comes_comparison (options : Options) (settings : Settings) (operator : Operator)
    {x y : Expr} (pure : x.isPure) (pure' : y.isPure) {op : BinaryOp} (text : operator ≠ .isMatch)
    (is : compare operator = relate op) {scope : Scope} (proper : scope.IsProper) :
    Comes settings scope.bindings
      (do
        let t ← x.lower.outcome settings scope
        let s ← y.lower.outcome settings scope
        compared options settings scope op t s)
      (Predicate.comparison x operator y .direct options).lower (Target.Alike false .outer) := by
  refine (Expr.comes_lower settings pure proper).bind fun t t' _ left =>
    (Expr.comes_lower settings pure' proper).bind fun s s' _ right => ?_
  rw [comparison_relate text is]
  exact ((alike_folded left).comes scope).bind fun u u' _ left =>
    ((alike_folded right).comes scope).bind fun v v' _ right =>
      (alike_relate op left right).comes scope

/-- Two alike operands in a list. -/
def Bounds (p : Target × Target) (list : Target) : Prop :=
  ∃ lower upper, list = .list (.sequence (pairKind lower.kind)) [lower, upper]
    ∧ p.1.Alike false .outer lower ∧ p.2.Alike false .outer upper

theorem comes_bounds {lo hi : Expr} (pure : lo.isPure) (pure' : hi.isPure) {scope : Scope}
    (proper : scope.IsProper) {l h : Target} (lower : lo.lower.outcome settings scope = .ok l)
    (upper : hi.lower.outcome settings scope = .ok h) (same : l.kind = h.kind) :
    Comes settings scope.bindings (.ok (l, h)) (Expr.list [lo, hi]).lower Bounds := by
  have items : (Expr.list [lo, hi]).lower = (do
      let l ← lo.lower
      let h ← hi.lower
      list [l, h]) := by
    simp only [Expr.lower, Expr.lowerAll, bind_assoc, pure_bind]
  have first := Expr.comes_lower settings pure proper
  have second := Expr.comes_lower settings pure' proper
  rw [lower] at first
  rw [upper] at second
  rw [items]
  show Comes settings _ (do let a ← Except.ok l; let b ← Except.ok h; return (a, b)) _ _
  refine first.bind fun a l' is left => second.bind fun b h' is' right => ?_
  cases is
  cases is'
  rw [list_pair (left.kind_eq.trans (same.trans right.kind_eq.symm))]
  exact comes_pure ⟨l', h', rfl, left, right⟩

theorem comparison_between {t lower upper : Target} (same : lower.kind = upper.kind)
    (single : lower.kind.isSequence = false) :
    comparison .between .direct options t
        (.list (.sequence (pairKind lower.kind)) [lower, upper]) = (do
      let u ← folded options t
      let v ← folded options lower
      let w ← folded options upper
      between u (.list (.sequence (pairKind lower.kind)) [v, w])) := by
  unfold comparison
  rw [foldOperands_eq (show Operator.between ≠ .isMatch from nofun), folded_pair same single]
  simp only [bind_assoc, pure_bind, quantifier?, compare]

/-- A range comes to two comparisons, for which each operand is lowered once. -/
theorem comes_between {x lo hi : Expr} (pure : x.isPure) (pure' : lo.isPure) (pure'' : hi.isPure)
    {scope : Scope} (proper : scope.IsProper) {l h : Target}
    (lower : lo.lower.outcome settings scope = .ok l)
    (upper : hi.lower.outcome settings scope = .ok h) (same : l.kind = h.kind)
    (single : l.kind.isSequence = false) :
    Comes settings scope.bindings
      (do
        let t ← x.lower.outcome settings scope
        ranged options settings scope t l h)
      (Predicate.comparison x .between (.list [lo, hi]) .direct options).lower
      (Target.Alike false .outer) := by
  refine (Expr.comes_lower settings pure proper).bind fun t t' _ value => ?_
  show Comes settings _ (do
    let p ← Except.ok (l, h)
    ranged options settings scope t p.1 p.2) _ _
  refine (comes_bounds pure' pure'' proper lower upper same).bind fun p list is bounds => ?_
  cases is
  obtain ⟨l', h', rfl, left, right⟩ := bounds
  rw [comparison_between (left.kind_eq.trans (same.trans right.kind_eq.symm))
    (left.kind_eq ▸ single)]
  refine ((alike_folded value).comes scope).bind fun u u' _ value => ?_
  refine ((alike_folded left).comes scope).bind fun v v' _ left => ?_
  refine ((alike_folded right).comes scope).bind fun w w' _ right => ?_
  -- An operand without effects is not kept under a name but stands in both comparisons.
  have quiet : u'.hasEffects = false := value.hasEffects_eq.trans value.hasEffects_eq_false
  rw [between, shared_of_pure quiet]
  exact ((alike_relate _ value left).comes scope).bind fun _ _ _ low =>
    ((alike_relate _ value right).comes scope).bind fun _ _ _ high =>
      comes_pure (.binary _ .andAlso low high)

end Lowering

/-! ## Answers -/

/-- The bounds are folded and compared one after the other, or each is compared as soon as it is
folded. -/
theorem agrees_ranged (options : Options) (settings : Settings) (scope : Scope)
    (made : Except Error Target) (l h : Target) :
    Agrees Eq (do
        let t ← made
        ranged options settings scope t l h)
      (do
        let low ← (do let t ← made; compared options settings scope .greaterEqual t l)
        let high ← (do let t ← made; compared options settings scope .lessEqual t h)
        return .binary .boolean .andAlso low high) := by
  cases made with
  | error e => exact .error e e
  | ok t =>
    show Agrees Eq (ranged options settings scope t l h) (do
      let low ← compared options settings scope .greaterEqual t l
      let high ← compared options settings scope .lessEqual t h
      return .binary .boolean .andAlso low high)
    unfold ranged compared
    simp only [bind_assoc]
    cases outcome (folded options t) settings scope with
    | error e => exact .error e e
    | ok u =>
      cases outcome (folded options l) settings scope with
      | error e => exact .error e e
      | ok v =>
        exact agrees_swap (outcome (folded options h) settings scope)
          (outcome (relate .greaterEqual u v) settings scope) fun w low => do
            let high ← outcome (relate .lessEqual u w) settings scope
            return Target.binary .boolean .andAlso low high

section

variable {x lo hi : Expr} {kind : Kind} {settings : Settings} {l h : Target}

/-- A range with bounds of one kind says the same as two comparisons. -/
theorem Predicate.answer?_between (pure : x.isPure) (pure' : lo.isPure) (pure'' : hi.isPure)
    (lower : lo.target kind settings = .ok l) (upper : hi.target kind settings = .ok h)
    (same : l.kind = h.kind) (single : l.kind.isSequence = false) (options : Options)
    (object : Value) (world : World) (memory : Memory) :
    (comparison x .between (.list [lo, hi]) .direct options).answer? kind settings object world
        memory
      = (compound .and [comparison x .greaterEqual lo .direct options,
          comparison x .lessEqual hi .direct options]).answer? kind settings object world memory := by
  have proper := Scope.isProper_root kind settings
  have low := comes_comparison options settings .greaterEqual pure pure' nofun rfl proper
  have high := comes_comparison options settings .lessEqual pure pure'' nofun rfl proper
  rw [show lo.lower.outcome settings (.root kind settings) = .ok l from lower] at low
  rw [show hi.lower.outcome settings (.root kind settings) = .ok h from upper] at high
  exact answer?_eq_of_comes (comes_between pure pure' pure'' proper lower upper same single)
    (comes_and low high) (agrees_ranged options settings _ _ l h) object world memory

end

/-- `B` is between `a` and `M` if letter case is left aside, and before both of them if not. -/
theorem Predicate.answer?_between_letters :
    (comparison (.path "name") .between (.list [.constant (.string "a"), .constant (.string "M")])
        .direct ⟨true, false, false⟩).answer? .any (.ofDialect .objects)
        (.object [("name", .string "B")]) ⟨.reference, fun _ => 0⟩ .empty = some true
      ∧ (comparison (.path "name") .between
          (.list [.constant (.string "a"), .constant (.string "M")]) .direct .none).answer? .any
          (.ofDialect .objects) (.object [("name", .string "B")]) ⟨.reference, fun _ => 0⟩ .empty
        = some false := by
  have folded : (compound .and
      [comparison (.path "name") .greaterEqual (.constant (.string "a")) .direct
          ⟨true, false, false⟩,
        comparison (.path "name") .lessEqual (.constant (.string "M")) .direct
          ⟨true, false, false⟩]).answer? .any (.ofDialect .objects)
        (.object [("name", .string "B")]) ⟨.reference, fun _ => 0⟩ .empty = some true := by
    decide +kernel
  have plain : (compound .and
      [comparison (.path "name") .greaterEqual (.constant (.string "a")) .direct .none,
        comparison (.path "name") .lessEqual (.constant (.string "M")) .direct .none]).answer? .any
        (.ofDialect .objects) (.object [("name", .string "B")]) ⟨.reference, fun _ => 0⟩ .empty
      = some false := by
    decide +kernel
  have lower : (Expr.constant (.string "a")).target .any (.ofDialect .objects)
      = .ok (.ofValue (.string "a")) := rfl
  have upper : (Expr.constant (.string "M")).target .any (.ofDialect .objects)
      = .ok (.ofValue (.string "M")) := rfl
  constructor
  · rw [answer?_between rfl rfl rfl lower upper rfl rfl]
    exact folded
  · rw [answer?_between rfl rfl rfl lower upper rfl rfl]
    exact plain

end PredicateLang
