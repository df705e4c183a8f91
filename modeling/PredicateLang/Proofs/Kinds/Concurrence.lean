import PredicateLang.Proofs.Kinds.Wrapping

/-!
# Trees for different kinds of objects

A predicate is lowered to different trees for the kind that is inferred from an object and for
objects of which nothing is known. `Target.Concurs known ρ t u` lists what such trees may differ in,
and says of each difference that nothing notices it in the surroundings that are known: the default
of a guard is the same, or never used; what is done to an operand of the one tree and not of the
other makes no difference to the operation; results of one kind are the same as those of another.
Trees that concur give the same, as far as both give anything (`Target.Concurs.accord`).

In surroundings that there are never, nothing is noticed. There `Concurs` says only what the trees
may differ in.
-/

namespace PredicateLang

open Tracing

/-- The calls have the same value, if both have one. -/
def Tracing.SameCall (builtin : Builtin) (args args' : List Value) : Prop :=
  ∀ world around store v v', (call builtin args world around store).result = .ok v →
    (call builtin args' world around store).result = .ok v' → v = v'

namespace Target

/-- In such surroundings the tree may be evaluated to this. -/
def MayGive (known : Known) (t : Target) (v : Value) : Prop := t.traced.MayGive known v

/-- In such surroundings the tree may be evaluated to an array with this item. -/
def MayList (known : Known) (t : Target) (item : Value) : Prop :=
  ∃ items, t.MayGive known (.array items) ∧ item ∈ items

/-! ## Differences -/

mutual

/-- The trees differ in nothing that is noticed in the surroundings that are known. -/
inductive Concurs : Known → Naming → Target → Target → Prop where
  | constant {known ρ} (kind kind' : Kind) (value : Value) :
    Concurs known ρ (.constant kind value) (.constant kind' value)
  | parameter {known ρ x y} (kind kind' : Kind) (join : ρ x y) :
    Concurs known ρ (.parameter kind x) (.parameter kind' y)
  /-- What is done to the value of the one tree comes to the same as what is done to the other. -/
  | changed {known ρ t t' u u'} {F F' : Value → Value → Prop} (core : Concurs known ρ t u)
    (change : Changes F t t') (change' : Changes F' u u')
    (unnoticed : ∀ v w w', t.MayGive known v → F v w → F' v w' → w = w') :
    Concurs known ρ t' u'
  /-- The defaults are the same, or the subject is never null. -/
  | guard {known ρ s s' a b t t'} (kind kind' : Kind) (subject : Concurs known ρ s s')
    (unnoticed : t.kind.default = t'.kind.default ∨ ∀ v, s.MayGive known v → v.isNull = false)
    (body : Concurs (known.push a fun v => s.MayGive known v ∧ v.isNull = false) (ρ.push a b)
      t t') :
    Concurs known ρ (.guard kind s a t) (.guard kind' s' b t')
  | filter {known ρ s s' name t t'} (kind kind' : Kind) (source : Concurs known ρ s s')
    (join : ρ name name) (predicate : Concurs (known.push name (s.MayList known)) ρ t t') :
    Concurs known ρ (.filter kind s name t) (.filter kind' s' name t')
  | quantify {known ρ s s' a b t t'} (kind kind' : Kind) (quantifier : Quantifier)
    (source : Concurs known ρ s s')
    (predicate : Concurs (known.push a (s.MayList known)) (ρ.push a b) t t') :
    Concurs known ρ (.quantify kind quantifier s a t) (.quantify kind' quantifier s' b t')
  | count {known ρ s s'} (kind kind' : Kind) (source : Concurs known ρ s s') :
    Concurs known ρ (.count kind s) (.count kind' s')
  /-- The kind that is asked for makes no difference to the reduction. -/
  | reduce {known ρ s s'} (kind kind' : Kind) (reduction : Reduction)
    (source : Concurs known ρ s s')
    (unnoticed : ∀ items v v', s.MayGive known (.array items) →
      Evaluation.reduce kind reduction items = .ok v →
      Evaluation.reduce kind' reduction items = .ok v' → v = v') :
    Concurs known ρ (.reduce kind reduction s) (.reduce kind' reduction s')
  | elementAt {known ρ s s' t t'} (kind kind' : Kind) (source : Concurs known ρ s s')
    (index : Concurs known ρ t t') :
    Concurs known ρ (.elementAt kind s t) (.elementAt kind' s' t')
  | list {known ρ ts us} (kind kind' : Kind) (items : AllConcur known ρ ts us) :
    Concurs known ρ (.list kind ts) (.list kind' us)
  | connective {known ρ l l' r r'} (kind kind' : Kind) (op : BinaryOp) (is : op.isConnective)
    (left : Concurs known ρ l l') (right : Concurs known ρ r r') :
    Concurs known ρ (.binary kind op l r) (.binary kind' op l' r')
  /-- What is done to the operands, and the kind that is asked for, make no difference to the
  operation. -/
  | binary {known ρ l l₁ l' l₂ r r₁ r' r₂} {F F' G G' : Value → Value → Prop} (kind kind' : Kind)
    {op : BinaryOp} (strict : op.isConnective = false) (left : Concurs known ρ l l')
    (changeL : Changes F l l₁) (changeL' : Changes F' l' l₂) (right : Concurs known ρ r r')
    (changeR : Changes G r r₁) (changeR' : Changes G' r' r₂)
    (unnoticed : ∀ x y x₁ y₁ x₂ y₂ v v', l.MayGive known x → r.MayGive known y → F x x₁ → G y y₁ →
      F' x x₂ → G' y y₂ → Evaluation.binary kind op x₁ y₁ = .ok v →
      Evaluation.binary kind' op x₂ y₂ = .ok v' → v = v') :
    Concurs known ρ (.binary kind op l₁ r₁) (.binary kind' op l₂ r₂)
  | unary {known ρ t t'} (kind kind' : Kind) (op : UnaryOp) (operand : Concurs known ρ t t') :
    Concurs known ρ (.unary kind op t) (.unary kind' op t')
  /-- What is done to the arguments makes no difference to the call. -/
  | call {known ρ ts ts' us us'} {F F' : List Value → List Value → Prop} (kind kind' : Kind)
    {builtin : Builtin} (still : builtin ≠ .random ∧ builtin ≠ .randomBelow)
    (args : AllConcur known ρ ts us) (change : AllChange F ts ts') (change' : AllChange F' us us')
    (unnoticed : ∀ vs ws ws', (tracedAll ts).MayGive known vs → F vs ws → F' vs ws' →
      SameCall builtin ws ws') :
    Concurs known ρ (.call kind builtin ts') (.call kind' builtin us')

/-- The trees concur one by one. -/
inductive AllConcur : Known → Naming → List Target → List Target → Prop where
  | nil {known ρ} : AllConcur known ρ [] []
  | cons {known ρ t u ts us} (first : Concurs known ρ t u) (rest : AllConcur known ρ ts us) :
    AllConcur known ρ (t :: ts) (u :: us)

end

mutual

/-- Trees concur as well where more names stand for the same. -/
theorem Concurs.extend {known : Known} {ρ ρ' : Naming} {t u : Target} (h : Concurs known ρ t u)
    (extend : ρ.Extend ρ') : Concurs known ρ' t u :=
  match h with
  | .constant kind kind' value => .constant kind kind' value
  | .parameter kind kind' join => .parameter kind kind' (extend _ _ join)
  | .changed core change change' unnoticed =>
    .changed (core.extend extend) change change' unnoticed
  | .guard kind kind' subject unnoticed body =>
    .guard kind kind' (subject.extend extend) unnoticed (body.extend (extend.push _ _))
  | .filter kind kind' source join predicate =>
    .filter kind kind' (source.extend extend) (extend _ _ join) (predicate.extend extend)
  | .quantify kind kind' quantifier source predicate =>
    .quantify kind kind' quantifier (source.extend extend) (predicate.extend (extend.push _ _))
  | .count kind kind' source => .count kind kind' (source.extend extend)
  | .reduce kind kind' reduction source unnoticed =>
    .reduce kind kind' reduction (source.extend extend) unnoticed
  | .elementAt kind kind' source index =>
    .elementAt kind kind' (source.extend extend) (index.extend extend)
  | .list kind kind' items => .list kind kind' (items.extend extend)
  | .connective kind kind' op is left right =>
    .connective kind kind' op is (left.extend extend) (right.extend extend)
  | .binary kind kind' strict left changeL changeL' right changeR changeR' unnoticed =>
    .binary kind kind' strict (left.extend extend) changeL changeL' (right.extend extend) changeR
      changeR' unnoticed
  | .unary kind kind' op operand => .unary kind kind' op (operand.extend extend)
  | .call kind kind' still args change change' unnoticed =>
    .call kind kind' still (args.extend extend) change change' unnoticed

theorem AllConcur.extend {known : Known} {ρ ρ' : Naming} {ts us : List Target}
    (h : AllConcur known ρ ts us) (extend : ρ.Extend ρ') : AllConcur known ρ' ts us :=
  match h with
  | .nil => .nil
  | .cons first rest => .cons (first.extend extend) (rest.extend extend)

end

mutual

/-- Neither of the trees has effects. -/
theorem Concurs.hasEffects_eq_false {known : Known} {ρ : Naming} {t u : Target}
    (h : Concurs known ρ t u) : t.hasEffects = false ∧ u.hasEffects = false := by
  match h with
  | .constant .. | .parameter .. => exact ⟨rfl, rfl⟩
  | .changed core change change' _ =>
    rw [change.hasEffects_eq, change'.hasEffects_eq]
    exact core.hasEffects_eq_false
  | .count _ _ h | .reduce _ _ _ h _ | .unary _ _ _ h => exact h.hasEffects_eq_false
  | .guard _ _ h _ h' | .filter _ _ h _ h' | .quantify _ _ _ h h' | .elementAt _ _ h h'
  | .connective _ _ _ _ h h' =>
    simp only [hasEffects, h.hasEffects_eq_false, h'.hasEffects_eq_false, Bool.or_false, and_self]
  | .list _ _ h => exact h.anyHasEffects_eq_false
  | .binary _ _ _ h changeL changeL' h' changeR changeR' _ =>
    simp only [hasEffects, changeL.hasEffects_eq, changeL'.hasEffects_eq, changeR.hasEffects_eq,
      changeR'.hasEffects_eq, h.hasEffects_eq_false, h'.hasEffects_eq_false, Bool.or_false,
      and_self]
  | .call _ _ still h change change' _ =>
    simp only [hasEffects, change.anyHasEffects_eq, change'.anyHasEffects_eq,
      h.anyHasEffects_eq_false, decide_eq_false still.1, decide_eq_false still.2, Bool.or_false,
      and_self]

theorem AllConcur.anyHasEffects_eq_false {known : Known} {ρ : Naming} {ts us : List Target}
    (h : AllConcur known ρ ts us) : anyHasEffects ts = false ∧ anyHasEffects us = false := by
  match h with
  | .nil => exact ⟨rfl, rfl⟩
  | .cons first rest =>
    simp only [anyHasEffects, first.hasEffects_eq_false, rest.anyHasEffects_eq_false,
      Bool.or_false, and_self]

end

/-! ## Evaluation -/

section

variable {known : Known} {ρ : Naming}

/-- Values of trees that are changed come from one value. -/
theorem accord_changed {t t' u u' : Target} {F F' : Value → Value → Prop}
    (h : Accord known ρ Eq t.traced u.traced) (change : Changes F t t')
    (change' : Changes F' u u') :
    Accord known ρ (fun w w' => ∃ v, t.MayGive known v ∧ F v w ∧ F' v w') t'.traced u'.traced := by
  intro world around around' store w w' holds same ok ok'
  obtain ⟨v, given, comes, stores⟩ := change.exists_of_ok ok
  obtain ⟨v', given', comes', stores'⟩ := change'.exists_of_ok ok'
  obtain ⟨rfl, left⟩ := h world around around' store v v' holds same given given'
  exact ⟨⟨v, ⟨world, around, store, holds, given⟩, comes, comes'⟩,
    stores'.trans (left.trans stores.symm)⟩

theorem accord_allChanged {ts ts' us us' : List Target} {F F' : List Value → List Value → Prop}
    (h : Accord known ρ Eq (tracedAll ts) (tracedAll us)) (change : AllChange F ts ts')
    (change' : AllChange F' us us') :
    Accord known ρ (fun ws ws' => ∃ vs, (tracedAll ts).MayGive known vs ∧ F vs ws ∧ F' vs ws')
      (tracedAll ts') (tracedAll us') := by
  intro world around around' store ws ws' holds same ok ok'
  obtain ⟨vs, given, comes, stores⟩ := change.exists_of_ok ok
  obtain ⟨vs', given', comes', stores'⟩ := change'.exists_of_ok ok'
  obtain ⟨rfl, left⟩ := h world around around' store vs vs' holds same given given'
  exact ⟨⟨vs, ⟨world, around, store, holds, given⟩, comes, comes'⟩,
    stores'.trans (left.trans stores.symm)⟩

theorem accord_call {builtin : Builtin} (still : builtin ≠ .random ∧ builtin ≠ .randomBelow)
    {args args' : List Value} (same : SameCall builtin args args') :
    Accord known ρ Eq (Tracing.call builtin args) (Tracing.call builtin args') := by
  intro world around around' store v v' _ match' ok ok'
  have follow := follow_call builtin args' world around around' store match'
  refine ⟨same world around store v v' ok (follow.result.symm.trans ok'), ?_⟩
  rw [(quiet_call still args' world around' store).2, (quiet_call still args world around store).2]

end

mutual

/-- Trees that concur give the same, as far as both give anything. -/
theorem Concurs.accord {known : Known} {ρ : Naming} {t u : Target} (h : Concurs known ρ t u) :
    Accord known ρ Eq t.traced u.traced := by
  match h with
  | .constant _ _ _ => exact accord_pure rfl
  | .parameter _ _ join => exact (follow_lookup join).accord
  | .changed core change change' unnoticed =>
    refine (accord_changed core.accord change change').mono ?_
    rintro w w' ⟨v, given, comes, comes'⟩
    exact unnoticed v w w' given comes comes'
  | .guard _ _ subject unnoticed body =>
    refine subject.accord.told.bind ?_
    rintro v _ ⟨rfl, given⟩
    cases null : v.isNull with
    | true =>
      rcases unnoticed with same | never
      · exact accord_pure same
      · cases null.symm.trans (never v given)
    | false => exact body.accord.withSlot (Naming.open_push _ _ _) ⟨given, null⟩
  | .filter _ _ source join predicate =>
    refine source.accord.items (accord_pure rfl) fun items given => ?_
    refine ((predicate.accord.truth.inside _).filterItems (Naming.open_self join)
      fun item mem => ⟨items, given, mem⟩).bind ?_
    rintro kept _ rfl
    exact accord_pure rfl
  | .quantify _ _ quantifier source predicate =>
    refine source.accord.items (accord_pure rfl) fun items given => ?_
    refine (predicate.accord.truth.quantifyItems (Naming.open_push _ _ _) quantifier
      fun item mem => ⟨items, given, mem⟩).bind ?_
    rintro b _ rfl
    exact accord_pure rfl
  | .count _ _ h | .unary _ _ _ h =>
    refine h.accord.bind ?_
    rintro v _ rfl
    exact (follow_still _).accord
  | .reduce kind kind' reduction source unnoticed =>
    refine source.accord.items (accord_pure rfl) fun items given => ?_
    exact accord_ofResult fun v v' ok ok' => unnoticed items v v' given ok ok'
  | .elementAt _ _ source index =>
    refine source.accord.bind ?_
    rintro v _ rfl
    refine index.accord.bind ?_
    rintro i _ rfl
    exact (follow_still _).accord
  | .list _ _ items =>
    refine items.accord.bind ?_
    rintro values _ rfl
    exact accord_pure rfl
  | .connective _ _ op is left right =>
    have left := left.accord
    have right := right.accord
    cases op with
    | andAlso | orElse =>
      -- The right side is evaluated or not.
      refine left.bind ?_
      rintro v _ rfl
      refine (follow_still _).accord.bind ?_
      rintro b _ rfl
      cases b with
      | true | false => first
        | exact accord_pure rfl
        | refine right.bind ?_
          rintro w _ rfl
          refine (follow_still _).accord.bind ?_
          rintro b _ rfl
          exact accord_pure rfl
    | _ => cases is
  | .binary kind kind' strict left changeL changeL' right changeR changeR' unnoticed =>
    rw [traced_binary kind strict, traced_binary kind' strict]
    refine (accord_changed left.accord changeL changeL').bind ?_
    rintro x₁ x₂ ⟨x, given, comes, comes'⟩
    refine (accord_changed right.accord changeR changeR').bind ?_
    rintro y₁ y₂ ⟨y, given', comesR, comesR'⟩
    exact accord_ofResult fun v v' ok ok' =>
      unnoticed x y x₁ y₁ x₂ y₂ v v' given given' comes comesR comes' comesR' ok ok'
  | .call _ _ still args change change' unnoticed =>
    refine (accord_allChanged args.accord change change').bind ?_
    rintro ws ws' ⟨vs, given, comes, comes'⟩
    exact accord_call still (unnoticed vs ws ws' given comes comes')

theorem AllConcur.accord {known : Known} {ρ : Naming} {ts us : List Target}
    (h : AllConcur known ρ ts us) : Accord known ρ Eq (tracedAll ts) (tracedAll us) := by
  match h with
  | .nil => exact accord_pure rfl
  | .cons first rest =>
    refine first.accord.bind ?_
    rintro v _ rfl
    refine rest.accord.bind ?_
    rintro values _ rfl
    exact accord_pure rfl

end

end Target

end PredicateLang
