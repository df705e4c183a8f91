import PredicateLang.Lowering.Scope

/-!
# Trees alike but for made-up names

Lowering numbers the names that it makes up, so that one expression is lowered to different trees in
different places. `Target.Alike effects ρ t t'` says of two trees that they are the same but for such
names. The naming `ρ` says which names that are open around them stand for the same. A tree that is
alike to itself where only names that are not made up stand for themselves reads nothing from
outside but the object and variables.

The relation also keeps account of effects: unless `effects` is true, no variable is assigned and no
random number is drawn in the trees.
-/

namespace PredicateLang

/-! ## Made-up names -/

namespace Scope

/-- Is it a name that lowering makes up? -/
def isMadeUp (name : String) : Bool := name.toList.head? = some '#'

/-- The made-up name with a letter and a number. -/
def madeUp (letter : String) (number : Nat) : String := "#" ++ letter ++ toString number

@[simp] theorem isMadeUp_madeUp (letter : String) (number : Nat) :
    isMadeUp (madeUp letter number) := by
  simp [isMadeUp, madeUp]

@[simp] theorem isMadeUp_variableKey (name : String) : isMadeUp (variableKey name) = false := by
  simp [isMadeUp, variableKey]

theorem ne_of_isMadeUp {name other : String} (outer : isMadeUp name = false)
    (made : isMadeUp other) : name ≠ other := by
  rintro rfl
  rw [outer] at made
  cases made

/-- Behind letters of the same length, different numbers make different names. -/
theorem number_eq {letter letter' : String} {number number' : Nat}
    (h : madeUp letter number = madeUp letter' number')
    (length : letter.toList.length = letter'.toList.length) : number = number' := by
  have chars := congrArg String.toList h
  simp only [madeUp, String.toList_append, List.append_assoc, List.append_cancel_left_eq] at chars
  have digits := congrArg (fun cs => Nat.ofDigitChars 10 cs 0) (List.append_inj chars length).2
  simpa [Nat.toString_eq_ofList_toDigits] using digits

/-- The name was made up with one letter and at most the number that the counter has reached. -/
def IsMade (counter : Nat) (name : String) : Prop :=
  ∃ letter number, letter.toList.length = 1 ∧ number ≤ counter ∧ name = madeUp letter number

theorem IsMade.mono {counter counter' : Nat} {name : String} (h : IsMade counter name)
    (le : counter ≤ counter') : IsMade counter' name := by
  obtain ⟨letter, number, length, le', rfl⟩ := h
  exact ⟨letter, number, length, Nat.le_trans le' le, rfl⟩

/-- The next name is none of those that were made up before. -/
theorem IsMade.ne_next {counter : Nat} {name letter : String} (h : IsMade counter name)
    (length : letter.toList.length = 1) : name ≠ madeUp letter (counter + 1) := by
  obtain ⟨letter', number, length', le, rfl⟩ := h
  intro same
  have := number_eq same (length'.trans length.symm)
  omega

end Scope

/-! ## Names that stand for the same -/

/-- Which names of two trees stand for the same. -/
abbrev Naming := String → String → Prop

namespace Naming

/-- Each of the names stands for itself. Made-up names are none of them. -/
def only (names : String → Prop) : Naming := fun x y =>
  x = y ∧ Scope.isMadeUp x = false ∧ names x

/-- Every name stands for itself, unless it is made up. -/
abbrev outer : Naming := only fun _ => True

/-- Two more names that stand for the same and hide what these names stood for before. -/
def push (ρ : Naming) (a b : String) : Naming := fun x y =>
  (x = a ∧ y = b) ∨ (x ≠ a ∧ y ≠ b ∧ ρ x y)

/-- What stands for the same in the one does so in the other. -/
def Extend (ρ ρ' : Naming) : Prop := ∀ x y, ρ x y → ρ' x y

/-- No name stands for two. -/
def OneToOne (ρ : Naming) : Prop := ∀ x y x' y', ρ x y → ρ x' y' → (x = x' ↔ y = y')

/-- The names were there before the counters reached where they are. -/
def Old (ρ : Naming) (counter counter' : Nat) : Prop :=
  ∀ x y, ρ x y → (Scope.isMadeUp x → Scope.IsMade counter x)
    ∧ (Scope.isMadeUp y → Scope.IsMade counter' y)

variable {ρ ρ' ρ'' : Naming} {counter counter' : Nat} {names names' : String → Prop}

theorem push_self (ρ : Naming) (a b : String) : ρ.push a b a b := .inl ⟨rfl, rfl⟩

theorem Extend.refl (ρ : Naming) : ρ.Extend ρ := fun _ _ h => h

theorem Extend.trans (h : ρ.Extend ρ') (h' : ρ'.Extend ρ'') : ρ.Extend ρ'' :=
  fun x y join => h' x y (h x y join)

theorem Extend.push (h : ρ.Extend ρ') (a b : String) : (ρ.push a b).Extend (ρ'.push a b) := by
  rintro x y (same | ⟨ne, ne', join⟩)
  · exact .inl same
  · exact .inr ⟨ne, ne', h x y join⟩

theorem extend_only (h : ∀ name, names name → names' name) : (only names).Extend (only names') := by
  rintro x y ⟨same, outer, known⟩
  exact ⟨same, outer, h x known⟩

theorem oneToOne_only (names : String → Prop) : (only names).OneToOne := by
  rintro x _ x' _ ⟨rfl, -⟩ ⟨rfl, -⟩
  exact Iff.rfl

theorem OneToOne.push (h : ρ.OneToOne) (a b : String) : (ρ.push a b).OneToOne := by
  rintro x y x' y' (⟨rfl, rfl⟩ | ⟨ne, ne', join⟩) (⟨rfl, rfl⟩ | ⟨other, other', join'⟩)
  · simp
  · exact ⟨fun same => absurd same.symm other, fun same => absurd same.symm other'⟩
  · exact ⟨fun same => absurd same ne, fun same => absurd same ne'⟩
  · exact h x y x' y' join join'

/-- Names that stand for the same have the same entries. Those without are the same name. -/
structure Joins {α : Type} (ρ : Naming) (entries entries' : Fields α) : Prop where
  unique : ρ.OneToOne
  same : ∀ x y, ρ x y → Fields.find? entries' y = Fields.find? entries x
  unbound : ∀ x y, ρ x y → Fields.find? entries x = none → x = y

section

variable {α : Type} {entries entries' : Fields α} {name : String}

/-- The same entry under two more names makes these stand for the same. -/
theorem Joins.push (h : ρ.Joins entries entries') (a b : String) (v : α) :
    (ρ.push a b).Joins ((a, v) :: entries) ((b, v) :: entries') := by
  refine ⟨h.unique.push a b, ?_, ?_⟩
  · rintro x y (⟨rfl, rfl⟩ | ⟨ne, ne', join⟩)
    · simp [Fields.find?]
    · simp only [Fields.find?, if_neg (Ne.symm ne), if_neg (Ne.symm ne')]
      exact h.same x y join
  · rintro x y (⟨rfl, rfl⟩ | ⟨ne, ne', join⟩) none
    · simp [Fields.find?] at none
    · simp only [Fields.find?, if_neg (Ne.symm ne)] at none
      exact h.unbound x y join none

/-- A name that stands for itself does so with another entry too. -/
theorem Joins.self (h : ρ.Joins entries entries') (stands : ρ name name) (v : α) :
    ρ.Joins ((name, v) :: entries) ((name, v) :: entries') := by
  refine ⟨h.unique, ?_, ?_⟩
  · intro x y join
    have both := h.unique x y name name join stands
    by_cases here : x = name
    · simp [Fields.find?, here, both.mp here]
    · have not_y : y ≠ name := fun same => here (both.mpr same)
      simp only [Fields.find?, if_neg (Ne.symm here), if_neg (Ne.symm not_y)]
      exact h.same x y join
  · intro x y join none
    by_cases here : x = name
    · simp [Fields.find?, here] at none
    · simp only [Fields.find?, if_neg (Ne.symm here)] at none
      exact h.unbound x y join none

end

/-- A name that is not made up is old at any time. -/
theorem old_only (names : String → Prop) (counter counter' : Nat) :
    (only names).Old counter counter' := by
  rintro x _ ⟨rfl, outer, -⟩
  simp [outer]

theorem Old.mono {n n' : Nat} (h : ρ.Old counter counter') (le : counter ≤ n)
    (le' : counter' ≤ n') : ρ.Old n n' := by
  intro x y join
  obtain ⟨made, made'⟩ := h x y join
  exact ⟨fun known => (made known).mono le, fun known => (made' known).mono le'⟩

theorem ne_madeUp {name letter : String} (length : letter.toList.length = 1)
    (made : Scope.isMadeUp name → Scope.IsMade counter name) :
    name ≠ Scope.madeUp letter (counter + 1) := by
  cases known : Scope.isMadeUp name with
  | true => exact (made known).ne_next length
  | false => exact Scope.ne_of_isMadeUp known (Scope.isMadeUp_madeUp _ _)

/-- The next names that are made up hide none of the names before. -/
theorem Old.extend_next (h : ρ.Old counter counter') {letter : String}
    (length : letter.toList.length = 1) :
    ρ.Extend (ρ.push (Scope.madeUp letter (counter + 1)) (Scope.madeUp letter (counter' + 1))) := by
  intro x y join
  obtain ⟨made, made'⟩ := h x y join
  exact .inr ⟨ne_madeUp length made, ne_madeUp length made', join⟩

theorem Old.next (h : ρ.Old counter counter') {letter : String}
    (length : letter.toList.length = 1) :
    (ρ.push (Scope.madeUp letter (counter + 1)) (Scope.madeUp letter (counter' + 1))).Old
      (counter + 1) (counter' + 1) := by
  rintro x y (⟨rfl, rfl⟩ | ⟨-, -, join⟩)
  · exact ⟨fun _ => ⟨letter, _, length, Nat.le_refl _, rfl⟩,
      fun _ => ⟨letter, _, length, Nat.le_refl _, rfl⟩⟩
  · exact h.mono (Nat.le_succ _) (Nat.le_succ _) x y join

end Naming

/-! ## Trees -/

namespace Target

mutual

/-- The trees are the same but for made-up names. -/
inductive Alike (effects : Bool) : Naming → Target → Target → Prop where
  | constant {ρ} (kind : Kind) (value : Value) :
    Alike effects ρ (.constant kind value) (.constant kind value)
  | parameter {ρ x y} (kind : Kind) (join : ρ x y) :
    Alike effects ρ (.parameter kind x) (.parameter kind y)
  | property {ρ t t'} (kind : Kind) (name : String) (receiver : Alike effects ρ t t') :
    Alike effects ρ (.property kind t name) (.property kind t' name)
  | guard {ρ s s' a b t t'} (kind : Kind) (subject : Alike effects ρ s s')
    (made : Scope.isMadeUp a ∧ Scope.isMadeUp b) (body : Alike effects (ρ.push a b) t t') :
    Alike effects ρ (.guard kind s a t) (.guard kind s' b t')
  | map {ρ s s' a b t t'} (kind : Kind) (source : Alike effects ρ s s')
    (made : Scope.isMadeUp a ∧ Scope.isMadeUp b) (body : Alike effects (ρ.push a b) t t') :
    Alike effects ρ (.map kind s a t) (.map kind s' b t')
  | filter {ρ s s' name t t'} (kind : Kind) (source : Alike effects ρ s s')
    (join : ρ name name) (predicate : Alike effects ρ t t') :
    Alike effects ρ (.filter kind s name t) (.filter kind s' name t')
  | quantify {ρ s s' a b t t'} (kind : Kind) (quantifier : Quantifier)
    (source : Alike effects ρ s s') (made : Scope.isMadeUp a ∧ Scope.isMadeUp b)
    (predicate : Alike effects (ρ.push a b) t t') :
    Alike effects ρ (.quantify kind quantifier s a t) (.quantify kind quantifier s' b t')
  | count {ρ s s'} (kind : Kind) (source : Alike effects ρ s s') :
    Alike effects ρ (.count kind s) (.count kind s')
  | reduce {ρ s s'} (kind : Kind) (reduction : Reduction) (source : Alike effects ρ s s') :
    Alike effects ρ (.reduce kind reduction s) (.reduce kind reduction s')
  | elementAt {ρ s s' t t'} (kind : Kind) (source : Alike effects ρ s s')
    (index : Alike effects ρ t t') : Alike effects ρ (.elementAt kind s t) (.elementAt kind s' t')
  | list {ρ ts ts'} (kind : Kind) (items : AllAlike effects ρ ts ts') :
    Alike effects ρ (.list kind ts) (.list kind ts')
  | binary {ρ s s' t t'} (kind : Kind) (op : BinaryOp) (left : Alike effects ρ s s')
    (right : Alike effects ρ t t') : Alike effects ρ (.binary kind op s t) (.binary kind op s' t')
  | unary {ρ t t'} (kind : Kind) (op : UnaryOp) (operand : Alike effects ρ t t') :
    Alike effects ρ (.unary kind op t) (.unary kind op t')
  | call {ρ ts ts'} (kind : Kind) (builtin : Builtin)
    (allowed : builtin = .random ∨ builtin = .randomBelow → effects)
    (args : AllAlike effects ρ ts ts') :
    Alike effects ρ (.call kind builtin ts) (.call kind builtin ts')
  | convert {ρ t t'} (kind : Kind) (operand : Alike effects ρ t t') :
    Alike effects ρ (.convert kind t) (.convert kind t')
  | assign {ρ t t'} (kind : Kind) (name : String) (allowed : effects)
    (value : Alike effects ρ t t') : Alike effects ρ (.assign kind name t) (.assign kind name t')
  | bind {ρ s s' a b t t'} (kind : Kind) (value : Alike effects ρ s s')
    (made : Scope.isMadeUp a ∧ Scope.isMadeUp b) (body : Alike effects (ρ.push a b) t t') :
    Alike effects ρ (.bind kind s a t) (.bind kind s' b t')

/-- The trees are the same, one by one, but for made-up names. -/
inductive AllAlike (effects : Bool) : Naming → List Target → List Target → Prop where
  | nil {ρ} : AllAlike effects ρ [] []
  | cons {ρ t t' ts ts'} (first : Alike effects ρ t t') (rest : AllAlike effects ρ ts ts') :
    AllAlike effects ρ (t :: ts) (t' :: ts')

end

variable {effects : Bool}

mutual

/-- Trees stay alike where more names stand for the same. -/
theorem Alike.extend {ρ ρ' : Naming} {t t' : Target} (h : Alike effects ρ t t')
    (extend : ρ.Extend ρ') : Alike effects ρ' t t' := by
  cases h with
  | constant kind value => exact .constant kind value
  | parameter kind join => exact .parameter kind (extend _ _ join)
  | property kind name receiver => exact .property kind name (receiver.extend extend)
  | guard kind subject made body =>
    exact .guard kind (subject.extend extend) made (body.extend (extend.push _ _))
  | map kind source made body =>
    exact .map kind (source.extend extend) made (body.extend (extend.push _ _))
  | filter kind source join predicate =>
    exact .filter kind (source.extend extend) (extend _ _ join) (predicate.extend extend)
  | quantify kind quantifier source made predicate =>
    exact .quantify kind quantifier (source.extend extend) made (predicate.extend (extend.push _ _))
  | count kind source => exact .count kind (source.extend extend)
  | reduce kind reduction source => exact .reduce kind reduction (source.extend extend)
  | elementAt kind source index => exact .elementAt kind (source.extend extend) (index.extend extend)
  | list kind items => exact .list kind (items.extend extend)
  | binary kind op left right => exact .binary kind op (left.extend extend) (right.extend extend)
  | unary kind op operand => exact .unary kind op (operand.extend extend)
  | call kind builtin allowed args => exact .call kind builtin allowed (args.extend extend)
  | convert kind operand => exact .convert kind (operand.extend extend)
  | assign kind name allowed value => exact .assign kind name allowed (value.extend extend)
  | bind kind value made body =>
    exact .bind kind (value.extend extend) made (body.extend (extend.push _ _))

theorem AllAlike.extend {ρ ρ' : Naming} {ts ts' : List Target} (h : AllAlike effects ρ ts ts')
    (extend : ρ.Extend ρ') : AllAlike effects ρ' ts ts' := by
  cases h with
  | nil => exact .nil
  | cons first rest => exact .cons (first.extend extend) (rest.extend extend)

end

/-! ## What alike trees share -/

section

variable {ρ : Naming} {t t' : Target} {ts ts' : List Target}

theorem Alike.kind_eq (h : Alike effects ρ t t') : t'.kind = t.kind := by
  cases h <;> rfl

theorem Alike.exists_list {kind : Kind} (h : Alike effects ρ (.list kind ts) t') :
    ∃ ts' : List Target, t' = .list kind ts' ∧ AllAlike effects ρ ts ts' := by
  cases h with
  | list _ items => exact ⟨_, rfl, items⟩

theorem AllAlike.exists_cons (h : AllAlike effects ρ (t :: ts) ts') :
    ∃ (u' : Target) (us' : List Target),
      ts' = u' :: us' ∧ Alike effects ρ t u' ∧ AllAlike effects ρ ts us' := by
  cases h with
  | cons first rest => exact ⟨_, _, rfl, first, rest⟩

theorem AllAlike.kinds_eq (h : AllAlike effects ρ ts ts') : ts'.map kind = ts.map kind := by
  induction ts generalizing ts' with
  | nil => cases h; rfl
  | cons t ts ih =>
    cases h with
    | cons first rest => rw [List.map_cons, List.map_cons, first.kind_eq, ih rest]

theorem Alike.constant?_eq (h : Alike effects ρ t t') : t'.constant? = t.constant? := by
  cases h <;> rfl

theorem Alike.constantString?_eq (h : Alike effects ρ t t') :
    t'.constantString? = t.constantString? := by
  cases h <;> rfl

theorem Alike.needsGuard_eq (h : Alike effects ρ t t') (dialect : Dialect) :
    Lowering.needsGuard dialect t' = Lowering.needsGuard dialect t := by
  cases h <;> rfl

end

mutual

theorem Alike.hasEffects_eq {ρ : Naming} {t t' : Target} (h : Alike effects ρ t t') :
    t'.hasEffects = t.hasEffects := by
  cases h with
  | constant | parameter => rfl
  | property _ _ h | count _ h | reduce _ _ h | unary _ _ h | convert _ h => exact h.hasEffects_eq
  | guard _ h _ h' | map _ h _ h' | filter _ h _ h' | quantify _ _ h _ h' | bind _ h _ h'
  | elementAt _ h h' | binary _ _ h h' =>
    simp only [hasEffects, h.hasEffects_eq, h'.hasEffects_eq]
  | list _ h => exact h.anyHasEffects_eq
  | call _ builtin _ h =>
    rw [hasEffects, hasEffects, h.anyHasEffects_eq]
  | assign => rfl

theorem AllAlike.anyHasEffects_eq {ρ : Naming} {ts ts' : List Target}
    (h : AllAlike effects ρ ts ts') : anyHasEffects ts' = anyHasEffects ts := by
  cases h with
  | nil => rfl
  | cons first rest => rw [anyHasEffects, anyHasEffects, first.hasEffects_eq, rest.anyHasEffects_eq]

end

mutual

/-- Trees without effects have none. -/
theorem Alike.hasEffects_eq_false {ρ : Naming} {t t' : Target} (h : Alike false ρ t t') :
    t.hasEffects = false := by
  cases h with
  | constant | parameter => rfl
  | property _ _ h | count _ h | reduce _ _ h | unary _ _ h | convert _ h =>
    exact h.hasEffects_eq_false
  | guard _ h _ h' | map _ h _ h' | filter _ h _ h' | quantify _ _ h _ h' | bind _ h _ h'
  | elementAt _ h h' | binary _ _ h h' =>
    exact Bool.or_eq_false_iff.mpr ⟨h.hasEffects_eq_false, h'.hasEffects_eq_false⟩
  | list _ h => exact h.anyHasEffects_eq_false
  | call _ builtin allowed h =>
    rw [hasEffects, h.anyHasEffects_eq_false, Bool.or_false, Bool.or_eq_false_iff]
    refine ⟨?_, ?_⟩
    · exact decide_eq_false fun random => Bool.false_ne_true (allowed (.inl random))
    · exact decide_eq_false fun below => Bool.false_ne_true (allowed (.inr below))
  | assign _ _ allowed => cases allowed

theorem AllAlike.anyHasEffects_eq_false {ρ : Naming} {ts ts' : List Target}
    (h : AllAlike false ρ ts ts') : anyHasEffects ts = false := by
  cases h with
  | nil => rfl
  | cons first rest =>
    rw [anyHasEffects, first.hasEffects_eq_false, rest.anyHasEffects_eq_false, Bool.or_false]

end

mutual

/-- If they have none, then the trees are alike as trees without effects. -/
theorem Alike.of_hasEffects_eq_false {ρ : Naming} {t t' : Target} (h : Alike effects ρ t t')
    (pure : t.hasEffects = false) : Alike false ρ t t' := by
  cases h with
  | constant kind value => exact .constant kind value
  | parameter kind join => exact .parameter kind join
  | property kind name h => exact .property kind name (h.of_hasEffects_eq_false pure)
  | guard kind h made h' =>
    obtain ⟨first, second⟩ := Bool.or_eq_false_iff.mp pure
    exact .guard kind (h.of_hasEffects_eq_false first) made (h'.of_hasEffects_eq_false second)
  | map kind h made h' =>
    obtain ⟨first, second⟩ := Bool.or_eq_false_iff.mp pure
    exact .map kind (h.of_hasEffects_eq_false first) made (h'.of_hasEffects_eq_false second)
  | filter kind h join h' =>
    obtain ⟨first, second⟩ := Bool.or_eq_false_iff.mp pure
    exact .filter kind (h.of_hasEffects_eq_false first) join (h'.of_hasEffects_eq_false second)
  | quantify kind quantifier h made h' =>
    obtain ⟨first, second⟩ := Bool.or_eq_false_iff.mp pure
    exact .quantify kind quantifier (h.of_hasEffects_eq_false first) made
      (h'.of_hasEffects_eq_false second)
  | count kind h => exact .count kind (h.of_hasEffects_eq_false pure)
  | reduce kind reduction h => exact .reduce kind reduction (h.of_hasEffects_eq_false pure)
  | elementAt kind h h' =>
    obtain ⟨first, second⟩ := Bool.or_eq_false_iff.mp pure
    exact .elementAt kind (h.of_hasEffects_eq_false first) (h'.of_hasEffects_eq_false second)
  | list kind h => exact .list kind (h.of_anyHasEffects_eq_false pure)
  | binary kind op h h' =>
    obtain ⟨first, second⟩ := Bool.or_eq_false_iff.mp pure
    exact .binary kind op (h.of_hasEffects_eq_false first) (h'.of_hasEffects_eq_false second)
  | unary kind op h => exact .unary kind op (h.of_hasEffects_eq_false pure)
  | call kind builtin _ h =>
    obtain ⟨still, args⟩ := Bool.or_eq_false_iff.mp pure
    refine .call kind builtin (fun random => ?_) (h.of_anyHasEffects_eq_false args)
    rcases random with rfl | rfl <;> simp at still
  | convert kind h => exact .convert kind (h.of_hasEffects_eq_false pure)
  | assign => cases pure
  | bind kind h made h' =>
    obtain ⟨first, second⟩ := Bool.or_eq_false_iff.mp pure
    exact .bind kind (h.of_hasEffects_eq_false first) made (h'.of_hasEffects_eq_false second)

theorem AllAlike.of_anyHasEffects_eq_false {ρ : Naming} {ts ts' : List Target}
    (h : AllAlike effects ρ ts ts') (pure : anyHasEffects ts = false) :
    AllAlike false ρ ts ts' := by
  cases h with
  | nil => exact .nil
  | cons h h' =>
    obtain ⟨first, second⟩ := Bool.or_eq_false_iff.mp pure
    exact .cons (h.of_hasEffects_eq_false first) (h'.of_anyHasEffects_eq_false second)

end

end Target

end PredicateLang
