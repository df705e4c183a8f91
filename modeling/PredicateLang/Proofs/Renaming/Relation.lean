import PredicateLang.Proofs.Alike.Evaluation

/-!
# Trees with renamed variables

`Target.Renamed exact ρ t t'` says of two trees that they are the same but for the variables that
subqueries range over: where these differ, `ρ` says which names inside the subqueries stand for the
same. Names that lowering makes up are the same in both trees. If `exact` is true, then so are the
variables of subqueries, and trees in which every name stands for itself are equal.

Names that stand for the same have the same values, so renamed trees give the same and have the same
effects (`Target.Renamed.follow`).
-/

namespace PredicateLang

namespace Naming

variable {ρ : Naming} {a b name : String}

/-- Every made-up name stands for itself. -/
def Steady (ρ : Naming) : Prop := ∀ name, Scope.isMadeUp name → ρ name name

/-- The name stands for itself, and nothing else does for it. -/
structure Fixes (ρ : Naming) (name : String) : Prop where
  self : ρ name name
  only : ∀ x y, ρ x y → (x = name ↔ y = name)

theorem Steady.push (h : ρ.Steady) (outer : Scope.isMadeUp a = false)
    (outer' : Scope.isMadeUp b = false) : (ρ.push a b).Steady := by
  intro name made
  have ne := Scope.ne_of_isMadeUp outer made
  have ne' := Scope.ne_of_isMadeUp outer' made
  exact .inr ⟨ne.symm, ne'.symm, h name made⟩

/-- A name that stands for itself inside and is not hidden does so too. -/
theorem Fixes.push (h : ρ.Fixes name) (a : String) : (ρ.push a a).Fixes name := by
  by_cases same : name = a
  · subst same
    refine ⟨push_self ρ name name, ?_⟩
    rintro x y (⟨rfl, rfl⟩ | ⟨ne, ne', -⟩)
    · simp
    · simp [ne, ne']
  · refine ⟨.inr ⟨same, same, h.self⟩, ?_⟩
    rintro x y (⟨rfl, rfl⟩ | ⟨-, -, join⟩)
    · rfl
    · exact h.only x y join

/-- To hide a name that stands for itself only by itself makes no difference. -/
theorem Fixes.push_eq (h : ρ.Fixes name) : ρ.push name name = ρ := by
  funext x y
  apply propext
  constructor
  · rintro (⟨rfl, rfl⟩ | ⟨-, -, join⟩)
    · exact h.self
    · exact join
  · intro join
    by_cases same : x = name
    · exact .inl ⟨same, (h.only x y join).mp same⟩
    · exact .inr ⟨same, fun same' => same ((h.only x y join).mpr same'), join⟩

theorem fixes_eq (name : String) : Fixes Eq name where
  self := rfl
  only _ _ same := by rw [same]

theorem steady_eq : Steady Eq := fun _ _ => rfl

theorem oneToOne_eq : OneToOne Eq := by
  rintro x _ x' _ rfl rfl
  rfl

theorem joins_eq {α : Type} (entries : Fields α) : Joins Eq entries entries := by
  refine ⟨oneToOne_eq, ?_, fun _ _ same _ => same⟩
  rintro x _ rfl
  rfl

end Naming

/-! ## Trees -/

namespace Target

mutual

/-- The trees are the same but for the variables of subqueries. -/
inductive Renamed (exact : Bool) : Naming → Target → Target → Prop where
  | constant {ρ} (kind : Kind) (value : Value) :
    Renamed exact ρ (.constant kind value) (.constant kind value)
  | parameter {ρ x y} (kind : Kind) (join : ρ x y) :
    Renamed exact ρ (.parameter kind x) (.parameter kind y)
  | property {ρ t t'} (kind : Kind) (name : String) (receiver : Renamed exact ρ t t') :
    Renamed exact ρ (.property kind t name) (.property kind t' name)
  | guard {ρ s s' a t t'} (kind : Kind) (subject : Renamed exact ρ s s') (self : ρ a a)
    (body : Renamed exact ρ t t') : Renamed exact ρ (.guard kind s a t) (.guard kind s' a t')
  | map {ρ s s' a t t'} (kind : Kind) (source : Renamed exact ρ s s') (self : ρ a a)
    (body : Renamed exact ρ t t') : Renamed exact ρ (.map kind s a t) (.map kind s' a t')
  | filter {ρ s s' a b t t'} (kind : Kind) (source : Renamed exact ρ s s') (same : exact → a = b)
    (predicate : Renamed exact (ρ.push a b) t t') :
    Renamed exact ρ (.filter kind s a t) (.filter kind s' b t')
  | quantify {ρ s s' a t t'} (kind : Kind) (quantifier : Quantifier) (source : Renamed exact ρ s s')
    (self : ρ a a) (predicate : Renamed exact ρ t t') :
    Renamed exact ρ (.quantify kind quantifier s a t) (.quantify kind quantifier s' a t')
  | count {ρ s s'} (kind : Kind) (source : Renamed exact ρ s s') :
    Renamed exact ρ (.count kind s) (.count kind s')
  | reduce {ρ s s'} (kind : Kind) (reduction : Reduction) (source : Renamed exact ρ s s') :
    Renamed exact ρ (.reduce kind reduction s) (.reduce kind reduction s')
  | elementAt {ρ s s' t t'} (kind : Kind) (source : Renamed exact ρ s s')
    (index : Renamed exact ρ t t') : Renamed exact ρ (.elementAt kind s t) (.elementAt kind s' t')
  | list {ρ ts ts'} (kind : Kind) (items : AllRenamed exact ρ ts ts') :
    Renamed exact ρ (.list kind ts) (.list kind ts')
  | binary {ρ s s' t t'} (kind : Kind) (op : BinaryOp) (left : Renamed exact ρ s s')
    (right : Renamed exact ρ t t') : Renamed exact ρ (.binary kind op s t) (.binary kind op s' t')
  | unary {ρ t t'} (kind : Kind) (op : UnaryOp) (operand : Renamed exact ρ t t') :
    Renamed exact ρ (.unary kind op t) (.unary kind op t')
  | call {ρ ts ts'} (kind : Kind) (builtin : Builtin) (args : AllRenamed exact ρ ts ts') :
    Renamed exact ρ (.call kind builtin ts) (.call kind builtin ts')
  | convert {ρ t t'} (kind : Kind) (operand : Renamed exact ρ t t') :
    Renamed exact ρ (.convert kind t) (.convert kind t')
  | assign {ρ t t'} (kind : Kind) (name : String) (value : Renamed exact ρ t t') :
    Renamed exact ρ (.assign kind name t) (.assign kind name t')
  | bind {ρ s s' a t t'} (kind : Kind) (value : Renamed exact ρ s s') (self : ρ a a)
    (body : Renamed exact ρ t t') : Renamed exact ρ (.bind kind s a t) (.bind kind s' a t')

/-- The trees are the same, one by one, but for the variables of subqueries. -/
inductive AllRenamed (exact : Bool) : Naming → List Target → List Target → Prop where
  | nil {ρ} : AllRenamed exact ρ [] []
  | cons {ρ t t' ts ts'} (first : Renamed exact ρ t t') (rest : AllRenamed exact ρ ts ts') :
    AllRenamed exact ρ (t :: ts) (t' :: ts')

end

variable {exact : Bool}

/-! ## What renamed trees share -/

section

variable {ρ : Naming} {t t' : Target} {ts ts' : List Target}

theorem Renamed.kind_eq (h : Renamed exact ρ t t') : t'.kind = t.kind := by
  cases h <;> rfl

theorem Renamed.constant?_eq (h : Renamed exact ρ t t') : t'.constant? = t.constant? := by
  cases h <;> rfl

theorem Renamed.constantString?_eq (h : Renamed exact ρ t t') :
    t'.constantString? = t.constantString? := by
  cases h <;> rfl

theorem Renamed.isNullConstant_eq (h : Renamed exact ρ t t') :
    t'.isNullConstant = t.isNullConstant := by
  cases h <;> rfl

theorem Renamed.needsGuard_eq (h : Renamed exact ρ t t') (dialect : Dialect) :
    Lowering.needsGuard dialect t' = Lowering.needsGuard dialect t := by
  cases h <;> rfl

theorem Renamed.exists_list {kind : Kind} (h : Renamed exact ρ (.list kind ts) t') :
    ∃ ts' : List Target, t' = .list kind ts' ∧ AllRenamed exact ρ ts ts' := by
  cases h with
  | list _ items => exact ⟨_, rfl, items⟩

theorem AllRenamed.exists_cons (h : AllRenamed exact ρ (t :: ts) ts') :
    ∃ (u' : Target) (us' : List Target),
      ts' = u' :: us' ∧ Renamed exact ρ t u' ∧ AllRenamed exact ρ ts us' := by
  cases h with
  | cons first rest => exact ⟨_, _, rfl, first, rest⟩

theorem AllRenamed.kinds_eq (h : AllRenamed exact ρ ts ts') : ts'.map kind = ts.map kind := by
  induction ts generalizing ts' with
  | nil => cases h; rfl
  | cons t ts ih =>
    cases h with
    | cons first rest => rw [List.map_cons, List.map_cons, first.kind_eq, ih rest]

end

mutual

theorem Renamed.hasEffects_eq {ρ : Naming} {t t' : Target} (h : Renamed exact ρ t t') :
    t'.hasEffects = t.hasEffects := by
  cases h with
  | constant | parameter | assign => rfl
  | property _ _ h | count _ h | reduce _ _ h | unary _ _ h | convert _ h => exact h.hasEffects_eq
  | guard _ h _ h' | map _ h _ h' | filter _ h _ h' | quantify _ _ h _ h' | bind _ h _ h'
  | elementAt _ h h' | binary _ _ h h' =>
    simp only [hasEffects, h.hasEffects_eq, h'.hasEffects_eq]
  | list _ h => exact h.anyHasEffects_eq
  | call _ builtin h => simp only [hasEffects, h.anyHasEffects_eq]

theorem AllRenamed.anyHasEffects_eq {ρ : Naming} {ts ts' : List Target}
    (h : AllRenamed exact ρ ts ts') : anyHasEffects ts' = anyHasEffects ts := by
  cases h with
  | nil => rfl
  | cons first rest =>
    simp only [anyHasEffects, first.hasEffects_eq, rest.anyHasEffects_eq]

end

/-! ## A tree and itself -/

mutual

/-- Where every name stands for itself, a tree is one with nothing renamed. -/
theorem renamed_self {ρ : Naming} (self : ∀ name, ρ name name) (t : Target) :
    Renamed exact ρ t t := by
  have inner (name : String) : ∀ x, ρ.push name name x x := by
    intro x
    by_cases same : x = name
    · exact .inl ⟨same, same⟩
    · exact .inr ⟨same, same, self x⟩
  match t with
  | .constant kind value => exact .constant kind value
  | .parameter kind name => exact .parameter kind (self name)
  | .property kind t name => exact .property kind name (renamed_self self t)
  | .guard kind s a t => exact .guard kind (renamed_self self s) (self a) (renamed_self self t)
  | .map kind s a t => exact .map kind (renamed_self self s) (self a) (renamed_self self t)
  | .filter kind s a t =>
    exact .filter kind (renamed_self self s) (fun _ => rfl) (renamed_self (inner a) t)
  | .quantify kind quantifier s a t =>
    exact .quantify kind quantifier (renamed_self self s) (self a) (renamed_self self t)
  | .count kind s => exact .count kind (renamed_self self s)
  | .reduce kind reduction s => exact .reduce kind reduction (renamed_self self s)
  | .elementAt kind s t => exact .elementAt kind (renamed_self self s) (renamed_self self t)
  | .list kind ts => exact .list kind (allRenamed_self self ts)
  | .binary kind op s t => exact .binary kind op (renamed_self self s) (renamed_self self t)
  | .unary kind op t => exact .unary kind op (renamed_self self t)
  | .call kind builtin ts => exact .call kind builtin (allRenamed_self self ts)
  | .convert kind t => exact .convert kind (renamed_self self t)
  | .assign kind name t => exact .assign kind name (renamed_self self t)
  | .bind kind s a t => exact .bind kind (renamed_self self s) (self a) (renamed_self self t)

theorem allRenamed_self {ρ : Naming} (self : ∀ name, ρ name name) (ts : List Target) :
    AllRenamed exact ρ ts ts := by
  match ts with
  | [] => exact .nil
  | t :: ts => exact .cons (renamed_self self t) (allRenamed_self self ts)

end

theorem renamed_refl (t : Target) : Renamed true Eq t t := renamed_self (fun _ => rfl) t

theorem allRenamed_refl (ts : List Target) : AllRenamed true Eq ts ts :=
  allRenamed_self (fun _ => rfl) ts

mutual

/-- Where names stand for themselves only, trees with nothing renamed are equal. -/
theorem Renamed.eq {t t' : Target} (h : Renamed true Eq t t') : t' = t := by
  cases h with
  | constant => rfl
  | parameter _ join => rw [join]
  | property _ _ h | count _ h | reduce _ _ h | unary _ _ h | convert _ h | assign _ _ h =>
    rw [h.eq]
  | guard _ h _ h' | map _ h _ h' | quantify _ _ h _ h' | bind _ h _ h' | elementAt _ h h'
  | binary _ _ h h' => rw [h.eq, h'.eq]
  | filter _ h same h' =>
    obtain rfl := same rfl
    rw [(Naming.fixes_eq _).push_eq] at h'
    rw [h.eq, h'.eq]
  | list _ h | call _ _ h => rw [h.eq]

theorem AllRenamed.eq {ts ts' : List Target} (h : AllRenamed true Eq ts ts') : ts' = ts := by
  cases h with
  | nil => rfl
  | cons first rest => rw [first.eq, rest.eq]

end

/-! ## Renamed trees are evaluated alike -/

open Tracing

mutual

/-- Renamed trees give the same and have the same effects. -/
theorem Renamed.follow {ρ : Naming} {t t' : Target} (h : Renamed exact ρ t t') :
    Follow ρ t.traced t'.traced := by
  cases h with
  | constant kind value => exact follow_pure value
  | parameter kind join => exact follow_lookup join
  | property _ _ h | count _ h | unary _ _ h => exact h.follow.bind fun v => follow_still _
  | guard kind h self h' =>
    exact follow_guard h.follow (Naming.open_self self) h'.follow h'.kind_eq kind
  | map kind h self h' => exact follow_map h.follow (Naming.open_self self) h'.follow kind
  | filter kind h _ h' => exact follow_filter h.follow (Naming.open_push _ _ _) h'.follow kind
  | quantify kind quantifier h self h' =>
    exact follow_quantify h.follow (Naming.open_self self) h'.follow kind quantifier
  | reduce kind reduction h => exact follow_reduce h.follow kind reduction
  | elementAt _ h h' => exact h.follow.bind fun v => h'.follow.bind fun i => follow_still _
  | list _ h => exact h.follow.bind fun values => follow_pure _
  | binary kind op h h' => exact follow_binary h.follow h'.follow kind op
  | call _ builtin h => exact h.follow.bind fun values => follow_call builtin values
  | convert kind h => exact follow_convert h.follow kind
  | assign kind name h => exact follow_assigned h.follow kind name
  | bind kind h self h' => exact follow_bind h.follow (Naming.open_self self) h'.follow kind

/-- Renamed trees give the same and have the same effects, one after the other. -/
theorem AllRenamed.follow {ρ : Naming} {ts ts' : List Target} (h : AllRenamed exact ρ ts ts') :
    Follow ρ (tracedAll ts) (tracedAll ts') := by
  cases h with
  | nil => exact follow_pure []
  | cons first rest => exact first.follow.bind fun v => rest.follow.bind fun _ => follow_pure _

end

end Target

end PredicateLang
