import PredicateLang.Proofs.Coercion
import PredicateLang.Proofs.Dialects.Occurrence

/-!
# Invariants of lowered trees

An invariant is a property of trees that is kept when a tree is put together from others: of each
node that a dialect has it follows from the trees below the node. It may rely on the names that are
introduced above: a name is such a tree if it is introduced, and what is under a node that introduces
a name may rely on that name too. What lowering gives has every invariant of its dialect.

There is a lemma for each sort of node that lowering makes, and lemmas for casts.
-/

open PredicateLang.Scope PredicateLang.Target

namespace PredicateLang

/-- A property of trees where names are introduced, which the nodes of a dialect keep. -/
structure Invariant (d : Dialect) where
  Holds : Set String → Target → Prop
  mono : ∀ {G G' : Set String} {t : Target}, Holds G t → G ⊆ G' → Holds G' t
  parameter : ∀ {G : Set String} {name : String} (kind : Kind), name ∈ G →
    Holds G (.parameter kind name)
  /-- A node that introduces no name and is none. -/
  node : ∀ {G : Set String} {t : Target}, (∀ kind name, t ≠ .parameter kind name) →
    (∀ Γ : Binders, Γ.Guard G → d.Has Γ t) →
    (∀ child ∈ t.children, child.1 = [] ∧ Holds G child.2) → Holds G t
  /-- A node that introduces a name for its body. Names that are made up for guards are introduced by
  guards alone. -/
  binder : ∀ {G : Set String} {t s body : Target} {name : String} {binder : Binder},
    t.children = [([], s), ([(name, binder)], body)] → (binder = .guard ∨ ¬ IsGuardName name) →
    (∀ Γ : Binders, Γ.Guard G → d.Has Γ t) → Holds G s → Holds (insert name G) body → Holds G t
  /-- An item of a list is below it. -/
  item : ∀ {G : Set String} {kind : Kind} {ts : List Target} {t : Target},
    Holds G (.list kind ts) → t ∈ ts → Holds G t

namespace Invariant

variable {d : Dialect}

/-- A property of whatever occurs in a tree, if the names are introduced above it in a certain way. -/
def everywhere (P : Binders → Target → Prop) (Under : Binders → Set String → Prop)
    (weaken : ∀ {Γ G G'}, Under Γ G' → G ⊆ G' → Under Γ G)
    (push : ∀ {Γ G name binder}, Under Γ G → (binder = .guard ∨ ¬ IsGuardName name) →
      Under ((name, binder) :: Γ) (insert name G))
    (parameter : ∀ {Γ G kind name}, Under Γ G → name ∈ G → P Γ (.parameter kind name))
    (node : ∀ {Γ G t}, Under Γ G → (∀ kind name, t ≠ .parameter kind name) →
      (Γ.Guard G → d.Has Γ t) → P Γ t) : Invariant d where
  Holds G t := ∀ Γ, Under Γ G → t.Everywhere P Γ
  mono h le Γ under := h Γ (weaken under le)
  parameter kind mem Γ under := everywhere_iff.mpr ⟨parameter under mem, nofun⟩
  node no_name has h Γ under := by
    refine everywhere_iff.mpr ⟨node under no_name (has Γ), fun child mem => ?_⟩
    obtain ⟨none, below⟩ := h child mem
    rw [none]
    exact below Γ under
  binder is proper has h h' Γ under := by
    refine everywhere_iff.mpr ⟨node under ?_ (has Γ), ?_⟩
    · rintro kind name rfl
      cases is
    · rw [is, List.forall_mem_cons, List.forall_mem_singleton]
      exact ⟨h Γ under, h' _ (push under proper)⟩
  item h mem Γ under := (h Γ under).all rfl _ mem

variable (I : Invariant d) {G : Set String} {s t : Target} {ts : List Target} {name : String}

/-! ## Nodes -/

theorem constant (kind : Kind) (value : Value) : I.Holds G (.constant kind value) :=
  I.node nofun (fun Γ _ => d.has_of Γ ⟨rfl, rfl⟩ rfl) nofun

/-- A node of every dialect over one tree, which it does not look into. -/
theorem above {node : Target} (is : node.children = [([], t)])
    (any : node.isForObjects = false ∧ node.isForBackend = false)
    (still : node.navigated? = none) (h : I.Holds G t) : I.Holds G node := by
  apply I.node
  · rintro kind name rfl
    cases is
  · intro Γ _
    exact d.has_of Γ any still
  · rw [is, List.forall_mem_singleton]
    exact ⟨rfl, h⟩

/-- A node of every dialect over two trees, which it does not look into. -/
theorem above_both {node : Target} (is : node.children = [([], s), ([], t)])
    (any : node.isForObjects = false ∧ node.isForBackend = false)
    (still : node.navigated? = none) (h : I.Holds G s) (h' : I.Holds G t) : I.Holds G node := by
  apply I.node
  · rintro kind name rfl
    cases is
  · intro Γ _
    exact d.has_of Γ any still
  · rw [is, List.forall_mem_cons, List.forall_mem_singleton]
    exact ⟨⟨rfl, h⟩, rfl, h'⟩

theorem unary (kind : Kind) (op : UnaryOp) (h : I.Holds G t) : I.Holds G (.unary kind op t) :=
  I.above rfl ⟨rfl, rfl⟩ rfl h

theorem count (kind : Kind) (h : I.Holds G t) : I.Holds G (.count kind t) :=
  I.above rfl ⟨rfl, rfl⟩ rfl h

theorem convert (kind : Kind) (h : I.Holds G t) : I.Holds G (.convert kind t) :=
  I.above rfl ⟨rfl, rfl⟩ rfl h

theorem assign (kind : Kind) (name : String) (h : I.Holds G t) :
    I.Holds G (.assign kind name t) :=
  I.above rfl ⟨rfl, rfl⟩ rfl h

theorem binary (kind : Kind) (op : BinaryOp) (h : I.Holds G s) (h' : I.Holds G t) :
    I.Holds G (.binary kind op s t) :=
  I.above_both rfl ⟨rfl, rfl⟩ rfl h h'

theorem elementAt (kind : Kind) (h : I.Holds G s) (h' : I.Holds G t) :
    I.Holds G (.elementAt kind s t) :=
  I.above_both rfl ⟨rfl, rfl⟩ rfl h h'

theorem list (kind : Kind) (h : ∀ t ∈ ts, I.Holds G t) : I.Holds G (.list kind ts) := by
  refine I.node nofun (fun Γ _ => d.has_of Γ ⟨rfl, rfl⟩ rfl) ?_
  exact List.forall_mem_map.mpr fun t mem => ⟨rfl, h t mem⟩

theorem call {kind : Kind} {builtin : Builtin} (has : ∀ Γ, d.Has Γ (.call kind builtin ts))
    (h : ∀ t ∈ ts, I.Holds G t) : I.Holds G (.call kind builtin ts) :=
  I.node nofun (fun Γ _ => has Γ) (List.forall_mem_map.mpr fun t mem => ⟨rfl, h t mem⟩)

/-- A node over one tree, which it looks into. -/
theorem into {node : Target} (is : node.children = [([], s)])
    (any : node.isForObjects = false ∧ node.isForBackend = false)
    (looks : node.navigated? = some s) (h : I.Holds G s) (ready : Ready d G s) :
    I.Holds G node := by
  apply I.node
  · rintro kind name rfl
    cases is
  · intro Γ guard
    exact ready.has guard any looks
  · rw [is, List.forall_mem_singleton]
    exact ⟨rfl, h⟩

theorem property (kind : Kind) (name : String) (h : I.Holds G s) (ready : Ready d G s) :
    I.Holds G (.property kind s name) :=
  I.into rfl ⟨rfl, rfl⟩ rfl h ready

theorem reduce (kind : Kind) (reduction : Reduction) (h : I.Holds G s) (ready : Ready d G s) :
    I.Holds G (.reduce kind reduction s) :=
  I.into rfl ⟨rfl, rfl⟩ rfl h ready

theorem filter (kind : Kind) (plain : ¬ IsGuardName name) (h : I.Holds G s) (ready : Ready d G s)
    (h' : I.Holds (insert name G) t) : I.Holds G (.filter kind s name t) :=
  I.binder rfl (.inr plain) (fun _ guard => ready.has guard ⟨rfl, rfl⟩ rfl) h h'

theorem map (kind : Kind) (plain : ¬ IsGuardName name) (h : I.Holds G s)
    (h' : I.Holds (insert name G) t) : I.Holds G (.map kind s name t) :=
  I.binder rfl (.inr plain) (fun Γ _ => d.has_of Γ ⟨rfl, rfl⟩ rfl) h h'

theorem quantify (kind : Kind) (quantifier : Quantifier) (plain : ¬ IsGuardName name)
    (h : I.Holds G s) (h' : I.Holds (insert name G) t) :
    I.Holds G (.quantify kind quantifier s name t) :=
  I.binder rfl (.inr plain) (fun Γ _ => d.has_of Γ ⟨rfl, rfl⟩ rfl) h h'

theorem bind (objects : d = .objects) (kind : Kind) (plain : ¬ IsGuardName name)
    (h : I.Holds G s) (h' : I.Holds (insert name G) t) : I.Holds G (.bind kind s name t) := by
  subst objects
  exact I.binder rfl (.inr plain) (fun _ _ => ⟨rfl, nofun⟩) h h'

theorem guard (objects : d = .objects) (kind : Kind) (name : String) (h : I.Holds G s)
    (h' : I.Holds (insert name G) t) : I.Holds G (.guard kind s name t) := by
  subst objects
  exact I.binder rfl (.inl rfl) (fun _ _ => ⟨rfl, nofun⟩) h h'

/-! ## Casts -/

theorem cast {kind : Kind} {u : Target} (h : I.Holds G t) (cast : t.cast kind = .ok u) :
    I.Holds G u := by
  cases is : t.constant? with
  | none =>
    rw [cast_of_constant?_eq_none is] at cast
    split at cast <;> cases cast
    · exact h
    · exact I.convert kind h
  | some value =>
    cases t with
    | constant =>
      obtain ⟨kind', value', rfl⟩ := exists_constant_of_cast cast
      exact I.constant kind' value'
    | _ => cases is

theorem of_isCast {u : Target} (h : I.Holds G t) (cast : t.IsCast u) : I.Holds G u := by
  rcases cast with rfl | ⟨kind, cast⟩
  · exact h
  · exact I.cast h cast

end Invariant

end PredicateLang
