import Mathlib.Data.Set.Insert
import PredicateLang.Dialect
import PredicateLang.Proofs.Alike.Relation

/-!
# What the trees of a dialect are made of

A tree occurs in another at some depth, under the names that the nodes above it introduce
(`Target.Occurs`). `Dialect.Has` says which nodes a dialect has: a query backend has no guards, no
bindings and no casts, and objects are only asked for something in them if they are there.

A lowered tree gets under more names when an operation is put around it. `Target.Suits d G t` is
therefore about every place where the names in `G` are introduced by guards. That is not lost under
another name: those that guards introduce begin with `#g`, and no other name does.
-/

open PredicateLang.Scope

namespace PredicateLang

/-! ## Occurrences -/

/-- What introduces a name: a guard, which has found a value that is not null, or another node. -/
inductive Binder where
  | guard
  | other
deriving DecidableEq

/-- The names that are introduced above a place, the latest first. -/
abbrev Binders := List (String × Binder)

namespace Target

/-- The trees right below a tree, each with the names that are introduced for it. -/
def children : Target → List (Binders × Target)
  | .constant .. | .parameter .. => []
  | .property _ s _ | .count _ s | .reduce _ _ s | .unary _ _ s | .convert _ s | .assign _ _ s =>
    [([], s)]
  | .guard _ s name t => [([], s), ([(name, .guard)], t)]
  | .bind _ s name t | .map _ s name t | .filter _ s name t | .quantify _ _ s name t =>
    [([], s), ([(name, .other)], t)]
  | .elementAt _ s t | .binary _ _ s t => [([], s), ([], t)]
  | .list _ ts | .call _ _ ts => ts.map fun t => ([], t)

/-- In the first tree, in a place under the first names, the second tree occurs under the second
names. -/
inductive Occurs : Binders → Target → Binders → Target → Prop where
  | self (Γ : Binders) (t : Target) : Occurs Γ t Γ t
  | deeper {Γ Δ : Binders} {t s : Target} {child : Binders × Target} (mem : child ∈ t.children)
    (h : Occurs (child.1 ++ Γ) child.2 Δ s) : Occurs Γ t Δ s

/-- Whatever occurs in the tree satisfies `P`. -/
def Everywhere (P : Binders → Target → Prop) (Γ : Binders) (t : Target) : Prop :=
  ∀ Δ s, Occurs Γ t Δ s → P Δ s

theorem everywhere_iff {P : Binders → Target → Prop} {Γ : Binders} {t : Target} :
    t.Everywhere P Γ ↔ P Γ t ∧ ∀ child ∈ t.children, child.2.Everywhere P (child.1 ++ Γ) := by
  constructor
  · intro h
    exact ⟨h Γ t (.self Γ t), fun child mem Δ s occurs => h Δ s (.deeper mem occurs)⟩
  · rintro ⟨here, below⟩ Δ s occurs
    cases occurs with
    | self => exact here
    | deeper mem occurs => exact below _ mem Δ s occurs

section

variable {P : Binders → Target → Prop} {Γ Δ Δ' : Binders} {t s s' : Target}

theorem Everywhere.only (h : t.Everywhere P Γ) (is : t.children = [(Δ, s)]) :
    s.Everywhere P (Δ ++ Γ) :=
  (everywhere_iff.mp h).2 (Δ, s) (by simp [is])

theorem Everywhere.both (h : t.Everywhere P Γ) (is : t.children = [(Δ, s), (Δ', s')]) :
    s.Everywhere P (Δ ++ Γ) ∧ s'.Everywhere P (Δ' ++ Γ) := by
  have below := (everywhere_iff.mp h).2
  exact ⟨below (Δ, s) (by simp [is]), below (Δ', s') (by simp [is])⟩

theorem Everywhere.all {ts : List Target} (h : t.Everywhere P Γ)
    (is : t.children = ts.map fun s => ([], s)) (s : Target) (mem : s ∈ ts) :
    s.Everywhere P Γ := by
  refine (everywhere_iff.mp h).2 ([], s) ?_
  rw [is]
  exact List.mem_map_of_mem mem

end

/-! ## Dialects -/

/-- Is this a node that only objects have? -/
def isForObjects : Target → Bool
  | .guard .. | .bind .. => true
  | .call _ (.dateAdd _) _ | .call _ .castNumber _ | .call _ .castString _ | .call _ .castDate _ =>
    true
  | _ => false

/-- Is this a node that only a query backend has? -/
def isForBackend : Target → Bool
  | .call _ (.backendDateAdd _) _ => true
  | _ => false

/-- The tree of what a node looks into, for a property or for items. -/
def navigated? : Target → Option Target
  | .property _ s _ | .reduce _ _ s | .filter _ s _ _ => some s
  | _ => none

/-- Is what the tree stands for never null, by its form: a constant but null, a list, or a name that
a guard introduces? -/
def IsThere (Γ : Binders) : Target → Prop
  | .constant _ value => value.isNull = false
  | .list .. => True
  | .parameter _ name => Fields.find? Γ name = some .guard
  | _ => False

end Target

/-- Does the dialect have the node, in a place under the names? -/
def Dialect.Has (d : Dialect) (Γ : Binders) (t : Target) : Prop :=
  match d with
  | .backend => t.isForObjects = false
  | .objects => t.isForBackend = false ∧ ∀ s, t.navigated? = some s → s.IsThere Γ

/-- A node that every dialect has. -/
theorem Dialect.has_of {t : Target} (d : Dialect) (Γ : Binders)
    (any : t.isForObjects = false ∧ t.isForBackend = false) (still : t.navigated? = none) :
    d.Has Γ t := by
  cases d with
  | backend => exact any.1
  | objects =>
    refine ⟨any.2, fun s looks => ?_⟩
    rw [still] at looks
    cases looks

/-! ## Trees under guards -/

/-- Is this a name that is made up for a guard? -/
def Scope.IsGuardName (name : String) : Prop := ∃ number, name = madeUp "g" number

/-- The names that are made up for guards among the given ones are introduced by guards. -/
def Binders.Guard (Γ : Binders) (G : Set String) : Prop :=
  ∀ name ∈ G, IsGuardName name → Fields.find? Γ name = some .guard

namespace Target

variable {d : Dialect} {G : Set String} {Γ : Binders} {s : Target} {name : String}

/-- Wherever guards introduce the names in `G`, the tree is one of the dialect. -/
def Suits (d : Dialect) (G : Set String) (t : Target) : Prop :=
  ∀ Γ : Binders, Γ.Guard G → t.Everywhere d.Has Γ

/-- Wherever guards introduce the names in `G`, the dialect may look into the tree. -/
def Ready (d : Dialect) (G : Set String) (t : Target) : Prop :=
  d = .objects → ∀ Γ : Binders, Γ.Guard G → t.IsThere Γ

/-- Names that are made up for guards are introduced by guards alone. -/
theorem guard_cons {binder : Binder} (h : Γ.Guard G)
    (proper : binder = .guard ∨ ¬ IsGuardName name) :
    Binders.Guard ((name, binder) :: Γ) (insert name G) := by
  intro other mem made
  rw [Fields.find?]
  split
  · rename_i same
    subst same
    rw [proper.resolve_right (not_not_intro made)]
  · rename_i ne
    exact h other (mem.resolve_left (Ne.symm ne)) made

/-- A node that looks into a tree, if the dialect may. -/
theorem Ready.has {node : Target} (ready : Ready d G s) (guard : Γ.Guard G)
    (any : node.isForObjects = false ∧ node.isForBackend = false)
    (looks : node.navigated? = some s) : d.Has Γ node := by
  cases d with
  | backend => exact any.1
  | objects =>
    refine ⟨any.2, fun s' looks' => ?_⟩
    rw [looks] at looks'
    cases looks'
    exact ready rfl Γ guard

end Target

end PredicateLang
