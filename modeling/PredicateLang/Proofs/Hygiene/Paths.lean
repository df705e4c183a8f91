import PredicateLang.Proofs.Coercion
import PredicateLang.Proofs.Dialects.Occurrence

/-!
# Names on the ways down a lowered tree

On its way down to a place a tree introduces names. `Target.IsHygienic` says of a tree that no made-up
name is introduced twice on one way, that a made-up name stands only where it is introduced, and that
every other name is that of the object or of a variable.

Lowering puts trees that it has under names that it makes up later. So a part of a lowered tree is
`Target.Tidy` at a site, which knows the made-up names that are introduced above it and how many
names have been made up: the part introduces none of the former, and none with a later number. A tree
stays tidy further on and under names that are made up further on, which is what lets trees be copied
and be put under new names.
-/

open PredicateLang.Scope

namespace PredicateLang

/-! ## Ways down a tree -/

namespace Target

/-- The name that a node introduces. -/
def binding? : Target → Option String
  | .guard _ _ name _ | .bind _ _ name _ | .map _ _ name _ | .filter _ _ name _
  | .quantify _ _ _ name _ => some name
  | _ => none

/-- From the first tree a way leads down through the nodes, the first one on top, to the second tree,
for which the names are introduced. -/
inductive LeadsTo : Target → List Target → Binders → Target → Prop where
  | here (t : Target) : LeadsTo t [] [] t
  | down {t s : Target} {child : Binders × Target} {path : List Target} {Δ : Binders}
    (mem : child ∈ t.children) (way : LeadsTo child.2 path Δ s) :
    LeadsTo t (t :: path) (Δ ++ child.1) s

/-- The names that the nodes of a way introduce, whether for what it leads to or not. -/
def introduced (path : List Target) : List String := path.filterMap binding?

/-- What is introduced for a tree right below a node is what the node introduces. -/
theorem binding?_of_mem_children {t : Target} {child : Binders × Target} (mem : child ∈ t.children)
    {name : String} (given : name ∈ child.1.map Prod.fst) : t.binding? = some name := by
  cases t with
  | guard | bind | map | filter | quantify =>
    simp only [children, List.mem_cons, List.not_mem_nil, or_false] at mem
    rcases mem with rfl | rfl
    · cases given
    · exact congrArg some (List.mem_singleton.mp given).symm
  | list | call =>
    obtain ⟨_, _, rfl⟩ := List.mem_map.mp mem
    cases given
  | elementAt | binary =>
    simp only [children, List.mem_cons, List.not_mem_nil, or_false] at mem
    rcases mem with rfl | rfl <;> cases given
  | constant | parameter => cases mem
  | property | count | reduce | unary | convert | assign =>
    cases List.mem_singleton.mp mem
    cases given

/-- What is introduced for a place is introduced on the way to it. -/
theorem LeadsTo.mem_introduced {t s : Target} {path : List Target} {Δ : Binders} {name : String}
    (way : t.LeadsTo path Δ s) (mem : name ∈ Δ.map Prod.fst) : name ∈ introduced path := by
  induction way with
  | here => cases mem
  | down below way ih =>
    rw [List.map_append, List.mem_append] at mem
    rcases mem with mem | mem
    · obtain ⟨node, inside, introduces⟩ := List.mem_filterMap.mp (ih mem)
      exact List.mem_filterMap.mpr ⟨node, .tail _ inside, introduces⟩
    · exact List.mem_filterMap.mpr ⟨_, .head _, binding?_of_mem_children below mem⟩

/-- No made-up name is introduced twice on a way, and a made-up name stands only where it is
introduced. All other names are those of the object and of variables. -/
structure IsHygienic (t : Target) : Prop where
  distinct {path : List Target} {Δ : Binders} {s : Target} (way : t.LeadsTo path Δ s) :
    ((introduced path).filter isMadeUp).Nodup
  inScope {path : List Target} {Δ : Binders} {kind : Kind} {name : String}
    (way : t.LeadsTo path Δ (.parameter kind name)) (made : isMadeUp name) : name ∈ Δ.map Prod.fst
  others {path : List Target} {Δ : Binders} {s : Target} (way : t.LeadsTo path Δ s) {name : String}
    (mem : name ∈ introduced path ∨ ∃ kind, s = .parameter kind name) (own : ¬isMadeUp name) :
    name = objectName ∨ ∃ x, name = variableKey x

end Target

/-! ## Sites -/

/-- Is it the name of the object or of a variable? -/
def Scope.IsOuter (name : String) : Prop := name = objectName ∨ ∃ x, name = variableKey x

theorem Scope.isMadeUp_of_isOuter {name : String} (h : IsOuter name) : isMadeUp name = false := by
  rcases h with rfl | ⟨x, rfl⟩
  · rfl
  · exact isMadeUp_variableKey x

theorem Scope.IsMade.isMadeUp {counter : Nat} {name : String} (h : IsMade counter name) :
    isMadeUp name := by
  obtain ⟨letter, number, -, -, rfl⟩ := h
  exact isMadeUp_madeUp letter number

/-- A place while a tree is lowered: the made-up names that will be introduced above it, and the
number of names that have been made up. -/
structure Site where
  names : Set String
  counter : Nat
  made : ∀ name ∈ names, IsMade counter name

namespace Site

/-- A site is further on if more names have been made up and names made up since are above it. -/
instance : Preorder Site where
  le w w' := w.names ⊆ w'.names ∧ w.counter ≤ w'.counter ∧
    ∀ name ∈ w'.names, name ∈ w.names ∨ ¬IsMade w.counter name
  le_refl _ := ⟨subset_rfl, Nat.le_refl _, fun _ => .inl⟩
  le_trans w w' w'' le le' := by
    refine ⟨le.1.trans le'.1, le.2.1.trans le'.2.1, fun name mem => ?_⟩
    rcases le'.2.2 name mem with mem | later
    · exact le.2.2 name mem
    · exact .inr fun made => later (made.mono le.2.1)

/-- Where no name is above. -/
def outside (counter : Nat) : Site := ⟨∅, counter, nofun⟩

/-- The same place when more names have been made up. -/
def later (w : Site) (counter : Nat) (le : w.counter ≤ counter) : Site :=
  ⟨w.names, counter, fun name mem => (w.made name mem).mono le⟩

theorem le_later (w : Site) {counter : Nat} (le : w.counter ≤ counter) : w ≤ w.later counter le :=
  ⟨subset_rfl, le, fun _ => .inl⟩

/-- The name that is made up next with a letter. -/
def next (w : Site) (letter : String) : String := madeUp letter (w.counter + 1)

/-- Below the node that introduces the name that is made up next. -/
def below (w : Site) (letter : String) (length : letter.toList.length = 1) : Site where
  names := insert (w.next letter) w.names
  counter := w.counter + 1
  made := by
    rintro name (rfl | mem)
    · exact ⟨letter, _, length, Nat.le_refl _, rfl⟩
    · exact (w.made name mem).mono (Nat.le_succ _)

variable {w : Site} {letter : String} (length : letter.toList.length = 1)

include length in
theorem not_isMade_next : ¬IsMade w.counter (w.next letter) :=
  fun made => made.ne_next length rfl

theorem le_below : w ≤ w.below letter length := by
  refine ⟨Set.subset_insert _ _, Nat.le_succ _, ?_⟩
  rintro name (rfl | mem)
  · exact .inr (not_isMade_next length)
  · exact .inl mem

end Site

/-! ## Tidy trees -/

namespace Target

/-- At the site the tree introduces no made-up name twice on a way, none that is introduced above,
and none that is made up later. What names stand in it are introduced in the tree or above. -/
structure Tidy (w : Site) (t : Target) : Prop where
  distinct {path : List Target} {Δ : Binders} {s : Target} (way : t.LeadsTo path Δ s) :
    ((introduced path).filter isMadeUp).Nodup
  own {path : List Target} {Δ : Binders} {s : Target} (way : t.LeadsTo path Δ s) {name : String}
    (mem : name ∈ introduced path) : IsOuter name ∨ IsMade w.counter name ∧ name ∉ w.names
  inScope {path : List Target} {Δ : Binders} {kind : Kind} {name : String}
    (way : t.LeadsTo path Δ (.parameter kind name)) :
    IsOuter name ∨ name ∈ Δ.map Prod.fst ∨ name ∈ w.names

variable {w w' : Site} {s t : Target} {ts : List Target} {name letter : String}

theorem Tidy.mono (h : t.Tidy w) (le : w ≤ w') : t.Tidy w' where
  distinct := h.distinct
  own way _ mem := by
    refine (h.own way mem).imp_right fun ⟨made, clear⟩ => ⟨made.mono le.2.1, fun above => ?_⟩
    rcases le.2.2 _ above with above | since
    · exact clear above
    · exact since made
  inScope way := (h.inScope way).imp_right (.imp_right fun above => le.1 above)

/-- What is tidy where no name is above is hygienic. -/
theorem Tidy.isHygienic {counter : Nat} (h : t.Tidy (.outside counter)) : t.IsHygienic where
  distinct := h.distinct
  inScope way made := by
    rcases h.inScope way with outer | inside | above
    · rw [isMadeUp_of_isOuter outer] at made
      cases made
    · exact inside
    · exact above.elim
  others way name mem own := by
    rcases mem with mem | ⟨kind, rfl⟩
    · exact (h.own way mem).resolve_right fun made => own made.1.isMadeUp
    · rcases h.inScope way with outer | inside | above
      · exact outer
      · have made := (h.own way (way.mem_introduced inside)).resolve_right
        exact made fun made => own made.1.isMadeUp
      · exact above.elim

/-! ### Nodes -/

/-- A site of what is right below a node at another site: no more names have been made up, and the
names above it are those above the node and those that are introduced for it. A made-up name that
the node introduces is introduced above what is below it, or had not been made up before. -/
structure Below (w : Site) (t : Target) (child : Binders × Target) (w' : Site) : Prop where
  counter : w'.counter ≤ w.counter
  names : w.names ⊆ w'.names
  given : ∀ name ∈ w'.names, name ∈ w.names ∨ name ∈ child.1.map Prod.fst
  clear : ∀ name, t.binding? = some name →
    IsOuter name ∨ ¬IsMade w'.counter name ∨ name ∈ w'.names

/-- No made-up name that a node introduces is introduced below it. -/
theorem Tidy.clear {child : Binders × Target} (h : child.2.Tidy w') (below : Below w t child w')
    (introduces : t.binding? = some name) (made : isMadeUp name) {path : List Target} {Δ : Binders}
    (way : child.2.LeadsTo path Δ s) : name ∉ introduced path := by
  intro mem
  rcases h.own way mem with outer | ⟨before, none_above⟩
  · rw [isMadeUp_of_isOuter outer] at made
    cases made
  · rcases below.clear name introduces with outer | since | above
    · rw [isMadeUp_of_isOuter outer] at made
      cases made
    · exact since before
    · exact none_above above

/-- A node is tidy if all that is right below it is tidy. -/
theorem Tidy.node (no_name : ∀ kind name, t ≠ .parameter kind name)
    (own : ∀ name, t.binding? = some name → IsOuter name ∨ IsMade w.counter name ∧ name ∉ w.names)
    (h : ∀ child ∈ t.children, ∃ w', Below w t child w' ∧ child.2.Tidy w') : t.Tidy w where
  distinct way := by
    cases way with
    | here => exact List.nodup_nil
    | down mem way =>
      obtain ⟨w', below, tidy⟩ := h _ mem
      unfold introduced
      rw [List.filterMap_cons]
      split
      · exact tidy.distinct way
      · rename_i name introduces
        rw [List.filter_cons]
        split
        · rename_i made
          refine List.nodup_cons.mpr ⟨fun again => ?_, tidy.distinct way⟩
          exact tidy.clear below introduces made way (List.mem_filter.mp again).1
        · exact tidy.distinct way
  own way name mem := by
    cases way with
    | here => cases mem
    | down inside way =>
      obtain ⟨w', below, tidy⟩ := h _ inside
      obtain ⟨node, inside, introduces⟩ := List.mem_filterMap.mp mem
      rcases List.mem_cons.mp inside with rfl | inside
      · exact own name introduces
      · refine (tidy.own way (List.mem_filterMap.mpr ⟨node, inside, introduces⟩)).imp_right ?_
        exact fun ⟨made, clear⟩ => ⟨made.mono below.counter, fun above => clear (below.names above)⟩
  inScope way := by
    cases way with
    | here => exact absurd rfl (no_name _ _)
    | down inside way =>
      obtain ⟨w', below, tidy⟩ := h _ inside
      rw [List.map_append, List.mem_append]
      rcases tidy.inScope way with outer | inside | above
      · exact .inl outer
      · exact .inr (.inl (.inl inside))
      · rcases below.given _ above with above | given'
        · exact .inr (.inr above)
        · exact .inr (.inl (.inr given'))

/-- A node that introduces no made-up name. -/
theorem Tidy.of_children (no_name : ∀ kind name, t ≠ .parameter kind name)
    (outer : ∀ name, t.binding? = some name → IsOuter name)
    (h : ∀ child ∈ t.children, child.2.Tidy w) : t.Tidy w :=
  .node no_name (fun name introduces => .inl (outer name introduces)) fun child mem =>
    ⟨w, ⟨Nat.le_refl _, subset_rfl, fun _ => .inl,
      fun name introduces => .inl (outer name introduces)⟩, h child mem⟩

/-- A node that introduces the name that is made up next for a tree that is made after it. -/
theorem Tidy.introduce {body : Target} {binder : Binder} (length : letter.toList.length = 1)
    {counter : Nat} (le : (w.below letter length).counter ≤ counter)
    (is : t.children = [([], s), ([(w.next letter, binder)], body)])
    (introduces : t.binding? = some (w.next letter)) (h : s.Tidy w)
    (h' : body.Tidy ((w.below letter length).later counter le)) :
    t.Tidy (w.later counter (Nat.le_of_succ_le le)) := by
  have only (name : String) (named : t.binding? = some name) : name = w.next letter :=
    Option.some.inj (named.symm.trans introduces)
  have since := Site.not_isMade_next (w := w) length
  apply Tidy.node
  · rintro kind name rfl
    cases introduces
  · intro name named
    obtain rfl := only name named
    exact .inr ⟨⟨letter, _, length, le, rfl⟩, fun above => since (w.made _ above)⟩
  · rw [is, List.forall_mem_cons, List.forall_mem_singleton]
    refine ⟨⟨w, ⟨Nat.le_of_succ_le le, subset_rfl, fun _ => .inl, fun name named => ?_⟩, h⟩,
      ⟨(w.below letter length).later counter le,
        ⟨Nat.le_refl _, Set.subset_insert _ _, ?_, fun name named => ?_⟩, h'⟩⟩
    · exact .inr (.inl (only name named ▸ since))
    · rintro name (rfl | above)
      · exact .inr (.head _)
      · exact .inl above
    · exact .inr (.inr (.inl (only name named)))

theorem tidy_constant (kind : Kind) (value : Value) : (constant kind value).Tidy w :=
  .of_children nofun nofun nofun

/-- The name of the object or of a variable, or a name that is introduced above. -/
theorem tidy_parameter (kind : Kind) (known : IsOuter name ∨ name ∈ w.names) :
    (parameter kind name).Tidy w where
  distinct way := by
    cases way with
    | here => exact List.nodup_nil
    | down mem _ => cases mem
  own way _ mem := by
    cases way with
    | here => cases mem
    | down below _ => cases below
  inScope way := by
    cases way with
    | here => exact known.imp_right .inr
    | down mem _ => cases mem

/-- A node over one tree. -/
theorem Tidy.above {node : Target} (is : node.children = [([], t)])
    (nothing : node.binding? = none) (h : t.Tidy w) : node.Tidy w := by
  apply Tidy.of_children
  · rintro kind name rfl
    cases is
  · exact fun name introduces => nomatch nothing.symm.trans introduces
  · rw [is, List.forall_mem_singleton]
    exact h

/-- A node over two trees. -/
theorem Tidy.above_both {node : Target} (is : node.children = [([], s), ([], t)])
    (nothing : node.binding? = none) (h : s.Tidy w) (h' : t.Tidy w) : node.Tidy w := by
  apply Tidy.of_children
  · rintro kind name rfl
    cases is
  · exact fun name introduces => nomatch nothing.symm.trans introduces
  · rw [is, List.forall_mem_cons, List.forall_mem_singleton]
    exact ⟨h, h'⟩

theorem Tidy.elementAt (kind : Kind) (h : s.Tidy w) (h' : t.Tidy w) :
    (elementAt kind s t).Tidy w := h.above_both rfl rfl h'

theorem Tidy.binary (kind : Kind) (op : BinaryOp) (h : s.Tidy w) (h' : t.Tidy w) :
    (binary kind op s t).Tidy w := h.above_both rfl rfl h'

theorem tidy_list (kind : Kind) (h : ∀ t ∈ ts, t.Tidy w) : (list kind ts).Tidy w :=
  .of_children nofun nofun (List.forall_mem_map.mpr h)

theorem tidy_call (kind : Kind) (builtin : Builtin) (h : ∀ t ∈ ts, t.Tidy w) :
    (call kind builtin ts).Tidy w :=
  .of_children nofun nofun (List.forall_mem_map.mpr h)

/-- A filter introduces a variable. -/
theorem tidy_filter (kind : Kind) (outer : IsOuter name) (h : s.Tidy w) (h' : t.Tidy w) :
    (filter kind s name t).Tidy w := by
  refine .of_children nofun (fun _ introduces => Option.some.inj introduces ▸ outer) ?_
  exact List.forall_mem_cons.mpr ⟨h, List.forall_mem_singleton.mpr h'⟩

/-- An item of a list. -/
theorem Tidy.item {kind : Kind} (h : (list kind ts).Tidy w) (mem : t ∈ ts) : t.Tidy w := by
  have child : (([], t) : Binders × Target) ∈ (list kind ts).children := List.mem_map_of_mem mem
  have down {path : List Target} {Δ : Binders} {s : Target} (way : t.LeadsTo path Δ s) :
      (list kind ts).LeadsTo (list kind ts :: path) (Δ ++ []) s := .down child way
  constructor
  · intro path Δ s way
    have whole := h.distinct (down way)
    exact whole
  · intro path Δ s way name mem
    have whole (mem : name ∈ introduced (list kind ts :: path)) := h.own (down way) mem
    exact whole mem
  · intro path Δ kind name way
    have whole := h.inScope (down way)
    rwa [List.append_nil] at whole

/-! ### Casts -/

theorem Tidy.cast {kind : Kind} {u : Target} (h : t.Tidy w) (cast : t.cast kind = .ok u) :
    u.Tidy w := by
  cases is : t.constant? with
  | none =>
    rw [cast_of_constant?_eq_none is] at cast
    split at cast <;> cases cast
    · exact h
    · exact h.above rfl rfl
  | some value =>
    cases t with
    | constant =>
      obtain ⟨kind', value', rfl⟩ := exists_constant_of_cast cast
      exact tidy_constant kind' value'
    | _ => cases is

theorem Tidy.of_isCast {u : Target} (h : t.Tidy w) (cast : t.IsCast u) : u.Tidy w := by
  rcases cast with rfl | ⟨kind, cast⟩
  · exact h
  · exact h.cast cast

end Target

end PredicateLang
