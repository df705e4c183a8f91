import Mathlib
import PredicateLang.Expr.Visitor

/-!
# What a visit is

A visit calls what happens at a node, and then visits what the node that came back has below it, from
left to right. So the calls of a visit form a tree: at each place the node that was called with and
the node that came back, and below it the calls for the children of the latter. This tree has one
place for every node of the result, and the calls are made in preorder.

None of this needs that nodes do not get bigger. What may happen at the nodes is therefore taken to
be arbitrary, and a visit that would go on for ever has no result, however deep it may go. No visit
goes deeper than its result has nodes.
-/

namespace PredicateLang

/-! ## Nodes -/

/-- A node of a tree, with all that is below it. -/
inductive Node where
  | expr (e : Expr)
  | predicate (p : Predicate)

namespace Node

/-- Is the node an expression? -/
def isExpr : Node → Bool
  | .expr _ => true
  | .predicate _ => false

/-- The expression that a node is. -/
def expr? : Node → Option Expr
  | .expr e => some e
  | .predicate _ => none

/-- The predicate that a node is. -/
def predicate? : Node → Option Predicate
  | .expr _ => none
  | .predicate p => some p

/-- The nodes right below a node, from left to right. -/
def children : Node → List Node
  | .expr (.pathOn operand _) => [.expr operand]
  | .expr (.call _ args) => args.map .expr
  | .expr (.subquery collection _ condition) => [.expr collection, .predicate condition]
  | .expr (.list items) => items.map .expr
  | .expr (.assign _ value) => [.expr value]
  | .expr (.constant _) | .expr .self | .expr (.var _) | .expr (.path _) | .expr (.symbol _) => []
  | .predicate (.constant _) => []
  | .predicate (.comparison left _ right _ _) => [.expr left, .expr right]
  | .predicate (.compound _ parts) => parts.map .predicate

/-- The node with other nodes right below it. -/
def rebuild : Node → List Node → Node
  | .expr (.pathOn _ path), [.expr operand] => .expr (.pathOn operand path)
  | .expr (.call selector _), below => .expr (.call selector (below.filterMap expr?))
  | .expr (.subquery _ var _), [.expr collection, .predicate condition] =>
    .expr (.subquery collection var condition)
  | .expr (.list _), below => .expr (.list (below.filterMap expr?))
  | .expr (.assign var _), [.expr value] => .expr (.assign var value)
  | .predicate (.comparison _ operator _ modifier options), [.expr left, .expr right] =>
    .predicate (.comparison left operator right modifier options)
  | .predicate (.compound connective _), below =>
    .predicate (.compound connective (below.filterMap predicate?))
  | n, _ => n

theorem filterMap_expr? (es : List Expr) : (es.map Node.expr).filterMap expr? = es := by
  rw [List.filterMap_map, show expr? ∘ Node.expr = some from rfl, List.filterMap_some]

theorem filterMap_predicate? (ps : List Predicate) :
    (ps.map Node.predicate).filterMap predicate? = ps := by
  rw [List.filterMap_map, show predicate? ∘ Node.predicate = some from rfl, List.filterMap_some]

/-- Nodes that are all expressions. -/
theorem map_filterMap_expr? {ns : List Node} (all : ∀ n ∈ ns, n.isExpr = true) :
    (ns.filterMap expr?).map Node.expr = ns := by
  induction ns with
  | nil => rfl
  | cons n ns ih =>
    cases n with
    | expr e => exact congrArg (Node.expr e :: ·) (ih fun n mem => all n (.tail _ mem))
    | predicate p => exact nomatch all _ (.head _)

/-- Nodes that are all predicates. -/
theorem map_filterMap_predicate? {ns : List Node} (all : ∀ n ∈ ns, n.isExpr = false) :
    (ns.filterMap predicate?).map Node.predicate = ns := by
  induction ns with
  | nil => rfl
  | cons n ns ih =>
    cases n with
    | expr e => exact nomatch all _ (.head _)
    | predicate p => exact congrArg (Node.predicate p :: ·) (ih fun n mem => all n (.tail _ mem))

/-- What a node is made of gives it back. -/
theorem rebuild_children (n : Node) : n.rebuild n.children = n := by
  fun_cases children n
  case case2 | case4 => simp only [rebuild, filterMap_expr?]
  case case13 => simp only [rebuild, filterMap_predicate?]
  all_goals rfl

theorem isExpr_rebuild (n : Node) (ns : List Node) : (n.rebuild ns).isExpr = n.isExpr := by
  fun_cases rebuild n ns <;> rfl

/-- Nodes of the kind that all of some nodes have. -/
theorem isExpr_of_mem {ns ms : List Node} {kind : Bool} (kinds : ns.map isExpr = ms.map isExpr)
    (all : ∀ m ∈ ms, m.isExpr = kind) {n : Node} (mem : n ∈ ns) : n.isExpr = kind := by
  have given : n.isExpr ∈ ns.map isExpr := List.mem_map_of_mem mem
  rw [kinds] at given
  obtain ⟨m, mem, same⟩ := List.mem_map.mp given
  exact same.symm.trans (all m mem)

theorem isExpr_of_mem_map {es : List Expr} : ∀ n ∈ es.map Node.expr, n.isExpr = true :=
  List.forall_mem_map.mpr fun _ _ => rfl

theorem isExpr_of_mem_map' {ps : List Predicate} :
    ∀ n ∈ ps.map Node.predicate, n.isExpr = false :=
  List.forall_mem_map.mpr fun _ _ => rfl

/-- Nodes of the kinds that the node has below it are what it has below it then. -/
theorem children_rebuild {n : Node} {ns : List Node}
    (kinds : ns.map isExpr = n.children.map isExpr) : (n.rebuild ns).children = ns := by
  match n, ns, kinds with
  | .expr (.pathOn ..), [.expr _], _ | .expr (.assign ..), [.expr _], _ => rfl
  | .expr (.subquery ..), [.expr _, .predicate _], _ => rfl
  | .predicate (.comparison ..), [.expr _, .expr _], _ => rfl
  | .expr (.constant _), [], _ | .expr .self, [], _ | .expr (.var _), [], _
  | .expr (.path _), [], _ | .expr (.symbol _), [], _ | .predicate (.constant _), [], _ => rfl
  | .expr (.call ..), _, kinds | .expr (.list _), _, kinds =>
    exact map_filterMap_expr? fun _ => isExpr_of_mem kinds isExpr_of_mem_map
  | .predicate (.compound ..), _, kinds =>
    exact map_filterMap_predicate? fun _ => isExpr_of_mem kinds isExpr_of_mem_map'

/-- The number of nodes of a tree. -/
def size : Node → Nat
  | .expr e => e.size
  | .predicate p => p.size

theorem sum_size_map_expr (es : List Expr) :
    ((es.map Node.expr).map size).sum = Expr.sizeAll es := by
  induction es with
  | nil => rfl
  | cons e es ih =>
    rw [List.map_cons, List.map_cons, List.sum_cons, ih]
    rfl

theorem sum_size_map_predicate (ps : List Predicate) :
    ((ps.map Node.predicate).map size).sum = Predicate.sizeAll ps := by
  induction ps with
  | nil => rfl
  | cons p ps ih =>
    rw [List.map_cons, List.map_cons, List.sum_cons, ih]
    rfl

theorem size_eq (n : Node) : n.size = (n.children.map size).sum + 1 := by
  fun_cases children n
  case case2 | case4 => rw [sum_size_map_expr]; rfl
  case case13 => rw [sum_size_map_predicate]; rfl
  all_goals rfl

theorem size_pos (n : Node) : 0 < n.size := by
  rw [size_eq n]
  exact Nat.succ_pos _

theorem size_lt_of_mem {n child : Node} (mem : child ∈ n.children) : child.size < n.size := by
  have le := List.le_sum_of_mem (List.mem_map_of_mem (f := size) mem)
  rw [size_eq n]
  omega

/-- A node and all that are below it, each before those below it. -/
def nodes (n : Node) : List Node := n :: n.children.attach.flatMap fun child => child.1.nodes
termination_by n.size
decreasing_by exact size_lt_of_mem child.2

theorem nodes_eq (n : Node) : n.nodes = n :: n.children.flatMap nodes := by
  rw [nodes, List.flatMap_subtype fun _ _ => rfl, List.unattach_attach]

/-- What holds of a node if it holds of those right below it holds of every node. -/
theorem induct {P : Node → Prop} (step : ∀ n, (∀ child ∈ n.children, P child) → P n) (n : Node) :
    P n := step n fun child _ => induct step child
termination_by n.size
decreasing_by exact size_lt_of_mem ‹_›

end Node

/-! ## Visits -/

/-- What happens at the nodes of a tree. Nodes may get bigger. -/
structure Callbacks (σ : Type) where
  expr : Expr → StateM σ Expr
  predicate : Predicate → StateM σ Predicate

namespace Callbacks

variable {σ : Type} (c : Callbacks σ)

/-- What happens at a node. -/
def call : Node → σ → Node × σ
  | .expr e, s => (.expr (c.expr e s).1, (c.expr e s).2)
  | .predicate p, s => (.predicate (c.predicate p s).1, (c.predicate p s).2)

/-- Visits nodes in order. -/
def inOrder (visit : Node → σ → Option (Node × σ)) : List Node → σ → Option (List Node × σ)
  | [], s => some ([], s)
  | n :: rest, s => do
    let (first, s) ← visit n s
    let (rest, s) ← inOrder visit rest s
    return (first :: rest, s)

/-- Visits a node: calls what happens at it, and visits what is below the node that comes back. There
is no result if more than so many visits would be inside one another. -/
def walk : Nat → Node → σ → Option (Node × σ)
  | 0, _, _ => none
  | depth + 1, n, s => do
    let (after, s) := c.call n s
    let (below, s) ← inOrder (walk depth) after.children s
    return (after.rebuild below, s)

end Callbacks

/-- The calls that are made for a node and below it: the node that is called with, the node that
comes back, and the calls for what is right below that. -/
inductive Visit where
  | call (before after : Node) (below : List Visit)

namespace Visit

/-- The node that is visited. -/
def before : Visit → Node
  | .call before _ _ => before

/-- Each node right below one that came back is called with once, from left to right. -/
inductive IsProper : Visit → Prop where
  | intro {before after : Node} {below : List Visit}
    (children : below.map Visit.before = after.children) (all : ∀ visit ∈ below, IsProper visit) :
    IsProper (.call before after below)

/-- The nodes that came back, put together. -/
def result : Visit → Node
  | .call _ after below => after.rebuild (below.map fun visit => visit.result)

/-- The calls in the order in which they are made. -/
def calls : Visit → List (Node × Node)
  | .call before after below => (before, after) :: below.flatMap fun visit => visit.calls

end Visit

/-- The calls are made one after the other, from one state to another. -/
def Callbacks.Runs {σ : Type} (c : Callbacks σ) (s : σ) : List (Node × Node) → σ → Prop
  | [], s' => s' = s
  | (before, after) :: calls, s' => ∃ s₁, c.call before s = (after, s₁) ∧ c.Runs s₁ calls s'

namespace Callbacks

variable {σ : Type} {c : Callbacks σ} {s s' : σ}

theorem runs_append {calls more : List (Node × Node)} :
    c.Runs s (calls ++ more) s' ↔ ∃ s₁, c.Runs s calls s₁ ∧ c.Runs s₁ more s' := by
  induction calls generalizing s with
  | nil => exact ⟨fun runs => ⟨s, rfl, runs⟩, fun ⟨_, same, runs⟩ => same ▸ runs⟩
  | cons call calls ih =>
    constructor
    · rintro ⟨s₁, called, runs⟩
      obtain ⟨s₂, first, second⟩ := ih.mp runs
      exact ⟨s₂, ⟨s₁, called, first⟩, second⟩
    · rintro ⟨s₂, ⟨s₁, called, first⟩, second⟩
      exact ⟨s₁, called, ih.mpr ⟨s₂, first, second⟩⟩

/-- An expression stays an expression, and a predicate a predicate. -/
theorem isExpr_call (n : Node) (s : σ) : (c.call n s).1.isExpr = n.isExpr := by
  cases n <;> rfl

/-! ### From a visit to its calls -/

variable (c) in
/-- The calls of a visit that ended. -/
def Visited (n : Node) (s : σ) (n' : Node) (s' : σ) : Prop :=
  ∃ visit : Visit, visit.before = n ∧ visit.IsProper ∧ visit.result = n' ∧
    visit.calls.length = n'.size ∧ c.Runs s visit.calls s'

variable (c) in
/-- The calls of visits one after the other. -/
def VisitedAll (ns : List Node) (s : σ) (ns' : List Node) (s' : σ) : Prop :=
  ∃ visits : List Visit, visits.map Visit.before = ns ∧ (∀ visit ∈ visits, visit.IsProper) ∧
    visits.map Visit.result = ns' ∧
    (visits.flatMap Visit.calls).length = (ns'.map Node.size).sum ∧
    c.Runs s (visits.flatMap Visit.calls) s'

theorem VisitedAll.nil (s : σ) : c.VisitedAll [] s [] s :=
  ⟨[], rfl, List.forall_mem_nil _, rfl, rfl, rfl⟩

theorem VisitedAll.cons {n n' : Node} {ns ns' : List Node} {s s₁ s' : σ}
    (first : c.Visited n s n' s₁) (rest : c.VisitedAll ns s₁ ns' s') :
    c.VisitedAll (n :: ns) s (n' :: ns') s' := by
  obtain ⟨visit, rfl, proper, rfl, length, runs⟩ := first
  obtain ⟨visits, rfl, all, rfl, lengths, more⟩ := rest
  refine ⟨visit :: visits, rfl, List.forall_mem_cons.mpr ⟨proper, all⟩, rfl, ?_, ?_⟩
  · rw [List.flatMap_cons, List.length_append, length, lengths]
    rfl
  · rw [List.flatMap_cons]
    exact runs_append.mpr ⟨s₁, runs, more⟩

/-- A call, with visits for what is below the node that comes back. -/
theorem Visited.of_call {n after : Node} {below : List Node} {s₁ : σ}
    (called : c.call n s = (after, s₁)) (all : c.VisitedAll after.children s₁ below s')
    (kinds : below.map Node.isExpr = after.children.map Node.isExpr) :
    c.Visited n s (after.rebuild below) s' := by
  obtain ⟨visits, children, proper, results, lengths, runs⟩ := all
  have result : (Visit.call n after visits).result = after.rebuild below := by
    rw [Visit.result, results]
  refine ⟨.call n after visits, rfl, .intro children proper, result, ?_, ?_⟩
  · rw [Node.size_eq, Node.children_rebuild kinds, ← lengths, Visit.calls, List.length_cons]
  · rw [Visit.calls]
    exact ⟨s₁, called, runs⟩

/-- Nodes that come to something by their calls come to it by these one after the other. -/
theorem visitedAll_of_inOrder {visit : Node → σ → Option (Node × σ)}
    (each : ∀ {n n' s s'}, visit n s = some (n', s') → c.Visited n s n' s' ∧ n'.isExpr = n.isExpr)
    {ns ns' : List Node} (h : inOrder visit ns s = some (ns', s')) :
    c.VisitedAll ns s ns' s' ∧ ns'.map Node.isExpr = ns.map Node.isExpr := by
  induction ns generalizing s ns' with
  | nil =>
    cases h
    exact ⟨.nil _, rfl⟩
  | cons n ns ih =>
    simp only [inOrder, Option.bind_eq_bind, Option.bind_eq_some_iff, Option.pure_def,
      Option.some.injEq, Prod.mk.injEq] at h
    obtain ⟨⟨n', s₁⟩, visited, ⟨rest, s₂⟩, others, rfl, rfl⟩ := h
    obtain ⟨first, kind⟩ := each visited
    obtain ⟨all, kinds⟩ := ih others
    exact ⟨.cons first all, congrArg₂ List.cons kind kinds⟩

/-- Whatever a visit comes to, it comes to by its calls. -/
theorem visited_of_walk {depth : Nat} {n n' : Node} (h : c.walk depth n s = some (n', s')) :
    c.Visited n s n' s' ∧ n'.isExpr = n.isExpr := by
  induction depth generalizing n n' s s' with
  | zero => cases h
  | succ depth ih =>
    cases called : c.call n s with
    | mk after s₁ =>
      simp only [walk, called, Option.bind_eq_bind, Option.bind_eq_some_iff, Option.pure_def,
        Option.some.injEq, Prod.mk.injEq] at h
      obtain ⟨⟨below, s₂⟩, visited, rfl, rfl⟩ := h
      obtain ⟨all, kinds⟩ := visitedAll_of_inOrder ih visited
      refine ⟨.of_call called all kinds, ?_⟩
      rw [Node.isExpr_rebuild, ← isExpr_call (c := c) n s, called]

/-! ### From the calls to the visit -/

theorem walk_of_call {depth : Nat} {n after : Node} {below : List Node} {s₁ : σ}
    (called : c.call n s = (after, s₁))
    (all : inOrder (c.walk depth) after.children s₁ = some (below, s')) :
    c.walk (depth + 1) n s = some (after.rebuild below, s') := by
  rw [walk, called]
  simp only [all, Option.bind_eq_bind, Option.bind_some, Option.pure_def]

theorem inOrder_cons {visit : Node → σ → Option (Node × σ)} {n n' : Node} {ns ns' : List Node}
    {s₁ : σ} (first : visit n s = some (n', s₁)) (rest : inOrder visit ns s₁ = some (ns', s')) :
    inOrder visit (n :: ns) s = some (n' :: ns', s') := by
  rw [inOrder]
  simp only [first, rest, Option.bind_eq_bind, Option.bind_some, Option.pure_def]

mutual

/-- A visit is no deeper than it has calls. -/
theorem walk_of_runs : ∀ (visit : Visit) {depth : Nat} {s s' : σ}, visit.calls.length ≤ depth →
    visit.IsProper → c.Runs s visit.calls s' →
    c.walk depth visit.before s = some (visit.result, s')
  | .call before after below, 0, s, s', le, _, _ => by
    rw [Visit.calls] at le
    exact absurd le (Nat.not_succ_le_zero _)
  | .call before after below, depth + 1, s, s', le, .intro children all, runs => by
    rw [Visit.calls] at le runs
    obtain ⟨s₁, called, runs⟩ := runs
    rw [Visit.result]
    have le := Nat.le_of_succ_le_succ le
    exact walk_of_call called (children ▸ inOrder_of_runs below le all runs)

theorem inOrder_of_runs : ∀ (visits : List Visit) {depth : Nat} {s s' : σ},
    (visits.flatMap Visit.calls).length ≤ depth → (∀ visit ∈ visits, visit.IsProper) →
    c.Runs s (visits.flatMap Visit.calls) s' →
    inOrder (c.walk depth) (visits.map Visit.before) s = some (visits.map Visit.result, s')
  | [], depth, s, s', _, _, runs => by
    obtain rfl := runs
    rfl
  | visit :: visits, depth, s, s', le, all, runs => by
    rw [List.flatMap_cons] at le runs
    rw [List.length_append] at le
    obtain ⟨s₁, first, rest⟩ := runs_append.mp runs
    obtain ⟨proper, all⟩ := List.forall_mem_cons.mp all
    exact inOrder_cons (walk_of_runs visit (by omega) proper first)
      (inOrder_of_runs visits (by omega) all rest)

end

/-- A visit comes to what its calls come to: one for each node, from the first to the last. -/
theorem exists_walk_iff {n n' : Node} :
    (∃ depth, c.walk depth n s = some (n', s')) ↔ c.Visited n s n' s' := by
  refine ⟨fun ⟨_, h⟩ => (visited_of_walk h).1, ?_⟩
  rintro ⟨visit, rfl, proper, rfl, -, runs⟩
  exact ⟨visit.calls.length, walk_of_runs visit (Nat.le_refl _) proper runs⟩

end Callbacks

/-! ## The visitors that make no node bigger -/

namespace Visitor

variable {σ : Type} (v : Visitor σ)

/-- What happens at nodes, without the sizes. -/
def callbacks : Callbacks σ := ⟨v.expr, v.predicate⟩

/-- Visits a node. -/
def visit : Node → σ → Node × σ
  | .expr e, s => (.expr (v.visitExpr e s).1, (v.visitExpr e s).2)
  | .predicate p, s => (.predicate (v.visitPredicate p s).1, (v.visitPredicate p s).2)

theorem call_expr {e after : Expr} {s s₁ : σ} (called : v.expr e s = (after, s₁)) :
    v.callbacks.call (.expr e) s = (.expr after, s₁) :=
  congrArg (fun r : Expr × σ => (Node.expr r.1, r.2)) called

theorem call_predicate {p after : Predicate} {s s₁ : σ} (called : v.predicate p s = (after, s₁)) :
    v.callbacks.call (.predicate p) s = (.predicate after, s₁) :=
  congrArg (fun r : Predicate × σ => (Node.predicate r.1, r.2)) called

theorem size_call (n : Node) (s : σ) : (v.callbacks.call n s).1.size ≤ n.size := by
  cases n with
  | expr e => exact v.size_expr e s
  | predicate p => exact v.size_predicate p s

open Callbacks

variable {v} {visit : Node → σ → Option (Node × σ)}

theorem inOrder_visitExprs {es : List Expr}
    (each : ∀ e ∈ es, ∀ s, visit (.expr e) s = some (v.visit (.expr e) s)) (s : σ) :
    inOrder visit (es.map Node.expr) s
      = some ((v.visitExprs es s).1.map Node.expr, (v.visitExprs es s).2) := by
  induction es generalizing s with
  | nil =>
    rw [visitExprs]
    rfl
  | cons e es ih =>
    rw [List.forall_mem_cons] at each
    rw [visitExprs]
    exact inOrder_cons (each.1 s) (ih each.2 _)

theorem inOrder_visitPredicates {ps : List Predicate}
    (each : ∀ p ∈ ps, ∀ s, visit (.predicate p) s = some (v.visit (.predicate p) s)) (s : σ) :
    inOrder visit (ps.map Node.predicate) s
      = some ((v.visitPredicates ps s).1.map Node.predicate, (v.visitPredicates ps s).2) := by
  induction ps generalizing s with
  | nil =>
    rw [visitPredicates]
    rfl
  | cons p ps ih =>
    rw [List.forall_mem_cons] at each
    rw [visitPredicates]
    exact inOrder_cons (each.1 s) (ih each.2 _)

/-- An expression is visited as by any other visitor if what is below the node that comes back is. -/
theorem walk_eq_visitExpr {e : Expr} {s : σ} {depth : Nat}
    (below : ∀ child ∈ (v.callbacks.call (.expr e) s).1.children, ∀ s,
      v.callbacks.walk depth child s = some (v.visit child s)) :
    v.callbacks.walk (depth + 1) (.expr e) s
      = some (.expr (v.visitExpr e s).1, (v.visitExpr e s).2) := by
  rw [visitExpr]
  split
  all_goals
    rename_i s₁ called
    have call := v.call_expr called
    rw [call] at below
  case h_1 operand path =>
    exact walk_of_call call (inOrder_cons (below _ (.head _) s₁) rfl)
  case h_2 selector args =>
    have all := inOrder_visitExprs (fun e mem => below _ (List.mem_map_of_mem mem)) s₁
    refine (walk_of_call call all).trans ?_
    rw [Node.rebuild, Node.filterMap_expr?]
  case h_3 collection var condition =>
    exact walk_of_call call (inOrder_cons (below _ (.head _) s₁)
      (inOrder_cons (below _ (.tail _ (.head _)) _) rfl))
  case h_4 items =>
    have all := inOrder_visitExprs (fun e mem => below _ (List.mem_map_of_mem mem)) s₁
    refine (walk_of_call call all).trans ?_
    rw [Node.rebuild, Node.filterMap_expr?]
  case h_5 var value =>
    exact walk_of_call call (inOrder_cons (below _ (.head _) s₁) rfl)
  all_goals exact walk_of_call call rfl

/-- A predicate is visited as by any other visitor if what is below the node that comes back is. -/
theorem walk_eq_visitPredicate {p : Predicate} {s : σ} {depth : Nat}
    (below : ∀ child ∈ (v.callbacks.call (.predicate p) s).1.children, ∀ s,
      v.callbacks.walk depth child s = some (v.visit child s)) :
    v.callbacks.walk (depth + 1) (.predicate p) s
      = some (.predicate (v.visitPredicate p s).1, (v.visitPredicate p s).2) := by
  rw [visitPredicate]
  split
  all_goals
    rename_i s₁ called
    have call := v.call_predicate called
    rw [call] at below
  case h_1 value => exact walk_of_call call rfl
  case h_2 left operator right modifier options =>
    exact walk_of_call call (inOrder_cons (below _ (.head _) s₁)
      (inOrder_cons (below _ (.tail _ (.head _)) _) rfl))
  case h_3 connective parts =>
    have all := inOrder_visitPredicates (fun p mem => below _ (List.mem_map_of_mem mem)) s₁
    refine (walk_of_call call all).trans ?_
    rw [Node.rebuild, Node.filterMap_predicate?]

/-- A visitor that makes no node bigger always comes to an end, no deeper than there are nodes, and
visits as any other does. -/
theorem walk_eq_visit {n : Node} {depth : Nat} (le : n.size ≤ depth) (s : σ) :
    v.callbacks.walk depth n s = some (v.visit n s) := by
  induction depth generalizing n s with
  | zero => exact absurd le (Nat.not_le_of_gt n.size_pos)
  | succ depth ih =>
    have below (child : Node) (mem : child ∈ (v.callbacks.call n s).1.children) (s : σ) :
        v.callbacks.walk depth child s = some (v.visit child s) :=
      ih (Nat.le_of_lt_succ ((Node.size_lt_of_mem mem).trans_le ((v.size_call n _).trans le))) s
    cases n with
    | expr e => exact walk_eq_visitExpr below
    | predicate p => exact walk_eq_visitPredicate below

end Visitor

end PredicateLang
