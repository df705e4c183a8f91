import PredicateLang.Proofs.Guid
import PredicateLang.Proofs.Text.LetterCase
import PredicateLang.Proofs.Text.Split
import PredicateLang.Proofs.Visiting.Walk

/-!
# What the visitors of the language come to

A visitor that changes a node and nothing below it comes to the tree in which every node is changed
on its own. Both visitors that rewrite are of this kind: one capitalizes the key paths of a tree,
segment by segment, the other turns the texts of GUIDs into GUIDs. A text that is a GUID already is
no text, so the second run of the latter finds nothing.
-/

namespace PredicateLang

open PredicateLang.Text

/-! ## Trees in which every expression is changed -/

mutual

/-- The expression with every expression in it changed, itself included. -/
def Expr.mapNodes (f : Expr → Expr) : Expr → Expr
  | .constant value => f (.constant value)
  | .self => f .self
  | .var name => f (.var name)
  | .path path => f (.path path)
  | .symbol symbol => f (.symbol symbol)
  | .pathOn operand path => f (.pathOn (operand.mapNodes f) path)
  | .call selector args => f (.call selector (Expr.mapAllNodes f args))
  | .subquery collection var condition =>
    f (.subquery (collection.mapNodes f) var (condition.mapNodes f))
  | .list items => f (.list (Expr.mapAllNodes f items))
  | .assign var value => f (.assign var (value.mapNodes f))

/-- The expressions with every expression in them changed. -/
def Expr.mapAllNodes (f : Expr → Expr) : List Expr → List Expr
  | [] => []
  | e :: rest => e.mapNodes f :: Expr.mapAllNodes f rest

/-- The predicate with every expression in it changed. -/
def Predicate.mapNodes (f : Expr → Expr) : Predicate → Predicate
  | .constant value => .constant value
  | .comparison left operator right modifier options =>
    .comparison (left.mapNodes f) operator (right.mapNodes f) modifier options
  | .compound connective parts => .compound connective (Predicate.mapAllNodes f parts)

/-- The predicates with every expression in them changed. -/
def Predicate.mapAllNodes (f : Expr → Expr) : List Predicate → List Predicate
  | [] => []
  | p :: rest => p.mapNodes f :: Predicate.mapAllNodes f rest

end

namespace Node

variable {f : Expr → Expr}

/-- The tree with every expression in it changed. -/
def mapNodes (f : Expr → Expr) : Node → Node
  | .expr e => .expr (e.mapNodes f)
  | .predicate p => .predicate (p.mapNodes f)

/-- The node changed if it is an expression. -/
def relabel (f : Expr → Expr) : Node → Node
  | .expr e => .expr (f e)
  | .predicate p => .predicate p

theorem mapAllNodes_eq_map (es : List Expr) :
    (Expr.mapAllNodes f es).map Node.expr = (es.map Node.expr).map (mapNodes f) := by
  induction es with
  | nil => rfl
  | cons e es ih => exact congrArg (Node.expr (e.mapNodes f) :: ·) ih

theorem mapAllNodes_eq_map' (ps : List Predicate) :
    (Predicate.mapAllNodes f ps).map Node.predicate = (ps.map Node.predicate).map (mapNodes f) := by
  induction ps with
  | nil => rfl
  | cons p ps ih => exact congrArg (Node.predicate (p.mapNodes f) :: ·) ih

/-- What is below a node is changed, and then the node. -/
theorem mapNodes_eq (n : Node) :
    n.mapNodes f = (n.rebuild (n.children.map (mapNodes f))).relabel f := by
  fun_cases children n
  case case2 selector args =>
    rw [← mapAllNodes_eq_map, rebuild, filterMap_expr?]
    rfl
  case case4 items =>
    rw [← mapAllNodes_eq_map, rebuild, filterMap_expr?]
    rfl
  case case13 connective parts =>
    rw [← mapAllNodes_eq_map', rebuild, filterMap_predicate?]
    rfl
  all_goals rfl

variable (f) in
/-- Expressions are changed and nothing that is below them. -/
structure Relabels : Prop where
  children (n : Node) : (n.relabel f).children = n.children
  rebuild (n : Node) (ns : List Node) : (n.rebuild ns).relabel f = (n.relabel f).rebuild ns

theorem Relabels.children_mapNodes (relabels : Relabels f) (n : Node) :
    (n.mapNodes f).children = n.children.map (mapNodes f) := by
  rw [mapNodes_eq, relabels.children, children_rebuild]
  rw [List.map_map]
  exact List.map_congr_left fun child _ => by cases child <;> rfl

/-- The nodes of the changed tree are the changed nodes. -/
theorem Relabels.exists_of_mem_nodes (relabels : Relabels f) (n : Node) :
    ∀ m ∈ (n.mapNodes f).nodes, ∃ n' : Node, m = n'.relabel f := by
  induction n using induct with
  | step n ih =>
    rw [nodes_eq, List.forall_mem_cons, relabels.children_mapNodes]
    refine ⟨⟨_, mapNodes_eq n⟩, fun m mem => ?_⟩
    obtain ⟨_, changed, inside⟩ := List.mem_flatMap.mp mem
    obtain ⟨child, below, rfl⟩ := List.mem_map.mp changed
    exact ih child below m inside

/-- Changing once is enough if it is enough for every expression. -/
theorem Relabels.mapNodes_mapNodes (relabels : Relabels f) (idempotent : ∀ e, f (f e) = f e)
    (n : Node) : (n.mapNodes f).mapNodes f = n.mapNodes f := by
  induction n using induct with
  | step n ih =>
    have below : (n.children.map (mapNodes f)).map (mapNodes f) = n.children.map (mapNodes f) := by
      rw [List.map_map]
      exact List.map_congr_left ih
    have twice (n : Node) : (n.relabel f).relabel f = n.relabel f := by
      cases n with
      | expr e => exact congrArg Node.expr (idempotent e)
      | predicate p => rfl
    rw [mapNodes_eq (n.mapNodes f), relabels.children_mapNodes, below,
      ← relabels.children_mapNodes, rebuild_children]
    rw [mapNodes_eq n, twice]

end Node

namespace Visitor

variable {σ : Type} {v : Visitor σ} {f : Expr → Expr}

theorem inOrder_eq_some {visit : Node → σ → Option (Node × σ)} {g : Node → Node}
    {steps : Node → σ → σ} {ns : List Node}
    (each : ∀ n ∈ ns, ∀ s, visit n s = some (g n, steps n s)) (s : σ) :
    Callbacks.inOrder visit ns s = some (ns.map g, ns.foldl (fun s n => steps n s) s) := by
  induction ns generalizing s with
  | nil => rfl
  | cons n ns ih =>
    rw [List.forall_mem_cons] at each
    exact Callbacks.inOrder_cons (each.1 s) (ih each.2 _)

/-- A visitor that changes an expression and nothing below it comes to the tree in which every
expression is changed, and to the state that its nodes lead to one after the other. -/
theorem visit_of_relabels (relabels : Node.Relabels f) (step : Node → σ → σ)
    (call : ∀ n s, v.callbacks.call n s = (n.relabel f, step n s)) (n : Node) (s : σ) :
    v.visit n s = (n.mapNodes f, n.nodes.foldl (fun s n => step n s) s) := by
  suffices walks : ∀ depth, n.size ≤ depth → v.callbacks.walk depth n s
      = some (n.mapNodes f, n.nodes.foldl (fun s n => step n s) s) from
    Option.some.inj ((walk_eq_visit (Nat.le_refl _) s).symm.trans (walks _ (Nat.le_refl _)))
  intro depth le
  induction depth generalizing n s with
  | zero => exact absurd le (Nat.not_le_of_gt n.size_pos)
  | succ depth ih =>
    have smaller (child : Node) (mem : child ∈ n.children) : child.size ≤ depth :=
      Nat.le_of_lt_succ (Nat.lt_of_lt_of_le (Node.size_lt_of_mem mem) le)
    have below := inOrder_eq_some (fun child mem s => ih child s (smaller child mem)) (step n s)
    rw [← relabels.children n] at below
    rw [Callbacks.walk_of_call (call n s) below, relabels.children, Node.mapNodes_eq n,
      relabels.rebuild, Node.nodes_eq n, List.foldl_cons, List.foldl_flatMap]

/-! ## Key paths -/

theorem relabels_capitalizeNode : Node.Relabels Expr.capitalizeNode where
  children n := by
    rcases n with (_ | _ | _ | _ | _ | _ | _ | _ | _ | _) | _ <;> rfl
  rebuild n ns := by
    rcases n with (_ | _ | _ | _ | _ | _ | _ | _ | _ | _) | (_ | _ | _) <;>
      rcases ns with _ | ⟨_ | _, _ | ⟨_ | _, _ | _⟩⟩ <;> rfl

/-- Every key path is capitalized, wherever it is. -/
theorem visit_pascalCase (n : Node) :
    pascalCase.visit n () = (n.mapNodes Expr.capitalizeNode, ()) :=
  visit_of_relabels relabels_capitalizeNode (fun _ s => s) (fun n s => by cases n <;> rfl) n ()

end Visitor

namespace Expr

theorem point_notMem_capitalizeSegment {segment : String} (clean : '.' ∉ segment.toList) :
    '.' ∉ (capitalizeSegment segment).toList := by
  unfold capitalizeSegment
  split
  · exact clean
  · unfold capitalize
    cases h : segment.toList with
    | nil => simp
    | cons c rest =>
      rw [h, List.mem_cons, not_or] at clean
      rw [String.toList_ofList, List.mem_append, not_or]
      exact ⟨point_notMem_upperChar (Ne.symm clean.1), clean.2⟩

/-- The segments of a capitalized path are the segments of the path, each capitalized. -/
theorem split_capitalizePath (path : String) :
    split '.' (capitalizePath path) = (split '.' path).map capitalizeSegment :=
  split_join (mt List.map_eq_nil_iff.mp (split_ne_nil path)) (List.forall_mem_map.mpr
    fun segment mem => point_notMem_capitalizeSegment (separator_notMem_split path segment mem))

end Expr

/-! ## GUIDs -/

/-- The GUID that the expression is the text of, in its place. -/
def Expr.guidNode (e : Expr) : Expr :=
  match e.guidConstant? with
  | some guid => .constant (.guid guid)
  | none => e

/-- Is the node the text of a GUID? -/
def Node.isGuidText : Node → Bool
  | .expr e => e.guidConstant?.isSome
  | .predicate _ => false

namespace Expr

/-- Constants are turned into constants. -/
theorem guidNode_constant (value : Value) :
    ∃ value', guidNode (.constant value) = .constant value' := by
  unfold guidNode
  split
  · exact ⟨_, rfl⟩
  · exact ⟨value, rfl⟩

/-- A GUID is no text any more. -/
theorem guidConstant?_guidNode (e : Expr) : e.guidNode.guidConstant? = none := by
  unfold guidNode
  split
  · rfl
  · assumption

theorem guidNode_guidNode (e : Expr) : e.guidNode.guidNode = e.guidNode := by
  rw [guidNode, guidConstant?_guidNode]

end Expr

theorem Node.rebuild_constant (value : Value) (ns : List Node) :
    (Node.expr (.constant value)).rebuild ns = .expr (.constant value) := by
  rcases ns with _ | ⟨_ | _, _ | ⟨_ | _, _ | _⟩⟩ <;> rfl

theorem Node.isGuidText_relabel (n : Node) : (n.relabel Expr.guidNode).isGuidText = false := by
  cases n with
  | expr e => exact congrArg Option.isSome e.guidConstant?_guidNode
  | predicate p => rfl

namespace Visitor

theorem relabels_guidNode : Node.Relabels Expr.guidNode where
  children n := by
    rcases n with (value | _ | _ | _ | _ | _ | _ | _ | _ | _) | _
    · obtain ⟨value', same⟩ := Expr.guidNode_constant value
      rw [Node.relabel, same]
      rfl
    all_goals rfl
  rebuild n ns := by
    rcases n with (value | _ | _ | _ | _ | _ | _ | _ | _ | _) | (_ | _ | _)
    · obtain ⟨value', same⟩ := Expr.guidNode_constant value
      rw [Node.rebuild_constant, Node.relabel, same, Node.rebuild_constant]
    all_goals rcases ns with _ | ⟨_ | _, _ | ⟨_ | _, _ | _⟩⟩ <;> rfl

theorem foldl_eq_countP {α : Type} (p : α → Bool) (xs : List α) (k : Nat) :
    xs.foldl (fun k x => if p x then k + 1 else k) k = k + xs.countP p := by
  induction xs generalizing k with
  | nil => rfl
  | cons x xs ih =>
    rw [List.foldl_cons, ih, List.countP_cons]
    split <;> omega

/-- Every text of a GUID is turned into the GUID, and they are counted. -/
theorem visit_guidConstants (n : Node) (k : Nat) :
    guidConstants.visit n k = (n.mapNodes Expr.guidNode, k + n.nodes.countP Node.isGuidText) := by
  rw [← foldl_eq_countP]
  refine visit_of_relabels relabels_guidNode (fun n k => if n.isGuidText then k + 1 else k)
    (fun n s => ?_) n k
  cases n with
  | predicate p => rfl
  | expr e =>
    cases found : e.guidConstant? <;>
      simp only [Callbacks.call, callbacks, guidConstants, Node.relabel, Expr.guidNode,
        Node.isGuidText, found] <;> rfl

/-- Afterwards there is nothing left to do. -/
theorem visit_guidConstants_again (n : Node) (k : Nat) :
    guidConstants.visit (n.mapNodes Expr.guidNode) k = (n.mapNodes Expr.guidNode, k) := by
  have none_left : (n.mapNodes Expr.guidNode).nodes.countP Node.isGuidText = 0 := by
    refine List.countP_eq_zero.mpr fun m mem => ?_
    obtain ⟨n', rfl⟩ := relabels_guidNode.exists_of_mem_nodes n m mem
    rw [Node.isGuidText_relabel]
    exact Bool.false_ne_true
  rw [visit_guidConstants, none_left, relabels_guidNode.mapNodes_mapNodes Expr.guidNode_guidNode,
    Nat.add_zero]

/-- A visit that ends comes to what its calls come to, one for each node of the result: it begins
with the node, and goes on with the nodes right below the one that came back, from left to right. A
visitor that makes no node bigger always ends. Both visitors that rewrite change every node they are
for and nothing else: key paths become those with each of their segments capitalized, and strings the
GUIDs that they are the texts of, which leaves none behind. -/
theorem visit_reaches_every_node :
    (∀ {σ : Type} (c : Callbacks σ) (n n' : Node) (s s' : σ),
      (∃ depth, c.walk depth n s = some (n', s')) ↔
        ∃ visit : Visit, visit.before = n ∧ visit.IsProper ∧ visit.result = n' ∧
          visit.calls.length = n'.size ∧ c.Runs s visit.calls s') ∧
    (∀ {σ : Type} (v : Visitor σ) (n : Node) (s : σ),
      v.callbacks.walk n.size n s = some (v.visit n s)) ∧
    (∀ n : Node, pascalCase.visit n () = (n.mapNodes Expr.capitalizeNode, ())) ∧
    (∀ path : String, split '.' (Expr.capitalizePath path)
      = (split '.' path).map Expr.capitalizeSegment) ∧
    (∀ (n : Node) (k : Nat), guidConstants.visit n k
      = (n.mapNodes Expr.guidNode, k + n.nodes.countP Node.isGuidText)) ∧
    (∀ (n : Node) (k : Nat), guidConstants.visit (n.mapNodes Expr.guidNode) k
      = (n.mapNodes Expr.guidNode, k)) ∧
    (∀ (e : Expr) (g : Guid), e.guidConstant? = some g ↔ ∃ text, e = .constant (.string text) ∧
      (equalIgnoringCase text g.text ∨ equalIgnoringCase text ("\x7b" ++ g.text ++ "\x7d"))) :=
  ⟨fun _ _ _ _ _ => Callbacks.exists_walk_iff, fun _ _ s => walk_eq_visit (Nat.le_refl _) s,
    visit_pascalCase, Expr.split_capitalizePath, visit_guidConstants, visit_guidConstants_again,
    fun _ _ => Expr.guidConstant?_eq_some_iff⟩

end Visitor

end PredicateLang
