import PredicateLang.Compilation
import PredicateLang.Proofs.Alike.Compiled
import PredicateLang.Proofs.Invariant.Lowering

/-!
# Lowered trees have every invariant

By induction on expressions and predicates, what they are lowered to has the invariant, if the trees
in scope have it. The variable of a subquery is in scope for the predicate and is introduced around
it. A variable that is assigned is in scope from then on and introduced nowhere, so there must be no
assignments, unless the invariant does not ask for names to be introduced.

That a tree suits a dialect is such an invariant. So dialects are kept apart: in a tree for a query
backend there are no guards, bindings and casts, and in one for objects every property is taken of
something that is there (`Lowering.occurs_has`).
-/

open PredicateLang.Lowering PredicateLang.Target

namespace PredicateLang

variable {d : Dialect} {I : Invariant d} {N : Set String}

/-- Names may stand where they are not introduced. -/
def Invariant.IsOpen (I : Invariant d) : Prop :=
  ∀ (N : Set String) (kind : Kind) (name : String), I.Holds N (.parameter kind name)

namespace Lowering

open Invariant (Upholds)

theorem upholds_object : I.Upholds N object (I.Holds N) := by
  refine (upholds_binding? _).bind fun found holds => ?_
  split
  · exact upholds_pure (holds _ rfl)
  · exact upholds_throw _

theorem upholds_reference (name : String) : I.Upholds N (reference name) (I.Holds N) := by
  refine (upholds_binding? _).bind fun found holds => ?_
  split
  · exact upholds_pure (holds _ rfl)
  · exact upholds_throw _

theorem upholds_list {ts : List Target} (h : ∀ t ∈ ts, I.Holds N t) :
    I.Upholds N (list ts) (I.Holds N) := by
  unfold list
  dsimp only
  split
  · refine Upholds.bind (P := fun us => ∀ t ∈ us, I.Holds N t) ?_ fun us holds =>
      upholds_pure (I.list _ holds)
    refine upholds_ofResult fun us made u mem => ?_
    obtain ⟨t, mem', cast⟩ := exists_of_mapM_ok made u mem
    exact I.cast (h t mem') cast
  · exact upholds_pure (I.list _ h)

theorem upholds_assign (name : String) {t : Target} (free : I.IsOpen) (h : I.Holds N t) :
    I.Upholds N (assign name t) (I.Holds N) :=
  (upholds_bind _ (free N _ _)).bind fun _ _ => upholds_pure (I.assign _ _ h)

/-- The predicate is put under the guard of the collection and the name of the variable. -/
theorem yields_filter {source : Target} (name : String) {predicate : Lowering Target}
    (h : I.Holds N source)
    (h' : I.Upholds (insert (Scope.variableKey name) N) predicate
      (I.Holds (insert (Scope.variableKey name) N))) :
    I.Yields N (filter source name predicate) (I.Holds N) := by
  refine (upholds_elementOf _ _ source).bind_yields fun element _ => yields_bind ?_
  refine h'.bind_yields fun condition holds => Upholds.yields ?_
  refine upholds_guarded h fun G source le holds' ready => upholds_pure ?_
  have under := I.mono holds (Set.insert_subset_insert le)
  exact I.filter _ (not_isGuardName_variableKey name) holds' ready under

end Lowering

/-! ## The induction -/

mutual

theorem Expr.upholds_lower {N : Set String} (e : Expr) (free : I.IsOpen ∨ e.assignsNothing) :
    I.Upholds N e.lower (I.Holds N) := by
  match e with
  | .constant value => exact upholds_pure (I.constant _ value)
  | .self => exact upholds_object
  | .var name => exact upholds_reference name
  | .path route => exact upholds_object.bind fun _ holds => upholds_follow (segments route) holds
  | .pathOn operand route =>
    exact (Expr.upholds_lower operand free).bind fun _ holds => upholds_follow (segments route) holds
  | .call selector args =>
    refine (upholds_function selector args.length).bind fun f common => ?_
    split
    · exact Expr.upholds_lowerIndex args free
    · exact (Expr.upholds_lowerAll args free).bind fun _ holds => upholds_call common holds
  | .subquery collection name predicate =>
    have free := free.imp_right Bool.and_eq_true_iff.mp
    -- the variable goes out of scope with the subquery, so only the tree matters
    refine Invariant.Yields.enclosed ?_
    exact (Expr.upholds_lower collection (free.imp_right And.left)).bind_yields fun _ holds =>
      yields_filter name holds (Predicate.upholds_lower predicate (free.imp_right And.right))
  | .list items =>
    exact (Expr.upholds_lowerAll items free).bind fun _ holds => upholds_list holds
  | .symbol _ => exact upholds_typeFault _
  | .assign name value =>
    -- the variable stays in scope, and no node introduces it
    have free : I.IsOpen := free.resolve_right nofun
    exact (Expr.upholds_lower value (.inl free)).bind fun _ holds => upholds_assign name free holds

theorem Expr.upholds_lowerIndex {N : Set String} (args : List Expr)
    (free : I.IsOpen ∨ Expr.allMeet .assignsNothing args) :
    I.Upholds N (Expr.lowerIndex args) (I.Holds N) := by
  unfold Expr.lowerIndex
  split
  · rename_i collection symbol
    have free := free.imp_right fun none => (Bool.and_eq_true_iff.mp none).1
    refine (Expr.upholds_lower collection free).bind fun source holds => ?_
    exact (upholds_elementOf _ _ source).bind fun element _ =>
      upholds_indexBySymbol element symbol holds
  · rename_i collection place _
    have free := free.imp_right Bool.and_eq_true_iff.mp
    have free' := free.imp_right fun none => (Bool.and_eq_true_iff.mp none.2).1
    refine (Expr.upholds_lower collection (free.imp_right And.left)).bind fun source holds => ?_
    refine (upholds_elementOf _ _ source).bind fun element _ => ?_
    exact (Expr.upholds_lower place free').bind fun _ holds' => upholds_indexBy element holds holds'
  · exact upholds_typeFault _

theorem Expr.upholds_lowerAll {N : Set String} (es : List Expr)
    (free : I.IsOpen ∨ Expr.allMeet .assignsNothing es) :
    I.Upholds N (Expr.lowerAll es) (fun ts => ∀ t ∈ ts, I.Holds N t) := by
  match es with
  | [] => exact upholds_pure nofun
  | e :: rest =>
    have free := free.imp_right Bool.and_eq_true_iff.mp
    exact (Expr.upholds_lower e (free.imp_right And.left)).bind fun _ holds =>
      (Expr.upholds_lowerAll rest (free.imp_right And.right)).bind fun _ all =>
        upholds_pure (List.forall_mem_cons.mpr ⟨holds, all⟩)

theorem Predicate.upholds_lower {N : Set String} (p : Predicate)
    (free : I.IsOpen ∨ p.assignsNothing) : I.Upholds N p.lower (I.Holds N) := by
  match p with
  | .constant value => exact upholds_pure (I.constant _ _)
  | .comparison left operator right modifier options =>
    have free := free.imp_right Bool.and_eq_true_iff.mp
    refine (Expr.upholds_lower left (free.imp_right And.left)).bind fun _ holds => ?_
    exact (Expr.upholds_lower right (free.imp_right And.right)).bind fun _ holds' =>
      upholds_comparison operator modifier options holds holds'
  | .compound .not parts =>
    match parts with
    | [part] =>
      have free := free.imp_right fun none => (Bool.and_eq_true_iff.mp none).1
      exact (Predicate.upholds_lower part free).bind fun _ holds => upholds_pure (I.unary _ _ holds)
    | [] | _ :: _ :: _ => exact upholds_typeFault _
  | .compound .and parts | .compound .or parts =>
    exact Predicate.upholds_lowerJoined _ parts free

theorem Predicate.upholds_lowerJoined {N : Set String} (op : BinaryOp) (ps : List Predicate)
    (free : I.IsOpen ∨ Predicate.allMeet .assignsNothing ps) :
    I.Upholds N (Predicate.lowerJoined op ps) (I.Holds N) := by
  match ps with
  | [] => exact upholds_pure (I.constant _ _)
  | [part] =>
    have free := free.imp_right fun none => (Bool.and_eq_true_iff.mp none).1
    exact Predicate.upholds_lower part free
  | part :: second :: rest =>
    have free := free.imp_right Bool.and_eq_true_iff.mp
    refine (Predicate.upholds_lower part (free.imp_right And.left)).bind fun _ holds => ?_
    exact (Predicate.upholds_lowerJoined op (second :: rest) (free.imp_right And.right)).bind
      fun _ holds' => upholds_pure (I.binary _ op holds holds')

end

/-! ## Whole trees -/

namespace Invariant

theorem inScope_externals {bindings : Fields Target} {counter : Nat}
    (externals : List (String × Value)) (h : I.InScope N ⟨bindings, counter⟩) :
    I.InScope N ⟨externals.foldl (fun bindings (name, value) =>
      bindings.insert (Scope.variableKey name) (.ofValue value)) bindings, counter⟩ := by
  induction externals generalizing bindings with
  | nil => exact h
  | cons external rest ih => exact ih (h.insert (I.constant _ _))

/-- In scope there are the object and constants at first. -/
theorem inScope_root (I : Invariant d) (kind : Kind) (settings : Settings) :
    I.InScope {Scope.objectName} (Scope.root kind settings) := by
  refine inScope_externals settings.externals fun name t found => ?_
  unfold Fields.find? at found
  split at found <;> cases found
  exact I.parameter kind (Set.mem_singleton _)

/-- What is lowered from the beginning has the invariant where the object is introduced. -/
theorem Upholds.runFor {settings : Settings} {I : Invariant settings.dialect} {step : Lowering Target}
    {kind : Kind} {t : Target}
    (h : I.Upholds {Scope.objectName} step (I.Holds {Scope.objectName}))
    (run : step.runFor kind settings = .ok t) : I.Holds {Scope.objectName} t := by
  unfold Lowering.runFor at run
  split at run <;> cases run
  exact (h settings _ _ _ rfl (I.inScope_root kind settings) ‹_›).1

theorem asResult (I : Invariant d) {t u : Target} {kind : Kind} (h : I.Holds N t)
    (made : t.asResult kind = .ok u) : I.Holds N u := by
  unfold Target.asResult at made
  split at made
  · cases made
    exact h
  · split at made
    · exact I.cast h made
    · cases made
      exact I.convert kind h

end Invariant

/-! ## Dialects are kept apart -/

/-- Every name in scope stands for a tree that suits the dialect. -/
def Scope.Suits (d : Dialect) (scope : Scope) : Prop :=
  ∀ name t, scope.bindings.find? name = some t → t.Suits d ∅

/-- In a scope that suits the dialect, what the step gives for it satisfies `P`, and the scope suits
the dialect after it. -/
def Lowering.Builds {α : Type} (d : Dialect) (step : Lowering α) (P : α → Prop) : Prop :=
  ∀ settings scope a after, settings.dialect = d → scope.Suits d →
    step settings scope = .ok a after → P a ∧ after.Suits d

/-- Trees that suit the dialect. -/
def Dialect.invariant (d : Dialect) : Invariant d :=
  .everywhere d.Has Binders.Guard (fun guard le name mem => guard name (le mem)) guard_cons
    (fun {Γ _ _ _} _ _ => d.has_of Γ ⟨rfl, rfl⟩ rfl) fun guard _ has => has guard

theorem Target.suits_parameter {d : Dialect} {G : Set String} (kind : Kind) (name : String) :
    Suits d G (.parameter kind name) :=
  fun Γ _ => everywhere_iff.mpr ⟨d.has_of Γ ⟨rfl, rfl⟩ rfl, nofun⟩

theorem Expr.builds_lower {d : Dialect} (e : Expr) : Builds d e.lower (·.Suits d ∅) :=
  e.upholds_lower (I := d.invariant) (.inl fun _ => suits_parameter)

theorem Predicate.builds_lower {d : Dialect} (p : Predicate) : Builds d p.lower (·.Suits d ∅) :=
  p.upholds_lower (I := d.invariant) (.inl fun _ => suits_parameter)

theorem Scope.suits_root (d : Dialect) (kind : Kind) (settings : Settings) :
    (Scope.root kind settings).Suits d := by
  intro name t found
  rcases Scope.isProper_root kind settings name t found with ⟨_, _, rfl⟩ | ⟨_, rfl, -⟩
  · exact d.invariant.constant _ _
  · exact suits_parameter _ _

theorem Lowering.Builds.runFor {step : Lowering Target} {kind : Kind} {settings : Settings}
    {t : Target} (h : Builds settings.dialect step (·.Suits settings.dialect ∅))
    (run : step.runFor kind settings = .ok t) : t.Everywhere settings.dialect.Has [] := by
  unfold Lowering.runFor at run
  split at run <;> cases run
  have suits := (h settings _ _ _ rfl (Scope.suits_root _ kind settings) ‹_›).1
  exact suits [] fun _ mem => mem.elim

/-- Whatever occurs in a lowered tree, at any depth, is a node that the dialect has: for a query
backend no guard, binding, cast or moved date; for objects no date moved in the way of a backend, and
properties, reductions and subqueries of something that is there only. -/
theorem Lowering.occurs_has (kind : Kind) (settings : Settings) :
    (∀ (p : Predicate) (t : Target), p.target kind settings = .ok t →
      t.Everywhere settings.dialect.Has [])
      ∧ ∀ (e : Expr) (t : Target), e.target kind settings = .ok t →
        t.Everywhere settings.dialect.Has [] :=
  ⟨fun p _ lowered => p.builds_lower.runFor lowered, fun e _ lowered =>
    e.builds_lower.runFor lowered⟩

/-- The orders that were due more than a day ago. -/
def Expr.lateOrders : Expr :=
  .subquery (.path "orders") "o" (.comparison
    (.call "addDays:" [.pathOn (.var "o") "due", .constant (.int 1)]) .less (.call "now" [])
    .direct .none)

/-- The late orders, in objects and in a backend. -/
theorem Lowering.occurs_has_lateOrders :
    ∃ t u, Expr.lateOrders.target .any (.ofDialect .objects) = .ok t
      ∧ Expr.lateOrders.target .any (.ofDialect .backend) = .ok u
      ∧ t.Everywhere Dialect.objects.Has [] ∧ u.Everywhere Dialect.backend.Has [] := by
  obtain ⟨t, lowered, -⟩ := exists_of_any (Expr.lateOrders.target .any (.ofDialect .objects))
    (fun _ => true) (by decide +kernel)
  obtain ⟨u, lowered', -⟩ := exists_of_any (Expr.lateOrders.target .any (.ofDialect .backend))
    (fun _ => true) (by decide +kernel)
  exact ⟨t, u, lowered, lowered', (Lowering.occurs_has .any (.ofDialect .objects)).2 _ t lowered,
    (Lowering.occurs_has .any (.ofDialect .backend)).2 _ u lowered'⟩

end PredicateLang
