import PredicateLang.Proofs.Condition
import PredicateLang.Proofs.Scoping.Bindings
import PredicateLang.Proofs.Sql.Lowering

/-!
# Lowered trees find their names

By induction on expressions and predicates, what they are lowered to for a backend finds its names
when it is written, if nothing is assigned where a query is written in another order than trees are
lowered in: in the left operand of a search, nor in a collection that has an index. So a query is not
refused because of a name (`Lowering.sql_ne_unbound`).

`Lowering.Brings known step P` is about a step in a scope of trees that read known names only. After a
step that brings variables into scope their names are known too.
-/

namespace PredicateLang

variable {α β : Type} {known known' given : Set String} {s t : Target}

/-! ## Scopes -/

namespace Scope

/-- What the variables are known by. -/
def keys (names : List String) : Set String := {key | ∃ name ∈ names, key = variableKey name}

theorem keys_nil : keys [] = ∅ := Set.eq_empty_of_forall_notMem fun _ ⟨_, mem, _⟩ => nomatch mem

theorem keys_append (names others : List String) :
    keys (names ++ others) = keys names ∪ keys others := by
  ext key
  simp only [keys, Set.mem_union, Set.mem_ofPred_eq, List.mem_append, or_and_right, exists_or]

theorem keys_singleton (name : String) : keys [name] = {variableKey name} := by
  ext key
  simp [keys]

/-- Every name stands for a tree that reads known names only. -/
def Within (known : Set String) (bindings : Fields Target) : Prop :=
  ∀ name t, bindings.find? name = some t → t.Reads known

variable {bindings : Fields Target}

theorem Within.mono (h : Within known bindings) (le : known ⊆ known') : Within known' bindings :=
  fun name t found => (h name t found).mono le

theorem Within.bind {key : String} (h : Within known bindings) (reads : t.Reads known) :
    Within known (bindings.insert key t) := by
  intro name u found
  by_cases is : key = name
  · rw [is, Fields.find?_insert_self] at found
    cases found
    exact reads
  · rw [Fields.find?_insert_of_ne _ _ is] at found
    exact h name u found

/-- A name that stands for itself is known from then on. -/
theorem Within.bindSelf (h : Within known bindings) (key : String) (kind : Kind) :
    Within (insert key known) (Fields.insert key (.parameter kind key) bindings) := by
  have reads : (Target.parameter kind key).Reads (insert key known) := Set.mem_insert key known
  exact (h.mono (Set.subset_insert key known)).bind reads

theorem Within.bindAll (h : Within known bindings) (vars : List (String × Kind)) :
    Within (known ∪ keys (vars.map Prod.fst)) (Scope.bindAll vars bindings) := by
  induction vars generalizing known bindings with
  | nil =>
    rw [List.map_nil, keys_nil, Set.union_empty]
    exact h
  | cons var vars ih =>
    have whole := ih (h.bindSelf (variableKey var.1) var.2)
    rwa [← Set.union_singleton, ← keys_singleton, Set.union_assoc, ← keys_append] at whole

end Scope

namespace Lowering

open Target

/-- In a scope of trees that read known names, what the step gives for a backend satisfies `P`. -/
def Brings (known : Set String) (step : Lowering α) (P : α → Prop) : Prop :=
  ∀ settings scope a after, settings.dialect = .backend → Scope.Within known scope.bindings →
    step settings scope = .ok a after → P a

section Rules

variable {step : Lowering α} {P : α → Prop} {Q : β → Prop} {names : List String}

theorem Puts.brings (h : Puts step P) : Brings known step P :=
  fun settings scope a after backend _ run => (h settings scope a after backend run).1

theorem Brings.imp {P' : α → Prop} (h : Brings known step P) (h' : ∀ a, P a → P' a) :
    Brings known step P' :=
  fun settings scope a after backend inside run =>
    h' a (h settings scope a after backend inside run)

/-- After a step that leaves the bindings alone the same names are known. -/
theorem Puts.bind_brings {next : α → Lowering β} (h : Puts step P)
    (h' : ∀ a, P a → Brings known (next a) Q) : Brings known (step >>= next) Q := by
  intro settings scope b after backend inside run
  obtain ⟨a, between, first, second⟩ := exists_of_run_bind run
  obtain ⟨holds, same⟩ := h settings scope a between backend first
  exact h' a holds settings between b after backend (same ▸ inside) second

/-- After a step that brings variables into scope their names are known too. -/
theorem Brings.bind {next : α → Lowering β} (h : Brings known step P) (gains : Gains names step)
    (h' : ∀ a, P a → Brings (known ∪ Scope.keys names) (next a) Q) :
    Brings known (step >>= next) Q := by
  intro settings scope b after backend inside run
  obtain ⟨a, between, first, second⟩ := exists_of_run_bind run
  have holds := h settings scope a between backend inside first
  have gained := gains settings scope
  rw [first] at gained
  cases gained with
  | ok vars listed bindings =>
    have inside := inside.bindAll vars
    rw [listed, ← bindings] at inside
    exact h' a holds settings between b after backend inside second

/-- What follows leaves the bindings alone. -/
theorem Brings.then {next : α → Lowering β} (h : Brings known step P)
    (h' : ∀ a, P a → Puts (next a) Q) : Brings known (step >>= next) Q := by
  intro settings scope b after backend inside run
  obtain ⟨a, between, first, second⟩ := exists_of_run_bind run
  have holds := h settings scope a between backend inside first
  exact (h' a holds settings between b after backend second).1

theorem Brings.enclosed (h : Brings known step P) : Brings known (enclosed step) P := by
  intro settings scope a after backend inside run
  unfold Lowering.enclosed at run
  split at run <;> cases run
  exact h settings scope a _ backend inside ‹_›

theorem brings_throw (e : Error) : Brings known (throw e) P := (puts_throw e).brings

/-- What a name in scope stands for. -/
theorem brings_bound (key : String) (e : Error) :
    Brings known (do match ← binding? key with | some target => return target | none => throw e)
      (·.Fits known ∅) := by
  intro settings scope t after _ inside run
  have run := (bound_run key e settings scope).symm.trans run
  cases found : scope.bindings.find? key with
  | none =>
    rw [found] at run
    cases run
  | some u =>
    rw [found] at run
    cases run
    exact fits_of_reads (inside key t found)

end Rules

/-- The predicate is lowered where the variable of the subquery stands for itself. -/
theorem brings_filter (name : String) {predicate : Lowering Target} (h : s.Fits known given)
    (h' : Brings (insert (Scope.variableKey name) (known ∪ given)) predicate
      (·.Reads (insert (Scope.variableKey name) (known ∪ given)))) :
    Brings (known ∪ given) (filter s name predicate) (·.Fits known ∅) := by
  refine (puts_elementOf _ _ s).bind_brings fun element _ => ?_
  intro settings scope t after backend inside run
  obtain ⟨_, between, bound, run⟩ := exists_of_run_bind run
  cases bound
  refine Brings.then h' (fun condition holds => ?_) settings _ t after backend
    (inside.bindSelf (Scope.variableKey name) element) run
  refine puts_guarded (puts_pure (fits_of_reads ⟨h.reads, holds.mono ?_⟩))
  exact Set.insert_subset_insert (Set.union_subset_union_right _ h.assigns)

/-- An assigned variable stands for the text of its value. -/
theorem brings_assign {names : List String} (name : String) (h : t.Fits known (Scope.keys names)) :
    Brings known' (assign name t) (·.Fits known (Scope.keys (names ++ [name]))) := by
  intro settings scope u after _ _ run
  cases run
  refine ⟨h.reads, ?_⟩
  rw [Scope.keys_append, Scope.keys_singleton, Set.union_singleton]
  exact Set.insert_subset_insert h.assigns

end Lowering

/-! ## The induction -/

/-- Does the selector name the function that takes an item at an index? -/
def BuiltinFunction.isIndex (selector : String) : Bool :=
  (ofSelector? selector).any (·.meaning = .index)

/-- Nothing is assigned where a query is written in another order than trees are lowered in: in the
left operand of a search, nor in a collection that has an index. -/
def Condition.keepsOrder : Condition where
  expr
    | .call _ [_, .symbol _] => true
    | .call selector [collection, _] =>
      collection.assignments.isEmpty || !BuiltinFunction.isIndex selector
    | _ => true
  predicate
    | .comparison left operator _ .direct _ => left.assignments.isEmpty || !operator.isSearch
    | _ => true

open Lowering Target Scope

mutual

/-- An expression is lowered to a tree that finds its names and assigns the variables that the
expression does. -/
theorem Expr.brings_lower {known : Set String} (e : Expr) (plain : e.meets .keepsOrder) :
    Brings known e.lower (·.Fits known (keys e.assignments)) := by
  match e with
  | .constant value => exact (puts_pure ((fits_ofValue value).weaken keys_nil.subset)).brings
  | .self | .var name =>
    show Brings known _ (Target.Fits known (keys []))
    rw [keys_nil]
    exact brings_bound _ _
  | .path keys =>
    show Brings known _ (Target.Fits known (Scope.keys []))
    rw [keys_nil]
    exact (brings_bound _ _).then fun t holds => puts_follow (segments keys) holds
  | .pathOn operand keys =>
    have plain := (Bool.and_eq_true_iff.mp plain).2
    exact (operand.brings_lower plain).then fun t holds => puts_follow (segments keys) holds
  | .call selector args =>
    obtain ⟨here, below⟩ := Bool.and_eq_true_iff.mp plain
    refine (puts_function selector args.length).bind_brings fun f named => ?_
    split
    · rename_i index
      refine Expr.brings_lowerIndex args ?_ below
      have isIndex : BuiltinFunction.isIndex selector := by
        simp [BuiltinFunction.isIndex, named, index]
      rintro collection place rfl other
      cases place with
      | symbol symbol => exact absurd rfl (other symbol)
      | _ => simpa [Condition.keepsOrder, isIndex] using here
    · refine (Expr.brings_lowerAll args below).then fun ts holds => ?_
      exact puts_call (isMeaningOfOne_of_ofSelector? named) holds
  | .subquery collection name predicate =>
    obtain ⟨first, second⟩ := Bool.and_eq_true_iff.mp plain
    show Brings known _ (Target.Fits known (keys []))
    rw [keys_nil]
    refine Brings.enclosed ?_
    refine (collection.brings_lower first).bind collection.gains_lower fun source holds => ?_
    exact brings_filter name holds ((predicate.brings_lower second).imp fun _ holds => holds.reads)
  | .list items =>
    have plain := (Bool.and_eq_true_iff.mp plain).2
    exact (Expr.brings_lowerAll items plain).then fun ts holds => puts_list holds
  | .symbol symbol => exact brings_throw _
  | .assign name value =>
    have plain := (Bool.and_eq_true_iff.mp plain).2
    exact (value.brings_lower plain).bind value.gains_lower fun t holds => brings_assign name holds

theorem Expr.brings_lowerIndex {known : Set String} (args : List Expr)
    (here : ∀ collection place, args = [collection, place] → (∀ symbol, place ≠ .symbol symbol) →
      collection.assignments = [])
    (plain : Expr.allMeet .keepsOrder args) :
    Brings known (Expr.lowerIndex args) (·.Fits known (keys (Expr.assignmentsAll args))) := by
  match args with
  | [] | [_] => exact brings_throw _
  | _ :: _ :: _ :: rest =>
    rw [Expr.lowerIndex_of_length (by simp)]
    exact brings_throw _
  | [collection, place] =>
    obtain ⟨first, others⟩ := Bool.and_eq_true_iff.mp plain
    have second := (Bool.and_eq_true_iff.mp others).1
    by_cases word : ∃ symbol, place = .symbol symbol
    · obtain ⟨symbol, rfl⟩ := word
      show Brings known _ (Target.Fits known (keys (collection.assignments ++ [])))
      rw [List.append_nil]
      refine (collection.brings_lower first).then fun source holds => ?_
      exact (puts_elementOf _ _ source).bind fun element _ =>
        puts_indexBySymbol element symbol holds
    · rw [not_exists] at word
      rw [Expr.lowerIndex_of_not_symbol _ word]
      have nothing := here collection place rfl word
      show Brings known _ (Target.Fits known
        (keys (collection.assignments ++ (place.assignments ++ []))))
      rw [List.append_nil, keys_append]
      refine (collection.brings_lower first).bind collection.gains_lower fun source holds => ?_
      refine (puts_elementOf _ _ source).bind_brings fun element _ => ?_
      rw [nothing, keys_nil, Set.union_empty]
      rw [nothing, keys_nil] at holds
      exact (place.brings_lower second).then fun index holds' =>
        puts_indexBy element holds holds'

theorem Expr.brings_lowerAll {known : Set String} (es : List Expr)
    (plain : Expr.allMeet .keepsOrder es) :
    Brings known (Expr.lowerAll es) (AllFit known (keys (Expr.assignmentsAll es))) := by
  match es with
  | [] => exact (puts_pure (allFit_nil.weaken keys_nil.subset)).brings
  | e :: rest =>
    obtain ⟨first, others⟩ := Bool.and_eq_true_iff.mp plain
    rw [Expr.assignmentsAll, keys_append]
    refine (e.brings_lower first).bind e.gains_lower fun t holds => ?_
    exact (Expr.brings_lowerAll rest others).then fun ts all => puts_pure (allFit_cons holds all)

theorem Predicate.brings_lower {known : Set String} (p : Predicate)
    (plain : p.meets .keepsOrder) : Brings known p.lower (·.Fits known (keys p.assignments)) := by
  match p with
  | .constant value => exact (puts_pure ((fits_ofValue _).weaken keys_nil.subset)).brings
  | .comparison left operator right modifier options =>
    obtain ⟨both, second⟩ := Bool.and_eq_true_iff.mp plain
    obtain ⟨here, first⟩ := Bool.and_eq_true_iff.mp both
    rw [Predicate.assignments, keys_append]
    refine (left.brings_lower first).bind left.gains_lower fun s holds => ?_
    refine (right.brings_lower second).then fun t holds' => ?_
    refine puts_comparison operator modifier options holds holds' ?_
    rintro rfl search
    have nothing : left.assignments = [] := by simpa [Condition.keepsOrder, search] using here
    rw [nothing, keys_nil]
  | .compound .not [part] =>
    have below : Predicate.allMeet .keepsOrder [part] := plain
    have plain := (Bool.and_eq_true_iff.mp below).1
    show Brings known _ (Target.Fits known (keys (part.assignments ++ [])))
    rw [List.append_nil]
    exact (part.brings_lower plain).then fun t holds => puts_pure (holds.above id rfl)
  | .compound .not [] | .compound .not (_ :: _ :: _) => exact brings_throw _
  | .compound .and parts | .compound .or parts =>
    have below : Predicate.allMeet .keepsOrder parts := plain
    exact Predicate.brings_lowerJoined _ parts below

theorem Predicate.brings_lowerJoined {known : Set String} (op : BinaryOp) (ps : List Predicate)
    (plain : Predicate.allMeet .keepsOrder ps) :
    Brings known (Predicate.lowerJoined op ps)
      (·.Fits known (keys (Predicate.assignmentsAll ps))) := by
  match ps with
  | [] => exact (puts_pure ((fits_ofValue _).weaken keys_nil.subset)).brings
  | [part] =>
    have plain := (Bool.and_eq_true_iff.mp plain).1
    show Brings known _ (Target.Fits known (keys (part.assignments ++ [])))
    rw [List.append_nil]
    exact part.brings_lower plain
  | part :: next :: rest =>
    obtain ⟨first, others⟩ := Bool.and_eq_true_iff.mp plain
    rw [Predicate.assignmentsAll, keys_append]
    refine (part.brings_lower first).bind part.gains_lower fun s holds => ?_
    refine (Predicate.brings_lowerJoined op (next :: rest) others).then fun t holds' => ?_
    exact puts_pure (fits_binary _ op holds holds')

end

/-! ## Queries -/

/-- Is nothing assigned in the expression in the left operand of a search nor in a collection that
has an index? -/
def Expr.keepsOrder (e : Expr) : Bool := e.meets .keepsOrder

/-- Is nothing assigned in the predicate in the left operand of a search nor in a collection that has
an index? -/
def Predicate.keepsOrder (p : Predicate) : Bool := p.meets .keepsOrder

/-- External variables stand for constants. -/
theorem Scope.within_externals {bindings : Fields Target} (externals : List (String × Value))
    (h : Within known bindings) :
    Within known (externals.foldl (fun bindings (name, value) =>
      bindings.insert (variableKey name) (.ofValue value)) bindings) := by
  induction externals generalizing bindings with
  | nil => exact h
  | cons external rest ih => exact ih (h.bind trivial)

/-- In the beginning only the object is read. -/
theorem Scope.within_root (kind : Kind) (settings : Settings) :
    Within {objectName} (root kind settings).bindings := by
  refine within_externals settings.externals fun name t found => ?_
  unfold Fields.find? at found
  split at found <;> cases found
  exact Set.mem_singleton objectName

theorem Lowering.Brings.runFor {step : Lowering Target} {kind : Kind} {settings : Settings}
    (backend : settings.dialect = .backend)
    (h : Brings {objectName} step (·.Fits {objectName} given))
    (run : step.runFor kind settings = .ok t) : t.Reads {objectName} := by
  unfold Lowering.runFor at run
  split at run <;> cases run
  exact (h settings _ _ _ backend (Scope.within_root kind settings) ‹_›).reads

/-- If nothing is assigned in the left operand of a search nor in a collection that has an index,
then what has been lowered for a query backend is never refused because of a name: it becomes a
query, or something else in it cannot be written. -/
theorem Lowering.sql_ne_unbound (kind : Kind) (settings : Settings)
    (backend : settings.dialect = .backend) :
    (∀ (p : Predicate) (t : Target), p.keepsOrder → p.target kind settings = .ok t →
      ∀ name, t.sql ≠ .error (.evaluation (.unboundParameter name)))
      ∧ ∀ (e : Expr) (t : Target), e.keepsOrder → e.target kind settings = .ok t →
        ∀ name, t.sql ≠ .error (.evaluation (.unboundParameter name)) := by
  constructor
  · intro p t plain lowered
    exact Target.sql_ne_unbound ((p.brings_lower plain).runFor backend lowered)
  · intro e t plain lowered
    exact Target.sql_ne_unbound ((e.brings_lower plain).runFor backend lowered)

/-- `{($a := 1), 2} CONTAINS $a` is lowered, but the variable is written before its assignment. -/
theorem Lowering.sql_unbound_of_search :
    let p : Predicate := .comparison
      (.list [.assign "a" (.constant (.int 1)), .constant (.int 2)]) .contains (.var "a") .direct .none
    p.keepsOrder = false ∧ ∃ t, p.target .any (.ofDialect .backend) = .ok t
      ∧ t.sql = .error (.evaluation (.unboundParameter "$a")) :=
  ⟨by decide, _, rfl, rfl⟩

end PredicateLang
