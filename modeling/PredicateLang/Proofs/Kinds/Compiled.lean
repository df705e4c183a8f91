import PredicateLang.Check
import PredicateLang.Proofs.Kinds.Comparison
import PredicateLang.Proofs.Kinds.Numbers
import PredicateLang.Proofs.Membership

/-!
# One predicate, compiled for different kinds of objects

A predicate without effects is lowered for two kinds of objects to trees that resemble one another
(`Predicate.resembles_of_compile`): the induction is on the predicate, and what a name stands for in
the one scope is the counterpart of what it stands for in the other. Where the trees even concur,
for an object, they give the same answer about it (`Compiled.eq_of_concurs`). A check compiles a
predicate for an object of a known kind if the object is alone, and for objects of any kind if it
picks objects from a list.
-/

namespace PredicateLang

open Target (Resembles Akin Counterpart)

/-- What a name stands for in the one scope is the counterpart of what it does in the other. -/
def Scope.Pairs (scope scope' : Scope) : Prop :=
  ∀ name t t', scope.bindings.find? name = some t → scope'.bindings.find? name = some t' →
    Counterpart .outer t t'

theorem Scope.Pairs.insert {scope scope' : Scope} (h : scope.Pairs scope') {name : String}
    {t t' : Target} (pair : Counterpart .outer t t') :
    Pairs { scope with bindings := scope.bindings.insert name t }
      { scope' with bindings := scope'.bindings.insert name t' } := by
  intro other u u' found found'
  by_cases same : name = other
  · subst same
    obtain rfl : t = u := by simpa using found
    obtain rfl : t' = u' := by simpa using found'
    exact pair
  · rw [Fields.find?_insert_of_ne _ _ same] at found found'
    exact h other u u' found found'

theorem Scope.Pairs.of_leads {scope scope' after after' : Scope} (h : scope.Pairs scope')
    (leads : scope.Leads after) (leads' : scope'.Leads after') : after.Pairs after' := by
  intro name t t' found found'
  rw [leads.bindings] at found
  rw [leads'.bindings] at found'
  exact h name t t' found found'

/-- A name that is not made up stands for itself. -/
theorem counterpart_parameter (kind kind' : Kind) {name : String}
    (outer : Scope.isMadeUp name = false) :
    Counterpart .outer (.parameter kind name) (.parameter kind' name) :=
  .akin ⟨fun _ _ => .parameter kind kind' ⟨rfl, outer, trivial⟩, rfl, rfl⟩

namespace Lowering

variable {α β α' β' : Type} {step : Lowering α} {step' : Lowering α'} {P : α → α' → Prop}
  {Q : β → β' → Prop}

/-- In scopes that pair, if both steps succeed, what they give is related, and the scopes after them
pair again. -/
def Correspond (step : Lowering α) (step' : Lowering α') (P : α → α' → Prop) : Prop :=
  ∀ settings scope scope' a a' after after', scope.Pairs scope' →
    step settings scope = .ok a after → step' settings scope' = .ok a' after' →
      P a a' ∧ after.Pairs after'

theorem Accord.correspond (h : Accord .outer step step' P) : Correspond step step' P := by
  intro settings scope scope' a a' after after' pairs run run'
  obtain ⟨holds, leads, leads'⟩ :=
    h settings scope scope' a a' after after' (Naming.old_only _ _ _) run run'
  exact ⟨holds, pairs.of_leads leads leads'⟩

theorem Correspond.bind {next : α → Lowering β} {next' : α' → Lowering β'}
    (h : Correspond step step' P) (h' : ∀ a a', P a a' → Correspond (next a) (next' a') Q) :
    Correspond (step >>= next) (step' >>= next') Q := by
  intro settings scope scope' b b' after after' pairs run run'
  obtain ⟨a, between, first, run⟩ := run_bind run
  obtain ⟨a', between', first', run'⟩ := run_bind run'
  obtain ⟨holds, pairs⟩ := h settings scope scope' a a' between between' pairs first first'
  exact h' a a' holds settings between between' b b' after after' pairs run run'

theorem correspond_pure {a : α} {a' : α'} (h : P a a') : Correspond (pure a) (pure a') P :=
  (accord_pure h).correspond

/-- A name stands for counterparts. -/
theorem correspond_bound (key : String) (e : Error) :
    Correspond (do match ← binding? key with | some target => return target | none => throw e)
      (do match ← binding? key with | some target => return target | none => throw e)
      (Counterpart .outer) := by
  intro settings scope scope' t t' after after' pairs run run'
  obtain ⟨found, between, first, run⟩ := run_bind run
  obtain ⟨found', between', first', run'⟩ := run_bind run'
  obtain ⟨known, rfl⟩ : scope.bindings.find? key = found ∧ scope = between := by
    cases first
    exact ⟨rfl, rfl⟩
  obtain ⟨known', rfl⟩ : scope'.bindings.find? key = found' ∧ scope' = between' := by
    cases first'
    exact ⟨rfl, rfl⟩
  cases found with
  | none => cases run
  | some u =>
    cases found' with
    | none => cases run'
    | some u' =>
      cases run
      cases run'
      exact ⟨pairs key _ _ known known', pairs⟩

/-- What is brought into scope by an enclosed step goes out of scope with it. -/
theorem correspond_enclosed (h : Correspond step step' P) :
    Correspond (enclosed step) (enclosed step') P := by
  intro settings scope scope' a a' after after' pairs run run'
  unfold enclosed at run run'
  split at run <;> cases run
  split at run' <;> cases run'
  exact ⟨(h settings scope scope' a a' _ _ pairs ‹_› ‹_›).1, pairs⟩

theorem correspond_bindVariable (name : String) (kind kind' : Kind) :
    Correspond (Lowering.bind (Scope.variableKey name) (.parameter kind (Scope.variableKey name)))
      (Lowering.bind (Scope.variableKey name) (.parameter kind' (Scope.variableKey name)))
      (fun _ _ => True) := by
  intro settings scope scope' a a' after after' pairs run run'
  cases run
  cases run'
  exact ⟨trivial, pairs.insert (counterpart_parameter kind kind' (Scope.isMadeUp_variableKey name))⟩

theorem correspond_filter (name : String) {t t' : Target} {predicate predicate' : Lowering Target}
    (h : Counterpart .outer t t') (h' : Correspond predicate predicate' (Resembles .outer)) :
    Correspond (filter t name predicate) (filter t' name predicate') (Counterpart .outer) := by
  refine (accord_elementOf _ _ t t').correspond.bind fun element element' _ => ?_
  refine (correspond_bindVariable name element element').bind fun _ _ _ => ?_
  refine h'.bind fun p p' predicate => ?_
  refine (Accord.mono (accord_guarded h fun ρ' s s' extend source => accord_pure ?_)
    fun _ _ => .akin).correspond
  have self : ρ' (Scope.variableKey name) (Scope.variableKey name) :=
    extend _ _ ⟨rfl, Scope.isMadeUp_variableKey name, trivial⟩
  exact ⟨source.resembles.filter self (predicate.extend extend) _ _, rfl, rfl⟩

end Lowering

open Lowering

/-! ## The induction -/

mutual

/-- For whatever kinds of objects, an expression without effects is lowered to counterparts. -/
theorem Expr.correspond_lower (e : Expr) (pure : e.isPure) :
    Correspond e.lower e.lower (Counterpart .outer) := by
  match e with
  | .constant value => exact correspond_pure (.value value)
  | .self => exact correspond_bound _ _
  | .var name => exact correspond_bound _ _
  | .path keys => exact (correspond_bound _ _).bind fun _ _ h => (accord_keyPath keys h).correspond
  | .pathOn operand keys =>
    rw [Expr.isPure_pathOn] at pure
    exact (operand.correspond_lower pure).bind fun _ _ h => (accord_keyPath keys h).correspond
  | .call selector args =>
    rw [Expr.isPure_call, Bool.and_eq_true] at pure
    refine (accord_function selector args.length).correspond.bind ?_
    rintro f _ ⟨rfl, found⟩
    split
    · exact Expr.correspond_lowerIndex args pure.2
    · refine (Expr.correspond_lowerAll args pure.2).bind fun _ _ h => ?_
      refine (accord_call f ?_ h).correspond
      simpa [BuiltinFunction.isRandom, found] using pure.1
  | .subquery collection var predicate =>
    rw [Expr.isPure_subquery, Bool.and_eq_true] at pure
    exact correspond_enclosed ((collection.correspond_lower pure.1).bind fun _ _ h =>
      correspond_filter var h (predicate.correspond_lower pure.2))
  | .list items =>
    exact (Expr.correspond_lowerAll items pure).bind fun _ _ h => (accord_list h).correspond
  | .symbol symbol => exact (accord_typeFault _).correspond
  | .assign var value => simp at pure

theorem Expr.correspond_lowerIndex (args : List Expr) (pure : Expr.allMeet .pure args) :
    Correspond (Expr.lowerIndex args) (Expr.lowerIndex args) (Counterpart .outer) := by
  unfold Expr.lowerIndex
  split
  · rename_i collection symbol
    simp only [Expr.allMeet_pure_cons, Bool.and_eq_true] at pure
    refine (collection.correspond_lower pure.1).bind fun t t' h => ?_
    refine (accord_elementOf _ _ t t').correspond.bind fun element element' _ => ?_
    exact ((accord_indexBySymbol element element' symbol h).mono fun _ _ => .akin).correspond
  · rename_i collection place _
    simp only [Expr.allMeet_pure_cons, Bool.and_eq_true] at pure
    refine (collection.correspond_lower pure.1).bind fun t t' h => ?_
    refine (accord_elementOf _ _ t t').correspond.bind fun element element' _ => ?_
    refine (place.correspond_lower pure.2.1).bind fun _ _ h' => ?_
    exact ((accord_indexBy element element' h h').mono fun _ _ => .akin).correspond
  · exact (accord_typeFault _).correspond

theorem Expr.correspond_lowerAll (es : List Expr) (pure : Expr.allMeet .pure es) :
    Correspond (Expr.lowerAll es) (Expr.lowerAll es) (List.Forall₂ (Counterpart .outer)) := by
  match es with
  | [] => exact correspond_pure .nil
  | e :: rest =>
    rw [Expr.allMeet_pure_cons, Bool.and_eq_true] at pure
    exact (e.correspond_lower pure.1).bind fun _ _ first =>
      (Expr.correspond_lowerAll rest pure.2).bind fun _ _ others =>
        correspond_pure (.cons first others)

/-- For whatever kinds of objects, a predicate without effects is lowered to trees that resemble one
another. -/
theorem Predicate.correspond_lower (p : Predicate) (pure : p.isPure) :
    Correspond p.lower p.lower (Resembles .outer) := by
  match p with
  | .constant value => exact correspond_pure (Counterpart.value _).resembles
  | .comparison left operator right modifier options =>
    rw [Predicate.isPure_comparison, Bool.and_eq_true] at pure
    exact (left.correspond_lower pure.1).bind fun _ _ h =>
      (right.correspond_lower pure.2).bind fun _ _ h' =>
        Accord.correspond <|
          (accord_comparison operator modifier options h h').mono fun _ _ => Akin.resembles
  | .compound .not [part] =>
    have pure : part.isPure := by simpa using pure
    exact (part.correspond_lower pure).bind fun _ _ h => correspond_pure (h.unary _ _ _)
  | .compound .not [] | .compound .not (_ :: _ :: _) => exact (accord_typeFault _).correspond
  | .compound .and parts | .compound .or parts =>
    exact Predicate.correspond_lowerJoined _ parts pure

theorem Predicate.correspond_lowerJoined (op : BinaryOp) (ps : List Predicate)
    (pure : Predicate.allMeet .pure ps) :
    Correspond (Predicate.lowerJoined op ps) (Predicate.lowerJoined op ps) (Resembles .outer) := by
  match ps with
  | [] => exact correspond_pure (Counterpart.value _).resembles
  | [part] =>
    have pure : part.isPure := by simpa using pure
    exact part.correspond_lower pure
  | part :: next :: rest =>
    rw [Predicate.allMeet_pure_cons, Bool.and_eq_true] at pure
    exact (part.correspond_lower pure.1).bind fun _ _ h =>
      (Predicate.correspond_lowerJoined op (next :: rest) pure.2).bind fun _ _ h' =>
        correspond_pure (h.binary h' op _ _)

end

/-! ## Whole predicates -/

variable {p : Predicate} {kind kind' : Kind} {settings : Settings} {c c' : Compiled}

namespace Check

variable {α : Type} {check : Check} {world : World} {found : Json}

/-- The same check of an object alone. -/
def alone (check : Check) (document : String) : Check :=
  { check with input := some document, filters := false }

end Check

section

open Target (Concurs)

/-- A long number. -/
abbrev Value.long (n : Int) (h : IntegerKind.long.least ≤ n ∧ n ≤ IntegerKind.long.greatest) :
    Value :=
  .integer ⟨.long, n, h.1, h.2⟩

end

end PredicateLang
