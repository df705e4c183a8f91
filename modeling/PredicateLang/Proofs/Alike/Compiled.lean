import PredicateLang.Proofs.Alike.Call
import PredicateLang.Proofs.Alike.Comparison

/-!
# Trees are lowered alike wherever they stand

In a proper scope a name stands for a constant, or for what it stands for during evaluation. Lowering
starts in such a scope and keeps it proper. Of a proper scope and another one that agrees with it on
the variables that a tree mentions, the tree is lowered to alike trees in both, whatever numbers the
next made-up names have, or in neither. With one scope in place of both this says that what an
expression is lowered to reads no made-up name from outside.
-/

namespace PredicateLang

/-- Each name stands for a constant, or for what has that name during evaluation. -/
def Scope.IsProper (scope : Scope) : Prop :=
  ∀ name t, scope.bindings.find? name = some t →
    (∃ kind value, t = .constant kind value)
      ∨ ∃ kind, t = .parameter kind name ∧ isMadeUp name = false

namespace Scope

theorem variableKey_injective {name name' : String} (h : variableKey name = variableKey name') :
    name = name' := by
  have chars := congrArg String.toList h
  simp only [variableKey, String.toList_append, List.append_cancel_left_eq] at chars
  exact String.toList_inj.mp chars

theorem objectName_ne_variableKey (name : String) : objectName ≠ variableKey name := by
  intro same
  have chars := congrArg (·.toList.head?) same
  simp [objectName, variableKey] at chars

/-- Is it, if it is the name of a variable, that of a named one? -/
def IsKey (names : String → Bool) (key : String) : Prop :=
  ∀ name, key = variableKey name → names name

theorem isKey_objectName (names : String → Bool) : IsKey names objectName :=
  fun name same => absurd same (objectName_ne_variableKey name)

theorem isKey_variableKey {names : String → Bool} {name : String} (h : names name) :
    IsKey names (variableKey name) :=
  fun _ same => variableKey_injective same ▸ h

end Scope

/-- Where only some variables are named, these and the object stand for themselves. -/
abbrev Naming.keys (names : String → Bool) : Naming := .only (Scope.IsKey names)

namespace Scope

variable {scope after : Scope}

theorem IsProper.alike (h : scope.IsProper) {names : String → Bool} {key : String} {t : Target}
    (effects : Bool) (named : IsKey names key) (found : scope.bindings.find? key = some t) :
    t.Alike effects (.keys names) t := by
  rcases h key t found with ⟨kind, value, rfl⟩ | ⟨kind, rfl, outer⟩
  · exact .constant kind value
  · exact .parameter kind ⟨rfl, outer, named⟩

theorem IsProper.of_bindings_eq (h : scope.IsProper) (same : after.bindings = scope.bindings) :
    after.IsProper := by
  unfold IsProper
  rw [same]
  exact h

/-- A scope stays proper when a name is brought into it that stands for itself or for a constant. -/
theorem IsProper.insert (h : scope.IsProper) {name : String} {t : Target}
    (own : (∃ kind value, t = .constant kind value)
      ∨ ∃ kind, t = .parameter kind name ∧ isMadeUp name = false) :
    IsProper { scope with bindings := scope.bindings.insert name t } := by
  intro name' t' found
  by_cases same : name = name'
  · subst same
    obtain rfl : t = t' := by simpa using found
    exact own
  · rw [Fields.find?_insert_of_ne _ _ same] at found
    exact h name' t' found

theorem isProper_externals {bindings : Fields Target} {counter : Nat}
    (externals : List (String × Value)) (h : IsProper ⟨bindings, counter⟩) :
    IsProper ⟨externals.foldl (fun bindings (name, value) =>
      bindings.insert (variableKey name) (.ofValue value)) bindings, counter⟩ := by
  induction externals generalizing bindings with
  | nil => exact h
  | cons external rest ih => exact ih (h.insert (.inl ⟨_, _, rfl⟩))

/-- Lowering starts in a proper scope. -/
theorem isProper_root (object : Kind) (settings : Settings) : (root object settings).IsProper := by
  refine isProper_externals settings.externals ?_
  intro name t found
  unfold Fields.find? at found
  split at found
  · rename_i same
    cases found
    exact .inr ⟨object, by rw [same], by rw [← same]; rfl⟩
  · cases found

/-- The object and the named variables stand for the same in both scopes. -/
def AgreeOn (names : String → Bool) (scope scope' : Scope) : Prop :=
  ∀ key, IsKey names key → scope'.bindings.find? key = scope.bindings.find? key

end Scope

namespace Lowering

variable {α β α' β' : Type} {step : Lowering α} {step' : Lowering α'} {P : α → α' → Prop}
  {Q : β → β' → Prop} {names : String → Bool} {still effects : Bool}

/-- Lowering has gone on from one scope to another, which is still proper. Nothing has been brought
into it if the step is still. -/
structure Moves (still : Bool) (scope after : Scope) : Prop where
  proper : after.IsProper
  bindings : still → after.bindings = scope.bindings

theorem Moves.trans {scope between after : Scope} (h : Moves still scope between)
    (h' : Moves still between after) : Moves still scope after where
  proper := h'.proper
  bindings same := (h'.bindings same).trans (h.bindings same)

/-- In a proper scope and one that agrees with it both steps fail, or what they give is related, and
the scopes after them are again so. -/
def Matches (names : String → Bool) (still : Bool) (step : Lowering α) (step' : Lowering α')
    (P : α → α' → Prop) : Prop :=
  ∀ settings scope scope', scope.IsProper → scope.AgreeOn names scope' →
    Outcomes P (fun after after' => after.AgreeOn names after' ∧ Moves still scope after)
      (step settings scope) (step' settings scope')

/-! ## Rules -/

theorem Alike.matches (h : Alike (.keys names) step step' P) : Matches names still step step' P := by
  intro settings scope scope' proper agree
  refine (h settings scope scope' (Naming.old_only _ _ _)).mono (fun _ _ holds => holds) ?_
  rintro after after' ⟨leads, leads'⟩
  refine ⟨fun key named => ?_, proper.of_bindings_eq leads.bindings, fun _ => leads.bindings⟩
  rw [leads.bindings, leads'.bindings]
  exact agree key named

theorem Matches.bind {next : α → Lowering β} {next' : α' → Lowering β'}
    (h : Matches names still step step' P)
    (h' : ∀ a a', P a a' → Matches names still (next a) (next' a') Q) :
    Matches names still (step >>= next) (step' >>= next') Q := by
  intro settings scope scope' proper agree
  refine (h settings scope scope' proper agree).bind ?_
  rintro a a' between between' holds ⟨agree, moves⟩
  refine (h' a a' holds settings between between' moves.proper agree).mono
    (fun _ _ holds => holds) ?_
  rintro after after' ⟨agree, further⟩
  exact ⟨agree, moves.trans further⟩

theorem Matches.moving (h : Matches names still step step' P) :
    Matches names false step step' P := by
  intro settings scope scope' proper agree
  refine (h settings scope scope' proper agree).mono (fun _ _ holds => holds) ?_
  rintro after after' ⟨agree, moves⟩
  exact ⟨agree, moves.proper, by simp⟩

/-- A name stands for alike trees in both scopes. -/
theorem matches_binding? (effects : Bool) {key : String} (named : Scope.IsKey names key) :
    Matches names still (binding? key) (binding? key)
      (fun t t' => t' = t ∧ ∀ u ∈ t, u.Alike effects (.keys names) u) := by
  intro settings scope scope' proper agree
  exact .ok ⟨agree key named, fun u found => proper.alike effects named found⟩
    ⟨agree, proper, fun _ => rfl⟩

theorem matches_bound {key : String} (named : Scope.IsKey names key) (e : Error) :
    Matches names still
      (do match ← binding? key with | some target => return target | none => throw e)
      (do match ← binding? key with | some target => return target | none => throw e)
      (Target.Alike effects (.keys names)) := by
  refine (matches_binding? effects named).bind ?_
  rintro _ t ⟨rfl, alike⟩
  cases t with
  | some t => exact (alike_pure (alike t rfl)).matches
  | none => exact (alike_throw e e).matches

theorem matches_object : Matches names still object object (Target.Alike effects (.keys names)) :=
  matches_bound (Scope.isKey_objectName names) _

theorem matches_reference {name : String} (named : names name) :
    Matches names still (reference name) (reference name) (Target.Alike effects (.keys names)) :=
  matches_bound (Scope.isKey_variableKey named) _

/-- Bringing a variable into scope. -/
theorem matches_bindVariable (name : String) (kind : Kind) :
    Matches names false
      (Lowering.bind (Scope.variableKey name) (.parameter kind (Scope.variableKey name)))
      (Lowering.bind (Scope.variableKey name) (.parameter kind (Scope.variableKey name)))
      (fun _ _ => True) := by
  intro settings scope scope' proper agree
  refine .ok trivial ⟨fun key named => ?_, proper.insert (.inr ⟨kind, rfl, by simp⟩), by simp⟩
  by_cases same : Scope.variableKey name = key
  · simp [same]
  · simp only [Fields.find?_insert_of_ne _ _ same]
    exact agree key named

theorem matches_assign (name : String) {t t' : Target} (allowed : effects)
    (h : t.Alike effects (.keys names) t') :
    Matches names (!effects) (assign name t) (assign name t')
      (Target.Alike effects (.keys names)) := by
  unfold assign
  rw [h.kind_eq, allowed]
  exact (matches_bindVariable name _).bind fun _ _ _ =>
    (alike_pure (.assign _ _ rfl (allowed ▸ h))).matches

/-- What is brought into scope by an enclosed step goes out of scope with it. -/
theorem matches_enclosed (h : Matches names false step step' P) :
    Matches names still (enclosed step) (enclosed step') P := by
  intro settings scope scope' proper agree
  have inner := h settings scope scope' proper agree
  unfold enclosed
  generalize step settings scope = run at inner
  generalize step' settings scope' = run' at inner
  cases inner with
  | ok holds _ => exact .ok holds ⟨agree, proper.of_bindings_eq rfl, fun _ => rfl⟩
  | error e e' after after' => exact .error e e' _ _

theorem matches_filter {name : String} (named : names name) {t t' : Target}
    {predicate predicate' : Lowering Target} (h : t.Alike effects (.keys names) t')
    (h' : Matches names false predicate predicate' (Target.Alike effects (.keys names))) :
    Matches names false (filter t name predicate) (filter t' name predicate')
      (Target.Alike effects (.keys names)) := by
  refine (alike_elementOf _ _ h).matches.bind ?_
  rintro element _ rfl
  refine (matches_bindVariable name element).bind fun _ _ _ => h'.bind fun _ _ predicate => ?_
  refine (alike_guarded h fun ρ' s s' extend source => alike_pure ?_).matches
  rw [h.kind_eq]
  have self : ρ' (Scope.variableKey name) (Scope.variableKey name) :=
    extend _ _ ⟨rfl, Scope.isMadeUp_variableKey name, Scope.isKey_variableKey named⟩
  exact .filter _ source self (predicate.extend extend)

/-! ## Trees -/

/-- The trees of a list of expressions are alike if those of each expression are. -/
theorem Matches.cons {first first' : Lowering Target} {rest rest' : Lowering (List Target)}
    (h : Matches names still first first' (Target.Alike effects (.keys names)))
    (h' : Matches names still rest rest' (Target.AllAlike effects (.keys names))) :
    Matches names still (do return (← first) :: (← rest)) (do return (← first') :: (← rest'))
      (Target.AllAlike effects (.keys names)) :=
  h.bind fun _ _ t => h'.bind fun _ _ ts => (alike_pure (.cons t ts)).matches

end Lowering

open Lowering

section

variable {names : String → Bool} {effects : Bool}

mutual

/-- In scopes that agree on the variables that it mentions an expression is lowered to alike trees.
They have effects only if the expression may, and unless it may, nothing is brought into scope. -/
theorem Expr.matches_lower (e : Expr) (allowed : effects ∨ e.isPure)
    (named : e.mentionsOnly names) :
    Matches names (!effects) e.lower e.lower (Target.Alike effects (.keys names)) := by
  match e with
  | .constant value => exact (alike_pure (.constant _ value)).matches
  | .self => exact matches_object
  | .var name => exact matches_reference named
  | .path keys => exact matches_object.bind fun _ _ h => (alike_keyPath keys h).matches
  | .pathOn operand keys =>
    rw [Expr.isPure_pathOn] at allowed
    rw [Expr.mentionsOnly_pathOn] at named
    exact (operand.matches_lower allowed named).bind fun _ _ h => (alike_keyPath keys h).matches
  | .call selector args =>
    rw [Expr.isPure_call, Bool.and_eq_true] at allowed
    rw [Expr.mentionsOnly_call] at named
    refine (alike_function selector args.length).matches.bind ?_
    rintro f _ ⟨rfl, found⟩
    split
    · exact Expr.matches_lowerIndex args (allowed.imp_right And.right) named
    · refine (Expr.matches_lowerAll args (allowed.imp_right And.right) named).bind fun _ _ h =>
        (alike_call f (fun random => ?_) h).matches
      refine allowed.resolve_right fun pure => ?_
      simp [BuiltinFunction.isRandom, found, random] at pure
  | .subquery collection var predicate =>
    rw [Expr.isPure_subquery, Bool.and_eq_true] at allowed
    rw [Expr.mentionsOnly_subquery, Bool.and_eq_true, Bool.and_eq_true] at named
    exact matches_enclosed
      ((collection.matches_lower (allowed.imp_right And.left) named.1.2).moving.bind fun _ _ h =>
        matches_filter named.1.1 h
          (predicate.matches_lower (allowed.imp_right And.right) named.2).moving)
  | .list items =>
    rw [Expr.mentionsOnly_list] at named
    exact (Expr.matches_lowerAll items allowed named).bind fun _ _ h => (alike_list h).matches
  | .symbol symbol => exact (alike_typeFault _ _).matches
  | .assign var value =>
    rw [Expr.mentionsOnly_assign, Bool.and_eq_true] at named
    have allowed : effects := by simpa using allowed
    exact (value.matches_lower (.inl allowed) named.2).bind fun _ _ h =>
      matches_assign var allowed h

theorem Expr.matches_lowerIndex (args : List Expr) (allowed : effects ∨ Expr.allMeet .pure args)
    (named : Expr.allMeet (.mentions names) args) :
    Matches names (!effects) (Expr.lowerIndex args) (Expr.lowerIndex args)
      (Target.Alike effects (.keys names)) := by
  unfold Expr.lowerIndex
  split
  · rename_i collection symbol
    simp only [Expr.allMeet_pure_cons, Bool.and_eq_true] at allowed
    simp only [Expr.allMeet_mentions_cons, Bool.and_eq_true] at named
    refine (collection.matches_lower (allowed.imp_right And.left) named.1).bind fun _ _ h =>
      (alike_elementOf _ _ h).matches.bind ?_
    rintro element _ rfl
    exact (alike_indexBySymbol element symbol h).matches
  · rename_i collection place _
    simp only [Expr.allMeet_pure_cons, Bool.and_eq_true] at allowed
    simp only [Expr.allMeet_mentions_cons, Bool.and_eq_true] at named
    refine (collection.matches_lower (allowed.imp_right And.left) named.1).bind fun _ _ h =>
      (alike_elementOf _ _ h).matches.bind ?_
    rintro element _ rfl
    exact (place.matches_lower (allowed.imp_right fun pure => pure.2.1) named.2.1).bind
      fun _ _ h' => (alike_indexBy element h h').matches
  · exact (alike_typeFault _ _).matches

theorem Expr.matches_lowerAll (es : List Expr) (allowed : effects ∨ Expr.allMeet .pure es)
    (named : Expr.allMeet (.mentions names) es) :
    Matches names (!effects) (Expr.lowerAll es) (Expr.lowerAll es)
      (Target.AllAlike effects (.keys names)) := by
  match es with
  | [] => exact (alike_pure .nil).matches
  | e :: rest =>
    rw [Expr.allMeet_pure_cons, Bool.and_eq_true] at allowed
    rw [Expr.allMeet_mentions_cons, Bool.and_eq_true] at named
    exact (e.matches_lower (allowed.imp_right And.left) named.1).cons
      (Expr.matches_lowerAll rest (allowed.imp_right And.right) named.2)

/-- In scopes that agree on the variables that it mentions a predicate is lowered to alike trees. -/
theorem Predicate.matches_lower (p : Predicate) (allowed : effects ∨ p.isPure)
    (named : p.mentionsOnly names) :
    Matches names (!effects) p.lower p.lower (Target.Alike effects (.keys names)) := by
  match p with
  | .constant value => exact (alike_pure (.constant _ _)).matches
  | .comparison left operator right modifier options =>
    rw [Predicate.isPure_comparison, Bool.and_eq_true] at allowed
    rw [Predicate.mentionsOnly_comparison, Bool.and_eq_true] at named
    exact (left.matches_lower (allowed.imp_right And.left) named.1).bind fun _ _ h =>
      (right.matches_lower (allowed.imp_right And.right) named.2).bind fun _ _ h' =>
        (alike_comparison operator modifier options h h').matches
  | .compound .not [part] =>
    have allowed : effects ∨ part.isPure := by simpa using allowed
    have named : part.mentionsOnly names := by simpa using named
    exact (part.matches_lower allowed named).bind fun _ _ h => (alike_pure (.unary _ _ h)).matches
  | .compound .not [] | .compound .not (_ :: _ :: _) => exact (alike_typeFault _ _).matches
  | .compound .and parts | .compound .or parts =>
    exact Predicate.matches_lowerJoined _ parts allowed named

theorem Predicate.matches_lowerJoined (op : BinaryOp) (ps : List Predicate)
    (allowed : effects ∨ Predicate.allMeet .pure ps)
    (named : Predicate.allMeet (.mentions names) ps) :
    Matches names (!effects) (Predicate.lowerJoined op ps) (Predicate.lowerJoined op ps)
      (Target.Alike effects (.keys names)) := by
  match ps with
  | [] => exact (alike_pure (.constant _ _)).matches
  | [part] =>
    have allowed : effects ∨ part.isPure := by simpa using allowed
    have named : part.mentionsOnly names := by simpa using named
    exact part.matches_lower allowed named
  | part :: next :: rest =>
    rw [Predicate.allMeet_pure_cons, Bool.and_eq_true] at allowed
    rw [Predicate.allMeet_mentions_cons, Bool.and_eq_true] at named
    exact (part.matches_lower (allowed.imp_right And.left) named.1).bind fun _ _ h =>
      (Predicate.matches_lowerJoined op (next :: rest) (allowed.imp_right And.right) named.2).bind
        fun _ _ h' => (alike_pure (.binary _ op h h')).matches

end

end

end PredicateLang
