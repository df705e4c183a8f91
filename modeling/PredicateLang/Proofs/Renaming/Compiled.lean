import PredicateLang.Proofs.Effects.Compiled
import PredicateLang.Proofs.Renaming.Sql
import PredicateLang.Proofs.Renaming.Trees

/-!
# Variables of subqueries

The variable of a subquery may have any name that its predicate does not mention: with the
references to it renamed, the subquery has the same value for every object and becomes the same
query (`subquery_renamed`).
-/

namespace PredicateLang

open Lowering

namespace Expr

/-- What comes of an expression for an object: it is compiled and then evaluated. -/
def outcome (e : Expr) (kind : Kind) (result : Option Kind) (settings : Settings) (object : Value) :
    Evaluation Value := do
  (← Evaluation.ofResult (e.compile kind result settings)).value object

/-- The query that an expression becomes. -/
def query (e : Expr) (kind : Kind) (result : Option Kind) (settings : Settings) :
    Except Error String := do
  (← e.compile kind result settings).sql

end Expr

/-! ## Compiled trees -/

namespace Compiled

/-- The compiled trees are the same but for the variables of subqueries. -/
structure Renamed (c c' : Compiled) : Prop where
  target : c.target.Renamed false Eq c'.target
  dialect : c'.dialect = c.dialect

variable {c c' : Compiled}

theorem Renamed.value_eq (h : c.Renamed c') (object : Value) :
    c'.value object = c.value object := by
  funext world memory
  have evaluated : c'.target.eval world (start object memory)
      = c.target.eval world (start object memory) := by
    obtain ⟨unique, same, unbound⟩ := Naming.joins_eq (start object memory).slots
    have around : Surroundings.Match Eq ⟨(start object memory).slots, []⟩
        ⟨(start object memory).slots, []⟩ := ⟨unique, same, unbound⟩
    have agree := h.target.follow world _ _
      ⟨(start object memory).assigned, (start object memory).drawn⟩ around
    have result : (c'.runOn object world memory).result = (c.runOn object world memory).result :=
      agree.result
    have store : (c'.runOn object world memory).store = (c.runOn object world memory).store :=
      agree.store
    rw [← outcome_runOn, ← outcome_runOn]
    unfold Run.outcome
    rw [result, store]
  unfold value Evaluation.about
  rw [← start, evaluated]

theorem Renamed.sql_eq (h : c.Renamed c') : c'.sql = c.sql := by
  unfold sql
  rw [h.dialect, h.target.sql_eq]

end Compiled

/-- Expressions that are lowered to renamed trees are compiled to renamed trees. -/
theorem Expr.coincide_compile {e e' : Expr} {object : Kind} {settings : Settings}
    (h : Coincide (Target.Renamed false Eq) (e.target object settings) (e'.target object settings))
    (result : Option Kind) :
    Coincide Compiled.Renamed (e.compile object result settings)
      (e'.compile object result settings) := by
  apply h.bind
  intro t t' renamed
  cases result with
  | none => exact .ok ⟨renamed, rfl⟩
  | some kind => exact (coincide_asResult kind renamed).bind fun _ _ renamed => .ok ⟨renamed, rfl⟩

/-! ## Lowering -/

namespace Scope

variable {scope after after' : Scope}

theorem admits_renaming (x y : String) :
    Admits (.only x (.var y)) (Naming.push Eq (variableKey x) (variableKey y)) (· ≠ y)
      (fun _ => false) where
  steady := Naming.steady_eq.push (isMadeUp_variableKey x) (isMadeUp_variableKey y)
  places _ _ := Substitution.only_ne_symbol nofun
  avoids := by
    intro name other _ ne stands
    rcases Substitution.eq_of_only_eq_var stands with same | ⟨-, same⟩
    · exact same
    · simp [Expr.var.inj same] at ne
  assigned := nofun

/-- In the predicates of two subqueries over the same collection the one variable stands for the
same as the other. -/
theorem IsProper.fits_renaming (proper : scope.IsProper) (keeps : scope.Keeps scope after after')
    (x y : String) (kind : Kind) :
    Fits (.only x (.var y)) (Naming.push Eq (variableKey x) (variableKey y)) (· ≠ y)
      (after.enter x kind) (after'.enter y kind) where
  counter := keeps.counter
  object := by
    have ne := objectName_ne_variableKey x
    have ne' := objectName_ne_variableKey y
    rw [find?_enter_of_ne _ _ ne, find?_enter_of_ne _ _ ne', keeps.bindings, keeps.bindings']
    exact proper.meanings (.inr ⟨ne, ne', rfl⟩)
  vars := by
    intro name named
    by_cases same : name = x
    · rw [same, Substitution.only_self]
      apply Stands.var
      rw [find?_enter_self, find?_enter_self]
      exact .parameter kind (Naming.push_self _ _ _)
    · have other : name ≠ y := by simpa using named
      have ne : variableKey name ≠ variableKey x := fun key => same (variableKey_injective key)
      have ne' : variableKey name ≠ variableKey y := fun key => other (variableKey_injective key)
      rw [Substitution.only_of_ne same]
      apply Stands.var
      rw [find?_enter_of_ne _ _ ne, find?_enter_of_ne _ _ ne', keeps.bindings, keeps.bindings']
      exact proper.meanings (.inr ⟨ne, ne', rfl⟩)

end Scope

theorem Predicate.assignsOnly_of_assignsNothing {p : Predicate} (h : p.assignsNothing) :
    p.assignsOnly fun _ => false := h

/-- Lowering keeps the scope proper. -/
theorem Expr.isProper_of_lower {e : Expr} {settings : Settings} {scope after : Scope} {t : Target}
    (proper : scope.IsProper) (run : e.lower settings scope = .ok t after) : after.IsProper := by
  have allowed : (true : Bool) ∨ e.isPure := .inl rfl
  have named : e.mentionsOnly fun _ => true := e.mentionsOnly_of_forall fun _ => rfl
  have self := e.matches_lower allowed named settings scope scope proper fun _ _ => rfl
  rw [run] at self
  exact self.of_ok.2.2.proper

/-- A subquery, and the one over another variable, are lowered to renamed trees. -/
theorem Expr.coincide_subquery (c : Expr) {p : Predicate} (x : String) {y : String}
    (still : p.assignsNothing) (unmentioned : p.mentionsOnly (· ≠ y)) (object : Kind)
    (settings : Settings) :
    Coincide (Target.Renamed false Eq) ((Expr.subquery c x p).target object settings)
      ((Expr.subquery c y (p.substitute (.only x (.var y)))).target object settings) := by
  have admits := Scope.admits_renaming x y
  have predicates : Corresponds _ _ _ p.lower (p.substitute (.only x (.var y))).lower
      (Target.Renamed false _) :=
    p.corresponds_substitute admits unmentioned (Predicate.assignsOnly_of_assignsNothing still)
  have inner : Paired (Target.Renamed false Eq) (fun after after' => after'.counter = after.counter)
      (fun _ _ => True)
      ((do filter (← c.lower) x p.lower : Lowering Target) settings (.root object settings))
      ((do filter (← c.lower) y (p.substitute (.only x (.var y))).lower : Lowering Target) settings
        (.root object settings)) := by
    -- The collection is the same in both, so that only what is lowered after it may differ.
    cases run : c.lower settings (.root object settings) with
    | error e after =>
      rw [bind_run_of_error run, bind_run_of_error run]
      exact .error e trivial
    | ok t between =>
      rw [bind_run_of_ok run, bind_run_of_ok run]
      have proper := Expr.isProper_of_lower (Scope.isProper_root object settings) run
      exact paired_filter Naming.steady_eq nofun (.refl settings) rfl
        (Target.renamed_self (fun _ => rfl) t)
        (fun kind _ _ keeps => proper.fits_renaming keeps x y kind) predicates
  exact coincide_runFor (paired_enclosed inner)

/-- A subquery over a variable, and the subquery over another one that its predicate does not
mention, with the references to the variable renamed: whatever the kind of the object, the external
variables and the object are, both have the same outcome, and both become the same query. -/
theorem subquery_renamed (c : Expr) (p : Predicate) (x y : String) (still : p.assignsNothing)
    (unmentioned : p.mentionsOnly (· ≠ y)) (kind : Kind) (result : Option Kind)
    (settings : Settings) :
    (∀ object, (Expr.subquery c x p).outcome kind result settings object
        = (Expr.subquery c y (p.substitute (.only x (.var y)))).outcome kind result settings object)
      ∧ (Expr.subquery c x p).query kind result settings
        = (Expr.subquery c y (p.substitute (.only x (.var y)))).query kind result settings := by
  have compiled :=
    Expr.coincide_compile (Expr.coincide_subquery c x still unmentioned kind settings) result
  unfold Expr.outcome Expr.query
  generalize (Expr.subquery c x p).compile kind result settings = made at compiled
  generalize (Expr.subquery c y _).compile kind result settings = made' at compiled
  cases compiled with
  | error e => exact ⟨fun _ => rfl, rfl⟩
  | ok renamed => exact ⟨fun object => (renamed.value_eq object).symm, renamed.sql_eq.symm⟩

/-- `$v.price > 1 AND SUBQUERY($v.parts, $k, $k.n > 2).@count > 0` for a variable `v`. -/
def Predicate.hasParts (v : String) : Predicate :=
  .compound .and
    [.comparison (.pathOn (.var v) "price") .greater (.constant (.int 1)) .direct .none,
      .comparison (.pathOn (.subquery (.pathOn (.var v) "parts") "k"
        (.comparison (.pathOn (.var "k") "n") .greater (.constant (.int 2)) .direct .none))
        "@count") .greater (.constant (.int 0)) .direct .none]

/-- The inner subquery has the variable `k` to itself, also if that is the variable of the outer
one. -/
theorem subquery_renamed_shadowed :
    (Predicate.hasParts "k").assignsNothing
      ∧ (Predicate.hasParts "k").mentionsOnly (· ≠ "item")
      ∧ (∀ object, (Expr.subquery (.path "items") "k" (.hasParts "k")).outcome .any none
            (.ofDialect .objects) object
          = (Expr.subquery (.path "items") "item" (.hasParts "item")).outcome .any none
            (.ofDialect .objects) object)
      ∧ (Expr.subquery (.path "items") "k" (.hasParts "k")).query .any none (.ofDialect .backend)
          = (Expr.subquery (.path "items") "item" (.hasParts "item")).query .any none
            (.ofDialect .backend) := by
  have still : (Predicate.hasParts "k").assignsNothing := by decide
  have unmentioned : (Predicate.hasParts "k").mentionsOnly (· ≠ "item") := by decide
  have renamed := subquery_renamed (.path "items") (.hasParts "k") "k" "item" still unmentioned .any
    none
  exact ⟨still, unmentioned, (renamed (.ofDialect .objects)).1, (renamed (.ofDialect .backend)).2⟩

/-- The name of a variable is not written. -/
example : (Expr.subquery (.path "items") "k" (.comparison (.pathOn (.var "k") "price") .greater
    (.constant (.int 1)) .direct .none)).query .any none (.ofDialect .backend)
      = .ok "(SELECT t1 FROM t0.items AS t1 WHERE (t1.price > 1))" := by
  rfl

end PredicateLang
