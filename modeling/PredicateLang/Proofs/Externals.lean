import PredicateLang.Compilation
import PredicateLang.Proofs.Renaming.Trees

/-!
# External variables

To give an external variable a value is to write the value in its place: a tree that does not assign
the variable is lowered with the external variable as it is with the constant instead of each of its
references, to the same tree or with the same error (`target_withExternal`).
-/

namespace PredicateLang

/-- The settings with a value for an external variable, in place of one that it had. -/
def Settings.withExternal (settings : Settings) (name : String) (value : Value) : Settings :=
  { settings with
    externals := Fields.insert name value (settings.externals.filter fun entry => entry.1 ≠ name) }

theorem Settings.beside_withExternal (settings : Settings) (name : String) (value : Value) :
    (settings.withExternal name value).Beside settings :=
  ⟨settings.externals, rfl⟩

namespace Scope

/-! ## External variables in scope -/

/-- What a name stands for after external variables, if it stood for something before them: the last
one that has the name. -/
def latest (name : String) (before : Option Target) : List (String × Value) → Option Target
  | [] => before
  | (other, value) :: rest =>
    latest name (if other = name then some (.ofValue value) else before) rest

/-- What a variable stands for when lowering starts. -/
theorem find?_root_variable (kind : Kind) (settings : Settings) (name : String) :
    (root kind settings).bindings.find? (variableKey name)
      = latest name none settings.externals := by
  have kept : ∀ (externals : List (String × Value)) (bindings : Fields Target),
      (externals.foldl (fun bindings external =>
        bindings.insert (variableKey external.1) (.ofValue external.2)) bindings).find?
          (variableKey name) = latest name (bindings.find? (variableKey name)) externals := by
    intro externals
    induction externals with
    | nil => exact fun _ => rfl
    | cons first rest ih =>
      intro bindings
      rw [List.foldl_cons, ih, latest]
      by_cases same : first.1 = name
      · rw [if_pos same, same, Fields.find?_insert_self]
      · rw [if_neg same, Fields.find?_insert_of_ne]
        exact fun key => same (variableKey_injective key)
  have start : Fields.find? [(objectName, Target.parameter kind objectName)] (variableKey name)
      = none := by
    simp [Fields.find?, objectName_ne_variableKey name]
  rw [← start]
  exact kept settings.externals _

variable {name other : String} {before : Option Target} {externals : List (String × Value)}

/-- External variables of other names make no difference. -/
theorem latest_insert_of_ne (value : Value) (ne : name ≠ other) :
    latest other before (Fields.insert name value externals) = latest other before externals := by
  induction externals generalizing before with
  | nil => simp [Fields.insert, latest, ne]
  | cons first rest ih =>
    unfold Fields.insert
    split
    · rename_i same
      rw [latest, latest, if_neg ne, ← same, if_neg ne]
    · split
      · rw [latest, if_neg ne]
      · rw [latest, latest, ih]

theorem latest_filter (ne : name ≠ other) :
    latest other before (externals.filter fun entry => entry.1 ≠ name)
      = latest other before externals := by
  induction externals generalizing before with
  | nil => rfl
  | cons first rest ih =>
    by_cases same : first.1 = name
    · rw [List.filter_cons_of_neg (by simp [same]), latest, if_neg (same ▸ ne), ih]
    · rw [List.filter_cons_of_pos (by simp [same]), latest, latest, ih]

/-- If no other one has its name, then an external variable stands for its value. -/
theorem latest_insert_self (value : Value) (others : ∀ entry ∈ externals, entry.1 ≠ name) :
    latest name before (Fields.insert name value externals) = some (.ofValue value) := by
  have stays : ∀ (rest : List (String × Value)) (before : Option Target),
      (∀ entry ∈ rest, entry.1 ≠ name) → latest name before rest = before := by
    intro rest
    induction rest with
    | nil => exact fun _ _ => rfl
    | cons first rest ih =>
      intro before others
      rw [latest, if_neg (others first List.mem_cons_self)]
      exact ih before fun entry mem => others entry (List.mem_cons_of_mem first mem)
  induction externals generalizing before with
  | nil => simp [Fields.insert, latest]
  | cons first rest ih =>
    have ne := others first List.mem_cons_self
    have others' : ∀ entry ∈ rest, entry.1 ≠ name :=
      fun entry mem => others entry (List.mem_cons_of_mem first mem)
    unfold Fields.insert
    rw [if_neg ne.symm]
    split
    · rw [latest, if_pos rfl]
      exact stays _ _ others
    · rw [latest]
      exact ih others'

/-- An external variable stands for its value, and other variables for what they stood for. -/
theorem find?_root_withExternal (kind : Kind) (settings : Settings) (name other : String)
    (value : Value) :
    (root kind (settings.withExternal name value)).bindings.find? (variableKey other)
      = if other = name then some (.ofValue value)
        else (root kind settings).bindings.find? (variableKey other) := by
  rw [find?_root_variable, find?_root_variable]
  unfold Settings.withExternal
  split
  · rename_i same
    rw [same]
    exact latest_insert_self value fun entry mem => by simpa using (List.mem_filter.mp mem).2
  · rename_i ne
    rw [latest_insert_of_ne value (Ne.symm ne), latest_filter (Ne.symm ne)]

/-! ## A constant in place of a variable -/

theorem admits_constant (name : String) (value : Value) :
    Admits (.only name (.constant value)) Eq (fun _ => true) (· ≠ name) where
  steady := Naming.steady_eq
  places _ _ := Substitution.only_ne_symbol nofun
  avoids := by
    intro first other _ _ stands
    rcases Substitution.eq_of_only_eq_var stands with same | ⟨-, same⟩
    · exact same
    · cases same
  assigned := by
    intro other ne
    exact ⟨Substitution.only_of_ne (by simpa using ne), Naming.fixes_eq _⟩

/-- Where lowering starts, an external variable and a constant in its place are the same. -/
theorem fits_withExternal (kind : Kind) (settings : Settings) (name : String) (value : Value) :
    Fits (.only name (.constant value)) Eq (fun _ => true)
      (root kind (settings.withExternal name value)) (root kind settings) where
  counter := rfl
  object := by
    rw [find?_root_object, find?_root_object]
    exact .parameter kind rfl
  vars := by
    intro other _
    by_cases same : other = name
    · rw [same, Substitution.only_self]
      apply Stands.constant
      rw [find?_root_withExternal, if_pos rfl]
    · rw [Substitution.only_of_ne same]
      apply Stands.var
      rw [find?_root_withExternal, if_neg same]
      exact (isProper_root kind settings).meanings rfl

end Scope

/-! ## Lowering -/

/-- Trees with nothing renamed, or the same error, are the same. -/
theorem Coincide.eq {made made' : Except Error Target}
    (h : Coincide (Target.Renamed true Eq) made made') : made = made' := by
  cases h with
  | ok same => rw [same.eq]
  | error e => rfl

/-- A tree that does not assign an external variable is lowered, and compiled, as the tree with the
constant in place of the variable: to the same tree, down to the names that are made up, or with the
same error. -/
theorem target_withExternal (name : String) (value : Value) (object : Kind) (settings : Settings) :
    (∀ e : Expr, e.assignsOnly (· ≠ name) →
      e.target object (settings.withExternal name value)
          = (e.substitute (.only name (.constant value))).target object settings
        ∧ ∀ result, e.compile object result (settings.withExternal name value)
          = (e.substitute (.only name (.constant value))).compile object result settings)
      ∧ ∀ p : Predicate, p.assignsOnly (· ≠ name) →
        p.target object (settings.withExternal name value)
            = (p.substitute (.only name (.constant value))).target object settings
          ∧ p.compile object (settings.withExternal name value)
            = (p.substitute (.only name (.constant value))).compile object settings := by
  have admits := Scope.admits_constant name value
  have fits := Scope.fits_withExternal object settings name value
  have beside := settings.beside_withExternal name value
  constructor
  · intro e known
    have named : e.mentionsOnly fun _ => true := e.mentionsOnly_of_forall fun _ => rfl
    have same : e.target object (settings.withExternal name value)
        = (e.substitute (.only name (.constant value))).target object settings :=
      (Lowering.coincide_runFor
        (e.corresponds_substitute admits named known _ _ _ _ beside fits)).eq
    refine ⟨same, fun result => ?_⟩
    unfold Expr.compile
    rw [same]
    rfl
  · intro p known
    have named : p.mentionsOnly fun _ => true := p.mentionsOnly_of_forall fun _ => rfl
    have same : p.target object (settings.withExternal name value)
        = (p.substitute (.only name (.constant value))).target object settings :=
      (Lowering.coincide_runFor
        (p.corresponds_substitute admits named known _ _ _ _ beside fits)).eq
    refine ⟨same, ?_⟩
    unfold Predicate.compile
    rw [same]
    rfl

/-- `$n < SUBQUERY(items, $n, $n.price > 1).@count`, where the reference inside is to an item. -/
theorem target_withExternal_shadowed :
    (Predicate.comparison (.var "n") .less
        (.pathOn (.subquery (.path "items") "n" (.comparison (.pathOn (.var "n") "price") .greater
          (.constant (.int 1)) .direct .none)) "@count") .direct .none).assignsOnly (· ≠ "n")
      ∧ (Predicate.comparison (.var "n") .less
          (.pathOn (.subquery (.path "items") "n" (.comparison (.pathOn (.var "n") "price") .greater
            (.constant (.int 1)) .direct .none)) "@count") .direct .none).target .any
            ((Settings.ofDialect .objects).withExternal "n" (.int 3))
        = (Predicate.comparison (.constant (.int 3)) .less
          (.pathOn (.subquery (.path "items") "n" (.comparison (.pathOn (.var "n") "price") .greater
            (.constant (.int 1)) .direct .none)) "@count") .direct .none).target .any
            (.ofDialect .objects) := by
  have known : (Predicate.comparison (.var "n") .less
      (.pathOn (.subquery (.path "items") "n" (.comparison (.pathOn (.var "n") "price") .greater
        (.constant (.int 1)) .direct .none)) "@count") .direct .none).assignsOnly (· ≠ "n") := by
    decide
  refine ⟨known, ?_⟩
  exact ((target_withExternal "n" (.int 3) .any (.ofDialect .objects)).2 _ known).1

end PredicateLang
