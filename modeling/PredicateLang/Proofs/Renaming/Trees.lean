import PredicateLang.Proofs.Effects.Plain
import PredicateLang.Proofs.Renaming.Call
import PredicateLang.Proofs.Renaming.Comparison
import PredicateLang.Proofs.Renaming.Substitution

/-!
# Lowering after a substitution

`Scope.Fits σ ρ names scope scope'` says that what a named variable stands for in the one scope is
what the expression in its place is lowered to in the other. In such scopes a tree, and the tree
with expressions in place of its variables, are lowered to renamed trees or fail with the same error
(`Expr.corresponds_substitute`, `Predicate.corresponds_substitute`). The induction is over the tree;
in the predicate of a subquery nothing stands in the place of its variable, which stands for itself.
-/

namespace PredicateLang

/-! ## Scopes that fit a substitution -/

namespace Scope

/-- The scope with one more variable, which stands for itself. -/
def enter (scope : Scope) (name : String) (kind : Kind) : Scope :=
  let key := variableKey name
  { scope with bindings := scope.bindings.insert key (.parameter kind key) }

theorem find?_enter_self (scope : Scope) (name : String) (kind : Kind) :
    (scope.enter name kind).bindings.find? (variableKey name)
      = some (.parameter kind (variableKey name)) :=
  Fields.find?_insert_self _ _ _

theorem find?_enter_of_ne (scope : Scope) {key name : String} (kind : Kind)
    (h : key ≠ variableKey name) :
    (scope.enter name kind).bindings.find? key = scope.bindings.find? key :=
  Fields.find?_insert_of_ne _ _ h.symm

/-- Two names stand for the same, or each for itself where these are joined. -/
inductive Meanings (ρ : Naming) (name name' : String) : Option Target → Option Target → Prop where
  | none (same : name = name') : Meanings ρ name name' none none
  | constant (kind : Kind) (value : Value) :
    Meanings ρ name name' (some (.constant kind value)) (some (.constant kind value))
  | parameter (kind : Kind) (join : ρ name name') :
    Meanings ρ name name' (some (.parameter kind name)) (some (.parameter kind name'))

/-- What a variable stands for among the one bindings is what an expression is lowered to among the
others. -/
inductive Stands (ρ : Naming) (bindings bindings' : Fields Target) (name : String) :
    Expr → Prop where
  | constant {value : Value} (found : bindings.find? (variableKey name) = some (.ofValue value)) :
    Stands ρ bindings bindings' name (.constant value)
  | var {other : String}
    (meanings : Meanings ρ (variableKey name) (variableKey other)
      (bindings.find? (variableKey name)) (bindings'.find? (variableKey other))) :
    Stands ρ bindings bindings' name (.var other)

/-- The named variables stand in the one scope for what the expressions in their places are lowered
to in the other. -/
structure Fits (σ : Substitution) (ρ : Naming) (names : String → Bool) (scope scope' : Scope) :
    Prop where
  counter : scope'.counter = scope.counter
  object : Meanings ρ objectName objectName (scope.bindings.find? objectName)
    (scope'.bindings.find? objectName)
  vars : ∀ name, names name → Stands ρ scope.bindings scope'.bindings name (σ name)

/-- Which variables a substitution is for, and which of them are assigned. No named variable stands
in the place of another, and an assigned one stands for itself only. No word for a place stands in
the place of a variable, as indexing would take it for one of its own. -/
structure Admits (σ : Substitution) (ρ : Naming) (names assigned : String → Bool) : Prop where
  steady : ρ.Steady
  places : ∀ name symbol, σ name ≠ .symbol symbol
  avoids : ∀ name other, names name → names other → σ name = .var other → name = other
  assigned : ∀ name, assigned name → σ name = .var name ∧ ρ.Fixes (variableKey name)

variable {σ : Substitution} {ρ : Naming} {names assigned : String → Bool}
  {scope scope' after after' : Scope} {name : String}

theorem Admits.hide (h : Admits σ ρ names assigned) (name : String) :
    Admits (σ.hide name) (ρ.push (variableKey name) (variableKey name)) names assigned where
  steady := h.steady.push (isMadeUp_variableKey name) (isMadeUp_variableKey name)
  places := by
    intro other symbol
    by_cases same : other = name
    · rw [same, Substitution.hide_self]
      nofun
    · rw [Substitution.hide_of_ne same]
      exact h.places other symbol
  avoids := by
    intro first other named named' stands
    by_cases same : first = name
    · rw [same, Substitution.hide_self] at stands
      rw [same]
      exact Expr.var.inj stands
    · rw [Substitution.hide_of_ne same] at stands
      exact h.avoids first other named named' stands
  assigned := by
    intro first known
    obtain ⟨stands, fixes⟩ := h.assigned first known
    refine ⟨?_, fixes.push _⟩
    by_cases same : first = name
    · rw [same, Substitution.hide_self]
    · rw [Substitution.hide_of_ne same, stands]

theorem Fits.of_keeps (h : Fits σ ρ names scope scope') (keeps : Keeps scope scope' after after') :
    Fits σ ρ names after after' where
  counter := keeps.counter
  object := by
    rw [keeps.bindings, keeps.bindings']
    exact h.object
  vars := by
    rw [keeps.bindings, keeps.bindings']
    exact h.vars

/-- Names that stand for the same still do when another name hides one of its own. -/
theorem Meanings.push {key key' hidden : String} {t t' : Option Target}
    (h : Meanings ρ key key' t t') (ne : key ≠ hidden) (ne' : key' ≠ hidden) :
    Meanings (ρ.push hidden hidden) key key' t t' := by
  cases h with
  | none same => exact .none same
  | constant kind value => exact .constant kind value
  | parameter kind join => exact .parameter kind (.inr ⟨ne, ne', join⟩)

/-- In a proper scope a name stands for the same as itself, where it may stand for itself. -/
theorem IsProper.meanings (h : scope.IsProper) {key : String} (self : ρ key key) :
    Meanings ρ key key (scope.bindings.find? key) (scope.bindings.find? key) := by
  cases found : scope.bindings.find? key with
  | none => exact .none rfl
  | some t =>
    obtain ⟨kind, value, rfl⟩ | ⟨kind, rfl, -⟩ := h key t found
    · exact .constant kind value
    · exact .parameter kind self

/-- A variable that is brought into both scopes hides what stood in its place. -/
theorem Fits.bind (h : Fits σ ρ names scope scope') (admits : Admits σ ρ names assigned)
    (named : names name) (kind : Kind) :
    Fits (σ.hide name) (ρ.push (variableKey name) (variableKey name)) names
      (scope.enter name kind) (scope'.enter name kind) where
  counter := h.counter
  object := by
    have ne := objectName_ne_variableKey name
    rw [find?_enter_of_ne _ _ ne, find?_enter_of_ne _ _ ne]
    exact h.object.push ne ne
  vars := by
    intro other named'
    by_cases same : other = name
    · rw [same, Substitution.hide_self]
      apply Stands.var
      rw [find?_enter_self, find?_enter_self]
      exact .parameter kind (Naming.push_self _ _ _)
    · rw [Substitution.hide_of_ne same]
      have key : variableKey other ≠ variableKey name := fun key => same (variableKey_injective key)
      have stands := h.vars other named'
      -- A constant is not hidden by the variable, nor is a variable unless it is the same one.
      cases place : σ other with
      | constant value =>
        rw [place] at stands
        cases stands with
        | constant found =>
          apply Stands.constant
          rw [find?_enter_of_ne _ _ key, found]
      | var third =>
        rw [place] at stands
        have apart : third ≠ name := by
          rintro rfl
          exact same (admits.avoids other third named' named place)
        have key' : variableKey third ≠ variableKey name :=
          fun key => apart (variableKey_injective key)
        cases stands with
        | var meanings =>
          apply Stands.var
          rw [find?_enter_of_ne _ _ key, find?_enter_of_ne _ _ key']
          exact meanings.push key key'
      | _ =>
        rw [place] at stands
        cases stands

/-- An assigned variable still stands for itself. -/
theorem Fits.assign (h : Fits σ ρ names scope scope') (admits : Admits σ ρ names assigned)
    (named : names name) (known : assigned name) (kind : Kind) :
    Fits σ ρ names (scope.enter name kind) (scope'.enter name kind) := by
  obtain ⟨stands, fixes⟩ := admits.assigned name known
  have fits := h.bind admits named kind
  rwa [Substitution.hide_eq stands, fixes.push_eq] at fits

end Scope

namespace Lowering

variable {α β α' β' : Type} {step : Lowering α} {step' : Lowering α'} {P : α → α' → Prop}
  {Q : β → β' → Prop} {σ : Substitution} {ρ : Naming} {names assigned : String → Bool}

/-- In scopes that fit the substitution what the steps give is related, or they fail in the same
way, and the scopes after them fit too. -/
def Corresponds (σ : Substitution) (ρ : Naming) (names : String → Bool) (step : Lowering α)
    (step' : Lowering α') (P : α → α' → Prop) : Prop :=
  ∀ settings settings' scope scope', settings.Beside settings' →
    Scope.Fits σ ρ names scope scope' →
    Paired P (Scope.Fits σ ρ names) (fun _ _ => True) (step settings scope)
      (step' settings' scope')

/-! ## Rules -/

theorem Tracks.corresponds (h : Tracks step step' P) : Corresponds σ ρ names step step' P := by
  intro settings settings' scope scope' beside fits
  apply (h settings settings' scope scope' beside fits.counter).forget
  intro after after' keeps
  exact fits.of_keeps keeps

theorem Corresponds.bind {next : α → Lowering β} {next' : α' → Lowering β'}
    (h : Corresponds σ ρ names step step' P)
    (h' : ∀ a a', P a a' → Corresponds σ ρ names (next a) (next' a') Q) :
    Corresponds σ ρ names (step >>= next) (step' >>= next') Q := by
  intro settings settings' scope scope' beside fits
  apply (h settings settings' scope scope' beside fits).bind
  intro a a' between between' holds fits'
  exact h' a a' holds settings settings' between between' beside fits'

variable {exact : Bool}

/-- The tree that a name stands for, or an error. -/
theorem bound_run (key : String) (e : Error) (settings : Settings) (scope : Scope) :
    (do match ← binding? key with | some target => return target | none => throw e :
        Lowering Target) settings scope
      = (scope.bindings.find? key).elim (.error e scope) fun t => .ok t scope := by
  have run : binding? key settings scope = .ok (scope.bindings.find? key) scope := rfl
  rw [bind_run_of_ok run]
  cases scope.bindings.find? key <;> rfl

/-- Names that stand for the same are lowered to renamed trees. -/
theorem paired_bound {R E : Scope → Scope → Prop} {settings settings' : Settings}
    {scope scope' : Scope} {key key' : String} {e e' : Error}
    (h : Scope.Meanings ρ key key' (scope.bindings.find? key) (scope'.bindings.find? key'))
    (same : key = key' → e = e') (scopes : R scope scope') (errors : E scope scope') :
    Paired (Target.Renamed exact ρ) R E
      ((do match ← binding? key with | some target => return target | none => throw e :
        Lowering Target) settings scope)
      ((do match ← binding? key' with | some target => return target | none => throw e' :
        Lowering Target) settings' scope') := by
  rw [bound_run, bound_run]
  generalize scope.bindings.find? key = found at h
  generalize scope'.bindings.find? key' = found' at h
  cases h with
  | none keys =>
    obtain rfl := same keys
    exact .error e errors
  | constant kind value => exact .ok (.constant kind value) scopes
  | parameter kind join => exact .ok (.parameter kind join) scopes

theorem corresponds_object :
    Corresponds σ ρ names object object (Target.Renamed exact ρ) :=
  fun _ _ _ _ _ fits => paired_bound fits.object (fun _ => rfl) fits trivial

/-- A named variable, and what stands in its place. -/
theorem corresponds_reference {name : String} (named : names name) :
    Corresponds σ ρ names (reference name) (σ name).lower (Target.Renamed exact ρ) := by
  intro settings settings' scope scope' _ fits
  have stands := fits.vars name named
  generalize σ name = place at stands
  cases stands with
  | @constant value found =>
    have run : reference name settings scope = .ok (.ofValue value) scope := by
      apply (bound_run (Scope.variableKey name) _ settings scope).trans
      rw [found]
      rfl
    rw [run]
    exact .ok (.constant _ value) fits
  | var meanings =>
    refine paired_bound meanings (fun keys => ?_) fits trivial
    rw [Scope.variableKey_injective keys]

theorem corresponds_assign {name : String} {t t' : Target}
    (admits : Scope.Admits σ ρ names assigned) (named : names name) (known : assigned name)
    (h : t.Renamed exact ρ t') :
    Corresponds σ ρ names (assign name t) (assign name t') (Target.Renamed exact ρ) := by
  intro settings settings' scope scope' _ fits
  unfold assign
  rw [h.kind_eq]
  exact .ok (.assign _ _ h) (fits.assign admits named known t.kind)

/-- The items for which a predicate holds, where the variables of the subqueries hide what stood in
their place. -/
theorem paired_filter {σ' : Substitution} {a b : String} {settings settings' : Settings}
    {scope scope' : Scope} {t t' : Target} {predicate predicate' : Lowering Target}
    (steady : ρ.Steady) (same : exact → a = b) (beside : settings.Beside settings')
    (counter : scope'.counter = scope.counter) (h : t.Renamed exact ρ t')
    (fits : ∀ kind between between', scope.Keeps scope' between between' →
      Scope.Fits σ' (ρ.push (Scope.variableKey a) (Scope.variableKey b)) names
        (between.enter a kind) (between'.enter b kind))
    (h' : Corresponds σ' (ρ.push (Scope.variableKey a) (Scope.variableKey b)) names predicate
      predicate' (Target.Renamed exact (ρ.push (Scope.variableKey a) (Scope.variableKey b)))) :
    Paired (Target.Renamed exact ρ) (fun after after' => after'.counter = after.counter)
      (fun _ _ => True) (filter t a predicate settings scope)
      (filter t' b predicate' settings' scope') := by
  have element := tracks_elementOf "SUBQUERY" .collection h settings settings' scope scope' beside
    counter
  apply (element.forget fun _ _ keeps => keeps).bind
  rintro kind _ between between' rfl keeps
  -- The two variables are brought into scope, and from here on the scopes fit.
  have entered : Paired (fun _ _ => True)
      (Scope.Fits σ' (ρ.push (Scope.variableKey a) (Scope.variableKey b)) names) (fun _ _ => True)
      (Lowering.bind (Scope.variableKey a) (.parameter kind (Scope.variableKey a)) settings between)
      (Lowering.bind (Scope.variableKey b) (.parameter kind (Scope.variableKey b)) settings'
        between') :=
    .ok trivial (fits kind between between' keeps)
  apply entered.bind
  intro _ _ inner inner' _ fits'
  apply (h' settings settings' inner inner' beside fits').bind
  intro u u' last last' renamed fits''
  rw [h.kind_eq]
  have keys : exact → Scope.variableKey a = Scope.variableKey b := fun is => by rw [same is]
  have around := tracks_guarded steady h (fun s s' source =>
    tracks_pure (.filter t.kind source keys renamed)) settings settings' last last' beside
    fits''.counter
  exact around.forget fun _ _ keeps => keeps.counter

/-- What an enclosed step brings into scope goes out of scope with it. -/
theorem paired_enclosed {settings settings' : Settings} {scope scope' : Scope}
    {E : Scope → Scope → Prop}
    (h : Paired P (fun after after' => after'.counter = after.counter) E (step settings scope)
      (step' settings' scope')) :
    Paired P (scope.Keeps scope') (fun _ _ => True) (enclosed step settings scope)
      (enclosed step' settings' scope') := by
  unfold enclosed
  generalize step settings scope = run at h
  generalize step' settings' scope' = run' at h
  cases h with
  | ok holds counter => exact .ok holds ⟨rfl, rfl, counter⟩
  | error e _ => exact .error e trivial

/-! ## Trees -/

/-- The trees of a list of expressions. -/
theorem Corresponds.cons {first first' : Lowering Target} {rest rest' : Lowering (List Target)}
    (h : Corresponds σ ρ names first first' (Target.Renamed exact ρ))
    (h' : Corresponds σ ρ names rest rest' (Target.AllRenamed exact ρ)) :
    Corresponds σ ρ names (do return (← first) :: (← rest)) (do return (← first') :: (← rest'))
      (Target.AllRenamed exact ρ) :=
  h.bind fun _ _ t => h'.bind fun _ _ ts => (tracks_pure (.cons t ts)).corresponds

theorem corresponds_subquery {name : String}
    {collection collection' predicate predicate' : Lowering Target}
    (admits : Scope.Admits σ ρ names assigned) (named : names name)
    (h : Corresponds σ ρ names collection collection' (Target.Renamed exact ρ))
    (h' : Corresponds (σ.hide name) (ρ.push (Scope.variableKey name) (Scope.variableKey name)) names
      predicate predicate'
      (Target.Renamed exact (ρ.push (Scope.variableKey name) (Scope.variableKey name)))) :
    Corresponds σ ρ names (enclosed do filter (← collection) name predicate)
      (enclosed do filter (← collection') name predicate') (Target.Renamed exact ρ) := by
  intro settings settings' scope scope' beside fits
  have inner : Paired (Target.Renamed exact ρ) (fun after after' => after'.counter = after.counter)
      (fun _ _ => True) ((do filter (← collection) name predicate : Lowering Target) settings scope)
      ((do filter (← collection') name predicate' : Lowering Target) settings' scope') := by
    apply (h settings settings' scope scope' beside fits).bind
    intro t t' between between' renamed fits'
    exact paired_filter admits.steady (fun _ => rfl) beside fits'.counter renamed
      (fun kind _ _ keeps => (fits'.of_keeps keeps).bind admits named kind) h'
  exact (paired_enclosed inner).forget fun _ _ keeps => fits.of_keeps keeps

end Lowering

open Lowering

section

variable {exact : Bool} {names assigned : String → Bool}

mutual

/-- In scopes that fit the substitution an expression, and the expression with others in place of
its variables, are lowered to renamed trees, or fail in the same way. -/
theorem Expr.corresponds_substitute (e : Expr) {σ : Substitution} {ρ : Naming}
    (admits : Scope.Admits σ ρ names assigned) (named : e.mentionsOnly names)
    (known : e.assignsOnly assigned) :
    Corresponds σ ρ names e.lower (e.substitute σ).lower (Target.Renamed exact ρ) := by
  match e with
  | .constant value => exact (tracks_pure (.constant _ value)).corresponds
  | .self => exact corresponds_object
  | .var name => exact corresponds_reference named
  | .path keys =>
    exact corresponds_object.bind fun _ _ h => (tracks_keyPath admits.steady keys h).corresponds
  | .pathOn operand keys =>
    rw [Expr.mentionsOnly_pathOn] at named
    rw [Expr.assignsOnly_pathOn] at known
    exact (operand.corresponds_substitute admits named known).bind fun _ _ h =>
      (tracks_keyPath admits.steady keys h).corresponds
  | .call selector args =>
    rw [Expr.mentionsOnly_call] at named
    rw [Expr.assignsOnly_call] at known
    show Corresponds σ ρ names (Expr.call selector args).lower
      (Expr.call selector (Expr.substituteAll σ args)).lower _
    unfold Expr.lower
    rw [Expr.length_substituteAll]
    apply (tracks_function selector args.length).corresponds.bind
    rintro f _ rfl
    split
    · exact Expr.corresponds_substituteIndex args admits named known
    · exact (Expr.corresponds_substituteAll args admits named known).bind fun _ _ h =>
        (tracks_call admits.steady f h).corresponds
  | .subquery collection var predicate =>
    rw [Expr.mentionsOnly_subquery, Bool.and_eq_true, Bool.and_eq_true] at named
    rw [Expr.assignsOnly_subquery, Bool.and_eq_true] at known
    exact corresponds_subquery admits named.1.1
      (collection.corresponds_substitute admits named.1.2 known.1)
      (predicate.corresponds_substitute (admits.hide var) named.2 known.2)
  | .list items =>
    rw [Expr.mentionsOnly_list] at named
    rw [Expr.assignsOnly_list] at known
    exact (Expr.corresponds_substituteAll items admits named known).bind fun _ _ h =>
      (tracks_list h).corresponds
  | .symbol symbol => exact (tracks_typeFault _).corresponds
  | .assign var value =>
    rw [Expr.mentionsOnly_assign, Bool.and_eq_true] at named
    rw [Expr.assignsOnly_assign, Bool.and_eq_true] at known
    exact (value.corresponds_substitute admits named.2 known.2).bind fun _ _ h =>
      corresponds_assign admits named.1 known.1 h

theorem Expr.corresponds_substituteIndex (args : List Expr) {σ : Substitution} {ρ : Naming}
    (admits : Scope.Admits σ ρ names assigned) (named : Expr.allMeet (.mentions names) args)
    (known : Expr.allMeet (.assigns assigned) args) :
    Corresponds σ ρ names (Expr.lowerIndex args) (Expr.lowerIndex (Expr.substituteAll σ args))
      (Target.Renamed exact ρ) := by
  match args with
  | [] | [_] => exact (tracks_typeFault _).corresponds
  | _ :: _ :: _ :: rest =>
    rw [Expr.lowerIndex_of_length (by simp), Expr.lowerIndex_of_length (by simp),
      Expr.length_substituteAll]
    exact (tracks_typeFault _).corresponds
  | [collection, place] =>
    simp only [Expr.allMeet_mentions_cons, Bool.and_eq_true] at named
    simp only [Expr.allMeet_assigns_cons, Bool.and_eq_true] at known
    have source := collection.corresponds_substitute admits named.1 known.1
    -- A word for a place is taken as such before the place is lowered.
    by_cases word : ∃ symbol, place = .symbol symbol
    · obtain ⟨symbol, rfl⟩ := word
      refine source.bind fun _ _ h => (tracks_elementOf _ _ h).corresponds.bind ?_
      rintro element _ rfl
      exact (tracks_indexBySymbol admits.steady element symbol h).corresponds
    · rw [not_exists] at word
      show Corresponds σ ρ names _ (Expr.lowerIndex [collection.substitute σ, place.substitute σ]) _
      rw [Expr.lowerIndex_of_not_symbol _ word,
        Expr.lowerIndex_of_not_symbol _ (Expr.substitute_ne_symbol admits.places word)]
      refine source.bind fun _ _ h => (tracks_elementOf _ _ h).corresponds.bind ?_
      rintro element _ rfl
      exact (place.corresponds_substitute admits named.2.1 known.2.1).bind fun _ _ h' =>
        (tracks_indexBy admits.steady element h h').corresponds

theorem Expr.corresponds_substituteAll (es : List Expr) {σ : Substitution} {ρ : Naming}
    (admits : Scope.Admits σ ρ names assigned) (named : Expr.allMeet (.mentions names) es)
    (known : Expr.allMeet (.assigns assigned) es) :
    Corresponds σ ρ names (Expr.lowerAll es) (Expr.lowerAll (Expr.substituteAll σ es))
      (Target.AllRenamed exact ρ) := by
  match es with
  | [] => exact (tracks_pure .nil).corresponds
  | e :: rest =>
    rw [Expr.allMeet_mentions_cons, Bool.and_eq_true] at named
    rw [Expr.allMeet_assigns_cons, Bool.and_eq_true] at known
    exact (e.corresponds_substitute admits named.1 known.1).cons
      (Expr.corresponds_substituteAll rest admits named.2 known.2)

/-- In scopes that fit the substitution a predicate, and the predicate with expressions in place of
its variables, are lowered to renamed trees, or fail in the same way. -/
theorem Predicate.corresponds_substitute (p : Predicate) {σ : Substitution} {ρ : Naming}
    (admits : Scope.Admits σ ρ names assigned) (named : p.mentionsOnly names)
    (known : p.assignsOnly assigned) :
    Corresponds σ ρ names p.lower (p.substitute σ).lower (Target.Renamed exact ρ) := by
  match p with
  | .constant value => exact (tracks_pure (.constant _ _)).corresponds
  | .comparison left operator right modifier options =>
    rw [Predicate.mentionsOnly_comparison, Bool.and_eq_true] at named
    rw [Predicate.assignsOnly_comparison, Bool.and_eq_true] at known
    exact (left.corresponds_substitute admits named.1 known.1).bind fun _ _ h =>
      (right.corresponds_substitute admits named.2 known.2).bind fun _ _ h' =>
        (tracks_comparison admits.steady operator modifier options h h').corresponds
  | .compound .not [part] =>
    have named : part.mentionsOnly names := by simpa using named
    have known : part.assignsOnly assigned := by simpa using known
    exact (part.corresponds_substitute admits named known).bind fun _ _ h =>
      (tracks_pure (.unary _ _ h)).corresponds
  | .compound .not [] => exact (tracks_typeFault _).corresponds
  | .compound .not (_ :: _ :: rest) =>
    show Corresponds σ ρ names _
      (typeFault (.negationArity (Predicate.substituteAll σ rest).length.succ.succ)) _
    rw [Predicate.length_substituteAll]
    exact (tracks_typeFault _).corresponds
  | .compound .and parts | .compound .or parts =>
    exact Predicate.corresponds_substituteJoined _ parts admits named known

theorem Predicate.corresponds_substituteJoined (op : BinaryOp) (ps : List Predicate)
    {σ : Substitution} {ρ : Naming} (admits : Scope.Admits σ ρ names assigned)
    (named : Predicate.allMeet (.mentions names) ps)
    (known : Predicate.allMeet (.assigns assigned) ps) :
    Corresponds σ ρ names (Predicate.lowerJoined op ps)
      (Predicate.lowerJoined op (Predicate.substituteAll σ ps)) (Target.Renamed exact ρ) := by
  match ps with
  | [] => exact (tracks_pure (.constant _ _)).corresponds
  | [part] =>
    have named : part.mentionsOnly names := by simpa using named
    have known : part.assignsOnly assigned := by simpa using known
    exact part.corresponds_substitute admits named known
  | part :: next :: rest =>
    rw [Predicate.allMeet_mentions_cons, Bool.and_eq_true] at named
    rw [Predicate.allMeet_assigns_cons, Bool.and_eq_true] at known
    exact (part.corresponds_substitute admits named.1 known.1).bind fun _ _ h =>
      (Predicate.corresponds_substituteJoined op (next :: rest) admits named.2 known.2).bind
        fun _ _ h' => (tracks_pure (.binary _ op h h')).corresponds

end

end

/-- Steps that are done from the beginning have related results, or the same error. -/
theorem Lowering.coincide_runFor {α α' : Type} {P : α → α' → Prop} {R E : Scope → Scope → Prop}
    {step : Lowering α} {step' : Lowering α'} {kind : Kind} {settings settings' : Settings}
    (h : Paired P R E (step settings (.root kind settings))
      (step' settings' (.root kind settings'))) :
    Coincide P (step.runFor kind settings) (step'.runFor kind settings') := by
  unfold runFor
  generalize step settings (.root kind settings) = run at h
  generalize step' settings' (.root kind settings') = run' at h
  cases h with
  | ok holds _ => exact .ok holds
  | error e _ => exact .error e

end PredicateLang
