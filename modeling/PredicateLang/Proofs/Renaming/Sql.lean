import PredicateLang.Proofs.Renaming.Relation
import PredicateLang.Proofs.Sql.Written

/-!
# Renamed trees are written alike

The name of a row does not get into a query, only the text that it stands for does. So a tree and
one with variables of subqueries renamed become the same query, or cannot be written for the same
reason.
-/

namespace PredicateLang

namespace Sql

variable {α β : Type} {exact : Bool} {ρ ρ' : Naming}

/-- Two names such that the same text for both makes the one naming the other. -/
def Open (ρ ρ' : Naming) (a b : String) : Prop :=
  ∀ (names names' : Fields String) (text : String), ρ.Joins names names' →
    ρ'.Joins ((a, text) :: names) ((b, text) :: names')

theorem open_push (ρ : Naming) (a b : String) : Open ρ (ρ.push a b) a b :=
  fun _ _ text h => h.push a b text

/-- A name that stands for itself does so with a text too. -/
theorem open_self {name : String} (self : ρ name name) : Open ρ ρ name name :=
  fun _ _ text h => h.self self text

/-- The steps do the same wherever names that stand for the same stand for the same texts. -/
def Echoes (ρ : Naming) (step step' : Writing α) : Prop :=
  ∀ names names' sheet, ρ.Joins names names' → step' names' sheet = step names sheet

/-! ## Rules -/

section

variable {step step' : Writing α}

theorem echoes_pure (a : α) : Echoes ρ (pure a) (pure a) := fun _ _ _ _ => rfl

theorem echoes_throw (e : Error) : Echoes ρ (throw e : Writing α) (throw e) := fun _ _ _ _ => rfl

theorem echoes_ofResult (made : Except Error α) : Echoes ρ (ofResult made) (ofResult made) := by
  cases made with
  | ok a => exact echoes_pure a
  | error e => exact echoes_throw e

theorem echoes_nextAlias : Echoes ρ nextAlias nextAlias := fun _ _ _ _ => rfl

theorem echoes_assign (name text : String) : Echoes ρ (assign name text) (assign name text) :=
  fun _ _ _ _ => rfl

theorem Echoes.bind {next next' : α → Writing β} (h : Echoes ρ step step')
    (h' : ∀ a, Echoes ρ (next a) (next' a)) : Echoes ρ (step >>= next) (step' >>= next') := by
  intro names names' sheet same
  simp only [Bind.bind, ReaderT.bind, EStateM.bind]
  rw [h names names' sheet same]
  cases step names sheet with
  | ok a between => exact h' a names names' between same
  | error e between => rfl

/-- The same is made of the results. -/
theorem Echoes.map (h : Echoes ρ step step') (f : α → β) :
    Echoes ρ (do return f (← step)) (do return f (← step')) :=
  h.bind fun _ => echoes_pure _

theorem echoes_textOf {x y : String} (join : ρ x y) : Echoes ρ (textOf x) (textOf y) := by
  intro names names' sheet same
  rw [textOf_run, textOf_run, same.same x y join]
  cases found : Fields.find? names x with
  | some text => rfl
  | none => rw [same.unbound x y join found]

theorem Echoes.withText {a b : String} (h : Echoes ρ' step step') (opens : Open ρ ρ' a b)
    (text : String) : Echoes ρ (withText a text step) (withText b text step') :=
  fun names names' sheet same => h _ _ sheet (opens names names' text same)

end

/-! ## Rows and texts -/

/-- Both forms of the trees are written alike. -/
structure Written.Echoes (ρ : Naming) (w w' : Written) : Prop where
  text : Sql.Echoes ρ w.text w'.text
  rows : Sql.Echoes ρ w.rows w'.rows

variable {w w' v v' : Written} {a b : String}

theorem echoes_ofText {text text' : Writing String} (h : Echoes ρ text text') :
    (ofText text).Echoes ρ (ofText text') :=
  ⟨h, h.bind fun _ => echoes_nextAlias.map _⟩

theorem echoes_ofRows {rows rows' : Writing Rows} (h : Echoes ρ rows rows') :
    (ofRows rows).Echoes ρ (ofRows rows') :=
  ⟨h.map _, h⟩

theorem echoes_withSubject (h : w.Echoes ρ w') (opens : Open ρ ρ' a b) (h' : v.Echoes ρ' v') :
    (withSubject w a v).Echoes ρ (withSubject w' b v') :=
  ⟨h.text.bind fun text => h'.text.withText opens text,
    h.text.bind fun text => h'.rows.withText opens text⟩

/-- A step on the rows of a source and on a body in which a name stands for the value of a row. -/
theorem echoes_rows (next : Rows → String → Writing α) (h : w.Echoes ρ w') (opens : Open ρ ρ' a b)
    (h' : v.Echoes ρ' v') (still : ∀ rows text, Echoes ρ (next rows text) (next rows text)) :
    Echoes ρ
      (do
        let rows ← w.rows
        let text ← withText a rows.value v.text
        next rows text)
      (do
        let rows ← w'.rows
        let text ← withText b rows.value v'.text
        next rows text) :=
  h.rows.bind fun rows => (h'.text.withText opens rows.value).bind fun text => still rows text

theorem echoes_quantify (quantifier : Quantifier) (h : w.Echoes ρ w') (opens : Open ρ ρ' a b)
    (h' : v.Echoes ρ' v') : Echoes ρ (quantify quantifier w a v) (quantify quantifier w' b v') := by
  refine h.rows.bind fun rows => (h'.text.withText opens rows.value).bind fun condition => ?_
  cases quantifier <;> exact echoes_pure _

theorem echoes_binary (op : BinaryOp) (leftIsNull rightIsNull : Bool) (h : w.Echoes ρ w')
    (h' : v.Echoes ρ v') :
    Echoes ρ (binary op leftIsNull rightIsNull w v) (binary op leftIsNull rightIsNull w' v') := by
  unfold binary
  split
  · exact h.text.map _
  · exact h'.text.map _
  · refine h.text.bind fun left => h'.text.bind fun right => ?_
    split <;> exact echoes_pure _

/-! ## Lists -/

/-- The trees are written alike, one by one. -/
abbrev AllEcho (ρ : Naming) (ws ws' : List Written) : Prop := List.Forall₂ (Written.Echoes ρ) ws ws'

theorem echoes_texts {ws ws' : List Written} (h : AllEcho ρ ws ws') :
    Echoes ρ (texts ws) (texts ws') := by
  induction h with
  | nil => exact echoes_pure _
  | cons first rest ih => exact first.text.bind fun _ => ih.map _

theorem echoes_list {ws ws' : List Written} (h : AllEcho ρ ws ws') :
    (list ws).Echoes ρ (list ws') := by
  refine ⟨(echoes_texts h).map _, ?_⟩
  refine echoes_nextAlias.bind fun name => ?_
  cases h with
  | nil => exact echoes_pure _
  | cons first rest => exact (echoes_texts (.cons first rest)).map _

/-! ## Calls -/

/-- Renamed trees that are written alike. -/
structure Argument.Echoes (exact : Bool) (ρ : Naming) (arg arg' : Argument) : Prop where
  tree : arg.tree.Renamed exact ρ arg'.tree
  written : arg.written.Echoes ρ arg'.written

/-- The arguments are written alike, one by one. -/
abbrev ArgumentsEcho (exact : Bool) (ρ : Naming) (args args' : List Argument) : Prop :=
  List.Forall₂ (Argument.Echoes exact ρ) args args'

variable {args args' : List Argument}

/-- There is an argument at an index of the one list if there is one of the other. -/
theorem ArgumentsEcho.getElem? (h : ArgumentsEcho exact ρ args args') (index : Nat) :
    Option.Rel (Argument.Echoes exact ρ) args[index]? args'[index]? := by
  induction h generalizing index with
  | nil => exact .none
  | cons first rest ih =>
    cases index with
    | zero => exact .some first
    | succ index => exact ih index

theorem echoes_argument (h : ArgumentsEcho exact ρ args args') (index : Nat) :
    Echoes ρ (argument args index) (argument args' index) := by
  have found := h.getElem? index
  unfold argument
  generalize args[index]? = arg at found
  generalize args'[index]? = arg' at found
  cases found with
  | none => exact echoes_throw _
  | some echoes => exact echoes.written.text

theorem stringArgument?_eq (h : ArgumentsEcho exact ρ args args') (index : Nat) :
    stringArgument? args' index = stringArgument? args index := by
  have found := h.getElem? index
  unfold stringArgument?
  generalize args[index]? = arg at found
  generalize args'[index]? = arg' at found
  cases found with
  | none => rfl
  | some echoes => exact echoes.tree.constantString?_eq

theorem echoes_apply (name : String) (h : ArgumentsEcho exact ρ args args') :
    Echoes ρ (apply name args) (apply name args') := by
  have written : AllEcho ρ (args.map Argument.written) (args'.map Argument.written) := by
    induction h with
    | nil => exact .nil
    | cons first rest ih => exact .cons first.written ih
  exact (echoes_texts written).map _

/-- A test of a subject against a pattern, which is written into the test if it is a constant. -/
theorem echoes_pattern {constant : String → String → String}
    {computed computed' : String → Writing String} (h : ArgumentsEcho exact ρ args args')
    (h' : ∀ subject, Echoes ρ (computed subject) (computed' subject)) :
    Echoes ρ
      (do
        let subject ← argument args 0
        match stringArgument? args 1 with
        | some pattern => return constant subject pattern
        | none => computed subject)
      (do
        let subject ← argument args' 0
        match stringArgument? args' 1 with
        | some pattern => return constant subject pattern
        | none => computed' subject) := by
  refine (echoes_argument h 0).bind fun subject => ?_
  rw [stringArgument?_eq h]
  cases stringArgument? args 1 with
  | some pattern => exact echoes_pure _
  | none => exact h' subject

theorem searchesString_eq {t t' s s' : Target} (h : t.Renamed exact ρ t')
    (h' : s.Renamed exact ρ s') : searchesString t' s' = searchesString t s := by
  unfold searchesString
  rw [h.kind_eq, h'.constantString?_eq]

theorem echoes_searchString {arg arg' other other' : Argument} (h : arg.Echoes exact ρ arg')
    (h' : other.Echoes exact ρ other') :
    Echoes ρ (searchString arg other) (searchString arg' other') := by
  refine h.written.text.bind fun subject => ?_
  rw [h'.tree.constantString?_eq]
  cases other.tree.constantString? with
  | some piece => exact echoes_pure _
  | none => exact h'.written.text.map _

/-- A search in what is no list. -/
theorem echoes_search {arg arg' other other' : Argument} (h : arg.Echoes exact ρ arg')
    (h' : other.Echoes exact ρ other') :
    Echoes ρ
      (if searchesString arg.tree other.tree then searchString arg other else searchRows arg other)
      (if searchesString arg'.tree other'.tree then searchString arg' other'
        else searchRows arg' other') := by
  rw [searchesString_eq h.tree h'.tree]
  split
  · exact echoes_searchString h h'
  · exact h'.written.text.bind fun _ => h.written.rows.map _

theorem echoes_contains (h : ArgumentsEcho exact ρ args args') :
    Echoes ρ (contains args) (contains args') := by
  cases h with
  | nil => exact echoes_throw _
  | cons first rest =>
    cases rest with
    | nil => exact echoes_throw _
    | cons second rest =>
      cases rest with
      | cons => exact echoes_throw _
      | nil =>
        rename_i arg arg' other other'
        obtain ⟨tree, written⟩ := arg
        obtain ⟨tree', written'⟩ := arg'
        have both := first
        obtain ⟨renamed, echoes⟩ := both
        dsimp only at renamed
        -- Of the trees to search in, lists alone are written in a way of their own.
        cases renamed with
        | list => exact second.written.text.bind fun _ => echoes.text.map _
        | _ => exact echoes_search first second

theorem echoes_call (builtin : Builtin) (h : ArgumentsEcho exact ρ args args') :
    Echoes ρ (call builtin args) (call builtin args') := by
  cases builtin with
  | random | now => exact echoes_pure _
  | randomBelow => exact (echoes_argument h 0).map _
  | isMatch =>
    exact (echoes_argument h 0).bind fun _ => (echoes_argument h 1).map _
  | like => exact echoes_pattern h fun _ => echoes_throw _
  | beginsWith | endsWith => exact echoes_pattern h fun _ => (echoes_argument h 1).map _
  | contains => exact echoes_contains h
  | dateAdd unit | backendDateAdd unit =>
    exact (echoes_argument h 0).bind fun _ => (echoes_argument h 1).map _
  | castNumber | castString | castDate => exact echoes_throw _
  | _ => exact echoes_apply _ h

end Sql

/-! ## Trees -/

open Sql

namespace Target

variable {exact : Bool}

mutual

/-- Renamed trees are written alike. -/
theorem Renamed.echoes {ρ : Naming} {t t' : Target} (h : Renamed exact ρ t t') :
    t.written.Echoes ρ t'.written := by
  cases h with
  | constant _ value => exact echoes_ofText (echoes_ofResult _)
  | parameter _ join => exact echoes_ofText (echoes_textOf join)
  | property _ name h => exact echoes_ofText (h.echoes.text.map _)
  | guard _ h self h' | bind _ h self h' =>
    exact echoes_withSubject h.echoes (Sql.open_self self) h'.echoes
  | map _ h self h' =>
    exact echoes_ofRows
      (echoes_rows _ h.echoes (Sql.open_self self) h'.echoes fun _ _ => echoes_pure _)
  | filter _ h _ h' =>
    exact echoes_ofRows
      (echoes_rows _ h.echoes (Sql.open_push _ _ _) h'.echoes fun _ _ => echoes_pure _)
  | quantify _ quantifier h self h' =>
    exact echoes_ofText (echoes_quantify quantifier h.echoes (Sql.open_self self) h'.echoes)
  | count _ h => exact echoes_ofText (h.echoes.rows.map _)
  | reduce _ reduction h => exact echoes_ofText (h.echoes.rows.map _)
  | elementAt _ h h' =>
    exact echoes_ofText (h'.echoes.text.bind fun _ => h.echoes.rows.map _)
  | list _ h => exact echoes_list h.echo
  | binary _ op h h' =>
    refine echoes_ofText ?_
    rw [h.isNullConstant_eq, h'.isNullConstant_eq]
    exact echoes_binary op _ _ h.echoes h'.echoes
  | unary _ op h => exact echoes_ofText (h.echoes.text.map _)
  | call _ builtin h => exact echoes_ofText (echoes_call builtin h.arguments_echo)
  | convert kind h =>
    exact echoes_ofText (h.echoes.text.bind fun _ => (echoes_ofResult _).map _)
  | assign _ name h =>
    exact echoes_ofText (h.echoes.text.bind fun text => (echoes_assign name text).bind
      fun _ => echoes_pure _)

theorem AllRenamed.echo {ρ : Naming} {ts ts' : List Target} (h : AllRenamed exact ρ ts ts') :
    AllEcho ρ (writtenAll ts) (writtenAll ts') := by
  cases h with
  | nil => exact .nil
  | cons first rest => exact .cons first.echoes rest.echo

theorem AllRenamed.arguments_echo {ρ : Naming} {ts ts' : List Target}
    (h : AllRenamed exact ρ ts ts') :
    ArgumentsEcho exact ρ (arguments ts) (arguments ts') := by
  cases h with
  | nil => exact .nil
  | cons first rest => exact .cons ⟨first, first.echoes⟩ rest.arguments_echo

end

/-- Trees in which only variables of subqueries have been renamed become the same query, or cannot
be written for the same reason. -/
theorem Renamed.sql_eq {t t' : Target} (h : Renamed exact Eq t t') : t'.sql = t.sql := by
  unfold sql
  rw [h.echoes.text _ _ ⟨[], 0⟩ (Naming.joins_eq [(Scope.objectName, "t0")])]

end Target

end PredicateLang
