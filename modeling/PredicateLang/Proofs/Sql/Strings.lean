import PredicateLang.Lowering
import PredicateLang.Proofs.Result
import PredicateLang.Proofs.Sql.Reading
import PredicateLang.Proofs.Sql.Written

/-!
# What strings do to a query

Whatever a string contains, it does not get out of the literal that it is written in: a tree and one
with other strings in it become queries of the same tokens, but for the contents of literals. This is
so as long as no comment begins in the query, and a comment begins only where a minus sign is put in
front of another one (`Target.isCareful`).

`Sql.Twins careful P step step'` says of two steps of writing, where names stand for texts that are
read alike, that they fail both or give something related by `P`.
-/

namespace PredicateLang

/-! ## Other strings -/

mutual

/-- The value with empty strings in place of its strings. -/
def Value.blank : Value → Value
  | .string _ => .string ""
  | .array items => .array (Value.blankAll items)
  | v => v

def Value.blankAll : List Value → List Value
  | [] => []
  | v :: rest => v.blank :: Value.blankAll rest

end

namespace Target

mutual

/-- The tree with empty strings in place of its strings. -/
def blank : Target → Target
  | constant kind value => constant kind value.blank
  | parameter kind name => parameter kind name
  | property kind t name => property kind t.blank name
  | guard kind s name t => guard kind s.blank name t.blank
  | map kind s name t => map kind s.blank name t.blank
  | filter kind s name t => filter kind s.blank name t.blank
  | quantify kind quantifier s name t => quantify kind quantifier s.blank name t.blank
  | count kind s => count kind s.blank
  | reduce kind reduction s => reduce kind reduction s.blank
  | elementAt kind s t => elementAt kind s.blank t.blank
  | list kind ts => list kind (blankAll ts)
  | binary kind op s t => binary kind op s.blank t.blank
  | unary kind op t => unary kind op t.blank
  | call kind builtin ts => call kind builtin (blankAll ts)
  | convert kind t => convert kind t.blank
  | assign kind name t => assign kind name t.blank
  | bind kind s name t => bind kind s.blank name t.blank

def blankAll : List Target → List Target
  | [] => []
  | t :: ts => t.blank :: blankAll ts

end

/-- May the text of the tree begin with a minus sign? -/
def isLed : Target → Bool
  | constant _ value =>
    match Sql.literal value with
    | .ok text => Sql.lead text = some true
    | .error _ => false
  | property _ t _ | assign _ _ t | guard _ _ _ t | bind _ _ _ t => t.isLed
  | unary _ op _ => op = .negate
  | _ => false

mutual

/-- Is no minus sign put in front of another one? Neither is one in the text of a name, which may be
negated later. -/
def isCareful : Target → Bool
  | constant .. | parameter .. => true
  | property _ t _ | count _ t | reduce _ _ t | convert _ t => t.isCareful
  | unary _ op t => t.isCareful && !(op = .negate && t.isLed)
  | assign _ _ t => t.isCareful && !t.isLed
  | guard _ s _ t | bind _ s _ t => s.isCareful && t.isCareful && !s.isLed
  | map _ s _ t => s.isCareful && t.isCareful && !t.isLed
  | filter _ s _ t | quantify _ _ s _ t | elementAt _ s t | binary _ _ s t =>
    s.isCareful && t.isCareful
  | list _ ts | call _ _ ts => allCareful ts

def allCareful : List Target → Bool
  | [] => true
  | t :: ts => t.isCareful && allCareful ts

end

theorem kind_blank (t : Target) : t.blank.kind = t.kind := by
  cases t <;> rfl

theorem constantString?_blank (t : Target) :
    t.blank.constantString? = t.constantString?.map fun _ => "" := by
  cases t with
  | constant kind value => cases value <;> rfl
  | _ => rfl

theorem isNullConstant_blank (t : Target) : t.blank.isNullConstant = t.isNullConstant := by
  cases t with
  | constant kind value => cases value <;> rfl
  | _ => rfl

end Target

namespace Sql

variable {α β α' β' : Type} {careful : Prop}

/-! ## Literals -/

mutual

/-- A literal and one of other strings are read alike. -/
theorem agrees_literal (v : Value) :
    Agrees (Alike careful) (literal v) (literal v.blank) := by
  match v with
  | .null => exact .ok (reads_refl (by decide) rfl)
  | .boolean b => cases b <;> exact .ok (reads_refl (by decide) rfl)
  | .integer n => exact .ok (alike_numeral (isNumeral_integerText n.val))
  | .float x => exact .ok (alike_numeral (isNumeral_floatLiteral x.toFloat))
  | .double x => exact .ok (alike_numeral (isNumeral_floatLiteral x))
  | .string s => exact .ok (alike_quote _ _)
  | .guid g => exact .ok (alike_quote _ _)
  | .date t => exact .ok ((ahead_of_opens (by decide)).text (alike_quote _ _))
  | .array items =>
    unfold Value.blank literal
    refine (agrees_literals items).bind fun texts texts' alike => .ok ?_
    exact ((ahead_of_opens (by decide)).text (alike_join (by decide) alike)).close (by decide)
  | .object _ => exact .error _ _

theorem agrees_literals (vs : List Value) :
    Agrees (List.Forall₂ (Alike careful)) (literals vs) (literals (Value.blankAll vs)) := by
  match vs with
  | [] => exact .ok .nil
  | v :: rest =>
    unfold Value.blankAll literals
    exact (agrees_literal v).bind fun _ _ first => (agrees_literals rest).bind fun _ _ all =>
      .ok (.cons first all)

end

/-! ## Steps of writing -/

/-- The texts are read alike, and if they are careful then no minus sign is in front. -/
structure Plainly (careful : Prop) (s t : String) : Prop where
  alike : Alike careful s t
  unled : careful → lead s ≠ some true

/-- The names stand for texts that are read alike. -/
abbrev NamesAlike (careful : Prop) (names names' : List (String × String)) : Prop :=
  List.Forall₂ (fun entry entry' => entry'.1 = entry.1 ∧ Plainly careful entry.2 entry'.2) names names'

/-- The variables stand for texts that are read alike, and there are as many aliases. -/
structure SheetsAlike (careful : Prop) (sheet sheet' : Sheet) : Prop where
  assigned : ∀ name,
    Option.Rel (Plainly careful) (sheet.assigned.find? name) (sheet'.assigned.find? name)
  aliases : sheet'.aliases = sheet.aliases

/-- Both steps have failed, or given something related. -/
inductive Results (careful : Prop) (P : α → α' → Prop) :
    EStateM.Result Error Sheet α → EStateM.Result Error Sheet α' → Prop where
  | ok {a : α} {a' : α'} {after after' : Sheet} (holds : P a a')
    (sheets : SheetsAlike careful after after') : Results careful P (.ok a after) (.ok a' after')
  | error (e e' : Error) (after after' : Sheet) : Results careful P (.error e after) (.error e' after')

/-- Where names stand for texts that are read alike, both steps fail or give something related. -/
def Twins (careful : Prop) (P : α → α' → Prop) (step : Writing α) (step' : Writing α') : Prop :=
  ∀ names names' sheet sheet', NamesAlike careful names names' → SheetsAlike careful sheet sheet' →
    Results careful P (step names sheet) (step' names' sheet')

section Rules

variable {P : α → α' → Prop} {Q : β → β' → Prop} {step : Writing α} {step' : Writing α'}

theorem twins_pure {a : α} {a' : α'} (h : P a a') : Twins careful P (pure a) (pure a') :=
  fun _ _ _ _ _ sheets => .ok h sheets

theorem twins_throw (e e' : Error) :
    Twins careful P (throw e : Writing α) (throw e' : Writing α') :=
  fun _ _ sheet sheet' _ _ => .error e e' sheet sheet'

theorem twins_ofResult {made : Except Error α} {made' : Except Error α'} (h : Agrees P made made') :
    Twins careful P (ofResult made) (ofResult made') := by
  cases h with
  | ok holds => exact twins_pure holds
  | error e e' => exact twins_throw e e'

theorem Twins.bind {next : α → Writing β} {next' : α' → Writing β'} (h : Twins careful P step step')
    (h' : ∀ a a', P a a' → Twins careful Q (next a) (next' a')) :
    Twins careful Q (step >>= next) (step' >>= next') := by
  intro names names' sheet sheet' alike sheets
  have first := h names names' sheet sheet' alike sheets
  simp only [Bind.bind, ReaderT.bind, EStateM.bind]
  generalize step names sheet = result at first
  generalize step' names' sheet' = result' at first
  cases first with
  | ok holds sheets => exact h' _ _ holds _ _ _ _ alike sheets
  | error e e' after after' => exact .error e e' after after'

/-- What is made of related results is related. -/
theorem Twins.map {f : α → β} {f' : α' → β'} (h : Twins careful P step step')
    (h' : ∀ a a', P a a' → Q (f a) (f' a')) :
    Twins careful Q (do return f (← step)) (do return f' (← step')) :=
  h.bind fun _ _ holds => twins_pure (h' _ _ holds)

theorem Twins.imp {P' : α → α' → Prop} (h : Twins careful P step step')
    (h' : ∀ a a', P a a' → P' a a') : Twins careful P' step step' := by
  intro names names' sheet sheet' alike sheets
  have first := h names names' sheet sheet' alike sheets
  generalize step names sheet = result at first
  generalize step' names' sheet' = result' at first
  cases first with
  | ok holds sheets => exact .ok (h' _ _ holds) sheets
  | error e e' after after' => exact .error e e' after after'

theorem twins_textOf (name : String) :
    Twins careful (Plainly careful) (textOf name) (textOf name) := by
  intro names names' sheet sheet' alike sheets
  rw [textOf_run, textOf_run]
  have found : Option.Rel (Plainly careful) (Fields.find? names name) (Fields.find? names' name) := by
    induction alike with
    | nil => exact .none
    | @cons entry entry' _ _ first rest ih =>
      obtain ⟨n, text⟩ := entry
      obtain ⟨n', text'⟩ := entry'
      obtain ⟨rfl, plain⟩ := first
      rw [Fields.find?, Fields.find?]
      split
      · exact .some plain
      · exact ih
  -- Only where no name in scope is found the assigned variables matter.
  have stored := sheets.assigned name
  generalize Fields.find? names name = row at found
  generalize Fields.find? names' name = row' at found
  cases found with
  | some plain => exact .ok plain sheets
  | none =>
    generalize sheet.assigned.find? name = kept at stored
    generalize sheet'.assigned.find? name = kept' at stored
    cases stored with
    | some plain => exact .ok plain sheets
    | none => exact .error _ _ _ _

theorem Twins.withText {text text' : String} (h : Twins careful P step step') (name : String)
    (plain : Plainly careful text text') :
    Twins careful P (withText name text step) (withText name text' step') :=
  fun _ _ sheet sheet' alike sheets => h _ _ sheet sheet' (.cons ⟨rfl, plain⟩ alike) sheets

theorem plainly_alias (n : Nat) : Plainly careful ("t" ++ toString n) ("t" ++ toString n) :=
  ⟨alike_of_runs rfl (runs_alias n) (runs_alias n) rfl rfl, fun _ => by simp [lead]⟩

theorem twins_nextAlias :
    Twins careful (fun name name' => name' = name ∧ Plainly careful name name) nextAlias nextAlias := by
  intro names names' sheet sheet' _ sheets
  show Results _ _ (.ok ("t" ++ toString (sheet.aliases + 1)) _)
    (.ok ("t" ++ toString (sheet'.aliases + 1)) _)
  rw [sheets.aliases]
  exact .ok ⟨rfl, plainly_alias _⟩ ⟨sheets.assigned, rfl⟩

theorem twins_assign (name : String) {text text' : String} (plain : Plainly careful text text') :
    Twins careful (fun _ _ => True) (assign name text) (assign name text') := by
  intro names names' sheet sheet' _ sheets
  refine .ok trivial ⟨fun other => ?_, sheets.aliases⟩
  by_cases same : name = other
  · subst same
    dsimp only
    rw [Fields.find?_insert_self, Fields.find?_insert_self]
    exact .some plain
  · dsimp only
    rw [Fields.find?_insert_of_ne _ _ same, Fields.find?_insert_of_ne _ _ same]
    exact sheets.assigned other

end Rules

/-! ## Rows and texts -/

/-- The texts are read alike, and if they are careful then there is a minus sign in front only of the
text of a tree that may begin with one. -/
structure Spoken (careful : Prop) (led : Bool) (s t : String) : Prop where
  alike : Alike careful s t
  unled : careful → led = false → lead s ≠ some true

/-- The rows are the same but for texts that are read alike. -/
structure RowsAlike (careful : Prop) (rows rows' : Rows) : Prop where
  origin : Alike careful rows.origin rows'.origin
  value : Plainly careful rows.value rows'.value
  conditions : List.Forall₂ (Alike careful) rows.conditions rows'.conditions

/-- Both forms of the trees are read alike. -/
structure Written.Twins (careful : Prop) (led : Bool) (w w' : Written) : Prop where
  text : Sql.Twins careful (Spoken careful led) w.text w'.text
  rows : Sql.Twins careful (RowsAlike careful) w.rows w'.rows

section

variable {led : Bool} {s t f : String}

theorem unled_append (h : lead s ≠ some true) (h' : lead t ≠ some true) :
    lead (s ++ t) ≠ some true := by
  rw [lead_append]
  cases first : lead s with
  | none => exact h'
  | some minus =>
    rw [first] at h
    exact h

theorem Plainly.spoken (h : Plainly careful s t) : Spoken careful led s t :=
  ⟨h.alike, fun careful _ => h.unled careful⟩

theorem Spoken.plainly (h : Spoken careful led s t) (unled : careful → led = false) :
    Plainly careful s t :=
  ⟨h.alike, fun careful => h.unled careful (unled careful)⟩

/-! ### Operands -/

/-- Is what comes behind the text read separately, and no minus sign in front? -/
def begins (f : String) : Bool := opens f && decide (lead f = some false)

variable {before between after s' t' : String}

/-- Texts that begin with the same fixed one. -/
theorem plainly_begun (h : begins f) (h' : Alike careful s t) :
    Plainly careful (f ++ s) (f ++ t) := by
  rw [begins, Bool.and_eq_true, decide_eq_true_eq] at h
  refine ⟨(ahead_of_opens h.1).text h', fun _ => ?_⟩
  rw [lead_append, h.2]
  nofun

theorem plainly_operand (h : begins before) (h' : closes after) (alike : Alike careful s t) :
    Plainly careful (before ++ s ++ after) (before ++ t ++ after) := by
  rw [String.append_assoc, String.append_assoc]
  exact plainly_begun h (alike.close h')

theorem plainly_operands (h : begins before) (h' : separates between) (h'' : closes after)
    (alike : Alike careful s t) (alike' : Alike careful s' t') :
    Plainly careful (before ++ s ++ between ++ s' ++ after)
      (before ++ t ++ between ++ t' ++ after) := by
  have assoc (s s' : String) :
      before ++ s ++ between ++ s' ++ after = before ++ (s ++ between ++ s') ++ after := by
    simp only [String.append_assoc]
  rw [assoc, assoc]
  exact plainly_operand h h'' ((alike.then h').text alike')

end

section

variable {led led' : Bool} {rows rows' : Rows} {w w' v v' : Written} {name : String}

theorem twins_table {text text' : Writing String} (h : Twins careful (Alike careful) text text') :
    Twins careful (RowsAlike careful) (table text) (table text') := by
  refine h.bind fun s t alike => twins_nextAlias.map fun name name' named => ?_
  obtain ⟨rfl, plain⟩ := named
  exact ⟨(alike.then (by decide)).text plain.alike, plain, .nil⟩

theorem twins_ofText {text text' : Writing String}
    (h : Twins careful (Spoken careful led) text text') :
    (ofText text).Twins careful led (ofText text') :=
  ⟨h, twins_table (h.imp fun _ _ spoken => spoken.alike)⟩

theorem RowsAlike.select (h : RowsAlike careful rows rows') {what what' : String}
    (alike : Alike careful what what') :
    Alike careful (rows.select what) (rows'.select what') := by
  have source : Alike careful ("SELECT " ++ what ++ " FROM " ++ rows.origin)
      ("SELECT " ++ what' ++ " FROM " ++ rows'.origin) :=
    (((ahead_of_opens (by decide)).text alike).then (by decide)).text h.origin
  have conditions := h.conditions
  unfold Rows.select
  generalize rows.conditions = cs at conditions
  generalize rows'.conditions = cs' at conditions
  cases conditions with
  | nil => simpa using source
  | cons first rest =>
    have joined := alike_join (by decide : separates " AND ") (List.Forall₂.cons first rest)
    have all := (source.then (by decide : separates " WHERE ")).text joined
    simpa only [List.isEmpty_cons, Bool.false_eq_true, if_false, String.append_assoc] using all

theorem RowsAlike.restrict (h : RowsAlike careful rows rows') {condition condition' : String}
    (alike : Alike careful condition condition') :
    RowsAlike careful (rows.restrict condition) (rows'.restrict condition') :=
  ⟨h.origin, h.value, List.rel_append h.conditions (.cons alike .nil)⟩

theorem RowsAlike.selected (h : RowsAlike careful rows rows') {what what' : String}
    (alike : Alike careful what what') :
    Plainly careful (rows.selected what) (rows'.selected what') :=
  plainly_operand (by decide) (by decide) (h.select alike)

theorem twins_ofRows {rows rows' : Writing Rows} (h : Twins careful (RowsAlike careful) rows rows') :
    (ofRows rows).Twins careful led (ofRows rows') :=
  ⟨h.map fun _ _ alike => (alike.selected alike.value.alike).spoken, h⟩

theorem twins_withSubject (h : w.Twins careful led w') (unled : careful → led = false)
    (h' : v.Twins careful led' v') :
    (withSubject w name v).Twins careful led' (withSubject w' name v') :=
  ⟨h.text.bind fun _ _ spoken => h'.text.withText name (spoken.plainly unled),
    h.text.bind fun _ _ spoken => h'.rows.withText name (spoken.plainly unled)⟩

/-- A step on the rows of a source and on a body in which a name stands for the value of a row. -/
theorem twins_rows {P : α → α' → Prop} {next : Rows → String → Writing α}
    {next' : Rows → String → Writing α'} (h : w.Twins careful led w') (h' : v.Twins careful led' v')
    (h'' : ∀ rows rows' text text', RowsAlike careful rows rows' → Spoken careful led' text text' →
      Twins careful P (next rows text) (next' rows' text')) :
    Twins careful P
      (do
        let rows ← w.rows
        let text ← withText name rows.value v.text
        next rows text)
      (do
        let rows ← w'.rows
        let text ← withText name rows.value v'.text
        next' rows text) :=
  h.rows.bind fun _ _ alike => (h'.text.withText name alike.value).bind fun _ _ spoken =>
    h'' _ _ _ _ alike spoken

theorem twins_mapRows (h : w.Twins careful led w') (h' : v.Twins careful led' v')
    (unled : careful → led' = false) :
    Twins careful (RowsAlike careful) (mapRows w name v) (mapRows w' name v') :=
  twins_rows h h' fun _ _ _ _ alike spoken =>
    twins_pure ⟨alike.origin, spoken.plainly unled, alike.conditions⟩

theorem twins_filterRows (h : w.Twins careful led w') (h' : v.Twins careful led' v') :
    Twins careful (RowsAlike careful) (filterRows w name v) (filterRows w' name v') :=
  twins_rows h h' fun _ _ _ _ alike spoken => twins_pure (alike.restrict spoken.alike)

theorem twins_quantify (quantifier : Quantifier) (h : w.Twins careful led w')
    (h' : v.Twins careful led' v') :
    Twins careful (Plainly careful) (quantify quantifier w name v)
      (quantify quantifier w' name v') := by
  have one : Alike careful "1" "1" := reads_refl (by decide) rfl
  refine twins_rows h h' fun rows rows' condition condition' alike spoken => ?_
  cases quantifier with
  | any =>
    have selected := (alike.restrict spoken.alike).selected one
    exact twins_pure (plainly_begun (by decide) selected.alike)
  | all =>
    have negated : Alike careful ("NOT " ++ condition) ("NOT " ++ condition') :=
      (ahead_of_opens (by decide)).text spoken.alike
    have selected := (alike.restrict negated).selected one
    exact twins_pure (plainly_begun (by decide) selected.alike)

/-! ## Lists -/

/-- The trees are read alike, one by one. -/
abbrev AllTwins (careful : Prop) (ws ws' : List Written) : Prop :=
  List.Forall₂ (fun w w' => ∃ led, w.Twins careful led w') ws ws'

variable {ws ws' : List Written}

theorem twins_texts (h : AllTwins careful ws ws') :
    Twins careful (List.Forall₂ (Alike careful)) (texts ws) (texts ws') := by
  induction h with
  | nil => exact twins_pure .nil
  | cons first rest ih =>
    obtain ⟨_, twins⟩ := first
    exact twins.text.bind fun _ _ spoken => ih.map fun _ _ all => .cons spoken.alike all

theorem twins_listRows (h : AllTwins careful ws ws') :
    Twins careful (RowsAlike careful) (listRows ws) (listRows ws') := by
  refine twins_nextAlias.bind fun name name' named => ?_
  obtain ⟨rfl, plain⟩ := named
  have value : Plainly careful (name' ++ ".value") (name' ++ ".value") :=
    ⟨plain.alike.close (by decide), fun careful => unled_append (plain.unled careful) (by decide)⟩
  cases h with
  | nil =>
    exact twins_pure ⟨(ahead_of_opens (by decide)).text plain.alike, value, .nil⟩
  | cons first rest =>
    refine (twins_texts (.cons first rest)).map fun items items' all => ⟨?_, value, .nil⟩
    have item (s t : String) (alike : Alike careful s t) :
        Alike careful ("(" ++ s ++ ")") ("(" ++ t ++ ")") :=
      (plainly_operand (by decide) (by decide) alike).alike
    have rows : List.Forall₂ (Alike careful) (items.map fun text => "(" ++ text ++ ")")
        (items'.map fun text => "(" ++ text ++ ")") := List.rel_map item all
    have joined := alike_join (by decide : separates ", ") rows
    exact (plainly_operands (by decide) (by decide) (by decide) joined plain.alike).alike

theorem twins_list (h : AllTwins careful ws ws') :
    (list ws).Twins careful false (list ws') :=
  ⟨(twins_texts h).map fun _ _ all =>
    (plainly_operand (by decide) (by decide) (alike_join (by decide) all)).spoken,
    twins_listRows h⟩

/-! ## Operations -/

theorem separates_signOf (op : BinaryOp) : separates (" " ++ signOf op ++ " ") := by
  cases op <;> decide

theorem closes_nullTest {op : BinaryOp} {test : String} (h : nullTest? op = some test) :
    closes (" " ++ test ++ ")") := by
  cases op with
  | equal | notEqual =>
    cases h
    decide
  | _ => cases h

theorem twins_binary (op : BinaryOp) (leftIsNull rightIsNull : Bool) (h : w.Twins careful led w')
    (h' : v.Twins careful led' v') :
    Twins careful (Plainly careful) (binary op leftIsNull rightIsNull w v)
      (binary op leftIsNull rightIsNull w' v') := by
  have tested {test : String} (is : nullTest? op = some test) {s t : String}
      (alike : Alike careful s t) :
      Plainly careful ("(" ++ s ++ " " ++ test ++ ")") ("(" ++ t ++ " " ++ test ++ ")") := by
    have whole := plainly_operand (by decide : begins "(") (closes_nullTest is) alike
    simpa only [String.append_assoc] using whole
  unfold binary
  split
  · exact h.text.map fun _ _ spoken => tested ‹_› spoken.alike
  · exact h'.text.map fun _ _ spoken => tested ‹_› spoken.alike
  · refine h.text.bind fun left left' first => h'.text.bind fun right right' second => ?_
    split
    · exact twins_pure
        (plainly_operands (by decide) (by decide) (by decide) first.alike second.alike)
    · have whole := plainly_operands (by decide : begins "(") (separates_signOf op)
        (by decide : closes ")") first.alike second.alike
      refine twins_pure ?_
      simpa only [String.append_assoc] using whole

/-- What a sign is put in front of. -/
theorem spoken_unary (op : UnaryOp) {s t : String} (h : Spoken careful led s t)
    (single : careful → op = .negate → led = false) :
    Spoken careful (op = .negate) (signBefore op ++ s) (signBefore op ++ t) := by
  cases op with
  | not | onesComplement => exact (plainly_begun (by decide) h.alike).spoken
  | negate =>
    exact ⟨h.alike.negated fun careful => h.unled careful (single careful rfl), fun _ => nofun⟩

theorem closes_typeOf {kind : Kind} {type : String} (h : typeOf kind = .ok type) :
    closes (" AS " ++ type ++ ")") := by
  unfold typeOf at h
  split at h <;> cases h <;> decide

end

/-! ## Calls -/

/-- An argument and one of other strings, which are read alike. -/
structure Argument.Twins (careful : Prop) (arg arg' : Argument) : Prop where
  tree : arg'.tree = arg.tree.blank
  written : ∃ led, arg.written.Twins careful led arg'.written

/-- The arguments are read alike, one by one. -/
abbrev ArgumentsTwin (careful : Prop) (args args' : List Argument) : Prop :=
  List.Forall₂ (Argument.Twins careful) args args'

section

variable {args args' : List Argument} {arg arg' other other' : Argument}

theorem Argument.Twins.text (h : arg.Twins careful arg') :
    Sql.Twins careful (Alike careful) arg.written.text arg'.written.text := by
  obtain ⟨_, twins⟩ := h.written
  exact twins.text.imp fun _ _ spoken => spoken.alike

theorem Argument.Twins.rows (h : arg.Twins careful arg') :
    Sql.Twins careful (RowsAlike careful) arg.written.rows arg'.written.rows := by
  obtain ⟨_, twins⟩ := h.written
  exact twins.rows

theorem Argument.Twins.constantString? (h : arg.Twins careful arg') :
    arg'.tree.constantString? = arg.tree.constantString?.map fun _ => "" := by
  rw [h.tree, Target.constantString?_blank]

/-- There is an argument at an index of the one list if there is one of the other. -/
theorem ArgumentsTwin.getElem? (h : ArgumentsTwin careful args args') (index : Nat) :
    Option.Rel (Argument.Twins careful) args[index]? args'[index]? := by
  induction h generalizing index with
  | nil => exact .none
  | cons first rest ih =>
    cases index with
    | zero => exact .some first
    | succ index => exact ih index

theorem twins_argument (h : ArgumentsTwin careful args args') (index : Nat) :
    Twins careful (Alike careful) (argument args index) (argument args' index) := by
  have found := h.getElem? index
  unfold argument
  generalize args[index]? = arg at found
  generalize args'[index]? = arg' at found
  cases found with
  | none => exact twins_throw _ _
  | some twins => exact twins.text

theorem stringArgument?_blank (h : ArgumentsTwin careful args args') (index : Nat) :
    stringArgument? args' index = (stringArgument? args index).map fun _ => "" := by
  have found := h.getElem? index
  unfold stringArgument?
  generalize args[index]? = arg at found
  generalize args'[index]? = arg' at found
  cases found with
  | none => rfl
  | some twins => exact twins.constantString?

theorem twins_apply {name : String} (begins : begins (name ++ "("))
    (h : ArgumentsTwin careful args args') :
    Twins careful (Plainly careful) (apply name args) (apply name args') := by
  have written : AllTwins careful (args.map Argument.written) (args'.map Argument.written) :=
    List.rel_map (fun _ _ (twins : Argument.Twins careful _ _) => twins.written) h
  exact (twins_texts written).map fun _ _ all =>
    plainly_operand begins (by decide) (alike_join (by decide) all)

/-- The pattern that a subject is tested against is a literal. -/
theorem plainly_like {subject subject' : String} (h : Alike careful subject subject')
    (pattern pattern' : List Char) :
    Plainly careful (like subject pattern) (like subject' pattern') :=
  plainly_operands (by decide) (by decide) (by decide) h (alike_quote pattern pattern')

/-- A test of a subject against a pattern, which is written into the test if it is a constant. -/
theorem twins_pattern {pattern : String → List Char} {computed computed' : String → Writing String}
    (h : ArgumentsTwin careful args args')
    (h' : ∀ subject subject', Alike careful subject subject' →
      Twins careful (Plainly careful) (computed subject) (computed' subject')) :
    Twins careful (Plainly careful)
      (do
        let subject ← argument args 0
        match stringArgument? args 1 with
        | some text => return like subject (pattern text)
        | none => computed subject)
      (do
        let subject ← argument args' 0
        match stringArgument? args' 1 with
        | some text => return like subject (pattern text)
        | none => computed' subject) := by
  refine (twins_argument h 0).bind fun subject subject' alike => ?_
  rw [stringArgument?_blank h]
  cases stringArgument? args 1 with
  | some text => exact twins_pure (plainly_like alike _ _)
  | none => exact h' subject subject' alike

/-- A step on the texts of the first two arguments. -/
theorem twins_pair {next : String → String → String} (h : ArgumentsTwin careful args args')
    (h' : ∀ s t s' t', Alike careful s t → Alike careful s' t' →
      Plainly careful (next s s') (next t t')) :
    Twins careful (Plainly careful)
      (do
        let first ← argument args 0
        let second ← argument args 1
        return next first second)
      (do
        let first ← argument args' 0
        let second ← argument args' 1
        return next first second) :=
  (twins_argument h 0).bind fun _ _ first => (twins_argument h 1).map fun _ _ second =>
    h' _ _ _ _ first second

theorem searchesString_blank (h : arg.Twins careful arg') (h' : other.Twins careful other') :
    searchesString arg'.tree other'.tree = searchesString arg.tree other.tree := by
  unfold searchesString
  rw [h'.constantString?, h.tree, Target.kind_blank, Option.isSome_map]

theorem twins_searchString (h : arg.Twins careful arg') (h' : other.Twins careful other') :
    Twins careful (Plainly careful) (searchString arg other) (searchString arg' other') := by
  refine h.text.bind fun subject subject' alike => ?_
  rw [h'.constantString?]
  cases other.tree.constantString? with
  | some piece => exact twins_pure (plainly_like alike _ _)
  | none =>
    exact h'.text.map fun _ _ needle =>
      plainly_operands (by decide) (by decide) (by decide) needle alike

/-- A search for an item, in a text that a step gives. -/
theorem twins_searchItem {step step' : Writing String} (h : other.Twins careful other')
    (h' : Twins careful (Alike careful) step step') :
    Twins careful (Plainly careful)
      (do
        let needle ← other.written.text
        return "(" ++ needle ++ " IN " ++ (← step) ++ ")")
      (do
        let needle ← other'.written.text
        return "(" ++ needle ++ " IN " ++ (← step') ++ ")") :=
  h.text.bind fun _ _ needle => h'.map fun _ _ items =>
    plainly_operands (by decide) (by decide) (by decide) needle items

/-- A search in what is no list. -/
theorem twins_search (h : arg.Twins careful arg') (h' : other.Twins careful other') :
    Twins careful (Plainly careful)
      (if searchesString arg.tree other.tree then searchString arg other else searchRows arg other)
      (if searchesString arg'.tree other'.tree then searchString arg' other'
        else searchRows arg' other') := by
  rw [searchesString_blank h h']
  split
  · exact twins_searchString h h'
  · exact h'.text.bind fun _ _ needle => h.rows.map fun _ _ alike =>
      plainly_operands (by decide) (by decide) (by decide) needle
        (alike.selected alike.value.alike).alike

theorem twins_contains (h : ArgumentsTwin careful args args') :
    Twins careful (Plainly careful) (contains args) (contains args') := by
  cases h with
  | nil => exact twins_throw _ _
  | cons first rest =>
    cases rest with
    | nil => exact twins_throw _ _
    | cons second rest =>
      cases rest with
      | cons => exact twins_throw _ _
      | nil =>
        rename_i arg arg' other other'
        obtain ⟨tree, written⟩ := arg
        obtain ⟨tree', written'⟩ := arg'
        obtain rfl : tree' = tree.blank := first.tree
        -- Of the trees to search in, lists alone are written in a way of their own.
        cases tree with
        | list => exact twins_searchItem second first.text
        | _ => exact twins_search first second

theorem begins_unitName (unit : DateUnit) : begins ("DATEADD(" ++ unitName unit ++ ", CAST(") := by
  cases unit <;> decide

theorem twins_call (builtin : Builtin) (h : ArgumentsTwin careful args args') :
    Twins careful (Plainly careful) (call builtin args) (call builtin args') := by
  cases builtin with
  | random | now =>
    exact twins_pure ⟨reads_refl (by decide) rfl, fun _ => by decide⟩
  | randomBelow =>
    exact (twins_argument h 0).map fun _ _ => plainly_operand (by decide) (by decide)
  | isMatch =>
    exact twins_pair h fun _ _ _ _ => plainly_operands (by decide) (by decide) (by decide)
  | like => exact twins_pattern h fun _ _ _ => twins_throw _ _
  | beginsWith =>
    exact twins_pattern h fun _ _ subject => (twins_argument h 1).map fun _ _ =>
      plainly_operands (by decide) (by decide) (by decide) subject
  | endsWith =>
    exact twins_pattern h fun _ _ subject => (twins_argument h 1).map fun _ _ =>
      plainly_operands (by decide) (by decide) (by decide) subject
  | contains => exact twins_contains h
  | dateAdd unit | backendDateAdd unit =>
    exact twins_pair h fun _ _ _ _ date amount =>
      plainly_operands (begins_unitName unit) (by decide) (by decide) amount date
  | castNumber | castString | castDate => exact twins_throw _ _
  | _ => exact twins_apply (by decide) h

end

end Sql

/-! ## Trees -/

open Sql

namespace Target

variable {careful : Prop}

theorem allTwins_of_argumentsTwin {ts ts' : List Target}
    (h : ArgumentsTwin careful (arguments ts) (arguments ts')) :
    AllTwins careful (writtenAll ts) (writtenAll ts') := by
  rw [← map_written_arguments, ← map_written_arguments]
  exact List.rel_map (fun _ _ (twins : Argument.Twins careful _ _) => twins.written) h

/-- A constant may begin with a minus sign if its literal does. -/
theorem spoken_literal (kind : Kind) (value : Value) :
    Agrees (Spoken careful (constant kind value).isLed) (literal value) (literal value.blank) := by
  have agrees : Agrees (Sql.Alike careful) (literal value) (literal value.blank) :=
    agrees_literal value
  rw [isLed]
  generalize literal value = made at agrees
  generalize literal value.blank = made' at agrees
  cases agrees with
  | ok alike => exact .ok ⟨alike, fun _ => of_decide_eq_false⟩
  | error e e' => exact .error e e'

mutual

/-- A tree and one with other strings are read alike. -/
theorem twins_blank (t : Target) (h : careful → t.isCareful) :
    t.written.Twins careful t.isLed t.blank.written := by
  match t with
  | .constant kind value => exact twins_ofText (twins_ofResult (spoken_literal kind value))
  | .parameter _ name =>
    exact twins_ofText ((twins_textOf name).imp fun _ _ plain => plain.spoken)
  | .property _ t name =>
    refine twins_ofText ((twins_blank t h).text.map fun _ _ spoken => ⟨?_, fun careful unled => ?_⟩)
    · exact (spoken.alike.then (by decide)).text (alike_identifier name)
    · -- Even if nothing stands in front of it, the point is no minus sign.
      rw [String.append_assoc]
      refine unled_append (spoken.unled careful unled) ?_
      rw [lead_append]
      nofun
  | .guard _ s name t | .bind _ s name t =>
    simp only [isCareful, Bool.and_eq_true, Bool.not_eq_true'] at h
    exact twins_withSubject (twins_blank s fun careful => (h careful).1.1)
      (fun careful => (h careful).2) (twins_blank t fun careful => (h careful).1.2)
  | .map _ s name t =>
    simp only [isCareful, Bool.and_eq_true, Bool.not_eq_true'] at h
    exact twins_ofRows (twins_mapRows (twins_blank s fun careful => (h careful).1.1)
      (twins_blank t fun careful => (h careful).1.2) fun careful => (h careful).2)
  | .filter _ s name t =>
    simp only [isCareful, Bool.and_eq_true] at h
    exact twins_ofRows (twins_filterRows (twins_blank s fun careful => (h careful).1)
      (twins_blank t fun careful => (h careful).2))
  | .quantify _ quantifier s name t =>
    simp only [isCareful, Bool.and_eq_true] at h
    have source := twins_blank s fun careful => (h careful).1
    have body := twins_blank t fun careful => (h careful).2
    exact twins_ofText ((twins_quantify quantifier source body).imp fun _ _ plain => plain.spoken)
  | .count _ s =>
    have number : Sql.Alike careful "COUNT(*)" "COUNT(*)" := reads_refl (by decide) rfl
    exact twins_ofText ((twins_blank s h).rows.map fun _ _ alike => (alike.selected number).spoken)
  | .reduce _ reduction s =>
    refine twins_ofText ((twins_blank s h).rows.map fun rows rows' alike => ?_)
    have begins : begins (reductionName reduction ++ "(") := by cases reduction <;> decide
    have reduced := plainly_operand begins (by decide : closes ")") alike.value.alike
    exact (alike.selected reduced.alike).spoken
  | .elementAt _ s t =>
    simp only [isCareful, Bool.and_eq_true] at h
    exact twins_ofText ((twins_blank t fun careful => (h careful).2).text.bind fun _ _ index =>
      (twins_blank s fun careful => (h careful).1).rows.map fun _ _ alike =>
        (plainly_operands (by decide) (by decide) (by decide) (alike.select alike.value.alike)
          index.alike).spoken)
  | .list _ ts => exact twins_list (allTwins_of_argumentsTwin (argumentsTwin_blank ts h))
  | .binary kind op s t =>
    simp only [isCareful, Bool.and_eq_true] at h
    have both := twins_binary op s.isNullConstant t.isNullConstant
      (twins_blank s fun careful => (h careful).1) (twins_blank t fun careful => (h careful).2)
    have same : (binary kind op s t).blank.written =
        ofText (Sql.binary op s.isNullConstant t.isNullConstant s.blank.written
          t.blank.written) := by
      rw [blank, written, isNullConstant_blank, isNullConstant_blank]
    rw [same]
    exact twins_ofText (both.imp fun _ _ plain => plain.spoken)
  | .unary _ op t =>
    simp only [isCareful, Bool.and_eq_true, Bool.not_eq_true', Bool.and_eq_false_iff] at h
    refine twins_ofText ((twins_blank t fun careful => (h careful).1).text.map fun _ _ spoken => ?_)
    refine spoken_unary op spoken fun careful is => ?_
    exact (h careful).2.resolve_left fun other => of_decide_eq_false other is
  | .call _ builtin ts =>
    exact twins_ofText ((twins_call builtin (argumentsTwin_blank ts h)).imp
      fun _ _ plain => plain.spoken)
  | .convert kind t =>
    refine twins_ofText ((twins_blank t h).text.bind fun _ _ spoken => ?_)
    cases known : typeOf kind with
    | error e => exact twins_throw e e
    | ok type =>
      refine twins_pure (Plainly.spoken ?_)
      have whole := plainly_operand (by decide : begins "CAST(") (closes_typeOf known) spoken.alike
      simpa only [String.append_assoc] using whole
  | .assign _ name t =>
    simp only [isCareful, Bool.and_eq_true, Bool.not_eq_true'] at h
    refine twins_ofText ((twins_blank t fun careful => (h careful).1).text.bind
      fun _ _ spoken => ?_)
    have plain := spoken.plainly fun careful => (h careful).2
    exact (twins_assign name plain).bind fun _ _ _ => twins_pure plain.spoken

theorem argumentsTwin_blank (ts : List Target) (h : careful → allCareful ts) :
    ArgumentsTwin careful (arguments ts) (arguments (blankAll ts)) := by
  match ts with
  | [] => exact .nil
  | t :: ts =>
    simp only [allCareful, Bool.and_eq_true] at h
    exact .cons ⟨rfl, t.isLed, twins_blank t fun careful => (h careful).1⟩
      (argumentsTwin_blank ts fun careful => (h careful).2)

end

/-! ## Queries -/

/-- The queries of a tree and of one without its strings are read alike. -/
theorem agrees_sql (careful : Prop) (t : Target) (h : careful → t.isCareful) :
    Agrees (Sql.Alike careful) t.sql t.blank.sql := by
  have object : Plainly careful "t0" "t0" := plainly_alias 0
  have outcome := (twins_blank t h).text [(Scope.objectName, "t0")] [(Scope.objectName, "t0")]
    ⟨[], 0⟩ ⟨[], 0⟩ (.cons ⟨rfl, object⟩ .nil) ⟨fun _ => .none, rfl⟩
  unfold sql
  generalize t.written.text [(Scope.objectName, "t0")] ⟨[], 0⟩ = result at outcome
  generalize t.blank.written.text [(Scope.objectName, "t0")] ⟨[], 0⟩ = result' at outcome
  cases outcome with
  | ok spoken sheets => exact .ok spoken.alike
  | error e e' after after' => exact .error e e'

/-- In the query of a tree no comment begins if no minus sign is put in front of another one. -/
theorem comment_notMem_tokens_of_isCareful {t : Target} (h : t.isCareful) {text : String}
    (made : t.sql = .ok text) : .comment ∉ tokens text := by
  have agrees := agrees_sql True t fun _ => h
  rw [made] at agrees
  rw [comment_mem_tokens]
  generalize t.blank.sql = query at agrees
  cases agrees with
  | ok alike =>
    rcases alike.read with ⟨free, _⟩ | parallel
    · exact absurd trivial free
    · exact parallel.none

/-- Strings do not get out of their literals: if no comment begins in the query of a tree, then a tree
that has other strings only becomes a query too, of the same tokens but for the contents of
literals. -/
theorem outline_sql_eq {t t' : Target} (same : t'.blank = t.blank) {text : String}
    (made : t.sql = .ok text) (plain : .comment ∉ tokens text) :
    ∃ text', t'.sql = .ok text' ∧ .comment ∉ tokens text'
      ∧ outline (tokens text') = outline (tokens text) := by
  have first := agrees_sql False t False.elim
  have second := agrees_sql False t' False.elim
  rw [same] at second
  rw [made] at first
  rw [comment_mem_tokens] at plain
  generalize t.blank.sql = query at first second
  -- Both queries are read like the one without strings, or a comment begins in all three.
  cases first with
  | ok alike =>
    obtain ⟨_, comment, _⟩ | parallel := alike.read
    · exact absurd comment plain
    generalize t'.sql = query' at second
    cases second with
    | @ok text' blank alike' =>
      obtain ⟨_, _, comment⟩ | parallel' := alike'.read
      · exact absurd comment parallel.none'
      refine ⟨text', rfl, ?_, ?_⟩
      · rw [comment_mem_tokens]
        exact parallel'.none
      · rw [← parallel'.outline_tokens, parallel.outline_tokens]

end Target

/-- `FUNCTION('negate:', -3) == a AND name == 'x'` becomes a query with a comment, and a line break in
the string changes what is read after it. -/
theorem Lowering.comment_of_negated_constant :
    let p (s : String) : Predicate := .compound .and [
      .comparison (.call "negate:" [.constant (.int (-3))]) .equal (.path "a") .direct .none,
      .comparison (.path "name") .equal (.constant (.string s)) .direct .none]
    ∃ t t' text text', (p "x").target .any (.ofDialect .backend) = .ok t
      ∧ (p "\n").target .any (.ofDialect .backend) = .ok t' ∧ t'.blank = t.blank
      ∧ t.isCareful = false ∧ t.sql = .ok text ∧ t'.sql = .ok text' ∧ .comment ∈ tokens text
      ∧ outline (tokens text') ≠ outline (tokens text) :=
  ⟨_, _, _, _, rfl, rfl, rfl, rfl, rfl, rfl, by decide, by decide⟩

end PredicateLang
