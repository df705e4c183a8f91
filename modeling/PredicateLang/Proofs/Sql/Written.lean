import Mathlib.Data.List.Basic
import Mathlib.Data.Set.Insert
import PredicateLang.Sql

/-!
# A tree that is written finds its names

A name stands for a text while a query is written: the name of a row inside of what it is a row for,
and a variable once the assignment has been written. `Target.Reads known t` says that a tree reads a
name only where it stands for a text, if the known names do. It follows the order in which a query is
written: an index comes before its collection, and of the two operands of a search either may come
first.

`Sql.Finds known given step` says of a step of writing that, if the known names stand for texts, it
does not fail because a name does not, and that the given ones stand for texts after it. A tree that
reads known names only is written as a text or as rows without missing one (`Target.finds`), and the
variables that it assigns stand for texts from then on. So writing it as a query never fails because
of a name (`Target.sql_ne_unbound`).
-/

namespace PredicateLang

/-! ## Trees -/

/-- Are all of so many arguments written? -/
def Builtin.writes : Builtin → (arity : Nat) → Bool
  | .random, n | .now, n => n = 0
  | .randomBelow, n => n = 1
  | .isMatch, n | .like, n | .beginsWith, n | .endsWith, n | .contains, n => n = 2
  | .dateAdd _, n | .backendDateAdd _, n => n = 2
  | _, _ => true

namespace Target

mutual

/-- The names that are assigned in the tree. -/
def assigned : Target → Set String
  | .constant .. | .parameter .. => ∅
  | .property _ t _ | .count _ t | .reduce _ _ t | .unary _ _ t | .convert _ t => t.assigned
  | .guard _ s _ t | .bind _ s _ t | .map _ s _ t | .filter _ s _ t | .quantify _ _ s _ t
  | .elementAt _ s t | .binary _ _ s t => s.assigned ∪ t.assigned
  | .list _ ts | .call _ _ ts => assignedAll ts
  | .assign _ name t => insert name t.assigned

/-- The names that are assigned in the trees. -/
def assignedAll : List Target → Set String
  | [] => ∅
  | t :: ts => t.assigned ∪ assignedAll ts

end

mutual

/-- Written in a place where the known names stand for texts, the tree reads no name that does not. -/
def Reads : Set String → Target → Prop
  | _, .constant .. => True
  | known, .parameter _ name => name ∈ known
  | known, .property _ t _ | known, .count _ t | known, .reduce _ _ t | known, .unary _ _ t
  | known, .convert _ t | known, .assign _ _ t => Reads known t
  | known, .guard _ s name t | known, .bind _ s name t | known, .map _ s name t
  | known, .filter _ s name t | known, .quantify _ _ s name t =>
    Reads known s ∧ Reads (insert name (known ∪ s.assigned)) t
  | known, .elementAt _ s t => Reads known t ∧ Reads (known ∪ t.assigned) s
  | known, .list _ ts => ReadInOrder known ts
  | known, .binary _ _ s t => Reads known s ∧ Reads (known ∪ s.assigned) t
  | known, .call _ builtin ts =>
    builtin.writes ts.length
      ∧ if builtin = .contains then ReadApart known ts else ReadInOrder known ts

/-- The trees are written one after the other. -/
def ReadInOrder : Set String → List Target → Prop
  | _, [] => True
  | known, t :: ts => Reads known t ∧ ReadInOrder (known ∪ t.assigned) ts

/-- The trees may be written in any order. -/
def ReadApart : Set String → List Target → Prop
  | _, [] => True
  | known, t :: ts => Reads known t ∧ ReadApart known ts

end

mutual

/-- What is known may be more. -/
theorem Reads.mono {known known' : Set String} {t : Target} (h : t.Reads known)
    (le : known ⊆ known') : t.Reads known' := by
  match t with
  | .constant .. => trivial
  | .parameter .. => exact le h
  | .property _ t _ | .count _ t | .reduce _ _ t | .unary _ _ t | .convert _ t | .assign _ _ t =>
    exact Reads.mono (t := t) h le
  | .guard _ s name t | .bind _ s name t | .map _ s name t | .filter _ s name t
  | .quantify _ _ s name t =>
    exact ⟨h.1.mono le, h.2.mono (Set.insert_subset_insert (Set.union_subset_union_left _ le))⟩
  | .elementAt .. | .binary .. => exact ⟨h.1.mono le, h.2.mono (Set.union_subset_union_left _ le)⟩
  | .list _ ts => exact (show ReadInOrder known ts from h).mono le
  | .call _ builtin ts =>
    obtain ⟨all, args⟩ := h
    refine ⟨all, ?_⟩
    split
    · rw [if_pos ‹_›] at args
      exact args.mono le
    · rw [if_neg ‹_›] at args
      exact args.mono le

theorem ReadInOrder.mono {known known' : Set String} {ts : List Target} (h : ReadInOrder known ts)
    (le : known ⊆ known') : ReadInOrder known' ts := by
  match ts with
  | [] => trivial
  | t :: ts => exact ⟨h.1.mono le, h.2.mono (Set.union_subset_union_left _ le)⟩

theorem ReadApart.mono {known known' : Set String} {ts : List Target} (h : ReadApart known ts)
    (le : known ⊆ known') : ReadApart known' ts := by
  match ts with
  | [] => trivial
  | t :: ts => exact ⟨h.1.mono le, h.2.mono le⟩

end

end Target

/-! ## Steps of writing -/

namespace Sql

/-- The name stands for a text. -/
def Stands (names : List (String × String)) (sheet : Sheet) (name : String) : Prop :=
  (Fields.find? names name).isSome ∨ (sheet.assigned.find? name).isSome

/-- The step did not fail because a name does not stand for a text. If it succeeded, variables that
stood for texts before it still do, and the given ones do too. -/
inductive Outcome (given : Set String) (before : Sheet) {α : Type} :
    EStateM.Result Error Sheet α → Prop where
  | ok {a : α} {after : Sheet}
    (kept : ∀ name, (before.assigned.find? name).isSome → (after.assigned.find? name).isSome)
    (stand : ∀ name ∈ given, (after.assigned.find? name).isSome) : Outcome given before (.ok a after)
  | error {e : Error} {after : Sheet} (other : ∀ name, e ≠ .evaluation (.unboundParameter name)) :
    Outcome given before (.error e after)

/-- If the known names stand for texts, then the step finds one for each name that it reads, and the
given names stand for texts after it. -/
def Finds (known given : Set String) {α : Type} (step : Writing α) : Prop :=
  ∀ names sheet, (∀ name ∈ known, Stands names sheet name) → Outcome given sheet (step names sheet)

section Rules

variable {α β : Type} {known known' given given' : Set String} {step : Writing α}

theorem Finds.mono (h : Finds known given step) (le : known ⊆ known') (le' : given' ⊆ given) :
    Finds known' given' step := by
  intro names sheet stand
  have outcome := h names sheet fun name mem => stand name (le mem)
  cases result : step names sheet with
  | ok a after =>
    rw [result] at outcome
    cases outcome with
    | ok kept stand => exact .ok kept fun name mem => stand name (le' mem)
  | error e after =>
    rw [result] at outcome
    cases outcome with
    | error other => exact .error other

theorem finds_pure (a : α) : Finds known ∅ (pure a) :=
  fun _ _ _ => .ok (fun _ => id) fun _ mem => mem.elim

theorem finds_throw {e : Error} (other : ∀ name, e ≠ .evaluation (.unboundParameter name)) :
    Finds known given (throw e : Writing α) :=
  fun _ _ _ => .error other

theorem finds_ofResult {made : Except Error α}
    (other : ∀ e, made = .error e → ∀ name, e ≠ .evaluation (.unboundParameter name)) :
    Finds known ∅ (ofResult made) := by
  cases made with
  | ok a => exact finds_pure a
  | error e => exact finds_throw (other e rfl)

theorem Finds.bind {next : α → Writing β} (h : Finds known given step)
    (h' : ∀ a, Finds (known ∪ given) given' (next a)) :
    Finds known (given ∪ given') (step >>= next) := by
  intro names sheet stand
  have outcome := h names sheet stand
  simp only [Bind.bind, ReaderT.bind, EStateM.bind]
  cases first : step names sheet with
  | error e between =>
    rw [first] at outcome
    cases outcome with
    | error other => exact .error other
  | ok a between =>
    rw [first] at outcome
    cases outcome with
    | ok kept stands =>
      have outcome := h' a names between fun name mem =>
        mem.elim (fun mem => (stand name mem).imp_right (kept name)) fun mem => .inr (stands name mem)
      dsimp only
      cases second : next a names between with
      | error e after =>
        rw [second] at outcome
        cases outcome with
        | error other => exact .error other
      | ok b after =>
        rw [second] at outcome
        cases outcome with
        | ok kept' stands' =>
          exact .ok (fun name found => kept' name (kept name found)) fun name mem =>
            mem.elim (fun mem => kept' name (stands name mem)) (stands' name)

/-- What is made of the result of a step does not read any more names. -/
theorem Finds.map {f : α → β} (h : Finds known given step) :
    Finds known given (do return f (← step)) :=
  (h.bind fun _ => finds_pure _).mono subset_rfl Set.subset_union_left

/-- A row comes before a variable of the same name. -/
theorem textOf_run (name : String) (names : List (String × String)) (sheet : Sheet) :
    textOf name names sheet
      = ((Fields.find? names name).or (sheet.assigned.find? name)).elim
        (.error (.evaluation (.unboundParameter name)) sheet) fun text => .ok text sheet := by
  simp only [textOf, Bind.bind, ReaderT.bind, EStateM.bind, read, readThe, MonadReaderOf.read,
    ReaderT.read, pure, EStateM.pure]
  cases Fields.find? names name with
  | some text => rfl
  | none =>
    -- no row of that name: what is left to read is the state
    have state : (EStateM.get : EStateM Error Sheet Sheet) sheet = .ok sheet sheet := rfl
    simp only [ReaderT.bind, bind, get, getThe, MonadStateOf.get, state, EStateM.bind, liftM,
      monadLift, MonadLift.monadLift]
    cases sheet.assigned.find? name <;> rfl

theorem finds_textOf {name : String} (mem : name ∈ known) : Finds known ∅ (textOf name) := by
  intro names sheet stand
  have found : ((Fields.find? names name).or (sheet.assigned.find? name)).isSome := by
    rw [Option.isSome_or, Bool.or_eq_true]
    exact stand name mem
  obtain ⟨text, found⟩ := Option.isSome_iff_exists.mp found
  rw [textOf_run, found]
  exact .ok (fun _ => id) fun _ mem => mem.elim

theorem Finds.withText {name : String} (h : Finds (insert name known) given step) (text : String) :
    Finds known given (withText name text step) := by
  intro names sheet stand
  refine h ((name, text) :: names) sheet ?_
  rintro other (rfl | mem)
  · exact .inl (by simp [Fields.find?])
  · refine (stand other mem).imp_left fun found => ?_
    rw [Fields.find?]
    split
    · rfl
    · exact found

theorem finds_nextAlias : Finds known ∅ nextAlias :=
  fun _ _ _ => .ok (fun _ => id) fun _ mem => mem.elim

theorem finds_assign (name text : String) : Finds known {name} (assign name text) := by
  intro names sheet stand
  refine .ok (fun other found => ?_) ?_
  · by_cases same : name = other
    · subst same
      simp
    · simpa [Fields.find?_insert_of_ne _ _ same] using found
  · rintro _ rfl
    simp

end Rules

end Sql

open Sql

/-- Both forms of the tree find the names that they read. -/
structure Sql.Written.Finds (known given : Set String) (w : Written) : Prop where
  text : Sql.Finds known given w.text
  rows : Sql.Finds known given w.rows

/-- Each of the trees finds its names after those before it. -/
def Target.FindInOrder : Set String → List Target → Prop
  | _, [] => True
  | known, t :: ts => t.written.Finds known t.assigned ∧ FindInOrder (known ∪ t.assigned) ts

namespace Target

theorem assigned_of_constantString {t : Target} {s : String} (h : t.constantString? = some s) :
    t.assigned = ∅ := by
  cases t with
  | constant => rfl
  | _ => cases h

theorem assigned_of_isNullConstant {t : Target} (h : t.isNullConstant) : t.assigned = ∅ := by
  cases t with
  | constant => rfl
  | _ => cases h

end Target

namespace Sql

variable {known given given' : Set String} {w v : Written} {a b : Target} {ts : List Target}

/-! ## Rows and texts -/

theorem finds_table {text : Writing String} (h : Finds known given text) :
    Finds known given (table text) :=
  (h.bind fun _ => (finds_nextAlias.bind fun _ => finds_pure _)).mono subset_rfl
    Set.subset_union_left

theorem finds_ofText {text : Writing String} (h : Finds known given text) :
    (ofText text).Finds known given :=
  ⟨h, finds_table h⟩

theorem finds_ofRows {rows : Writing Rows} (h : Finds known given rows) :
    (ofRows rows).Finds known given :=
  ⟨h.map, h⟩

theorem finds_withSubject {name : String} (h : w.Finds known given)
    (h' : v.Finds (insert name (known ∪ given)) given') :
    (withSubject w name v).Finds known (given ∪ given') :=
  ⟨h.text.bind fun text => h'.text.withText text, h.text.bind fun text => h'.rows.withText text⟩

/-- A step on the rows of a source and on a body in which a name stands for the value of a row. -/
theorem finds_rows {name : String} {α : Type} (next : Rows → String → α) (h : w.Finds known given)
    (h' : v.Finds (insert name (known ∪ given)) given') :
    Finds known (given ∪ given') (do
      let rows ← w.rows
      let text ← withText name rows.value v.text
      return next rows text) :=
  h.rows.bind fun rows => (h'.text.withText rows.value).map

/-- A text that a variable stands for from then on. -/
theorem finds_assigned (name text : String) :
    Finds known {name} (do
      assign name text
      return text) :=
  ((finds_assign name text).bind fun _ => finds_pure text).mono subset_rfl Set.subset_union_left

theorem finds_quantify (quantifier : Quantifier) {name : String} (h : w.Finds known given)
    (h' : v.Finds (insert name (known ∪ given)) given') :
    Finds known (given ∪ given') (quantify quantifier w name v) := by
  refine h.rows.bind fun rows => (?_ : Finds _ _ _)
  refine ((h'.text.withText rows.value).bind fun condition => ?_).mono subset_rfl
    (Set.subset_union_left (t := ∅))
  cases quantifier <;> exact finds_pure _

theorem finds_texts (h : Target.FindInOrder known ts) :
    Finds known (Target.assignedAll ts) (texts (Target.writtenAll ts)) := by
  induction ts generalizing known with
  | nil => exact finds_pure _
  | cons t ts ih => exact h.1.text.bind fun _ => (ih h.2).map

theorem finds_list (h : Target.FindInOrder known ts) :
    (list (Target.writtenAll ts)).Finds known (Target.assignedAll ts) := by
  refine ⟨(finds_texts h).map, ?_⟩
  show Finds known _ (listRows _)
  unfold listRows
  refine (finds_nextAlias.bind fun name => ?_).mono subset_rfl
    (Set.subset_union_right (s := ∅))
  cases ts with
  | nil => exact (finds_pure _).mono subset_rfl subset_rfl
  | cons t ts =>
    rw [Set.union_empty]
    exact (finds_texts h).map

/-! ## Operations -/

theorem finds_binary (op : BinaryOp) (h : a.written.Finds known a.assigned)
    (h' : b.written.Finds (known ∪ a.assigned) b.assigned) :
    Finds known (a.assigned ∪ b.assigned)
      (binary op a.isNullConstant b.isNullConstant a.written b.written) := by
  have both : Finds known (a.assigned ∪ b.assigned) (do
      let left ← a.written.text
      let right ← b.written.text
      if op = .power then return "POWER(" ++ left ++ ", " ++ right ++ ")"
      else return "(" ++ left ++ " " ++ signOf op ++ " " ++ right ++ ")") := by
    refine h.text.bind fun left => ?_
    refine (h'.text.bind fun right => (?_ : Finds _ ∅ _)).mono subset_rfl Set.subset_union_left
    split <;> exact finds_pure _
  unfold binary
  -- Next to a null only the other operand is written.
  split
  · rename_i null
    rw [Target.assigned_of_isNullConstant null, Set.union_empty]
    exact h.text.map
  · rename_i null _
    have nothing := Target.assigned_of_isNullConstant null
    rw [nothing, Set.union_empty] at h'
    rw [nothing, Set.empty_union]
    exact h'.text.map
  · exact both

/-! ## Calls -/

/-- The arguments of a call. -/
def arguments (ts : List Target) : List Argument :=
  List.zipWith Argument.mk ts (Target.writtenAll ts)

theorem map_written_arguments (ts : List Target) :
    (arguments ts).map Argument.written = Target.writtenAll ts := by
  induction ts with
  | nil => rfl
  | cons t ts ih => exact congrArg (t.written :: ·) ih

theorem finds_apply (name : String) (h : Target.FindInOrder known ts) :
    Finds known (Target.assignedAll ts) (apply name (arguments ts)) := by
  unfold apply
  rw [map_written_arguments]
  exact (finds_texts h).map

/-- A test of a subject against a pattern, which is written into the test if it is a constant. -/
theorem finds_pattern {constant : String → String → String} {computed : String → Writing String}
    (h : a.written.Finds known a.assigned)
    (h' : ∀ subject, Finds (known ∪ a.assigned) b.assigned (computed subject)) :
    Finds known (a.assigned ∪ b.assigned) (do
      let subject ← a.written.text
      match b.constantString? with
      | some pattern => return constant subject pattern
      | none => computed subject) := by
  refine h.text.bind fun subject => ?_
  cases known : b.constantString? with
  | some pattern =>
    rw [Target.assigned_of_constantString known]
    exact finds_pure _
  | none => exact h' subject

/-- Of the operands of a search either may come first. -/
theorem finds_contains (h : a.written.Finds known a.assigned)
    (h' : b.written.Finds known b.assigned) :
    Finds known (a.assigned ∪ b.assigned) (contains (arguments [a, b])) := by
  have second (other : Set String) : b.written.Finds (known ∪ other) b.assigned :=
    ⟨h'.text.mono Set.subset_union_left subset_rfl, h'.rows.mono Set.subset_union_left subset_rfl⟩
  have string : Finds known (a.assigned ∪ b.assigned) (searchString ⟨a, a.written⟩ ⟨b, b.written⟩) :=
    finds_pattern h fun subject => (second _).text.map
  have inText : Finds known (a.assigned ∪ b.assigned) (do
      let needle ← b.written.text
      return "(" ++ needle ++ " IN " ++ (← a.written.text) ++ ")") := by
    rw [Set.union_comm]
    exact h'.text.bind fun _ => (h.text.mono Set.subset_union_left subset_rfl).map
  have inRows : Finds known (a.assigned ∪ b.assigned)
      (searchRows ⟨a, a.written⟩ ⟨b, b.written⟩) := by
    rw [Set.union_comm]
    exact h'.text.bind fun _ => (h.rows.mono Set.subset_union_left subset_rfl).map
  show Finds known _ (contains [⟨a, a.written⟩, ⟨b, b.written⟩])
  unfold contains
  dsimp only
  split
  · exact inText
  · split
    · exact string
    · exact inRows

/-- A test of a string, with a pattern that comes after its subject. -/
theorem finds_stringTest {builtin : Builtin}
    (is : builtin = .isMatch ∨ builtin = .like ∨ builtin = .beginsWith ∨ builtin = .endsWith)
    (h : a.written.Finds known a.assigned)
    (h' : b.written.Finds (known ∪ a.assigned) b.assigned) :
    Finds known (a.assigned ∪ b.assigned) (call builtin (arguments [a, b])) := by
  rcases is with rfl | rfl | rfl | rfl
  · exact h.text.bind fun _ => h'.text.map
  · exact finds_pattern h fun _ => finds_throw nofun
  · exact finds_pattern h fun _ => h'.text.map
  · exact finds_pattern h fun _ => h'.text.map

/-- A call of two arguments, of which the first is written first. -/
theorem finds_call_pair {builtin : Builtin} (two : builtin.writes 2) (one : builtin.writes 1 = false)
    (other : builtin ≠ .contains) (h : a.written.Finds known a.assigned)
    (h' : b.written.Finds (known ∪ a.assigned) b.assigned) :
    Finds known (a.assigned ∪ b.assigned) (call builtin (arguments [a, b])) := by
  cases builtin with
  | isMatch | like | beginsWith | endsWith => exact finds_stringTest (by simp) h h'
  | dateAdd unit | backendDateAdd unit => exact h.text.bind fun _ => h'.text.map
  | contains => exact absurd rfl other
  | random | now | randomBelow => cases two
  | _ => cases one

theorem finds_call {builtin : Builtin} (all : builtin.writes ts.length)
    (h : if builtin = .contains then ∀ t ∈ ts, t.written.Finds known t.assigned
      else Target.FindInOrder known ts) :
    Finds known (Target.assignedAll ts) (call builtin (arguments ts)) := by
  cases builtin with
  | random | now =>
    obtain rfl : ts = [] := by simpa [Builtin.writes] using all
    exact finds_pure _
  | randomBelow =>
    obtain ⟨a, rfl⟩ := List.length_eq_one_iff.mp (by simpa [Builtin.writes] using all)
    rw [Target.assignedAll, Target.assignedAll, Set.union_empty]
    exact h.1.text.map
  | contains =>
    obtain ⟨a, b, rfl⟩ := List.length_eq_two.mp (by simpa [Builtin.writes] using all)
    rw [Target.assignedAll, Target.assignedAll, Target.assignedAll, Set.union_empty]
    rw [if_pos rfl, List.forall_mem_cons, List.forall_mem_singleton] at h
    exact finds_contains h.1 h.2
  | isMatch | like | beginsWith | endsWith | dateAdd | backendDateAdd =>
    obtain ⟨a, b, rfl⟩ := List.length_eq_two.mp (by simpa [Builtin.writes] using all)
    rw [Target.assignedAll, Target.assignedAll, Target.assignedAll, Set.union_empty]
    exact finds_call_pair rfl rfl nofun h.1 h.2.1
  | castNumber | castString | castDate => exact finds_throw nofun
  | _ => exact finds_apply _ h

end Sql

/-! ## Trees -/

mutual

/-- Only objects have no literals. -/
theorem Sql.eq_of_literal_error {e : Error} (value : Value) (error : literal value = .error e) :
    e = .unsupported "an object literal" .backend := by
  match value with
  | .array items =>
    unfold literal at error
    cases made : literals items with
    | ok texts =>
      rw [made] at error
      cases error
    | error e' =>
      rw [made] at error
      cases error
      exact Sql.eq_of_literals_error items made
  | .object _ =>
    cases error
    rfl
  | .null | .boolean _ | .integer _ | .float _ | .double _ | .string _ | .guid _ | .date _ =>
    cases error

theorem Sql.eq_of_literals_error {e : Error} (values : List Value)
    (error : literals values = .error e) : e = .unsupported "an object literal" .backend := by
  match values with
  | [] => cases error
  | value :: rest =>
    unfold literals at error
    cases first : literal value with
    | error e' =>
      rw [first] at error
      cases error
      exact Sql.eq_of_literal_error value first
    | ok text =>
      rw [first] at error
      cases others : literals rest with
      | error e' =>
        rw [others] at error
        cases error
        exact Sql.eq_of_literals_error rest others
      | ok texts =>
        rw [others] at error
        cases error

end

theorem Sql.finds_literal {known : Set String} (value : Value) :
    Finds known ∅ (ofResult (literal value)) := by
  refine finds_ofResult fun e error => ?_
  rw [eq_of_literal_error value error]
  nofun

theorem Sql.finds_typeOf {known : Set String} (kind : Kind) :
    Finds known ∅ (ofResult (typeOf kind)) := by
  refine finds_ofResult fun e error => ?_
  unfold typeOf at error
  split at error <;> cases error
  nofun

namespace Target

mutual

/-- A tree that reads known names only finds them when it is written, and the variables that it
assigns stand for texts after it. -/
theorem finds {known : Set String} (t : Target) (h : t.Reads known) :
    t.written.Finds known t.assigned := by
  match t with
  | .constant _ value => exact finds_ofText (finds_literal value)
  | .parameter _ name => exact finds_ofText (finds_textOf h)
  | .property _ t name => exact finds_ofText (finds t h).text.map
  | .guard _ s name t | .bind _ s name t => exact finds_withSubject (finds s h.1) (finds t h.2)
  | .map _ s name t => exact finds_ofRows (finds_rows _ (finds s h.1) (finds t h.2))
  | .filter _ s name t => exact finds_ofRows (finds_rows _ (finds s h.1) (finds t h.2))
  | .quantify _ quantifier s name t =>
    exact finds_ofText (finds_quantify quantifier (finds s h.1) (finds t h.2))
  | .count _ s => exact finds_ofText (finds s h).rows.map
  | .reduce _ reduction s => exact finds_ofText (finds s h).rows.map
  | .elementAt _ s t =>
    refine finds_ofText ?_
    rw [assigned, Set.union_comm]
    exact (finds t h.1).text.bind fun _ => (finds s h.2).rows.map
  | .list _ ts => exact finds_list (findInOrder ts h)
  | .binary _ op s t => exact finds_ofText (finds_binary op (finds s h.1) (finds t h.2))
  | .unary _ op t => exact finds_ofText (finds t h).text.map
  | .call _ builtin ts =>
    refine finds_ofText (finds_call h.1 ?_)
    split
    · exact findApart ts (by simpa [*] using h.2)
    · exact findInOrder ts (by simpa [*] using h.2)
  | .convert kind t =>
    refine finds_ofText (((finds t h).text.bind fun text => ?_).mono subset_rfl
      (Set.subset_union_left (t := ∅)))
    exact (finds_typeOf kind).map
  | .assign _ name t =>
    refine finds_ofText ?_
    rw [assigned, ← Set.union_singleton]
    exact (finds t h).text.bind fun text => finds_assigned name text

theorem findInOrder {known : Set String} (ts : List Target) (h : ReadInOrder known ts) :
    FindInOrder known ts := by
  match ts with
  | [] => trivial
  | t :: ts => exact ⟨finds t h.1, findInOrder ts h.2⟩

theorem findApart {known : Set String} (ts : List Target) (h : ReadApart known ts) :
    ∀ t ∈ ts, t.written.Finds known t.assigned := by
  match ts with
  | [] => nofun
  | t :: ts => exact List.forall_mem_cons.mpr ⟨finds t h.1, findApart ts h.2⟩

end

/-- A tree that reads nothing but the object and what stands for a text by then becomes a query, or
fails for another reason. -/
theorem sql_ne_unbound {t : Target} (h : t.Reads {Scope.objectName}) (name : String) :
    t.sql ≠ .error (.evaluation (.unboundParameter name)) := by
  intro failed
  have object : ∀ known ∈ ({Scope.objectName} : Set String),
      Stands [(Scope.objectName, "t0")] ⟨[], 0⟩ known := by
    intro known mem
    rw [Set.mem_singleton_iff] at mem
    subst mem
    exact .inl (by simp [Fields.find?])
  have outcome := (finds t h).text [(Scope.objectName, "t0")] ⟨[], 0⟩ object
  unfold sql at failed
  cases written : t.written.text [(Scope.objectName, "t0")] ⟨[], 0⟩ with
  | ok text sheet =>
    rw [written] at failed
    cases failed
  | error e sheet =>
    rw [written] at failed outcome
    cases failed
    cases outcome with
    | error other => exact other name rfl

end Target

end PredicateLang
