import PredicateLang.Proofs.Effects.Plain
import PredicateLang.Proofs.Kinds.Lowering
import PredicateLang.Proofs.Sql.Like
import PredicateLang.Proofs.Sql.Written

/-!
# Tests of strings mean the same in a query and in memory

A test of a string property against a constant is written as a condition with `LIKE`
(`Predicate.like_iff_test`). A row fulfils the condition if and only if the test accepts the object
that has the same string there.
-/

open PredicateLang.Lowering PredicateLang.Tracing

namespace PredicateLang

/-! ## Key paths of properties -/

/-- The field of an object. -/
def Value.field? (name : String) : Value → Option Value
  | .object fields => Fields.find? fields name
  | _ => none

/-- The column that names lead to from a row. -/
def Sql.column (row : String) (names : List String) : String :=
  names.foldl (fun text name => text ++ "." ++ identifier name) row

/-- The pattern that a query puts together of a text, for what begins or ends with it. -/
def Sql.affix (operator : Operator) (text : String) : String :=
  if operator = .beginsWith then text ++ " || '%'" else "'%' || " ++ text

namespace Target

/-- The tree is what a key path leads to from a subject: it does nothing else, its value is the
field of a field, and in a query it is a column. -/
structure Leads (dialect : Dialect) (names : List String) (subject t : Target) : Prop where
  effects : subject.hasEffects = false → t.hasEffects = false
  plain : subject.isPlain → t.isPlain
  value : subject.hasEffects = false → ∀ (world : World) (around : Surroundings) (store : Store)
    (v w : Value), (subject.traced world around store).result = .ok v →
    names.foldlM (fun v name => v.field? name) v = some w →
      (t.traced world around store).result = .ok w
  text : dialect = .backend → ∀ (known : List (String × String)) (sheet : Sql.Sheet)
    (text : String), subject.written.text known sheet = .ok text sheet →
    t.written.text known sheet = .ok (Sql.column text names) sheet

theorem Leads.refl (dialect : Dialect) (t : Target) : Leads dialect [] t t where
  effects := id
  plain := id
  value _ _ _ _ _ _ value field := by
    cases field
    exact value
  text _ _ _ _ written := written

theorem Leads.cons {dialect : Dialect} {name : String} {names : List String} {s t u : Target}
    (h : Leads dialect [name] s t) (h' : Leads dialect names t u) :
    Leads dialect (name :: names) s u where
  effects quiet := h'.effects (h.effects quiet)
  plain plain := h'.plain (h.plain plain)
  value quiet world around store v w value field := by
    rw [List.foldlM_cons] at field
    obtain ⟨between, first, rest⟩ := Option.bind_eq_some_iff.mp field
    have single : [name].foldlM (fun v name => v.field? name) v = some between := by
      simpa using first
    exact h'.value (h.effects quiet) world around store between w
      (h.value quiet world around store v between value single) rest
  text backend known sheet text written :=
    h'.text backend known sheet _ (h.text backend known sheet text written)

variable {subject t : Target} {world : World} {around : Surroundings} {store : Store}

/-- The field of an object is its property, behind a guard or not. -/
theorem MayGuard.result_property {kind : Kind} {name : String} {v w : Value}
    (h : MayGuard (fun s => .property kind s name) subject t) (quiet : subject.hasEffects = false)
    (value : (subject.traced world around store).result = .ok v) (field : v.field? name = some w) :
    (t.traced world around store).result = .ok w := by
  obtain ⟨fields, rfl, found⟩ :
      ∃ fields, v = .object fields ∧ Fields.find? fields name = some w := by
    cases v with
    | object fields => exact ⟨fields, rfl, field⟩
    | _ => cases field
  have property : Evaluation.property name (.object fields) = .ok w := by
    simp [Evaluation.property, found]
  rcases h with rfl | ⟨binding, -, rfl⟩
  · simp only [traced]
    rw [(subject.quiet_traced quiet).result_bind, value]
    exact (result_still_ofResult _).trans property
  · simp only [traced]
    rw [(subject.quiet_traced quiet).result_bind, value]
    show ((do still (.ofResult (Evaluation.property name (← lookup binding))) : Tracing Value) world
      (around.push binding (.object fields)) store).result = _
    rw [(quiet_lookup binding).result_bind, result_lookup_push]
    exact (result_still_ofResult _).trans property

end Target

namespace Lowering

variable {settings : Settings} {scope : Scope} {subject : Target}

/-- A backend has no guards. -/
theorem guarded_of_backend (backend : settings.dialect = .backend) (subject : Target)
    (build : Target → Lowering Target) :
    guarded subject build settings scope = build subject settings scope := by
  rw [guarded_run, backend]
  rfl

/-- A property that the kind of the subject has. -/
theorem exists_property {name : String} {kind : Kind}
    (known : subject.kind.property name = .ok kind) (settings : Settings) (scope : Scope) :
    ∃ t after, property subject name settings scope = .ok t after ∧ t.kind = kind
      ∧ subject.Leads settings.dialect [name] t := by
  have unfolded : property subject name
      = guarded subject fun receiver => return .property kind receiver name := by
    unfold property
    cases is : subject.kind with
    | sequence element =>
      rw [is] at known
      cases known
    | _ =>
      rw [is] at known
      simp only [propertyOn, known]
  obtain ⟨t, after, run, guards⟩ :=
    exists_guarded (fun receiver => .property kind receiver name) subject settings scope
  refine ⟨t, after, by rw [unfolded]; exact run, ?_, ?_, ?_, ?_, ?_⟩
  · rcases guards with rfl | ⟨binding, -, rfl⟩ <;> rfl
  · intro quiet
    rcases guards with rfl | ⟨binding, -, rfl⟩ <;> simpa [Target.hasEffects] using quiet
  · rcases guards with rfl | ⟨binding, -, rfl⟩ <;> exact fun _ => rfl
  · intro quiet world around store v w value field
    exact guards.result_property quiet value (by simpa using field)
  · intro backend known sheet text written
    rw [guarded_of_backend backend] at run
    cases run
    simp only [Target.written, Sql.ofText, Bind.bind, ReaderT.bind, EStateM.bind, written]
    rfl

/-- What a key path of properties leads to. -/
theorem exists_follow (subject : Target) {names : List String}
    (properties : ∀ name ∈ names, isProperty name) {kind : Kind}
    (known : names.foldlM Kind.property subject.kind = .ok kind)
    (settings : Settings) (scope : Scope) :
    ∃ t after, follow subject names settings scope = .ok t after ∧ t.kind = kind
      ∧ subject.Leads settings.dialect names t := by
  induction names generalizing subject scope with
  | nil =>
    cases known
    exact ⟨subject, scope, rfl, rfl, .refl _ subject⟩
  | cons name names ih =>
    rw [List.forall_mem_cons] at properties
    rw [List.foldlM_cons] at known
    obtain ⟨between, first, known⟩ := exists_of_bind_ok known
    obtain ⟨t, middle, run, same, leads⟩ := exists_property first settings scope
    rw [← same] at known
    obtain ⟨u, after, run', same', leads'⟩ := ih t properties.2 known middle
    refine ⟨u, after, ?_, same', leads.cons leads'⟩
    rw [follow_cons properties.1, bind_run_of_ok run]
    exact run'

end Lowering

/-! ## Tests -/

/-- An operator that tests a string against a constant: the builtin call, the pattern that is
written for the constant, and the answer in memory. -/
inductive StringTest :
    Operator → Builtin → (String → List Char) → (String → String → Bool) → Prop where
  | beginsWith : StringTest .beginsWith .beginsWith (fun p => Sql.escape p ++ ['%'])
    fun s p => p.toList.isPrefixOf s.toList
  | endsWith : StringTest .endsWith .endsWith (fun p => '%' :: Sql.escape p)
    fun s p => p.toList.isSuffixOf s.toList
  | contains : StringTest .contains .contains (fun p => '%' :: Sql.escape p ++ ['%'])
    fun s p => Text.occursIn p.toList s.toList
  | like : StringTest .like .like Sql.ofGlob fun s p => Glob.isMatch p.toList s.toList

/-- The kind of a value that may be a string. -/
def Kind.isText (kind : Kind) : Prop := kind = .string ∨ kind = .any

namespace StringTest

variable {operator : Operator} {builtin : Builtin} {pattern : String → List Char}
  {answer : String → String → Bool}

/-- The texts that look like the pattern are those for which the answer is yes. -/
theorem admits_iff (test : StringTest operator builtin pattern answer) (s p : String) :
    Sql.Admits (some '\\') (Sql.quote (pattern p)) s ↔ answer s p := by
  cases test with
  | beginsWith =>
    show Sql.Admits _ (Sql.quote (Sql.escape p ++ ['%'])) s ↔ p.toList.isPrefixOf s.toList
    rw [Sql.escape, Sql.admits_quote (Sql.pattern?_escape p.toList ['%']),
      List.isPrefixOf_iff_prefix]
    exact Sql.matches_start p.toList
  | endsWith =>
    have known : Sql.pattern? (some '\\') ('%' :: Sql.escape p)
        = some (.run :: p.toList.map .char) := by
      have escaped := Sql.pattern?_escape p.toList []
      rw [List.append_nil] at escaped
      rw [Sql.pattern?_cons (by decide), Sql.escape, escaped]
      simp [Sql.pattern?, Sql.Wild.ofChar]
    show Sql.Admits _ (Sql.quote ('%' :: Sql.escape p)) s ↔ p.toList.isSuffixOf s.toList
    rw [Sql.admits_quote known, List.isSuffixOf_iff_suffix]
    exact Sql.matches_ending p.toList
  | contains =>
    have known : Sql.pattern? (some '\\') ('%' :: Sql.escape p ++ ['%'])
        = some (.run :: (p.toList.map .char ++ [.run])) := by
      rw [List.cons_append, Sql.pattern?_cons (by decide), Sql.escape, Sql.pattern?_escape]
      rfl
    show Sql.Admits _ (Sql.quote ('%' :: Sql.escape p ++ ['%'])) s ↔ Text.occursIn p.toList s.toList
    rw [Sql.admits_quote known, Sql.occursIn_iff]
    exact Sql.matches_part p.toList
  | like =>
    rw [Sql.admits_quote (Sql.pattern?_ofGlob p)]
    exact Sql.matches_glob p.toList s.toList

/-- The answer is the value of the call. -/
theorem call_eq (test : StringTest operator builtin pattern answer) (s p : String) :
    Tracing.call builtin [.string s, .string p]
      = still (.ofResult (.ok (.boolean (answer s p)))) := by
  cases test <;> rfl

/-- A test of something that may be a string is a call, which may be guarded. -/
theorem compare_eq (test : StringTest operator builtin pattern answer) {left right : Target}
    (text : left.kind.isText) (text' : right.kind.isText) (quiet : left.hasEffects = false)
    (quiet' : right.hasEffects = false) :
    compare operator left right
      = guarded left fun s => return .call .boolean builtin [s, right] := by
  have single : left.kind.isSequence = false := by rcases text with is | is <;> rw [is] <;> rfl
  have demand {operand : Target} (text : operand.kind.isText) :
      demandString builtin operand = pure () := by
    unfold demandString
    rcases text with is | is <;> rw [is]
  have sharedCall : (shared left fun s => shared right fun t =>
      guarded s fun s => return .call .boolean builtin [s, t])
        = guarded left fun s => return .call .boolean builtin [s, right] := by
    rw [shared_of_pure quiet, shared_of_pure quiet']
  have stringTest : stringTest builtin left right
      = guarded left fun s => return .call .boolean builtin [s, right] := by
    unfold Lowering.stringTest
    rw [demand text, demand text', pure_bind, pure_bind]
    exact sharedCall
  cases test with
  | beginsWith | endsWith | like => exact stringTest
  | contains =>
    show Lowering.contains _ _ = _
    unfold Lowering.contains
    rw [single]
    exact sharedCall

/-- The call gives the answer, behind a guard or not. -/
theorem result_call (test : StringTest operator builtin pattern answer) {subject t : Target}
    {s p : String} {world : World} {around : Surroundings} {store : Store}
    (guards : Target.MayGuard (fun s => .call .boolean builtin [s, .ofValue (.string p)]) subject t)
    (quiet : subject.hasEffects = false)
    (value : (subject.traced world around store).result = .ok (.string s)) :
    (t.traced world around store).result = .ok (.boolean (answer s p)) := by
  have call {subject : Target} {around : Surroundings} (quiet : subject.hasEffects = false)
      (value : (subject.traced world around store).result = .ok (.string s)) :
      ((Target.call .boolean builtin [subject, .ofValue (.string p)]).traced world around
        store).result = .ok (.boolean (answer s p)) := by
    have values : (Target.tracedAll [subject, .ofValue (.string p)] world around store).result
        = .ok [.string s, .string p] := by
      simp only [Target.tracedAll]
      rw [(subject.quiet_traced quiet).result_bind, value]
      rfl
    have still : Target.anyHasEffects [subject, .ofValue (.string p)] = false := by
      simp [Target.anyHasEffects, quiet, Target.ofValue, Target.hasEffects]
    simp only [Target.traced]
    rw [(Target.quiet_tracedAll _ still).result_bind, values]
    show (Tracing.call builtin [.string s, .string p] world around store).result = _
    rw [test.call_eq, result_still_ofResult]
  rcases guards with rfl | ⟨name, -, rfl⟩
  · exact call quiet value
  · simp only [Target.traced]
    rw [(subject.quiet_traced quiet).result_bind, value]
    exact call rfl (Target.result_lookup_push name (.string s))

/-- In a query the call is a condition with the pattern. -/
theorem text_call (test : StringTest operator builtin pattern answer) {subject : Target}
    (text : subject.kind.isText) (plain : subject.isPlain) (p : String)
    {known : List (String × String)} {sheet : Sql.Sheet} {column : String}
    (written : subject.written.text known sheet = .ok column sheet) :
    (Target.call .boolean builtin [subject, .ofValue (.string p)]).written.text known sheet
      = .ok (Sql.like column (pattern p)) sheet := by
  have condition (chars : List Char) :
      (do return Sql.like (← subject.written.text) chars : Sql.Writing String) known sheet
        = .ok (Sql.like column chars) sheet := by
    simp only [Bind.bind, ReaderT.bind, EStateM.bind, written]
    rfl
  cases test with
  | beginsWith | endsWith | like => exact condition _
  | contains =>
    have searches : Sql.searchesString subject (.ofValue (.string p)) = true := by
      unfold Sql.searchesString
      rcases text with is | is <;> rw [is]
      rfl
    show Sql.contains [⟨subject, subject.written⟩, ⟨.ofValue (.string p), _⟩] known sheet = _
    unfold Sql.contains
    dsimp only
    split
    · cases plain
    · rw [if_pos searches]
      exact condition _

/-- With a computed prefix or suffix the pattern is put together in the query. -/
theorem text_affix (test : StringTest operator builtin pattern answer) {left right : Target}
    (is : operator = .beginsWith ∨ operator = .endsWith) (plain : right.isPlain)
    {known : List (String × String)} {sheet : Sql.Sheet} {subject affix : String}
    (written : left.written.text known sheet = .ok subject sheet)
    (written' : right.written.text known sheet = .ok affix sheet) :
    (Target.call .boolean builtin [left, right]).written.text known sheet
      = .ok ("(" ++ subject ++ " LIKE " ++ Sql.affix operator affix ++ ")") sheet := by
  have computed : Sql.stringArgument? [⟨left, left.written⟩, ⟨right, right.written⟩] 1 = none :=
    Target.constantString?_of_isPlain plain
  cases test with
  | beginsWith =>
    have joined : "(" ++ subject ++ " LIKE " ++ affix ++ " || '%')"
        = "(" ++ subject ++ " LIKE " ++ (affix ++ " || '%'") ++ ")" := String.ext (by simp)
    show Sql.beginsWith [⟨left, left.written⟩, ⟨right, right.written⟩] known sheet = _
    unfold Sql.beginsWith
    simp only [computed, Sql.argument, List.getElem?_cons_zero, List.getElem?_cons_succ, Bind.bind,
      ReaderT.bind, EStateM.bind, written, written', joined]
    rfl
  | endsWith =>
    have joined : "(" ++ subject ++ " LIKE '%' || " ++ affix ++ ")"
        = "(" ++ subject ++ " LIKE " ++ ("'%' || " ++ affix) ++ ")" := String.ext (by simp)
    show Sql.endsWith [⟨left, left.written⟩, ⟨right, right.written⟩] known sheet = _
    unfold Sql.endsWith
    simp only [computed, Sql.argument, List.getElem?_cons_zero, List.getElem?_cons_succ, Bind.bind,
      ReaderT.bind, EStateM.bind, written, written', joined]
    rfl
  | contains | like => rcases is with is | is <;> cases is

end StringTest

/-! ## Compiled tests -/

/-- The object is the first row. -/
theorem Target.text_object (kind : Kind) :
    (Target.parameter kind Scope.objectName).written.text [(Scope.objectName, "t0")] ⟨[], 0⟩
      = .ok "t0" ⟨[], 0⟩ :=
  Sql.textOf_run ..

/-- What a key path of properties of the object is lowered to. -/
theorem Expr.exists_lower_path {path : String} {kind property : Kind}
    (properties : ∀ name ∈ segments path, isProperty name)
    (known : (segments path).foldlM Kind.property kind = .ok property) {settings : Settings}
    {scope : Scope}
    (found : scope.bindings.find? Scope.objectName = some (.parameter kind Scope.objectName)) :
    ∃ t after, (Expr.path path).lower settings scope = .ok t after ∧ t.kind = property
      ∧ (Target.parameter kind Scope.objectName).Leads settings.dialect (segments path) t := by
  obtain ⟨t, after, run, same, leads⟩ := exists_follow (.parameter kind _) properties
    known settings scope
  refine ⟨t, after, ?_, same, leads⟩
  rw [Expr.lower, bind_run_of_ok (object_run found)]
  exact run

/-- A comparison of two lowered operands. -/
theorem Predicate.lower_comparison_run {e e' : Expr} {operator : Operator} {settings : Settings}
    {scope between after last : Scope} {left right t : Target}
    (run : e.lower settings scope = .ok left between)
    (run' : e'.lower settings between = .ok right after)
    (compared : compare operator left right settings after = .ok t last) :
    (Predicate.comparison e operator e' .direct .none).lower settings scope = .ok t last := by
  rw [Predicate.lower, bind_run_of_ok run, bind_run_of_ok run', comparison_direct rfl]
  exact compared

/-- The test of what a key path leads to against a constant. -/
theorem Predicate.exists_stringTest {operator : Operator} {builtin : Builtin}
    {pattern : String → List Char} {answer : String → String → Bool}
    (test : StringTest operator builtin pattern answer) {path : String} {kind property : Kind}
    (properties : ∀ name ∈ segments path, isProperty name)
    (known : (segments path).foldlM Kind.property kind = .ok property) (text : property.isText)
    (p : String) (settings : Settings) :
    ∃ subject compiled, (Predicate.comparison (.path path) operator (.constant (.string p)) .direct
        .none).compile kind settings = .ok compiled ∧ compiled.dialect = settings.dialect
      ∧ subject.kind.isText
      ∧ (Target.parameter kind Scope.objectName).Leads settings.dialect (segments path) subject
      ∧ Target.MayGuard (fun s => .call .boolean builtin [s, .ofValue (.string p)]) subject
        compiled.target
      ∧ (settings.dialect = .backend →
        compiled.target = .call .boolean builtin [subject, .ofValue (.string p)]) := by
  obtain ⟨subject, between, run, rfl, leads⟩ := Expr.exists_lower_path properties known
    (Scope.find?_root_object kind settings)
  obtain ⟨t, after, run', guards⟩ := exists_guarded
    (fun s => .call .boolean builtin [s, .ofValue (.string p)]) subject settings between
  have compared := run'
  rw [← test.compare_eq text (.inl rfl) (leads.effects rfl) rfl] at compared
  refine ⟨subject, ⟨t, settings.dialect⟩, Predicate.compile_eq_ok.mpr ⟨rfl, after, ?_⟩, rfl, text,
    leads, guards, fun backend => ?_⟩
  · exact Predicate.lower_comparison_run run rfl compared
  · rw [guarded_of_backend backend] at run'
    cases run'
    rfl

/-- A test has no effects. -/
theorem StringTest.hasEffects_eq_false {operator : Operator} {builtin : Builtin}
    {pattern : String → List Char} {answer : String → String → Bool}
    (test : StringTest operator builtin pattern answer) {subject t : Target} {p : String}
    (guards : Target.MayGuard (fun s => .call .boolean builtin [s, .ofValue (.string p)]) subject t)
    (quiet : subject.hasEffects = false) : t.hasEffects = false := by
  have call {subject : Target} (quiet : subject.hasEffects = false) :
      (Target.call .boolean builtin [subject, .ofValue (.string p)]).hasEffects = false := by
    cases test <;>
      simp [Target.hasEffects, Target.anyHasEffects, quiet, Target.ofValue]
  rcases guards with rfl | ⟨name, -, rfl⟩
  · exact call quiet
  · exact Bool.or_eq_false_iff.mpr ⟨quiet, call rfl⟩

/-- A test of a string property against a constant is written as a condition with a literal pattern,
and compiled for objects it accepts those whose string looks like the pattern. The property may be
one of a property, and need not be known to be a string. -/
theorem Predicate.like_iff_test (operator : Operator)
    (is : operator ∈ [Operator.beginsWith, .endsWith, .contains, .like]) (path : String)
    {kind property : Kind} (properties : ∀ name ∈ segments path, isProperty name)
    (known : (segments path).foldlM Kind.property kind = .ok property) (text : property.isText)
    (p : String) (settings : Settings) :
    ∃ literal query compiled,
      (Predicate.comparison (.path path) operator (.constant (.string p)) .direct .none).compile kind
          { settings with dialect := .backend } = .ok query
        ∧ query.sql = .ok ("(" ++ Sql.column "t0" (segments path) ++ " LIKE " ++ literal
          ++ " ESCAPE '\\')")
        ∧ (Predicate.comparison (.path path) operator (.constant (.string p)) .direct .none).compile
          kind { settings with dialect := .objects } = .ok compiled
        ∧ ∀ (s : String) (object : Value) (world : World) (memory : Memory),
          (segments path).foldlM (fun v name => v.field? name) object = some (.string s) →
          ∃ b, compiled.test object world memory = .ok b memory
            ∧ (b ↔ Sql.Admits (some '\\') literal s) := by
  obtain ⟨builtin, pattern, answer, test⟩ :
      ∃ builtin pattern answer, StringTest operator builtin pattern answer := by
    simp only [List.mem_cons, List.not_mem_nil, or_false] at is
    rcases is with rfl | rfl | rfl | rfl
    · exact ⟨_, _, _, .beginsWith⟩
    · exact ⟨_, _, _, .endsWith⟩
    · exact ⟨_, _, _, .contains⟩
    · exact ⟨_, _, _, .like⟩
  obtain ⟨subject, query, compiles, dialect, text', leads, -, target⟩ :=
    Predicate.exists_stringTest test properties known text p { settings with dialect := .backend }
  obtain ⟨subject', compiled, compiles', -, -, leads', guards, -⟩ :=
    Predicate.exists_stringTest test properties known text p { settings with dialect := .objects }
  refine ⟨Sql.quote (pattern p), query, compiled, compiles, ?_, compiles', ?_⟩
  · have row := Target.text_object kind
    rw [Compiled.sql, if_pos dialect, target rfl, Target.sql,
      test.text_call text' (leads.plain rfl) p (leads.text rfl _ _ _ row)]
    rfl
  · intro s object world memory field
    refine ⟨answer s p, ?_, (test.admits_iff s p).symm⟩
    have quiet := leads'.effects rfl
    have self (store : Store) : (lookup Scope.objectName world
        (Surroundings.push ⟨[], []⟩ Scope.objectName object) store).result = .ok object :=
      Target.result_lookup_push Scope.objectName object
    refine Compiled.test_of_result (test.hasEffects_eq_false guards quiet) ?_
    exact test.result_call guards quiet (leads'.value rfl _ _ _ object _ (self _) field)

/-- A pattern with every character that a literal or a pattern treats in a way of its own. -/
theorem Predicate.like_iff_test_name : ∃ literal query compiled,
    (Predicate.comparison (.path "name") .like (.constant (.string "50%_'\\*?")) .direct .none).compile
        .any (.ofDialect .backend) = .ok query
      ∧ query.sql = .ok ("(t0.name LIKE " ++ literal ++ " ESCAPE '\\')")
      ∧ (Predicate.comparison (.path "name") .like (.constant (.string "50%_'\\*?")) .direct
        .none).compile .any (.ofDialect .objects) = .ok compiled
      ∧ ∀ (world : World) (memory : Memory),
        ∃ b, compiled.test (.object [("name", .string "50%_'\\ off")]) world memory = .ok b memory
          ∧ (b ↔ Sql.Admits (some '\\') literal "50%_'\\ off") := by
  obtain ⟨literal, query, compiled, written, sql, lowered, accepts⟩ :=
    Predicate.like_iff_test .like (by decide) "name" (by decide +kernel)
      (show (segments "name").foldlM Kind.property .any = .ok .any from rfl) (.inr rfl)
      "50%_'\\*?" (.ofDialect .objects)
  refine ⟨literal, query, compiled, written, sql, lowered, fun world memory => ?_⟩
  exact accepts _ _ world memory rfl

/-! ## Computed patterns -/

/-- A test of a string property against another one is written as a condition with a pattern that
the query puts together. Wildcards in the property stay wildcards in it. -/
theorem Predicate.affix_sql {operator : Operator}
    (is : operator = .beginsWith ∨ operator = .endsWith) {path path' : String} {kind property property' : Kind}
    (properties : ∀ name ∈ segments path, isProperty name)
    (known : (segments path).foldlM Kind.property kind = .ok property) (text : property.isText)
    (properties' : ∀ name ∈ segments path', isProperty name)
    (known' : (segments path').foldlM Kind.property kind = .ok property') (text' : property'.isText)
    {settings : Settings} (backend : settings.dialect = .backend) :
    ∃ query, (Predicate.comparison (.path path) operator (.path path') .direct .none).compile kind
        settings = .ok query
      ∧ query.sql = .ok ("(" ++ Sql.column "t0" (segments path) ++ " LIKE "
        ++ Sql.affix operator (Sql.column "t0" (segments path')) ++ ")") := by
  obtain ⟨builtin, pattern, answer, test⟩ :
      ∃ builtin pattern answer, StringTest operator builtin pattern answer := by
    rcases is with rfl | rfl
    · exact ⟨_, _, _, .beginsWith⟩
    · exact ⟨_, _, _, .endsWith⟩
  obtain ⟨left, between, run, rfl, leads⟩ := Expr.exists_lower_path properties known
    (Scope.find?_root_object kind settings)
  have kept : between.bindings = (Scope.root kind settings).bindings :=
    (plain_of_lower rfl (Scope.isProper_root kind settings) run).2.2
  obtain ⟨right, after, run', rfl, leads'⟩ := Expr.exists_lower_path properties' known'
    (kept ▸ Scope.find?_root_object kind settings)
  have compared : compare operator left right settings after
      = .ok (.call .boolean builtin [left, right]) after := by
    rw [test.compare_eq text text' (leads.effects rfl) (leads'.effects rfl),
      guarded_of_backend backend]
    rfl
  refine ⟨⟨_, settings.dialect⟩, Predicate.compile_eq_ok.mpr
    ⟨rfl, after, Predicate.lower_comparison_run run run' compared⟩, ?_⟩
  have row := Target.text_object kind
  rw [Compiled.sql, if_pos backend, Target.sql, test.text_affix is (leads'.plain rfl)
    (leads.text backend _ _ _ row) (leads'.text backend _ _ _ row)]

end PredicateLang
