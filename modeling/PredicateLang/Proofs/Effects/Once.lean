import PredicateLang.Proofs.Effects.Compiled
import PredicateLang.Proofs.Effects.Occurrence
import PredicateLang.Proofs.Renaming.Compiled
import PredicateLang.Proofs.Typing.Lowering

/-!
# Nothing is done twice

What an expression without subqueries says is to be done is done at most once, and in the order in
which it stands there, although lowering needs some operands in several places. There is one
exception: the last item of a list is looked for in one copy of the list and counted in another, and
so the items of the list are evaluated twice.
-/

namespace PredicateLang

namespace Lowering

variable {names : Fields Target} {os os' : List Occurrence} {s t subject : Target}

/-! ## Guards and key paths -/

/-- An operation with an operand of its own does what the subject does and then what the operand
does, behind a guard or not. -/
theorem keeps_guardedDoes {build : Target → Lowering Target} (h : subject.Does os)
    (h' : ∀ os u, u.Does os → Keeps names (build u) (·.Operates (os ++ os'))) :
    Keeps names (guarded subject build) (·.Operates (os ++ os')) := by
  refine keeps_dialect.bind fun dialect _ => ?_
  split
  · exact (keeps_fresh "g").bind fun binding _ =>
      (h' [] _ (Target.does_parameter _ _)).bind fun body operates =>
        keeps_pure ⟨h.guard operates.does _ _, rfl⟩
  · exact h' os subject h

/-- An operation on the subject alone does what the subject does. -/
theorem keeps_guardedAlone {build : Target → Lowering Target} (h : subject.Does os)
    (h' : ∀ os u, u.Does os → Keeps names (build u) (·.Operates os)) :
    Keeps names (guarded subject build) (·.Operates os) := by
  have all := keeps_guardedDoes h fun os u does => by
    rw [List.append_nil]
    exact h' os u does
  rwa [List.append_nil] at all

theorem keeps_propertyDoes (name : String) (kind : Kind) {os : List Occurrence} {t : Target}
    (h : t.Does os) : Keeps names (propertyOn name kind t) (·.Operates os) := by
  match kind with
  | .sequence element =>
    refine (keeps_fresh "e").bind fun parameter _ => ?_
    have item : (Target.parameter element parameter).Does [] := Target.does_parameter _ _
    exact (keeps_propertyDoes name element item).bind fun body operates =>
      keeps_pure ⟨h.map operates.does _ _, rfl⟩
  | .any | .null | .boolean | .integer _ | .float | .double | .string | .guid | .date
  | .record .. =>
    unfold propertyOn
    split
    · exact keeps_guardedAlone h fun _ _ does => keeps_pure ⟨does.property _ _, rfl⟩
    · exact keeps_typeFault _

theorem keeps_countDoes (h : t.Does os) : Keeps names (count t) (·.Operates os) :=
  keeps_guardedAlone h fun _ _ does => keeps_pure ⟨does.count _, rfl⟩

theorem keeps_reduceDoes (h : t.Does os) (reduction : Reduction) (element : Kind) :
    Keeps names (reduce t reduction element) (·.Operates os) := by
  unfold reduce
  split
  · exact keeps_guardedAlone h fun _ _ does => keeps_pure ⟨does.reduce _ _, rfl⟩
  · exact keeps_typeFault _

theorem keeps_operatorDoes (name : String) (h : t.Does os) :
    Keeps names (collectionOperator t name) (·.Operates os) := by
  refine (keeps_elementOf _ _ t).bind fun element _ => ?_
  dsimp only
  split
  · exact keeps_countDoes h
  · split
    · exact keeps_reduceDoes h _ _
    · exact keeps_typeFault _

/-- What segments lead to is an operation, if there are any. -/
theorem keeps_followDoes (segments : List String) (h : t.Does os) :
    Keeps names (follow t segments)
      (fun u => u.Does os ∧ (u.isList → segments = [] ∧ t.isList)) := by
  induction segments generalizing t with
  | nil => exact keeps_pure ⟨h, fun list => ⟨rfl, list⟩⟩
  | cons segment rest ih =>
    unfold follow
    split
    · exact (ih h).bind fun _ leads => (keeps_operatorDoes _ leads.1).mono fun _ operates =>
        ⟨operates.does, by simp [operates.isList]⟩
    · exact (keeps_propertyDoes segment _ h).bind fun _ operates =>
        (ih operates.does).mono fun _ leads => ⟨leads.1, by simpa [operates.isList] using leads.2⟩

/-! ## Functions -/

theorem keeps_fractionalDoes (h : t.Does os) : Keeps names (fractional t) (·.Does os) := by
  unfold fractional
  split
  · exact keeps_pure h
  · exact keeps_ofResult fun _ cast => Target.does_of_cast h cast

theorem keeps_onSharedKindDoes (op : BinaryOp) (h : s.Does os) (h' : t.Does os') :
    Keeps names (onSharedKind op s t) (·.Operates (os ++ os')) := by
  unfold onSharedKind
  split
  · exact keeps_pure ⟨h.binary h' _ op, rfl⟩
  · refine (keeps_ofResult fun _ made => made).bind ?_
    rintro ⟨s', t'⟩ made
    obtain ⟨cast, cast'⟩ := Target.isCast_of_makeComparable made
    exact keeps_pure
      ⟨(Target.does_of_isCast h cast).binary (Target.does_of_isCast h' cast') _ op, rfl⟩

theorem keeps_arithmeticDoes (selector : String) (op : BinaryOp) (h : s.Does os)
    (h' : t.Does os') : Keeps names (arithmetic selector op s t) (·.Operates (os ++ os')) := by
  refine (keeps_numeric selector s).bind ?_
  rintro _ ⟨rfl, -⟩
  refine (keeps_numeric selector t).bind ?_
  rintro _ ⟨rfl, -⟩
  split
  · exact (keeps_ofResult fun _ cast => cast).bind fun _ cast =>
      (keeps_ofResult fun _ cast => cast).bind fun _ cast' =>
        keeps_pure ⟨(Target.does_of_cast h cast).binary (Target.does_of_cast h' cast') _ op, rfl⟩
  · exact keeps_onSharedKindDoes op h h'

/-- A builtin function that draws nothing does what its argument does. -/
theorem operates_callStill (h : t.Does os) (kind : Kind) {builtin : Builtin}
    (still : builtin.isRandom = false) : (Target.call kind builtin [t]).Operates os :=
  ⟨by simpa [Occurrence.draws, still] using h.call kind builtin, rfl⟩

theorem keeps_castAsDoes (h : s.Does os) {builtin : Builtin} (still : builtin.isRandom = false)
    (kind : Kind) (cast : Value → Except EvaluationFault Value) :
    Keeps names (match s.constant? with
      | some constant =>
        if constant.isNull then castTo.castLater s builtin kind
        else
          match cast constant with
          | .ok result => return .ofValue result
          | .error fault => throw (.evaluation fault)
      | none => castTo.castLater s builtin kind) (·.Operates os) := by
  have later : Keeps names (castTo.castLater s builtin kind) (·.Operates os) := by
    refine keeps_dialect.bind fun dialect _ => ?_
    split
    · exact keeps_throw _
    · exact keeps_pure (operates_callStill h kind still)
  split
  · split
    · exact later
    · split
      · exact keeps_pure ⟨Target.does_constant _ _, rfl⟩
      · exact keeps_throw _
  · exact later

theorem keeps_castToDoes (h : s.Does os) (typeName : Target) :
    Keeps names (castTo s typeName) (·.Operates os) := by
  unfold castTo
  split
  · dsimp only
    split
    · exact keeps_castAsDoes h rfl _ _
    · exact keeps_castAsDoes h rfl _ _
    · exact keeps_castAsDoes h rfl _ _
    · exact (keeps_typeFault (P := fun _ => False) _).bind fun _ never => never.elim
  · exact keeps_typeFault _

/-- The amount that a date is moved by is evaluated after the date, in what is called. -/
theorem operates_move {date amount : Target} (h : date.Does os) (h' : amount.Does os')
    {builtin : Builtin} (still : builtin.isRandom = false) :
    (Target.call .date builtin [date, amount]).Operates (os ++ os') := by
  have both : Target.AllDo (os ++ os') [date, amount] := by
    simpa using Target.AllDo.cons h (.cons h' .nil)
  exact ⟨by simpa [Occurrence.draws, still] using both.call .date builtin, rfl⟩

theorem keeps_backendAmountDoes (h : t.Does os) : Keeps names (backendAmount t) (·.Does os) := by
  unfold backendAmount
  split
  · exact keeps_ofResult fun _ cast => Target.does_of_cast h cast
  · exact keeps_pure h

theorem keeps_moveDateDoes (selector : String) (unit : DateUnit) (h : s.Does os)
    (h' : t.Does os') : Keeps names (moveDate selector unit s t) (·.Operates (os ++ os')) := by
  have still : (Builtin.dateAdd unit).isRandom = false := rfl
  have still' : (Builtin.backendDateAdd unit).isRandom = false := rfl
  refine (keeps_numeric selector t).bind ?_
  rintro amount ⟨same, -⟩
  rw [same]
  split
  case h_4 => exact keeps_typeFault _
  all_goals
    refine keeps_dialect.bind fun dialect _ => ?_
    cases dialect with
    | objects =>
      exact (keeps_fractionalDoes h').bind fun amount does =>
        keeps_guardedDoes h fun _ _ date => keeps_pure (operates_move date does still)
    | backend =>
      exact (keeps_backendAmountDoes h').bind fun amount does =>
        keeps_pure (operates_move h does still')

theorem keeps_textDoes (selector : String) (builtin : Builtin) (h : t.Does os) :
    Keeps names (textFunction selector builtin t)
      (·.Operates (os ++ Occurrence.draws builtin.isRandom)) := by
  have called (kind : Kind) : Keeps names
      (guarded t fun argument => return .call kind builtin [argument])
      (·.Operates (os ++ Occurrence.draws builtin.isRandom)) :=
    keeps_guardedDoes h fun _ _ does => keeps_pure ⟨does.call kind builtin, rfl⟩
  unfold textFunction
  split
  · exact called _
  · exact called _
  · exact called _
  · exact keeps_typeFault _

/-- A builtin function of one argument does what the argument does, and then draws a random number
if it means that. -/
theorem keeps_unaryDoes {selector : String} {meaning : Meaning} {step : Lowering Target}
    (h : t.Does os) (is : unaryCall? selector t meaning = some step) :
    Keeps names step (·.Operates (os ++ Occurrence.draws meaning.isRandom)) := by
  have still {step : Lowering Target} (does : Keeps names step (·.Operates os)) :
      Keeps names step (·.Operates (os ++ Occurrence.draws false)) :=
    does.mono fun _ operates => operates.mono (List.sublist_append_left os _)
  cases meaning <;> cases is
  case reduce reduction =>
    exact still ((keeps_elementOf _ _ t).bind fun element _ => keeps_reduceDoes h reduction element)
  case count => exact still ((keeps_elementOf _ _ t).bind fun _ _ => keeps_countDoes h)
  case math builtin =>
    refine (keeps_numeric selector t).bind ?_
    rintro _ ⟨rfl, -⟩
    exact (keeps_fractionalDoes h).bind fun _ does => keeps_pure ⟨does.call _ builtin, rfl⟩
  case rounding builtin =>
    refine (keeps_numeric selector t).bind ?_
    rintro _ ⟨rfl, -⟩
    exact keeps_pure ⟨h.call _ builtin, rfl⟩
  case abs =>
    refine (keeps_numeric selector t).bind ?_
    rintro _ ⟨rfl, -⟩
    exact keeps_pure ⟨h.call _ .abs, rfl⟩
  case negate =>
    refine still ((keeps_numeric selector t).bind ?_)
    rintro _ ⟨rfl, -⟩
    exact keeps_pure ⟨h.unary _ .negate, rfl⟩
  case text builtin => exact keeps_textDoes selector builtin h
  case onesComplement =>
    refine still ((keeps_integral selector t).bind ?_)
    rintro _ ⟨rfl, -⟩
    exact keeps_pure ⟨h.unary _ .onesComplement, rfl⟩
  case randomBelow =>
    refine (keeps_numeric selector t).bind ?_
    rintro _ ⟨rfl, -⟩
    exact keeps_pure ⟨h.call _ .randomBelow, rfl⟩

/-- A builtin function of two arguments does what the one does and then what the other does. -/
theorem keeps_binaryDoes {selector : String} {meaning : Meaning} {step : Lowering Target}
    (h : s.Does os) (h' : t.Does os') (is : binaryCall? selector s t meaning = some step) :
    Keeps names step (·.Operates (os ++ os')) := by
  cases meaning <;> cases is
  case arithmetic op => exact keeps_arithmeticDoes selector op h h'
  case bitwise op =>
    refine (keeps_integral selector s).bind ?_
    rintro _ ⟨rfl, -⟩
    refine (keeps_integral selector t).bind ?_
    rintro _ ⟨rfl, -⟩
    exact keeps_onSharedKindDoes op h h'
  case shift op =>
    refine (keeps_integral selector s).bind ?_
    rintro _ ⟨rfl, -⟩
    refine (keeps_integral selector t).bind ?_
    rintro _ ⟨rfl, -⟩
    exact keeps_pure ⟨h.binary h' _ op, rfl⟩
  case cast =>
    exact (keeps_castToDoes h t).mono fun _ operates =>
      operates.mono (List.sublist_append_left os os')
  case dateAdd unit => exact keeps_moveDateDoes selector unit h h'

/-- A builtin function does what its arguments do, and then draws a random number if it means
that. -/
theorem keeps_callDoes (f : BuiltinFunction) {ts : List Target} (h : Target.AllDo os ts) :
    Keeps names (call f ts) (·.Operates (os ++ Occurrence.draws f.meaning.isRandom)) := by
  unfold call
  split
  case h_2 => exact keeps_typeFault _
  case h_1 step is =>
    unfold call? at is
    cases h with
    | nil =>
      simp only at is
      cases meaning : f.meaning <;> rw [meaning] at is <;> cases is
      · exact keeps_pure ⟨Target.AllDo.nil.call _ .random, rfl⟩
      · exact keeps_pure ⟨Target.AllDo.nil.call _ .now, rfl⟩
    | cons first rest =>
      cases rest with
      | nil =>
        rw [List.append_nil]
        exact keeps_unaryDoes first is
      | cons second rest =>
        cases rest with
        | nil =>
          rw [List.append_nil]
          exact (keeps_binaryDoes first second is).mono fun _ operates =>
            operates.mono (List.sublist_append_left _ _)
        | cons => cases is

/-- The items of a list do what is listed, whatever kind they are cast to. -/
theorem keeps_listDoes {ts : List Target} (h : Target.AllDo os ts) :
    Keeps names (list ts) (·.Does os) := by
  unfold list
  dsimp only
  split
  · exact (keeps_ofResult fun _ casts => casts).bind fun _ casts =>
      keeps_pure ((Target.allDo_of_casts h casts).list _)
  · refine (keeps_pure (P := (· = ts)) rfl).bind fun us same => keeps_pure ?_
    rw [same]
    exact h.list _

/-- Indexing does what the collection does and then what the index does. -/
theorem keeps_indexByDoes (h : s.Does os) (element : Kind) (h' : t.Does os') :
    Keeps names (indexBy s element t) (·.Operates (os ++ os')) := by
  refine (keeps_integral Expr.indexSelector t).bind ?_
  rintro index ⟨same, -⟩
  rw [same]
  exact keeps_guardedDoes h fun _ _ does => keeps_pure ⟨does.elementAt h' element, rfl⟩

/-- A word for a place does what the collection does, unless it is the last place in a list that
does something. -/
theorem operates_of_symbol {settings : Settings} (objects : settings.dialect = .objects)
    {symbol : IndexSymbol} {element : Kind} {scope after : Scope} (h : s.Does os)
    (once : symbol = .last → s.isList → os = [])
    (run : indexBySymbol s element symbol settings scope = .ok t after) : t.Operates os := by
  have nothing {u : Target} (does : u.Does []) :
      (Target.elementAt element u (.binary (.integer .int) .subtract (.count (.integer .int) u)
        (.ofValue (.int 1)))).Does [] :=
    does.elementAt ((does.count _).binary (Target.does_constant _ _) _ _) element
  cases symbol with
  | size => exact (keeps_countDoes h settings scope t after rfl run).1
  | first =>
    have index : (Target.ofValue (.int 0)).Does [] := Target.does_constant _ _
    have guards : Keeps scope.bindings
        (guarded s fun s => return .elementAt element s (.ofValue (.int 0))) (·.Operates os) :=
      keeps_guardedAlone h fun os u does => keeps_pure
        ⟨by simpa using does.elementAt index element, rfl⟩
    exact (guards settings scope t after rfl run).1
  | last =>
    rw [indexBySymbol, guarded_run, objects] at run
    by_cases needs : needsGuard .objects s
    · rw [if_pos needs] at run
      cases run
      exact ⟨by simpa using h.guard (nothing (Target.does_parameter _ _)) _ _, rfl⟩
    · -- Without a guard stand constants, which do nothing, and lists.
      rw [if_neg needs] at run
      cases run
      refine ⟨Target.Does.mono (nothing ?_) (List.nil_sublist os), rfl⟩
      cases s with
      | constant kind value => exact Target.does_constant kind value
      | list kind ts => exact once rfl rfl ▸ h
      | _ => exact absurd rfl needs

end Lowering

open Lowering

/-! ## Expressions -/

mutual

/-- What is done in an expression, in the order of evaluation. What is done in the predicates of
subqueries is left out. -/
def Expr.occurrences : Expr → List Occurrence
  | .pathOn operand _ => operand.occurrences
  | .call selector args =>
    Expr.allOccurrences args ++ Occurrence.draws (BuiltinFunction.isRandom selector)
  | .subquery collection _ _ => collection.occurrences
  | .list items => Expr.allOccurrences items
  | .assign name value => value.occurrences ++ [.assign (Scope.variableKey name)]
  | .constant _ | .self | .var _ | .path _ | .symbol _ => []

/-- What is done in expressions, one after the other. -/
def Expr.allOccurrences : List Expr → List Occurrence
  | [] => []
  | e :: rest => e.occurrences ++ Expr.allOccurrences rest

end

/-- Is the expression lowered to a list? -/
def Expr.isList : Expr → Bool
  | .list _ => true
  | .pathOn operand keys => (segments keys).isEmpty && operand.isList
  | _ => false

/-- There is no subquery, and of no list in which something is done the last item is looked for. -/
def Condition.once : Condition where
  expr
    | .subquery .. => false
    | .call _ [collection, .symbol .last] => !collection.isList || collection.occurrences.isEmpty
    | _ => true
  predicate _ := true

/-- Is there no subquery in the expression, and is of no list in which something is done the last
item looked for? -/
def Expr.isOnce (e : Expr) : Bool := e.meets .once

theorem Lowering.known_of_function {selector : String} {arity : Nat} {settings : Settings}
    {scope after : Scope} {f : BuiltinFunction}
    (run : function selector arity settings scope = .ok f after) :
    BuiltinFunction.ofSelector? selector = some f ∧ after = scope := by
  unfold function at run
  cases known : BuiltinFunction.ofSelector? selector with
  | none =>
    rw [known] at run
    cases run
  | some g =>
    simp only [known] at run
    split at run
    · cases run
      exact ⟨rfl, rfl⟩
    · cases run

theorem Expr.isOnce_call {selector : String} {args : List Expr}
    (once : (call selector args).isOnce) : allMeet .once args := (Bool.and_eq_true_iff.mp once).2

/-- What a name in a proper scope stands for does nothing. -/
theorem Scope.IsProper.does {scope : Scope} (proper : scope.IsProper) {name : String} {t : Target}
    (found : scope.bindings.find? name = some t) : t.Does [] ∧ t.isList = false := by
  rcases proper name t found with ⟨kind, value, rfl⟩ | ⟨kind, rfl, -⟩
  · exact ⟨Target.does_constant _ _, rfl⟩
  · exact ⟨Target.does_parameter _ _, rfl⟩

/-- What a name is lowered to does nothing. -/
theorem Lowering.does_bound {settings : Settings} {scope after : Scope} (proper : scope.IsProper)
    {name : String} {e : Error} {t : Target} (run : (do
      match ← binding? name with
      | some target => return target
      | none => throw e : Lowering Target) settings scope = .ok t after) :
    t.Does [] ∧ t.isList = false := by
  obtain ⟨found, between, bound, run⟩ := exists_of_run_bind run
  cases bound
  cases known : scope.bindings.find? name with
  | none =>
    rw [known] at run
    cases run
  | some target =>
    rw [known] at run
    cases run
    exact proper.does known

mutual

/-- What an expression is lowered to does what is done in the expression. -/
theorem Expr.does_of_lower (e : Expr) (once : e.isOnce) {settings : Settings}
    (objects : settings.dialect = .objects) {scope after : Scope} {t : Target}
    (proper : scope.IsProper) (run : e.lower settings scope = .ok t after) :
    t.Does e.occurrences ∧ (t.isList → e.isList) := by
  match e with
  | .constant value =>
    cases run
    exact ⟨Target.does_constant _ _, nofun⟩
  | .self | .var _ =>
    obtain ⟨does, list⟩ := does_bound proper run
    exact ⟨does, by simp [list]⟩
  | .path keys =>
    obtain ⟨object, between, bound, run⟩ := exists_of_run_bind run
    obtain ⟨does, list⟩ := does_bound proper bound
    obtain ⟨does, leads⟩ := (keeps_followDoes _ does settings _ t after rfl run).1
    exact ⟨does, fun is => by simp [list] at leads; simp [leads] at is⟩
  | .pathOn operand keys =>
    obtain ⟨receiver, between, first, run⟩ := exists_of_run_bind run
    obtain ⟨does, list⟩ := operand.does_of_lower once objects proper first
    obtain ⟨does, leads⟩ := (keeps_followDoes _ does settings _ t after rfl run).1
    exact ⟨does, fun is => by simp [isList, leads is, list]⟩
  | .call selector args =>
    obtain ⟨f, between, found, onward⟩ := exists_of_run_bind run
    obtain ⟨known, rfl⟩ := known_of_function found
    have random : BuiltinFunction.isRandom selector = f.meaning.isRandom := by
      simp [BuiltinFunction.isRandom, known]
    have operates : t.Operates (call selector args).occurrences := by
      rw [occurrences, random]
      split at onward
      · exact (Expr.operates_of_lowerIndex args once objects proper onward).mono
          (List.sublist_append_left _ _)
      · obtain ⟨ts, last, all, run⟩ := exists_of_run_bind onward
        have each := Expr.allDo_of_lowerAll args (isOnce_call once) objects proper all
        exact (keeps_callDoes f each settings last t after rfl run).1
    exact ⟨operates.does, by simp [operates.isList]⟩
  | .subquery .. => cases once
  | .list items =>
    obtain ⟨ts, between, all, run⟩ := exists_of_run_bind run
    have each := Expr.allDo_of_lowerAll items once objects proper all
    exact ⟨(keeps_listDoes each settings between t after rfl run).1, fun _ => rfl⟩
  | .symbol place => cases run
  | .assign name value =>
    obtain ⟨u, between, first, run⟩ := exists_of_run_bind run
    obtain ⟨does, -⟩ := value.does_of_lower once objects proper first
    cases run
    exact ⟨does.assign _ _, nofun⟩

/-- What indexing is lowered to does what is done in the arguments. -/
theorem Expr.operates_of_lowerIndex {selector : String} (args : List Expr)
    (once : (Expr.call selector args).isOnce) {settings : Settings}
    (objects : settings.dialect = .objects) {scope after : Scope} {t : Target}
    (proper : scope.IsProper) (run : Expr.lowerIndex args settings scope = .ok t after) :
    t.Operates (Expr.allOccurrences args) := by
  have each := isOnce_call once
  unfold Expr.lowerIndex at run
  split at run
  · rename_i collection symbol
    obtain ⟨source, between, first, run⟩ := exists_of_run_bind run
    obtain ⟨element, last, known, run⟩ := exists_of_run_bind run
    obtain ⟨here, -⟩ := Bool.and_eq_true_iff.mp each
    obtain ⟨does, list⟩ := collection.does_of_lower here objects proper first
    have operates : t.Operates collection.occurrences := by
      refine operates_of_symbol objects does (fun is lists => ?_) run
      subst is
      have fine := (Bool.and_eq_true_iff.mp once).1
      simpa [Condition.once, list lists] using fine
    simpa [allOccurrences, occurrences] using operates
  · rename_i collection place _
    obtain ⟨source, between, first, run⟩ := exists_of_run_bind run
    obtain ⟨element, middle, known, run⟩ := exists_of_run_bind run
    obtain ⟨index, last, second, run⟩ := exists_of_run_bind run
    obtain ⟨here, there⟩ := Bool.and_eq_true_iff.mp each
    obtain ⟨there, -⟩ := Bool.and_eq_true_iff.mp there
    have same := (keeps_elementOf _ _ source settings between element middle rfl known).2
    have proper' := (Expr.isProper_of_lower proper first).of_bindings_eq same
    obtain ⟨does, -⟩ := collection.does_of_lower here objects proper first
    obtain ⟨does', -⟩ := place.does_of_lower there objects proper' second
    have operates := (keeps_indexByDoes does element does' settings last t after rfl run).1
    simpa [allOccurrences] using operates
  · cases run

/-- What expressions are lowered to does what is done in them. -/
theorem Expr.allDo_of_lowerAll (es : List Expr) (once : Expr.allMeet .once es)
    {settings : Settings} (objects : settings.dialect = .objects) {scope after : Scope}
    {ts : List Target} (proper : scope.IsProper)
    (run : Expr.lowerAll es settings scope = .ok ts after) :
    Target.AllDo (Expr.allOccurrences es) ts := by
  match es with
  | [] =>
    cases run
    exact .nil
  | e :: rest =>
    obtain ⟨t, between, first, run⟩ := exists_of_run_bind run
    obtain ⟨others, last, all, made⟩ := exists_of_run_bind run
    cases made
    obtain ⟨here, there⟩ := Bool.and_eq_true_iff.mp once
    exact .cons (e.does_of_lower here objects proper first).1
      (Expr.allDo_of_lowerAll rest there objects (Expr.isProper_of_lower proper first) all)

end

/-! ## Compiled expressions -/

theorem Target.does_of_asResult {os : List Occurrence} {t u : Target} {kind : Kind} (h : t.Does os)
    (made : t.asResult kind = .ok u) : u.Does os := by
  unfold asResult at made
  split at made
  · cases made
    exact h
  · split at made
    · exact does_of_cast h made
    · cases made
      exact h.convert kind

/-- What is done when an expression is evaluated about an object is done in the expression: it is
done at most once, in the same order. So no more random numbers are taken than are drawn in the
expression, also by an evaluation that fails. -/
theorem Compiled.occurrences_of_once {e : Expr} (once : e.isOnce) {kind : Kind}
    {result : Option Kind} {settings : Settings} (objects : settings.dialect = .objects)
    {c : Compiled} (compiled : e.compile kind result settings = .ok c) (object : Value)
    (world : World) (memory : Memory) :
    (c.runOn object world memory).occurrences.Sublist e.occurrences
      ∧ ∀ after : Memory, (∃ v, c.value object world memory = .ok v after)
          ∨ (∃ error, c.value object world memory = .error error after) →
        after.drawn ≤ memory.drawn + e.occurrences.count .draw := by
  have does : c.target.Does e.occurrences := by
    obtain ⟨t, lowered, made⟩ := exists_of_bind_ok compiled
    have alone : e.compile kind none settings = .ok ⟨t, settings.dialect⟩ := by
      unfold Expr.compile
      rw [lowered]
      rfl
    obtain ⟨-, scope, run⟩ := Expr.compile_eq_ok.mp alone
    have plain := (e.does_of_lower once objects (Scope.isProper_root kind settings) run).1
    cases result with
    | none =>
      cases made
      exact plain
    | some wanted =>
      obtain ⟨u, ok, made⟩ := exists_of_bind_ok made
      cases made
      exact Target.does_of_asResult plain ok
  obtain ⟨sub, drawn⟩ := does world ⟨(start object memory).slots, []⟩
    ⟨(start object memory).assigned, memory.drawn⟩
  have most : (c.runOn object world memory).store.drawn
      ≤ memory.drawn + e.occurrences.count .draw := by
    have fewer := sub.count_le Occurrence.draw
    exact drawn.trans_le (Nat.add_le_add_left fewer _)
  refine ⟨sub, fun after done => ?_⟩
  have same : after.drawn = (c.runOn object world memory).store.drawn := by
    unfold value Evaluation.about at done
    rw [← start, ← outcome_runOn, Run.outcome] at done
    cases ended : (c.runOn object world memory).result with
    | ok v =>
      rw [ended] at done
      obtain ⟨w, ⟨⟩⟩ | ⟨error, ⟨⟩⟩ := done
      rfl
    | error e =>
      rw [ended] at done
      obtain ⟨w, ⟨⟩⟩ | ⟨error, ⟨⟩⟩ := done
      rfl
  exact same.trans_le most

/-! ## Lists that are evaluated twice -/

/-- To find the last item of a list, the list is evaluated for the item and then for the place. -/
theorem Target.occurrences_last {kind element : Kind} {ts : List Target} {world : World}
    {around : Surroundings} {store : Store} {v : Value}
    (gives : ((list kind ts).traced world around store).result = .ok v) {settings : Settings}
    {scope after : Scope} {t : Target}
    (run : indexBySymbol (.list kind ts) element .last settings scope = .ok t after) :
    (t.traced world around store).occurrences
      = ((list kind ts).traced world around store).occurrences
        ++ ((list kind ts).traced world around
          ((list kind ts).traced world around store).store).occurrences := by
  have free : ¬needsGuard settings.dialect (list kind ts) := by simp [needsGuard]
  rw [indexBySymbol, guarded_run, if_neg free] at run
  cases run
  -- Nothing is done after the list has been evaluated for the place.
  refine (Tracing.occurrences_bind gives).trans (congrArg _ ?_)
  refine (Tracing.occurrences_before fun _ => Tracing.atMost_still _).trans ?_
  refine (Tracing.occurrences_before fun _ => ?_).trans ?_
  · exact (Tracing.atMost_pure _).bind fun _ => Tracing.atMost_still _
  · exact Tracing.occurrences_before fun _ => Tracing.atMost_still _

/-- The last item of a list with one draw takes two random numbers. -/
theorem Expr.last_draws_twice :
    ((list [call "random" [], constant (.int 1)]).index (.symbol .last)).occurrences.count .draw = 1
      ∧ ∃ v after, ((list [call "random" [], constant (.int 1)]).index (.symbol .last)).outcome .any
          none (.ofDialect .objects) .null ⟨⟨0, 0⟩, fun _ => 0⟩ .empty = .ok v after
        ∧ after.drawn = 2 :=
  ⟨by decide +kernel, _, _, rfl, rfl⟩

end PredicateLang
