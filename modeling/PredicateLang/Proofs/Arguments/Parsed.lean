import PredicateLang.Proofs.Arguments.Counted
import PredicateLang.Proofs.Grammar.Parallel
import PredicateLang.Proofs.Grammar.Parse

/-!
# Placeholders receive their arguments

The parser asks for the argument of a placeholder at the position of its word, once or, when it goes
back, more than once; and it knows nothing else of the arguments. So two runs of the parser on the
same words have the same outcome if the words find the same (`Outcome.Shared`). Together with the
scan this says what every text is parsed as: each placeholder is the argument with its number
(`Parser.receives_arguments`).
-/

open PredicateLang.Parser

namespace PredicateLang

/-! ## Building -/

/-- Is it an error that there is no argument for a placeholder? -/
def SyntaxError.lacksArgument (e : SyntaxError) : Bool :=
  match e.fault with
  | .uncountedPlaceholder | .missingArgument => true
  | _ => false

/-- Whatever is on the stack, the step does not fail for want of an argument. -/
def Building.IsSupplied {α : Type} (step : Building α) : Prop :=
  ∀ stack e after, step stack = .error e after → e.lacksArgument = false

namespace Building

variable {α β : Type} {step : Building α}

theorem isSupplied_pure (a : α) : (pure a : Building α).IsSupplied := nofun

theorem isSupplied_throw {e : SyntaxError} (known : e.lacksArgument = false) :
    (throw e : Building α).IsSupplied := by
  intro stack e' after run
  cases run
  exact known

theorem IsSupplied.bind {next : α → Building β} (h : step.IsSupplied)
    (h' : ∀ a, (next a).IsSupplied) : (step >>= next).IsSupplied := by
  intro stack e after run
  simp only [Bind.bind, EStateM.bind] at run
  cases first : step stack with
  | ok a middle =>
    rw [first] at run
    exact h' a middle e after run
  | error e' middle =>
    rw [first] at run
    cases run
    exact h stack e after first

theorem isSupplied_pop? : pop?.IsSupplied := by
  intro stack e after run
  cases stack <;> cases run

theorem isSupplied_popExpr (position : Nat) : (popExpr position).IsSupplied := by
  refine isSupplied_pop?.bind fun operand => ?_
  split
  · exact isSupplied_pure _
  · exact isSupplied_throw rfl
  · exact isSupplied_throw rfl

theorem isSupplied_popPredicate (position : Nat) : (popPredicate position).IsSupplied := by
  refine isSupplied_pop?.bind fun operand => ?_
  split
  · exact isSupplied_pure _
  · exact isSupplied_throw rfl
  · exact isSupplied_throw rfl

theorem isSupplied_finish (tree : α) : (finish tree).IsSupplied := by
  intro stack e after run
  cases stack <;> cases run
  rfl

theorem isSupplied_finishExpr : finishExpr.IsSupplied :=
  (isSupplied_popExpr 0).bind isSupplied_finish

theorem isSupplied_finishPredicate : finishPredicate.IsSupplied :=
  (isSupplied_popPredicate 0).bind isSupplied_finish

end Building

/-! ## Two runs of the parser -/

/-- The placeholders among some words find the same in both, and that is not that an argument is
lacking. -/
structure Arguments.Agree (arguments arguments' : Arguments) (words : List Lexeme) : Prop where
  found : ∀ word ∈ words, ∀ conversion, word.token = .placeholder conversion →
    arguments'.placeholder word.start conversion = arguments.placeholder word.start conversion
  supplied : ∀ word ∈ words, ∀ conversion, word.token = .placeholder conversion →
    ∀ e, arguments.placeholder word.start conversion = .error e → e.lacksArgument = false

/-- What both inputs know of the text from a place on is the same. -/
structure Parser.Input.Agree (input input' : Input) (s : Cursor) : Prop where
  fault : input'.fault = input.fault
  arguments : input.arguments.Agree input'.arguments s.lexemes

namespace Outcome

variable {α β : Type} {m n : Nat} {known : Cursor → Prop}

/-- Two outcomes are the same, a fault is not that an argument is lacking, and what is read ends at
a place that is `known`. -/
inductive Shared (known : Cursor → Prop) : Outcome α n → Outcome α n → Prop where
  | fault {e : SyntaxError} {stack : Stack} (supplied : e.lacksArgument = false) :
    Shared known (.fault e stack) (.fault e stack)
  | read {result : α} {after : Cursor} {le : after.left ≤ n} (h : known after) :
    Shared known (.read result after le) (.read result after le)

end Outcome

namespace Parser

variable {α : Type} {input input' : Input} {s s' : Cursor}

theorem Input.Agree.mono (h : input.Agree input' s) (sub : s'.lexemes ⊆ s.lexemes) :
    input.Agree input' s' :=
  ⟨h.fault, fun word mem => h.arguments.found word (sub mem),
    fun word mem => h.arguments.supplied word (sub mem)⟩

theorem Input.ending_isSupplied (input : Input) : input.ending.lacksArgument = false := by
  unfold ending
  split <;> rfl

/-- Two runs on the same words correspond. -/
def correspondence (h : input.Agree input' s) : Correspondence input input' where
  words word word' := word' = word ∧ word ∈ s.lexemes
  errors e e' := e' = e ∧ e.lacksArgument = false
  token_eq same := congrArg Lexeme.token same.1
  fault same fault known := ⟨same.1 ▸ rfl, by cases fault <;> first | rfl | cases known⟩
  ending := ⟨by simp [Input.ending, h.fault], input.ending_isSupplied⟩
  placeholder := by
    rintro word word' ⟨same, mem⟩ conversion token
    subst same
    rw [h.arguments.found word' mem conversion token]
    cases made : input.arguments.placeholder word'.start conversion with
    | ok e => exact .ok e
    | error e => exact .error ⟨rfl, h.arguments.supplied word' mem conversion token e made⟩

theorem at_correspondence (h : input.Agree input' s) :
    (correspondence h).At s.stack [] s s :=
  ⟨List.forall₂_same.mpr fun _ mem => ⟨rfl, mem⟩, rfl, .refl s.stack⟩

/-- Since the words are the same, so are the places that the runs reach. -/
theorem shared_of_keeps {h : input.Agree input' s} {below : Stack} {sorts : α → List OperandSort}
    {outcome outcome' : Outcome α s.left}
    (keeps : (correspondence h).Keeps below outcome outcome' sorts) :
    outcome.Shared (input.Agree input') outcome' := by
  cases keeps with
  | fault corresponds kept =>
    obtain ⟨rfl, supplied⟩ := corresponds
    exact .fault supplied
  | @read _ after after' _ _ _ reached =>
    have words : List.Forall₂ (· = ·) after.lexemes after'.lexemes :=
      reached.words.imp fun _ _ same => same.1.symm
    rw [List.forall₂_eq_eq_eq] at words
    obtain rfl := Cursor.eq_of_lexemes words.symm reached.stack_eq
    refine .read (h.mono fun word mem => ?_)
    exact (List.forall₂_same.mp reached.words word mem).2

theorem shared_disjunction (s : Cursor) (h : input.Agree input' s) :
    (disjunction input s).Shared (input.Agree input') (disjunction input' s) :=
  shared_of_keeps (Correspondence.keeps_disjunction s s (at_correspondence h))

theorem shared_expression (s : Cursor) (h : input.Agree input' s) :
    (expression input s).Shared (input.Agree input') (expression input' s) :=
  shared_of_keeps (Correspondence.keeps_expression s s (at_correspondence h))

/-! ## Whole texts -/

/-- A parser of whole texts that knows nothing of arguments but what placeholders find. -/
structure IsSupplied (phrase : Input → (s : Cursor) → Outcome Unit s.left) (finish : Building α) :
    Prop where
  reads : ∀ (input input' : Input) (s : Cursor), input.Agree input' s →
    (phrase input s).Shared (input.Agree input') (phrase input' s)
  finishes : finish.IsSupplied

variable {phrase : Input → (s : Cursor) → Outcome Unit s.left} {finish : Building α}

theorem IsSupplied.shared {arguments arguments' : Arguments} {lexing : Lexing}
    (supplied : IsSupplied phrase finish) (h : arguments.Agree arguments' lexing.lexemes) :
    ofLexing phrase finish arguments' lexing = ofLexing phrase finish arguments lexing
    ∧ ∀ e, ofLexing phrase finish arguments lexing = .error e → e.lacksArgument = false := by
  obtain ⟨lexemes, fault⟩ := lexing
  cases lexemes with
  | nil =>
    refine ⟨rfl, fun e failed => ?_⟩
    cases failed
    exact Input.ending_isSupplied _
  | cons first following =>
    have shared := supplied.reads ⟨arguments, fault⟩ ⟨arguments', fault⟩ ⟨first, following, []⟩
      ⟨rfl, h⟩
    unfold ofLexing
    dsimp only
    generalize phrase ⟨arguments, fault⟩ _ = outcome at shared ⊢
    generalize phrase ⟨arguments', fault⟩ _ = outcome' at shared ⊢
    cases shared with
    | fault counted =>
      refine ⟨rfl, fun e failed => ?_⟩
      cases failed
      exact counted
    | @read _ after le =>
      refine ⟨rfl, fun e failed => ?_⟩
      dsimp only at failed
      split at failed
      · cases run : finish.run after.stack with
        | ok tree stack =>
          rw [run] at failed
          cases failed
        | error e' stack =>
          rw [run] at failed
          cases failed
          exact supplied.finishes after.stack _ stack run
      · cases failed
        rfl

end Parser

namespace Arguments

variable {arguments arguments' : Arguments} {values : List Value} {lexing : Lexing}

theorem received_isSupplied {position index : Nat} {conversion : Char} {argument : Value}
    {e : SyntaxError} (h : received position index conversion argument = .error e) :
    e.lacksArgument = false := by
  unfold received at h
  split at h <;> cases h <;> rfl

/-- Nothing but the values is known of arguments that supply them to a text. -/
theorem Supply.agree (h : arguments.Supply values lexing) (h' : arguments'.Supply values lexing) :
    arguments.Agree arguments' lexing.lexemes where
  found := by
    intro word mem conversion token
    obtain ⟨k, number⟩ := Lexing.exists_getElem?_placeholderWords mem token
    obtain ⟨argument, known, receives⟩ := h k word number
    obtain ⟨argument', known', receives'⟩ := h' k word number
    obtain rfl : argument = argument' := Option.some.inj (known.symm.trans known')
    rw [receives, receives']
  supplied := by
    intro word mem conversion token e failed
    obtain ⟨k, number⟩ := Lexing.exists_getElem?_placeholderWords mem token
    obtain ⟨argument, known, receives⟩ := h k word number
    exact received_isSupplied ((receives conversion).symm.trans failed)

end Arguments

namespace Parser

variable {α : Type} {phrase : Input → (s : Cursor) → Outcome Unit s.left} {finish : Building α}
  {text : String} {values : List Value} {arguments : Arguments}

theorem isSupplied_predicate : IsSupplied disjunction Building.finishPredicate :=
  ⟨fun _ _ s h => shared_disjunction s h, Building.isSupplied_finishPredicate⟩

theorem isSupplied_expr : IsSupplied expression Building.finishExpr :=
  ⟨fun _ _ s h => shared_expression s h, Building.isSupplied_finishExpr⟩

/-- If values are refused, then because of their number. -/
theorem IsSupplied.whole_error {e : SyntaxError} (supplied : IsSupplied phrase finish)
    (failed : whole phrase finish text values = .error e) : e.lacksArgument = false := by
  unfold whole at failed
  cases counted : Arguments.ofText text values with
  | error e' =>
    rw [counted] at failed
    cases failed
    unfold Arguments.ofText at counted
    dsimp only at counted
    split at counted <;> cases counted
    rfl
  | ok arguments =>
    rw [counted] at failed
    have known := Arguments.supply_of_counted counted
    exact (supplied.shared (known.agree known)).2 e failed

/-- A text is parsed as it is with any arguments that supply the values. -/
theorem IsSupplied.whole_eq (supplied : IsSupplied phrase finish)
    (counted : values.length = (placeholderOffsets text).length)
    (known : arguments.Supply values (lex text)) :
    whole phrase finish text values = ofLexing phrase finish arguments (lex text) := by
  have made : Arguments.ofText text values = .ok ⟨placeholderOffsets text, values⟩ :=
    if_pos counted.symm
  rw [whole, made]
  exact (supplied.shared (known.agree (Arguments.supply_of_counted made))).1

/-- So the trees of a text are those that the grammar derives of its tokens if each placeholder is
the value with its number. -/
theorem parse_iff_of_supply (counted : values.length = (placeholderOffsets text).length)
    (known : arguments.Supply values (lex text)) :
    (∀ p, Predicate.parse text values = .ok p ↔
      Grammar.DerivesText arguments .disjunction (lex text).lexemes (.predicate p))
    ∧ ∀ e, Expr.parse text values = .ok e ↔
      Grammar.DerivesText arguments .expression (lex text).lexemes (.expr e) := by
  rw [Predicate.parse, Expr.parse, isSupplied_predicate.whole_eq counted known,
    isSupplied_expr.whole_eq counted known]
  exact ⟨fun _ => Grammar.disjunction_iff _ _, fun _ => Grammar.expression_iff _ _⟩

/-- The scan counts the placeholders of the lexer. So parsing never fails for want of an argument,
and with as many values as there are placeholders it does what it does with any arguments that give
each placeholder the value with its number, whatever the ways it goes and goes back. -/
theorem receives_arguments (text : String) (values : List Value) :
    (∀ (k : Nat) p, (lex text).placeholders[k]? = some p → (placeholderOffsets text)[k]? = some p)
    ∧ ((lex text).fault = none →
      (lex text).placeholders.length = (placeholderOffsets text).length)
    ∧ (∀ e, Predicate.parse text values = .error e → e.lacksArgument = false)
    ∧ (∀ e, Expr.parse text values = .error e → e.lacksArgument = false)
    ∧ (values.length = (placeholderOffsets text).length →
      (∃ arguments, Arguments.ofText text values = .ok arguments ∧
        arguments.Supply values (lex text))
      ∧ ∀ arguments : Arguments, arguments.Supply values (lex text) →
        Predicate.parse text values
            = ofLexing disjunction Building.finishPredicate arguments (lex text)
        ∧ Expr.parse text values
            = ofLexing expression Building.finishExpr arguments (lex text)) := by
  refine ⟨fun k p h => getElem?_placeholderOffsets h, fun ends => ?_, fun e => ?_, fun e => ?_,
    fun counted => ⟨?_, fun arguments known => ⟨?_, ?_⟩⟩⟩
  · exact congrArg List.length ((Lexing.scan_eq 0 text.toList).2 ends)
  · exact isSupplied_predicate.whole_error
  · exact isSupplied_expr.whole_error
  · have made : Arguments.ofText text values = .ok ⟨placeholderOffsets text, values⟩ :=
      if_pos counted.symm
    exact ⟨_, made, Arguments.supply_of_counted made⟩
  · exact isSupplied_predicate.whole_eq counted known
  · exact isSupplied_expr.whole_eq counted known

/-- The parser goes back over the first of these placeholders. -/
theorem receives_arguments_twice :
    (lex "(%@ + 1) == %d").placeholders.length = (placeholderOffsets "(%@ + 1) == %d").length
    ∧ ∃ arguments, Arguments.ofText "(%@ + 1) == %d" [.int 1, .int 2] = .ok arguments ∧
      Predicate.parse "(%@ + 1) == %d" [.int 1, .int 2]
        = ofLexing disjunction Building.finishPredicate arguments (lex "(%@ + 1) == %d") := by
  have whole := receives_arguments "(%@ + 1) == %d" [.int 1, .int 2]
  have counted : [Value.int 1, .int 2].length = (placeholderOffsets "(%@ + 1) == %d").length := by
    decide
  obtain ⟨⟨arguments, made, known⟩, eq⟩ := whole.2.2.2.2 counted
  exact ⟨whole.2.1 (by cbv), arguments, made, (eq arguments known).1⟩

end Parser

end PredicateLang
