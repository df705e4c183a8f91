import PredicateLang.Proofs.Grammar.Parallel

/-!
# Going back is exact

The parser goes back from a parenthesis by dropping what lies higher on the stack than before. That
restores the stack only if nothing was taken from below, in whatever way and however far the attempt
went. So every phrase leaves the operands that were on the stack, and adds one of its sort if it is
read (`Outcome.Leaves`); and no production ever lacks its operands.
-/

open PredicateLang.Parser PredicateLang.Grammar

namespace PredicateLang

/-! ## Faults of the stack -/

/-- Faults of the building itself: operands are lacking, of the wrong sort, or left over. -/
def SyntaxFault.isOfOperands : SyntaxFault → Bool
  | missingOperand | missingPredicate | expressionWanted | predicateWanted _ | leftOver _ => true
  | _ => false

theorem SyntaxFault.isOfOperands_of_isOfText {fault : SyntaxFault} (h : fault.isOfText) :
    fault.isOfOperands = false := by
  cases fault with
  | missingOperand | missingPredicate | expressionWanted | predicateWanted | leftOver => cases h
  | _ => rfl

theorem Arguments.isOfOperands_of_placeholder {arguments : Arguments} {position : Nat}
    {conversion : Char} {e : SyntaxError}
    (h : arguments.placeholder position conversion = .error e) : e.fault.isOfOperands = false := by
  unfold placeholder at h
  split at h
  · cases h
    rfl
  · split at h
    · cases h
      rfl
    · split at h <;> cases h <;> rfl

theorem Parser.Input.isOfOperands_ending (input : Input) :
    input.ending.fault.isOfOperands = false := by
  unfold ending
  split <;> rfl

/-! ## One run -/

/-- A run corresponds to itself. Its errors are not faults of the stack. -/
def Correspondence.single (input : Input) : Correspondence input input where
  words word word' := word' = word
  errors e e' := e' = e ∧ e.fault.isOfOperands = false
  token_eq same := congrArg Lexeme.token same
  fault same _ known := ⟨same ▸ rfl, SyntaxFault.isOfOperands_of_isOfText known⟩
  ending := ⟨rfl, input.isOfOperands_ending⟩
  placeholder := by
    intro word word' same conversion _
    subst same
    cases made : input.arguments.placeholder word'.start conversion with
    | ok e => exact .ok e
    | error e => exact .error ⟨rfl, Arguments.isOfOperands_of_placeholder made⟩

namespace Outcome

variable {α : Type} {n : Nat}

/-- A phrase that fails leaves the operands `below` on the stack, and one that is read leaves
exactly operands of the sorts that belong to the result on them. -/
def Leaves (below : Stack) (sorts : α → List OperandSort) : Outcome α n → Prop
  | fault _ stack => below <:+ stack
  | read result after _ => after.stack.Over below (sorts result)

/-- The operands that an outcome leaves on the stack. -/
def stack : Outcome α n → Stack
  | fault _ stack => stack
  | read _ after _ => after.stack

theorem Leaves.suffix {below : Stack} {sorts : α → List OperandSort} {outcome : Outcome α n}
    (h : outcome.Leaves below sorts) : below <:+ outcome.stack := by
  cases outcome with
  | fault => exact h
  | read => exact Stack.Over.suffix h

/-- An attempt is given up if it fails, or if an expression goes on behind it. -/
def IsGivenUp : Outcome α n → Bool
  | fault _ _ => true
  | read _ after _ => continuesExpression after.token

end Outcome

namespace Correspondence

variable {input : Input} {s : Cursor}

theorem at_single (input : Input) (s : Cursor) : (single input).At s.stack [] s s :=
  ⟨List.forall₂_same.mpr fun _ _ => rfl, rfl, .refl s.stack⟩

theorem Keeps.leaves {α : Type} {n : Nat} {below : Stack} {sorts : α → List OperandSort}
    {outcome : Outcome α n} (h : (single input).Keeps below outcome outcome sorts) :
    outcome.Leaves below sorts := by
  cases h with
  | fault _ kept => exact kept
  | read reached => exact reached.above

end Correspondence

/-! ## Phrases -/

/-- The function that reads a phrase with one operand. -/
def Grammar.Phrase.read? : Phrase → Option (Input → (s : Cursor) → Outcome Unit s.left)
  | disjunction => some Parser.disjunction
  | conjunction => some Parser.conjunction
  | negation => some Parser.negation
  | primaryPredicate => some Parser.primaryPredicate
  | comparison => some Parser.comparison
  | expression => some Parser.expression
  | sum => some Parser.sum
  | product => some Parser.product
  | power => some Parser.power
  | signed => some Parser.signed
  | navigation => some Parser.navigation
  | segment => some Parser.segment
  | place => some Parser.place
  | primary => some Parser.primary
  | disjuncts | conjuncts | items => none

namespace Parser

open Correspondence

variable {α : Type} {input : Input} {s : Cursor}

theorem leaves_of_read? {phrase : Phrase} {read : Input → (s : Cursor) → Outcome Unit s.left}
    (h : phrase.read? = some read) (input : Input) (s : Cursor) :
    (read input s).Leaves s.stack fun _ => [phrase.sort] := by
  have here := at_single input s
  cases phrase with
  | disjuncts | conjuncts | items => cases h
  | disjunction => cases h; exact (keeps_disjunction s s here).leaves
  | conjunction => cases h; exact (keeps_conjunction s s here).leaves
  | negation => cases h; exact (keeps_negation s s here).leaves
  | primaryPredicate => cases h; exact (keeps_primaryPredicate s s here).leaves
  | comparison => cases h; exact (keeps_comparison s s here).leaves
  | expression => cases h; exact (keeps_expression s s here).leaves
  | sum => cases h; exact (keeps_sum s s here).leaves
  | product => cases h; exact (keeps_product s s here).leaves
  | power => cases h; exact (keeps_power s s here).leaves
  | signed => cases h; exact (keeps_signed s s here).leaves
  | navigation => cases h; exact (keeps_navigation s s here).leaves
  | segment => cases h; exact (keeps_segment s s here).leaves
  | place => cases h; exact (keeps_place s s here).leaves
  | primary => cases h; exact (keeps_primary s s here).leaves

theorem leaves_arguments (input : Input) (close : Token) (s : Cursor) :
    (arguments input close 0 s).Leaves s.stack fun count => List.replicate count .expr := by
  simpa using (keeps_arguments close 0 s s (at_single input s)).leaves

theorem leaves_options (input : Input) (s : Cursor) :
    (options input s).Leaves s.stack fun _ => [] :=
  (keeps_options (at_single input s)).leaves

/-! ## Going back -/

/-- The attempt to read a predicate in parentheses. -/
def attempt (input : Input) (s : Cursor) : Outcome Unit s.left :=
  advance input s fun s₁ _ =>
    (disjunction input s₁).andThen fun _ s₂ _ => expect input s₂ .closeParen

theorem leaves_attempt (input : Input) (s : Cursor) :
    (attempt input s).Leaves s.stack fun _ => [.predicate] := by
  have keeps : (single input).Keeps s.stack (attempt input s) (attempt input s)
      (fun _ => [.predicate]) := by
    refine keeps_advance (at_single input s) fun s₁ s₁' _ _ h₁ => ?_
    refine (keeps_disjunction s₁ s₁' h₁).andThen fun _ s₂ s₂' _ _ h₂ => ?_
    exact keeps_expect .closeParen h₂
  exact keeps.leaves

/-- The place that the parser goes back to is that in front of the parenthesis. -/
theorem back_attempt (input : Input) (s : Cursor) : s.back (attempt input s).stack = s :=
  Cursor.back_eq (leaves_attempt input s).suffix

/-- So an attempt that is given up leaves no trace. -/
theorem parenthesized_eq (input : Input) (s : Cursor) :
    parenthesized input s
      = if (attempt input s).IsGivenUp then comparison input s else attempt input s := by
  have back := back_attempt input s
  have within {s' : Cursor} (le : s'.left ≤ s.left) (same : s' = s) :
      (comparison input s').within le = comparison input s := by
    subst same
    cases comparison input s' <;> rfl
  rw [parenthesized, ← attempt]
  cases tried : attempt input s with
  | fault e stack =>
    rw [tried] at back
    exact within _ back
  | read result after le =>
    rw [tried] at back
    have back : s.back after.stack = s := back
    cases ends : continuesExpression after.token with
    | true => simpa [Outcome.IsGivenUp, ends] using within _ back
    | false => simp [Outcome.IsGivenUp, ends]

/-! ## Whole texts -/

theorem isOfOperands_of_whole {phrase : Input → (s : Cursor) → Outcome Unit s.left}
    {finish : Building α} {sort : OperandSort} {text : String} {values : List Value}
    {e : SyntaxError}
    (reads : ∀ input s s', (single input).At [] [] s s' →
      (single input).Keeps [] (phrase input s) (phrase input s') fun _ => [sort])
    (finishes : ∀ operand : Operand, operand.sort = sort →
      ∃ tree, finish.run [operand] = .ok tree [])
    (h : whole phrase finish text values = .error e) : e.fault.isOfOperands = false := by
  unfold whole at h
  cases counted : Arguments.ofText text values with
  | error e' =>
    rw [counted] at h
    cases h
    unfold Arguments.ofText at counted
    dsimp only at counted
    split at counted <;> cases counted
    rfl
  | ok arguments =>
    rw [counted] at h
    have h : ofLexing phrase finish arguments (lex text) = .error e := h
    have same := sameUpTo_ofLexing (single ⟨arguments, (lex text).fault⟩)
      (List.forall₂_same.mpr fun _ _ => rfl) (reads _) finishes
    rw [h] at same
    cases same with
    | error corresponds => exact corresponds.2

/-- Every function that reads a phrase keeps to the stack that it finds. So when the parser goes back
from a parenthesis it is where it was, with the same tokens before it and the same operands, and
reads a comparison from there; and no text is refused because operands are lacking, of the wrong
sort or left over. -/
theorem backtracking_exact :
    (∀ (phrase : Phrase) read, phrase.read? = some read → ∀ input s,
      (read input s).Leaves s.stack fun _ => [phrase.sort])
    ∧ (∀ input close s,
      (arguments input close 0 s).Leaves s.stack fun count => List.replicate count .expr)
    ∧ (∀ input s, (options input s).Leaves s.stack fun _ => [])
    ∧ (∀ input s, (attempt input s).Leaves s.stack fun _ => [.predicate])
    ∧ (∀ input s, s.back (attempt input s).stack = s
      ∧ parenthesized input s
          = if (attempt input s).IsGivenUp then comparison input s else attempt input s)
    ∧ ∀ text values e,
      (Predicate.parse text values = .error e → e.fault.isOfOperands = false)
      ∧ (Expr.parse text values = .error e → e.fault.isOfOperands = false) := by
  refine ⟨?_, leaves_arguments, leaves_options, leaves_attempt, ?_, ?_⟩
  · intro phrase read h
    exact leaves_of_read? h
  · intro input s
    exact ⟨back_attempt input s, parenthesized_eq input s⟩
  · intro text values e
    constructor
    · apply isOfOperands_of_whole _ Building.run_finishPredicate
      exact fun _ s s' here => keeps_disjunction s s' here
    · apply isOfOperands_of_whole _ Building.run_finishExpr
      exact fun _ s s' here => keeps_expression s s' here

/-- The parser reads a sum in the parentheses before it goes back, and then misses the second one. -/
theorem backtracking_exact_unclosed :
    (∃ s : Cursor, s.lexemes = (lex "(a + 1").lexemes
      ∧ (disjunction ⟨⟨[], []⟩, none⟩ s).Leaves s.stack (fun _ => [.predicate])
      ∧ (attempt ⟨⟨[], []⟩, none⟩ s).IsGivenUp = true
      ∧ parenthesized ⟨⟨[], []⟩, none⟩ s = comparison ⟨⟨[], []⟩, none⟩ s)
    ∧ ∃ e, Predicate.parse "(a + 1" [] = .error e ∧ e.fault.isOfOperands = false := by
  obtain ⟨reads, -, -, -, back, fails⟩ := backtracking_exact
  constructor
  · refine ⟨⟨⟨0, .openParen⟩, (lex "(a + 1").lexemes.tail, []⟩, by decide +kernel, ?_, ?_, ?_⟩
    · exact reads .disjunction disjunction rfl _ _
    · decide +kernel
    · rw [(back _ _).2]
      exact if_pos (by decide +kernel)
  · have failed : (Predicate.parse "(a + 1" []).toOption.isNone = true := by decide +kernel
    cases made : Predicate.parse "(a + 1" [] with
    | ok p =>
      rw [made] at failed
      cases failed
    | error e => exact ⟨e, rfl, (fails _ _ _).1 made⟩

end Parser

end PredicateLang
