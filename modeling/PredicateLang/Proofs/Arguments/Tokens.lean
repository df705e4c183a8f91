import PredicateLang.Proofs.Arguments.Counted
import PredicateLang.Proofs.Grammar.Parallel

/-!
# Only the tokens count

Positions serve the parser for two things: it reports errors at them, and it finds the argument of a
placeholder at one. Since the k-th placeholder of a text finds the k-th argument wherever it stands,
two texts with the same tokens are read alike: they are the same tree, or they have the same fault
(`Parser.parse_of_tokens`). So blanks and the spelling of operators and keywords have no meaning.
-/

open PredicateLang.Parser

namespace PredicateLang

/-- The tokens of a text, without their positions. -/
def Lexing.tokens (lexing : Lexing) : List Token := lexing.lexemes.map Lexeme.token

/-- The errors are the same up to their positions. -/
def SyntaxError.SameFault (e e' : SyntaxError) : Prop := e'.fault = e.fault

theorem SameUpTo.mapError_eq {α : Type} {made made' : Except SyntaxError α}
    (h : SameUpTo SyntaxError.SameFault made made') :
    made.mapError SyntaxError.fault = made'.mapError SyntaxError.fault := by
  cases h with
  | ok result => rfl
  | error same => exact congrArg Except.error same.symm

variable {lexing lexing' : Lexing} {values : List Value} {text text' : String}

/-! ## Placeholders with the same number -/

namespace Lexing

theorem isSome_placeholder?_congr {word word' : Lexeme} (same : word'.token = word.token) :
    (placeholder? word').isSome = (placeholder? word).isSome := by
  unfold placeholder?
  rw [same]
  split <;> rfl

/-- Words with the same tokens correspond one to one, and those that are placeholders have the same
number. -/
theorem forall₂_of_tokens (same : lexing.tokens = lexing'.tokens) :
    List.Forall₂ (fun word word' => word'.token = word.token
      ∧ ((placeholder? word).isSome → ∃ k : Nat, lexing.placeholderWords[k]? = some word
        ∧ lexing'.placeholderWords[k]? = some word')) lexing.lexemes lexing'.lexemes := by
  unfold tokens at same
  unfold placeholderWords
  generalize lexing.lexemes = words at same ⊢
  generalize lexing'.lexemes = words' at same ⊢
  induction words generalizing words' with
  | nil =>
    obtain rfl := List.map_eq_nil_iff.mp same.symm
    exact .nil
  | cons word rest ih =>
    obtain ⟨word', rest', rfl, token, others⟩ := List.map_eq_cons_iff.mp same.symm
    have found := isSome_placeholder?_congr token
    refine .cons ⟨token, fun is => ⟨0, by simp [is], by simp [found, is]⟩⟩ ?_
    refine (ih rest' others.symm).imp fun u u' ⟨token, number⟩ => ⟨token, fun is => ?_⟩
    obtain ⟨k, first, second⟩ := number is
    -- the others are counted from the next number on if the first word is a placeholder
    cases counted : (placeholder? word).isSome with
    | true => exact ⟨k + 1, by simpa [counted] using first, by simpa [found, counted] using second⟩
    | false => exact ⟨k, by simpa [counted] using first, by simpa [found, counted] using second⟩

theorem length_placeholders (same : lexing.tokens = lexing'.tokens) :
    lexing.placeholders.length = lexing'.placeholders.length := by
  have through : (fun word : Lexeme => (placeholder? word).isSome)
      = (fun token => (placeholder? ⟨0, token⟩).isSome) ∘ Lexeme.token :=
    funext fun _ => isSome_placeholder?_congr rfl
  have count (lexing : Lexing) : lexing.placeholders.length
      = lexing.tokens.countP fun token => (placeholder? ⟨0, token⟩).isSome := by
    rw [placeholders_eq, List.length_map, placeholderWords, ← List.countP_eq_length_filter, through,
      ← List.countP_map]
    rfl
  rw [count, count, same]

end Lexing

/-- An argument is received in the same way at every position. -/
theorem Arguments.sameUpTo_received (position position' number : Nat) (conversion : Char)
    (argument : Value) :
    SameUpTo SyntaxError.SameFault (received position number conversion argument)
      (received position' number conversion argument) := by
  unfold received
  split
  · exact .ok _
  · exact .error rfl
  · exact .error rfl

/-- Two texts with the same tokens and the same arguments. -/
def Correspondence.ofTokens {arguments arguments' : Arguments}
    (ends : lexing.fault = none) (ends' : lexing'.fault = none)
    (known : arguments.Supply values lexing) (known' : arguments'.Supply values lexing') :
    Correspondence ⟨arguments, lexing.fault⟩ ⟨arguments', lexing'.fault⟩ where
  words word word' := word'.token = word.token
    ∧ ((Lexing.placeholder? word).isSome → ∃ k : Nat, lexing.placeholderWords[k]? = some word
      ∧ lexing'.placeholderWords[k]? = some word')
  errors := SyntaxError.SameFault
  token_eq h := h.1
  fault _ _ _ := rfl
  ending := by
    unfold Input.ending
    dsimp only
    rw [ends, ends']
    rfl
  placeholder := by
    rintro word word' ⟨-, number⟩ conversion token
    obtain ⟨k, first, second⟩ := number (by simp [Lexing.placeholder?, token])
    obtain ⟨argument, given, receives⟩ := known k word first
    obtain ⟨argument', given', receives'⟩ := known' k word' second
    obtain rfl : argument = argument' := Option.some.inj (given.symm.trans given')
    dsimp only
    rw [receives, receives']
    exact Arguments.sameUpTo_received _ _ k conversion argument

/-! ## Whole texts -/

namespace Parser

variable {α : Type} {phrase : Input → (s : Cursor) → Outcome Unit s.left} {finish : Building α}
  {sort : OperandSort}

theorem sameUpTo_whole (ends : (lex text).fault = none) (ends' : (lex text').fault = none)
    (same : (lex text).tokens = (lex text').tokens)
    (reads : ∀ {input input' : Input} (c : Correspondence input input') (s s' : Cursor),
      c.At [] [] s s' → c.Keeps [] (phrase input s) (phrase input' s') fun _ => [sort])
    (finishes : ∀ operand : Operand, operand.sort = sort →
      ∃ tree, finish.run [operand] = .ok tree []) :
    SameUpTo SyntaxError.SameFault (whole phrase finish text values)
      (whole phrase finish text' values) := by
  have counted : (placeholderOffsets text).length = (placeholderOffsets text').length := by
    have scanned : (lex text).placeholders = placeholderOffsets text :=
      (Lexing.scan_eq 0 text.toList).2 ends
    have scanned' : (lex text').placeholders = placeholderOffsets text' :=
      (Lexing.scan_eq 0 text'.toList).2 ends'
    rw [← scanned, ← scanned', Lexing.length_placeholders same]
  unfold whole
  by_cases number : (placeholderOffsets text).length = values.length
  · have made : Arguments.ofText text values = .ok ⟨placeholderOffsets text, values⟩ :=
      if_pos number
    have made' : Arguments.ofText text' values = .ok ⟨placeholderOffsets text', values⟩ :=
      if_pos (counted.symm.trans number)
    rw [made, made']
    exact Correspondence.sameUpTo_ofLexing (.ofTokens ends ends' (Arguments.supply_of_counted made)
      (Arguments.supply_of_counted made')) (Lexing.forall₂_of_tokens same) (reads _) finishes
  · have failed : ∃ p, Arguments.ofText text values
        = .error ⟨p, .argumentCount (placeholderOffsets text).length values.length⟩ :=
      ⟨_, if_neg number⟩
    have failed' : ∃ p, Arguments.ofText text' values
        = .error ⟨p, .argumentCount (placeholderOffsets text').length values.length⟩ :=
      ⟨_, if_neg (counted ▸ number)⟩
    obtain ⟨p, failed⟩ := failed
    obtain ⟨p', failed'⟩ := failed'
    rw [failed, failed', counted]
    exact .error rfl

/-- Texts with the same tokens are the same tree, or have the same fault. -/
theorem parse_of_tokens (ends : (lex text).fault = none) (ends' : (lex text').fault = none)
    (same : (lex text).tokens = (lex text').tokens) (values : List Value) :
    (Predicate.parse text values).mapError SyntaxError.fault
        = (Predicate.parse text' values).mapError SyntaxError.fault
    ∧ (Expr.parse text values).mapError SyntaxError.fault
        = (Expr.parse text' values).mapError SyntaxError.fault := by
  constructor
  · apply SameUpTo.mapError_eq
    apply sameUpTo_whole ends ends' same _ Building.run_finishPredicate
    intro input input' c s s' h
    exact c.keeps_disjunction s s' h
  · apply SameUpTo.mapError_eq
    apply sameUpTo_whole ends ends' same _ Building.run_finishExpr
    intro input input' c s s' h
    exact c.keeps_expression s s' h

/-- Two spellings of one predicate, which is read after going back from the parenthesis. -/
theorem parse_of_tokens_respelled :
    (Predicate.parse "(a+%d) = b && NOT TRUEPREDICATE" [.int 1]).mapError SyntaxError.fault
      = (Predicate.parse " ( a + %d ) == b and not truepredicate" [.int 1]).mapError
        SyntaxError.fault :=
  (parse_of_tokens (by decide +kernel) (by decide +kernel) (by decide +kernel) [.int 1]).1

end Parser

end PredicateLang
