import PredicateLang.Proofs.Grammar.Complete

/-!
# The parser decides the grammar

Both directions together: a text is read as a tree if and only if the grammar derives its tokens
with that tree, and then there is only one. What the parser tries first after a parenthesis, and
the one token that it looks at to decide whether to go back, are no part of the grammar; so they
neither lose a derivable predicate nor prefer another reading.
-/

open PredicateLang.Parser

namespace PredicateLang.Grammar

/-- The lexemes up to the end of the text are a phrase with one operand. -/
def DerivesText (arguments : Arguments) (phrase : Phrase) (lexemes : List Lexeme)
    (operand : Operand) : Prop :=
  ∃ words, ∃ last : Lexeme, ∃ rest, lexemes = words ++ last :: rest ∧ last.token = .eof ∧
    Derives arguments phrase words [operand]

variable {α : Type} {arguments : Arguments} {lexing : Lexing} {phrase : Phrase}

/-! ## The end of a text -/

theorem finishPredicate_iff {stack : Stack} {p : Predicate} :
    (∃ rest, Building.finishPredicate.run stack = .ok p rest) ↔ stack = [.predicate p] := by
  constructor
  · rintro ⟨rest, h⟩
    match stack with
    | [.predicate q] => cases h; rfl
    | [] | .expr _ :: _ | .predicate _ :: _ :: _ => cases h
  · rintro rfl
    exact ⟨[], rfl⟩

theorem finishExpr_iff {stack : Stack} {e : Expr} :
    (∃ rest, Building.finishExpr.run stack = .ok e rest) ↔ stack = [.expr e] := by
  constructor
  · rintro ⟨rest, h⟩
    match stack with
    | [.expr e] => cases h; rfl
    | [] | .predicate _ :: _ | .expr _ :: _ :: _ => cases h
  · rintro rfl
    exact ⟨[], rfl⟩

/-- A text is read if its phrase is read up to its end and leaves what is to be taken. -/
theorem ofLexing_eq_ok {read : Input → (s : Cursor) → Outcome Unit s.left} {finish : Building α}
    {tree : α} :
    ofLexing read finish arguments lexing = .ok tree ↔
      ∃ first following after, lexing.lexemes = first :: following ∧
        (read ⟨arguments, lexing.fault⟩ ⟨first, following, []⟩).Is () after ∧
          after.token = .eof ∧ ∃ rest, finish.run after.stack = .ok tree rest := by
  rw [ofLexing]
  cases lexing.lexemes with
  | nil => simp
  | cons first following =>
    simp only [List.cons.injEq]
    cases outcome : read ⟨arguments, lexing.fault⟩ ⟨first, following, []⟩ with
    | fault error stack =>
      constructor
      · exact fun h => nomatch h
      · rintro ⟨_, _, after, ⟨rfl, rfl⟩, ⟨le, e⟩, -⟩
        exact nomatch outcome.symm.trans e
    | read result after le =>
      constructor
      · intro h
        refine ⟨first, following, after, ⟨rfl, rfl⟩, ⟨le, outcome⟩, ?_⟩
        dsimp only at h
        split at h
        · rename_i ends
          refine ⟨ends, ?_⟩
          cases run : finish.run after.stack with
          | ok tree' rest => rw [run] at h; cases h; exact ⟨rest, rfl⟩
          | error error rest => rw [run] at h; cases h
        · cases h
      · rintro ⟨_, _, after', ⟨rfl, rfl⟩, ⟨le', e⟩, ends, rest, run⟩
        cases outcome.symm.trans e
        simp [ends, run]

/-! ## Both directions -/

/-- A parser that is sound and complete for its phrase decides it. -/
theorem ofLexing_iff {read : Input → (s : Cursor) → Outcome Unit s.left} {finish : Building α}
    {tree : α} {operand : Operand} (single : phrase.isList = false)
    (sound : ∀ input s, Reads input.arguments phrase s (read input s))
    (complete : ∀ {input : Input} {w} {s s' : Cursor}, s.Reaches w [operand] s' →
      s'.token = .eof → Derives input.arguments phrase w [operand] → (read input s).Is () s')
    (finishes : ∀ {stack}, (∃ rest, finish.run stack = .ok tree rest) ↔ stack = [operand]) :
    ofLexing read finish arguments lexing = .ok tree ↔
      DerivesText arguments phrase lexing.lexemes operand := by
  rw [ofLexing_eq_ok]
  constructor
  · rintro ⟨first, following, after, lexemes, is, ends, finished⟩
    obtain ⟨w, operands, reaches, derives⟩ := (sound ⟨arguments, lexing.fault⟩ _).of_is is
    obtain ⟨x, rfl⟩ := List.length_eq_one_iff.mp (derives.length_eq_one single)
    have stack : [x] = [operand] := by simpa using reaches.2.symm.trans (finishes.mp finished)
    rw [stack] at derives
    exact ⟨w, after.current, after.following, lexemes.trans reaches.1, ends, derives⟩
  · rintro ⟨w, last, rest, lexemes, ends, derives⟩
    cases whole : lexing.lexemes with
    | nil => rw [whole] at lexemes; simp at lexemes
    | cons first following =>
      refine ⟨first, following, ⟨last, rest, [operand]⟩, rfl, ?_, ends, finishes.mpr rfl⟩
      exact complete ⟨whole.symm.trans lexemes, rfl⟩ ends derives

theorem disjunction_iff (arguments : Arguments) (lexing : Lexing) {p : Predicate} :
    ofLexing disjunction Building.finishPredicate arguments lexing = .ok p ↔
      DerivesText arguments .disjunction lexing.lexemes (.predicate p) :=
  ofLexing_iff rfl disjunction_sound
    (fun reaches ends derives => derives.completes reaches (endsDisjunction_closer (by simp [ends])))
    finishPredicate_iff

theorem expression_iff (arguments : Arguments) (lexing : Lexing) {e : Expr} :
    ofLexing expression Building.finishExpr arguments lexing = .ok e ↔
      DerivesText arguments .expression lexing.lexemes (.expr e) :=
  ofLexing_iff rfl expression_sound
    (fun reaches ends derives =>
      derives.completes reaches (endsDisjunction_closer (by simp [ends])).1.1.1)
    finishExpr_iff

/-- What the grammar derives of words as they stand at the end of a text. -/
theorem Derives.text {w : List Lexeme} {operand : Operand}
    (h : Derives arguments phrase w [operand]) :
    DerivesText arguments phrase (w ++ [⟨0, .eof⟩]) operand :=
  ⟨w, ⟨0, .eof⟩, [], rfl, rfl, h⟩

theorem Derives.unique_predicate {w : List Lexeme} {p q : Predicate}
    (h : Derives arguments .disjunction w [.predicate p])
    (h' : Derives arguments .disjunction w [.predicate q]) : p = q := by
  have read := (disjunction_iff _ ⟨w ++ [⟨0, .eof⟩], none⟩).mpr h.text
  have read' := (disjunction_iff _ ⟨w ++ [⟨0, .eof⟩], none⟩).mpr h'.text
  exact Except.ok.inj (read.symm.trans read')

theorem Derives.unique_expr {w : List Lexeme} {e f : Expr}
    (h : Derives arguments .expression w [.expr e])
    (h' : Derives arguments .expression w [.expr f]) : e = f := by
  have read := (expression_iff _ ⟨w ++ [⟨0, .eof⟩], none⟩).mpr h.text
  have read' := (expression_iff _ ⟨w ++ [⟨0, .eof⟩], none⟩).mpr h'.text
  exact Except.ok.inj (read.symm.trans read')

/-! ## Texts -/

theorem whole_iff {read : Input → (s : Cursor) → Outcome Unit s.left} {finish : Building α}
    {text : String} {values : List Value} {tree : α} :
    whole read finish text values = .ok tree ↔ ∃ arguments,
      Arguments.ofText text values = .ok arguments ∧
        ofLexing read finish arguments (lex text) = .ok tree := by
  rw [whole]
  cases Arguments.ofText text values with
  | error error => simp
  | ok arguments => simp

/-- The parser returns a tree if and only if the grammar derives the tokens with that tree, and
there is no other tree: for all tokens and arguments, and so for all texts. -/
theorem parse_iff_derives :
    (∀ arguments lexing p, ofLexing disjunction Building.finishPredicate arguments lexing = .ok p ↔
      DerivesText arguments .disjunction lexing.lexemes (.predicate p))
    ∧ (∀ arguments lexing e, ofLexing expression Building.finishExpr arguments lexing = .ok e ↔
      DerivesText arguments .expression lexing.lexemes (.expr e))
    ∧ (∀ arguments words p q, Derives arguments .disjunction words [.predicate p] →
      Derives arguments .disjunction words [.predicate q] → p = q)
    ∧ (∀ arguments words e f, Derives arguments .expression words [.expr e] →
      Derives arguments .expression words [.expr f] → e = f)
    ∧ (∀ text values p, Predicate.parse text values = .ok p ↔ ∃ arguments,
      Arguments.ofText text values = .ok arguments ∧
        DerivesText arguments .disjunction (lex text).lexemes (.predicate p))
    ∧ ∀ text values e, Expr.parse text values = .ok e ↔ ∃ arguments,
      Arguments.ofText text values = .ok arguments ∧
        DerivesText arguments .expression (lex text).lexemes (.expr e) := by
  refine ⟨fun arguments lexing _ => disjunction_iff arguments lexing,
    fun arguments lexing _ => expression_iff arguments lexing,
    fun _ _ _ _ h => h.unique_predicate, fun _ _ _ _ h => h.unique_expr, fun text values p => ?_,
    fun text values e => ?_⟩
  · rw [Predicate.parse, whole_iff]
    simp only [disjunction_iff]
  · rw [Expr.parse, whole_iff]
    simp only [expression_iff]

/-- A constant in parentheses, which no expression is. -/
theorem parse_enclosed_constant :
    ofLexing disjunction Building.finishPredicate ⟨[], []⟩
        ⟨[⟨0, .openParen⟩, ⟨1, .predicateConstant true⟩, ⟨14, .closeParen⟩, ⟨15, .eof⟩], none⟩
      = .ok (.constant true)
    ∧ Predicate.constant true = .constant true := by
  have constant : Derives ⟨[], []⟩ .primaryPredicate [⟨1, .predicateConstant true⟩]
      [.predicate (.constant true)] :=
    .predicateConstant rfl (Production.makes_iff.mpr ⟨rfl, rfl⟩)
  have derives : Derives ⟨[], []⟩ .disjunction
      [⟨0, .openParen⟩, ⟨1, .predicateConstant true⟩, ⟨14, .closeParen⟩]
      [.predicate (.constant true)] :=
    .conjunction_disjunction <| .negation_conjunction <| .primary_negation <|
      .enclosed_predicate rfl
        (.conjunction_disjunction (.negation_conjunction (.primary_negation constant))) rfl
  exact ⟨(parse_iff_derives.1 _ _ _).mpr ⟨_, _, [], rfl, rfl, derives⟩,
    parse_iff_derives.2.2.1 _ _ _ _ derives derives⟩

end PredicateLang.Grammar
