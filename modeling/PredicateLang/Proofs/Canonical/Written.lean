import PredicateLang.Proofs.Canonical.Constant

/-!
# Expressions that are read from their texts

An expression has two texts, its own and the one it has as an operand, and what may stand around
each of them differs. `Written` collects what is known of the texts of one expression, so that the
texts of larger expressions can be put together from it. The texts with brackets and with commas
come first.
-/

open PredicateLang.Lexing PredicateLang.Parser PredicateLang.Text

namespace PredicateLang

/-- The text of an expression as part of another. -/
def Expr.operandText (e : Expr) : String := e.enclose e.text

theorem Expr.operandTexts_eq (es : List Expr) :
    Expr.operandTexts es = es.map Expr.operandText := by
  induction es with
  | nil => rfl
  | cons e es ih => rw [Expr.operandTexts, ih]; rfl

theorem Expr.text_call (selector : String) (args : List Expr) :
    (Expr.call selector args).text = Expr.callText selector (args.map Expr.operandText) :=
  congrArg (Expr.callText selector) (Expr.operandTexts_eq args)

theorem Expr.text_list (items : List Expr) :
    (Expr.list items).text = Value.listText (items.map Expr.operandText) :=
  congrArg Value.listText (Expr.operandTexts_eq items)

theorem Expr.text_pathOn (e : Expr) (path : String) :
    (Expr.pathOn e path).text = e.operandText ++ "." ++ Expr.pathText path := rfl

theorem Expr.text_assign (name : String) (e : Expr) :
    (Expr.assign name e).text = "$" ++ name ++ " := " ++ e.operandText := rfl

theorem Expr.text_subquery (e : Expr) (name : String) (p : Predicate) :
    (Expr.subquery e name p).text
      = "SUBQUERY(" ++ e.operandText ++ ", $" ++ name ++ ", " ++ p.text ++ ")" := rfl

theorem Predicate.texts_eq (ps : List Predicate) : Predicate.texts ps = ps.map Predicate.text := by
  induction ps with
  | nil => rfl
  | cons p ps ih => rw [Predicate.texts, ih]; rfl

end PredicateLang

namespace PredicateLang.Grammar

variable {text : List Char} {phrase phrase' : Phrase} {operands : List Operand} {e l r : Expr}
  {w : List Lexeme} {p : Predicate}

/-! ## Expressions -/

theorem Derives.expression_of_signed (h : Derives noArguments .signed w operands) :
    Derives noArguments .expression w operands :=
  .sum_expression (.product_sum (.power_product (.signed_power h)))

/-- The texts of an expression are read as the expression. -/
structure Written (e : Expr) : Prop where
  whole : Spells e.text.toList .expression [.expr e]
  operand : Spells e.operandText.toList .signed [.expr e]
  /-- A minus sign would apply to what points and brackets make of the operand. -/
  base : e.isSigned = false → Spells e.operandText.toList .navigation [.expr e]

theorem Written.item (h : Written e) : Spells e.operandText.toList .expression [.expr e] :=
  h.operand.lift fun derives => derives.expression_of_signed

theorem Written.of_navigation (same : e.operandText = e.text)
    (h : Spells e.text.toList .navigation [.expr e]) : Written e where
  whole := h.lift fun derives => (Derives.navigation_signed derives).expression_of_signed
  operand := same ▸ h.lift fun derives => .navigation_signed derives
  base _ := same ▸ h

theorem Written.of_primary (same : e.operandText = e.text)
    (h : Spells e.text.toList .primary [.expr e]) : Written e :=
  .of_navigation same (h.lift fun derives => .primary_navigation derives)

/-! ## Brackets -/

/-- A phrase in parentheses. -/
theorem Spells.enclosed (h : Spells text phrase operands)
    (rule : ∀ {left right : Lexeme} {w}, left.token = .openParen → Derives noArguments phrase w operands →
      right.token = .closeParen → Derives noArguments phrase' (left :: (w ++ [right])) operands) :
    Spells ('(' :: (text ++ [')'])) phrase' operands := by
  intro p rest boundary
  obtain ⟨p₁, opens⟩ : ∃ p₁, Passes p ('(' :: (text ++ ')' :: rest)) [⟨p, .openParen⟩] p₁ _ :=
    Passes.sign rfl
  obtain ⟨w, p₂, passes, derives, -⟩ := h p₁ (')' :: rest) rfl
  obtain ⟨p₃, closes⟩ : ∃ p₃, Passes p₂ (')' :: rest) [⟨p₂, .closeParen⟩] p₃ rest :=
    Passes.sign rfl
  refine ⟨⟨p, .openParen⟩ :: (w ++ [⟨p₂, .closeParen⟩]), p₃, ?_, rule rfl derives rfl,
    by rintro _ ⟨⟩ ⟨⟩⟩
  simpa using opens.trans (passes.trans closes)

/-! ## Items -/

/-- A comma is written with a blank behind it. -/
theorem passes_comma (p : Nat) (rest : List Char) :
    ∃ p', Passes p (',' :: ' ' :: rest) [⟨p, .comma⟩] p' rest := by
  obtain ⟨p₁, comma⟩ : ∃ p₁, Passes p (',' :: ' ' :: rest) [⟨p, .comma⟩] p₁ (' ' :: rest) :=
    Passes.sign rfl
  exact ⟨p₁ + 1, comma.trans (Passes.blank (by decide))⟩

theorem spells_items {es : List Expr} (ne : es ≠ [])
    (h : ∀ e ∈ es, Spells e.operandText.toList .expression [.expr e]) :
    Spells (join ", " (es.map Expr.operandText)).toList .items (es.map .expr) := by
  induction es with
  | nil => exact absurd rfl ne
  | cons e es ih =>
    have first := h e List.mem_cons_self
    have others : ∀ e' ∈ es, Spells e'.operandText.toList .expression [.expr e'] :=
      fun e' mem => h e' (List.mem_cons_of_mem _ mem)
    cases es with
    | nil =>
      have single : (join ", " ([e].map Expr.operandText)).toList = e.operandText.toList := by
        rw [List.map_singleton, toList_join_cons, List.flatMap_nil, List.append_nil]
      rw [single]
      exact first.lift fun derives => .last_item derives
    | cons e' es =>
      have chars : (join ", " ((e :: e' :: es).map Expr.operandText)).toList
          = e.operandText.toList
            ++ ',' :: ' ' :: (join ", " ((e' :: es).map Expr.operandText)).toList := by
        simp [toList_join_cons]
      rw [chars]
      intro p rest boundary
      obtain ⟨u, p₁, passes, derives, place⟩ := first p (',' :: ' ' ::
        ((join ", " ((e' :: es).map Expr.operandText)).toList ++ rest)) rfl
      obtain ⟨p₂, comma⟩ := passes_comma p₁
        ((join ", " ((e' :: es).map Expr.operandText)).toList ++ rest)
      obtain ⟨v, p₃, passes', derives', -⟩ := ih (by simp) others p₂ rest boundary
      refine ⟨u ++ ⟨p₁, .comma⟩ :: v, p₃, ?_, .next_item derives rfl derives',
        place_append (derives.ne_nil nofun) (by rintro _ ⟨⟩; decide) place⟩
      simpa using passes.trans (comma.trans passes')

theorem spells_list {es : List Expr}
    (h : ∀ e ∈ es, Spells e.operandText.toList .expression [.expr e]) :
    Spells (Value.listText (es.map Expr.operandText)).toList .primary [.expr (.list es)] := by
  have made : ∀ position, Production.Makes noArguments position (.list (es.map Operand.expr).length)
      (es.map .expr) (.expr (.list es)) := fun position =>
    Production.makes_iff.mpr ⟨by simp [Production.takes, List.eq_replicate_iff],
      by simp [Production.make]⟩
  intro p rest boundary
  by_cases empty : es = []
  · subst empty
    obtain ⟨p₁, opens⟩ : ∃ p₁, Passes p ('\x7b' :: '\x7d' :: rest) [⟨p, .openBrace⟩] p₁ _ :=
      Passes.sign rfl
    obtain ⟨p₂, closes⟩ : ∃ p₂, Passes p₁ ('\x7d' :: rest) [⟨p₁, .closeBrace⟩] p₂ rest :=
      Passes.sign rfl
    exact ⟨_, p₂, opens.trans closes, .list rfl .no_items rfl (made p), by rintro _ ⟨⟩ ⟨⟩⟩
  · have chars : (Value.listText (es.map Expr.operandText)).toList
        = '\x7b' :: ' ' :: ((join ", " (es.map Expr.operandText)).toList ++ [' ', '\x7d']) := by
      simp [Value.listText, empty]
    obtain ⟨p₁, opens⟩ : ∃ p₁, Passes p ('\x7b' :: ' ' ::
        ((join ", " (es.map Expr.operandText)).toList ++ ' ' :: '\x7d' :: rest))
        [⟨p, .openBrace⟩] p₁ _ := Passes.sign rfl
    obtain ⟨w, p₂, passes, derives, -⟩ := spells_items empty h (p₁ + 1) (' ' :: '\x7d' :: rest) rfl
    obtain ⟨p₃, closes⟩ : ∃ p₃, Passes (p₂ + 1) ('\x7d' :: rest) [⟨p₂ + 1, .closeBrace⟩] p₃ rest :=
      Passes.sign rfl
    refine ⟨⟨p, .openBrace⟩ :: (w ++ [⟨p₂ + 1, .closeBrace⟩]), p₃, ?_,
      .list rfl derives rfl (made p), by rintro _ ⟨⟩ ⟨⟩⟩
    rw [chars]
    have blank : ∀ {q rest}, Passes q (' ' :: rest) [] (q + 1) rest := Passes.blank (by decide)
    simpa using opens.trans (blank.trans (passes.trans (blank.trans closes)))

end PredicateLang.Grammar
