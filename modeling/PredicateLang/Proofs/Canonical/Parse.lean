import PredicateLang.Proofs.Canonical.Text
import PredicateLang.Proofs.Grammar.Parse
import PredicateLang.Proofs.Lexing.Placeholders

/-!
# Parsing canonical text

Parsing the text of a canonical tree gives the tree. The text is cut into the words that it spells,
and no argument is missing, because words that are derived without arguments hold no placeholder.
-/

open PredicateLang.Lexing PredicateLang.Parser PredicateLang.Text

namespace PredicateLang.Grammar

variable {phrase : Phrase} {w : List Lexeme} {operands : List Operand} {e : Expr} {p : Predicate}

/-! ## Placeholders -/

/-- There is nothing that a placeholder could stand for. -/
theorem not_makes_placeholder {position : Nat} {conversion : Char} {operand : Operand} :
    ¬Production.Makes noArguments position (.placeholder conversion) [] operand := by
  intro made
  cases (Production.makes_iff.mp made).2

/-- Is the token another one than a placeholder? -/
def isFixed : Token → Bool
  | .placeholder _ => false
  | _ => true

theorem placeholder?_eq_none {word : Lexeme} : placeholder? word = none ↔ isFixed word.token := by
  obtain ⟨start, t⟩ := word
  cases t <;> simp [placeholder?, isFixed]

/-- What stands for something else is no placeholder. -/
theorem isFixed_of_isSome {α : Type} {means : Token → Option α} {t : Token} {a : α}
    (none : ∀ c, means (.placeholder c) = none) (h : means t = some a) : isFixed t := by
  cases t with
  | placeholder c => rw [none c] at h; cases h
  | _ => rfl

theorem isFixed_suffix {options : Options} (h : Suffix w options) :
    ∀ word ∈ w, isFixed word.token := by
  cases h with
  | none => simp
  | flags opens names known closes => simp [opens, names, closes, isFixed]

/-- Without arguments no word is a placeholder. -/
theorem Derives.no_placeholder (h : Derives noArguments phrase w operands) :
    ∀ word ∈ w, isFixed word.token := by
  induction h with
  | leaf word_eq made =>
    intro word mem
    rw [List.mem_singleton.mp mem]
    unfold isFixed
    split
    · rename_i token
      rw [token] at word_eq
      cases word_eq
      exact (not_makes_placeholder made).elim
    · rfl
  | quantified word_eq _ _ ih =>
    exact List.forall_mem_cons.mpr ⟨isFixed_of_isSome (fun _ => rfl) word_eq, ih⟩
  | compare _ sign_eq suffix _ _ ih ih' =>
    have sign := isFixed_of_isSome (fun _ => rfl) sign_eq
    have letters := isFixed_suffix suffix
    grind
  | add _ sign_eq _ _ ih ih' | multiply _ sign_eq _ _ ih ih' =>
    have sign := isFixed_of_isSome (fun _ => rfl) sign_eq
    grind
  | symbol_place word_eq =>
    exact List.forall_mem_singleton.mpr (isFixed_of_isSome (fun _ => rfl) word_eq)
  | subquery word_eq opens _ comma_eq var_eq comma'_eq _ closes _ ih ih' =>
    simp only [List.forall_mem_cons, List.forall_mem_append, word_eq, opens, comma_eq, var_eq,
      comma'_eq, closes]
    exact ⟨rfl, rfl, ih, rfl, rfl, rfl, ih', rfl, nofun⟩
  | _ => grind [isFixed]

/-! ## Texts -/

/-- A text that spells a phrase is cut into the words of the phrase and nothing else. -/
theorem Spells.text {text : List Char} {operand : Operand} (h : Spells text phrase [operand]) :
    (ofChars 0 text).fault = none ∧ Arguments.ofText (String.ofList text) [] = .ok noArguments
      ∧ DerivesText noArguments phrase (ofChars 0 text).lexemes operand := by
  obtain ⟨w, p, passes, derives, -⟩ := h 0 [] rfl
  have cut : ofChars 0 text = ⟨w ++ [⟨p, .eof⟩], none⟩ := by
    have passes : Passes 0 text w p [] := by simpa using passes
    rw [passes, ofChars_end rfl]
    rfl
  have none : placeholderOffsets (String.ofList text) = [] := by
    have scanned := (scan_eq 0 text).2 (by rw [cut])
    rw [placeholderOffsets, String.toList_ofList]
    refine scanned.symm.trans ?_
    rw [cut, placeholders, List.filterMap_eq_nil_iff]
    intro word mem
    rcases List.mem_append.mp mem with mem | mem
    · exact placeholder?_eq_none.mpr (derives.no_placeholder word mem)
    · rw [List.mem_singleton.mp mem]
      rfl
  refine ⟨by rw [cut], ?_, w, ⟨p, .eof⟩, [], by rw [cut], rfl, derives⟩
  rw [Arguments.ofText, none]
  rfl

theorem parse_expr_of_spells (h : Spells e.text.toList .expression [.expr e]) :
    Expr.parse e.text [] = .ok e := by
  obtain ⟨-, arguments, derives⟩ := h.text
  rw [String.ofList_toList] at arguments
  exact whole_iff.mpr ⟨noArguments, arguments, (expression_iff _ _).mpr derives⟩

theorem parse_predicate_of_spells (h : Spells p.text.toList .disjunction [.predicate p]) :
    Predicate.parse p.text [] = .ok p := by
  obtain ⟨-, arguments, derives⟩ := h.text
  rw [String.ofList_toList] at arguments
  exact whole_iff.mpr ⟨noArguments, arguments, (disjunction_iff _ _).mpr derives⟩

/-- Parsing the text of a canonical expression gives the expression. -/
theorem parse_expr_text (h : e.isCanonical) : Expr.parse e.text [] = .ok e :=
  parse_expr_of_spells (written_of_canonical e h).whole

/-- Parsing the text of a canonical predicate gives the predicate. -/
theorem parse_predicate_text (h : p.isCanonical) : Predicate.parse p.text [] = .ok p :=
  parse_predicate_of_spells ((spells_of_canonical p h).lift fun derives =>
    derives.disjunction_of_negation)

end PredicateLang.Grammar
