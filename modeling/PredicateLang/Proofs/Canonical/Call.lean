import PredicateLang.Proofs.Canonical.Written
import PredicateLang.Proofs.Text.LetterCase

/-!
# The texts of calls

A call is written in one of four ways: with a sign between its operands, with brackets, by its name
alone, or in the form `FUNCTION`. Each of them is read as the call.
-/

open PredicateLang.Lexing PredicateLang.Parser PredicateLang.Text

namespace PredicateLang.Grammar

variable {text : List Char} {e l r : Expr} {w u v : List Lexeme} {selector : String}

/-! ## Signs -/

/-- The token of a sign. -/
def signToken : ArithmeticSign → Token
  | .plus => .plus
  | .minus => .minus
  | .times => .star
  | .divide => .slash
  | .power => .starStar

/-- Operands with a sign between them. -/
theorem derives_infix (a : ArithmeticSign) {sign : Lexeme} (token : sign.token = signToken a)
    (left : Derives noArguments .signed u [.expr l]) (right : Derives noArguments .signed v [.expr r]) :
    Derives noArguments .expression (u ++ sign :: v) [.expr (.call a.selector [l, r])] := by
  have made : Production.Makes noArguments sign.start (.arithmetic a) ([Operand.expr l] ++ [Operand.expr r])
      (.expr (.call a.selector [l, r])) := Production.makes_iff.mpr ⟨rfl, rfl⟩
  cases a with
  | plus | minus =>
    exact .sum_expression (.add (.product_sum (.power_product (.signed_power left)))
      (by rw [token]; rfl) (.power_product (.signed_power right)) made)
  | times | divide =>
    exact .sum_expression (.product_sum (.multiply (.power_product (.signed_power left))
      (by rw [token]; rfl) (.signed_power right) made))
  | power =>
    exact .sum_expression (.product_sum (.power_product
      (.raise left token (.signed_power right) made)))

/-- Every sign that is written between operands is read as the sign of the call. -/
theorem infix_sign {sign : String} (h : Expr.infixSign? selector = some sign) :
    ∃ a : ArithmeticSign, a.selector = selector ∧ ∀ p rest, ∃ p',
      Passes p (sign.toList ++ ' ' :: rest) [⟨p, signToken a⟩] p' (' ' :: rest) := by
  unfold Expr.infixSign? at h
  split at h
  · cases h
    exact ⟨.plus, rfl, fun p rest => Passes.sign rfl⟩
  · cases h
    exact ⟨.minus, rfl, fun p rest => Passes.sign rfl⟩
  · cases h
    exact ⟨.times, rfl, fun p rest => Passes.sign rfl⟩
  · cases h
    exact ⟨.divide, rfl, fun p rest => Passes.sign rfl⟩
  · cases h
    exact ⟨.power, rfl, fun p rest => Passes.sign rfl⟩
  · cases h

theorem written_infix {sign : String} (h : Expr.infixSign? selector = some sign) (left : Written l)
    (right : Written r) : Written (.call selector [l, r]) := by
  have text : (Expr.call selector [l, r]).text
      = "(" ++ l.operandText ++ " " ++ sign ++ " " ++ r.operandText ++ ")" := by
    rw [Expr.text_call]
    simp [Expr.callText, h]
  have inner : Spells (l.operandText.toList ++ ' ' :: (sign.toList ++ ' ' :: r.operandText.toList))
      .expression [.expr (.call selector [l, r])] := by
    obtain ⟨a, rfl, passes_sign⟩ := infix_sign h
    intro p rest boundary
    obtain ⟨u, p₁, passes, derives, place⟩ := left.operand p
      (' ' :: (sign.toList ++ ' ' :: (r.operandText.toList ++ rest))) rfl
    obtain ⟨p₂, middle⟩ := passes_sign (p₁ + 1) (r.operandText.toList ++ rest)
    obtain ⟨v, p₃, passes', derives', -⟩ := right.operand (p₂ + 1) rest boundary
    refine ⟨u ++ ⟨p₁ + 1, signToken a⟩ :: v, p₃, ?_, derives_infix a rfl derives derives',
      place_append (derives.ne_nil nofun) (by rintro _ ⟨⟩; decide) place⟩
    have blank : ∀ {q rest}, Passes q (' ' :: rest) [] (q + 1) rest := Passes.blank (by decide)
    simpa using passes.trans (blank.trans (middle.trans (blank.trans passes')))
  refine .of_primary rfl ?_
  rw [text]
  simpa using inner.enclosed fun opens derives closes => .enclosed_expression opens derives closes

/-! ## Brackets -/

/-- An operand is written as it is, or in parentheses. -/
theorem operandText_cases (e : Expr) :
    e.operandText = e.text ∨ e.operandText = "(" ++ e.text ++ ")" := by
  cases e with
  | assign => exact .inr rfl
  | _ => exact .inl rfl

theorem namesPlace_of_operandText (h : Expr.namesPlace e.operandText) : Expr.namesPlace e.text := by
  rcases operandText_cases e with same | opens
  · exact same ▸ h
  · have nothing : nameOf e.operandText.toList = "" := by
      have stop : isNameChar '(' = false := by decide
      simp [opens, nameOf, stop]
    rw [Expr.namesPlace, nothing] at h
    cases h

/-- What stands in the brackets is the name of a place, or does not begin with one. -/
theorem place_derives (h : (∃ symbol, r = .symbol symbol) ∨ Written r ∧ !Expr.namesPlace r.text)
    (p : Nat) {rest : List Char} (boundary : isBoundary rest) :
    ∃ w p', Passes p (r.operandText.toList ++ rest) w p' rest ∧
      Derives noArguments .place w [.expr r] := by
  rcases h with ⟨symbol, rfl⟩ | ⟨written, no_place⟩
  · have name : isName symbol.word := by cases symbol <;> decide
    have none : Token.ofKeyword? symbol.word = none := by cases symbol <;> decide
    have place : IndexSymbol.ofWord? symbol.word = some symbol := by cases symbol <;> decide
    obtain ⟨p', passes⟩ := Passes.name (p := p) name boundary
    rw [none] at passes
    exact ⟨_, p', passes, .symbol_place place (Production.makes_iff.mpr ⟨rfl, rfl⟩)⟩
  · obtain ⟨w, p', passes, derives, place⟩ := written.item p rest boundary
    refine ⟨w, p', passes, .expression_place derives fun word head => ?_⟩
    rw [← Option.not_isSome_iff_eq_none]
    intro symbol
    have named := place word head symbol
    rw [namesPlace_of_operandText named] at no_place
    cases no_place

theorem written_index (left : Written l) (unsigned : l.isSigned = false)
    (right : (∃ symbol, r = .symbol symbol) ∨ Written r ∧ !Expr.namesPlace r.text) :
    Written (.call Expr.indexSelector [l, r]) := by
  have text : (Expr.call Expr.indexSelector [l, r]).text.toList
      = l.operandText.toList ++ '[' :: (r.operandText.toList ++ [']']) := by
    rw [Expr.text_call]
    have plain : Expr.infixSign? Expr.indexSelector = none := by decide
    have same : equalIgnoringCase Expr.indexSelector Expr.indexSelector := by decide
    simp [Expr.callText, plain, same]
  refine .of_navigation rfl ?_
  rw [text]
  intro p rest boundary
  obtain ⟨u, p₁, passes, derives, place⟩ := left.base unsigned p
    ('[' :: (r.operandText.toList ++ ']' :: rest)) rfl
  obtain ⟨p₂, opens⟩ : ∃ p₂, Passes p₁ ('[' :: (r.operandText.toList ++ ']' :: rest))
      [⟨p₁, .openBracket⟩] p₂ _ := Passes.sign rfl
  obtain ⟨v, p₃, passes', derives'⟩ : ∃ v p₃, Passes p₂ (r.operandText.toList ++ ']' :: rest)
      v p₃ _ ∧ Derives noArguments .place v [.expr r] := place_derives right p₂ rfl
  obtain ⟨p₄, closes⟩ : ∃ p₄, Passes p₃ (']' :: rest) [⟨p₃, .closeBracket⟩] p₄ rest :=
    Passes.sign rfl
  have made : Production.Makes noArguments p₁ .index ([Operand.expr l] ++ [Operand.expr r])
      (.expr (.index l r)) := Production.makes_iff.mpr ⟨rfl, rfl⟩
  refine ⟨u ++ ⟨p₁, .openBracket⟩ :: (v ++ [⟨p₃, .closeBracket⟩]), p₄, ?_,
    .index derives rfl derives' rfl made,
    place_append (derives.ne_nil nofun) (by rintro _ ⟨⟩; decide) place⟩
  simpa using passes.trans (opens.trans (passes'.trans closes))

/-! ## Names -/

/-- A name in small letters is called as it stands. -/
theorem callByName_eq {name : String} (small : lower name = name) :
    Expr.callByName name [] = .call name [] := by
  have exact' : ∀ f ∈ BuiltinFunction.table, f.arity = 0 →
      f.keyword.toList.map Char.toLower = f.selector.toList := by decide
  rw [Expr.callByName, small]
  cases found : BuiltinFunction.selectorOfCall? name ([] : List Expr).length with
  | none => rfl
  | some selector =>
    rw [BuiltinFunction.selectorOfCall?, if_neg (by simp), Option.map_eq_some_iff] at found
    obtain ⟨f, found, rfl⟩ := found
    have named := List.find?_some found
    rw [Bool.and_eq_true, decide_eq_true_eq, equalIgnoringCase, beq_iff_eq,
      exact' f (List.mem_of_find?_eq_some found) named.1, map_toLower_of_lower small] at named
    rw [String.toList_inj.mp named.2]

theorem written_name {name : String} (h : Expr.isFunctionName name) : Written (.call name []) := by
  rw [Expr.isFunctionName, Bool.and_eq_true, Bool.and_eq_true, Option.isNone_iff_eq_none,
    decide_eq_true_eq] at h
  obtain ⟨⟨isName, no_keyword⟩, small⟩ := h
  have text : (Expr.call name []).text.toList = name.toList ++ ['(', ')'] := by
    simp [Expr.text_call, Expr.callText, Expr.functionFormText]
  have read : nameOf (name.toList ++ ['(', ')']) = name := by
    obtain ⟨c, tail, chars, -, all⟩ := isName_iff.mp isName
    exact nameOf_append (chars ▸ all) rfl
  refine .of_primary rfl ?_
  rw [text]
  intro p rest boundary
  obtain ⟨p₁, passes⟩ : ∃ p₁, Passes p (name.toList ++ '(' :: ')' :: rest) _ p₁ _ :=
    Passes.name isName rfl
  obtain ⟨p₂, opens⟩ : ∃ p₂, Passes p₁ ('(' :: ')' :: rest) [⟨p₁, .openParen⟩] p₂ _ :=
    Passes.sign rfl
  obtain ⟨p₃, closes⟩ : ∃ p₃, Passes p₂ (')' :: rest) [⟨p₂, .closeParen⟩] p₃ rest :=
    Passes.sign rfl
  rw [no_keyword, Option.getD_none] at passes
  have made : Production.Makes noArguments p (.call name 0) [] (.expr (.call name [])) :=
    Production.makes_iff.mpr ⟨rfl, by rw [← callByName_eq small]; rfl⟩
  refine ⟨[⟨p, .identifier name⟩, ⟨p₁, .openParen⟩, ⟨p₂, .closeParen⟩], p₃, ?_,
    .call rfl rfl .no_items rfl made, ?_⟩
  · simpa using passes.trans (opens.trans closes)
  · rintro _ ⟨⟩ symbol
    rw [read]
    exact symbol

/-! ## The form `FUNCTION` -/

section Function

variable {args es : List Expr}

theorem written_form (ne : es ≠ [])
    (h : ∀ e ∈ es, Spells e.operandText.toList .expression [.expr e])
    (text : (Expr.call selector args).text
      = "FUNCTION(" ++ join ", " (es.map Expr.operandText) ++ ")")
    (made : ∀ position, Expr.functionForm position es = .ok (.call selector args)) :
    Written (.call selector args) := by
  have name : isName "FUNCTION" := by decide
  have keyword : Token.ofKeyword? "FUNCTION" = some .function := by decide
  refine .of_primary rfl ?_
  rw [text]
  intro p rest boundary
  obtain ⟨p₁, passes⟩ : ∃ p₁, Passes p
      ("FUNCTION".toList ++ '(' :: ((join ", " (es.map Expr.operandText)).toList ++ ')' :: rest))
      _ p₁ _ := Passes.name name rfl
  obtain ⟨p₂, opens⟩ : ∃ p₂, Passes p₁
      ('(' :: ((join ", " (es.map Expr.operandText)).toList ++ ')' :: rest))
      [⟨p₁, .openParen⟩] p₂ _ := Passes.sign rfl
  obtain ⟨w, p₃, passes', derives, -⟩ := spells_items ne h p₂ (')' :: rest) rfl
  obtain ⟨p₄, closes⟩ : ∃ p₄, Passes p₃ (')' :: rest) [⟨p₃, .closeParen⟩] p₄ rest :=
    Passes.sign rfl
  rw [keyword, Option.getD_some] at passes
  have production : Production.Makes noArguments p (.functionForm (es.map Operand.expr).length)
      (es.map .expr) (.expr (.call selector args)) :=
    Production.makes_iff.mpr ⟨by simp [Production.takes, List.eq_replicate_iff],
      by simp [Production.make, made, Except.map]⟩
  refine ⟨⟨p, .function⟩ :: ⟨p₁, .openParen⟩ :: (w ++ [⟨p₃, .closeParen⟩]), p₄, ?_,
    .functionForm rfl rfl derives rfl production, by rintro _ ⟨⟩ ⟨⟩⟩
  simpa using passes.trans (opens.trans (passes'.trans closes))

/-- A selector as the first or the second item of the form. -/
theorem spells_selector (selector : String) :
    Spells (Expr.constant (.string selector)).operandText.toList .expression
      [.expr (.constant (.string selector))] :=
  (spells_string selector).lift fun derives =>
    (Derives.navigation_signed (.primary_navigation derives)).expression_of_signed

/-- The form with the selector in front. -/
theorem written_selector_first (ne : args ≠ []) (colon : selector.toList.contains ':')
    (h : ∀ e ∈ args, Written e)
    (text : (Expr.call selector args).text = "FUNCTION(" ++ Value.quote selector ++ ", "
      ++ join ", " (args.map Expr.operandText) ++ ")") :
    Written (.call selector args) := by
  obtain ⟨first, others, rfl⟩ := List.exists_cons_of_ne_nil ne
  refine written_form (List.cons_ne_nil (.constant (.string selector)) (first :: others)) ?_ ?_ ?_
  · intro e mem
    rcases List.mem_cons.mp mem with rfl | mem
    · exact spells_selector selector
    · exact (h e mem).item
  · have quoted : (Expr.constant (.string selector)).operandText = Value.quote selector := rfl
    rw [text, ← String.toList_inj]
    simp [toList_join_cons, quoted]
  · intro position
    have taken : Expr.selector? (first :: others).isEmpty (.constant (.string selector))
        = some selector := by simpa [Expr.selector?] using colon
    rw [Expr.functionForm, taken]

/-- The form with the receiver in front, which no selector may be taken for. -/
theorem written_receiver_first (left : Written l) (right : Written r) (no_selector : l.isSelector = false)
    (text : (Expr.call selector [l, r]).text = "FUNCTION(" ++ l.operandText ++ ", "
      ++ Value.quote selector ++ ", " ++ r.operandText ++ ")") :
    Written (.call selector [l, r]) := by
  refine written_form (List.cons_ne_nil l [.constant (.string selector), r]) ?_ ?_ ?_
  · intro e mem
    simp only [List.mem_cons, List.not_mem_nil, or_false] at mem
    rcases mem with rfl | rfl | rfl
    · exact left.item
    · exact spells_selector selector
    · exact right.item
  · have quoted : (Expr.constant (.string selector)).operandText = Value.quote selector := rfl
    rw [text, ← String.toList_inj]
    simp [toList_join_cons, quoted]
  · intro position
    rw [Expr.isSelector, Option.isSome_eq_false_iff, Option.isNone_iff_eq_none] at no_selector
    have passed : Expr.selector? [Expr.constant (.string selector), r].isEmpty l = none :=
      no_selector
    rw [Expr.functionForm, passed]
    rfl

end Function

/-! ## All calls -/

theorem written_call {args : List Expr} (h : Expr.isCall selector args)
    (all : ∀ e ∈ args, e.isSymbol ∨ Written e) : Written (.call selector args) := by
  have written : ∀ e ∈ args, (!e.isSymbol) = true → Written e := by
    intro e mem no_symbol
    rcases all e mem with symbol | written
    · rw [symbol] at no_symbol
      cases no_symbol
    · exact written
  match args with
  | [] => exact written_name h
  | [l, r] =>
    have written_left := written l List.mem_cons_self
    have written_right := written r (List.mem_cons_of_mem _ List.mem_cons_self)
    rw [Expr.isCall] at h
    cases sign : Expr.infixSign? selector with
    | some sign' =>
      rw [sign, Option.isSome_some, if_pos rfl, Bool.and_eq_true] at h
      exact written_infix sign (written_left h.1) (written_right h.2)
    | none =>
      rw [sign, Option.isSome_none, if_neg Bool.false_ne_true] at h
      split at h
      · rw [Bool.and_eq_true, Bool.and_eq_true, Bool.and_eq_true, decide_eq_true_eq,
          Bool.not_eq_true' (b := l.isSigned), Bool.or_eq_true] at h
        obtain ⟨⟨⟨rfl, no_symbol⟩, unsigned⟩, place⟩ := h
        refine written_index (written_left no_symbol) unsigned ?_
        by_cases symbol : r.isSymbol
        · cases r <;> first | exact .inl ⟨_, rfl⟩ | cases symbol
        · exact .inr ⟨written_right (by simp [symbol]), by simpa [symbol] using place⟩
      · rename_i other
        have form : (Expr.call selector [l, r]).text
            = Expr.functionFormText selector [l.operandText, r.operandText] := by
          rw [Expr.text_call, List.map_cons, List.map_cons, List.map_nil,
            Expr.callText, sign]
          exact if_neg other
        rw [Bool.and_eq_true, Bool.and_eq_true, Bool.and_eq_true] at h
        obtain ⟨⟨⟨colon, no_symbol⟩, no_symbol'⟩, receiver⟩ := h
        by_cases single : selector.toList.count ':' = 1
        · refine written_receiver_first (written_left no_symbol) (written_right no_symbol')
            (by simpa [single] using receiver) ?_
          rw [form, Expr.functionFormText, if_pos single]
        · refine written_selector_first (List.cons_ne_nil _ _) colon ?_ ?_
          · intro e mem
            simp only [List.mem_cons, List.not_mem_nil, or_false] at mem
            rcases mem with rfl | rfl
            · exact written_left no_symbol
            · exact written_right no_symbol'
          · rw [form, Expr.functionFormText, if_neg single]
            rfl
  | [e] =>
    rw [Expr.isCall, Bool.and_eq_true, List.all_eq_true] at h
    · refine written_selector_first (List.cons_ne_nil _ _) h.1
        (fun e mem => written e mem (h.2 e mem)) ?_
      rw [Expr.text_call]
      rfl
    · exact nofun
    · exact nofun
  | a :: b :: c :: others =>
    rw [Expr.isCall, Bool.and_eq_true, List.all_eq_true] at h
    · refine written_selector_first (List.cons_ne_nil _ _) h.1
        (fun e mem => written e mem (h.2 e mem)) ?_
      rw [Expr.text_call]
      rfl
    · exact nofun
    · exact nofun

end PredicateLang.Grammar
