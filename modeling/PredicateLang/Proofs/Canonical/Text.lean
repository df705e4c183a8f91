import PredicateLang.Proofs.Canonical.Call

/-!
# Canonical text is read as its tree

The texts of what is left, predicates among it, and the induction over the tree: every canonical
expression and every canonical predicate is what its text is read as.
-/

open PredicateLang.Lexing PredicateLang.Parser PredicateLang.Text

namespace PredicateLang.Grammar

variable {text : List Char} {e l r : Expr} {p : Predicate} {w u v : List Lexeme} {name : String}

/-! ## Other expressions -/

/-- A variable is named without its dollar sign. -/
theorem withoutDollar_name (h : isName name) : Expr.withoutDollar name = name := by
  obtain ⟨c, rest, chars, start, -⟩ := isName_iff.mp h
  rw [Expr.withoutDollar, chars]
  split
  · rename_i e
    rw [(List.cons.inj e).1] at start
    cases start
  · rfl

theorem written_var (h : isName name) : Written (.var name) := by
  refine .of_primary rfl ?_
  intro p rest boundary
  obtain ⟨p', passes⟩ := Passes.var (p := p) h boundary
  have text : (Expr.var name).text = "$" ++ name := rfl
  refine ⟨[⟨p, .var name⟩], p', ?_, .leaf rfl (Production.makes_iff.mpr ⟨rfl, rfl⟩),
    by rintro _ ⟨⟩ ⟨⟩⟩
  simpa [text] using passes

theorem written_self : Written .self :=
  .of_primary rfl (spells_keyword "SELF" .self (by decide) (by decide) fun _ =>
    .leaf rfl (Production.makes_iff.mpr ⟨rfl, rfl⟩))

theorem written_constant {value : Value} (h : value.isLiteral) : Written (.constant value) where
  whole := (isRead_of_isLiteral h).1.lift fun derives => derives.expression_of_signed
  operand := (isRead_of_isLiteral h).1
  base unsigned := ((isRead_of_isLiteral h).2 unsigned).lift fun derives =>
    .primary_navigation derives

theorem written_pathOn {operand : Expr} {path : String} (h : Written operand)
    (no_path : operand.isPath = false) (unsigned : operand.isSigned = false)
    (isPath : Expr.isKeyPath true path) : Written (.pathOn operand path) := by
  refine .of_navigation rfl ?_
  have text : (Expr.pathOn operand path).text.toList
      = operand.operandText.toList ++ '.' :: (Expr.pathText path).toList := by
    simp [Expr.text_pathOn]
  rw [text]
  exact spells_pathOn (h.base unsigned) no_path isPath

theorem written_list {items : List Expr} (no_symbol : ∀ e ∈ items, !e.isSymbol)
    (h : ∀ e ∈ items, e.isSymbol ∨ Written e) : Written (.list items) := by
  refine .of_primary rfl ?_
  rw [Expr.text_list]
  refine spells_list fun e mem => ?_
  rcases h e mem with symbol | written
  · have := no_symbol e mem
    rw [symbol] at this
    cases this
  · exact written.item

/-- An assignment stands in parentheses wherever it is a part. -/
theorem written_assign (isName : isName name) (h : Written e) : Written (.assign name e) := by
  have whole : Spells (Expr.assign name e).text.toList .expression [.expr (.assign name e)] := by
    have text : (Expr.assign name e).text.toList
        = '$' :: (name.toList ++ ' ' :: ':' :: '=' :: ' ' :: e.operandText.toList) := by
      simp [Expr.text_assign]
    rw [text]
    intro p rest boundary
    obtain ⟨p₁, passes⟩ : ∃ p₁, Passes p
        ('$' :: (name.toList ++ ' ' :: ':' :: '=' :: ' ' :: (e.operandText.toList ++ rest)))
        [⟨p, .var name⟩] p₁ _ := Passes.var isName rfl
    obtain ⟨p₂, sign⟩ : ∃ p₂, Passes (p₁ + 1)
        (':' :: '=' :: ' ' :: (e.operandText.toList ++ rest)) [⟨p₁ + 1, .assign⟩] p₂ _ :=
      Passes.sign rfl
    obtain ⟨v, p₃, passes', derives, -⟩ := h.item (p₂ + 1) rest boundary
    have target : Derives noArguments .sum [⟨p, .var name⟩] [.expr (.var name)] :=
      .product_sum (.power_product (.signed_power (.navigation_signed (.primary_navigation
        (.leaf rfl (Production.makes_iff.mpr ⟨rfl, rfl⟩))))))
    have made : Production.Makes noArguments (p₁ + 1) .assignment ([Operand.expr (.var name)] ++ [Operand.expr e])
        (.expr (.assign name e)) :=
      Production.makes_iff.mpr ⟨rfl, by simp [Production.make, withoutDollar_name isName]⟩
    refine ⟨[⟨p, .var name⟩] ++ ⟨p₁ + 1, .assign⟩ :: v, p₃, ?_, .assignment target rfl derives made,
      by rintro _ ⟨⟩ ⟨⟩⟩
    have blank : ∀ {q rest}, Passes q (' ' :: rest) [] (q + 1) rest := Passes.blank (by decide)
    simpa using passes.trans (blank.trans (sign.trans (blank.trans passes')))
  have operand : Spells (Expr.assign name e).operandText.toList .primary
      [.expr (.assign name e)] := by
    have enclosed := whole.enclosed fun opens derives closes =>
      .enclosed_expression opens derives closes
    simpa [Expr.operandText, Expr.enclose] using enclosed
  exact ⟨whole, operand.lift fun derives => .navigation_signed (.primary_navigation derives),
    fun _ => operand.lift fun derives => .primary_navigation derives⟩

/-! ## Comparisons -/

/-- An operator, with what may stand behind it in front of its right operand. -/
theorem passes_operator (operator : Operator) (p : Nat) {c : Char} (follows : c = ' ' ∨ c = '[')
    (rest : List Char) : ∃ t p', Passes p (operator.symbol.toList ++ c :: rest) [⟨p, t⟩] p' (c :: rest)
      ∧ operator? t = some operator := by
  have boundary : isBoundary (c :: rest) := by rcases follows with rfl | rfl <;> rfl
  have sign : ∀ {t}, readSign (operator.symbol.toList ++ c :: rest) = some (t, c :: rest) →
      operator? t = some operator → operator.symbol.toList ≠ [] →
      ∃ t p', Passes p (operator.symbol.toList ++ c :: rest) [⟨p, t⟩] p' (c :: rest)
        ∧ operator? t = some operator := by
    intro t read operator ne
    obtain ⟨d, symbol, chars⟩ := List.exists_cons_of_ne_nil ne
    rw [chars, List.cons_append] at read ⊢
    obtain ⟨p', passes⟩ := Passes.sign (p := p) read
    exact ⟨t, p', passes, operator⟩
  have word : ∀ {t}, isName operator.symbol → Token.ofKeyword? operator.symbol = some t →
      operator? t = some operator →
      ∃ t p', Passes p (operator.symbol.toList ++ c :: rest) [⟨p, t⟩] p' (c :: rest)
        ∧ operator? t = some operator := by
    intro t name keyword operator
    obtain ⟨p', passes⟩ := Passes.name (p := p) name boundary
    rw [keyword] at passes
    exact ⟨t, p', passes, operator⟩
  cases operator with
  | less | greater =>
    rcases follows with rfl | rfl <;> exact sign rfl rfl (by decide)
  | lessEqual | greaterEqual | equal | notEqual => exact sign rfl rfl (by decide)
  | isMatch | like | beginsWith | endsWith | member | contains | between =>
    exact word (by decide) rfl rfl

/-- The letters of options are read as the options. -/
theorem flags_read {o : Options} (h : o.isEmpty = false) :
    isName o.flags ∧ Token.ofKeyword? o.flags = none ∧ Options.ofFlags? o.flags = some o := by
  obtain ⟨_ | _, _ | _, _ | _⟩ := o <;> first | decide | cases h

theorem passes_options (o : Options) (p : Nat) (rest : List Char) :
    ∃ w p', Passes p ((Predicate.optionsText o).toList ++ ' ' :: rest) w p' (' ' :: rest)
      ∧ Suffix w o := by
  rw [Predicate.optionsText]
  cases empty : o.isEmpty with
  | true =>
    obtain rfl : o = .none := by simpa [Options.isEmpty] using empty
    exact ⟨[], p, .refl p _, .none⟩
  | false =>
    obtain ⟨name, no_keyword, known⟩ := flags_read empty
    obtain ⟨p₁, opens⟩ : ∃ p₁, Passes p ('[' :: (o.flags.toList ++ ']' :: ' ' :: rest))
        [⟨p, .openBracket⟩] p₁ _ := Passes.sign rfl
    obtain ⟨p₂, word⟩ : ∃ p₂, Passes p₁ (o.flags.toList ++ ']' :: ' ' :: rest) _ p₂ _ :=
      Passes.name name rfl
    obtain ⟨p₃, closes⟩ : ∃ p₃, Passes p₂ (']' :: ' ' :: rest) [⟨p₂, .closeBracket⟩] p₃ _ :=
      Passes.sign rfl
    rw [no_keyword, Option.getD_none] at word
    refine ⟨[⟨p, .openBracket⟩, ⟨p₁, .identifier o.flags⟩, ⟨p₂, .closeBracket⟩], p₃, ?_,
      .flags rfl rfl known rfl⟩
    simpa using opens.trans (word.trans closes)

/-- A comparison without its parentheses. -/
theorem spells_comparison (left : Written l) (right : Written r) (operator : Operator)
    (o : Options) :
    Spells (l.operandText.toList ++ ' ' :: (operator.symbol.toList
        ++ ((Predicate.optionsText o).toList ++ ' ' :: r.operandText.toList)))
      .comparison [.predicate (.comparison l operator r .direct o)] := by
  intro p rest boundary
  obtain ⟨u, p₁, passes, derives, place⟩ := left.item p (' ' :: (operator.symbol.toList
    ++ ((Predicate.optionsText o).toList ++ ' ' :: (r.operandText.toList ++ rest)))) rfl
  obtain ⟨c, tail, chars, follows⟩ : ∃ c tail,
      (Predicate.optionsText o).toList ++ ' ' :: (r.operandText.toList ++ rest) = c :: tail
        ∧ (c = ' ' ∨ c = '[') := by
    rw [Predicate.optionsText]
    split
    · exact ⟨' ', _, rfl, .inl rfl⟩
    · exact ⟨'[', o.flags.toList ++ ']' :: ' ' :: (r.operandText.toList ++ rest), by simp, .inr rfl⟩
  obtain ⟨t, p₂, sign, known⟩ := passes_operator operator (p₁ + 1) follows tail
  obtain ⟨x, p₃, options, suffix⟩ := passes_options o p₂ (r.operandText.toList ++ rest)
  obtain ⟨v, p₄, passes', derives', -⟩ := right.item (p₃ + 1) rest boundary
  have made : Production.Makes noArguments (p₁ + 1) (.comparison operator o) ([Operand.expr l] ++ [Operand.expr r])
      (.predicate (.comparison l operator r .direct o)) := Production.makes_iff.mpr ⟨rfl, rfl⟩
  refine ⟨u ++ ⟨p₁ + 1, t⟩ :: (x ++ v), p₄, ?_, .compare derives known suffix derives' made,
    place_append (derives.ne_nil nofun) (by rintro _ ⟨⟩; decide) place⟩
  have blank : ∀ {q rest}, Passes q (' ' :: rest) [] (q + 1) rest := Passes.blank (by decide)
  rw [← chars] at sign
  simpa using passes.trans (blank.trans (sign.trans (options.trans (blank.trans passes'))))

/-- A word for a quantifier in front of a comparison. -/
theorem spells_quantified (word : String) (t : Token) {quantifier : QuantifierWord}
    {compared quantified : Predicate} (name : isName word)
    (keyword : Token.ofKeyword? word = some t) (known : quantifier? t = some quantifier)
    (quantifies : ∀ position, compared.quantify position quantifier = .ok quantified)
    (h : Spells text .comparison [.predicate compared]) :
    Spells (word.toList ++ ' ' :: text) .primaryPredicate [.predicate quantified] := by
  intro p rest boundary
  obtain ⟨p₁, first⟩ : ∃ p₁, Passes p (word.toList ++ ' ' :: (text ++ rest)) _ p₁ _ :=
    Passes.name name rfl
  obtain ⟨w, p₂, passes, derives, -⟩ := h (p₁ + 1) rest boundary
  rw [keyword, Option.getD_some] at first
  have made : Production.Makes noArguments p (.quantified quantifier) [.predicate compared]
      (.predicate quantified) :=
    Production.makes_iff.mpr ⟨rfl, by simp [Production.make, quantifies, Except.map]⟩
  refine ⟨⟨p, t⟩ :: w, p₂, ?_, .quantified known derives made, ?_⟩
  · simpa using first.trans ((Passes.blank (by decide)).trans passes)
  · rintro _ ⟨⟩ symbol
    rw [indexSymbol_keyword keyword] at symbol
    cases symbol

theorem Derives.disjunction_of_primary {operands : List Operand}
    (h : Derives noArguments .primaryPredicate w operands) :
    Derives noArguments .disjunction w operands :=
  .conjunction_disjunction (.negation_conjunction (.primary_negation h))

theorem spells_comparison_text (left : Written l) (right : Written r) (operator : Operator)
    (modifier : Modifier) (o : Options) :
    Spells (Predicate.comparison l operator r modifier o).text.toList .primaryPredicate
      [.predicate (.comparison l operator r modifier o)] := by
  have inner : Spells ((Predicate.modifierText modifier).toList ++ (l.operandText.toList ++ ' ' ::
      (operator.symbol.toList ++ ((Predicate.optionsText o).toList ++ ' ' :: r.operandText.toList))))
      .primaryPredicate [.predicate (.comparison l operator r modifier o)] := by
    have compared := spells_comparison left right operator o
    cases modifier with
    | direct => exact compared.lift fun derives => .comparison_primary derives
    | any => exact spells_quantified "ANY" .any (by decide) (by decide) rfl (fun _ => rfl) compared
    | all => exact spells_quantified "ALL" .all (by decide) (by decide) rfl (fun _ => rfl) compared
  have enclosed := inner.enclosed fun opens derives closes =>
    .enclosed_predicate opens (derives.disjunction_of_primary) closes
  simpa [Predicate.text, Expr.operandText] using enclosed

/-! ## Compounds -/

theorem Derives.disjunction_of_negation {operands : List Operand}
    (h : Derives noArguments .negation w operands) : Derives noArguments .disjunction w operands :=
  .conjunction_disjunction (.negation_conjunction h)

/-- Further predicates behind the first ones, with a word in front of each. -/
theorem spells_parts {many one : Phrase} {t : Token} {word : String} (name : isName word)
    (keyword : Token.ofKeyword? word = some t)
    (next : ∀ {u v ps qs} {sign : Lexeme}, Derives noArguments many u ps → sign.token = t →
      Derives noArguments one v qs → Derives noArguments many (u ++ sign :: v) (ps ++ qs))
    (nonempty : many ≠ .items) {before parts : List Predicate}
    (h : Spells text many (before.map .predicate))
    (all : ∀ p ∈ parts, Spells p.text.toList one [.predicate p]) :
    Spells (text ++ parts.flatMap fun p => ' ' :: (word.toList ++ ' ' :: p.text.toList)) many
      ((before ++ parts).map .predicate) := by
  induction parts generalizing text before with
  | nil => simpa using h
  | cons p parts ih =>
    have extended : Spells (text ++ ' ' :: (word.toList ++ ' ' :: p.text.toList)) many
        ((before ++ [p]).map .predicate) := by
      intro q rest boundary
      obtain ⟨u, q₁, passes, derives, place⟩ := h q
        (' ' :: (word.toList ++ ' ' :: (p.text.toList ++ rest))) rfl
      obtain ⟨q₂, middle⟩ : ∃ q₂, Passes (q₁ + 1) (word.toList ++ ' ' :: (p.text.toList ++ rest)) _
          q₂ _ := Passes.name name rfl
      obtain ⟨v, q₃, passes', derives', -⟩ := all p List.mem_cons_self (q₂ + 1) rest boundary
      rw [keyword, Option.getD_some] at middle
      rw [List.map_append]
      refine ⟨u ++ ⟨q₁ + 1, t⟩ :: v, q₃, ?_, next derives rfl derives',
        place_append (derives.ne_nil nonempty) (by rintro _ ⟨⟩; decide) place⟩
      have blank : ∀ {q rest}, Passes q (' ' :: rest) [] (q + 1) rest := Passes.blank (by decide)
      simpa using passes.trans (blank.trans (middle.trans (blank.trans passes')))
    simpa using ih extended fun p' mem => all p' (List.mem_cons_of_mem _ mem)

/-- At least two predicates with a word between each two, in parentheses. -/
theorem spells_compound (many one : Phrase) (t : Token) (word : String) (name : isName word)
    (keyword : Token.ofKeyword? word = some t) (nonempty : many ≠ .items)
    (single : ∀ {w ps}, Derives noArguments one w ps → Derives noArguments many w ps)
    (next : ∀ {u v ps qs} {sign : Lexeme}, Derives noArguments many u ps → sign.token = t →
      Derives noArguments one v qs → Derives noArguments many (u ++ sign :: v) (ps ++ qs))
    {parts : List Predicate} (several : 2 ≤ parts.length)
    (all : ∀ p ∈ parts, Spells p.text.toList one [.predicate p])
    (whole : ∀ {w}, Derives noArguments many w (parts.map .predicate) →
      Derives noArguments .disjunction w [.predicate p])
    (text : p.text = Predicate.compoundText (" " ++ word ++ " ") (Predicate.texts parts)) :
    Spells p.text.toList .primaryPredicate [.predicate p] := by
  match parts, several with
  | first :: second :: others, _ =>
    have chars : p.text.toList = '(' :: (first.text.toList ++ (second :: others).flatMap (fun p =>
          ' ' :: (word.toList ++ ' ' :: p.text.toList)) ++ [')']) := by
      rw [text, Predicate.texts_eq, List.map_cons, List.map_cons, Predicate.compoundText]
      · simp [toList_join_cons, List.flatMap_map]
      · simp
      · simp
    have head : Spells first.text.toList many ([first].map .predicate) :=
      (all first List.mem_cons_self).lift single
    have listed := spells_parts name keyword next nonempty head
      fun p mem => all p (List.mem_cons_of_mem _ mem)
    have joined : Spells _ .disjunction [.predicate p] := listed.lift whole
    rw [chars]
    exact joined.enclosed fun opens derives closes => .enclosed_predicate opens derives closes

theorem spells_and {parts : List Predicate} (several : 2 ≤ parts.length)
    (all : ∀ p ∈ parts, Spells p.text.toList .negation [.predicate p]) :
    Spells (Predicate.compound .and parts).text.toList .primaryPredicate
      [.predicate (.compound .and parts)] := by
  refine spells_compound .conjuncts .negation .and "AND" (by decide) (by decide) nofun
    .first_conjunct .next_conjunct several all (fun derives => ?_) rfl
  exact .conjunction_disjunction (.and derives (by rw [List.length_map]; exact several) (Production.makes_iff.mpr
    ⟨by simp [Production.takes, List.eq_replicate_iff], by simp [Production.make]⟩))

theorem spells_or {parts : List Predicate} (several : 2 ≤ parts.length)
    (all : ∀ p ∈ parts, Spells p.text.toList .negation [.predicate p]) :
    Spells (Predicate.compound .or parts).text.toList .primaryPredicate
      [.predicate (.compound .or parts)] := by
  refine spells_compound .disjuncts .conjunction .or "OR" (by decide) (by decide) nofun
    .first_disjunct .next_disjunct several (fun p mem => (all p mem).lift .negation_conjunction)
    (fun derives => ?_) rfl
  exact .or derives (by rw [List.length_map]; exact several) (Production.makes_iff.mpr
    ⟨by simp [Production.takes, List.eq_replicate_iff], by simp [Production.make]⟩)

theorem spells_not {part : Predicate} (h : Spells part.text.toList .negation [.predicate part]) :
    Spells (Predicate.compound .not [part]).text.toList .negation
      [.predicate (.compound .not [part])] := by
  have denied : ∀ {text : List Char}, Spells text .negation [.predicate part] →
      Spells ("NOT".toList ++ ' ' :: text) .negation [.predicate (.compound .not [part])] := by
    intro text inner p rest boundary
    have name : isName "NOT" := by decide
    have keyword : Token.ofKeyword? "NOT" = some .not := by decide
    obtain ⟨p₁, first⟩ : ∃ p₁, Passes p ("NOT".toList ++ ' ' :: (text ++ rest)) _ p₁ _ :=
      Passes.name name rfl
    obtain ⟨w, p₂, passes, derives, -⟩ := inner (p₁ + 1) rest boundary
    rw [keyword, Option.getD_some] at first
    have made : Production.Makes noArguments p .not [.predicate part]
        (.predicate (.compound .not [part])) := Production.makes_iff.mpr ⟨rfl, rfl⟩
    refine ⟨⟨p, .not⟩ :: w, p₂, ?_, .not rfl derives made, by rintro _ ⟨⟩ ⟨⟩⟩
    simpa using first.trans ((Passes.blank (by decide)).trans passes)
  rw [Predicate.text]
  split
  · simpa using denied h
  · have enclosed := h.enclosed fun opens derives closes =>
      Derives.primary_negation (.enclosed_predicate opens derives.disjunction_of_negation closes)
    simpa using denied enclosed

/-! ## The induction -/

theorem spells_predicateConstant (value : Bool) :
    Spells (Predicate.constant value).text.toList .primaryPredicate [.predicate (.constant value)] := by
  cases value with
  | false =>
    exact spells_keyword "FALSEPREDICATE" (.predicateConstant false) (by decide) (by decide)
      fun _ => .predicateConstant rfl (Production.makes_iff.mpr ⟨rfl, rfl⟩)
  | true =>
    exact spells_keyword "TRUEPREDICATE" (.predicateConstant true) (by decide) (by decide)
      fun _ => .predicateConstant rfl (Production.makes_iff.mpr ⟨rfl, rfl⟩)

theorem written_subquery (isName : isName name) (h : Written e)
    (h' : Spells p.text.toList .negation [.predicate p]) : Written (.subquery e name p) := by
  have text : (Expr.subquery e name p).text.toList = "SUBQUERY".toList ++ '(' ::
      (e.operandText.toList ++ ',' :: ' ' :: '$' :: (name.toList ++ ',' :: ' ' ::
        (p.text.toList ++ [')']))) := by
    simp [Expr.text_subquery]
  have word : Lexing.isName "SUBQUERY" := by decide
  have keyword : Token.ofKeyword? "SUBQUERY" = some .subquery := by decide
  refine .of_primary rfl ?_
  rw [text]
  intro q rest boundary
  obtain ⟨q₁, first⟩ : ∃ q₁, Passes q ("SUBQUERY".toList ++ '(' :: (e.operandText.toList ++ ',' ::
      ' ' :: '$' :: (name.toList ++ ',' :: ' ' :: (p.text.toList ++ ')' :: rest)))) _ q₁ _ :=
    Passes.name word rfl
  obtain ⟨q₂, opens⟩ : ∃ q₂, Passes q₁ ('(' :: (e.operandText.toList ++ ',' ::
      ' ' :: '$' :: (name.toList ++ ',' :: ' ' :: (p.text.toList ++ ')' :: rest))))
      [⟨q₁, .openParen⟩] q₂ _ := Passes.sign rfl
  obtain ⟨u, q₃, collection, derives, -⟩ := h.item q₂ (',' :: ' ' :: '$' ::
    (name.toList ++ ',' :: ' ' :: (p.text.toList ++ ')' :: rest))) rfl
  obtain ⟨q₄, comma⟩ := passes_comma q₃
    ('$' :: (name.toList ++ ',' :: ' ' :: (p.text.toList ++ ')' :: rest)))
  obtain ⟨q₅, var⟩ : ∃ q₅, Passes q₄ ('$' :: (name.toList ++ ',' :: ' ' ::
      (p.text.toList ++ ')' :: rest))) [⟨q₄, .var name⟩] q₅ _ := Passes.var isName rfl
  obtain ⟨q₆, comma'⟩ := passes_comma q₅ (p.text.toList ++ ')' :: rest)
  obtain ⟨v, q₇, predicate, derives', -⟩ := h' q₆ (')' :: rest) rfl
  obtain ⟨q₈, closes⟩ : ∃ q₈, Passes q₇ (')' :: rest) [⟨q₇, .closeParen⟩] q₈ rest :=
    Passes.sign rfl
  rw [keyword, Option.getD_some] at first
  have made : Production.Makes noArguments q (.subquery name) ([Operand.expr e] ++ [Operand.predicate p])
      (.expr (.subquery e name p)) :=
    Production.makes_iff.mpr ⟨rfl, by simp [Production.make, withoutDollar_name isName]⟩
  refine ⟨⟨q, .subquery⟩ :: ⟨q₁, .openParen⟩ :: (u ++ ⟨q₃, .comma⟩ :: ⟨q₄, .var name⟩ ::
    ⟨q₅, .comma⟩ :: (v ++ [⟨q₇, .closeParen⟩])), q₈, ?_,
    .subquery rfl rfl derives rfl rfl rfl derives'.disjunction_of_negation rfl made,
    by rintro _ ⟨⟩ ⟨⟩⟩
  simpa using first.trans (opens.trans (collection.trans (comma.trans (var.trans (comma'.trans
    (predicate.trans closes))))))

mutual

theorem written_of_canonical : (e : Expr) → e.isCanonical → Written e
  | .constant _, h => written_constant h
  | .self, _ => written_self
  | .var _, h => written_var h
  | .path _, h => .of_navigation rfl (spells_path h)
  | .pathOn operand path, h => by
    rw [Expr.isCanonical, Bool.and_eq_true, Bool.and_eq_true, Bool.and_eq_true,
      Bool.not_eq_true', Bool.not_eq_true'] at h
    obtain ⟨⟨⟨canonical, no_path⟩, unsigned⟩, isPath⟩ := h
    exact written_pathOn (written_of_canonical operand canonical) no_path unsigned isPath
  | .call selector args, h => by
    rw [Expr.isCanonical, Bool.and_eq_true] at h
    exact written_call h.1 (written_of_areCanonical args h.2)
  | .subquery collection var predicate, h => by
    rw [Expr.isCanonical, Bool.and_eq_true, Bool.and_eq_true] at h
    exact written_subquery h.1.2 (written_of_canonical collection h.1.1)
      (spells_of_canonical predicate h.2)
  | .list items, h => by
    rw [Expr.isCanonical, Bool.and_eq_true, List.all_eq_true] at h
    exact written_list h.1 (written_of_areCanonical items h.2)
  | .symbol _, h => nomatch h
  | .assign var value, h => by
    rw [Expr.isCanonical, Bool.and_eq_true] at h
    exact written_assign h.1 (written_of_canonical value h.2)

theorem written_of_areCanonical : (es : List Expr) → Expr.areCanonical es →
    ∀ e ∈ es, e.isSymbol ∨ Written e
  | [], _ => nofun
  | e :: es, h => by
    rw [Expr.areCanonical, Bool.and_eq_true, Bool.or_eq_true] at h
    have first := h.1.imp_right (written_of_canonical e)
    have others := written_of_areCanonical es h.2
    exact List.forall_mem_cons.mpr ⟨first, others⟩

theorem spells_of_canonical : (p : Predicate) → p.isCanonical →
    Spells p.text.toList .negation [.predicate p]
  | .constant value, _ =>
    (spells_predicateConstant value).lift fun derives => .primary_negation derives
  | .comparison left operator right modifier options, h => by
    rw [Predicate.isCanonical, Bool.and_eq_true] at h
    exact (spells_comparison_text (written_of_canonical left h.1) (written_of_canonical right h.2)
      operator modifier options).lift fun derives => .primary_negation derives
  | .compound .not parts, h => by
    rw [Predicate.isCanonical, Bool.and_eq_true, decide_eq_true_eq] at h
    obtain ⟨single, canonical⟩ := h
    have all := spells_of_areCanonical parts canonical
    match parts, single with
    | [part], _ => exact spells_not (all part List.mem_cons_self)
  | .compound .and parts, h => by
    rw [Predicate.isCanonical, Bool.and_eq_true, decide_eq_true_eq] at h
    · exact (spells_and h.1 (spells_of_areCanonical parts h.2)).lift .primary_negation
    · exact nofun
  | .compound .or parts, h => by
    rw [Predicate.isCanonical, Bool.and_eq_true, decide_eq_true_eq] at h
    · exact (spells_or h.1 (spells_of_areCanonical parts h.2)).lift .primary_negation
    · exact nofun

theorem spells_of_areCanonical : (ps : List Predicate) → Predicate.areCanonical ps →
    ∀ p ∈ ps, Spells p.text.toList .negation [.predicate p]
  | [], _ => nofun
  | p :: ps, h => by
    rw [Predicate.areCanonical, Bool.and_eq_true] at h
    have first := spells_of_canonical p h.1
    have others := spells_of_areCanonical ps h.2
    exact List.forall_mem_cons.mpr ⟨first, others⟩

end

end PredicateLang.Grammar
