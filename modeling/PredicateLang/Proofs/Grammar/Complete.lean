import PredicateLang.Proofs.Grammar.Sound
import PredicateLang.Proofs.Grammar.Words

/-!
# What is derived is read

Every phrase of the grammar is read by the parser with the operands of its derivation, provided
that the token after it does not go on with the phrase. The induction is on the derivation, inside
an induction on the number of words: where a parenthesis is tried as that of a predicate although
the derivation takes it as that of an expression, the words between the parentheses are compared
with those of the attempt, and both are shorter.

Phrases that associate to the left are read by loops. What is proved of them is that the parser
arrives in the loop with the operands of the phrase (`Completes`).
-/

open PredicateLang.Parser

namespace PredicateLang.Grammar

/-! ## Tokens that end a phrase -/

section Ends

variable (token : Token)

/-- The token does not go on with a primary expression. -/
def EndsPrimary : Prop := token ≠ .openParen

/-- The token does not go on with a navigation. -/
def EndsNavigation : Prop := EndsPrimary token ∧ token ≠ .dot ∧ token ≠ .openBracket

/-- The token does not go on with a power. -/
def EndsPower : Prop := EndsNavigation token ∧ token ≠ .starStar

/-- The token does not go on with a product. -/
def EndsProduct : Prop := EndsPower token ∧ multiplicativeSign? token = none

/-- The token does not go on with a sum. -/
def EndsSum : Prop := EndsProduct token ∧ additiveSign? token = none

/-- The token does not go on with an expression. -/
def EndsExpression : Prop := EndsSum token ∧ token ≠ .assign

/-- The token does not go on with a comparison. -/
def EndsComparison : Prop := EndsExpression token ∧ operator? token = none

/-- The token does not go on with a conjunction. -/
def EndsConjunction : Prop := EndsComparison token ∧ token ≠ .and

/-- The token does not go on with a disjunction. -/
def EndsDisjunction : Prop := EndsConjunction token ∧ token ≠ .or

end Ends

/-- No token that ends a comparison goes on with an expression. -/
theorem EndsComparison.not_continues {token : Token} (h : EndsComparison token) :
    continuesExpression token = false := by
  obtain ⟨⟨⟨⟨⟨⟨-, dot, bracket⟩, power⟩, product⟩, sum⟩, assign⟩, operator⟩ := h
  unfold continuesExpression
  rw [operator]
  split <;> simp_all [additiveSign?, multiplicativeSign?]

theorem endsDisjunction_closer {token : Token}
    (h : token ∈ [.closeParen, .closeBracket, .closeBrace, .comma, .eof]) :
    EndsDisjunction token := by
  have fields : ∀ t ∈ [Token.closeParen, .closeBracket, .closeBrace, .comma, .eof],
      EndsDisjunction t := by
    simp [EndsDisjunction, EndsConjunction, EndsComparison, EndsExpression, EndsSum, EndsProduct,
      EndsPower, EndsNavigation, EndsPrimary, operator?, additiveSign?, multiplicativeSign?]
  exact fields token h

theorem endsConjunction_or : EndsConjunction .or := by
  simp [EndsConjunction, EndsComparison, EndsExpression, EndsSum, EndsProduct, EndsPower,
    EndsNavigation, EndsPrimary, operator?, additiveSign?, multiplicativeSign?]

theorem endsComparison_and : EndsComparison .and := by
  simp [EndsComparison, EndsExpression, EndsSum, EndsProduct, EndsPower, EndsNavigation,
    EndsPrimary, operator?, additiveSign?, multiplicativeSign?]

theorem endsExpression_operator {token : Token} {operator : Operator}
    (h : operator? token = some operator) : EndsExpression token := by
  unfold operator? at h
  split at h <;> cases h <;> simp [EndsExpression, EndsSum, EndsProduct, EndsPower,
    EndsNavigation, EndsPrimary, additiveSign?, multiplicativeSign?]

theorem endsSum_assign : EndsSum .assign := by
  simp [EndsSum, EndsProduct, EndsPower, EndsNavigation, EndsPrimary, additiveSign?,
    multiplicativeSign?]

theorem endsProduct_additive {token : Token} {sign : ArithmeticSign}
    (h : additiveSign? token = some sign) : EndsProduct token := by
  unfold additiveSign? at h
  split at h <;> cases h <;> simp [EndsProduct, EndsPower, EndsNavigation, EndsPrimary,
    multiplicativeSign?]

theorem endsPower_multiplicative {token : Token} {sign : ArithmeticSign}
    (h : multiplicativeSign? token = some sign) : EndsPower token := by
  unfold multiplicativeSign? at h
  split at h <;> cases h <;> simp [EndsPower, EndsNavigation, EndsPrimary]

theorem endsNavigation_starStar : EndsNavigation .starStar := by
  simp [EndsNavigation, EndsPrimary]

/-! ## What is to be proved of each phrase -/

/-- The parser reads the words as the phrase. -/
def Completes (input : Input) : Phrase → List Lexeme → List Operand → Prop
  | .disjunction, w, ps => ∀ {s s' : Cursor}, s.Reaches w ps s' → EndsDisjunction s'.token →
    (disjunction input s).Is () s'
  | .disjuncts, w, ps => ∀ {s s' s'' : Cursor} {count}, s.Reaches w ps s' →
    EndsConjunction s'.token → (disjuncts input ps.length s').Is count s'' →
      ∃ s₁, (conjunction input s).Is () s₁ ∧ (disjuncts input 1 s₁).Is count s''
  | .conjunction, w, ps => ∀ {s s' : Cursor}, s.Reaches w ps s' → EndsConjunction s'.token →
    (conjunction input s).Is () s'
  | .conjuncts, w, ps => ∀ {s s' s'' : Cursor} {count}, s.Reaches w ps s' →
    EndsComparison s'.token → (conjuncts input ps.length s').Is count s'' →
      ∃ s₁, (negation input s).Is () s₁ ∧ (conjuncts input 1 s₁).Is count s''
  | .negation, w, ps => ∀ {s s' : Cursor}, s.Reaches w ps s' → EndsComparison s'.token →
    (negation input s).Is () s'
  | .primaryPredicate, w, ps => ∀ {s s' : Cursor}, s.Reaches w ps s' → EndsComparison s'.token →
    (primaryPredicate input s).Is () s'
  | .comparison, w, ps => ∀ {s s' : Cursor}, s.Reaches w ps s' → EndsComparison s'.token →
    (comparison input s).Is () s'
  | .expression, w, es => ∀ {s s' : Cursor}, s.Reaches w es s' → EndsExpression s'.token →
    (expression input s).Is () s'
  | .sum, w, es => ∀ {s s' s'' : Cursor}, s.Reaches w es s' → EndsProduct s'.token →
    (summands input s').Is () s'' → (sum input s).Is () s''
  | .product, w, es => ∀ {s s' s'' : Cursor}, s.Reaches w es s' → EndsPower s'.token →
    (factors input s').Is () s'' → (product input s).Is () s''
  | .power, w, es => ∀ {s s' : Cursor}, s.Reaches w es s' → EndsPower s'.token →
    (power input s).Is () s'
  | .signed, w, es => ∀ {s s' : Cursor}, s.Reaches w es s' → EndsNavigation s'.token →
    (signed input s).Is () s'
  | .navigation, w, es => ∀ {s s' s'' : Cursor}, s.Reaches w es s' → EndsPrimary s'.token →
    (steps input s').Is () s'' → (navigation input s).Is () s''
  | .segment, w, es => ∀ {s s' : Cursor} {path}, s.Reaches w es s' → EndsPrimary s'.token →
    es = [.expr (.path path)] → (segment input s).Is () s'
  | .place, w, es => ∀ {s s' : Cursor}, s.Reaches w es s' → EndsExpression s'.token →
    (place input s).Is () s'
  | .items, w, es => ∀ {s s' : Cursor} {right : Lexeme} {close count}, s.Reaches (w ++ [right]) es s' →
    right.token = close → close = .closeParen ∨ close = .closeBrace →
      (arguments input close count s).Is (count + es.length) s'
  | .primary, w, es => ∀ {s s' : Cursor}, s.Reaches w es s' → EndsPrimary s'.token →
    (primary input s).Is () s'

/-! ## The phrases one after the other -/

section Rules

variable {input : Input} {u v w x : List Lexeme} {ls rs es ps : List Operand} {e p : Operand}

theorem is_options {s s' : Cursor} {options : Options} (h : Suffix x options)
    (r : s.Reaches x [] s') (ne : x = [] → s'.token ≠ .openBracket) :
    (Parser.options input s).Is options s' := by
  rw [Parser.options]
  cases h with
  | none =>
    obtain rfl : s' = s := Cursor.eq_of_lexemes r.1.symm r.2
    rw [if_neg (ne rfl)]
    exact is_done
  | flags opens names known closes =>
    obtain ⟨e₁, s₁, r₁, r⟩ := r.uncons
    obtain ⟨e₂, s₂, r₂, r⟩ := r.uncons
    obtain ⟨e₃, s₃, r₃, r⟩ := r.uncons
    obtain rfl : s' = s₃ := Cursor.eq_of_lexemes r.1.symm r.2
    rw [if_pos (by rw [Cursor.token, e₁, opens])]
    refine is_advance r₁ fun _ => ?_
    simp only [Cursor.token, e₂, names, known]
    refine is_advance r₂ fun _ => ?_
    exact (is_expect r₃ (by rw [Cursor.token, e₃, closes])).andThen fun _ => is_done

theorem completes_leaf {word : Lexeme} {production : Production} {s s' : Cursor}
    (made : production.Makes input.arguments word.start [] e) (reaches : s.Reaches [word] [e] s') :
    (leaf input s production).Is () s' := by
  obtain ⟨rfl, s₁, r₁, r⟩ := (reaches.before []).uncons
  obtain rfl := Cursor.eq_of_lexemes r.1.symm r.2
  exact is_advance r₁ fun _ => is_emit made reaches

/-! ### Expressions -/

/-- An expression does not begin with a token that closes a list of items. -/
theorem Derives.head_ne_closer {s s' : Cursor} {close : Token}
    (h : Derives input.arguments .expression w es) (reaches : s.Reaches w es s')
    (closer : close = .closeParen ∨ close = .closeBrace) : s.token ≠ close := by
  obtain ⟨word, rest, rfl⟩ := List.exists_cons_of_ne_nil (h.ne_nil nofun)
  have starts := h.starts word rfl
  rw [reaches.head_eq word rfl] at starts
  rintro e
  rw [Cursor.token] at e
  rcases closer with rfl | rfl <;> simp [e, Phrase.starts, startsExpression, startsPrimary,
    production?.eq_def] at starts

theorem completes_primary_leaf {word : Lexeme} {production : Production}
    (word_eq : production? word.token = some production)
    (made : Production.Makes input.arguments word.start production [] e) :
    Completes input .primary [word] [e] := by
  intro s s' reaches _
  obtain ⟨rfl, -⟩ := reaches.uncons
  have token : production? s.token = some production := word_eq
  rw [primary, token]
  exact completes_leaf made reaches

theorem completes_name {word : Lexeme} {name : String} (word_eq : word.token = .identifier name)
    (made : Production.Makes input.arguments word.start (.path name) [] e) :
    Completes input .primary [word] [e] := by
  intro s s' reaches ends
  obtain ⟨rfl, s₁, r₁, r⟩ := (reaches.before []).uncons
  obtain rfl := Cursor.eq_of_lexemes r.1.symm r.2
  have token : s.token = .identifier name := word_eq
  rw [primary, token]
  refine is_advance r₁ fun _ => ?_
  split
  · rename_i opens
    exact absurd opens ends
  · exact is_emit made reaches

theorem completes_call {word left right : Lexeme} {name : String}
    (word_eq : word.token = .identifier name) (opens : left.token = .openParen)
    (closes : right.token = .closeParen)
    (made : Production.Makes input.arguments word.start (.call name es.length) es e)
    (ih : Completes input .items w es) :
    Completes input .primary (word :: left :: (w ++ [right])) [e] := by
  intro s s' reaches _
  obtain ⟨rfl, s₁, r₁, r⟩ := (reaches.before es).uncons
  obtain ⟨rfl, s₂, r₂, r⟩ := r.uncons
  have token : s.token = .identifier name := word_eq
  have token₁ : s₁.token = .openParen := opens
  rw [primary, token]
  refine is_advance r₁ fun _ => ?_
  rw [if_pos token₁]
  refine is_advance r₂ fun _ => ?_
  refine (ih r closes (.inl rfl)).andThen fun _ => ?_
  rw [Nat.zero_add]
  exact is_emit made reaches

theorem completes_enclosed_expression {left right : Lexeme} (opens : left.token = .openParen)
    (closes : right.token = .closeParen) (ih : Completes input .expression w es) :
    Completes input .primary (left :: (w ++ [right])) es := by
  intro s s' reaches _
  obtain ⟨rfl, s₁, r₁, r⟩ := reaches.uncons
  obtain ⟨s₂, r₂, r⟩ := r.split_nil
  obtain ⟨rfl, s₃, r₃, r⟩ := r.uncons
  obtain rfl := Cursor.eq_of_lexemes r.1.symm r.2
  have token : s.token = .openParen := opens
  have token' : s₂.token = .closeParen := closes
  rw [primary, token]
  refine is_advance r₁ fun _ => ?_
  refine (ih r₂ ?_).andThen fun _ => is_expect r₃ token'
  rw [token']
  exact (endsDisjunction_closer (by simp)).1.1.1

theorem completes_list {left right : Lexeme} (opens : left.token = .openBrace)
    (closes : right.token = .closeBrace)
    (made : Production.Makes input.arguments left.start (.list es.length) es e)
    (ih : Completes input .items w es) : Completes input .primary (left :: (w ++ [right])) [e] := by
  intro s s' reaches _
  obtain ⟨rfl, s₁, r₁, r⟩ := (reaches.before es).uncons
  have token : s.token = .openBrace := opens
  rw [primary, token]
  refine is_advance r₁ fun _ => ?_
  refine (ih r closes (.inr rfl)).andThen fun _ => ?_
  rw [Nat.zero_add]
  exact is_emit made reaches

theorem completes_functionForm {word left right : Lexeme} (word_eq : word.token = .function)
    (opens : left.token = .openParen) (closes : right.token = .closeParen)
    (made : Production.Makes input.arguments word.start (.functionForm es.length) es e)
    (ih : Completes input .items w es) :
    Completes input .primary (word :: left :: (w ++ [right])) [e] := by
  intro s s' reaches _
  obtain ⟨rfl, s₁, r₁, r⟩ := (reaches.before es).uncons
  obtain ⟨rfl, s₂, r₂, r⟩ := r.uncons
  have token : s.token = .function := word_eq
  rw [primary, token]
  refine is_advance r₁ fun _ => ?_
  refine (is_expect r₂ opens).andThen fun _ => ?_
  refine (ih r closes (.inl rfl)).andThen fun _ => ?_
  rw [Nat.zero_add]
  exact is_emit made reaches

theorem completes_subquery {name : String} {word left comma var comma' right : Lexeme}
    (word_eq : word.token = .subquery) (opens : left.token = .openParen)
    (comma_eq : comma.token = .comma) (var_eq : var.token = .var name)
    (comma'_eq : comma'.token = .comma) (closes : right.token = .closeParen)
    (made : Production.Makes input.arguments word.start (.subquery name) (es ++ ps) e)
    (ih : Completes input .expression u es) (ih' : Completes input .disjunction v ps) :
    Completes input .primary
      (word :: left :: (u ++ comma :: var :: comma' :: (v ++ [right]))) [e] := by
  intro s s' reaches _
  obtain ⟨rfl, s₁, r₁, r⟩ := (reaches.before (es ++ ps)).uncons
  obtain ⟨rfl, s₂, r₂, r⟩ := r.uncons
  obtain ⟨s₃, r₃, r⟩ := r.split es ps
  obtain ⟨rfl, s₄, r₄, r⟩ := r.uncons
  obtain ⟨rfl, s₅, r₅, r⟩ := r.uncons
  obtain ⟨rfl, s₆, r₆, r⟩ := r.uncons
  obtain ⟨s₇, r₇, r⟩ := r.split_nil
  obtain ⟨rfl, s₈, r₈, r⟩ := r.uncons
  obtain rfl := Cursor.eq_of_lexemes r.1.symm r.2
  have token : s.token = .subquery := word_eq
  have token₃ : s₃.token = .comma := comma_eq
  have token₄ : s₄.token = .var name := var_eq
  have token₇ : s₇.token = .closeParen := closes
  rw [primary, token]
  refine is_advance r₁ fun _ => ?_
  refine (is_expect r₂ opens).andThen fun _ => ?_
  refine (ih r₃ ?_).andThen fun _ => ?_
  · rw [token₃]
    exact (endsDisjunction_closer (by simp)).1.1.1
  refine (is_expect r₄ token₃).andThen fun _ => ?_
  rw [token₄]
  refine is_advance r₅ fun _ => ?_
  refine (is_expect r₆ comma'_eq).andThen fun _ => ?_
  refine (ih' r₇ ?_).andThen fun _ => ?_
  · rw [token₇]
    exact endsDisjunction_closer (by simp)
  exact (is_expect r₈ token₇).andThen fun _ => is_emit made reaches

theorem completes_no_items : Completes input .items [] [] := by
  intro s s' right close count reaches closes closer
  obtain ⟨rfl, s₁, r₁, r⟩ := reaches.uncons
  obtain rfl := Cursor.eq_of_lexemes r.1.symm r.2
  have token : s.token = close := closes
  rw [arguments, if_pos token]
  exact is_advance r₁ fun _ => is_done

theorem completes_last_item (item : Derives input.arguments .expression w es)
    (ih : Completes input .expression w es) : Completes input .items w es := by
  intro s s' right close count reaches closes closer
  obtain ⟨s₁, r₁, r⟩ := reaches.split_nil
  obtain ⟨rfl, s₂, r₂, r⟩ := r.uncons
  obtain rfl := Cursor.eq_of_lexemes r.1.symm r.2
  have token₁ : s₁.token = close := closes
  have ends : EndsDisjunction s₁.token := endsDisjunction_closer (by simp [token₁]; tauto)
  rw [arguments, if_neg (item.head_ne_closer r₁ closer)]
  refine (ih r₁ ends.1.1.1).andThen fun _ => ?_
  rw [if_pos token₁, item.length_eq_one rfl]
  exact is_advance r₂ fun _ => is_done

theorem completes_next_item {comma : Lexeme} (item : Derives input.arguments .expression u es)
    (comma_eq : comma.token = .comma) (ih : Completes input .expression u es)
    (ih' : Completes input .items v rs) : Completes input .items (u ++ comma :: v) (es ++ rs) := by
  intro s s' right close count reaches closes closer
  rw [List.append_assoc, List.cons_append] at reaches
  obtain ⟨s₁, r₁, r⟩ := reaches.split es rs
  obtain ⟨rfl, s₂, r₂, r⟩ := r.uncons
  have token₁ : s₁.token = .comma := comma_eq
  have ends : EndsDisjunction s₁.token := endsDisjunction_closer (by simp [token₁])
  have other : s₁.token ≠ close := by
    rw [token₁]
    rcases closer with rfl | rfl <;> nofun
  rw [arguments, if_neg (item.head_ne_closer r₁ closer)]
  refine (ih r₁ ends.1.1.1).andThen fun _ => ?_
  rw [if_neg other, if_pos token₁, List.length_append, item.length_eq_one rfl, ← Nat.add_assoc]
  exact is_advance r₂ fun _ => ih' r closes closer

/-- A point takes a key path, and nothing else, from its right side. -/
theorem eq_path_of_dot {position : Nat} (one : ls.length = 1)
    (made : Production.Makes input.arguments position .dot (ls ++ rs) e) :
    ∃ path, rs = [.expr (.path path)] := by
  obtain ⟨l, rfl⟩ := List.length_eq_one_iff.mp one
  obtain ⟨sorts, made⟩ := Production.makes_iff.mp made
  obtain ⟨left, right, eq⟩ := Operand.eq_two_exprs sorts
  obtain ⟨rfl, rfl⟩ := List.cons.inj eq
  obtain ⟨_, made, _⟩ := eq_ok_of_map made
  cases right with
  | path path => exact ⟨path, rfl⟩
  | _ => cases made

/-- A call by name is no key path. -/
theorem Expr.callByName_ne_path (name : String) (operands : List Expr) (path : String) :
    Expr.callByName name operands ≠ .path path := by
  rw [Expr.callByName]
  cases BuiltinFunction.selectorOfCall? (Text.lower name) operands.length <;> simp

theorem completes_named_segment {word : Lexeme} {name : String}
    (word_eq : word.token = .identifier name)
    (made : Production.Makes input.arguments word.start (.path name) [] e) :
    Completes input .segment [word] [e] := by
  intro s s' path reaches _ _
  obtain ⟨rfl, -⟩ := reaches.uncons
  have token : s.token = .identifier name := word_eq
  rw [Parser.segment, token]
  exact completes_leaf made reaches

theorem completes_self_segment {word : Lexeme} (word_eq : word.token = .self)
    (made : Production.Makes input.arguments word.start (.path "SELF") [] e) :
    Completes input .segment [word] [e] := by
  intro s s' path reaches _ _
  obtain ⟨rfl, -⟩ := reaches.uncons
  have token : s.token = .self := word_eq
  rw [Parser.segment, token]
  exact completes_leaf made reaches

/-- A primary expression that begins with a name and is a key path is that name. -/
theorem Derives.segment_of_identifier {name path : String} {word : Lexeme}
    (h : Derives input.arguments .primary (word :: w) [.expr (.path path)])
    (token : word.token = .identifier name) :
    w = [] ∧ Production.Makes input.arguments word.start (.path name) [] (.expr (.path path)) := by
  cases h with
  | name word_eq made =>
    rw [token, Token.identifier.injEq] at word_eq
    subst word_eq
    exact ⟨rfl, made⟩
  | call word_eq _ _ _ made =>
    have made := Except.ok.inj (Production.makes_iff.mp made).2
    exact absurd (Operand.expr.inj made) (Expr.callByName_ne_path _ _ _)
  | leaf word_eq => simp [token, production?.eq_def] at word_eq
  | enclosed_expression opens | list opens => simp [token] at opens
  | subquery word_eq | functionForm word_eq => simp [token] at word_eq

/-- The object itself is no key path. -/
theorem Derives.not_segment_of_self {path : String} {word : Lexeme}
    (h : Derives input.arguments .primary (word :: w) [.expr (.path path)]) :
    word.token ≠ .self := by
  intro token
  cases h with
  | leaf word_eq made =>
    obtain rfl := Option.some.inj (word_eq.symm.trans (congrArg production? token))
    cases (Production.makes_iff.mp made).2
  | name word_eq | call word_eq | subquery word_eq | functionForm word_eq =>
    simp [token] at word_eq
  | enclosed_expression opens | list opens => simp [token] at opens

theorem completes_segment_primary (part : Derives input.arguments .primary w es)
    (ih : Completes input .primary w es) : Completes input .segment w es := by
  rintro s s' path reaches ends rfl
  obtain ⟨word, w, rfl⟩ := List.exists_cons_of_ne_nil (part.ne_nil nofun)
  obtain ⟨rfl, -⟩ := reaches.uncons
  rw [Parser.segment]
  split
  · rename_i name token
    obtain ⟨rfl, made⟩ := part.segment_of_identifier token
    exact completes_leaf made reaches
  · rename_i token
    exact absurd token part.not_segment_of_self
  · exact ih reaches ends

theorem completes_dot {point : Lexeme} (one : ls.length = 1) (point_eq : point.token = .dot)
    (made : Production.Makes input.arguments point.start .dot (ls ++ rs) e)
    (ih : Completes input .navigation u ls) (ih' : Completes input .segment v rs) :
    Completes input .navigation (u ++ point :: v) [e] := by
  intro s s' s'' reaches ends goes
  obtain ⟨s₁, r₁, r⟩ := (reaches.before (ls ++ rs)).split ls rs
  obtain ⟨rfl, s₂, r₂, r⟩ := r.uncons
  obtain ⟨path, segment⟩ := eq_path_of_dot one made
  have token₁ : s₁.token = .dot := point_eq
  refine ih r₁ (by simp [EndsPrimary, token₁]) ?_
  rw [steps, token₁]
  refine is_advance r₂ fun _ => ?_
  refine (ih' r ends segment).andThen fun _ => ?_
  exact (is_emit made reaches).andThen fun _ => goes

theorem completes_index {left right : Lexeme} (opens : left.token = .openBracket)
    (closes : right.token = .closeBracket)
    (made : Production.Makes input.arguments left.start .index (ls ++ rs) e)
    (ih : Completes input .navigation u ls) (ih' : Completes input .place v rs) :
    Completes input .navigation (u ++ left :: (v ++ [right])) [e] := by
  intro s s' s'' reaches ends goes
  obtain ⟨s₁, r₁, r⟩ := (reaches.before (ls ++ rs)).split ls rs
  obtain ⟨rfl, s₂, r₂, r⟩ := r.uncons
  obtain ⟨s₃, r₃, r⟩ := r.split_nil
  obtain ⟨rfl, s₄, r₄, r⟩ := r.uncons
  obtain rfl := Cursor.eq_of_lexemes r.1.symm r.2
  have token₁ : s₁.token = .openBracket := opens
  have token₃ : s₃.token = .closeBracket := closes
  have ends₃ : EndsDisjunction s₃.token := endsDisjunction_closer (by simp [token₃])
  refine ih r₁ (by simp [EndsPrimary, token₁]) ?_
  rw [steps, token₁]
  refine is_advance r₂ fun _ => ?_
  refine (ih' r₃ ends₃.1.1.1).andThen fun _ => ?_
  refine (is_expect r₄ token₃).andThen fun _ => ?_
  exact (is_emit made reaches).andThen fun _ => goes

theorem completes_navigation (ih : Completes input .primary w es) :
    Completes input .navigation w es := by
  intro s s' s'' reaches ends goes
  rw [navigation]
  exact (ih reaches ends).andThen fun _ => goes

theorem completes_signed (part : Derives input.arguments .navigation w es)
    (ih : Completes input .navigation w es) : Completes input .signed w es := by
  intro s s' reaches ends
  have sign : s.token ≠ .minus := by
    obtain ⟨word, w, rfl⟩ := List.exists_cons_of_ne_nil (part.ne_nil nofun)
    obtain ⟨rfl, -⟩ := reaches.uncons
    have starts : startsPrimary s.token := part.starts s.current rfl
    intro token
    simp [startsPrimary, token, production?.eq_def] at starts
  rw [signed, if_neg sign]
  refine ih reaches ends.1 ?_
  rw [steps]
  split
  · rename_i token
    exact absurd token ends.2.1
  · rename_i token
    exact absurd token ends.2.2
  · exact is_done

theorem completes_negate {sign : Lexeme} (sign_eq : sign.token = .minus)
    (made : Production.Makes input.arguments sign.start .negate es e)
    (ih : Completes input .signed w es) : Completes input .signed (sign :: w) [e] := by
  intro s s' reaches ends
  obtain ⟨rfl, s₁, r₁, r⟩ := (reaches.before es).uncons
  have token : s.token = .minus := sign_eq
  rw [signed, if_pos token]
  refine is_advance r₁ fun _ => ?_
  exact (ih r ends).andThen fun _ => is_emit made reaches

theorem completes_power (ih : Completes input .signed w es) : Completes input .power w es := by
  intro s s' reaches ends
  rw [power]
  refine (ih reaches ends.1).andThen fun _ => ?_
  rw [if_neg ends.2]
  exact is_done

theorem completes_raise {sign : Lexeme} (sign_eq : sign.token = .starStar)
    (made : Production.Makes input.arguments sign.start (.arithmetic .power) (ls ++ rs) e)
    (ih : Completes input .signed u ls) (ih' : Completes input .power v rs) :
    Completes input .power (u ++ sign :: v) [e] := by
  intro s s' reaches ends
  obtain ⟨s₁, r₁, r⟩ := (reaches.before (ls ++ rs)).split ls rs
  obtain ⟨rfl, s₂, r₂, r⟩ := r.uncons
  have token₁ : s₁.token = .starStar := sign_eq
  rw [power]
  refine (ih r₁ (token₁ ▸ endsNavigation_starStar)).andThen fun _ => ?_
  rw [if_pos token₁]
  refine is_advance r₂ fun _ => ?_
  exact (ih' r ends).andThen fun _ => is_emit made reaches

theorem completes_product (ih : Completes input .power w es) : Completes input .product w es := by
  intro s s' s'' reaches ends goes
  rw [product]
  exact (ih reaches ends).andThen fun _ => goes

theorem completes_multiply {sign : Lexeme} {operation : ArithmeticSign}
    (sign_eq : multiplicativeSign? sign.token = some operation)
    (made : Production.Makes input.arguments sign.start (.arithmetic operation) (ls ++ rs) e)
    (ih : Completes input .product u ls) (ih' : Completes input .power v rs) :
    Completes input .product (u ++ sign :: v) [e] := by
  intro s s' s'' reaches ends goes
  obtain ⟨s₁, r₁, r⟩ := (reaches.before (ls ++ rs)).split ls rs
  obtain ⟨rfl, s₂, r₂, r⟩ := r.uncons
  have token₁ : multiplicativeSign? s₁.token = some operation := sign_eq
  refine ih r₁ (endsPower_multiplicative token₁) ?_
  rw [factors, token₁]
  refine is_advance r₂ fun _ => ?_
  refine (ih' r ends).andThen fun _ => ?_
  exact (is_emit made reaches).andThen fun _ => goes

theorem is_factors_done {s : Cursor} (h : multiplicativeSign? s.token = none) :
    (factors input s).Is () s := by
  rw [factors, h]
  exact is_done

theorem completes_sum (ih : Completes input .product w es) : Completes input .sum w es := by
  intro s s' s'' reaches ends goes
  rw [sum]
  exact (ih reaches ends.1 (is_factors_done ends.2)).andThen fun _ => goes

theorem completes_add {sign : Lexeme} {operation : ArithmeticSign}
    (sign_eq : additiveSign? sign.token = some operation)
    (made : Production.Makes input.arguments sign.start (.arithmetic operation) (ls ++ rs) e)
    (ih : Completes input .sum u ls) (ih' : Completes input .product v rs) :
    Completes input .sum (u ++ sign :: v) [e] := by
  intro s s' s'' reaches ends goes
  obtain ⟨s₁, r₁, r⟩ := (reaches.before (ls ++ rs)).split ls rs
  obtain ⟨rfl, s₂, r₂, r⟩ := r.uncons
  have token₁ : additiveSign? s₁.token = some operation := sign_eq
  refine ih r₁ (endsProduct_additive token₁) ?_
  rw [summands, token₁]
  refine is_advance r₂ fun _ => ?_
  refine (ih' r ends.1 (is_factors_done ends.2)).andThen fun _ => ?_
  exact (is_emit made reaches).andThen fun _ => goes

theorem is_summands_done {s : Cursor} (h : additiveSign? s.token = none) :
    (summands input s).Is () s := by
  rw [summands, h]
  exact is_done

theorem completes_expression (ih : Completes input .sum w es) :
    Completes input .expression w es := by
  intro s s' reaches ends
  rw [expression]
  refine (ih reaches ends.1.1 (is_summands_done ends.1.2)).andThen fun _ => ?_
  rw [if_neg ends.2]
  exact is_done

theorem completes_assignment {sign : Lexeme} (sign_eq : sign.token = .assign)
    (made : Production.Makes input.arguments sign.start .assignment (ls ++ rs) e)
    (ih : Completes input .sum u ls) (ih' : Completes input .expression v rs) :
    Completes input .expression (u ++ sign :: v) [e] := by
  intro s s' reaches ends
  obtain ⟨s₁, r₁, r⟩ := (reaches.before (ls ++ rs)).split ls rs
  obtain ⟨rfl, s₂, r₂, r⟩ := r.uncons
  have token₁ : s₁.token = .assign := sign_eq
  have ends₁ : EndsSum s₁.token := token₁ ▸ endsSum_assign
  rw [expression]
  refine (ih r₁ ends₁.1 (is_summands_done ends₁.2)).andThen fun _ => ?_
  rw [if_pos token₁]
  refine is_advance r₂ fun _ => ?_
  exact (ih' r ends).andThen fun _ => is_emit made reaches

theorem completes_symbol_place {word : Lexeme} {symbol : IndexSymbol}
    (word_eq : indexSymbol? word.token = some symbol)
    (made : Production.Makes input.arguments word.start (.symbol symbol) [] e) :
    Completes input .place [word] [e] := by
  intro s s' reaches _
  obtain ⟨rfl, -⟩ := reaches.uncons
  have token : indexSymbol? s.token = some symbol := word_eq
  rw [place, token]
  exact completes_leaf made reaches

theorem completes_expression_place (part : Derives input.arguments .expression w es)
    (no_symbol : ∀ word ∈ w.head?, indexSymbol? word.token = none)
    (ih : Completes input .expression w es) : Completes input .place w es := by
  intro s s' reaches ends
  obtain ⟨word, w, rfl⟩ := List.exists_cons_of_ne_nil (part.ne_nil nofun)
  obtain ⟨rfl, -⟩ := reaches.uncons
  have token : indexSymbol? s.token = none := no_symbol s.current rfl
  rw [place, token]
  exact ih reaches ends

/-! ### Predicates -/

theorem completes_truth (part : Derives input.arguments .expression w es)
    (made : Production.Makes input.arguments (start w) .expressionPredicate es p)
    (ih : Completes input .expression w es) : Completes input .comparison w [p] := by
  intro s s' reaches ends
  rw [reaches.start_eq (part.ne_nil nofun)] at made
  rw [comparison]
  refine (ih (reaches.before es) ends.1).andThen fun _ => ?_
  have none : operator? ({ s' with stack := es.reverse ++ s.stack } : Cursor).token = none :=
    ends.2
  rw [none]
  exact is_emit made reaches

theorem completes_compare {sign : Lexeme} {operator : Operator} {options : Options}
    (sign_eq : operator? sign.token = some operator) (suffix : Suffix x options)
    (right : Derives input.arguments .expression v rs)
    (made : Production.Makes input.arguments sign.start (.comparison operator options)
      (ls ++ rs) p)
    (ih : Completes input .expression u ls) (ih' : Completes input .expression v rs) :
    Completes input .comparison (u ++ sign :: (x ++ v)) [p] := by
  intro s s' reaches ends
  obtain ⟨s₁, r₁, r⟩ := (reaches.before (ls ++ rs)).split ls rs
  obtain ⟨rfl, s₂, r₂, r⟩ := r.uncons
  obtain ⟨s₃, r₃, r⟩ := r.split [] rs
  have token₁ : operator? s₁.token = some operator := sign_eq
  have head : s₃.token ≠ .openBracket := by
    obtain ⟨word, v, rfl⟩ := List.exists_cons_of_ne_nil (right.ne_nil nofun)
    obtain ⟨rfl, -⟩ := r.uncons
    have starts : startsExpression s₃.token := right.starts s₃.current rfl
    intro token
    simp [startsExpression, startsPrimary, token, production?.eq_def] at starts
  rw [comparison]
  refine (ih r₁ (endsExpression_operator token₁)).andThen fun _ => ?_
  rw [token₁]
  refine is_advance r₂ fun _ => ?_
  refine (is_options suffix r₃ fun _ => head).andThen fun _ => ?_
  exact (ih' r ends.1).andThen fun _ => is_emit made reaches

theorem completes_predicateConstant {value : Bool} {word : Lexeme}
    (word_eq : word.token = .predicateConstant value)
    (made : Production.Makes input.arguments word.start (.predicateConstant value) [] p) :
    Completes input .primaryPredicate [word] [p] := by
  intro s s' reaches _
  obtain ⟨rfl, -⟩ := reaches.uncons
  have token : s.token = .predicateConstant value := word_eq
  rw [primaryPredicate, token]
  exact completes_leaf made reaches

theorem completes_quantified {word : Lexeme} {quantifier : QuantifierWord}
    (word_eq : quantifier? word.token = some quantifier)
    (made : Production.Makes input.arguments word.start (.quantified quantifier) ps p)
    (ih : Completes input .comparison w ps) :
    Completes input .primaryPredicate (word :: w) [p] := by
  intro s s' reaches ends
  obtain ⟨rfl, s₁, r₁, r⟩ := (reaches.before ps).uncons
  have token : quantifier? s.token = some quantifier := word_eq
  rw [primaryPredicate]
  split
  · rename_i e
    simp [e, quantifier?] at token
  · rename_i e
    simp [e, quantifier?] at token
  · rw [token]
    refine is_advance r₁ fun _ => ?_
    exact (ih r ends).andThen fun _ => is_emit made reaches

/-- The attempt succeeds, and no token follows that would undo it. -/
theorem is_parenthesized {left right : Lexeme} {s s' : Cursor} (closes : right.token = .closeParen)
    (ih : Completes input .disjunction w ps) (reaches : s.Reaches (left :: (w ++ [right])) ps s')
    (ends : EndsComparison s'.token) : (parenthesized input s).Is () s' := by
  obtain ⟨rfl, s₁, r₁, r⟩ := reaches.uncons
  obtain ⟨s₂, r₂, r⟩ := r.split_nil
  obtain ⟨rfl, s₃, r₃, r⟩ := r.uncons
  obtain rfl := Cursor.eq_of_lexemes r.1.symm r.2
  have token₂ : s₂.token = .closeParen := closes
  have attempt : (advance input s fun s₁ _ =>
      (disjunction input s₁).andThen fun _ s₂ _ => expect input s₂ .closeParen).Is () s' := by
    refine is_advance r₁ fun _ => (ih r₂ ?_).andThen fun _ => is_expect r₃ token₂
    exact endsDisjunction_closer (by simp [token₂])
  obtain ⟨le, e⟩ := attempt
  rw [parenthesized]
  simp only [e, ends.not_continues, Bool.false_eq_true, if_false]
  exact ⟨le, rfl⟩

theorem completes_enclosed_predicate {left right : Lexeme} (opens : left.token = .openParen)
    (closes : right.token = .closeParen) (ih : Completes input .disjunction w ps) :
    Completes input .primaryPredicate (left :: (w ++ [right])) ps := by
  intro s s' reaches ends
  obtain ⟨rfl, -⟩ := reaches.uncons
  have token : s.token = .openParen := opens
  rw [primaryPredicate, token]
  exact is_parenthesized closes ih reaches ends

/-- A token follows the first closed parenthesis that goes on with an expression. Whatever comes of
the attempt, the comparison is read after it. -/
theorem is_parenthesized_of_comparison {left right word : Lexeme} {s s' : Cursor}
    (balanced : Balanced u) (closes : right.token = .closeParen)
    (continues : continuesExpression word.token)
    (reaches : s.Reaches (left :: (u ++ right :: word :: v)) ps s')
    (compared : (comparison input s).Is () s') : (parenthesized input s).Is () s' := by
  have attempt : (advance input s fun s₁ _ =>
      (disjunction input s₁).andThen fun _ s₂ _ => expect input s₂ .closeParen).Ensures s.stack
        fun _ after => s.stack <:+ after.stack ∧ after.current = word := by
    refine ensures_advance_since (.refl s) fun s₁ _ r₁ => ?_
    refine (disjunction_sound input s₁).andThen r₁ fun x qs s₂ _ r₂ part => ?_
    refine ensures_expect_since r₂ fun s₃ closes' r₃ => ⟨r₃.suffix, ?_⟩
    have words : s.current :: (x ++ s₂.current :: s₃.lexemes)
        = left :: (u ++ right :: word :: (v ++ s'.lexemes)) := by
      simpa using r₃.1.symm.trans reaches.1
    have same := part.balanced.closing_unique balanced closes' closes (List.cons.inj words).2
    exact (List.cons.inj same.2.2).1
  have otherwise : ∀ stack, s.stack <:+ stack →
      ((comparison input (s.back stack)).within (Nat.le_of_eq (s.left_back _))).Is () s' := by
    intro stack suffix
    refine Outcome.Is.within _ ?_
    rw [Cursor.back_eq suffix]
    exact compared
  rw [parenthesized]
  split
  · rename_i after le e
    rw [e] at attempt
    rw [if_pos (by rw [Cursor.token, attempt.2]; exact continues)]
    exact otherwise _ attempt.1
  · rename_i error stack e
    rw [e] at attempt
    exact otherwise _ attempt

/-- If the parentheses at the beginning of a comparison enclose all of it, then they are taken as
those of a predicate; the operand is the same. -/
theorem completes_primary_comparison (part : Derives input.arguments .comparison w ps)
    (ih : Completes input .comparison w ps)
    (shorter : ∀ {v qs}, v.length < w.length → Derives input.arguments .disjunction v qs →
      Completes input .disjunction v qs) :
    Completes input .primaryPredicate w ps := by
  intro s s' reaches ends
  obtain ⟨first, rest, rfl⟩ := List.exists_cons_of_ne_nil (part.ne_nil (by simp))
  obtain ⟨rfl, -⟩ := reaches.uncons
  have starts : startsExpression s.token := part.starts s.current rfl
  rw [primaryPredicate]
  split
  · rename_i token
    simp [token, startsExpression, startsPrimary, production?.eq_def] at starts
  · rename_i token
    obtain ⟨left, u, right, v, words, closes, balanced, same, next⟩ :=
      part.opensComparison fun word mem => by
        rw [← Option.some.inj mem]
        exact token
    rw [words] at reaches
    cases v with
    | nil =>
      have le : u.length < (s.current :: rest).length := by
        simp only [words, List.length_cons, List.length_append]
        omega
      exact is_parenthesized closes (shorter le (same rfl)) reaches ends
    | cons word v =>
      have compared := ih (words ▸ reaches) ends
      exact is_parenthesized_of_comparison balanced closes (next word rfl) reaches compared
  · split
    · rename_i token
      exact absurd ((no_quantifier_of_starts starts).symm.trans token) (by simp)
    · exact ih reaches ends

theorem completes_negation (part : Derives input.arguments .primaryPredicate w ps)
    (ih : Completes input .primaryPredicate w ps) : Completes input .negation w ps := by
  intro s s' reaches ends
  have sign : s.token ≠ .not := by
    obtain ⟨word, w, rfl⟩ := List.exists_cons_of_ne_nil (part.ne_nil nofun)
    obtain ⟨rfl, -⟩ := reaches.uncons
    have starts : startsPredicate s.token := part.starts s.current rfl
    intro token
    simp [startsPredicate, startsExpression, startsPrimary, token, production?.eq_def,
      quantifier?] at starts
  rw [negation, if_neg sign]
  exact ih reaches ends

theorem completes_not {sign : Lexeme} (word : sign.token = .not)
    (made : Production.Makes input.arguments sign.start .not ps p)
    (ih : Completes input .negation w ps) : Completes input .negation (sign :: w) [p] := by
  intro s s' reaches ends
  obtain ⟨rfl, s₁, r₁, r⟩ := (reaches.before ps).uncons
  have token : s.token = .not := word
  rw [negation, if_pos token]
  refine is_advance r₁ fun _ => ?_
  exact (ih r ends).andThen fun _ => is_emit made reaches

theorem completes_first_conjunct (part : Derives input.arguments .negation w ps)
    (ih : Completes input .negation w ps) : Completes input .conjuncts w ps := by
  intro s s' s'' count reaches ends goes
  rw [part.length_eq_one rfl] at goes
  exact ⟨s', ih reaches ends, goes⟩

theorem completes_next_conjunct {sign : Lexeme} {qs : List Operand} (word : sign.token = .and)
    (part : Derives input.arguments .negation v qs) (ih : Completes input .conjuncts u ps)
    (ih' : Completes input .negation v qs) :
    Completes input .conjuncts (u ++ sign :: v) (ps ++ qs) := by
  intro s s' s'' count reaches ends goes
  obtain ⟨s₁, r₁, r⟩ := reaches.split ps qs
  obtain ⟨rfl, s₂, r₂, r⟩ := r.uncons
  have token₁ : s₁.token = .and := word
  refine ih r₁ (token₁ ▸ endsComparison_and) ?_
  rw [conjuncts, if_pos token₁]
  refine is_advance r₂ fun _ => (ih' r ends).andThen fun _ => ?_
  rw [List.length_append, part.length_eq_one rfl] at goes
  exact goes

theorem is_conjuncts_done {s : Cursor} {count : Nat} (h : s.token ≠ .and) :
    (conjuncts input count s).Is count s := by
  rw [conjuncts, if_neg h]
  exact is_done

theorem completes_conjunction (ih : Completes input .negation w ps) :
    Completes input .conjunction w ps := by
  intro s s' reaches ends
  rw [conjunction]
  refine (ih reaches ends.1).andThen fun _ => ?_
  exact (is_conjuncts_done ends.2).andThen fun _ => is_done

theorem completes_and (parts : Derives input.arguments .conjuncts w ps) (several : 1 < ps.length)
    (made : Production.Makes input.arguments (start w) (.and ps.length) ps p)
    (ih : Completes input .conjuncts w ps) : Completes input .conjunction w [p] := by
  intro s s' reaches ends
  rw [reaches.start_eq (parts.ne_nil nofun)] at made
  obtain ⟨s₁, first, loop⟩ := ih (reaches.before ps) ends.1 (is_conjuncts_done ends.2)
  rw [conjunction]
  refine first.andThen fun _ => loop.andThen fun _ => ?_
  rw [if_pos several]
  exact is_emit made reaches

theorem completes_first_disjunct (part : Derives input.arguments .conjunction w ps)
    (ih : Completes input .conjunction w ps) : Completes input .disjuncts w ps := by
  intro s s' s'' count reaches ends goes
  rw [part.length_eq_one rfl] at goes
  exact ⟨s', ih reaches ends, goes⟩

theorem completes_next_disjunct {sign : Lexeme} {qs : List Operand} (word : sign.token = .or)
    (part : Derives input.arguments .conjunction v qs) (ih : Completes input .disjuncts u ps)
    (ih' : Completes input .conjunction v qs) :
    Completes input .disjuncts (u ++ sign :: v) (ps ++ qs) := by
  intro s s' s'' count reaches ends goes
  obtain ⟨s₁, r₁, r⟩ := reaches.split ps qs
  obtain ⟨rfl, s₂, r₂, r⟩ := r.uncons
  have token₁ : s₁.token = .or := word
  refine ih r₁ (token₁ ▸ endsConjunction_or) ?_
  rw [disjuncts, if_pos token₁]
  refine is_advance r₂ fun _ => (ih' r ends).andThen fun _ => ?_
  rw [List.length_append, part.length_eq_one rfl] at goes
  exact goes

theorem is_disjuncts_done {s : Cursor} {count : Nat} (h : s.token ≠ .or) :
    (disjuncts input count s).Is count s := by
  rw [disjuncts, if_neg h]
  exact is_done

theorem completes_disjunction (ih : Completes input .conjunction w ps) :
    Completes input .disjunction w ps := by
  intro s s' reaches ends
  rw [disjunction]
  refine (ih reaches ends.1).andThen fun _ => ?_
  exact (is_disjuncts_done ends.2).andThen fun _ => is_done

theorem completes_or (parts : Derives input.arguments .disjuncts w ps) (several : 1 < ps.length)
    (made : Production.Makes input.arguments (start w) (.or ps.length) ps p)
    (ih : Completes input .disjuncts w ps) : Completes input .disjunction w [p] := by
  intro s s' reaches ends
  rw [reaches.start_eq (parts.ne_nil nofun)] at made
  obtain ⟨s₁, first, loop⟩ := ih (reaches.before ps) ends.1 (is_disjuncts_done ends.2)
  rw [disjunction]
  refine first.andThen fun _ => loop.andThen fun _ => ?_
  rw [if_pos several]
  exact is_emit made reaches

end Rules

/-! ## All phrases -/

/-- The induction on the derivation, when predicates with fewer words are known to be read. -/
theorem Derives.completes_of_shorter {input : Input} {phrase : Phrase} {w : List Lexeme}
    {operands : List Operand} {n : Nat} (h : Derives input.arguments phrase w operands)
    (le : w.length ≤ n)
    (shorter : ∀ {v qs}, v.length < n → Derives input.arguments .disjunction v qs →
      Completes input .disjunction v qs) :
    Completes input phrase w operands := by
  induction h with
  | no_items => exact completes_no_items
  | last_item item ih => exact completes_last_item item (ih le)
  | next_item item comma_eq rest ih ih' =>
    simp only [List.length_append, List.length_cons] at le
    exact completes_next_item item comma_eq (ih (by omega)) (ih' (by omega))
  | conjunction_disjunction part ih => exact completes_disjunction (ih le)
  | or parts several made ih => exact completes_or parts several made (ih le)
  | first_disjunct part ih => exact completes_first_disjunct part (ih le)
  | next_disjunct before word part ih ih' =>
    simp only [List.length_append, List.length_cons] at le
    exact completes_next_disjunct word part (ih (by omega)) (ih' (by omega))
  | negation_conjunction part ih => exact completes_conjunction (ih le)
  | and parts several made ih => exact completes_and parts several made (ih le)
  | first_conjunct part ih => exact completes_first_conjunct part (ih le)
  | next_conjunct before word part ih ih' =>
    simp only [List.length_append, List.length_cons] at le
    exact completes_next_conjunct word part (ih (by omega)) (ih' (by omega))
  | primary_negation part ih => exact completes_negation part (ih le)
  | not word part made ih =>
    simp only [List.length_cons] at le
    exact completes_not word made (ih (by omega))
  | predicateConstant word made => exact completes_predicateConstant word made
  | enclosed_predicate opens part closes ih =>
    simp only [List.length_append, List.length_cons] at le
    exact completes_enclosed_predicate opens closes (ih (by omega))
  | quantified word part made ih =>
    simp only [List.length_cons] at le
    exact completes_quantified word made (ih (by omega))
  | comparison_primary part ih =>
    exact completes_primary_comparison part (ih le) fun lt => shorter (by omega)
  | truth part made ih => exact completes_truth part made (ih le)
  | compare left sign suffix right made ih ih' =>
    simp only [List.length_append, List.length_cons] at le
    exact completes_compare sign suffix right made (ih (by omega)) (ih' (by omega))
  | sum_expression part ih => exact completes_expression (ih le)
  | assignment target sign value made ih ih' =>
    simp only [List.length_append, List.length_cons] at le
    exact completes_assignment sign made (ih (by omega)) (ih' (by omega))
  | product_sum part ih => exact completes_sum (ih le)
  | add left sign right made ih ih' =>
    simp only [List.length_append, List.length_cons] at le
    exact completes_add sign made (ih (by omega)) (ih' (by omega))
  | power_product part ih => exact completes_product (ih le)
  | multiply left sign right made ih ih' =>
    simp only [List.length_append, List.length_cons] at le
    exact completes_multiply sign made (ih (by omega)) (ih' (by omega))
  | signed_power part ih => exact completes_power (ih le)
  | raise base sign exponent made ih ih' =>
    simp only [List.length_append, List.length_cons] at le
    exact completes_raise sign made (ih (by omega)) (ih' (by omega))
  | navigation_signed part ih => exact completes_signed part (ih le)
  | negate sign part made ih =>
    simp only [List.length_cons] at le
    exact completes_negate sign made (ih (by omega))
  | primary_navigation part ih => exact completes_navigation (ih le)
  | dot operand point segment made ih ih' =>
    simp only [List.length_append, List.length_cons] at le
    exact completes_dot (operand.length_eq_one rfl) point made (ih (by omega)) (ih' (by omega))
  | index collection opens position closes made ih ih' =>
    simp only [List.length_append, List.length_cons] at le
    exact completes_index opens closes made (ih (by omega)) (ih' (by omega))
  | named_segment word made => exact completes_named_segment word made
  | self_segment word made => exact completes_self_segment word made
  | primary_segment part ih => exact completes_segment_primary part (ih le)
  | symbol_place word made => exact completes_symbol_place word made
  | expression_place part no_symbol ih => exact completes_expression_place part no_symbol (ih le)
  | leaf word made => exact completes_primary_leaf word made
  | name word made => exact completes_name word made
  | call word opens items closes made ih =>
    simp only [List.length_append, List.length_cons] at le
    exact completes_call word opens closes made (ih (by omega))
  | enclosed_expression opens part closes ih =>
    simp only [List.length_append, List.length_cons] at le
    exact completes_enclosed_expression opens closes (ih (by omega))
  | list opens items closes made ih =>
    simp only [List.length_append, List.length_cons] at le
    exact completes_list opens closes made (ih (by omega))
  | subquery word opens collection comma var comma' predicate closes made ih ih' =>
    simp only [List.length_append, List.length_cons] at le
    exact completes_subquery word opens comma var comma' closes made (ih (by omega))
      (ih' (by omega))
  | functionForm word opens items closes made ih =>
    simp only [List.length_append, List.length_cons] at le
    exact completes_functionForm word opens closes made (ih (by omega))

/-- Every derived phrase is read. -/
theorem Derives.completes {input : Input} {phrase : Phrase} {w : List Lexeme}
    {operands : List Operand} (h : Derives input.arguments phrase w operands) :
    Completes input phrase w operands := by
  have all : ∀ n, ∀ {v : List Lexeme} {qs}, v.length < n →
      Derives input.arguments .disjunction v qs → Completes input .disjunction v qs := by
    intro n
    induction n with
    | zero => exact fun lt => absurd lt (Nat.not_lt_zero _)
    | succ n ih => exact fun lt part => part.completes_of_shorter (Nat.le_of_lt_succ lt) ih
  exact h.completes_of_shorter (Nat.le_refl _) (all _)

end PredicateLang.Grammar
