import PredicateLang.Proofs.Grammar

/-!
# The words of a phrase

What can be said of the words of a phrase without parsing them: which token comes first, that
parentheses are balanced, and what follows an expression in parentheses at the beginning of
another. These facts are what the lookahead of the parser rests on.
-/

open PredicateLang.Parser

namespace PredicateLang.Grammar

variable {arguments : Arguments} {phrase : Phrase} {w u v : List Lexeme} {operands : List Operand}

/-! ## The first token -/

/-- Can a primary expression begin with the token? -/
def startsPrimary (token : Token) : Bool :=
  (production? token).isSome || match token with
    | .identifier _ | .openParen | .openBrace | .subquery | .function => true
    | _ => false

/-- Can an expression begin with the token? -/
def startsExpression (token : Token) : Bool := startsPrimary token || token = .minus

theorem no_quantifier_of_starts {token : Token} (starts : startsExpression token) :
    quantifier? token = none := by
  cases token <;> first | rfl | cases starts

/-- Can a primary predicate begin with the token? -/
def startsPredicate (token : Token) : Bool :=
  startsExpression token || (quantifier? token).isSome || match token with
    | .predicateConstant _ => true
    | _ => false

/-- Can the phrase begin with the token? Of the phrases that nothing is asked about here, all are
taken to begin with any token. -/
def Phrase.starts : Phrase → Token → Bool
  | primary, token | navigation, token => startsPrimary token
  | signed, token | power, token | product, token | sum, token | expression, token
  | comparison, token => startsExpression token
  | primaryPredicate, token => startsPredicate token
  | disjunction, _ | disjuncts, _ | conjunction, _ | conjuncts, _ | negation, _ | segment, _
  | place, _ | items, _ => true

theorem Phrase.starts_mono {token : Token} :
    (startsPrimary token → startsExpression token)
      ∧ (startsExpression token → startsPredicate token) := by
  constructor <;> intro h <;> simp [startsExpression, startsPredicate] at * <;> simp [h]

/-- The first word of a phrase. -/
theorem Derives.starts (h : Derives arguments phrase w operands) :
    ∀ word ∈ w.head?, phrase.starts word.token := by
  induction h with
  | compare left _ _ _ _ ih | assignment left _ _ _ ih | add left _ _ _ ih
  | multiply left _ _ _ ih | raise left _ _ _ ih | dot left _ _ _ ih | index left _ _ _ _ ih =>
    obtain ⟨first, rest, rfl⟩ := List.exists_cons_of_ne_nil (left.ne_nil nofun)
    exact ih
  | primary_navigation _ ih => exact ih
  | navigation_signed _ ih => exact fun word mem => Phrase.starts_mono.1 (ih word mem)
  | comparison_primary _ ih => exact fun word mem => Phrase.starts_mono.2 (ih word mem)
  | signed_power _ ih | power_product _ ih | product_sum _ ih | sum_expression _ ih
  | truth _ _ ih => exact ih
  | _ =>
    simp_all [Phrase.starts, startsPrimary, startsExpression, startsPredicate]

/-! ## Parentheses -/

/-- How a token changes the number of open parentheses. -/
def turn : Token → Int
  | .openParen => 1
  | .closeParen => -1
  | _ => 0

/-- How many parentheses are open after the words. -/
def depth : List Lexeme → Int
  | [] => 0
  | word :: rest => turn word.token + depth rest

@[simp] theorem depth_nil : depth [] = 0 := rfl

@[simp] theorem depth_cons (word : Lexeme) : depth (word :: u) = turn word.token + depth u := rfl

@[simp] theorem depth_append : depth (u ++ v) = depth u + depth v := by
  induction u with
  | nil => simp
  | cons word u ih => simp [ih, Int.add_assoc]

theorem turn_eq_zero {token : Token} (ne : token ≠ .openParen) (ne' : token ≠ .closeParen) :
    turn token = 0 := by
  unfold turn
  split
  · exact absurd rfl ne
  · exact absurd rfl ne'
  · rfl

/-- Every parenthesis that is opened is closed, and none is closed before. -/
def Balanced (words : List Lexeme) : Prop :=
  depth words = 0 ∧ ∀ u v, words = u ++ v → 0 ≤ depth u

namespace Balanced

theorem nil : Balanced [] := ⟨rfl, fun u v h => by simp [(List.append_eq_nil_iff.mp h.symm).1]⟩

/-- A word that is no parenthesis in front of balanced words. -/
theorem cons {word : Lexeme} (ne : word.token ≠ .openParen) (ne' : word.token ≠ .closeParen)
    (hw : Balanced w) : Balanced (word :: w) := by
  have zero := turn_eq_zero ne ne'
  refine ⟨by rw [depth_cons, zero, hw.1]; rfl, fun u v h => ?_⟩
  rcases List.cons_eq_append_iff.mp h with ⟨rfl, _⟩ | ⟨u, rfl, rfl⟩
  · simp
  · simpa [zero] using hw.2 u v rfl

theorem append (hu : Balanced u) (hv : Balanced v) : Balanced (u ++ v) := by
  refine ⟨by rw [depth_append, hu.1, hv.1]; rfl, fun x y h => ?_⟩
  rcases List.append_eq_append_iff.mp h with ⟨z, rfl, rfl⟩ | ⟨z, rfl, rfl⟩
  · simpa [hu.1] using hv.2 z y rfl
  · exact hu.2 x z rfl

theorem enclose {left right : Lexeme} (opens : left.token = .openParen) (hw : Balanced w)
    (closes : right.token = .closeParen) : Balanced (left :: (w ++ [right])) := by
  refine ⟨by simp [opens, closes, hw.1, turn], fun x y h => ?_⟩
  rcases List.cons_eq_append_iff.mp h with ⟨rfl, _⟩ | ⟨x, rfl, e⟩
  · simp
  · rcases List.append_eq_append_iff.mp e with ⟨z, rfl, h'⟩ | ⟨z, rfl, rfl⟩
    · rcases List.cons_eq_append_iff.mp h' with ⟨rfl, _⟩ | ⟨z, rfl, e'⟩
      · simp [opens, turn, hw.1]
      · simp [(List.append_eq_nil_iff.mp e'.symm).1, opens, closes, turn, hw.1]
    · have := hw.2 x z rfl
      simp [opens, turn]
      omega

/-- After balanced words, no closing parenthesis belongs to longer balanced words. -/
theorem not_closing {right : Lexeme} (hu : Balanced u) (hv : Balanced (u ++ right :: v)) :
    right.token ≠ .closeParen := by
  intro closes
  have := hv.2 (u ++ [right]) v (by simp)
  simp [hu.1, closes, turn] at this

/-- Where the first closing parenthesis stands that the words before it do not open is
determined. -/
theorem closing_unique {right right' : Lexeme} {x y : List Lexeme} (hu : Balanced u)
    (hv : Balanced v) (closes : right.token = .closeParen) (closes' : right'.token = .closeParen)
    (e : u ++ right :: x = v ++ right' :: y) : u = v ∧ right = right' ∧ x = y := by
  rcases List.append_eq_append_iff.mp e with ⟨z, rfl, h⟩ | ⟨z, rfl, h⟩
  · rcases List.cons_eq_append_iff.mp h with ⟨rfl, h⟩ | ⟨z, rfl, _⟩
    · cases h
      simp
    · exact absurd closes (not_closing hu hv)
  · rcases List.cons_eq_append_iff.mp h with ⟨rfl, h⟩ | ⟨z, rfl, _⟩
    · cases h
      simp
    · exact absurd closes' (not_closing hv hu)

end Balanced

theorem Suffix.balanced {options : Options} (h : Suffix w options) : Balanced w := by
  cases h with
  | none => exact .nil
  | flags opens names _ closes =>
    exact .cons (by simp [opens]) (by simp [opens]) <| .cons (by simp [names]) (by simp [names]) <|
      .cons (by simp [closes]) (by simp [closes]) .nil

/-- The words of a phrase are balanced. -/
theorem Derives.balanced (h : Derives arguments phrase w operands) : Balanced w := by
  induction h with
  | no_items => exact .nil
  | next_disjunct _ e _ ih ih' | next_conjunct _ e _ ih ih' | assignment _ e _ _ ih ih'
  | raise _ e _ _ ih ih' | dot _ e _ _ ih ih' | next_item _ e _ ih ih' =>
    exact ih.append (.cons (by simp [e]) (by simp [e]) ih')
  | add _ e _ _ ih ih' =>
    refine ih.append (.cons ?_ ?_ ih') <;> intro e' <;> simp [e', additiveSign?] at e
  | multiply _ e _ _ ih ih' =>
    refine ih.append (.cons ?_ ?_ ih') <;> intro e' <;> simp [e', multiplicativeSign?] at e
  | compare _ e suffix _ _ ih ih' =>
    refine ih.append (.cons ?_ ?_ (suffix.balanced.append ih')) <;> intro e' <;>
      simp [e', operator?] at e
  | not e _ _ ih | negate e _ _ ih => exact .cons (by simp [e]) (by simp [e]) ih
  | quantified e _ _ ih =>
    refine .cons ?_ ?_ ih <;> intro e' <;> simp [e', quantifier?] at e
  | predicateConstant e | named_segment e | self_segment e | name e =>
    exact .cons (by simp [e]) (by simp [e]) .nil
  | leaf e => refine .cons ?_ ?_ .nil <;> intro e' <;> simp [e', production?.eq_def] at e
  | symbol_place e => refine .cons ?_ ?_ .nil <;> intro e' <;> simp [e', indexSymbol?] at e
  | enclosed_predicate opens _ closes ih | enclosed_expression opens _ closes ih =>
    exact .enclose opens ih closes
  | call e opens _ closes _ ih | functionForm e opens _ closes _ ih =>
    exact .cons (by simp [e]) (by simp [e]) (.enclose opens ih closes)
  | list opens _ closes _ ih =>
    exact .cons (by simp [opens]) (by simp [opens])
      (ih.append (.cons (by simp [closes]) (by simp [closes]) .nil))
  | index _ opens _ closes _ ih ih' =>
    exact ih.append <| .cons (by simp [opens]) (by simp [opens])
      (ih'.append (.cons (by simp [closes]) (by simp [closes]) .nil))
  | @subquery _ u v _ _ _ word left comma var comma' right e opens _ e₁ e₂ e₃ _ closes _ ih ih' =>
    have inner : Balanced (u ++ comma :: var :: comma' :: v) :=
      ih.append <| .cons (by simp [e₁]) (by simp [e₁]) <| .cons (by simp [e₂]) (by simp [e₂]) <|
        .cons (by simp [e₃]) (by simp [e₃]) ih'
    simpa using (Balanced.enclose opens inner closes).cons (by simp [e]) (by simp [e])
  | _ => assumption

/-! ## A parenthesis at the beginning -/

theorem continuesExpression_of_additive {token : Token} {sign : ArithmeticSign}
    (h : additiveSign? token = some sign) : continuesExpression token := by
  unfold additiveSign? at h
  split at h <;> first | rfl | cases h

theorem continuesExpression_of_multiplicative {token : Token} {sign : ArithmeticSign}
    (h : multiplicativeSign? token = some sign) : continuesExpression token := by
  unfold multiplicativeSign? at h
  split at h <;> first | rfl | cases h

theorem continuesExpression_of_operator {token : Token} {operator : Operator}
    (h : operator? token = some operator) : continuesExpression token := by
  simp [continuesExpression, h]

/-- The words begin with an expression in parentheses: either they end there, or a token follows
that goes on with an expression. -/
def OpensExpression (arguments : Arguments) (words : List Lexeme) (operands : List Operand) :
    Prop :=
  ∃ left u, ∃ right : Lexeme, ∃ v es, words = left :: (u ++ right :: v) ∧ right.token = .closeParen ∧
    Derives arguments .expression u es ∧ (v = [] → operands = es) ∧
      ∀ word ∈ v.head?, continuesExpression word.token

/-- More words behind a token that goes on with an expression. -/
theorem OpensExpression.append {es : List Operand} {sign : Lexeme}
    (h : OpensExpression arguments u es) (continues : continuesExpression sign.token) :
    OpensExpression arguments (u ++ sign :: v) operands := by
  obtain ⟨left, x, right, y, fs, rfl, closes, inner, -, next⟩ := h
  refine ⟨left, x, right, y ++ sign :: v, fs, by simp, closes, inner, by simp, ?_⟩
  cases y with
  | nil => simpa using continues
  | cons word y => simpa using next

/-- The phrases that an expression in parentheses can begin. -/
def Phrase.isExpression : Phrase → Bool
  | expression | sum | product | power | signed | navigation | primary => true
  | _ => false

theorem Derives.opensExpression (h : Derives arguments phrase w operands)
    (expression : phrase.isExpression) (opens : ∀ word ∈ w.head?, word.token = .openParen) :
    OpensExpression arguments w operands := by
  induction h with
  | enclosed_expression _ part closes =>
    exact ⟨_, _, _, [], _, rfl, closes, part, fun _ => rfl, by simp⟩
  | assignment left e _ _ ih | raise left e _ _ ih | dot left e _ _ ih | index left e _ _ _ ih =>
    refine (ih rfl ?_).append (by simp [continuesExpression, e])
    obtain ⟨first, rest, rfl⟩ := List.exists_cons_of_ne_nil (left.ne_nil nofun)
    exact opens
  | add left e _ _ ih =>
    refine (ih rfl ?_).append (continuesExpression_of_additive e)
    obtain ⟨first, rest, rfl⟩ := List.exists_cons_of_ne_nil (left.ne_nil nofun)
    exact opens
  | multiply left e _ _ ih =>
    refine (ih rfl ?_).append (continuesExpression_of_multiplicative e)
    obtain ⟨first, rest, rfl⟩ := List.exists_cons_of_ne_nil (left.ne_nil nofun)
    exact opens
  | leaf word_eq =>
    rw [opens _ rfl] at word_eq
    cases word_eq
  | name | call | list | subquery | functionForm | negate => simp_all
  | sum_expression | product_sum | power_product | signed_power | navigation_signed
  | primary_navigation => simp_all [Phrase.isExpression]
  | _ => cases expression

/-- Whether an expression stands for truth does not depend on where it starts. -/
theorem Makes.truth_anywhere {position position' : Nat} {operand : Operand}
    (h : Production.Makes arguments position .expressionPredicate operands operand) :
    Production.Makes arguments position' .expressionPredicate operands operand := by
  rw [Production.makes_iff] at h ⊢
  refine ⟨h.1, ?_⟩
  obtain ⟨sorts, made⟩ := h
  unfold Production.make at made ⊢
  split at made <;> simp_all

/-- A comparison that begins with a parenthesis: if it ends with the one that closes it, then the
words between are a predicate with the same operand. -/
theorem Derives.opensComparison (h : Derives arguments .comparison w operands)
    (opens : ∀ word ∈ w.head?, word.token = .openParen) :
    ∃ left u, ∃ right : Lexeme, ∃ v, w = left :: (u ++ right :: v) ∧ right.token = .closeParen ∧ Balanced u ∧
      (v = [] → Derives arguments .disjunction u operands) ∧
        ∀ word ∈ v.head?, continuesExpression word.token := by
  cases h with
  | truth part made =>
    obtain ⟨left, u, right, v, es, rfl, closes, inner, same, next⟩ :=
      part.opensExpression rfl opens
    refine ⟨left, u, right, v, rfl, closes, inner.balanced, fun e => ?_, next⟩
    obtain rfl := same e
    exact (((inner.truth (Makes.truth_anywhere made)).comparison_primary).primary_negation
      |>.negation_conjunction).conjunction_disjunction
  | @compare x y z _ _ _ _ _ sign left e suffix right made =>
    obtain ⟨first, rest, rfl⟩ := List.exists_cons_of_ne_nil (left.ne_nil nofun)
    obtain ⟨left, u, right, v, es, eq, closes, inner, -, next⟩ := left.opensExpression rfl opens
    refine ⟨left, u, right, v ++ sign :: (z ++ y), by simp [eq], closes, inner.balanced, by simp, ?_⟩
    cases v with
    | nil => simpa using continuesExpression_of_operator e
    | cons word v => simpa using next

end PredicateLang.Grammar
