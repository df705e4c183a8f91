import PredicateLang.Expr.Parser
import PredicateLang.Proofs.Production

/-!
# The grammar

The grammar that the parser is meant to read, as a relation of its own: `Derives arguments phrase
words operands` says that the lexemes `words` are a phrase, and that the productions found in it
turn into `operands`. The relation knows no order of attempts and no lookahead. In particular a
parenthesis at the beginning of a primary predicate may enclose a predicate or begin an expression,
and a segment after a point may be any primary expression, which the production of the point then
refuses unless it is a key path.

Only one rule looks at what follows: a word for a place right after an opening bracket is always
that place.
-/

open PredicateLang.Parser

namespace PredicateLang.Grammar

/-! ## Phrases -/

/-- The phrases of the language, each tighter than the one before it. -/
inductive Phrase where
  | disjunction
  /-- Predicates with `OR` between them, not yet joined. -/
  | disjuncts
  | conjunction
  /-- Predicates with `AND` between them, not yet joined. -/
  | conjuncts
  | negation | primaryPredicate | comparison
  | expression | sum | product | power | signed | navigation
  /-- What stands after a point. -/
  | segment
  /-- What stands in brackets. -/
  | place
  /-- Expressions with commas between them, and perhaps one after the last. -/
  | items
  | primary
deriving DecidableEq, Repr

/-- Where a phrase starts. -/
def start (words : List Lexeme) : Nat := (words.head?.map (·.start)).getD 0

/-- The options after an operator: nothing, or letters in brackets. -/
inductive Suffix : List Lexeme → Options → Prop
  | none : Suffix [] .none
  | flags {open' word close : Lexeme} {letters : String} {options : Options}
      (opens : open'.token = .openBracket) (names : word.token = .identifier letters)
      (known : Options.ofFlags? letters = some options) (closes : close.token = .closeBracket) :
      Suffix [open', word, close] options

/-! ## Derivations -/

/-- The lexemes are a phrase whose productions make the operands. -/
inductive Derives (arguments : Arguments) : Phrase → List Lexeme → List Operand → Prop
  -- predicates
  | conjunction_disjunction {w ps} (part : Derives arguments .conjunction w ps) :
      Derives arguments .disjunction w ps
  | or {w ps p} (parts : Derives arguments .disjuncts w ps) (several : 1 < ps.length)
      (made : Production.Makes arguments (start w) (.or ps.length) ps p) :
      Derives arguments .disjunction w [p]
  | first_disjunct {w ps} (part : Derives arguments .conjunction w ps) :
      Derives arguments .disjuncts w ps
  | next_disjunct {u v ps qs} {sign : Lexeme} (before : Derives arguments .disjuncts u ps)
      (word : sign.token = .or) (part : Derives arguments .conjunction v qs) :
      Derives arguments .disjuncts (u ++ sign :: v) (ps ++ qs)
  | negation_conjunction {w ps} (part : Derives arguments .negation w ps) :
      Derives arguments .conjunction w ps
  | and {w ps p} (parts : Derives arguments .conjuncts w ps) (several : 1 < ps.length)
      (made : Production.Makes arguments (start w) (.and ps.length) ps p) :
      Derives arguments .conjunction w [p]
  | first_conjunct {w ps} (part : Derives arguments .negation w ps) :
      Derives arguments .conjuncts w ps
  | next_conjunct {u v ps qs} {sign : Lexeme} (before : Derives arguments .conjuncts u ps)
      (word : sign.token = .and) (part : Derives arguments .negation v qs) :
      Derives arguments .conjuncts (u ++ sign :: v) (ps ++ qs)
  | primary_negation {w ps} (part : Derives arguments .primaryPredicate w ps) :
      Derives arguments .negation w ps
  | not {w ps p} {sign : Lexeme} (word : sign.token = .not)
      (part : Derives arguments .negation w ps)
      (made : Production.Makes arguments sign.start .not ps p) :
      Derives arguments .negation (sign :: w) [p]
  | predicateConstant {value p} {word : Lexeme} (word_eq : word.token = .predicateConstant value)
      (made : Production.Makes arguments word.start (.predicateConstant value) [] p) :
      Derives arguments .primaryPredicate [word] [p]
  | enclosed_predicate {w ps} {left right : Lexeme} (opens : left.token = .openParen)
      (part : Derives arguments .disjunction w ps) (closes : right.token = .closeParen) :
      Derives arguments .primaryPredicate (left :: (w ++ [right])) ps
  | quantified {w ps p quantifier} {word : Lexeme} (word_eq : quantifier? word.token = some quantifier)
      (part : Derives arguments .comparison w ps)
      (made : Production.Makes arguments word.start (.quantified quantifier) ps p) :
      Derives arguments .primaryPredicate (word :: w) [p]
  | comparison_primary {w ps} (part : Derives arguments .comparison w ps) :
      Derives arguments .primaryPredicate w ps
  | truth {w es p} (part : Derives arguments .expression w es)
      (made : Production.Makes arguments (start w) .expressionPredicate es p) :
      Derives arguments .comparison w [p]
  | compare {u v x ls rs p operator options} {sign : Lexeme}
      (left : Derives arguments .expression u ls) (sign_eq : operator? sign.token = some operator)
      (suffix : Suffix x options) (right : Derives arguments .expression v rs)
      (made : Production.Makes arguments sign.start (.comparison operator options) (ls ++ rs) p) :
      Derives arguments .comparison (u ++ sign :: (x ++ v)) [p]
  -- expressions
  | sum_expression {w es} (part : Derives arguments .sum w es) :
      Derives arguments .expression w es
  | assignment {u v ls rs e} {sign : Lexeme} (target : Derives arguments .sum u ls)
      (sign_eq : sign.token = .assign) (value : Derives arguments .expression v rs)
      (made : Production.Makes arguments sign.start .assignment (ls ++ rs) e) :
      Derives arguments .expression (u ++ sign :: v) [e]
  | product_sum {w es} (part : Derives arguments .product w es) : Derives arguments .sum w es
  | add {u v ls rs e operation} {sign : Lexeme} (left : Derives arguments .sum u ls)
      (sign_eq : additiveSign? sign.token = some operation)
      (right : Derives arguments .product v rs)
      (made : Production.Makes arguments sign.start (.arithmetic operation) (ls ++ rs) e) :
      Derives arguments .sum (u ++ sign :: v) [e]
  | power_product {w es} (part : Derives arguments .power w es) : Derives arguments .product w es
  | multiply {u v ls rs e operation} {sign : Lexeme} (left : Derives arguments .product u ls)
      (sign_eq : multiplicativeSign? sign.token = some operation)
      (right : Derives arguments .power v rs)
      (made : Production.Makes arguments sign.start (.arithmetic operation) (ls ++ rs) e) :
      Derives arguments .product (u ++ sign :: v) [e]
  | signed_power {w es} (part : Derives arguments .signed w es) : Derives arguments .power w es
  | raise {u v ls rs e} {sign : Lexeme} (base : Derives arguments .signed u ls)
      (sign_eq : sign.token = .starStar) (exponent : Derives arguments .power v rs)
      (made : Production.Makes arguments sign.start (.arithmetic .power) (ls ++ rs) e) :
      Derives arguments .power (u ++ sign :: v) [e]
  | navigation_signed {w es} (part : Derives arguments .navigation w es) :
      Derives arguments .signed w es
  | negate {w es e} {sign : Lexeme} (sign_eq : sign.token = .minus)
      (part : Derives arguments .signed w es)
      (made : Production.Makes arguments sign.start .negate es e) :
      Derives arguments .signed (sign :: w) [e]
  | primary_navigation {w es} (part : Derives arguments .primary w es) :
      Derives arguments .navigation w es
  | dot {u v ls rs e} {point : Lexeme} (operand : Derives arguments .navigation u ls)
      (point_eq : point.token = .dot) (segment : Derives arguments .segment v rs)
      (made : Production.Makes arguments point.start .dot (ls ++ rs) e) :
      Derives arguments .navigation (u ++ point :: v) [e]
  | index {u v ls rs e} {left right : Lexeme} (collection : Derives arguments .navigation u ls)
      (opens : left.token = .openBracket) (position : Derives arguments .place v rs)
      (closes : right.token = .closeBracket)
      (made : Production.Makes arguments left.start .index (ls ++ rs) e) :
      Derives arguments .navigation (u ++ left :: (v ++ [right])) [e]
  | named_segment {name e} {word : Lexeme} (word_eq : word.token = .identifier name)
      (made : Production.Makes arguments word.start (.path name) [] e) :
      Derives arguments .segment [word] [e]
  | self_segment {e} {word : Lexeme} (word_eq : word.token = .self)
      (made : Production.Makes arguments word.start (.path "SELF") [] e) :
      Derives arguments .segment [word] [e]
  | primary_segment {w es} (part : Derives arguments .primary w es) :
      Derives arguments .segment w es
  | symbol_place {symbol e} {word : Lexeme} (word_eq : indexSymbol? word.token = some symbol)
      (made : Production.Makes arguments word.start (.symbol symbol) [] e) :
      Derives arguments .place [word] [e]
  | expression_place {w es} (part : Derives arguments .expression w es)
      (no_symbol : ∀ word ∈ w.head?, indexSymbol? word.token = none) :
      Derives arguments .place w es
  | no_items : Derives arguments .items [] []
  | last_item {w es} (item : Derives arguments .expression w es) : Derives arguments .items w es
  | next_item {u v es fs} {comma : Lexeme} (item : Derives arguments .expression u es)
      (comma_eq : comma.token = .comma) (rest : Derives arguments .items v fs) :
      Derives arguments .items (u ++ comma :: v) (es ++ fs)
  | leaf {production e} {word : Lexeme} (word_eq : production? word.token = some production)
      (made : Production.Makes arguments word.start production [] e) :
      Derives arguments .primary [word] [e]
  | name {name e} {word : Lexeme} (word_eq : word.token = .identifier name)
      (made : Production.Makes arguments word.start (.path name) [] e) :
      Derives arguments .primary [word] [e]
  | call {name w es e} {word left right : Lexeme} (word_eq : word.token = .identifier name)
      (opens : left.token = .openParen) (items : Derives arguments .items w es)
      (closes : right.token = .closeParen)
      (made : Production.Makes arguments word.start (.call name es.length) es e) :
      Derives arguments .primary (word :: left :: (w ++ [right])) [e]
  | enclosed_expression {w es} {left right : Lexeme} (opens : left.token = .openParen)
      (part : Derives arguments .expression w es) (closes : right.token = .closeParen) :
      Derives arguments .primary (left :: (w ++ [right])) es
  | list {w es e} {left right : Lexeme} (opens : left.token = .openBrace)
      (items : Derives arguments .items w es) (closes : right.token = .closeBrace)
      (made : Production.Makes arguments left.start (.list es.length) es e) :
      Derives arguments .primary (left :: (w ++ [right])) [e]
  | subquery {name u v es ps e} {word left comma var comma' right : Lexeme}
      (word_eq : word.token = .subquery) (opens : left.token = .openParen)
      (collection : Derives arguments .expression u es) (comma_eq : comma.token = .comma)
      (var_eq : var.token = .var name) (comma'_eq : comma'.token = .comma)
      (predicate : Derives arguments .disjunction v ps) (closes : right.token = .closeParen)
      (made : Production.Makes arguments word.start (.subquery name) (es ++ ps) e) :
      Derives arguments .primary
        (word :: left :: (u ++ comma :: var :: comma' :: (v ++ [right]))) [e]
  | functionForm {w es e} {word left right : Lexeme} (word_eq : word.token = .function)
      (opens : left.token = .openParen) (items : Derives arguments .items w es)
      (closes : right.token = .closeParen)
      (made : Production.Makes arguments word.start (.functionForm es.length) es e) :
      Derives arguments .primary (word :: left :: (w ++ [right])) [e]

/-! ## Sorts of operands -/

namespace Phrase

/-- The sort of the operands of a phrase. -/
def sort : Phrase → OperandSort
  | disjunction | disjuncts | conjunction | conjuncts | negation | primaryPredicate
  | comparison => .predicate
  | expression | sum | product | power | signed | navigation | segment | place | items
  | primary => .expr

/-- Can the phrase have any number of operands? -/
def isList : Phrase → Bool
  | disjuncts | conjuncts | items => true
  | _ => false

end Phrase

variable {arguments : Arguments} {phrase : Phrase} {w : List Lexeme} {operands : List Operand}

/-- What a single word builds is an expression. -/
theorem gives_of_production {token : Token} {production : Production}
    (e : production? token = some production) : production.gives = .expr := by
  unfold production? at e
  cases token <;> cases e <;> rfl

/-- What a single word builds has no operands. -/
theorem takes_of_production {token : Token} {production : Production}
    (e : production? token = some production) : production.takes = [] := by
  unfold production? at e
  cases token <;> cases e <;> rfl

theorem Derives.sort_eq (h : Derives arguments phrase w operands) :
    ∀ operand ∈ operands, operand.sort = phrase.sort := by
  induction h with
  | next_disjunct before word part ih ih' | next_conjunct before word part ih ih'
  | next_item item comma rest ih ih' =>
    intro operand mem
    rcases List.mem_append.mp mem with mem | mem
    · exact ih operand mem
    · exact ih' operand mem
  | no_items => simp
  | leaf word made =>
    exact fun operand mem => List.mem_singleton.mp mem ▸ made.sort.trans (gives_of_production word)
  | or _ _ made | and _ _ made | not _ _ made | predicateConstant _ made | quantified _ _ made
  | truth _ made | compare _ _ _ _ made | assignment _ _ _ made | add _ _ _ made
  | multiply _ _ _ made | raise _ _ _ made | negate _ _ made | dot _ _ _ made
  | index _ _ _ _ made | named_segment _ made | self_segment _ made | symbol_place _ made
  | name _ made | call _ _ _ _ made | list _ _ _ made | subquery _ _ _ _ _ _ _ _ made
  | functionForm _ _ _ _ made =>
    exact fun operand mem => List.mem_singleton.mp mem ▸ made.sort
  | _ => assumption

theorem Derives.length_eq_one (h : Derives arguments phrase w operands)
    (single : phrase.isList = false) : operands.length = 1 := by
  induction h with
  | first_disjunct | next_disjunct | first_conjunct | next_conjunct | no_items | last_item
  | next_item => cases single
  | _ => first | rfl | (rename_i ih; exact ih rfl)

theorem Derives.map_sort (h : Derives arguments phrase w operands) :
    operands.map Operand.sort = List.replicate operands.length phrase.sort :=
  List.eq_replicate_iff.mpr ⟨List.length_map _, by simpa using h.sort_eq⟩

theorem Derives.map_sort_of_single (h : Derives arguments phrase w operands)
    (single : phrase.isList = false) : operands.map Operand.sort = [phrase.sort] := by
  rw [h.map_sort, h.length_eq_one single]
  rfl

/-- Only a list of items may have no words. -/
theorem Derives.ne_nil (h : Derives arguments phrase w operands) (ne : phrase ≠ .items) :
    w ≠ [] := by
  induction h with
  | no_items | last_item | next_item => exact absurd rfl ne
  | next_disjunct | next_conjunct | compare | assignment | add | multiply | raise | dot | index =>
    exact List.append_ne_nil_of_right_ne_nil _ (List.cons_ne_nil _ _)
  | _ => first | exact List.cons_ne_nil _ _ | (rename_i ih; exact ih nofun)

/-- Only a list of items may have no operands. -/
theorem Derives.length_pos (h : Derives arguments phrase w operands) (ne : phrase ≠ .items) :
    0 < operands.length := by
  cases h with
  | next_disjunct _ _ part | next_conjunct _ _ part =>
    simp [part.length_eq_one rfl]
  | no_items | last_item | next_item => exact absurd rfl ne
  | first_disjunct part | first_conjunct part => simp [part.length_eq_one rfl]
  | _ => first | simp | simp [Derives.length_eq_one (by assumption) rfl]

theorem Derives.of_conjuncts (h : Derives arguments .conjuncts w operands)
    (single : operands.length ≤ 1) : Derives arguments .negation w operands := by
  cases h with
  | first_conjunct part => exact part
  | next_conjunct before _ part =>
    have := before.length_pos nofun
    have := part.length_eq_one rfl
    rw [List.length_append] at single
    omega

theorem Derives.of_disjuncts (h : Derives arguments .disjuncts w operands)
    (single : operands.length ≤ 1) : Derives arguments .conjunction w operands := by
  cases h with
  | first_disjunct part => exact part
  | next_disjunct before _ part =>
    have := before.length_pos nofun
    have := part.length_eq_one rfl
    rw [List.length_append] at single
    omega

end PredicateLang.Grammar
