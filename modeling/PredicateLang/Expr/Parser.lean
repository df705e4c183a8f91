import PredicateLang.Expr.Builder

/-!
# Parsing

A parser with one token of lookahead reports every phrase that it recognizes as a production, and
the productions build the tree. From the loosest to the tightest, the levels of the grammar are

* `OR`, `AND` and `NOT` between predicates,
* primary predicates: constants, quantified comparisons, predicates in parentheses, comparisons,
* expressions: assignments, sums, products, powers (which associate to the right), signs,
  navigation by points and brackets, and primary expressions.

A parenthesis in front of a predicate may belong to the predicate or to an expression at its
beginning. It is tried as the former; if that fails, or if an operator follows, then the parser
goes back and drops the operands that were built since.

The parts of a phrase begin later than the phrase, or belong to a tighter level at the same place.
This makes the functions total: the measure is the number of lexemes that follow and the level.
-/

namespace PredicateLang

/-! ## Where a parser is -/

/-- The lexeme to be looked at, those that follow, and the operands that have been built. -/
structure Cursor where
  current : Lexeme
  following : List Lexeme
  stack : Stack

namespace Cursor

/-- How many lexemes follow. -/
def left (s : Cursor) : Nat := s.following.length

/-- The token to be looked at. -/
def token (s : Cursor) : Token := s.current.token

/-- The position of the token. -/
def position (s : Cursor) : Nat := s.current.start

/-- The same place with operands that were built since dropped from a stack. -/
def back (s : Cursor) (stack : Stack) : Cursor :=
  { s with stack := stack.truncate s.stack.length }

@[simp] theorem left_back (s : Cursor) (stack : Stack) : (s.back stack).left = s.left := rfl

/-- The complaint that something else was wanted than the token. -/
def unexpected (s : Cursor) (wanted : String) : SyntaxError :=
  ⟨s.position, .unexpected wanted s.token⟩

end Cursor

/-- What comes of reading a phrase while `n` lexemes follow: it fails and leaves operands behind, or
it ends at a place where no more lexemes follow than before. -/
inductive Outcome (α : Type) (n : Nat) where
  | fault (error : SyntaxError) (stack : Stack)
  | read (result : α) (after : Cursor) (le : after.left ≤ n)

namespace Outcome

variable {α β : Type} {m n : Nat}

/-- The outcome for an earlier beginning. -/
def within (le : m ≤ n) : Outcome α m → Outcome α n
  | fault error stack => fault error stack
  | read result after le' => read result after (Nat.le_trans le' le)

/-- Goes on where the phrase ends. -/
def andThen (outcome : Outcome α n)
    (next : α → (s : Cursor) → s.left ≤ n → Outcome β s.left) : Outcome β n :=
  match outcome with
  | fault error stack => fault error stack
  | read result after le => (next result after le).within le

end Outcome

namespace Parser

/-- What a parser knows of the text: the arguments, and the fault behind the last lexeme. -/
structure Input where
  arguments : Arguments
  fault : Option LexicalError

/-- The error that going on behind the last lexeme meets. -/
def Input.ending (input : Input) : SyntaxError :=
  match input.fault with
  | some fault => .ofLexical fault
  | none => ⟨0, .unexpected "a token" .eof⟩

/-! ## Steps -/

section Steps

variable {α : Type} (input : Input) (s : Cursor)

/-- Ends a phrase without taking anything more. -/
def done (result : α) : Outcome α s.left := .read result s (Nat.le_refl _)

/-- Fails because something else is wanted. -/
def wrong (wanted : String) : Outcome α s.left := .fault (s.unexpected wanted) s.stack

/-- Takes the token and goes on after it. -/
def advance (next : (s' : Cursor) → s'.left < s.left → Outcome α s'.left) : Outcome α s.left :=
  match h : s.following with
  | [] => .fault input.ending s.stack
  | lexeme :: following =>
    have shorter : Cursor.left ⟨lexeme, following, s.stack⟩ < s.left := by simp [Cursor.left, h]
    (next ⟨lexeme, following, s.stack⟩ shorter).within (Nat.le_of_lt shorter)

/-- Takes a token that has to be there. -/
def expect (token : Token) : Outcome Unit s.left :=
  if s.token = token then advance input s fun s' _ => done s' () else wrong s token.name

/-- Applies a production found at a position. -/
def emit (position : Nat) (production : Production) : Outcome Unit s.left :=
  match (production.apply input.arguments position).run s.stack with
  | .ok _ stack => .read () { s with stack } (Nat.le_refl _)
  | .error error stack => .fault error stack

/-- Takes the token and applies the production that it is. -/
def leaf (production : Production) : Outcome Unit s.left :=
  advance input s fun s' _ => emit input s' s.position production

end Steps

/-! ## Tokens with a meaning of their own -/

/-- The constant that an integer literal is: of the kind `int` if it fits, otherwise `long` or
`ulong`. Lexemes hold no greater ones. -/
def integerLiteral (n : Nat) : Value :=
  match [IntegerKind.int, .long, .ulong].findSome? (Integer.ofInt? · n) with
  | some n => .integer n
  | none => .double (Float.ofNat n)

/-- The production that a token is on its own. -/
def production? : Token → Option Production
  | .integer n => some (.literal (integerLiteral n))
  | .double x => some (.literal (.double x))
  | .string text => some (.literal (.string text))
  | .boolean b => some (.literal (.boolean b))
  | .nil => some (.literal .null)
  | .placeholder conversion => some (.placeholder conversion)
  | .self => some .self
  | .var name => some (.var name)
  | .atIdentifier name => some (.path ("@" ++ name))
  | _ => none

/-- The operator that a token is. -/
def operator? : Token → Option Operator
  | .equal => some .equal
  | .notEqual => some .notEqual
  | .less => some .less
  | .lessEqual => some .lessEqual
  | .greater => some .greater
  | .greaterEqual => some .greaterEqual
  | .isMatch => some .isMatch
  | .like => some .like
  | .beginsWith => some .beginsWith
  | .endsWith => some .endsWith
  | .member => some .member
  | .contains => some .contains
  | .between => some .between
  | _ => none

/-- The quantifier that a token is. -/
def quantifier? : Token → Option QuantifierWord
  | .any => some .any
  | .all => some .all
  | .none => some .none
  | _ => none

/-- The sign between summands that a token is. -/
def additiveSign? : Token → Option ArithmeticSign
  | .plus => some .plus
  | .minus => some .minus
  | _ => none

/-- The sign between factors that a token is. -/
def multiplicativeSign? : Token → Option ArithmeticSign
  | .star => some .times
  | .slash => some .divide
  | _ => none

/-- The place in a collection that a token names. -/
def indexSymbol? : Token → Option IndexSymbol
  | .identifier word => IndexSymbol.ofWord? word
  | _ => none

/-- Does the token go on with an expression that ended in a parenthesis? -/
def continuesExpression (token : Token) : Bool :=
  (operator? token).isSome || match token with
    | .plus | .minus | .star | .slash | .starStar | .dot | .openBracket | .assign => true
    | _ => false

/-- The options in brackets after an operator, if there are any. -/
def options (input : Input) (s : Cursor) : Outcome Options s.left :=
  if s.token = .openBracket then
    advance input s fun s _ =>
      match s.token with
      | .identifier letters =>
        match Options.ofFlags? letters with
        | some options =>
          advance input s fun s _ =>
            (expect input s .closeBracket).andThen fun _ s _ => done s options
        | none => wrong s "comparison options such as [c] or [cd]"
      | _ => wrong s "comparison options such as [c] or [cd]"
  else done s .none

/-! ## Phrases -/

mutual

/-- Predicates with `OR` between them. -/
def disjunction (input : Input) (s : Cursor) : Outcome Unit s.left :=
  (conjunction input s).andThen fun _ s₁ _ =>
    (disjuncts input 1 s₁).andThen fun count s₂ _ =>
      if count > 1 then emit input s₂ s.position (.or count) else done s₂ ()
termination_by 13 * s.left + 12

/-- Goes on after `count` predicates between which `OR` stands; gives how many they become. -/
def disjuncts (input : Input) (count : Nat) (s : Cursor) : Outcome Nat s.left :=
  if s.token = .or then
    advance input s fun s₁ _ =>
      (conjunction input s₁).andThen fun _ s₂ _ => disjuncts input (count + 1) s₂
  else done s count
termination_by 13 * s.left + 0

/-- Predicates with `AND` between them. -/
def conjunction (input : Input) (s : Cursor) : Outcome Unit s.left :=
  (negation input s).andThen fun _ s₁ _ =>
    (conjuncts input 1 s₁).andThen fun count s₂ _ =>
      if count > 1 then emit input s₂ s.position (.and count) else done s₂ ()
termination_by 13 * s.left + 11

/-- Goes on after `count` predicates between which `AND` stands; gives how many they become. -/
def conjuncts (input : Input) (count : Nat) (s : Cursor) : Outcome Nat s.left :=
  if s.token = .and then
    advance input s fun s₁ _ =>
      (negation input s₁).andThen fun _ s₂ _ => conjuncts input (count + 1) s₂
  else done s count
termination_by 13 * s.left + 0

/-- A predicate that may be denied. -/
def negation (input : Input) (s : Cursor) : Outcome Unit s.left :=
  if s.token = .not then
    advance input s fun s₁ _ =>
      (negation input s₁).andThen fun _ s₂ _ => emit input s₂ s.position .not
  else primaryPredicate input s
termination_by 13 * s.left + 10

/-- A constant, a quantified comparison, a predicate in parentheses, or a comparison. -/
def primaryPredicate (input : Input) (s : Cursor) : Outcome Unit s.left :=
  match s.token with
  | .predicateConstant value => leaf input s (.predicateConstant value)
  | .openParen => parenthesized input s
  | token =>
    match quantifier? token with
    | some word =>
      advance input s fun s₁ _ =>
        (comparison input s₁).andThen fun _ s₂ _ => emit input s₂ s.position (.quantified word)
    | none => comparison input s
termination_by 13 * s.left + 9

/-- A predicate in parentheses. If it turns out that the parentheses are none of its own, then a
comparison is read instead, and the operands that were built since are dropped. -/
def parenthesized (input : Input) (s : Cursor) : Outcome Unit s.left :=
  let attempt :=
    advance input s fun s₁ _ =>
      (disjunction input s₁).andThen fun _ s₂ _ => expect input s₂ .closeParen
  match attempt with
  | .read _ after le =>
    if continuesExpression after.token then
      (comparison input (s.back after.stack)).within (Nat.le_of_eq (s.left_back _))
    else .read () after le
  | .fault _ stack =>
    (comparison input (s.back stack)).within (Nat.le_of_eq (s.left_back _))
termination_by 13 * s.left + 8
decreasing_by
  · omega
  · rw [Cursor.left_back]; omega
  · rw [Cursor.left_back]; omega

/-- Two expressions with an operator between them, or an expression that stands for truth. -/
def comparison (input : Input) (s : Cursor) : Outcome Unit s.left :=
  (expression input s).andThen fun _ s₁ _ =>
    match operator? s₁.token with
    | none => emit input s₁ s.position .expressionPredicate
    | some operator =>
      advance input s₁ fun s₂ _ =>
        (options input s₂).andThen fun options s₃ _ =>
          (expression input s₃).andThen fun _ s₄ _ =>
            emit input s₄ s₁.position (.comparison operator options)
termination_by 13 * s.left + 7

/-- An expression whose value may be assigned to a variable. -/
def expression (input : Input) (s : Cursor) : Outcome Unit s.left :=
  (sum input s).andThen fun _ s₁ _ =>
    if s₁.token = .assign then
      advance input s₁ fun s₂ _ =>
        (expression input s₂).andThen fun _ s₃ _ => emit input s₃ s₁.position .assignment
    else done s₁ ()
termination_by 13 * s.left + 6

/-- Products with plus or minus between them. -/
def sum (input : Input) (s : Cursor) : Outcome Unit s.left :=
  (product input s).andThen fun _ s₁ _ => summands input s₁
termination_by 13 * s.left + 5

/-- Goes on after a sum. -/
def summands (input : Input) (s : Cursor) : Outcome Unit s.left :=
  match additiveSign? s.token with
  | none => done s ()
  | some sign =>
    advance input s fun s₁ _ =>
      (product input s₁).andThen fun _ s₂ _ =>
        (emit input s₂ s.position (.arithmetic sign)).andThen fun _ s₃ _ => summands input s₃
termination_by 13 * s.left + 0

/-- Powers with a sign of multiplication or division between them. -/
def product (input : Input) (s : Cursor) : Outcome Unit s.left :=
  (power input s).andThen fun _ s₁ _ => factors input s₁
termination_by 13 * s.left + 4

/-- Goes on after a product. -/
def factors (input : Input) (s : Cursor) : Outcome Unit s.left :=
  match multiplicativeSign? s.token with
  | none => done s ()
  | some sign =>
    advance input s fun s₁ _ =>
      (power input s₁).andThen fun _ s₂ _ =>
        (emit input s₂ s.position (.arithmetic sign)).andThen fun _ s₃ _ => factors input s₃
termination_by 13 * s.left + 0

/-- An operand that may be raised to a power. -/
def power (input : Input) (s : Cursor) : Outcome Unit s.left :=
  (signed input s).andThen fun _ s₁ _ =>
    if s₁.token = .starStar then
      advance input s₁ fun s₂ _ =>
        (power input s₂).andThen fun _ s₃ _ => emit input s₃ s₁.position (.arithmetic .power)
    else done s₁ ()
termination_by 13 * s.left + 3

/-- An operand with any number of minus signs. -/
def signed (input : Input) (s : Cursor) : Outcome Unit s.left :=
  if s.token = .minus then
    advance input s fun s₁ _ =>
      (signed input s₁).andThen fun _ s₂ _ => emit input s₂ s.position .negate
  else navigation input s
termination_by 13 * s.left + 2

/-- A primary expression with segments and indexes after it. -/
def navigation (input : Input) (s : Cursor) : Outcome Unit s.left :=
  (primary input s).andThen fun _ s₁ _ => steps input s₁
termination_by 13 * s.left + 1

/-- Goes on after a navigation. -/
def steps (input : Input) (s : Cursor) : Outcome Unit s.left :=
  match s.token with
  | .dot =>
    advance input s fun s₁ _ =>
      (segment input s₁).andThen fun _ s₂ _ =>
        (emit input s₂ s.position .dot).andThen fun _ s₃ _ => steps input s₃
  | .openBracket =>
    advance input s fun s₁ _ =>
      (place input s₁).andThen fun _ s₂ _ =>
        (expect input s₂ .closeBracket).andThen fun _ s₃ _ =>
          (emit input s₃ s.position .index).andThen fun _ s₄ _ => steps input s₄
  | _ => done s ()
termination_by 13 * s.left + 0

/-- What stands after a point: a segment of a key path. Anything else is read as a primary
expression, for the production to refuse it. -/
def segment (input : Input) (s : Cursor) : Outcome Unit s.left :=
  match s.token with
  | .identifier name => leaf input s (.path name)
  | .self => leaf input s (.path "SELF")
  | _ => primary input s
termination_by 13 * s.left + 1

/-- What stands in brackets: a place named by a word, or an expression. -/
def place (input : Input) (s : Cursor) : Outcome Unit s.left :=
  match indexSymbol? s.token with
  | some symbol => leaf input s (.symbol symbol)
  | none => expression input s
termination_by 13 * s.left + 7

/-- Goes on after `count` expressions with commas between them, up to a closing token; gives how many
they become. A comma may stand after the last one. -/
def arguments (input : Input) (close : Token) (count : Nat) (s : Cursor) : Outcome Nat s.left :=
  if s.token = close then advance input s fun s₁ _ => done s₁ count
  else
    (expression input s).andThen fun _ s₁ _ =>
      if s₁.token = close then advance input s₁ fun s₂ _ => done s₂ (count + 1)
      else if s₁.token = .comma then
        advance input s₁ fun s₂ _ => arguments input close (count + 1) s₂
      else wrong s₁ Token.comma.name
termination_by 13 * s.left + 7

/-- An expression without an operator outside of parentheses. -/
def primary (input : Input) (s : Cursor) : Outcome Unit s.left :=
  match production? s.token with
  | some production => leaf input s production
  | none =>
    match s.token with
    | .identifier name =>
      advance input s fun s₁ _ =>
        if s₁.token = .openParen then
          advance input s₁ fun s₂ _ =>
            (arguments input .closeParen 0 s₂).andThen fun arity s₃ _ =>
              emit input s₃ s.position (.call name arity)
        else emit input s₁ s.position (.path name)
    | .openParen =>
      advance input s fun s₁ _ =>
        (expression input s₁).andThen fun _ s₂ _ => expect input s₂ .closeParen
    | .openBrace =>
      advance input s fun s₁ _ =>
        (arguments input .closeBrace 0 s₁).andThen fun count s₂ _ =>
          emit input s₂ s.position (.list count)
    | .subquery =>
      advance input s fun s₁ _ =>
        (expect input s₁ .openParen).andThen fun _ s₂ _ =>
          (expression input s₂).andThen fun _ s₃ _ =>
            (expect input s₃ .comma).andThen fun _ s₄ _ =>
              match s₄.token with
              | .var name =>
                advance input s₄ fun s₅ _ =>
                  (expect input s₅ .comma).andThen fun _ s₆ _ =>
                    (disjunction input s₆).andThen fun _ s₇ _ =>
                      (expect input s₇ .closeParen).andThen fun _ s₈ _ =>
                        emit input s₈ s.position (.subquery name)
              | _ => wrong s₄ "a $variable in SUBQUERY"
    | .function =>
      advance input s fun s₁ _ =>
        (expect input s₁ .openParen).andThen fun _ s₂ _ =>
          (arguments input .closeParen 0 s₂).andThen fun arity s₃ _ =>
            emit input s₃ s.position (.functionForm arity)
    | _ => wrong s "an expression"
termination_by 13 * s.left + 0

end

/-! ## Whole texts -/

/-- Reads all tokens up to the end of the text as one phrase. -/
def ofLexing {α : Type} (phrase : Input → (s : Cursor) → Outcome Unit s.left)
    (finish : Building α) (arguments : Arguments) (lexing : Lexing) : Except SyntaxError α :=
  let input : Input := ⟨arguments, lexing.fault⟩
  match lexing.lexemes with
  | [] => .error input.ending
  | first :: following =>
    match phrase input ⟨first, following, []⟩ with
    | .fault error _ => .error error
    | .read _ after _ =>
      if after.token = .eof then
        match finish.run after.stack with
        | .ok tree _ => .ok tree
        | .error error _ => .error error
      else .error (after.unexpected Token.eof.name)

/-- Reads the whole text as one phrase. -/
def whole {α : Type} (phrase : Input → (s : Cursor) → Outcome Unit s.left) (finish : Building α)
    (text : String) (values : List Value) : Except SyntaxError α :=
  match Arguments.ofText text values with
  | .error error => .error error
  | .ok arguments => ofLexing phrase finish arguments (lex text)

end Parser

/-- The expression that a text is, with values for its placeholders in order. -/
def Expr.parse (text : String) (values : List Value) : Except SyntaxError Expr :=
  Parser.whole Parser.expression Building.finishExpr text values

/-- The predicate that a text is, with values for its placeholders in order. -/
def Predicate.parse (text : String) (values : List Value) : Except SyntaxError Predicate :=
  Parser.whole Parser.disjunction Building.finishPredicate text values

end PredicateLang
