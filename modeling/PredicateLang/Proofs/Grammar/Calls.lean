import PredicateLang.Expr.Parser

/-!
# The calls of the parser

The outcome of a phrase does not show which functions of the parser have called which others, and
where. `Observed` is an outcome with the calls that were made for it, each with the calls that were
made inside it, and with the rounds of the loops. The functions of the parser are written here a
second time with observation; the loops, which go on after a first part, are part of the function
that runs them and no calls of their own.

`Observed.Shows` says that what is observed is a given outcome, and what holds of the activities and
of the place where a phrase ends. There is a rule for each way that the parser goes on.
-/

namespace PredicateLang.Parser

/-! ## Activities -/

/-- The functions of the parser that call one another, each at a tighter level of the grammar than
those before it. -/
inductive Routine where
  | disjunction | conjunction | negation | primaryPredicate
  /-- The attempt to read a predicate in parentheses. -/
  | parenthesized
  | comparison | options | place | arguments | expression
  | sum | product | power | signed | navigation | segment | primary
deriving DecidableEq, Repr

/-- The level of the grammar that a function reads. -/
def Routine.level : Routine → Nat
  | disjunction => 0
  | conjunction => 1
  | negation => 2
  | primaryPredicate => 3
  | parenthesized => 4
  | comparison => 5
  | options => 6
  | place => 7
  | arguments => 8
  | expression => 9
  | sum => 10
  | product => 11
  | power => 12
  | signed => 13
  | navigation => 14
  | segment => 15
  | primary => 16

/-- How many levels there are. -/
def Routine.levels : Nat := 17

theorem Routine.level_lt (routine : Routine) : routine.level < levels := by
  cases routine <;> decide

/-- What the parser does on the way to an outcome. -/
inductive Activity where
  /-- A function is called at a place, with all that is done until it returns. -/
  | call (routine : Routine) (place : Cursor) (inside : List Activity)
  /-- A loop goes round once, from one place to another. -/
  | round (before after : Cursor)

mutual

/-- How deep calls are nested in an activity. -/
def Activity.depth : Activity → Nat
  | .call _ _ inside => Activity.depthAll inside + 1
  | .round _ _ => 0

/-- How deep calls are nested in activities. -/
def Activity.depthAll : List Activity → Nat
  | [] => 0
  | a :: rest => max a.depth (Activity.depthAll rest)

end

theorem Activity.depthAll_le {bound : Nat} {activities : List Activity}
    (h : ∀ a ∈ activities, a.depth ≤ bound) : Activity.depthAll activities ≤ bound := by
  induction activities with
  | nil => exact Nat.zero_le bound
  | cons a rest ih =>
    rw [List.forall_mem_cons] at h
    exact Nat.max_le.mpr ⟨h.1, ih h.2⟩

/-! ## Observation -/

/-- An outcome, and what was done on the way to it, in order. -/
structure Observed (α : Type) (n : Nat) where
  outcome : Outcome α n
  activities : List Activity

namespace Observed

variable {α β : Type} {m n : Nat}

/-- An outcome without any calls. -/
def silent (outcome : Outcome α n) : Observed α n := ⟨outcome, []⟩

/-- The same observation for an earlier beginning. -/
def within (le : m ≤ n) (observed : Observed α m) : Observed α n :=
  ⟨observed.outcome.within le, observed.activities⟩

/-- The same outcome after some activities. -/
def behind (activities : List Activity) (observed : Observed α n) : Observed α n :=
  ⟨observed.outcome, activities ++ observed.activities⟩

/-- What is observed is the call of a function. -/
def called (routine : Routine) (place : Cursor) (observed : Observed α n) : Observed α n :=
  ⟨observed.outcome, [.call routine place observed.activities]⟩

/-- Goes on where the phrase ends. -/
def andThen (observed : Observed α n)
    (next : α → (s : Cursor) → s.left ≤ n → Observed β s.left) : Observed β n :=
  match observed.outcome with
  | .fault error stack => ⟨.fault error stack, observed.activities⟩
  | .read result after le => ((next result after le).within le).behind observed.activities

/-- Takes the token and goes on after it. -/
def advance (input : Input) : (s : Cursor) →
    ((s' : Cursor) → s'.left < s.left → Observed α s'.left) → Observed α s.left
  | ⟨_, [], stack⟩, _ => silent (.fault input.ending stack)
  | ⟨current, lexeme :: following, stack⟩, next =>
    have shorter : Cursor.left ⟨lexeme, following, stack⟩
        < Cursor.left ⟨current, lexeme :: following, stack⟩ := Nat.lt_succ_self _
    (next ⟨lexeme, following, stack⟩ shorter).within (Nat.le_of_lt shorter)

/-! ## Phrases -/

mutual

/-- Predicates with `OR` between them. -/
def disjunction (input : Input) (s : Cursor) : Observed Unit s.left :=
  called .disjunction s <|
    (conjunction input s).andThen fun _ s₁ _ =>
      (disjuncts input 1 s₁).andThen fun count s₂ _ => silent <|
        if count > 1 then emit input s₂ s.position (.or count) else done s₂ ()
termination_by 13 * s.left + 12

/-- Goes on after `count` predicates between which `OR` stands. -/
def disjuncts (input : Input) (count : Nat) (s : Cursor) : Observed Nat s.left :=
  if s.token = .or then
    advance input s fun s₁ _ =>
      (conjunction input s₁).andThen fun _ s₂ _ =>
        (disjuncts input (count + 1) s₂).behind [.round s s₂]
  else silent (done s count)
termination_by 13 * s.left + 0

/-- Predicates with `AND` between them. -/
def conjunction (input : Input) (s : Cursor) : Observed Unit s.left :=
  called .conjunction s <|
    (negation input s).andThen fun _ s₁ _ =>
      (conjuncts input 1 s₁).andThen fun count s₂ _ => silent <|
        if count > 1 then emit input s₂ s.position (.and count) else done s₂ ()
termination_by 13 * s.left + 11

/-- Goes on after `count` predicates between which `AND` stands. -/
def conjuncts (input : Input) (count : Nat) (s : Cursor) : Observed Nat s.left :=
  if s.token = .and then
    advance input s fun s₁ _ =>
      (negation input s₁).andThen fun _ s₂ _ =>
        (conjuncts input (count + 1) s₂).behind [.round s s₂]
  else silent (done s count)
termination_by 13 * s.left + 0

/-- A predicate that may be denied. -/
def negation (input : Input) (s : Cursor) : Observed Unit s.left :=
  called .negation s <|
    if s.token = .not then
      advance input s fun s₁ _ =>
        (negation input s₁).andThen fun _ s₂ _ => silent (emit input s₂ s.position .not)
    else primaryPredicate input s
termination_by 13 * s.left + 10

/-- A constant, a quantified comparison, a predicate in parentheses, or a comparison. -/
def primaryPredicate (input : Input) (s : Cursor) : Observed Unit s.left :=
  called .primaryPredicate s <|
    match s.token with
    | .predicateConstant value => silent (leaf input s (.predicateConstant value))
    | .openParen => parenthesized input s
    | token =>
      match quantifier? token with
      | some word =>
        advance input s fun s₁ _ =>
          (comparison input s₁).andThen fun _ s₂ _ =>
            silent (emit input s₂ s.position (.quantified word))
      | none => comparison input s
termination_by 13 * s.left + 9

/-- A predicate in parentheses. The attempt is a call of its own; the comparison that is read instead
is not made inside it. -/
def parenthesized (input : Input) (s : Cursor) : Observed Unit s.left :=
  let attempt := called .parenthesized s <|
    advance input s fun s₁ _ =>
      (disjunction input s₁).andThen fun _ s₂ _ => silent (expect input s₂ .closeParen)
  match attempt.outcome with
  | .read _ after le =>
    if continuesExpression after.token then
      ((comparison input (s.back after.stack)).within (Nat.le_of_eq (s.left_back _))).behind
        attempt.activities
    else ⟨.read () after le, attempt.activities⟩
  | .fault _ stack =>
    ((comparison input (s.back stack)).within (Nat.le_of_eq (s.left_back _))).behind
      attempt.activities
termination_by 13 * s.left + 8
decreasing_by
  · omega
  · rw [Cursor.left_back]; omega
  · rw [Cursor.left_back]; omega

/-- Two expressions with an operator between them, or an expression that stands for truth. -/
def comparison (input : Input) (s : Cursor) : Observed Unit s.left :=
  called .comparison s <|
    (expression input s).andThen fun _ s₁ _ =>
      match operator? s₁.token with
      | none => silent (emit input s₁ s.position .expressionPredicate)
      | some operator =>
        advance input s₁ fun s₂ _ =>
          (called .options s₂ (silent (options input s₂))).andThen fun options s₃ _ =>
            (expression input s₃).andThen fun _ s₄ _ =>
              silent (emit input s₄ s₁.position (.comparison operator options))
termination_by 13 * s.left + 7

/-- An expression whose value may be assigned to a variable. -/
def expression (input : Input) (s : Cursor) : Observed Unit s.left :=
  called .expression s <|
    (sum input s).andThen fun _ s₁ _ =>
      if s₁.token = .assign then
        advance input s₁ fun s₂ _ =>
          (expression input s₂).andThen fun _ s₃ _ => silent (emit input s₃ s₁.position .assignment)
      else silent (done s₁ ())
termination_by 13 * s.left + 6

/-- Products with plus or minus between them. -/
def sum (input : Input) (s : Cursor) : Observed Unit s.left :=
  called .sum s <| (product input s).andThen fun _ s₁ _ => summands input s₁
termination_by 13 * s.left + 5

/-- Goes on after a sum. -/
def summands (input : Input) (s : Cursor) : Observed Unit s.left :=
  match additiveSign? s.token with
  | none => silent (done s ())
  | some sign =>
    advance input s fun s₁ _ =>
      (product input s₁).andThen fun _ s₂ _ =>
        (silent (emit input s₂ s.position (.arithmetic sign))).andThen fun _ s₃ _ =>
          (summands input s₃).behind [.round s s₃]
termination_by 13 * s.left + 0

/-- Powers with a sign of multiplication or division between them. -/
def product (input : Input) (s : Cursor) : Observed Unit s.left :=
  called .product s <| (power input s).andThen fun _ s₁ _ => factors input s₁
termination_by 13 * s.left + 4

/-- Goes on after a product. -/
def factors (input : Input) (s : Cursor) : Observed Unit s.left :=
  match multiplicativeSign? s.token with
  | none => silent (done s ())
  | some sign =>
    advance input s fun s₁ _ =>
      (power input s₁).andThen fun _ s₂ _ =>
        (silent (emit input s₂ s.position (.arithmetic sign))).andThen fun _ s₃ _ =>
          (factors input s₃).behind [.round s s₃]
termination_by 13 * s.left + 0

/-- An operand that may be raised to a power. -/
def power (input : Input) (s : Cursor) : Observed Unit s.left :=
  called .power s <|
    (signed input s).andThen fun _ s₁ _ =>
      if s₁.token = .starStar then
        advance input s₁ fun s₂ _ =>
          (power input s₂).andThen fun _ s₃ _ =>
            silent (emit input s₃ s₁.position (.arithmetic .power))
      else silent (done s₁ ())
termination_by 13 * s.left + 3

/-- An operand with any number of minus signs. -/
def signed (input : Input) (s : Cursor) : Observed Unit s.left :=
  called .signed s <|
    if s.token = .minus then
      advance input s fun s₁ _ =>
        (signed input s₁).andThen fun _ s₂ _ => silent (emit input s₂ s.position .negate)
    else navigation input s
termination_by 13 * s.left + 2

/-- A primary expression with segments and indexes after it. -/
def navigation (input : Input) (s : Cursor) : Observed Unit s.left :=
  called .navigation s <| (primary input s).andThen fun _ s₁ _ => steps input s₁
termination_by 13 * s.left + 1

/-- Goes on after a navigation. -/
def steps (input : Input) (s : Cursor) : Observed Unit s.left :=
  match s.token with
  | .dot =>
    advance input s fun s₁ _ =>
      (segment input s₁).andThen fun _ s₂ _ =>
        (silent (emit input s₂ s.position .dot)).andThen fun _ s₃ _ =>
          (steps input s₃).behind [.round s s₃]
  | .openBracket =>
    advance input s fun s₁ _ =>
      (place input s₁).andThen fun _ s₂ _ =>
        (silent (expect input s₂ .closeBracket)).andThen fun _ s₃ _ =>
          (silent (emit input s₃ s.position .index)).andThen fun _ s₄ _ =>
            (steps input s₄).behind [.round s s₄]
  | _ => silent (done s ())
termination_by 13 * s.left + 0

/-- What stands after a point. -/
def segment (input : Input) (s : Cursor) : Observed Unit s.left :=
  called .segment s <|
    match s.token with
    | .identifier name => silent (leaf input s (.path name))
    | .self => silent (leaf input s (.path "SELF"))
    | _ => primary input s
termination_by 13 * s.left + 1

/-- What stands in brackets. -/
def place (input : Input) (s : Cursor) : Observed Unit s.left :=
  called .place s <|
    match indexSymbol? s.token with
    | some symbol => silent (leaf input s (.symbol symbol))
    | none => expression input s
termination_by 13 * s.left + 7

/-- Goes on after `count` expressions with commas between them, up to a closing token. -/
def arguments (input : Input) (close : Token) (count : Nat) (s : Cursor) : Observed Nat s.left :=
  if s.token = close then advance input s fun s₁ _ => silent (done s₁ count)
  else
    (expression input s).andThen fun _ s₁ _ =>
      if s₁.token = close then
        (advance input s₁ fun s₂ _ => silent (done s₂ (count + 1))).behind [.round s s₁]
      else if s₁.token = .comma then
        advance input s₁ fun s₂ _ =>
          (arguments input close (count + 1) s₂).behind [.round s s₂]
      else silent (wrong s₁ Token.comma.name)
termination_by 13 * s.left + 7

/-- An expression without an operator outside of parentheses. -/
def primary (input : Input) (s : Cursor) : Observed Unit s.left :=
  called .primary s <|
    match production? s.token with
    | some production => silent (leaf input s production)
    | none =>
      match s.token with
      | .identifier name =>
        advance input s fun s₁ _ =>
          if s₁.token = .openParen then
            advance input s₁ fun s₂ _ =>
              (called .arguments s₂ (arguments input .closeParen 0 s₂)).andThen fun arity s₃ _ =>
                silent (emit input s₃ s.position (.call name arity))
          else silent (emit input s₁ s.position (.path name))
      | .openParen =>
        advance input s fun s₁ _ =>
          (expression input s₁).andThen fun _ s₂ _ => silent (expect input s₂ .closeParen)
      | .openBrace =>
        advance input s fun s₁ _ =>
          (called .arguments s₁ (arguments input .closeBrace 0 s₁)).andThen fun count s₂ _ =>
            silent (emit input s₂ s.position (.list count))
      | .subquery =>
        advance input s fun s₁ _ =>
          (silent (expect input s₁ .openParen)).andThen fun _ s₂ _ =>
            (expression input s₂).andThen fun _ s₃ _ =>
              (silent (expect input s₃ .comma)).andThen fun _ s₄ _ =>
                match s₄.token with
                | .var name =>
                  advance input s₄ fun s₅ _ =>
                    (silent (expect input s₅ .comma)).andThen fun _ s₆ _ =>
                      (disjunction input s₆).andThen fun _ s₇ _ =>
                        (silent (expect input s₇ .closeParen)).andThen fun _ s₈ _ =>
                          silent (emit input s₈ s.position (.subquery name))
                | _ => silent (wrong s₄ "a $variable in SUBQUERY")
      | .function =>
        advance input s fun s₁ _ =>
          (silent (expect input s₁ .openParen)).andThen fun _ s₂ _ =>
            (called .arguments s₂ (arguments input .closeParen 0 s₂)).andThen fun arity s₃ _ =>
              silent (emit input s₃ s.position (.functionForm arity))
      | _ => silent (wrong s "an expression")
termination_by 13 * s.left + 0

end

end Observed

/-- What the parser does when it reads a whole text as one phrase. -/
def activities (phrase : Input → (s : Cursor) → Observed Unit s.left) (text : String)
    (values : List Value) : List Activity :=
  match Arguments.ofText text values, (lex text).lexemes with
  | .ok arguments, first :: following =>
    (phrase ⟨arguments, (lex text).fault⟩ ⟨first, following, []⟩).activities
  | _, _ => []

end PredicateLang.Parser
