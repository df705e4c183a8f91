import Mathlib.Data.List.Forall2
import PredicateLang.Proofs.Grammar.Sound

/-!
# Two runs of the parser

Two runs whose words correspond one to one go the same ways, whatever the positions of the words
and whatever lies deep on the stack: they look at the same tokens, they apply the same productions
to the same operands, and they go back from the same parentheses (`Correspondence.Keeps`). A phrase
that they read leaves operands of known sorts on top of what was on the stack before, and a phrase
that fails leaves what was there.

The second half says something of a single run as well, which is two runs that are the same.
-/

open PredicateLang.Parser

namespace PredicateLang

/-! ## Errors that correspond -/

/-- Faults that a text may have. The others would be faults of the parser: that it applies a
production without its operands, or that it has not counted the placeholders. -/
def SyntaxFault.isOfText : SyntaxFault → Bool
  | missingOperand | missingPredicate | expressionWanted | predicateWanted _ | leftOver _
  | uncountedPlaceholder | missingArgument => false
  | _ => true

/-- Two results are the same, or there are two errors that correspond. -/
inductive SameUpTo {ε α : Type} (errors : ε → ε → Prop) : Except ε α → Except ε α → Prop where
  | ok (result : α) : SameUpTo errors (.ok result) (.ok result)
  | error {e e' : ε} (corresponds : errors e e') : SameUpTo errors (.error e) (.error e')

namespace SameUpTo

variable {ε α β : Type} {errors : ε → ε → Prop} {made made' : Except ε α}

theorem map (f : α → β) (h : SameUpTo errors made made') :
    SameUpTo errors (made.map f) (made'.map f) := by
  cases h with
  | ok result => exact .ok (f result)
  | error corresponds => exact .error corresponds

end SameUpTo

/-- How the words and the errors of two runs correspond: to a fault of the text at a word
corresponds the same fault at the other word, and placeholders find the same. -/
structure Correspondence (input input' : Input) where
  words : Lexeme → Lexeme → Prop
  errors : SyntaxError → SyntaxError → Prop
  token_eq : ∀ {word word'}, words word word' → word'.token = word.token
  fault : ∀ {word word'}, words word word' → ∀ fault : SyntaxFault, fault.isOfText →
    errors ⟨word.start, fault⟩ ⟨word'.start, fault⟩
  ending : errors input.ending input'.ending
  placeholder : ∀ {word word'}, words word word' → ∀ conversion,
    word.token = .placeholder conversion →
      SameUpTo errors (input.arguments.placeholder word.start conversion)
        (input'.arguments.placeholder word'.start conversion)

/-! ## Productions -/

theorem Parser.token_of_production {token : Token} {production : Production} {conversion : Char}
    (h : production? token = some production) (eq : production = .placeholder conversion) :
    token = .placeholder conversion := by
  subst eq
  cases token <;> simp_all [production?.eq_def]

namespace Production

variable {production : Production} {operands : List Operand}

/-- What the form `FUNCTION` makes does not depend on its position, and its fault neither. -/
theorem functionForm_anywhere (args : List Expr) :
    (∃ e, ∀ position, Expr.functionForm position args = .ok e)
    ∨ ∃ fault : SyntaxFault, fault.isOfText ∧ ∀ position,
      Expr.functionForm position args = .error ⟨position, fault⟩ := by
  cases args with
  | nil => exact .inr ⟨.missingSelector, rfl, fun _ => rfl⟩
  | cons first rest =>
    -- the selector is the first argument, or the second, or neither
    cases one : Expr.selector? rest.isEmpty first with
    | some selector =>
      exact .inl ⟨.call selector rest, fun _ => by simp only [Expr.functionForm, one]⟩
    | none =>
      cases rest with
      | nil => exact .inr ⟨.selectorWanted, rfl, fun _ => by simp only [Expr.functionForm, one]⟩
      | cons second others =>
        cases two : Expr.selector? true second with
        | some selector =>
          exact .inl ⟨.call selector (first :: others), fun _ => by
            simp only [Expr.functionForm, one, two]⟩
        | none =>
          exact .inr ⟨.selectorWanted, rfl, fun _ => by simp only [Expr.functionForm, one, two]⟩

/-- What a production makes that is no placeholder does not depend on the arguments, and a fault of
its own not on the position; it is never that operands are lacking or of the wrong sort. -/
theorem make_of_plain (sorts : operands.map Operand.sort = production.takes)
    (plain : ∀ conversion, production ≠ .placeholder conversion) :
    (∃ operand, ∀ arguments position, production.make arguments position operands = .ok operand)
    ∨ ∃ fault : SyntaxFault, fault.isOfText ∧ ∀ arguments position,
      production.make arguments position operands = .error ⟨position, fault⟩ := by
  cases production with
  | placeholder conversion => exact absurd rfl (plain conversion)
  | literal | self | var | path | symbol | predicateConstant | list | call | and | or =>
    exact .inl ⟨_, fun _ _ => rfl⟩
  | index | arithmetic | comparison =>
    obtain ⟨left, right, rfl⟩ := Operand.eq_two_exprs sorts
    exact .inl ⟨_, fun _ _ => rfl⟩
  | dot =>
    obtain ⟨left, right, rfl⟩ := Operand.eq_two_exprs sorts
    cases right with
    | path segment => cases left <;> exact .inl ⟨_, fun _ _ => rfl⟩
    | _ => exact .inr ⟨_, rfl, fun _ _ => rfl⟩
  | functionForm arity =>
    obtain ⟨e, made⟩ | ⟨fault, known, made⟩ := functionForm_anywhere (Operand.exprs operands)
    · exact .inl ⟨.expr e, fun _ position => by rw [make, made]; rfl⟩
    · exact .inr ⟨fault, known, fun _ position => by rw [make, made]; rfl⟩
  | subquery name =>
    obtain ⟨e, p, rfl⟩ := Operand.eq_expr_predicate sorts
    exact .inl ⟨_, fun _ _ => rfl⟩
  | negate =>
    obtain ⟨e, rfl⟩ := Operand.eq_one_expr sorts
    exact .inl ⟨_, fun _ _ => rfl⟩
  | assignment =>
    obtain ⟨target, value, rfl⟩ := Operand.eq_two_exprs sorts
    cases target with
    | var name => exact .inl ⟨_, fun _ _ => rfl⟩
    | _ => exact .inr ⟨_, rfl, fun _ _ => rfl⟩
  | quantified word =>
    obtain ⟨p, rfl⟩ := Operand.eq_one_predicate sorts
    simp only [make, Predicate.quantify]
    split
    · cases word <;> exact .inl ⟨_, fun _ _ => rfl⟩
    · exact .inr ⟨.singleComparisonWanted, rfl, fun _ _ => rfl⟩
  | expressionPredicate =>
    obtain ⟨e, rfl⟩ := Operand.eq_one_expr sorts
    cases e with
    | constant value =>
      cases value with
      | boolean value => exact .inl ⟨_, fun _ _ => rfl⟩
      | _ => exact .inr ⟨_, rfl, fun _ _ => rfl⟩
    | _ => exact .inr ⟨_, rfl, fun _ _ => rfl⟩
  | not =>
    obtain ⟨p, rfl⟩ := Operand.eq_one_predicate sorts
    exact .inl ⟨_, fun _ _ => rfl⟩

end Production

/-! ## Places that correspond -/

/-- On the stack `below` lie operands of these sorts, the topmost first. -/
def Stack.Over (stack below : Stack) (sorts : List OperandSort) : Prop :=
  ∃ operands : List Operand, operands.map Operand.sort = sorts ∧ stack = operands ++ below

namespace Stack.Over

variable {stack middle below : Stack} {sorts more : List OperandSort}

theorem refl (stack : Stack) : stack.Over stack [] := ⟨[], rfl, rfl⟩

theorem suffix (h : stack.Over below sorts) : below <:+ stack := by
  obtain ⟨operands, _, rfl⟩ := h
  exact List.suffix_append operands below

theorem trans (h : stack.Over middle more) (h' : middle.Over below sorts) :
    stack.Over below (more ++ sorts) := by
  obtain ⟨operands, rfl, rfl⟩ := h
  obtain ⟨others, rfl, rfl⟩ := h'
  exact ⟨operands ++ others, by simp, by simp⟩

/-- The operands that lie on top. -/
theorem split (h : stack.Over below (more ++ sorts)) :
    ∃ operands : List Operand, ∃ middle, operands.map Operand.sort = more ∧
      stack = operands ++ middle ∧ Stack.Over middle below sorts := by
  obtain ⟨operands, known, rfl⟩ := h
  obtain ⟨top, others, rfl, h, h'⟩ := List.map_eq_append_iff.mp known
  exact ⟨top, others ++ below, h, by simp, others, h', rfl⟩

theorem push {operand : Operand} (h : stack.Over below sorts) :
    Stack.Over (operand :: stack) below (operand.sort :: sorts) := by
  obtain ⟨operands, rfl, rfl⟩ := h
  exact ⟨operand :: operands, rfl, rfl⟩

end Stack.Over

namespace Correspondence

variable {input input' : Input} {c : Correspondence input input'} {α β : Type} {m n k l : Nat}
  {below : Stack} {sorts more : List OperandSort}

/-- From two places on the words correspond, and the stack is the same, with operands of known
sorts on what was there before. -/
structure At (c : Correspondence input input') (below : Stack) (sorts : List OperandSort)
    (s s' : Cursor) : Prop where
  words : List.Forall₂ c.words s.lexemes s'.lexemes
  stack_eq : s'.stack = s.stack
  above : s.stack.Over below sorts

/-- Two outcomes correspond: both phrases fail with errors that do and leave what was on the stack
before, or both are read with the same result, and have left operands of the sorts that belong to
it. -/
inductive Keeps (c : Correspondence input input') (below : Stack) :
    Outcome α m → Outcome α n → (α → List OperandSort) → Prop where
  | fault {e e' : SyntaxError} {stack : Stack} {types : α → List OperandSort}
      (corresponds : c.errors e e') (kept : below <:+ stack) :
      Keeps c below (.fault e stack) (.fault e' stack) types
  | read {result : α} {s s' : Cursor} {le : s.left ≤ m} {le' : s'.left ≤ n}
      {types : α → List OperandSort} (reached : c.At below (types result) s s') :
      Keeps c below (.read result s le) (.read result s' le') types

variable {s s' : Cursor}

namespace At

theorem current (h : c.At below sorts s s') : c.words s.current s'.current :=
  (List.forall₂_cons.mp h.words).1

theorem token_eq (h : c.At below sorts s s') : s'.token = s.token := c.token_eq h.current

/-- The same two places, with nothing known of the stack. -/
theorem fresh (h : c.At below sorts s s') : c.At s.stack [] s s' :=
  ⟨h.words, h.stack_eq, .refl s.stack⟩

theorem trans {s₁ s₁' : Cursor} (h : c.At s.stack more s₁ s₁') (since : c.At below sorts s s') :
    c.At below (more ++ sorts) s₁ s₁' :=
  ⟨h.words, h.stack_eq, h.above.trans since.above⟩

end At

/-! ## Steps -/

theorem Keeps.within (le : m ≤ k) (le' : n ≤ l) {types : α → List OperandSort}
    {outcome : Outcome α m} {outcome' : Outcome α n} (h : c.Keeps below outcome outcome' types) :
    c.Keeps below (outcome.within le) (outcome'.within le') types := by
  cases h with
  | fault corresponds kept => exact .fault corresponds kept
  | read reached => exact .read reached

theorem Keeps.andThen {types : α → List OperandSort} {types' : β → List OperandSort}
    {outcome : Outcome α m} {outcome' : Outcome α n}
    {next : α → (s : Cursor) → s.left ≤ m → Outcome β s.left}
    {next' : α → (s : Cursor) → s.left ≤ n → Outcome β s.left}
    (h : c.Keeps below outcome outcome' types)
    (h' : ∀ result s s' le le', c.At below (types result) s s' →
      c.Keeps below (next result s le) (next' result s' le') types') :
    c.Keeps below (outcome.andThen next) (outcome'.andThen next') types' := by
  cases h with
  | fault corresponds kept => exact .fault corresponds kept
  | @read _ _ _ le le' _ reached => exact (h' _ _ _ le le' reached).within le le'

variable {types : α → List OperandSort}

theorem keeps_done {result : α} (h : c.At below (types result) s s') :
    c.Keeps below (done s result) (done s' result) types := .read h

theorem keeps_wrong (wanted : String) (h : c.At below sorts s s') :
    c.Keeps below (wrong s wanted) (wrong s' wanted) types := by
  have same : s'.unexpected wanted = ⟨s'.current.start, .unexpected wanted s.token⟩ := by
    rw [Cursor.unexpected, h.token_eq]
    rfl
  rw [wrong, wrong, same, h.stack_eq]
  exact .fault (c.fault h.current _ rfl) h.above.suffix

theorem keeps_advance {next : (s₁ : Cursor) → s₁.left < s.left → Outcome α s₁.left}
    {next' : (s₁ : Cursor) → s₁.left < s'.left → Outcome α s₁.left} (h : c.At below sorts s s')
    (h' : ∀ s₁ s₁' lt lt', c.At below sorts s₁ s₁' →
      c.Keeps below (next s₁ lt) (next' s₁' lt') types) :
    c.Keeps below (advance input s next) (advance input' s' next') types := by
  obtain ⟨current, following, stack⟩ := s
  obtain ⟨current', following', stack'⟩ := s'
  obtain rfl : stack' = stack := h.stack_eq
  have words : List.Forall₂ c.words following following' := (List.forall₂_cons.mp h.words).2
  cases words with
  | nil => exact .fault c.ending h.above.suffix
  | @cons first first' rest rest' word words =>
    have h₁ : c.At below sorts ⟨first, rest, stack'⟩ ⟨first', rest', stack'⟩ :=
      ⟨.cons word words, rfl, h.above⟩
    have shorter : Cursor.left ⟨first, rest, stack'⟩ < (first :: rest).length := by
      simp [Cursor.left]
    have shorter' : Cursor.left ⟨first', rest', stack'⟩ < (first' :: rest').length := by
      simp [Cursor.left]
    exact (h' _ _ shorter shorter' h₁).within (Nat.le_of_lt shorter) (Nat.le_of_lt shorter')

theorem keeps_expect (token : Token) (h : c.At below sorts s s') :
    c.Keeps below (expect input s token) (expect input' s' token) (fun _ => sorts) := by
  rw [expect, expect, h.token_eq]
  split
  · exact keeps_advance h fun s₁ s₁' _ _ h₁ => keeps_done h₁
  · exact keeps_wrong _ h

/-- A production finds what it takes on top of the stack, and puts what it gives there. -/
theorem keeps_emit_of_make {position position' : Nat} {production : Production}
    (h : c.At below (production.takes.reverse ++ sorts) s s')
    (make : ∀ operands, operands.map Operand.sort = production.takes →
      SameUpTo c.errors (production.make input.arguments position operands)
        (production.make input'.arguments position' operands)) :
    c.Keeps below (emit input s position production) (emit input' s' position' production)
      (fun _ => production.gives :: sorts) := by
  obtain ⟨operands, middle, taken, stack, rest⟩ := h.above.split
  have taken : operands.reverse.map Operand.sort = production.takes := by
    rw [List.map_reverse, taken, List.reverse_reverse]
  rw [emit, emit, h.stack_eq, stack, ← List.reverse_reverse operands, Production.apply_run taken,
    Production.apply_run taken]
  have made := make _ taken
  generalize first : production.make input.arguments position _ = one at made ⊢
  generalize production.make input'.arguments position' _ = other at made ⊢
  cases made with
  | ok operand =>
    have sort := Production.sort_of_make first
    exact .read ⟨h.words, rfl, sort ▸ rest.push⟩
  | error corresponds => exact .fault corresponds rest.suffix

/-- Most productions are no placeholders. They are found at a word. -/
theorem keeps_emit {s₀ s₀' : Cursor} {production : Production} {before : List OperandSort}
    {bottom : Stack} (h : c.At below (production.takes.reverse ++ sorts) s s')
    (word : c.At bottom before s₀ s₀') (plain : ∀ conversion, production ≠ .placeholder conversion) :
    c.Keeps below (emit input s s₀.position production) (emit input' s' s₀'.position production)
      (fun _ => production.gives :: sorts) := by
  refine keeps_emit_of_make h fun operands taken => ?_
  obtain ⟨operand, made⟩ | ⟨fault, known, made⟩ := Production.make_of_plain taken plain
  · rw [made, made]
    exact .ok operand
  · rw [made, made]
    exact .error (c.fault word.current fault known)

/-- A placeholder is taken from a word that is one. -/
theorem keeps_leaf {production : Production} (h : c.At below sorts s s')
    (takes : production.takes = [])
    (word : ∀ conversion, production = .placeholder conversion →
      s.token = .placeholder conversion) :
    c.Keeps below (leaf input s production) (leaf input' s' production)
      (fun _ => production.gives :: sorts) := by
  refine keeps_advance h fun s₁ s₁' _ _ h₁ => ?_
  have h₁ : c.At below (production.takes.reverse ++ sorts) s₁ s₁' := by simpa [takes] using h₁
  by_cases placeholder : ∃ conversion, production = .placeholder conversion
  · obtain ⟨conversion, rfl⟩ := placeholder
    refine keeps_emit_of_make h₁ fun operands _ => ?_
    exact (c.placeholder h.current conversion (word conversion rfl)).map Operand.expr
  · exact keeps_emit h₁ h fun conversion eq => placeholder ⟨conversion, eq⟩

theorem keeps_options (h : c.At below sorts s s') :
    c.Keeps below (options input s) (options input' s') (fun _ => sorts) := by
  rw [options, options, h.token_eq]
  split
  · refine keeps_advance h fun s₁ s₁' _ _ h₁ => ?_
    rw [h₁.token_eq]
    split
    · split
      · refine keeps_advance h₁ fun s₂ s₂' _ _ h₂ => ?_
        exact (keeps_expect _ h₂).andThen fun _ s₃ s₃' _ _ h₃ => keeps_done h₃
      · exact keeps_wrong _ h₁
    · exact keeps_wrong _ h₁
  · exact keeps_done h

/-! ## Phrases

The recursion is that of the parser, with its measure in the first run. -/

/-- Several predicates are joined, and one is left as it is. -/
theorem keeps_joined {s₀ s₀' : Cursor} {count : Nat} {production : Nat → Production}
    {before : List OperandSort} {bottom : Stack}
    (h : c.At below (.predicate :: (List.replicate (count - 1) .predicate ++ sorts)) s s')
    (word : c.At bottom before s₀ s₀')
    (takes : (production count).takes = List.replicate count .predicate)
    (gives : (production count).gives = .predicate)
    (plain : ∀ conversion, production count ≠ .placeholder conversion) :
    c.Keeps below (if count > 1 then emit input s s₀.position (production count) else done s ())
      (if count > 1 then emit input' s' s₀'.position (production count) else done s' ())
      (fun _ => .predicate :: sorts) := by
  split
  · rename_i several
    obtain ⟨others, rfl⟩ : ∃ others, count = others + 1 := ⟨count - 1, by omega⟩
    rw [← gives]
    refine keeps_emit ?_ word plain
    rw [takes, List.reverse_replicate]
    exact h
  · rename_i one
    obtain one : count - 1 = 0 := by omega
    rw [one] at h
    exact keeps_done h

mutual

theorem keeps_disjunction {below : Stack} {sorts : List OperandSort}
    (s s' : Cursor) (h : c.At below sorts s s') :
    c.Keeps below (disjunction input s) (disjunction input' s') (fun _ => .predicate :: sorts) := by
  rw [disjunction, disjunction]
  refine (keeps_conjunction s s' h).andThen fun _ s₁ s₁' le₁ _ h₁ => ?_
  refine (keeps_disjuncts 0 s₁ s₁' h₁).andThen fun count s₂ s₂' _ _ h₂ => ?_
  exact keeps_joined h₂ h rfl rfl nofun
termination_by 13 * s.left + 12

theorem keeps_disjuncts {below : Stack} {sorts : List OperandSort} (count : Nat) (s s' : Cursor)
    (h : c.At below (.predicate :: (List.replicate count .predicate ++ sorts)) s s') :
    c.Keeps below (disjuncts input (count + 1) s) (disjuncts input' (count + 1) s')
      (fun total => .predicate :: (List.replicate (total - 1) .predicate ++ sorts)) := by
  rw [disjuncts, disjuncts, h.token_eq]
  split
  · refine keeps_advance h fun s₁ s₁' lt₁ _ h₁ => ?_
    refine (keeps_conjunction s₁ s₁' h₁).andThen fun _ s₂ s₂' le₂ _ h₂ => ?_
    exact keeps_disjuncts (count + 1) s₂ s₂' h₂
  · exact keeps_done h
termination_by 13 * s.left + 0

theorem keeps_conjunction {below : Stack} {sorts : List OperandSort}
    (s s' : Cursor) (h : c.At below sorts s s') :
    c.Keeps below (conjunction input s) (conjunction input' s') (fun _ => .predicate :: sorts) := by
  rw [conjunction, conjunction]
  refine (keeps_negation s s' h).andThen fun _ s₁ s₁' le₁ _ h₁ => ?_
  refine (keeps_conjuncts 0 s₁ s₁' h₁).andThen fun count s₂ s₂' _ _ h₂ => ?_
  exact keeps_joined h₂ h rfl rfl nofun
termination_by 13 * s.left + 11

theorem keeps_conjuncts {below : Stack} {sorts : List OperandSort} (count : Nat) (s s' : Cursor)
    (h : c.At below (.predicate :: (List.replicate count .predicate ++ sorts)) s s') :
    c.Keeps below (conjuncts input (count + 1) s) (conjuncts input' (count + 1) s')
      (fun total => .predicate :: (List.replicate (total - 1) .predicate ++ sorts)) := by
  rw [conjuncts, conjuncts, h.token_eq]
  split
  · refine keeps_advance h fun s₁ s₁' lt₁ _ h₁ => ?_
    refine (keeps_negation s₁ s₁' h₁).andThen fun _ s₂ s₂' le₂ _ h₂ => ?_
    exact keeps_conjuncts (count + 1) s₂ s₂' h₂
  · exact keeps_done h
termination_by 13 * s.left + 0

theorem keeps_negation {below : Stack} {sorts : List OperandSort}
    (s s' : Cursor) (h : c.At below sorts s s') :
    c.Keeps below (negation input s) (negation input' s') (fun _ => .predicate :: sorts) := by
  rw [negation, negation, h.token_eq]
  split
  · refine keeps_advance h fun s₁ s₁' lt₁ _ h₁ => ?_
    refine (keeps_negation s₁ s₁' h₁).andThen fun _ s₂ s₂' _ _ h₂ => ?_
    exact keeps_emit h₂ h nofun
  · exact keeps_primaryPredicate s s' h
termination_by 13 * s.left + 10

theorem keeps_primaryPredicate {below : Stack} {sorts : List OperandSort}
    (s s' : Cursor) (h : c.At below sorts s s') :
    c.Keeps below (primaryPredicate input s) (primaryPredicate input' s')
      (fun _ => .predicate :: sorts) := by
  rw [primaryPredicate, primaryPredicate, h.token_eq]
  split
  · exact keeps_leaf h rfl nofun
  · exact keeps_parenthesized s s' h
  · split
    · refine keeps_advance h fun s₁ s₁' lt₁ _ h₁ => ?_
      refine (keeps_comparison s₁ s₁' h₁).andThen fun _ s₂ s₂' _ _ h₂ => ?_
      exact keeps_emit h₂ h nofun
    · exact keeps_comparison s s' h
termination_by 13 * s.left + 9

/-- Both runs go back or neither does. What has been put on the stack since is dropped, and that is
all that has changed there. -/
theorem keeps_parenthesized {below : Stack} {sorts : List OperandSort}
    (s s' : Cursor) (h : c.At below sorts s s') :
    c.Keeps below (parenthesized input s) (parenthesized input' s')
      (fun _ => .predicate :: sorts) := by
  have attempt := keeps_advance h.fresh fun s₁ s₁' lt₁ _ h₁ =>
    (keeps_disjunction s₁ s₁' h₁).andThen fun _ s₂ s₂' _ _ h₂ => keeps_expect .closeParen h₂
  -- What the attempt leaves lies on the old stack, so going back restores both places.
  have again : ∀ stack, s.stack <:+ stack →
      c.Keeps below (comparison input (s.back stack)) (comparison input' (s'.back stack))
        (fun _ => .predicate :: sorts) := by
    intro stack kept
    rw [Cursor.back_eq kept, Cursor.back_eq (h.stack_eq ▸ kept)]
    exact keeps_comparison s s' h
  rw [parenthesized, parenthesized]
  generalize advance input s _ = tried at attempt ⊢
  generalize advance input' s' _ = tried' at attempt ⊢
  cases attempt with
  | fault _ kept => exact (again _ kept).within _ _
  | @read _ after after' _ _ _ reached =>
    dsimp only
    rw [reached.token_eq, reached.stack_eq]
    split
    · exact (again _ reached.above.suffix).within _ _
    · exact .read (reached.trans h)
termination_by 13 * s.left + 8

theorem keeps_comparison {below : Stack} {sorts : List OperandSort}
    (s s' : Cursor) (h : c.At below sorts s s') :
    c.Keeps below (comparison input s) (comparison input' s') (fun _ => .predicate :: sorts) := by
  rw [comparison, comparison]
  refine (keeps_expression s s' h).andThen fun _ s₁ s₁' le₁ _ h₁ => ?_
  rw [h₁.token_eq]
  split
  · exact keeps_emit h₁ h nofun
  · refine keeps_advance h₁ fun s₂ s₂' lt₂ _ h₂ => ?_
    refine (keeps_options h₂).andThen fun options s₃ s₃' le₃ _ h₃ => ?_
    refine (keeps_expression s₃ s₃' h₃).andThen fun _ s₄ s₄' _ _ h₄ => ?_
    exact keeps_emit h₄ h₁ nofun
termination_by 13 * s.left + 7

theorem keeps_expression {below : Stack} {sorts : List OperandSort}
    (s s' : Cursor) (h : c.At below sorts s s') :
    c.Keeps below (expression input s) (expression input' s') (fun _ => .expr :: sorts) := by
  rw [expression, expression]
  refine (keeps_sum s s' h).andThen fun _ s₁ s₁' le₁ _ h₁ => ?_
  rw [h₁.token_eq]
  split
  · refine keeps_advance h₁ fun s₂ s₂' lt₂ _ h₂ => ?_
    refine (keeps_expression s₂ s₂' h₂).andThen fun _ s₃ s₃' _ _ h₃ => ?_
    exact keeps_emit h₃ h₁ nofun
  · exact keeps_done h₁
termination_by 13 * s.left + 6

theorem keeps_sum {below : Stack} {sorts : List OperandSort}
    (s s' : Cursor) (h : c.At below sorts s s') :
    c.Keeps below (sum input s) (sum input' s') (fun _ => .expr :: sorts) := by
  rw [sum, sum]
  refine (keeps_product s s' h).andThen fun _ s₁ s₁' le₁ _ h₁ => ?_
  exact keeps_summands s₁ s₁' h₁
termination_by 13 * s.left + 5

theorem keeps_summands {below : Stack} {sorts : List OperandSort}
    (s s' : Cursor) (h : c.At below (.expr :: sorts) s s') :
    c.Keeps below (summands input s) (summands input' s') (fun _ => .expr :: sorts) := by
  rw [summands, summands, h.token_eq]
  split
  · exact keeps_done h
  · refine keeps_advance h fun s₁ s₁' lt₁ _ h₁ => ?_
    refine (keeps_product s₁ s₁' h₁).andThen fun _ s₂ s₂' le₂ _ h₂ => ?_
    refine (keeps_emit h₂ h (by nofun)).andThen fun _ s₃ s₃' le₃ _ h₃ => ?_
    exact keeps_summands s₃ s₃' h₃
termination_by 13 * s.left + 0

theorem keeps_product {below : Stack} {sorts : List OperandSort}
    (s s' : Cursor) (h : c.At below sorts s s') :
    c.Keeps below (product input s) (product input' s') (fun _ => .expr :: sorts) := by
  rw [product, product]
  refine (keeps_power s s' h).andThen fun _ s₁ s₁' le₁ _ h₁ => ?_
  exact keeps_factors s₁ s₁' h₁
termination_by 13 * s.left + 4

theorem keeps_factors {below : Stack} {sorts : List OperandSort}
    (s s' : Cursor) (h : c.At below (.expr :: sorts) s s') :
    c.Keeps below (factors input s) (factors input' s') (fun _ => .expr :: sorts) := by
  rw [factors, factors, h.token_eq]
  split
  · exact keeps_done h
  · refine keeps_advance h fun s₁ s₁' lt₁ _ h₁ => ?_
    refine (keeps_power s₁ s₁' h₁).andThen fun _ s₂ s₂' le₂ _ h₂ => ?_
    refine (keeps_emit h₂ h (by nofun)).andThen fun _ s₃ s₃' le₃ _ h₃ => ?_
    exact keeps_factors s₃ s₃' h₃
termination_by 13 * s.left + 0

theorem keeps_power {below : Stack} {sorts : List OperandSort}
    (s s' : Cursor) (h : c.At below sorts s s') :
    c.Keeps below (power input s) (power input' s') (fun _ => .expr :: sorts) := by
  rw [power, power]
  refine (keeps_signed s s' h).andThen fun _ s₁ s₁' le₁ _ h₁ => ?_
  rw [h₁.token_eq]
  split
  · refine keeps_advance h₁ fun s₂ s₂' lt₂ _ h₂ => ?_
    refine (keeps_power s₂ s₂' h₂).andThen fun _ s₃ s₃' _ _ h₃ => ?_
    exact keeps_emit h₃ h₁ nofun
  · exact keeps_done h₁
termination_by 13 * s.left + 3

theorem keeps_signed {below : Stack} {sorts : List OperandSort}
    (s s' : Cursor) (h : c.At below sorts s s') :
    c.Keeps below (signed input s) (signed input' s') (fun _ => .expr :: sorts) := by
  rw [signed, signed, h.token_eq]
  split
  · refine keeps_advance h fun s₁ s₁' lt₁ _ h₁ => ?_
    refine (keeps_signed s₁ s₁' h₁).andThen fun _ s₂ s₂' _ _ h₂ => ?_
    exact keeps_emit h₂ h nofun
  · exact keeps_navigation s s' h
termination_by 13 * s.left + 2

theorem keeps_navigation {below : Stack} {sorts : List OperandSort}
    (s s' : Cursor) (h : c.At below sorts s s') :
    c.Keeps below (navigation input s) (navigation input' s') (fun _ => .expr :: sorts) := by
  rw [navigation, navigation]
  refine (keeps_primary s s' h).andThen fun _ s₁ s₁' le₁ _ h₁ => ?_
  exact keeps_steps s₁ s₁' h₁
termination_by 13 * s.left + 1

theorem keeps_steps {below : Stack} {sorts : List OperandSort}
    (s s' : Cursor) (h : c.At below (.expr :: sorts) s s') :
    c.Keeps below (steps input s) (steps input' s') (fun _ => .expr :: sorts) := by
  rw [steps, steps, h.token_eq]
  split
  · refine keeps_advance h fun s₁ s₁' lt₁ _ h₁ => ?_
    refine (keeps_segment s₁ s₁' h₁).andThen fun _ s₂ s₂' le₂ _ h₂ => ?_
    refine (keeps_emit h₂ h (by nofun)).andThen fun _ s₃ s₃' le₃ _ h₃ => ?_
    exact keeps_steps s₃ s₃' h₃
  · refine keeps_advance h fun s₁ s₁' lt₁ _ h₁ => ?_
    refine (keeps_place s₁ s₁' h₁).andThen fun _ s₂ s₂' le₂ _ h₂ => ?_
    refine (keeps_expect _ h₂).andThen fun _ s₃ s₃' le₃ _ h₃ => ?_
    refine (keeps_emit h₃ h (by nofun)).andThen fun _ s₄ s₄' le₄ _ h₄ => ?_
    exact keeps_steps s₄ s₄' h₄
  · exact keeps_done h
termination_by 13 * s.left + 0

theorem keeps_segment {below : Stack} {sorts : List OperandSort}
    (s s' : Cursor) (h : c.At below sorts s s') :
    c.Keeps below (segment input s) (segment input' s') (fun _ => .expr :: sorts) := by
  rw [Parser.segment, Parser.segment, h.token_eq]
  split
  · exact keeps_leaf h rfl nofun
  · exact keeps_leaf h rfl nofun
  · exact keeps_primary s s' h
termination_by 13 * s.left + 1

theorem keeps_place {below : Stack} {sorts : List OperandSort}
    (s s' : Cursor) (h : c.At below sorts s s') :
    c.Keeps below (place input s) (place input' s') (fun _ => .expr :: sorts) := by
  rw [place, place, h.token_eq]
  split
  · exact keeps_leaf h rfl nofun
  · exact keeps_expression s s' h
termination_by 13 * s.left + 7

theorem keeps_arguments {below : Stack} {sorts : List OperandSort}
    (close : Token) (count : Nat) (s s' : Cursor)
    (h : c.At below (List.replicate count .expr ++ sorts) s s') :
    c.Keeps below (arguments input close count s) (arguments input' close count s')
      (fun total => List.replicate total .expr ++ sorts) := by
  rw [arguments, arguments, h.token_eq]
  split
  · exact keeps_advance h fun s₁ s₁' _ _ h₁ => keeps_done h₁
  · refine (keeps_expression s s' h).andThen fun _ s₁ s₁' le₁ _ h₁ => ?_
    have h₁ : c.At below (List.replicate (count + 1) .expr ++ sorts) s₁ s₁' := h₁
    rw [h₁.token_eq]
    split
    · exact keeps_advance h₁ fun s₂ s₂' _ _ h₂ => keeps_done h₂
    · split
      · refine keeps_advance h₁ fun s₂ s₂' lt₂ _ h₂ => ?_
        exact keeps_arguments close (count + 1) s₂ s₂' h₂
      · exact keeps_wrong _ h₁
termination_by 13 * s.left + 7

theorem keeps_primary {below : Stack} {sorts : List OperandSort}
    (s s' : Cursor) (h : c.At below sorts s s') :
    c.Keeps below (primary input s) (primary input' s') (fun _ => .expr :: sorts) := by
  rw [primary, primary, h.token_eq]
  split
  · rename_i production word
    rw [← Grammar.gives_of_production word]
    exact keeps_leaf h (Grammar.takes_of_production word) fun _ =>
      token_of_production word
  · split
    · refine keeps_advance h fun s₁ s₁' lt₁ _ h₁ => ?_
      rw [h₁.token_eq]
      split
      · refine keeps_advance h₁ fun s₂ s₂' lt₂ _ h₂ => ?_
        refine (keeps_arguments .closeParen 0 s₂ s₂' h₂).andThen fun arity s₃ s₃' _ _ h₃ => ?_
        refine keeps_emit ?_ h nofun
        simpa [Production.takes] using h₃
      · exact keeps_emit h₁ h nofun
    · refine keeps_advance h fun s₁ s₁' lt₁ _ h₁ => ?_
      refine (keeps_expression s₁ s₁' h₁).andThen fun _ s₂ s₂' _ _ h₂ => ?_
      exact keeps_expect _ h₂
    · refine keeps_advance h fun s₁ s₁' lt₁ _ h₁ => ?_
      refine (keeps_arguments .closeBrace 0 s₁ s₁' h₁).andThen fun count s₂ s₂' _ _ h₂ => ?_
      refine keeps_emit ?_ h nofun
      simpa [Production.takes] using h₂
    · refine keeps_advance h fun s₁ s₁' lt₁ _ h₁ => ?_
      refine (keeps_expect _ h₁).andThen fun _ s₂ s₂' le₂ _ h₂ => ?_
      refine (keeps_expression s₂ s₂' h₂).andThen fun _ s₃ s₃' le₃ _ h₃ => ?_
      refine (keeps_expect _ h₃).andThen fun _ s₄ s₄' le₄ _ h₄ => ?_
      rw [h₄.token_eq]
      split
      · refine keeps_advance h₄ fun s₅ s₅' lt₅ _ h₅ => ?_
        refine (keeps_expect _ h₅).andThen fun _ s₆ s₆' le₆ _ h₆ => ?_
        refine (keeps_disjunction s₆ s₆' h₆).andThen fun _ s₇ s₇' _ _ h₇ => ?_
        refine (keeps_expect _ h₇).andThen fun _ s₈ s₈' _ _ h₈ => ?_
        exact keeps_emit h₈ h nofun
      · exact keeps_wrong _ h₄
    · refine keeps_advance h fun s₁ s₁' lt₁ _ h₁ => ?_
      refine (keeps_expect _ h₁).andThen fun _ s₂ s₂' le₂ _ h₂ => ?_
      refine (keeps_arguments .closeParen 0 s₂ s₂' h₂).andThen fun arity s₃ s₃' _ _ h₃ => ?_
      refine keeps_emit ?_ h nofun
      simpa [Production.takes] using h₃
    · exact keeps_wrong _ h
termination_by 13 * s.left + 0

end

/-! ## Whole texts -/

/-- If words correspond from beginning to end, then so do the trees of two texts, or their errors.
There is nothing to say about taking the tree from the stack, since it alone is there. -/
theorem sameUpTo_ofLexing {phrase : Input → (s : Cursor) → Outcome Unit s.left}
    {finish : Building α} {sort : OperandSort} {arguments arguments' : Arguments}
    {lexing lexing' : Lexing}
    (c : Correspondence ⟨arguments, lexing.fault⟩ ⟨arguments', lexing'.fault⟩)
    (words : List.Forall₂ c.words lexing.lexemes lexing'.lexemes)
    (reads : ∀ s s', c.At [] [] s s' → c.Keeps [] (phrase ⟨arguments, lexing.fault⟩ s)
      (phrase ⟨arguments', lexing'.fault⟩ s') (fun _ => [sort]))
    (finishes : ∀ operand : Operand, operand.sort = sort →
      ∃ tree, finish.run [operand] = .ok tree []) :
    SameUpTo c.errors (ofLexing phrase finish arguments lexing)
      (ofLexing phrase finish arguments' lexing') := by
  obtain ⟨lexemes, fault⟩ := lexing
  obtain ⟨lexemes', fault'⟩ := lexing'
  cases words with
  | nil => exact .error c.ending
  | @cons first first' following following' word words =>
    have whole := reads ⟨first, following, []⟩ ⟨first', following', []⟩
      ⟨.cons word words, rfl, .refl []⟩
    unfold ofLexing
    dsimp only
    generalize phrase ⟨arguments, fault⟩ _ = outcome at whole ⊢
    generalize phrase ⟨arguments', fault'⟩ _ = outcome' at whole ⊢
    cases whole with
    | fault corresponds _ => exact .error corresponds
    | @read _ after after' _ _ _ reached =>
      obtain ⟨operands, sorts, stack⟩ := reached.above
      obtain ⟨operand, rfl, sort⟩ := List.map_eq_singleton_iff.mp sorts
      obtain ⟨tree, taken⟩ := finishes operand sort
      dsimp only
      rw [reached.token_eq, reached.stack_eq, stack]
      split
      · rw [List.append_nil, taken]
        exact .ok tree
      · rw [Cursor.unexpected, Cursor.unexpected, reached.token_eq]
        exact .error (c.fault reached.current _ rfl)

end Correspondence

namespace Building

theorem run_finishPredicate (operand : Operand) (h : operand.sort = .predicate) :
    ∃ p, finishPredicate.run [operand] = .ok p [] := by
  obtain ⟨p, rfl⟩ := Operand.sort_eq_predicate.mp h
  exact ⟨p, rfl⟩

theorem run_finishExpr (operand : Operand) (h : operand.sort = .expr) :
    ∃ e, finishExpr.run [operand] = .ok e [] := by
  obtain ⟨e, rfl⟩ := Operand.sort_eq_expr.mp h
  exact ⟨e, rfl⟩

end Building

end PredicateLang
