import PredicateLang.Proofs.Grammar

/-!
# Reasoning about outcomes

Two ways to say what a parser does. `Outcome.Ensures below Q` is what holds of every outcome: a
fault leaves the operands in `below` where they were, and what is read satisfies `Q`. `Outcome.Is`
is one particular outcome. Each step of the parser has a rule for both, so that the proofs about
phrases are chains of rules and never open an outcome.

`Cursor.Reaches s words operands s'` says that `words` lie between two places and that `operands`
have been put on the stack on the way.
-/

open PredicateLang.Parser

namespace PredicateLang

/-! ## From one place to another -/

namespace Cursor

/-- The lexeme to be looked at and those that follow. -/
def lexemes (s : Cursor) : List Lexeme := s.current :: s.following

/-- The words between two places, and the operands that were put on the stack on the way. -/
def Reaches (s : Cursor) (words : List Lexeme) (operands : List Operand) (s' : Cursor) : Prop :=
  s.lexemes = words ++ s'.lexemes ∧ s'.stack = operands.reverse ++ s.stack

namespace Reaches

variable {s s' s'' : Cursor} {u v : List Lexeme} {xs ys : List Operand}

theorem refl (s : Cursor) : s.Reaches [] [] s := ⟨rfl, rfl⟩

theorem trans (h : s.Reaches u xs s') (h' : s'.Reaches v ys s'') :
    s.Reaches (u ++ v) (xs ++ ys) s'' :=
  ⟨by rw [h.1, h'.1, List.append_assoc],
    by rw [h'.2, h.2, List.reverse_append, List.append_assoc]⟩

/-- Taking the next lexeme. -/
theorem next {lexeme : Lexeme} {following : List Lexeme} (h : s.following = lexeme :: following) :
    s.Reaches [s.current] [] ⟨lexeme, following, s.stack⟩ :=
  ⟨by simp [lexemes, h], rfl⟩

/-- What was on the stack is still there. -/
theorem suffix (h : s.Reaches u xs s') : s.stack <:+ s'.stack := ⟨xs.reverse, h.2.symm⟩

/-- Where a phrase starts is the position of its first word. -/
theorem start_eq (h : s.Reaches u xs s') (ne : u ≠ []) : Grammar.start u = s.position := by
  obtain ⟨word, rest, rfl⟩ := List.exists_cons_of_ne_nil ne
  have head : s.current = word := (List.cons.inj h.1).1
  simp [Grammar.start, Cursor.position, head]

/-- Between two places there is one behind every part of the words. -/
theorem split (xs ys : List Operand) (h : s.Reaches (u ++ v) (xs ++ ys) s') :
    ∃ s₁, s.Reaches u xs s₁ ∧ s₁.Reaches v ys s' := by
  obtain ⟨current, following, stack⟩ := s'
  obtain ⟨lexemes, rfl⟩ := h
  cases e : v ++ Cursor.lexemes ⟨current, following, (xs ++ ys).reverse ++ s.stack⟩ with
  | nil => simp [Cursor.lexemes] at e
  | cons word rest =>
    refine ⟨⟨word, rest, xs.reverse ++ s.stack⟩, ⟨?_, rfl⟩, ⟨e.symm, by simp⟩⟩
    rw [lexemes, List.append_assoc, e]
    rfl

/-- The operands are there before the last part of the words. -/
theorem split_nil (h : s.Reaches (u ++ v) xs s') :
    ∃ s₁, s.Reaches u xs s₁ ∧ s₁.Reaches v [] s' :=
  split xs [] ((List.append_nil xs).symm ▸ h)

/-- The first word is taken by itself. -/
theorem uncons {word : Lexeme} (h : s.Reaches (word :: v) ys s') :
    s.current = word ∧ ∃ s₁, s.Reaches [s.current] [] s₁ ∧ s₁.Reaches v ys s' := by
  have current : s.current = word := (List.cons.inj h.1).1
  exact ⟨current, current ▸ split (u := [word]) [] ys h⟩

/-- The same place before a production has put `operands` together. -/
theorem before (h : s.Reaches u xs s') (operands : List Operand) :
    s.Reaches u operands { s' with stack := operands.reverse ++ s.stack } := ⟨h.1, rfl⟩

/-- The first word is the lexeme to be looked at. -/
theorem head_eq (h : s.Reaches u xs s') : ∀ word ∈ u.head?, word = s.current := by
  intro word mem
  obtain ⟨rest, rfl⟩ := List.head?_eq_some_iff.mp mem
  exact (List.cons.inj h.1).1.symm

end Reaches

/-- A place is known by the lexemes from there on and the operands. -/
theorem eq_of_lexemes {s s' : Cursor} (lexemes : s.lexemes = s'.lexemes)
    (stack : s.stack = s'.stack) : s = s' := by
  obtain ⟨current, following, stack⟩ := s
  obtain ⟨current', following', stack'⟩ := s'
  cases lexemes
  cases stack
  rfl

/-- Going back drops what was put on the stack since. -/
theorem back_eq {s : Cursor} {stack : Stack} (h : s.stack <:+ stack) : s.back stack = s := by
  obtain ⟨since, rfl⟩ := h
  simp [back, Stack.truncate]

end Cursor

/-! ## Every outcome -/

namespace Outcome

variable {α β : Type} {m n : Nat}

/-- A fault leaves the operands `below` on the stack, and what is read satisfies `Q`. -/
def Ensures (below : Stack) (Q : α → Cursor → Prop) : Outcome α n → Prop
  | fault _ stack => below <:+ stack
  | read result after _ => Q result after

variable {below : Stack} {Q : α → Cursor → Prop} {R : β → Cursor → Prop}

theorem Ensures.within (le : m ≤ n) {outcome : Outcome α m} (h : outcome.Ensures below Q) :
    (outcome.within le).Ensures below Q := by
  cases outcome with
  | fault => exact h
  | read => exact h

theorem Ensures.andThen {outcome : Outcome α n}
    {next : α → (s : Cursor) → s.left ≤ n → Outcome β s.left} (h : outcome.Ensures below Q)
    (h' : ∀ result s le, Q result s → (next result s le).Ensures below R) :
    (outcome.andThen next).Ensures below R := by
  cases outcome with
  | fault => exact h
  | read result after le => exact (h' result after le h).within le

/-- Fewer operands are to stay, or less is asked of what is read. -/
theorem Ensures.imp {below' : Stack} {Q' : α → Cursor → Prop} {outcome : Outcome α n}
    (h : outcome.Ensures below Q) (suffix : below' <:+ below)
    (imp : ∀ result s, Q result s → Q' result s) : outcome.Ensures below' Q' := by
  cases outcome with
  | fault => exact suffix.trans h
  | read result after le => exact imp result after h

/-! ## One outcome -/

/-- The phrase is read with this result up to this place. -/
def Is (outcome : Outcome α n) (result : α) (after : Cursor) : Prop :=
  ∃ le, outcome = .read result after le

theorem Is.within (le : m ≤ n) {outcome : Outcome α m} {result : α} {after : Cursor}
    (h : outcome.Is result after) : (outcome.within le).Is result after := by
  obtain ⟨le', rfl⟩ := h
  exact ⟨_, rfl⟩

theorem Is.andThen {outcome : Outcome α n}
    {next : α → (s : Cursor) → s.left ≤ n → Outcome β s.left} {result : α} {result' : β}
    {s s' : Cursor} (h : outcome.Is result s) (h' : ∀ le, (next result s le).Is result' s') :
    (outcome.andThen next).Is result' s' := by
  obtain ⟨le, rfl⟩ := h
  exact (h' le).within le

theorem Is.unique {outcome : Outcome α n} {result result' : α} {s s' : Cursor}
    (h : outcome.Is result s) (h' : outcome.Is result' s') : result = result' ∧ s = s' := by
  obtain ⟨le, rfl⟩ := h
  obtain ⟨le', eq⟩ := h'
  cases eq
  exact ⟨rfl, rfl⟩

theorem Ensures.of_is {outcome : Outcome α n} {result : α} {s : Cursor}
    (h : outcome.Ensures below Q) (h' : outcome.Is result s) : Q result s := by
  obtain ⟨le, rfl⟩ := h'
  exact h

end Outcome

/-! ## The steps of the parser -/

namespace Parser

variable {α : Type} {input : Input} {s s' : Cursor} {below : Stack} {Q : α → Cursor → Prop}

theorem ensures_done {result : α} (h : Q result s) : (done s result).Ensures below Q := h

theorem ensures_wrong {wanted : String} (h : below <:+ s.stack) :
    (wrong s wanted : Outcome α s.left).Ensures below Q := h

theorem ensures_advance {next : (s' : Cursor) → s'.left < s.left → Outcome α s'.left}
    (h : below <:+ s.stack)
    (h' : ∀ s' lt, s.Reaches [s.current] [] s' → (next s' lt).Ensures below Q) :
    (advance input s next).Ensures below Q := by
  unfold advance
  split
  · exact h
  · rename_i lexeme following e
    exact (h' _ _ (.next e)).within _

theorem ensures_expect {token : Token} {Q : Unit → Cursor → Prop} (h : below <:+ s.stack)
    (h' : ∀ s', s.token = token → s.Reaches [s.current] [] s' → Q () s') :
    (expect input s token).Ensures below Q := by
  unfold expect
  split
  · rename_i e
    exact ensures_advance h fun s' _ reaches => ensures_done (h' s' e reaches)
  · exact ensures_wrong h

/-- A production finds its operands on the stack if they are of the sorts that it takes. -/
theorem ensures_emit {position : Nat} {production : Production} {operands : List Operand}
    {Q : Unit → Cursor → Prop} (stack : s.stack = operands.reverse ++ below)
    (sorts : operands.map Operand.sort = production.takes)
    (h : ∀ operand, production.Makes input.arguments position operands operand →
      Q () { s with stack := operand :: below }) :
    (emit input s position production).Ensures below Q := by
  unfold emit
  rw [stack, Production.apply_run sorts]
  cases made : production.make input.arguments position operands with
  | error => exact List.suffix_refl below
  | ok operand => exact h operand (Production.makes_iff.mpr ⟨sorts, made⟩)

theorem is_done {result : α} : (done s result).Is result s := ⟨_, rfl⟩

theorem is_advance {next : (s' : Cursor) → s'.left < s.left → Outcome α s'.left} {result : α}
    {after : Cursor} (h : s.Reaches [s.current] [] s')
    (h' : ∀ lt, (next s' lt).Is result after) : (advance input s next).Is result after := by
  obtain ⟨current, following, stack⟩ := s
  obtain ⟨current', following', stack'⟩ := s'
  obtain rfl : following = current' :: following' := (List.cons.inj h.1).2
  obtain rfl : stack' = stack := h.2
  have lt : Cursor.left ⟨current', following', stack'⟩ < (current' :: following').length := by
    simp [Cursor.left]
  exact (h' lt).within (Nat.le_of_lt lt)

theorem is_expect {token : Token} (h : s.Reaches [s.current] [] s') (e : s.token = token) :
    (expect input s token).Is () s' := by
  rw [expect, if_pos e]
  exact is_advance h fun _ => is_done

/-- A production that puts the operands since the beginning of a phrase together. -/
theorem is_emit {s₀ : Cursor} {position : Nat} {production : Production} {w : List Lexeme}
    {operands : List Operand} {operand : Operand}
    (made : production.Makes input.arguments position operands operand)
    (reaches : s₀.Reaches w [operand] s') :
    (emit input { s' with stack := operands.reverse ++ s₀.stack } position production).Is () s' := by
  obtain ⟨current, following, stack⟩ := s'
  obtain rfl : stack = operand :: s₀.stack := reaches.2
  unfold emit
  rw [made.2]
  exact ⟨Nat.le_refl _, rfl⟩

end Parser

end PredicateLang
