import PredicateLang.Proofs.Grammar.Calls
import PredicateLang.Proofs.Grammar.Sound
import PredicateLang.Proofs.Lexing.Coverage

/-!
# Calls descend

A call of the parser is made behind the place where its caller was called, or at the same place for a
tighter level of the grammar. That holds after going back from a parenthesis as well, since the
comparison that is read then is a part of the primary predicate and not of the attempt. And every
round of a loop takes a token. So calls are nested no deeper than there are levels at every place of
the text (`Parser.calls_descend`).
-/

namespace PredicateLang

/-! ## Later places -/

namespace Cursor

/-- The place lies behind, or is the same. -/
def Upto (s s' : Cursor) : Prop := s'.lexemes <:+ s.lexemes

/-- At least one token lies between the places. -/
def Past (s s' : Cursor) : Prop := s.Upto s' ∧ s'.left < s.left

variable {s s₁ s₂ : Cursor}

theorem Upto.refl (s : Cursor) : s.Upto s := List.suffix_refl s.lexemes

theorem Past.upto (h : s.Past s₁) : s.Upto s₁ := h.1

theorem Upto.left_le (h : s.Upto s₁) : s₁.left ≤ s.left :=
  Nat.succ_le_succ_iff.mp h.length_le

theorem Upto.trans (h : s.Upto s₁) (h' : s₁.Upto s₂) : s.Upto s₂ := List.IsSuffix.trans h' h

theorem Upto.past (h : s.Upto s₁) (h' : s₁.Past s₂) : s.Past s₂ :=
  ⟨h.trans h'.1, Nat.lt_of_lt_of_le h'.2 h.left_le⟩

theorem Past.onto (h : s.Past s₁) (h' : s₁.Upto s₂) : s.Past s₂ :=
  ⟨h.1.trans h', Nat.lt_of_le_of_lt h'.left_le h.2⟩

theorem Past.trans (h : s.Past s₁) (h' : s₁.Past s₂) : s.Past s₂ := h.onto h'.upto

theorem past_next {lexeme : Lexeme} {following : List Lexeme}
    (h : s.following = lexeme :: following) : s.Past ⟨lexeme, following, s.stack⟩ := by
  refine ⟨?_, by simp [left, h]⟩
  rw [Upto, show s.lexemes = s.current :: lexeme :: following from congrArg _ h]
  exact List.suffix_cons s.current _

end Cursor

/-! ## Where phrases end -/

/-- If the phrase is read, then it ends at a place of which `Q` holds. -/
def Outcome.Ends {α : Type} {n : Nat} (Q : Cursor → Prop) : Outcome α n → Prop
  | fault _ _ => True
  | read _ after _ => Q after

namespace Parser

section Steps

variable {α β : Type} {m n : Nat} {input : Input} {s s₀ : Cursor} {Q R : Cursor → Prop}

theorem ends_within (le : m ≤ n) {outcome : Outcome α m} (h : outcome.Ends Q) :
    (outcome.within le).Ends Q := by
  cases outcome <;> exact h

theorem ends_advance {next : (s' : Cursor) → s'.left < s.left → Outcome α s'.left}
    (h : ∀ s' lt, s.Past s' → (next s' lt).Ends Q) : (advance input s next).Ends Q := by
  unfold advance
  split
  · trivial
  · rename_i lexeme following e
    exact ends_within _ (h _ _ (Cursor.past_next e))

theorem ends_andThen {outcome : Outcome α n}
    {next : α → (s : Cursor) → s.left ≤ n → Outcome β s.left}
    (h : outcome.Ends Q) (h' : ∀ result s le, Q s → (next result s le).Ends R) :
    (outcome.andThen next).Ends R := by
  cases outcome with
  | fault => trivial
  | read result after le => exact ends_within le (h' result after le h)

theorem ends_expect {token : Token} (h : s₀.Past s) : (expect input s token).Ends s₀.Past := by
  unfold expect
  split
  · exact ends_advance fun s' _ past => h.trans past
  · trivial

/-- A production moves nothing but operands. -/
theorem ends_emit (position : Nat) (production : Production) (h : s₀.Past s) :
    (emit input s position production).Ends s₀.Past := by
  unfold emit
  split
  · exact h
  · trivial

theorem ends_leaf (production : Production) : (leaf input s production).Ends s.Past :=
  ends_advance fun _ _ past => ends_emit _ _ past

theorem ends_options (input : Input) (s : Cursor) : (options input s).Ends s.Upto := by
  unfold options
  split
  · refine ends_advance fun s₁ _ h₁ => ?_
    split
    · split
      · refine ends_advance fun s₂ _ h₂ => ?_
        exact ends_andThen (ends_expect (h₁.trans h₂)) fun _ _ _ h₃ => h₃.upto
      · trivial
    · trivial
  · exact .refl s

end Steps

/-! ## Activities inside a call -/

/-- What may be done inside the call of a function at a place: calls further on or for tighter
levels, inside which the same holds, and rounds of loops that take at least one token. -/
inductive Activity.Under : Routine → Cursor → Activity → Prop where
  | call {routine routine' : Routine} {s s' : Cursor} {inside : List Activity} (upto : s.Upto s')
    (descends : s'.left < s.left ∨ routine.level < routine'.level)
    (under : ∀ a ∈ inside, Under routine' s' a) : Under routine s (.call routine' s' inside)
  | round {routine : Routine} {s before after : Cursor} (upto : s.Upto before)
    (takes : before.Past after) : Under routine s (.round before after)

/-- The activity is the call of a function at a place. -/
def Activity.IsCall (routine : Routine) (s : Cursor) (a : Activity) : Prop :=
  ∃ inside, a = .call routine s inside ∧ ∀ b ∈ inside, b.Under routine s

/-- What is observed is a given outcome; `P` holds of the activities, and `Q` of the place where the
phrase ends. -/
structure Observed.Shows {α : Type} {n : Nat} (observed : Observed α n) (outcome : Outcome α n)
    (P : Activity → Prop) (Q : Cursor → Prop) : Prop where
  same : observed.outcome = outcome
  does : ∀ a ∈ observed.activities, P a
  ends : outcome.Ends Q

namespace Observed

section Rules

variable {α β : Type} {m n : Nat} {input : Input} {s s₀ s₁ : Cursor} {P : Activity → Prop}
  {Q R : Cursor → Prop} {observed : Observed α n} {outcome : Outcome α n}
  {routine routine' : Routine}

theorem shows_silent (h : outcome.Ends Q) : (silent outcome).Shows outcome P Q :=
  ⟨rfl, nofun, h⟩

theorem Shows.within (le : m ≤ n) {observed : Observed α m} {outcome : Outcome α m}
    (h : observed.Shows outcome P Q) : (observed.within le).Shows (outcome.within le) P Q :=
  ⟨by rw [Observed.within, h.same], h.does, ends_within le h.ends⟩

theorem Shows.behind {activities : List Activity} (before : ∀ a ∈ activities, P a)
    (h : observed.Shows outcome P Q) : (observed.behind activities).Shows outcome P Q :=
  ⟨h.same, List.forall_mem_append.mpr ⟨before, h.does⟩, h.ends⟩

theorem Shows.andThen {next : α → (s : Cursor) → s.left ≤ n → Observed β s.left}
    {next' : α → (s : Cursor) → s.left ≤ n → Outcome β s.left} (h : observed.Shows outcome P Q)
    (h' : ∀ result s le, Q s → (next result s le).Shows (next' result s le) P R) :
    (observed.andThen next).Shows (outcome.andThen next') P R := by
  obtain ⟨rfl, does, ends⟩ := h
  unfold Observed.andThen
  cases outcome : observed.outcome with
  | fault error stack => exact ⟨rfl, does, trivial⟩
  | read result after le =>
    rw [outcome] at ends
    exact ((h' result after le ends).within le).behind does

theorem shows_advance {next : (s' : Cursor) → s'.left < s.left → Observed α s'.left}
    {next' : (s' : Cursor) → s'.left < s.left → Outcome α s'.left}
    (h : ∀ s' lt, s.Past s' → (next s' lt).Shows (next' s' lt) P Q) :
    (advance input s next).Shows (Parser.advance input s next') P Q := by
  obtain ⟨current, following, stack⟩ := s
  cases following with
  | nil => exact shows_silent trivial
  | cons lexeme following => exact (h _ _ (Cursor.past_next rfl)).within _

theorem shows_done {result : α} (h : Q s) : (silent (done s result)).Shows (done s result) P Q :=
  shows_silent h

theorem shows_expect {token : Token} (h : s₀.Past s) :
    (silent (expect input s token)).Shows (expect input s token) P s₀.Past :=
  shows_silent (ends_expect h)

/-- The whole of a call. -/
theorem Shows.called (h : observed.Shows outcome (Activity.Under routine s) Q) :
    (observed.called routine s).Shows outcome (Activity.IsCall routine s) Q :=
  ⟨h.same, List.forall_mem_singleton.mpr ⟨observed.activities, rfl, h.does⟩, h.ends⟩

/-- A call inside another. -/
theorem Shows.part (h : observed.Shows outcome (Activity.IsCall routine' s₁) Q) (upto : s.Upto s₁)
    (descends : s₁.left < s.left ∨ routine.level < routine'.level) :
    observed.Shows outcome (Activity.Under routine s) Q := by
  refine ⟨h.same, fun a mem => ?_, h.ends⟩
  obtain ⟨inside, rfl, under⟩ := h.does a mem
  exact .call upto descends under

/-- A call at the same place for a tighter level. -/
theorem Shows.tighter (h : observed.Shows outcome (Activity.IsCall routine' s) Q)
    (lt : routine.level < routine'.level) :
    observed.Shows outcome (Activity.Under routine s) Q := h.part (.refl s) (.inr lt)

/-- A call further on. -/
theorem Shows.later (h : observed.Shows outcome (Activity.IsCall routine' s₁) Q) (past : s.Past s₁) :
    observed.Shows outcome (Activity.Under routine s) Q := h.part past.upto (.inl past.2)

/-- A round of a loop that goes on. -/
theorem Shows.round {before after : Cursor} (upto : s.Upto before) (takes : before.Past after)
    (h : observed.Shows outcome (Activity.Under routine s) Q) :
    (observed.behind [.round before after]).Shows outcome (Activity.Under routine s) Q :=
  h.behind (List.forall_mem_singleton.mpr (.round upto takes))

end Rules

/-! ## Phrases

The recursion is that of the parser. A phrase that is read takes at least one token. The loops are
inside the call of a function that began before them. -/

section Phrases

variable {input : Input}

mutual

theorem shows_disjunction (s : Cursor) :
    (disjunction input s).Shows (Parser.disjunction input s) (Activity.IsCall .disjunction s)
      s.Past := by
  rw [disjunction, Parser.disjunction]
  refine Shows.called ?_
  refine ((shows_conjunction s).tighter (by decide)).andThen fun _ s₁ le₁ h₁ => ?_
  refine (shows_disjuncts 1 s₁ h₁).andThen fun count s₂ _ h₂ => shows_silent ?_
  split
  · exact ends_emit _ _ h₂
  · exact h₂
termination_by 13 * s.left + 12

theorem shows_disjuncts {routine : Routine} {s₀ : Cursor} (count : Nat) (s : Cursor)
    (h : s₀.Past s) :
    (disjuncts input count s).Shows (Parser.disjuncts input count s) (Activity.Under routine s₀)
      s₀.Past := by
  rw [disjuncts, Parser.disjuncts]
  split
  · refine shows_advance fun s₁ lt₁ h₁ => ?_
    refine ((shows_conjunction s₁).later (h.trans h₁)).andThen fun _ s₂ le₂ h₂ => ?_
    have takes := h₁.trans h₂
    exact (shows_disjuncts (count + 1) s₂ (h.trans takes)).round h.upto takes
  · exact shows_done h
termination_by 13 * s.left + 0

theorem shows_conjunction (s : Cursor) :
    (conjunction input s).Shows (Parser.conjunction input s) (Activity.IsCall .conjunction s)
      s.Past := by
  rw [conjunction, Parser.conjunction]
  refine Shows.called ?_
  refine ((shows_negation s).tighter (by decide)).andThen fun _ s₁ le₁ h₁ => ?_
  refine (shows_conjuncts 1 s₁ h₁).andThen fun count s₂ _ h₂ => shows_silent ?_
  split
  · exact ends_emit _ _ h₂
  · exact h₂
termination_by 13 * s.left + 11

theorem shows_conjuncts {routine : Routine} {s₀ : Cursor} (count : Nat) (s : Cursor)
    (h : s₀.Past s) :
    (conjuncts input count s).Shows (Parser.conjuncts input count s) (Activity.Under routine s₀)
      s₀.Past := by
  rw [conjuncts, Parser.conjuncts]
  split
  · refine shows_advance fun s₁ lt₁ h₁ => ?_
    refine ((shows_negation s₁).later (h.trans h₁)).andThen fun _ s₂ le₂ h₂ => ?_
    have takes := h₁.trans h₂
    exact (shows_conjuncts (count + 1) s₂ (h.trans takes)).round h.upto takes
  · exact shows_done h
termination_by 13 * s.left + 0

theorem shows_negation (s : Cursor) :
    (negation input s).Shows (Parser.negation input s) (Activity.IsCall .negation s) s.Past := by
  rw [negation, Parser.negation]
  refine Shows.called ?_
  split
  · refine shows_advance fun s₁ lt₁ h₁ => ?_
    refine ((shows_negation s₁).later h₁).andThen fun _ s₂ _ h₂ => ?_
    exact shows_silent (ends_emit _ _ (h₁.trans h₂))
  · exact (shows_primaryPredicate s).tighter (by decide)
termination_by 13 * s.left + 10

theorem shows_primaryPredicate (s : Cursor) :
    (primaryPredicate input s).Shows (Parser.primaryPredicate input s)
      (Activity.IsCall .primaryPredicate s) s.Past := by
  rw [primaryPredicate, Parser.primaryPredicate]
  refine Shows.called ?_
  have otherwise := (shows_comparison s).tighter
    (show Routine.primaryPredicate.level < Routine.comparison.level by decide)
  cases token : s.token with
  | predicateConstant value => exact shows_silent (ends_leaf _)
  | openParen => exact shows_parenthesized s
  | any | all | none =>
    refine shows_advance fun s₁ lt₁ h₁ => ?_
    refine ((shows_comparison s₁).later h₁).andThen fun _ s₂ _ h₂ => ?_
    exact shows_silent (ends_emit _ _ (h₁.trans h₂))
  | _ => exact otherwise
termination_by 13 * s.left + 9

/-- The attempt and the comparison are called one after the other. -/
theorem shows_parenthesized (s : Cursor) :
    (parenthesized input s).Shows (Parser.parenthesized input s)
      (Activity.Under .primaryPredicate s) s.Past := by
  have inside :
      (advance input s fun s₁ _ => (disjunction input s₁).andThen fun _ s₂ _ =>
        silent (expect input s₂ .closeParen)).Shows
      (Parser.advance input s fun s₁ _ => (Parser.disjunction input s₁).andThen fun _ s₂ _ =>
        expect input s₂ .closeParen) (Activity.Under .parenthesized s) s.Past :=
    shows_advance fun s₁ lt₁ h₁ => ((shows_disjunction s₁).later h₁).andThen fun _ s₂ _ h₂ =>
      shows_expect (h₁.trans h₂)
  have attempt := inside.called.tighter
    (show Routine.primaryPredicate.level < Routine.parenthesized.level by decide)
  -- going back changes the operands and not the place
  have again (stack : Stack) :
      ((comparison input (s.back stack)).within (Nat.le_of_eq (s.left_back stack))).Shows
        ((Parser.comparison input (s.back stack)).within (Nat.le_of_eq (s.left_back stack)))
        (Activity.Under .primaryPredicate s) s.Past :=
    ((shows_comparison (s.back stack)).part (.refl s) (.inr (by decide))).within _
  rw [parenthesized, Parser.parenthesized]
  generalize called .parenthesized s _ = tried at attempt ⊢
  generalize Parser.advance input s _ = outcome at attempt ⊢
  obtain ⟨same, does, ends⟩ := attempt
  rw [same]
  cases outcome with
  | fault => exact (again _).behind does
  | read result after le =>
    dsimp only
    split
    · exact (again _).behind does
    · exact ⟨rfl, does, ends⟩
termination_by 13 * s.left + 8

theorem shows_comparison (s : Cursor) :
    (comparison input s).Shows (Parser.comparison input s) (Activity.IsCall .comparison s)
      s.Past := by
  rw [comparison, Parser.comparison]
  refine Shows.called ?_
  refine ((shows_expression s).tighter (by decide)).andThen fun _ s₁ le₁ h₁ => ?_
  cases operator? s₁.token with
  | none => exact shows_silent (ends_emit _ _ h₁)
  | some operator =>
    refine shows_advance fun s₂ lt₂ h₂ => ?_
    have options := (shows_silent (P := Activity.Under .options s₂) (ends_options input s₂)).called
    refine (options.later (h₁.trans h₂)).andThen fun options s₃ le₃ h₃ => ?_
    have h₃ := (h₁.trans h₂).onto h₃
    refine ((shows_expression s₃).later h₃).andThen fun _ s₄ _ h₄ => ?_
    exact shows_silent (ends_emit _ _ (h₃.trans h₄))
termination_by 13 * s.left + 7

theorem shows_expression (s : Cursor) :
    (expression input s).Shows (Parser.expression input s) (Activity.IsCall .expression s)
      s.Past := by
  rw [expression, Parser.expression]
  refine Shows.called ?_
  refine ((shows_sum s).tighter (by decide)).andThen fun _ s₁ le₁ h₁ => ?_
  split
  · refine shows_advance fun s₂ lt₂ h₂ => ?_
    refine ((shows_expression s₂).later (h₁.trans h₂)).andThen fun _ s₃ _ h₃ => ?_
    exact shows_silent (ends_emit _ _ ((h₁.trans h₂).trans h₃))
  · exact shows_done h₁
termination_by 13 * s.left + 6

theorem shows_sum (s : Cursor) :
    (sum input s).Shows (Parser.sum input s) (Activity.IsCall .sum s) s.Past := by
  rw [sum, Parser.sum]
  refine Shows.called ?_
  refine ((shows_product s).tighter (by decide)).andThen fun _ s₁ le₁ h₁ => ?_
  exact shows_summands s₁ h₁
termination_by 13 * s.left + 5

theorem shows_summands {routine : Routine} {s₀ : Cursor} (s : Cursor)
    (h : s₀.Past s) :
    (summands input s).Shows (Parser.summands input s) (Activity.Under routine s₀) s₀.Past := by
  rw [summands, Parser.summands]
  cases additiveSign? s.token with
  | none => exact shows_done h
  | some sign =>
    refine shows_advance fun s₁ lt₁ h₁ => ?_
    refine ((shows_product s₁).later (h.trans h₁)).andThen fun _ s₂ le₂ h₂ => ?_
    refine (shows_silent (ends_emit _ _ (h₁.trans h₂))).andThen fun _ s₃ le₃ takes => ?_
    exact (shows_summands s₃ (h.trans takes)).round h.upto takes
termination_by 13 * s.left + 0

theorem shows_product (s : Cursor) :
    (product input s).Shows (Parser.product input s) (Activity.IsCall .product s) s.Past := by
  rw [product, Parser.product]
  refine Shows.called ?_
  refine ((shows_power s).tighter (by decide)).andThen fun _ s₁ le₁ h₁ => ?_
  exact shows_factors s₁ h₁
termination_by 13 * s.left + 4

theorem shows_factors {routine : Routine} {s₀ : Cursor} (s : Cursor)
    (h : s₀.Past s) :
    (factors input s).Shows (Parser.factors input s) (Activity.Under routine s₀) s₀.Past := by
  rw [factors, Parser.factors]
  cases multiplicativeSign? s.token with
  | none => exact shows_done h
  | some sign =>
    refine shows_advance fun s₁ lt₁ h₁ => ?_
    refine ((shows_power s₁).later (h.trans h₁)).andThen fun _ s₂ le₂ h₂ => ?_
    refine (shows_silent (ends_emit _ _ (h₁.trans h₂))).andThen fun _ s₃ le₃ takes => ?_
    exact (shows_factors s₃ (h.trans takes)).round h.upto takes
termination_by 13 * s.left + 0

theorem shows_power (s : Cursor) :
    (power input s).Shows (Parser.power input s) (Activity.IsCall .power s) s.Past := by
  rw [power, Parser.power]
  refine Shows.called ?_
  refine ((shows_signed s).tighter (by decide)).andThen fun _ s₁ le₁ h₁ => ?_
  split
  · refine shows_advance fun s₂ lt₂ h₂ => ?_
    refine ((shows_power s₂).later (h₁.trans h₂)).andThen fun _ s₃ _ h₃ => ?_
    exact shows_silent (ends_emit _ _ ((h₁.trans h₂).trans h₃))
  · exact shows_done h₁
termination_by 13 * s.left + 3

theorem shows_signed (s : Cursor) :
    (signed input s).Shows (Parser.signed input s) (Activity.IsCall .signed s) s.Past := by
  rw [signed, Parser.signed]
  refine Shows.called ?_
  split
  · refine shows_advance fun s₁ lt₁ h₁ => ?_
    refine ((shows_signed s₁).later h₁).andThen fun _ s₂ _ h₂ => ?_
    exact shows_silent (ends_emit _ _ (h₁.trans h₂))
  · exact (shows_navigation s).tighter (by decide)
termination_by 13 * s.left + 2

theorem shows_navigation (s : Cursor) :
    (navigation input s).Shows (Parser.navigation input s) (Activity.IsCall .navigation s)
      s.Past := by
  rw [navigation, Parser.navigation]
  refine Shows.called ?_
  refine ((shows_primary s).tighter (by decide)).andThen fun _ s₁ le₁ h₁ => ?_
  exact shows_steps s₁ h₁
termination_by 13 * s.left + 1

theorem shows_steps {routine : Routine} {s₀ : Cursor} (s : Cursor)
    (h : s₀.Past s) :
    (steps input s).Shows (Parser.steps input s) (Activity.Under routine s₀) s₀.Past := by
  rw [steps, Parser.steps]
  cases token : s.token with
  | dot =>
    refine shows_advance fun s₁ lt₁ h₁ => ?_
    refine ((shows_segment s₁).later (h.trans h₁)).andThen fun _ s₂ le₂ h₂ => ?_
    refine (shows_silent (ends_emit _ _ (h₁.trans h₂))).andThen fun _ s₃ le₃ takes => ?_
    exact (shows_steps s₃ (h.trans takes)).round h.upto takes
  | openBracket =>
    refine shows_advance fun s₁ lt₁ h₁ => ?_
    refine ((shows_place s₁).later (h.trans h₁)).andThen fun _ s₂ le₂ h₂ => ?_
    refine (shows_expect (h₁.trans h₂)).andThen fun _ s₃ le₃ h₃ => ?_
    refine (shows_silent (ends_emit _ _ h₃)).andThen fun _ s₄ le₄ takes => ?_
    exact (shows_steps s₄ (h.trans takes)).round h.upto takes
  | _ => exact shows_done h
termination_by 13 * s.left + 0

theorem shows_segment (s : Cursor) :
    (segment input s).Shows (Parser.segment input s) (Activity.IsCall .segment s) s.Past := by
  rw [segment, Parser.segment]
  refine Shows.called ?_
  have otherwise := (shows_primary s).tighter
    (show Routine.segment.level < Routine.primary.level by decide)
  cases token : s.token with
  | identifier name => exact shows_silent (ends_leaf _)
  | self => exact shows_silent (ends_leaf _)
  | _ => exact otherwise
termination_by 13 * s.left + 1

theorem shows_place (s : Cursor) :
    (place input s).Shows (Parser.place input s) (Activity.IsCall .place s) s.Past := by
  rw [place, Parser.place]
  refine Shows.called ?_
  cases indexSymbol? s.token with
  | some symbol => exact shows_silent (ends_leaf _)
  | none => exact (shows_expression s).tighter (by decide)
termination_by 13 * s.left + 7

theorem shows_arguments {s₀ : Cursor} (close : Token) (count : Nat) (s : Cursor)
    (h : s₀.Upto s) :
    (arguments input close count s).Shows (Parser.arguments input close count s)
      (Activity.Under .arguments s₀) s₀.Past := by
  rw [arguments, Parser.arguments]
  split
  · exact shows_advance fun s₁ _ h₁ => shows_done (h.past h₁)
  · refine ((shows_expression s).part h (.inr (by decide))).andThen fun _ s₁ le₁ h₁ => ?_
    split
    · exact (shows_advance fun s₂ _ h₂ => shows_done ((h.past h₁).trans h₂)).round h h₁
    · split
      · refine shows_advance fun s₂ lt₂ h₂ => ?_
        have takes := h₁.trans h₂
        exact (shows_arguments close (count + 1) s₂ (h.past takes).upto).round h takes
      · exact shows_silent trivial
termination_by 13 * s.left + 7

theorem shows_primary (s : Cursor) :
    (primary input s).Shows (Parser.primary input s) (Activity.IsCall .primary s) s.Past := by
  rw [primary, Parser.primary]
  refine Shows.called ?_
  cases produced : production? s.token with
  | some production => exact shows_silent (ends_leaf _)
  | none =>
    cases token : s.token with
    | identifier name =>
      refine shows_advance fun s₁ lt₁ h₁ => ?_
      split
      · refine shows_advance fun s₂ lt₂ h₂ => ?_
        have items := (shows_arguments .closeParen 0 s₂ (.refl s₂)).called
        refine (items.later (h₁.trans h₂)).andThen fun arity s₃ _ h₃ => ?_
        exact shows_silent (ends_emit _ _ ((h₁.trans h₂).trans h₃))
      · exact shows_silent (ends_emit _ _ h₁)
    | openParen =>
      refine shows_advance fun s₁ lt₁ h₁ => ?_
      refine ((shows_expression s₁).later h₁).andThen fun _ s₂ _ h₂ => ?_
      exact shows_expect (h₁.trans h₂)
    | openBrace =>
      refine shows_advance fun s₁ lt₁ h₁ => ?_
      have items := (shows_arguments .closeBrace 0 s₁ (.refl s₁)).called
      refine (items.later h₁).andThen fun count s₂ _ h₂ => ?_
      exact shows_silent (ends_emit _ _ (h₁.trans h₂))
    | subquery =>
      refine shows_advance fun s₁ lt₁ h₁ => ?_
      refine (shows_expect h₁).andThen fun _ s₂ le₂ h₂ => ?_
      refine ((shows_expression s₂).later h₂).andThen fun _ s₃ le₃ h₃ => ?_
      refine (shows_expect (h₂.trans h₃)).andThen fun _ s₄ le₄ h₄ => ?_
      cases token : s₄.token with
      | var name =>
        refine shows_advance fun s₅ lt₅ h₅ => ?_
        refine (shows_expect (h₄.trans h₅)).andThen fun _ s₆ le₆ h₆ => ?_
        refine ((shows_disjunction s₆).later h₆).andThen fun _ s₇ _ h₇ => ?_
        refine (shows_expect (h₆.trans h₇)).andThen fun _ s₈ _ h₈ => ?_
        exact shows_silent (ends_emit _ _ h₈)
      | _ => exact shows_silent trivial
    | function =>
      refine shows_advance fun s₁ lt₁ h₁ => ?_
      refine (shows_expect h₁).andThen fun _ s₂ le₂ h₂ => ?_
      have items := (shows_arguments .closeParen 0 s₂ (.refl s₂)).called
      refine (items.later h₂).andThen fun arity s₃ _ h₃ => ?_
      exact shows_silent (ends_emit _ _ (h₂.trans h₃))
    | _ => exact shows_silent trivial
termination_by 13 * s.left + 0

end

end Phrases

end Observed

end Parser

/-! ## Positions -/

namespace Lexing

/-- Tokens start one behind the other, between the ends of the text. -/
theorem starts_ofChars (p : Nat) (text : List Char) :
    ((ofChars p text).lexemes.map Lexeme.start).Pairwise (· < ·)
      ∧ ∀ word ∈ (ofChars p text).lexemes, p ≤ word.start ∧ word.start ≤ p + text.length := by
  fun_induction ofChars p text with
  | case1 => simp
  | case2 => simp
  | case3 p text c rest first start t rest' read following ih =>
    have le : rest.length + 1 ≤ text.length := by
      have := length_dropWhile_le Text.isWhiteSpace text
      rwa [first] at this
    have shorter : rest'.length < rest.length + 1 := readToken_length read
    obtain ⟨increasing, between⟩ := ih
    refine ⟨List.pairwise_cons.mpr ⟨?_, increasing⟩, List.forall_mem_cons.mpr ⟨?_, ?_⟩⟩
    · refine List.forall_mem_map.mpr fun word mem => ?_
      have := (between word mem).1
      dsimp only [start]
      omega
    · dsimp only [start]
      omega
    · intro word mem
      have := between word mem
      omega

end Lexing

namespace Cursor

variable {s s₁ : Cursor} {n : Nat}

/-- From here on tokens start one behind the other, and none behind `n`. -/
structure IsOrdered (n : Nat) (s : Cursor) : Prop where
  increasing : (s.lexemes.map Lexeme.start).Pairwise (· < ·)
  within : ∀ word ∈ s.lexemes, word.start ≤ n

theorem IsOrdered.upto (h : s.IsOrdered n) (upto : s.Upto s₁) : s₁.IsOrdered n :=
  ⟨h.increasing.sublist (upto.sublist.map Lexeme.start),
    fun word mem => h.within word (upto.subset mem)⟩

theorem IsOrdered.position_le (h : s.IsOrdered n) : s.position ≤ n :=
  h.within s.current List.mem_cons_self

/-- The words between a place and one that lies behind it. -/
theorem Past.exists_words (past : s.Past s₁) :
    ∃ words, s.lexemes = s.current :: words ++ s₁.lexemes := by
  obtain ⟨⟨words, whole⟩, less⟩ := past
  cases words with
  | nil =>
    have same := congrArg List.length whole
    simp only [left, lexemes, List.nil_append, List.length_cons] at same less
    omega
  | cons word words =>
    obtain rfl : word = s.current := (List.cons.inj whole).1
    exact ⟨words, whole.symm⟩

/-- A place behind another has a later position. -/
theorem IsOrdered.position_lt (h : s.IsOrdered n) (past : s.Past s₁) : s.position < s₁.position := by
  obtain ⟨words, whole⟩ := past.exists_words
  have increasing := h.increasing
  rw [whole, List.cons_append, List.map_cons, List.pairwise_cons] at increasing
  refine increasing.1 _ (List.mem_map_of_mem ?_)
  exact List.mem_append_right words List.mem_cons_self

/-- A place that is not behind another, but not in front of it, has the same position. -/
theorem Upto.position_eq (upto : s.Upto s₁) (le : s.left ≤ s₁.left) : s₁.position = s.position := by
  have whole : s₁.lexemes = s.lexemes :=
    upto.eq_of_length_le (Nat.succ_le_succ le)
  exact congrArg Lexeme.start (List.cons.inj whole).1

end Cursor

namespace Parser

/-! ## Nested calls -/

/-- Every call inside the activity starts at a later position than its caller, or at the same
position for a tighter level of the grammar, and every round of a loop takes a token or more. -/
inductive Activity.Descends : Activity → Prop where
  | call {routine : Routine} {s : Cursor} {inside : List Activity}
    (descends : ∀ routine' s' inside', .call routine' s' inside' ∈ inside →
      s.position < s'.position ∨ s.position = s'.position ∧ routine.level < routine'.level)
    (below : ∀ a ∈ inside, Descends a) : Descends (.call routine s inside)
  | round {before after : Cursor} {words : List Lexeme} (taken : words ≠ [])
    (between : before.lexemes = words ++ after.lexemes) : Descends (.round before after)

/-- A call inside another starts later, or is for a tighter level. -/
theorem Activity.Under.later_or_tighter {routine routine' : Routine} {s s' : Cursor}
    {inside : List Activity} {n : Nat} (h : (Activity.call routine' s' inside).Under routine s)
    (ordered : s.IsOrdered n) :
    s.position < s'.position ∨ s.position = s'.position ∧ routine.level < routine'.level := by
  cases h with
  | call upto descends _ =>
    by_cases less : s'.left < s.left
    · exact .inl (ordered.position_lt ⟨upto, less⟩)
    · exact .inr ⟨(upto.position_eq (Nat.le_of_not_lt less)).symm, descends.resolve_left less⟩

theorem Activity.Under.descends {routine : Routine} {s : Cursor} {a : Activity} {n : Nat}
    (h : a.Under routine s) (ordered : s.IsOrdered n) : a.Descends := by
  induction h with
  | call upto _ under ih =>
    have ordered := ordered.upto upto
    exact .call (fun _ _ _ mem => (under _ mem).later_or_tighter ordered) fun a mem =>
      ih a mem ordered
  | round _ takes =>
    obtain ⟨words, whole⟩ := takes.exists_words
    exact .round (List.cons_ne_nil _ words) whole

/-- How deep calls can be nested from a call on, in a text with `n` characters: as many levels as
there are left at its place, and all of them at each later place. -/
def Activity.room (n : Nat) : Activity → Nat
  | call routine s _ => Routine.levels * (n - s.position) + (Routine.levels - routine.level)
  | round _ _ => 0

theorem Activity.room_le (n : Nat) (a : Activity) : a.room n ≤ Routine.levels * (n + 1) := by
  cases a with
  | call routine s inside =>
    have : Routine.levels * (n - s.position) ≤ Routine.levels * n :=
      Nat.mul_le_mul_left _ (Nat.sub_le _ _)
    simp only [room, Nat.mul_succ]
    omega
  | round => exact Nat.zero_le _

/-- Each call takes some of the room that its caller has. -/
theorem Activity.Under.room_lt {routine : Routine} {s : Cursor} {a : Activity} {n : Nat}
    (h : a.Under routine s) (ordered : s.IsOrdered n) (inside : List Activity) :
    a.room n < (Activity.call routine s inside).room n := by
  have lt := routine.level_lt
  cases a with
  | call routine' s' inside' =>
    cases h with
    | call upto descends under =>
      have le := (ordered.upto upto).position_le
      have := Activity.Under.later_or_tighter (.call upto descends under) ordered
      simp only [room, Routine.levels] at *
      omega
  | round => simp only [room]; omega

/-- Calls are nested no deeper than there is room, if that holds of the calls inside. -/
theorem Activity.depth_call_le {routine : Routine} {s : Cursor} {inside : List Activity} {n : Nat}
    (under : ∀ a ∈ inside, a.Under routine s) (ordered : s.IsOrdered n)
    (le : ∀ a ∈ inside, a.depth ≤ a.room n) :
    (Activity.call routine s inside).depth ≤ (Activity.call routine s inside).room n := by
  have some : 0 < (Activity.call routine s inside).room n := by
    have := routine.level_lt
    simp only [room]
    omega
  have less : depthAll inside ≤ (Activity.call routine s inside).room n - 1 :=
    depthAll_le fun a mem => Nat.le_sub_one_of_lt
      (Nat.lt_of_le_of_lt (le a mem) ((under a mem).room_lt ordered inside))
  exact Nat.add_le_of_le_sub some less

theorem Activity.Under.depth_le {routine : Routine} {s : Cursor} {a : Activity} {n : Nat}
    (h : a.Under routine s) (ordered : s.IsOrdered n) : a.depth ≤ a.room n := by
  induction h with
  | call upto _ under ih =>
    have ordered := ordered.upto upto
    exact depth_call_le under ordered fun a mem => ih a mem ordered
  | round _ takes => exact Nat.zero_le _

/-! ## Whole texts -/

theorem isOrdered_lex {text : String} {first : Lexeme} {following : List Lexeme} (stack : Stack)
    (h : (lex text).lexemes = first :: following) :
    Cursor.IsOrdered text.length ⟨first, following, stack⟩ := by
  obtain ⟨increasing, within⟩ := Lexing.starts_ofChars 0 text.toList
  rw [show (Lexing.ofChars 0 text.toList).lexemes = first :: following from h] at increasing within
  refine ⟨increasing, fun word mem => ?_⟩
  have := (within word mem).2
  rwa [Nat.zero_add, String.length_toList] at this

/-- Everything that is done for a text is done in one call at its beginning. -/
theorem Activity.IsCall.descends {routine : Routine} {s : Cursor} {a : Activity} {n : Nat}
    (h : a.IsCall routine s) (ordered : s.IsOrdered n) :
    a.Descends ∧ a.depth ≤ Routine.levels * (n + 1) := by
  obtain ⟨inside, rfl, under⟩ := h
  constructor
  · exact .call (fun _ _ _ mem => (under _ mem).later_or_tighter ordered) fun b mem =>
      (under b mem).descends ordered
  · have le := depth_call_le under ordered fun b mem => (under b mem).depth_le ordered
    exact Nat.le_trans le (room_le n _)

/-- If a function is observed to make calls inside one call of its own, then they descend in every
text. -/
theorem descends_activities {routine : Routine}
    {phrase : Input → (s : Cursor) → Observed Unit s.left}
    {reads : Input → (s : Cursor) → Outcome Unit s.left}
    (shows : ∀ input s, (phrase input s).Shows (reads input s) (Activity.IsCall routine s) s.Past)
    (text : String) (values : List Value) :
    ∀ a ∈ activities phrase text values,
      a.Descends ∧ a.depth ≤ Routine.levels * (text.length + 1) := by
  intro a mem
  unfold activities at mem
  split at mem
  · rename_i arguments first following _ cut
    exact ((shows _ _).does a mem).descends (isOrdered_lex [] cut)
  · cases mem

open Building in
/-- The parser with observation parses what the parser does. Whatever the text and the arguments, each
call starts at a later position than its caller, or at the same position for a tighter level of the
grammar, also after going back; every round of a loop takes a token; and calls are nested no deeper
than the number of levels times the number of positions. -/
theorem calls_descend (text : String) (values : List Value) :
    (whole (fun input s => (Observed.disjunction input s).outcome) finishPredicate text values
        = Predicate.parse text values
      ∧ ∀ a ∈ activities Observed.disjunction text values,
        a.Descends ∧ a.depth ≤ Routine.levels * (text.length + 1))
    ∧ whole (fun input s => (Observed.expression input s).outcome) finishExpr text values
        = Expr.parse text values
      ∧ ∀ a ∈ activities Observed.expression text values,
        a.Descends ∧ a.depth ≤ Routine.levels * (text.length + 1) := by
  have predicate : (fun input s => (Observed.disjunction input s).outcome) = disjunction :=
    funext fun input => funext fun s => (Observed.shows_disjunction s).same
  have expr : (fun input s => (Observed.expression input s).outcome) = expression :=
    funext fun input => funext fun s => (Observed.shows_expression s).same
  refine ⟨⟨by rw [predicate]; rfl, ?_⟩, by rw [expr]; rfl, ?_⟩
  · exact descends_activities (fun _ s => Observed.shows_disjunction s) text values
  · exact descends_activities (fun _ s => Observed.shows_expression s) text values

/-- In `(a + 1) * 2 > 3` the parenthesis is first tried as that of a predicate. The comparison that is
read after going back is called for the same position as the attempt, and not inside it. -/
theorem calls_descend_regrouped :
    let text := "(a + 1) * 2 > 3"
    ∃ a, activities Observed.disjunction text [] = [a] ∧ a.depth = 19 ∧ a.Descends
      ∧ a.depth ≤ Routine.levels * (text.length + 1) := by
  intro text
  have depths : (activities Observed.disjunction text []).map Activity.depth = [19] := by
    decide +kernel
  obtain ⟨a, only, depth⟩ := List.map_eq_singleton_iff.mp depths
  exact ⟨a, only, depth, (calls_descend text []).1.2 a (by simp [only])⟩

end Parser

end PredicateLang
