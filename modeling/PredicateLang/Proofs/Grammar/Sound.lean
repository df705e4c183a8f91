import PredicateLang.Proofs.Grammar.Outcome

/-!
# What the parser reads is derived

Every phrase that the parser reads is a phrase of the grammar, with the operands that were put on
the stack meanwhile; and a phrase that fails leaves what was on the stack before. Both are proved
together (`Outcome.Ensures`), because going back from a parenthesis is going back to the same stack
only if no production took anything from below.

The induction is on the number of lexemes that follow. A phrase that does not begin with a tighter
phrase takes a lexeme first, so it finds the others at fewer lexemes (`Below`); then the phrases at
the same number follow one after the other, from the tightest to the loosest.
-/

open PredicateLang.Parser

namespace PredicateLang.Grammar

variable {input : Input} {phrase : Phrase} {s s' : Cursor} {n : Nat}

/-- A phrase lies between two places. -/
def Between (arguments : Arguments) (phrase : Phrase) (s s' : Cursor) : Prop :=
  ∃ words operands, s.Reaches words operands s' ∧ Derives arguments phrase words operands

/-- The outcome is that of a phrase. -/
def Reads (arguments : Arguments) (phrase : Phrase) (s : Cursor) (outcome : Outcome Unit s.left) :
    Prop :=
  outcome.Ensures s.stack fun _ s' => Between arguments phrase s s'

/-! ## Chains of phrases

In the rules `s₀` is where the whole phrase began, and `w` and `xs` are the words and operands
since. -/

section Chains

variable {s₀ : Cursor} {w : List Lexeme} {xs : List Operand} {β : Type} {Q : β → Cursor → Prop}

theorem Reads.andThen {outcome : Outcome Unit s.left}
    {next : Unit → (s' : Cursor) → s'.left ≤ s.left → Outcome β s'.left}
    (h : Reads input.arguments phrase s outcome) (since : s₀.Reaches w xs s)
    (h' : ∀ v ys s' le, s₀.Reaches (w ++ v) (xs ++ ys) s' →
      Derives input.arguments phrase v ys → (next () s' le).Ensures s₀.stack Q) :
    (outcome.andThen next).Ensures s₀.stack Q :=
  (h.imp since.suffix fun _ _ => id).andThen fun _ s' le ⟨v, ys, reaches, derives⟩ =>
    h' v ys s' le (since.trans reaches) derives

/-- A phrase that consists of another. -/
theorem Reads.lift {outer : Phrase} {outcome : Outcome Unit s.left}
    (h : Reads input.arguments phrase s outcome)
    (rule : ∀ w ops, Derives input.arguments phrase w ops → Derives input.arguments outer w ops) :
    Reads input.arguments outer s outcome :=
  h.imp (List.suffix_refl _) fun _ _ ⟨w, ops, reaches, derives⟩ =>
    ⟨w, ops, reaches, rule w ops derives⟩

theorem ensures_advance_since {next : (s' : Cursor) → s'.left < s.left → Outcome β s'.left}
    (since : s₀.Reaches w xs s)
    (h : ∀ s' lt, s₀.Reaches (w ++ [s.current]) xs s' → (next s' lt).Ensures s₀.stack Q) :
    (advance input s next).Ensures s₀.stack Q :=
  ensures_advance since.suffix fun s' lt reaches => h s' lt (by simpa using since.trans reaches)

theorem ensures_expect_since {token : Token} {Q : Unit → Cursor → Prop}
    (since : s₀.Reaches w xs s)
    (h : ∀ s', s.token = token → s₀.Reaches (w ++ [s.current]) xs s' → Q () s') :
    (expect input s token).Ensures s₀.stack Q :=
  ensures_expect since.suffix fun s' e reaches => h s' e (by simpa using since.trans reaches)

theorem expect_andThen_since {token : Token}
    {next : Unit → (s' : Cursor) → s'.left ≤ s.left → Outcome β s'.left}
    (since : s₀.Reaches w xs s)
    (h : ∀ s' le, s.token = token → s₀.Reaches (w ++ [s.current]) xs s' →
      (next () s' le).Ensures s₀.stack Q) :
    ((expect input s token).andThen next).Ensures s₀.stack Q :=
  (ensures_expect_since (Q := fun _ s' => s.token = token ∧ s₀.Reaches (w ++ [s.current]) xs s')
    since fun _ e reaches => ⟨e, reaches⟩).andThen fun _ s' le ⟨e, reaches⟩ => h s' le e reaches

/-- A production takes all operands since the beginning of the phrase. -/
theorem ensures_emit_since {position : Nat} {production : Production} {Q : Unit → Cursor → Prop}
    (since : s₀.Reaches w xs s) (sorts : xs.map Operand.sort = production.takes)
    (h : ∀ x s', production.Makes input.arguments position xs x → s₀.Reaches w [x] s' →
      Q () s') :
    (emit input s position production).Ensures s₀.stack Q :=
  ensures_emit since.2 sorts fun x made => h x { s with stack := x :: s₀.stack } made ⟨since.1, rfl⟩

theorem emit_andThen_since {position : Nat} {production : Production}
    {next : Unit → (s' : Cursor) → s'.left ≤ s.left → Outcome β s'.left}
    (since : s₀.Reaches w xs s) (sorts : xs.map Operand.sort = production.takes)
    (h : ∀ x s' le, production.Makes input.arguments position xs x → s₀.Reaches w [x] s' →
      (next () s' le).Ensures s₀.stack Q) :
    ((emit input s position production).andThen next).Ensures s₀.stack Q :=
  (ensures_emit_since
    (Q := fun _ s' => ∃ x, production.Makes input.arguments position xs x ∧ s₀.Reaches w [x] s')
    since sorts fun x _ made reaches => ⟨x, made, reaches⟩).andThen
      fun _ s' le ⟨x, made, reaches⟩ => h x s' le made reaches

end Chains

/-! ## Phrases with fewer lexemes after them -/

/-- What is known of the phrases that are read while fewer than `n` lexemes follow. The loops are
told what was read before them. -/
structure Below (input : Input) (n : Nat) : Prop where
  disjunction : ∀ s : Cursor, s.left < n →
    Reads input.arguments .disjunction s (disjunction input s)
  disjuncts : ∀ {s₀ s : Cursor} {w ps}, s.left < n → s₀.Reaches w ps s →
    Derives input.arguments .disjuncts w ps →
    (disjuncts input ps.length s).Ensures s₀.stack fun count s' => ∃ v qs, s₀.Reaches v qs s' ∧
      Derives input.arguments .disjuncts v qs ∧ count = qs.length
  conjunction : ∀ s : Cursor, s.left < n →
    Reads input.arguments .conjunction s (conjunction input s)
  conjuncts : ∀ {s₀ s : Cursor} {w ps}, s.left < n → s₀.Reaches w ps s →
    Derives input.arguments .conjuncts w ps →
    (conjuncts input ps.length s).Ensures s₀.stack fun count s' => ∃ v qs, s₀.Reaches v qs s' ∧
      Derives input.arguments .conjuncts v qs ∧ count = qs.length
  negation : ∀ s : Cursor, s.left < n → Reads input.arguments .negation s (negation input s)
  comparison : ∀ s : Cursor, s.left < n →
    Reads input.arguments .comparison s (comparison input s)
  expression : ∀ s : Cursor, s.left < n →
    Reads input.arguments .expression s (expression input s)
  product : ∀ s : Cursor, s.left < n → Reads input.arguments .product s (product input s)
  summands : ∀ {s₀ s : Cursor} {w es}, s.left < n → s₀.Reaches w es s →
    Derives input.arguments .sum w es →
    (summands input s).Ensures s₀.stack fun _ s' => Between input.arguments .sum s₀ s'
  power : ∀ s : Cursor, s.left < n → Reads input.arguments .power s (power input s)
  factors : ∀ {s₀ s : Cursor} {w es}, s.left < n → s₀.Reaches w es s →
    Derives input.arguments .product w es →
    (factors input s).Ensures s₀.stack fun _ s' => Between input.arguments .product s₀ s'
  signed : ∀ s : Cursor, s.left < n → Reads input.arguments .signed s (signed input s)
  segment : ∀ s : Cursor, s.left < n → Reads input.arguments .segment s (segment input s)
  place : ∀ s : Cursor, s.left < n → Reads input.arguments .place s (place input s)
  steps : ∀ {s₀ s : Cursor} {w es}, s.left < n → s₀.Reaches w es s →
    Derives input.arguments .navigation w es →
    (steps input s).Ensures s₀.stack fun _ s' => Between input.arguments .navigation s₀ s'
  arguments : ∀ (close : Token) (count : Nat) (s : Cursor), s.left < n →
    (arguments input close count s).Ensures s.stack fun total s' => ∃ v es, ∃ right : Lexeme,
      s.Reaches (v ++ [right]) es s' ∧ Derives input.arguments .items v es ∧
        right.token = close ∧ total = count + es.length

/-! ## Leaves and options -/

theorem reads_leaf {production : Production} (takes : production.takes = [])
    (rule : ∀ x, production.Makes input.arguments s.position [] x →
      Derives input.arguments phrase [s.current] [x]) :
    Reads input.arguments phrase s (leaf input s production) :=
  ensures_advance_since (.refl s) fun _ _ since =>
    ensures_emit_since since (by simp [takes]) fun x _ made reaches =>
      ⟨[s.current], [x], reaches, rule x made⟩

theorem ensures_options :
    (options input s).Ensures s.stack fun options s' =>
      ∃ w, s.Reaches w [] s' ∧ Suffix w options := by
  rw [Parser.options]
  split
  · rename_i opens
    refine ensures_advance_since (.refl s) fun s₁ _ r₁ => ?_
    split
    · rename_i letters names
      split
      · rename_i options known
        refine ensures_advance_since r₁ fun s₂ _ r₂ => ?_
        refine expect_andThen_since r₂ fun s₃ _ closes r₃ => ?_
        exact ensures_done ⟨_, r₃, .flags opens names known closes⟩
      · exact ensures_wrong r₁.suffix
    · exact ensures_wrong r₁.suffix
  · exact ensures_done ⟨[], .refl s, .none⟩

/-! ## Phrases with the same number of lexemes after them -/

section Level

variable (below : Below input n)

include below

theorem ensures_steps {s₀ s : Cursor} {w : List Lexeme} {es : List Operand} (le : s.left ≤ n)
    (since : s₀.Reaches w es s) (before : Derives input.arguments .navigation w es) :
    (steps input s).Ensures s₀.stack fun _ s' => Between input.arguments .navigation s₀ s' := by
  have one := before.map_sort_of_single rfl
  rw [steps]
  split
  · rename_i point
    refine ensures_advance_since since fun s₁ lt₁ r₁ => ?_
    refine (below.segment s₁ (by omega)).andThen r₁ fun v fs s₂ le₂ r₂ segment => ?_
    have sorts : (es ++ fs).map Operand.sort = Production.dot.takes := by
      rw [List.map_append, one, segment.map_sort_of_single rfl]
      rfl
    refine emit_andThen_since r₂ sorts fun x s₃ le₃ made r₃ => ?_
    refine below.steps (by omega) r₃ ?_
    simpa using before.dot point segment made
  · rename_i opens
    refine ensures_advance_since since fun s₁ lt₁ r₁ => ?_
    refine (below.place s₁ (by omega)).andThen r₁ fun v fs s₂ le₂ r₂ place => ?_
    refine expect_andThen_since r₂ fun s₃ le₃ closes r₃ => ?_
    have sorts : (es ++ fs).map Operand.sort = Production.index.takes := by
      rw [List.map_append, one, place.map_sort_of_single rfl]
      rfl
    refine emit_andThen_since r₃ sorts fun x s₄ le₄ made r₄ => ?_
    refine below.steps (by omega) r₄ ?_
    simpa using before.index opens place closes made
  · exact ensures_done ⟨w, es, since, before⟩

theorem ensures_factors {s₀ s : Cursor} {w : List Lexeme} {es : List Operand} (le : s.left ≤ n)
    (since : s₀.Reaches w es s) (before : Derives input.arguments .product w es) :
    (factors input s).Ensures s₀.stack fun _ s' => Between input.arguments .product s₀ s' := by
  rw [factors]
  split
  · exact ensures_done ⟨w, es, since, before⟩
  · rename_i operation sign
    refine ensures_advance_since since fun s₁ lt₁ r₁ => ?_
    refine (below.power s₁ (by omega)).andThen r₁ fun v fs s₂ le₂ r₂ power => ?_
    have sorts : (es ++ fs).map Operand.sort = (Production.arithmetic operation).takes := by
      rw [List.map_append, before.map_sort_of_single rfl, power.map_sort_of_single rfl]
      rfl
    refine emit_andThen_since r₂ sorts fun x s₃ le₃ made r₃ => ?_
    refine below.factors (by omega) r₃ ?_
    simpa using before.multiply sign power made

theorem ensures_summands {s₀ s : Cursor} {w : List Lexeme} {es : List Operand} (le : s.left ≤ n)
    (since : s₀.Reaches w es s) (before : Derives input.arguments .sum w es) :
    (summands input s).Ensures s₀.stack fun _ s' => Between input.arguments .sum s₀ s' := by
  rw [summands]
  split
  · exact ensures_done ⟨w, es, since, before⟩
  · rename_i operation sign
    refine ensures_advance_since since fun s₁ lt₁ r₁ => ?_
    refine (below.product s₁ (by omega)).andThen r₁ fun v fs s₂ le₂ r₂ product => ?_
    have sorts : (es ++ fs).map Operand.sort = (Production.arithmetic operation).takes := by
      rw [List.map_append, before.map_sort_of_single rfl, product.map_sort_of_single rfl]
      rfl
    refine emit_andThen_since r₂ sorts fun x s₃ le₃ made r₃ => ?_
    refine below.summands (by omega) r₃ ?_
    simpa using before.add sign product made

theorem ensures_conjuncts {s₀ s : Cursor} {w : List Lexeme} {ps : List Operand} (le : s.left ≤ n)
    (since : s₀.Reaches w ps s) (before : Derives input.arguments .conjuncts w ps) :
    (conjuncts input ps.length s).Ensures s₀.stack fun count s' => ∃ v qs, s₀.Reaches v qs s' ∧
      Derives input.arguments .conjuncts v qs ∧ count = qs.length := by
  rw [conjuncts]
  split
  · rename_i sign
    refine ensures_advance_since since fun s₁ lt₁ r₁ => ?_
    refine (below.negation s₁ (by omega)).andThen r₁ fun v qs s₂ le₂ r₂ part => ?_
    have count : ps.length + 1 = (ps ++ qs).length := by simp [part.length_eq_one rfl]
    rw [count]
    refine below.conjuncts (by omega) r₂ ?_
    simpa using before.next_conjunct sign part
  · exact ensures_done ⟨w, ps, since, before, rfl⟩

theorem ensures_disjuncts {s₀ s : Cursor} {w : List Lexeme} {ps : List Operand} (le : s.left ≤ n)
    (since : s₀.Reaches w ps s) (before : Derives input.arguments .disjuncts w ps) :
    (disjuncts input ps.length s).Ensures s₀.stack fun count s' => ∃ v qs, s₀.Reaches v qs s' ∧
      Derives input.arguments .disjuncts v qs ∧ count = qs.length := by
  rw [disjuncts]
  split
  · rename_i sign
    refine ensures_advance_since since fun s₁ lt₁ r₁ => ?_
    refine (below.conjunction s₁ (by omega)).andThen r₁ fun v qs s₂ le₂ r₂ part => ?_
    have count : ps.length + 1 = (ps ++ qs).length := by simp [part.length_eq_one rfl]
    rw [count]
    refine below.disjuncts (by omega) r₂ ?_
    simpa using before.next_disjunct sign part
  · exact ensures_done ⟨w, ps, since, before, rfl⟩

theorem ensures_arguments (close : Token) (count : Nat) (s : Cursor) (le : s.left ≤ n)
    (expression : Reads input.arguments .expression s (expression input s)) :
    (arguments input close count s).Ensures s.stack fun total s' => ∃ v es, ∃ right : Lexeme,
      s.Reaches (v ++ [right]) es s' ∧ Derives input.arguments .items v es ∧
        right.token = close ∧ total = count + es.length := by
  rw [arguments]
  split
  · rename_i closes
    exact ensures_advance_since (.refl s) fun s₁ _ r₁ =>
      ensures_done ⟨[], [], s.current, r₁, .no_items, closes, rfl⟩
  · refine expression.andThen (.refl s) fun v es s₁ le₁ r₁ item => ?_
    have one := item.length_eq_one rfl
    split
    · rename_i closes
      exact ensures_advance_since r₁ fun s₂ _ r₂ =>
        ensures_done ⟨v, es, s₁.current, r₂, .last_item item, closes, by simp [one]⟩
    · split
      · rename_i comma
        refine ensures_advance_since r₁ fun s₂ lt₂ r₂ => ?_
        refine (below.arguments close (count + 1) s₂ (by omega)).imp r₂.suffix ?_
        rintro total s₃ ⟨u, fs, right, r₃, items, closes, rfl⟩
        refine ⟨v ++ s₁.current :: u, es ++ fs, right, ?_, item.next_item comma items, closes, ?_⟩
        · simpa using r₂.trans r₃
        · simp [one, Nat.add_assoc]
      · exact ensures_wrong r₁.suffix

theorem arguments_andThen_since {s₀ s : Cursor} {w : List Lexeme} {xs : List Operand}
    {close : Token} {β : Type} {Q : β → Cursor → Prop}
    {next : Nat → (s' : Cursor) → s'.left ≤ s.left → Outcome β s'.left} (lt : s.left < n)
    (since : s₀.Reaches w xs s)
    (h : ∀ v es (right : Lexeme) s' le, s₀.Reaches (w ++ (v ++ [right])) (xs ++ es) s' →
      Derives input.arguments .items v es → right.token = close →
        (next es.length s' le).Ensures s₀.stack Q) :
    ((arguments input close 0 s).andThen next).Ensures s₀.stack Q := by
  refine ((below.arguments close 0 s lt).imp since.suffix fun _ _ => id).andThen ?_
  rintro total s' le ⟨v, es, right, reaches, items, closes, rfl⟩
  rw [Nat.zero_add]
  exact h v es right s' le (since.trans reaches) items closes

theorem reads_primary (le : s.left ≤ n) :
    Reads input.arguments .primary s (primary input s) := by
  rw [primary]
  split
  · rename_i production leaf
    exact reads_leaf (takes_of_production leaf) fun x => .leaf leaf
  · split
    · rename_i name word
      refine ensures_advance_since (.refl s) fun s₁ lt₁ r₁ => ?_
      split
      · rename_i opens
        refine ensures_advance_since r₁ fun s₂ lt₂ r₂ => ?_
        refine arguments_andThen_since below (by omega) r₂ fun v es right s₃ le₃ r₃ items closes => ?_
        refine ensures_emit_since r₃ items.map_sort fun x s₄ made r₄ => ⟨_, _, r₄, ?_⟩
        exact .call word opens items closes made
      · exact ensures_emit_since r₁ rfl fun x s₂ made r₂ => ⟨_, _, r₂, .name word made⟩
    · rename_i opens
      refine ensures_advance_since (.refl s) fun s₁ lt₁ r₁ => ?_
      refine (below.expression s₁ (by omega)).andThen r₁ fun v es s₂ le₂ r₂ part => ?_
      refine ensures_expect_since r₂ fun s₃ closes r₃ => ⟨_, _, r₃, ?_⟩
      exact .enclosed_expression opens part closes
    · rename_i opens
      refine ensures_advance_since (.refl s) fun s₁ lt₁ r₁ => ?_
      refine arguments_andThen_since below (by omega) r₁ fun v es right s₂ le₂ r₂ items closes => ?_
      refine ensures_emit_since r₂ items.map_sort fun x s₃ made r₃ => ⟨_, _, r₃, ?_⟩
      exact .list opens items closes made
    · rename_i word
      refine ensures_advance_since (.refl s) fun s₁ lt₁ r₁ => ?_
      refine expect_andThen_since r₁ fun s₂ le₂ opens r₂ => ?_
      refine (below.expression s₂ (by omega)).andThen r₂ fun u es s₃ le₃ r₃ collection => ?_
      refine expect_andThen_since r₃ fun s₄ le₄ comma r₄ => ?_
      split
      · rename_i name var
        refine ensures_advance_since r₄ fun s₅ lt₅ r₅ => ?_
        refine expect_andThen_since r₅ fun s₆ le₆ comma' r₆ => ?_
        refine (below.disjunction s₆ (by omega)).andThen r₆ fun v ps s₇ le₇ r₇ predicate => ?_
        refine expect_andThen_since r₇ fun s₈ le₈ closes r₈ => ?_
        have sorts : (es ++ ps).map Operand.sort = (Production.subquery name).takes := by
          rw [List.map_append, collection.map_sort_of_single rfl, predicate.map_sort_of_single rfl]
          rfl
        refine ensures_emit_since r₈ sorts fun x s₉ made r₉ => ⟨_, _, r₉, ?_⟩
        simpa using Derives.subquery word opens collection comma var comma' predicate closes made
      · exact ensures_wrong r₄.suffix
    · rename_i word
      refine ensures_advance_since (.refl s) fun s₁ lt₁ r₁ => ?_
      refine expect_andThen_since r₁ fun s₂ le₂ opens r₂ => ?_
      refine arguments_andThen_since below (by omega) r₂ fun v es right s₃ le₃ r₃ items closes => ?_
      refine ensures_emit_since r₃ items.map_sort fun x s₄ made r₄ => ⟨_, _, r₄, ?_⟩
      exact .functionForm word opens items closes made
    · exact ensures_wrong (List.suffix_refl _)

theorem reads_segment (le : s.left ≤ n) :
    Reads input.arguments .segment s (segment input s) := by
  rw [Parser.segment]
  split
  · rename_i name word
    exact reads_leaf rfl fun x => .named_segment word
  · rename_i word
    exact reads_leaf rfl fun x => .self_segment word
  · exact (reads_primary below le).lift fun _ _ => .primary_segment

theorem reads_navigation (le : s.left ≤ n) :
    Reads input.arguments .navigation s (navigation input s) := by
  rw [navigation]
  refine (reads_primary below le).andThen (.refl s) fun v es s₁ le₁ r₁ part => ?_
  exact ensures_steps below (by omega) r₁ part.primary_navigation

theorem reads_signed (le : s.left ≤ n) : Reads input.arguments .signed s (signed input s) := by
  rw [signed]
  split
  · rename_i sign
    refine ensures_advance_since (.refl s) fun s₁ lt₁ r₁ => ?_
    refine (below.signed s₁ (by omega)).andThen r₁ fun v es s₂ le₂ r₂ part => ?_
    refine ensures_emit_since r₂ (part.map_sort_of_single rfl) fun x s₃ made r₃ => ⟨_, _, r₃, ?_⟩
    exact .negate sign part made
  · exact (reads_navigation below le).lift fun _ _ => .navigation_signed

theorem reads_power (le : s.left ≤ n) : Reads input.arguments .power s (power input s) := by
  rw [power]
  refine (reads_signed below le).andThen (.refl s) fun u es s₁ le₁ r₁ base => ?_
  split
  · rename_i sign
    refine ensures_advance_since r₁ fun s₂ lt₂ r₂ => ?_
    refine (below.power s₂ (by omega)).andThen r₂ fun v fs s₃ le₃ r₃ exponent => ?_
    have sorts : (es ++ fs).map Operand.sort = (Production.arithmetic .power).takes := by
      rw [List.map_append, base.map_sort_of_single rfl, exponent.map_sort_of_single rfl]
      rfl
    refine ensures_emit_since r₃ sorts fun x s₄ made r₄ => ⟨_, _, r₄, ?_⟩
    simpa using base.raise sign exponent made
  · exact ensures_done ⟨u, es, r₁, base.signed_power⟩

theorem reads_product (le : s.left ≤ n) : Reads input.arguments .product s (product input s) := by
  rw [product]
  refine (reads_power below le).andThen (.refl s) fun v es s₁ le₁ r₁ part => ?_
  exact ensures_factors below (by omega) r₁ part.power_product

theorem reads_sum (le : s.left ≤ n) : Reads input.arguments .sum s (sum input s) := by
  rw [sum]
  refine (reads_product below le).andThen (.refl s) fun v es s₁ le₁ r₁ part => ?_
  exact ensures_summands below (by omega) r₁ part.product_sum

theorem reads_expression (le : s.left ≤ n) :
    Reads input.arguments .expression s (expression input s) := by
  rw [expression]
  refine (reads_sum below le).andThen (.refl s) fun u es s₁ le₁ r₁ target => ?_
  split
  · rename_i sign
    refine ensures_advance_since r₁ fun s₂ lt₂ r₂ => ?_
    refine (below.expression s₂ (by omega)).andThen r₂ fun v fs s₃ le₃ r₃ value => ?_
    have sorts : (es ++ fs).map Operand.sort = Production.assignment.takes := by
      rw [List.map_append, target.map_sort_of_single rfl, value.map_sort_of_single rfl]
      rfl
    refine ensures_emit_since r₃ sorts fun x s₄ made r₄ => ⟨_, _, r₄, ?_⟩
    simpa using target.assignment sign value made
  · exact ensures_done ⟨u, es, r₁, target.sum_expression⟩

theorem reads_place (le : s.left ≤ n) : Reads input.arguments .place s (place input s) := by
  rw [place]
  split
  · rename_i symbol word
    exact reads_leaf rfl fun x => .symbol_place word
  · rename_i no_symbol
    refine (reads_expression below le).imp (List.suffix_refl _) ?_
    rintro _ s₁ ⟨w, es, r₁, part⟩
    refine ⟨w, es, r₁, part.expression_place fun word mem => ?_⟩
    rwa [r₁.head_eq word mem]

theorem reads_comparison (le : s.left ≤ n) :
    Reads input.arguments .comparison s (comparison input s) := by
  rw [comparison]
  refine (reads_expression below le).andThen (.refl s) fun u es s₁ le₁ r₁ left => ?_
  have one := left.map_sort_of_single rfl
  split
  · refine ensures_emit_since r₁ one fun x s₂ made r₂ => ⟨_, _, r₂, ?_⟩
    rw [← r₁.start_eq (left.ne_nil (by simp))] at made
    exact .truth left made
  · rename_i operator sign
    refine ensures_advance_since r₁ fun s₂ lt₂ r₂ => ?_
    refine (ensures_options.imp r₂.suffix fun _ _ => id).andThen ?_
    rintro options s₃ le₃ ⟨x, r₃, suffix⟩
    have r₃ := r₂.trans r₃
    refine (below.expression s₃ (by omega)).andThen r₃ fun v fs s₄ le₄ r₄ right => ?_
    have sorts : (es ++ [] ++ fs).map Operand.sort = (Production.comparison operator options).takes := by
      rw [List.append_nil, List.map_append, one, right.map_sort_of_single rfl]
      rfl
    refine ensures_emit_since r₄ sorts fun y s₅ made r₅ => ⟨_, _, r₅, ?_⟩
    rw [List.append_nil] at made
    simpa using left.compare sign suffix right made

/-- A predicate in parentheses. Whatever was tried before, the comparison is read from the same
place and the same stack. -/
theorem reads_parenthesized (le : s.left ≤ n) (opens : s.token = .openParen) :
    Reads input.arguments .primaryPredicate s (parenthesized input s) := by
  have attempt : (advance input s fun s₁ _ =>
      (disjunction input s₁).andThen fun _ s₂ _ => expect input s₂ .closeParen).Ensures s.stack
        fun _ s' => Between input.arguments .primaryPredicate s s' := by
    refine ensures_advance_since (.refl s) fun s₁ lt₁ r₁ => ?_
    refine (below.disjunction s₁ (by omega)).andThen r₁ fun v ps s₂ le₂ r₂ part => ?_
    refine ensures_expect_since r₂ fun s₃ closes r₃ => ⟨_, _, r₃, ?_⟩
    exact .enclosed_predicate opens part closes
  have otherwise : ∀ stack, s.stack <:+ stack → Reads input.arguments .primaryPredicate s
      ((comparison input (s.back stack)).within (Nat.le_of_eq (s.left_back _))) := by
    intro stack suffix
    have e := Cursor.back_eq suffix
    refine ((reads_comparison below (s := s.back stack) le).imp ?_ fun _ s' => ?_).within _
    · simp only [e, List.suffix_refl]
    · rw [e]
      exact fun ⟨w, ps, reaches, part⟩ => ⟨w, ps, reaches, part.comparison_primary⟩
  rw [parenthesized]
  split
  · rename_i after le₁ e
    rw [e] at attempt
    split
    · obtain ⟨w, ps, reaches, _⟩ := attempt
      exact otherwise _ reaches.suffix
    · exact attempt
  · rename_i error stack e
    rw [e] at attempt
    exact otherwise _ attempt

theorem reads_primaryPredicate (le : s.left ≤ n) :
    Reads input.arguments .primaryPredicate s (primaryPredicate input s) := by
  rw [primaryPredicate]
  split
  · rename_i value word
    exact reads_leaf rfl fun x => .predicateConstant word
  · rename_i opens
    exact reads_parenthesized below le opens
  · split
    · rename_i quantifier word
      refine ensures_advance_since (.refl s) fun s₁ lt₁ r₁ => ?_
      refine (below.comparison s₁ (by omega)).andThen r₁ fun v ps s₂ le₂ r₂ part => ?_
      refine ensures_emit_since r₂ (part.map_sort_of_single rfl) fun x s₃ made r₃ =>
        ⟨_, _, r₃, ?_⟩
      exact .quantified word part made
    · exact (reads_comparison below le).lift fun _ _ => .comparison_primary

theorem reads_negation (le : s.left ≤ n) :
    Reads input.arguments .negation s (negation input s) := by
  rw [negation]
  split
  · rename_i sign
    refine ensures_advance_since (.refl s) fun s₁ lt₁ r₁ => ?_
    refine (below.negation s₁ (by omega)).andThen r₁ fun v ps s₂ le₂ r₂ part => ?_
    refine ensures_emit_since r₂ (part.map_sort_of_single rfl) fun x s₃ made r₃ =>
      ⟨_, _, r₃, ?_⟩
    exact .not sign part made
  · exact (reads_primaryPredicate below le).lift fun _ _ => .primary_negation

theorem reads_conjunction (le : s.left ≤ n) :
    Reads input.arguments .conjunction s (conjunction input s) := by
  rw [conjunction]
  refine (reads_negation below le).andThen (.refl s) fun u ps s₁ le₁ r₁ part => ?_
  have loop := ensures_conjuncts below (by omega) r₁ part.first_conjunct
  rw [List.nil_append, part.length_eq_one rfl] at loop
  refine loop.andThen ?_
  rintro count s₂ le₂ ⟨v, qs, r₂, parts, rfl⟩
  split
  · rename_i several
    refine ensures_emit_since r₂ parts.map_sort fun x s₃ made r₃ => ⟨_, _, r₃, ?_⟩
    rw [← r₂.start_eq (parts.ne_nil nofun)] at made
    exact .and parts several made
  · rename_i single
    exact ensures_done ⟨v, qs, r₂, (parts.of_conjuncts (by omega)).negation_conjunction⟩

theorem reads_disjunction (le : s.left ≤ n) :
    Reads input.arguments .disjunction s (disjunction input s) := by
  rw [disjunction]
  refine (reads_conjunction below le).andThen (.refl s) fun u ps s₁ le₁ r₁ part => ?_
  have loop := ensures_disjuncts below (by omega) r₁ part.first_disjunct
  rw [List.nil_append, part.length_eq_one rfl] at loop
  refine loop.andThen ?_
  rintro count s₂ le₂ ⟨v, qs, r₂, parts, rfl⟩
  split
  · rename_i several
    refine ensures_emit_since r₂ parts.map_sort fun x s₃ made r₃ => ⟨_, _, r₃, ?_⟩
    rw [← r₂.start_eq (parts.ne_nil nofun)] at made
    exact .or parts several made
  · rename_i single
    exact ensures_done ⟨v, qs, r₂, (parts.of_disjuncts (by omega)).conjunction_disjunction⟩

end Level

/-! ## All phrases -/

theorem below_all (input : Input) (n : Nat) : Below input n := by
  induction n with
  | zero => constructor <;> intros <;> omega
  | succ n below =>
    constructor
    · exact fun s lt => reads_disjunction below (by omega)
    · exact fun lt since before => ensures_disjuncts below (by omega) since before
    · exact fun s lt => reads_conjunction below (by omega)
    · exact fun lt since before => ensures_conjuncts below (by omega) since before
    · exact fun s lt => reads_negation below (by omega)
    · exact fun s lt => reads_comparison below (by omega)
    · exact fun s lt => reads_expression below (by omega)
    · exact fun s lt => reads_product below (by omega)
    · exact fun lt since before => ensures_summands below (by omega) since before
    · exact fun s lt => reads_power below (by omega)
    · exact fun lt since before => ensures_factors below (by omega) since before
    · exact fun s lt => reads_signed below (by omega)
    · exact fun s lt => reads_segment below (by omega)
    · exact fun s lt => reads_place below (by omega)
    · exact fun lt since before => ensures_steps below (by omega) since before
    · exact fun close count s lt =>
        ensures_arguments below close count s (by omega) (reads_expression below (by omega))

/-- What is read as a predicate is derived as one. -/
theorem disjunction_sound (input : Input) (s : Cursor) :
    Reads input.arguments .disjunction s (disjunction input s) :=
  (below_all input (s.left + 1)).disjunction s (Nat.lt_succ_self _)

/-- What is read as an expression is derived as one. -/
theorem expression_sound (input : Input) (s : Cursor) :
    Reads input.arguments .expression s (expression input s) :=
  (below_all input (s.left + 1)).expression s (Nat.lt_succ_self _)

end PredicateLang.Grammar
