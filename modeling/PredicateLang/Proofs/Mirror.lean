import PredicateLang.Proofs.Effects.Plain
import PredicateLang.Proofs.Kinds.Conversion
import PredicateLang.Proofs.Order

/-!
# Comparisons and their mirror images

A comparison with its operands exchanged says the same as the comparison that is its mirror image.
The operands are then lowered and evaluated in the other order, so this needs that neither of them
has effects. Which operand is cast to the kind of the other does not depend on their sides.
-/

namespace PredicateLang

open Tracing

/-! ## Kinds of exchanged operands -/

/-- No two kinds have one position among the kinds that can be cast to one another. -/
theorem Kind.eq_of_rank? {k k' : Kind} {n : Nat} (h : k.rank? = some n) (h' : k'.rank? = some n) :
    k = k' := by
  have small (k : IntegerKind) : k.rank < 8 := by cases k <;> decide
  cases k <;> simp only [rank?, reduceCtorEq, Option.some.injEq] at h <;>
    cases k' <;> simp only [rank?, reduceCtorEq, Option.some.injEq] at h' <;> subst h
  case integer.integer k k' => exact congrArg _ (Evaluation.rank_injective h'.symm)
  case integer.float k | integer.double k | integer.string k | integer.guid k =>
    have := small k
    omega
  case float.integer k | double.integer k | string.integer k | guid.integer k =>
    have := small k
    omega
  all_goals first | rfl | cases h'

namespace Target

theorem makeScalarsComparable_swap {t s : Target} (differ : t.kind ≠ s.kind) :
    Agrees (fun p q => q = p.swap) (t.makeScalarsComparable s) (s.makeScalarsComparable t) := by
  have mixed : Agrees (fun p q => q = p.swap)
      (if t.kind.isScalar ∧ s.kind.isScalar then
        .error (.type (.incomparable t.kind s.kind)) else .ok (t, s) : Except Error _)
      (if s.kind.isScalar ∧ t.kind.isScalar then
        .error (.type (.incomparable s.kind t.kind)) else .ok (s, t)) := by
    by_cases both : t.kind.isScalar ∧ s.kind.isScalar
    · rw [if_pos both, if_pos both.symm]
      exact .error _ _
    · rw [if_neg both, if_neg fun both' => both both'.symm]
      exact .ok rfl
  unfold makeScalarsComparable
  cases rank : t.kind.rank? with
  | none =>
    cases rank' : s.kind.rank? with
    | none => exact .ok rfl
    | some r => exact mixed
  | some l =>
    cases rank' : s.kind.rank? with
    | none => exact mixed
    | some r =>
      have ne : l ≠ r := by
        rintro rfl
        exact differ (Kind.eq_of_rank? rank rank')
      dsimp only
      by_cases less : l < r
      · rw [if_pos less, if_neg (Nat.lt_asymm less)]
        cases t.cast s.kind with
        | error e => exact .error e e
        | ok u => exact .ok rfl
      · rw [if_neg less, if_pos (by omega)]
        cases s.cast t.kind with
        | error e => exact .error e e
        | ok u => exact .ok rfl

/-- Exchanged operands are brought to the same kind. -/
theorem makeComparable_swap (t s : Target) :
    Agrees (fun p q => q = p.swap) (t.makeComparable s) (s.makeComparable t) := by
  unfold makeComparable
  by_cases early : t.kind = s.kind ∨ t.kind.isDynamic ∨ s.kind.isDynamic
  · have early' : s.kind = t.kind ∨ s.kind.isDynamic ∨ t.kind.isDynamic := by
      rw [eq_comm, or_comm (a := (s.kind.isDynamic : Prop))]
      exact early
    rw [if_pos early, if_pos early']
    exact .ok rfl
  · have early' : ¬(s.kind = t.kind ∨ s.kind.isDynamic ∨ t.kind.isDynamic) := by
      rw [eq_comm, or_comm (a := (s.kind.isDynamic : Prop))]
      exact early
    rw [if_neg early, if_neg early']
    cases t.kind.isSequence <;> cases s.kind.isSequence <;> dsimp only
    · exact makeScalarsComparable_swap fun same => early (.inl same)
    · cases t.castToElement s.kind with
      | error e => exact .error e e
      | ok u => exact .ok rfl
    · cases s.castToElement t.kind with
      | error e => exact .error e e
      | ok u => exact .ok rfl
    · exact .ok rfl

end Target

/-- The results of two steps agree if both agree with the results of a third. -/
theorem Agrees.trans {α β γ : Type} {P : α → β → Prop} {Q : β → γ → Prop} {made : Except Error α}
    {made' : Except Error β} {made'' : Except Error γ} (h : Agrees P made made')
    (h' : Agrees Q made' made'') : Agrees (fun a c => ∃ b, P a b ∧ Q b c) made made'' := by
  cases h with
  | ok holds =>
    cases h' with
    | ok holds' => exact .ok ⟨_, holds, holds'⟩
  | error e e' =>
    cases h' with
    | error => exact .error _ _

/-- The results are there or not. -/
theorem Agrees.exists_results {α β : Type} {P : α → β → Prop} {made : Except Error α}
    {made' : Except Error β} (h : Agrees P made made') :
    (∃ a b, made = .ok a ∧ made' = .ok b ∧ P a b) ∨ ∃ e e', made = .error e ∧ made' = .error e' := by
  cases h with
  | ok holds => exact .inl ⟨_, _, rfl, rfl, holds⟩
  | error e e' => exact .inr ⟨e, e', rfl, rfl⟩

/-! ## Steps in the other order -/

namespace Lowering

variable {α α' β β' γ γ' : Type} {first : Lowering α} {first' : Lowering α'} {second : Lowering β}
  {second' : Lowering β'} {next : α → β → Lowering γ} {next' : β' → α' → Lowering γ'}
  {P : α → α' → Prop} {Q : β → β' → Prop} {R : γ → γ' → Prop} {settings : Settings}

section

variable {S : Scope → Scope → Prop} {run : EStateM.Result Error Scope α}
  {run' : EStateM.Result Error Scope α'}

theorem Outcomes.symm (h : Outcomes P S run run') : Outcomes (flip P) (flip S) run' run := by
  cases h with
  | ok holds scopes => exact .ok holds scopes
  | error e e' after after' => exact .error e' e after' after

theorem Outcomes.exists_error {e : Error} {after : Scope}
    (h : Outcomes P S (.error e after) run') : ∃ e' after', run' = .error e' after' := by
  cases h with
  | error _ e' _ after' => exact ⟨e', after', rfl⟩

end

/-- The outcomes of two steps are related wherever the scopes are. Whatever a scope was related to
before the one step it is related to after it, and it is related to where the other step leads. -/
def Steady (rel : Scope → Scope → Prop) (settings : Settings) (step : Lowering α)
    (step' : Lowering α') (P : α → α' → Prop) : Prop :=
  ∀ scope scope', rel scope scope' →
    Outcomes P (fun after after' => rel scope after' ∧ ∀ other, rel scope other → rel after other)
      (step settings scope) (step' settings scope')

/-- Steady steps may be done in either order. -/
theorem Steady.swap {rel S : Scope → Scope → Prop} (h : Steady rel settings first first' P)
    (h' : Steady rel settings second second' Q) {scope scope' : Scope} (start : rel scope scope')
    (rest : ∀ a a' b b' after after', P a a' → Q b b' → rel after after' →
      Outcomes R S (next a b settings after) (next' b' a' settings after')) :
    Outcomes R S ((do let a ← first; let b ← second; next a b : Lowering γ) settings scope)
      ((do let b ← second'; let a ← first'; next' b a : Lowering γ') settings scope') := by
  have one := h scope scope' start
  have two := h' scope scope' start
  cases run : first settings scope with
  | error e after =>
    rw [bind_run_of_error run]
    cases run' : second' settings scope' with
    | error e' after' =>
      rw [bind_run_of_error run']
      exact .error e e' after after'
    | ok b' between' =>
      -- Where the second step leads, the first one still fails.
      rw [run'] at two
      obtain ⟨_, _, -, -, leads, -⟩ := two.symm.exists_ok
      have late := h scope between' leads
      rw [run] at late
      obtain ⟨e', after', run''⟩ := late.exists_error
      rw [bind_run_of_ok run', bind_run_of_error run'']
      exact .error e e' after after'
  | ok a between =>
    rw [bind_run_of_ok run]
    rw [run] at one
    obtain ⟨_, _, -, -, -, keeps⟩ := one.exists_ok
    -- After the first step the second one does what it does at the start.
    have after_first := h' between scope' (keeps scope' start)
    cases run' : second' settings scope' with
    | error e' after' =>
      rw [run'] at after_first
      obtain ⟨e, after, run''⟩ := after_first.symm.exists_error
      rw [bind_run_of_error run', bind_run_of_error run'']
      exact .error e e' after after'
    | ok b' between' =>
      rw [run'] at after_first two
      obtain ⟨b, after, run'', holds', -, keeps'⟩ := after_first.symm.exists_ok
      obtain ⟨_, _, -, -, leads, -⟩ := two.symm.exists_ok
      have late := h scope between' leads
      rw [run] at late
      obtain ⟨a', after', run''', holds, leads', -⟩ := late.exists_ok
      rw [bind_run_of_ok run', bind_run_of_ok run'', bind_run_of_ok run''']
      exact rest a a' b b' after after' holds holds' (keeps' _ (keeps _ leads'))

/-- Names that are not made up are there at any time, whichever of them stand for themselves. -/
theorem Alike.only {names names' : String → Prop} (h : Alike (.only names) first first' P) :
    Alike (.only names') first first' P := fun settings scope scope' _ =>
  h settings scope scope' (Naming.old_only names _ _)

theorem Alike.swap {ρ : Naming} (h : Alike ρ first first' P) (h' : Alike ρ second second' Q)
    (rest : ∀ a a' b b', P a a' → Q b b' → Alike ρ (next a b) (next' b' a') R) :
    Alike ρ (do let a ← first; let b ← second; next a b : Lowering γ)
      (do let b ← second'; let a ← first'; next' b a : Lowering γ') R := by
  intro settings scope scope' old
  have steady {δ δ' : Type} {step : Lowering δ} {step' : Lowering δ'} {P : δ → δ' → Prop}
      (h : Alike ρ step step' P) :
      Steady (fun after after' => scope.Leads after ∧ scope'.Leads after') settings step step' P := by
    rintro between between' ⟨leads, leads'⟩
    refine (h settings between between' (old.mono leads.counter leads'.counter)).mono
      (fun _ _ holds => holds) ?_
    rintro after after' ⟨further, further'⟩
    exact ⟨⟨leads, leads'.trans further'⟩, fun _ both => ⟨both.1.trans further, both.2⟩⟩
  refine (steady h).swap (steady h') ⟨.refl scope, .refl scope'⟩ ?_
  rintro a a' b b' between between' holds holds' ⟨leads, leads'⟩
  refine (rest a a' b b' holds holds' settings between between'
    (old.mono leads.counter leads'.counter)).mono (fun _ _ holds => holds) ?_
  rintro after after' ⟨further, further'⟩
  exact ⟨leads.trans further, leads'.trans further'⟩

theorem Matches.swap {names : String → Bool} (h : Matches names true first first' P)
    (h' : Matches names true second second' Q)
    (rest : ∀ a a' b b', P a a' → Q b b' → Matches names true (next a b) (next' b' a') R) :
    Matches names true (do let a ← first; let b ← second; next a b : Lowering γ)
      (do let b ← second'; let a ← first'; next' b a : Lowering γ') R := by
  intro settings scope scope' proper agree
  have steady {δ δ' : Type} {step : Lowering δ} {step' : Lowering δ'} {P : δ → δ' → Prop}
      (h : Matches names true step step' P) :
      Steady (fun after after' => Moves true scope after ∧ after.AgreeOn names after')
        settings step step' P := by
    rintro between between' ⟨moves, agree⟩
    refine (h settings between between' moves.proper agree).mono (fun _ _ holds => holds) ?_
    rintro after after' ⟨agree, further⟩
    have same := further.bindings rfl
    refine ⟨⟨moves, fun key named => ?_⟩, fun other both => ⟨both.1.trans further, ?_⟩⟩
    · rw [← same]
      exact agree key named
    · intro key named
      rw [same]
      exact both.2 key named
  refine (steady h).swap (steady h') ⟨⟨proper, fun _ => rfl⟩, agree⟩ ?_
  rintro a a' b b' between between' holds holds' ⟨moves, agree⟩
  refine (rest a a' b b' holds holds' settings between between' moves.proper agree).mono
    (fun _ _ holds => holds) ?_
  rintro after after' ⟨agree, further⟩
  exact ⟨agree, moves.trans further⟩

end Lowering

/-! ## Comparisons of exchanged operands -/

/-- Pairs of alike trees on exchanged sides. -/
def Target.Crossed (p q : Target × Target) : Prop :=
  p.1.Alike false .outer q.2 ∧ p.2.Alike false .outer q.1

/-- Two operations on alike operands, which have exchanged their sides. -/
inductive Target.Mirrored (op op' : BinaryOp) : Target → Target → Prop where
  | intro {t t' s s' : Target} (left : t.Alike false .outer t') (right : s.Alike false .outer s') :
    Mirrored op op' (.binary .boolean op t s) (.binary .boolean op' s' t')

namespace Lowering

variable {t t' s s' : Target}

theorem crossed_makeComparable (h : t.Alike false .outer t') (h' : s.Alike false .outer s') :
    Agrees Target.Crossed (t.makeComparable s) (s'.makeComparable t') := by
  have crossed := (alike_makeComparable h h').trans (t'.makeComparable_swap s')
  generalize t.makeComparable s = made at crossed
  generalize s'.makeComparable t' = made' at crossed
  cases crossed with
  | ok holds =>
    obtain ⟨_, alike, rfl⟩ := holds
    exact .ok alike
  | error e e' => exact .error e e'

theorem mirrored_relate (op op' : BinaryOp) (h : t.Alike false .outer t')
    (h' : s.Alike false .outer s') :
    Alike .outer (relate op t s) (relate op' s' t') (Target.Mirrored op op') := by
  refine (alike_ofResult (crossed_makeComparable h h')).bind ?_
  rintro ⟨u, v⟩ ⟨v', u'⟩ ⟨left, right⟩
  exact alike_pure (.intro left right)

/-- Neither of two operators that mirror each other is about regular expressions. -/
theorem crossed_foldOperands {op op' : Operator} (mirror : op.mirror? = some op')
    (options : Options) (h : t.Alike false .outer t') (h' : s.Alike false .outer s') :
    Alike .outer (foldOperands options op t s) (foldOperands options op' s' t')
      Target.Crossed := by
  have both : op ≠ .isMatch ∧ op' ≠ .isMatch := by cases op <;> cases mirror <;> decide
  unfold foldOperands
  refine alike_settings.bind ?_
  rintro settings _ rfl
  simp only [both, if_false]
  split
  · exact (alike_foldCase h).swap (alike_foldCase h') fun _ _ _ _ left right =>
      alike_pure ⟨left, right⟩
  · exact alike_pure ⟨h, h'⟩

/-- Operators that mirror each other are lowered to operations that do. -/
theorem mirrored_comparison {op op' : Operator} (mirror : op.mirror? = some op')
    (options : Options) (h : t.Alike false .outer t') (h' : s.Alike false .outer s') :
    Alike .outer (comparison op .direct options t s) (comparison op' .direct options s' t')
      (fun u v => ∃ o o', o.mirror? = some o' ∧ Target.Mirrored o o' u v) := by
  obtain ⟨o, o', mirror', one, other⟩ : ∃ o o' : BinaryOp, o.mirror? = some o'
      ∧ compare op = relate o ∧ compare op' = relate o' := by
    cases op <;> cases mirror <;> exact ⟨_, _, rfl, rfl, rfl⟩
  refine (crossed_foldOperands mirror options h h').bind ?_
  rintro ⟨u, v⟩ ⟨v', u'⟩ ⟨left, right⟩
  show Alike .outer (compare op u v) (compare op' v' u') _
  rw [one, other]
  exact (mirrored_relate o o' left right).mono fun _ _ made => ⟨o, o', mirror', made⟩

/-- A comparison of expressions without effects and its mirror image are lowered to operations that
mirror each other, or neither can be lowered. -/
theorem mirrored_lower {a b : Expr} (pure : a.isPure) (pure' : b.isPure) {op op' : Operator}
    (mirror : op.mirror? = some op') (options : Options) :
    Matches (fun _ => true) true (Predicate.comparison a op b .direct options).lower
      (Predicate.comparison b op' a .direct options).lower
      (fun u v => ∃ o o', o.mirror? = some o' ∧ Target.Mirrored o o' u v) := by
  have alike {e : Expr} (pure : e.isPure) :
      Matches (fun _ => true) true e.lower e.lower (Target.Alike false (.keys fun _ => true)) :=
    e.matches_lower (.inr pure) (e.mentionsOnly_of_forall fun _ => rfl)
  have outer {t t' : Target} (h : t.Alike false (.keys fun _ => true) t') :
      t.Alike false .outer t' := h.extend (Naming.extend_only fun _ _ => trivial)
  refine (alike pure).swap (alike pure') fun _ _ _ _ left right => ?_
  exact (mirrored_comparison mirror options (outer left) (outer right)).only.matches

end Lowering

/-! ## Evaluation in the other order -/

namespace Target

variable {world : World} {around : Surroundings} {store : Store}

/-- The result of an operation on operands without effects comes of their results. -/
theorem result_binary {t s : Target} (quiet : t.hasEffects = false) (quiet' : s.hasEffects = false)
    {op : BinaryOp} (strict : op.isConnective = false) (kind : Kind) :
    ((binary kind op t s).traced world around store).result = (do
      let v ← (t.traced world around store).result
      let w ← (s.traced world around store).result
      Evaluation.binary kind op v w) := by
  rw [traced_binary kind strict, (t.quiet_traced quiet).result_bind]
  refine congrArg _ (funext fun v => ?_)
  rw [(s.quiet_traced quiet').result_bind]
  exact congrArg _ (funext fun w => result_still_ofResult _)

/-- Operations that mirror each other give the same truth value, or both fail. -/
theorem Mirrored.agrees {op op' : BinaryOp} {t t' : Target} (h : Mirrored op op' t t')
    (mirror : op.mirror? = some op') :
    Agrees (fun v v' => ∃ answer, v = .boolean answer ∧ v' = .boolean answer)
      (t.traced world around store).result (t'.traced world around store).result := by
  cases h with
  | @intro t t' s s' left right =>
    have strict : op.isConnective = false ∧ op'.isConnective = false := by
      cases op <;> cases mirror <;> decide
    rw [result_binary left.hasEffects_eq_false right.hasEffects_eq_false strict.1,
      result_binary (right.hasEffects_eq.trans right.hasEffects_eq_false)
        (left.hasEffects_eq.trans left.hasEffects_eq_false) strict.2,
      left.result_eq, right.result_eq]
    cases (t.traced world around store).result with
    | error e =>
      cases (s.traced world around store).result with
      | error e' => exact .error e e'
      | ok w => exact .error e e
    | ok v =>
      cases (s.traced world around store).result with
      | error e => exact .error e e
      | ok w =>
        obtain ⟨answer, one, other⟩ := Evaluation.binary_mirror mirror .boolean v w
        show Agrees _ (Evaluation.binary _ op v w) (Evaluation.binary _ op' w v)
        rw [one, other]
        exact .ok ⟨answer, rfl, rfl⟩

theorem Mirrored.hasEffects_eq_false {op op' : BinaryOp} {t t' : Target}
    (h : Mirrored op op' t t') : t.hasEffects = false ∧ t'.hasEffects = false := by
  cases h with
  | intro left right =>
    simp [hasEffects, left.hasEffects_eq, right.hasEffects_eq, left.hasEffects_eq_false,
      right.hasEffects_eq_false]

end Target

/-! ## Answers -/

/-- The truth for an object, unless evaluation fails. -/
def Compiled.answer? (c : Compiled) (object : Value) (world : World) (memory : Memory) :
    Option Bool :=
  match c.test object world memory with
  | .ok b _ => some b
  | .error _ _ => none

/-- What a predicate says of an object. Nothing if it cannot be compiled for objects of the kind, or
not be evaluated for this one. -/
def Predicate.answer? (p : Predicate) (kind : Kind) (settings : Settings) (object : Value)
    (world : World) (memory : Memory) : Option Bool :=
  match p.compile kind settings with
  | .ok c => c.answer? object world memory
  | .error _ => none

section

variable {kind : Kind} {settings : Settings} {object : Value} {world : World} {memory : Memory}

theorem Compiled.answer?_of_result {c : Compiled} {b : Bool} (pure : c.target.hasEffects = false)
    (ok : (c.runOn object world memory).result = .ok (.boolean b)) :
    c.answer? object world memory = some b := by
  rw [answer?, test_of_result pure ok]

theorem Compiled.answer?_of_error {c : Compiled} {e : Error}
    (failed : (c.runOn object world memory).result = .error e) :
    c.answer? object world memory = none := by
  unfold answer?
  cases run : c.test object world memory with
  | error => rfl
  | ok b after =>
    rcases tells_of_test run with ok | ⟨ok, -⟩ <;> rw [failed] at ok <;> cases ok

theorem Predicate.answer?_of_lower {p : Predicate} {t : Target} {after : Scope}
    (run : p.lower settings (.root kind settings) = .ok t after) :
    p.answer? kind settings object world memory
      = Compiled.answer? ⟨t, settings.dialect⟩ object world memory := by
  have compiled : p.compile kind settings = .ok ⟨t, settings.dialect⟩ :=
    compile_eq_ok.mpr ⟨rfl, after, run⟩
  rw [answer?, compiled]

theorem Predicate.answer?_of_lower_error {p : Predicate} {e : Error} {after : Scope}
    (run : p.lower settings (.root kind settings) = .error e after) :
    p.answer? kind settings object world memory = none := by
  unfold answer?
  cases compiled : p.compile kind settings with
  | error => rfl
  | ok c =>
    obtain ⟨-, after', ok⟩ := compile_eq_ok.mp compiled
    rw [run] at ok
    cases ok

/-- Exchanging the operands of a comparison and taking the mirror image of its operator changes
nothing about what it says of any object. -/
theorem Predicate.answer?_mirror {a b : Expr} (pure : a.isPure) (pure' : b.isPure)
    {op op' : Operator} (mirror : op.mirror? = some op') (options : Options) :
    (comparison b op' a .direct options).answer? kind settings object world memory
      = (comparison a op b .direct options).answer? kind settings object world memory := by
  have lowered := Lowering.mirrored_lower pure pure' mirror options settings
    (.root kind settings) (.root kind settings) (Scope.isProper_root kind settings) fun _ _ => rfl
  cases run : (comparison a op b .direct options).lower settings (.root kind settings) with
  | error e after =>
    rw [run] at lowered
    obtain ⟨e', after', run'⟩ := lowered.exists_error
    rw [answer?_of_lower_error run, answer?_of_lower_error run']
  | ok t after =>
    rw [run] at lowered
    obtain ⟨t', after', run', ⟨o, o', mirror', mirrored⟩, -⟩ := lowered.exists_ok
    rw [answer?_of_lower run, answer?_of_lower run']
    obtain ⟨quiet, quiet'⟩ := mirrored.hasEffects_eq_false
    have agrees : Agrees (fun v v' => ∃ answer, v = .boolean answer ∧ v' = .boolean answer)
        (Compiled.runOn ⟨t, settings.dialect⟩ object world memory).result
        (Compiled.runOn ⟨t', settings.dialect⟩ object world memory).result :=
      mirrored.agrees mirror'
    obtain ⟨_, _, result, result', answer, rfl, rfl⟩ | ⟨e, e', result, result'⟩ :=
      agrees.exists_results
    · rw [Compiled.answer?_of_result quiet result, Compiled.answer?_of_result quiet' result']
    · rw [Compiled.answer?_of_error result, Compiled.answer?_of_error result']

end

/-- Of someone who is twelve years old it may be said either way that they are not of age. -/
theorem Predicate.answer?_mirror_minor :
    (comparison (.constant (.int 18)) .greater (.path "age") .direct .none).answer? .any
        (.ofDialect .objects) (.object [("age", .int 12)]) ⟨.reference, fun _ => 0⟩ .empty = some true
      ∧ (comparison (.path "age") .less (.constant (.int 18)) .direct .none).answer? .any
        (.ofDialect .objects) (.object [("age", .int 12)]) ⟨.reference, fun _ => 0⟩ .empty
          = some true := by
  have minor : (comparison (.path "age") .less (.constant (.int 18)) .direct .none).answer? .any
      (.ofDialect .objects) (.object [("age", .int 12)]) ⟨.reference, fun _ => 0⟩ .empty
        = some true := by
    decide +kernel
  refine ⟨?_, minor⟩
  rw [answer?_mirror (by decide) (by decide) (rfl : Operator.mirror? .less = some .greater) .none]
  exact minor

end PredicateLang
