/-!
# Results that are there

What a step must have been through if it has a result: each part of it has one too. Of two steps
`Agrees P` says that both have results, which `P` relates, or neither has one.
-/

namespace PredicateLang

variable {ε α β α' β' : Type}

theorem eq_ok_of_map {made : Except ε α} {f : α → β} {b : β} (h : made.map f = .ok b) :
    ∃ a, made = .ok a ∧ f a = b := by
  cases made with
  | error error => cases h
  | ok a => exact ⟨a, rfl, Except.ok.inj h⟩

theorem exists_of_bind_ok {step : Except ε α} {next : α → Except ε β} {b : β}
    (h : step >>= next = .ok b) : ∃ a, step = .ok a ∧ next a = .ok b := by
  cases step with
  | error => cases h
  | ok a => exact ⟨a, rfl, h⟩

/-- If a sequence of steps with a state succeeds, both steps do. -/
theorem exists_of_run_bind {ρ σ : Type} {step : ReaderT ρ (EStateM ε σ) α}
    {next : α → ReaderT ρ (EStateM ε σ) β} {r : ρ} {before after : σ} {b : β}
    (h : (step >>= next) r before = .ok b after) :
    ∃ a between, step r before = .ok a between ∧ next a r between = .ok b after := by
  simp only [Bind.bind, ReaderT.bind, EStateM.bind] at h
  cases first : step r before with
  | error e between =>
    rw [first] at h
    cases h
  | ok a between =>
    rw [first] at h
    exact ⟨a, between, rfl, h⟩

theorem exists_of_mapM_ok {f : α → Except ε β} {as : List α} {bs : List β}
    (h : as.mapM f = .ok bs) : ∀ b ∈ bs, ∃ a ∈ as, f a = .ok b := by
  induction as generalizing bs with
  | nil =>
    rw [List.mapM_nil] at h
    cases h
    exact nofun
  | cons a rest ih =>
    rw [List.mapM_cons] at h
    obtain ⟨b, made, h⟩ := exists_of_bind_ok h
    obtain ⟨others, all, h⟩ := exists_of_bind_ok h
    cases h
    refine List.forall_mem_cons.mpr ⟨⟨a, List.mem_cons_self, made⟩, fun c mem => ?_⟩
    obtain ⟨a', mem', made'⟩ := ih all c mem
    exact ⟨a', List.mem_cons_of_mem _ mem', made'⟩

/-- If a step succeeds on each of several things, it succeeds on all of them. -/
theorem exists_mapM_ok {f : α → Except ε β} {P : β → Prop} {as : List α}
    (h : ∀ a ∈ as, ∃ b, f a = .ok b ∧ P b) : ∃ bs, as.mapM f = .ok bs ∧ ∀ b ∈ bs, P b := by
  induction as with
  | nil => exact ⟨[], rfl, nofun⟩
  | cons a rest ih =>
    obtain ⟨⟨b, made, holds⟩, others⟩ := List.forall_mem_cons.mp h
    obtain ⟨bs, all, hold⟩ := ih others
    refine ⟨b :: bs, ?_, List.forall_mem_cons.mpr ⟨holds, hold⟩⟩
    rw [List.mapM_cons, made]
    show (do return b :: (← rest.mapM f) : Except ε (List β)) = .ok (b :: bs)
    rw [all]
    rfl

/-- A result with a property that can be checked. -/
theorem exists_of_any (made : Except ε α) (has : α → Bool) (h : made.toOption.any has) :
    ∃ a, made = .ok a ∧ has a := by
  cases made with
  | error => cases h
  | ok a => exact ⟨a, rfl, h⟩

/-! ## Two results -/

/-- Both results are there and related, or neither is there. -/
inductive Agrees (P : α → α' → Prop) : Except ε α → Except ε α' → Prop where
  | ok {a : α} {a' : α'} (holds : P a a') : Agrees P (.ok a) (.ok a')
  | error (e e' : ε) : Agrees P (.error e) (.error e')

variable {P : α → α' → Prop} {Q : β → β' → Prop} {made : Except ε α} {made' : Except ε α'}

theorem Agrees.of_ok {a : α} {a' : α'}
    (h : Agrees P (.ok a : Except ε α) (.ok a' : Except ε α')) : P a a' := by
  cases h with
  | ok holds => exact holds

theorem agrees_refl (made : Except ε α) : Agrees Eq made made := by
  cases made with
  | ok a => exact .ok rfl
  | error e => exact .error e e

theorem Agrees.bind {next : α → Except ε β} {next' : α' → Except ε β'} (h : Agrees P made made')
    (h' : ∀ a a', P a a' → Agrees Q (next a) (next' a')) :
    Agrees Q (made >>= next) (made' >>= next') := by
  cases h with
  | ok holds => exact h' _ _ holds
  | error e e' => exact .error e e'

/-- A result may be taken for another one that agrees with it. -/
theorem Agrees.eq_trans {made'' : Except ε α} (h : Agrees Eq made'' made)
    (h' : Agrees P made made') : Agrees P made'' made' := by
  cases h with
  | ok same => exact same ▸ h'
  | error e e' =>
    cases h' with
    | error => exact .error _ _

/-- Two results may be asked for in either order. -/
theorem agrees_swap {γ : Type} (first : Except ε α) (second : Except ε β)
    (next : α → β → Except ε γ) :
    Agrees Eq (do let a ← first; let b ← second; next a b)
      (do let b ← second; let a ← first; next a b) := by
  cases first with
  | error e =>
    cases second with
    | error e' => exact .error e e'
    | ok b => exact .error e e
  | ok a =>
    cases second with
    | error e' => exact .error e' e'
    | ok b => exact agrees_refl (next a b)

end PredicateLang
