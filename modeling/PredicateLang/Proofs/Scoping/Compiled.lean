import PredicateLang.Proofs.Invariant.Compiled
import PredicateLang.Proofs.Scoping.Evaluation

/-!
# Compiled trees name nothing unknown

Where nothing is assigned, every name in a compiled tree is that of the object or is introduced by a
node above it, wherever the tree has been put on the way. So evaluation about an object never comes
upon a name that stands for nothing (`Compiled.isClosed_of_compile`).
-/

open PredicateLang.Lowering PredicateLang.Target PredicateLang.Evaluation

namespace PredicateLang

/-! ## The invariant -/

/-- The names are introduced. -/
def Binders.Introduce (Γ : Binders) (G : Set String) : Prop :=
  ∀ name ∈ G, (Fields.find? Γ name).isSome

theorem Binders.Introduce.push {Γ : Binders} {G : Set String} (h : Γ.Introduce G) (name : String)
    (binder : Binder) : Introduce ((name, binder) :: Γ) (insert name G) := by
  intro other mem
  rw [Fields.find?]
  split
  · rfl
  · rename_i ne
    exact h other (mem.resolve_left (Ne.symm ne))

theorem Target.isIntroduced_of_ne {Γ : Binders} {t : Target}
    (other : ∀ kind name, t ≠ .parameter kind name) : t.IsIntroduced Γ := by
  cases t with
  | parameter kind name => exact absurd rfl (other kind name)
  | _ => trivial

/-- Trees whose names are introduced. -/
def Dialect.closed (d : Dialect) : Invariant d :=
  .everywhere IsIntroduced Binders.Introduce (fun under le name mem => under name (le mem))
    (fun under _ => under.push _ _) (fun under mem => under _ mem)
    fun _ other _ => isIntroduced_of_ne other

/-! ## Compiled trees -/

section

variable {α : Type} {object : Value} {world : World} {memory after : Memory} {name : String}

/-- About an object there is a slot for the object. -/
theorem Tracing.Bound.about {step : Tracing α} {plain : Evaluation α}
    (h : Tracing.Bound [(Scope.objectName, .other)] step) (traces : Tracing.Traces step plain) :
    about object plain world memory ≠ .error (.evaluation (.unboundParameter name)) after := by
  intro failed
  -- Evaluation starts with one slot and no variables, whatever was there before.
  let start : Memory := ({ Memory.empty with drawn := memory.drawn }).push Scope.objectName object
  have nothing : Surroundings.Covers ⟨[], []⟩ [] := fun _ => id
  have covers : Surroundings.Covers ⟨start.slots, []⟩ [(Scope.objectName, .other)] :=
    nothing.push Scope.objectName .other object
  have nameless := h world ⟨start.slots, []⟩ ⟨start.assigned, start.drawn⟩ covers
  unfold Evaluation.about at failed
  rw [← traces [], Tracing.evaluation, Run.outcome] at failed
  cases result : (step world ⟨start.slots, []⟩ ⟨start.assigned, start.drawn⟩).result with
  | ok a =>
    rw [result] at failed
    cases failed
  | error e =>
    rw [result] at failed nameless
    cases failed
    exact nameless name rfl

end

/-- Evaluation about an object does not fail because a name stands for nothing. -/
def Compiled.IsClosed (c : Compiled) : Prop :=
  ∀ object world memory after name,
    c.value object world memory ≠ .error (.evaluation (.unboundParameter name)) after
      ∧ c.test object world memory ≠ .error (.evaluation (.unboundParameter name)) after

theorem Compiled.isClosed_of_holds {c : Compiled} {d : Dialect}
    (h : d.closed.Holds {Scope.objectName} c.target) : c.IsClosed := by
  have introduced : Binders.Introduce [(Scope.objectName, .other)] {Scope.objectName} := by
    rintro name rfl
    simp [Fields.find?]
  have bound := c.target.bound_traced (h _ introduced)
  intro object world memory after name
  exact ⟨bound.about c.target.traces_eval, bound.truth.about c.target.traces_eval.truth⟩

/-- Where nothing is assigned, evaluation of a compiled predicate or of a compiled expression, asked
for a value of a kind or not, never comes upon a name that stands for nothing. -/
theorem Compiled.isClosed_of_compile (kind : Kind) (settings : Settings) :
    (∀ (p : Predicate) (c : Compiled), p.assignsNothing → p.compile kind settings = .ok c →
      c.IsClosed)
      ∧ ∀ (e : Expr) (result : Option Kind) (c : Compiled), e.assignsNothing →
        e.compile kind result settings = .ok c → c.IsClosed := by
  constructor
  · intro p c none compiled
    obtain ⟨t, lowered, made⟩ := exists_of_bind_ok compiled
    cases made
    have closed := (p.upholds_lower (I := settings.dialect.closed) (.inr none)).runFor lowered
    exact isClosed_of_holds closed
  · intro e result c none compiled
    obtain ⟨t, lowered, made⟩ := exists_of_bind_ok compiled
    have closed := (e.upholds_lower (I := settings.dialect.closed) (.inr none)).runFor lowered
    cases result with
    | none =>
      cases made
      exact isClosed_of_holds closed
    | some kind =>
      obtain ⟨u, converted, made⟩ := exists_of_bind_ok made
      cases made
      exact isClosed_of_holds (settings.dialect.closed.asResult closed converted)

/-- There is an order above the limit. -/
def Predicate.exceedsLimit : Predicate :=
  .comparison
    (.pathOn (.subquery (.path "orders") "o" (.comparison (.pathOn (.var "o") "price") .greater
      (.path "limit") .direct .none)) "@count")
    .greater (.constant (.int 0)) .direct .none

/-- The predicate names the object, the variable of a subquery, and what guards have found. -/
theorem Compiled.isClosed_of_compile_exceedsLimit :
    ∃ c, Predicate.exceedsLimit.assignsNothing
      ∧ Predicate.exceedsLimit.compile .any (.ofDialect .objects) = .ok c ∧ c.IsClosed := by
  obtain ⟨c, compiled, -⟩ := exists_of_any
    (Predicate.exceedsLimit.compile .any (.ofDialect .objects)) (fun _ => true) (by decide +kernel)
  have none : Predicate.exceedsLimit.assignsNothing := by decide
  refine ⟨c, none, compiled, ?_⟩
  exact (Compiled.isClosed_of_compile .any (.ofDialect .objects)).1 _ c none compiled

end PredicateLang
