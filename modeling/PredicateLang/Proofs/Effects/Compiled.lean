import PredicateLang.Compilation
import PredicateLang.Proofs.Effects.Quiet

/-!
# Compiled trees

A tree is compiled to what it is lowered to. What a compiled tree gives for an object is the result
of its run on the object; without effects, a test leaves the memory as it was.
-/

namespace PredicateLang

/-- An expression is compiled to what it is lowered to. -/
theorem Expr.compile_eq_ok {e : Expr} {object : Kind} {settings : Settings} {c : Compiled} :
    e.compile object none settings = .ok c
      ↔ c.dialect = settings.dialect
        ∧ ∃ after, e.lower settings (.root object settings) = .ok c.target after := by
  obtain ⟨target, dialect⟩ := c
  unfold Expr.compile Expr.target Lowering.runFor
  cases e.lower settings (.root object settings) with
  | ok t after => simp [bind, Except.bind, pure, Except.pure, and_comm, eq_comm]
  | error e after => simp [bind, Except.bind]

/-- A predicate is compiled to what it is lowered to. -/
theorem Predicate.compile_eq_ok {p : Predicate} {object : Kind} {settings : Settings}
    {c : Compiled} :
    p.compile object settings = .ok c
      ↔ c.dialect = settings.dialect
        ∧ ∃ after, p.lower settings (.root object settings) = .ok c.target after := by
  obtain ⟨target, dialect⟩ := c
  unfold Predicate.compile Predicate.target Lowering.runFor
  cases p.lower settings (.root object settings) with
  | ok t after => simp [bind, Except.bind, pure, Except.pure, and_comm, eq_comm]
  | error e after => simp [bind, Except.bind]

/-- The result of the run is this truth; null counts as false. -/
def Run.Tells (run : Run Value) (b : Bool) : Prop :=
  run.result = .ok (.boolean b) ∨ run.result = .ok .null ∧ b = false

namespace Compiled

variable {c : Compiled} {object : Value} {world : World} {memory after : Memory}

/-- What is remembered when evaluation about an object begins. -/
def start (object : Value) (memory : Memory) : Memory :=
  ({ Memory.empty with drawn := memory.drawn }).push Scope.objectName object

/-- The run of a compiled tree on an object. -/
def runOn (c : Compiled) (object : Value) (world : World) (memory : Memory) : Run Value :=
  c.target.runFrom world (start object memory)

/-- Evaluation about an object is a run on it. -/
theorem outcome_runOn (c : Compiled) (object : Value) (world : World) (memory : Memory) :
    (c.runOn object world memory).outcome (start object memory).slots
      = c.target.eval world (start object memory) :=
  c.target.outcome_runFrom world (start object memory)

/-- A value is the result of the run. -/
theorem result_of_value {v : Value} (ok : c.value object world memory = .ok v after) :
    (c.runOn object world memory).result = .ok v := by
  unfold value Evaluation.about at ok
  rw [← start, ← outcome_runOn, Run.outcome] at ok
  cases result : (c.runOn object world memory).result with
  | error e =>
    rw [result] at ok
    cases ok
  | ok w =>
    rw [result] at ok
    cases ok
    rfl

/-- The truth is that of the result of the run. -/
theorem tells_of_test {b : Bool} (ok : c.test object world memory = .ok b after) :
    (c.runOn object world memory).Tells b := by
  unfold test Evaluation.about Target.evalTruth at ok
  simp only [Bind.bind, ReaderT.bind, EStateM.bind] at ok
  rw [← start, ← outcome_runOn, Run.outcome] at ok
  cases result : (c.runOn object world memory).result with
  | error e =>
    rw [result] at ok
    cases ok
  | ok w =>
    rw [result] at ok
    -- Of any other value no truth can be told.
    cases w with
    | boolean b' =>
      cases ok
      exact .inl result
    | null =>
      cases ok
      exact .inr ⟨result, rfl⟩
    | _ => cases ok

/-- Without effects a value is all that comes of evaluation. -/
theorem value_of_result {v : Value} (pure : c.target.hasEffects = false)
    (ok : (c.runOn object world memory).result = .ok v) :
    c.value object world memory = .ok v memory := by
  have store : (c.runOn object world memory).store = ⟨[], memory.drawn⟩ :=
    (c.target.quiet_traced pure world _ _).2
  unfold value Evaluation.about
  rw [← start, ← outcome_runOn, Run.outcome, ok, store]

/-- Without effects a test has no other outcome than the truth. -/
theorem test_of_tells {b : Bool} (pure : c.target.hasEffects = false)
    (told : (c.runOn object world memory).Tells b) :
    c.test object world memory = .ok b memory := by
  have store : (c.runOn object world memory).store = ⟨[], memory.drawn⟩ :=
    (c.target.quiet_traced pure world _ _).2
  unfold test Evaluation.about Target.evalTruth
  simp only [Bind.bind, ReaderT.bind, EStateM.bind]
  rw [← start, ← outcome_runOn, Run.outcome]
  rcases told with ok | ⟨ok, rfl⟩ <;> (rw [ok, store]; rfl)

theorem test_of_result {b : Bool} (pure : c.target.hasEffects = false)
    (ok : (c.runOn object world memory).result = .ok (.boolean b)) :
    c.test object world memory = .ok b memory :=
  test_of_tells pure (.inl ok)

end Compiled

end PredicateLang
