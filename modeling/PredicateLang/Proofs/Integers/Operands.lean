import PredicateLang.Proofs.Kinds.Numbers
import PredicateLang.Proofs.Navigation
import PredicateLang.Proofs.Renaming.Compiled
import PredicateLang.Proofs.Sql.StringTests

/-!
# Operands that are integers

What becomes of two operands that give integers. Where a kind is not known they are left as they
are. Where both kinds are known, the operand of the lower rank is brought to the kind of the other
one, which its number may not fit (`Target.Brought`). A constant is found not to fit when it is
lowered, any other operand when it is evaluated.
-/

namespace PredicateLang

open Lowering

/-! ## Kinds of integers -/

namespace IntegerKind

/-- Is the number one of the kind? -/
def Fits (k : IntegerKind) (n : Int) : Prop := k.least ≤ n ∧ n ≤ k.greatest

instance (k : IntegerKind) (n : Int) : Decidable (k.Fits n) := inferInstanceAs (Decidable (_ ∧ _))

/-- The kind of the higher rank of two. -/
def higher (k l : IntegerKind) : IntegerKind := if k.rank < l.rank then l else k

/-- Of two things that belong to kinds, the one that belongs to the kind of the lower rank. -/
def ofLower {α : Type} (k l : IntegerKind) (x y : α) : α := if k.rank < l.rank then x else y

theorem higher_self (k : IntegerKind) : k.higher k = k := if_neg (Nat.lt_irrefl _)

end IntegerKind

namespace Integer

theorem fits (n : Integer) : n.kind.Fits n.val := ⟨n.least_le, n.le_greatest⟩

/-- An integer is determined by its kind and its number. -/
theorem eq_of_val {m n : Integer} (kind : m.kind = n.kind) (val : m.val = n.val) : m = n := by
  cases m
  cases n
  cases kind
  cases val
  rfl

end Integer

namespace Value

variable {k : IntegerKind} {n : Int}

theorem narrow?_eq_some {m : Integer} (kind : m.kind = k) (val : m.val = n) :
    narrow? k n = some (.integer m) := by
  subst kind val
  rw [narrow?, Integer.ofInt?_val]
  rfl

theorem narrow?_eq_none (h : ¬k.Fits n) : narrow? k n = none := by
  have nothing : Integer.ofInt? k n = none := dif_neg h
  rw [narrow?, nothing]
  rfl

/-- An integer is converted to another kind if its number fits. -/
theorem convert?_integer {n m : Integer} (kind : m.kind = k) (val : m.val = n.val) :
    (Value.integer n).convert? (.integer k) = some (.integer m) := by
  by_cases same : n.kind = k
  · obtain rfl : m = n := Integer.eq_of_val (kind.trans same.symm) val
    exact if_pos (.inr (.inr (congrArg Kind.integer same)))
  · unfold convert?
    rw [if_neg]
    · exact narrow?_eq_some kind val
    · rintro (null | dynamic | own)
      · cases null
      · cases dynamic
      · exact same (Kind.integer.inj own)

theorem convert?_integer_eq_none {n : Integer} (h : ¬k.Fits n.val) :
    (Value.integer n).convert? (.integer k) = none := by
  unfold convert?
  rw [if_neg]
  · exact narrow?_eq_none h
  · rintro (null | dynamic | own)
    · cases null
    · cases dynamic
    · obtain rfl := Kind.integer.inj own
      exact h n.fits

end Value

/-! ## Evaluation of operations -/

namespace Evaluation

variable {α β : Type} {step : Evaluation α} {next : α → Evaluation β} {world : World}
  {memory after : Memory}

theorem bind_run_of_ok {a : α} (run : step world memory = .ok a after) :
    (step >>= next) world memory = next a world after := by
  simp only [Bind.bind, ReaderT.bind, EStateM.bind, run]

theorem bind_run_of_error {e : Error} (run : step world memory = .error e after) :
    (step >>= next) world memory = .error e after := by
  simp only [Bind.bind, ReaderT.bind, EStateM.bind, run]

end Evaluation

namespace Target

/-- Of an operation that is no connective the operands are evaluated one after the other. -/
theorem eval_binary (kind : Kind) {op : BinaryOp} (strict : op.isConnective = false)
    (l r : Target) : (binary kind op l r).eval = (do
      let v ← l.eval
      let w ← r.eval
      Evaluation.ofResult (Evaluation.binary kind op v w)) := by
  cases op <;> first | rfl | cases strict

/-- The trees give two integers, one after the other. -/
def Give (l r : Target) (world : World) (memory : Memory) (a b : Integer) : Prop :=
  ∃ between after, l.eval world memory = .ok (.integer a) between
    ∧ r.eval world between = .ok (.integer b) after

/-- The trees do not give two values. -/
def GiveNone (l r : Target) (world : World) (memory : Memory) : Prop :=
  ∀ kind op, op.isConnective = false →
    ∃ e after, (binary kind op l r).eval world memory = .error e after

variable {l r t u : Target} {world : World} {memory between after : Memory} {a b n : Integer}
  {k : IntegerKind}

/-- The operation on the integers that the operands give. -/
theorem Give.eval_binary (h : l.Give r world memory a b) (kind : Kind) {op : BinaryOp}
    (strict : op.isConnective = false) :
    ∃ after, (binary kind op l r).eval world memory
      = Evaluation.ofResult (Evaluation.binary kind op (.integer a) (.integer b)) world after := by
  obtain ⟨between, after, left, right⟩ := h
  refine ⟨after, ?_⟩
  rw [Target.eval_binary kind strict, Evaluation.bind_run_of_ok left,
    Evaluation.bind_run_of_ok right]

theorem giveNone_of_left {e : Error} (left : l.eval world memory = .error e after) :
    l.GiveNone r world memory := by
  intro kind op strict
  refine ⟨e, after, ?_⟩
  rw [eval_binary kind strict, Evaluation.bind_run_of_error left]

theorem giveNone_of_right {v : Value} {e : Error} (left : l.eval world memory = .ok v between)
    (right : r.eval world between = .error e after) : l.GiveNone r world memory := by
  intro kind op strict
  refine ⟨e, after, ?_⟩
  rw [eval_binary kind strict, Evaluation.bind_run_of_ok left, Evaluation.bind_run_of_error right]

/-! ## Casts -/

/-- What comes of a cast of an operand to a kind of integers, if the operand gives an integer. -/
inductive IntegerCast (t : Target) (n : Integer) (k : IntegerKind) (world : World)
    (memory after : Memory) : Except Error Target → Prop where
  /-- The number fits the kind. -/
  | fits {u : Target} {m : Integer} (kind : u.kind = .integer k) (same : m.kind = k)
    (val : m.val = n.val) (gives : u.eval world memory = .ok (.integer m) after) :
    IntegerCast t n k world memory after (.ok u)
  /-- A constant does not fit. -/
  | refused (unfit : ¬k.Fits n.val) (constant : t.constant?.isSome) (e : Error) :
    IntegerCast t n k world memory after (.error e)
  /-- Another operand does not fit. -/
  | fails {u : Target} {e : Error} (unfit : ¬k.Fits n.val) (computed : t.constant? = none)
    (kind : u.kind = .integer k) (error : u.eval world memory = .error e after) :
    IntegerCast t n k world memory after (.ok u)

/-- A conversion of an operand that gives an integer. -/
theorem integerCast_convert (computed : t.constant? = none)
    (gives : t.eval world memory = .ok (.integer n) after) :
    IntegerCast t n k world memory after (.ok (.convert (.integer k) t)) := by
  have run : (convert (.integer k) t).eval world memory = _ := Evaluation.bind_run_of_ok gives
  by_cases fits : k.Fits n.val
  · have converted := Value.convert?_integer (n := n) (m := ⟨k, n.val, fits.1, fits.2⟩) rfl rfl
    refine .fits (m := ⟨k, n.val, fits.1, fits.2⟩) rfl rfl rfl ?_
    rw [run]
    simp only [converted]
    rfl
  · have nothing := Value.convert?_integer_eq_none fits
    refine .fails (e := .evaluation (.inconvertible (.integer n) (.integer k))) fits computed rfl ?_
    rw [run]
    simp only [nothing]
    rfl

theorem integerCast_of_gives (kind : t.kind = .integer n.kind)
    (gives : t.eval world memory = .ok (.integer n) after) (k : IntegerKind) :
    IntegerCast t n k world memory after (t.cast (.integer k)) := by
  by_cases same : n.kind = k
  · subst same
    rw [← kind, cast_self]
    exact .fits kind rfl rfl gives
  · have other : ¬(t.kind = .integer k ∨ (Kind.integer k).isDynamic) := by
      rintro (own | dynamic)
      · exact same (Kind.integer.inj (kind.symm.trans own))
      · cases dynamic
    -- Constants are cast when they are lowered, anything else when it is evaluated.
    cases constant : t.constant? with
    | none =>
      rw [cast_of_constant?_eq_none constant, if_neg]
      · exact integerCast_convert constant gives
      · rw [kind] at other ⊢
        simpa [isStringWithGuid] using other
    | some value =>
      cases t with
      | constant own value' =>
        cases gives
        unfold Target.cast
        rw [if_neg other]
        show IntegerCast _ n k world memory memory (castConstant own (.integer n) (.integer k))
        unfold castConstant
        by_cases fits : k.Fits n.val
        · have converted :=
            Value.convert?_integer (n := n) (m := ⟨k, n.val, fits.1, fits.2⟩) rfl rfl
          rw [converted]
          exact .fits (m := ⟨k, n.val, fits.1, fits.2⟩) rfl rfl rfl rfl
        · rw [Value.convert?_integer_eq_none fits]
          exact .refused fits rfl _
      | _ => cases constant

/-! ## Operands of one kind -/

/-- What comes of bringing operands that give the integers `a` and `b` to the kind `k`, which the
integer `n` has to fit that the operand `t` gives. -/
inductive Brought (a b : Integer) (k : IntegerKind) (n : Integer) (t : Target) (world : World)
    (memory : Memory) : Except Error (Target × Target) → Prop where
  /-- The number fits. -/
  | fits {l r : Target} {a' b' : Integer} (fits : k.Fits n.val) (kind : l.kind = .integer k)
    (kind' : r.kind = .integer k) (same : a'.kind = k) (val : a'.val = a.val) (same' : b'.kind = k)
    (val' : b'.val = b.val) (give : l.Give r world memory a' b') :
    Brought a b k n t world memory (.ok (l, r))
  /-- A constant does not fit. -/
  | refused (unfit : ¬k.Fits n.val) (constant : t.constant?.isSome) (e : Error) :
    Brought a b k n t world memory (.error e)
  /-- Another operand does not fit. -/
  | fails {l r : Target} (unfit : ¬k.Fits n.val) (computed : t.constant? = none)
    (kind : l.kind = .integer k) (none : l.GiveNone r world memory) :
    Brought a b k n t world memory (.ok (l, r))

/-- Which of two operands that are integers is cast. -/
theorem makeComparable_integers {k k' : IntegerKind} (kind : l.kind = .integer k)
    (kind' : r.kind = .integer k') :
    l.makeComparable r = if k.rank < k'.rank then (do return (← l.cast (.integer k'), r))
      else do return (l, ← r.cast (.integer k)) := by
  unfold makeComparable
  rw [kind, kind']
  by_cases same : k = k'
  · subst same
    rw [if_pos (.inl rfl), if_neg (Nat.lt_irrefl _), ← kind', cast_self]
    rfl
  · rw [if_neg]
    · unfold makeScalarsComparable
      rw [kind, kind']
      rfl
    · rintro (same' | dynamic | dynamic)
      · exact same (Kind.integer.inj same')
      · cases dynamic
      · cases dynamic

/-- Of two operands of known kinds the one of the lower rank is brought to the kind of the other. -/
theorem brought_of_give (kind : l.kind = .integer a.kind) (kind' : r.kind = .integer b.kind)
    (give : l.Give r world memory a b) :
    Brought a b (a.kind.higher b.kind) (a.kind.ofLower b.kind a b) (a.kind.ofLower b.kind l r) world
      memory (l.makeComparable r) := by
  obtain ⟨between, after, left, right⟩ := give
  rw [makeComparable_integers kind kind']
  unfold IntegerKind.higher IntegerKind.ofLower
  by_cases less : a.kind.rank < b.kind.rank
  · simp only [if_pos less]
    have cast := integerCast_of_gives kind left b.kind
    generalize l.cast (.integer b.kind) = made at cast
    cases cast with
    | fits own same val gives =>
      have fits : b.kind.Fits a.val := by
        rw [← val, ← same]
        exact Integer.fits _
      exact .fits fits own kind' same val rfl rfl ⟨between, after, gives, right⟩
    | refused unfit constant e => exact .refused unfit constant e
    | fails unfit computed own error => exact .fails unfit computed own (giveNone_of_left error)
  · simp only [if_neg less]
    have cast := integerCast_of_gives kind' right a.kind
    generalize r.cast (.integer a.kind) = made at cast
    cases cast with
    | fits own same val gives =>
      have fits : a.kind.Fits b.val := by
        rw [← val, ← same]
        exact Integer.fits _
      exact .fits fits kind own rfl rfl same val ⟨between, after, left, gives⟩
    | refused unfit constant e => exact .refused unfit constant e
    | fails unfit computed own error =>
      exact .fails unfit computed kind (giveNone_of_right left error)

end Target

/-! ## Expressions -/

/-- What comes of a step, without the memory after it. -/
def Evaluation.resultOf {α : Type} : EStateM.Result Error Memory α → Except Error α
  | .ok a _ => .ok a
  | .error e _ => .error e

theorem Evaluation.resultOf_ofResult {α : Type} (r : Except Error α) (world : World)
    (memory : Memory) : resultOf (ofResult r world memory) = r := by
  cases r <;> rfl

theorem Evaluation.resultOf_about {α : Type} (object : Value) (step : Evaluation α) (world : World)
    (memory : Memory) :
    resultOf (about object step world memory)
      = resultOf (step world (Compiled.start object memory)) := by
  unfold about
  rw [← Compiled.start]
  cases step world (Compiled.start object memory) <;> rfl

/-- What an expression comes to for an object of a kind: its value, or the reason why it cannot be
compiled or evaluated. -/
def Expr.result (e : Expr) (kind : Kind) (settings : Settings) (object : Value) (world : World)
    (memory : Memory) : Except Error Value :=
  Evaluation.resultOf (e.outcome kind none settings object world memory)

/-- Two operands for an object of a kind: the expressions are lowered to the trees `l` and `r`, one
after the other, which give the integers `a` and `b`, one after the other. The kind of each tree is
that of its integer, or not known. -/
structure Operands (x y : Expr) (kind : Kind) (settings : Settings) (object : Value) (world : World)
    (memory : Memory) (l r : Target) (a b : Integer) : Prop where
  lowered : ∃ between after, x.lower settings (.root kind settings) = .ok l between
    ∧ y.lower settings between = .ok r after
  give : l.Give r world (Compiled.start object memory) a b
  kind_left : l.kind.isDynamic ∨ l.kind = .integer a.kind
  kind_right : r.kind.isDynamic ∨ r.kind = .integer b.kind

section

variable {e x y : Expr} {kind k k' : Kind} {settings : Settings} {object : Value} {world : World}
  {memory : Memory} {scope after : Scope} {t l r : Target} {a b n : Integer}

theorem Expr.result_of_lower (run : e.lower settings (.root kind settings) = .ok t after) :
    e.result kind settings object world memory
      = Evaluation.resultOf (t.eval world (Compiled.start object memory)) := by
  have compiled : e.compile kind none settings = .ok ⟨t, settings.dialect⟩ :=
    compile_eq_ok.mpr ⟨rfl, after, run⟩
  unfold result outcome
  rw [compiled]
  exact Evaluation.resultOf_about object t.eval world memory

theorem Expr.result_of_lower_error {error : Error}
    (run : e.lower settings (.root kind settings) = .error error after) :
    e.result kind settings object world memory = .error error := by
  unfold result outcome compile target Lowering.runFor
  rw [run]
  rfl

theorem Target.Give.result_binary (h : l.Give r world memory a b) (kind : Kind) {op : BinaryOp}
    (strict : op.isConnective = false) :
    Evaluation.resultOf ((Target.binary kind op l r).eval world memory)
      = Evaluation.binary kind op (.integer a) (.integer b) := by
  obtain ⟨after, run⟩ := h.eval_binary kind strict
  rw [run, Evaluation.resultOf_ofResult]

theorem Target.GiveNone.result_binary (h : l.GiveNone r world memory) (kind : Kind) {op : BinaryOp}
    (strict : op.isConnective = false) :
    ∃ e, Evaluation.resultOf ((Target.binary kind op l r).eval world memory) = .error e := by
  obtain ⟨e, after, run⟩ := h kind op strict
  rw [run]
  exact ⟨e, rfl⟩

/-- A builtin function of lowered arguments. -/
theorem Expr.lower_call {selector : String} {meaning : Meaning} {args : List Expr}
    {targets : List Target}
    (known : BuiltinFunction.ofSelector? selector = some ⟨selector, args.length, meaning⟩)
    (other : meaning ≠ .index) (all : lowerAll args settings scope = .ok targets after) :
    (Expr.call selector args).lower settings scope
      = Lowering.call ⟨selector, args.length, meaning⟩ targets settings after := by
  have found : function selector args.length settings scope
      = .ok ⟨selector, args.length, meaning⟩ scope := by
    unfold function
    rw [known]
    exact congrFun (congrFun (if_pos rfl) settings) scope
  rw [Expr.lower, bind_run_of_ok found, if_neg other, bind_run_of_ok all]

/-- A builtin function of two operands. -/
theorem Operands.lower_call {selector : String} {meaning : Meaning}
    (operands : Operands x y kind settings object world memory l r a b)
    (known : BuiltinFunction.ofSelector? selector = some ⟨selector, 2, meaning⟩)
    (other : meaning ≠ .index) :
    ∃ scope, (Expr.call selector [x, y]).lower settings (.root kind settings)
      = call ⟨selector, 2, meaning⟩ [l, r] settings scope := by
  obtain ⟨between, after, left, right⟩ := operands.lowered
  have all : Expr.lowerAll [x, y] settings (.root kind settings) = .ok [l, r] after := by
    simp only [Expr.lowerAll]
    rw [bind_run_of_ok left, bind_run_of_ok (bind_run_of_ok right)]
    rfl
  exact ⟨after, Expr.lower_call known other all⟩

/-- What holds of the kinds of integers holds of a kind that is one, if it is known. -/
theorem Kind.or_isDynamic {k : IntegerKind} (known : kind.isDynamic ∨ kind = .integer k)
    {p : Kind → Bool} (own : p (.integer k)) : p kind ∨ kind.isDynamic := by
  rcases known with dynamic | rfl
  · exact .inr dynamic
  · exact .inl own

/-- An argument that may give an integer is accepted as an integer and as a number. -/
theorem Lowering.integral_run (selector : String)
    (known : t.kind.isDynamic ∨ t.kind = .integer n.kind) :
    integral selector t settings scope = .ok t scope := by
  unfold integral
  rw [if_pos (Kind.or_isDynamic known rfl)]
  rfl

theorem Lowering.numeric_run (selector : String)
    (known : t.kind.isDynamic ∨ t.kind = .integer n.kind) :
    numeric selector t settings scope = .ok t scope := by
  unfold numeric
  rw [if_pos (Kind.or_isDynamic known rfl)]
  rfl

theorem Evaluation.integerResultKind_any_eq_higher (k l : IntegerKind) :
    integerResultKind .any k l = k.higher l := by
  unfold integerResultKind IntegerKind.higher
  by_cases less : k.rank < l.rank
  · simp [less]
  · simp [less, Nat.le_of_not_lt less]

/-- An operation on operands of one kind is one on their numbers, in the kind of the higher rank. If
both kinds are known, the number of the lower rank has to fit that kind. -/
theorem Operands.result_onSharedKind {op : BinaryOp} (strict : op.isConnective = false)
    (operands : Operands x y kind settings object world memory l r a b)
    (run : e.lower settings (.root kind settings) = onSharedKind op l r settings scope) :
    ((l.kind.isDynamic ∨ r.kind.isDynamic
        ∨ (a.kind.higher b.kind).Fits (a.kind.ofLower b.kind a b).val) →
      ∃ k a' b', a'.val = a.val ∧ b'.val = b.val
        ∧ Evaluation.integerResultKind k a'.kind b'.kind = a.kind.higher b.kind
        ∧ e.result kind settings object world memory
          = Evaluation.binary k op (.integer a') (.integer b'))
    ∧ (l.kind.isDynamic = false → r.kind.isDynamic = false →
        ¬(a.kind.higher b.kind).Fits (a.kind.ofLower b.kind a b).val →
      ∃ error, e.result kind settings object world memory = .error error) := by
  unfold onSharedKind at run
  -- If a kind is not known, that of the result is found in the values, and nothing is cast.
  by_cases dynamic : l.kind.isDynamic ∨ r.kind.isDynamic
  · rw [if_pos dynamic] at run
    refine ⟨fun _ => ⟨.any, a, b, rfl, rfl, Evaluation.integerResultKind_any_eq_higher .., ?_⟩,
      fun left right => ?_⟩
    · rw [Expr.result_of_lower run, operands.give.result_binary .any strict]
    · simp [left, right] at dynamic
  · rw [if_neg dynamic] at run
    rw [not_or] at dynamic
    have brought := Target.brought_of_give (operands.kind_left.resolve_left dynamic.1)
      (operands.kind_right.resolve_left dynamic.2) operands.give
    generalize l.makeComparable r = made at brought run
    cases brought with
    | fits fits own own' same val same' val' give =>
      refine ⟨fun _ => ⟨.integer (a.kind.higher b.kind), _, _, val, val', rfl, ?_⟩,
        fun _ _ unfit => absurd fits unfit⟩
      rw [Expr.result_of_lower run, ← own, give.result_binary _ strict]
    | refused unfit constant error =>
      refine ⟨fun fits => ?_, fun _ _ _ => ⟨error, Expr.result_of_lower_error run⟩⟩
      simp [dynamic, unfit] at fits
    | fails unfit computed own none =>
      refine ⟨fun fits => ?_, fun _ _ _ => ?_⟩
      · simp [dynamic, unfit] at fits
      · rw [Expr.result_of_lower run]
        exact none.result_binary _ strict

end

/-! ### Constants and key paths -/

namespace Lowering

/-- In memory, what a key path leads to from something that needs a guard needs one too. -/
theorem needsGuard_follow {settings : Settings} (objects : settings.dialect = .objects)
    {names : List String} (properties : ∀ name ∈ names, isProperty name) {receiver t : Target}
    {scope after : Scope} (needs : needsGuard .objects receiver)
    (run : follow receiver names settings scope = .ok t after) : needsGuard .objects t := by
  induction names generalizing receiver scope with
  | nil =>
    cases run
    exact needs
  | cons name rest ih =>
    obtain ⟨proper, others⟩ := List.forall_mem_cons.mp properties
    rw [follow_cons proper] at run
    obtain ⟨next, between, made, run⟩ := exists_of_run_bind run
    exact ih others (navigates_propertyOn objects name receiver.kind needs made).guard run

end Lowering

/-- The expression stands for the integer `n` of the object: wherever it is lowered, it becomes a
tree of the kind `k` that gives the integer and does nothing else, and that is a constant or not. -/
structure Expr.Supplies (e : Expr) (kind : Kind) (settings : Settings) (object : Value)
    (n : Integer) (k : Kind) (constant : Bool) : Prop where
  lower : ∀ scope : Scope, scope.IsProper →
    scope.bindings.find? Scope.objectName = some (.parameter kind Scope.objectName) →
    ∃ t after, e.lower settings scope = .ok t after ∧ after.IsProper
      ∧ after.bindings = scope.bindings ∧ t.kind = k ∧ t.constant?.isSome = constant
      ∧ ∀ world memory, t.eval world (Compiled.start object memory)
          = .ok (.integer n) (Compiled.start object memory)

section

variable {kind k k' : Kind} {settings : Settings} {object : Value} {n : Integer}

theorem Expr.supplies_constant (n : Integer) :
    (Expr.constant (.integer n)).Supplies kind settings object n (.integer n.kind) true where
  lower scope proper _ := ⟨_, scope, rfl, proper, rfl, rfl, rfl, fun _ _ => rfl⟩

/-- A key path along which there is an integer. -/
theorem Expr.supplies_path {path : String} (objects : settings.dialect = .objects)
    (properties : ∀ name ∈ segments path, isProperty name)
    (known : (segments path).foldlM Kind.property kind = .ok k)
    (found : Value.walk kind (segments path) object = .ok (.integer n)) :
    (Expr.path path).Supplies kind settings object n k false where
  lower scope proper root := by
    obtain ⟨t, after, run, own, -⟩ :=
      exists_follow (.parameter kind Scope.objectName) properties known settings scope
    have lowered : (Expr.path path).lower settings scope = .ok t after := by
      rw [Expr.lower, bind_run_of_ok (object_run root)]
      exact run
    obtain ⟨-, proper', kept⟩ := plain_of_lower rfl proper lowered
    have gives : ∀ world memory, t.eval world (Compiled.start object memory)
        = .ok (.integer n) (Compiled.start object memory) := by
      intro world memory
      have walks := (eval_follow objects properties rfl run).2 world
        (Compiled.start object memory) (.ok object) (Evaluation.lookup_push _ object world _)
      exact walks.trans (congrArg (fun r => Evaluation.ofResult r world _) found)
    have computed : t.constant? = none := by
      have needs := needsGuard_follow objects properties rfl run
      cases t with
      | constant _ value =>
        -- What needs a guard is null, and what is null is no integer.
        obtain ⟨⟩ := gives ⟨.ofNanos 0, fun _ => 0⟩ .empty
        cases needs
      | _ => rfl
    exact ⟨t, after, lowered, proper', kept, own, congrArg Option.isSome computed, gives⟩

/-- Expressions that stand for integers are operands. -/
theorem Operands.of_supplies {x y : Expr} {a b : Integer} {constant constant' : Bool}
    (left : x.Supplies kind settings object a k constant)
    (known : k.isDynamic ∨ k = .integer a.kind)
    (right : y.Supplies kind settings object b k' constant')
    (known' : k'.isDynamic ∨ k' = .integer b.kind) :
    ∃ l r, (∀ world memory, Operands x y kind settings object world memory l r a b) ∧ l.kind = k
      ∧ r.kind = k' ∧ l.constant?.isSome = constant ∧ r.constant?.isSome = constant' := by
  have root := Scope.find?_root_object kind settings
  obtain ⟨l, between, run, proper, kept, own, is, gives⟩ :=
    left.lower _ (Scope.isProper_root kind settings) root
  -- The left operand has bound nothing, so the object is still there for the right one.
  obtain ⟨r, after, run', -, -, own', is', gives'⟩ := right.lower between proper (kept ▸ root)
  refine ⟨l, r, fun world memory => ?_, own, own', is, is'⟩
  exact ⟨⟨between, after, run, run'⟩, ⟨_, _, gives world memory, gives' world memory⟩, own ▸ known,
    own' ▸ known'⟩

end

/-- The least number of 64 bits. -/
def Integer.leastLong : Integer := ⟨.long, -9223372036854775808, by decide, by decide⟩

/-- Minus one in 8 bits. -/
def Integer.minusOne : Integer := ⟨.sbyte, -1, by decide, by decide⟩

/-- Five without a sign. -/
def Integer.five : Integer := ⟨.ulong, 5, by decide, by decide⟩

/-- An object with integers of three kinds. -/
def Value.integers : Value :=
  .object [("least", .integer .leastLong), ("minus", .integer .minusOne), ("five", .integer .five)]

theorem Value.supplies_minus :
    (Expr.path "minus").Supplies .any (.ofDialect .objects) integers .minusOne .any false :=
  Expr.supplies_path rfl (by decide +kernel) rfl rfl

theorem Value.supplies_minus_known :
    (Expr.path "minus").Supplies (.ofValue integers) (.ofDialect .objects) integers .minusOne
      (.integer .sbyte) false :=
  Expr.supplies_path rfl (by decide +kernel) rfl rfl

theorem Value.supplies_five_known :
    (Expr.path "five").Supplies (.ofValue integers) (.ofDialect .objects) integers .five
      (.integer .ulong) false :=
  Expr.supplies_path rfl (by decide +kernel) rfl rfl

end PredicateLang
