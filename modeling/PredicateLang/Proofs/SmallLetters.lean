import PredicateLang.Proofs.Exchange.Compiled
import PredicateLang.Proofs.Mirror
import PredicateLang.Proofs.WellFormed

/-!
# Operands in small letters

Folding letter case changes nothing about a comparison of operands that are in small letters
already. Folding goes by the kinds of operands: a tree whose kind may be that of strings is put in
small letters, and so are the items of a collection of such a kind. There every value has to be
text, for of no other value there are small letters; but operands of other kinds may have any
values.
-/

namespace PredicateLang

open Tracing Target
open Lowering (mayBeString)

/-! ## Values in small letters -/

mutual

/-- Is the value null, a string in small letters, or an array of such values? -/
def Value.isSmallText : Value → Bool
  | .null => true
  | .string s => Text.lower s = s
  | .array items => areSmallTexts items
  | _ => false

/-- Are all of the values text in small letters? -/
def Value.areSmallTexts : List Value → Bool
  | [] => true
  | v :: rest => v.isSmallText && areSmallTexts rest

end

/-- Is a value of the kind left alone when letter case is folded? -/
def Value.isSettled (v : Value) : Kind → Bool
  | .sequence element =>
    !mayBeString element || match v with
      | .null => true
      | .array items => areSmallTexts items
      | _ => false
  | kind => !mayBeString kind || v.isSmallText

theorem Value.isSmallText_of_isSettled {v : Value} {kind : Kind} (may : mayBeString kind)
    (settled : v.isSettled kind) : v.isSmallText := by
  cases kind <;> first | exact settled | cases may

theorem Value.isSettled_sequence {v : Value} {element : Kind} (may : mayBeString element)
    (settled : v.isSettled (.sequence element)) :
    v = .null ∨ ∃ items, v = .array items ∧ areSmallTexts items := by
  unfold isSettled at settled
  dsimp only at settled
  rw [may] at settled
  cases v with
  | null => exact .inl rfl
  | array items => exact .inr ⟨items, rfl, settled⟩
  | _ => cases settled

mutual

theorem Value.lowered_of_isSmallText {v : Value} (small : v.isSmallText) : lowered v = .ok v := by
  match v with
  | .null => rfl
  | .string s =>
    have same : Text.lower s = s := of_decide_eq_true small
    show (Except.ok (.string (Text.lower s)) : Except Error Value) = _
    rw [same]
  | .array items =>
    show (do return Value.array (← Evaluation.onTexts _ items)) = _
    rw [Value.onTexts_of_areSmallTexts small]
    rfl
  | .boolean _ | .integer _ | .float _ | .double _ | .guid _ | .date _ | .object _ => cases small

theorem Value.onTexts_of_areSmallTexts {items : List Value} (small : areSmallTexts items) :
    Evaluation.onTexts (fun s => .string (Text.lower s)) items = .ok items := by
  match items with
  | [] => rfl
  | v :: rest =>
    obtain ⟨first, others⟩ := Bool.and_eq_true_iff.mp small
    show (do return (← lowered v) :: (← Evaluation.onTexts _ rest)) = _
    rw [Value.lowered_of_isSmallText first, Value.onTexts_of_areSmallTexts others]
    rfl

end

theorem Value.forall_mem_of_areSmallTexts {items : List Value} (small : areSmallTexts items) :
    ∀ v ∈ items, v.isSmallText := by
  induction items with
  | nil => exact List.forall_mem_nil _
  | cons v rest ih =>
    obtain ⟨first, others⟩ := Bool.and_eq_true_iff.mp small
    exact List.forall_mem_cons.mpr ⟨first, ih others⟩

/-! ## Settled trees -/

namespace Target

/-- Wherever letter case is folded in the tree, the values that there are stay what they are. Items
of a list are folded each for itself. -/
inductive Settled (gives : Target → Value → Prop) : Target → Prop where
  | single {t : Target} (plain : t.isList = false) (values : ∀ v, gives t v → v.isSettled t.kind) :
    Settled gives t
  | list {kind : Kind} {items : List Target}
    (each : ∀ element, kind = .sequence element → mayBeString element →
      ∀ t ∈ items, Settled gives t) :
    Settled gives (.list kind items)

variable {gives gives' : Target → Value → Prop} {t t' : Target}

theorem Settled.mono (h : t.Settled gives) (le : ∀ t v, gives' t v → gives t v) :
    t.Settled gives' := by
  induction h with
  | single plain values => exact .single plain fun v given => values v (le _ v given)
  | list each ih => exact .list ih

/-- A value of the tree where it is evaluated. -/
def GivesAt (world : World) (around : Surroundings) (store : Store) (t : Target) (v : Value) :
    Prop :=
  (t.traced world around store).result = .ok v

theorem AllAlike.exists_of_mem {ts ts' : List Target} {ρ : Naming} {effects : Bool}
    (h : AllAlike effects ρ ts ts') : ∀ t' ∈ ts', ∃ t ∈ ts, t.Alike effects ρ t' := by
  induction ts generalizing ts' with
  | nil =>
    cases h
    exact List.forall_mem_nil _
  | cons t rest ih =>
    cases h with
    | cons first others =>
      refine List.forall_mem_cons.mpr ⟨⟨t, List.mem_cons_self, first⟩, fun t' mem => ?_⟩
      obtain ⟨s, mem', alike⟩ := ih others t' mem
      exact ⟨s, List.mem_cons_of_mem t mem', alike⟩

/-- Trees that are alike are settled at the same places. -/
theorem Settled.alike {world : World} {around : Surroundings} {store : Store}
    (h : t.Settled (GivesAt world around store)) (alike : t.Alike false .outer t') :
    t'.Settled (GivesAt world around store) := by
  induction h generalizing t' with
  | @single t plain values =>
    have parallel : Parallel .none false .outer t t' := alike.parallel
    refine .single (parallel.isList.trans plain) fun v given => ?_
    rw [alike.kind_eq]
    exact values v ((alike.result_eq world around store).symm.trans given)
  | list each ih =>
    cases alike with
    | list _ all =>
      refine .list fun element is may t' mem => ?_
      obtain ⟨t, mem', alike⟩ := all.exists_of_mem t' mem
      exact ih element is may t mem' alike

theorem AllAlike.of_mem {ts : List Target} {ρ : Naming} {effects : Bool}
    (h : AllAlike effects ρ ts ts) : ∀ t ∈ ts, t.Alike effects ρ t := by
  induction ts with
  | nil => exact List.forall_mem_nil _
  | cons t rest ih =>
    cases h with
    | cons first others => exact List.forall_mem_cons.mpr ⟨first, ih others⟩

end Target

/-! ## One place -/

namespace Tracing

/-- Evaluation goes on at a place, but for made-up names. -/
def Assumption.at (world : World) (around : Surroundings) (store : Store) : Assumption where
  Holds world' around' store' :=
    world' = world ∧ store' = store ∧ Surroundings.Match .outer around around'
  push {_ around' _ name} v made := by
    have same {x : String} (outer : Scope.isMadeUp x = false) :
        Fields.find? (around'.push name v).slots x = Fields.find? around'.slots x := by
      rw [Surroundings.push, Fields.find?, if_neg (Ne.symm (Scope.ne_of_isMadeUp outer made))]
    refine and_congr_right fun _ => and_congr_right fun _ => ⟨fun h => ⟨h.unique, ?_, h.unbound⟩,
      fun h => ⟨h.unique, ?_, h.unbound⟩⟩
    · rintro x _ ⟨rfl, outer, known⟩
      exact (same outer).symm.trans (h.same x x ⟨rfl, outer, known⟩)
    · rintro x _ ⟨rfl, outer, known⟩
      exact (same outer).trans (h.same x x ⟨rfl, outer, known⟩)

end Tracing

namespace Target

variable {world : World} {around : Surroundings} {store : Store} {t u body : Target}
  {element : Kind} {name : String}

/-- What does the same without effects as a closed tree does at the place acts like it there. -/
theorem Alike.acts_at (closed : t.Alike false .outer t) (kind : u.kind = t.kind)
    (quiet : u.hasEffects = false)
    (same : ∀ around', Surroundings.Match .outer around around' →
      (t.traced world around' store).result = (t.traced world around store).result →
      (u.traced world around' store).result = (t.traced world around' store).result) :
    Acts (.at world around store) .outer t u where
  kind := kind
  effects := quiet.trans closed.hasEffects_eq_false.symm
  follow := by
    refine .of_quiet (t.quiet_traced closed.hasEffects_eq_false) (u.quiet_traced quiet) ?_
    rintro world' near far store' ⟨rfl, rfl, here⟩ there
    have at_near := (closed.follow world' around near store' here).result
    have at_far := (closed.follow world' near far store' there).result
    have through : Surroundings.Match .outer around far := by
      refine ⟨here.unique, ?_, here.unbound⟩
      rintro x _ ⟨rfl, join⟩
      exact (there.same x x ⟨rfl, join⟩).trans (here.same x x ⟨rfl, join⟩)
    rw [same far through (at_far.trans at_near), at_far]

/-- A string in small letters is put in small letters. -/
theorem Alike.acts_lowercase (closed : t.Alike false .outer t) (may : mayBeString t.kind)
    (guards : MayGuard (fun s => .call t.kind .lowercase [s]) t u)
    (values : ∀ v, GivesAt world around store t v → v.isSettled t.kind) :
    Acts (.at world around store) .outer t u := by
  have quiet := closed.hasEffects_eq_false
  refine closed.acts_at ?_ ?_ fun around' _ here => ?_
  · rcases guards with rfl | ⟨_, -, rfl⟩ <;> rfl
  · rcases guards with rfl | ⟨_, -, rfl⟩ <;> simp [hasEffects, anyHasEffects, quiet]
  · rw [guards.result_lowercase may quiet, here]
    cases given : (t.traced world around store).result with
    | error e => rfl
    | ok v =>
      exact Value.lowered_of_isSmallText (Value.isSmallText_of_isSettled may (values v given))

/-- The items of a collection of strings in small letters are put in small letters. -/
theorem Alike.acts_map_lowercase (closed : t.Alike false .outer t)
    (kind : t.kind = .sequence element) (may : mayBeString element)
    (guards : MayGuard (fun s => .call element .lowercase [s]) (.parameter element name) body)
    (values : ∀ v, GivesAt world around store t v → v.isSettled t.kind) :
    Acts (.at world around store) .outer t (.map t.kind t name body) := by
  have quiet := closed.hasEffects_eq_false
  have quietBody := hasEffects_of_mayGuard guards
  refine closed.acts_at rfl (by simp [hasEffects, quiet, quietBody]) fun around' _ here => ?_
  cases given : (t.traced world around store).result with
  | error e =>
    rw [traced, (t.quiet_traced quiet).result_bind, here, given]
    rfl
  | ok v =>
    obtain rfl | ⟨items, rfl, small⟩ := Value.isSettled_sequence may (kind ▸ values v given)
    · rw [traced, (t.quiet_traced quiet).result_bind, here, given]
      rfl
    · have each : ∀ v ∈ items, lowered v = .ok (id v) := fun v mem =>
        Value.lowered_of_isSmallText (Value.forall_mem_of_areSmallTexts small v mem)
      rw [guards.result_map may quiet (here.trans given) each, here, given, List.map_id]

end Target

/-! ## Folding -/

namespace Lowering

variable {exact : Bool} {d : Dialect} {world : World} {around : Surroundings} {store : Store}
  {t s : Target} {ts : List Target} {operator : Operator}

/-- Folding letter case gives a tree that may be exchanged for the one that is folded. -/
theorem carries_foldSubject_of_settled (plain : t.isList = false) (closed : t.Alike false .outer t)
    (formed : t.WellFormed) (values : ∀ v, GivesAt world around store t v → v.isSettled t.kind) :
    Carries exact d .outer (pure t) (foldCase t)
      (Parallel (.at world around store) true .outer) := by
  rw [foldCase_of_not_list plain]
  split
  · rename_i element kind
    split
    · rename_i may
      refine carries_foldItems fun name body guards => ⟨?_, plain.symm⟩
      exact .single (closed.acts_map_lowercase kind may guards values) ⟨plain, rfl⟩
        (.inr ⟨rfl, by rw [kind]; rfl, rfl⟩)
    · exact carries_pure closed.parallel
  · split
    · rename_i may
      unfold foldString
      cases formed with
      | constant text =>
        obtain ⟨rfl, s, rfl⟩ := text may
        have same : Text.lower s = s := of_decide_eq_true (values _ rfl)
        show Carries exact d .outer _ (pure (Target.ofValue (.string (Text.lower s)))) _
        rw [same]
        exact carries_pure closed.parallel
      | list => cases plain
      | plain plain =>
        rw [constantString?_of_isPlain plain, ← pure_bind () fun _ => (pure t : Lowering Target)]
        rw [← bind_pure (guarded t _)]
        refine (carries_guarded_right _ _).bind fun _ u guards => carries_pure ?_
        refine (closed.acts_lowercase may guards values).parallel ⟨plain, ?_⟩
        rcases guards with rfl | ⟨_, -, rfl⟩ <;> rfl
    · exact carries_pure closed.parallel

theorem carries_foldCaseAll_of_mem {A : Assumption} {ρ : Naming}
    (each : ∀ t ∈ ts, Carries exact d ρ (pure t) (foldCase t) (Parallel A true ρ)) :
    Carries exact d ρ (pure ts) (foldCaseAll ts) (AllExchange A true ρ) := by
  induction ts with
  | nil => exact carries_pure .nil
  | cons t rest ih =>
    rw [List.forall_mem_cons] at each
    have apart : (pure (t :: rest) : Lowering (List Target))
        = (do return (← pure t) :: (← pure rest)) := rfl
    rw [apart]
    exact each.1.bind fun _ _ first => (ih each.2).bind fun _ _ others =>
      carries_pure (.cons first.exchanges others)

theorem carries_foldCase_of_settled (closed : t.Alike false .outer t) (formed : t.WellFormed)
    (settled : t.Settled (GivesAt world around store)) :
    Carries exact d .outer (pure t) (foldCase t)
      (Parallel (.at world around store) true .outer) := by
  induction settled with
  | single plain values => exact carries_foldSubject_of_settled plain closed formed values
  | @list kind items each ih =>
    cases formed with
    | plain plain => cases plain
    | @list element _ formed =>
      unfold foldCase
      dsimp only
      split
      · rename_i may
        have apart : (pure (.list (.sequence element) items) : Lowering Target)
            = (do return .list (.sequence element) (← pure items)) := rfl
        rw [apart]
        cases closed with
        | list _ all =>
          refine (carries_foldCaseAll_of_mem fun t mem =>
            ih element rfl may t mem (all.of_mem t mem) (formed t mem)).bind fun _ _ items => ?_
          exact carries_pure (items.parallel _)
      · exact carries_pure closed.parallel

/-- Folding the operands gives operands that may be exchanged for them. -/
theorem carries_foldOperands_of_settled (options : Options) (closed : t.Alike false .outer t)
    (closed' : s.Alike false .outer s) (formed : t.WellFormed) (formed' : s.WellFormed)
    (settled : t.Settled (GivesAt world around store))
    (settled' : operator ≠ .isMatch → s.Settled (GivesAt world around store)) :
    Carries exact d .outer (pure (t, s)) (foldOperands options operator t s)
      (fun p p' => Exchanges (.at world around store) true .outer p.1 p'.1
        ∧ Comparands exact (.at world around store) operator .outer p.2 p'.2) := by
  have apart : (pure (t, s) : Lowering (Target × Target))
      = (do let _ ← read; let t ← pure t; let s ← pure s; return (t, s)) := rfl
  rw [apart]
  refine carries_settings.bind ?_
  rintro settings _ ⟨rfl, -⟩
  split
  · refine (carries_foldCase_of_settled closed formed settled).bind fun _ _ left => ?_
    split
    · exact carries_pure ⟨left.exchanges, closed'.parallel.comparands⟩
    · rename_i other
      exact (carries_foldCase_of_settled closed' formed' (settled' other)).bind fun _ _ right =>
        carries_pure ⟨left.exchanges, right.comparands⟩
  · exact carries_pure ⟨closed.parallel.exchanges, closed'.parallel.comparands⟩

/-- So a comparison that folds letter case gives a tree that acts like that of the comparison that
does not. -/
theorem carries_comparison_of_settled (modifier : Modifier) (options : Options)
    (closed : t.Alike false .outer t) (closed' : s.Alike false .outer s) (formed : t.WellFormed)
    (formed' : s.WellFormed) (settled : t.Settled (GivesAt world around store))
    (settled' : operator ≠ .isMatch → s.Settled (GivesAt world around store)) :
    Carries true d .outer
      (comparison operator modifier { options with caseInsensitive := false } t s)
      (comparison operator modifier { options with caseInsensitive := true } t s)
      (Parallel (.at world around store) false .outer) := by
  unfold comparison
  rw [foldOperands_of_exact rfl]
  exact (carries_foldOperands_of_settled _ closed closed' formed formed' settled settled').bind
    fun _ _ both => carries_modified modifier both.1 both.2

end Lowering

/-! ## Outcomes -/

/-- A result of the run is a value. -/
theorem Compiled.exists_value_of_result {c : Compiled} {object v : Value} {world : World}
    {memory : Memory} (ok : (c.runOn object world memory).result = .ok v) :
    ∃ after, c.value object world memory = .ok v after := by
  unfold value Evaluation.about
  rw [← start, ← outcome_runOn, Run.outcome, ok]
  exact ⟨_, rfl⟩

/-- Wherever letter case is folded in what the expression is lowered to, the values that there are
for the object are text in small letters. -/
def Expr.IsSettled (e : Expr) (kind : Kind) (settings : Settings) (object : Value) (world : World)
    (memory : Memory) : Prop :=
  ∀ t, e.target kind settings = .ok t → t.Settled fun t v =>
    ∃ after, Compiled.value ⟨t, settings.dialect⟩ object world memory = .ok v after

/-- A value of the tree where evaluation about an object begins. -/
abbrev Target.GivesAbout (object : Value) (world : World) (memory : Memory) :
    Target → Value → Prop :=
  GivesAt world ⟨(Compiled.start object memory).slots, []⟩
    ⟨(Compiled.start object memory).assigned, (Compiled.start object memory).drawn⟩

/-- Evaluation goes on where it begins about an object, but for made-up names. -/
abbrev Tracing.Assumption.about (object : Value) (world : World) (memory : Memory) : Assumption :=
  .at world ⟨(Compiled.start object memory).slots, []⟩
    ⟨(Compiled.start object memory).assigned, (Compiled.start object memory).drawn⟩

section

open Lowering

variable {e a b : Expr} {kind : Kind} {settings : Settings} {object : Value} {world : World}
  {memory : Memory}

/-- An expression is settled where the object is in scope, whatever numbers made-up names have. -/
theorem Expr.IsSettled.of_lower (h : e.IsSettled kind settings object world memory)
    (pure : e.isPure) {scope after : Scope} {t : Target}
    (same : scope.bindings = (Scope.root kind settings).bindings)
    (run : e.lower settings scope = .ok t after) :
    t.Settled (GivesAbout object world memory) := by
  have still : (false : Bool) ∨ e.isPure := .inr pure
  have named : e.mentionsOnly fun _ => true := e.mentionsOnly_of_forall fun _ => rfl
  have both := e.matches_lower still named settings _ scope (Scope.isProper_root kind settings)
    fun _ _ => by rw [same]
  rw [run] at both
  obtain ⟨t', after', run', alike, -⟩ := both.symm.exists_ok
  have target : e.target kind settings = .ok t' := by
    unfold Expr.target Lowering.runFor
    rw [run']
  refine Settled.alike ?_ (alike.extend (Naming.extend_only fun _ _ => trivial))
  refine (h t' target).mono fun t v given => ?_
  have ok : (Compiled.runOn ⟨t, settings.dialect⟩ object world memory).result = .ok v := given
  exact Compiled.exists_value_of_result ok

/-- A comparison of settled operands is lowered with letter case folded if it is without, and to a
tree that acts alike about the object. -/
theorem Lowering.carried_of_settled (pure : a.isPure) (pure' : b.isPure) {operator : Operator}
    (settled : a.IsSettled kind settings object world memory)
    (settled' : operator ≠ .isMatch → b.IsSettled kind settings object world memory)
    (modifier : Modifier) (options : Options) :
    Carried true (Acts (.about object world memory) .outer) (fun _ _ => True)
      ((Predicate.comparison a operator b modifier { options with caseInsensitive := false }).lower
        settings (.root kind settings))
      ((Predicate.comparison a operator b modifier { options with caseInsensitive := true }).lower
        settings (.root kind settings)) := by
  rw [Predicate.lower, Predicate.lower]
  cases first : a.lower settings (.root kind settings) with
  | error e between =>
    rw [bind_run_of_error first, bind_run_of_error first]
    exact .error e e between between
  | ok t between =>
    rw [bind_run_of_ok first, bind_run_of_ok first]
    cases second : b.lower settings between with
    | error e after =>
      rw [bind_run_of_error second, bind_run_of_error second]
      exact .error e e after after
    | ok s after =>
      rw [bind_run_of_ok second, bind_run_of_ok second]
      have root := Scope.wellFormed_root kind settings
      obtain ⟨closed, proper, same⟩ := plain_of_lower pure (Scope.isProper_root kind settings) first
      obtain ⟨closed', proper', -⟩ := plain_of_lower pure' proper second
      have formed := a.wellFormed_of_lower pure (Scope.isProper_root kind settings) root first
      have formed' := b.wellFormed_of_lower pure' proper (root.of_bindings_eq same) second
      have both := carries_comparison_of_settled modifier options closed closed' formed formed'
        (settled.of_lower pure rfl first) (fun other => (settled' other).of_lower pure' same second)
        settings after after rfl ⟨proper', rfl⟩ (Naming.old_only _ _ _)
      generalize comparison operator modifier _ t s settings after = run at both ⊢
      generalize comparison operator modifier _ t s settings after = run' at both ⊢
      cases both with
      | ok holds onward => exact .ok holds.exchanges.acts trivial
      | error e e' last last' => exact .error e e' last last'
      | excused inexact => cases inexact

/-- Predicates that are lowered alike say the same of an object if their trees act alike there. -/
theorem Predicate.answer?_eq_of_carried {p p' : Predicate} {R : Scope → Scope → Prop}
    (both : Carried true (Acts (.about object world memory) .outer) R
      (p.lower settings (.root kind settings)) (p'.lower settings (.root kind settings))) :
    p'.answer? kind settings object world memory = p.answer? kind settings object world memory := by
  generalize run : p.lower settings (.root kind settings) = made at both
  generalize run' : p'.lower settings (.root kind settings) = made' at both
  cases both with
  | @ok t t' after after' acts _ =>
    have same : Compiled.test ⟨t', settings.dialect⟩ object world memory
        = Compiled.test ⟨t, settings.dialect⟩ object world memory :=
      Compiled.test_eq_of_acts acts ⟨rfl, rfl, Surroundings.match_only _ _⟩
    rw [answer?_of_lower run, answer?_of_lower run', Compiled.answer?, Compiled.answer?, same]
  | error => rw [answer?_of_lower_error run, answer?_of_lower_error run']
  | excused inexact => cases inexact

/-- If the operands of a comparison are settled, then folding letter case changes nothing about what
it says of the object. The right operand of `MATCHES` is a regular expression and is not folded. -/
theorem Predicate.answer?_of_settled (pure : a.isPure) (pure' : b.isPure) {operator : Operator}
    (settled : a.IsSettled kind settings object world memory)
    (settled' : operator ≠ .isMatch → b.IsSettled kind settings object world memory)
    (modifier : Modifier) (options : Options) :
    (comparison a operator b modifier { options with caseInsensitive := true }).answer? kind
        settings object world memory
      = (comparison a operator b modifier { options with caseInsensitive := false }).answer? kind
        settings object world memory :=
  answer?_eq_of_carried (carried_of_settled pure pure' settled settled' modifier options)

end

namespace Predicate

/-- A string in small letters is looked for among strings in small letters. -/
theorem answer?_of_settled_member :
    (Expr.path "a").IsSettled .any (.ofDialect .objects) (.object [("a", .string "y")])
        ⟨.reference, fun _ => 0⟩ .empty
      ∧ (Expr.list [.constant (.string "x"), .constant (.string "y")]).IsSettled .any
        (.ofDialect .objects) (.object [("a", .string "y")]) ⟨.reference, fun _ => 0⟩ .empty
      ∧ (comparison (.path "a") .member (.list [.constant (.string "x"), .constant (.string "y")])
          .direct ⟨true, false, false⟩).answer? .any (.ofDialect .objects)
          (.object [("a", .string "y")]) ⟨.reference, fun _ => 0⟩ .empty = some true
      ∧ (comparison (.path "a") .member (.list [.constant (.string "x"), .constant (.string "y")])
          .direct .none).answer? .any (.ofDialect .objects)
          (.object [("a", .string "y")]) ⟨.reference, fun _ => 0⟩ .empty = some true := by
  have property : (Expr.path "a").IsSettled .any (.ofDialect .objects)
      (.object [("a", .string "y")]) ⟨.reference, fun _ => 0⟩ .empty := by
    rintro t ⟨⟩
    refine .single rfl ?_
    rintro v ⟨after, ⟨⟩⟩
    decide +kernel
  have strings : (Expr.list [.constant (.string "x"), .constant (.string "y")]).IsSettled .any
      (.ofDialect .objects) (.object [("a", .string "y")]) ⟨.reference, fun _ => 0⟩ .empty := by
    rintro t ⟨⟩
    refine .list fun element _ _ => ?_
    have item (s : String) (small : Text.lower s = s) : ∀ v, (∃ after, Compiled.value
        ⟨.constant .string (.string s), .objects⟩ (.object [("a", .string "y")])
        ⟨.reference, fun _ => 0⟩ .empty = .ok v after) → v.isSettled .string := by
      rintro v ⟨after, ⟨⟩⟩
      exact decide_eq_true small
    exact List.forall_mem_cons.mpr ⟨.single rfl (item "x" (by decide +kernel)),
      List.forall_mem_singleton.mpr (.single rfl (item "y" (by decide +kernel)))⟩
  have exact_answer : (comparison (.path "a") .member
      (.list [.constant (.string "x"), .constant (.string "y")]) .direct .none).answer? .any
      (.ofDialect .objects) (.object [("a", .string "y")]) ⟨.reference, fun _ => 0⟩ .empty
        = some true := by
    decide +kernel
  refine ⟨property, strings, ?_, exact_answer⟩
  exact (answer?_of_settled (by decide) (by decide) property (fun _ => strings) .direct
    .none).trans exact_answer

/-- A value whose kind is not known is put in small letters, which a number does not have. -/
theorem answer?_folded_ne :
    (∃ c, (Expr.path "a").compile .any none (.ofDialect .objects) = .ok c
        ∧ c.value (.object [("a", .int 5)]) ⟨.reference, fun _ => 0⟩ .empty = .ok (.int 5) .empty)
      ∧ (comparison (.path "a") .equal (.constant (.int 5)) .direct .none).answer? .any
        (.ofDialect .objects) (.object [("a", .int 5)]) ⟨.reference, fun _ => 0⟩ .empty = some true
      ∧ (comparison (.path "a") .equal (.constant (.int 5)) .direct ⟨true, false, false⟩).answer?
        .any (.ofDialect .objects) (.object [("a", .int 5)]) ⟨.reference, fun _ => 0⟩ .empty
          = none := by
  refine ⟨⟨_, rfl, rfl⟩, ?_, ?_⟩ <;> decide +kernel

end Predicate

end PredicateLang
