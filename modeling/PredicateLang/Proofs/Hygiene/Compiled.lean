import PredicateLang.Proofs.Hygiene.Lowering

/-!
# Lowered trees are hygienic

By induction on expressions and predicates, what they are lowered to is tidy at every site. So no
made-up name is introduced twice on a way down a lowered tree, and none stands where it is not
introduced.
-/

open PredicateLang.Scope PredicateLang.Target

namespace PredicateLang

namespace Lowering

variable {w : Site} {t : Target} {ts : List Target}

theorem stays_object : StaysTidy w object := by
  refine (stays_binding? _).bind fun _ found _ holds => ?_
  split
  · exact stays_pure (holds _ rfl)
  · exact stays_throw _

theorem stays_reference (name : String) : StaysTidy w (reference name) := by
  refine (stays_binding? _).bind fun _ found _ holds => ?_
  split
  · exact stays_pure (holds _ rfl)
  · exact stays_throw _

theorem stays_list (h : AllTidy w ts) : StaysTidy w (list ts) := by
  unfold list
  dsimp only
  split
  · refine Stays.bind (P := AllTidy) ?_ fun _ us _ holds => stays_pure (tidy_list _ holds)
    refine stays_ofResult fun us made u mem => ?_
    obtain ⟨t, mem', cast⟩ := exists_of_mapM_ok made u mem
    exact (h t mem').cast cast
  · exact stays_pure (tidy_list _ h)

theorem stays_assign (name : String) (h : t.Tidy w) : StaysTidy w (assign name t) :=
  (stays_bind _ name).bind fun _ _ le _ => stays_pure ((h.mono le).above rfl rfl)

/-- The predicate is put under the guard of the collection and the name of the variable. -/
theorem stays_filter (name : String) {predicate : Lowering Target} (h : t.Tidy w)
    (h' : ∀ w', StaysTidy w' predicate) : StaysTidy w (filter t name predicate) := by
  refine (stays_elementOf _ _ t).bind fun _ element le _ => ?_
  refine (stays_bind element name).bind fun _ _ le' _ => ?_
  refine (h' _).bind fun _ condition le'' holds => ?_
  have h := h.mono ((le.trans le').trans le'')
  refine stays_guarded h fun _ _ le holds' => stays_pure ?_
  exact tidy_filter _ (.inr ⟨name, rfl⟩) holds' (holds.mono le)

end Lowering

open Lowering

/-! ## The induction -/

mutual

theorem Expr.stays_lower (e : Expr) {w : Site} : StaysTidy w e.lower := by
  match e with
  | .constant value => exact stays_pure (tidy_constant _ value)
  | .self => exact stays_object
  | .var name => exact stays_reference name
  | .path route => exact stays_object.bind fun _ _ _ holds => stays_follow (segments route) holds
  | .pathOn operand route =>
    exact (Expr.stays_lower operand).bind fun _ _ _ holds => stays_follow (segments route) holds
  | .call selector args =>
    refine (stays_function selector args.length).bind fun _ f _ _ => ?_
    split
    · exact Expr.stays_lowerIndex args
    · exact (Expr.stays_lowerAll args).bind fun _ _ _ holds => stays_call holds
  | .subquery collection name predicate =>
    refine Stays.enclosed ?_
    exact (Expr.stays_lower collection).bind fun _ _ _ holds =>
      stays_filter name holds fun _ => Predicate.stays_lower predicate
  | .list items => exact (Expr.stays_lowerAll items).bind fun _ _ _ holds => stays_list holds
  | .symbol _ => exact stays_typeFault _
  | .assign name value =>
    exact (Expr.stays_lower value).bind fun _ _ _ holds => stays_assign name holds

theorem Expr.stays_lowerIndex (args : List Expr) {w : Site} :
    StaysTidy w (Expr.lowerIndex args) := by
  unfold Expr.lowerIndex
  split
  · rename_i collection symbol
    refine (Expr.stays_lower collection).bind fun _ source _ holds => ?_
    exact (stays_elementOf _ _ source).bind fun _ element le _ =>
      stays_indexBySymbol element symbol (holds.mono le)
  · rename_i collection place _
    refine (Expr.stays_lower collection).bind fun _ source _ holds => ?_
    refine (stays_elementOf _ _ source).bind fun _ element le _ => ?_
    exact (Expr.stays_lower place).bind fun _ _ le' holds' =>
      stays_indexBy element (holds.mono (le.trans le')) holds'
  · exact stays_typeFault _

theorem Expr.stays_lowerAll (es : List Expr) {w : Site} : Stays w (Expr.lowerAll es) AllTidy := by
  match es with
  | [] => exact stays_pure nofun
  | e :: rest =>
    exact (Expr.stays_lower e).bind fun _ _ _ holds => (Expr.stays_lowerAll rest).bind
      fun _ _ le all => stays_pure (List.forall_mem_cons.mpr ⟨holds.mono le, all⟩)

theorem Predicate.stays_lower (p : Predicate) {w : Site} : StaysTidy w p.lower := by
  match p with
  | .constant value => exact stays_pure (tidy_constant _ _)
  | .comparison left operator right modifier options =>
    refine (Expr.stays_lower left).bind fun _ _ _ holds => ?_
    exact (Expr.stays_lower right).bind fun _ _ le holds' =>
      stays_comparison operator modifier options (holds.mono le) holds'
  | .compound .not parts =>
    match parts with
    | [part] =>
      exact (Predicate.stays_lower part).bind fun _ _ _ holds => stays_pure (holds.above rfl rfl)
    | [] | _ :: _ :: _ => exact stays_typeFault _
  | .compound .and parts | .compound .or parts => exact Predicate.stays_lowerJoined _ parts

theorem Predicate.stays_lowerJoined (op : BinaryOp) (ps : List Predicate) {w : Site} :
    StaysTidy w (Predicate.lowerJoined op ps) := by
  match ps with
  | [] => exact stays_pure (tidy_constant _ _)
  | [part] => exact Predicate.stays_lower part
  | part :: second :: rest =>
    refine (Predicate.stays_lower part).bind fun _ _ _ holds => ?_
    exact (Predicate.stays_lowerJoined op (second :: rest)).bind fun _ _ le holds' =>
      stays_pure ((holds.mono le).binary _ op holds')

end

/-! ## Whole trees -/

namespace Lowering

/-- What a step that makes tidy trees gives is hygienic, however many names have been made up. -/
theorem StaysTidy.isHygienic {step : Lowering Target} {settings : Settings} {scope after : Scope}
    {t : Target} (h : StaysTidy (.outside scope.counter) step) (own : scope.IsOwn)
    (run : step settings scope = .ok t after) : t.IsHygienic ∧ after.IsOwn := by
  obtain ⟨own, le, tidy⟩ := h settings scope t after rfl own run
  exact ⟨tidy.isHygienic, own⟩

/-- Whatever is lowered, in whatever settings, the tree is hygienic: no made-up name is introduced
twice on a way down, a made-up name stands only where it is introduced, and all other names are those
of the object and of variables, which made-up names are different from. It does not matter what was
lowered before: lowering starts in a scope where names stand for constants, the object and variables,
and keeps it so. -/
theorem lowered_isHygienic :
    (∀ name, isMadeUp name → name ≠ objectName ∧ ∀ x, name ≠ variableKey x) ∧
    (∀ object settings, (root object settings).IsOwn) ∧
    ∀ settings scope t after, scope.IsOwn →
      (∀ e : Expr, e.lower settings scope = .ok t after → t.IsHygienic ∧ after.IsOwn) ∧
      (∀ p : Predicate, p.lower settings scope = .ok t after → t.IsHygienic ∧ after.IsOwn) :=
  ⟨fun _ made => ⟨(ne_of_isMadeUp rfl made).symm, fun x =>
      (ne_of_isMadeUp (isMadeUp_variableKey x) made).symm⟩,
    isOwn_root, fun _ _ _ _ own =>
      ⟨fun e run => StaysTidy.isHygienic e.stays_lower own run,
        fun p run => StaysTidy.isHygienic p.stays_lower own run⟩⟩

/-- `ANY lines.n BETWEEN {random(), lines[LAST]}` -/
def anyWithin : Predicate :=
  .comparison (.path "lines.n") .between
    (.list [.call "random" [], Expr.index (.path "lines") (.symbol .last)]) .any .none

/-- The bounds are evaluated ahead, under the fifth of six names. -/
theorem lowered_isHygienic_anyWithin : ∃ t after,
    anyWithin.lower (.ofDialect .objects) (root .any (.ofDialect .objects)) = .ok t after
      ∧ after.counter = 6 ∧ t.binding? = some "#b5" ∧ t.IsHygienic := by
  have runs : (match anyWithin.lower (.ofDialect .objects) (root .any (.ofDialect .objects)) with
      | .ok t after => after.counter = 6 && t.binding? = some "#b5"
      | .error _ _ => false) = true := by decide +kernel
  split at runs
  · rename_i t after run
    rw [Bool.and_eq_true, decide_eq_true_eq, decide_eq_true_eq] at runs
    obtain ⟨-, own, hygienic⟩ := lowered_isHygienic
    have whole := (hygienic _ _ t after (own .any (.ofDialect .objects))).2 anyWithin run
    exact ⟨t, after, run, runs.1, runs.2, whole.1⟩
  · cases runs

end Lowering

end PredicateLang
