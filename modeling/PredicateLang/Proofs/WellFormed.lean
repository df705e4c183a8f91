import PredicateLang.Proofs.Exchange.Folding
import PredicateLang.Proofs.Kinds.Call

/-!
# Constants and lists among lowered trees

Lowering looks into operands that are constants or lists. What an expression without effects is
lowered to is such an operand only in few ways, and then it is well-formed: a constant that may be a
string by its kind is one, and a list is a collection, whose items are well-formed.
-/

namespace PredicateLang

open Lowering (mayBeString exists_text)

namespace Target

variable {t u : Target}

/-- A constant whose kind may be that of strings is a string, and a list is a collection. -/
inductive WellFormed : Target → Prop where
  | constant {kind : Kind} {value : Value}
    (text : mayBeString kind → kind = .string ∧ ∃ s, value = .string s) :
    WellFormed (.constant kind value)
  | list {element : Kind} {items : List Target} (each : ∀ t ∈ items, WellFormed t) :
    WellFormed (.list (.sequence element) items)
  | plain {t : Target} (plain : t.isPlain) : WellFormed t

theorem wellFormed_ofValue (v : Value) : (ofValue v).WellFormed := by
  refine .constant fun may => ?_
  obtain ⟨s, rfl⟩ := exists_text may
  exact ⟨rfl, s, rfl⟩

/-- What is converted to a string is one, unless it is null. -/
theorem exists_string_of_convert? {v w : Value} (there : v.isNull = false)
    (h : v.convert? .string = some w) : ∃ s, w = .string s := by
  unfold Value.convert? at h
  split at h
  · rename_i same
    cases h
    rcases same with null | dynamic | is
    · rw [there] at null
      cases null
    · cases dynamic
    · exact exists_text (is ▸ rfl)
  · exact exists_text (Value.ofValue_convertAcross h ▸ rfl)

/-- A cast to a kind of numbers, strings or GUIDs leaves a tree well-formed. -/
theorem WellFormed.cast {wanted : Kind} (h : t.WellFormed) (castable : wanted.isCastable)
    (made : t.cast wanted = .ok u) : u.WellFormed := by
  cases is : t.constant? with
  | none =>
    rw [cast_of_constant?_eq_none is] at made
    split at made <;> cases made
    · exact h
    · exact .plain rfl
  | some value =>
    cases t with
    | constant kind value =>
      unfold Target.cast at made
      split at made
      · cases made
        exact h
      · dsimp only at made
        split at made
        · cases made
          exact h
        · rename_i there
          unfold castConstant at made
          split at made <;> cases made
          rename_i converts
          refine .constant fun may => ?_
          cases wanted with
          | string => exact ⟨rfl, exists_string_of_convert? (Bool.eq_false_iff.mpr there) converts⟩
          | any => cases castable
          | _ => cases may
    | _ => cases is

end Target

/-! ## Functions -/

namespace Lowering

open Target

variable {t s : Target} {ts : List Target}

theorem makes_guarded_isPlain {build : Target → Lowering Target}
    (h : ∀ s, Makes (build s) (·.isPlain)) : Makes (guarded t build) (·.isPlain) := by
  refine makes_dialect.bind fun dialect _ => ?_
  split
  · exact (makes_fresh "g").bind fun name _ => (h _).bind fun body _ => makes_pure rfl
  · exact h t

theorem makes_count : Makes (count t) (·.isPlain) :=
  makes_guarded_isPlain fun _ => makes_pure rfl

theorem makes_reduce (reduction : Reduction) (element : Kind) :
    Makes (reduce t reduction element) (·.isPlain) := by
  unfold reduce
  split
  · exact makes_guarded_isPlain fun _ => makes_pure rfl
  · exact makes_typeFault _

theorem makes_collectionOperator (name : String) :
    Makes (collectionOperator t name) (·.isPlain) := by
  refine (makes_elementOf _ _ t).bind fun element _ => ?_
  dsimp only
  split
  · exact makes_count
  · split
    · exact makes_reduce _ element
    · exact makes_typeFault _

/-- A key path leads to the receiver itself, or to a tree that is neither a constant nor a list. -/
theorem makes_follow (segments : List String) (h : t.WellFormed) :
    Makes (follow t segments) WellFormed := by
  induction segments generalizing t with
  | nil => exact makes_pure h
  | cons segment rest ih =>
    unfold follow
    split
    · exact (ih h).bind fun u _ => (makes_collectionOperator _).mono fun _ => .plain
    · exact (makes_propertyOn segment t.kind t).bind fun u made => ih (.plain made.2)

/-- A constant is cast at once to a constant of the kind of its value. -/
theorem makes_castNow (builtin : Builtin) (kind : Kind)
    (cast : Value → Except EvaluationFault Value) :
    Makes
      (match t.constant? with
        | some value =>
          if value.isNull then castTo.castLater t builtin kind
          else
            match cast value with
            | .ok result => return .ofValue result
            | .error fault => throw (.evaluation fault)
        | none => castTo.castLater t builtin kind) WellFormed := by
  have later : Makes (castTo.castLater t builtin kind) WellFormed := by
    refine makes_dialect.bind fun dialect _ => ?_
    split
    · exact makes_throw _
    · exact makes_pure (.plain rfl)
  split
  · split
    · exact later
    · split
      · exact makes_pure (wellFormed_ofValue _)
      · exact makes_throw _
  · exact later

theorem makes_castTo : Makes (castTo t s) WellFormed := by
  unfold castTo
  split
  · dsimp only
    split
    iterate 3 exact makes_castNow _ _ _
    exact (makes_typeFault (P := fun _ => False) _).bind fun _ never => never.elim
  · exact makes_typeFault _

theorem makes_moveDate (selector : String) (unit : DateUnit) :
    Makes (moveDate selector unit t s) (·.isPlain) := by
  refine (makes_numeric selector s).bind fun amount _ => ?_
  split
  iterate 3
    refine makes_dialect.bind fun dialect _ => ?_
    cases dialect with
    | objects =>
      exact (makes_fractional amount).bind fun _ _ => makes_guarded_isPlain fun _ => makes_pure rfl
    | backend => exact (makes_backendAmount amount).bind fun _ _ => makes_pure rfl
  exact makes_typeFault _

theorem makes_indexBySymbol (element : Kind) (symbol : IndexSymbol) :
    Makes (indexBySymbol t element symbol) (·.isPlain) := by
  cases symbol with
  | size => exact makes_count
  | first | last =>
    unfold indexBySymbol
    exact makes_guarded_isPlain fun _ => makes_pure rfl

theorem makes_indexBy (element : Kind) : Makes (indexBy t element s) (·.isPlain) :=
  (makes_integral _ s).bind fun _ _ => makes_guarded_isPlain fun _ => makes_pure rfl

theorem makes_textFunction (selector : String) (builtin : Builtin) :
    Makes (textFunction selector builtin t) (·.isPlain) := by
  unfold textFunction
  split
  iterate 3 exact makes_guarded_isPlain fun _ => makes_pure rfl
  exact makes_typeFault _

theorem isPlain_of_isOperation {op : BinaryOp} {l r : Target} (h : IsOperation op l r t) :
    t.isPlain := by
  obtain ⟨kind, l', r', rfl, -⟩ := h
  rfl

section Calls

variable {selector : String} {meaning : Meaning} {lowering : Lowering Target}

theorem makes_unaryCall? (known : unaryCall? selector t meaning = some lowering) :
    Makes lowering (·.isPlain) := by
  cases meaning with
  | reduce reduction =>
    cases known
    exact (makes_elementOf _ _ t).bind fun element _ => makes_reduce reduction element
  | count =>
    cases known
    exact (makes_elementOf _ _ t).bind fun _ _ => makes_count
  | math builtin =>
    cases known
    exact (makes_numeric _ t).bind fun t _ => (makes_fractional t).bind fun _ _ => makes_pure rfl
  | rounding | abs | negate | randomBelow =>
    cases known
    exact (makes_numeric _ t).bind fun _ _ => makes_pure rfl
  | onesComplement =>
    cases known
    exact (makes_integral _ t).bind fun _ _ => makes_pure rfl
  | text builtin =>
    cases known
    exact makes_textFunction selector builtin
  | _ => cases known

theorem makes_binaryCall? (known : binaryCall? selector t s meaning = some lowering) :
    Makes lowering WellFormed := by
  cases meaning with
  | arithmetic op =>
    cases known
    exact (makes_arithmetic selector op t s).mono fun _ is => .plain (isPlain_of_isOperation is)
  | bitwise op =>
    cases known
    refine (makes_integral _ t).bind fun t _ => (makes_integral _ s).bind fun s _ => ?_
    exact (makes_onSharedKind op t s).mono fun _ is => .plain (isPlain_of_isOperation is)
  | shift op =>
    cases known
    exact (makes_integral _ t).bind fun _ _ => (makes_integral _ s).bind fun _ _ =>
      makes_pure (.plain rfl)
  | cast =>
    cases known
    exact makes_castTo
  | dateAdd unit =>
    cases known
    exact (makes_moveDate selector unit).mono fun _ => .plain
  | _ => cases known

theorem makes_constantCall? (known : constantCall? meaning = some lowering) :
    Makes lowering (·.isPlain) := by
  cases meaning with
  | random | now =>
    cases known
    exact makes_pure rfl
  | _ => cases known

end Calls

theorem makes_call (f : BuiltinFunction) : Makes (call f ts) WellFormed := by
  unfold call
  split
  · rename_i lowering known
    unfold call? at known
    split at known
    · exact (makes_constantCall? known).mono fun _ => .plain
    · exact (makes_unaryCall? known).mono fun _ => .plain
    · exact makes_binaryCall? known
    · cases known
  · exact makes_typeFault _

theorem makes_list (h : ∀ t ∈ ts, t.WellFormed) : Makes (list ts) WellFormed := by
  unfold list
  dsimp only
  split
  · rename_i castable
    refine Makes.bind (P := fun us => ∀ u ∈ us, u.WellFormed) ?_ fun us each =>
      makes_pure (.list each)
    refine makes_ofResult fun us made u mem => ?_
    obtain ⟨t, mem', cast⟩ := exists_of_mapM_ok made u mem
    exact (h t mem').cast castable cast
  · exact makes_pure (.list h)

end Lowering

/-! ## Expressions -/

/-- The names in scope stand for well-formed trees. -/
def Scope.WellFormed (scope : Scope) : Prop :=
  ∀ name t, scope.bindings.find? name = some t → t.WellFormed

theorem Scope.WellFormed.of_bindings_eq {scope after : Scope} (h : scope.WellFormed)
    (same : after.bindings = scope.bindings) : after.WellFormed := by
  unfold WellFormed
  rw [same]
  exact h

theorem Scope.WellFormed.insert {scope : Scope} (h : scope.WellFormed) (name : String) {t : Target}
    (formed : t.WellFormed) :
    Scope.WellFormed { scope with bindings := scope.bindings.insert name t } := by
  intro name' t' found
  by_cases same : name = name'
  · rw [same, Fields.find?_insert_self] at found
    cases found
    exact formed
  · rw [Fields.find?_insert_of_ne _ _ same] at found
    exact h name' t' found

theorem Scope.wellFormed_externals {bindings : Fields Target} {counter : Nat}
    (externals : List (String × Value)) (h : Scope.WellFormed ⟨bindings, counter⟩) :
    Scope.WellFormed ⟨externals.foldl (fun bindings (name, value) =>
      bindings.insert (variableKey name) (.ofValue value)) bindings, counter⟩ := by
  induction externals generalizing bindings with
  | nil => exact h
  | cons external rest ih => exact ih (h.insert _ (Target.wellFormed_ofValue external.2))

/-- In scope there are the object and constants at first. -/
theorem Scope.wellFormed_root (kind : Kind) (settings : Settings) :
    (root kind settings).WellFormed := by
  refine wellFormed_externals settings.externals fun name t found => ?_
  unfold Fields.find? at found
  split at found <;> cases found
  exact .plain rfl

section

open Lowering Target

variable {settings : Settings} {scope after : Scope} {t : Target}

theorem Scope.WellFormed.of_bound (known : scope.WellFormed) {key : String} {e : Error}
    (run : (do match ← binding? key with | some target => return target | none => throw e :
      Lowering Target) settings scope = .ok t after) : t.WellFormed := by
  obtain ⟨found, between, read, run⟩ := exists_of_run_bind run
  obtain ⟨is, rfl⟩ : scope.bindings.find? key = found ∧ between = scope := by
    cases read
    exact ⟨rfl, rfl⟩
  cases found with
  | none => cases run
  | some u =>
    cases run
    exact known key _ is

theorem Expr.isPlain_of_lowerIndex {args : List Expr}
    (run : Expr.lowerIndex args settings scope = .ok t after) : t.isPlain := by
  unfold Expr.lowerIndex at run
  split at run
  · obtain ⟨source, one, -, run⟩ := exists_of_run_bind run
    obtain ⟨element, two, -, run⟩ := exists_of_run_bind run
    exact (makes_indexBySymbol element _ _ _ _ _ run).1
  · obtain ⟨source, one, -, run⟩ := exists_of_run_bind run
    obtain ⟨element, two, -, run⟩ := exists_of_run_bind run
    obtain ⟨place, three, -, run⟩ := exists_of_run_bind run
    exact (makes_indexBy element _ _ _ _ run).1
  · cases run

theorem Lowering.isPlain_of_filter {source : Target} {name : String} {predicate : Lowering Target}
    (run : filter source name predicate settings scope = .ok t after) : t.isPlain := by
  obtain ⟨element, one, -, run⟩ := exists_of_run_bind run
  obtain ⟨_, two, -, run⟩ := exists_of_run_bind run
  obtain ⟨condition, three, -, run⟩ := exists_of_run_bind run
  exact (makes_guarded_isPlain (fun _ => makes_pure rfl) _ _ _ _ run).1

mutual

/-- What an expression without effects is lowered to is well-formed. -/
theorem Expr.wellFormed_of_lower {e : Expr} (pure : e.isPure) {scope after : Scope} {t : Target}
    (proper : scope.IsProper) (known : scope.WellFormed)
    (run : e.lower settings scope = .ok t after) : t.WellFormed := by
  match e with
  | .constant value =>
    cases run
    exact wellFormed_ofValue value
  | .self | .var _ => exact known.of_bound run
  | .path route =>
    obtain ⟨receiver, between, first, run⟩ := exists_of_run_bind run
    exact (makes_follow _ (known.of_bound first) _ _ _ _ run).1
  | .pathOn operand route =>
    rw [Expr.isPure_pathOn] at pure
    obtain ⟨receiver, between, first, run⟩ := exists_of_run_bind run
    have receiver := Expr.wellFormed_of_lower pure proper known first
    exact (makes_follow _ receiver _ _ _ _ run).1
  | .call selector args =>
    obtain ⟨f, one, -, run⟩ := exists_of_run_bind run
    split at run
    · exact .plain (Expr.isPlain_of_lowerIndex run)
    · obtain ⟨ts, two, -, run⟩ := exists_of_run_bind run
      exact (makes_call f _ _ _ _ run).1
  | .subquery collection name predicate =>
    change enclosed _ settings scope = _ at run
    unfold enclosed at run
    split at run <;> cases run
    rename_i inside
    obtain ⟨source, one, -, inside⟩ := exists_of_run_bind inside
    exact .plain (isPlain_of_filter inside)
  | .list items =>
    obtain ⟨ts, between, first, run⟩ := exists_of_run_bind run
    exact (makes_list (Expr.wellFormed_of_lowerAll pure proper known first) _ _ _ _ run).1
  | .symbol _ => cases run
  | .assign _ _ => cases pure

theorem Expr.wellFormed_of_lowerAll {es : List Expr} (pure : Expr.allMeet .pure es)
    {scope after : Scope} {ts : List Target} (proper : scope.IsProper) (known : scope.WellFormed)
    (run : Expr.lowerAll es settings scope = .ok ts after) : ∀ t ∈ ts, t.WellFormed := by
  match es with
  | [] =>
    cases run
    exact List.forall_mem_nil _
  | e :: rest =>
    rw [Expr.allMeet_pure_cons, Bool.and_eq_true] at pure
    obtain ⟨t, one, first, run⟩ := exists_of_run_bind run
    obtain ⟨others, two, further, run⟩ := exists_of_run_bind run
    cases run
    obtain ⟨-, proper', same⟩ := plain_of_lower pure.1 proper first
    exact List.forall_mem_cons.mpr ⟨Expr.wellFormed_of_lower pure.1 proper known first,
      Expr.wellFormed_of_lowerAll pure.2 proper' (known.of_bindings_eq same) further⟩

end

end

end PredicateLang
