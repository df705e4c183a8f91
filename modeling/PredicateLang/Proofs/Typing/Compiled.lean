import PredicateLang.Compilation
import PredicateLang.Proofs.Condition
import PredicateLang.Proofs.Fields
import PredicateLang.Proofs.Typing.Lowering

/-!
# Compiled expressions keep to their kind

An expression is lowered to a tree that is evaluated to values of its kind, by induction on the
expression; a compiled expression gives such values. Three things are left out. An assignment brings
a variable into scope with the kind of its last value, which a value assigned before may not have.
A change of letter case is said to give a string, and gives an array for an array. And a string that
meets a GUID is not converted, so that a list of both holds strings among GUIDs.
-/

open PredicateLang.Lowering

namespace PredicateLang

/-- What keeps to its kind: everything but assignments, changes of letter case and GUIDs. -/
def Condition.keepsKind : Condition where
  expr
    | .constant value => value.isGuidFree
    | .call selector _ => !changesCase selector
    | .assign .. => false
    | _ => true
  predicate _ := true

namespace Lowering

variable {names : Fields Target} {Γ : Context}

/-- Every binding in scope stands for a typed tree. -/
def InScope (names : Fields Target) (Γ : Context) : Prop :=
  ∀ name t, names.find? name = some t → t.Typed Γ

theorem keeps_object (scope : InScope names Γ) : Keeps names object (·.Typed Γ) := by
  refine (keeps_binding? _).bind fun found same => ?_
  split
  · exact keeps_pure (scope _ _ same.symm)
  · exact keeps_throw _

theorem keeps_reference (name : String) (scope : InScope names Γ) :
    Keeps names (reference name) (·.Typed Γ) := by
  refine (keeps_binding? _).bind fun found same => ?_
  split
  · exact keeps_pure (scope _ _ same.symm)
  · exact keeps_throw _

theorem keeps_function (selector : String) (arity : Nat) : Keeps names (function selector arity)
    (fun f => BuiltinFunction.ofSelector? selector = some f) := by
  unfold function
  split
  · exact keeps_throw _
  · split
    · exact keeps_pure ‹_›
    · exact keeps_typeFault _

/-- Whatever the predicate is, and whatever it brings into scope, a subquery is of the kind of its
collection. -/
theorem typed_filter {source t : Target} {var : String} {predicate : Lowering Target}
    {settings : Settings} {scope after : Scope} (h : source.Typed Γ)
    (run : filter source var predicate settings scope = .ok t after) : t.Typed Γ := by
  obtain ⟨element, scope₁, -, run⟩ := run_bind run
  obtain ⟨-, scope₂, -, run⟩ := run_bind run
  obtain ⟨condition, scope₃, -, run⟩ := run_bind run
  have typed : Keeps scope₃.bindings (guarded source fun guardedSource =>
      return .filter source.kind guardedSource (Scope.variableKey var) condition) (·.Typed Γ) := by
    refine Keeps.guarded h fun Γ' guardedSource typed same => ?_
    rw [← same]
    exact keeps_pure ⟨typed.sound.filter, typed.regular⟩
  exact (typed settings scope₃ t after rfl run).1

end Lowering

/-! ## The induction -/

mutual

/-- In a scope of typed trees an expression is lowered to a typed tree. -/
theorem Expr.keeps_lower (e : Expr) {names : Fields Target} {Γ : Context}
    (scope : InScope names Γ) (h : e.meets .keepsKind) : Keeps names e.lower (·.Typed Γ) := by
  match e with
  | .constant value =>
    exact keeps_pure ⟨Target.sound_ofValue value, Kind.isRegular_ofValue value h⟩
  | .self => exact keeps_object scope
  | .var name => exact keeps_reference name scope
  | .path route => exact (keeps_object scope).bind fun t typed => keeps_keyPath route typed
  | .pathOn operand route =>
    rw [Expr.meets, Bool.and_eq_true] at h
    exact (Expr.keeps_lower operand scope h.2).bind fun t typed => keeps_keyPath route typed
  | .call selector args =>
    rw [Expr.meets, Bool.and_eq_true] at h
    have same_case : changesCase selector = false := Bool.not_eq_true' _ |>.mp h.1
    refine (keeps_function selector args.length).bind fun f found => ?_
    have keeps := keepsKind_of_ofSelector? found same_case
    split
    · exact Expr.keeps_lowerIndex args scope h.2
    · exact (Expr.keeps_lowerAll args scope h.2).bind fun ts typed => keeps_call keeps typed
  | .subquery collection name predicate =>
    rw [Expr.meets, Bool.and_eq_true, Bool.and_eq_true] at h
    refine keeps_enclosed fun settings start t after bindings run => ?_
    obtain ⟨source, between, lowered, run⟩ := run_bind run
    have typed := Expr.keeps_lower collection scope h.1.2 settings start source between bindings lowered
    exact typed_filter typed.1 run
  | .list items =>
    rw [Expr.meets, Bool.and_eq_true] at h
    exact (Expr.keeps_lowerAll items scope h.2).bind fun ts typed => keeps_list typed
  | .symbol _ => exact keeps_typeFault _
  | .assign name value =>
    rw [Expr.meets, Bool.and_eq_true] at h
    cases h.1

theorem Expr.keeps_lowerIndex (args : List Expr) {names : Fields Target} {Γ : Context}
    (scope : InScope names Γ) (h : Expr.allMeet .keepsKind args) :
    Keeps names (Expr.lowerIndex args) (·.Typed Γ) := by
  unfold Expr.lowerIndex
  split
  · rename_i collection symbol
    rw [Expr.allMeet, Bool.and_eq_true] at h
    refine (Expr.keeps_lower collection scope h.1).bind fun source typed => ?_
    exact (keeps_elementOf _ _ source).bind fun element known =>
      keeps_indexBySymbol symbol typed known
  · rename_i collection place _
    rw [Expr.allMeet, Expr.allMeet, Bool.and_eq_true, Bool.and_eq_true] at h
    refine (Expr.keeps_lower collection scope h.1).bind fun source typed => ?_
    refine (keeps_elementOf _ _ source).bind fun element known => ?_
    exact (Expr.keeps_lower place scope h.2.1).bind fun index _ => keeps_indexBy index typed known
  · exact keeps_typeFault _

/-- In a scope of typed trees expressions are lowered to typed trees. -/
theorem Expr.keeps_lowerAll (es : List Expr) {names : Fields Target} {Γ : Context}
    (scope : InScope names Γ) (h : Expr.allMeet .keepsKind es) :
    Keeps names (Expr.lowerAll es) (fun ts => ∀ t ∈ ts, t.Typed Γ) := by
  match es with
  | [] => exact keeps_pure nofun
  | e :: rest =>
    rw [Expr.allMeet, Bool.and_eq_true] at h
    exact (Expr.keeps_lower e scope h.1).bind fun t typed =>
      (Expr.keeps_lowerAll rest scope h.2).bind fun ts all =>
        keeps_pure (List.forall_mem_cons.mpr ⟨typed, all⟩)

end

/-! ## Whole expressions -/

/-- The object is in scope with its kind, and the external variables with those of their values. -/
theorem inScope_root {kind : Kind} {settings : Settings} (regular : kind.isRegular)
    (free : ∀ entry ∈ settings.externals, entry.2.isGuidFree) :
    InScope (Scope.root kind settings).bindings [(Scope.objectName, kind)] := by
  have all : ∀ (externals : Fields Value) (bindings : Fields Target),
      (∀ entry ∈ externals, entry.2.isGuidFree) →
      (∀ entry ∈ bindings, entry.2.Typed [(Scope.objectName, kind)]) →
      ∀ entry ∈ externals.foldl (fun bindings entry =>
        bindings.insert (Scope.variableKey entry.1) (.ofValue entry.2)) bindings,
        entry.2.Typed [(Scope.objectName, kind)] := by
    intro externals
    induction externals with
    | nil => exact fun bindings _ typed => typed
    | cons first rest ih =>
      intro bindings free typed
      rw [List.forall_mem_cons] at free
      refine ih _ free.2 fun entry mem => ?_
      rcases Fields.mem_insert mem with rfl | mem
      · exact ⟨Target.sound_ofValue _, Kind.isRegular_ofValue _ free.1⟩
      · exact typed entry mem
  intro name t found
  refine all settings.externals [(Scope.objectName, .parameter kind Scope.objectName)] free ?_ _
    (Fields.mem_of_find? found)
  exact List.forall_mem_singleton.mpr (typed_parameter regular)

/-- An expression is lowered to a tree of its kind, under the name of the object. -/
theorem Expr.sound_target {e : Expr} {kind : Kind} {settings : Settings} {t : Target}
    (keeps : e.meets .keepsKind) (regular : kind.isRegular)
    (free : ∀ entry ∈ settings.externals, entry.2.isGuidFree)
    (lowered : e.target kind settings = .ok t) : t.Sound [(Scope.objectName, kind)] := by
  unfold Expr.target Lowering.runFor at lowered
  split at lowered <;> cases lowered
  exact (e.keeps_lower (inScope_root regular free) keeps _ _ _ _ rfl ‹_›).1.sound

theorem Memory.fits_nil (m : Memory) : m.Fits [] := by
  intro name kind known
  cases known

/-- The value of a compiled expression is of the kind of the compiled tree: for every object that
the expression has been compiled for, every expression without assignments and changes of letter
case, and all settings, if there are no GUIDs among them. -/
theorem Compiled.value_conforms (v : Value) (e : Expr) (settings : Settings) (compiled : Compiled)
    (world : World) (memory after : Memory) (result : Value) (free : v.isGuidFree)
    (keeps : e.meets .keepsKind) (externals : ∀ entry ∈ settings.externals, entry.2.isGuidFree)
    (compiles : e.compile (.ofValue v) none settings = .ok compiled)
    (evaluates : compiled.value v world memory = .ok result after) :
    result.Conforms compiled.target.kind := by
  obtain ⟨t, lowered, compiles⟩ := exists_of_bind_ok compiles
  cases compiles
  have sound := Expr.sound_target keeps (Kind.isRegular_ofValue v free) externals lowered
  unfold Compiled.value Evaluation.about at evaluates
  split at evaluates <;> cases evaluates
  have fits : (({ Memory.empty with drawn := memory.drawn }).push Scope.objectName v).Fits
      [(Scope.objectName, .ofValue v)] := Memory.Fits.push (Memory.fits_nil _) v.conforms_ofValue
  exact (sound _ _ _ _ fits ‹_›).1

/-- Is there a value for an object, without random numbers and at the beginning of time? -/
def Compiled.hasValue (v : Value) (c : Compiled) : Bool :=
  match c.value v ⟨⟨0, 0⟩, fun _ => 0⟩ .empty with
  | .ok .. => true
  | .error .. => false

/-- A list of the greatest number and of the number behind the last place, which is absent. -/
theorem Compiled.value_conforms_lines : ∃ compiled result after,
    (Expr.list [.path "lines.@max.n", .pathOn (.index (.path "lines") (.constant (.int 2))) "n"]).compile
        (.ofValue (.object [("lines", .array [.object [("n", .int 7)], .object [("n", .null)]])]))
        none (.ofDialect .objects) = .ok compiled
      ∧ compiled.value (.object [("lines", .array [.object [("n", .int 7)], .object [("n", .null)]])])
        ⟨⟨0, 0⟩, fun _ => 0⟩ .empty = .ok result after
      ∧ result.Conforms compiled.target.kind := by
  obtain ⟨compiled, compiles, has⟩ := exists_of_any ((Expr.list [.path "lines.@max.n",
    .pathOn (.index (.path "lines") (.constant (.int 2))) "n"]).compile
      (.ofValue (.object [("lines", .array [.object [("n", .int 7)], .object [("n", .null)]])]))
      none (.ofDialect .objects)) (Compiled.hasValue
        (.object [("lines", .array [.object [("n", .int 7)], .object [("n", .null)]])]))
    (by decide +kernel)
  unfold Compiled.hasValue at has
  split at has
  · rename_i result after evaluates
    exact ⟨compiled, result, after, compiles, evaluates, Compiled.value_conforms _ _ _ compiled _ _
      after result (by decide) (by decide) (fun _ mem => absurd mem List.not_mem_nil) compiles evaluates⟩
  · cases has

end PredicateLang
