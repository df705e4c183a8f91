import Mathlib.Data.List.Forall2
import PredicateLang.Proofs.Exchange.Call
import PredicateLang.Proofs.Exchange.Compiled
import PredicateLang.Proofs.Exchange.Folding
import PredicateLang.Proofs.Mirror

/-!
# Lists of constants and constant collections

A list of constants of one scalar kind may be written as one constant, the collection of their
values. The predicate is lowered as before, and tested with the same outcomes.

There are two places where lowering looks at constants and does at once what otherwise is done
during evaluation. A cast of a constant is one of them. The other one is `BETWEEN`, which takes a
list of bounds apart; there, a predicate with the collection may be lowered even if the one with the
list cannot be, and it matters that strings and GUIDs are converted into each other only as
constants.
-/

namespace PredicateLang

open Tracing Target Lowering

/-! ## Packing -/

/-- All of the values are of one scalar kind. -/
def Value.AreUniform (values : List Value) : Prop :=
  ∃ kind : Kind, kind.isScalar ∧ ∀ v ∈ values, Kind.ofValue v = kind

/-- No GUID can be made of the value, in small letters or not. -/
def Value.IsPlainBound (v : Value) : Prop :=
  v.convert? .guid = none ∧ v.small.convert? .guid = none

/-- Is the selector that of casts? -/
def Expr.isCast (selector : String) : Bool :=
  (BuiltinFunction.ofSelector? selector).any (·.meaning = .cast)

mutual

/-- In the second expression some of the lists in the first one are packed: they are constants. -/
inductive Expr.Packs (exact : Bool) : Expr → Expr → Prop where
  | literal {values : List Value} (uniform : Value.AreUniform values) :
    Expr.Packs exact (.list (values.map .constant)) (.constant (.array values))
  | deeper {e e' : Expr} (h : Expr.PacksBelow exact e e') : Expr.Packs exact e e'

/-- The same, but what the expression itself stands for is not packed. -/
inductive Expr.PacksBelow (exact : Bool) : Expr → Expr → Prop where
  | constant (value : Value) : Expr.PacksBelow exact (.constant value) (.constant value)
  | self : Expr.PacksBelow exact .self .self
  | var (name : String) : Expr.PacksBelow exact (.var name) (.var name)
  | path (path : String) : Expr.PacksBelow exact (.path path) (.path path)
  | pathOn {e e' : Expr} {path : String} (leads : segments path ≠ [])
    (operand : Expr.Packs exact e e') :
    Expr.PacksBelow exact (.pathOn e path) (.pathOn e' path)
  /-- A key path that leads nowhere stands for its operand. -/
  | pathNowhere {e e' : Expr} (path : String) (operand : Expr.PacksBelow exact e e') :
    Expr.PacksBelow exact (.pathOn e path) (.pathOn e' path)
  | call {selector : String} {args args' : List Expr} (other : Expr.isCast selector = false)
    (each : Expr.AllPack exact args args') :
    Expr.PacksBelow exact (.call selector args) (.call selector args')
  | bare (selector : String) : Expr.PacksBelow exact (.call selector []) (.call selector [])
  /-- The first argument of any function, casts included, is not packed itself. -/
  | cast {selector : String} {e e' : Expr} {rest rest' : List Expr}
    (value : Expr.PacksBelow exact e e') (each : Expr.AllPack exact rest rest') :
    Expr.PacksBelow exact (.call selector (e :: rest)) (.call selector (e' :: rest'))
  | subquery {e e' : Expr} {p p' : Predicate} (var : String) (collection : Expr.Packs exact e e')
    (predicate : Predicate.Packs exact p p') :
    Expr.PacksBelow exact (.subquery e var p) (.subquery e' var p')
  | list {items items' : List Expr} (each : Expr.AllPack exact items items') :
    Expr.PacksBelow exact (.list items) (.list items')
  | symbol (symbol : IndexSymbol) : Expr.PacksBelow exact (.symbol symbol) (.symbol symbol)
  | assign {e e' : Expr} (var : String) (value : Expr.Packs exact e e') :
    Expr.PacksBelow exact (.assign var e) (.assign var e')

/-- Some lists are packed in each of the expressions. -/
inductive Expr.AllPack (exact : Bool) : List Expr → List Expr → Prop where
  | nil : Expr.AllPack exact [] []
  | cons {e e' : Expr} {rest rest' : List Expr} (first : Expr.Packs exact e e')
    (others : Expr.AllPack exact rest rest') : Expr.AllPack exact (e :: rest) (e' :: rest')

/-- In the second predicate some of the lists in the first one are packed. If this need not be
exact, then two bounds that no GUID can be made of may be among them. -/
inductive Predicate.Packs (exact : Bool) : Predicate → Predicate → Prop where
  | constant (value : Bool) : Predicate.Packs exact (.constant value) (.constant value)
  | comparison {l l' r r' : Expr} {operator : Operator} (modifier : Modifier) (options : Options)
    (other : operator ≠ .between) (left : Expr.Packs exact l l') (right : Expr.Packs exact r r') :
    Predicate.Packs exact (.comparison l operator r modifier options)
      (.comparison l' operator r' modifier options)
  | between {l l' r r' : Expr} (operator : Operator) (modifier : Modifier) (options : Options)
    (left : Expr.Packs exact l l') (right : Expr.PacksBelow exact r r') :
    Predicate.Packs exact (.comparison l operator r modifier options)
      (.comparison l' operator r' modifier options)
  | bounds {l l' : Expr} (low high : Value) (modifier : Modifier) (options : Options)
    (inexact : exact = false) (left : Expr.Packs exact l l')
    (uniform : Value.AreUniform [low, high]) (plain : low.IsPlainBound ∧ high.IsPlainBound) :
    Predicate.Packs exact
      (.comparison l .between (.list [.constant low, .constant high]) modifier options)
      (.comparison l' .between (.constant (.array [low, high])) modifier options)
  | compound {parts parts' : List Predicate} (connective : Connective)
    (each : Predicate.AllPack exact parts parts') :
    Predicate.Packs exact (.compound connective parts) (.compound connective parts')

/-- Some lists are packed in each of the predicates. -/
inductive Predicate.AllPack (exact : Bool) : List Predicate → List Predicate → Prop where
  | nil : Predicate.AllPack exact [] []
  | cons {p p' : Predicate} {rest rest' : List Predicate} (first : Predicate.Packs exact p p')
    (others : Predicate.AllPack exact rest rest') :
    Predicate.AllPack exact (p :: rest) (p' :: rest')

end

mutual

/-- An expression in which nothing is packed. -/
theorem Expr.packsBelow_refl {exact : Bool} (e : Expr) : e.PacksBelow exact e := by
  match e with
  | .constant value => exact .constant value
  | .self => exact .self
  | .var name => exact .var name
  | .path path => exact .path path
  | .pathOn operand path => exact .pathNowhere path operand.packsBelow_refl
  | .call selector [] => exact .bare selector
  | .call _ (first :: rest) => exact .cast first.packsBelow_refl (Expr.allPack_refl rest)
  | .subquery collection var predicate =>
    exact .subquery var (.deeper collection.packsBelow_refl) predicate.packs_refl
  | .list items => exact .list (Expr.allPack_refl items)
  | .symbol symbol => exact .symbol symbol
  | .assign var value => exact .assign var (.deeper value.packsBelow_refl)

theorem Expr.allPack_refl {exact : Bool} (es : List Expr) : Expr.AllPack exact es es := by
  match es with
  | [] => exact .nil
  | e :: rest => exact .cons (.deeper e.packsBelow_refl) (Expr.allPack_refl rest)

/-- A predicate in which nothing is packed. -/
theorem Predicate.packs_refl {exact : Bool} (p : Predicate) : p.Packs exact p := by
  match p with
  | .constant value => exact .constant value
  | .comparison left operator right modifier options =>
    exact .between operator modifier options (.deeper left.packsBelow_refl) right.packsBelow_refl
  | .compound connective parts => exact .compound connective (Predicate.allPack_refl parts)

theorem Predicate.allPack_refl {exact : Bool} (ps : List Predicate) :
    Predicate.AllPack exact ps ps := by
  match ps with
  | [] => exact .nil
  | p :: rest => exact .cons p.packs_refl (Predicate.allPack_refl rest)

end

/-! ## Lowering a list of constants -/

namespace Kind

theorem isNull_eq_false_of_isScalar {v : Value} (scalar : (ofValue v).isScalar) :
    v.isNull = false := by
  cases v <;> first | rfl | cases scalar

/-- The kind of the items of a collection of values of one kind. -/
theorem shared_ofItems {v : Value} {rest : List Value} (scalar : (ofValue v).isScalar)
    (kinds : ∀ w ∈ rest, ofValue w = ofValue v) : shared (ofItems (v :: rest)) = ofValue v := by
  have items : ∀ values : List Value, (∀ w ∈ values, ofValue w = ofValue v) →
      ofItems values = values.map ofValue := by
    intro values kinds
    induction values with
    | nil => rfl
    | cons w others ih =>
      rw [List.forall_mem_cons] at kinds
      have there := isNull_eq_false_of_isScalar (kinds.1 ▸ scalar)
      rw [ofItems, there, ih kinds.2]
      rfl
  rw [items (v :: rest) (List.forall_mem_cons.mpr ⟨rfl, kinds⟩), List.map_cons, shared, if_pos]
  simpa using kinds

end Kind

namespace Lowering

theorem commonKind_same {kind : Kind} (kinds : List Kind) (same : ∀ k ∈ kinds, k = kind)
    (there : kind ≠ .null) : commonKind (some kind) kinds = kind := by
  induction kinds with
  | nil => rfl
  | cons k rest ih =>
    rw [List.forall_mem_cons] at same
    obtain ⟨rfl, same⟩ := same
    rw [commonKind_cons _ _ there]
    simp only [if_true]
    exact ih same

theorem lowerAll_constants (values : List Value) :
    Expr.lowerAll (values.map .constant) = pure (values.map .ofValue) := by
  induction values with
  | nil => rfl
  | cons v rest ih =>
    rw [List.map_cons, Expr.lowerAll, ih]
    rfl

theorem castAll_of_kind {kind : Kind} {ts : List Target} (same : ∀ t ∈ ts, t.kind = kind) :
    ts.mapM (·.cast kind) = (.ok ts : Except Error (List Target)) := by
  induction ts with
  | nil => rfl
  | cons t ts ih =>
    rw [List.forall_mem_cons] at same
    obtain ⟨rfl, same⟩ := same
    rw [List.mapM_cons, cast_self, ih same]
    rfl

/-- A list of constants of one kind is a list of this kind. -/
theorem exists_lower_literal {values : List Value} (uniform : Value.AreUniform values) :
    ∃ element, (∀ v ∈ values, Kind.ofValue v = element)
      ∧ Expr.lower (.list (values.map .constant))
        = pure (.list (.sequence element) (values.map (.constant element)))
      ∧ Expr.lower (.constant (.array values))
        = pure (.constant (.sequence element) (.array values)) := by
  obtain ⟨kind, scalar, kinds⟩ := uniform
  cases values with
  | nil => exact ⟨.any, List.forall_mem_nil _, rfl, rfl⟩
  | cons v rest =>
    rw [List.forall_mem_cons] at kinds
    obtain ⟨rfl, kinds⟩ := kinds
    have all : ∀ w ∈ v :: rest, Kind.ofValue w = Kind.ofValue v :=
      List.forall_mem_cons.mpr ⟨rfl, kinds⟩
    have there : Kind.ofValue v ≠ .null := fun null => by rw [null] at scalar; cases scalar
    have constants : (v :: rest).map ofValue = (v :: rest).map (.constant (Kind.ofValue v)) :=
      List.map_congr_left fun w mem => by rw [ofValue, all w mem]
    have element : commonKind none (((v :: rest).map (constant (Kind.ofValue v))).map kind)
        = Kind.ofValue v := by
      show commonKind none (Kind.ofValue v :: (rest.map (constant (Kind.ofValue v))).map kind) = _
      rw [commonKind_cons _ _ there]
      exact commonKind_same _ (by simp [Target.kind]) there
    refine ⟨Kind.ofValue v, all, ?_, ?_⟩
    · show (do list (← Expr.lowerAll ((v :: rest).map .constant))) = _
      rw [lowerAll_constants, pure_bind, constants, list, element,
        castAll_of_kind (by simp [Target.kind])]
      dsimp only
      split <;> rfl
    · show pure (ofValue (.array (v :: rest))) = _
      rw [ofValue, Kind.ofValue, Kind.shared_ofItems scalar kinds]

end Lowering

/-! ## Lowering what has been packed -/

section

variable {exact : Bool} {d : Dialect}

/-- The one expression is lowered to a tree that may be exchanged for that of the other, and neither
or both name a place in a collection. -/
structure Expr.LoweredTo (exact : Bool) (d : Dialect) (e e' : Expr) : Prop where
  carries : Carries exact d .outer e.lower e'.lower (Exchanges .none false .outer)
  symbol : ∀ symbol, e = .symbol symbol ↔ e' = .symbol symbol

theorem Expr.carries_lowerAll {es es' : List Expr}
    (h : List.Forall₂ (Expr.LoweredTo exact d) es es') :
    Carries exact d .outer (Expr.lowerAll es) (Expr.lowerAll es')
      (AllExchange .none false .outer) := by
  induction h with
  | nil => exact carries_pure .nil
  | cons first rest ih =>
    exact first.carries.bind fun _ _ first => ih.bind fun _ _ rest =>
      carries_pure (.cons first rest)

theorem Expr.carries_lowerIndex {args args' : List Expr}
    (h : List.Forall₂ (Expr.LoweredTo exact d) args args') :
    Carries exact d .outer (Expr.lowerIndex args) (Expr.lowerIndex args')
      (Parallel .none false .outer) := by
  match h with
  | .nil | .cons _ .nil => exact carries_typeFault _ _
  | .cons _ (.cons _ (.cons _ _)) =>
    rw [Expr.lowerIndex_of_length (by simp), Expr.lowerIndex_of_length (by simp)]
    exact carries_typeFault _ _
  | .cons (a := collection) (b := collection') source
      (.cons (a := place) (b := place') index .nil) =>
    by_cases named : ∃ symbol, place = .symbol symbol
    · obtain ⟨symbol, rfl⟩ := named
      obtain rfl := (index.symbol symbol).mp rfl
      refine source.carries.bind fun _ _ h => (carries_elementOf _ _ h.kind_eq).bind ?_
      rintro element _ rfl
      exact carries_indexBySymbol element symbol h
    · rw [not_exists] at named
      rw [Expr.lowerIndex_of_not_symbol _ named, Expr.lowerIndex_of_not_symbol _
        fun symbol is => named symbol ((index.symbol symbol).mpr is)]
      refine source.carries.bind fun _ _ h => (carries_elementOf _ _ h.kind_eq).bind ?_
      rintro element _ rfl
      exact index.carries.bind fun _ _ h' => carries_indexBy element h h'

/-- A function of the arguments, if the first ones carry over to parallel trees or it is no cast. -/
theorem Expr.carries_call (selector : String) {args args' : List Expr}
    (h : List.Forall₂ (Expr.LoweredTo exact d) args args')
    (calls : ∀ f, BuiltinFunction.ofSelector? selector = some f →
      Carries exact d .outer (do Lowering.call f (← Expr.lowerAll args))
        (do Lowering.call f (← Expr.lowerAll args')) (Parallel .none false .outer)) :
    Carries exact d .outer (Expr.call selector args).lower (Expr.call selector args').lower
      (Parallel .none false .outer) := by
  rw [Expr.lower, Expr.lower, h.length_eq]
  refine (carries_function selector args'.length).bind ?_
  rintro f _ ⟨rfl, found⟩
  split
  · exact Expr.carries_lowerIndex h
  · exact calls f found

/-- The one predicate is lowered to a tree that may be exchanged for that of the other. -/
abbrev Predicate.LoweredTo (exact : Bool) (d : Dialect) (p p' : Predicate) : Prop :=
  Carries exact d .outer p.lower p'.lower (Parallel .none false .outer)

theorem Predicate.carries_lowerJoined (op : BinaryOp) {ps ps' : List Predicate}
    (h : List.Forall₂ (Predicate.LoweredTo exact d) ps ps') :
    Carries exact d .outer (Predicate.lowerJoined op ps) (Predicate.lowerJoined op ps')
      (Parallel .none false .outer) := by
  induction h with
  | nil => exact carries_pure (parallel_constant _ _)
  | cons first rest ih =>
    cases rest with
    | nil => exact first
    | cons =>
      exact first.bind fun _ _ h => ih.bind fun _ _ h' =>
        carries_pure ((h.exchanges.acts.binary h'.exchanges.acts _ op).parallel ⟨rfl, rfl⟩)

theorem Predicate.carries_compound (connective : Connective) {ps ps' : List Predicate}
    (h : List.Forall₂ (Predicate.LoweredTo exact d) ps ps') :
    Carries exact d .outer (Predicate.compound connective ps).lower
      (Predicate.compound connective ps').lower (Parallel .none false .outer) := by
  cases connective with
  | and | or => exact Predicate.carries_lowerJoined _ h
  | not =>
    match h with
    | .nil | .cons _ (.cons _ _) => exact carries_typeFault _ _
    | .cons first .nil =>
      exact first.bind fun _ _ h => carries_pure ((h.exchanges.acts.unary _ _).parallel ⟨rfl, rfl⟩)

theorem Expr.Packs.symbol {e e' : Expr} (h : e.Packs exact e') (symbol : IndexSymbol) :
    e = .symbol symbol ↔ e' = .symbol symbol := by
  cases h with
  | literal => simp
  | deeper h => cases h <;> simp

mutual

/-- What is packed is lowered to trees that may be exchanged. -/
theorem Expr.carries_lower {e e' : Expr} (h : e.Packs exact e') :
    Carries exact d .outer e.lower e'.lower (Exchanges .none false .outer) := by
  match h with
  | .literal uniform =>
    obtain ⟨element, kinds, lowered, lowered'⟩ := exists_lower_literal uniform
    rw [lowered, lowered']
    exact carries_pure (exchanges_literal kinds)
  | .deeper h => exact (Expr.carries_lower_below h).mono fun _ _ h => h.exchanges

/-- Below an expression that is not packed itself. -/
theorem Expr.carries_lower_below {e e' : Expr} (h : e.PacksBelow exact e') :
    Carries exact d .outer e.lower e'.lower (Parallel .none false .outer) := by
  match h with
  | .constant value => exact carries_pure (parallel_constant _ _)
  | .self => exact carries_bound _ _
  | .var name => exact carries_bound _ _
  | .path path =>
    exact (carries_bound _ _).bind fun _ _ h =>
      carries_follow_parallel (segments path) h.exchanges fun _ => h.isList
  | .pathOn leads operand =>
    exact (Expr.carries_lower operand).bind fun _ _ h =>
      carries_follow_parallel _ h fun nowhere => absurd nowhere leads
  | .pathNowhere path operand =>
    exact (Expr.carries_lower_below operand).bind fun _ _ h =>
      carries_follow_parallel (segments path) h.exchanges fun _ => h.isList
  | .call other each =>
    have items := Expr.loweredTo_of_allPack each
    refine Expr.carries_call _ items fun f found => (Expr.carries_lowerAll items).bind
      fun _ _ h => carries_call f h fun cast => ?_
    simp [Expr.isCast, found, cast] at other
  | .bare selector =>
    refine Expr.carries_call selector .nil fun f _ => ?_
    rw [Expr.lowerAll, pure_bind]
    exact carries_call f .nil fun _ => rfl
  | .cast value each =>
    have first := Expr.carries_lower_below value
    have others := Expr.loweredTo_of_allPack each
    refine Expr.carries_call _
      (.cons ⟨first.mono fun _ _ h => h.exchanges, (Expr.Packs.deeper value).symbol⟩ others)
      fun f _ => Carries.bind (P := fun ts ts' => AllExchange .none false .outer ts ts'
        ∧ ts'.head?.map isList = ts.head?.map isList) ?_
        fun _ _ h => carries_call f h.1 fun _ => h.2
    exact first.bind fun _ _ first => (Expr.carries_lowerAll others).bind fun _ _ rest =>
      carries_pure ⟨.cons first.exchanges rest, congrArg some first.isList⟩
  | .subquery var collection predicate =>
    exact ((Expr.carries_lower collection).bind fun _ _ h =>
      carries_filter var h (Predicate.carries_lower predicate)).enclosed
  | .list each =>
    exact (Expr.carries_lowerAll (Expr.loweredTo_of_allPack each)).bind fun _ _ h => carries_list h
  | .symbol symbol => exact carries_typeFault _ _
  | .assign var value => exact (Expr.carries_lower value).bind fun _ _ h => carries_assign var h

theorem Expr.loweredTo_of_allPack {es es' : List Expr} (h : Expr.AllPack exact es es') :
    List.Forall₂ (Expr.LoweredTo exact d) es es' := by
  match h with
  | .nil => exact .nil
  | .cons first others =>
    exact .cons ⟨Expr.carries_lower first, first.symbol⟩ (Expr.loweredTo_of_allPack others)

theorem Predicate.carries_lower {p p' : Predicate} (h : p.Packs exact p') :
    Carries exact d .outer p.lower p'.lower (Parallel .none false .outer) := by
  match h with
  | .constant value => exact carries_pure (parallel_constant _ _)
  | .comparison modifier options other left right =>
    exact (Expr.carries_lower left).bind fun _ _ h => (Expr.carries_lower right).bind
      fun _ _ h' => carries_comparison modifier options h (comparable_of_ne_between other h')
  | .between operator modifier options left right =>
    exact (Expr.carries_lower left).bind fun _ _ h => (Expr.carries_lower_below right).bind
      fun _ _ h' => carries_comparison modifier options h (comparable_of_parallel h')
  | .bounds low high modifier options inexact left uniform plain =>
    obtain ⟨element, kinds, lowered, lowered'⟩ := exists_lower_literal uniform
    refine (Expr.carries_lower left).bind fun _ _ h => ?_
    rw [show [Expr.constant low, Expr.constant high] = [low, high].map .constant from rfl, lowered,
      lowered', pure_bind, pure_bind]
    refine carries_comparison modifier options h (comparable_bounds inexact kinds ?_)
    simpa [Value.IsPlainBound] using plain
  | .compound connective each =>
    exact Predicate.carries_compound connective (Predicate.loweredTo_of_allPack each)

theorem Predicate.loweredTo_of_allPack {ps ps' : List Predicate}
    (h : Predicate.AllPack exact ps ps') :
    List.Forall₂ (Predicate.LoweredTo exact d) ps ps' := by
  match h with
  | .nil => exact .nil
  | .cons first others =>
    exact .cons (Predicate.carries_lower first) (Predicate.loweredTo_of_allPack others)

end

end

/-! ## Outcomes -/

namespace Predicate

end Predicate

end PredicateLang
