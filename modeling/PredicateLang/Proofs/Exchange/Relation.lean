import PredicateLang.Proofs.Coercion
import PredicateLang.Proofs.Exchange.Evaluation

/-!
# Trees that may be exchanged

Lowering looks at the kind of an operand, at whether it has effects, and at whether it is a constant
or a list of operands. `Target.Exchanges` says of two operands that they do the same when evaluated,
and that lowering treats them alike: each is a constant if the other one is, and a list, item by
item, if the other one is.

There are two exceptions. A list of constants may stand for a collection of their values. And if
letter case has been folded, then a collection may have become a tree that is no constant any more.
`Target.Parallel` leaves out the first one.
-/

namespace PredicateLang

open Tracing

namespace Target

mutual

/-- Under the assumption the one tree may stand for the other in whatever is lowered. -/
inductive Exchanges (A : Assumption) (folded : Bool) (ρ : Naming) : Target → Target → Prop where
  | single {t t'} (acts : Acts A ρ t t') (plain : t.isList = false ∧ t'.isList = false)
    (same : t'.constant? = t.constant?
      ∨ folded ∧ t.kind.isSequence ∧ t'.constant? = none) : Exchanges A folded ρ t t'
  | list {ts ts'} (kind : Kind) (items : AllExchange A folded ρ ts ts') :
    Exchanges A folded ρ (.list kind ts) (.list kind ts')
  | literal {t'} (element : Kind) (values : List Value)
    (kinds : ∀ v ∈ values, Kind.ofValue v = element)
    (acts : Acts A ρ (.list (.sequence element) (values.map (.constant element))) t')
    (plain : t'.isList = false)
    (value : t'.constant? = some (.array values) ∨ folded ∧ t'.constant? = none) :
    Exchanges A folded ρ (.list (.sequence element) (values.map (.constant element))) t'

/-- Of two lists of trees each may stand for the other at its place. -/
inductive AllExchange (A : Assumption) (folded : Bool) (ρ : Naming) :
    List Target → List Target → Prop where
  | nil : AllExchange A folded ρ [] []
  | cons {t t' ts ts'} (first : Exchanges A folded ρ t t')
    (rest : AllExchange A folded ρ ts ts') : AllExchange A folded ρ (t :: ts) (t' :: ts')

end

variable {A : Assumption} {folded : Bool} {ρ ρ' : Naming}

/-! ## What they have in common -/

mutual

theorem Exchanges.acts {t t' : Target} (h : Exchanges A folded ρ t t') : Acts A ρ t t' := by
  match h with
  | .single acts _ _ => exact acts
  | .list kind items => exact items.acts.list kind
  | .literal _ _ _ acts _ _ => exact acts

theorem AllExchange.acts {ts ts' : List Target} (h : AllExchange A folded ρ ts ts') :
    AllAct A ρ ts ts' := by
  match h with
  | .nil => exact allAct_nil
  | .cons first rest => exact first.acts.cons rest.acts

end

variable {t t' : Target} {ts ts' : List Target}

theorem Exchanges.kind_eq (h : Exchanges A folded ρ t t') : t'.kind = t.kind := h.acts.kind

theorem Exchanges.hasEffects_eq (h : Exchanges A folded ρ t t') : t'.hasEffects = t.hasEffects :=
  h.acts.effects

theorem AllExchange.kinds_eq (h : AllExchange A folded ρ ts ts') : ts'.map kind = ts.map kind := by
  induction ts generalizing ts' with
  | nil => cases h; rfl
  | cons t ts ih =>
    cases h with
    | cons first rest => rw [List.map_cons, List.map_cons, first.kind_eq, ih rest]

mutual

theorem Exchanges.extend {t t' : Target} (h : Exchanges A folded ρ t t')
    (extend : ρ.Extend ρ') : Exchanges A folded ρ' t t' := by
  match h with
  | .single acts plain same => exact .single (acts.extend extend) plain same
  | .list kind items => exact .list kind (items.extend extend)
  | .literal element values kinds acts plain value =>
    exact .literal element values kinds (acts.extend extend) plain value

theorem AllExchange.extend {ts ts' : List Target} (h : AllExchange A folded ρ ts ts')
    (extend : ρ.Extend ρ') : AllExchange A folded ρ' ts ts' := by
  match h with
  | .nil => exact .nil
  | .cons first rest => exact .cons (first.extend extend) (rest.extend extend)

end

mutual

/-- Trees that may be exchanged may be so where letter case has been folded. -/
theorem Exchanges.fold {t t' : Target} (h : Exchanges A false ρ t t') :
    Exchanges A folded ρ t t' := by
  match h with
  | .single acts plain same => exact .single acts plain (.inl (same.resolve_right nofun))
  | .list kind items => exact .list kind items.fold
  | .literal element values kinds acts plain value =>
    exact .literal element values kinds acts plain (.inl (value.resolve_right nofun))

theorem AllExchange.fold {ts ts' : List Target} (h : AllExchange A false ρ ts ts') :
    AllExchange A folded ρ ts ts' := by
  match h with
  | .nil => exact .nil
  | .cons first rest => exact .cons first.fold rest.fold

end

/-! ## What lowering sees of them -/

/-- Unless they are collections, both are the same constant, or none is one. -/
theorem Exchanges.constant?_eq (h : Exchanges A folded ρ t t')
    (scalar : t.kind.isSequence = false) : t'.constant? = t.constant? := by
  cases h with
  | single acts plain same =>
    refine same.resolve_right fun folded => ?_
    rw [scalar] at folded
    cases folded.2.1
  | list => rfl
  | literal => cases scalar

/-- The string of a constant. -/
def stringOf? : Value → Option String
  | .string s => some s
  | _ => none

theorem constantString?_eq (t : Target) : t.constantString? = t.constant?.bind stringOf? := by
  cases t with
  | constant _ value => cases value <;> rfl
  | _ => rfl

theorem Exchanges.constantString?_eq (h : Exchanges A folded ρ t t')
    (scalar : folded → t.kind.isSequence = false) : t'.constantString? = t.constantString? := by
  rw [Target.constantString?_eq, Target.constantString?_eq]
  cases h with
  | single acts plain same =>
    rw [same.resolve_right]
    rintro ⟨yes, sequence, -⟩
    rw [scalar yes] at sequence
    cases sequence
  | list => rfl
  | literal element values kinds acts plain value =>
    rcases value with is | ⟨-, is⟩ <;> rw [is] <;> rfl

theorem needsGuard_of_not_list (plain : t.isList = false) (dialect : Dialect) :
    Lowering.needsGuard dialect t = (dialect = .objects && t.constant?.all Value.isNull) := by
  cases t <;> first | rfl | cases plain

/-- Unless letter case has been folded, an operation on the one needs a guard if one on the other
does. -/
theorem Exchanges.needsGuard_eq (h : Exchanges A folded ρ t t')
    (scalar : folded → t.kind.isSequence = false) (dialect : Dialect) :
    Lowering.needsGuard dialect t' = Lowering.needsGuard dialect t := by
  cases h with
  | single acts plain same =>
    rw [needsGuard_of_not_list plain.1, needsGuard_of_not_list plain.2, same.resolve_right]
    rintro ⟨yes, sequence, -⟩
    rw [scalar yes] at sequence
    cases sequence
  | list => rfl
  | literal element values kinds acts plain value =>
    rw [needsGuard_of_not_list plain, value.resolve_right]
    · rfl
    · rintro ⟨yes, -⟩
      cases scalar yes

/-- Wherever an operation on the one needs a guard, one on the other does. -/
theorem Exchanges.needsGuard (h : Exchanges A folded ρ t t') {dialect : Dialect}
    (needs : Lowering.needsGuard dialect t) : Lowering.needsGuard dialect t' := by
  cases h with
  | single acts plain same =>
    rw [needsGuard_of_not_list plain.1] at needs
    rw [needsGuard_of_not_list plain.2]
    rcases same with same | ⟨-, -, none⟩
    · rw [same]
      exact needs
    · rw [none]
      simp_all
  | list => exact needs
  | literal => simp [Lowering.needsGuard] at needs

/-- What needs no guard is not null. -/
theorem isNull_eq_false_of_needsGuard (there : Lowering.needsGuard .objects t = false)
    {world : World} {around : Surroundings} {store : Store} {v : Value}
    (ok : (t.traced world around store).result = .ok v) : v.isNull = false := by
  cases t with
  | constant kind value =>
    cases ok
    exact there
  | list kind items =>
    rw [traced] at ok
    cases values : (tracedAll items world around store).result with
    | error e =>
      rw [bind_of_error values] at ok
      cases ok
    | ok vs =>
      rw [bind_of_ok values] at ok
      cases ok
      rfl
  | _ => cases there

/-! ## Both or neither is a list -/

/-- The trees may be exchanged, and both or neither is a list. -/
structure Parallel (A : Assumption) (folded : Bool) (ρ : Naming) (t t' : Target) : Prop where
  exchanges : Exchanges A folded ρ t t'
  isList : t'.isList = t.isList

theorem Parallel.extend (h : Parallel A folded ρ t t') (extend : ρ.Extend ρ') :
    Parallel A folded ρ' t t' :=
  ⟨h.exchanges.extend extend, h.isList⟩

theorem Parallel.constant?_eq (h : Parallel A false ρ t t') : t'.constant? = t.constant? := by
  obtain ⟨h, shape⟩ := h
  cases h with
  | single acts plain same => exact same.resolve_right nofun
  | list => rfl
  | literal element values kinds acts plain value =>
    rw [plain] at shape
    cases shape

theorem isList_of_isPlain {t : Target} (h : t.isPlain) : t.isList = false := by
  cases t <;> first | rfl | cases h

/-- Trees that are neither constants nor lists need only do the same. -/
theorem Acts.parallel (h : Acts A ρ t t') (plain : t.isPlain ∧ t'.isPlain) :
    Parallel A folded ρ t t' := by
  have lists := And.intro (isList_of_isPlain plain.1) (isList_of_isPlain plain.2)
  have constants := (constant?_of_isPlain plain.2).trans (constant?_of_isPlain plain.1).symm
  exact ⟨.single h lists (.inl constants), lists.2.trans lists.1.symm⟩

theorem parallel_constant (kind : Kind) (value : Value) :
    Parallel A folded ρ (.constant kind value) (.constant kind value) :=
  ⟨.single (acts_constant kind value) ⟨rfl, rfl⟩ (.inl rfl), rfl⟩

theorem parallel_parameter (kind : Kind) {x y : String} (join : ρ x y) :
    Parallel A folded ρ (.parameter kind x) (.parameter kind y) :=
  (acts_parameter kind join).parallel ⟨rfl, rfl⟩

theorem AllExchange.parallel (h : AllExchange A folded ρ ts ts') (kind : Kind) :
    Parallel A folded ρ (.list kind ts) (.list kind ts') :=
  ⟨.list kind h, rfl⟩

mutual

/-- Alike trees without effects may be exchanged. -/
theorem Alike.parallel {t t' : Target} (h : t.Alike false ρ t') : Parallel A folded ρ t t' := by
  match t, h with
  | .list kind ts, .list _ items => exact (AllAlike.exchange items).parallel kind
  | .constant .., .constant kind value => exact parallel_constant kind value
  | .parameter .., h | .property .., h | .guard .., h | .map .., h | .filter .., h | .quantify .., h
  | .count .., h | .reduce .., h | .elementAt .., h | .binary .., h | .unary .., h | .call .., h
  | .convert .., h | .assign .., h | .bind .., h =>
    refine h.acts.parallel ⟨rfl, ?_⟩
    cases h
    rfl

theorem AllAlike.exchange {ts ts' : List Target} (h : AllAlike false ρ ts ts') :
    AllExchange A folded ρ ts ts' := by
  match ts, h with
  | [], .nil => exact .nil
  | t :: ts, .cons first rest => exact .cons first.parallel.exchanges rest.exchange

end

end Target

end PredicateLang
