import PredicateLang.Lowering
import PredicateLang.Proofs.Coercion
import PredicateLang.Proofs.Sql.Written

/-!
# Lowering for a backend keeps the order of names

A variable is in scope for what is lowered after its assignment, from left to right, and stands for a
text in what is written after it. `Target.Fits known given t` says that a tree finds its names where
the known ones stand for texts, and that the given ones stand for texts after it. For a query backend
lowering makes such trees of such trees, one function after the other: operands that come later may
read what earlier ones assign, but for two operations that are written in another order. An index is
written before its collection, and of the two operands of a search either may come first.

`Lowering.Puts step P` says of a step on trees that it leaves the bindings alone and gives something
with `P`.
-/

namespace PredicateLang

variable {α β : Type} {known known' given given' : Set String} {s t u : Target} {ts us : List Target}

/-! ## Trees -/

namespace Target

/-- Where the known names stand for texts, the tree finds its names, and the given names stand for
texts after it. -/
structure Fits (known given : Set String) (t : Target) : Prop where
  reads : t.Reads known
  assigns : given ⊆ t.assigned

/-- The same of trees that are written one after the other. -/
structure AllFit (known given : Set String) (ts : List Target) : Prop where
  reads : ReadInOrder known ts
  assigns : given ⊆ assignedAll ts

theorem Fits.mono (h : t.Fits known given) (le : known ⊆ known') : t.Fits known' given :=
  ⟨h.reads.mono le, h.assigns⟩

theorem Fits.weaken (h : t.Fits known given) (le : given' ⊆ given) : t.Fits known given' :=
  ⟨h.reads, le.trans h.assigns⟩

theorem fits_of_reads (h : t.Reads known) : t.Fits known ∅ := ⟨h, Set.empty_subset _⟩

theorem fits_ofValue (value : Value) : (ofValue value).Fits known ∅ := fits_of_reads trivial

theorem fits_parameter {name : String} (kind : Kind) (mem : name ∈ known) :
    (parameter kind name).Fits known ∅ :=
  fits_of_reads mem

/-- A node over one tree. -/
theorem Fits.above {node : Target} (h : t.Fits known given)
    (reads : t.Reads known → node.Reads known) (assigned : node.assigned = t.assigned) :
    node.Fits known given :=
  ⟨reads h.reads, assigned ▸ h.assigns⟩

/-- A cast of a constant is a constant, and one of another tree is around the tree. -/
theorem Fits.isCast (h : t.Fits known given) (cast : t.IsCast u) : u.Fits known given := by
  rcases cast with rfl | ⟨kind, cast⟩
  · exact h
  · cases is : t.constant? with
    | none =>
      rw [cast_of_constant?_eq_none is] at cast
      split at cast <;> cases cast
      · exact h
      · exact h.above id rfl
    | some value =>
      cases t with
      | constant =>
        obtain ⟨kind', value', rfl⟩ := exists_constant_of_cast cast
        exact ⟨trivial, h.assigns⟩
      | _ => cases is

theorem fits_binary (kind : Kind) (op : BinaryOp) (h : s.Fits known given)
    (h' : t.Fits (known ∪ given) given') :
    (binary kind op s t).Fits known (given ∪ given') :=
  ⟨⟨h.reads, h'.reads.mono (Set.union_subset_union_right _ h.assigns)⟩,
    Set.union_subset_union h.assigns h'.assigns⟩

/-- An index comes first. -/
theorem fits_elementAt (kind : Kind) (h : s.Fits known given) (h' : t.Fits known given') :
    (elementAt kind s t).Fits known (given ∪ given') :=
  ⟨⟨h'.reads, h.reads.mono Set.subset_union_left⟩, Set.union_subset_union h.assigns h'.assigns⟩

/-- A node that introduces a name for a body has the body after the tree that the name is for. -/
theorem fits_binder (node : Target) {name : String} (h : s.Fits known given)
    (h' : t.Fits (insert name (known ∪ given)) given')
    (reads : s.Reads known → t.Reads (insert name (known ∪ s.assigned)) → node.Reads known)
    (assigned : node.assigned = s.assigned ∪ t.assigned) :
    node.Fits known (given ∪ given') := by
  refine ⟨reads h.reads (h'.reads.mono ?_), assigned ▸ Set.union_subset_union h.assigns h'.assigns⟩
  exact Set.insert_subset_insert (Set.union_subset_union_right _ h.assigns)

/-! ### Lists -/

theorem AllFit.weaken (h : AllFit known given ts) (le : given' ⊆ given) : AllFit known given' ts :=
  ⟨h.reads, le.trans h.assigns⟩

theorem allFit_nil : AllFit known ∅ [] := ⟨trivial, Set.empty_subset _⟩

theorem allFit_cons (h : t.Fits known given) (h' : AllFit (known ∪ given) given' ts) :
    AllFit known (given ∪ given') (t :: ts) :=
  ⟨⟨h.reads, h'.reads.mono (Set.union_subset_union_right _ h.assigns)⟩,
    Set.union_subset_union h.assigns h'.assigns⟩

theorem allFit_singleton (h : t.Fits known given) : AllFit known given [t] := by
  have all := allFit_cons h allFit_nil
  rwa [Set.union_empty] at all

theorem allFit_pair (h : s.Fits known given) (h' : t.Fits (known ∪ given) given') :
    AllFit known (given ∪ given') [s, t] :=
  allFit_cons h (allFit_singleton h')

theorem AllFit.list (kind : Kind) (h : AllFit known given ts) : (list kind ts).Fits known given :=
  ⟨h.reads, h.assigns⟩

/-- A call of anything but a search writes its arguments in their order. -/
theorem AllFit.call (kind : Kind) {builtin : Builtin} (all : builtin.writes ts.length)
    (other : builtin ≠ .contains) (h : AllFit known given ts) :
    (call kind builtin ts).Fits known given :=
  ⟨⟨all, by rw [if_neg other]; exact h.reads⟩, h.assigns⟩

/-- What is searched and what is looked for may be written in either order. -/
theorem fits_contains (kind : Kind) (h : s.Fits known given) (h' : t.Fits known given') :
    (call kind .contains [s, t]).Fits known (given ∪ given') := by
  refine ⟨⟨rfl, ?_⟩, ?_⟩
  · rw [if_pos rfl]
    exact ⟨h.reads, h'.reads, trivial⟩
  · show given ∪ given' ⊆ s.assigned ∪ (t.assigned ∪ ∅)
    rw [Set.union_empty]
    exact Set.union_subset_union h.assigns h'.assigns

/-- The items of a list that is written. -/
theorem allFit_of_list {kind : Kind} (h : (Target.list kind ts).Fits known given) :
    AllFit known given ts :=
  ⟨h.reads, h.assigns⟩

end Target

/-! ## Steps on trees -/

namespace Lowering

open Target

/-- For a backend, the step leaves the bindings alone, and what it gives satisfies `P`. -/
def Puts (step : Lowering α) (P : α → Prop) : Prop :=
  ∀ settings scope a after, settings.dialect = .backend → step settings scope = .ok a after →
    P a ∧ after.bindings = scope.bindings

section Rules

variable {step : Lowering α} {P : α → Prop} {Q : β → Prop}

theorem puts_pure {a : α} (h : P a) : Puts (pure a) P := by
  intro settings scope a after _ run
  cases run
  exact ⟨h, rfl⟩

theorem puts_throw (e : Error) : Puts (throw e) P := by
  intro settings scope a after _ run
  cases run

theorem puts_typeFault (fault : TypeFault) : Puts (typeFault fault) P := puts_throw (.type fault)

theorem puts_ofResult {made : Except Error α} (h : ∀ a, made = .ok a → P a) :
    Puts (ofResult made) P := by
  cases made with
  | ok a => exact puts_pure (h a rfl)
  | error e => exact puts_throw e

theorem Puts.bind {next : α → Lowering β} (h : Puts step P) (h' : ∀ a, P a → Puts (next a) Q) :
    Puts (step >>= next) Q := by
  intro settings scope b after backend run
  obtain ⟨a, between, first, second⟩ := exists_of_run_bind run
  obtain ⟨holds, same⟩ := h settings scope a between backend first
  obtain ⟨holds', same'⟩ := h' a holds settings between b after backend second
  exact ⟨holds', same'.trans same⟩

theorem Puts.imp {P' : α → Prop} (h : Puts step P) (h' : ∀ a, P a → P' a) : Puts step P' :=
  fun settings scope a after backend run =>
    (h settings scope a after backend run).imp_left (h' a)

theorem puts_settings : Puts read (·.dialect = .backend) := by
  intro settings scope a after backend run
  cases run
  exact ⟨backend, rfl⟩

theorem puts_dialect : Puts dialect (· = .backend) :=
  puts_settings.bind fun _ backend => puts_pure backend

theorem puts_fresh (letter : String) : Puts (fresh letter) (fun _ => True) := by
  intro settings scope a after _ run
  cases run
  exact ⟨trivial, rfl⟩

theorem puts_elementOf (operation : String) (wanted : Demand) (source : Target) :
    Puts (elementOf operation wanted source) (fun _ => True) := by
  unfold elementOf
  split
  · exact puts_pure trivial
  · exact puts_typeFault _

/-- A backend needs no guards. -/
theorem puts_guarded {build : Target → Lowering Target} {P : Target → Prop}
    (h : Puts (build s) P) : Puts (guarded s build) P := by
  refine puts_dialect.bind fun dialect backend => ?_
  subst backend
  exact h

/-- For a backend nothing is evaluated ahead. -/
theorem puts_shared {build : Target → Lowering Target} {P : Target → Prop}
    (h : Puts (build s) P) : Puts (shared s build) P := by
  refine puts_dialect.bind fun dialect backend => ?_
  subst backend
  exact h

end Rules

/-! ### Key paths -/

theorem puts_propertyOn {known given : Set String} (name : String) (kind : Kind) {t : Target}
    (h : t.Fits known given) : Puts (propertyOn name kind t) (·.Fits known given) := by
  cases kind with
  | sequence element =>
    unfold propertyOn
    refine (puts_fresh "e").bind fun item _ => ?_
    have here : item ∈ insert item (known ∪ given) := Set.mem_insert _ _
    refine (puts_propertyOn name element (fits_parameter element here)).bind fun body holds => ?_
    refine puts_pure ?_
    have whole := fits_binder (.map (.sequence body.kind) t item body) h holds And.intro rfl
    rwa [Set.union_empty] at whole
  | _ =>
    unfold propertyOn
    split
    · exact puts_guarded (puts_pure (h.above id rfl))
    · exact puts_typeFault _

theorem puts_count (h : t.Fits known given) : Puts (count t) (·.Fits known given) :=
  puts_guarded (puts_pure (h.above id rfl))

theorem puts_reduce (reduction : Reduction) (element : Kind) (h : t.Fits known given) :
    Puts (reduce t reduction element) (·.Fits known given) := by
  unfold reduce
  split
  · exact puts_guarded (puts_pure (h.above id rfl))
  · exact puts_typeFault _

theorem puts_collectionOperator (name : String) (h : t.Fits known given) :
    Puts (collectionOperator t name) (·.Fits known given) := by
  refine (puts_elementOf _ _ t).bind fun element _ => ?_
  dsimp only
  split
  · exact puts_count h
  · split
    · exact puts_reduce _ element h
    · exact puts_typeFault _

theorem puts_follow (segments : List String) (h : t.Fits known given) :
    Puts (follow t segments) (·.Fits known given) := by
  induction segments generalizing t with
  | nil => exact puts_pure h
  | cons segment rest ih =>
    unfold follow
    split
    · exact (ih h).bind fun t holds => puts_collectionOperator _ holds
    · exact (puts_propertyOn segment t.kind h).bind fun t holds => ih holds

/-! ### Operands -/

theorem puts_cast {kind : Kind} (h : t.Fits known given) :
    Puts (ofResult (t.cast kind)) (·.Fits known given) :=
  puts_ofResult fun _ cast => h.isCast (.inr ⟨kind, cast⟩)

/-- The trees are written one after the other. -/
def Follow (known given given' : Set String) (pair : Target × Target) : Prop :=
  pair.1.Fits known given ∧ pair.2.Fits (known ∪ given) given'

theorem puts_makeComparable (h : s.Fits known given) (h' : t.Fits known' given') :
    Puts (ofResult (s.makeComparable t))
      (fun pair => pair.1.Fits known given ∧ pair.2.Fits known' given') :=
  puts_ofResult fun _ made =>
    have casts := isCast_of_makeComparable made
    ⟨h.isCast casts.1, h'.isCast casts.2⟩

theorem puts_numeric (selector : String) (h : t.Fits known given) :
    Puts (numeric selector t) (·.Fits known given) := by
  unfold numeric
  split
  · exact puts_pure h
  · exact puts_typeFault _

theorem puts_integral (selector : String) (h : t.Fits known given) :
    Puts (integral selector t) (·.Fits known given) := by
  unfold integral
  split
  · exact puts_pure h
  · exact puts_typeFault _

theorem puts_fractional (h : t.Fits known given) : Puts (fractional t) (·.Fits known given) := by
  unfold fractional
  split
  · exact puts_pure h
  · exact puts_cast h

/-! ### Functions -/

theorem puts_onSharedKind (op : BinaryOp) (h : s.Fits known given)
    (h' : t.Fits (known ∪ given) given') :
    Puts (onSharedKind op s t) (·.Fits known (given ∪ given')) := by
  unfold onSharedKind
  split
  · exact puts_pure (fits_binary _ op h h')
  · exact (puts_makeComparable h h').bind fun _ holds =>
      puts_pure (fits_binary _ op holds.1 holds.2)

theorem puts_arithmetic (selector : String) (op : BinaryOp) (h : s.Fits known given)
    (h' : t.Fits (known ∪ given) given') :
    Puts (arithmetic selector op s t) (·.Fits known (given ∪ given')) := by
  refine (puts_numeric selector h).bind fun s h => ?_
  refine (puts_numeric selector h').bind fun t h' => ?_
  split
  · exact (puts_cast h).bind fun _ holds => (puts_cast h').bind fun _ holds' =>
      puts_pure (fits_binary _ op holds holds')
  · exact puts_onSharedKind op h h'

/-- A backend casts nothing later. -/
theorem puts_castLater (builtin : Builtin) (kind : Kind) {P : Target → Prop} :
    Puts (castTo.castLater t builtin kind) P := by
  refine puts_dialect.bind fun dialect backend => ?_
  subst backend
  exact puts_throw _

/-- A cast of a constant. Neither the constant nor the name of a type assigns anything. -/
theorem puts_castNow {builtin : Builtin} (kind : Kind)
    (cast : Value → Except EvaluationFault Value) (h : s.Fits known given) :
    Puts
      (match s.constant? with
        | some value =>
          if value.isNull then castTo.castLater s builtin kind
          else
            match cast value with
            | .ok result => return .ofValue result
            | .error fault => throw (.evaluation fault)
        | none => castTo.castLater s builtin kind)
      (·.Fits known given) := by
  split
  · rename_i value is
    split
    · exact puts_castLater builtin kind
    · split
      · cases s with
        | constant => exact puts_pure ⟨trivial, h.assigns⟩
        | _ => cases is
      · exact puts_throw _
  · exact puts_castLater builtin kind

theorem puts_castTo (h : s.Fits known given) (h' : t.Fits (known ∪ given) given') :
    Puts (castTo s t) (·.Fits known (given ∪ given')) := by
  unfold castTo
  split
  · rename_i name is
    have nothing : given' = ∅ :=
      Set.subset_empty_iff.mp (assigned_of_constantString is ▸ h'.assigns)
    rw [nothing, Set.union_empty]
    dsimp only
    split
    iterate 3 exact puts_castNow _ _ h
    exact (puts_typeFault (P := fun _ => False) _).bind fun _ never => never.elim
  · exact puts_typeFault _

/-- A backend moves a date by an amount that comes after it. -/
theorem puts_moveDate (selector : String) (unit : DateUnit) (h : s.Fits known given)
    (h' : t.Fits (known ∪ given) given') :
    Puts (moveDate selector unit s t) (·.Fits known (given ∪ given')) := by
  have amount {t : Target} (h' : t.Fits (known ∪ given) given') :
      Puts (backendAmount t) (·.Fits (known ∪ given) given') := by
    unfold backendAmount
    split
    · exact puts_cast h'
    · exact puts_pure h'
  unfold moveDate
  refine (puts_numeric selector h').bind fun t h' => ?_
  -- The date may be of three kinds.
  split
  iterate 3
    refine puts_dialect.bind fun dialect backend => ?_
    subst backend
    exact (amount h').bind fun _ holds => puts_pure ((allFit_pair h holds).call _ rfl nofun)
  exact puts_typeFault _

theorem puts_textFunction (selector : String) {builtin : Builtin} (one : builtin.writes 1)
    (other : builtin ≠ .contains) (h : t.Fits known given) :
    Puts (textFunction selector builtin t) (·.Fits known given) := by
  have guardedCall (kind : Kind) :
      Puts (guarded t fun argument => return .call kind builtin [argument])
        (·.Fits known given) :=
    puts_guarded (puts_pure ((allFit_singleton h).call kind one other))
  unfold textFunction
  split
  iterate 3 exact guardedCall _
  exact puts_typeFault _

/-! ### Indexes -/

/-- An index comes before its collection. -/
theorem puts_indexBy (element : Kind) (h : s.Fits known given) (h' : t.Fits known given') :
    Puts (indexBy s element t) (·.Fits known (given ∪ given')) :=
  (puts_integral _ h').bind fun _ holds =>
    puts_guarded (puts_pure (fits_elementAt element h holds))

theorem puts_indexBySymbol (element : Kind) (symbol : IndexSymbol) (h : s.Fits known given) :
    Puts (indexBySymbol s element symbol) (·.Fits known given) := by
  cases symbol with
  | size => exact puts_count h
  | first =>
    have item := fits_elementAt element h (fits_ofValue (.int 0))
    show Puts (guarded s fun source => return .elementAt element source (.ofValue (.int 0))) _
    exact puts_guarded (puts_pure (item.weaken Set.subset_union_left))
  | last =>
    have number : (Target.count (.integer .int) s).Fits known given := h.above id rfl
    have place := fits_binary (.integer .int) .subtract number (fits_ofValue (.int 1))
    have item := fits_elementAt element h place
    show Puts (guarded s fun source =>
      let last : Target :=
        .binary (.integer .int) .subtract (.count (.integer .int) source) (.ofValue (.int 1))
      return .elementAt element source last) _
    exact puts_guarded (puts_pure (item.weaken Set.subset_union_left))

/-! ### Calls -/

/-- A call of one argument writes it. -/
def writesOne (builtin : Builtin) : Bool := builtin.writes 1 && builtin ≠ .contains

/-- Does the meaning name no call but those that write one argument? -/
def isMeaningOfOne : Meaning → Bool
  | .math builtin | .rounding builtin | .text builtin => writesOne builtin
  | _ => true

theorem isMeaningOfOne_of_ofSelector? {selector : String} {f : BuiltinFunction}
    (h : BuiltinFunction.ofSelector? selector = some f) : isMeaningOfOne f.meaning := by
  have all : ∀ f ∈ BuiltinFunction.table, isMeaningOfOne f.meaning := by decide
  exact all f (List.mem_of_find?_eq_some h)

theorem puts_function (selector : String) (arity : Nat) :
    Puts (function selector arity) (BuiltinFunction.ofSelector? selector = some ·) := by
  unfold function
  split
  · exact puts_throw _
  · split
    · exact puts_pure ‹_›
    · exact puts_typeFault _

theorem fits_callOfOne {builtin : Builtin} (kind : Kind) (one : writesOne builtin)
    (h : t.Fits known given) : (Target.call kind builtin [t]).Fits known given := by
  rw [writesOne, Bool.and_eq_true, decide_eq_true_eq] at one
  exact (allFit_singleton h).call kind one.1 one.2

theorem puts_unaryCall? (selector : String) {meaning : Meaning} (one : isMeaningOfOne meaning)
    (h : t.Fits known given) {lowering : Lowering Target}
    (is : unaryCall? selector t meaning = some lowering) :
    Puts lowering (·.Fits known given) := by
  cases meaning with
  | reduce reduction =>
    cases is
    exact (puts_elementOf _ _ t).bind fun element _ => puts_reduce reduction element h
  | count =>
    cases is
    exact (puts_elementOf _ _ t).bind fun _ _ => puts_count h
  | math builtin =>
    cases is
    exact (puts_numeric _ h).bind fun _ holds => (puts_fractional holds).bind fun _ holds =>
      puts_pure (fits_callOfOne _ one holds)
  | rounding builtin =>
    cases is
    exact (puts_numeric _ h).bind fun _ holds => puts_pure (fits_callOfOne _ one holds)
  | abs =>
    cases is
    exact (puts_numeric _ h).bind fun _ holds => puts_pure (fits_callOfOne _ (by rfl) holds)
  | negate =>
    cases is
    exact (puts_numeric _ h).bind fun _ holds => puts_pure (holds.above id rfl)
  | text builtin =>
    cases is
    rw [isMeaningOfOne, writesOne, Bool.and_eq_true, decide_eq_true_eq] at one
    exact puts_textFunction selector one.1 one.2 h
  | onesComplement =>
    cases is
    exact (puts_integral _ h).bind fun _ holds => puts_pure (holds.above id rfl)
  | randomBelow =>
    cases is
    exact (puts_numeric _ h).bind fun _ holds => puts_pure (fits_callOfOne _ (by rfl) holds)
  | _ => cases is

theorem puts_binaryCall? (selector : String) {meaning : Meaning} (h : s.Fits known given)
    (h' : t.Fits (known ∪ given) given') {lowering : Lowering Target}
    (is : binaryCall? selector s t meaning = some lowering) :
    Puts lowering (·.Fits known (given ∪ given')) := by
  cases meaning with
  | arithmetic op =>
    cases is
    exact puts_arithmetic selector op h h'
  | bitwise op =>
    cases is
    exact (puts_integral _ h).bind fun _ holds => (puts_integral _ h').bind fun _ holds' =>
      puts_onSharedKind op holds holds'
  | shift op =>
    cases is
    exact (puts_integral _ h).bind fun _ holds => (puts_integral _ h').bind fun _ holds' =>
      puts_pure (fits_binary _ op holds holds')
  | cast =>
    cases is
    exact puts_castTo h h'
  | dateAdd unit =>
    cases is
    exact puts_moveDate selector unit h h'
  | _ => cases is

theorem puts_constantCall? {meaning : Meaning} {lowering : Lowering Target}
    (is : constantCall? meaning = some lowering) : Puts lowering (·.Fits known ∅) := by
  cases meaning with
  | random | now =>
    cases is
    exact puts_pure (allFit_nil.call _ rfl nofun)
  | _ => cases is

theorem puts_call {f : BuiltinFunction} (one : isMeaningOfOne f.meaning)
    (h : AllFit known given ts) : Puts (call f ts) (·.Fits known given) := by
  unfold call
  split
  · rename_i lowering is
    unfold call? at is
    split at is
    · obtain rfl := Set.subset_empty_iff.mp h.assigns
      exact puts_constantCall? is
    · have argument := h.assigns
      rw [assignedAll, assignedAll, Set.union_empty] at argument
      exact puts_unaryCall? _ one ⟨h.reads.1, argument⟩ is
    · rename_i left right
      have arguments := h.assigns
      rw [assignedAll, assignedAll, assignedAll, Set.union_empty] at arguments
      have first : left.Fits known left.assigned := ⟨h.reads.1, subset_rfl⟩
      have second : right.Fits (known ∪ left.assigned) right.assigned := ⟨h.reads.2.1, subset_rfl⟩
      exact (puts_binaryCall? _ first second is).imp fun _ holds => holds.weaken arguments
    · cases is
  · exact puts_typeFault _
/-! ### Letter case -/

theorem puts_foldString (h : t.Fits known given) :
    Puts (foldString t) (·.Fits known given) := by
  unfold foldString
  split
  · rename_i string is
    have nothing : given ⊆ ∅ := assigned_of_constantString is ▸ h.assigns
    exact puts_pure ⟨trivial, nothing⟩
  · exact puts_guarded (puts_pure (fits_callOfOne _ (by rfl) h))

/-- What is done to an operand that is no list: to a collection item by item. -/
theorem puts_foldSubject (h : t.Fits known given) :
    Puts
      (match t.kind with
        | .sequence element =>
          if mayBeString element then do
            let parameter ← fresh "f"
            let body ← foldString (.parameter element parameter)
            return .map t.kind t parameter body
          else return t
        | kind => if mayBeString kind then foldString t else return t)
      (·.Fits known given) := by
  split
  · rename_i element _
    split
    · refine (puts_fresh "f").bind fun item _ => ?_
      have here : item ∈ insert item (known ∪ given) := Set.mem_insert _ _
      refine (puts_foldString (fits_parameter element here)).bind fun body holds => ?_
      refine puts_pure ?_
      have whole := fits_binder (.map t.kind t item body) h holds And.intro rfl
      rwa [Set.union_empty] at whole
    · exact puts_pure h
  · split
    · exact puts_foldString h
    · exact puts_pure h

mutual

theorem puts_foldCase {known given : Set String} (t : Target) (h : t.Fits known given) :
    Puts (foldCase t) (·.Fits known given) := by
  match t with
  | .list kind items =>
    unfold foldCase
    split
    · split
      · exact (puts_foldCaseAll items (allFit_of_list h)).bind fun _ holds =>
          puts_pure (holds.list _)
      · exact puts_pure h
    · split
      · exact puts_foldString h
      · exact puts_pure h
  | .constant .. | .parameter .. | .property .. | .guard .. | .map .. | .filter .. | .quantify ..
  | .count .. | .reduce .. | .elementAt .. | .binary .. | .unary .. | .call .. | .convert ..
  | .assign .. | .bind .. =>
    unfold foldCase
    exact puts_foldSubject h

theorem puts_foldCaseAll {known given : Set String} (ts : List Target) (h : AllFit known given ts) :
    Puts (foldCaseAll ts) (AllFit known given) := by
  match ts with
  | [] => exact puts_pure h
  | t :: ts =>
    unfold foldCaseAll
    have first : t.Fits known t.assigned := ⟨h.reads.1, subset_rfl⟩
    have others : AllFit (known ∪ t.assigned) (assignedAll ts) ts := ⟨h.reads.2, subset_rfl⟩
    refine (puts_foldCase t first).bind fun _ holds => ?_
    refine (puts_foldCaseAll ts others).bind fun _ all => puts_pure ?_
    exact (allFit_cons holds all).weaken h.assigns

end

theorem puts_foldOperands (options : Options) (operator : Operator) (h : s.Fits known given)
    (h' : t.Fits (known ∪ given) given') :
    Puts (foldOperands options operator s t) (Follow known given given') := by
  refine puts_settings.bind fun settings _ => ?_
  split
  · refine (puts_foldCase s h).bind fun _ holds => ?_
    split
    · exact puts_pure ⟨holds, h'⟩
    · exact (puts_foldCase t h').bind fun _ holds' => puts_pure ⟨holds, holds'⟩
  · exact puts_pure ⟨h, h'⟩

/-! ### Comparisons -/

theorem puts_relate (op : BinaryOp) (h : s.Fits known given)
    (h' : t.Fits (known ∪ given) given') :
    Puts (relate op s t) (·.Fits known (given ∪ given')) :=
  (puts_makeComparable h h').bind fun _ holds => puts_pure (fits_binary _ op holds.1 holds.2)

theorem puts_demandString (builtin : Builtin) (t : Target) :
    Puts (demandString builtin t) (fun _ => True) := by
  unfold demandString
  split
  iterate 3 exact puts_pure trivial
  exact puts_typeFault _

theorem puts_stringTest {builtin : Builtin} (two : builtin.writes 2) (other : builtin ≠ .contains)
    (h : s.Fits known given) (h' : t.Fits (known ∪ given) given') :
    Puts (stringTest builtin s t) (·.Fits known (given ∪ given')) :=
  (puts_demandString builtin s).bind fun _ _ => (puts_demandString builtin t).bind fun _ _ =>
    puts_shared (puts_shared (puts_guarded (puts_pure ((allFit_pair h h').call _ two other))))

/-- A search of trees neither of which needs the other one. -/
theorem puts_contains (h : s.Fits known given) (h' : t.Fits known given') :
    Puts (contains s t) (·.Fits known (given ∪ given')) := by
  have search {s t : Target} (h : s.Fits known given) (h' : t.Fits known given') :
      Puts (shared s fun s => shared t fun t => guarded s fun s =>
        return .call .boolean .contains [s, t]) (·.Fits known (given ∪ given')) :=
    puts_shared (puts_shared (puts_guarded (puts_pure (fits_contains .boolean h h'))))
  unfold contains
  split
  · exact (puts_makeComparable h h').bind fun _ holds => search holds.1 holds.2
  · exact search h h'

/-- The value is written twice, before each of the bounds. -/
theorem puts_within {value lower upper : Target} {given'' : Set String}
    (h : value.Fits known given) (h' : lower.Fits (known ∪ given) given')
    (h'' : upper.Fits (known ∪ given ∪ given') given'') :
    Puts (within value lower upper) (·.Fits known (given ∪ (given' ∪ given''))) := by
  have again : value.Fits (known ∪ (given ∪ given')) given := h.mono Set.subset_union_left
  have last : upper.Fits (known ∪ (given ∪ given') ∪ given) given'' := by
    refine h''.mono ?_
    rw [← Set.union_assoc]
    exact Set.subset_union_left
  refine (puts_relate .greaterEqual h h').bind fun low lows => ?_
  refine (puts_relate .lessEqual again last).bind fun high highs => puts_pure ?_
  refine (fits_binary .boolean .andAlso lows highs).weaken ?_
  rw [← Set.union_assoc]
  exact Set.union_subset_union_right _ Set.subset_union_right

theorem puts_between (h : s.Fits known given) (h' : t.Fits (known ∪ given) given') :
    Puts (between s t) (·.Fits known (given ∪ given')) := by
  refine puts_shared ?_
  split
  · rename_i kind lower upper
    have bounds := h'.assigns
    rw [assigned, assignedAll, assignedAll, assignedAll, Set.union_empty] at bounds
    have first : lower.Fits (known ∪ given) lower.assigned := ⟨h'.reads.1, subset_rfl⟩
    have second : upper.Fits (known ∪ given ∪ lower.assigned) upper.assigned :=
      ⟨h'.reads.2.1, subset_rfl⟩
    exact (puts_within h first second).imp fun _ holds =>
      holds.weaken (Set.union_subset_union_right _ bounds)
  · exact puts_typeFault _
  · refine (puts_elementOf _ _ _).bind fun element _ => puts_shared ?_
    have bound (i : Int) : (elementAt element t (.ofValue (.int i))).Fits (known ∪ given) given' :=
      (fits_elementAt element h' (fits_ofValue _)).weaken Set.subset_union_left
    exact (puts_within h (bound 0) ((bound 1).mono Set.subset_union_left)).imp fun _ holds =>
      holds.weaken (Set.union_subset_union_right _ Set.subset_union_left)

end Lowering

/-- Does the operator look for something in a collection or in a string? -/
def Operator.isSearch : Operator → Bool
  | .contains | .member => true
  | _ => false

namespace Lowering

open Target

/-- The right operand of a search must not need the left one. -/
theorem puts_compare (operator : Operator) (h : s.Fits known given)
    (h' : t.Fits (known ∪ given) given') (apart : operator.isSearch → given = ∅) :
    Puts (compare operator s t) (·.Fits known (given ∪ given')) := by
  have alone (search : operator.isSearch) : t.Fits known given' := by
    rwa [apart search, Set.union_empty] at h'
  cases operator with
  | less | lessEqual | greater | greaterEqual | equal | notEqual => exact puts_relate _ h h'
  | isMatch | like | beginsWith | endsWith => exact puts_stringTest rfl nofun h h'
  | contains => exact puts_contains h (alone rfl)
  | member =>
    rw [Set.union_comm]
    exact puts_contains (alone rfl) h
  | between => exact puts_between h h'

/-- What is compared is an item of the left operand, which assigns nothing. -/
theorem puts_quantified (quantifier : Quantifier) (operator : Operator) (h : s.Fits known given)
    (h' : t.Fits (known ∪ given) given') :
    Puts (quantified quantifier operator s t) (·.Fits known (given ∪ given')) := by
  refine (puts_elementOf _ _ s).bind fun element _ => puts_shared (puts_shared ?_)
  refine (puts_fresh "q").bind fun item _ => ?_
  have here : item ∈ insert item (known ∪ given) := Set.mem_insert _ _
  have right : t.Fits (insert item (known ∪ given) ∪ ∅) given' := by
    rw [Set.union_empty]
    exact h'.mono (Set.subset_insert item _)
  refine (puts_compare operator (fits_parameter element here) right fun _ => rfl).bind
    fun predicate holds => puts_pure ?_
  rw [Set.empty_union] at holds
  exact fits_binder (.quantify .boolean quantifier s item predicate) h holds And.intro rfl

theorem puts_comparison (operator : Operator) (modifier : Modifier) (options : Options)
    (h : s.Fits known given) (h' : t.Fits (known ∪ given) given')
    (apart : modifier = .direct → operator.isSearch → given = ∅) :
    Puts (comparison operator modifier options s t) (·.Fits known (given ∪ given')) := by
  refine (puts_foldOperands options operator h h').bind fun pair holds => ?_
  dsimp only
  cases modifier with
  | direct => exact puts_compare operator holds.1 holds.2 (apart rfl)
  | all | any => exact puts_quantified _ operator holds.1 holds.2

/-! ### Lists -/

theorem allFit_casts {kind : Kind} (h : AllFit known given ts)
    (made : ts.mapM (·.cast kind) = .ok us) : AllFit known given us := by
  induction ts generalizing known given us with
  | nil =>
    rw [List.mapM_nil] at made
    cases made
    exact h
  | cons t ts ih =>
    rw [List.mapM_cons] at made
    obtain ⟨u, cast, made⟩ := exists_of_bind_ok made
    obtain ⟨rest, casts, made⟩ := exists_of_bind_ok made
    cases made
    have first : t.Fits known t.assigned := ⟨h.reads.1, subset_rfl⟩
    have others : AllFit (known ∪ t.assigned) (assignedAll ts) ts := ⟨h.reads.2, subset_rfl⟩
    exact (allFit_cons (first.isCast (.inr ⟨kind, cast⟩)) (ih others casts)).weaken h.assigns

theorem puts_list (h : AllFit known given ts) : Puts (list ts) (·.Fits known given) := by
  unfold list
  dsimp only
  split
  · exact (puts_ofResult fun _ made => allFit_casts h made).bind fun _ holds =>
      puts_pure (holds.list _)
  · exact puts_pure (h.list _)

end Lowering

end PredicateLang
