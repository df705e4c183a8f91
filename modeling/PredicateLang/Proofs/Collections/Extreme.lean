import PredicateLang.Proofs.Collections.Operator
import PredicateLang.Proofs.Order

/-!
# Least and greatest items

The least item of a collection of integers, strings or dates is the first one that no other comes
before, and the greatest the first one that no other comes after. Nulls are passed over. The loop
keeps the best item so far: none of those behind it is better, and all those in front of it are
worse (`Best`).
-/

namespace PredicateLang

open Lowering

/-! ## Items that can be compared -/

namespace Value

/-- The values are integers, of whatever kinds, or strings, or dates. -/
inductive Comparable (values : List Value) : Prop where
  | integers (h : ∀ v ∈ values, ∃ n, v = .integer n)
  | strings (h : ∀ v ∈ values, ∃ s, v = .string s)
  | dates (h : ∀ v ∈ values, ∃ t, v = .date t)

/-- The string of a value, if it is one. -/
def string? : Value → Option String
  | .string s => some s
  | _ => none

/-- The instant of a value, if it is a date. -/
def date? : Value → Option Instant
  | .date t => some t
  | _ => none

theorem Comparable.exists_order {values : List Value} (h : Comparable values) :
    ∃ order : Value → Value → Ordering, Std.TransCmp order
      ∧ ∀ a ∈ values, ∀ b ∈ values, a.compare b = some (order a b) := by
  cases h with
  | integers h =>
    refine ⟨compareOn fun v => v.toInt?.getD 0, inferInstance, fun a mem b mem' => ?_⟩
    obtain ⟨n, rfl⟩ := h a mem
    obtain ⟨m, rfl⟩ := h b mem'
    rfl
  | strings h =>
    refine ⟨compareOn fun v => v.string?.getD "", inferInstance, fun a mem b mem' => ?_⟩
    obtain ⟨s, rfl⟩ := h a mem
    obtain ⟨t, rfl⟩ := h b mem'
    rfl
  | dates h =>
    refine ⟨compareLex (compareOn fun v => v.date?.elim 0 Instant.seconds)
      (compareOn fun v => v.date?.elim 0 Instant.nanos), inferInstance, fun a mem b mem' => ?_⟩
    obtain ⟨t, rfl⟩ := h a mem
    obtain ⟨u, rfl⟩ := h b mem'
    rfl

end Value

/-! ## The loop -/

section

variable {order : Value → Value → Ordering} [Std.TransCmp order] {wanted : Ordering}
  {a b c best : Value} {seen : List Value}

theorem order_ne_symm (strict : wanted ≠ .eq) (h : order a b = wanted) : order b a ≠ wanted := by
  have swap : order b a = (order a b).swap := Std.OrientedCmp.eq_swap
  rw [swap, h]
  cases wanted with
  | eq => exact absurd rfl strict
  | lt | gt => decide

/-- Not to come before another is transitive, and so is not to come after it. -/
theorem order_ne_trans (strict : wanted ≠ .eq) (h : order a b ≠ wanted) (h' : order b c ≠ wanted) :
    order a c ≠ wanted := by
  cases wanted with
  | eq => exact absurd rfl strict
  | lt =>
    rw [ne_eq, ← Ordering.isGE_iff_ne_lt] at h h' ⊢
    exact Std.TransCmp.isGE_trans h h'
  | gt =>
    rw [ne_eq, ← Ordering.isLE_iff_ne_gt] at h h' ⊢
    exact Std.TransCmp.isLE_trans h h'

/-- The item is the best one seen: none is better, and those in front of it are worse. -/
structure Best (order : Value → Value → Ordering) (wanted : Ordering) (seen : List Value)
    (best : Value) : Prop where
  split : ∃ before after, seen = before ++ best :: after
    ∧ ∀ item ∈ before, order best item = wanted
  unbeaten : ∀ item ∈ seen, order item best ≠ wanted

theorem best_singleton (strict : wanted ≠ .eq) (first : Value) :
    Best order wanted [first] first where
  split := ⟨[], [], rfl, List.forall_mem_nil _⟩
  unbeaten := by
    intro item mem
    have same : order first first = .eq := Std.ReflCmp.compare_self
    rw [List.mem_singleton.mp mem, same]
    exact strict.symm

/-- Of the best item and the next one the better is kept, or the earlier. -/
theorem Best.next (h : Best order wanted seen best) (strict : wanted ≠ .eq) (item : Value) :
    Best order wanted (seen ++ [item]) (if order item best = wanted then item else best) := by
  split
  case isTrue better =>
    -- The next item is better than whatever the best one so far is not worse than.
    have beaten : ∀ other ∈ seen, order item other = wanted := fun other mem =>
      Decidable.byContradiction fun worse =>
        order_ne_trans strict worse (h.unbeaten other mem) better
    refine ⟨⟨seen, [], rfl, beaten⟩, fun other mem => ?_⟩
    rcases List.mem_append.mp mem with mem | mem
    · exact order_ne_symm strict (beaten other mem)
    · exact (best_singleton strict item).unbeaten other mem
  case isFalse worse =>
    obtain ⟨before, after, rfl, beaten⟩ := h.split
    refine ⟨⟨before, after ++ [item], by simp, beaten⟩, fun other mem => ?_⟩
    rcases List.mem_append.mp mem with mem | mem
    · exact h.unbeaten other mem
    · rwa [List.mem_singleton.mp mem]

/-- The loop goes on with the best item. -/
theorem Best.extreme (strict : wanted ≠ .eq) {items rest : List Value}
    (ordered : ∀ a ∈ items, ∀ b ∈ items, a.compare b = some (order a b))
    (h : Best order wanted seen best) (all : seen ++ rest = items) :
    ∃ v, Evaluation.extreme wanted best rest = .ok v ∧ Best order wanted items v := by
  induction rest generalizing seen best with
  | nil => exact ⟨best, rfl, by rwa [← all, List.append_nil]⟩
  | cons item rest ih =>
    have known : item.compare best = some (order item best) := by
      obtain ⟨before, after, rfl, -⟩ := h.split
      exact ordered item (by simp [← all]) best (by simp [← all])
    rw [Evaluation.extreme, known]
    exact ih (h.next strict item) (by simpa using all)

end

/-! ## Least and greatest -/

/-- The value is null if there are no items, and otherwise the first of the items such that no item
comes before it, or after it, whichever is wanted. -/
inductive Value.IsExtreme (wanted : Ordering) : (items : List Value) → Value → Prop where
  | null : IsExtreme wanted [] .null
  | first {before after : List Value} {m : Value}
    (unbeaten : ∀ item ∈ before ++ m :: after, item.compare m ≠ some wanted)
    (earliest : ∀ item ∈ before, ∃ other ∈ before ++ m :: after,
      other.compare item = some wanted) : IsExtreme wanted (before ++ m :: after) m

theorem Evaluation.isExtreme_extremeOf {wanted : Ordering} (strict : wanted ≠ .eq)
    {values : List Value} (comparable : Value.Comparable values) :
    ∃ v, extremeOf wanted values = .ok v ∧ Value.IsExtreme wanted values v := by
  obtain ⟨order, lawful, ordered⟩ := comparable.exists_order
  cases values with
  | nil => exact ⟨.null, rfl, .null⟩
  | cons first rest =>
    obtain ⟨m, run, best⟩ := (best_singleton strict first).extreme strict ordered rfl
    obtain ⟨before, after, split, beaten⟩ := best.split
    have unbeaten := best.unbeaten
    refine ⟨m, run, ?_⟩
    rw [split] at ordered unbeaten ⊢
    have mem : m ∈ before ++ m :: after := by simp
    refine .first (fun item mem' => ?_) fun item mem' => ⟨m, mem, ?_⟩
    · rw [ordered item mem' m mem]
      exact fun same => unbeaten item mem' (Option.some.inj same)
    · rw [ordered m mem item (List.mem_append_left _ mem'), beaten item mem']

/-! ## Extremes of collections -/

/-- What comes first in the order that a reduction looks for, if it looks for the least or the
greatest item. -/
def Reduction.wanted? : Reduction → Option Ordering
  | .min => some .lt
  | .max => some .gt
  | _ => none

section

variable {r : Reduction} {wanted : Ordering} {element : Kind} {items : List Value}

theorem Reduction.strict_of_wanted? (is : r.wanted? = some wanted) : wanted ≠ .eq := by
  cases r <;> cases is <;> decide

theorem Reduction.reduce_of_wanted? (is : r.wanted? = some wanted) (kind : Kind) :
    Evaluation.reduce kind r items = Evaluation.extremeOf wanted (Value.present items) := by
  cases r <;> cases is <;> rfl

/-- The kind of an integer, a string or a date can be reduced to the least or the greatest. -/
theorem Reduction.isReducible_of_conforms (is : r.wanted? = some wanted)
    (comparable : Value.Comparable (Value.present items)) {item : Value}
    (mem : item ∈ Value.present items) (conforms : item.Conforms element) :
    isReducible r element := by
  cases comparable with
  | integers h =>
    obtain ⟨n, rfl⟩ := h item mem
    cases conforms <;> rfl
  | strings h =>
    obtain ⟨s, rfl⟩ := h item mem
    cases r <;> cases is <;> cases conforms <;> rfl
  | dates h =>
    obtain ⟨t, rfl⟩ := h item mem
    cases r <;> cases is <;> cases conforms <;> rfl

theorem Kind.ofItems_eq_nil (none : Value.present items = []) : ofItems items = [] := by
  induction items with
  | nil => rfl
  | cons item rest ih =>
    cases null : item.isNull with
    | true =>
      rw [ofItems, null, if_pos rfl]
      exact ih (by simpa [Value.present, null] using none)
    | false => simp [Value.present, null] at none

/-- A kind that was found out from integers, strings or dates can be reduced, also if there are
none. -/
theorem Reduction.isReducible_of_inferred (is : r.wanted? = some wanted)
    (comparable : Value.Comparable (Value.present items))
    (inferred : Kind.ofValue (.array items) = .sequence element) : isReducible r element := by
  have conforms := (Value.array items).conforms_ofValue
  rw [Kind.ofValue] at inferred conforms
  cases there : Value.present items with
  | nil =>
    -- Of no items the kind is not known.
    rw [Kind.ofItems_eq_nil there] at inferred
    cases inferred
    rfl
  | cons item rest =>
    have mem : item ∈ Value.present items := there ▸ List.mem_cons_self
    rw [inferred] at conforms
    cases conforms with
    | array each =>
      exact isReducible_of_conforms is comparable mem (each item (List.mem_of_mem_filter mem))

end

/-- The least or the greatest item of a collection of integers, strings or dates is null if there is
none, and otherwise the first one that no other comes before or after. It is the same wherever there
are nulls between the items. It is a type fault to look for it among items of a known kind that
cannot be compared, of which none can be there. -/
theorem Expr.result_extreme {r : Reduction} {wanted : Ordering} (is : r.wanted? = some wanted)
    {e c : Expr} (aggregates : e.Aggregates (.reduction r) c) {kind element : Kind}
    {settings : Settings} {object : Value} {world : World} {memory : Memory} {items : List Value}
    (collects : c.Collects kind settings object world memory element items)
    (comparable : Value.Comparable (Value.present items)) :
    (isReducible r element → ∃ v, e.result kind settings object world memory = .ok v
      ∧ Value.IsExtreme wanted (Value.present items) v
      ∧ ∀ {e' c' : Expr} {kind' element' : Kind} {settings' : Settings} {object' : Value}
        {world' : World} {memory' : Memory} {items' : List Value},
        e'.Aggregates (.reduction r) c' →
        c'.Collects kind' settings' object' world' memory' element' items' →
        isReducible r element' → Value.present items' = Value.present items →
        e'.result kind' settings' object' world' memory' = .ok v)
    ∧ (¬isReducible r element →
      e.result kind settings object world memory = .error (.type (.notAggregable element)))
    ∧ ((∃ item ∈ Value.present items, item.Conforms element)
        ∨ Kind.ofValue (.array items) = .sequence element →
      isReducible r element) := by
  obtain ⟨v, extreme, isExtreme⟩ :=
    Evaluation.isExtreme_extremeOf (r.strict_of_wanted? is) comparable
  refine ⟨fun reducible => ⟨v, ?_, isExtreme, ?_⟩, fun unfit => ?_, fun known => ?_⟩
  · rw [collects.result_reduction aggregates, if_pos reducible, r.reduce_of_wanted? is, extreme]
  · intro e' c' kind' element' settings' object' world' memory' items' aggregates' collects'
      reducible' same
    rw [collects'.result_reduction aggregates', if_pos reducible', r.reduce_of_wanted? is, same,
      extreme]
  · rw [collects.result_reduction aggregates, if_neg unfit]
  · rcases known with ⟨item, mem, conforms⟩ | inferred
    · exact r.isReducible_of_conforms is comparable mem conforms
    · exact r.isReducible_of_inferred is comparable inferred

theorem Expr.aggregates_min_items :
    (path "items.@min").Aggregates (.reduction .min) (path "items") :=
  aggregates_items "@min" (by decide +kernel) (by decide +kernel)

/-- The least of five and five is the one that comes first, wherever there are nulls. -/
theorem Expr.result_extreme_five :
    ∃ v, (path "items.@min").result (.withItems .any) (.ofDialect .objects)
        (.withItems [.null, .integer .five, .int 5, .null]) ⟨⟨0, 0⟩, fun _ => 0⟩ .empty = .ok v
      ∧ Value.IsExtreme .lt [.integer .five, .int 5] v
      ∧ (path "items.@min").result (.withItems .any) (.ofDialect .objects)
        (.withItems [.integer .five, .null, .int 5]) ⟨⟨0, 0⟩, fun _ => 0⟩ .empty = .ok v := by
  have comparable : Value.Comparable [.integer .five, .int 5] := by
    refine .integers fun v mem => ?_
    obtain rfl | rfl := by simpa using mem
    · exact ⟨_, rfl⟩
    · exact ⟨_, rfl⟩
  obtain ⟨v, least, isExtreme, same⟩ := (Expr.result_extreme rfl aggregates_min_items
    (collects_items .any [.null, .integer .five, .int 5, .null] ⟨⟨0, 0⟩, fun _ => 0⟩ .empty)
    comparable).1 rfl
  exact ⟨v, least, isExtreme, same aggregates_min_items (collects_items ..) rfl rfl⟩

/-- Truth values are not compared, also if there are none. -/
theorem Expr.result_extreme_unfit :
    (path "items.@min").Aggregates (.reduction .min) (path "items")
      ∧ (path "items").Collects (.withItems .boolean) (.ofDialect .objects) (.withItems [])
        ⟨⟨0, 0⟩, fun _ => 0⟩ .empty .boolean []
      ∧ Value.Comparable (Value.present [])
      ∧ (path "items.@min").result (.withItems .boolean) (.ofDialect .objects) (.withItems [])
        ⟨⟨0, 0⟩, fun _ => 0⟩ .empty = .error (.type (.notAggregable .boolean)) :=
  ⟨aggregates_min_items, collects_items .., .integers nofun,
    (collects_items ..).result_reduction aggregates_min_items⟩

end PredicateLang
