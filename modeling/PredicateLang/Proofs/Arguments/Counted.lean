import Mathlib.Data.List.Nodup
import PredicateLang.Expr.Builder
import PredicateLang.Proofs.Lexing.Placeholders

/-!
# Arguments find their placeholders

Arguments are numbered by the scan, in the order of the places that it finds. Since the lexer finds
the placeholders at the same places, in the same order, the first of its placeholders stands for the
first argument, the second for the second, and so on (`Arguments.supply_of_counted`), up to the first
fault in the text.
-/

open PredicateLang.Lexing

namespace PredicateLang

variable {quote : Option Char} {skip : Bool} {position k : Nat} {text : List Char} {lexing : Lexing}
  {word : Lexeme} {values : List Value}

/-! ## The scan -/

/-- The scan finds no place before the one where it is. -/
theorem le_of_mem_placeholderOffsetsFrom {p : Nat}
    (mem : p ∈ placeholderOffsetsFrom quote skip position text) : position ≤ p := by
  fun_induction placeholderOffsetsFrom quote skip position text with
  | case1 => cases mem
  | case7 _ position c rest _ _ _ _ ih =>
    rcases List.mem_cons.mp mem with rfl | mem
    · exact Nat.le_refl p
    · exact Nat.le_of_succ_le (ih mem)
  | _ => exact Nat.le_of_succ_le (by apply_assumption; exact mem)

/-- The scan finds one place after the other. -/
theorem pairwise_placeholderOffsetsFrom (quote : Option Char) (skip : Bool) (position : Nat)
    (text : List Char) : (placeholderOffsetsFrom quote skip position text).Pairwise (· < ·) := by
  fun_induction placeholderOffsetsFrom quote skip position text with
  | case1 => exact .nil
  | case7 _ position c rest _ _ _ _ ih =>
    exact .cons (fun p mem => le_of_mem_placeholderOffsetsFrom mem) ih
  | _ => assumption

/-- So the place with an index is found at that index. -/
theorem idxOf?_placeholderOffsets {text : String} {p : Nat}
    (h : (placeholderOffsets text)[k]? = some p) :
    (placeholderOffsets text).idxOf? p = some k := by
  obtain ⟨lt, rfl⟩ := List.getElem?_eq_some_iff.mp h
  refine List.idxOf?_eq_some_iff.mpr ⟨lt, rfl, fun j less => ?_⟩
  have increasing : (placeholderOffsets text).Pairwise (· < ·) :=
    pairwise_placeholderOffsetsFrom none false 0 text.toList
  exact Nat.ne_of_lt (List.pairwise_iff_getElem.mp increasing j k (Nat.lt_trans less lt) lt less)

/-! ## Placeholders and arguments -/

/-- The words of a text that are placeholders. -/
def Lexing.placeholderWords (lexing : Lexing) : List Lexeme :=
  lexing.lexemes.filter fun word => (placeholder? word).isSome

theorem Lexing.exists_getElem?_placeholderWords {conversion : Char} (mem : word ∈ lexing.lexemes)
    (token : word.token = .placeholder conversion) :
    ∃ k : Nat, lexing.placeholderWords[k]? = some word :=
  List.mem_iff_getElem?.mp (List.mem_filter.mpr ⟨mem, by simp [placeholder?, token]⟩)

theorem Lexing.placeholders_eq (lexing : Lexing) :
    lexing.placeholders = lexing.placeholderWords.map Lexeme.start := by
  unfold Lexing.placeholders Lexing.placeholderWords
  induction lexing.lexemes with
  | nil => rfl
  | cons word rest ih =>
    cases found : placeholder? word with
    | none => simp [found, ih]
    | some p =>
      have start : word.start = p := by
        unfold placeholder? at found
        split at found <;> cases found
        rfl
      simp [found, ih, start]

/-- The scan finds the placeholders of the lexer in the same order, at the same places. -/
theorem getElem?_placeholderOffsets {text : String} {p : Nat}
    (h : (lex text).placeholders[k]? = some p) : (placeholderOffsets text)[k]? = some p := by
  have h : (ofChars 0 text.toList).placeholders[k]? = some p := h
  obtain ⟨others, whole⟩ := (scan_eq 0 text.toList).1
  show (scan 0 text.toList)[k]? = some p
  rw [← whole, List.getElem?_append_left (List.getElem?_eq_some_iff.mp h).1]
  exact h

/-- The expression that the argument with an index becomes for a placeholder at a position. -/
def Arguments.received (position index : Nat) (conversion : Char) (argument : Value) :
    Except SyntaxError Expr :=
  match convert conversion argument with
  | .ok e => .ok e
  | .error (some wanted) =>
    .error ⟨position, .argumentMismatch (index + 1) conversion wanted argument.typeName⟩
  | .error none => .error ⟨position, .unsupportedConversion conversion⟩

theorem Arguments.placeholder_eq {arguments : Arguments} {argument : Value} {p : Nat}
    (index : arguments.offsets.idxOf? p = some k) (known : arguments.values[k]? = some argument)
    (conversion : Char) :
    arguments.placeholder p conversion = received p k conversion argument := by
  simp only [Arguments.placeholder, index, known]
  rfl

/-- Every placeholder of a text receives the value that has the same number. -/
def Arguments.Supply (arguments : Arguments) (values : List Value) (lexing : Lexing) : Prop :=
  ∀ (k : Nat) word, lexing.placeholderWords[k]? = some word →
    ∃ argument, values[k]? = some argument ∧ ∀ conversion,
      arguments.placeholder word.start conversion = received word.start k conversion argument

/-- Arguments are supplied if there are as many as places that the scan counts. -/
theorem Arguments.supply_of_counted {text : String} {arguments : Arguments}
    (counted : Arguments.ofText text values = .ok arguments) :
    arguments.Supply values (lex text) := by
  intro k word h
  unfold ofText at counted
  dsimp only at counted
  split at counted <;> cases counted
  rename_i length
  have offset : (placeholderOffsets text)[k]? = some word.start := by
    refine getElem?_placeholderOffsets ?_
    rw [Lexing.placeholders_eq, List.getElem?_map, h]
    rfl
  have lt : k < values.length := length ▸ (List.getElem?_eq_some_iff.mp offset).1
  have known : values[k]? = some values[k] := List.getElem?_eq_getElem lt
  exact ⟨values[k], known, placeholder_eq (idxOf?_placeholderOffsets offset) known⟩

end PredicateLang
