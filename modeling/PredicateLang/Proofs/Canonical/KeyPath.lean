import PredicateLang.Proofs.Canonical
import PredicateLang.Proofs.Grammar
import PredicateLang.Proofs.Text.Split

/-!
# What canonical text spells

`Spells text phrase operands` says that a text, with a boundary behind it, is cut into words that
the grammar derives as a phrase with these operands. Whether the text may stand behind an opening
bracket is kept along: the first word names a place only if the text begins with such a word.

This module has the relation and the first texts with more than one word, which are key paths.
-/

open PredicateLang.Lexing PredicateLang.Parser PredicateLang.Text

namespace PredicateLang.Grammar

/-- A text is read without arguments. -/
def noArguments : Arguments := ⟨[], []⟩

/-- The text is cut into words of the phrase. -/
def Spells (text : List Char) (phrase : Phrase) (operands : List Operand) : Prop :=
  ∀ p rest, isBoundary rest → ∃ w p', Passes p (text ++ rest) w p' rest ∧
    Derives noArguments phrase w operands ∧
    ∀ word ∈ w.head?, (indexSymbol? word.token).isSome → (IndexSymbol.ofWord? (nameOf text)).isSome

variable {text : List Char} {phrase phrase' : Phrase} {operands operands' : List Operand}
  {name : String}

/-- The same words as another phrase. -/
theorem Spells.lift (h : Spells text phrase operands)
    (rule : ∀ {w}, Derives noArguments phrase w operands →
      Derives noArguments phrase' w operands') : Spells text phrase' operands' := by
  intro p rest boundary
  obtain ⟨w, p', passes, derives, place⟩ := h p rest boundary
  exact ⟨w, p', passes, rule derives, place⟩

/-- What follows a boundary does not change the name in front of it. -/
theorem nameOf_stop {more : List Char} (stops : ∀ c ∈ more.head?, isNameChar c = false) :
    nameOf (text ++ more) = nameOf text := by
  unfold nameOf
  congr 1
  induction text with
  | nil =>
    cases more with
    | nil => rfl
    | cons c more => simp [stops c rfl]
  | cons c text ih =>
    rw [List.cons_append, List.takeWhile_cons, List.takeWhile_cons, ih]

/-- Whether a text may stand behind an opening bracket depends on how it begins. -/
theorem place_append {more : List Char} {u v : List Lexeme} (ne : u ≠ [])
    (stops : ∀ c ∈ more.head?, isNameChar c = false)
    (place : ∀ word ∈ u.head?, (indexSymbol? word.token).isSome →
      (IndexSymbol.ofWord? (nameOf text)).isSome) :
    ∀ word ∈ (u ++ v).head?, (indexSymbol? word.token).isSome →
      (IndexSymbol.ofWord? (nameOf (text ++ more))).isSome := by
  rw [List.head?_append_of_ne_nil _ ne, nameOf_stop stops]
  exact place

/-! ## Keywords -/

theorem isUpper_of_upper {word : List Char} {keyword : String}
    (e : String.ofList (word.map Char.toUpper) = keyword)
    (upper : ∀ d ∈ keyword.toList, d.isUpper) : ∀ c ∈ word, c.toUpper.isUpper := by
  intro c mem
  refine upper _ ?_
  rw [← e, String.toList_ofList]
  exact List.mem_map_of_mem mem

/-- Keywords consist of letters. -/
theorem isUpper_of_keyword {word : String} (h : (Token.ofKeyword? word).isSome) :
    ∀ c ∈ word.toList, c.toUpper.isUpper := by
  unfold Token.ofKeyword? at h
  split at h <;> first
    | rename_i e
      exact isUpper_of_upper e (List.all_eq_true.mp (by decide))
    | cases h

/-- No keyword is a word for a place. -/
theorem not_place_of_keyword {word : String} (h : (Token.ofKeyword? word).isSome) :
    IndexSymbol.ofWord? word = none := by
  unfold Token.ofKeyword? at h
  unfold IndexSymbol.ofWord?
  split at h <;> first
    | rename_i e
      rw [e]
      rfl
    | cases h

/-- A word for a place is a name. -/
theorem nameOf_place {word : String} (h : (IndexSymbol.ofWord? word).isSome) :
    nameOf word.toList = word := by
  have upper : ∀ c ∈ word.toList, c.toUpper.isUpper := by
    unfold IndexSymbol.ofWord? at h
    split at h <;> first
      | rename_i e
        exact isUpper_of_upper e (List.all_eq_true.mp (by decide))
      | cases h
  have all : ∀ c ∈ word.toList, isNameChar c := by
    intro c mem
    have letter := isAlpha_of_toUpper (upper c mem)
    simp [isNameChar, isAlphanumeric, isAscii_of_isAlpha letter, Char.isAlphanum, letter]
  have read : nameOf (word.toList ++ []) = word := nameOf_append all rfl
  rwa [List.append_nil] at read

/-! ## Segments -/

theorem not_keyword_at {name : List Char} (h : (Token.ofKeyword? (String.ofList ('@' :: name))).isSome) :
    False := by
  have upper := isUpper_of_keyword h '@' (by simp)
  cases upper

/-- What a segment is read as, behind a point or at the beginning of a key path. -/
theorem segment_word {behindPoint : Bool} {segment : String}
    (h : Expr.isSegment behindPoint segment) (p : Nat) {rest : List Char}
    (boundary : isBoundary rest) :
    ∃ token p', Passes p ((Expr.segmentText segment).toList ++ rest) [⟨p, token⟩] p' rest ∧
      ((∃ name, token = .atIdentifier name ∧ segment = "@" ++ name) ∨ token = .identifier segment
        ∨ behindPoint ∧ token = .self ∧ segment = "SELF") := by
  unfold Expr.isSegment at h
  split at h
  · rename_i name chars
    obtain rfl : segment = String.ofList ('@' :: name) := by rw [← chars, String.ofList_toList]
    rw [Bool.and_eq_true, Bool.not_eq_true', List.all_eq_true] at h
    have ne : String.ofList name ≠ "" := by
      intro e
      rw [String.ofList_eq_empty_iff] at e
      simp [e] at h
    obtain ⟨p', passes⟩ := Passes.operator (p := p) ne (by simpa using h.2) boundary
    have text : Expr.segmentText (String.ofList ('@' :: name)) = String.ofList ('@' :: name) := by
      unfold Expr.segmentText
      split
      · rfl
      · rfl
      · rename_i e
        exact (not_keyword_at (Option.isSome_of_eq_some e)).elim
    refine ⟨_, p', ?_, .inl ⟨String.ofList name, rfl, ?_⟩⟩
    · rw [text]
      simpa using passes
    · rw [← String.toList_inj]
      simp
  · rw [Bool.and_eq_true, Bool.or_eq_true, decide_eq_true_eq, Bool.and_eq_true,
      decide_eq_true_eq] at h
    obtain ⟨isName, word⟩ := h
    obtain ⟨c, tail, chars, -, all⟩ := isName_iff.mp isName
    have ne : segment ≠ "" := by
      rintro rfl
      cases chars
    cases keyword : Token.ofKeyword? segment with
    | none =>
      have text : Expr.segmentText segment = segment := by rw [Expr.segmentText, keyword]
      obtain ⟨p', passes⟩ := Passes.name (p := p) isName boundary
      rw [keyword] at passes
      exact ⟨_, p', by rw [text]; exact passes, .inr (.inl rfl)⟩
    | some token =>
      by_cases self : token = .self
      · obtain rfl := self
        rcases word with other | ⟨behind, rfl⟩
        · exact absurd keyword other
        · obtain ⟨p', passes⟩ := Passes.name (p := p) isName boundary
          exact ⟨_, p', passes, .inr (.inr ⟨behind, rfl, rfl⟩)⟩
      · have text : Expr.segmentText segment = "#" ++ segment := by
          unfold Expr.segmentText
          rw [keyword]
          cases token <;> first | rfl | exact absurd rfl self
        obtain ⟨p', passes⟩ := Passes.marked (p := p) ne (chars ▸ all) boundary
        exact ⟨_, p', by rw [text]; simpa using passes, .inr (.inl rfl)⟩

/-! ## Segments behind points -/

/-- Navigation from an expression along one segment more. -/
def navigate (e : Expr) (segment : String) : Expr :=
  match e with
  | .path before => .path (before ++ "." ++ segment)
  | .pathOn operand before => .pathOn operand (before ++ "." ++ segment)
  | operand => .pathOn operand segment

theorem dot_path (position : Nat) (e : Expr) (segment : String) :
    Expr.dot position e (.path segment) = .ok (navigate e segment) := by
  cases e <;> rfl

/-- Segments as they stand behind what they navigate from. -/
def pointed (segments : List String) : List Char :=
  segments.flatMap fun segment => '.' :: (Expr.segmentText segment).toList

theorem pointed_cons (segment : String) (segments : List String) :
    pointed (segment :: segments)
      = '.' :: ((Expr.segmentText segment).toList ++ pointed segments) := rfl

/-- A segment does not begin with a digit, which would be taken for a fraction. -/
theorem not_digit_of_segment {behindPoint : Bool} {segment : String}
    (h : Expr.isSegment behindPoint segment) :
    ∃ c text, (Expr.segmentText segment).toList = c :: text ∧ c.isDigit = false := by
  unfold Expr.isSegment at h
  unfold Expr.segmentText
  split at h
  · rename_i name chars
    split
    · exact ⟨'@', name, chars, by decide⟩
    · exact ⟨'@', name, chars, by decide⟩
    · exact ⟨'#', segment.toList, by simp, by decide⟩
  · rw [Bool.and_eq_true] at h
    obtain ⟨c, tail, chars, start, -⟩ := isName_iff.mp h.1
    have no_digit : c.isDigit = false := by
      rw [Bool.eq_false_iff]
      intro digit
      rw [not_isNameStart_of_isDigit digit] at start
      cases start
    split
    · exact ⟨c, tail, chars, no_digit⟩
    · exact ⟨c, tail, chars, no_digit⟩
    · exact ⟨'#', segment.toList, by simp, by decide⟩

theorem isBoundary_pointed {segments : List String}
    (h : ∀ segment ∈ segments, Expr.isSegment true segment) {rest : List Char}
    (boundary : isBoundary rest) : isBoundary (pointed segments ++ rest) := by
  cases segments with
  | nil => exact boundary
  | cons segment segments =>
    obtain ⟨c, text, chars, no_digit⟩ := not_digit_of_segment (h segment List.mem_cons_self)
    rw [pointed_cons, chars]
    simp [isBoundary, no_digit]

/-- What stands behind a point is a segment. -/
theorem segment_derives {segment : String} (h : Expr.isSegment true segment) (p : Nat)
    {rest : List Char} (boundary : isBoundary rest) :
    ∃ w p', Passes p ((Expr.segmentText segment).toList ++ rest) w p' rest ∧
      Derives noArguments .segment w [.expr (.path segment)] := by
  obtain ⟨token, p', passes, word⟩ := segment_word h p boundary
  refine ⟨_, p', passes, ?_⟩
  rcases word with ⟨name, rfl, rfl⟩ | rfl | ⟨-, rfl, rfl⟩
  · exact .primary_segment (.leaf rfl (Production.makes_iff.mpr ⟨rfl, rfl⟩))
  · exact .named_segment rfl (Production.makes_iff.mpr ⟨rfl, rfl⟩)
  · exact .self_segment rfl (Production.makes_iff.mpr ⟨rfl, rfl⟩)

/-- Segments behind an expression extend it one after the other. -/
theorem Spells.pointed {e : Expr} {segments : List String}
    (h : Spells text .navigation [.expr e])
    (all : ∀ segment ∈ segments, Expr.isSegment true segment) :
    Spells (text ++ pointed segments) .navigation [.expr (segments.foldl navigate e)] := by
  induction segments generalizing text e with
  | nil => simpa [Grammar.pointed] using h
  | cons segment segments ih =>
    have others : ∀ s ∈ segments, Expr.isSegment true s := fun s mem =>
      all s (List.mem_cons_of_mem _ mem)
    have first := all segment List.mem_cons_self
    have extended : Spells (text ++ '.' :: (Expr.segmentText segment).toList) .navigation
        [.expr (navigate e segment)] := by
      intro p rest boundary
      have single : ∀ s ∈ [segment], Expr.isSegment true s := by simpa using first
      have stop : isBoundary ('.' :: ((Expr.segmentText segment).toList ++ rest)) := by
        simpa [Grammar.pointed] using isBoundary_pointed single boundary
      obtain ⟨u, p₁, passes, derives, place⟩ := h p _ stop
      obtain ⟨p₂, point⟩ : ∃ p₂, Passes p₁ ('.' :: ((Expr.segmentText segment).toList ++ rest))
          [⟨p₁, .dot⟩] p₂ _ := Passes.sign rfl
      obtain ⟨v, p₃, passes', derives'⟩ := segment_derives first p₂ boundary
      have made : Production.Makes noArguments p₁ .dot
          ([Operand.expr e] ++ [Operand.expr (.path segment)]) (.expr (navigate e segment)) :=
        Production.makes_iff.mpr ⟨rfl, by simp [Production.make, dot_path, Except.map]⟩
      refine ⟨u ++ ⟨p₁, .dot⟩ :: v, p₃, ?_, .dot derives rfl derives' made,
        place_append (derives.ne_nil (by simp)) (by rintro _ ⟨⟩; decide) place⟩
      simpa using passes.trans (point.trans passes')
    have all_of_them := ih extended others
    rwa [List.append_assoc, List.cons_append, ← pointed_cons] at all_of_them

/-! ## Key paths -/

theorem toList_pathText {path first : String} {others : List String}
    (cut : split '.' path = first :: others) :
    (Expr.pathText path).toList = (Expr.segmentText first).toList ++ pointed others := by
  rw [Expr.pathText, cut, List.map_cons, toList_join_cons, List.flatMap_map]
  rfl

/-- Further segments join what a key path consists of. -/
theorem foldl_navigate (form : String → Expr)
    (extends' : ∀ before segment, navigate (form before) segment = form (before ++ "." ++ segment))
    (before : String) (segments : List String) :
    segments.foldl navigate (form before) = form (join "." (before :: segments)) := by
  induction segments generalizing before with
  | nil => simp [join]
  | cons segment segments ih =>
    have joined : join "." ((before ++ "." ++ segment) :: segments)
        = join "." (before :: segment :: segments) := by
      rw [← String.toList_inj]
      simp [toList_join_cons]
    rw [List.foldl_cons, extends', ih, joined]

/-- A key path at the beginning. -/
theorem spells_path {path : String} (h : Expr.isKeyPath false path) :
    Spells (Expr.pathText path).toList .navigation [.expr (.path path)] := by
  unfold Expr.isKeyPath at h
  split at h
  · cases h
  · rename_i first others cut
    rw [Bool.and_eq_true, List.all_eq_true] at h
    obtain ⟨isFirst, all⟩ := h
    have head : Spells (Expr.segmentText first).toList .navigation [.expr (.path first)] := by
      intro p rest boundary
      obtain ⟨token, p', passes, word⟩ := segment_word isFirst p boundary
      refine ⟨_, p', passes, ?_, ?_⟩
      · rcases word with ⟨name, rfl, rfl⟩ | rfl | ⟨behind, -⟩
        · exact .primary_navigation (.leaf rfl (Production.makes_iff.mpr ⟨rfl, rfl⟩))
        · exact .primary_navigation (.name rfl (Production.makes_iff.mpr ⟨rfl, rfl⟩))
        · cases behind
      · rintro _ ⟨⟩ symbol
        rcases word with ⟨name, rfl, rfl⟩ | rfl | ⟨behind, -⟩
        · cases symbol
        · have plain : Expr.segmentText first = first := by
            unfold Expr.segmentText
            split
            · rfl
            · rfl
            · rename_i keyword
              have none := not_place_of_keyword (Option.isSome_of_eq_some keyword)
              simp [indexSymbol?, none] at symbol
          rw [plain, nameOf_place symbol]
          exact symbol
        · cases behind
    have whole := head.pointed all
    rwa [foldl_navigate .path (fun _ _ => rfl), ← cut, join_split,
      ← toList_pathText cut] at whole

/-- A key path behind an expression that is none itself. -/
theorem spells_pathOn {operand : Expr} {path : String}
    (h : Spells text .navigation [.expr operand]) (no_path : operand.isPath = false)
    (isPath : Expr.isKeyPath true path) :
    Spells (text ++ '.' :: (Expr.pathText path).toList) .navigation
      [.expr (.pathOn operand path)] := by
  unfold Expr.isKeyPath at isPath
  split at isPath
  · cases isPath
  · rename_i first others cut
    rw [Bool.and_eq_true, List.all_eq_true] at isPath
    have all : ∀ s ∈ first :: others, Expr.isSegment true s := by simpa using isPath
    have whole := h.pointed all
    have start : navigate operand first = .pathOn operand first := by
      cases operand <;> first | rfl | cases no_path
    rw [List.foldl_cons, start, foldl_navigate (.pathOn operand) (fun _ _ => rfl),
      pointed_cons, ← toList_pathText cut] at whole
    rwa [← cut, join_split] at whole

end PredicateLang.Grammar
