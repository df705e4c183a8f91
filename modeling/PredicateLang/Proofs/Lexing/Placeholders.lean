import Mathlib.Data.List.TakeWhile
import PredicateLang.Proofs.Lexing

/-!
# Counting placeholders before parsing

Arguments are counted by a scan of the text that knows nothing of tokens but where strings begin
and end. It finds the placeholders that the lexer finds: every token is passed by the scan as a
whole, and its percent sign is reported exactly if the token is a placeholder.
-/

namespace PredicateLang.Lexing

open PredicateLang.Text

variable {c : Char} {p : Nat} {text rest rest' : List Char} {t : Token}

/-- What the scan finds outside of strings. -/
abbrev scan (p : Nat) (text : List Char) : List Nat := placeholderOffsetsFrom none false p text

/-! ## Characters that the scan takes no notice of -/

/-- The characters that change what the scan does. -/
def noticed : List Char := ['\x27', '\x22', '%']

theorem scan_cons (h : c ∉ noticed) : scan p (c :: rest) = scan (p + 1) rest := by
  simp only [noticed, List.mem_cons, List.not_mem_nil, or_false, not_or] at h
  simp [scan, placeholderOffsetsFrom, h]

theorem scan_append {w : List Char} (h : ∀ c ∈ w, c ∉ noticed) :
    scan p (w ++ rest) = scan (p + w.length) rest := by
  induction w generalizing p with
  | nil => rfl
  | cons c w ih =>
    rw [List.cons_append, scan_cons (h c List.mem_cons_self),
      ih fun d mem => h d (List.mem_cons_of_mem _ mem), List.length_cons]
    congr 1
    omega

theorem not_noticed_of {q : Char → Bool} (none : ∀ d ∈ noticed, q d = false) (h : q c) :
    c ∉ noticed := by
  intro mem
  rw [none c mem] at h
  cases h

/-- The scan passes over characters with a property that none of the noticed ones has. -/
theorem scan_dropWhile {q : Char → Bool} (none : ∀ d ∈ noticed, q d = false) :
    scan p text = scan (p + (text.length - (text.dropWhile q).length)) (text.dropWhile q) := by
  have all : ∀ c ∈ text.takeWhile q, c ∉ noticed := fun c mem =>
    not_noticed_of none (List.mem_takeWhile_imp mem)
  have whole : text.takeWhile q ++ text.dropWhile q = text := List.takeWhile_append_dropWhile
  have lengths : (text.takeWhile q).length + (text.dropWhile q).length = text.length := by
    rw [← List.length_append, whole]
  have position : text.length - (text.dropWhile q).length = (text.takeWhile q).length := by omega
  have passed : scan p (text.takeWhile q ++ text.dropWhile q) = _ := scan_append all
  rw [whole] at passed
  rw [passed, position]

/-! ## Strings -/

theorem scan_quoted {quote : Char} (other : c ≠ quote) (plain : c ≠ '\\') :
    placeholderOffsetsFrom (some quote) false p (c :: text)
      = placeholderOffsetsFrom (some quote) false (p + 1) text := by
  simp [placeholderOffsetsFrom, other, plain]

theorem scan_escaped {quote : Char} :
    placeholderOffsetsFrom (some quote) false p ('\\' :: c :: text)
      = placeholderOffsetsFrom (some quote) false (p + 2) text := by
  simp [placeholderOffsetsFrom]

/-- In a string the scan goes with the reader, up to the closing quotation mark. -/
theorem scan_string {quote : Char} {start position : Nat} {read : List Char}
    (mark : quote ≠ '\\')
    (h : readString quote start position read text = .ok (t, rest)) (p : Nat) :
    placeholderOffsetsFrom (some quote) false p text
      = scan (p + (text.length - rest.length)) rest := by
  fun_induction readString quote start position read text generalizing p with
  | case1 => cases h
  | case2 position read tail =>
    cases h
    rw [placeholderOffsetsFrom, List.length_cons]
    simp [mark]
  | case3 => cases h
  | case4 position read e tail c _ _ ih =>
    have shorter := readString_length h
    rw [scan_escaped, ih h, List.length_cons, List.length_cons]
    congr 1
    omega
  | case5 => cases h
  | case6 position read tail other ih =>
    have shorter := readString_length h
    rw [scan_quoted other (by decide), scan_quoted other (by decide), ih h, List.length_cons,
      List.length_cons]
    congr 1
    omega
  | case7 position read c tail no_end no_escape _ other ih =>
    have shorter := readString_length h
    have plain : c ≠ '\\' := by
      intro e
      cases tail with
      | nil => exact no_end e rfl
      | cons d tail => exact no_escape d tail e rfl
    rw [scan_quoted other plain, ih h, List.length_cons]
    congr 1
    omega

theorem readString_token {quote : Char} {start position : Nat} {read : List Char}
    (h : readString quote start position read text = .ok (t, rest)) : ∃ s, t = .string s := by
  fun_induction readString quote start position read text with
  | case2 => cases h; exact ⟨_, rfl⟩
  | case4 _ _ _ _ _ _ _ ih | case6 _ _ _ _ ih | case7 _ _ _ _ _ _ _ _ ih => exact ih h
  | _ => cases h

/-! ## Numbers -/

theorem fractionOf_starts (text : List Char) : fractionOf text <+: text := by
  unfold fractionOf
  split
  · rename_i d rest
    split
    · rename_i digit
      have := List.takeWhile_prefix Char.isDigit (l := rest)
      simpa [List.cons_prefix_cons] using this
    · exact List.nil_prefix
  · exact List.nil_prefix

theorem exponentOf_starts (text : List Char) : exponentOf text <+: text := by
  unfold exponentOf
  split
  · rename_i mark sign d rest
    split
    · split
      · simpa [List.cons_prefix_cons] using List.takeWhile_prefix Char.isDigit (l := d :: rest)
      · split
        · simpa [List.cons_prefix_cons] using List.takeWhile_prefix Char.isDigit (l := rest)
        · exact List.nil_prefix
    · exact List.nil_prefix
  · split
    · exact List.prefix_refl _
    · exact List.nil_prefix
  · exact List.nil_prefix

/-- The characters that numbers consist of. -/
def isNumberChar (c : Char) : Bool := c.isDigit || ['.', 'e', 'E', '+', '-'].contains c

theorem isNumberChar_of_isDigit (h : c.isDigit) : isNumberChar c := by
  rw [isNumberChar, h, Bool.true_or]

theorem isNumberChar_digits (text : List Char) :
    ∀ c ∈ text.takeWhile Char.isDigit, isNumberChar c :=
  fun _ mem => isNumberChar_of_isDigit (List.mem_takeWhile_imp mem)

theorem fractionOf_chars (text : List Char) : ∀ c ∈ fractionOf text, isNumberChar c := by
  unfold fractionOf
  split
  · rename_i d rest
    split
    · rename_i digit
      simp only [List.forall_mem_cons]
      exact ⟨by decide, isNumberChar_of_isDigit digit, isNumberChar_digits rest⟩
    · nofun
  · nofun

theorem exponentOf_chars (text : List Char) : ∀ c ∈ exponentOf text, isNumberChar c := by
  have marks : ∀ {c}, c = 'e' ∨ c = 'E' → isNumberChar c := by
    rintro c (rfl | rfl) <;> decide
  have signs : ∀ {c}, c = '+' ∨ c = '-' → isNumberChar c := by
    rintro c (rfl | rfl) <;> decide
  unfold exponentOf
  split
  · rename_i mark sign d rest
    split
    · rename_i e
      split
      · rename_i digit
        simp only [List.forall_mem_cons]
        exact ⟨marks e, isNumberChar_of_isDigit digit, isNumberChar_digits _⟩
      · split
        · rename_i signed
          simp only [List.forall_mem_cons]
          exact ⟨marks e, signs signed.1, isNumberChar_of_isDigit signed.2, isNumberChar_digits _⟩
        · nofun
    · nofun
  · rename_i mark d
    split
    · rename_i e
      simp only [List.forall_mem_cons]
      exact ⟨marks e.1, isNumberChar_of_isDigit e.2, nofun⟩
    · nofun
  · nofun

/-- A number is read off the front of the text, and consists of the characters of numbers. -/
theorem readNumber_chars (h : readNumber p text = .ok (t, rest)) :
    ∃ w, text = w ++ rest ∧ ∀ c ∈ w, isNumberChar c := by
  have whole : text.takeWhile Char.isDigit ++ text.dropWhile Char.isDigit = text :=
    List.takeWhile_append_dropWhile
  have fraction := List.prefix_iff_eq_append.mp (fractionOf_starts (text.dropWhile Char.isDigit))
  have power := List.prefix_iff_eq_append.mp (exponentOf_starts
    ((text.dropWhile Char.isDigit).drop (fractionOf (text.dropWhile Char.isDigit)).length))
  refine ⟨text.takeWhile Char.isDigit ++ fractionOf (text.dropWhile Char.isDigit)
    ++ exponentOf ((text.dropWhile Char.isDigit).drop
      (fractionOf (text.dropWhile Char.isDigit)).length), ?_, ?_⟩
  · have left : rest = ((text.dropWhile Char.isDigit).drop
        (fractionOf (text.dropWhile Char.isDigit)).length).drop (exponentOf
          ((text.dropWhile Char.isDigit).drop
            (fractionOf (text.dropWhile Char.isDigit)).length)).length := by
      simp only [readNumber] at h
      split at h
      · split at h
        · split at h <;> cases h
          rfl
        · cases h
      · cases h
        rfl
    rw [left, List.append_assoc, List.append_assoc, power, fraction, whole]
  · simp only [List.forall_mem_append]
    exact ⟨⟨isNumberChar_digits text, fractionOf_chars _⟩, exponentOf_chars _⟩

theorem readNumber_token (h : readNumber p text = .ok (t, rest)) :
    (∃ n, t = .integer n) ∨ ∃ x, t = .double x := by
  simp only [readNumber] at h
  split at h
  · split at h
    · split at h <;> cases h
      exact .inl ⟨_, rfl⟩
    · cases h
  · cases h
    exact .inr ⟨_, rfl⟩

/-! ## Placeholders -/

theorem isConversion_of_noticed : ∀ d ∈ noticed, isConversion d = false :=
  forall_mem_of_all (by decide)

/-- The letters that give a length are passed. -/
theorem scan_afterLength : scan p text = scan (p + (text.length - (afterLength text).length))
    (afterLength text) := by
  fun_induction afterLength text generalizing p with
  | case1 c d rest letter ih =>
    have le := length_afterLength_le (d :: rest)
    have plain : c ∉ noticed := by
      rcases letter.1 with rfl | rfl | rfl <;> decide
    rw [scan_cons plain, ih]
    simp only [List.length_cons] at *
    congr 1
    omega
  | case2 => simp
  | case3 => simp

theorem afterLength_eq_self (h : isConversion c = false) : afterLength (c :: rest) = c :: rest := by
  cases rest with
  | nil => rfl
  | cons d rest =>
    refine if_neg ?_
    rintro ⟨rfl | rfl | rfl, -⟩ <;> exact absurd h (by decide)

/-- A placeholder begins with a character that a conversion can be. -/
theorem isConversion_head (h : readPlaceholder p text = .ok (t, rest)) :
    ∃ c tail, text = c :: tail ∧ isConversion c := by
  unfold readPlaceholder at h
  cases text with
  | nil => cases h
  | cons c tail =>
    refine ⟨c, tail, rfl, ?_⟩
    by_contra no
    rw [Bool.not_eq_true] at no
    rw [afterLength_eq_self no] at h
    dsimp only at h
    rw [no, if_neg nofun] at h
    split at h <;> cases h

theorem scan_placeholder {start : Nat} (h : readPlaceholder start text = .ok (t, rest)) :
    (∃ conversion, t = .placeholder conversion) ∧
      scan p ('%' :: text) = p :: scan (p + (text.length + 1 - rest.length)) rest := by
  obtain ⟨first, tail, rfl, conversion⟩ := isConversion_head h
  have no_percent : first ≠ '%' := by
    rintro rfl
    cases conversion
  have le := length_afterLength_le (first :: tail)
  have opened : scan p ('%' :: first :: tail) = p :: scan (p + 1) (first :: tail) := by
    simp [scan, placeholderOffsetsFrom, no_percent, conversion]
  rw [opened, scan_afterLength]
  unfold readPlaceholder at h
  cases left : afterLength (first :: tail) with
  | nil => rw [left] at h; cases h
  | cons c after =>
    rw [left] at h le
    dsimp only at h
    split at h
    · rename_i letter
      cases h
      refine ⟨⟨c, rfl⟩, ?_⟩
      rw [scan_cons (not_noticed_of isConversion_of_noticed letter)]
      simp only [List.length_cons] at *
      congr 2
      omega
    · split at h <;> cases h

/-! ## Tokens -/

/-- The placeholder that a word is. -/
def placeholder? (word : Lexeme) : Option Nat :=
  match word.token with
  | .placeholder _ => some word.start
  | _ => none

theorem scan_passed {w : List Char} (plain : ∀ c ∈ w, c ∉ noticed) (e : text = w ++ rest) :
    scan p text = scan (p + (text.length - rest.length)) rest := by
  rw [e, scan_append plain, List.length_append, Nat.add_sub_cancel]

theorem readSign_chars (h : readSign text = some (t, rest)) :
    (∃ w, text = w ++ rest ∧ ∀ c ∈ w, c ∈ signChars) ∧ ∀ p, placeholder? ⟨p, t⟩ = none := by
  unfold readSign at h
  split at h <;> cases h <;> refine ⟨?_, fun _ => rfl⟩ <;> first
    | exact ⟨[_], rfl, by simp [signChars]⟩
    | exact ⟨[_, _], rfl, by simp [signChars]⟩

theorem scan_afterName : scan p text
    = scan (p + (text.length - (afterName text).length)) (afterName text) := by
  have names : ∀ d ∈ noticed, isNameChar d = false := forall_mem_of_all (by decide)
  exact scan_dropWhile names

/-- A name after a sign. -/
theorem scan_signed (plain : c ∉ noticed) : scan p (c :: rest)
    = scan (p + (rest.length + 1 - (afterName rest).length)) (afterName rest) := by
  have le : (afterName rest).length ≤ rest.length := length_dropWhile_le isNameChar rest
  rw [scan_cons plain, scan_afterName]
  congr 1
  omega

theorem readSigned_eq {start : Nat} {sign : Char} {token : String → Token}
    (h : readSigned start sign token text = .ok (t, rest)) :
    t = token (nameOf text) ∧ rest = afterName text := by
  unfold readSigned at h
  split at h
  · cases h
  · cases h
    exact ⟨rfl, rfl⟩

theorem placeholder?_name (name : String) :
    placeholder? ⟨p, (Token.ofKeyword? name).getD (.identifier name)⟩ = none := by
  unfold Token.ofKeyword?
  split <;> rfl

/-- The scan passes a token as a whole, and reports where it is if it is a placeholder. -/
theorem scan_token {start : Nat} (h : readToken start c rest = .ok (t, rest')) :
    scan p (c :: rest)
      = (placeholder? ⟨p, t⟩).toList ++ scan (p + (rest.length + 1 - rest'.length)) rest' := by
  unfold readToken at h
  split at h
  · rename_i signed e
    cases h
    obtain ⟨⟨w, chars, signs⟩, none⟩ := readSign_chars e
    have plain : ∀ d ∈ w, d ∉ noticed := fun d mem =>
      (by simp [signChars, noticed] : ∀ d ∈ signChars, d ∉ noticed) d (signs d mem)
    rw [none, scan_passed plain chars]
    rfl
  split at h
  · rename_i dollar
    split at h
    · cases h
      exact scan_signed (by rw [dollar]; decide)
    · cases h
  split at h
  · rename_i hash
    obtain ⟨rfl, rfl⟩ := readSigned_eq h
    exact scan_signed (by rw [hash]; decide)
  split at h
  · rename_i at_
    obtain ⟨rfl, rfl⟩ := readSigned_eq h
    exact scan_signed (by rw [at_]; decide)
  split at h
  · rename_i percent
    obtain ⟨⟨conversion, rfl⟩, scanned⟩ := scan_placeholder (p := p) h
    rw [percent, scanned]
    rfl
  split at h
  · cases h
  split at h
  · rename_i mark
    obtain ⟨s, rfl⟩ := readString_token h
    have shorter := readString_length h
    have opened : scan p (c :: rest) = placeholderOffsetsFrom (some c) false (p + 1) rest := by
      rcases mark with rfl | rfl <;> rfl
    have backslash : c ≠ '\\' := by rcases mark with rfl | rfl <;> decide
    rw [opened, scan_string backslash h]
    show scan _ rest' = [] ++ scan _ rest'
    congr 1
    omega
  split at h
  · rename_i letter
    cases h
    rw [placeholder?_name, scan_afterName]
    rfl
  split at h
  · obtain ⟨w, chars, numeric⟩ := readNumber_chars h
    have plain : ∀ d ∈ w, d ∉ noticed := fun d mem =>
      not_noticed_of (forall_mem_of_all (by decide)) (numeric d mem)
    rw [scan_passed plain chars]
    rcases readNumber_token h with ⟨n, rfl⟩ | ⟨x, rfl⟩ <;> rfl
  · cases h

/-! ## Texts -/

/-- The placeholders of a text. -/
def placeholders (lexing : Lexing) : List Nat := lexing.lexemes.filterMap placeholder?

theorem placeholders_cons (word : Lexeme) (lexemes : List Lexeme) (fault : Option LexicalError) :
    placeholders ⟨word :: lexemes, fault⟩
      = (placeholder? word).toList ++ placeholders ⟨lexemes, fault⟩ := by
  unfold placeholders
  cases e : placeholder? word <;> simp [e]

/-- The scan reports the placeholders up to the first fault first, and no others if there is no
fault. -/
theorem scan_eq (p : Nat) (text : List Char) :
    (ofChars p text).placeholders <+: scan p text
      ∧ ((ofChars p text).fault = none → (ofChars p text).placeholders = scan p text) := by
  have skipped : ∀ {q text}, scan q text
      = scan (q + (text.length - (text.dropWhile isWhiteSpace).length))
        (text.dropWhile isWhiteSpace) := scan_dropWhile (forall_mem_of_all (by decide))
  fun_induction ofChars p text with
  | case1 p text ends =>
    have nothing : scan p text = [] := by rw [skipped, ends]; rfl
    rw [nothing]
    exact ⟨List.prefix_refl _, fun _ => rfl⟩
  | case2 => exact ⟨List.nil_prefix, nofun⟩
  | case3 p text c rest first start t rest' read following ih =>
    have le : rest.length + 1 ≤ text.length := by
      have := length_dropWhile_le isWhiteSpace text
      rwa [first] at this
    have shorter : rest'.length < rest.length + 1 := readToken_length read
    have scanned : scan p text = (placeholder? ⟨start, t⟩).toList
        ++ scan (p + (text.length - rest'.length)) rest' := by
      rw [skipped, first, List.length_cons, scan_token read]
      congr 2
      omega
    rw [placeholders_cons, scanned]
    exact ⟨(List.prefix_append_right_inj _).mpr ih.1, fun ok => congrArg _ (ih.2 ok)⟩

end PredicateLang.Lexing
