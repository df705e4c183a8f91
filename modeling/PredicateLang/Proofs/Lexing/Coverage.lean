import PredicateLang.Proofs.Lexing.Placeholders

/-!
# The whole text is read

The lexer is called for one token after the other (`next`). A call skips white space and takes
characters off the front of what is left: a token, and then at least one, or nothing at all at the
end. So calls that follow one another tile the text with gaps and tokens, and there are no more of
them than characters before the end is reached or a fault is found; `lex` makes just these calls.

One call reads a quoted string back, whatever the string and whatever follows it, and stops right
behind the closing quotation mark. The scan for placeholders passes over the same characters without
a report (`quote_round_trip`).
-/

namespace PredicateLang.Lexing

open PredicateLang.Text

variable {c quote : Char} {p p' start position : Nat} {text rest rest' read : List Char} {t : Token}
  {e : LexicalError}

/-! ## Tokens -/

/-- What comes of reading at the front of a text: a token, which is not the end and takes at least
one character, or a fault at one of the characters. -/
inductive Takes (p : Nat) (text : List Char) : Except LexicalError (Token × List Char) → Prop where
  | token {t : Token} {rest : List Char} (suffix : rest <:+ text)
    (shorter : rest.length < text.length) (more : t ≠ .eof) : Takes p text (.ok (t, rest))
  | fault {e : LexicalError} (le : p ≤ e.position) (lt : e.position < p + text.length) :
    Takes p text (.error e)

namespace Takes

/-- A token that goes on behind its first character. -/
theorem behind (suffix : rest' <:+ rest) (more : t ≠ .eof) :
    Takes p (c :: rest) (.ok (t, rest')) :=
  .token (suffix.trans (List.suffix_cons c rest)) (Nat.lt_succ_of_le suffix.length_le) more

/-- A fault at the first character. -/
theorem here (fault : LexicalFault) : Takes p (c :: rest) (.error ⟨p, fault⟩) :=
  .fault (Nat.le_refl p) (Nat.lt_add_of_pos_right (Nat.succ_pos rest.length))

end Takes

theorem takes_sign (h : readSign text = some (t, rest)) : Takes p text (.ok (t, rest)) := by
  obtain ⟨⟨w, rfl, -⟩, -⟩ := readSign_chars h
  refine .token (List.suffix_append w rest) (readSign_length h) ?_
  unfold readSign at h
  split at h <;> cases h <;> nofun

theorem takes_name (letter : isNameChar c) :
    Takes p (c :: rest) (.ok ((Token.ofKeyword? (nameOf (c :: rest))).getD
      (.identifier (nameOf (c :: rest))), afterName (c :: rest))) := by
  refine .token (List.dropWhile_suffix isNameChar) (length_afterName_lt letter) ?_
  unfold Token.ofKeyword?
  split <;> nofun

theorem takes_readSigned {sign : Char} {token : String → Token} (more : ∀ name, token name ≠ .eof) :
    Takes start (c :: rest) (readSigned start sign token rest) := by
  unfold readSigned
  split
  · exact .here _
  · exact .behind (List.dropWhile_suffix isNameChar) (more _)

theorem afterLength_suffix (text : List Char) : afterLength text <:+ text := by
  fun_induction afterLength text with
  | case1 c d rest letter ih => exact ih.trans (List.suffix_cons c (d :: rest))
  | _ => exact List.suffix_refl _

theorem takes_readPlaceholder : Takes start (c :: rest) (readPlaceholder start rest) := by
  have suffix := afterLength_suffix rest
  unfold readPlaceholder
  split
  · rename_i d after left
    rw [left] at suffix
    split_ifs
    · exact .behind ((List.suffix_cons d after).trans suffix) nofun
    · exact .here _
    · exact .here _
  · exact .here _

theorem readString_suffix (h : readString quote start position read text = .ok (t, rest)) :
    rest <:+ text := by
  fun_induction readString quote start position read text with
  | case2 position read tail =>
    cases h
    exact List.suffix_cons quote _
  | case4 position read e tail c _ _ ih | case6 position read tail _ ih =>
    exact (ih h).trans ((List.suffix_cons _ tail).trans (List.suffix_cons _ _))
  | case7 position read c tail _ _ _ _ ih => exact (ih h).trans (List.suffix_cons c tail)
  | _ => cases h

/-- A string without an end is faulty at its start, and one with a wrong escape at the character
behind the backslash. -/
theorem position_readString (h : readString quote start position read text = .error e) :
    e.position = start ∨ position < e.position ∧ e.position < position + text.length := by
  fun_induction readString quote start position read text with
  | case1 | case3 =>
    cases h
    exact .inl rfl
  | case2 => cases h
  | case5 position read d tail =>
    cases h
    simp only [List.length_cons]
    omega
  | case4 _ _ _ _ _ _ _ ih | case6 _ _ _ _ ih | case7 _ _ _ _ _ _ _ _ ih =>
    have := ih h
    simp only [List.length_cons] at *
    omega

theorem takes_readString :
    Takes start (c :: rest) (readString quote start (start + 1) [] rest) := by
  cases outcome : readString quote start (start + 1) [] rest with
  | ok result =>
    obtain ⟨t, rest'⟩ := result
    obtain ⟨s, rfl⟩ := readString_token outcome
    exact .behind (readString_suffix outcome) nofun
  | error e =>
    have := position_readString outcome
    refine .fault ?_ ?_
    · omega
    · rw [List.length_cons]
      omega

theorem takes_readNumber (digit : c.isDigit) :
    Takes start (c :: rest) (readNumber start (c :: rest)) := by
  cases outcome : readNumber start (c :: rest) with
  | ok result =>
    obtain ⟨t, rest'⟩ := result
    obtain ⟨w, chars, -⟩ := readNumber_chars outcome
    refine .token ⟨w, chars.symm⟩ (readNumber_length digit outcome) ?_
    rcases readNumber_token outcome with ⟨n, rfl⟩ | ⟨x, rfl⟩ <;> nofun
  | error e =>
    simp only [readNumber] at outcome
    split_ifs at outcome
    split at outcome
    · split_ifs at outcome
      cases outcome
      exact .here _
    · cases outcome
      exact .here _

theorem takes_readToken (start : Nat) (c : Char) (rest : List Char) :
    Takes start (c :: rest) (readToken start c rest) := by
  unfold readToken
  split
  · exact takes_sign ‹_›
  split_ifs with dollar first hash at_ percent colon mark letter digit
  · exact .behind (List.dropWhile_suffix isNameChar) nofun
  · exact .here _
  · exact takes_readSigned fun _ => nofun
  · exact takes_readSigned fun _ => nofun
  · exact takes_readPlaceholder
  · exact .here _
  · exact takes_readString
  · exact takes_name (isNameChar_of_isNameStart letter)
  · exact takes_readNumber digit
  · exact .here _

/-! ## Calls -/

/-- A token with the positions of its first character and of what follows it. -/
structure Word extends Lexeme where
  stop : Nat
deriving DecidableEq

/-- The next word of a text that goes on at `p`, and what follows it. -/
def next (p : Nat) (text : List Char) : Except LexicalError (Word × List Char) :=
  match text.dropWhile isWhiteSpace with
  | [] => .ok (⟨⟨p + text.length, .eof⟩, p + text.length⟩, [])
  | c :: rest =>
    let start := p + (text.length - (rest.length + 1))
    (readToken start c rest).map fun (t, rest') =>
      (⟨⟨start, t⟩, p + (text.length - rest'.length)⟩, rest')

/-- What a call comes to: a gap and a token, the end behind white space, or a fault. -/
inductive Call (p : Nat) (text : List Char) : Except LexicalError (Word × List Char) → Prop where
  | token {gap span rest : List Char} {t : Token} (whole : text = gap ++ (span ++ rest))
    (white : ∀ c ∈ gap, isWhiteSpace c) (black : ∃ c ∈ span, isWhiteSpace c = false)
    (more : t ≠ .eof) : Call p text
      (.ok (⟨⟨p + gap.length, t⟩, p + gap.length + span.length⟩, rest))
  | ending (white : ∀ c ∈ text, isWhiteSpace c) :
    Call p text (.ok (⟨⟨p + text.length, .eof⟩, p + text.length⟩, []))
  | fault {e : LexicalError} (lt : e.position < p + text.length) : Call p text (.error e)

theorem not_white_of_dropWhile (h : text.dropWhile isWhiteSpace = c :: rest) :
    isWhiteSpace c = false := by
  have head := List.head?_dropWhile_not isWhiteSpace text
  simpa [h] using head

theorem call_next (p : Nat) (text : List Char) : Call p text (next p text) := by
  have whole : text.takeWhile isWhiteSpace ++ text.dropWhile isWhiteSpace = text :=
    List.takeWhile_append_dropWhile
  have white : ∀ c ∈ text.takeWhile isWhiteSpace, isWhiteSpace c := fun _ =>
    List.mem_takeWhile_imp
  unfold next
  split
  · rename_i left
    rw [left, List.append_nil] at whole
    exact .ending (whole ▸ white)
  · rename_i c rest left
    have black := not_white_of_dropWhile left
    rw [left] at whole
    generalize text.takeWhile isWhiteSpace = gap at whole white
    subst whole
    have start : (gap ++ c :: rest).length - (rest.length + 1) = gap.length := by simp
    have taken := takes_readToken (p + gap.length) c rest
    dsimp only
    rw [start]
    generalize readToken (p + gap.length) c rest = outcome at taken ⊢
    cases taken with
    | @token t rest' suffix shorter more =>
      -- what stands between the gap and what is left is the token, which begins with `c`
      obtain ⟨span, together⟩ := suffix
      have first : c ∈ span := by
        cases span with
        | nil =>
          rw [← together] at shorter
          exact absurd shorter (Nat.lt_irrefl _)
        | cons d span => exact (List.cons.inj together).1 ▸ List.mem_cons_self
      have stop : p + ((gap ++ c :: rest).length - rest'.length)
          = p + gap.length + span.length := by
        rw [← together]
        simp only [List.length_append]
        omega
      have called : Call p (gap ++ c :: rest)
          (.ok (⟨⟨p + gap.length, t⟩, p + gap.length + span.length⟩, rest')) :=
        .token (by rw [together]) white ⟨c, first, black⟩ more
      rw [← stop] at called
      exact called
    | fault le lt => exact .fault (by simpa [Nat.add_assoc] using lt)

/-- The lexer makes one call after the other, up to the end or a fault. -/
theorem ofChars_next (p : Nat) (text : List Char) : ofChars p text =
    match next p text with
    | .error e => ⟨[], some e⟩
    | .ok (w, rest) =>
      if w.token = .eof then ⟨[w.toLexeme], none⟩ else (ofChars w.stop rest).after [w.toLexeme] := by
  unfold next
  cases left : text.dropWhile isWhiteSpace with
  | nil => exact ofChars_end left
  | cons c rest =>
    rw [ofChars_token left]
    have taken := takes_readToken (p + (text.length - (rest.length + 1))) c rest
    dsimp only
    generalize readToken (p + (text.length - (rest.length + 1))) c rest = outcome at taken ⊢
    cases taken with
    | token _ _ more => exact (if_neg more).symm
    | fault => rfl

/-- Calls one after the other that give words: from `p`, where the text goes on, to `p'` with what is
left there. -/
inductive Calls : Nat → List Char → List Word → Nat → List Char → Prop where
  | refl (p : Nat) (text : List Char) : Calls p text [] p text
  | call {w : Word} {words : List Word} {p p' : Nat} {text rest rest' : List Char}
    (first : next p text = .ok (w, rest)) (others : Calls w.stop rest words p' rest') :
    Calls p text (w :: words) p' rest'

/-! ## Words in a text -/

/-- What is to be said of a word that is read when a text has been read up to `p`. -/
structure Word.Follows (text : List Char) (p : Nat) (w : Word) : Prop where
  le_start : p ≤ w.start
  start_le : w.start ≤ w.stop
  stop_le : w.stop ≤ text.length
  /-- There is only white space in front of it. -/
  white : ∀ c ∈ text.extract p w.start, isWhiteSpace c
  /-- It has characters unless it is the end. -/
  start_lt : w.token ≠ .eof → w.start < w.stop
  /-- It is the end if only white space is left. -/
  eof_iff : w.token = .eof ↔ ∀ c ∈ text.drop p, isWhiteSpace c

/-- Each of the words follows the one before it, the first one on what has been read up to `p`. -/
def Tiles (text : List Char) : Nat → List Word → Prop
  | _, [] => True
  | p, w :: words => w.Follows text p ∧ Tiles text w.stop words

/-- The gap in front of each word and the word itself, cut out of the text. -/
def pieces (text : List Char) : Nat → List Word → List (List Char)
  | _, [] => []
  | p, w :: words =>
    text.extract p w.start :: text.extract w.start w.stop :: pieces text w.stop words

/-- What is to be said of the words that are read from `p` up to `p'`. -/
structure Covers (text : List Char) (p : Nat) (words : List Word) (p' : Nat) : Prop where
  le : p ≤ p'
  le_length : p' ≤ text.length
  tiles : Tiles text p words
  /-- Gaps and words together are the text that has been read. -/
  whole : (pieces text p words).flatten = text.extract p p'
  /-- There are no more words than characters, the end apart. -/
  count : p + words.countP (·.token ≠ .eof) ≤ p'

variable {w : Word} {words : List Word}

/-! ### One call -/

/-- A word follows on what has been read before, and leaves what stands behind it. -/
theorem follows_of_next (le : p ≤ text.length) (h : next p (text.drop p) = .ok (w, rest)) :
    w.Follows text p ∧ rest = text.drop w.stop := by
  have called := call_next p (text.drop p)
  rw [h] at called
  have left : (text.drop p).length = text.length - p := List.length_drop
  cases called with
  | @token gap span _ t whole white black more =>
    rw [whole, List.length_append, List.length_append] at left
    obtain ⟨c, mem, dark⟩ := black
    have some : 0 < span.length := List.length_pos_of_mem mem
    refine ⟨
      { le_start := Nat.le_add_right p _
        start_le := Nat.le_add_right _ _
        stop_le := by dsimp only; omega
        white := ?_
        start_lt := fun _ => Nat.lt_add_of_pos_right some
        eof_iff := iff_of_false more fun all => ?_ }, ?_⟩
    · rw [List.extract_eq_take_drop, whole, Nat.add_sub_cancel_left, List.take_left]
      exact white
    · -- the token has a character that is not white, and it is still to be read
      rw [whole] at all
      have light := all c (List.mem_append_right _ (List.mem_append_left _ mem))
      rw [dark] at light
      cases light
    · rw [Nat.add_assoc, ← List.drop_drop, whole, ← List.append_assoc, ← List.length_append,
        List.drop_left]
  | ending white =>
    rw [left, Nat.add_sub_cancel' le]
    refine ⟨
      { le_start := le
        start_le := Nat.le_refl _
        stop_le := Nat.le_refl _
        white := ?_
        start_lt := fun more => absurd rfl more
        eof_iff := iff_of_true rfl white }, List.drop_length.symm⟩
    rw [List.extract_eq_take_drop, List.take_of_length_le (Nat.le_of_eq left)]
    exact white

theorem position_lt_of_next (le : p ≤ text.length) (h : next p (text.drop p) = .error e) :
    e.position < text.length := by
  have called := call_next p (text.drop p)
  rw [h] at called
  cases called with
  | fault lt => rwa [List.length_drop, Nat.add_sub_cancel' le] at lt

/-- A token leaves fewer characters. -/
theorem length_of_next (h : next p text = .ok (w, rest)) (more : w.token ≠ .eof) :
    rest.length < text.length := by
  have called := call_next p text
  rw [h] at called
  cases called with
  | token whole _ black _ =>
    obtain ⟨c, mem, -⟩ := black
    have some := List.length_pos_of_mem mem
    simp only [whole, List.length_append]
    omega
  | ending => exact absurd rfl more

/-! ### Calls one after the other -/

theorem extract_append_extract {q : Nat} (le : p ≤ q) (le' : q ≤ p') :
    text.extract p q ++ text.extract q p' = text.extract p p' := by
  have parts : p' - p = (q - p) + (p' - q) := by omega
  have rest : text.drop q = (text.drop p).drop (q - p) := by
    rw [List.drop_drop, Nat.add_sub_cancel' le]
  rw [List.extract_eq_take_drop, List.extract_eq_take_drop, List.extract_eq_take_drop, parts, rest,
    List.take_add]

namespace Covers

theorem nil (le : p ≤ text.length) : Covers text p [] p where
  le := Nat.le_refl p
  le_length := le
  tiles := trivial
  whole := by simp [pieces, List.extract_eq_take_drop]
  count := Nat.le_refl p

/-- One more word in front. -/
theorem cons (first : w.Follows text p) (others : Covers text w.stop words p') :
    Covers text p (w :: words) p' where
  le := Nat.le_trans first.le_start (Nat.le_trans first.start_le others.le)
  le_length := others.le_length
  tiles := ⟨first, others.tiles⟩
  whole := by
    rw [pieces, List.flatten_cons, List.flatten_cons, others.whole,
      extract_append_extract first.start_le others.le,
      extract_append_extract first.le_start (Nat.le_trans first.start_le others.le)]
  count := by
    have count := others.count
    have := first.le_start
    have := first.start_le
    rw [List.countP_cons]
    split
    · rename_i more
      have := first.start_lt (of_decide_eq_true more)
      omega
    · omega

end Covers

/-- Calls from any place of a text on read it word for word. -/
theorem Calls.covers (calls : Calls p (text.drop p) words p' rest) (le : p ≤ text.length) :
    Covers text p words p' ∧ rest = text.drop p' := by
  generalize left : text.drop p = here at calls
  induction calls with
  | refl p here => exact ⟨.nil le, left.symm⟩
  | call first _ ih =>
    -- what the call leaves is the text from the end of its word on, so the others start there
    obtain ⟨follows, after⟩ := follows_of_next le (left ▸ first)
    obtain ⟨covers, rest⟩ := ih follows.stop_le after.symm
    exact ⟨.cons follows covers, rest⟩

/-- The calls that the lexer makes: tokens, and then the end or a fault. -/
theorem exists_calls (p : Nat) (text : List Char) : ∃ words p' rest,
    Calls p text words p' rest ∧ (∀ w ∈ words, w.token ≠ .eof) ∧
      match next p' rest with
      | .error e => ofChars p text = ⟨words.map Word.toLexeme, some e⟩
      | .ok (w, _) => w.token = .eof
        ∧ ofChars p text = ⟨words.map Word.toLexeme ++ [w.toLexeme], none⟩ := by
  have cut := ofChars_next p text
  cases called : next p text with
  | error e =>
    rw [called] at cut
    refine ⟨[], p, text, .refl p text, nofun, ?_⟩
    rw [called]
    exact cut
  | ok result =>
    obtain ⟨w, rest⟩ := result
    rw [called] at cut
    dsimp only at cut
    by_cases ends : w.token = .eof
    · rw [if_pos ends] at cut
      refine ⟨[], p, text, .refl p text, nofun, ?_⟩
      rw [called]
      exact ⟨ends, cut⟩
    · rw [if_neg ends] at cut
      have shorter := length_of_next called ends
      obtain ⟨words, p', rest', calls, more, last⟩ := exists_calls w.stop rest
      refine ⟨w :: words, p', rest', .call called calls, List.forall_mem_cons.mpr ⟨ends, more⟩, ?_⟩
      rw [cut]
      split at last
      · rw [last]
        rfl
      · exact ⟨last.1, by rw [last.2]; rfl⟩
termination_by text.length

/-! ## Texts -/

/-- Whatever place of a text calls of the lexer start from, they tile what they read: each word
begins behind the word before it with only white space between, has characters unless it is the end,
does not go beyond the text, and is the end exactly if only white space is left; gaps and words
together are what has been read. A fault is never beyond the text. From the beginning, calls come to
the end or to a fault after no more tokens than the text has characters, and they give the tokens of
the text. -/
theorem calls_cover (s : String) :
    (∀ p words p' rest, p ≤ s.length → Calls p (s.toList.drop p) words p' rest →
      Covers s.toList p words p' ∧ ∀ e, next p' rest = .error e → e.position ≤ s.length)
    ∧ ∃ words p rest, Calls 0 s.toList words p rest ∧ (∀ w ∈ words, w.token ≠ .eof)
      ∧ words.length ≤ s.length ∧
      match next p rest with
      | .error e => lex s = ⟨words.map Word.toLexeme, some e⟩
      | .ok (w, _) => w.token = .eof
        ∧ lex s = ⟨words.map Word.toLexeme ++ [w.toLexeme], none⟩ := by
  have size : s.toList.length = s.length := String.length_toList
  constructor
  · intro p words p' rest le calls
    obtain ⟨covers, rfl⟩ := calls.covers (size.symm ▸ le)
    refine ⟨covers, fun e fault => ?_⟩
    exact size ▸ Nat.le_of_lt (position_lt_of_next covers.le_length fault)
  · obtain ⟨words, p, rest, calls, more, last⟩ := exists_calls 0 s.toList
    refine ⟨words, p, rest, calls, more, ?_, last⟩
    have covers : Covers s.toList 0 words p := (Calls.covers calls (Nat.zero_le _)).1
    have tokens : words.countP (·.token ≠ .eof) = words.length :=
      List.countP_eq_length.mpr fun w mem => decide_eq_true (more w mem)
    have count := covers.count
    have := covers.le_length
    omega

/-- In the text ` a != '5` a name and an operator are read, and then a string that does not end. -/
theorem calls_cover_unterminated :
    let s := " a != '5"
    let words : List Word := [⟨⟨1, .identifier "a"⟩, 2⟩, ⟨⟨3, .notEqual⟩, 5⟩]
    let e : LexicalError := ⟨6, .unterminatedString⟩
    Calls 0 s.toList words 5 (s.toList.drop 5) ∧ next 5 (s.toList.drop 5) = .error e
      ∧ Covers s.toList 0 words 5 ∧ e.position ≤ s.length := by
  intro s words e
  have name : next 0 s.toList = .ok (⟨⟨1, .identifier "a"⟩, 2⟩, s.toList.drop 2) := by
    decide +kernel
  have operator : next 2 (s.toList.drop 2) = .ok (⟨⟨3, .notEqual⟩, 5⟩, s.toList.drop 5) := by
    decide +kernel
  have fault : next 5 (s.toList.drop 5) = .error e := by decide +kernel
  have calls : Calls 0 s.toList words 5 (s.toList.drop 5) :=
    .call name (.call operator (.refl 5 _))
  obtain ⟨covers, within⟩ := (calls_cover s).1 0 words 5 _ (Nat.zero_le _) calls
  exact ⟨calls, fault, covers, within e fault⟩

/-! ## Quoted strings -/

/-- The scan of a text that starts later finds the same places, all of them later. -/
theorem placeholderOffsetsFrom_add (quote : Option Char) (skip : Bool) (position k : Nat)
    (text : List Char) :
    placeholderOffsetsFrom quote skip (position + k) text
      = (placeholderOffsetsFrom quote skip position text).map (· + k) := by
  have after : position + k + 1 = position + 1 + k := by omega
  induction text generalizing quote skip position with
  | nil => rfl
  | cons c rest ih =>
    have ih := fun quote skip => ih quote skip (position + 1) (by omega)
    cases skip with
    | true =>
      simp only [placeholderOffsetsFrom, if_true, after]
      exact ih _ _
    | false =>
      cases quote with
      | some mark =>
        simp only [placeholderOffsetsFrom, Bool.false_eq_true, if_false, after]
        split <;> exact ih _ _
      | none =>
        simp only [placeholderOffsetsFrom, Bool.false_eq_true, if_false, after]
        split_ifs
        · exact ih _ _
        · exact ih _ _
        · rw [ih, List.map_cons]
        · exact ih _ _

/-- The opening quotation mark, the characters as they are written, and the closing one. -/
theorem toList_quote_append (s rest : String) : (Value.quote s ++ rest).toList
    = '\x27' :: (s.toList.flatMap Value.quoteChar ++ '\x27' :: rest.toList) := by
  simp [Value.quote]

theorem readToken_quoted (p : Nat) (s : String) (rest : List Char) :
    readToken p '\x27' (s.toList.flatMap Value.quoteChar ++ '\x27' :: rest)
      = .ok (.string s, rest) := by
  rw [readToken, readSign_eq_none (by decide)]
  simp [readString_quoted]

/-- What has been read is the quoted string. -/
theorem length_quoted (s rest : String) :
    (Value.quote s ++ rest).toList.length - rest.toList.length = (Value.quote s).length := by
  rw [String.toList_append, List.length_append, Nat.add_sub_cancel, String.length_toList]

/-- At the front of any text, a quoted string is read as one token, which is the string, and the
lexer goes on right behind it. The scan for placeholders finds nothing in it, and behind it what it
finds in the rest of the text, so much later. -/
theorem quote_round_trip (s rest : String) :
    (∀ p, next p (Value.quote s ++ rest).toList
        = .ok (⟨⟨p, .string s⟩, p + (Value.quote s).length⟩, rest.toList)
      ∧ ofChars p (Value.quote s ++ rest).toList
        = (ofChars (p + (Value.quote s).length) rest.toList).after [⟨p, .string s⟩])
    ∧ placeholderOffsets (Value.quote s ++ rest)
      = (placeholderOffsets rest).map (· + (Value.quote s).length) := by
  have length := length_quoted s rest
  rw [placeholderOffsets]
  rw [toList_quote_append] at length ⊢
  set chars := s.toList.flatMap Value.quoteChar ++ '\x27' :: rest.toList with quoted
  have called (p : Nat) : next p ('\x27' :: chars)
      = .ok (⟨⟨p, .string s⟩, p + (Value.quote s).length⟩, rest.toList) := by
    have black : isWhiteSpace '\x27' = false := by decide
    rw [next, List.dropWhile_cons_of_neg (by simp [black])]
    dsimp only
    rw [List.length_cons, Nat.sub_self, Nat.add_zero, quoted, readToken_quoted, ← quoted]
    simp only [Except.map, ← length, List.length_cons]
  refine ⟨fun p => ⟨called p, ?_⟩, ?_⟩
  · rw [ofChars_next, called]
    rfl
  · have scanned := scan_token (p := 0) (readToken_quoted 0 s rest.toList)
    rw [← List.length_cons, length] at scanned
    exact scanned.trans (placeholderOffsetsFrom_add none false 0 _ _)

end PredicateLang.Lexing
