import Mathlib.Data.List.Infix
import PredicateLang.Pattern.Glob
import PredicateLang.Sql.Literal

/-!
# What a query understands by LIKE

A literal is in quotation marks, those inside written twice (`Sql.unquote?`). In a pattern a percent
sign stands for any run of characters, an underscore for exactly one, and an escape character, if
there is one, takes the meaning away from the next character (`Sql.pattern?`). `Sql.Matches` is what
a text has to look like then.

The patterns that are written for a prefix, a suffix, a part and for a pattern with `*` and `?` are
matched by the texts that have the prefix, the suffix, the part or the form in memory.
-/

namespace PredicateLang.Sql

/-! ## Literals -/

/-- The text of a literal from behind its first quotation mark on. -/
def unquoteRest : List Char → Option (List Char)
  | [] => none
  | [c] => if c = '\x27' then some [] else none
  | c :: d :: rest =>
    if c = '\x27' then if d = '\x27' then (unquoteRest rest).map (d :: ·) else none
    else (unquoteRest (d :: rest)).map (c :: ·)

/-- The text that a literal stands for, if it is one. -/
def unquote? : List Char → Option (List Char)
  | [] => none
  | c :: rest => if c = '\x27' then unquoteRest rest else none

theorem unquoteRest_cons {c : Char} (plain : c ≠ '\x27') (rest : List Char) :
    unquoteRest (c :: rest) = (unquoteRest rest).map (c :: ·) := by
  cases rest <;> simp [unquoteRest, plain]

theorem unquoteRest_enclose (text : List Char) :
    unquoteRest ((text.flatMap fun c => if c = '\x27' then [c, c] else [c]) ++ ['\x27'])
      = some text := by
  induction text with
  | nil => rfl
  | cons c rest ih =>
    rw [List.flatMap_cons, List.append_assoc]
    by_cases quotation : c = '\x27'
    · subst quotation
      rw [if_pos rfl]
      exact congrArg (Option.map ('\x27' :: ·)) ih
    · rw [if_neg quotation, List.singleton_append, unquoteRest_cons quotation, ih]
      rfl

/-- A literal stands for the text that it was made of. -/
theorem unquote?_quote (text : List Char) : unquote? (quote text).toList = some text := by
  rw [quote, String.toList_ofList]
  exact unquoteRest_enclose text

/-! ## Patterns -/

/-- What a place of a pattern stands for. -/
inductive Wild where
  /-- Any run of characters. -/
  | run
  /-- Exactly one character. -/
  | one
  /-- A character that stands for itself. -/
  | char (c : Char)
deriving DecidableEq

/-- What a character stands for that is not escaped. -/
def Wild.ofChar (c : Char) : Wild := if c = '%' then run else if c = '_' then one else char c

/-- The places of a pattern. Nothing may be escaped at its end. -/
def pattern? (escape : Option Char) : List Char → Option (List Wild)
  | [] => some []
  | [c] => if some c = escape then none else some [.ofChar c]
  | c :: d :: rest =>
    if some c = escape then (pattern? escape rest).map (.char d :: ·)
    else (pattern? escape (d :: rest)).map (.ofChar c :: ·)

theorem pattern?_cons {escape : Option Char} {c : Char} (plain : some c ≠ escape)
    (rest : List Char) :
    pattern? escape (c :: rest) = (pattern? escape rest).map (.ofChar c :: ·) := by
  cases rest <;> simp [pattern?, plain]

theorem pattern?_escaped (e c : Char) (rest : List Char) :
    pattern? (some e) (e :: c :: rest) = (pattern? (some e) rest).map (.char c :: ·) := by
  simp [pattern?]

/-- The text looks like the pattern. -/
inductive Matches : List Wild → List Char → Prop where
  | nil : Matches [] []
  | run (skipped : List Char) {places : List Wild} {text : List Char} (h : Matches places text) :
    Matches (.run :: places) (skipped ++ text)
  | one (c : Char) {places : List Wild} {text : List Char} (h : Matches places text) :
    Matches (.one :: places) (c :: text)
  | char (c : Char) {places : List Wild} {text : List Char} (h : Matches places text) :
    Matches (.char c :: places) (c :: text)

variable {places : List Wild} {text : List Char}

@[simp] theorem matches_nil : Matches [] text ↔ text = [] := by
  constructor
  · intro h
    cases h with
    | nil => rfl
  · intro empty
    subst empty
    exact .nil

theorem matches_run :
    Matches (.run :: places) text ↔ ∃ rest, rest <:+ text ∧ Matches places rest := by
  constructor
  · intro h
    cases h with
    | run skipped h => exact ⟨_, List.suffix_append skipped _, h⟩
  · intro h
    obtain ⟨rest, ⟨skipped, rfl⟩, h⟩ := h
    exact .run skipped h

theorem matches_one :
    Matches (.one :: places) text ↔ ∃ c rest, text = c :: rest ∧ Matches places rest := by
  constructor
  · intro h
    cases h with
    | one c h => exact ⟨c, _, rfl, h⟩
  · intro h
    obtain ⟨c, rest, rfl, h⟩ := h
    exact .one c h

theorem matches_char {c : Char} :
    Matches (.char c :: places) text ↔ ∃ rest, text = c :: rest ∧ Matches places rest := by
  constructor
  · intro h
    cases h with
    | char c h => exact ⟨_, rfl, h⟩
  · intro h
    obtain ⟨rest, rfl, h⟩ := h
    exact .char c h

/-- Characters that stand for themselves are at the beginning of the text. -/
theorem matches_chars (chars : List Char) :
    Matches (chars.map .char ++ places) text
      ↔ ∃ rest, text = chars ++ rest ∧ Matches places rest := by
  induction chars generalizing text with
  | nil => simp
  | cons c chars ih =>
    rw [List.map_cons, List.cons_append, matches_char]
    simp only [ih]
    grind

theorem matches_run_nil : Matches [.run] text :=
  matches_run.mpr ⟨[], List.nil_suffix, .nil⟩

/-- The literal is one of a pattern, and the text looks like it. -/
def Admits (escape : Option Char) (literal text : String) : Prop :=
  ∃ chars places, unquote? literal.toList = some chars ∧ pattern? escape chars = some places
    ∧ Matches places text.toList

theorem admits_quote {escape : Option Char} {chars : List Char} {text : String}
    (known : pattern? escape chars = some places) :
    Admits escape (quote chars) text ↔ Matches places text.toList := by
  constructor
  · rintro ⟨chars', places', quoted, known', h⟩
    rw [unquote?_quote] at quoted
    cases quoted
    rw [known] at known'
    cases known'
    exact h
  · intro h
    exact ⟨chars, places, unquote?_quote chars, known, h⟩

/-! ## What is written -/

theorem pattern?_escapeChar (c : Char) (rest : List Char) :
    pattern? (some '\\') (escapeChar c ++ rest)
      = (pattern? (some '\\') rest).map (.char c :: ·) := by
  unfold escapeChar
  split
  · exact pattern?_escaped '\\' c rest
  · rename_i plain
    rw [not_or, not_or] at plain
    rw [List.singleton_append, pattern?_cons (by simpa using plain.2.2), Wild.ofChar,
      if_neg plain.1, if_neg plain.2.1]

/-- An escaped text stands for itself. -/
theorem pattern?_escape (text rest : List Char) :
    pattern? (some '\\') (text.flatMap escapeChar ++ rest)
      = (pattern? (some '\\') rest).map (text.map .char ++ ·) := by
  induction text with
  | nil => simp
  | cons c text ih =>
    rw [List.flatMap_cons, List.append_assoc, pattern?_escapeChar, ih, Option.map_map]
    rfl

/-- What a character of a pattern with `*` and `?` stands for. -/
def Wild.ofGlob (c : Char) : Wild := if c = '*' then run else if c = '?' then one else char c

theorem pattern?_ofGlob (pattern : String) :
    pattern? (some '\\') (ofGlob pattern) = some (pattern.toList.map .ofGlob) := by
  unfold ofGlob
  induction pattern.toList with
  | nil => rfl
  | cons c rest ih =>
    rw [List.flatMap_cons, List.map_cons, Wild.ofGlob]
    by_cases star : c = '*'
    · rw [if_pos star, if_pos star, List.singleton_append, pattern?_cons (by decide), ih]
      rfl
    · rw [if_neg star, if_neg star]
      by_cases mark : c = '?'
      · rw [if_pos mark, if_pos mark, List.singleton_append, pattern?_cons (by decide), ih]
        rfl
      · rw [if_neg mark, if_neg mark, pattern?_escapeChar, ih]
        rfl

/-! ## What it is matched by -/

theorem matches_start (start : List Char) :
    Matches (start.map .char ++ [.run]) text ↔ start <+: text := by
  rw [matches_chars]
  constructor
  · intro h
    obtain ⟨rest, rfl, -⟩ := h
    exact List.prefix_append start rest
  · intro h
    obtain ⟨rest, rfl⟩ := h
    exact ⟨rest, rfl, matches_run_nil⟩

theorem matches_ending (ending : List Char) :
    Matches (.run :: ending.map .char) text ↔ ending <:+ text := by
  have exact (rest : List Char) : Matches (ending.map .char) rest ↔ rest = ending := by
    rw [← List.append_nil (ending.map _), matches_chars]
    simp
  simp [matches_run, exact]

theorem matches_part (piece : List Char) :
    Matches (.run :: (piece.map .char ++ [.run])) text ↔ piece <:+: text := by
  rw [matches_run, List.infix_iff_prefix_suffix]
  simp only [matches_start]
  exact exists_congr fun rest => and_comm

theorem occursIn_iff (piece text : List Char) : Text.occursIn piece text ↔ piece <:+: text := by
  induction text with
  | nil => simp [Text.occursIn]
  | cons c rest ih =>
    rw [Text.occursIn, Bool.or_eq_true, List.isPrefixOf_iff_prefix, ih, List.infix_cons_iff]

/-- A run stands for nothing, or for a character and more. -/
theorem matches_run_cons {c : Char} :
    Matches (.run :: places) (c :: text)
      ↔ Matches places (c :: text) ∨ Matches (.run :: places) text := by
  simp only [matches_run, List.suffix_cons_iff]
  grind

/-- A place that is no run stands for one character. -/
theorem matches_ofGlob {p : Char} (single : p ≠ '*') :
    Matches (.ofGlob p :: places) text
      ↔ ∃ c rest, text = c :: rest ∧ (p = '?' ∨ p = c) ∧ Matches places rest := by
  rw [Wild.ofGlob, if_neg single]
  by_cases mark : p = '?'
  · simp [mark, matches_one]
  · simp [mark, matches_char]

/-- A pattern with `*` and `?` is matched by the texts that have its form. -/
theorem matches_glob (pattern text : List Char) :
    Matches (pattern.map .ofGlob) text ↔ Glob.isMatch pattern text := by
  fun_induction Glob.isMatch pattern text with
  | case1 => simp
  | case2 => simp
  | case3 pattern ih =>
    -- nothing is left for the run to stand for
    rw [← ih, List.map_cons]
    show Matches (.run :: _) [] ↔ _
    simp [matches_run]
  | case4 pattern c text ih ih' =>
    rw [Bool.or_eq_true, ← ih, ← ih', List.map_cons]
    exact matches_run_cons
  | case5 p pattern single => simp [matches_ofGlob single]
  | case6 p pattern c text single ih => simp [matches_ofGlob single, ih]

/-! ## Texts as patterns -/

/-- Without an escape character every text is a pattern. -/
theorem pattern?_none (chars : List Char) : pattern? none chars = some (chars.map .ofChar) := by
  induction chars with
  | nil => rfl
  | cons c rest ih =>
    rw [pattern?_cons (by simp), ih]
    rfl

theorem matches_ofChar_cons (c : Char) (h : Matches places text) :
    Matches (.ofChar c :: places) (c :: text) := by
  unfold Wild.ofChar
  split
  · exact .run [c] h
  · split
    · exact .one c h
    · exact .char c h

/-- A text looks like itself, whatever wildcards there are in it. -/
theorem matches_ofChar (chars : List Char) (h : Matches places text) :
    Matches (chars.map .ofChar ++ places) (chars ++ text) := by
  induction chars with
  | nil => exact h
  | cons c rest ih => exact matches_ofChar_cons c ih

/-- A text without wildcards stands for itself only. -/
theorem map_ofChar {chars : List Char} (run : '%' ∉ chars) (one : '_' ∉ chars) :
    chars.map Wild.ofChar = chars.map .char := by
  apply List.map_congr_left
  intro c mem
  unfold Wild.ofChar
  grind

/-- A computed prefix is found where it is there, and elsewhere only if it has wildcards in it. -/
theorem exists_pattern_start (start text : List Char) :
    ∃ places, pattern? none (start ++ ['%']) = some places
      ∧ (start <+: text → Matches places text)
      ∧ ('%' ∉ start → '_' ∉ start → Matches places text → start <+: text) := by
  refine ⟨start.map .ofChar ++ [.run], by simp [pattern?_none, Wild.ofChar], ?_, ?_⟩
  · intro h
    obtain ⟨rest, rfl⟩ := h
    exact matches_ofChar start matches_run_nil
  · intro run one h
    rw [map_ofChar run one] at h
    exact (matches_start start).mp h

/-- So is a computed suffix. -/
theorem exists_pattern_ending (ending text : List Char) :
    ∃ places, pattern? none ('%' :: ending) = some places
      ∧ (ending <:+ text → Matches places text)
      ∧ ('%' ∉ ending → '_' ∉ ending → Matches places text → ending <:+ text) := by
  refine ⟨.run :: ending.map .ofChar, by simp [pattern?_none, Wild.ofChar], ?_, ?_⟩
  · intro h
    obtain ⟨skipped, rfl⟩ := h
    have self := matches_ofChar ending .nil
    rw [List.append_nil, List.append_nil] at self
    exact .run skipped self
  · intro run one h
    rw [map_ofChar run one] at h
    exact (matches_ending ending).mp h

/-- The text `axc` does not begin with `a_`, but looks like a text that does. -/
example : Matches (['a', '_'].map .ofChar ++ [.run]) ['a', 'x', 'c']
    ∧ ¬['a', '_'] <+: ['a', 'x', 'c'] :=
  ⟨.char 'a' (.one 'x' matches_run_nil), by decide⟩

end PredicateLang.Sql
