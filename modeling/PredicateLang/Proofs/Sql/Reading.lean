import Mathlib.Data.List.Forall2
import PredicateLang.Proofs.Text.Split
import PredicateLang.Sql

/-!
# How a query is read

A query is read character by character. Outside of quotation marks there are words, and marks of one
character; a quotation mark begins a literal or a name, in which it stands twice for itself. Two minus
signs begin a comment, which goes to the end of the line. `Sql.tokens` is what a text is read as.

What stands between quotation marks makes no difference to how the rest is read. `Sql.Reads careful
ends s t` says of two texts that they are read alike but for the contents of their literals, at least
as long as no comment begins, and that reading is at one of the places `ends` after them. If they are
careful, then no comment begins. There is a rule for each way that a text is put together from others.
-/

namespace PredicateLang.Sql

/-! ## Tokens -/

/-- What a query consists of, blanks aside. -/
inductive QueryToken where
  | word (chars : List Char)
  /-- A literal or a name in quotation marks. -/
  | quoted (mark : Char) (content : List Char)
  /-- Any other character. -/
  | sign (c : Char)
  | comment
  /-- A literal or a name without an end. -/
  | unclosed
deriving DecidableEq

/-- The place where reading is. -/
inductive Place where
  | between
  | word (chars : List Char)
  /-- Behind a minus sign. -/
  | minus
  | within (mark : Char) (content : List Char)
  /-- Behind a quotation mark, which is the last one or the first of two. -/
  | behind (mark : Char) (content : List Char)
  | comment
deriving DecidableEq

/-- Is it a character of words? -/
def isWordChar (c : Char) : Bool := c.isAlphanum || c = '_'

/-- Is it a character that literals or names are put between? -/
def isQuotation (c : Char) : Bool := c = '\x27' || c = '\x22'

namespace Place

/-- The token that ends at the place. -/
def ended : Place → List QueryToken
  | between | comment => []
  | word chars => [.word chars]
  | minus => [.sign '-']
  | within _ _ => [.unclosed]
  | behind mark content => [.quoted mark content]

/-- The place after a character that nothing goes on with. -/
def start (c : Char) : Place :=
  if isQuotation c then within c []
  else if isWordChar c then word [c]
  else if c = '-' then minus
  else between

/-- The token that such a character is. -/
def single (c : Char) : List QueryToken :=
  if start c = between ∧ !c.isWhitespace then [.sign c] else []

/-- Does what is being read at the place go on with the character? -/
def goesOn : Place → Char → Bool
  | between, _ => false
  | word _, c => isWordChar c
  | minus, c => c = '-'
  | within _ _, _ => true
  | behind mark _, c => c = mark
  | comment, c => c ≠ '\n'

/-- The place after a character that what is being read goes on with. -/
def further : Place → Char → Place
  | between, _ => between
  | word chars, c => word (chars ++ [c])
  | minus, _ => comment
  | within mark content, c => if c = mark then behind mark content else within mark (content ++ [c])
  | behind mark content, c => within mark (content ++ [c])
  | comment, _ => comment

/-- The place after a character. -/
def next (p : Place) (c : Char) : Place := if p.goesOn c then p.further c else start c

/-- The tokens that are known with a character. -/
def tokens (p : Place) (c : Char) : List QueryToken :=
  if p.goesOn c then if p = minus then [.comment] else [] else p.ended ++ single c

/-- The place after a text. -/
def after (p : Place) (text : List Char) : Place := text.foldl next p

/-- The tokens that are known after a text. -/
def read (p : Place) : List Char → List QueryToken
  | [] => []
  | c :: rest => p.tokens c ++ (p.next c).read rest

/-- May a text end at the place? -/
def mayEnd : Place → Bool
  | within _ _ | comment => false
  | behind mark _ => isQuotation mark
  | _ => true

end Place

/-- The tokens that are known after a text. -/
def seen (text : String) : List QueryToken := Place.between.read text.toList

/-- The place after a text. -/
def reached (text : String) : Place := Place.between.after text.toList

/-- The tokens of a query. -/
def tokens (text : String) : List QueryToken := seen text ++ (reached text).ended

/-! ## Reading a text after another -/

/-- Does a character end whatever may end before it? -/
def isSeparator (c : Char) : Bool := !isQuotation c && !isWordChar c && c ≠ '-'

namespace Place

variable {p : Place} {c : Char}

theorem after_append (p : Place) (text rest : List Char) :
    p.after (text ++ rest) = (p.after text).after rest := List.foldl_append

theorem read_append (p : Place) (text rest : List Char) :
    p.read (text ++ rest) = p.read text ++ (p.after text).read rest := by
  induction text generalizing p with
  | nil => rfl
  | cons c text ih =>
    rw [List.cons_append, read, read, ih, List.append_assoc]
    rfl

/-- Where nothing goes on with a character, it is read as it is at the front. -/
theorem read_of_goesOn (still : p.goesOn c = false) (rest : List Char) :
    p.read (c :: rest) = p.ended ++ between.read (c :: rest) := by
  have front : between.goesOn c = false := rfl
  simp only [read, tokens, next, still, front, Bool.false_eq_true, if_false, List.append_assoc]
  rfl

theorem after_of_goesOn (still : p.goesOn c = false) (rest : List Char) :
    p.after (c :: rest) = between.after (c :: rest) := by
  have front : between.goesOn c = false := rfl
  simp only [after, List.foldl_cons, next, still, front, Bool.false_eq_true, if_false]

theorem goesOn_of_isSeparator (ends : p.mayEnd) (h : isSeparator c) : p.goesOn c = false := by
  simp only [isSeparator, Bool.and_eq_true, Bool.not_eq_true', decide_eq_true_eq] at h
  obtain ⟨⟨quotation, word⟩, minus⟩ := h
  cases p with
  | between => rfl
  | word => exact word
  | minus => exact decide_eq_false minus
  | behind mark =>
    refine decide_eq_false ?_
    rintro rfl
    rw [mayEnd, quotation] at ends
    cases ends
  | within | comment => cases ends

theorem comment_notMem_ended (p : Place) : .comment ∉ p.ended := by
  cases p <;> simp [ended]

end Place

section

variable {s t f : String}

theorem seen_append (s t : String) : seen (s ++ t) = seen s ++ (reached s).read t.toList := by
  rw [seen, String.toList_append, Place.read_append]
  rfl

theorem reached_append (s t : String) : reached (s ++ t) = (reached s).after t.toList := by
  rw [reached, String.toList_append, Place.after_append]
  rfl

/-- Where a text is between words and quotation marks, another is read as it is alone. -/
theorem seen_append_of_between (h : reached s = .between) (t : String) :
    seen (s ++ t) = seen s ++ seen t := by
  rw [seen_append, h]
  rfl

theorem reached_append_of_between (h : reached s = .between) (t : String) :
    reached (s ++ t) = reached t := by
  rw [reached_append, h]
  rfl

theorem tokens_append_of_between (h : reached s = .between) (t : String) :
    tokens (s ++ t) = tokens s ++ tokens t := by
  rw [tokens, tokens, tokens, seen_append_of_between h, reached_append_of_between h, h, Place.ended,
    List.append_nil, List.append_assoc]

/-- Does the text begin with a character that ends what is before it? -/
def isSeparate (f : String) : Bool := f.toList.head?.any isSeparator

theorem seen_append_of_isSeparate (ends : (reached s).mayEnd) (h : isSeparate f) :
    seen (s ++ f) = tokens s ++ seen f := by
  rw [seen_append, tokens, List.append_assoc, show seen f = Place.between.read f.toList from rfl]
  unfold isSeparate at h
  cases chars : f.toList with
  | nil =>
    rw [chars] at h
    cases h
  | cons c rest =>
    rw [chars] at h
    rw [Place.read_of_goesOn (Place.goesOn_of_isSeparator ends h)]

theorem reached_append_of_isSeparate (ends : (reached s).mayEnd) (h : isSeparate f) :
    reached (s ++ f) = reached f := by
  rw [reached_append, show reached f = Place.between.after f.toList from rfl]
  unfold isSeparate at h
  cases chars : f.toList with
  | nil =>
    rw [chars] at h
    cases h
  | cons c rest =>
    rw [chars] at h
    rw [Place.after_of_goesOn (Place.goesOn_of_isSeparator ends h)]

theorem tokens_append_of_isSeparate (ends : (reached s).mayEnd) (h : isSeparate f) :
    tokens (s ++ f) = tokens s ++ tokens f := by
  rw [tokens, seen_append_of_isSeparate ends h, reached_append_of_isSeparate ends h,
    List.append_assoc, ← tokens]

end

/-! ## The contents of literals -/

/-- The token without the contents of a literal. -/
def QueryToken.blank : QueryToken → QueryToken
  | quoted mark content => quoted mark (if mark = '\x27' then [] else content)
  | t => t

/-- The place without the contents of a literal. -/
def Place.blank : Place → Place
  | within mark content => within mark (if mark = '\x27' then [] else content)
  | behind mark content => behind mark (if mark = '\x27' then [] else content)
  | p => p

theorem Place.ended_blank (p : Place) : p.blank.ended = p.ended.map .blank := by
  cases p <;> rfl

theorem Place.mayEnd_blank (p : Place) : p.blank.mayEnd = p.mayEnd := by
  cases p <;> rfl

/-- The tokens without the contents of literals. -/
def outline (ts : List QueryToken) : List QueryToken := ts.map QueryToken.blank

theorem outline_append (ts us : List QueryToken) : outline (ts ++ us) = outline ts ++ outline us :=
  List.map_append

theorem comment_mem_outline {ts : List QueryToken} : .comment ∈ outline ts ↔ .comment ∈ ts := by
  have only (t : QueryToken) : t.blank = .comment ↔ t = .comment := by
    cases t <;> simp [QueryToken.blank]
  simp [outline, only]

theorem comment_mem_tokens {s : String} : .comment ∈ tokens s ↔ .comment ∈ seen s := by
  rw [tokens, List.mem_append]
  simp [Place.comment_notMem_ended]

/-- Does the text begin with a minus sign? An empty text does not tell. -/
def lead (s : String) : Option Bool := s.toList.head?.map (· = '-')

theorem lead_append (s t : String) : lead (s ++ t) = (lead s).or (lead t) := by
  unfold lead
  rw [String.toList_append]
  cases s.toList <;> simp

/-- No comment begins, the texts are read alike but for the contents of their literals, and reading is
at one of certain places after them. -/
structure Parallel (ends : Place → Prop) (s t : String) : Prop where
  none : .comment ∉ seen s
  outline : outline (seen t) = outline (seen s)
  reached : (reached t).blank = (reached s).blank
  ends : ends (Sql.reached s)

/-- The texts are read alike but for the contents of their literals, or a comment begins in both of
them, unless they are careful. -/
structure Reads (careful : Prop) (ends : Place → Prop) (s t : String) : Prop where
  lead : lead t = lead s
  read : (¬ careful ∧ .comment ∈ seen s ∧ .comment ∈ seen t) ∨ Parallel ends s t

/-- The texts are complete, and what comes next is read separately if it begins so. -/
abbrev Alike (careful : Prop) : String → String → Prop := Reads careful (·.mayEnd)

/-- What comes next is read separately. -/
abbrev Ahead (careful : Prop) : String → String → Prop := Reads careful (· = .between)

section

variable {careful : Prop} {ends : Place → Prop} {s t a b : String}

theorem Parallel.none' (h : Parallel ends s t) : .comment ∉ seen t := by
  rw [← comment_mem_outline, h.outline, comment_mem_outline]
  exact h.none

theorem Parallel.mayEnd' (h : Parallel (·.mayEnd) s t) : (Sql.reached t).mayEnd := by
  rw [← Place.mayEnd_blank, h.reached, Place.mayEnd_blank]
  exact h.ends

theorem Parallel.between' (h : Parallel (· = .between) s t) : Sql.reached t = .between := by
  have same := h.reached
  rw [h.ends] at same
  cases is : Sql.reached t with
  | between => rfl
  | _ =>
    rw [is] at same
    cases same

theorem Parallel.outline_tokens (h : Parallel (·.mayEnd) s t) :
    Sql.outline (tokens t) = Sql.outline (tokens s) := by
  have ended : Sql.outline (Sql.reached t).ended = Sql.outline (Sql.reached s).ended := by
    rw [Sql.outline, Sql.outline, ← Place.ended_blank, ← Place.ended_blank, h.reached]
  rw [tokens, tokens, outline_append, outline_append, h.outline, ended]

/-- A text as it is. -/
theorem reads_refl (none : .comment ∉ seen s) (h : ends (reached s)) : Reads careful ends s s :=
  ⟨rfl, .inr ⟨none, rfl, rfl, h⟩⟩

theorem comment_mem_append (h : .comment ∈ seen s) (t : String) : .comment ∈ seen (s ++ t) := by
  rw [seen_append]
  exact List.mem_append_left _ h

/-- Texts behind texts that let them be read separately. -/
theorem Reads.text (h : Ahead careful s t) (h' : Reads careful ends a b) :
    Reads careful ends (s ++ a) (t ++ b) := by
  refine ⟨by rw [lead_append, lead_append, h.lead, h'.lead], ?_⟩
  -- A comment that has begun stays, whatever is behind it.
  rcases h.read with ⟨free, first, second⟩ | p
  · exact .inl ⟨free, comment_mem_append first a, comment_mem_append second b⟩
  · have known := seen_append_of_between p.ends a
    have known' := seen_append_of_between p.between' b
    rcases h'.read with ⟨free, first, second⟩ | q
    · refine .inl ⟨free, ?_, ?_⟩
      · rw [known]
        exact List.mem_append_right _ first
      · rw [known']
        exact List.mem_append_right _ second
    · refine .inr ⟨?_, ?_, ?_, ?_⟩
      · rw [known, List.mem_append, not_or]
        exact ⟨p.none, q.none⟩
      · rw [known, known', outline_append, outline_append, p.outline, q.outline]
      · rw [reached_append_of_between p.ends, reached_append_of_between p.between']
        exact q.reached
      · rw [reached_append_of_between p.ends]
        exact q.ends

/-- A fixed text behind texts from which it is separate. -/
theorem Reads.fixed (h : Alike careful s t) (f : String) (separate : isSeparate f)
    (none : .comment ∉ seen f) (place : ends (reached f)) :
    Reads careful ends (s ++ f) (t ++ f) := by
  refine ⟨by rw [lead_append, lead_append, h.lead], ?_⟩
  rcases h.read with ⟨free, first, second⟩ | p
  · exact .inl ⟨free, comment_mem_append first f, comment_mem_append second f⟩
  · have known := seen_append_of_isSeparate p.ends separate
    have known' := seen_append_of_isSeparate p.mayEnd' separate
    refine .inr ⟨?_, ?_, ?_, ?_⟩
    · rw [known, List.mem_append, comment_mem_tokens, not_or]
      exact ⟨p.none, none⟩
    · rw [known, known', outline_append, outline_append, p.outline_tokens]
    · rw [reached_append_of_isSeparate p.ends separate,
        reached_append_of_isSeparate p.mayEnd' separate]
    · rw [reached_append_of_isSeparate p.ends separate]
      exact place

/-! ### Fixed texts -/

/-- Is what comes behind the text read separately? -/
def opens (f : String) : Bool := decide (.comment ∉ seen f) && decide (reached f = .between)

/-- Is the text separate from what is before it and from what is behind it? -/
def separates (f : String) : Bool := isSeparate f && opens f

/-- Is the text separate from what is before it, and complete? -/
def closes (f : String) : Bool :=
  isSeparate f && decide (.comment ∉ seen f) && (reached f).mayEnd

variable {f : String}

theorem ahead_of_opens (h : opens f) : Ahead careful f f := by
  rw [opens, Bool.and_eq_true, decide_eq_true_eq, decide_eq_true_eq] at h
  exact reads_refl h.1 h.2

theorem Reads.then (h : Alike careful s t) (h' : separates f) :
    Ahead careful (s ++ f) (t ++ f) := by
  rw [Sql.separates, opens, Bool.and_eq_true, Bool.and_eq_true, decide_eq_true_eq,
    decide_eq_true_eq] at h'
  exact h.fixed f h'.1 h'.2.1 h'.2.2

theorem Reads.close (h : Alike careful s t) (h' : closes f) :
    Alike careful (s ++ f) (t ++ f) := by
  rw [closes, Bool.and_eq_true, Bool.and_eq_true, decide_eq_true_eq] at h'
  exact h.fixed f h'.1.1 h'.1.2 h'.2

/-! ### Minus signs -/

theorem eq_empty_of_lead (h : lead s = none) : s = "" := by
  unfold lead at h
  exact String.toList_eq_nil_iff.mp (List.head?_eq_none_iff.mp (Option.map_eq_none_iff.mp h))

theorem exists_cons_of_lead {minus : Bool} (h : lead s = some minus) :
    ∃ c rest, s.toList = c :: rest ∧ minus = decide (c = '-') := by
  unfold lead at h
  cases chars : s.toList with
  | nil =>
    rw [chars] at h
    cases h
  | cons c rest =>
    rw [chars] at h
    exact ⟨c, rest, rfl, (Option.some.inj h).symm⟩

/-- Two minus signs begin a comment. -/
theorem comment_mem_negated (h : lead s = some true) : .comment ∈ seen ("-" ++ s) := by
  obtain ⟨c, rest, chars, minus⟩ := exists_cons_of_lead h
  rw [seen_append, chars, of_decide_eq_true minus.symm]
  exact List.mem_append_right _ (List.mem_append_left _ (List.mem_singleton.mpr rfl))

theorem goesOn_minus {c : Char} (h : false = decide (c = '-')) : Place.minus.goesOn c = false :=
  h.symm

theorem seen_negated (h : lead s = some false) : seen ("-" ++ s) = .sign '-' :: seen s := by
  obtain ⟨c, rest, chars, other⟩ := exists_cons_of_lead h
  rw [seen_append, show seen s = Place.between.read s.toList from rfl, chars]
  exact Place.read_of_goesOn (goesOn_minus other) rest

theorem reached_negated (h : lead s = some false) : reached ("-" ++ s) = reached s := by
  obtain ⟨c, rest, chars, other⟩ := exists_cons_of_lead h
  rw [reached_append, show reached s = Place.between.after s.toList from rfl, chars]
  exact Place.after_of_goesOn (goesOn_minus other) rest

/-- A minus sign in front of texts. In front of another one it begins a comment. -/
theorem Reads.negated (h : Alike careful s t) (single : careful → Sql.lead s ≠ some true) :
    Alike careful ("-" ++ s) ("-" ++ t) := by
  refine ⟨by rw [lead_append, lead_append, h.lead], ?_⟩
  cases first : Sql.lead s with
  | none =>
    obtain rfl := eq_empty_of_lead first
    obtain rfl := eq_empty_of_lead (h.lead.trans first)
    exact .inr ⟨by decide, rfl, rfl, rfl⟩
  | some minus =>
    have second := h.lead.trans first
    cases minus with
    | true =>
      -- Two minus signs: careful texts have no such lead.
      refine .inl ⟨fun careful => single careful first, ?_⟩
      exact ⟨comment_mem_negated first, comment_mem_negated second⟩
    | false =>
      have known := seen_negated first
      have known' := seen_negated second
      rcases h.read with ⟨free, comment, comment'⟩ | p
      · refine .inl ⟨free, ?_, ?_⟩
        · rw [known]
          exact List.mem_cons_of_mem _ comment
        · rw [known']
          exact List.mem_cons_of_mem _ comment'
      · refine .inr ⟨?_, ?_, ?_, ?_⟩
        · rw [known, List.mem_cons, not_or]
          exact ⟨nofun, p.none⟩
        · rw [known, known']
          exact congrArg (.sign '-' :: ·) p.outline
        · rw [reached_negated first, reached_negated second]
          exact p.reached
        · rw [reached_negated first]
          exact p.ends

/-! ### Joined texts -/

/-- Texts of lists that are alike one by one. -/
theorem alike_join {between : String} {ss ts : List String} (separate : separates between)
    (h : List.Forall₂ (Alike careful) ss ts) :
    Alike careful (Text.join between ss) (Text.join between ts) := by
  induction h with
  | nil =>
    show Alike careful "" ""
    exact reads_refl (by decide) rfl
  | @cons s t ss ts first rest ih =>
    cases rest with
    | nil =>
      rw [Text.join_singleton, Text.join_singleton]
      exact first
    | cons second rest =>
      rw [Text.join_cons_cons, Text.join_cons_cons]
      exact (first.then separate).text ih

end

/-! ## Words, literals and numbers -/

namespace Place

variable {p q : Place} {c mark : Char} {text : List Char}

/-- After the text reading is at a place, and no token has been finished. -/
def Runs (p : Place) (text : List Char) (q : Place) : Prop := p.after text = q ∧ p.read text = []

theorem runs_nil (p : Place) : p.Runs [] p := ⟨rfl, rfl⟩

/-- What is being read goes on with a character. -/
theorem Runs.cons (h : (p.further c).Runs text q) (goesOn : p.goesOn c) (other : p ≠ minus) :
    p.Runs (c :: text) q := by
  have next : p.next c = p.further c := if_pos goesOn
  have none : p.tokens c = [] := by rw [tokens, if_pos goesOn, if_neg other]
  constructor
  · rw [after, List.foldl_cons, next]
    exact h.1
  · rw [read, none, next, h.2, List.nil_append]

theorem runs_word (chars : List Char) (h : ∀ c ∈ text, isWordChar c) :
    (word chars).Runs text (word (chars ++ text)) := by
  induction text generalizing chars with
  | nil =>
    rw [List.append_nil]
    exact runs_nil _
  | cons c text ih =>
    obtain ⟨first, rest⟩ := List.forall_mem_cons.mp h
    refine Runs.cons ?_ first nofun
    rw [← List.singleton_append, ← List.append_assoc]
    exact ih (chars ++ [c]) rest

/-- A text in quotation marks, those inside twice. -/
theorem runs_within (content text : List Char) :
    (within mark content).Runs
      ((text.flatMap fun c => if c = mark then [c, c] else [c]) ++ [mark])
      (behind mark (content ++ text)) := by
  induction text generalizing content with
  | nil =>
    have last : (within mark content).further mark = behind mark content := if_pos rfl
    refine Runs.cons ?_ rfl nofun
    rw [last, List.append_nil]
    exact runs_nil _
  | cons c text ih =>
    have rest := ih (content ++ [c])
    rw [List.append_assoc, List.singleton_append] at rest
    rw [List.flatMap_cons, List.append_assoc]
    by_cases quotation : c = mark
    · subst quotation
      rw [if_pos rfl]
      refine Runs.cons ?_ rfl nofun
      have first : (within c content).further c = behind c content := if_pos rfl
      rw [first]
      exact Runs.cons rest (decide_eq_true rfl) nofun
    · rw [if_neg quotation]
      refine Runs.cons ?_ rfl nofun
      have next : (within mark content).further c = within mark (content ++ [c]) := if_neg quotation
      rw [next]
      exact rest

/-- Something begins with a character, from which it goes on. -/
theorem runs_start {place : Place} (first : start c = place) (other : place ≠ between)
    (h : place.Runs text q) : between.Runs (c :: text) q := by
  have none : between.tokens c = [] := by
    show single c = []
    rw [single, first]
    simp [other]
  constructor
  · show (start c).after text = q
    rw [first]
    exact h.1
  · rw [read, none, List.nil_append]
    show (start c).read text = []
    rw [first]
    exact h.2

theorem isQuotation_of_isWordChar (h : isWordChar c) : isQuotation c = false := by
  rw [Bool.eq_false_iff]
  intro quotation
  rw [isQuotation, Bool.or_eq_true, decide_eq_true_eq, decide_eq_true_eq] at quotation
  rcases quotation with rfl | rfl <;> exact absurd h (by decide)

end Place

section

variable {careful : Prop} {s t : String} {p q : Place}

/-- A text that is read as one token. -/
theorem tokens_of_runs (h : Place.between.Runs s.toList p) : tokens s = p.ended := by
  rw [tokens, seen, reached, h.2, h.1, List.nil_append]

/-- Texts that begin and end in the same way without any token being finished. -/
theorem alike_of_runs (lead : lead t = lead s) (h : Place.between.Runs s.toList p)
    (h' : Place.between.Runs t.toList q) (same : q.blank = p.blank) (ends : p.mayEnd) :
    Alike careful s t := by
  refine ⟨lead, .inr ⟨?_, ?_, ?_, ?_⟩⟩
  · rw [seen, h.2]
    exact List.not_mem_nil
  · rw [seen, seen, h.2, h'.2]
  · rw [reached, reached, h.1, h'.1, same]
  · rw [reached, h.1]
    exact ends

theorem runs_word {c : Char} {rest : List Char} (chars : s.toList = c :: rest)
    (h : ∀ c ∈ s.toList, isWordChar c) : Place.between.Runs s.toList (.word s.toList) := by
  rw [chars] at h ⊢
  obtain ⟨first, others⟩ := List.forall_mem_cons.mp h
  have start : Place.start c = .word [c] := by
    rw [Place.start, Place.isQuotation_of_isWordChar first, first]
    rfl
  exact Place.runs_start start nofun (Place.runs_word [c] others)

theorem runs_enclose {mark : Char} (quotation : isQuotation mark) (text : List Char) :
    Place.between.Runs (enclose mark text) (.behind mark text) :=
  Place.runs_start (if_pos quotation) nofun (Place.runs_within [] text)

theorem runs_quote (text : List Char) :
    Place.between.Runs (quote text).toList (.behind '\x27' text) := by
  rw [quote, String.toList_ofList]
  exact runs_enclose rfl text

/-- A name is a word or in quotation marks. -/
theorem runs_identifier (name : String) :
    Place.between.Runs (identifier name).toList (.word name.toList)
      ∨ Place.between.Runs (identifier name).toList (.behind '\x22' name.toList) := by
  unfold identifier
  split
  · rename_i plain
    cases chars : name.toList with
    | nil =>
      rw [chars] at plain
      cases plain
    | cons c rest =>
      rw [chars, isPlainName, Bool.and_eq_true, List.all_eq_true] at plain
      obtain ⟨first, others⟩ := plain
      rw [Bool.or_eq_true] at first
      have word : isWordChar c := by
        rw [isWordChar, Char.isAlphanum, Bool.or_eq_true, Bool.or_eq_true]
        exact first.imp_left .inl
      have all : ∀ c ∈ name.toList, isWordChar c := chars ▸ List.forall_mem_cons.mpr ⟨word, others⟩
      have runs := runs_word chars all
      rw [chars] at runs
      exact .inl runs
  · rw [String.toList_ofList]
    exact .inr (runs_enclose rfl name.toList)

/-- Literals. -/
theorem alike_quote (text other : List Char) : Alike careful (quote text) (quote other) :=
  alike_of_runs (by simp [lead, quote, enclose]) (runs_quote text) (runs_quote other) rfl rfl

theorem alike_identifier (name : String) : Alike careful (identifier name) (identifier name) := by
  rcases runs_identifier name with run | run <;> exact alike_of_runs rfl run run rfl rfl

/-- An alias is a word. -/
theorem runs_alias (n : Nat) :
    Place.between.Runs ("t" ++ toString n).toList (.word ('t' :: Nat.toDigits 10 n)) := by
  have chars : ("t" ++ toString n).toList = 't' :: Nat.toDigits 10 n := by simp
  have all : ∀ c ∈ ("t" ++ toString n).toList, isWordChar c := by
    rw [chars]
    refine List.forall_mem_cons.mpr ⟨rfl, fun c mem => ?_⟩
    have digit : c.isDigit := Nat.isDigit_of_mem_toDigits (by decide) (by decide) mem
    simp [isWordChar, Char.isAlphanum, digit]
  have run := runs_word chars all
  rw [chars] at run ⊢
  exact run

end

/-! ### Numbers -/

/-- Is it a character of numerals, other than a sign in front? -/
def isNumeralChar (c : Char) : Bool := (isWordChar c && c ≠ 't') || c = '.'

/-- The text is one of digits, letters and points, perhaps behind a minus sign. -/
def IsNumeral (s : String) : Prop :=
  ∃ body, (s.toList = body ∨ s.toList = '-' :: body) ∧ ∀ c ∈ body, isNumeralChar c

/-- Is it a token of numerals? -/
def QueryToken.isOfNumeral : QueryToken → Bool
  | word chars => 't' ∉ chars
  | sign c => c = '.' || c = '-'
  | _ => false

/-- In front of characters of numerals there are only a few places. -/
inductive Place.IsOfNumeral : Place → Prop where
  | between : IsOfNumeral between
  | word (chars : List Char) (none : 't' ∉ chars) : IsOfNumeral (word chars)
  | minus : IsOfNumeral minus

namespace Place

variable {p : Place} {c : Char}

theorem IsOfNumeral.mayEnd (h : p.IsOfNumeral) : p.mayEnd := by
  cases h <;> rfl

theorem IsOfNumeral.ended (h : p.IsOfNumeral) : ∀ t ∈ p.ended, t.isOfNumeral := by
  cases h with
  | between => exact nofun
  | word chars none => exact List.forall_mem_singleton.mpr (decide_eq_true none)
  | minus => exact List.forall_mem_singleton.mpr rfl

theorem eq_of_isNumeralChar (h : isNumeralChar c) : (isWordChar c ∧ c ≠ 't') ∨ c = '.' := by
  simpa [isNumeralChar] using h

/-- A character of a numeral begins a word or is a point. -/
theorem isOfNumeral_start (h : isNumeralChar c) :
    (start c).IsOfNumeral ∧ ∀ t ∈ single c, t.isOfNumeral := by
  rcases eq_of_isNumeralChar h with ⟨word, other⟩ | rfl
  · have is : start c = .word [c] := by
      rw [start, isQuotation_of_isWordChar word, word]
      rfl
    rw [single, is]
    exact ⟨.word _ (List.mem_singleton.not.mpr other.symm), nofun⟩
  · exact ⟨.between, List.forall_mem_singleton.mpr rfl⟩

/-- Characters of numerals are read as tokens of numerals. -/
theorem IsOfNumeral.run (h : p.IsOfNumeral) {body : List Char} (all : ∀ c ∈ body, isNumeralChar c) :
    (∀ t ∈ p.read body, t.isOfNumeral) ∧ (p.after body).IsOfNumeral := by
  induction body generalizing p with
  | nil => exact ⟨nofun, h⟩
  | cons c rest ih =>
    obtain ⟨first, others⟩ := List.forall_mem_cons.mp all
    have step : (∀ t ∈ p.tokens c, t.isOfNumeral) ∧ (p.next c).IsOfNumeral := by
      cases goes : p.goesOn c with
      | false =>
        rw [tokens, next, goes, if_neg nofun, if_neg nofun, List.forall_mem_append]
        exact ⟨⟨h.ended, (isOfNumeral_start first).2⟩, (isOfNumeral_start first).1⟩
      | true =>
        rw [tokens, next, goes, if_pos rfl, if_pos rfl]
        cases h with
        | between => cases goes
        | word chars none =>
          refine ⟨nofun, .word _ ?_⟩
          rw [List.mem_append, List.mem_singleton, not_or]
          refine ⟨none, ?_⟩
          rintro rfl
          cases first
        | minus =>
          -- A second minus sign is no character of numerals.
          have minus : c = '-' := of_decide_eq_true goes
          subst minus
          cases first
    obtain ⟨known, place⟩ := ih step.2 others
    exact ⟨List.forall_mem_append.mpr ⟨step.1, known⟩, place⟩

end Place

/-- A numeral is complete. -/
theorem IsNumeral.tokens {s : String} (h : IsNumeral s) :
    (∀ t ∈ tokens s, t.isOfNumeral) ∧ (reached s).mayEnd := by
  obtain ⟨body, chars, all⟩ := h
  have run : (∀ t ∈ seen s, t.isOfNumeral) ∧ (reached s).IsOfNumeral := by
    rw [seen, reached]
    rcases chars with chars | chars <;> rw [chars]
    · exact Place.IsOfNumeral.between.run all
    · exact Place.IsOfNumeral.minus.run all
  exact ⟨List.forall_mem_append.mpr ⟨run.1, run.2.ended⟩, run.2.mayEnd⟩

theorem alike_numeral {careful : Prop} {s : String} (h : IsNumeral s) : Alike careful s s := by
  refine reads_refl (fun comment => ?_) h.tokens.2
  have impossible := h.tokens.1 _ (comment_mem_tokens.mpr comment)
  cases impossible

theorem isNumeralChar_of_mem_toDigits {n : Nat} {c : Char} (mem : c ∈ Nat.toDigits 10 n) :
    isNumeralChar c := by
  have digit : c.isDigit := Nat.isDigit_of_mem_toDigits (by decide) (by decide) mem
  have other : c ≠ 't' := by
    rintro rfl
    cases digit
  simp [isNumeralChar, isWordChar, Char.isAlphanum, digit, other]

theorem isNumeral_integerText (n : Int) : IsNumeral (Text.integerText n) := by
  refine ⟨Nat.toDigits 10 n.natAbs, ?_, fun _ => isNumeralChar_of_mem_toDigits⟩
  unfold Text.integerText
  split
  · exact .inr (by simp)
  · exact .inl (by simp)

open Number (Format)

/-- Digits with a point among them. -/
theorem isNumeralChar_of_mem_plain {format : Format} {d : Number.Scientific} {c : Char}
    (mem : c ∈ format.plain d) : isNumeralChar c := by
  have digit (mem : c ∈ Nat.toDigits 10 d.digits) := isNumeralChar_of_mem_toDigits mem
  have zero (is : c = '0') : isNumeralChar c := is ▸ rfl
  have point (is : c = '.') : isNumeralChar c := is ▸ rfl
  have filled (n : Nat) (mem : c ∈ List.replicate n '0') := zero (List.eq_of_mem_replicate mem)
  unfold Format.plain at mem
  dsimp only at mem
  split at mem
  · rw [List.mem_append, List.mem_append] at mem
    rcases mem with (mem | mem) | mem
    · exact digit mem
    · exact filled _ mem
    · split at mem
      · rw [List.mem_cons, List.mem_singleton] at mem
        exact mem.elim point zero
      · cases mem
  · split at mem
    · rw [List.mem_append, List.mem_cons] at mem
      rcases mem with mem | is | mem
      · exact digit (List.mem_of_mem_take mem)
      · exact point is
      · exact digit (List.mem_of_mem_drop mem)
    · rw [List.mem_cons, List.mem_cons, List.mem_append] at mem
      rcases mem with is | is | mem | mem
      · exact zero is
      · exact point is
      · exact filled _ mem
      · exact digit mem

/-- Without an exponent there are digits and a point only. -/
theorem isNumeral_text {format : Format} (plain : ∀ power, format.isPlain power)
    (x : Number.Binary) : IsNumeral (format.text x) := by
  cases x with
  | nan => exact ⟨"NaN".toList, .inl rfl, List.all_eq_true.mp rfl⟩
  | infinity negative =>
    refine ⟨"inf".toList, ?_, List.all_eq_true.mp rfl⟩
    cases negative with
    | false => exact .inl rfl
    | true => exact .inr (by rw [Format.text, if_pos rfl]; rfl)
  | finite negative significand exponent narrow =>
    refine ⟨format.plain (Number.Scientific.shortest format.tie significand exponent narrow), ?_,
      fun _ => isNumeralChar_of_mem_plain⟩
    unfold Format.text
    dsimp only
    rw [if_pos (plain _), String.toList_ofList]
    cases negative with
    | false => exact .inl rfl
    | true => exact .inr rfl

theorem isNumeral_wholeText (x : Number.Binary) : IsNumeral (Number.wholeText x) := by
  cases x with
  | nan | infinity => exact isNumeral_text (fun _ => rfl) _
  | finite negative significand exponent narrow =>
    have last : ∀ c ∈ ".0".toList, isNumeralChar c := List.all_eq_true.mp rfl
    have all (n : Nat) : ∀ c ∈ Nat.toDigits 10 n ++ ".0".toList, isNumeralChar c :=
      List.forall_mem_append.mpr ⟨fun _ => isNumeralChar_of_mem_toDigits, last⟩
    refine ⟨_, ?_, all (if exponent < 0 then significand / Nat.pow 2 exponent.natAbs
      else significand * Nat.pow 2 exponent.natAbs)⟩
    unfold Number.wholeText
    cases negative with
    | false => exact .inl (by simp)
    | true => exact .inr (by simp)

theorem isNumeral_floatLiteral (x : Float) : IsNumeral (floatLiteral x) := by
  unfold floatLiteral
  split
  · exact isNumeral_wholeText _
  · exact isNumeral_text (fun _ => rfl) _

end PredicateLang.Sql
