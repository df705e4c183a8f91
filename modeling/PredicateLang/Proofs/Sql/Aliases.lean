import PredicateLang.Proofs.Scoping.Compiled
import PredicateLang.Proofs.Sql.Reading
import PredicateLang.Proofs.Sql.Written

/-!
# Rows are named inside of their queries

The alias of a row is introduced by the `FROM` of a query in parentheses, and may stand inside of
these parentheses only, but for the alias of the object. `Sql.Free S ts` says of tokens that every
alias in them, other than those in `S`, stands inside of such a query.

While a query is written a name stands for a text, which is pasted wherever the name stands. The text
of an assigned variable may get out of the query that it belongs to. Where every name is introduced by
a node above it no text does, and the aliases of the query are in scope (`Target.sql_inside`).
-/

namespace PredicateLang

namespace Sql

/-! ## Parentheses -/

/-- The number of open parentheses after the token, if there have been so many before it. -/
def QueryToken.depth? (t : QueryToken) (d : Nat) : Option Nat :=
  if t = .sign '(' then some (d + 1)
  else if t = .sign ')' then (if d = 0 then none else some (d - 1))
  else some d

/-- The number of open parentheses after the tokens. -/
def depth? (d : Nat) (ts : List QueryToken) : Option Nat := ts.foldlM (fun d t => t.depth? d) d

/-- Every parenthesis is closed, and none that is not open. -/
def Balanced (ts : List QueryToken) : Prop := depth? 0 ts = some 0

section

variable {d e k : Nat} {t : QueryToken} {ts us vs ws : List QueryToken}

theorem depth?_append : depth? d (ts ++ us) = (depth? d ts).bind fun d => depth? d us :=
  List.foldlM_append

theorem depth?_cons : depth? d (t :: ts) = (t.depth? d).bind fun d => depth? d ts := rfl

/-- Parentheses that are open before do not matter. -/
theorem depth?_add (h : depth? d ts = some e) (k : Nat) : depth? (d + k) ts = some (e + k) := by
  induction ts generalizing d with
  | nil =>
    cases h
    rfl
  | cons t ts ih =>
    rw [depth?_cons] at h ⊢
    obtain ⟨d', step, rest⟩ := Option.bind_eq_some_iff.mp h
    have step' : t.depth? (d + k) = some (d' + k) := by
      unfold QueryToken.depth? at step ⊢
      split at step
      · cases step
        rw [if_pos ‹_›]
        congr 1
        omega
      · rw [if_neg ‹_›]
        split at step
        · rw [if_pos ‹_›]
          split at step <;> cases step
          rw [if_neg (by omega)]
          congr 1
          omega
        · cases step
          rw [if_neg ‹_›]
    rw [step']
    exact ih rest

theorem Balanced.depth? (h : Balanced ts) (d : Nat) : depth? d ts = some d := by
  have shifted := depth?_add h d
  rwa [Nat.zero_add] at shifted

theorem Balanced.append (h : Balanced ts) (h' : Balanced us) : Balanced (ts ++ us) := by
  rw [Balanced, depth?_append, h]
  exact h'

/-- What balanced tokens are put between must be balanced without them. -/
theorem Balanced.between (h : Balanced us) (h' : Balanced (ts ++ vs)) :
    Balanced (ts ++ us ++ vs) := by
  rw [Balanced, depth?_append] at h'
  obtain ⟨d, first, second⟩ := Option.bind_eq_some_iff.mp h'
  rw [Balanced, depth?_append, depth?_append, first]
  simpa [h.depth? d] using second

end

/-! ## Aliases -/

/-- The alias with a number. -/
def rowAlias (n : Nat) : QueryToken := .word ('t' :: Nat.toDigits 10 n)

/-- A word of the query language. -/
def word (s : String) : QueryToken := .word s.toList

/-- The tokens are a query for something of rows whose alias has the number. -/
def Introduces (n : Nat) (ts : List QueryToken) : Prop :=
  ∃ what origin rest, ts = word "SELECT" :: what ++ word "FROM" :: origin
      ++ word "AS" :: rowAlias n :: rest
    ∧ Balanced what ∧ Balanced origin ∧ Balanced rest

/-- Between the tokens, the alias with the number stands inside of a query in parentheses that
introduces it. -/
def Inside (n : Nat) (before after : List QueryToken) : Prop :=
  ∃ outer inner inner' outer', before = outer ++ .sign '(' :: inner
    ∧ after = inner' ++ .sign ')' :: outer' ∧ Introduces n (inner ++ rowAlias n :: inner')

/-- Every alias, other than those with certain numbers, stands inside of a query that introduces it.
What stands behind a point is the name of a property. -/
def Free (S : Set Nat) (ts : List QueryToken) : Prop :=
  ∀ n before after, ts = before ++ rowAlias n :: after → before.getLast? ≠ some (.sign '.') →
    n ∈ S ∨ Inside n before after

/-- If no comment begins in the text, then every alias but `t0` stands inside of a query that introduces
it. -/
def AliasesInScope (text : String) : Prop :=
  .comment ∉ tokens text → ∀ n before after, tokens text = before ++ rowAlias n :: after →
    before.getLast? ≠ some (.sign '.') → n ≠ 0 → Inside n before after

/-- Parentheses and aliases are in order. -/
structure Placed (S : Set Nat) (ts : List QueryToken) : Prop where
  balanced : Balanced ts
  free : Free S ts

section

variable {S S' : Set Nat} {n m : Nat} {t : QueryToken} {ts us vs before after : List QueryToken}

theorem Inside.append (h : Inside n before after) (ts us : List QueryToken) :
    Inside n (ts ++ before) (after ++ us) := by
  obtain ⟨outer, inner, inner', outer', rfl, rfl, introduces⟩ := h
  exact ⟨ts ++ outer, inner, inner', outer' ++ us, by simp, by simp, introduces⟩

theorem Free.mono (h : Free S ts) (le : S ⊆ S') : Free S' ts :=
  fun n before after is plain => (h n before after is plain).imp_left fun mem => le mem

theorem Free.append (h : Free S ts) (h' : Free S us) : Free S (ts ++ us) := by
  intro n before after is plain
  have second {middle : List QueryToken} (first : before = ts ++ middle)
      (rest : us = middle ++ rowAlias n :: after) : n ∈ S ∨ Inside n before after := by
    subst first
    have plain' : middle.getLast? ≠ some (.sign '.') := by
      intro last
      rw [List.getLast?_append, last] at plain
      exact plain rfl
    refine (h' n middle after rest plain').imp_right fun inside => ?_
    have whole := inside.append ts []
    rwa [List.append_nil] at whole
  rcases List.append_eq_append_iff.mp is with ⟨middle, first, rest⟩ | ⟨middle, first, rest⟩
  · exact second first rest
  · -- An alias at the front of the second part is split off with nothing of the first.
    cases middle with
    | nil =>
      rw [List.append_nil] at first
      have all : before = ts ++ [] := by rw [first, List.append_nil]
      exact second all rest.symm
    | cons t middle =>
      obtain ⟨rfl, rfl⟩ := List.cons.inj rest
      exact (h n before middle first plain).imp_right fun inside => inside.append [] us

theorem Placed.append (h : Placed S ts) (h' : Placed S us) : Placed S (ts ++ us) :=
  ⟨h.balanced.append h'.balanced, h.free.append h'.free⟩

theorem Placed.mono (h : Placed S ts) (le : S ⊆ S') : Placed S' ts :=
  ⟨h.balanced, h.free.mono le⟩

/-! ### Fixed tokens -/

/-- Is the token no alias? -/
def QueryToken.isPlain : QueryToken → Bool
  | .word chars => chars.head? ≠ some 't'
  | _ => true

theorem free_of_isPlain (h : ∀ t ∈ ts, t.isPlain) : Free S ts := by
  rintro n before after rfl -
  have plain := h (rowAlias n) (by simp)
  cases plain

theorem rowAlias_inj (h : rowAlias n = rowAlias m) : n = m := by
  have same := congrArg (fun ds => Nat.ofDigitChars 10 ds 0) (List.cons.inj (QueryToken.word.inj h)).2
  simpa using same

/-- An alias in scope. -/
theorem free_rowAlias (mem : n ∈ S) : Free S [rowAlias n] := by
  intro m before after is _
  obtain ⟨none, same⟩ := List.append_eq_singleton_iff.mp is.symm |>.resolve_right nofun
  obtain ⟨same, -⟩ := List.cons.inj same
  exact .inl (rowAlias_inj same ▸ mem)

/-- The name of a property behind a point. -/
theorem free_property (t : QueryToken) : Free S [.sign '.', t] := by
  intro n before after is plain
  cases before with
  | nil => cases is
  | cons first before =>
    obtain ⟨rfl, rest⟩ := List.cons.inj is
    obtain ⟨none, -⟩ := List.append_eq_singleton_iff.mp rest.symm |>.resolve_right nofun
    subst none
    exact absurd rfl plain

/-! ### Queries -/

/-- The tokens are a query for something of rows, whose alias may stand in it. -/
def Queries (S : Set Nat) (n : Nat) (ts : List QueryToken) : Prop :=
  ∃ what origin rest, ts = word "SELECT" :: what ++ word "FROM" :: origin
      ++ word "AS" :: rowAlias n :: rest
    ∧ Placed (insert n S) what ∧ Placed S origin ∧ Placed (insert n S) rest

theorem placed_word {s : String} (plain : (word s).isPlain) : Placed S [word s] :=
  ⟨rfl, free_of_isPlain (List.forall_mem_singleton.mpr plain)⟩

theorem Queries.append (h : Queries S n ts) (h' : Placed (insert n S) us) :
    Queries S n (ts ++ us) := by
  obtain ⟨what, origin, rest, rfl, p, q, r⟩ := h
  exact ⟨what, origin, rest ++ us, by simp, p, q, r.append h'⟩

theorem Queries.placed (h : Queries S n ts) : Introduces n ts ∧ Placed (insert n S) ts := by
  obtain ⟨what, origin, rest, rfl, p, q, r⟩ := h
  refine ⟨⟨what, origin, rest, rfl, p.balanced, q.balanced, r.balanced⟩, ?_⟩
  have named : Placed (insert n S) [rowAlias n] := ⟨rfl, free_rowAlias (Set.mem_insert n S)⟩
  have first := (placed_word (s := "SELECT") (S := insert n S) rfl).append p
  have second := (placed_word (s := "FROM") rfl).append (q.mono (Set.subset_insert n S))
  have third := (placed_word (s := "AS") rfl).append (named.append r)
  exact (first.append second).append third

/-- A query in parentheses needs the alias of its rows nowhere else. -/
theorem Queries.enclosed (h : Queries S n ts) : Placed S (.sign '(' :: ts ++ [.sign ')']) := by
  obtain ⟨introduces, placed⟩ := h.placed
  have parentheses : Balanced ([.sign '('] ++ [.sign ')']) := rfl
  refine ⟨placed.balanced.between parentheses, ?_⟩
  intro m before after is plain
  cases before with
  | nil => cases is
  | cons first inner =>
    -- The alias is neither the first parenthesis nor the last one.
    rcases List.eq_nil_or_concat after with rfl | ⟨inner', last, rfl⟩
    · have same := (List.append_inj' is rfl).2
      cases same
    · rw [List.cons_append, List.cons_append] at is
      obtain ⟨rfl, rest⟩ := List.cons.inj is
      rw [List.concat_eq_append, ← List.cons_append, ← List.append_assoc] at rest
      obtain ⟨rfl, ends⟩ := List.append_inj' rest rfl
      cases ends
      have plain' : inner.getLast? ≠ some (.sign '.') := by
        intro last
        refine plain ?_
        rw [← List.singleton_append, List.getLast?_append, last]
        rfl
      rcases placed.free m inner inner' rfl plain' with mem | inside
      · rcases mem with rfl | mem
        · exact .inr ⟨[], inner, inner', [], rfl, List.concat_eq_append, introduces⟩
        · exact .inl mem
      · rw [List.concat_eq_append]
        exact .inr (inside.append [.sign '('] [.sign ')'])

end

/-! ## Texts -/

/-- If no comment begins in the text, then it is complete and what it is read as satisfies `P`. -/
def ReadAs (P : List QueryToken → Prop) (s : String) : Prop :=
  .comment ∉ seen s → (reached s).mayEnd ∧ P (tokens s)

/-- In the text parentheses and aliases are in order. -/
abbrev Fine (S : Set Nat) (s : String) : Prop := ReadAs (Placed S) s

section

variable {P P' Q : List QueryToken → Prop} {s t f : String}

theorem ReadAs.imp (h : ReadAs P s) (h' : ∀ ts, P ts → Q ts) : ReadAs Q s :=
  fun none => (h none).imp_right (h' _)

theorem ReadAs.behind (h : ReadAs P s) (opening : opens f)
    (h' : ∀ ts, P ts → Q (tokens f ++ ts)) : ReadAs Q (f ++ s) := by
  intro none
  rw [opens, Bool.and_eq_true, decide_eq_true_eq, decide_eq_true_eq] at opening
  have place := opening.2
  rw [seen_append_of_between place, List.mem_append, not_or] at none
  obtain ⟨ends, holds⟩ := h none.2
  rw [reached_append_of_between place, tokens_append_of_between place]
  exact ⟨ends, h' _ holds⟩

theorem ReadAs.close (h : ReadAs P s) (closing : closes f)
    (h' : ∀ ts, P ts → Q (ts ++ tokens f)) : ReadAs Q (s ++ f) := by
  intro none
  rw [closes, Bool.and_eq_true, Bool.and_eq_true, decide_eq_true_eq] at closing
  obtain ⟨⟨separate, _⟩, last⟩ := closing
  obtain ⟨ends, holds⟩ := h fun comment => none (comment_mem_append comment f)
  rw [reached_append_of_isSeparate ends separate, tokens_append_of_isSeparate ends separate]
  exact ⟨last, h' _ holds⟩

theorem ReadAs.then (h : ReadAs P s) (separating : separates f) (h' : ReadAs P' t)
    (h'' : ∀ ts us, P ts → P' us → Q (ts ++ tokens f ++ us)) : ReadAs Q (s ++ f ++ t) := by
  intro none
  rw [separates, opens, Bool.and_eq_true, Bool.and_eq_true, decide_eq_true_eq,
    decide_eq_true_eq] at separating
  obtain ⟨separate, _, opening⟩ := separating
  have none' : .comment ∉ seen (s ++ f) := fun comment => none (comment_mem_append comment t)
  obtain ⟨ends, holds⟩ := h fun comment => none' (comment_mem_append comment f)
  have place : reached (s ++ f) = .between :=
    (reached_append_of_isSeparate ends separate).trans opening
  rw [seen_append_of_between place, List.mem_append, not_or] at none
  obtain ⟨ends', holds'⟩ := h' none.2
  rw [reached_append_of_between place, tokens_append_of_between place,
    tokens_append_of_isSeparate ends separate]
  exact ⟨ends', h'' _ _ holds holds'⟩

end

/-! ### Fixed texts -/

/-- Are there no aliases in the tokens, and is every parenthesis closed? -/
def isNeutral (ts : List QueryToken) : Bool := ts.all QueryToken.isPlain && depth? 0 ts = some 0

/-- May a text be put between the two? -/
def encloses (before after : String) : Bool :=
  opens before && closes after && isNeutral (tokens before ++ tokens after)

/-- May texts be put between the three? -/
def enclosesBoth (before between after : String) : Bool :=
  opens before && separates between && closes after
    && isNeutral (tokens before ++ tokens between ++ tokens after)

/-- Is the text complete, without aliases? -/
def stands (f : String) : Bool := (reached f).mayEnd && isNeutral (tokens f)

section

variable {S S' : Set Nat} {ts us vs : List QueryToken} {s t f before middle after : String}

theorem placed_of_isNeutral (h : isNeutral ts) : Placed S ts := by
  rw [isNeutral, Bool.and_eq_true, List.all_eq_true, decide_eq_true_eq] at h
  exact ⟨h.2, free_of_isPlain h.1⟩

theorem Placed.between (h : Placed S us) (neutral : isNeutral (ts ++ vs)) :
    Placed S (ts ++ us ++ vs) := by
  rw [isNeutral, Bool.and_eq_true, List.all_eq_true, decide_eq_true_eq] at neutral
  obtain ⟨plain, balanced⟩ := neutral
  have plain := List.forall_mem_append.mp plain
  refine ⟨h.balanced.between balanced, ?_⟩
  exact ((free_of_isPlain plain.1).append h.free).append (free_of_isPlain plain.2)

theorem fine_of_stands (h : stands f) : Fine S f := by
  rw [stands, Bool.and_eq_true] at h
  exact fun _ => ⟨h.1, placed_of_isNeutral h.2⟩

theorem Fine.mono (h : Fine S s) (le : S ⊆ S') : Fine S' s := h.imp fun _ placed => placed.mono le

theorem Fine.operand (h : Fine S s) (frame : encloses before after) :
    Fine S (before ++ s ++ after) := by
  rw [encloses, Bool.and_eq_true, Bool.and_eq_true] at frame
  obtain ⟨⟨opening, closing⟩, neutral⟩ := frame
  have inner : ReadAs (fun ts => Placed S (tokens before ++ ts)) (s ++ after) := by
    refine h.close closing fun ts placed => ?_
    rw [← List.append_assoc]
    exact placed.between neutral
  rw [String.append_assoc]
  exact inner.behind opening fun _ => id

theorem Fine.operands (h : Fine S s) (h' : Fine S t) (frame : enclosesBoth before middle after) :
    Fine S (before ++ s ++ middle ++ t ++ after) := by
  rw [enclosesBoth, Bool.and_eq_true, Bool.and_eq_true, Bool.and_eq_true] at frame
  obtain ⟨⟨⟨opening, separating⟩, closing⟩, neutral⟩ := frame
  rw [isNeutral, Bool.and_eq_true, List.all_eq_true, decide_eq_true_eq] at neutral
  obtain ⟨plain, balanced⟩ := neutral
  rw [List.forall_mem_append, List.forall_mem_append] at plain
  have whole {ts us : List QueryToken} (placed : Placed S ts) (placed' : Placed S us) :
      Placed S (tokens before ++ (ts ++ tokens middle ++ (us ++ tokens after))) := by
    constructor
    · have second := placed'.balanced.between balanced
      rw [List.append_assoc, List.append_assoc] at second
      have first := placed.balanced.between second
      simpa only [List.append_assoc] using first
    · have first := (placed.free.append (free_of_isPlain plain.1.2)).append
        (placed'.free.append (free_of_isPlain plain.2))
      exact (free_of_isPlain plain.1.1).append first
  have last : ReadAs (fun ts => ∃ us, ts = us ++ tokens after ∧ Placed S us) (t ++ after) :=
    h'.close closing fun us placed => ⟨us, rfl, placed⟩
  have inner : ReadAs (fun ts => Placed S (tokens before ++ ts)) (s ++ middle ++ (t ++ after)) := by
    refine h.then separating last ?_
    rintro ts _ placed ⟨us, rfl, placed'⟩
    exact whole placed placed'
  have assoc : before ++ s ++ middle ++ t ++ after = before ++ (s ++ middle ++ (t ++ after)) := by
    simp only [String.append_assoc]
  rw [assoc]
  exact inner.behind opening fun _ => id

theorem Fine.behind (h : Fine S s) (opening : opens f) (neutral : isNeutral (tokens f)) :
    Fine S (f ++ s) :=
  ReadAs.behind h opening fun _ placed => (placed_of_isNeutral neutral).append placed

theorem fine_join (separating : separates middle) (neutral : isNeutral (tokens middle))
    {ss : List String} (h : ∀ s ∈ ss, Fine S s) : Fine S (Text.join middle ss) := by
  induction ss with
  | nil =>
    show Fine S ""
    exact fine_of_stands (by decide)
  | cons s ss ih =>
    obtain ⟨first, others⟩ := List.forall_mem_cons.mp h
    cases ss with
    | nil =>
      rw [Text.join_singleton]
      exact first
    | cons t ss =>
      rw [Text.join_cons_cons]
      exact first.then separating (ih others) fun _ _ placed placed' =>
        (placed.append (placed_of_isNeutral neutral)).append placed'

/-- A minus sign in front of another one begins a comment. -/
theorem Fine.negated (h : Fine S s) : Fine S ("-" ++ s) := by
  intro none
  cases first : lead s with
  | none =>
    obtain rfl := eq_empty_of_lead first
    exact fine_of_stands (by decide) none
  | some minus =>
    cases minus with
    | true => exact absurd (comment_mem_negated first) none
    | false =>
      have known := seen_negated first
      have none' : .comment ∉ seen s := by
        intro comment
        rw [known] at none
        exact none (List.mem_cons_of_mem _ comment)
      obtain ⟨ends, placed⟩ := h none'
      have sign : Placed S [.sign '-'] := placed_of_isNeutral rfl
      rw [tokens, known, reached_negated first]
      exact ⟨ends, sign.append placed⟩

/-- A numeral has no aliases and no parentheses. -/
theorem fine_numeral (h : IsNumeral s) : Fine S s := by
  intro _
  obtain ⟨all, ends⟩ := h.tokens
  refine ⟨ends, ?_⟩
  generalize tokens s = ts at all
  induction ts with
  | nil => exact placed_of_isNeutral rfl
  | cons t ts ih =>
    obtain ⟨first, others⟩ := List.forall_mem_cons.mp all
    have placed : Placed S [t] := by
      cases t with
      | word chars =>
        have none : 't' ∉ chars := of_decide_eq_true first
        refine ⟨rfl, free_of_isPlain (List.forall_mem_singleton.mpr (decide_eq_true ?_))⟩
        exact fun head => none (List.mem_of_head? head)
      | sign c =>
        rw [QueryToken.isOfNumeral, Bool.or_eq_true, decide_eq_true_eq, decide_eq_true_eq] at first
        rcases first with rfl | rfl <;> exact placed_of_isNeutral rfl
      | _ => cases first
    exact placed.append (ih others)

theorem fine_quote (text : List Char) : Fine S (quote text) := by
  intro _
  have run := runs_quote text
  rw [tokens_of_runs run, reached, run.1]
  exact ⟨rfl, placed_of_isNeutral rfl⟩

/-- An alias in scope. -/
theorem fine_rowAlias {n : Nat} (mem : n ∈ S) : Fine S ("t" ++ toString n) := by
  intro _
  have run := runs_alias n
  rw [tokens_of_runs run, reached, run.1]
  exact ⟨rfl, rfl, free_rowAlias mem⟩

/-- Behind a point any name is one of a property. -/
theorem Fine.property (h : Fine S s) (name : String) : Fine S (s ++ "." ++ identifier name) := by
  have token : ReadAs (fun ts => ∃ t, ts = [t] ∧ Balanced [t]) (identifier name) := by
    intro _
    rcases runs_identifier name with run | run <;> rw [tokens_of_runs run, reached, run.1]
    · exact ⟨rfl, _, rfl, rfl⟩
    · exact ⟨rfl, _, rfl, rfl⟩
  refine h.then (by decide) token ?_
  rintro ts _ placed ⟨t, rfl, balanced⟩
  have point : Balanced [.sign '.'] := rfl
  rw [List.append_assoc]
  exact placed.append ⟨point.append balanced, free_property t⟩

end

/-! ## Rows -/

/-- The tokens are something that rows come from under an alias. -/
def Sources (S : Set Nat) (n : Nat) (ts : List QueryToken) : Prop :=
  ∃ origin rest, ts = origin ++ word "AS" :: rowAlias n :: rest
    ∧ Placed S origin ∧ Placed (insert n S) rest

/-- The alias of the rows may stand in their value and in their conditions. -/
structure Rows.Fine (S : Set Nat) (n : Nat) (rows : Rows) : Prop where
  origin : ReadAs (Sources S n) rows.origin
  value : Sql.Fine (insert n S) rows.value
  conditions : ∀ condition ∈ rows.conditions, Sql.Fine (insert n S) condition

section

variable {S : Set Nat} {n : Nat} {rows : Rows} {s : String}

theorem Rows.Fine.select (h : rows.Fine S n) {what : String} (h' : Sql.Fine (insert n S) what) :
    ReadAs (Queries S n) (rows.select what) := by
  have first : ReadAs (fun ts => ∃ us, ts = word "SELECT" :: us ∧ Placed (insert n S) us)
      ("SELECT " ++ what) :=
    ReadAs.behind h' (by decide) fun us placed => ⟨us, rfl, placed⟩
  have source : ReadAs (Queries S n) ("SELECT " ++ what ++ " FROM " ++ rows.origin) := by
    refine first.then (by decide) h.origin ?_
    rintro _ _ ⟨us, rfl, placed⟩ ⟨origin, rest, rfl, placed', placed''⟩
    refine ⟨us, origin, rest, ?_, placed, placed', placed''⟩
    have fixed : tokens " FROM " = [word "FROM"] := rfl
    simp [fixed]
  unfold Rows.select
  split
  · simpa using source
  · have joined := fine_join (by decide : separates " AND ") (by decide) h.conditions
    have all := source.then (by decide : separates " WHERE ") joined fun ts us queries placed => by
      have condition : Placed (insert n S) (tokens " WHERE ") := placed_of_isNeutral (by decide)
      exact (queries.append condition).append placed
    simpa only [String.append_assoc] using all

/-- A query in parentheses. -/
theorem ReadAs.enclosed (h : ReadAs (Queries S n) s) : Fine S ("(" ++ s ++ ")") := by
  have inner : ReadAs (fun ts => Placed S (.sign '(' :: ts)) (s ++ ")") :=
    h.close (by decide) fun _ queries => queries.enclosed
  rw [String.append_assoc]
  exact inner.behind (by decide) fun _ => id

theorem Rows.Fine.selected (h : rows.Fine S n) {what : String} (h' : Sql.Fine (insert n S) what) :
    Sql.Fine S (rows.selected what) :=
  (h.select h').enclosed

/-- The first of the rows behind some others. -/
theorem Rows.Fine.limited (h : rows.Fine S n) {index : String} (h' : Sql.Fine S index) :
    Sql.Fine S ("(" ++ rows.select rows.value ++ " LIMIT 1 OFFSET " ++ index ++ ")") := by
  have limit : Placed (insert n S) (tokens " LIMIT 1 OFFSET ") := placed_of_isNeutral (by decide)
  have whole := ReadAs.enclosed <| (h.select h.value).then
    (by decide : separates " LIMIT 1 OFFSET ") h' fun ts us queries placed =>
      (queries.append limit).append (placed.mono (Set.subset_insert n S))
  simpa only [String.append_assoc] using whole

theorem Rows.Fine.restrict (h : rows.Fine S n) {condition : String}
    (h' : Sql.Fine (insert n S) condition) : (rows.restrict condition).Fine S n :=
  ⟨h.origin, h.value, List.forall_mem_append.mpr ⟨h.conditions, List.forall_mem_singleton.mpr h'⟩⟩

end

/-! ## Steps of writing -/

/-- Where the names stand for texts, what the step gives satisfies `P`. -/
def Makes {α : Type} (names : List (String × String)) (P : α → Prop) (step : Writing α) : Prop :=
  ∀ sheet a after, step names sheet = .ok a after → P a

/-- What the tree is written as has its aliases in order. -/
structure Written.Makes (names : List (String × String)) (S : Set Nat) (w : Written) : Prop where
  text : Sql.Makes names (Fine S) w.text
  rows : Sql.Makes names (fun rows => ∃ n, rows.Fine S n) w.rows

/-- The introduced names stand for texts with aliases in scope. -/
def Covers (S : Set Nat) (Γ : Binders) (names : List (String × String)) : Prop :=
  ∀ name, (Fields.find? Γ name).isSome → ∃ text, Fields.find? names name = some text ∧ Fine S text

section

variable {α β : Type} {P : α → Prop} {Q : β → Prop} {names : List (String × String)}
  {S S' : Set Nat} {Γ : Binders} {name text : String} {step : Writing α}

theorem makes_pure {a : α} (h : P a) : Makes names P (pure a) := by
  intro sheet a after run
  cases run
  exact h

theorem makes_throw (e : Error) : Makes names P (throw e) := by
  intro sheet a after run
  cases run

theorem makes_ofResult {made : Except Error α} (h : ∀ a, made = .ok a → P a) :
    Makes names P (ofResult made) := by
  cases made with
  | ok a => exact makes_pure (h a rfl)
  | error e => exact makes_throw e

theorem Makes.bind {next : α → Writing β} (h : Makes names P step)
    (h' : ∀ a, P a → Makes names Q (next a)) : Makes names Q (step >>= next) := by
  intro sheet b after run
  obtain ⟨a, between, first, second⟩ := exists_of_run_bind run
  exact h' a (h sheet a between first) between b after second

/-- What is made of a result. -/
theorem Makes.map {f : α → β} (h : Makes names P step) (h' : ∀ a, P a → Q (f a)) :
    Makes names Q (do return f (← step)) :=
  h.bind fun a holds => makes_pure (h' a holds)

theorem Makes.withText (h : Makes ((name, text) :: names) P step) :
    Makes names P (withText name text step) := h

theorem makes_nextAlias : Makes names (fun name => ∃ n : Nat, name = "t" ++ toString n) nextAlias := by
  intro sheet name after run
  cases run
  exact ⟨_, rfl⟩

theorem makes_assign (name text : String) : Makes names (fun _ => True) (assign name text) :=
  fun _ _ _ _ => trivial

theorem Covers.push (h : Covers S Γ names) (le : S ⊆ S') (fine : Fine S' text) (binder : Binder) :
    Covers S' ((name, binder) :: Γ) ((name, text) :: names) := by
  intro other introduced
  rw [Fields.find?] at introduced ⊢
  by_cases same : name = other
  · rw [if_pos same]
    exact ⟨text, rfl, fine⟩
  · rw [if_neg same] at introduced ⊢
    obtain ⟨text', found, fine'⟩ := h other introduced
    exact ⟨text', found, fine'.mono le⟩

theorem makes_textOf (covers : Covers S Γ names) (introduced : (Fields.find? Γ name).isSome) :
    Makes names (Fine S) (textOf name) := by
  intro sheet text after run
  obtain ⟨text', found, fine⟩ := covers name introduced
  rw [textOf_run, found] at run
  cases run
  exact fine

end

/-! ## Rows and texts -/

section

variable {names : List (String × String)} {S : Set Nat} {Γ : Binders} {n : Nat} {name s : String}
  {rows : Rows} {w v : Written}

/-- Rows come from a text under an alias. -/
theorem Fine.source (h : Fine S s) (n : Nat) :
    ReadAs (Sources S n) (s ++ " AS " ++ ("t" ++ toString n)) := by
  have name : ReadAs (· = [rowAlias n]) ("t" ++ toString n) := by
    intro _
    have run := runs_alias n
    rw [tokens_of_runs run, reached, run.1]
    exact ⟨rfl, rfl⟩
  refine h.then (by decide) name fun ts us placed is => ⟨ts, [], ?_, placed, ?_⟩
  · have fixed : tokens " AS " = [word "AS"] := rfl
    simp [is, fixed]
  · exact placed_of_isNeutral rfl

theorem fine_rowAlias_self (n : Nat) : Fine (insert n S) ("t" ++ toString n) :=
  fine_rowAlias (Set.mem_insert n S)

theorem makes_table {text : Writing String} (h : Makes names (Fine S) text) :
    Makes names (fun rows => ∃ n, rows.Fine S n) (table text) := by
  refine h.bind fun s fine => makes_nextAlias.map ?_
  rintro _ ⟨n, rfl⟩
  exact ⟨n, fine.source n, fine_rowAlias_self n, nofun⟩

theorem makes_ofText {text : Writing String} (h : Makes names (Fine S) text) :
    (ofText text).Makes names S :=
  ⟨h, makes_table h⟩

/-- A text that is made of rows, whatever their alias. -/
theorem Makes.ofRows {step : Writing Rows} {next : Rows → String}
    (h : Makes names (fun rows => ∃ n, rows.Fine S n) step)
    (h' : ∀ n rows, rows.Fine S n → Fine S (next rows)) :
    Makes names (Fine S) (do return next (← step)) := by
  refine h.map fun rows made => ?_
  obtain ⟨n, fine⟩ := made
  exact h' n rows fine

theorem makes_ofRows {step : Writing Rows} (h : Makes names (fun rows => ∃ n, rows.Fine S n) step) :
    (ofRows step).Makes names S :=
  ⟨h.ofRows fun _ _ fine => fine.selected fine.value, h⟩

theorem makes_withSubject (h : w.Makes names S)
    (h' : ∀ text, Fine S text → v.Makes ((name, text) :: names) S) :
    (withSubject w name v).Makes names S :=
  ⟨h.text.bind fun text fine => (h' text fine).text.withText,
    h.text.bind fun text fine => (h' text fine).rows.withText⟩

/-- A step on the rows of a source and on a body in which a name stands for the value of a row. -/
theorem makes_rows {α : Type} {P : α → Prop} {next : Rows → String → Writing α}
    (h : w.Makes names S)
    (h' : ∀ n value, Fine (insert n S) value → v.Makes ((name, value) :: names) (insert n S))
    (h'' : ∀ n rows text, rows.Fine S n → Fine (insert n S) text → Makes names P (next rows text)) :
    Makes names P (do
      let rows ← w.rows
      let text ← withText name rows.value v.text
      next rows text) := by
  refine h.rows.bind fun rows made => ?_
  obtain ⟨n, fine⟩ := made
  exact ((h' n rows.value fine.value).text.withText).bind fun text fine' =>
    h'' n rows text fine fine'

theorem makes_quantify (quantifier : Quantifier) (h : w.Makes names S)
    (h' : ∀ n value, Fine (insert n S) value → v.Makes ((name, value) :: names) (insert n S)) :
    Makes names (Fine S) (quantify quantifier w name v) := by
  refine makes_rows h h' fun n rows condition fine fine' => ?_
  have one : Fine (insert n S) "1" := fine_of_stands (by decide)
  cases quantifier with
  | any =>
    exact makes_pure (((fine.restrict fine').selected one).behind (by decide) (by decide))
  | all =>
    have negated : Fine (insert n S) ("NOT " ++ condition) := fine'.behind (by decide) (by decide)
    exact makes_pure (((fine.restrict negated).selected one).behind (by decide) (by decide))

/-! ### Lists -/

variable {ws : List Written}

theorem makes_texts (h : ∀ w ∈ ws, w.Makes names S) :
    Makes names (fun texts => ∀ s ∈ texts, Fine S s) (texts ws) := by
  induction ws with
  | nil => exact makes_pure nofun
  | cons w ws ih =>
    obtain ⟨first, others⟩ := List.forall_mem_cons.mp h
    exact first.text.bind fun _ fine => (ih others).map fun _ all =>
      List.forall_mem_cons.mpr ⟨fine, all⟩

/-- Texts with commas between them. -/
theorem fine_commas {ss : List String} (h : ∀ s ∈ ss, Fine S s) : Fine S (Text.join ", " ss) :=
  fine_join (by decide) (by decide) h

theorem makes_listRows (h : ∀ w ∈ ws, w.Makes names S) :
    Makes names (fun rows => ∃ n, rows.Fine S n) (listRows ws) := by
  refine makes_nextAlias.bind ?_
  rintro _ ⟨n, rfl⟩
  have value : Fine (insert n S) ("t" ++ toString n ++ ".value") := by
    have property := (fine_rowAlias_self (S := S) n).property "value"
    rwa [String.append_assoc] at property
  split
  · have empty : Fine S "(SELECT NULL AS value WHERE 1 = 0)" := fine_of_stands (by decide)
    exact makes_pure ⟨n, empty.source n, value, nofun⟩
  · refine (makes_texts h).map fun items all => ⟨n, ?_, value, nofun⟩
    have rows : ∀ row ∈ items.map fun text => "(" ++ text ++ ")", Fine S row :=
      List.forall_mem_map.mpr fun text mem => (all text mem).operand (by decide)
    have values := ((fine_commas rows).operand (by decide : encloses "(VALUES " ")")).source n
    have column : isNeutral (tokens "(value)") := by decide
    have whole : ReadAs (Sources S n) _ := values.close (by decide : closes "(value)") ?_
    · have same : (") AS " : String) = ")" ++ " AS " := rfl
      rw [same]
      simpa only [String.append_assoc] using whole
    · rintro _ ⟨origin, rest, rfl, placed, placed'⟩
      exact ⟨origin, rest ++ _, by simp, placed, placed'.append (placed_of_isNeutral column)⟩

theorem makes_list (h : ∀ w ∈ ws, w.Makes names S) : (list ws).Makes names S :=
  ⟨(makes_texts h).map fun _ all => (fine_commas all).operand (by decide), makes_listRows h⟩

/-! ### Operations -/

theorem makes_binary (op : BinaryOp) (leftIsNull rightIsNull : Bool) (h : w.Makes names S)
    (h' : v.Makes names S) : Makes names (Fine S) (binary op leftIsNull rightIsNull w v) := by
  have tested {test s : String} (is : nullTest? op = some test) (fine : Fine S s) :
      Fine S ("(" ++ s ++ " " ++ test ++ ")") := by
    have frame : encloses "(" (" " ++ test ++ ")") := by
      cases op with
      | equal | notEqual =>
        cases is
        decide
      | _ => cases is
    have whole := fine.operand frame
    simpa only [String.append_assoc] using whole
  have signed {s t : String} (fine : Fine S s) (fine' : Fine S t) :
      Fine S ("(" ++ s ++ " " ++ signOf op ++ " " ++ t ++ ")") := by
    have frame : enclosesBoth "(" (" " ++ signOf op ++ " ") ")" := by cases op <;> decide
    have whole := fine.operands fine' frame
    simpa only [String.append_assoc] using whole
  unfold binary
  split
  · exact h.text.map fun _ fine => tested ‹_› fine
  · exact h'.text.map fun _ fine => tested ‹_› fine
  · refine h.text.bind fun left fine => h'.text.bind fun right fine' => ?_
    split
    · exact makes_pure (fine.operands fine' (by decide))
    · exact makes_pure (signed fine fine')

theorem fine_cast {kind : Kind} {type : String} (is : typeOf kind = .ok type) (h : Fine S s) :
    Fine S ("CAST(" ++ s ++ " AS " ++ type ++ ")") := by
  have frame : encloses "CAST(" (" AS " ++ type ++ ")") := by
    unfold typeOf at is
    split at is <;> cases is <;> decide
  have whole := h.operand frame
  simpa only [String.append_assoc] using whole

theorem fine_unary (op : UnaryOp) (h : Fine S s) : Fine S (signBefore op ++ s) := by
  cases op with
  | not | onesComplement => exact h.behind (by decide) (by decide)
  | negate => exact h.negated

/-! ### Calls -/

variable {args : List Argument}

theorem makes_argument (h : ∀ arg ∈ args, arg.written.Makes names S) (index : Nat) :
    Makes names (Fine S) (argument args index) := by
  unfold argument
  cases found : args[index]? with
  | none => exact makes_throw _
  | some arg => exact (h arg (List.mem_of_getElem? found)).text

theorem makes_apply {name : String} (frame : encloses (name ++ "(") ")")
    (h : ∀ arg ∈ args, arg.written.Makes names S) : Makes names (Fine S) (apply name args) := by
  have written : ∀ w ∈ args.map Argument.written, w.Makes names S := List.forall_mem_map.mpr h
  exact (makes_texts written).map fun _ all => (fine_commas all).operand frame

theorem fine_like (h : Fine S s) (pattern : List Char) : Fine S (like s pattern) :=
  h.operands (fine_quote pattern) (by decide)

/-- A test of a subject against a pattern, which is written into the test if it is a constant. -/
theorem makes_pattern {pattern : String → List Char} {computed : String → Writing String}
    (h : ∀ arg ∈ args, arg.written.Makes names S)
    (h' : ∀ subject, Fine S subject → Makes names (Fine S) (computed subject)) :
    Makes names (Fine S) (do
      let subject ← argument args 0
      match stringArgument? args 1 with
      | some text => return like subject (pattern text)
      | none => computed subject) := by
  refine (makes_argument h 0).bind fun subject fine => ?_
  cases stringArgument? args 1 with
  | some text => exact makes_pure (fine_like fine _)
  | none => exact h' subject fine

/-- A step on the texts of the first two arguments. -/
theorem makes_pair {next : String → String → String} (h : ∀ arg ∈ args, arg.written.Makes names S)
    (h' : ∀ s t, Fine S s → Fine S t → Fine S (next s t)) :
    Makes names (Fine S) (do
      let first ← argument args 0
      let second ← argument args 1
      return next first second) :=
  (makes_argument h 0).bind fun _ fine => (makes_argument h 1).map fun _ fine' => h' _ _ fine fine'

theorem makes_contains (h : ∀ arg ∈ args, arg.written.Makes names S) :
    Makes names (Fine S) (contains args) := by
  unfold contains
  split
  · rename_i haystack needle
    rw [List.forall_mem_cons, List.forall_mem_singleton] at h
    obtain ⟨first, second⟩ := h
    split
    · exact second.text.bind fun _ fine => first.text.map fun _ fine' =>
        fine.operands fine' (by decide)
    · split
      · refine first.text.bind fun subject fine => ?_
        split
        · exact makes_pure (fine_like fine _)
        · exact second.text.map fun _ fine' => fine'.operands fine (by decide)
      · exact second.text.bind fun _ fine => first.rows.ofRows fun _ _ fine' =>
          fine.operands (fine'.selected fine'.value) (by decide)
  · exact makes_throw _

theorem makes_call (builtin : Builtin) (h : ∀ arg ∈ args, arg.written.Makes names S) :
    Makes names (Fine S) (call builtin args) := by
  cases builtin with
  | random | now => exact makes_pure (fine_of_stands (by decide))
  | randomBelow => exact (makes_argument h 0).map fun _ fine => fine.operand (by decide)
  | isMatch => exact makes_pair h fun _ _ fine fine' => fine.operands fine' (by decide)
  | like => exact makes_pattern h fun _ _ => makes_throw _
  | beginsWith | endsWith =>
    exact makes_pattern h fun _ fine => (makes_argument h 1).map fun _ fine' =>
      fine.operands fine' (by decide)
  | contains => exact makes_contains h
  | dateAdd unit | backendDateAdd unit =>
    have frame : enclosesBoth ("DATEADD(" ++ unitName unit ++ ", CAST(") " AS INT), " ")" := by
      cases unit <;> decide
    exact makes_pair h fun _ _ fine fine' => fine'.operands fine frame
  | castNumber | castString | castDate => exact makes_throw _
  | _ => exact makes_apply (by decide) h

end

/-! ### Literals -/

section

variable {S : Set Nat}

mutual

theorem fine_literal (v : Value) {text : String} (made : literal v = .ok text) : Fine S text := by
  match v with
  | .null =>
    obtain rfl := Except.ok.inj made
    exact fine_of_stands (by decide)
  | .boolean b =>
    obtain rfl := Except.ok.inj made
    cases b <;> exact fine_of_stands (by decide)
  | .integer n =>
    obtain rfl := Except.ok.inj made
    exact fine_numeral (isNumeral_integerText n.val)
  | .float x =>
    obtain rfl := Except.ok.inj made
    exact fine_numeral (isNumeral_floatLiteral x.toFloat)
  | .double x =>
    obtain rfl := Except.ok.inj made
    exact fine_numeral (isNumeral_floatLiteral x)
  | .string s =>
    obtain rfl := Except.ok.inj made
    exact fine_quote s.toList
  | .guid g =>
    obtain rfl := Except.ok.inj made
    exact fine_quote g.text.toList
  | .date t =>
    obtain rfl := Except.ok.inj made
    exact (fine_quote t.text.toList).behind (by decide) (by decide)
  | .array items =>
    unfold literal at made
    obtain ⟨texts, all, made⟩ := exists_of_bind_ok made
    cases made
    exact (fine_commas (fine_literals items all)).operand (by decide)
  | .object _ => cases made

theorem fine_literals (vs : List Value) {texts : List String} (made : literals vs = .ok texts) :
    ∀ text ∈ texts, Fine S text := by
  match vs with
  | [] =>
    cases made
    exact nofun
  | v :: rest =>
    unfold literals at made
    obtain ⟨first, one, made⟩ := exists_of_bind_ok made
    obtain ⟨others, all, made⟩ := exists_of_bind_ok made
    cases made
    exact List.forall_mem_cons.mpr ⟨fine_literal v one, fine_literals rest all⟩

end

end

end Sql

/-! ## Trees -/

open Sql

namespace Target

mutual

/-- Where every name in a tree is introduced, the tree is written with its aliases in order. -/
theorem makes_written {Γ : Binders} {S : Set Nat} {names : List (String × String)} (t : Target)
    (h : t.Everywhere IsIntroduced Γ) (covers : Covers S Γ names) : t.written.Makes names S := by
  match t with
  | .constant _ value => exact makes_ofText (makes_ofResult fun _ made => fine_literal value made)
  | .parameter _ name => exact makes_ofText (makes_textOf covers (everywhere_iff.mp h).1)
  | .property _ t name =>
    exact makes_ofText ((makes_written t (h.only rfl) covers).text.map fun _ fine =>
      fine.property name)
  | .guard _ s name t | .bind _ s name t =>
    obtain ⟨first, second⟩ := h.both rfl
    exact makes_withSubject (makes_written s first covers) fun text fine =>
      makes_written t second (covers.push subset_rfl fine _)
  | .map _ s name t =>
    obtain ⟨first, second⟩ := h.both rfl
    -- In the body the alias of the rows is in scope, and their value may stand there.
    refine makes_ofRows (makes_rows (makes_written s first covers) (fun n value fine => ?_) ?_)
    · exact makes_written t second (covers.push (Set.subset_insert n S) fine _)
    · exact fun n rows text fine fine' => makes_pure ⟨n, fine.origin, fine', fine.conditions⟩
  | .filter _ s name t =>
    obtain ⟨first, second⟩ := h.both rfl
    refine makes_ofRows (makes_rows (makes_written s first covers) (fun n value fine => ?_) ?_)
    · exact makes_written t second (covers.push (Set.subset_insert n S) fine _)
    · exact fun n rows text fine fine' => makes_pure ⟨n, fine.restrict fine'⟩
  | .quantify _ quantifier s name t =>
    obtain ⟨first, second⟩ := h.both rfl
    refine makes_ofText (makes_quantify quantifier (makes_written s first covers) ?_)
    exact fun n value fine => makes_written t second (covers.push (Set.subset_insert n S) fine _)
  | .count _ s =>
    exact makes_ofText ((makes_written s (h.only rfl) covers).rows.ofRows fun _ _ fine =>
      fine.selected (fine_of_stands (by decide)))
  | .reduce _ reduction s =>
    have frame : encloses (reductionName reduction ++ "(") ")" := by cases reduction <;> decide
    exact makes_ofText ((makes_written s (h.only rfl) covers).rows.ofRows fun _ _ fine =>
      fine.selected (fine.value.operand frame))
  | .elementAt _ s t =>
    obtain ⟨first, second⟩ := h.both rfl
    exact makes_ofText ((makes_written t second covers).text.bind fun index fine =>
      (makes_written s first covers).rows.ofRows fun _ _ fine' => fine'.limited fine)
  | .list _ ts =>
    refine makes_list ?_
    rw [← map_written_arguments]
    exact List.forall_mem_map.mpr (makes_writtenAll ts (h.all rfl) covers)
  | .binary kind op s t =>
    obtain ⟨first, second⟩ := h.both rfl
    exact makes_ofText (makes_binary op _ _ (makes_written s first covers)
      (makes_written t second covers))
  | .unary _ op t =>
    exact makes_ofText ((makes_written t (h.only rfl) covers).text.map fun _ fine =>
      fine_unary op fine)
  | .call _ builtin ts =>
    exact makes_ofText (makes_call builtin (makes_writtenAll ts (h.all rfl) covers))
  | .convert kind t =>
    refine makes_ofText ((makes_written t (h.only rfl) covers).text.bind fun text fine => ?_)
    cases known : typeOf kind with
    | error e => exact makes_throw e
    | ok type => exact makes_pure (fine_cast known fine)
  | .assign _ name t =>
    exact makes_ofText ((makes_written t (h.only rfl) covers).text.bind fun text fine =>
      (makes_assign name text).bind fun _ _ => makes_pure fine)

theorem makes_writtenAll {Γ : Binders} {S : Set Nat} {names : List (String × String)}
    (ts : List Target) (h : ∀ t ∈ ts, t.Everywhere IsIntroduced Γ) (covers : Covers S Γ names) :
    ∀ arg ∈ arguments ts, arg.written.Makes names S := by
  match ts with
  | [] => exact nofun
  | t :: ts =>
    rw [List.forall_mem_cons] at h
    exact List.forall_mem_cons.mpr
      ⟨makes_written t h.1 covers, makes_writtenAll ts h.2 covers⟩

end

/-- The alias of the object. -/
theorem covers_object :
    Covers {0} [(Scope.objectName, .other)] [(Scope.objectName, "t0")] := by
  intro name introduced
  rw [Fields.find?] at introduced ⊢
  by_cases same : Scope.objectName = name
  · rw [if_pos same]
    exact ⟨"t0", rfl, fine_rowAlias (Set.mem_singleton 0)⟩
  · rw [if_neg same] at introduced
    cases introduced

/-- In the query of a tree whose names are introduced the aliases are in scope. -/
theorem aliasesInScope_sql {t : Target}
    (h : t.Everywhere IsIntroduced [(Scope.objectName, .other)]) {text : String}
    (made : t.sql = .ok text) : AliasesInScope text := by
  intro none n before after is name other
  have makes := (makes_written t h covers_object).text
  unfold sql at made
  split at made <;> cases made
  have placed := (makes _ _ _ ‹_› (mt comment_mem_tokens.mpr none)).2
  exact (placed.free n before after is name).resolve_left other

end Target

theorem Dialect.aliasesInScope_of_holds {d : Dialect} {t : Target} {text : String}
    (h : d.closed.Holds {Scope.objectName} t) (made : t.sql = .ok text) : AliasesInScope text := by
  refine Target.aliasesInScope_sql (h _ ?_) made
  rintro name rfl
  simp [Fields.find?]

/-- Where nothing is assigned, what is lowered from a predicate or an expression becomes a query in
which every alias but `t0`, the one of the object, stands inside of a query in parentheses for
something of rows that come from somewhere under this alias. -/
theorem Lowering.aliasesInScope (kind : Kind) (settings : Settings) :
    (∀ (p : Predicate) (t : Target) (text : String), p.assignsNothing →
      p.target kind settings = .ok t → t.sql = .ok text → AliasesInScope text)
      ∧ ∀ (e : Expr) (t : Target) (text : String), e.assignsNothing →
        e.target kind settings = .ok t → t.sql = .ok text → AliasesInScope text := by
  constructor
  · intro p t text none lowered made
    have closed := (p.upholds_lower (I := settings.dialect.closed) (.inr none)).runFor lowered
    exact Dialect.aliasesInScope_of_holds closed made
  · intro e t text none lowered made
    have closed := (e.upholds_lower (I := settings.dialect.closed) (.inr none)).runFor lowered
    exact Dialect.aliasesInScope_of_holds closed made

/-! ## Assignments -/

/-- No query before the alias has its parentheses open. -/
theorem Sql.not_inside {n : Nat} {before after : List QueryToken}
    (h : ∀ k < before.length + 1, (before.drop k).head? = some (word "SELECT") →
      depth? 0 (before.drop k) = none) : ¬ Inside n before after := by
  rintro ⟨outer, inner, inner', outer', rfl, rfl, what, origin, rest, is, p, q, r⟩
  have begins : inner.head? = some (word "SELECT") := by
    have same := congrArg List.head? is
    cases inner with
    | nil => cases same
    | cons t inner => exact same
  have behind : (outer ++ .sign '(' :: inner).drop (outer.length + 1) = inner := by
    rw [← List.drop_drop, List.drop_left]
    rfl
  have closed := h (outer.length + 1) (by simp)
  rw [behind] at closed
  have words : Balanced [word "SELECT"] ∧ Balanced [word "FROM"]
      ∧ Balanced [word "AS", rowAlias n] := ⟨rfl, rfl, rfl⟩
  have whole : Balanced (inner ++ rowAlias n :: inner') := by
    rw [is]
    exact ((words.1.append p).append (words.2.1.append q)).append (words.2.2.append r)
  rw [Balanced, depth?_append, closed begins] at whole
  cases whole

/-- `($a := 1) == 1 AND SUBQUERY(items, $k, ($a := $k.price) > 1).@count > 0 AND $a == 3` -/
def Predicate.assignsInSubquery : Predicate :=
  .compound .and [
    .comparison (.assign "a" (.constant (.int 1))) .equal (.constant (.int 1)) .direct .none,
    .comparison (.pathOn (.subquery (.path "items") "k" (.comparison
      (.assign "a" (.pathOn (.var "k") "price")) .greater (.constant (.int 1)) .direct .none))
      "@count") .greater (.constant (.int 0)) .direct .none,
    .comparison (.var "a") .equal (.constant (.int 3)) .direct .none]

/-- After the subquery the variable stands for a price of the rows in it. -/
theorem Lowering.not_aliasesInScope_of_assignment :
    Predicate.assignsInSubquery.assignsNothing = false
      ∧ ∃ t text, Predicate.assignsInSubquery.target .any (.ofDialect .backend) = .ok t
        ∧ t.sql = .ok text ∧ ¬ AliasesInScope text := by
  let text := "((1 = 1) AND (((SELECT COUNT(*) FROM t0.items AS t1 WHERE (t1.price > 1)) > 0) "
    ++ "AND (t1.price = 3)))"
  refine ⟨by decide, _, text, rfl, rfl, fun inScope => ?_⟩
  -- The alias in the last comparison is behind 35 tokens, which close the query again.
  have inside := inScope (by decide +kernel) 1 ((tokens text).take 35) ((tokens text).drop 36)
    (by decide +kernel) (by decide +kernel) nofun
  exact not_inside (by decide +kernel) inside

end PredicateLang
