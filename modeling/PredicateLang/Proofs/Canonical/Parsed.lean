import PredicateLang.Proofs.Canonical.Parse
import PredicateLang.Proofs.Canonical.Plain

/-!
# Parsing the text of a parsed tree

Whatever the text and the arguments, each node of a parsed tree is formed: every production keeps
this, given that variables have the names that the lexer reads. So a parsed tree is canonical, and
parsing its text gives it back, as soon as its nodes are plain.
-/

open PredicateLang.Lexing PredicateLang.Parser PredicateLang.Text

namespace PredicateLang

/-! ## Tokens -/

namespace Lexing

/-- Does the token, if it is a variable, have a name? -/
def isNamed : Token → Bool
  | .var name => isName name
  | _ => true

theorem isName_nameOf {text : List Char} (h : (text.head?.map isNameStart).getD false) :
    isName (nameOf text) := by
  cases text with
  | nil => cases h
  | cons c rest =>
    have starts : isNameStart c := h
    have takes : (c :: rest).takeWhile isNameChar = c :: rest.takeWhile isNameChar :=
      List.takeWhile_cons_of_pos (isNameChar_of_isNameStart starts)
    refine isName_iff.mpr ⟨c, rest.takeWhile isNameChar, ?_, starts, fun d mem => ?_⟩
    · rw [nameOf, String.toList_ofList, takes]
    · rw [← takes] at mem
      exact List.all_eq_true.mp List.all_takeWhile d mem

theorem isNamed_readString {quote : Char} {start position : Nat} {read text after : List Char}
    {t : Token} (h : readString quote start position read text = .ok (t, after)) : isNamed t := by
  fun_induction readString quote start position read text <;> grind [isNamed]

theorem isNamed_readSign {text after : List Char} {t : Token} (h : readSign text = some (t, after)) :
    isNamed t := by
  unfold readSign at h
  split at h
  all_goals first
    | rw [← (Prod.mk.inj (Option.some.inj h)).1]; rfl
    | exact nomatch h

theorem isNamed_word (name : String) :
    isNamed ((Token.ofKeyword? name).getD (.identifier name)) := by
  unfold Token.ofKeyword?
  split <;> rfl

theorem isNamed_readToken {start : Nat} {c : Char} {rest after : List Char} {t : Token}
    (h : readToken start c rest = .ok (t, after)) : isNamed t := by
  unfold readToken at h
  split at h
  · rename_i signed sign
    cases h
    exact isNamed_readSign sign
  · split_ifs at h with var number sign placeholder colon quote name digit
    · cases h
      exact isName_nameOf ‹_›
    · unfold readSigned at h
      split at h <;> cases h
      rfl
    · unfold readSigned at h
      split at h <;> cases h
      rfl
    · unfold readPlaceholder at h
      split at h
      · split_ifs at h
        cases h
        rfl
      · cases h
    · exact isNamed_readString h
    · rw [← (Prod.mk.inj (Except.ok.inj h)).1]
      exact isNamed_word _
    · unfold readNumber at h
      dsimp only at h
      split_ifs at h <;> grind [isNamed]

/-- The variables of a text have names. -/
theorem isNamed_ofChars (position : Nat) (text : List Char) :
    ∀ word ∈ (ofChars position text).lexemes, isNamed word.token := by
  fun_induction ofChars position text with
  | case1 => simp [isNamed]
  | case2 => simp
  | case3 position text c rest _ start t after read following ih =>
    exact List.forall_mem_cons.mpr ⟨isNamed_readToken read, ih⟩

end Lexing

/-! ## Productions -/

namespace Operand

/-- Is each node of the operand formed, and the operand not the name of a place? -/
def IsFormed : Operand → Prop
  | .expr e => e.meets .formed ∧ !e.isSymbol
  | .predicate p => p.meets .formed

/-- Is the operand the name of a place? -/
def IsPlace (operand : Operand) : Prop := ∃ symbol, operand = .expr (.symbol symbol)

theorem forall_isFormed_exprs {es : List Expr} (h : ∀ operand ∈ es.map expr, operand.IsFormed) :
    Expr.allMeet .formed es ∧ es.all (!·.isSymbol) := by
  rw [Expr.allMeet_iff, List.all_eq_true]
  have formed : ∀ e ∈ es, e.meets .formed ∧ !e.isSymbol := fun e mem =>
    h (.expr e) (List.mem_map_of_mem mem)
  exact ⟨fun e mem => (formed e mem).1, fun e mem => (formed e mem).2⟩

theorem forall_isFormed_predicates {ps : List Predicate}
    (h : ∀ operand ∈ ps.map predicate, operand.IsFormed) : Predicate.allMeet .formed ps := by
  rw [Predicate.allMeet_iff]
  exact fun p mem => h (.predicate p) (List.mem_map_of_mem mem)

end Operand

namespace Expr

/-- A call is formed if its arguments are and none of them is the name of a place. -/
theorem formed_call (selector : String) {args : List Expr} (formed : allMeet .formed args)
    (no_place : args.all (!·.isSymbol)) : (call selector args).meets .formed := by
  rw [meets, formed, Bool.and_true]
  show Condition.formedExpr (call selector args)
  unfold Condition.formedExpr
  split <;> simp_all

theorem formed_negate {e : Expr} (formed : e.meets .formed) (no_place : !e.isSymbol) :
    e.negate.meets .formed ∧ !e.negate.isSymbol := by
  have difference : (call ArithmeticSign.minus.selector [.constant (.int 0), e]).meets .formed := by
    apply formed_call
    · rw [allMeet, allMeet, allMeet, formed]
      rfl
    · rw [List.all_cons, List.all_cons, no_place]
      rfl
  unfold negate
  dsimp only
  split
  · cases negateInteger? _ with
    | none => exact ⟨difference, rfl⟩
    | some m => exact ⟨rfl, rfl⟩
  · exact ⟨rfl, rfl⟩
  · exact ⟨rfl, rfl⟩
  · exact ⟨difference, rfl⟩

theorem formed_callByName (name : String) {args : List Expr} (formed : allMeet .formed args)
    (no_place : args.all (!·.isSymbol)) :
    (callByName name args).meets .formed ∧ !(callByName name args).isSymbol := by
  unfold callByName
  dsimp only
  split <;> exact ⟨formed_call _ formed no_place, rfl⟩

theorem formed_functionForm {position : Nat} {args : List Expr} {e : Expr}
    (made : functionForm position args = .ok e) (formed : allMeet .formed args)
    (no_place : args.all (!·.isSymbol)) : e.meets .formed ∧ !e.isSymbol := by
  cases args with
  | nil => cases made
  | cons first rest =>
    rw [allMeet, Bool.and_eq_true] at formed
    rw [List.all_cons, Bool.and_eq_true] at no_place
    unfold functionForm at made
    dsimp only at made
    split at made
    · cases made
      exact ⟨formed_call _ formed.2 no_place.2, rfl⟩
    · cases rest with
      | nil => cases made
      | cons second others =>
        rw [allMeet, Bool.and_eq_true] at formed
        rw [List.all_cons, Bool.and_eq_true] at no_place
        dsimp only at made
        split at made <;> cases made
        refine ⟨formed_call _ ?_ ?_, rfl⟩
        · rw [allMeet, formed.1, formed.2.2, Bool.and_self]
        · rw [List.all_cons, no_place.1, no_place.2.2, Bool.and_self]

theorem formed_dot {position : Nat} {left right e : Expr} (made : dot position left right = .ok e)
    (formed : left.meets .formed) (no_place : !left.isSymbol) : e.meets .formed ∧ !e.isSymbol := by
  unfold dot at made
  split at made
  · split at made <;> cases made
    · exact ⟨rfl, rfl⟩
    · rename_i operand before
      rw [meets, Bool.and_eq_true] at formed ⊢
      exact ⟨formed, rfl⟩
    · rename_i segment no_path no_pathOn
      have no_path : left.isPath = false := by
        unfold isPath
        split
        · exact absurd rfl (no_path _)
        · exact absurd rfl (no_pathOn _ _)
        · rfl
      refine ⟨?_, rfl⟩
      rw [meets, formed, Bool.and_true]
      show !left.isPath && !left.isSymbol
      rw [no_path, no_place]
      rfl
  · cases made

theorem formed_placeholder {arguments : Arguments} {position : Nat} {conversion : Char} {e : Expr}
    (made : arguments.placeholder position conversion = .ok e) :
    e.meets .formed ∧ !e.isSymbol := by
  have converted : ∀ {value : Value}, Arguments.convert conversion value = .ok e →
      e.meets .formed ∧ !e.isSymbol := by
    intro value converted
    unfold Arguments.convert at converted
    split_ifs at converted
    all_goals first
      | cases converted; exact ⟨rfl, rfl⟩
      | split at converted <;> cases converted; exact ⟨rfl, rfl⟩
  unfold Arguments.placeholder at made
  split at made
  · cases made
  · split at made
    · cases made
    · split at made <;> cases made
      exact converted ‹_›

end Expr

namespace Production

/-- Does the production name its variable, if it has one, and join more than one part? The names
of places are left out, and indexing, which takes them. -/
def IsFormed : Production → Prop
  | var name | subquery name => isName name
  | and count | or count => 2 ≤ count
  | symbol _ | index => False
  | _ => True

variable {arguments : Arguments} {position : Nat} {production : Production}
  {operands : List Operand} {operand : Operand}

/-- Of formed operands a production makes a formed one. -/
theorem Makes.isFormed (made : Makes arguments position production operands operand)
    (formed : production.IsFormed) (h : ∀ operand ∈ operands, operand.IsFormed) :
    operand.IsFormed := by
  obtain ⟨sorts, make⟩ := makes_iff.mp made
  cases production with
  | literal value => cases make; exact ⟨rfl, rfl⟩
  | self => cases make; exact ⟨rfl, rfl⟩
  | path segment => cases make; exact ⟨rfl, rfl⟩
  | predicateConstant value => cases make; exact (rfl : Predicate.meets _ _ = _)
  | var name => cases make; exact ⟨formed, rfl⟩
  | placeholder conversion =>
    obtain ⟨e, placed, rfl⟩ := eq_ok_of_map make
    exact Expr.formed_placeholder placed
  | symbol | index => cases formed
  | list count =>
    obtain ⟨es, -, rfl⟩ := Operand.eq_map_expr sorts
    obtain ⟨items, no_place⟩ := Operand.forall_isFormed_exprs h
    rw [Production.make, Operand.exprs_map] at make
    cases make
    refine ⟨?_, rfl⟩
    rw [Expr.meets, items, Bool.and_true]
    exact no_place
  | call name arity =>
    obtain ⟨es, -, rfl⟩ := Operand.eq_map_expr sorts
    obtain ⟨args, no_place⟩ := Operand.forall_isFormed_exprs h
    rw [Production.make, Operand.exprs_map] at make
    cases make
    exact Expr.formed_callByName name args no_place
  | functionForm arity =>
    obtain ⟨es, -, rfl⟩ := Operand.eq_map_expr sorts
    obtain ⟨args, no_place⟩ := Operand.forall_isFormed_exprs h
    rw [Production.make, Operand.exprs_map] at make
    obtain ⟨e, formed', rfl⟩ := eq_ok_of_map make
    exact Expr.formed_functionForm formed' args no_place
  | dot =>
    obtain ⟨left, right, rfl⟩ := Operand.eq_two_exprs sorts
    obtain ⟨e, joined, rfl⟩ := eq_ok_of_map make
    obtain ⟨left, no_place⟩ := h (.expr left) (by simp)
    exact Expr.formed_dot joined left no_place
  | subquery name =>
    obtain ⟨collection, p, rfl⟩ := Operand.eq_expr_predicate sorts
    obtain ⟨collection, no_place⟩ := h (.expr collection) (by simp)
    have predicate : p.meets .formed := h (.predicate p) (by simp)
    cases make
    rw [Grammar.withoutDollar_name formed]
    refine ⟨?_, rfl⟩
    rw [Expr.meets, collection, predicate, Bool.and_true, Bool.and_true]
    show !_ && isName name
    rw [no_place, show isName name = true from formed]
    rfl
  | arithmetic sign =>
    obtain ⟨left, right, rfl⟩ := Operand.eq_two_exprs sorts
    obtain ⟨args, no_place⟩ : Expr.allMeet .formed [left, right] ∧
      [left, right].all (!·.isSymbol) := Operand.forall_isFormed_exprs h
    cases make
    exact ⟨Expr.formed_call _ args no_place, rfl⟩
  | negate =>
    obtain ⟨e, rfl⟩ := Operand.eq_one_expr sorts
    obtain ⟨e, no_place⟩ := h (.expr e) (by simp)
    cases make
    exact Expr.formed_negate e no_place
  | assignment =>
    obtain ⟨target, value, rfl⟩ := Operand.eq_two_exprs sorts
    obtain ⟨target', -⟩ := h (.expr target) (by simp)
    obtain ⟨value', no_place⟩ := h (.expr value) (by simp)
    cases target with
    | var name =>
      have name' : isName name := target'
      cases make
      rw [Grammar.withoutDollar_name name']
      refine ⟨?_, rfl⟩
      rw [Expr.meets, value', Bool.and_true]
      show isName name && !value.isSymbol
      rw [name', no_place]
      rfl
    | _ => cases make
  | comparison operator options =>
    obtain ⟨left, right, rfl⟩ := Operand.eq_two_exprs sorts
    obtain ⟨left', no_place⟩ := h (.expr left) (by simp)
    obtain ⟨right', no_place'⟩ := h (.expr right) (by simp)
    cases make
    show Predicate.meets _ _
    rw [Predicate.meets, left', right', Bool.and_true, Bool.and_true]
    show !left.isSymbol && !right.isSymbol
    rw [no_place, no_place']
    rfl
  | quantified word =>
    obtain ⟨p, rfl⟩ := Operand.eq_one_predicate sorts
    have p' : p.meets .formed := h (.predicate p) (by simp)
    obtain ⟨q, quantified, rfl⟩ := eq_ok_of_map make
    unfold Predicate.quantify at quantified
    split at quantified
    · split at quantified <;> cases quantified
      · exact p'
      · exact p'
      · show Predicate.meets _ _
        rw [Predicate.meets, Predicate.allMeet, Predicate.allMeet, Bool.and_true]
        exact p'
    · cases quantified
  | expressionPredicate =>
    obtain ⟨e, rfl⟩ := Operand.eq_one_expr sorts
    cases e with
    | constant value => cases value <;> cases make; exact (rfl : Predicate.meets _ _ = _)
    | _ => cases make
  | and count | or count =>
    obtain ⟨ps, rfl, rfl⟩ := Operand.eq_map_predicate sorts
    have parts := Operand.forall_isFormed_predicates h
    rw [Production.make, Operand.predicates_map] at make
    cases make
    show Predicate.meets _ _
    rw [Predicate.meets, parts, Bool.and_true]
    exact decide_eq_true formed
  | not =>
    obtain ⟨p, rfl⟩ := Operand.eq_one_predicate sorts
    have part : p.meets .formed := h (.predicate p) (by simp)
    cases make
    show Predicate.meets _ _
    rw [Predicate.meets, Predicate.allMeet, Predicate.allMeet, part]
    rfl

/-- Indexing takes the name of a place too. -/
theorem Makes.isFormed_index {collection place : Operand}
    (made : Makes arguments position .index [collection, place] operand)
    (h : collection.IsFormed) (h' : place.IsFormed ∨ place.IsPlace) : operand.IsFormed := by
  obtain ⟨sorts, make⟩ := makes_iff.mp made
  obtain ⟨left, right, e⟩ := Operand.eq_two_exprs sorts
  cases e
  cases make
  obtain ⟨left', no_place⟩ := h
  have right' : right.meets .formed := by
    rcases h' with h' | ⟨symbol, e⟩
    · exact h'.1
    · cases e
      rfl
  refine ⟨?_, rfl⟩
  rw [Expr.index, Expr.meets, Expr.allMeet, Expr.allMeet, Expr.allMeet, left', right']
  show (!left.isSymbol && (!right.isSymbol || _)) && _
  rw [no_place]
  cases right.isSymbol <;> rfl

end Production

/-! ## Derivations -/

namespace Grammar

variable {arguments : Arguments} {phrase : Phrase} {w : List Lexeme} {operands : List Operand}
  {e : Expr} {p : Predicate}

/-- Only in brackets an operand may be the name of a place. -/
theorem forall_isFormed
    (h : ∀ operand ∈ operands, operand.IsFormed ∨ phrase = .place ∧ operand.IsPlace)
    (ne : phrase ≠ .place) :
    ∀ operand ∈ operands, operand.IsFormed := by
  intro operand mem
  rcases h operand mem with formed | ⟨place, -⟩
  · exact formed
  · exact absurd place ne

/-- What is derived of words whose variables have names is formed, but for the name of a place. -/
theorem Derives.isFormed_or_isPlace (h : Derives arguments phrase w operands)
    (named : ∀ word ∈ w, isNamed word.token) :
    ∀ operand ∈ operands, operand.IsFormed ∨ phrase = .place ∧ operand.IsPlace := by
  induction h with
  | conjunction_disjunction part ih | first_disjunct part ih | negation_conjunction part ih
  | first_conjunct part ih | primary_negation part ih | comparison_primary part ih
  | sum_expression part ih | product_sum part ih | power_product part ih | signed_power part ih
  | navigation_signed part ih | primary_navigation part ih | primary_segment part ih
  | expression_place part _ ih | last_item part ih =>
    exact fun operand mem => .inl (forall_isFormed (ih named) nofun operand mem)
  | no_items => exact nofun
  | enclosed_predicate _ part _ ih | enclosed_expression _ part _ ih =>
    simp only [List.forall_mem_cons, List.forall_mem_append] at named
    exact fun operand mem => .inl (forall_isFormed (ih named.2.1) nofun operand mem)
  | next_disjunct before _ part ih ih' | next_conjunct before _ part ih ih'
  | next_item before _ part ih ih' =>
    simp only [List.forall_mem_cons, List.forall_mem_append] at named
    have formed := forall_isFormed (ih named.1) nofun
    have formed' := forall_isFormed (ih' named.2.2) nofun
    intro operand mem
    rcases List.mem_append.mp mem with mem | mem
    · exact .inl (formed operand mem)
    · exact .inl (formed' operand mem)
  | or parts several made ih | and parts several made ih =>
    have formed := made.isFormed several (forall_isFormed (ih named) nofun)
    exact List.forall_mem_singleton.mpr (.inl formed)
  | truth part made ih =>
    have formed := made.isFormed trivial (forall_isFormed (ih named) nofun)
    exact List.forall_mem_singleton.mpr (.inl formed)
  | not _ part made ih | quantified _ part made ih | negate _ part made ih =>
    rw [List.forall_mem_cons] at named
    have formed := made.isFormed trivial (forall_isFormed (ih named.2) nofun)
    exact List.forall_mem_singleton.mpr (.inl formed)
  | predicateConstant _ made | named_segment _ made | self_segment _ made | name _ made =>
    have formed := made.isFormed trivial nofun
    exact List.forall_mem_singleton.mpr (.inl formed)
  | leaf word_eq made =>
    rename_i production e word
    have formed : production.IsFormed := by
      have named := List.forall_mem_singleton.mp named
      unfold production? at word_eq
      generalize word.token = token at word_eq named
      cases token <;> cases word_eq <;> first | exact named | trivial
    exact List.forall_mem_singleton.mpr (.inl (made.isFormed formed nofun))
  | compare left _ suffix right made ih ih' =>
    simp only [List.forall_mem_cons, List.forall_mem_append] at named
    have formed := made.isFormed trivial <| List.forall_mem_append.mpr
      ⟨forall_isFormed (ih named.1) nofun, forall_isFormed (ih' named.2.2.2) nofun⟩
    exact List.forall_mem_singleton.mpr (.inl formed)
  | assignment left _ right made ih ih' | add left _ right made ih ih'
  | multiply left _ right made ih ih' | raise left _ right made ih ih'
  | dot left _ right made ih ih' =>
    simp only [List.forall_mem_cons, List.forall_mem_append] at named
    have formed := made.isFormed trivial <| List.forall_mem_append.mpr
      ⟨forall_isFormed (ih named.1) nofun, forall_isFormed (ih' named.2.2) nofun⟩
    exact List.forall_mem_singleton.mpr (.inl formed)
  | index collection _ position _ made ih ih' =>
    simp only [List.forall_mem_cons, List.forall_mem_append] at named
    obtain ⟨left, rfl⟩ := List.length_eq_one_iff.mp (collection.length_eq_one rfl)
    obtain ⟨right, rfl⟩ := List.length_eq_one_iff.mp (position.length_eq_one rfl)
    have collection := forall_isFormed (ih named.1) nofun
    have position := ih' named.2.2.1
    rw [List.forall_mem_singleton] at collection position
    exact List.forall_mem_singleton.mpr
      (.inl (made.isFormed_index collection (position.imp_right And.right)))
  | symbol_place _ made =>
    cases (Production.makes_iff.mp made).2
    exact List.forall_mem_singleton.mpr (.inr ⟨rfl, _, rfl⟩)
  | call _ _ items _ made ih | functionForm _ _ items _ made ih =>
    simp only [List.forall_mem_cons, List.forall_mem_append] at named
    have formed := made.isFormed trivial (forall_isFormed (ih named.2.2.1) nofun)
    exact List.forall_mem_singleton.mpr (.inl formed)
  | list _ items _ made ih =>
    simp only [List.forall_mem_cons, List.forall_mem_append] at named
    have formed := made.isFormed trivial (forall_isFormed (ih named.2.1) nofun)
    exact List.forall_mem_singleton.mpr (.inl formed)
  | subquery _ _ collection _ var_eq _ predicate _ made ih ih' =>
    simp only [List.forall_mem_cons, List.forall_mem_append] at named
    obtain ⟨-, -, words, -, var, -, words', -⟩ := named
    rw [var_eq] at var
    have formed := made.isFormed var <| List.forall_mem_append.mpr
      ⟨forall_isFormed (ih words) nofun, forall_isFormed (ih' words') nofun⟩
    exact List.forall_mem_singleton.mpr (.inl formed)

/-- What is derived of a text is formed. -/
theorem DerivesText.isFormed {text : String} {operand : Operand}
    (h : DerivesText arguments phrase (lex text).lexemes operand) (ne : phrase ≠ .place) :
    operand.IsFormed := by
  obtain ⟨words, last, rest, lexemes, -, derives⟩ := h
  have named : ∀ word ∈ words, isNamed word.token := fun word mem =>
    isNamed_ofChars 0 text.toList word (lexemes.symm ▸ List.mem_append_left _ mem)
  exact forall_isFormed (derives.isFormed_or_isPlace named) ne operand (List.mem_singleton.mpr rfl)

/-- A parsed expression whose nodes are plain is canonical. -/
theorem isCanonical_of_parse_expr {text : String} {values : List Value}
    (parsed : Expr.parse text values = .ok e) (plain : e.meets .plain) : e.isCanonical := by
  obtain ⟨arguments, -, read⟩ := whole_iff.mp parsed
  obtain ⟨formed, no_place⟩ := ((expression_iff _ _).mp read).isFormed nofun
  exact e.isCanonical_of_plain formed plain no_place

/-- A parsed predicate whose nodes are plain is canonical. -/
theorem isCanonical_of_parse_predicate {text : String} {values : List Value}
    (parsed : Predicate.parse text values = .ok p) (plain : p.meets .plain) : p.isCanonical := by
  obtain ⟨arguments, -, read⟩ := whole_iff.mp parsed
  have formed := ((disjunction_iff _ _).mp read).isFormed nofun
  exact p.isCanonical_of_plain formed plain

/-! ## Texts -/

/-- Whatever text and arguments a tree has been parsed from: if its nodes are plain, its text gives
the tree back without arguments. So it is written as the same text again and has the same value. -/
theorem parse_text_of_parse :
    (∀ text values p, Predicate.parse text values = .ok p → p.meets .plain →
      Predicate.parse p.text [] = .ok p)
    ∧ ∀ text values e, Expr.parse text values = .ok e → e.meets .plain →
      Expr.parse e.text [] = .ok e :=
  ⟨fun _ _ _ parsed plain => parse_predicate_text (isCanonical_of_parse_predicate parsed plain),
    fun _ _ _ parsed plain => parse_expr_text (isCanonical_of_parse_expr parsed plain)⟩

set_option maxRecDepth 100000 in
/-- A position, a negative number, arguments and a negation, none of them in canonical text. -/
theorem parse_text_of_arguments :
    (∃ p, Predicate.parse "NONE items[ LAST ].price * 2 >= %d || !(name like[cd] %@)"
        [.int (-3), .string "it's"] = .ok p ∧ Predicate.parse p.text [] = .ok p)
    ∧ ∃ e, Expr.parse "$total := sum(%K) - -1.5" [.string "order.lines"] = .ok e
        ∧ Expr.parse e.text [] = .ok e := by
  obtain ⟨p, parsed, plain⟩ := exists_of_any
    (Predicate.parse "NONE items[ LAST ].price * 2 >= %d || !(name like[cd] %@)"
      [.int (-3), .string "it's"]) (·.meets .plain) (by decide +kernel)
  obtain ⟨e, parsed', plain'⟩ := exists_of_any
    (Expr.parse "$total := sum(%K) - -1.5" [.string "order.lines"]) (·.meets .plain)
      (by decide +kernel)
  exact ⟨⟨p, parsed, parse_text_of_parse.1 _ _ _ parsed plain⟩,
    e, parsed', parse_text_of_parse.2 _ _ _ parsed' plain'⟩

set_option maxRecDepth 100000 in
/-- A date has no literal. It is written as a cast, and the cast as the function that it calls. -/
theorem parse_date_text : ∃ e e', Expr.parse "%@" [.date ⟨0, 0⟩] = .ok e
    ∧ Expr.parse e.text [] = .ok e' ∧ e'.text ≠ e.text := by
  obtain ⟨e, parsed, again⟩ := exists_of_any (Expr.parse "%@" [.date ⟨0, 0⟩])
    (fun e => (Expr.parse e.text []).toOption.any (·.text ≠ e.text)) (by decide +kernel)
  obtain ⟨e', parsed', other⟩ := exists_of_any (Expr.parse e.text []) (·.text ≠ e.text) again
  exact ⟨e, e', parsed, parsed', of_decide_eq_true other⟩

end Grammar

end PredicateLang
