import PredicateLang.Proofs.Canonical
import PredicateLang.Proofs.Condition

/-!
# What parsing gives, and what it does not

A tree is canonical if every node of it meets conditions on its own. They fall into two. Those of
`Condition.formed` every tree meets that has been parsed. Those of `Condition.plain` leave out what
can be parsed but not written: constants that have no literal, segments and names that only an
escape or an argument can give, and constructs that are read in another way when they are written
side by side.
-/

namespace PredicateLang

/-! ## The two conditions -/

namespace Condition

/-- What each node of a parsed expression is: variables have names, key paths are not split in
two, and the name of a place stands in brackets behind a collection. -/
def formedExpr : Expr → Bool
  | .var name => Lexing.isName name
  | .pathOn operand _ => !operand.isPath && !operand.isSymbol
  | .call selector [left, right] =>
    !left.isSymbol && (!right.isSymbol || selector = Expr.indexSelector)
  | .call _ args => args.all (!·.isSymbol)
  | .subquery collection var _ => !collection.isSymbol && Lexing.isName var
  | .list items => items.all (!·.isSymbol)
  | .assign var value => Lexing.isName var && !value.isSymbol
  | _ => true

/-- What each node of a parsed predicate is: there is something to be joined. -/
def formedPredicate : Predicate → Bool
  | .constant _ => true
  | .comparison left _ right _ _ => !left.isSymbol && !right.isSymbol
  | .compound .not parts => parts.length = 1
  | .compound _ parts => 2 ≤ parts.length

/-- What each node of a parsed tree is. -/
def formed : Condition := ⟨formedExpr, formedPredicate⟩

/-- Is the call read from its text, if the arguments are? The text of a position may not begin with
the name of a place, nor that of a collection with a sign, and a selector with one colon stands
behind a receiver, which may not be taken for a selector. -/
def plainCall (selector : String) : List Expr → Bool
  | [] => Expr.isFunctionName selector
  | [left, right] =>
    (Expr.infixSign? selector).isSome
      || if Expr.isIndexSelector selector then
          selector = Expr.indexSelector && !left.isSigned
            && (right.isSymbol || !Expr.namesPlace right.text)
        else
          selector.toList.contains ':' && !(selector.toList.count ':' = 1 && left.isSelector)
  | _ => selector.toList.contains ':'

/-- Is the node of an expression read from its text, if its parts are? -/
def plainExpr : Expr → Bool
  | .constant value => value.isLiteral
  | .path path => Expr.isKeyPath false path
  | .pathOn operand path => !operand.isSigned && Expr.isKeyPath true path
  | .call selector args => plainCall selector args
  | _ => true

/-- Is each node of a tree read from its text, if its parts are? -/
def plain : Condition := ⟨plainExpr, fun _ => true⟩

end Condition

/-! ## Both together -/

/-- A call that meets both conditions is canonical. -/
theorem Expr.isCall_of_plain {selector : String} {args : List Expr}
    (formed : Condition.formedExpr (.call selector args))
    (plain : Condition.plainCall selector args) : Expr.isCall selector args := by
  match args with
  | [] => exact plain
  | [left, right] =>
    have places : ∀ {s}, Expr.infixSign? s ≠ none → s ≠ Expr.indexSelector := by
      rintro s ne rfl
      exact ne (by decide)
    have index : Expr.isIndexSelector Expr.indexSelector := by decide
    simp only [Condition.formedExpr, Condition.plainCall, Expr.isCall] at *
    grind
  | [_] => simp_all [Condition.formedExpr, Condition.plainCall, Expr.isCall]
  | _ :: _ :: _ :: _ => simp_all [Condition.formedExpr, Condition.plainCall, Expr.isCall]

mutual

/-- An expression whose nodes meet both conditions is canonical, if it is not the name of a
place. -/
theorem Expr.isCanonical_of_plain (e : Expr) (formed : e.meets .formed) (plain : e.meets .plain)
    (no_place : !e.isSymbol) : e.isCanonical := by
  cases e with
  | constant | path => exact plain
  | self => rfl
  | var => exact formed
  | pathOn operand path =>
    simp only [Expr.meets, Condition.formed, Condition.plain, Condition.formedExpr,
      Condition.plainExpr, Bool.and_eq_true] at formed plain
    obtain ⟨⟨path', no_place'⟩, formed⟩ := formed
    obtain ⟨⟨signed, keyPath⟩, plain⟩ := plain
    have operand := Expr.isCanonical_of_plain operand formed plain no_place'
    simp only [Expr.isCanonical, operand, path', signed, keyPath, Bool.and_self]
  | call selector args =>
    rw [Expr.meets, Bool.and_eq_true] at formed plain
    rw [Expr.isCanonical, Expr.isCall_of_plain formed.1 plain.1,
      Expr.areCanonical_of_plain args formed.2 plain.2]
    rfl
  | subquery collection var predicate =>
    simp only [Expr.meets, Condition.formed, Condition.plain, Condition.formedExpr,
      Condition.plainExpr, Bool.and_eq_true] at formed plain
    obtain ⟨⟨⟨no_place', name⟩, formed⟩, formed'⟩ := formed
    obtain ⟨⟨-, plain⟩, plain'⟩ := plain
    have collection := Expr.isCanonical_of_plain collection formed plain no_place'
    have predicate := Predicate.isCanonical_of_plain predicate formed' plain'
    simp only [Expr.isCanonical, collection, name, predicate, Bool.and_self]
  | list items =>
    rw [Expr.meets, Bool.and_eq_true] at formed plain
    rw [Expr.isCanonical, Expr.areCanonical_of_plain items formed.2 plain.2, Bool.and_true]
    exact formed.1
  | symbol => cases no_place
  | assign var value =>
    simp only [Expr.meets, Condition.formed, Condition.plain, Condition.formedExpr,
      Condition.plainExpr, Bool.and_eq_true] at formed plain
    obtain ⟨⟨name, no_place'⟩, formed⟩ := formed
    have value := Expr.isCanonical_of_plain value formed plain.2 no_place'
    simp only [Expr.isCanonical, name, value, Bool.and_self]

theorem Expr.areCanonical_of_plain (es : List Expr) (formed : Expr.allMeet .formed es)
    (plain : Expr.allMeet .plain es) : Expr.areCanonical es := by
  match es with
  | [] => rfl
  | e :: rest =>
    rw [Expr.allMeet, Bool.and_eq_true] at formed plain
    have rest := Expr.areCanonical_of_plain rest formed.2 plain.2
    have head := Expr.isCanonical_of_plain e formed.1 plain.1
    rw [Expr.areCanonical, rest]
    cases symbol : e.isSymbol with
    | true => rfl
    | false => simp [head (by simp [symbol])]

/-- A predicate whose nodes meet both conditions is canonical. -/
theorem Predicate.isCanonical_of_plain (p : Predicate) (formed : p.meets .formed)
    (plain : p.meets .plain) : p.isCanonical := by
  cases p with
  | constant => rfl
  | comparison left operator right modifier options =>
    simp only [Predicate.meets, Condition.formed, Condition.plain, Condition.formedPredicate,
      Bool.and_eq_true] at formed plain
    obtain ⟨⟨⟨no_place, no_place'⟩, formed⟩, formed'⟩ := formed
    obtain ⟨⟨-, plain⟩, plain'⟩ := plain
    have left := Expr.isCanonical_of_plain left formed plain no_place
    have right := Expr.isCanonical_of_plain right formed' plain' no_place'
    simp only [Predicate.isCanonical, left, right, Bool.and_self]
  | compound connective parts =>
    rw [Predicate.meets, Bool.and_eq_true] at formed plain
    have parts := Predicate.areCanonical_of_plain parts formed.2 plain.2
    have arity := formed.1
    cases connective with
    | not => rw [Predicate.isCanonical, parts, Bool.and_true]; exact arity
    | and | or => rw [Predicate.isCanonical, parts, Bool.and_true] <;> first | exact arity | nofun

theorem Predicate.areCanonical_of_plain (ps : List Predicate) (formed : Predicate.allMeet .formed ps)
    (plain : Predicate.allMeet .plain ps) : Predicate.areCanonical ps := by
  match ps with
  | [] => rfl
  | p :: rest =>
    rw [Predicate.allMeet, Bool.and_eq_true] at formed plain
    rw [Predicate.areCanonical, Predicate.isCanonical_of_plain p formed.1 plain.1,
      Predicate.areCanonical_of_plain rest formed.2 plain.2]
    rfl

end

end PredicateLang
