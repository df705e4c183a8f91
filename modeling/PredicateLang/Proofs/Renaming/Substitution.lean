import PredicateLang.Proofs.Condition

/-!
# Expressions in place of variables

`Expr.substitute` and `Predicate.substitute` put expressions in place of the variables of a tree. In
the predicate of a subquery its own variable is left alone; in its collection it is not, as it is
not in scope there. Nothing is put in place of the name of a variable that is assigned, and
`Expr.assignsOnly` and `Predicate.assignsOnly` say which ones may be.
-/

namespace PredicateLang

/-! ## Substitution -/

/-- The expressions that stand in place of variables. -/
abbrev Substitution := String → Expr

namespace Substitution

/-- An expression in place of one variable. -/
def only (name : String) (e : Expr) : Substitution :=
  fun other => if other = name then e else .var other

/-- What stands in place of variables in the predicate of a subquery over a variable. -/
def hide (σ : Substitution) (name : String) : Substitution :=
  fun other => if other = name then .var other else σ other

variable {σ : Substitution} {name other : String}

@[simp] theorem only_self (name : String) (e : Expr) : only name e name = e := by
  simp [only]

theorem only_of_ne {e : Expr} (h : other ≠ name) : only name e other = .var other := by
  simp [only, h]

@[simp] theorem hide_self (σ : Substitution) (name : String) : σ.hide name name = .var name := by
  simp [hide]

theorem hide_of_ne (h : other ≠ name) : σ.hide name other = σ other := by
  simp [hide, h]

/-- What stands in place of one variable alone is no word for a place, if the expression is none. -/
theorem only_ne_symbol {e : Expr} {symbol : IndexSymbol} (h : e ≠ .symbol symbol) :
    only name e other ≠ .symbol symbol := by
  unfold only
  split
  · exact h
  · nofun

/-- A variable that stands in place of another one does so because that is the one variable. -/
theorem eq_of_only_eq_var {e : Expr} {third : String} (h : only name e other = .var third) :
    other = third ∨ other = name ∧ e = .var third := by
  unfold only at h
  split at h
  · exact .inr ⟨‹_›, h⟩
  · exact .inl (Expr.var.inj h)

/-- To leave a variable alone that has nothing in its place makes no difference. -/
theorem hide_eq (h : σ name = .var name) : σ.hide name = σ := by
  funext other
  by_cases same : other = name
  · rw [same, hide_self, h]
  · exact hide_of_ne same

end Substitution

mutual

/-- The expression with others in place of its variables. A variable that is assigned keeps its
name. -/
def Expr.substitute (σ : Substitution) : Expr → Expr
  | .var name => σ name
  | .pathOn operand path => .pathOn (operand.substitute σ) path
  | .call selector args => .call selector (Expr.substituteAll σ args)
  | .subquery collection var predicate =>
    .subquery (collection.substitute σ) var (predicate.substitute (σ.hide var))
  | .list items => .list (Expr.substituteAll σ items)
  | .assign var value => .assign var (value.substitute σ)
  | e => e

/-- The expressions with others in place of their variables. -/
def Expr.substituteAll (σ : Substitution) : List Expr → List Expr
  | [] => []
  | e :: rest => e.substitute σ :: Expr.substituteAll σ rest

/-- The predicate with expressions in place of its variables. -/
def Predicate.substitute (σ : Substitution) : Predicate → Predicate
  | .comparison left operator right modifier options =>
    .comparison (left.substitute σ) operator (right.substitute σ) modifier options
  | .compound connective parts => .compound connective (Predicate.substituteAll σ parts)
  | p => p

/-- The predicates with expressions in place of their variables. -/
def Predicate.substituteAll (σ : Substitution) : List Predicate → List Predicate
  | [] => []
  | p :: rest => p.substitute σ :: Predicate.substituteAll σ rest

end

@[simp] theorem Expr.length_substituteAll (σ : Substitution) (es : List Expr) :
    (Expr.substituteAll σ es).length = es.length := by
  induction es with
  | nil => rfl
  | cons e rest ih => simp [Expr.substituteAll, ih]

@[simp] theorem Predicate.length_substituteAll (σ : Substitution) (ps : List Predicate) :
    (Predicate.substituteAll σ ps).length = ps.length := by
  induction ps with
  | nil => rfl
  | cons p rest ih => simp [Predicate.substituteAll, ih]

/-- A place that is no word for one is none after a substitution. -/
theorem Expr.substitute_ne_symbol {σ : Substitution}
    (places : ∀ name symbol, σ name ≠ .symbol symbol) {e : Expr}
    (h : ∀ symbol, e ≠ .symbol symbol) (symbol : IndexSymbol) :
    e.substitute σ ≠ .symbol symbol := by
  cases e with
  | symbol own => exact absurd rfl (h own)
  | var name => exact places name symbol
  | _ => nofun

/-! ## Assigned variables -/

/-- No variables are assigned but the named ones. -/
def Condition.assigns (names : String → Bool) : Condition where
  expr
    | .assign name _ => names name
    | _ => true
  predicate _ := true

/-- Are no variables assigned in the expression but the named ones? -/
def Expr.assignsOnly (names : String → Bool) (e : Expr) : Bool := e.meets (.assigns names)

/-- Are no variables assigned in the predicate but the named ones? -/
def Predicate.assignsOnly (names : String → Bool) (p : Predicate) : Bool := p.meets (.assigns names)

section

variable {names : String → Bool}

namespace Expr

@[simp] theorem assignsOnly_pathOn (operand : Expr) (path : String) :
    (pathOn operand path).assignsOnly names = operand.assignsOnly names := rfl

@[simp] theorem assignsOnly_call (selector : String) (args : List Expr) :
    (call selector args).assignsOnly names = allMeet (.assigns names) args := rfl

@[simp] theorem assignsOnly_subquery (collection : Expr) (var : String) (predicate : Predicate) :
    (subquery collection var predicate).assignsOnly names
      = (collection.assignsOnly names && predicate.assignsOnly names) := rfl

@[simp] theorem assignsOnly_list (items : List Expr) :
    (list items).assignsOnly names = allMeet (.assigns names) items := rfl

@[simp] theorem assignsOnly_assign (var : String) (value : Expr) :
    (assign var value).assignsOnly names = (names var && value.assignsOnly names) := rfl

@[simp] theorem allMeet_assigns_cons (e : Expr) (rest : List Expr) :
    allMeet (.assigns names) (e :: rest)
      = (e.assignsOnly names && allMeet (.assigns names) rest) := rfl

end Expr

namespace Predicate

@[simp] theorem assignsOnly_comparison (left right : Expr) (operator : Operator)
    (modifier : Modifier) (options : Options) :
    (comparison left operator right modifier options).assignsOnly names
      = (left.assignsOnly names && right.assignsOnly names) := rfl

@[simp] theorem assignsOnly_compound (connective : Connective) (parts : List Predicate) :
    (compound connective parts).assignsOnly names = allMeet (.assigns names) parts := rfl

@[simp] theorem allMeet_assigns_nil : allMeet (.assigns names) [] = true := rfl

@[simp] theorem allMeet_assigns_cons (p : Predicate) (rest : List Predicate) :
    allMeet (.assigns names) (p :: rest)
      = (p.assignsOnly names && allMeet (.assigns names) rest) := rfl

end Predicate

end

end PredicateLang
