import PredicateLang.Lowering

/-!
# Conditions on trees

A condition on nodes, and what it says about a tree: that every node of it meets the condition,
those of the predicates in it included. One such condition is on the variables that are mentioned.
Another is that nothing has an effect: a tree is pure if no variable is assigned in it and no random
number is drawn, which of the functions only two do.
-/

namespace PredicateLang

/-- A condition on each node of a tree. -/
structure Condition where
  expr : Expr → Bool
  predicate : Predicate → Bool

mutual

/-- Does each node of the expression meet the condition? -/
def Expr.meets (condition : Condition) : Expr → Bool
  | .pathOn operand path => condition.expr (.pathOn operand path) && operand.meets condition
  | .call selector args => condition.expr (.call selector args) && Expr.allMeet condition args
  | .subquery collection var predicate =>
    condition.expr (.subquery collection var predicate) && collection.meets condition
      && predicate.meets condition
  | .list items => condition.expr (.list items) && Expr.allMeet condition items
  | .assign var value => condition.expr (.assign var value) && value.meets condition
  | e => condition.expr e

/-- Does each node of each of the expressions meet the condition? -/
def Expr.allMeet (condition : Condition) : List Expr → Bool
  | [] => true
  | e :: rest => e.meets condition && Expr.allMeet condition rest

/-- Does each node of the predicate meet the condition? -/
def Predicate.meets (condition : Condition) : Predicate → Bool
  | .constant value => condition.predicate (.constant value)
  | .comparison left operator right modifier options =>
    condition.predicate (.comparison left operator right modifier options)
      && left.meets condition && right.meets condition
  | .compound connective parts =>
    condition.predicate (.compound connective parts) && Predicate.allMeet condition parts

/-- Does each node of each of the predicates meet the condition? -/
def Predicate.allMeet (condition : Condition) : List Predicate → Bool
  | [] => true
  | p :: rest => p.meets condition && Predicate.allMeet condition rest

end

theorem Expr.allMeet_iff {condition : Condition} {es : List Expr} :
    Expr.allMeet condition es ↔ ∀ e ∈ es, e.meets condition := by
  induction es with
  | nil => simp [Expr.allMeet]
  | cons e es ih => simp [Expr.allMeet, ih]

theorem Predicate.allMeet_iff {condition : Condition} {ps : List Predicate} :
    Predicate.allMeet condition ps ↔ ∀ p ∈ ps, p.meets condition := by
  induction ps with
  | nil => simp [Predicate.allMeet]
  | cons p ps ih => simp [Predicate.allMeet, ih]

mutual

/-- A condition that every node meets is met by every expression. -/
theorem Expr.meets_of_forall {condition : Condition} (expr : ∀ e, condition.expr e)
    (predicate : ∀ p, condition.predicate p) (e : Expr) : e.meets condition := by
  cases e with
  | pathOn operand path =>
    exact Bool.and_eq_true_iff.mpr ⟨expr _, operand.meets_of_forall expr predicate⟩
  | call selector args =>
    exact Bool.and_eq_true_iff.mpr ⟨expr _, Expr.allMeet_of_forall expr predicate args⟩
  | subquery collection var body =>
    rw [Expr.meets, Bool.and_eq_true, Bool.and_eq_true]
    exact ⟨⟨expr _, collection.meets_of_forall expr predicate⟩,
      body.meets_of_forall expr predicate⟩
  | list items =>
    exact Bool.and_eq_true_iff.mpr ⟨expr _, Expr.allMeet_of_forall expr predicate items⟩
  | assign var value =>
    exact Bool.and_eq_true_iff.mpr ⟨expr _, value.meets_of_forall expr predicate⟩
  | _ => exact expr _

theorem Expr.allMeet_of_forall {condition : Condition} (expr : ∀ e, condition.expr e)
    (predicate : ∀ p, condition.predicate p) (es : List Expr) : Expr.allMeet condition es := by
  cases es with
  | nil => rfl
  | cons e rest =>
    exact Bool.and_eq_true_iff.mpr
      ⟨e.meets_of_forall expr predicate, Expr.allMeet_of_forall expr predicate rest⟩

/-- A condition that every node meets is met by every predicate. -/
theorem Predicate.meets_of_forall {condition : Condition} (expr : ∀ e, condition.expr e)
    (predicate : ∀ p, condition.predicate p) (p : Predicate) : p.meets condition := by
  cases p with
  | constant value => exact predicate _
  | comparison left operator right modifier options =>
    rw [Predicate.meets, Bool.and_eq_true, Bool.and_eq_true]
    exact ⟨⟨predicate _, left.meets_of_forall expr predicate⟩,
      right.meets_of_forall expr predicate⟩
  | compound connective parts =>
    exact Bool.and_eq_true_iff.mpr
      ⟨predicate _, Predicate.allMeet_of_forall expr predicate parts⟩

theorem Predicate.allMeet_of_forall {condition : Condition} (expr : ∀ e, condition.expr e)
    (predicate : ∀ p, condition.predicate p) (ps : List Predicate) :
    Predicate.allMeet condition ps := by
  cases ps with
  | nil => rfl
  | cons p rest =>
    exact Bool.and_eq_true_iff.mpr
      ⟨p.meets_of_forall expr predicate, Predicate.allMeet_of_forall expr predicate rest⟩

end

/-! ## Assignments -/

/-- No variable is assigned. -/
def Condition.assignsNothing : Condition where
  expr
    | .assign .. => false
    | _ => true
  predicate _ := true

/-- Is no variable assigned in the expression? -/
def Expr.assignsNothing (e : Expr) : Bool := e.meets .assignsNothing

/-- Is no variable assigned in the predicate? -/
def Predicate.assignsNothing (p : Predicate) : Bool := p.meets .assignsNothing

/-! ## Names of variables -/

/-- No variables are mentioned but the named ones, neither read nor assigned, and no subquery is over
another one. -/
def Condition.mentions (names : String → Bool) : Condition where
  expr
    | .var name | .assign name _ | .subquery _ name _ => names name
    | _ => true
  predicate _ := true

/-- Are no variables mentioned in the expression but the named ones? -/
def Expr.mentionsOnly (names : String → Bool) (e : Expr) : Bool := e.meets (.mentions names)

/-- Are no variables mentioned in the predicate but the named ones? -/
def Predicate.mentionsOnly (names : String → Bool) (p : Predicate) : Bool :=
  p.meets (.mentions names)

section

variable {names : String → Bool}

namespace Expr

theorem mentionsOnly_of_forall (all : ∀ name, names name) (e : Expr) : e.mentionsOnly names := by
  refine e.meets_of_forall (fun e => ?_) fun _ => rfl
  cases e <;> first | rfl | exact all _

@[simp] theorem mentionsOnly_var (name : String) : (var name).mentionsOnly names = names name := rfl

@[simp] theorem mentionsOnly_pathOn (operand : Expr) (path : String) :
    (pathOn operand path).mentionsOnly names = operand.mentionsOnly names := rfl

@[simp] theorem mentionsOnly_call (selector : String) (args : List Expr) :
    (call selector args).mentionsOnly names = allMeet (.mentions names) args := rfl

@[simp] theorem mentionsOnly_subquery (collection : Expr) (var : String) (predicate : Predicate) :
    (subquery collection var predicate).mentionsOnly names
      = (names var && collection.mentionsOnly names && predicate.mentionsOnly names) := rfl

@[simp] theorem mentionsOnly_list (items : List Expr) :
    (list items).mentionsOnly names = allMeet (.mentions names) items := rfl

@[simp] theorem mentionsOnly_assign (var : String) (value : Expr) :
    (assign var value).mentionsOnly names = (names var && value.mentionsOnly names) := rfl

@[simp] theorem allMeet_mentions_nil : allMeet (.mentions names) [] = true := rfl

@[simp] theorem allMeet_mentions_cons (e : Expr) (rest : List Expr) :
    allMeet (.mentions names) (e :: rest)
      = (e.mentionsOnly names && allMeet (.mentions names) rest) := rfl

end Expr

namespace Predicate

theorem mentionsOnly_of_forall (all : ∀ name, names name) (p : Predicate) :
    p.mentionsOnly names := by
  refine p.meets_of_forall (fun e => ?_) fun _ => rfl
  cases e <;> first | rfl | exact all _

@[simp] theorem mentionsOnly_comparison (left right : Expr) (operator : Operator)
    (modifier : Modifier) (options : Options) :
    (comparison left operator right modifier options).mentionsOnly names
      = (left.mentionsOnly names && right.mentionsOnly names) := rfl

@[simp] theorem mentionsOnly_compound (connective : Connective) (parts : List Predicate) :
    (compound connective parts).mentionsOnly names = allMeet (.mentions names) parts := rfl

@[simp] theorem allMeet_mentions_nil : allMeet (.mentions names) [] = true := rfl

@[simp] theorem allMeet_mentions_cons (p : Predicate) (rest : List Predicate) :
    allMeet (.mentions names) (p :: rest)
      = (p.mentionsOnly names && allMeet (.mentions names) rest) := rfl

end Predicate

end

/-! ## Trees without effects -/

/-- Does the builtin call draw a random number? -/
def Builtin.isRandom (builtin : Builtin) : Bool := builtin = .random || builtin = .randomBelow

/-- Are random numbers drawn by a function that means this? -/
def Meaning.isRandom : Meaning → Bool
  | .random | .randomBelow => true
  | .math builtin | .rounding builtin | .text builtin => builtin.isRandom
  | _ => false

/-- Only the two functions named for it draw random numbers. -/
theorem BuiltinFunction.isRandom_table (f : BuiltinFunction) (mem : f ∈ table) :
    f.meaning.isRandom = (f.meaning = .random || f.meaning = .randomBelow) := by
  have each : table.all fun f =>
      f.meaning.isRandom == (f.meaning = .random || f.meaning = .randomBelow) := by decide
  exact eq_of_beq (List.all_eq_true.mp each f mem)

/-- Does a selector name a function that draws random numbers? -/
def BuiltinFunction.isRandom (selector : String) : Bool :=
  (ofSelector? selector).any (·.meaning.isRandom)

/-- No assignments and no random functions. -/
def Condition.pure : Condition where
  expr
    | .assign .. => false
    | .call selector _ => !BuiltinFunction.isRandom selector
    | _ => true
  predicate _ := true

/-- Is no variable assigned and no random number drawn in the expression? -/
def Expr.isPure (e : Expr) : Bool := e.meets .pure

/-- Is no variable assigned and no random number drawn in the predicate? -/
def Predicate.isPure (p : Predicate) : Bool := p.meets .pure

namespace Expr

@[simp] theorem isPure_pathOn (operand : Expr) (path : String) :
    (pathOn operand path).isPure = operand.isPure := rfl

@[simp] theorem isPure_call (selector : String) (args : List Expr) :
    (call selector args).isPure
      = (!BuiltinFunction.isRandom selector && allMeet .pure args) := rfl

@[simp] theorem isPure_subquery (collection : Expr) (var : String) (predicate : Predicate) :
    (subquery collection var predicate).isPure = (collection.isPure && predicate.isPure) := rfl

@[simp] theorem isPure_list (items : List Expr) : (list items).isPure = allMeet .pure items := rfl

@[simp] theorem isPure_assign (var : String) (value : Expr) :
    (assign var value).isPure = false := rfl

@[simp] theorem allMeet_pure_nil : allMeet .pure [] = true := rfl

@[simp] theorem allMeet_pure_cons (e : Expr) (rest : List Expr) :
    allMeet .pure (e :: rest) = (e.isPure && allMeet .pure rest) := rfl

end Expr

namespace Predicate

@[simp] theorem isPure_comparison (left right : Expr) (operator : Operator) (modifier : Modifier)
    (options : Options) :
    (comparison left operator right modifier options).isPure = (left.isPure && right.isPure) := rfl

@[simp] theorem isPure_compound (connective : Connective) (parts : List Predicate) :
    (compound connective parts).isPure = allMeet .pure parts := rfl

@[simp] theorem allMeet_pure_nil : allMeet .pure [] = true := rfl

@[simp] theorem allMeet_pure_cons (p : Predicate) (rest : List Predicate) :
    allMeet .pure (p :: rest) = (p.isPure && allMeet .pure rest) := rfl

end Predicate

end PredicateLang
