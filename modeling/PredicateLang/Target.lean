import PredicateLang.Kind
import PredicateLang.Target.Operation

/-!
# Lowered trees

Expressions and predicates are lowered to trees of one sort, whose nodes say explicitly what is to
be done and carry the kind of their value. A lowered tree can be evaluated in memory, or written in
the language of a query backend.

Names stand for values: the object, variables, items of collections, and what guards and bindings
have evaluated.
-/

namespace PredicateLang

/-- A lowered tree. Every node starts with the kind of its value. -/
inductive Target where
  | constant (kind : Kind) (value : Value)
  /-- The value that a name stands for. -/
  | parameter (kind : Kind) (name : String)
  /-- A property of an object; of something absent, null. -/
  | property (kind : Kind) (receiver : Target) (name : String)
  /-- The body under a name for the subject. If the subject is null, then the default of the kind of
  the body, which is not evaluated. -/
  | guard (kind : Kind) (subject : Target) (binding : String) (body : Target)
  /-- The values of the body for the items of a collection. -/
  | map (kind : Kind) (source : Target) (parameter : String) (body : Target)
  /-- The items of a collection for which the predicate holds. -/
  | filter (kind : Kind) (source : Target) (parameter : String) (predicate : Target)
  /-- Does the predicate hold for all items of a collection, or for one? -/
  | quantify (kind : Kind) (quantifier : Quantifier) (source : Target) (parameter : String)
      (predicate : Target)
  | count (kind : Kind) (source : Target)
  | reduce (kind : Kind) (reduction : Reduction) (source : Target)
  /-- An item of a collection; null outside of its range. -/
  | elementAt (kind : Kind) (source index : Target)
  | list (kind : Kind) (items : List Target)
  | binary (kind : Kind) (op : BinaryOp) (left right : Target)
  | unary (kind : Kind) (op : UnaryOp) (operand : Target)
  | call (kind : Kind) (builtin : Builtin) (args : List Target)
  /-- The operand as a value of the kind of the node. -/
  | convert (kind : Kind) (operand : Target)
  /-- The value, which the name stands for from now on. -/
  | assign (kind : Kind) (name : String) (value : Target)
  /-- The body under a name for a value, which may be null. -/
  | bind (kind : Kind) (value : Target) (binding : String) (body : Target)

namespace Target

/-- The kind of the value. -/
def kind : Target → Kind
  | constant kind _ | parameter kind _ | property kind _ _ | guard kind _ _ _ | map kind _ _ _
  | filter kind _ _ _ | quantify kind _ _ _ _ | count kind _ | reduce kind _ _
  | elementAt kind _ _ | list kind _ | binary kind _ _ _ | unary kind _ _ | call kind _ _
  | convert kind _ | assign kind _ _ | bind kind _ _ _ => kind

/-- The constant that is a value. -/
def ofValue (value : Value) : Target := constant (.ofValue value) value

/-- The value, if the tree is a constant. -/
def constant? : Target → Option Value
  | constant _ value => some value
  | _ => none

/-- The string, if the tree is a constant string. -/
def constantString? : Target → Option String
  | constant _ (.string s) => some s
  | _ => none

/-- Is the tree the constant null? -/
def isNullConstant : Target → Bool
  | constant _ value => value.isNull
  | _ => false

mutual

/-- Does evaluation assign a variable or draw a random number, so that it makes a difference to
evaluate the tree twice? -/
def hasEffects : Target → Bool
  | assign .. => true
  | call _ builtin args => builtin = .random || builtin = .randomBelow || anyHasEffects args
  | constant .. | parameter .. => false
  | property _ receiver _ => receiver.hasEffects
  | guard _ subject _ body => subject.hasEffects || body.hasEffects
  | map _ source _ body => source.hasEffects || body.hasEffects
  | filter _ source _ predicate => source.hasEffects || predicate.hasEffects
  | quantify _ _ source _ predicate => source.hasEffects || predicate.hasEffects
  | bind _ value _ body => value.hasEffects || body.hasEffects
  | count _ source | reduce _ _ source => source.hasEffects
  | convert _ operand | unary _ _ operand => operand.hasEffects
  | elementAt _ source index => source.hasEffects || index.hasEffects
  | binary _ _ left right => left.hasEffects || right.hasEffects
  | list _ items => anyHasEffects items

/-- Does one of the trees have effects? -/
def anyHasEffects : List Target → Bool
  | [] => false
  | t :: rest => t.hasEffects || anyHasEffects rest

end

end Target

end PredicateLang
