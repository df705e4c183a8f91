import PredicateLang.Error
import PredicateLang.Target
import PredicateLang.Value.Conversion

/-!
# Making operands comparable

Two operands of a comparison are brought to one kind: of two kinds that can be cast to one another
the less precise operand is cast to the other kind, and what is looked for in a collection is cast
to the kind of its items. Operands whose kind is not known pass through, and so do structures.

Constants are converted at once. Between strings and GUIDs nothing but constants is converted; other
operands are compared as they are.
-/

namespace PredicateLang.Target

/-- Are these the kinds of a string and a GUID? -/
def isStringWithGuid : Kind → Kind → Bool
  | .string, .guid | .guid, .string => true
  | _, _ => false

/-- Converts a constant. -/
def castConstant (kind : Kind) (value : Value) (wanted : Kind) : Except Error Target :=
  match value.convert? wanted with
  | some converted => .ok (.constant wanted converted)
  | none =>
    .error (.type
      (if isStringWithGuid kind wanted then .notGuid value else .inconvertible value wanted))

/-- The operand as one of another kind. -/
def cast (t : Target) (wanted : Kind) : Except Error Target :=
  if t.kind = wanted ∨ wanted.isDynamic then .ok t
  else
    match t with
    | .constant kind value => if value.isNull then .ok t else castConstant kind value wanted
    | t => .ok (if isStringWithGuid t.kind wanted then t else .convert wanted t)

/-- What is looked for in a collection, as one of its items. -/
def castToElement (needle : Target) (haystack : Kind) : Except Error Target :=
  match haystack.element? with
  | some element =>
    if element.isCastable ∧ needle.kind.isCastable then needle.cast element else .ok needle
  | none => .ok needle

/-- Brings two operands that are no collections to one kind. -/
def makeScalarsComparable (left right : Target) : Except Error (Target × Target) :=
  match left.kind.rank?, right.kind.rank? with
  | some l, some r =>
    if l < r then return (← left.cast right.kind, right)
    else return (left, ← right.cast left.kind)
  | none, none => .ok (left, right)
  | _, _ =>
    if left.kind.isScalar ∧ right.kind.isScalar then
      .error (.type (.incomparable left.kind right.kind))
    else .ok (left, right)

/-- Brings two operands to one kind. -/
def makeComparable (left right : Target) : Except Error (Target × Target) :=
  if left.kind = right.kind ∨ left.kind.isDynamic ∨ right.kind.isDynamic then .ok (left, right)
  else
    match left.kind.isSequence, right.kind.isSequence with
    | true, false => return (left, ← right.castToElement left.kind)
    | false, true => return (← left.castToElement right.kind, right)
    | true, true => .ok (left, right)
    | false, false => makeScalarsComparable left right

end PredicateLang.Target
