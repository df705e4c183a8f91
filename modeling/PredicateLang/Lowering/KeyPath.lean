import PredicateLang.Lowering.Scope
import PredicateLang.Text.Split

/-!
# Lowering key paths

A key path is a chain of properties, each behind a guard. On a collection a property is taken of
every item. A segment with `@` in front is an operator on the collection that the segments behind it
lead to: `items.@sum.price` is the sum of `items.price`.
-/

namespace PredicateLang

open PredicateLang.Text

/-- The kind of a property. Anything may be a property of an unknown value, and of an open record. -/
def Kind.property (kind : Kind) (name : String) : Except TypeFault Kind :=
  match kind with
  | .any | .null => .ok .any
  | .record recordName fields isOpen =>
    match Fields.find? fields name with
    | some kind => .ok kind
    | none => if isOpen then .ok .any else .error (.missingProperty recordName name)
  | other => .error (.noProperties other name)

namespace Lowering

/-- The kind of the items of a collection that an operation asks for. -/
def elementOf (operation : String) (wanted : Demand) (source : Target) : Lowering Kind :=
  match source.kind.element? with
  | some element => pure element
  | none => typeFault (.demand operation wanted source.kind)

/-- A property of a receiver of a kind, or of its items. -/
def propertyOn (name : String) : Kind → Target → Lowering Target
  | .sequence element, receiver => do
    let parameter ← fresh "e"
    let body ← propertyOn name element (.parameter element parameter)
    return .map (.sequence body.kind) receiver parameter body
  | kind, receiver =>
    match kind.property name with
    | .ok kind => guarded receiver fun receiver => return .property kind receiver name
    | .error fault => typeFault fault

/-- A property of a receiver. -/
def property (receiver : Target) (name : String) : Lowering Target :=
  propertyOn name receiver.kind receiver

/-- Can items of a kind be reduced? Numbers can, and strings and dates to the least or greatest. -/
def isReducible (reduction : Reduction) (element : Kind) : Bool :=
  element.isNumeric || element.isDynamic
    || (element = .string || element = .date) && (reduction = .min || reduction = .max)

/-- The kind of what items of a kind are reduced to. -/
def reducedKind (reduction : Reduction) (element : Kind) : Kind :=
  if reduction = .average then if element.isDynamic then .any else .double else element

/-- A collection with items of a kind, reduced. -/
def reduce (source : Target) (reduction : Reduction) (element : Kind) : Lowering Target :=
  if isReducible reduction element then
    guarded source fun source => return .reduce (reducedKind reduction element) reduction source
  else typeFault (.notAggregable element)

/-- The number of items. -/
def count (source : Target) : Lowering Target :=
  guarded source fun source => return .count (.integer .int) source

/-- The reduction that an operator in a key path stands for, named in small letters. -/
def reduction? : String → Option Reduction
  | "sum" => some .sum
  | "avg" | "average" => some .average
  | "min" => some .min
  | "max" => some .max
  | _ => none

/-- The operator of a key path on a collection, in any letter case. -/
def collectionOperator (receiver : Target) (name : String) : Lowering Target := do
  let element ← elementOf ("@" ++ name) .collection receiver
  let small := String.ofList (name.toList.map Char.toLower)
  if small = "count" then count receiver
  else
    match reduction? small with
    | some reduction => reduce receiver reduction element
    | none => typeFault (.unknownCollectionOperator small)

/-- What segments lead to from a receiver. -/
def follow (receiver : Target) : (segments : List String) → Lowering Target
  | [] => pure receiver
  | segment :: rest => do
    match segment.toList with
    | '@' :: name => collectionOperator (← follow receiver rest) (String.ofList name)
    | _ => follow (← property receiver segment) rest

/-- The segments of a key path that lead anywhere. -/
def segments (path : String) : List String :=
  (split '.' path).filter fun segment => !segment.isEmpty && !equalIgnoringCase segment "self"

/-- What a key path leads to from a receiver. -/
def keyPath (receiver : Target) (path : String) : Lowering Target :=
  follow receiver (segments path)

end Lowering

end PredicateLang
