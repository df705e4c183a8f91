import PredicateLang.Evaluation.Arithmetic

/-!
# Collections of values

Properties, items, sizes and reductions of values. Nulls are left out of reductions.
-/

namespace PredicateLang.Evaluation

/-- A number of items as a value. -/
def countValue (n : Nat) : Except Error Value :=
  match Value.narrow? .int n with
  | some v => .ok v
  | none => fault (.countTooLarge n)

/-- How many items, fields or characters there are. -/
def count : Value → Except Error Value
  | .null => .ok (.int 0)
  | .array items => countValue items.length
  | .object fields => countValue fields.length
  | .string s => countValue s.length
  | other => fault (.notCountable other.typeName)

mutual

/-- A property of an object, or of the items of an array. -/
def property (name : String) : Value → Except Error Value
  | .null => .ok .null
  | .object fields => .ok ((Fields.find? fields name).getD .null)
  | .array items => do return .array (← propertyOfAll name items)
  | other => fault (.noProperties name other.typeName)

/-- A property of each of several values. -/
def propertyOfAll (name : String) : List Value → Except Error (List Value)
  | [] => .ok []
  | item :: rest => return (← property name item) :: (← propertyOfAll name rest)

end

/-- The item at an index; null outside of the range. -/
def elementAt (source index : Value) : Except Error Value :=
  match source with
  | .null => .ok .null
  | .array items =>
    match index with
    | .null => .ok .null
    | .integer n => .ok (if 0 ≤ n.val then (items[n.val.toNat]?).getD .null else .null)
    | other => fault (.indexType other.typeName)
  | other => fault (.notIndexable other.typeName)

/-- Is there an item, a part of a string or a field like this? -/
def contains (haystack needle : Value) : Except Error Value :=
  match haystack, needle with
  | .null, _ => .ok (.boolean false)
  | .array items, needle => .ok (.boolean (items.any (·.looseEq needle)))
  | .string s, .string piece => .ok (.boolean (Text.occursIn piece.toList s.toList))
  | .string _, .null => .ok (.boolean false)
  | .object fields, .string name => .ok (.boolean (Fields.hasName fields name))
  | haystack, needle => fault (.notSearchable haystack.typeName needle.typeName)

/-! ## Reductions -/

/-- The sum of values as one of a kind. Every partial sum has to fit. -/
def sum (kind : Kind) (items : List Value) : Except Error Value :=
  items.foldlM (fun total item => binary kind .add total item)
    (if kind.isDynamic then .int 0 else kind.default)

/-- The sum of numbers in double precision, from a total on. -/
def floatSum (total : Float) : List Value → Except Error Float
  | [] => .ok total
  | item :: rest =>
    match item.toFloat? with
    | some x => floatSum (total + x) rest
    | none => fault (.notAveragable item.typeName)

/-- The average of numbers; of none, null. -/
def average (items : List Value) : Except Error Value :=
  if items.isEmpty then .ok .null
  else do
    let total ← floatSum 0.0 items
    return .double (total / Float.ofNat items.length)

/-- The first value that no later one comes before in an order, starting with the best so far. -/
def extreme (wanted : Ordering) (best : Value) : List Value → Except Error Value
  | [] => .ok best
  | item :: rest =>
    match item.compare best with
    | some order => extreme wanted (if order = wanted then item else best) rest
    | none => fault (.incomparable item.typeName best.typeName)

/-- The least or the greatest value; of none, null. -/
def extremeOf (wanted : Ordering) : List Value → Except Error Value
  | [] => .ok .null
  | first :: rest => extreme wanted first rest

/-- The items of a collection reduced to a value, asked for as one of a kind. -/
def reduce (kind : Kind) (reduction : Reduction) (items : List Value) : Except Error Value :=
  let present := items.filter fun item => !item.isNull
  match reduction with
  | .sum => sum kind present
  | .average => average present
  | .min => extremeOf .lt present
  | .max => extremeOf .gt present

end PredicateLang.Evaluation
