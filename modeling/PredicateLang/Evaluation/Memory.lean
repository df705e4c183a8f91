import PredicateLang.Error
import PredicateLang.Fields

/-!
# What evaluation remembers

Names stand for values in slots, of which the latest hides earlier ones of the same name. Guards,
bindings and iteration open a slot and close it again; the variables that are assigned stand in a
table of their own and stay. Random numbers are drawn from an endless list, and evaluation counts
how many.

The list may be the sequence that a seed determines, so that a world is a value like any other. The
state of the generator grows by an odd constant, and every number is a state with its bits mixed.
-/

namespace PredicateLang

/-- What evaluation depends on besides the tree: the time, and the random numbers to come. -/
structure World where
  now : Instant
  randomNumbers : Nat → Int

/-- The values that names stand for, and how many random numbers have been drawn. -/
structure Memory where
  /-- The slots, the latest first. -/
  slots : List (String × Value)
  assigned : Fields Value
  drawn : Nat

namespace Memory

/-- Nothing to remember. -/
def empty : Memory := ⟨[], [], 0⟩

/-- Opens a slot. -/
def push (m : Memory) (name : String) (value : Value) : Memory :=
  { m with slots := (name, value) :: m.slots }

/-- Closes the latest slots until at most `depth` are open. -/
def truncate (m : Memory) (depth : Nat) : Memory :=
  { m with slots := m.slots.drop (m.slots.length - depth) }

/-- Assigns a variable. -/
def assign (m : Memory) (name : String) (value : Value) : Memory :=
  { m with assigned := m.assigned.insert name value }

/-- The value that a name stands for: in the latest slot, or as a variable. -/
def lookup? (m : Memory) (name : String) : Option Value :=
  (Fields.find? m.slots name).orElse fun _ => m.assigned.find? name

end Memory

/-- A step of evaluation: it depends on the world, changes the memory and may fail. -/
abbrev Evaluation := ReaderT World (EStateM Error Memory)

namespace Evaluation

/-- A step that only may fail. -/
def ofResult {α : Type} : Except Error α → Evaluation α
  | .ok a => pure a
  | .error e => throw e

/-- Does a step with a slot that is closed after it, also when it fails. -/
def withSlot {α : Type} (name : String) (value : Value) (step : Evaluation α) : Evaluation α :=
  fun world memory =>
    match step world (memory.push name value) with
    | .ok a after => .ok a (after.truncate memory.slots.length)
    | .error e after => .error e (after.truncate memory.slots.length)

/-- The value that a name stands for. -/
def lookup (name : String) : Evaluation Value := do
  match (← get).lookup? name with
  | some value => return value
  | none => throw (.evaluation (.unboundParameter name))

/-- Assigns a variable. -/
def assign (name : String) (value : Value) : Evaluation Unit :=
  modify fun memory => memory.assign name value

/-- The next random number. -/
def draw : Evaluation Int := do
  let memory ← get
  set { memory with drawn := memory.drawn + 1 }
  return (← read).randomNumbers memory.drawn

end Evaluation

/-! ## Random numbers -/

namespace Random

/-- What the state grows by from a number to the next. -/
def increment : UInt64 := 0x9E3779B97F4A7C15

/-- A state with its bits mixed. -/
def mix (state : UInt64) : UInt64 :=
  let z := (state ^^^ (state >>> 30)) * 0xBF58476D1CE4E5B9
  let z := (z ^^^ (z >>> 27)) * 0x94D049BB133111EB
  z ^^^ (z >>> 31)

/-- What numbers are below: the greatest number of the kind `int`. -/
def bound : Int := 0x7FFFFFFF

/-- The number at a place of the sequence of a seed. It is not negative, and is below the bound. -/
def number (seed : UInt64) (place : Nat) : Int :=
  (mix (seed + increment * UInt64.ofNat (place + 1))).toNat % bound

theorem number_nonneg (seed : UInt64) (place : Nat) : 0 ≤ number seed place := by
  unfold number bound
  omega

theorem number_lt (seed : UInt64) (place : Nat) : number seed place < bound := by
  unfold number bound
  omega

end Random

/-- The world at a time, with the random numbers of a seed. -/
def World.ofSeed (now : Instant) (seed : UInt64) : World := ⟨now, Random.number seed⟩

end PredicateLang
