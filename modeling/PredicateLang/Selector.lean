import PredicateLang.Target.Operation
import PredicateLang.Text.Split

/-!
# Selectors of the builtin functions

Every builtin function is named by a selector, which gives each argument a word that ends in a
colon, and takes a fixed number of arguments. Selectors are recognized in any letter case.
-/

namespace PredicateLang

open PredicateLang.Text

/-- What a builtin function is lowered to. -/
inductive Meaning where
  | reduce (reduction : Reduction)
  | count
  | arithmetic (op : BinaryOp)
  /-- A function of numbers whose value has a fraction. -/
  | math (builtin : Builtin)
  /-- A function of numbers that leaves integers as they are. -/
  | rounding (builtin : Builtin)
  | abs
  | negate
  | text (builtin : Builtin)
  | bitwise (op : BinaryOp)
  | shift (op : BinaryOp)
  | onesComplement
  | random
  | randomBelow
  | now
  | index
  | cast
  | dateAdd (unit : DateUnit)
deriving DecidableEq, Repr

/-- A builtin function. -/
structure BuiltinFunction where
  selector : String
  arity : Nat
  meaning : Meaning
deriving DecidableEq, Repr

namespace BuiltinFunction

/-- The builtin functions. -/
def table : List BuiltinFunction :=
  [ ⟨"sum:", 1, .reduce .sum⟩,
    ⟨"count:", 1, .count⟩,
    ⟨"min:", 1, .reduce .min⟩,
    ⟨"max:", 1, .reduce .max⟩,
    ⟨"average:", 1, .reduce .average⟩,
    ⟨"add:to:", 2, .arithmetic .add⟩,
    ⟨"from:subtract:", 2, .arithmetic .subtract⟩,
    ⟨"multiply:by:", 2, .arithmetic .multiply⟩,
    ⟨"divide:by:", 2, .arithmetic .divide⟩,
    ⟨"modulus:by:", 2, .arithmetic .modulo⟩,
    ⟨"raise:toPower:", 2, .arithmetic .power⟩,
    ⟨"sqrt:", 1, .math .sqrt⟩,
    ⟨"log:", 1, .math .log10⟩,
    ⟨"ln:", 1, .math .ln⟩,
    ⟨"exp:", 1, .math .exp⟩,
    ⟨"floor:", 1, .rounding .floor⟩,
    ⟨"ceiling:", 1, .rounding .ceiling⟩,
    ⟨"trunc:", 1, .rounding .trunc⟩,
    ⟨"abs:", 1, .abs⟩,
    ⟨"negate:", 1, .negate⟩,
    ⟨"uppercase:", 1, .text .uppercase⟩,
    ⟨"lowercase:", 1, .text .lowercase⟩,
    ⟨"length:", 1, .text .length⟩,
    ⟨"bitwiseAnd:with:", 2, .bitwise .bitAnd⟩,
    ⟨"bitwiseOr:with:", 2, .bitwise .bitOr⟩,
    ⟨"bitwiseXor:with:", 2, .bitwise .bitXor⟩,
    ⟨"leftshift:by:", 2, .shift .shiftLeft⟩,
    ⟨"rightshift:by:", 2, .shift .shiftRight⟩,
    ⟨"onesComplement:", 1, .onesComplement⟩,
    ⟨"random", 0, .random⟩,
    ⟨"randomn:", 1, .randomBelow⟩,
    ⟨"now", 0, .now⟩,
    ⟨"objectFrom:withIndex:", 2, .index⟩,
    ⟨"castObject:toType:", 2, .cast⟩,
    ⟨"dateByAddingSeconds:", 2, .dateAdd .seconds⟩,
    ⟨"dateByAddingMinutes:", 2, .dateAdd .minutes⟩,
    ⟨"dateByAddingHours:", 2, .dateAdd .hours⟩,
    ⟨"dateByAddingDays:", 2, .dateAdd .days⟩,
    ⟨"dateByAddingMonths:", 2, .dateAdd .months⟩,
    ⟨"dateByAddingYears:", 2, .dateAdd .years⟩,
    ⟨"addSeconds:", 2, .dateAdd .seconds⟩,
    ⟨"addMinutes:", 2, .dateAdd .minutes⟩,
    ⟨"addHours:", 2, .dateAdd .hours⟩,
    ⟨"addDays:", 2, .dateAdd .days⟩,
    ⟨"addMonths:", 2, .dateAdd .months⟩,
    ⟨"addYears:", 2, .dateAdd .years⟩ ]

/-- The builtin function with a selector. -/
def ofSelector? (selector : String) : Option BuiltinFunction :=
  table.find? fun f => equalIgnoringCase f.selector selector

/-- The first word of the selector, without its colon. -/
def keyword (f : BuiltinFunction) : String :=
  String.ofList (f.selector.toList.takeWhile (· ≠ ':'))

/-- The selector that a call by a short name stands for: the first in the table that begins with
the name and takes that many arguments. -/
def selectorOfCall? (name : String) (arity : Nat) : Option String :=
  if equalIgnoringCase name "cast" ∧ arity = 2 then some "castObject:toType:"
  else
    (table.find? fun f => f.arity = arity && equalIgnoringCase f.keyword name).map (·.selector)

/-- Does the selector name a builtin function? -/
def isBuiltin (selector : String) : Bool := (ofSelector? selector).isSome

end BuiltinFunction

end PredicateLang
