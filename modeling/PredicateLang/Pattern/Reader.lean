/-!
# Reading characters

A reader takes something from the front of a text, or fails. What it leaves is never longer than the
text, and `iterate` repeats only steps that take something, so reading always ends.
-/

namespace PredicateLang

/-- Reads something at the front of a text. -/
def Reader (α : Type) : Type :=
  (text : List Char) → Option (α × { rest : List Char // rest.length ≤ text.length })

namespace Reader

variable {α β σ : Type}

instance : Monad Reader where
  pure a := fun text => some (a, ⟨text, Nat.le_refl _⟩)
  bind reader next := fun text =>
    match reader text with
    | none => none
    | some (a, ⟨rest, le⟩) =>
      match next a rest with
      | none => none
      | some (b, ⟨rest', le'⟩) => some (b, ⟨rest', Nat.le_trans le' le⟩)

/-- Fails. -/
def fail : Reader α := fun _ => none

/-- A value that may be missing. -/
def ofOption : Option α → Reader α
  | some a => pure a
  | none => fail

/-- What the text is, without taking anything. -/
def ahead : Reader (List Char) := fun text => some (text, ⟨text, Nat.le_refl _⟩)

/-- Takes the next character. -/
def next : Reader Char := fun text =>
  match text with
  | [] => none
  | c :: rest => some (c, ⟨rest, by simp⟩)

/-- Takes some of the next characters. -/
def skip (n : Nat) : Reader Unit := fun text =>
  some ((), ⟨text.drop n, by simp⟩)

/-- Takes a word if it is next; says whether it was. -/
def accept (word : List Char) : Reader Bool := do
  if word.isPrefixOf (← ahead) then
    skip word.length
    return true
  else return false

/-- Takes a word that has to be next. -/
def expect (word : List Char) : Reader Unit := do
  if ← accept word then return () else fail

/-- Takes the characters up to the first one that is not of a sort. -/
def takeWhile (p : Char → Bool) : Reader (List Char) := do
  let taken := (← ahead).takeWhile p
  skip taken.length
  return taken

/-- Repeats a step until it gives a result. A step that takes nothing without a result fails. -/
def iterate (step : σ → Reader (σ ⊕ α)) (s : σ) : Reader α := fun text =>
  match step s text with
  | none => none
  | some (.inr a, rest) => some (a, rest)
  | some (.inl s, ⟨rest, le⟩) =>
    if _shorter : rest.length < text.length then
      match iterate step s rest with
      | none => none
      | some (a, ⟨rest', le'⟩) => some (a, ⟨rest', Nat.le_trans le' le⟩)
    else none
termination_by text => text.length

/-- Reads a whole text. -/
def run (reader : Reader α) (text : List Char) : Option α :=
  match reader text with
  | some (a, ⟨[], _⟩) => some a
  | _ => none

end Reader

end PredicateLang
