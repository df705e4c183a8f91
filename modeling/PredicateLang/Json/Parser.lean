import PredicateLang.Json.Token

/-!
# Reading JSON documents

Recursive descent over the lexemes of a document. Every reader gives the lexemes that follow, with
the proof that they are fewer, which is what the recursion ends by. Arrays and objects may be
nested to a depth of 127. Of several fields under one name the last counts.
-/

namespace PredicateLang.Json

/-- What is left of a list of lexemes after at least one has been read. -/
abbrev Rest (tokens : List Token) := { rest : List Token // rest.length < tokens.length }

/-- How deep arrays and objects may be nested. -/
def maxDepth : Nat := 127

mutual

/-- A document. -/
def parseValue (depth : Nat) (tokens : List Token) : Option (Json × Rest tokens) :=
  match tokens with
  | .null :: rest => some (.null, ⟨rest, by simp⟩)
  | .boolean b :: rest => some (.boolean b, ⟨rest, by simp⟩)
  | .number n :: rest => some (.number n, ⟨rest, by simp⟩)
  | .string s :: rest => some (.string s, ⟨rest, by simp⟩)
  | .openArray :: .closeArray :: rest =>
    if depth = 0 then none else some (.array [], ⟨rest, by simp only [List.length_cons]; omega⟩)
  | .openArray :: rest =>
    if depth = 0 then none
    else
      (parseItems (depth - 1) rest).map fun (items, r) =>
        (.array items, ⟨r.val, by have := r.property; simp only [List.length_cons]; omega⟩)
  | .openObject :: .closeObject :: rest =>
    if depth = 0 then none else some (.object [], ⟨rest, by simp only [List.length_cons]; omega⟩)
  | .openObject :: rest =>
    if depth = 0 then none
    else
      (parseFields (depth - 1) rest).map fun (fields, r) =>
        (.object (Fields.ofList fields),
          ⟨r.val, by have := r.property; simp only [List.length_cons]; omega⟩)
  | _ => none
termination_by (tokens.length, 0)

/-- The items of an array, at least one, and its closing bracket. -/
def parseItems (depth : Nat) (tokens : List Token) : Option (List Json × Rest tokens) :=
  match parseValue depth tokens with
  | some (item, ⟨.closeArray :: rest, h⟩) => some ([item], ⟨rest, by simp at h; omega⟩)
  | some (item, ⟨.comma :: rest, h⟩) =>
    have shorter : rest.length + 1 < tokens.length := by simpa using h
    (parseItems depth rest).map fun (items, r) =>
      (item :: items, ⟨r.val, by have := r.property; omega⟩)
  | _ => none
termination_by (tokens.length, 1)

/-- The fields of an object, at least one, and its closing brace. -/
def parseFields (depth : Nat) (tokens : List Token) :
    Option (List (String × Json) × Rest tokens) :=
  match tokens with
  | .string name :: .colon :: rest =>
    match parseValue depth rest with
    | some (value, ⟨.closeObject :: rest', h⟩) =>
      some ([(name, value)], ⟨rest', by simp at h ⊢; omega⟩)
    | some (value, ⟨.comma :: rest', h⟩) =>
      have shorter : rest'.length + 1 < rest.length := by simpa using h
      (parseFields depth rest').map fun (fields, r) =>
        ((name, value) :: fields,
          ⟨r.val, by have := r.property; simp only [List.length_cons]; omega⟩)
    | _ => none
  | _ => none
termination_by (tokens.length, 1)

end

/-- The document that a text is, if it is one. -/
def ofText? (text : String) : Option Json :=
  match tokens? text.toList with
  | none => none
  | some tokens =>
    match parseValue maxDepth tokens with
    | some (document, ⟨[], _⟩) => some document
    | _ => none

end PredicateLang.Json
