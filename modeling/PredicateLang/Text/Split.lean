/-!
# Cutting and joining text

Text is cut at every occurrence of one character, and pieces are joined with a text between them.
Cutting keeps empty pieces: a text with `n` separators always has `n + 1` pieces, so joining the
pieces again with the separator gives the text back.
-/

namespace PredicateLang.Text

/-- The pieces of `text` between occurrences of `separator`. -/
def splitChars (separator : Char) : List Char → List (List Char)
  | [] => [[]]
  | c :: rest =>
    if c = separator then [] :: splitChars separator rest
    else
      match splitChars separator rest with
      | [] => [[c]]
      | piece :: pieces => (c :: piece) :: pieces

/-- The pieces of `text` between occurrences of `separator`. -/
def split (separator : Char) (text : String) : List String :=
  (splitChars separator text.toList).map String.ofList

/-- The pieces in order, with `separator` between each two. -/
def join (separator : String) (pieces : List String) : String :=
  String.ofList (List.intercalate separator.toList (pieces.map String.toList))

/-- Is `piece` somewhere in `text`, as consecutive characters? -/
def occursIn (piece : List Char) : List Char → Bool
  | [] => piece.isEmpty
  | c :: rest => piece.isPrefixOf (c :: rest) || occursIn piece rest

/-- Are the texts equal when the letters `A` to `Z` count as their small forms? -/
def equalIgnoringCase (a b : String) : Bool :=
  a.toList.map Char.toLower == b.toList.map Char.toLower

end PredicateLang.Text
