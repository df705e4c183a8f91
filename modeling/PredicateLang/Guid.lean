import PredicateLang.Text.Digits

/-!
# Globally unique identifiers

A GUID is a number of 128 bits. It is written as 32 hexadecimal digits in groups of 8, 4, 4, 4 and
12 with hyphens between them, and read from that form (in either letter case, also in braces or
after `urn:uuid:`) or from the bare digits. GUIDs are ordered as numbers, which is also the order
of their texts.
-/

namespace PredicateLang

/-- A number of 128 bits. -/
structure Guid where
  bits : BitVec 128
deriving DecidableEq, Repr

namespace Guid

open PredicateLang.Text

/-- The lengths of the groups of digits. -/
def groupLengths : List Nat := [8, 4, 4, 4, 12]

/-- Cuts a text into pieces of the given lengths, with a hyphen between each two; the digits
without the hyphens, if the text has that form. -/
def ungroup? : (lengths : List Nat) → List Char → Option (List Char)
  | [], text => if text.isEmpty then some [] else none
  | [n], text => if text.length = n then some text else none
  | n :: lengths, text =>
    match text.drop n with
    | '-' :: rest => (ungroup? lengths rest).map (text.take n ++ ·)
    | _ => none

/-- The digits with a hyphen between each two groups. -/
def group : (lengths : List Nat) → List Char → List Char
  | [], digits => digits
  | [_], digits => digits
  | n :: lengths, digits => digits.take n ++ '-' :: group lengths (digits.drop n)

/-- The GUID of 32 hexadecimal digits. -/
def ofDigits? (digits : List Char) : Option Guid :=
  if digits.length = 32 then (hexNumeral? digits).map fun n => ⟨BitVec.ofNat 128 n⟩ else none

/-- The GUID of a hyphenated text. -/
def ofHyphenated? (text : List Char) : Option Guid :=
  (ungroup? groupLengths text).bind ofDigits?

/-- The GUID that a text is in one of the accepted forms. -/
def ofText? (text : List Char) : Option Guid :=
  if text.length = 32 then ofDigits? text
  else if text.length = 36 then ofHyphenated? text
  else if text.length = 38 ∧ text.head? = some '\x7b' ∧ text.getLast? = some '\x7d' then
    ofHyphenated? ((text.drop 1).take 36)
  else if text.length = 45 ∧ text.take 9 = "urn:uuid:".toList then ofHyphenated? (text.drop 9)
  else none

/-- The hyphenated form in small letters. -/
def text (g : Guid) : String :=
  String.ofList (group groupLengths (padLeft 32 (Nat.toDigits 16 g.bits.toNat)))

/-- Is the text hyphenated digits, possibly in braces? -/
def isHyphenatedText (text : List Char) : Bool :=
  let inner :=
    if text.head? = some '\x7b' ∧ text.getLast? = some '\x7d' ∧ 2 ≤ text.length then
      (text.drop 1).dropLast
    else text
  match ungroup? groupLengths inner with
  | some digits => digits.length = 32 && digits.all isHexDigit
  | none => false

end Guid

end PredicateLang
