import PredicateLang.Calendar
import PredicateLang.Text.Letters

/-!
# Points in time

An instant is a number of seconds since the beginning of 1970 and a number of nanoseconds after
it. From a billion nanoseconds on it lies in a leap second, the one that is written `60`; only
reading a text makes such an instant, and moving it away makes it an ordinary one.

Instants are written as RFC 3339 has them, in the zone of Greenwich and with as few of zero,
three, six or nine digits of a second as hold the value. They are read from that form with any
offset, and from three plainer layouts without one.
-/

namespace PredicateLang

/-- A point in time. -/
structure Instant where
  seconds : Int
  nanos : Nat
deriving DecidableEq, Repr

namespace Instant

open PredicateLang.Text

/-- How many nanoseconds a second has. -/
def nanosPerSecond : Nat := 1000000000

/-- How many seconds a day has. -/
def secondsPerDay : Nat := 86400

/-- The instant a number of nanoseconds after the beginning of 1970. -/
def ofNanos (nanos : Int) : Instant := ⟨nanos / nanosPerSecond, (nanos % nanosPerSecond).toNat⟩

/-- The order in time. -/
def compare (a b : Instant) : Ordering :=
  (Ord.compare a.seconds b.seconds).then (Ord.compare a.nanos b.nanos)

/-- Is the instant in a year that has dates? -/
def isValid (t : Instant) : Bool :=
  (CalendarDay.mk CalendarDay.firstYear 1 1).number * secondsPerDay ≤ t.seconds
    && t.seconds < ((CalendarDay.mk CalendarDay.lastYear 12 31).number + 1) * secondsPerDay

/-- The day of the instant. -/
def day (t : Instant) : CalendarDay := CalendarDay.ofNumber (t.seconds / secondsPerDay)

/-- The second of the day, leap seconds apart. -/
def secondOfDay (t : Instant) : Nat := (t.seconds % secondsPerDay).toNat

/-- The instant of a day at a second of it. -/
def ofDay (d : CalendarDay) (second nanos : Nat) : Instant :=
  ⟨d.number * secondsPerDay + second, nanos⟩

/-! ## Moving in time -/

/-- Moves by whole seconds and a fraction below a second, both of the same sign. A leap second is
left for the second after it when moving on and, when moving back, counts as the second that
follows it. -/
def shift (t : Instant) (seconds nanos : Int) : Instant :=
  let moved (start fraction : Int) : Instant :=
    let total := fraction + nanos
    ⟨start + seconds + total / nanosPerSecond, (total % nanosPerSecond).toNat⟩
  if t.nanos < nanosPerSecond then moved t.seconds t.nanos
  else if 0 < seconds ∨ (0 < nanos ∧ 2 * nanosPerSecond ≤ t.nanos + nanos) then
    moved t.seconds (t.nanos - nanosPerSecond : Nat)
  else if seconds < 0 then moved (t.seconds + 1) (t.nanos - nanosPerSecond : Nat)
  else ⟨t.seconds, (t.nanos + nanos).toNat⟩

/-- Moves by milliseconds; `none` outside the years that have dates. -/
def addMillis? (t : Instant) (millis : Int) : Option Instant :=
  let moved := t.shift (millis.tdiv 1000) (millis.tmod 1000 * 1000000)
  if moved.isValid then some moved else none

/-- Moves by months, to the same day or the last of the month. -/
def addMonths? (t : Instant) (months : Int) : Option Instant :=
  (t.day.addMonths? months).map fun d => ofDay d t.secondOfDay t.nanos

/-- Milliseconds from `origin` on, the rest cut off. -/
def millisSince (t origin : Instant) : Int :=
  let nanos := (t.seconds - origin.seconds) * nanosPerSecond + t.nanos - origin.nanos
  nanos.tdiv 1000000

/-! ## Writing -/

/-- A year: four digits, and a sign in front of one that has more or is negative. -/
def yearText (year : Int) : String :=
  if 0 ≤ year ∧ year ≤ 9999 then paddedDecimal 4 year.toNat
  else (if year < 0 then "-" else "+") ++ paddedDecimal 4 year.natAbs

/-- The fraction of a second: nothing, or three, six or nine digits. -/
def fractionText (nanos : Nat) : String :=
  if nanos = 0 then ""
  else if nanos % 1000000 = 0 then "." ++ paddedDecimal 3 (nanos / 1000000)
  else if nanos % 1000 = 0 then "." ++ paddedDecimal 6 (nanos / 1000)
  else "." ++ paddedDecimal 9 nanos

/-- The instant in the form of RFC 3339. -/
def text (t : Instant) : String :=
  let d := t.day
  let s := t.secondOfDay
  let leap := if nanosPerSecond ≤ t.nanos then 1 else 0
  yearText d.year ++ "-" ++ paddedDecimal 2 d.month ++ "-" ++ paddedDecimal 2 d.day
    ++ "T" ++ paddedDecimal 2 (s / 3600) ++ ":" ++ paddedDecimal 2 (s / 60 % 60)
    ++ ":" ++ paddedDecimal 2 (s % 60 + leap)
    ++ fractionText (t.nanos - leap * nanosPerSecond) ++ "Z"

/-! ## Reading

A reader takes a part from the front of the text and gives its value and the rest. -/

/-- Reads at least `least` and at most `most` digits. -/
def readDigits (least most : Nat) (text : List Char) : Option (Nat × List Char) :=
  let digits := (text.take most).takeWhile Char.isDigit
  if digits.length < least then none
  else (decimalNumeral? digits).map fun n => (n, text.drop digits.length)

/-- Reads one of the given characters. -/
def readOneOf (accepted : List Char) : List Char → Option (Unit × List Char)
  | c :: rest => if accepted.contains c then some ((), rest) else none
  | [] => none

/-- Reads a fraction of a second if there is one; digits after the ninth are dropped. -/
def readFraction : List Char → Option (Nat × List Char)
  | '.' :: rest => do
    let (value, after) ← readDigits 1 9 rest
    let digits := rest.length - after.length
    some (value * Nat.pow 10 (9 - digits), after.dropWhile Char.isDigit)
  | text => some (0, text)

/-- Reads the offset of a zone in seconds: `Z`, or a sign, hours and minutes with a colon between
them. The minus sign may be the typographic one. -/
def readOffset : List Char → Option (Int × List Char)
  | [] => none
  | sign :: rest =>
    if sign = 'Z' ∨ sign = 'z' then some (0, rest)
    else if sign = '+' ∨ sign = '-' ∨ sign = '−' then do
      let (hours, rest) ← readDigits 2 2 rest
      let ((), rest) ← readOneOf [':'] rest
      let (minutes, rest) ← readDigits 2 2 rest
      if 60 ≤ minutes then none
      else
        let seconds : Int := hours * 3600 + minutes * 60
        some (if sign = '+' then seconds else -seconds, rest)
    else none

/-- The instant of a day and a time of day at an offset, if there is such a day and such a time.
The second 60 is a leap second. -/
def ofParts? (year : Int) (month day hour minute second nanos : Nat) (offset : Int) :
    Option Instant :=
  let d : CalendarDay := ⟨year, month, day⟩
  if d.isValid ∧ hour < 24 ∧ minute < 60 ∧ second ≤ 60 then
    let ofDay := Instant.ofDay d (hour * 3600 + minute * 60 + min second 59)
      (if second = 60 then nanos + nanosPerSecond else nanos)
    let t : Instant := { ofDay with seconds := ofDay.seconds - offset }
    if t.isValid then some t else none
  else none

/-- Reads the form of RFC 3339: the letter between day and time may be small or a blank, and the
offset lies within a day. -/
def ofRfc3339? (text : List Char) : Option Instant := do
  let (year, rest) ← readDigits 4 4 text
  let ((), rest) ← readOneOf ['-'] rest
  let (month, rest) ← readDigits 2 2 rest
  let ((), rest) ← readOneOf ['-'] rest
  let (day, rest) ← readDigits 2 2 rest
  let ((), rest) ← readOneOf ['T', 't', ' '] rest
  let (hour, rest) ← readDigits 2 2 rest
  let ((), rest) ← readOneOf [':'] rest
  let (minute, rest) ← readDigits 2 2 rest
  let ((), rest) ← readOneOf [':'] rest
  let (second, rest) ← readDigits 2 2 rest
  let (nanos, rest) ← readFraction rest
  let (offset, rest) ← readOffset rest
  if rest.isEmpty ∧ offset.natAbs < secondsPerDay then
    ofParts? year month day hour minute second nanos offset
  else none

/-- Reads a number of at most two digits after any white space. -/
def readPart (text : List Char) : Option (Nat × List Char) :=
  readDigits 1 2 (text.dropWhile isWhiteSpace)

/-- Reads a year after any white space: up to four digits, or any number after a sign. -/
def readYear (text : List Char) : Option (Int × List Char) :=
  match text.dropWhile isWhiteSpace with
  | '-' :: rest => (readDigits 1 rest.length rest).map fun (n, after) => (-n, after)
  | '+' :: rest => (readDigits 1 rest.length rest).map fun (n, after) => (n, after)
  | rest => (readDigits 1 4 rest).map fun (n, after) => (n, after)

/-- Reads a day: year, month and day with hyphens between them. -/
def readDay (text : List Char) : Option (CalendarDay × List Char) := do
  let (year, rest) ← readYear text
  let ((), rest) ← readOneOf ['-'] rest
  let (month, rest) ← readPart rest
  let ((), rest) ← readOneOf ['-'] rest
  let (day, rest) ← readPart rest
  some (⟨year, month, day⟩, rest)

/-- Reads a time of day to the end of the text: hours, minutes and seconds with colons. -/
def timeOfDay? (d : CalendarDay) (text : List Char) : Option Instant := do
  let (hour, rest) ← readPart text
  let ((), rest) ← readOneOf [':'] rest
  let (minute, rest) ← readPart rest
  let ((), rest) ← readOneOf [':'] rest
  let (second, rest) ← readPart rest
  if rest.isEmpty then ofParts? d.year d.month d.day hour minute second 0 0 else none

/-- Reads a day and a time of day in one of the plain layouts, without an offset. Between the two
stands the letter `T` or any white space, even none. -/
def ofPlain? (text : List Char) : Option Instant := do
  let (d, rest) ← readDay text
  match timeOfDay? d rest with
  | some t => some t
  | none =>
    match rest with
    | 'T' :: rest => timeOfDay? d rest
    | [] => ofParts? d.year d.month d.day 0 0 0 0 0
    | _ => none

/-- The instant that a text is in one of the accepted forms. -/
def ofText? (text : List Char) : Option Instant :=
  (ofRfc3339? text).orElse fun _ => ofPlain? text

end Instant

end PredicateLang
