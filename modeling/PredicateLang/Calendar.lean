/-!
# The calendar

Days of the Gregorian calendar, extended to all years, numbered from the first of January 1970.
The year is taken to begin in March for the count, which puts the leap day at its end: then the
days before a month follow one formula for all years.
-/

namespace PredicateLang

/-- A day of the calendar: `month` counts from 1 to 12 and `day` from 1. -/
structure CalendarDay where
  year : Int
  month : Nat
  day : Nat
deriving DecidableEq, Repr

namespace CalendarDay

/-- Has the year a 29th of February? -/
def isLeapYear (year : Int) : Bool := year % 4 = 0 && (year % 100 ≠ 0 || year % 400 = 0)

/-- How many days a month has. -/
def daysInMonth (year : Int) (month : Nat) : Nat :=
  if month = 2 then (if isLeapYear year then 29 else 28)
  else if month = 4 ∨ month = 6 ∨ month = 9 ∨ month = 11 then 30
  else 31

/-- The first and the last year that have dates. -/
def firstYear : Int := -262143

/-- The last year that has dates. -/
def lastYear : Int := 262142

/-- Is this a day of a year that has dates? -/
def isValid (d : CalendarDay) : Bool :=
  firstYear ≤ d.year && d.year ≤ lastYear && 1 ≤ d.month && d.month ≤ 12 && 1 ≤ d.day
    && d.day ≤ daysInMonth d.year d.month

/-- The number of the day, counted from the first of January 1970. -/
def number (d : CalendarDay) : Int :=
  let year := if d.month ≤ 2 then d.year - 1 else d.year
  let monthFromMarch := (d.month + 9) % 12
  let dayOfYear := (153 * monthFromMarch + 2) / 5 + (d.day - 1)
  let era := year / 400
  let yearOfEra := year - era * 400
  let dayOfEra := yearOfEra * 365 + yearOfEra / 4 - yearOfEra / 100 + dayOfYear
  era * 146097 + dayOfEra - 719468

/-- The day with a number. -/
def ofNumber (n : Int) : CalendarDay :=
  let shifted := n + 719468
  let era := shifted / 146097
  let dayOfEra := shifted - era * 146097
  let yearOfEra := (dayOfEra - dayOfEra / 1460 + dayOfEra / 36524 - dayOfEra / 146096) / 365
  let dayOfYear := dayOfEra - (365 * yearOfEra + yearOfEra / 4 - yearOfEra / 100)
  let monthFromMarch := (5 * dayOfYear + 2) / 153
  let day := dayOfYear - (153 * monthFromMarch + 2) / 5 + 1
  let month := if monthFromMarch < 10 then monthFromMarch + 3 else monthFromMarch - 9
  ⟨yearOfEra + era * 400 + (if month ≤ 2 then 1 else 0), month.toNat, day.toNat⟩

/-- The same day of another month, or that month's last day if it is shorter; `none` in a year
without dates. -/
def addMonths? (d : CalendarDay) (months : Int) : Option CalendarDay :=
  let total := d.year * 12 + (d.month - 1 : Nat) + months
  let year := total / 12
  let month := (total % 12).toNat + 1
  if firstYear ≤ year ∧ year ≤ lastYear then
    some ⟨year, month, min d.day (daysInMonth year month)⟩
  else none

end CalendarDay

end PredicateLang
