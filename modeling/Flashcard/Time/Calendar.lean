/-!
# The calendar

Dates of the Gregorian calendar, extended to all years before and after; year 0 is the year before
year 1. Days are counted from 1 January 1970.

- `Date.toDay`, `Date.ofDay`: the two views of a date.
- `Date.isValid`: whether the calendar has a date.
-/

namespace Flashcard

/-- A year, a month from 1 to 12 and a day from 1 to 31. -/
structure Date where
  year : Int
  month : Nat
  day : Nat
  deriving Repr, DecidableEq

namespace Date

/-- Every fourth year is a leap year, except that of the full centuries only every fourth is. -/
def isLeapYear (year : Int) : Bool :=
  year % 4 == 0 && (year % 100 != 0 || year % 400 == 0)

/-- The days from 1 January of year 0 to 1 January of `year`: 365 for each year, and one more for
each leap year among them. -/
def daysBeforeYear (year : Int) : Int :=
  365 * year + (year + 3) / 4 - (year + 99) / 100 + (year + 399) / 400

/-- The day 1 January 1970, counted from 1 January of year 0. -/
def epochDay : Int := daysBeforeYear 1970

/-- The lengths of the months of a year. -/
def monthLengths (year : Int) : List Nat :=
  [31, if isLeapYear year then 29 else 28, 31, 30, 31, 30, 31, 31, 30, 31, 30, 31]

/-- Whether the calendar has this date. -/
def isValid (date : Date) : Bool :=
  match date.month with
  | 0 => false
  | m + 1 =>
    match (monthLengths date.year)[m]? with
    | none => false
    | some length => 1 ≤ date.day && date.day ≤ length

/-- The days from 1 January 1970 to a date. -/
def toDay (date : Date) : Int :=
  let months := (monthLengths date.year).take (date.month - 1)
  daysBeforeYear date.year + (months.foldl (· + ·) date.day : Nat) - 1 - epochDay

/-- The year that holds the given day, counted from 1 January of year 0. A year is 146097 / 400 days
long on average, and that guess is off by one year at most. -/
def yearOfDay (day : Int) : Int :=
  let guess := 400 * day / 146097
  if day < daysBeforeYear guess then guess - 1
  else if daysBeforeYear (guess + 1) ≤ day then guess + 1
  else guess

/-- The month and day that lie `offset` days after the start of month `month`, where `lengths` are
the lengths of that month and the ones after it. -/
def monthDay (month : Nat) : List Nat → Nat → Nat × Nat
  | [], offset => (month, offset + 1)
  | length :: lengths, offset =>
    if offset < length then (month, offset + 1) else monthDay (month + 1) lengths (offset - length)

/-- The date that lies `day` days after 1 January 1970. -/
def ofDay (day : Int) : Date :=
  let fromYearZero := day + epochDay
  let year := yearOfDay fromYearZero
  let (month, dayOfMonth) :=
    monthDay 1 (monthLengths year) (fromYearZero - daysBeforeYear year).toNat
  ⟨year, month, dayOfMonth⟩

end Date

end Flashcard
