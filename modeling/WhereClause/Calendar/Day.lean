/-!
# Days of the calendar

The calendar is the Gregorian one, carried on to all years, with a year zero.  A
day is its year and its place in the year.  Days are numbered one after another,
day `1` being the first day of the year one, a Monday; month, weekday and week
are read off the place in the year and the number.

The weeks of a year are counted in three ways: from its first Sunday, from its
first Monday, and as the weeks of the international standard, which belong to
the year of their Thursday.
-/

set_option autoImplicit false

namespace WhereClause.Calendar

/-- A day of the week, counted from Monday as `0`. -/
abbrev Weekday := Fin 7

/-- The first day of the week. -/
def monday : Weekday := 0

/-- The last day of the week. -/
def sunday : Weekday := 6

/-! ## Years -/

/-- Every fourth year is a leap year, of the whole centuries every fourth. -/
def isLeap (year : Int) : Bool := year % 4 == 0 && (year % 100 != 0 || year % 400 == 0)

/-- How many days a year has. -/
def daysIn (year : Int) : Nat := if isLeap year then 366 else 365

/-- The lengths of the months of a year. -/
def monthLengths (year : Int) : List Nat :=
  [31, if isLeap year then 29 else 28, 31, 30, 31, 30, 31, 31, 30, 31, 30, 31]

/-- The number of the last day before a year. -/
def daysBefore (year : Int) : Int :=
  let past := year - 1
  365 * past + past / 4 - past / 100 + past / 400

/-- The year in which a day falls, given by its number.  The mean year gives it up
to one year. -/
def yearOf (number : Int) : Int :=
  let guess := number * 400 / 146097
  if daysBefore (guess + 2) < number then guess + 2
  else if daysBefore (guess + 1) < number then guess + 1
  else guess

/-- A weekday by its number. -/
def weekdayAt (n : Int) : Weekday := Fin.ofNat 7 n.toNat

/-- The weekday of a day, given by its number. -/
def weekdayOf (number : Int) : Weekday := weekdayAt ((number - 1) % 7)

/-- The month of a place in the year, and the place in that month. -/
def splitMonths : List Nat → Nat → Nat × Nat
  | [], ordinal => (1, ordinal)
  | length :: lengths, ordinal =>
      if ordinal ≤ length then (1, ordinal)
      else
        let (month, day) := splitMonths lengths (ordinal - length)
        (month + 1, day)

/-! ## Days -/

/-- The first year of the calendar. -/
def firstYear : Int := -262143

/-- The last year of the calendar. -/
def lastYear : Int := 262142

/-- A day of the calendar. -/
structure Day where
  year : Int
  ordinal : Nat
  known : firstYear ≤ year ∧ year ≤ lastYear
  inYear : 1 ≤ ordinal ∧ ordinal ≤ daysIn year
  deriving DecidableEq

namespace Day

/-- The day with a place in a year. -/
def ofOrdinal? (year : Int) (ordinal : Nat) : Option Day :=
  if known : firstYear ≤ year ∧ year ≤ lastYear then
    if inYear : 1 ≤ ordinal ∧ ordinal ≤ daysIn year then some ⟨year, ordinal, known, inYear⟩
    else none
  else none

/-- The day with a place in a month of a year. -/
def ofMonth? (year : Int) (month day : Nat) : Option Day :=
  match (monthLengths year)[month - 1]? with
  | none => none
  | some length =>
      if 1 ≤ month ∧ 1 ≤ day ∧ day ≤ length then
        ofOrdinal? year (((monthLengths year).take (month - 1)).foldl Nat.add day)
      else none

/-- The day with a number. -/
def ofNumber? (number : Int) : Option Day :=
  let year := yearOf number
  ofOrdinal? year (number - daysBefore year).toNat

/-- The number of a day. -/
def number (d : Day) : Int := daysBefore d.year + d.ordinal

/-- The month of a day. -/
def month (d : Day) : Nat := (splitMonths (monthLengths d.year) d.ordinal).1

/-- The place of a day in its month. -/
def dayOfMonth (d : Day) : Nat := (splitMonths (monthLengths d.year) d.ordinal).2

/-- The quarter of a day. -/
def quarter (d : Day) : Nat := (d.month - 1) / 3 + 1

/-- The weekday of a day. -/
def weekday (d : Day) : Weekday := weekdayOf d.number

/-- The week of the year when a first week starts with the first of the given
weekdays; the days before it are in week zero. -/
def weekFrom (start : Weekday) (d : Day) : Nat := (d.ordinal + 6 - (d.weekday - start).val) / 7

/-- The day of a week of the year, in weeks that start with the given weekday. -/
def ofWeek? (start : Weekday) (year : Int) (week : Nat) (weekday : Weekday) : Option Day :=
  let first := 1 + (start - weekdayOf (daysBefore year + 1)).val
  let place := (first + (weekday - start).val + 7 * week : Int) - 7
  if week ≤ 53 ∧ 0 < place then ofOrdinal? year place.toNat else none

/-- The number of the Thursday in the same week. -/
def thursday (d : Day) : Int := d.number + 3 - d.weekday.val

/-- The year to which the week of a day belongs. -/
def isoYear (d : Day) : Int := yearOf d.thursday

/-- The week of a day within the year to which it belongs. -/
def isoWeek (d : Day) : Nat := ((d.thursday - daysBefore d.isoYear - 1) / 7).toNat + 1

/-- The day of a week of the international standard.  The fourth of January is in
the first week of its year. -/
def ofIsoWeek? (year : Int) (week : Nat) (weekday : Weekday) : Option Day :=
  let fourth := daysBefore year + 4
  let start := fourth - (weekdayOf fourth).val + 7 * ((week : Int) - 1)
  if 1 ≤ week ∧ yearOf (start + 3) = year then ofNumber? (start + weekday.val) else none

end Day

end WhereClause.Calendar
