import WhereClause.Calendar.Day

/-!
# Moments

A moment is a day, a second of that day and a fraction of that second in
nanoseconds.  A leap second has no number of its own: it is a fraction of a
second or more that follows upon the last second of a minute, so the fraction
runs up to two seconds.

The moments are ordered by their `key`, which leaves room for the leap second.
-/

set_option autoImplicit false

namespace WhereClause.Calendar

/-- How many seconds a day has, leap seconds aside. -/
def secondsPerDay : Nat := 86400

/-- How many nanoseconds a second has. -/
def nanosPerSecond : Nat := 1000000000

/-- A moment in time, in no time zone. -/
structure Moment where
  day : Day
  second : Nat
  nano : Nat
  inDay : second < secondsPerDay
  inSecond : nano < 2 * nanosPerSecond
  deriving DecidableEq

namespace Moment

/-- The first moment of a day. -/
def midnight (day : Day) : Moment := ⟨day, 0, 0, by decide, by decide⟩

/-- The hour of a moment. -/
def hour (m : Moment) : Nat := m.second / 3600

/-- The minute of the hour. -/
def minute (m : Moment) : Nat := m.second / 60 % 60

/-- The key of the order of moments. -/
def key (m : Moment) : Int :=
  (m.day.number * secondsPerDay + m.second) * (2 * nanosPerSecond) + m.nano

end Moment

end WhereClause.Calendar
