import WhereClause.Calendar.Format
import WhereClause.Calendar.Moment

/-!
# What a literal says about a moment

A literal fills slots, one for each quantity that can be read from it.  Every slot
has a range, and a slot that is filled twice has to be filled with the same
number.

The filled slots then settle a date, a time or a moment, or they do not: what
they say is `insufficient` when a slot is missing, and `contradictory` when no
date or time agrees with all of them.  Slots that were not needed to find a date
are still held against it.
-/

set_option autoImplicit false

namespace WhereClause.Calendar

/-- What a literal can give. -/
inductive Slot where
  | year
  | century
  | yearOfCentury
  | isoYear
  | isoCentury
  | isoYearOfCentury
  | quarter
  | month
  | day
  | ordinal
  | sundayWeek
  | mondayWeek
  | isoWeek
  /-- The weekday, with Monday as `0`. -/
  | weekday
  /-- The half of the day. -/
  | half
  /-- The hour within its half of the day. -/
  | dialHour
  | minute
  | second
  | nanosecond
  | timestamp
  | offset
  deriving DecidableEq, Repr

/-- The least and the greatest number that a slot takes. -/
def Slot.range : Slot → Int × Int
  | .year | .isoYear => (-2147483648, 2147483647)
  | .century | .isoCentury => (0, 2147483647)
  | .yearOfCentury | .isoYearOfCentury => (0, 99)
  | .quarter => (1, 4)
  | .month => (1, 12)
  | .day => (1, 31)
  | .ordinal => (1, 366)
  | .sundayWeek | .mondayWeek => (0, 53)
  | .isoWeek => (1, 53)
  | .weekday => (0, 6)
  | .half => (0, 1)
  | .dialHour => (0, 11)
  | .minute => (0, 59)
  | .second => (0, 60)
  | .nanosecond => (0, 999999999)
  | .timestamp => (-9223372036854775808, 9223372036854775807)
  | .offset => (-2147483648, 2147483647)

/-- The slots that a literal has filled. -/
abbrev Fields := Slot → Option Int

namespace Fields

/-- No slot is filled. -/
def empty : Fields := fun _ => none

/-- Fills a slot. -/
def put? (fields : Fields) (slot : Slot) (n : Int) : Option Fields :=
  if slot.range.1 ≤ n ∧ n ≤ slot.range.2 ∧ (fields slot).getD n = n then
    some fun other => if other = slot then some n else fields other
  else none

/-- Whether a slot is empty or filled with a given number. -/
def agrees (fields : Fields) (slot : Slot) (n : Int) : Bool := (fields slot).getD n == n

/-- Fills the slots of an hour of the day. -/
def putHour? (fields : Fields) (hour : Int) : Option Fields := do
  if hour < 0 ∨ 23 < hour then none
  let fields ← fields.put? .half (hour / 12)
  fields.put? .dialHour (hour % 12)

/-- Fills the slots of a quantity that was read as digits. -/
def putQuantity? (fields : Fields) (n : Int) : Quantity → Option Fields
  | .year => fields.put? .year n
  | .century => fields.put? .century n
  | .yearOfCentury => fields.put? .yearOfCentury n
  | .isoYear => fields.put? .isoYear n
  | .isoCentury => fields.put? .isoCentury n
  | .isoYearOfCentury => fields.put? .isoYearOfCentury n
  | .quarter => fields.put? .quarter n
  | .month => fields.put? .month n
  | .day => fields.put? .day n
  | .ordinal => fields.put? .ordinal n
  | .sundayWeek => fields.put? .sundayWeek n
  | .mondayWeek => fields.put? .mondayWeek n
  | .isoWeek => fields.put? .isoWeek n
  | .weekdayFromSunday =>
      if n < 0 ∨ 6 < n then none else fields.put? .weekday ((n + 6) % 7)
  | .weekdayFromMonday => fields.put? .weekday (n - 1)
  | .hour => fields.putHour? n
  | .dialHour =>
      if n < 1 ∨ 12 < n then none else fields.put? .dialHour (n % 12)
  | .minute => fields.put? .minute n
  | .second => fields.put? .second n
  | .nanosecond => fields.put? .nanosecond n
  | .timestamp => fields.put? .timestamp n

/-! ## Dates and times -/

/-- Why filled slots do not settle a date or a time. -/
inductive Trouble where
  | insufficient
  | contradictory
  deriving DecidableEq, Repr

/-- A value, or the trouble that there is none. -/
def orContradictory {α : Type} : Option α → Except Trouble α
  | some a => .ok a
  | none => .error .contradictory

/-- The year that is given in full, by century and year of the century, or by the
latter alone, which then stands for a year from 1970 to 2069.  A year that is
given in parts is not negative. -/
def resolveYear : Option Int → Option Int → Option Int → Except Trouble (Option Int)
  | year, none, none => .ok year
  | some year, hundreds, rest =>
      if 0 ≤ year ∧ hundreds.getD (year / 100) = year / 100
          ∧ rest.getD (year % 100) = year % 100 then
        .ok (some year)
      else .error .contradictory
  | none, some hundreds, some rest =>
      let year := hundreds * 100 + rest
      if year ≤ Slot.year.range.2 then .ok (some year) else .error .contradictory
  | none, none, some rest => .ok (some (if rest < 70 then rest + 2000 else rest + 1900))
  | none, some _, none => .error .insufficient

/-- Whether a year agrees with what is said about it and about its parts; a negative
year has no parts. -/
def agreesInParts (fields : Fields) (full hundreds rest : Slot) (year : Int) : Bool :=
  fields.agrees full year
    && (if 0 ≤ year then fields.agrees hundreds (year / 100) && fields.agrees rest (year % 100)
        else (fields hundreds).isNone && (fields rest).isNone)

/-- Whether a day agrees with all that is said about it. -/
def agreesWithDay (fields : Fields) (d : Day) : Bool :=
  fields.agreesInParts .year .century .yearOfCentury d.year
    && fields.agreesInParts .isoYear .isoCentury .isoYearOfCentury d.isoYear
    && fields.agrees .quarter d.quarter
    && fields.agrees .month d.month
    && fields.agrees .day d.dayOfMonth
    && fields.agrees .ordinal d.ordinal
    && fields.agrees .sundayWeek (d.weekFrom sunday)
    && fields.agrees .mondayWeek (d.weekFrom monday)
    && fields.agrees .isoWeek d.isoWeek
    && fields.agrees .weekday d.weekday.val

/-- The day that the first sufficient group of slots names: month and day, the
place in the year, a week from Sunday, a week from Monday, or an international
week, each with its year. -/
def namedDay (fields : Fields) (year isoYear : Option Int) : Except Trouble Day :=
  match year, fields .month, fields .day with
  | some y, some m, some d => orContradictory (Day.ofMonth? y m.toNat d.toNat)
  | _, _, _ =>
  match year, fields .ordinal with
  | some y, some o => orContradictory (Day.ofOrdinal? y o.toNat)
  | _, _ =>
  match year, fields .sundayWeek, fields .weekday with
  | some y, some w, some d => orContradictory (Day.ofWeek? sunday y w.toNat (weekdayAt d))
  | _, _, _ =>
  match year, fields .mondayWeek, fields .weekday with
  | some y, some w, some d => orContradictory (Day.ofWeek? monday y w.toNat (weekdayAt d))
  | _, _, _ =>
  match isoYear, fields .isoWeek, fields .weekday with
  | some y, some w, some d => orContradictory (Day.ofIsoWeek? y w.toNat (weekdayAt d))
  | _, _, _ => .error .insufficient

/-- The day that the slots settle. -/
def day (fields : Fields) : Except Trouble Day := do
  let year ← resolveYear (fields .year) (fields .century) (fields .yearOfCentury)
  let isoYear ← resolveYear (fields .isoYear) (fields .isoCentury) (fields .isoYearOfCentury)
  let d ← fields.namedDay year isoYear
  if fields.agreesWithDay d then .ok d else .error .contradictory

/-- A time of the day: its second and the fraction of it. -/
structure Time where
  second : Nat
  nano : Nat
  deriving DecidableEq, Repr

/-- The time of the day that the slots settle.  Hour and minute are needed, and a
fraction needs a second; the second `60` is a leap second. -/
def time (fields : Fields) : Except Trouble Time :=
  match fields .half, fields .dialHour, fields .minute with
  | some half, some hour, some minute =>
      let start := (half * 12 + hour) * 3600 + minute * 60
      match fields .second, fields .nanosecond with
      | none, none => .ok ⟨start.toNat, 0⟩
      | none, some _ => .error .insufficient
      | some second, nano =>
          if second = 60 then .ok ⟨(start + 59).toNat, (nanosPerSecond + nano.getD 0).toNat⟩
          else .ok ⟨(start + second).toNat, (nano.getD 0).toNat⟩
  | _, _, _ => .error .insufficient

/-! ## Moments -/

/-- The number of the first day of the year 1970. -/
def epoch : Int := 719163

/-- The seconds from the start of the year 1970 to a second of a day. -/
def timestampOf (d : Day) (second : Nat) : Int := (d.number - epoch) * secondsPerDay + second

/-- A day and a time put together. -/
def join (d : Day) (t : Time) : Except Trouble Moment :=
  if h : t.second < secondsPerDay ∧ t.nano < 2 * nanosPerSecond then
    .ok ⟨d, t.second, t.nano, h.1, h.2⟩
  else .error .contradictory

/-- Whether a timestamp agrees with a day and a time; a leap second may count as
the second after. -/
def agreesWithTimestamp (fields : Fields) (d : Day) (t : Time) : Bool :=
  match fields .timestamp with
  | none => true
  | some given =>
      let found := timestampOf d t.second
      given == found || (nanosPerSecond ≤ t.nano && given == found + 1)

/-- The day of a timestamp. -/
def dayAt? (timestamp : Int) : Option Day := Day.ofNumber? (timestamp / secondsPerDay + epoch)

/-- The slots of a minute and of its day filled from a timestamp. -/
def putMinute? (fields : Fields) (timestamp : Int) : Option Fields := do
  let d ← dayAt? timestamp
  let fields ← fields.put? .year d.year
  let fields ← fields.put? .ordinal d.ordinal
  let fields ← fields.putHour? (timestamp % secondsPerDay / 3600)
  fields.put? .minute (timestamp / 60 % 60)

/-- The slots completed from a timestamp within the calendar.  A leap second is the
second before the one that the timestamp names, or that very one. -/
def completed? (fields : Fields) (timestamp : Int) : Option Fields :=
  if (dayAt? timestamp).isNone then none
  else if fields .second = some 60 then
    if timestamp % 60 = 59 then fields.putMinute? timestamp
    else if timestamp % 60 = 0 then fields.putMinute? (timestamp - 1)
    else none
  else do (← fields.put? .second (timestamp % 60)).putMinute? timestamp

/-- The moment that the slots settle, by date and time or else by a timestamp. -/
def moment? (fields : Fields) : Option Moment :=
  match fields.day, fields.time with
  | .ok d, .ok t =>
      if fields.agreesWithTimestamp d t then (join d t).toOption else none
  | .error .contradictory, _ => none
  | _, .error .contradictory => none
  | _, _ => do
      let fields ← fields.completed? (← fields .timestamp)
      let d ← fields.day.toOption
      let t ← fields.time.toOption
      (join d t).toOption

/-- The first moment of the day that the slots settle. -/
def midnight? (fields : Fields) : Option Moment := fields.day.toOption.map Moment.midnight

end Fields

end WhereClause.Calendar
