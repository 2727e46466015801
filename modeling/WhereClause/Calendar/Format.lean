import WhereClause.Text.Blank

/-!
# Date formats

A format is a text with directives: a percent sign, an optional flag, and a
letter.  It spells a list of items, which say one after another what has to stand
in a literal.  A white-space character of the format allows any amount of white
space, any other character stands for itself, and a directive that is not known
makes the format `malformed`.

The flags `-`, `0` and `_` say how a number is padded when it is written; they may
stand before directives that spell one single number, and reading pays no regard
to them.
-/

set_option autoImplicit false

namespace WhereClause.Calendar

/-- A quantity that is given by digits. -/
inductive Quantity where
  | year
  | century
  | yearOfCentury
  | isoYear
  | isoCentury
  | isoYearOfCentury
  | quarter
  | month
  | day
  | ordinal
  /-- The week of the year, counted from the first Sunday. -/
  | sundayWeek
  /-- The week of the year, counted from the first Monday. -/
  | mondayWeek
  | isoWeek
  /-- The weekday with Sunday as `0`. -/
  | weekdayFromSunday
  /-- The weekday with Monday as `1`. -/
  | weekdayFromMonday
  | hour
  /-- The hour on a dial of twelve. -/
  | dialHour
  | minute
  | second
  | nanosecond
  /-- Seconds since the start of the year 1970. -/
  | timestamp
  deriving DecidableEq, Repr

/-- Which spellings of the distance from universal time are accepted. -/
inductive OffsetStyle where
  /-- Hours and minutes. -/
  | plain
  /-- Also the letter `Z`, and hours alone at the end of the literal. -/
  | permissive
  /-- Also the letter `Z` and the letters `UTC`. -/
  | named
  deriving DecidableEq, Repr

/-- What has to stand in a literal. -/
inductive Item where
  | literal (c : Char)
  /-- Any amount of white space. -/
  | blank
  | number (quantity : Quantity)
  /-- A month by name, in full only when `long`. -/
  | monthName (long : Bool)
  /-- A weekday by name, in full only when `long`. -/
  | weekdayName (long : Bool)
  /-- The half of the day on a dial of twelve. -/
  | half
  /-- A point and a fraction of a second, or nothing. -/
  | fraction
  /-- A point and a fraction of a second with so many digits, or nothing. -/
  | fractionOf (digits : Nat)
  /-- The digits of a fraction of a second. -/
  | digitsOf (digits : Nat)
  /-- Whatever is not white space. -/
  | zoneName
  | offset (style : OffsetStyle)
  /-- The mark between date and time in the international notation. -/
  | timeMark
  | malformed
  deriving DecidableEq, Repr

namespace Format

/-! ## Directives that spell several items -/

/-- Month, day and year with slashes. -/
def slashedDate : List Item :=
  [.number .month, .literal '/', .number .day, .literal '/', .number .yearOfCentury]

/-- Year, month and day with hyphens. -/
def hyphenedDate : List Item :=
  [.number .year, .literal '-', .number .month, .literal '-', .number .day]

/-- Hour and minute. -/
def hourMinute : List Item := [.number .hour, .literal ':', .number .minute]

/-- Hour, minute and second. -/
def clock : List Item := hourMinute ++ [.literal ':', .number .second]

/-- Hour, minute and second on a dial of twelve. -/
def dialClock : List Item :=
  [.number .dialHour, .literal ':', .number .minute, .literal ':', .number .second, .blank, .half]

/-- Weekday, month, day, time and year. -/
def dateAndClock : List Item :=
  [.weekdayName false, .blank, .monthName false, .blank, .number .day, .blank] ++ clock
    ++ [.blank, .number .year]

/-- Day, short month name and year with hyphens. -/
def namedDate : List Item :=
  [.number .day, .literal '-', .monthName false, .literal '-', .number .year]

/-- The international notation of date, time and offset. -/
def international : List Item :=
  [.number .year, .blank, .literal '-', .number .month, .blank, .literal '-', .number .day,
   .timeMark, .number .hour, .blank, .literal ':', .number .minute, .blank, .literal ':',
   .number .second, .fraction, .blank, .offset .named]

/-! ## Directives -/

/-- The items of a directive without a flag, given by its letter. -/
def directiveItems : Char → List Item
  | 'A' => [.weekdayName true]
  | 'B' => [.monthName true]
  | 'C' => [.number .century]
  | 'D' => slashedDate
  | 'F' => hyphenedDate
  | 'G' => [.number .isoYear]
  | 'H' => [.number .hour]
  | 'I' => [.number .dialHour]
  | 'M' => [.number .minute]
  | 'P' => [.half]
  | 'R' => hourMinute
  | 'S' => [.number .second]
  | 'T' => clock
  | 'U' => [.number .sundayWeek]
  | 'V' => [.number .isoWeek]
  | 'W' => [.number .mondayWeek]
  | 'X' => clock
  | 'Y' => [.number .year]
  | 'Z' => [.zoneName]
  | 'a' => [.weekdayName false]
  | 'b' => [.monthName false]
  | 'c' => dateAndClock
  | 'd' => [.number .day]
  | 'e' => [.number .day]
  | 'f' => [.number .nanosecond]
  | 'g' => [.number .isoYearOfCentury]
  | 'h' => [.monthName false]
  | 'j' => [.number .ordinal]
  | 'k' => [.number .hour]
  | 'l' => [.number .dialHour]
  | 'm' => [.number .month]
  | 'n' => [.blank]
  | 'p' => [.half]
  | 'q' => [.number .quarter]
  | 'r' => dialClock
  | 's' => [.number .timestamp]
  | 't' => [.blank]
  | 'u' => [.number .weekdayFromMonday]
  | 'v' => namedDate
  | 'w' => [.number .weekdayFromSunday]
  | 'x' => slashedDate
  | 'y' => [.number .yearOfCentury]
  | 'z' => [.offset .plain]
  | '+' => international
  | '%' => [.literal '%']
  | _ => [.malformed]

/-- The items of a directive with a padding flag, which has to spell one number. -/
def paddedItems (c : Char) : List Item :=
  match directiveItems c with
  | [.number quantity] => [.number quantity]
  | _ => [.malformed]

/-- The items of the directive behind a percent sign, and the rest of the format. -/
def directive : List Char → List Item × List Char
  | [] => ([.malformed], [])
  | '-' :: c :: rest => (paddedItems c, rest)
  | '0' :: c :: rest => (paddedItems c, rest)
  | '_' :: c :: rest => (paddedItems c, rest)
  | '#' :: 'z' :: rest => ([.offset .permissive], rest)
  | ':' :: 'z' :: rest => ([.offset .plain], rest)
  | ':' :: ':' :: 'z' :: rest => ([.offset .plain], rest)
  | ':' :: ':' :: ':' :: 'z' :: rest => ([.offset .plain], rest)
  | '.' :: 'f' :: rest => ([.fraction], rest)
  | '.' :: '3' :: 'f' :: rest => ([.fractionOf 3], rest)
  | '.' :: '6' :: 'f' :: rest => ([.fractionOf 6], rest)
  | '.' :: '9' :: 'f' :: rest => ([.fractionOf 9], rest)
  | '3' :: 'f' :: rest => ([.digitsOf 3], rest)
  | '6' :: 'f' :: rest => ([.digitsOf 6], rest)
  | '9' :: 'f' :: rest => ([.digitsOf 9], rest)
  | c :: rest => (directiveItems c, rest)

theorem length_directive_le (s : List Char) : (directive s).2.length ≤ s.length := by
  unfold directive
  split <;> simp only [List.length_cons, List.length_nil] <;> omega

/-- The items that a format spells. -/
def items : List Char → List Item
  | [] => []
  | '%' :: rest => (directive rest).1 ++ items (directive rest).2
  | c :: rest => (if Text.isBlank c then .blank else .literal c) :: items rest
termination_by s => s.length
decreasing_by
  · exact Nat.lt_succ_of_le (length_directive_le rest)
  · simp

/-- Whether every directive of a format is known. -/
def isWellFormed (format : String) : Bool :=
  (items format.toList).all fun item => item != .malformed

end Format

end WhereClause.Calendar
