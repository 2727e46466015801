import WhereClause.Calendar.Fields
import WhereClause.Decimal.Digits

/-!
# Reading a literal by a format

The items of a format are read off the front of a literal one after another, and
nothing may be left over.  Every reader gives back what it has read together with
the rest of the literal.  Numbers may follow white space, take no more digits
than their quantity has, and so need no separator; a year with a sign takes all
the digits that follow.  Names are read without regard to case.

A literal is first read as date and time.  When that does not settle a moment, it
is read once more as a date alone, which stands for its first moment.
-/

set_option autoImplicit false

namespace WhereClause.Calendar

/-! ## Numbers -/

/-- The greatest number that may be read. -/
def maxNumber : Nat := 9223372036854775807

/-- Reads the digits at the front of a text, at most as many as given. -/
def readNumber (width : Option Nat) (s : List Char) : Option (Nat × List Char) :=
  let all := s.takeWhile Char.isDigit
  let digits := match width with
    | some n => all.take n
    | none => all
  let n := Decimal.value digits
  if digits.isEmpty ∨ maxNumber < n then none else some (n, s.drop digits.length)

/-- Reads a number that may have a sign; one without a sign has at most the given
number of digits. -/
def readSigned (width : Nat) : List Char → Option (Int × List Char)
  | '-' :: rest => (readNumber none rest).map fun (n, rest) => (-(n : Int), rest)
  | '+' :: rest => (readNumber none rest).map fun (n, rest) => ((n : Int), rest)
  | s => (readNumber (some width) s).map fun (n, rest) => ((n : Int), rest)

/-- How many digits a quantity has at most. -/
def Quantity.width : Quantity → Option Nat
  | .year | .isoYear => some 4
  | .quarter | .weekdayFromSunday | .weekdayFromMonday => some 1
  | .ordinal => some 3
  | .nanosecond => some 9
  | .timestamp => none
  | .century | .yearOfCentury | .isoCentury | .isoYearOfCentury | .month | .day
  | .sundayWeek | .mondayWeek | .isoWeek | .hour | .dialHour | .minute | .second => some 2

/-- Reads the number of a quantity. -/
def Quantity.read (quantity : Quantity) (s : List Char) : Option (Int × List Char) :=
  match quantity with
  | .year | .isoYear => readSigned 4 (Text.dropBlank s)
  | _ => (readNumber quantity.width (Text.dropBlank s)).map fun (n, rest) => ((n : Int), rest)

/-- Reads exactly so many digits of a fraction of a second, as nanoseconds. -/
def readFractionOf (digits : Nat) (s : List Char) : Option (Nat × List Char) :=
  let taken := s.take digits
  if taken.length = digits ∧ taken.all Char.isDigit then
    some (Decimal.value taken * Nat.pow 10 (9 - digits), s.drop digits)
  else none

/-- Reads the digits of a fraction of a second, as nanoseconds.  Digits after the
ninth are passed over. -/
def readFraction (s : List Char) : Option (Nat × List Char) :=
  let all := s.takeWhile Char.isDigit
  let digits := all.take 9
  if digits.isEmpty then none
  else some (Decimal.value digits * Nat.pow 10 (9 - digits.length), s.drop all.length)

/-! ## Names -/

/-- The months, the part of a name that is always there apart from the rest. -/
def monthNames : List (String × String) :=
  [("jan", "uary"), ("feb", "ruary"), ("mar", "ch"), ("apr", "il"), ("may", ""), ("jun", "e"),
   ("jul", "y"), ("aug", "ust"), ("sep", "tember"), ("oct", "ober"), ("nov", "ember"),
   ("dec", "ember")]

/-- The weekdays from Monday on, the part of a name that is always there apart from
the rest. -/
def weekdayNames : List (String × String) :=
  [("mon", "day"), ("tue", "sday"), ("wed", "nesday"), ("thu", "rsday"), ("fri", "day"),
   ("sat", "urday"), ("sun", "day")]

/-- The rest of a text behind a word in small letters, whatever their case in the
text. -/
def afterWord? (word : String) (s : List Char) : Option (List Char) :=
  if (s.take word.length).map Char.toLower = word.toList then some (s.drop word.length) else none

/-- Reads a name of a list, as its place in the list.  In the long form the rest of
the name is taken as well when it is there. -/
def readName (names : List (String × String)) (long : Bool) (s : List Char) :
    Option (Nat × List Char) :=
  match names.findIdx? fun name => (afterWord? name.1 s).isSome with
  | none => none
  | some i =>
      let rest := s.drop 3
      match names[i]? with
      | some (_, more) => some (i, if long then (afterWord? more rest).getD rest else rest)
      | none => none

/-! ## Offsets -/

/-- Reads the sign of an offset: whether it is a minus. -/
def readOffsetSign : List Char → Option (Bool × List Char)
  | '+' :: rest => some (false, rest)
  | '-' :: rest => some (true, rest)
  | '\u2212' :: rest => some (true, rest)
  | _ => none

/-- The characters that may stand between the hours and the minutes of an offset. -/
def isOffsetMark (c : Char) : Bool := c == ':' || Text.isBlank c

/-- Reads the minutes of an offset; with `missing`, a literal may end instead. -/
def readOffsetMinutes (missing : Bool) : List Char → Option (Int × List Char)
  | [] => if missing then some (0, []) else none
  | [_] => none
  | a :: b :: rest =>
      if a.isDigit ∧ b.isDigit ∧ a.toNat < '6'.toNat then some ((Decimal.value [a, b] : Int), rest)
      else none

/-- Reads the sign, the hours and the minutes of an offset, as seconds. -/
def readOffsetNumbers (missing : Bool) (s : List Char) : Option (Int × List Char) := do
  let (negative, s) ← readOffsetSign s
  let a :: b :: s := s | none
  if ¬ (a.isDigit ∧ b.isDigit) then none
  let (minutes, s) ← readOffsetMinutes missing (s.dropWhile isOffsetMark)
  let seconds := (Decimal.value [a, b] : Int) * 3600 + minutes * 60
  some (if negative then -seconds else seconds, s)

/-- The rest of a text behind a name of universal time that the style accepts. -/
def afterUniversal? (style : OffsetStyle) (s : List Char) : Option (List Char) :=
  match style with
  | .plain => none
  | .permissive => afterWord? "z" s
  | .named => (afterWord? "utc" s).or (afterWord? "z" s)

/-- Reads an offset from universal time, as seconds. -/
def readOffset (style : OffsetStyle) (s : List Char) : Option (Int × List Char) :=
  let s := Text.dropBlank s
  match afterUniversal? style s with
  | some rest => some (0, rest)
  | none => readOffsetNumbers (style == .permissive) s

/-! ## Items -/

/-- Reads a fraction of a second behind a point, when there is a point. -/
def readPoint (fields : Fields) (fraction : List Char → Option (Nat × List Char)) :
    List Char → Option (Fields × List Char)
  | '.' :: rest => do
      let (n, rest) ← fraction rest
      some (← fields.put? .nanosecond n, rest)
  | s => some (fields, s)

/-- Reads one item of a format into the slots. -/
def Item.read (fields : Fields) (s : List Char) : Item → Option (Fields × List Char)
  | .literal c =>
      match s with
      | d :: rest => if c = d then some (fields, rest) else none
      | [] => none
  | .blank => some (fields, Text.dropBlank s)
  | .number quantity => do
      let (n, rest) ← quantity.read s
      some (← fields.putQuantity? n quantity, rest)
  | .monthName long => do
      let (i, rest) ← readName monthNames long s
      some (← fields.put? .month (i + 1), rest)
  | .weekdayName long => do
      let (i, rest) ← readName weekdayNames long s
      some (← fields.put? .weekday i, rest)
  | .half =>
      match afterWord? "am" s, afterWord? "pm" s with
      | some rest, _ => do some (← fields.put? .half 0, rest)
      | none, some rest => do some (← fields.put? .half 1, rest)
      | none, none => none
  | .fraction => readPoint fields readFraction s
  | .fractionOf digits => readPoint fields (readFractionOf digits) s
  | .digitsOf digits => do
      let (n, rest) ← readFractionOf digits s
      some (← fields.put? .nanosecond n, rest)
  | .zoneName => some (fields, s.dropWhile fun c => !Text.isBlank c)
  | .offset style => do
      let (seconds, rest) ← readOffset style s
      some (← fields.put? .offset seconds, rest)
  | .timeMark =>
      match s with
      | c :: rest => if c = 't' ∨ c = 'T' ∨ c = ' ' then some (fields, rest) else none
      | [] => none
  | .malformed => none

/-- Reads the items of a format one after another. -/
def readItems (fields : Fields) (s : List Char) : List Item → Option (Fields × List Char)
  | [] => some (fields, s)
  | item :: items => do
      let (fields, rest) ← item.read fields s
      readItems fields rest items

/-- The slots that a whole literal fills. -/
def Fields.ofLiteral? (format : String) (literal : List Char) : Option Fields := do
  let (fields, rest) ← readItems .empty literal (Format.items format.toList)
  if rest.isEmpty then some fields else none

/-- The moment that a literal stands for, white space around it aside. -/
def Moment.parse? (format literal : String) : Option Moment := do
  let fields ← Fields.ofLiteral? format (Text.trimmed literal.toList)
  fields.moment?.or fields.midnight?

end WhereClause.Calendar
