import WhereClause.Calendar.Reading
import WhereClause.Decimal.Numeral
import WhereClause.Filter

/-!
# The order of literals

The literals of a filter are ordered as texts, as numbers or as dates.  A
collation gives a literal a key, unless the literal is not of its kind, and the
keys are compared; so two literals that are spelled differently may be equal.

A key is a row of integers, compared from the left.  A text has its code points,
a number its place among the finite binary numbers, and a date its moment.
-/

set_option autoImplicit false

namespace WhereClause

/-- How literals are ordered. -/
inductive Collation where
  | ordinal
  | numeric
  | date (format : String)
  deriving DecidableEq, Repr

/-- What literals are compared by. -/
abbrev Key := List Int

namespace Collation

/-- The name of a collation. -/
def name : Collation → String
  | .ordinal => "ordinal"
  | .numeric => "numeric"
  | .date _ => "date"

/-- The format of the dates that a collation orders. -/
def format? : Collation → Option String
  | .date format => some format
  | .ordinal | .numeric => none

/-- The collation of a type of values. -/
def ofValueType (type : ValueType) (dateFormat : String) : Collation :=
  match type with
  | .ordinal => .ordinal
  | .numeric => .numeric
  | .date => .date dateFormat

/-- The finite number that a literal stands for, white space around it aside. -/
def number? (text : String) : Option Binary64 := do
  let numeral ← Decimal.Numeral.parse? (Text.trimmed text.toList)
  numeral.toBinary64?

/-- The key of a literal. -/
def key (collation : Collation) (text : String) : Except Failure Key :=
  match collation with
  | .ordinal => .ok (text.toList.map fun c => (c.toNat : Int))
  | .numeric =>
      match number? text with
      | some x => .ok [x.key]
      | none => .error (.invalidLiteral text .number)
  | .date format =>
      match Calendar.Moment.parse? format text with
      | some m => .ok [m.key]
      | none => .error (.invalidLiteral text (.date format))

/-- How two literals are ordered.  The first one is looked at first. -/
def compare (collation : Collation) (a b : String) : Except Failure Ordering := do
  let x ← collation.key a
  let y ← collation.key b
  .ok (Ord.compare x y)

/-- How one side of two items is ordered. -/
def compareItems (collation : Collation) (side : Side) (a b : Item) : Except Failure Ordering :=
  collation.compare (a.on side) (b.on side)

end Collation

end WhereClause
