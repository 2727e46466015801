/-!
# Rows of decimal digits

The digits of numerals, of dates and of JSON documents are those of ASCII, and stand for a number
with the most significant one first.  A row without digits stands for zero.
-/

set_option autoImplicit false

namespace WhereClause.Decimal

/-- The number that a digit stands for. -/
def digit (c : Char) : Nat := c.toNat - '0'.toNat

/-- The number that a row of digits stands for. -/
def value (digits : List Char) : Nat := digits.foldl (fun n c => 10 * n + digit c) 0

/-- The digits at the front of a text, and what follows them. -/
def spanDigits (s : List Char) : List Char × List Char :=
  (s.takeWhile Char.isDigit, s.dropWhile Char.isDigit)

end WhereClause.Decimal
