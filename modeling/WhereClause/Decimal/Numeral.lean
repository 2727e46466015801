import WhereClause.Binary64
import WhereClause.Decimal.Digits

/-!
# Decimal numerals

A numeral is an optional sign, digits with at most one point among them, and an
optional power of ten.  At least one digit is needed, before or after the point;
nothing else may stand before or behind it.  Its value is the binary number
nearest to it, and a numeral too large for a finite number has none.

The digits of the power of ten stop counting as soon as it has passed 65535,
which is far beyond the range of the binary format.
-/

set_option autoImplicit false

namespace WhereClause.Decimal

/-- The number `coefficient * 10 ^ exponent`, with a sign. -/
structure Numeral where
  negative : Bool
  coefficient : Nat
  exponent : Int
  deriving DecidableEq, Repr

/-- A sign at the front of a text: whether it is a minus, and what follows it. -/
def sign : List Char → Bool × List Char
  | '-' :: rest => (true, rest)
  | '+' :: rest => (false, rest)
  | s => (false, s)

/-- A point at the front of a text and the digits behind it, neither of which has
to be there. -/
def fraction : List Char → List Char × List Char
  | '.' :: rest => spanDigits rest
  | s => ([], s)

/-- The value of the digits of a power of ten. -/
def power (digits : List Char) : Nat :=
  digits.foldl (fun n c => if n < 0x10000 then 10 * n + digit c else n) 0

/-- A whole text as a power of ten: nothing at all, or a mark, an optional sign
and at least one digit. -/
def exponentOf : List Char → Option Int
  | [] => some 0
  | c :: rest =>
      if c = 'e' ∨ c = 'E' then
        let (negative, rest) := sign rest
        if rest.isEmpty ∨ ¬ rest.all Char.isDigit then none
        else some (if negative then -(power rest : Int) else power rest)
      else none

/-- The numeral that a whole text stands for. -/
def Numeral.parse? (s : List Char) : Option Numeral := do
  let (negative, rest) := sign s
  let (whole, rest) := spanDigits rest
  let (part, rest) := fraction rest
  if whole.isEmpty ∧ part.isEmpty then none
  let exponent ← exponentOf rest
  some ⟨negative, value (whole ++ part), exponent - part.length⟩

/-- The binary number nearest to a numeral, when it is finite. -/
def Numeral.toBinary64? (n : Numeral) : Option Binary64 :=
  if n.exponent < 0 then
    Binary64.ofQuotient? n.negative n.coefficient (Nat.pow 10 n.exponent.natAbs)
  else
    Binary64.ofQuotient? n.negative (n.coefficient * Nat.pow 10 n.exponent.natAbs) 1

end WhereClause.Decimal
