import WhereClause.Decimal.Numeral

/-!
# The shortest decimal that reads back

A binary number is written with as few digits as will read back as the same
number.  For each count of digits in turn only the two neighbours of the number
on the decimal grid with that many digits can do so; the first count for which
one of them does is the shortest, and of two the nearer one is taken.

The layout is a record of its own: which decimal exponents are written with a
point inside the digits, and how the others show their power of ten.
-/

set_option autoImplicit false

namespace WhereClause.Decimal

/-- Significant digits without trailing zeros, and the exponent of the first. -/
structure Digits where
  digits : List Char
  exponent : Int
  deriving DecidableEq, Repr

/-- The exponent `p` with `10 ^ p ≤ num / den < 10 ^ (p + 1)`, for a positive
quotient that is not below `10 ^ -400`. -/
def leadingExponent (num den : Nat) : Int :=
  if den ≤ num then (Nat.toDigits 10 (num / den)).length - 1
  else
    match (List.range 400).find? fun k => den ≤ num * Nat.pow 10 k with
    | some k => -(k : Int)
    | none => -400

/-- The quotient of two numbers divided by `10 ^ exponent`, as a quotient. -/
def scaleDown (num den : Nat) (exponent : Int) : Nat × Nat :=
  if exponent < 0 then (num * Nat.pow 10 exponent.natAbs, den)
  else (num, den * Nat.pow 10 exponent.natAbs)

/-- The place nearest to `coefficient * 10 ^ exponent`. -/
def place (coefficient : Nat) (exponent : Int) : Nat :=
  if exponent < 0 then Binary64.nearest coefficient (Nat.pow 10 exponent.natAbs)
  else Binary64.nearest (coefficient * Nat.pow 10 exponent.natAbs) 1

/-- Of the two neighbours of a number on the grid of multiples of
`10 ^ exponent`, the one that reads back; of two, the nearer, and the even one
when both are as near. -/
def neighbour? (magnitude : Nat) (exponent : Int) : Option Nat :=
  let (num, den) := scaleDown (Binary64.units magnitude) (1 <<< 1074) exponent
  let below := num / den
  let reads (n : Nat) : Bool := place n exponent == magnitude
  match reads below, reads (below + 1) with
  | false, false => none
  | true, false => some below
  | false, true => some (below + 1)
  | true, true => some (Binary64.divNearestEven num den)

/-- A row of digits without the zeros at its end. -/
def dropZeros (digits : List Char) : List Char :=
  (digits.reverse.dropWhile (· == '0')).reverse

/-- The shortest digits that read back as a positive magnitude. -/
def shortest (magnitude : Nat) : Digits :=
  let lead := leadingExponent (Binary64.units magnitude) (1 <<< 1074)
  let tries := (List.range 17).findSome? fun (more : Nat) =>
    let grid := lead - more
    (neighbour? magnitude grid).map fun n =>
      let digits := Nat.toDigits 10 n
      ⟨dropZeros digits, grid + digits.length - 1⟩
  tries.getD ⟨['0'], 0⟩

/-- How a number is laid out. -/
structure Layout where
  /-- The least exponent that is written with a point inside the digits. -/
  least : Int
  /-- The greatest exponent that is written with a point inside the digits. -/
  greatest : Int
  /-- How many digits a power of ten has at least. -/
  powerDigits : Nat

/-- A row of digits filled up with zeros in front. -/
def padLeft (width : Nat) (digits : List Char) : List Char :=
  List.replicate (width - digits.length) '0' ++ digits

/-- Digits and an exponent laid out as a text. -/
def Layout.write (layout : Layout) (d : Digits) : List Char :=
  if layout.least ≤ d.exponent ∧ d.exponent ≤ layout.greatest then
    if d.exponent < 0 then
      ['0', '.'] ++ List.replicate (d.exponent.natAbs - 1) '0' ++ d.digits
    else
      let whole := d.exponent.natAbs + 1
      let filled := d.digits ++ List.replicate (whole - d.digits.length) '0'
      let part := filled.drop whole
      filled.take whole ++ ['.'] ++ (if part.isEmpty then ['0'] else part)
  else
    let sign := if d.exponent < 0 then '-' else '+'
    let head := d.digits.take 1
    let tail := d.digits.drop 1
    head ++ (if tail.isEmpty then [] else '.' :: tail) ++ ['e', sign]
      ++ padLeft layout.powerDigits (Nat.toDigits 10 d.exponent.natAbs)

/-- A number as a text with the shortest digits; zero is `0.0`. -/
def Layout.show (layout : Layout) (x : Binary64) : String :=
  let digits :=
    if x.magnitude = 0 then ['0', '.', '0'] else layout.write (shortest x.magnitude)
  String.ofList (if x.negative then '-' :: digits else digits)

end WhereClause.Decimal
