/-!
# Binary floating point with 53 significant bits

A finite number of the format is a sign and a magnitude.  The magnitude is the
place of the absolute value in the increasing sequence of all nonnegative
numbers of the format: zero has place `0`, the least positive number `2 ^ -1074`
has place `1`, and so on below `Binary64.magnitudes`, which infinity would have.
The order of the numbers is then the order of their places, and rounding a
quotient is finding a place.

Everything is exact arithmetic on natural numbers, in units of `2 ^ -1074`, the
least positive number of the format.
-/

set_option autoImplicit false

namespace WhereClause

/-- The places of the finite magnitudes lie below this one, which would be
`2 ^ 1024`. -/
def Binary64.magnitudes : Nat := 2047 <<< 52

/-- A finite number: a sign, and the place of the absolute value among the
nonnegative numbers of the format.  Zero comes with both signs. -/
structure Binary64 where
  negative : Bool
  magnitude : Nat
  finite : magnitude < Binary64.magnitudes
  deriving DecidableEq

namespace Binary64

/-- How many units `2 ^ -1074` make a magnitude.  Up to `2 ^ 53` the places count
single units; from there on the unit doubles every `2 ^ 52` places. -/
def units (magnitude : Nat) : Nat :=
  if magnitude < 1 <<< 52 then magnitude
  else (magnitude % (1 <<< 52) + 1 <<< 52) <<< (magnitude / (1 <<< 52) - 1)

/-- A quotient rounded to the nearest whole number, a half to the even one. -/
def divNearestEven (num den : Nat) : Nat :=
  let q := num / den
  let r := num % den
  if 2 * r < den ∨ (2 * r = den ∧ q % 2 = 0) then q else q + 1

/-- The place nearest to the quotient of two natural numbers, a half going to the
even place.  The result may lie beyond the finite places. -/
def nearest (num den : Nat) : Nat :=
  let scaled := num <<< 1074
  let shift := Nat.log2 (scaled / den) - 52
  shift <<< 52 + divNearestEven scaled (den <<< shift)

/-- The number with a sign and a place, when the place is finite. -/
def ofMagnitude? (negative : Bool) (magnitude : Nat) : Option Binary64 :=
  if h : magnitude < magnitudes then some ⟨negative, magnitude, h⟩ else none

/-- The number nearest to a signed quotient, when it is finite. -/
def ofQuotient? (negative : Bool) (num den : Nat) : Option Binary64 :=
  ofMagnitude? negative (nearest num den)

/-- The key of the total order: the negative numbers count down from `-1`, so
that negative zero comes right before zero. -/
def key (x : Binary64) : Int :=
  if x.negative then -(x.magnitude : Int) - 1 else x.magnitude

/-- The product of two numbers, when it is finite. -/
def mul? (x y : Binary64) : Option Binary64 :=
  ofQuotient? (x.negative != y.negative) (units x.magnitude * units y.magnitude)
    (1 <<< 2148)

/-- The quotient by a nonzero number, when it is finite. -/
def div? (x y : Binary64) : Option Binary64 :=
  ofQuotient? (x.negative != y.negative) (units x.magnitude) (units y.magnitude)

/-! ## Small laws -/

/-- The key tells two numbers apart. -/
theorem key_inj {x y : Binary64} : x.key = y.key ↔ x = y := by
  constructor
  · intro h
    cases x with
    | mk s m hm =>
      cases y with
      | mk t n hn =>
        cases s <;> cases t <;> simp [key] at h <;> simp <;> omega
  · rintro rfl
    rfl

end Binary64

end WhereClause
