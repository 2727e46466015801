import WhereClause.Proofs.Extent
import WhereClause.Proofs.Rounding
import Mathlib.Data.List.TakeWhile

/-!
# Literals that are whole numbers

A literal is a whole number when it is a row of digits behind an optional sign.  It has a
value of its own, apart from the binary number that it is ordered by, and however long it
is, that number is the rounded value.  So **the order of the numbers never contradicts
that of the values**: two literals whose values are in the other order than their numbers
have one number (`number?_eq_of_lt`).
-/

set_option autoImplicit false

namespace WhereClause

namespace Decimal

/-- The whole number that a text stands for: digits behind an optional sign. -/
def integer? (s : List Char) : Option Int :=
  let (negative, digits) := sign s
  if digits.isEmpty ∨ ¬ digits.all Char.isDigit then none
  else some (if negative then -(value digits : Int) else value digits)

theorem spanDigits_of_all {digits : List Char} (all : digits.all Char.isDigit = true) :
    spanDigits digits = (digits, []) := by
  have every : ∀ c ∈ digits, c.isDigit = true := List.all_eq_true.1 all
  simp [spanDigits, List.takeWhile_eq_self_iff.2 every, List.dropWhile_eq_nil_iff.2 every]

/-- A whole number is a numeral without a power of ten. -/
theorem parse?_of_integer? {s : List Char} {z : Int} (whole : integer? s = some z) :
    Numeral.parse? s = some ⟨(sign s).1, z.natAbs, 0⟩ ∧
      ((sign s).1 = true → z ≤ 0) ∧ ((sign s).1 = false → 0 ≤ z) := by
  unfold integer? at whole
  unfold Numeral.parse?
  generalize sign s = parts at whole ⊢
  obtain ⟨negative, digits⟩ := parts
  simp only at whole ⊢
  split at whole
  · cases whole
  · next plain =>
      simp only [not_or, Decidable.not_not] at plain
      obtain ⟨nonempty, all⟩ := plain
      cases whole
      rw [spanDigits_of_all all]
      cases negative <;> simp [fraction, exponentOf, nonempty]

end Decimal

/-- A finite number has the sign and the place that it is made of. -/
theorem Binary64.of_ofMagnitude? {negative : Bool} {magnitude : Nat} {x : Binary64}
    (made : ofMagnitude? negative magnitude = some x) :
    x.magnitude = magnitude ∧ x.negative = negative := by
  unfold ofMagnitude? at made
  split at made
  · cases made
    exact ⟨rfl, rfl⟩
  · cases made

namespace Collation

/-- The whole number that a literal stands for, white space around it aside. -/
def integer? (text : String) : Option Int := Decimal.integer? (Text.trimmed text.toList)

/-- The number of a whole literal is its rounded value. -/
theorem number?_of_integer? {text : String} {z : Int} (whole : integer? text = some z)
    {x : Binary64} (number : number? text = some x) :
    x.magnitude = Binary64.nearest z.natAbs 1 ∧
      (x.negative = true → z ≤ 0) ∧ (x.negative = false → 0 ≤ z) := by
  obtain ⟨parsed, minus, plus⟩ := Decimal.parse?_of_integer? whole
  rw [number?, parsed, Option.bind_eq_bind, Option.bind_some, Decimal.Numeral.toBinary64?,
    if_neg (Int.lt_irrefl 0), Int.natAbs_zero, Nat.pow_eq, Nat.pow_zero, Nat.mul_one,
    Binary64.ofQuotient?] at number
  obtain ⟨magnitude, negative⟩ := Binary64.of_ofMagnitude? number
  rw [magnitude, negative]
  exact ⟨rfl, minus, plus⟩

/-- A smaller whole number does not come later than a larger one. -/
theorem key_le_of_lt {a b : String} {z w : Int} {x y : Binary64} (wholeA : integer? a = some z)
    (wholeB : integer? b = some w) (numberA : number? a = some x) (numberB : number? b = some y)
    (less : z < w) : x.key ≤ y.key := by
  obtain ⟨magnitudeX, minusX, plusX⟩ := number?_of_integer? wholeA numberA
  obtain ⟨magnitudeY, minusY, plusY⟩ := number?_of_integer? wholeB numberB
  unfold Binary64.key
  cases signX : x.negative with
  | true =>
      cases signY : y.negative with
      | true =>
          have below : y.magnitude ≤ x.magnitude := by
            rw [magnitudeX, magnitudeY]
            have low := minusY signY
            exact Binary64.nearest_mono (by decide) (by omega)
          simp
          omega
      | false =>
          simp
          omega
  | false =>
      have low := plusX signX
      cases signY : y.negative with
      | true =>
          have high := minusY signY
          omega
      | false =>
          have below : x.magnitude ≤ y.magnitude := by
            rw [magnitudeX, magnitudeY]
            exact Binary64.nearest_mono (by decide) (by omega)
          simpa using below

/-- **Literals whose values are in the other order than their numbers have one number.** -/
theorem number?_eq_of_lt {a b : String} {z w : Int} {x y : Binary64}
    (wholeA : integer? a = some z) (wholeB : integer? b = some w) (numberA : number? a = some x)
    (numberB : number? b = some y) (ordered : y.key ≤ x.key) (less : z < w) : x = y :=
  Binary64.key_inj.1 (Int.le_antisymm (key_le_of_lt wholeA wholeB numberA numberB less) ordered)

/-- Whole numbers up to `2 ^ 53` with one number have one value. -/
theorem integer_eq_of_number {a b : String} {z w : Int} {x : Binary64}
    (wholeA : integer? a = some z) (wholeB : integer? b = some w) (numberA : number? a = some x)
    (numberB : number? b = some x) (smallA : z.natAbs ≤ 2 ^ 53) (smallB : w.natAbs ≤ 2 ^ 53) :
    z = w := by
  obtain ⟨magnitudeA, minusA, plusA⟩ := number?_of_integer? wholeA numberA
  obtain ⟨magnitudeB, minusB, plusB⟩ := number?_of_integer? wholeB numberB
  have same : z.natAbs = w.natAbs :=
    Binary64.nearest_inj smallA smallB (magnitudeA.symm.trans magnitudeB)
  cases sign : x.negative with
  | true =>
      have lowA := minusA sign
      have lowB := minusB sign
      omega
  | false =>
      have highA := plusA sign
      have highB := plusB sign
      omega

/-- Numbers are ordered by their keys. -/
theorem precedes_numeric {a b : String} (before : numeric.precedes a b = true) :
    ∃ x y, number? a = some x ∧ number? b = some y ∧ x.key ≤ y.key := by
  obtain ⟨⟨keyA, readsA⟩, ⟨keyB, readsB⟩⟩ := readable_of_precedes before
  rw [precedes_eq readsA readsB] at before
  unfold key at readsA readsB
  cases numberA : number? a with
  | none => simp [numberA] at readsA
  | some x =>
      cases numberB : number? b with
      | none => simp [numberB] at readsB
      | some y =>
          simp only [numberA, numberB, Except.ok.injEq] at readsA readsB
          subst readsA
          subst readsB
          rw [Key.compare_singleton] at before
          exact ⟨x, y, rfl, rfl, Std.isLE_compare.1 before⟩

end Collation

end WhereClause
