import WhereClause.Proofs.Rounding

/-!
# The order of binary numbers

The exact value of a finite number is a whole number of units.  A place further on in the sequence
of magnitudes makes more units (`units_lt_iff`), so the sign and the place of a number say where its
value lies among the others.  **The keys of numbers are in the order of their values**, and of the
two zeros the negative one comes first (`key_lt_iff`).
-/

set_option autoImplicit false

namespace WhereClause.Binary64

/-! ## Magnitudes -/

/-- A magnitude makes fewer units than the first one for which the unit is larger. -/
theorem units_lt (magnitude : Nat) : units magnitude < 2 ^ 52 * 2 ^ (magnitude / 2 ^ 52) := by
  rw [units_eq]
  split
  · next small => rw [Nat.div_eq_of_lt small, Nat.pow_zero]; omega
  · next large =>
      obtain ⟨unit, next⟩ : ∃ unit, magnitude / 2 ^ 52 = unit + 1 :=
        ⟨magnitude / 2 ^ 52 - 1, by omega⟩
      have doubled : 2 ^ (unit + 1) = 2 * 2 ^ unit := Nat.pow_succ'
      rw [next, Nat.add_sub_cancel, doubled, ← Nat.mul_assoc]
      exact Nat.mul_lt_mul_of_pos_right (by omega) (Nat.two_pow_pos unit)

/-- **A later place makes more units:** more of the same unit, or of a larger one, which alone
outweighs all that a smaller unit can make. -/
theorem units_lt_units {m n : Nat} (less : m < n) : units m < units n := by
  rcases Nat.lt_or_eq_of_le (Nat.div_le_div_right (c := 2 ^ 52) less.le) with lessUnit | sameUnit
  · have large : ¬ n < 2 ^ 52 := by omega
    obtain ⟨unit, next⟩ : ∃ unit, n / 2 ^ 52 = unit + 1 := ⟨n / 2 ^ 52 - 1, by omega⟩
    calc units m < 2 ^ 52 * 2 ^ (m / 2 ^ 52) := units_lt m
      _ ≤ 2 ^ 52 * 2 ^ unit := Nat.mul_le_mul_left _ (Nat.pow_le_pow_right (by decide) (by omega))
      _ ≤ (n % 2 ^ 52 + 2 ^ 52) * 2 ^ unit := Nat.mul_le_mul_right _ (Nat.le_add_left _ _)
      _ = units n := by rw [units_eq, if_neg large, next, Nat.add_sub_cancel]
  · rw [units_eq, units_eq, sameUnit]
    split <;> split
    · exact less
    · omega
    · omega
    · exact Nat.mul_lt_mul_of_pos_right (by omega) (Nat.two_pow_pos _)

theorem units_lt_iff {m n : Nat} : units m < units n ↔ m < n := by
  constructor
  · intro fewer
    by_contra notLess
    rcases Nat.lt_or_eq_of_le (Nat.not_lt.1 notLess) with greater | same
    · exact Nat.lt_asymm fewer (units_lt_units greater)
    · rw [same] at fewer
      exact Nat.lt_irrefl _ fewer
  · exact units_lt_units

/-! ## Values -/

/-- The exact value of a number, in units of the least positive one. -/
def value (x : Binary64) : Int :=
  if x.negative then -(units x.magnitude : Int) else units x.magnitude

/-- The earlier one of two numbers has the smaller value, or is the negative one of two zeros. -/
def Before (x y : Binary64) : Prop :=
  x.value < y.value ∨ x.value = y.value ∧ x.negative = true ∧ y.negative = false

/-- **The keys of numbers are in the order of the numbers.** -/
theorem key_lt_iff {x y : Binary64} : x.key < y.key ↔ x.Before y := by
  have places : units x.magnitude < units y.magnitude ↔ x.magnitude < y.magnitude := units_lt_iff
  have placesBack : units y.magnitude < units x.magnitude ↔ y.magnitude < x.magnitude :=
    units_lt_iff
  unfold Before key value
  cases x.negative <;> cases y.negative <;> simp <;> omega

end WhereClause.Binary64
