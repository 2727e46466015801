import WhereClause.Binary64
import Mathlib.Algebra.Group.Nat.Defs
import Mathlib.Data.Nat.Log

/-!
# Rounding to binary numbers

The place of a quotient is found in two steps: how far its binary digits have to be
shifted for fifty-three of them to be left, and the shifted quotient rounded to the
nearest whole number.  A larger shift starts where a smaller one ends
(`nearest_le`, `le_nearest`), so **rounding never turns the order of two numbers
around** (`nearest_mono`).

It can make two numbers equal.  **Whole numbers up to `2 ^ 53` keep their value**
(`units_nearest`), so that no two of them get one place (`nearest_inj`).
-/

set_option autoImplicit false

namespace WhereClause.Binary64

/-! ## Whole quotients -/

variable {num num' den : Nat}

theorem div_le_divNearestEven (num den : Nat) : num / den ≤ divNearestEven num den := by
  simp only [divNearestEven]
  split <;> omega

theorem divNearestEven_le (num den : Nat) : divNearestEven num den ≤ num / den + 1 := by
  simp only [divNearestEven]
  split <;> omega

/-- A quotient without a remainder stays as it is. -/
theorem divNearestEven_mul (k : Nat) (positive : 0 < den) : divNearestEven (k * den) den = k := by
  simp [divNearestEven, Nat.mul_div_cancel k positive, positive]

/-- Rounding to whole numbers keeps the order: of two numbers with one quotient, the one with the
larger remainder is rounded up when the other one is. -/
theorem divNearestEven_mono (den : Nat) (le : num ≤ num') :
    divNearestEven num den ≤ divNearestEven num' den := by
  have quotients : num / den ≤ num' / den := Nat.div_le_div_right le
  rcases Nat.lt_or_eq_of_le quotients with less | same
  · calc divNearestEven num den ≤ num / den + 1 := divNearestEven_le num den
      _ ≤ num' / den := less
      _ ≤ divNearestEven num' den := div_le_divNearestEven num' den
  · have first := Nat.div_add_mod num den
    have second := Nat.div_add_mod num' den
    rw [same] at first
    have remainders : num % den ≤ num' % den := by omega
    simp only [divNearestEven, same]
    split <;> split <;> omega

theorem divNearestEven_le_of_le {k : Nat} (positive : 0 < den) (le : num ≤ k * den) :
    divNearestEven num den ≤ k := by
  have mono := divNearestEven_mono den le
  rwa [divNearestEven_mul k positive] at mono

theorem le_divNearestEven_of_le {k : Nat} (positive : 0 < den) (le : k * den ≤ num) :
    k ≤ divNearestEven num den := by
  have mono := divNearestEven_mono den le
  rwa [divNearestEven_mul k positive] at mono

/-! ## Places -/

/-- How many units make the number one. -/
def one : Nat := 2 ^ 1074

/-- How far a quotient has to be shifted for fifty-three binary digits to be left. -/
def shift (num den : Nat) : Nat := Nat.log2 (num * one / den) - 52

theorem nearest_eq (num den : Nat) :
    nearest num den = shift num den * 2 ^ 52 +
      divNearestEven (num * one) (den * 2 ^ shift num den) := by
  have shifted (n k : Nat) : n <<< k = n * 2 ^ k := Nat.shiftLeft_eq n k
  simp only [nearest, shift, one, shifted]

theorem units_eq (magnitude : Nat) :
    units magnitude = if magnitude < 2 ^ 52 then magnitude
      else (magnitude % 2 ^ 52 + 2 ^ 52) * 2 ^ (magnitude / 2 ^ 52 - 1) := by
  simp only [units, Nat.shiftLeft_eq, Nat.one_mul]

/-- Zero has place zero. -/
theorem nearest_zero (den : Nat) : nearest 0 den = 0 := by
  rw [nearest_eq, shift]
  simp [divNearestEven, eq_comm]

theorem shift_mono (le : num ≤ num') : shift num den ≤ shift num' den := by
  have scaled : num * one / den ≤ num' * one / den :=
    Nat.div_le_div_right (Nat.mul_le_mul_right _ le)
  have logs : Nat.log2 (num * one / den) ≤ Nat.log2 (num' * one / den) := by
    simp only [Nat.log2_eq_log_two]
    exact Nat.log_mono_right scaled
  exact Nat.sub_le_sub_right logs 52

/-- What is left after a shift has at most fifty-three binary digits. -/
theorem nearest_le (positive : 0 < den) : nearest num den ≤ (shift num den + 2) * 2 ^ 52 := by
  have digits : num * one / den < 2 ^ (shift num den + 53) := by
    have less : num * one / den < 2 ^ (Nat.log2 (num * one / den) + 1) :=
      Nat.lt_log2_self
    refine less.trans_le (Nat.pow_le_pow_right (by decide) ?_)
    unfold shift
    omega
  have bound : num * one ≤ 2 ^ 53 * (den * 2 ^ shift num den) := by
    have scaled := (Nat.div_lt_iff_lt_mul positive).1 digits
    rw [Nat.pow_add] at scaled
    calc num * one ≤ 2 ^ shift num den * 2 ^ 53 * den := scaled.le
      _ = 2 ^ 53 * (den * 2 ^ shift num den) := by
          rw [Nat.mul_comm (2 ^ shift num den), Nat.mul_assoc, Nat.mul_comm (2 ^ shift num den)]
  have rounded := divNearestEven_le_of_le (Nat.mul_pos positive (Nat.two_pow_pos _)) bound
  rw [nearest_eq]
  omega

/-- After a shift there are fifty-three binary digits left. -/
theorem le_nearest (positive : 0 < den) (shifted : 0 < shift num den) :
    (shift num den + 1) * 2 ^ 52 ≤ nearest num den := by
  have digits : 2 ^ (shift num den + 52) ≤ num * one / den := by
    have whole : num * one / den ≠ 0 := by
      intro none
      rw [shift, none, Nat.log2_zero, Nat.zero_sub] at shifted
      exact Nat.lt_irrefl 0 shifted
    refine (Nat.pow_le_pow_right (by decide) ?_).trans (Nat.log2_self_le whole)
    unfold shift at shifted ⊢
    omega
  have bound : 2 ^ 52 * (den * 2 ^ shift num den) ≤ num * one := by
    have scaled := (Nat.le_div_iff_mul_le positive).1 digits
    rw [Nat.pow_add] at scaled
    calc 2 ^ 52 * (den * 2 ^ shift num den) = 2 ^ shift num den * 2 ^ 52 * den := by
          rw [Nat.mul_comm (2 ^ shift num den), Nat.mul_assoc, Nat.mul_comm (2 ^ shift num den)]
      _ ≤ num * one := scaled
  have rounded := le_divNearestEven_of_le (Nat.mul_pos positive (Nat.two_pow_pos _)) bound
  rw [nearest_eq]
  omega

/-- **Rounding keeps the order.** -/
theorem nearest_mono (positive : 0 < den) (le : num ≤ num') :
    nearest num den ≤ nearest num' den := by
  have shifts : shift num den ≤ shift num' den := shift_mono le
  rcases Nat.lt_or_eq_of_le shifts with less | same
  · have below : nearest num den ≤ (shift num den + 2) * 2 ^ 52 := nearest_le positive
    have above : (shift num' den + 1) * 2 ^ 52 ≤ nearest num' den :=
      le_nearest positive (by omega)
    omega
  · rw [nearest_eq, nearest_eq, same]
    have scaled : num * one ≤ num' * one := Nat.mul_le_mul_right _ le
    exact Nat.add_le_add_left (divNearestEven_mono _ scaled) _

/-! ## Whole numbers that keep their value -/

/-- A number with fifty-three binary digits before its zeros keeps its value. -/
theorem units_nearest_of_digits (n digits zeros : Nat) (low : 2 ^ 52 ≤ digits)
    (high : digits < 2 ^ 53) (value : n * one = digits * 2 ^ zeros) :
    units (nearest n 1) = n * one := by
  have nonzero : digits ≠ 0 := by
    have positive := Nat.two_pow_pos 52
    omega
  have log : Nat.log2 (digits * 2 ^ zeros) = 52 + zeros := by
    have product : digits * 2 ^ zeros ≠ 0 :=
      Nat.mul_ne_zero nonzero (Nat.ne_of_gt (Nat.two_pow_pos zeros))
    rw [Nat.log2_eq_iff product, Nat.pow_succ', Nat.pow_add, ← Nat.mul_assoc, ← Nat.pow_succ']
    exact ⟨Nat.mul_le_mul_right _ low, Nat.mul_lt_mul_of_pos_right high (Nat.two_pow_pos zeros)⟩
  have zerosShift : shift n 1 = zeros := by
    rw [shift, Nat.div_one, value, log]
    omega
  have place : nearest n 1 = zeros * 2 ^ 52 + digits := by
    rw [nearest_eq, zerosShift, value, Nat.one_mul, divNearestEven_mul _ (Nat.two_pow_pos zeros)]
  have quotient : nearest n 1 / 2 ^ 52 = zeros + 1 := by omega
  have remainder : nearest n 1 % 2 ^ 52 = digits - 2 ^ 52 := by omega
  rw [units_eq, if_neg (by omega), quotient, remainder, Nat.sub_add_cancel low,
    Nat.add_sub_cancel, value]

/-- **A whole number up to `2 ^ 53` keeps its value.** -/
theorem units_nearest {n : Nat} (small : n ≤ 2 ^ 53) : units (nearest n 1) = n * one := by
  rcases Nat.lt_or_eq_of_le small with less | same
  · by_cases zero : n = 0
    · subst zero
      rw [nearest_zero]
      simp [units_eq]
    · have low := Nat.log2_self_le zero
      have high : n < 2 ^ (Nat.log2 n + 1) := Nat.lt_log2_self
      have few : Nat.log2 n ≤ 52 := by
        have below := (Nat.log2_lt zero).2 less
        omega
      have digits : 2 ^ Nat.log2 n * 2 ^ (52 - Nat.log2 n) = 2 ^ 52 := by
        rw [← Nat.pow_add, Nat.add_sub_cancel' few]
      refine units_nearest_of_digits n (n * 2 ^ (52 - Nat.log2 n)) (1022 + Nat.log2 n) ?_ ?_ ?_
      · rw [← digits]
        exact Nat.mul_le_mul_right _ low
      · calc n * 2 ^ (52 - Nat.log2 n) < 2 ^ (Nat.log2 n + 1) * 2 ^ (52 - Nat.log2 n) :=
              Nat.mul_lt_mul_of_pos_right high (Nat.two_pow_pos _)
          _ = 2 ^ 53 := by rw [Nat.pow_succ', Nat.mul_assoc, digits, ← Nat.pow_succ']
      · rw [Nat.mul_assoc, ← Nat.pow_add, one]
        congr 2
        omega
  · have value (k : Nat) : n * 2 ^ k = 2 ^ 52 * 2 ^ (1 + k) := by
      rw [same, ← Nat.pow_add, ← Nat.pow_add]
      congr 1
      omega
    exact units_nearest_of_digits n (2 ^ 52) (1 + 1074) (by decide) (by decide) (value 1074)

/-- No two whole numbers up to `2 ^ 53` get one place. -/
theorem nearest_inj {m n : Nat} (smallM : m ≤ 2 ^ 53) (smallN : n ≤ 2 ^ 53)
    (same : nearest m 1 = nearest n 1) : m = n := by
  have values : m * one = n * one := by
    rw [← units_nearest smallM, ← units_nearest smallN, same]
  have positive (k : Nat) : 0 < 2 ^ k := Nat.two_pow_pos k
  exact Nat.eq_of_mul_eq_mul_right (positive 1074) values

end WhereClause.Binary64
