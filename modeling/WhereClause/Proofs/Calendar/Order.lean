import WhereClause.Calendar.Moment

/-!
# The order of days and moments

Days are in the order of their years, and within a year in the order of their places in it.  A year
ends before the next one begins (`daysBefore_add_daysIn_le`), so **the numbers of the days are in
the order of the days** (`Day.number_lt_iff`), and no two days have one number.

Moments are in the order of their days, then of their seconds, then of the fractions.  The fraction
of a leap second runs up to two seconds, and the key of a moment leaves as much room for it, so
**the keys are in the order of the moments** (`Moment.key_lt_iff`), and no two moments have one key.
-/

set_option autoImplicit false

namespace WhereClause.Calendar

/-! ## Years -/

/-- Each year begins where the one before it ends. -/
theorem daysBefore_succ (year : Int) : daysBefore (year + 1) = daysBefore year + daysIn year := by
  simp only [daysBefore, daysIn, isLeap, Bool.and_eq_true, Bool.or_eq_true, beq_iff_eq, bne_iff_ne]
  split <;> omega

theorem daysBefore_mono {year later : Int} (le : year ≤ later) :
    daysBefore year ≤ daysBefore later := by
  simp only [daysBefore]
  omega

/-- All days of a year are numbered before those of a later one. -/
theorem daysBefore_add_daysIn_le {year later : Int} (less : year < later) :
    daysBefore year + daysIn year ≤ daysBefore later := by
  rw [← daysBefore_succ]
  exact daysBefore_mono less

/-! ## Days -/

namespace Day

/-- The earlier one of two days is in an earlier year, or earlier in the same one. -/
def Before (d e : Day) : Prop := d.year < e.year ∨ d.year = e.year ∧ d.ordinal < e.ordinal

variable {d e : Day}

theorem eq_of_parts (year : d.year = e.year) (ordinal : d.ordinal = e.ordinal) : d = e := by
  cases d
  cases e
  cases year
  cases ordinal
  rfl

theorem trichotomy (d e : Day) : d.Before e ∨ d = e ∨ e.Before d := by
  rcases Int.lt_trichotomy d.year e.year with less | same | greater
  · exact .inl (.inl less)
  · rcases Nat.lt_trichotomy d.ordinal e.ordinal with less | sameToo | greater
    · exact .inl (.inr ⟨same, less⟩)
    · exact .inr (.inl (eq_of_parts same sameToo))
    · exact .inr (.inr (.inr ⟨same.symm, greater⟩))
  · exact .inr (.inr (.inl greater))

theorem number_lt_of_before (before : d.Before e) : d.number < e.number := by
  have ends := d.inYear.2
  have begins := e.inYear.1
  rcases before with year | ⟨year, ordinal⟩
  · have apart := daysBefore_add_daysIn_le year
    simp only [number]
    omega
  · simp only [number, year]
    omega

/-- **The numbers of days are in the order of the days.** -/
theorem number_lt_iff : d.number < e.number ↔ d.Before e := by
  constructor
  · intro less
    rcases trichotomy d e with before | rfl | behind
    · exact before
    · exact absurd less (Int.lt_irrefl _)
    · exact absurd (number_lt_of_before behind) (Int.lt_asymm less)
  · exact number_lt_of_before

theorem number_inj : d.number = e.number ↔ d = e := by
  constructor
  · intro same
    rcases trichotomy d e with before | equal | behind
    · exact absurd same (Int.ne_of_lt (number_lt_iff.2 before))
    · exact equal
    · exact absurd same (Int.ne_of_gt (number_lt_iff.2 behind))
  · rintro rfl
    rfl

end Day

/-! ## Moments -/

namespace Moment

/-- The earlier one of two moments is on an earlier day, or on the same day in an earlier second, or
earlier in the same second. -/
def Before (x y : Moment) : Prop :=
  x.day.Before y.day ∨
    x.day = y.day ∧ (x.second < y.second ∨ x.second = y.second ∧ x.nano < y.nano)

variable {x y : Moment}

theorem eq_of_parts (day : x.day = y.day) (second : x.second = y.second) (nano : x.nano = y.nano) :
    x = y := by
  cases x
  cases y
  cases day
  cases second
  cases nano
  rfl

theorem trichotomy (x y : Moment) : x.Before y ∨ x = y ∨ y.Before x := by
  rcases Day.trichotomy x.day y.day with before | day | behind
  · exact .inl (.inl before)
  · rcases Nat.lt_trichotomy x.second y.second with less | second | greater
    · exact .inl (.inr ⟨day, .inl less⟩)
    · rcases Nat.lt_trichotomy x.nano y.nano with less | nano | greater
      · exact .inl (.inr ⟨day, .inr ⟨second, less⟩⟩)
      · exact .inr (.inl (eq_of_parts day second nano))
      · exact .inr (.inr (.inr ⟨day.symm, .inr ⟨second.symm, greater⟩⟩))
    · exact .inr (.inr (.inr ⟨day.symm, .inl greater⟩))
  · exact .inr (.inr (.inl behind))

/-- **The keys of moments are in the order of the moments.** -/
theorem key_lt_iff : x.key < y.key ↔ x.Before y := by
  have inDayX := x.inDay
  have inDayY := y.inDay
  have inSecondX := x.inSecond
  have inSecondY := y.inSecond
  have days : x.key < y.key ↔ x.day.number < y.day.number ∨ x.day.number = y.day.number ∧
      (x.second < y.second ∨ x.second = y.second ∧ x.nano < y.nano) := by
    simp only [key, secondsPerDay, nanosPerSecond] at *
    omega
  rw [days, Day.number_lt_iff, Day.number_inj, Before]

theorem key_inj : x.key = y.key ↔ x = y := by
  constructor
  · intro same
    rcases trichotomy x y with before | equal | behind
    · exact absurd same (Int.ne_of_lt (key_lt_iff.2 before))
    · exact equal
    · exact absurd same (Int.ne_of_gt (key_lt_iff.2 behind))
  · rintro rfl
    rfl

end Moment

end WhereClause.Calendar
