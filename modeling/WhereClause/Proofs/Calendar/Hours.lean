import WhereClause.Proofs.Calendar.Moment
import WhereClause.Proofs.Calendar.Order
import WhereClause.Proofs.Extent
import WhereClause.Settings
import Mathlib.Control.Monad.Basic

/-!
# Dates that differ by the hour

A literal that does not settle a moment is read once more as a date alone, and whatever time it
gave is then lost.  That is meant for formats without a time, but it is done for every literal whose
time is not complete: one with an hour and no minute stands for the first moment of its day
(`compare_hourOnly`).

**Two literals of one date are in the order of their hours exactly when the later one settles a
moment** (`compare_hours`); the earlier one does no harm, since it stays where it is or moves
further to the front.  Otherwise the later one moves to midnight, and is level with the earlier one
or in front of it.  Without a timestamp it is the minute, and the second of a fraction, that decide.
So a format with the hour and the minute orders by hours always, and one with the hour and without
the minute never does.
-/

set_option autoImplicit false

namespace WhereClause.Calendar

/-! ## Accepted literals -/

theorem Fields.reads_of_ofLiteral? {format : String} {literal : List Char} {fields : Fields}
    (read : Fields.ofLiteral? format literal = some fields) :
    ∃ rest, readItems .empty literal (Format.items format.toList) = some (fields, rest) := by
  obtain ⟨⟨filled, rest⟩, reads, further⟩ := Option.bind_eq_some_iff.1 read
  dsimp only at further
  split at further
  · cases further
    exact ⟨rest, reads⟩
  · cases further

/-- The slots of a literal are filled within their ranges. -/
theorem Fields.bounded_of_ofLiteral? {format : String} {literal : List Char} {fields : Fields}
    (read : Fields.ofLiteral? format literal = some fields) : fields.Bounded := by
  obtain ⟨rest, reads⟩ := Fields.reads_of_ofLiteral? read
  exact (readItems_grows reads).bounded Fields.bounded_empty

/-- What the slots of an accepted literal stand for: the moment that they settle, or else the first
one of their day. -/
inductive Fields.StandsFor (fields : Fields) (m : Moment) : Prop where
  | settled (moment : fields.moment? = some m)
  | midnight (unsettled : fields.moment? = none) (dated : fields.day = .ok m.day)
      (first : m = .midnight m.day)

/-- The hour of a literal's slots is the one that its text gives. -/
theorem Fields.hour_eq {format : String} {literal : List Char} {fields : Fields} {m n : Int}
    (read : Fields.ofLiteral? format literal = some fields) (given : fields.hour? = some m)
    (spelled : (Fields.ofLiteral? format literal).bind Fields.hour? = some n) : m = n := by
  rw [read, Option.bind_some, given] at spelled
  exact Option.some.inj spelled

/-- **How a literal is accepted:** its slots stand for its moment. -/
theorem Moment.parse?_cases {format literal : String} {m : Moment}
    (accepted : Moment.parse? format literal = some m) :
    ∃ fields, Fields.ofLiteral? format (Text.trimmed literal.toList) = some fields ∧
      fields.StandsFor m := by
  obtain ⟨fields, read, found⟩ := Option.bind_eq_some_iff.1 accepted
  refine ⟨fields, read, ?_⟩
  rcases Option.or_eq_some_iff.1 found with moment | ⟨unsettled, retried⟩
  · exact .settled moment
  · obtain ⟨dated, first⟩ := Fields.midnight?_eq_some retried
    exact .midnight unsettled dated first

/-! ## Moments of one day -/

/-- On one day the moment with the later hour is the later one. -/
theorem Moment.compare_of_hour_lt {x y : Moment} (sameDay : x.day = y.day)
    (earlier : x.hour < y.hour) : Ord.compare x.key y.key = .lt := by
  have seconds : x.second < y.second := by
    unfold hour at earlier
    omega
  exact Int.compare_eq_lt.2 (key_lt_iff.2 (.inr ⟨sameDay, .inl seconds⟩))

/-- No moment of a day is before its first one, and only that one is level with it. -/
theorem Moment.compare_midnight (m : Moment) :
    Ord.compare m.key (midnight m.day).key = if m = midnight m.day then .eq else .gt := by
  split
  · next same =>
      rw [← same]
      exact Int.compare_eq_eq.2 rfl
  · next later =>
      apply Int.compare_eq_gt.2
      refine key_lt_iff.2 (.inr ⟨rfl, ?_⟩)
      show 0 < m.second ∨ 0 = m.second ∧ 0 < m.nano
      by_contra notLater
      have first : m.second = 0 ∧ m.nano = 0 := by omega
      exact later (eq_of_parts rfl first.1 first.2)

/-! ## Slots that stand for a moment -/

section StandsFor

variable {fields first second : Fields} {m n : Int} {x y : Moment}

/-- Slots settle the moment that they stand for exactly when they settle a time, if they have no
timestamp. -/
theorem Fields.StandsFor.isSome_iff (stands : fields.StandsFor x) (bounds : fields.Bounded)
    (given : fields.hour? = some n) (unstamped : fields .timestamp = none) :
    fields.moment?.isSome = true ↔ fields.SettlesTime := by
  rcases stands with moment | ⟨-, dated, -⟩
  · rcases Fields.moment?_cases moment with ⟨d, -, dated, -⟩ | ⟨timestamp, -, -, -, stamped, -⟩
    · exact Fields.moment?_isSome_iff bounds given unstamped dated
    · rw [unstamped] at stamped
      cases stamped
  · exact Fields.moment?_isSome_iff bounds given unstamped dated

/-- Slots that settle no moment stand for the first one of a day. -/
theorem Fields.StandsFor.eq_midnight (stands : fields.StandsFor x)
    (unsettled : fields.moment? = none) : x = .midnight x.day := by
  rcases stands with moment | ⟨-, -, first⟩
  · rw [unsettled] at moment
    cases moment
  · exact first

/-- Slots that settle a moment stand for one with their hour. -/
theorem Fields.StandsFor.hour_eq (stands : fields.StandsFor x) (bounds : fields.Bounded)
    (given : fields.hour? = some n) (settled : fields.moment?.isSome = true) :
    (x.hour : Int) = n := by
  rcases stands with moment | ⟨unsettled, -, -⟩
  · exact Fields.hour_of_moment? bounds given moment
  · rw [unsettled] at settled
    cases settled

/-- The hour that slots stand for is at most the one that they give. -/
theorem Fields.StandsFor.hour_le (stands : fields.StandsFor x) (bounds : fields.Bounded)
    (given : fields.hour? = some n) : (x.hour : Int) ≤ n := by
  rcases stands with moment | ⟨-, -, first⟩
  · exact Int.le_of_eq (Fields.hour_of_moment? bounds given moment)
  · obtain ⟨half, hour, isHalf, isHour, rfl⟩ := Fields.hour?_eq_some given
    have halfRange : 0 ≤ half ∧ half ≤ 1 := bounds .half half isHalf
    have hourRange : 0 ≤ hour ∧ hour ≤ 11 := bounds .dialHour hour isHour
    have atMidnight : x.hour = 0 := by
      rw [first]
      exact Nat.zero_div 3600
    omega

/-- **How the later of two hours compares:** it comes later if its slots settle a moment, and is the
first moment of the day otherwise. -/
theorem Fields.StandsFor.compare_eq (standsA : first.StandsFor x) (standsB : second.StandsFor y)
    (boundsA : first.Bounded) (boundsB : second.Bounded) (hourA : first.hour? = some m)
    (hourB : second.hour? = some n) (sameDay : x.day = y.day) (earlier : m < n) :
    Ord.compare x.key y.key =
      if second.moment?.isSome = true then .lt else if x = .midnight x.day then .eq else .gt := by
  split
  · next settled =>
      have early : (x.hour : Int) ≤ m := standsA.hour_le boundsA hourA
      have late : (y.hour : Int) = n := standsB.hour_eq boundsB hourB settled
      apply Moment.compare_of_hour_lt sameDay
      omega
  · next notSettled =>
      rw [standsB.eq_midnight (Option.not_isSome_iff_eq_none.1 notSettled), ← sameDay]
      exact Moment.compare_midnight x

end StandsFor

/-! ## Formats -/

/-- A format without a timestamp whose literals give the minute, and the second when they can give a
fraction of one. -/
structure Format.AlwaysTimed (items : List Item) : Prop where
  unstamped : ∀ item ∈ items, .timestamp ∉ item.slots
  minute : .number .minute ∈ items
  second : .number .second ∈ items ∨ ∀ item ∈ items, .nanosecond ∉ item.slots

/-- A format without a timestamp whose literals never give the minute. -/
structure Format.NeverTimed (items : List Item) : Prop where
  unstamped : ∀ item ∈ items, .timestamp ∉ item.slots
  minute : ∀ item ∈ items, .minute ∉ item.slots

example : Format.NeverTimed (Format.items "%d.%m.%Y, %H".toList) :=
  ⟨by decide +kernel, by decide +kernel⟩

variable {format : String} {literal : List Char} {fields : Fields}

/-- A slot that no item of the format fills is empty. -/
theorem Fields.eq_none_of_items {slot : Slot}
    (read : Fields.ofLiteral? format literal = some fields)
    (absent : ∀ item ∈ Format.items format.toList, slot ∉ item.slots) : fields slot = none := by
  obtain ⟨rest, reads⟩ := Fields.reads_of_ofLiteral? read
  apply (readItems_grows reads).apart
  intro here
  obtain ⟨item, member, own⟩ := List.mem_flatMap.1 here
  exact absent item member own

theorem Fields.settlesTime_of_alwaysTimed (read : Fields.ofLiteral? format literal = some fields)
    (always : Format.AlwaysTimed (Format.items format.toList)) : fields.SettlesTime := by
  obtain ⟨rest, reads⟩ := Fields.reads_of_ofLiteral? read
  constructor
  · exact readItems_present reads always.minute rfl (List.mem_singleton_self _)
  · intro fraction
    rcases always.second with second | whole
    · exact readItems_present reads second rfl (List.mem_singleton_self _)
    · exact absurd (Fields.eq_none_of_items read whole) fraction

theorem Fields.not_settlesTime_of_neverTimed
    (read : Fields.ofLiteral? format literal = some fields)
    (never : Format.NeverTimed (Format.items format.toList)) : ¬ fields.SettlesTime := by
  rintro ⟨minute, -⟩
  exact minute (Fields.eq_none_of_items read never.minute)

/-- Literals that never give the minute never settle a moment. -/
theorem Fields.StandsFor.moment?_eq_none {n : Int} {m : Moment} (stands : fields.StandsFor m)
    (read : Fields.ofLiteral? format literal = some fields) (given : fields.hour? = some n)
    (never : Format.NeverTimed (Format.items format.toList)) : fields.moment? = none := by
  have unstamped : fields .timestamp = none := Fields.eq_none_of_items read never.unstamped
  apply Option.not_isSome_iff_eq_none.1
  rw [stands.isSome_iff (Fields.bounded_of_ofLiteral? read) given unstamped]
  exact Fields.not_settlesTime_of_neverTimed read never

/-! ## The order of two literals -/

/-- Two accepted literals are compared by their moments. -/
theorem compare_accepted {format a b : String} {x y : Moment}
    (acceptedA : Moment.parse? format a = some x) (acceptedB : Moment.parse? format b = some y) :
    (Collation.date format).compare a b = .ok (Ord.compare x.key y.key) := by
  have keyA : (Collation.date format).key a = .ok [x.key] := by simp [Collation.key, acceptedA]
  have keyB : (Collation.date format).key b = .ok [y.key] := by simp [Collation.key, acceptedB]
  rw [Collation.compare_eq keyA keyB, Key.compare_singleton]

/-- **When two literals of one date are in the order of their hours.** Under a format with the hour,
accepted literals give an hour each.  Of two literals with one date the one with the earlier hour
comes first exactly when the other one settles a moment by itself, and they are level exactly when
the other one does not and the earlier one stands for midnight.  Without a timestamp the other one
settles a moment exactly when it gives a minute, and a second if it gives a fraction of one; so
there are formats that always order by hours, and formats that never do. -/
theorem compare_hours {format a b : String} {x y : Moment}
    (timed : .number .hour ∈ Format.items format.toList)
    (acceptedA : Moment.parse? format a = some x) (acceptedB : Moment.parse? format b = some y)
    (sameDay : x.day = y.day) :
    ∃ first second m n,
      Fields.ofLiteral? format (Text.trimmed a.toList) = some first ∧
      Fields.ofLiteral? format (Text.trimmed b.toList) = some second ∧
      first.hour? = some m ∧ second.hour? = some n ∧
      (m < n → ∃ order,
        (Collation.date format).compare a b = .ok order ∧
        (Collation.date format).compare b a = .ok order.swap ∧
        (order = .lt ↔ second.moment?.isSome = true) ∧
        (order = .eq ↔ second.moment? = none ∧ x = .midnight x.day) ∧
        (second .timestamp = none → (order = .lt ↔ second.SettlesTime)) ∧
        (Format.AlwaysTimed (Format.items format.toList) → order = .lt) ∧
        (Format.NeverTimed (Format.items format.toList) → order = .eq)) := by
  obtain ⟨first, readA, standsA⟩ := Moment.parse?_cases acceptedA
  obtain ⟨second, readB, standsB⟩ := Moment.parse?_cases acceptedB
  obtain ⟨restA, readsA⟩ := Fields.reads_of_ofLiteral? readA
  obtain ⟨restB, readsB⟩ := Fields.reads_of_ofLiteral? readB
  obtain ⟨-, -, m, -, hourA⟩ := exists_hour readsA timed
  obtain ⟨-, -, n, -, hourB⟩ := exists_hour readsB timed
  have boundsA : first.Bounded := Fields.bounded_of_ofLiteral? readA
  have boundsB : second.Bounded := Fields.bounded_of_ofLiteral? readB
  refine ⟨first, second, m, n, readA, readB, hourA, hourB, ?_⟩
  intro earlier
  have ordered := standsA.compare_eq standsB boundsA boundsB hourA hourB sameDay earlier
  have ahead : Ord.compare x.key y.key = .lt ↔ second.moment?.isSome = true := by
    grind
  have level : Ord.compare x.key y.key = .eq ↔ second.moment? = none ∧ x = .midnight x.day := by
    rw [← Option.not_isSome_iff_eq_none]
    grind
  have reversed : Ord.compare y.key x.key = (Ord.compare x.key y.key).swap :=
    Std.OrientedOrd.eq_swap
  refine ⟨Ord.compare x.key y.key, compare_accepted acceptedA acceptedB, ?_, ahead, level,
    ?_, ?_, ?_⟩
  · rw [← reversed]
    exact compare_accepted acceptedB acceptedA
  · intro unstamped
    exact ahead.trans (standsB.isSome_iff boundsB hourB unstamped)
  · intro always
    have unstamped : second .timestamp = none := Fields.eq_none_of_items readB always.unstamped
    rw [ahead, standsB.isSome_iff boundsB hourB unstamped]
    exact Fields.settlesTime_of_alwaysTimed readB always
  · intro never
    have unsettledA : first.moment? = none := standsA.moment?_eq_none readA hourA never
    have unsettledB : second.moment? = none := standsB.moment?_eq_none readB hourB never
    exact level.2 ⟨unsettledB, standsA.eq_midnight unsettledA⟩

/-- Under a format with the hour and the minute the morning comes before the afternoon. -/
theorem compare_hours_morning :
    (Collation.date "%d.%m.%Y %H:%M").compare "01.02.2024 09:30" "01.02.2024 14:05" = .ok .lt := by
  let day : Day := ⟨2024, 32, by decide, by decide⟩
  have morning : Moment.parse? "%d.%m.%Y %H:%M" "01.02.2024 09:30" =
      some ⟨day, 34200, 0, by decide, by decide⟩ := by decide +kernel
  have afternoon : Moment.parse? "%d.%m.%Y %H:%M" "01.02.2024 14:05" =
      some ⟨day, 50700, 0, by decide, by decide⟩ := by decide +kernel
  have timed : .number .hour ∈ Format.items "%d.%m.%Y %H:%M".toList := by decide +kernel
  have always : Format.AlwaysTimed (Format.items "%d.%m.%Y %H:%M".toList) :=
    ⟨by decide +kernel, by decide +kernel, .inr (by decide +kernel)⟩
  obtain ⟨first, second, m, n, readA, readB, hourA, hourB, ordered⟩ :=
    compare_hours timed morning afternoon rfl
  have nine : m = 9 := Fields.hour_eq readA hourA (by decide +kernel)
  have fourteen : n = 14 := Fields.hour_eq readB hourB (by decide +kernel)
  obtain ⟨order, compared, -, -, -, -, byHours, -⟩ := ordered (by omega)
  rw [compared, byHours always]

/-- **The hours are lost under a format that stops at the hour:** the settings accept the format,
both literals have the same date and an hour each, and still they are level. -/
theorem compare_hourOnly :
    (⟨{ dateFormat := "%Y-%m-%d %H" }, false⟩ : Settings).trouble? = none ∧
      (∀ q ∈ [Quantity.year, .month, .day, .hour],
        .number q ∈ Format.items "%Y-%m-%d %H".toList) ∧
      (Fields.ofLiteral? "%Y-%m-%d %H" "2024-01-01 10".toList).bind Fields.hour? = some 10 ∧
      (Fields.ofLiteral? "%Y-%m-%d %H" "2024-01-01 12".toList).bind Fields.hour? = some 12 ∧
      (∃ m, Moment.parse? "%Y-%m-%d %H" "2024-01-01 10" = some m ∧
        Moment.parse? "%Y-%m-%d %H" "2024-01-01 12" = some m) ∧
      (Collation.date "%Y-%m-%d %H").compare "2024-01-01 10" "2024-01-01 12" = .ok .eq := by
  refine ⟨by decide +kernel, by decide +kernel, by decide +kernel, by decide +kernel, ?_,
    by decide +kernel⟩
  exact ⟨.midnight ⟨2024, 1, by decide, by decide⟩, by decide +kernel, by decide +kernel⟩

end WhereClause.Calendar
