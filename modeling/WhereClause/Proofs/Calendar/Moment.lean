import WhereClause.Proofs.Calendar.Slots

/-!
# Slots that settle a moment

A moment is settled by a day and a time, or else by a timestamp that completes the slots
(`moment?_cases`).  Either way the slots that were filled stay, so **a moment has the hour that the
slots give** (`hour_of_moment?`).

A time needs a minute besides the hour, and a second as soon as there is a fraction of one
(`SettlesTime`).  Slots that give an hour, within their ranges, have a time exactly when they have
these (`time_ok_iff`), and without a timestamp nothing else is asked of a day and a time that are
put together (`moment?_isSome_iff`).
-/

set_option autoImplicit false

namespace WhereClause.Calendar.Fields

variable {fields : Fields} {n : Int} {m : Moment}

/-- Whether the slots that give an hour give a time: a minute is needed, and a fraction of a second
needs a second. -/
def SettlesTime (fields : Fields) : Prop :=
  fields .minute ≠ none ∧ (fields .nanosecond ≠ none → fields .second ≠ none)

/-! ## Times -/

/-- An hour is given by its half of the day and its place on the dial. -/
theorem hour?_eq_some (given : fields.hour? = some n) :
    ∃ half hour, fields .half = some half ∧ fields .dialHour = some hour ∧
      n = half * 12 + hour := by
  simp only [hour?, Option.bind_eq_bind, Option.bind_eq_some_iff, Option.some.injEq] at given
  obtain ⟨half, isHalf, hour, isHour, sum⟩ := given
  exact ⟨half, hour, isHalf, isHour, sum.symm⟩

/-- **Slots with an hour have a time** exactly when they settle one. -/
theorem time_ok_iff (given : fields.hour? = some n) :
    (∃ t, fields.time = .ok t) ↔ fields.SettlesTime := by
  obtain ⟨half, hour, isHalf, isHour, -⟩ := hour?_eq_some given
  unfold time SettlesTime
  rw [isHalf, isHour]
  cases fields .minute with
  | none => simp
  | some minute =>
      cases fields .second with
      | none => cases fields .nanosecond <;> simp
      | some second => by_cases leap : second = 60 <;> simp [leap]

/-- **A time has the hour of its slots**, and lies within a day, as its fraction lies within two
seconds. -/
theorem time_bounds (bounds : fields.Bounded) (given : fields.hour? = some n) {t : Time}
    (timed : fields.time = .ok t) :
    ((t.second / 3600 : Nat) : Int) = n ∧ t.second < secondsPerDay ∧
      t.nano < 2 * nanosPerSecond := by
  obtain ⟨half, hour, isHalf, isHour, rfl⟩ := hour?_eq_some given
  have halfRange : 0 ≤ half ∧ half ≤ 1 := bounds .half half isHalf
  have hourRange : 0 ≤ hour ∧ hour ≤ 11 := bounds .dialHour hour isHour
  unfold time at timed
  rw [isHalf, isHour] at timed
  cases isMinute : fields .minute with
  | none => simp [isMinute] at timed
  | some minute =>
      have minuteRange : 0 ≤ minute ∧ minute ≤ 59 := bounds .minute minute isMinute
      rw [isMinute] at timed
      unfold secondsPerDay nanosPerSecond
      cases isSecond : fields .second with
      | none =>
          cases isNano : fields .nanosecond with
          | none =>
              simp only [isSecond, isNano, Except.ok.injEq] at timed
              subst timed
              dsimp only
              omega
          | some nano => simp [isSecond, isNano] at timed
      | some second =>
          have secondRange : 0 ≤ second ∧ second ≤ 60 := bounds .second second isSecond
          have nanoRange : 0 ≤ (fields .nanosecond).getD 0 ∧
              (fields .nanosecond).getD 0 ≤ 999999999 := by
            cases isNano : fields .nanosecond with
            | none => simp
            | some nano => exact bounds .nanosecond nano isNano
          simp only [isSecond, nanosPerSecond] at timed
          split at timed
          · cases timed
            dsimp only
            omega
          · next regular =>
              cases timed
              dsimp only
              omega

/-! ## Moments -/

/-- A day and a time put together. -/
theorem join_ok {d : Day} {t : Time} (joined : join d t = .ok m) :
    m.day = d ∧ m.second = t.second := by
  unfold join at joined
  split at joined
  · cases joined
    exact ⟨rfl, rfl⟩
  · cases joined

theorem join_toOption_eq_some {d : Day} {t : Time} :
    (join d t).toOption = some m ↔ join d t = .ok m := by
  cases join d t <;> simp [Except.toOption]

/-- The slots of a minute are filled like any other. -/
theorem putMinute?_grows {filled : Fields} {timestamp : Int}
    (put : fields.putMinute? timestamp = some filled) : ∃ slots, Grows slots fields filled := by
  simp only [putMinute?, Option.bind_eq_bind, Option.bind_eq_some_iff] at put
  obtain ⟨d, -, year, putYear, ordinal, putOrdinal, hour, putHour, putMinute⟩ := put
  exact ⟨_, (put?_fills putYear).toGrows.trans ((put?_fills putOrdinal).toGrows.trans
    ((putHour?_spec putHour).1.toGrows.trans (put?_fills putMinute).toGrows))⟩

/-- Slots that are completed from a timestamp keep what they had. -/
theorem completed?_grows {filled : Fields} {timestamp : Int}
    (completed : fields.completed? timestamp = some filled) :
    ∃ slots, Grows slots fields filled := by
  unfold completed? at completed
  split at completed
  · cases completed
  · split at completed
    · split at completed
      · exact putMinute?_grows completed
      · split at completed
        · exact putMinute?_grows completed
        · cases completed
    · simp only [Option.bind_eq_bind, Option.bind_eq_some_iff] at completed
      obtain ⟨second, putSecond, rest⟩ := completed
      obtain ⟨slots, grows⟩ := putMinute?_grows rest
      exact ⟨_, (put?_fills putSecond).toGrows.trans grows⟩

/-- **How a moment is settled:** by a day and a time, or by slots that a timestamp completes. -/
theorem moment?_cases (settled : fields.moment? = some m) :
    (∃ d t, fields.day = .ok d ∧ fields.time = .ok t ∧ join d t = .ok m) ∨
      ∃ timestamp filled d t, fields .timestamp = some timestamp ∧
        fields.completed? timestamp = some filled ∧ filled.time = .ok t ∧ join d t = .ok m := by
  unfold moment? at settled
  split at settled
  · next d t isDay isTime =>
      split at settled
      · exact .inl ⟨d, t, isDay, isTime, join_toOption_eq_some.1 settled⟩
      · cases settled
  · cases settled
  · cases settled
  · simp only [Option.bind_eq_bind, Option.bind_eq_some_iff] at settled
    obtain ⟨timestamp, stamped, filled, completed, d, -, t, isTime, joined⟩ := settled
    have timed : filled.time = .ok t := by
      cases found : filled.time with
      | error trouble => simp [found, Except.toOption] at isTime
      | ok other =>
          rw [found] at isTime
          cases isTime
          rfl
    exact .inr ⟨timestamp, filled, d, t, stamped, completed, timed, join_toOption_eq_some.1 joined⟩

/-- **A moment has the hour that the slots give.** -/
theorem hour_of_moment? (bounds : fields.Bounded) (given : fields.hour? = some n)
    (settled : fields.moment? = some m) : (m.hour : Int) = n := by
  rcases moment?_cases settled with
    ⟨d, t, -, timed, joined⟩ | ⟨timestamp, filled, d, t, -, completed, timed, joined⟩
  · rw [Moment.hour, (join_ok joined).2]
    exact (time_bounds bounds given timed).1
  · obtain ⟨slots, grows⟩ := completed?_grows completed
    rw [Moment.hour, (join_ok joined).2]
    exact (time_bounds (grows.bounded bounds) (grows.hour? given) timed).1

/-- Slots that settle a first moment of a day have that day. -/
theorem midnight?_eq_some (first : fields.midnight? = some m) :
    fields.day = .ok m.day ∧ m = .midnight m.day := by
  unfold midnight? at first
  cases found : fields.day with
  | error trouble => simp [found, Except.toOption] at first
  | ok d =>
      rw [found] at first
      cases first
      exact ⟨rfl, rfl⟩

/-- **Without a timestamp** a day and an hour make a moment exactly when they make a time. -/
theorem moment?_isSome_iff (bounds : fields.Bounded) (given : fields.hour? = some n)
    (unstamped : fields .timestamp = none) {d : Day} (dated : fields.day = .ok d) :
    fields.moment?.isSome = true ↔ fields.SettlesTime := by
  rw [← time_ok_iff given]
  constructor
  · intro settled
    obtain ⟨m, settled⟩ := Option.isSome_iff_exists.1 settled
    rcases moment?_cases settled with ⟨-, t, -, timed, -⟩ | ⟨timestamp, -, -, -, stamped, -⟩
    · exact ⟨t, timed⟩
    · rw [unstamped] at stamped
      cases stamped
  · rintro ⟨t, timed⟩
    obtain ⟨-, inDay, inSecond⟩ := time_bounds bounds given timed
    have agrees : fields.agreesWithTimestamp d t = true := by
      simp [agreesWithTimestamp, unstamped]
    simp [moment?, dated, timed, agrees, join, inDay, inSecond, Except.toOption]

end WhereClause.Calendar.Fields
