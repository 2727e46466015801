import WhereClause.Calendar.Reading

/-!
# The slots that a literal fills

An item of a format fills slots of its own and leaves all others as they are; what was filled
before stays, and nothing is filled with a number out of range.  The two forms of a fraction behind
a point may be left out of a literal, every other item fills all its slots (`Item.fills`).

This carries over to a whole format by induction over its items (`readItems_grows`,
`readItems_present`).  So **the hour that a literal gives is the number that the hour item reads**,
whatever is read before and after it (`exists_hour`).
-/

set_option autoImplicit false

namespace WhereClause.Calendar

/-! ## Slots of items -/

/-- The slots that a quantity is kept in. -/
def Quantity.slots : Quantity → List Slot
  | .year => [.year]
  | .century => [.century]
  | .yearOfCentury => [.yearOfCentury]
  | .isoYear => [.isoYear]
  | .isoCentury => [.isoCentury]
  | .isoYearOfCentury => [.isoYearOfCentury]
  | .quarter => [.quarter]
  | .month => [.month]
  | .day => [.day]
  | .ordinal => [.ordinal]
  | .sundayWeek => [.sundayWeek]
  | .mondayWeek => [.mondayWeek]
  | .isoWeek => [.isoWeek]
  | .weekdayFromSunday | .weekdayFromMonday => [.weekday]
  | .hour => [.half, .dialHour]
  | .dialHour => [.dialHour]
  | .minute => [.minute]
  | .second => [.second]
  | .nanosecond => [.nanosecond]
  | .timestamp => [.timestamp]

/-- The slots that an item of a format may fill. -/
def Item.slots : Item → List Slot
  | .number quantity => quantity.slots
  | .monthName _ => [.month]
  | .weekdayName _ => [.weekday]
  | .half => [.half]
  | .fraction | .fractionOf _ | .digitsOf _ => [.nanosecond]
  | .offset _ => [.offset]
  | .literal _ | .blank | .zoneName | .timeMark | .malformed => []

/-- Whether a literal may leave out what an item stands for. -/
def Item.isOptional : Item → Bool
  | .fraction | .fractionOf _ => true
  | _ => false

/-! ## Filling slots -/

namespace Fields

/-- Every slot that is filled holds a number within its range. -/
def Bounded (fields : Fields) : Prop :=
  ∀ slot n, fields slot = some n → slot.range.1 ≤ n ∧ n ≤ slot.range.2

/-- At most some given slots have been filled, and nothing was lost. -/
structure Grows (slots : List Slot) (fields filled : Fields) : Prop where
  kept : ∀ slot n, fields slot = some n → filled slot = some n
  bounded : fields.Bounded → filled.Bounded
  apart : ∀ slot, slot ∉ slots → filled slot = fields slot

/-- Exactly some given slots have been filled. -/
structure Fills (slots : List Slot) (fields filled : Fields) : Prop
    extends Grows slots fields filled where
  present : ∀ slot ∈ slots, filled slot ≠ none

variable {slots further : List Slot} {fields middle filled : Fields}

theorem bounded_empty : Bounded empty := by
  intro slot n filled
  cases filled

theorem Fills.refl (fields : Fields) : Fills [] fields fields where
  kept _ _ there := there
  bounded bounds := bounds
  apart _ _ := rfl
  present _ here := by cases here

theorem Grows.trans (first : Grows slots fields middle) (second : Grows further middle filled) :
    Grows (slots ++ further) fields filled where
  kept slot n there := second.kept slot n (first.kept slot n there)
  bounded bounds := second.bounded (first.bounded bounds)
  apart slot absent := by
    rw [List.mem_append, not_or] at absent
    rw [second.apart slot absent.2, first.apart slot absent.1]

/-- A slot that is filled stays filled. -/
theorem Grows.ne_none (grows : Grows slots fields filled) {slot : Slot}
    (there : fields slot ≠ none) : filled slot ≠ none := by
  obtain ⟨n, found⟩ := Option.ne_none_iff_exists'.1 there
  rw [grows.kept slot n found]
  exact Option.some_ne_none n

theorem Fills.trans (first : Fills slots fields middle) (second : Fills further middle filled) :
    Fills (slots ++ further) fields filled where
  toGrows := first.toGrows.trans second.toGrows
  present slot here := by
    rcases List.mem_append.1 here with earlier | later
    · exact second.ne_none (first.present slot earlier)
    · exact second.present slot later

/-- Filling one slot. -/
theorem put?_spec {slot : Slot} {n : Int} (put : fields.put? slot n = some filled) :
    Fills [slot] fields filled ∧ filled slot = some n := by
  unfold put? at put
  split at put
  · next fits =>
      cases put
      obtain ⟨least, greatest, agrees⟩ := fits
      refine ⟨⟨⟨?_, ?_, ?_⟩, ?_⟩, by simp⟩
      · intro other m there
        by_cases same : other = slot
        · subst same
          rw [there, Option.getD_some] at agrees
          simp [agrees]
        · simp [same, there]
      · intro bounds other m there
        by_cases same : other = slot
        · subst same
          simp only [if_true, Option.some.injEq] at there
          subst there
          exact ⟨least, greatest⟩
        · simp only [same, if_false] at there
          exact bounds other m there
      · intro other absent
        rw [List.mem_singleton] at absent
        simp [absent]
      · intro other here
        simp [List.mem_singleton.1 here]
  · cases put

theorem put?_fills {slot : Slot} {n : Int} (put : fields.put? slot n = some filled) :
    Fills [slot] fields filled :=
  (put?_spec put).1

/-- The hour of the day that the slots give. -/
def hour? (fields : Fields) : Option Int := do
  let half ← fields .half
  let hour ← fields .dialHour
  some (half * 12 + hour)

/-- An hour that is given stays the same. -/
theorem Grows.hour? (grows : Grows slots fields filled) {n : Int} (given : fields.hour? = some n) :
    filled.hour? = some n := by
  simp only [Fields.hour?, Option.bind_eq_bind, Option.bind_eq_some_iff] at given ⊢
  obtain ⟨half, isHalf, hour, isHour, sum⟩ := given
  exact ⟨half, grows.kept _ _ isHalf, hour, grows.kept _ _ isHour, sum⟩

/-- Filling the slots of an hour gives that hour. -/
theorem putHour?_spec {n : Int} (put : fields.putHour? n = some filled) :
    Fills [.half, .dialHour] fields filled ∧ filled.hour? = some n := by
  unfold putHour? at put
  split at put
  · cases put
  · simp only [Option.bind_eq_bind, Option.bind_eq_some_iff] at put
    obtain ⟨middle, first, second⟩ := put
    obtain ⟨fillsHalf, isHalf⟩ := put?_spec first
    obtain ⟨fillsHour, isHour⟩ := put?_spec second
    have half : filled .half = some (n / 12) := fillsHour.kept _ _ isHalf
    refine ⟨fillsHalf.trans fillsHour, ?_⟩
    simp only [Fields.hour?, half, isHour, Option.bind_eq_bind, Option.bind_some, Option.some.injEq]
    omega

/-- A quantity fills its slots. -/
theorem putQuantity?_fills {n : Int} {quantity : Quantity}
    (put : fields.putQuantity? n quantity = some filled) : Fills quantity.slots fields filled := by
  cases quantity with
  | hour => exact (putHour?_spec put).1
  | weekdayFromSunday =>
      simp only [putQuantity?] at put
      split at put
      · cases put
      · exact put?_fills put
  | dialHour =>
      simp only [putQuantity?] at put
      split at put
      · cases put
      · exact put?_fills put
  | _ => exact put?_fills put

end Fields

open Fields

/-! ## Items -/

variable {fields filled : Fields} {s rest : List Char}

/-- What is read is put into the slots. -/
theorem exists_put {α : Type} {read : Option (α × List Char)} (put : α → Option Fields)
    (reads : (read.bind fun found => (put found.1).bind fun filled => some (filled, found.2)) =
      some (filled, rest)) : ∃ n, read = some (n, rest) ∧ put n = some filled := by
  obtain ⟨⟨n, left⟩, found, further⟩ := Option.bind_eq_some_iff.1 reads
  obtain ⟨put, filling, same⟩ := Option.bind_eq_some_iff.1 further
  cases same
  exact ⟨n, found, filling⟩

/-- **One item** fills its slots, unless it may be left out. -/
theorem Item.fills {item : Item} (needed : item.isOptional = false)
    (reads : item.read fields s = some (filled, rest)) : Fills item.slots fields filled := by
  cases item with
  | fraction => cases needed
  | fractionOf digits => cases needed
  | malformed => cases reads
  | blank =>
      cases reads
      exact .refl _
  | zoneName =>
      cases reads
      exact .refl _
  | literal c =>
      simp only [Item.read] at reads
      split at reads
      · split at reads
        · cases reads
          exact .refl _
        · cases reads
      · cases reads
  | timeMark =>
      simp only [Item.read] at reads
      split at reads
      · split at reads
        · cases reads
          exact .refl _
        · cases reads
      · cases reads
  | half =>
      simp only [Item.read] at reads
      split at reads
      · obtain ⟨put, filling, same⟩ := Option.bind_eq_some_iff.1 reads
        cases same
        exact put?_fills filling
      · obtain ⟨put, filling, same⟩ := Option.bind_eq_some_iff.1 reads
        cases same
        exact put?_fills filling
      · cases reads
  | number quantity =>
      obtain ⟨n, -, put⟩ := exists_put (fields.putQuantity? · quantity) reads
      exact putQuantity?_fills put
  | monthName long =>
      obtain ⟨i, -, put⟩ := exists_put (fun i : Nat => fields.put? .month (i + 1)) reads
      exact put?_fills put
  | weekdayName long =>
      obtain ⟨i, -, put⟩ := exists_put (fun i : Nat => fields.put? .weekday i) reads
      exact put?_fills put
  | digitsOf digits =>
      obtain ⟨n, -, put⟩ := exists_put (fun n : Nat => fields.put? .nanosecond n) reads
      exact put?_fills put
  | offset style =>
      obtain ⟨seconds, -, put⟩ := exists_put (fields.put? .offset) reads
      exact put?_fills put

/-- A fraction behind a point fills its slot or changes nothing. -/
theorem readPoint_grows {fraction : List Char → Option (Nat × List Char)}
    (reads : readPoint fields fraction s = some (filled, rest)) :
    Grows [.nanosecond] fields filled := by
  unfold readPoint at reads
  split at reads
  · obtain ⟨n, -, put⟩ := exists_put (fun n : Nat => fields.put? .nanosecond n) reads
    exact (put?_fills put).toGrows
  · cases reads
    exact ⟨fun _ _ there => there, id, fun _ _ => rfl⟩

/-- One item fills no slots but its own. -/
theorem Item.grows {item : Item} (reads : item.read fields s = some (filled, rest)) :
    Grows item.slots fields filled := by
  cases item with
  | fraction => exact readPoint_grows reads
  | fractionOf digits => exact readPoint_grows reads
  | _ => exact (Item.fills rfl reads).toGrows

/-! ## Formats -/

theorem readItems_cons {item : Item} {items : List Item}
    (reads : readItems fields s (item :: items) = some (filled, rest)) :
    ∃ middle left, item.read fields s = some (middle, left) ∧
      readItems middle left items = some (filled, rest) := by
  simp only [readItems, Option.bind_eq_bind, Option.bind_eq_some_iff] at reads
  obtain ⟨⟨middle, left⟩, first, further⟩ := reads
  exact ⟨middle, left, first, further⟩

/-- **The items of a format** fill no slots but their own. -/
theorem readItems_grows {items : List Item}
    (reads : readItems fields s items = some (filled, rest)) :
    Grows (items.flatMap Item.slots) fields filled := by
  induction items generalizing fields s with
  | nil =>
      cases reads
      exact (Fills.refl _).toGrows
  | cons item items ih =>
      obtain ⟨middle, left, first, further⟩ := readItems_cons reads
      exact (Item.grows first).trans (ih further)

/-- The slots of every item that may not be left out are filled. -/
theorem readItems_present {items : List Item}
    (reads : readItems fields s items = some (filled, rest)) {item : Item} (here : item ∈ items)
    (needed : item.isOptional = false) {slot : Slot} (own : slot ∈ item.slots) :
    filled slot ≠ none := by
  induction items generalizing fields s with
  | nil => cases here
  | cons head items ih =>
      obtain ⟨middle, left, first, further⟩ := readItems_cons reads
      rcases List.mem_cons.1 here with rfl | later
      · exact (readItems_grows further).ne_none ((Item.fills needed first).present slot own)
      · exact ih further later

/-- **The hour that a literal gives** is the number that an hour item of the format reads. -/
theorem exists_hour {items : List Item} (reads : readItems fields s items = some (filled, rest))
    (timed : .number .hour ∈ items) :
    ∃ before after n, Quantity.hour.read before = some (n, after) ∧ filled.hour? = some n := by
  induction items generalizing fields s with
  | nil => cases timed
  | cons item items ih =>
      obtain ⟨middle, left, first, further⟩ := readItems_cons reads
      rcases List.mem_cons.1 timed with rfl | later
      · obtain ⟨n, found, put⟩ := exists_put (fields.putQuantity? · .hour) first
        exact ⟨s, left, n, found, (readItems_grows further).hour? (putHour?_spec put).2⟩
      · exact ih further later

end WhereClause.Calendar
