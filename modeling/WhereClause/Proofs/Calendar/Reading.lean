import WhereClause.Calendar.Reading

/-!
# Literals without text are no dates

Some items of a format are content with nothing: white space, the name of a zone, and a
fraction of a second, which may even be given with no digits at all.  The fraction is the
only slot that such an item can fill (`read_nil`), so a literal without text leaves all the
others empty however long the format is (`readItems_nil`).  **A blank literal is no date,
whatever the format** (`parse?_of_blank`).
-/

set_option autoImplicit false

namespace WhereClause.Calendar

/-- No slot is filled but, possibly, the fraction of a second. -/
def Fields.Undated (fields : Fields) : Prop := ∀ slot, slot ≠ .nanosecond → fields slot = none

variable {fields filled : Fields} {rest : List Char}

/-- Slots that settle nothing but a fraction of a second settle no day. -/
theorem Fields.Undated.day (undated : fields.Undated) : fields.day = .error .insufficient := by
  have year := undated .year (by decide)
  have century := undated .century (by decide)
  have yearOfCentury := undated .yearOfCentury (by decide)
  have isoYear := undated .isoYear (by decide)
  have isoCentury := undated .isoCentury (by decide)
  have isoYearOfCentury := undated .isoYearOfCentury (by decide)
  simp [Fields.day, year, century, yearOfCentury, isoYear, isoCentury, isoYearOfCentury,
    resolveYear, namedDay, bind, Except.bind]

theorem Fields.Undated.time (undated : fields.Undated) : fields.time = .error .insufficient := by
  simp [Fields.time, undated .half (by decide)]

/-- Slots without a day, a time and a timestamp settle no moment. -/
theorem Fields.Undated.moment? (undated : fields.Undated) : fields.moment? = none := by
  simp [Fields.moment?, undated.day, undated.time, undated .timestamp (by decide)]

theorem Fields.Undated.midnight? (undated : fields.Undated) : fields.midnight? = none := by
  simp [Fields.midnight?, undated.day, Except.toOption]

/-- Filling the fraction of a second keeps slots undated. -/
theorem Fields.Undated.put?_nanosecond (undated : fields.Undated) {n : Int}
    (put : fields.put? .nanosecond n = some filled) : filled.Undated := by
  unfold Fields.put? at put
  split at put
  · cases put
    intro slot other
    simp [other, undated slot other]
  · cases put

theorem Quantity.read_nil (quantity : Quantity) : quantity.read [] = none := by
  cases quantity <;> rfl

/-- **An item that reads nothing** leaves nothing, and fills no slot but the fraction of a
second. -/
theorem Item.read_nil (undated : fields.Undated) {item : Item}
    (reads : item.read fields [] = some (filled, rest)) : filled.Undated ∧ rest = [] := by
  cases item with
  | literal c => cases reads
  | blank =>
      cases reads
      exact ⟨undated, rfl⟩
  | number quantity => simp [Item.read, quantity.read_nil] at reads
  | monthName long =>
      have none : readName monthNames long [] = none := by cases long <;> rfl
      simp [Item.read, none] at reads
  | weekdayName long =>
      have none : readName weekdayNames long [] = none := by cases long <;> rfl
      simp [Item.read, none] at reads
  | half => cases reads
  | fraction =>
      cases reads
      exact ⟨undated, rfl⟩
  | fractionOf digits =>
      cases reads
      exact ⟨undated, rfl⟩
  | digitsOf digits =>
      simp only [Item.read, readFractionOf, List.take_nil, List.drop_nil] at reads
      split at reads
      · simp only [Option.bind_eq_bind, Option.bind_some, Option.bind_eq_some_iff] at reads
        obtain ⟨put, filling, same⟩ := reads
        cases same
        exact ⟨undated.put?_nanosecond filling, rfl⟩
      · cases reads
  | zoneName =>
      cases reads
      exact ⟨undated, rfl⟩
  | offset style =>
      have none : readOffset style [] = none := by cases style <;> rfl
      simp [Item.read, none] at reads
  | timeMark => cases reads
  | malformed => cases reads

/-- Items that read nothing one after another fill no slot but the fraction of a second. -/
theorem readItems_nil (undated : fields.Undated) {items : List Item}
    (reads : readItems fields [] items = some (filled, rest)) : filled.Undated := by
  induction items generalizing fields with
  | nil =>
      cases reads
      exact undated
  | cons item items ih =>
      simp only [readItems, Option.bind_eq_bind, Option.bind_eq_some_iff] at reads
      obtain ⟨⟨next, left⟩, first, further⟩ := reads
      obtain ⟨still, rfl⟩ := item.read_nil undated first
      exact ih still further

/-- **A blank literal is no date**, whatever the format. -/
theorem Moment.parse?_of_blank {literal : String} (format : String)
    (blank : Text.isBlankText literal = true) : Moment.parse? format literal = none := by
  have nothing : Text.trimmed literal.toList = [] := Text.trimmed_of_all blank
  rw [Moment.parse?, nothing, Fields.ofLiteral?]
  cases reads : readItems .empty [] (Format.items format.toList) with
  | none => rfl
  | some result =>
      obtain ⟨fields, left⟩ := result
      have undated : fields.Undated := readItems_nil (fun _ _ => rfl) reads
      simp [undated.moment?, undated.midnight?]

end WhereClause.Calendar
