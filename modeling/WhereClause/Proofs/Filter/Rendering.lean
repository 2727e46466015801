import WhereClause.Proofs.Agreement
import WhereClause.Proofs.Extent.Specification
import WhereClause.Proofs.Filter.Meaning
import WhereClause.Proofs.Filter.Refusal

/-!
# How the section of a filter is written

The section of one filter is described from its text.  A filter that declares both columns or
neither has none, whatever its items are (`toSection_ambiguous_iff`).  Otherwise the active items
decide: those that stand for the absence of a value, and the values.

The values are written as one test of the column (`ValuesText`): a list with every value in its
place, one comparison for a single value of a range, and for more of them BETWEEN with their
extremes.  The two forms of a range are told apart by their text, so **which one is written is
settled by the number of values** (`ValuesText.single_iff`, `ValuesText.several_iff`).  When the
absence of a value was selected as well, the check for it stands behind the test, once, in
parentheses with it; alone, it is the whole section (`toSection_spec`).
-/

set_option autoImplicit false

namespace WhereClause.Filter

/-! ## Columns and values -/

/-- A column as it stands in the clause: behind the alias and a point when there is an alias. -/
def columnText (o : Options) (field : String) : String :=
  if o.tableAlias = "" then field else o.tableAlias ++ "." ++ field

/-- A value as it stands in the clause: bare among identifiers, between quotes among values. -/
def valueText (f : Filter) (v : Item) : String :=
  match f.side with
  | .id => v.id
  | .value => "'" ++ v.value ++ "'"

/-- The values of a filter as they stand in a list. -/
def listText (f : Filter) : String := String.intercalate "," (f.values.map f.valueText)

/-- The comparison of a bound as it stands in the clause. -/
def boundText : Bound → String
  | .atLeast => " >= "
  | .atMost => " <= "

variable {f : Filter} {o : Options}

theorem qualify_eq_columnText (o : Options) (field : String) :
    Sql.qualify o.tableAlias field = columnText o field := by
  unfold Sql.qualify columnText
  simp only [String.isEmpty_iff]

theorem literal_eq_valueText (f : Filter) (v : Item) : v.literal f.side = f.valueText v := by
  unfold valueText Item.literal
  cases f.side <;> rfl

theorem literals_eq (f : Filter) : f.literals = f.values.map f.valueText := by
  apply List.map_congr_left
  intro v _
  exact literal_eq_valueText f v

theorem joinLiterals_eq (f : Filter) : joinLiterals f.literals = f.listText := by
  rw [joinLiterals, literals_eq, listText]

/-! ## The test of the values -/

/-- How the values of a filter are written as a test of a column. -/
inductive ValuesText (o : Options) (f : Filter) (column : String) : String → Prop where
  /-- A list has every value, in their order. -/
  | listed (discrete : f.kind = .discrete) :
      ValuesText o f column (column ++ " IN (" ++ f.listText ++ ")")
  | bounded {v : Item} (range : f.kind = .range) (single : f.values = [v]) :
      ValuesText o f column (column ++ boundText f.bound ++ f.valueText v)
  /-- A range of more values has the earliest least and the earliest greatest one. -/
  | between {least greatest : Item} (range : f.kind = .range) (several : 2 ≤ f.values.length)
      (isLeast : Extent.IsEarliest
        (fun v => ∀ w ∈ f.values, Extent.KeyLE (f.collation o) f.side v w) f.values least)
      (isGreatest : Extent.IsEarliest
        (fun v => ∀ w ∈ f.values, Extent.KeyLE (f.collation o) f.side w v) f.values greatest) :
      ValuesText o f column
        (column ++ " BETWEEN " ++ f.valueText least ++ " AND " ++ f.valueText greatest)

/-- A comparison with one literal is no BETWEEN. -/
theorem bounded_ne_between {column l m n : String} (bound : Bound) :
    column ++ boundText bound ++ l ≠ column ++ " BETWEEN " ++ m ++ " AND " ++ n := by
  intro same
  have chars := congrArg String.toList same
  cases bound <;> simp [boundText, String.toList_append] at chars

/-- **A range is written as one comparison exactly when it has a single value.** -/
theorem ValuesText.single_iff {column text : String} (written : ValuesText o f column text)
    (range : f.kind = .range) :
    f.values.length = 1 ↔ ∃ l, text = column ++ boundText f.bound ++ l := by
  cases written with
  | listed discrete =>
      rw [range] at discrete
      cases discrete
  | bounded _ single => exact ⟨fun _ => ⟨_, rfl⟩, fun _ => by rw [single]; rfl⟩
  | between _ several =>
      constructor
      · intro single
        omega
      · rintro ⟨l, same⟩
        exact absurd same.symm (bounded_ne_between f.bound)

/-- **A range is written as BETWEEN exactly when it has two values or more.** -/
theorem ValuesText.several_iff {column text : String} (written : ValuesText o f column text)
    (range : f.kind = .range) :
    2 ≤ f.values.length ↔ ∃ m n, text = column ++ " BETWEEN " ++ m ++ " AND " ++ n := by
  cases written with
  | listed discrete =>
      rw [range] at discrete
      cases discrete
  | bounded _ single =>
      constructor
      · intro several
        simp [single] at several
      · rintro ⟨m, n, same⟩
        exact absurd same (bounded_ne_between f.bound)
  | between _ several => exact ⟨fun _ => ⟨_, _, rfl⟩, fun _ => several⟩

/-- **The condition of a filter's values** is written as the test of them. -/
theorem valuesText_operand {operand : Operand} {field : String} (made : f.operand o = .ok operand)
    (valued : f.values ≠ [])
    (valid : (Condition.ofOperand field o.tableAlias operand f.bound).isValid = true) :
    ValuesText o f (columnText o field)
      (Condition.ofOperand field o.tableAlias operand f.bound).render := by
  rw [Condition.render, if_pos valid]
  rcases operand_cases made with ⟨discrete, rfl⟩ | ⟨range, e, extent, rfl⟩
  · simp only [Condition.ofOperand, Condition.column, qualify_eq_columnText, joinLiterals_eq]
    exact .listed discrete
  · rcases values : f.values with _ | ⟨v, _ | ⟨second, rest⟩⟩
    · exact absurd values valued
    · rw [values] at extent
      cases extent
      have written : ValuesText o f (columnText o field)
          (columnText o field ++ boundText f.bound ++ f.valueText v) := .bounded range values
      have sign : boundText f.bound = " " ++ f.bound.sign ++ " " := by
        cases f.bound <;> rfl
      simp only [Condition.ofOperand, Condition.column, qualify_eq_columnText,
        literal_eq_valueText]
      simpa only [sign, String.append_assoc] using written
    · obtain ⟨least, greatest, covers, same⟩ := operand_span made range values
      cases same
      obtain ⟨isLeast, isGreatest⟩ := covers.isEarliest
      have several : 2 ≤ f.values.length := by simp [values]
      have written : ValuesText o f (columnText o field)
          (columnText o field ++ " BETWEEN " ++ f.valueText least ++ " AND " ++
            f.valueText greatest) := .between range several isLeast isGreatest
      simp only [Condition.ofOperand, Condition.column, qualify_eq_columnText,
        literal_eq_valueText, Extent.render]
      simpa only [String.append_assoc] using written

/-! ## The section -/

/-- The check for the absence of a value as it is written. -/
theorem render_nullSection (o : Options) (field : String) :
    (nullSection o field).render = columnText o field ++ " IS NULL" := by
  have valid := Condition.isValid_nullCheck field o.tableAlias false
  rw [nullSection, Section.render_ofCondition valid, Condition.render, if_pos valid]
  simp only [Condition.nullCheck, Condition.ofOperand, Condition.column, qualify_eq_columnText,
    nullKeyword]
  rw [String.append_assoc]
  rfl

/-- A test of the values as it is written, alone or with the check for the absence of a value. -/
theorem render_operandSection {field : String} {operand : Operand}
    (valid : (Condition.ofOperand field o.tableAlias operand f.bound).isValid = true) :
    (f.operandSection o field operand).render =
      if f.nulls = [] then (Condition.ofOperand field o.tableAlias operand f.bound).render
      else "(" ++ (Condition.ofOperand field o.tableAlias operand f.bound).render ++ " OR " ++
        columnText o field ++ " IS NULL)" := by
  unfold operandSection
  split
  · exact Section.render_ofCondition valid
  · have check : ((nullSection o field).withJoint .or).render =
        columnText o field ++ " IS NULL" := render_nullSection o field
    have checked : ((nullSection o field).withJoint .or).isValid = true := by simp
    rw [Section.render_push_ofCondition valid checked, check]
    simp only [nullSection, Section.ofCondition, Section.withJoint, Section.joint, Joint.keyword]
    simp only [String.append_assoc]
    rfl

/-- A filter without a column of its own fails by the name that the user knows. -/
theorem toSection_of_ambiguous (same : f.idColumn.isSome = f.valueColumn.isSome) :
    f.toSection o = .error (.ambiguousColumn f.display) := by
  rw [toSection, field_of_ambiguous same]
  rfl

/-- **A filter fails for its columns exactly when it declares both or neither.** -/
theorem toSection_ambiguous_iff (f : Filter) (o : Options) :
    (∃ display, f.toSection o = .error (.ambiguousColumn display)) ↔
      f.idColumn.isSome = f.valueColumn.isSome := by
  constructor
  · rintro ⟨display, failed⟩
    by_contra one
    obtain ⟨column, -, named⟩ := exists_column one
    obtain ⟨-, refused⟩ := (toSection_error_iff named).1 failed
    obtain ⟨_, _, _, _, _, same⟩ := Extent.exists_refused refused
    cases same
  · intro same
    exact ⟨_, toSection_of_ambiguous same⟩

/-- A filter on one column has a section when it has no values, or is a list. -/
theorem exists_section {field : String} (named : f.field = .ok field)
    (easy : f.values = [] ∨ f.kind = .discrete) : ∃ s, f.toSection o = .ok s := by
  rw [toSection_ok_iff named]
  intro range several
  rcases easy with empty | discrete
  · simp [empty] at several
  · rw [range] at discrete
    cases discrete

/-- How the section of a filter is written, by what was selected. -/
structure SectionText (o : Options) (f : Filter) (column : String) (s : Section) : Prop where
  /-- Only the absence of a value was selected. -/
  absence : f.values = [] → f.nulls ≠ [] → s.isValid = true ∧ s.render = column ++ " IS NULL"
  /-- Nothing was selected. -/
  nothing : f.values = [] → f.nulls = [] → s.isValid = false ∧ s.render = ""
  /-- Values were selected, but they make a list without a text. -/
  blank : f.values ≠ [] → f.kind = .discrete → Text.isBlankText f.listText = true →
    s.isValid = false ∧ s.render = ""
  /-- Values were selected, and possibly the absence of one as well. -/
  valued : f.values ≠ [] → (f.kind = .discrete → Text.isBlankText f.listText = false) →
    s.isValid = true ∧ ∃ test, ValuesText o f column test ∧
      (f.kind = .range →
        (f.values.length = 1 ↔ ∃ l, test = column ++ boundText f.bound ++ l) ∧
        (2 ≤ f.values.length ↔ ∃ m n, test = column ++ " BETWEEN " ++ m ++ " AND " ++ n)) ∧
      s.render = if f.nulls = [] then test else "(" ++ test ++ " OR " ++ column ++ " IS NULL)"

/-- A filter with nothing to test against has a section without a text. -/
theorem untested_toSection {s : Section} (built : f.toSection o = .ok s) (untested : ¬ f.HasTest) :
    s.isValid = false ∧ s.render = "" := by
  have invalid : ¬ s.isValid = true := mt (toSection_isValid_iff built).1 untested
  exact ⟨Bool.eq_false_iff.2 invalid, Section.render_eq_empty invalid⟩

/-- **The section of a filter on one column** is written as its selection asks. -/
theorem sectionText_toSection {field : String} (named : f.field = .ok field) {s : Section}
    (built : f.toSection o = .ok s) : SectionText o f (columnText o field) s := by
  constructor
  · intro empty nulled
    rw [toSection_eq named, if_pos ⟨empty, nulled⟩] at built
    cases built
    exact ⟨isValid_nullSection o field, render_nullSection o field⟩
  · intro empty alone
    apply untested_toSection built
    simp [HasTest, empty, alone]
  · intro valued discrete blank
    apply untested_toSection built
    simp [HasTest, valued, discrete, joinLiterals_eq, blank]
  · intro valued filled
    have tested : f.HasTest := by
      cases kind : f.kind with
      | discrete => exact .inr (.inr ⟨valued, kind, by rw [joinLiterals_eq, filled kind]⟩)
      | range => exact .inr (.inl ⟨valued, kind⟩)
    have valid := (toSection_isValid_iff built).2 tested
    rw [toSection_eq named, if_neg fun empty => valued empty.1] at built
    cases made : f.operand o with
    | error failure =>
        rw [made] at built
        cases built
    | ok operand =>
        rw [made] at built
        cases built
        have condition := valid
        rw [isValid_operandSection] at condition
        have written := valuesText_operand made valued condition
        exact ⟨valid, _, written,
          fun range => ⟨written.single_iff range, written.several_iff range⟩,
          render_operandSection condition⟩

/-- **How the section of a filter is written.** A filter fails for its columns exactly when it
declares both or neither, and then it does whatever its items are.  Otherwise it has a column; it
has a section when it has no values or is a list; and whenever it has a section, that is written
as the selection asks, on the column with the alias. -/
theorem toSection_spec (f : Filter) (o : Options) :
    ((∃ display, f.toSection o = .error (.ambiguousColumn display)) ↔
      f.idColumn.isSome = f.valueColumn.isSome) ∧
    (f.idColumn.isSome = f.valueColumn.isSome → ∀ items : List Item,
      { f with items := items }.toSection o = .error (.ambiguousColumn f.display)) ∧
    (f.idColumn.isSome ≠ f.valueColumn.isSome →
      ∃ column, (f.idColumn = some column ∨ f.valueColumn = some column) ∧
        (f.values = [] ∨ f.kind = .discrete → ∃ s, f.toSection o = .ok s) ∧
        ∀ s, f.toSection o = .ok s → SectionText o f (columnText o column.field) s) := by
  refine ⟨toSection_ambiguous_iff f o, ?_, ?_⟩
  · intro same items
    exact toSection_of_ambiguous (f := { f with items := items }) same
  · intro one
    obtain ⟨column, declared, named⟩ := exists_column one
    exact ⟨column, declared, exists_section named, fun s => sectionText_toSection named⟩

/-- A list of names, one of them twice, with the absence of a value twice among them. -/
def cities : Filter :=
  { idColumn := none
    valueColumn := some ⟨"City", "city"⟩
    items := [.ofText "-", .ofText "Bonn", ⟨"1", "Kiel", true, true⟩, .ofText "Ulm", .ofText "-",
      .ofText "Bonn"]
    required := false
    kind := .discrete
    valueType := .ordinal
    bound := .atLeast }

theorem toSection_spec_cities :
    cities.idColumn.isSome ≠ cities.valueColumn.isSome ∧ cities.kind = .discrete ∧
      cities.values ≠ [] ∧ Text.isBlankText cities.listText = false ∧
      ∃ s, cities.toSection { tableAlias := "t" } = .ok s ∧ s.isValid = true ∧
        s.render = "(t.city IN ('Bonn','Ulm','Bonn') OR t.city IS NULL)" := by
  have one : cities.idColumn.isSome ≠ cities.valueColumn.isSome := by decide
  have filled : Text.isBlankText cities.listText = false := by decide
  refine ⟨one, rfl, by decide, filled, ?_⟩
  obtain ⟨column, declared, succeeds, written⟩ :=
    (toSection_spec cities { tableAlias := "t" }).2.2 one
  obtain ⟨s, built⟩ := succeeds (.inr rfl)
  obtain ⟨valid, test, shape, -, text⟩ := (written s built).valued (by decide) fun _ => filled
  refine ⟨s, built, valid, ?_⟩
  rcases declared with missing | present
  · cases missing
  · cases present
    cases shape with
    | listed => rw [text]; decide
    | bounded range => cases range
    | between range => cases range

end WhereClause.Filter
