import WhereClause.Proofs.Collation
import WhereClause.Proofs.Compile.Validity
import WhereClause.Proofs.Filter.Meaning
import WhereClause.Proofs.Filter.Reordering

/-!
# Blank literals in valid clauses

Whether a list has something to test against is asked of its joined text, in which the commas
count, and of a range only the number of its values is asked.  So a clause can be valid and
still hold a literal that is blank (`body_blankRegions`).

It takes an identifier, since the literals of values have their quotes, and it has to pass the
comparison with the others, which numbers and dates do not.  **A valid clause is written with
a blank literal exactly when one of its filters lists a blank identifier among others, is a
range over a blank identifier alone, or is a range of texts with a blank identifier as an
extreme** (`exists_blank_operand_iff`).
-/

set_option autoImplicit false

namespace WhereClause

open Sql

/-! ## The literals that are written -/

/-- The literals that a condition is written with. -/
def Condition.operands (c : Condition) : List String := c.predicate.comparison.literals

namespace Section

mutual
/-- The literals that a section is written with. -/
def operands : Section → List String
  | .mk primary _ children => primary.elim [] Condition.operands ++ allOperands children

/-- The literals that the sections of a row are written with. -/
def allOperands : List (Option Section) → List String
  | [] => []
  | none :: rest => allOperands rest
  | some child :: rest => child.operands ++ allOperands rest
end

end Section

/-- The literals that a clause is written with. -/
def Clause.operands (c : Clause) : List String :=
  c.entries.flatMap fun (_, s) => s.elim [] Section.operands

/-- The literal of an item is blank only on the identifier side: a value has its quotes. -/
theorem Item.isBlankText_literal {v : Item} {side : Side} :
    Text.isBlankText (v.literal side) = true ↔ side = .id ∧ Text.isBlankText v.id = true := by
  cases side with
  | id => simp [Item.literal, Side.literal, Sql.bare, Item.on]
  | value =>
      have quote : Text.isBlank '\'' = false := by decide
      simp [Item.literal, Side.literal, Sql.quoted, Text.isBlankText, quote]

namespace Filter

variable {o : Options} {f : Filter}

/-- The check for the absence of a value adds no literal. -/
theorem operands_operandSection (field : String) (operand : Operand) :
    (f.operandSection o field operand).operands =
      (Condition.ofOperand field o.tableAlias operand f.bound).operands := by
  unfold operandSection
  split
  · simp [Section.ofCondition, Section.operands, Section.allOperands]
  · simp [Section.ofCondition, Section.push, Section.operands, Section.allOperands, nullSection,
      Section.withJoint, Condition.nullCheck, Condition.ofOperand, Condition.operands,
      Condition.predicate, Condition.comparison, Comparison.literals]

/-- A section is written with the literals of the comparison that its filter's values stand
for. -/
theorem operands_toSection (tested : f.HasTest) {s : Section} (built : f.toSection o = .ok s) :
    s.operands = (f.comparison o).literals := by
  obtain ⟨field, -, ⟨empty, -, rfl⟩ | ⟨filled, operand, made, rfl⟩⟩ := toSection_cases built
  · have nothing : (f.comparison o).literals = [] := by
      simp [comparison, literals, empty, Comparison.literals]
    rw [nothing]
    rfl
  · have valued : f.values ≠ [] := fun empty => filled ⟨empty, tested.nulls_ne_nil empty⟩
    rw [operands_operandSection, ← comparison_operand made valued field]
    rfl

/-! ## Blank literals of one filter -/

/-- Whether a filter is written with a blank literal: it lists a blank identifier among
others, is a range over a blank identifier alone, or is a range of texts with a blank
identifier as an extreme. -/
def WritesBlank (f : Filter) : Prop :=
  f.side = .id ∧ ∃ v ∈ f.values, Text.isBlankText v.id = true ∧
    match f.kind with
    | .discrete => 2 ≤ f.values.length
    | .range => f.values.length = 1 ∨ (f.valueType = .ordinal ∧
        (Extent.IsExtreme (Extent.before .ordinal .id) f.values v ∨
          Extent.IsExtreme (Extent.behind .ordinal .id) f.values v))

/-- A blank literal of a list that has something to test against is not the only one. -/
theorem several_of_blank (tested : f.HasTest) (listed : f.kind = .discrete) {v : Item}
    (here : v ∈ f.values) (blank : Text.isBlankText (v.literal f.side) = true) :
    2 ≤ f.values.length := by
  by_contra few
  have alone : f.values = [v] := by
    match values : f.values with
    | [] => simp [values] at here
    | [w] => simpa [values, eq_comm] using here
    | _ :: _ :: _ => simp [values] at few
  have joined : joinLiterals f.literals = v.literal f.side := by
    simp [literals, alone, joinLiterals]
  exact not_hasTest_of_blank listed (by simp [alone]) (by rw [joined, blank]) tested

/-- A list that has something to test against holds a blank literal only among others. -/
theorem exists_blank_listed (tested : f.HasTest) (listed : f.kind = .discrete) :
    (∃ l ∈ (f.comparison o).literals, Text.isBlankText l = true) ↔ f.WritesBlank := by
  have written : (f.comparison o).literals = f.literals := by
    simp [comparison, listed, Comparison.literals]
  rw [written]
  constructor
  · rintro ⟨l, here, blank⟩
    obtain ⟨v, member, rfl⟩ := List.mem_map.1 here
    obtain ⟨side, blankToo⟩ := Item.isBlankText_literal.1 blank
    refine ⟨side, v, member, blankToo, ?_⟩
    rw [listed]
    exact several_of_blank tested listed member blank
  · rintro ⟨side, v, here, blank, -⟩
    exact ⟨v.literal f.side, List.mem_map.2 ⟨v, here, rfl⟩,
      Item.isBlankText_literal.2 ⟨side, blank⟩⟩

/-- A range over one value holds a blank literal exactly when the value is a blank
identifier. -/
theorem exists_blank_bounded (range : f.kind = .range) {v : Item} (values : f.values = [v]) :
    (∃ l ∈ (f.comparison o).literals, Text.isBlankText l = true) ↔ f.WritesBlank := by
  have written : (f.comparison o).literals = [v.literal f.side] := by
    simp [comparison, range, values, Comparison.literals]
  simp [written, WritesBlank, Item.isBlankText_literal, values, range]

/-- A range over two values or more holds a blank literal exactly when its values are texts,
one of the extremes of which is a blank identifier. -/
theorem exists_blank_between (range : f.kind = .range) {operand : Operand}
    (made : f.operand o = .ok operand) {first second : Item} {rest : List Item}
    (values : f.values = first :: second :: rest) :
    (∃ l ∈ (f.comparison o).literals, Text.isBlankText l = true) ↔ f.WritesBlank := by
  obtain ⟨least, greatest, covers, -⟩ := operand_span made range values
  have spanned : f.comparison o =
      .between (f.extremeLiteral (Extent.before (f.collation o) f.side))
        (f.extremeLiteral (Extent.behind (f.collation o) f.side)) := by
    simp [comparison, range, values]
  have written : (f.comparison o).literals = [least.literal f.side, greatest.literal f.side] := by
    simp [spanned, extremeLiteral, covers.least, covers.greatest, Comparison.literals]
  have isLeast := Extent.isExtreme_first covers.least
  have isGreatest := Extent.isExtreme_first covers.greatest
  have several : f.values.length ≠ 1 := by simp [values]
  simp only [written, List.mem_cons, List.not_mem_nil, or_false, exists_eq_or_imp, exists_eq_left,
    Item.isBlankText_literal, WritesBlank, range, several, false_or]
  constructor
  · rintro (⟨side, blank⟩ | ⟨side, blank⟩)
    · have ordinal := Collation.eq_ordinal_of_precedes (isLeast.2 least isLeast.1) (by rwa [side])
      rw [ordinal, side] at isLeast
      exact ⟨side, least, isLeast.1, blank, collation_eq_ordinal_iff.1 ordinal, .inl isLeast⟩
    · have ordinal := Collation.eq_ordinal_of_precedes (isGreatest.2 greatest isGreatest.1)
        (by rwa [side])
      rw [ordinal, side] at isGreatest
      exact ⟨side, greatest, isGreatest.1, blank, collation_eq_ordinal_iff.1 ordinal,
        .inr isGreatest⟩
  · rintro ⟨side, v, here, blank, ordinal, extreme⟩
    have spelled : f.SpelledOnce o := spelledOnce_of_ordinal ordinal
    have literal : Text.isBlankText (v.literal f.side) = true :=
      Item.isBlankText_literal.2 ⟨side, blank⟩
    have collation : f.collation o = .ordinal := collation_eq_ordinal_iff.2 ordinal
    rcases extreme with extreme | extreme
    · left
      rw [← Item.isBlankText_literal, ← spelled.least v least (by rwa [collation, side]) isLeast]
      exact literal
    · right
      rw [← Item.isBlankText_literal,
        ← spelled.greatest v greatest (by rwa [collation, side]) isGreatest]
      exact literal

/-- The section of a filter that has something to test against holds a blank literal exactly
when the filter writes one. -/
theorem exists_blank_toSection (tested : f.HasTest) {s : Section}
    (built : f.toSection o = .ok s) :
    (∃ l ∈ s.operands, Text.isBlankText l = true) ↔ f.WritesBlank := by
  rw [operands_toSection tested built]
  cases kind : f.kind with
  | discrete => exact exists_blank_listed tested kind
  | range =>
      match values : f.values with
      | [] =>
          simp [comparison, literals, values, WritesBlank, Comparison.literals]
      | [v] => exact exists_blank_bounded kind values
      | first :: second :: rest =>
          obtain ⟨field, -, ⟨empty, -⟩ | ⟨-, operand, made, -⟩⟩ := toSection_cases built
          · simp [values] at empty
          · exact exists_blank_between kind made values

end Filter

/-! ## Blank literals of a clause -/

/-- The literals of a compiled clause are those of the sections that its filters have. -/
theorem mem_operands_compile {filters : List Filter} {o : Options} {c : Clause}
    (compiled : compile filters o = .ok c) {l : String} :
    l ∈ c.operands ↔
      ∃ f ∈ filters, f.isRegistered = true ∧ l ∈ (f.builtSection o).operands := by
  obtain ⟨-, entries⟩ := (compile_ok_iff filters o c).1 compiled
  have added (f : Filter) : (∃ entry ∈ f.additions o, l ∈ entry.2.elim [] Section.operands) ↔
      f.isRegistered = true ∧ l ∈ (f.builtSection o).operands := by
    unfold Filter.additions
    cases f.isRegistered
    · simp
    · cases f.isTwin o <;> simp
  simp only [Clause.operands, entries, List.flatMap_assoc, List.mem_flatMap, added]

/-- **When a valid clause holds a blank literal:** exactly when one of its filters writes
one. -/
theorem exists_blank_operand_iff {filters : List Filter} {o : Options} {c : Clause}
    (compiled : compile filters o = .ok c) (valid : c.isValid = true) :
    (∃ l ∈ c.operands, Text.isBlankText l = true) ↔ ∃ f ∈ filters, f.WritesBlank := by
  obtain ⟨usable, -⟩ := (compile_ok_iff filters o c).1 compiled
  have tested := ((isValid_iff_of_compile compiled).1 valid).2
  have written (f : Filter) (here : f ∈ filters) (registered : f.isRegistered = true) :=
    Filter.exists_blank_toSection (tested f here registered)
      ((usable f here).toSection registered)
  constructor
  · rintro ⟨l, here, blank⟩
    obtain ⟨f, member, registered, within⟩ := (mem_operands_compile compiled).1 here
    exact ⟨f, member, (written f member registered).1 ⟨l, within, blank⟩⟩
  · rintro ⟨f, member, writes⟩
    have valued : f.values ≠ [] := by
      obtain ⟨-, v, valued, -⟩ := writes
      exact List.ne_nil_of_mem valued
    have registered := Filter.isRegistered_of_values valued
    obtain ⟨l, within, blank⟩ := (written f member registered).2 writes
    exact ⟨l, (mem_operands_compile compiled).2 ⟨f, member, registered, within⟩, blank⟩

/-- A filter over some identifiers of regions. -/
def regionsBy (kind : Kind) (identifiers : List String) : Filter :=
  { idColumn := some ⟨"Region", "region_id"⟩
    valueColumn := none
    items := identifiers.map Item.ofText
    required := false
    kind := kind
    valueType := .ordinal
    bound := .atLeast }

theorem exists_blank_operand_regions :
    ∃ c, compile [sinceYear, regionsBy .discrete ["7", " ", "9"]] {} = .ok c ∧
      c.isValid = true ∧ ∃ l ∈ c.operands, Text.isBlankText l = true := by
  have compiled : ∃ c, compile [sinceYear, regionsBy .discrete ["7", " ", "9"]] {} = .ok c ∧
      c.isValid = true := ⟨_, rfl, by decide⟩
  obtain ⟨c, compiled, valid⟩ := compiled
  refine ⟨c, compiled, valid, (exists_blank_operand_iff compiled valid).2 ?_⟩
  have among : 2 ≤ (regionsBy .discrete ["7", " ", "9"]).values.length := by decide
  exact ⟨regionsBy .discrete ["7", " ", "9"], by simp, rfl, .ofText " ", by decide, by decide,
    among⟩

/-- A list of empty identifiers, and a range over an empty one, are valid. -/
theorem body_blankRegions :
    (∃ c, compile [regionsBy .discrete ["", ""]] {} = .ok c ∧ c.isValid = true ∧
      c.operands = ["", ""] ∧ c.body = "region_id IN (,) ") ∧
    ∃ c, compile [regionsBy .range [""]] {} = .ok c ∧ c.isValid = true ∧
      c.operands = [""] ∧ c.body = "region_id >=  " :=
  ⟨⟨_, rfl, by decide, by decide, by decide⟩, ⟨_, rfl, by decide, by decide, by decide⟩⟩

end WhereClause
