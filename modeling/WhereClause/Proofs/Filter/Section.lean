import WhereClause.Compile

/-!
# The section of one filter

The active items of a filter are parted into those that stand for the absence of a
value and the others, its values.  A filter whose only active items stand for the
absence of a value has the check for it as its section.  Any other has its values as an
operand, and the check joined by OR when it was selected as well (`toSection_eq`).

The section is valid exactly when the filter has something to test against
(`toSection_isValid_iff`): a list counts by its joined text, a range by its number of
values.
-/

set_option autoImplicit false

namespace WhereClause

namespace Extent

/-- An extent counts all the items that it was made of. -/
theorem count_ofItems {collation : Collation} {side : Side} {items : List Item} {e : Extent}
    (made : ofItems collation side items = .ok e) : e.count = items.length := by
  cases items with
  | nil =>
      cases made
      rfl
  | cons first rest =>
      cases rest with
      | nil =>
          cases made
          rfl
      | cons second rest =>
          simp only [ofItems] at made
          cases found : extremes collation side first (second :: rest) with
          | error failure =>
              rw [found] at made
              cases made
          | ok pair =>
              rw [found] at made
              cases made
              rfl

end Extent

namespace Filter

/-- The active items that stand for the absence of a value. -/
def nulls (f : Filter) : List Item := f.active.filter fun item => item.isNull f.side

/-- The active items that have a value. -/
def values (f : Filter) : List Item := f.active.filter fun item => !item.isNull f.side

/-- The values as literals of the clause. -/
def literals (f : Filter) : List String := f.values.map fun item => item.literal f.side

/-- The order of a filter's literals. -/
def collation (f : Filter) (o : Options) : Collation := .ofValueType f.valueType o.dateFormat

/-- The operand of a filter's values. -/
def operand (f : Filter) (o : Options) : Except Failure Operand :=
  Operand.ofItems f.kind.shape (f.collation o) f.side f.values

/-- What the values of a filter make: the list of their literals, or the extent of them
when they can be ordered. -/
theorem operand_cases {f : Filter} {o : Options} {operand : Operand}
    (made : f.operand o = .ok operand) :
    (f.kind = .discrete ∧ operand = .list f.literals) ∨
      (f.kind = .range ∧ ∃ e, Extent.ofItems (f.collation o) f.side f.values = .ok e ∧
        operand = .extent e) := by
  unfold Filter.operand Operand.ofItems at made
  cases kind : f.kind with
  | discrete =>
      rw [kind] at made
      cases made
      exact .inl ⟨rfl, rfl⟩
  | range =>
      rw [kind] at made
      cases extent : Extent.ofItems (f.collation o) f.side f.values with
      | error failure => simp [Kind.shape, extent, Except.map] at made
      | ok e =>
          simp only [Kind.shape, extent, Except.map, Except.ok.injEq] at made
          exact .inr ⟨rfl, e, rfl, made.symm⟩

/-- The section of the check for the absence of a value. -/
def nullSection (o : Options) (field : String) : Section :=
  .ofCondition (.nullCheck field o.tableAlias false)

/-- The section of an operand, with the check for the absence of a value when that was
selected as well. -/
def operandSection (f : Filter) (o : Options) (field : String) (operand : Operand) : Section :=
  let s := Section.ofCondition (.ofOperand field o.tableAlias operand f.bound)
  if f.nulls = [] then s else s.push (some ((nullSection o field).withJoint .or))

/-- **The section of a filter** that has a column: the check alone, or that of its
operand, which fails as the operand does. -/
theorem toSection_eq {f : Filter} {o : Options} {field : String} (named : f.field = .ok field) :
    f.toSection o =
      if f.values = [] ∧ f.nulls ≠ [] then .ok (nullSection o field)
      else (f.operand o).map (f.operandSection o field) := by
  have split : f.active.partition (fun item => item.isNull f.side) = (f.nulls, f.values) := by
    rw [List.partition_eq_filter_filter]
    rfl
  have fails : (f.operand o).map (f.operandSection o field) =
      (f.literalSection o field f.values).map fun s =>
        if f.nulls = [] then s else s.push (some ((nullSection o field).withJoint .or)) := by
    rw [literalSection, operand, Filter.collation]
    cases Operand.ofItems f.kind.shape (.ofValueType f.valueType o.dateFormat) f.side f.values <;>
      rfl
  rw [fails]
  simp only [toSection, named, split, bind, Except.bind, List.isEmpty_iff, nullSection]
  split
  · rfl
  · cases f.literalSection o field f.values <;> rfl

/-- What a filter that has a section compiles to. -/
theorem toSection_cases {f : Filter} {o : Options} {s : Section} (built : f.toSection o = .ok s) :
    ∃ field, f.field = .ok field ∧
      ((f.values = [] ∧ f.nulls ≠ [] ∧ s = nullSection o field) ∨
        (¬ (f.values = [] ∧ f.nulls ≠ []) ∧ ∃ operand, f.operand o = .ok operand ∧
          s = f.operandSection o field operand)) := by
  cases named : f.field with
  | error failure =>
      simp only [toSection, named, bind, Except.bind] at built
      cases built
  | ok field =>
      refine ⟨field, rfl, ?_⟩
      rw [toSection_eq named] at built
      split at built
      · next alone =>
          cases built
          exact .inl ⟨alone.1, alone.2, rfl⟩
      · next valued =>
          cases made : f.operand o with
          | error failure =>
              rw [made] at built
              cases built
          | ok operand =>
              rw [made] at built
              cases built
              exact .inr ⟨valued, operand, rfl, rfl⟩

/-! ## Validity -/

/-- Whether a filter has something to test against: only the absence of a value, or
values, which count by their joined text when they are listed. -/
def HasTest (f : Filter) : Prop :=
  (f.values = [] ∧ f.nulls ≠ []) ∨ (f.values ≠ [] ∧ f.kind = .range) ∨
    (f.values ≠ [] ∧ f.kind = .discrete ∧
      Text.isBlankText (joinLiterals f.literals) = false)

@[simp]
theorem isValid_nullSection (o : Options) (field : String) :
    (nullSection o field).isValid = true := by
  simp [nullSection]

/-- The check for the absence of a value never makes a section invalid. -/
theorem isValid_operandSection (f : Filter) (o : Options) (field : String) (operand : Operand) :
    (f.operandSection o field operand).isValid =
      (Condition.ofOperand field o.tableAlias operand f.bound).isValid := by
  unfold operandSection
  split
  · exact Section.isValid_ofCondition _
  · simp

/-- The joined text of no literals is blank. -/
theorem isBlankText_joinLiterals_nil : Text.isBlankText (joinLiterals []) = true := rfl

/-- **A section is valid exactly when its filter has something to test against.** -/
theorem toSection_isValid_iff {f : Filter} {o : Options} {s : Section}
    (built : f.toSection o = .ok s) : s.isValid = true ↔ f.HasTest := by
  obtain ⟨field, -, ⟨empty, nulled, rfl⟩ | ⟨valued, operand, made, rfl⟩⟩ := toSection_cases built
  · simp [HasTest, empty, nulled]
  · rw [isValid_operandSection]
    rcases operand_cases made with ⟨listed, rfl⟩ | ⟨range, e, extent, rfl⟩
    · simp only [Condition.ofOperand, Condition.isValid, HasTest, listed, Bool.not_eq_true']
      constructor
      · intro filled
        refine .inr (.inr ⟨fun empty => ?_, trivial, filled⟩)
        rw [literals, empty, List.map_nil, isBlankText_joinLiterals_nil] at filled
        cases filled
      · rintro (⟨empty, nulled⟩ | ⟨-, ⟨⟩⟩ | ⟨-, -, filled⟩)
        · exact absurd ⟨empty, nulled⟩ valued
        · exact filled
    · have count : e.count = f.values.length := Extent.count_ofItems extent
      simp only [Condition.ofOperand, Condition.isValid, HasTest, range, count, bne_iff_ne]
      constructor
      · intro counted
        exact .inr (.inl ⟨fun empty => counted (by simp [empty]), trivial⟩)
      · rintro (⟨empty, nulled⟩ | ⟨nonempty, -⟩ | ⟨-, ⟨⟩, -⟩)
        · exact absurd ⟨empty, nulled⟩ valued
        · simpa using nonempty

end Filter

end WhereClause
