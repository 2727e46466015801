import WhereClause.Proofs.Filter.Meaning
import WhereClause.Proofs.Integer

/-!
# What a range over whole numbers covers

The literals of a numeric range are ordered by the binary numbers that they are rounded
to, while a database compares the literals themselves.  Above `2 ^ 53` two whole numbers
can be rounded to one, and the pass over the items then keeps the first of them: a value
can lie outside the range that is written for it (`range_excludes_value`).

That is the only way in which it can.  **A value outside the range is rounded to the same
number as the literal that it lies beyond**, and **whole numbers up to `2 ^ 53` are
covered** (`range_covers_rounded`).
-/

set_option autoImplicit false

namespace WhereClause

namespace Filter

/-- The whole number that an item stands for; zero when it stands for none. -/
def whole (f : Filter) (item : Item) : Int := (Collation.integer? (item.on f.side)).getD 0

/-- The number that an item is ordered by. -/
def rounded (f : Filter) (item : Item) : Option Binary64 := Collation.number? (item.on f.side)

variable {f : Filter} {o : Options}

/-- Of two whole numbers in the order of their numbers the first one is not larger, unless
they have one number. -/
theorem whole_le_or_rounded_eq {v w : Item}
    (wholeV : (Collation.integer? (v.on f.side)).isSome = true)
    (wholeW : (Collation.integer? (w.on f.side)).isSome = true)
    (ordered : Collation.numeric.precedes (v.on f.side) (w.on f.side) = true) :
    f.whole v ≤ f.whole w ∨ f.rounded v = f.rounded w := by
  obtain ⟨z, isZ⟩ := Option.isSome_iff_exists.1 wholeV
  obtain ⟨n, isN⟩ := Option.isSome_iff_exists.1 wholeW
  obtain ⟨x, y, numberX, numberY, keys⟩ := Collation.precedes_numeric ordered
  simp only [whole, rounded, isZ, isN, numberX, numberY, Option.getD_some, Option.some.injEq]
  rcases lt_or_ge n z with less | le
  · exact .inr (Collation.number?_eq_of_lt isN isZ numberY numberX keys less).symm
  · exact .inl le

/-- Whole numbers up to `2 ^ 53` in the order of their numbers are in order. -/
theorem whole_le_of_small {v w : Item}
    (wholeV : (Collation.integer? (v.on f.side)).isSome = true)
    (wholeW : (Collation.integer? (w.on f.side)).isSome = true)
    (ordered : Collation.numeric.precedes (v.on f.side) (w.on f.side) = true)
    (smallV : (f.whole v).natAbs ≤ 2 ^ 53) (smallW : (f.whole w).natAbs ≤ 2 ^ 53) :
    f.whole v ≤ f.whole w := by
  rcases whole_le_or_rounded_eq wholeV wholeW ordered with le | same
  · exact le
  · obtain ⟨z, isZ⟩ := Option.isSome_iff_exists.1 wholeV
    obtain ⟨n, isN⟩ := Option.isSome_iff_exists.1 wholeW
    obtain ⟨x, y, numberX, numberY, -⟩ := Collation.precedes_numeric ordered
    simp only [whole, rounded, isZ, isN, numberX, numberY, Option.getD_some,
      Option.some.injEq] at same smallV smallW ⊢
    subst same
    exact (Collation.integer_eq_of_number isZ isN numberX numberY smallV smallW).le

/-- The section of a range over two values or more: its condition is written with the
first least and the first greatest of them. -/
theorem render_primary_range (range : f.kind = .range) (several : 2 ≤ f.values.length)
    {s : Section} (built : f.toSection o = .ok s) :
    ∃ least greatest, Extent.Covers (f.collation o) f.side f.values (least, greatest) ∧
      s.primary.map Condition.render = some (Sql.qualify o.tableAlias f.fieldName ++ " BETWEEN " ++
        (least.literal f.side ++ " AND " ++ greatest.literal f.side)) := by
  cases values : f.values with
  | nil => simp [values] at several
  | cons first rest =>
      cases rest with
      | nil => simp [values] at several
      | cons second rest =>
          obtain ⟨field, named, ⟨empty, -⟩ | ⟨-, operand, made, rfl⟩⟩ := toSection_cases built
          · simp [values] at empty
          · obtain ⟨least, greatest, covers, rfl⟩ := operand_span made range values
            rw [values] at covers
            refine ⟨least, greatest, covers, ?_⟩
            rw [← fieldName_eq named]
            unfold operandSection
            split <;> rfl

/-- **A numeric range covers its whole numbers but for rounding.** Its literals are two of
the values, and a value lies beyond one of them only when both are rounded to one number;
whole numbers up to `2 ^ 53` are all covered. -/
theorem range_covers_rounded (range : f.kind = .range) (numeric : f.valueType = .numeric)
    (several : 2 ≤ f.values.length)
    (integers : ∀ v ∈ f.values, (Collation.integer? (v.on f.side)).isSome = true)
    {s : Section} (built : f.toSection o = .ok s) :
    ∃ least ∈ f.values, ∃ greatest ∈ f.values,
      s.primary.map Condition.render = some (Sql.qualify o.tableAlias f.fieldName ++ " BETWEEN " ++
        (least.literal f.side ++ " AND " ++ greatest.literal f.side)) ∧
      (∀ v ∈ f.values,
        (f.whole least ≤ f.whole v ∨ f.rounded least = f.rounded v) ∧
          (f.whole v ≤ f.whole greatest ∨ f.rounded v = f.rounded greatest)) ∧
      ((∀ v ∈ f.values, (f.whole v).natAbs ≤ 2 ^ 53) →
        ∀ v ∈ f.values, f.whole least ≤ f.whole v ∧ f.whole v ≤ f.whole greatest) := by
  obtain ⟨least, greatest, covers, text⟩ := render_primary_range range several built
  have collation : f.collation o = .numeric := by simp [Filter.collation, numeric]; rfl
  rw [collation] at covers
  obtain ⟨leastMember, before⟩ := Extent.first_spec covers.least
  obtain ⟨greatestMember, behind⟩ := Extent.first_spec covers.greatest
  refine ⟨least, leastMember, greatest, greatestMember, text, fun v here => ⟨?_, ?_⟩,
    fun small v here => ⟨?_, ?_⟩⟩
  · exact whole_le_or_rounded_eq (integers least leastMember) (integers v here) (before v here)
  · exact whole_le_or_rounded_eq (integers v here) (integers greatest greatestMember)
      (behind v here)
  · exact whole_le_of_small (integers least leastMember) (integers v here) (before v here)
      (small least leastMember) (small v here)
  · exact whole_le_of_small (integers v here) (integers greatest greatestMember) (behind v here)
      (small v here) (small greatest greatestMember)

/-- A numeric range over identifiers. -/
def numberRange (identifiers : List String) : Filter :=
  { idColumn := some ⟨"Number", "number"⟩
    valueColumn := none
    items := identifiers.map fun identifier => ⟨identifier, "", true, false⟩
    required := false
    kind := .range
    valueType := .numeric
    bound := .atLeast }

/-- The section of a numeric range over identifiers whose extremes are known. -/
theorem toSection_numberRange (identifiers : List String) (e : Extent)
    (valued : (numberRange identifiers).values ≠ [])
    (extent : Extent.ofItems .numeric .id (numberRange identifiers).values = .ok e) :
    (numberRange identifiers).toSection {} =
      .ok ((numberRange identifiers).operandSection {} "number" (.extent e)) := by
  have operand : (numberRange identifiers).operand {} = .ok (.extent e) := by
    simp only [Filter.operand, Operand.ofItems]
    exact congrArg (Except.map Operand.extent) extent
  rw [toSection_eq rfl, if_neg fun empty => valued empty.1, operand]
  rfl

/-- Numbers up to the last one that is still covered. -/
def boundary : Filter := numberRange ["9007199254740992", "-9007199254740991", "+8"]

theorem range_covers_rounded_boundary :
    ∃ s, boundary.toSection {} = .ok s ∧
      ∃ least ∈ boundary.values, ∃ greatest ∈ boundary.values,
        s.primary.map Condition.render =
            some ("number BETWEEN " ++ (least.id ++ " AND " ++ greatest.id)) ∧
          ∀ v ∈ boundary.values,
            boundary.whole least ≤ boundary.whole v ∧
              boundary.whole v ≤ boundary.whole greatest := by
  have built := toSection_numberRange ["9007199254740992", "-9007199254740991", "+8"]
    (.span 1 "-9007199254740991" "9007199254740992") (by decide) (by decide +kernel)
  obtain ⟨least, leastMember, greatest, greatestMember, text, -, covered⟩ :=
    range_covers_rounded rfl rfl (by decide) (by decide) built
  exact ⟨_, built, least, leastMember, greatest, greatestMember, text, covered (by decide)⟩

/-- Two neighbours above `2 ^ 53` that are rounded to one number. -/
def neighbours : Filter := numberRange ["9007199254740993", "9007199254740992"]

/-- The range of two such neighbours starts and ends with the first one, although the other
one is smaller. -/
theorem range_excludes_value :
    neighbours.kind = .range ∧ neighbours.valueType = .numeric ∧
      (∀ v ∈ neighbours.values, (Collation.integer? (v.on neighbours.side)).isSome = true) ∧
      ∃ s, neighbours.toSection {} = .ok s ∧
        s.primary.map Condition.render =
          some "number BETWEEN 9007199254740993 AND 9007199254740993" ∧
        ∃ v ∈ neighbours.values, neighbours.whole v < 9007199254740993 := by
  have built := toSection_numberRange ["9007199254740993", "9007199254740992"]
    (.span 0 "9007199254740993" "9007199254740993") (by decide) (by decide +kernel)
  refine ⟨rfl, rfl, by decide, _, built, by decide, ?_⟩
  exact ⟨⟨"9007199254740992", "", true, false⟩, by decide, by decide⟩

end Filter

end WhereClause
