import WhereClause.Proofs.Extent.Refusal
import WhereClause.Proofs.Filter.Section

/-!
# Which filters are refused for a literal

A filter that has a column has a section unless it is a range whose extent cannot be found
(`toSection_error_iff`).  So the declared type of a range is held against its literals only
where they are compared: **a filter is refused for a literal exactly when it is a range over
two values or more, one of which is not of the declared type**, and the refusal names such a
literal (`toSection_refused_iff`).

A range over one value is written whatever that value is (`toSection_wordBound`).
-/

set_option autoImplicit false

namespace WhereClause

namespace Filter

variable {o : Options} {f : Filter} {failure : Failure}

/-- The operand of a filter fails as the extent of a range does; a list never fails. -/
theorem operand_error_iff :
    f.operand o = .error failure ↔
      f.kind = .range ∧ Extent.ofItems (f.collation o) f.side f.values = .error failure := by
  unfold operand Operand.ofItems
  cases kind : f.kind with
  | discrete => simp [Kind.shape]
  | range =>
      cases Extent.ofItems (f.collation o) f.side f.values <;> simp [Kind.shape, Except.map]

/-- **A filter that has a column fails as the extent of a range does.**  Without values there is
nothing to compare, and the extent is found. -/
theorem toSection_error_iff {field : String} (named : f.field = .ok field) :
    f.toSection o = .error failure ↔
      f.kind = .range ∧ Extent.ofItems (f.collation o) f.side f.values = .error failure := by
  rw [toSection_eq named, ← operand_error_iff]
  split
  · next alone =>
      have extent : f.operand o ≠ .error failure := by
        rw [Ne, operand_error_iff, alone.1]
        simp [Extent.ofItems]
      simp [extent]
  · cases f.operand o <;> simp [Except.map]

/-- A filter that has a column has a section exactly when all the literals that it compares
are of the declared type. -/
theorem toSection_ok_iff {field : String} (named : f.field = .ok field) :
    (∃ s, f.toSection o = .ok s) ↔
      (f.kind = .range → 2 ≤ f.values.length →
        ∀ v ∈ f.values, (f.collation o).accepts (v.on f.side) = true) := by
  have fails : (∃ failure, f.toSection o = .error failure) ↔ f.kind = .range ∧
      2 ≤ f.values.length ∧ ∃ v ∈ f.values, (f.collation o).accepts (v.on f.side) = false := by
    simp only [toSection_error_iff named, exists_and_left, Extent.ofItems_fails_iff]
  have excluded : (∃ s, f.toSection o = .ok s) ↔ ¬ ∃ failure, f.toSection o = .error failure := by
    cases f.toSection o <;> simp
  rw [excluded, fails]
  simp

/-- A filter that is refused for a literal has a column, and is a range whose extent is not
found. -/
theorem of_toSection_invalidLiteral {text : String} {wanted : Wanted}
    (refused : f.toSection o = .error (.invalidLiteral text wanted)) :
    (∃ field, f.field = .ok field) ∧ f.kind = .range ∧
      Extent.ofItems (f.collation o) f.side f.values = .error (.invalidLiteral text wanted) := by
  by_cases same : f.idColumn.isSome = f.valueColumn.isSome
  · rw [toSection, field_of_ambiguous same] at refused
    cases refused
  · obtain ⟨field, named⟩ := exists_field_iff.2 same
    exact ⟨⟨field, named⟩, (toSection_error_iff named).1 refused⟩

/-- **Which filters are refused for a literal:** ranges over two values or more, one of which
is not of the declared type.  The refusal names such a literal and says what it had to be. -/
theorem toSection_refused_iff (o : Options) (f : Filter) :
    ((∃ text wanted, f.toSection o = .error (.invalidLiteral text wanted)) ↔
      (∃ field, f.field = .ok field) ∧ f.kind = .range ∧ 2 ≤ f.values.length ∧
        ∃ v ∈ f.values, (f.collation o).accepts (v.on f.side) = false) ∧
    ∀ text wanted, f.toSection o = .error (.invalidLiteral text wanted) →
      (f.collation o).wanted? = some wanted ∧ (f.collation o).accepts text = false ∧
        ∃ v ∈ f.values, v.on f.side = text := by
  refine ⟨⟨?_, ?_⟩, fun text wanted refused => ?_⟩
  · rintro ⟨text, wanted, refused⟩
    obtain ⟨named, range, failed⟩ := of_toSection_invalidLiteral refused
    exact ⟨named, range, Extent.ofItems_fails_iff.1 ⟨_, failed⟩⟩
  · rintro ⟨⟨field, named⟩, range, rejected⟩
    obtain ⟨failure, failed⟩ := Extent.ofItems_fails_iff.2 rejected
    obtain ⟨v, -, -, wanted, -, rfl⟩ := Extent.exists_refused failed
    exact ⟨v.on f.side, wanted, (toSection_error_iff named).2 ⟨range, failed⟩⟩
  · obtain ⟨-, -, failed⟩ := of_toSection_invalidLiteral refused
    obtain ⟨v, here, rejected, wanted', expected, same⟩ := Extent.exists_refused failed
    cases same
    exact ⟨expected, rejected, v, here, rfl⟩

/-- A numeric range over one identifier that is no number. -/
def wordBound : Filter :=
  { idColumn := some ⟨"Amount", "amount"⟩
    valueColumn := none
    items := [.ofText "ten"]
    required := false
    kind := .range
    valueType := .numeric
    bound := .atLeast }

/-- A single value is written into a range although it is not of the declared type. -/
theorem toSection_wordBound :
    wordBound.field = .ok "amount" ∧ wordBound.kind = .range ∧ wordBound.valueType = .numeric ∧
      (∃ v ∈ wordBound.values, Collation.number? (v.on wordBound.side) = none) ∧
      ∃ s, wordBound.toSection {} = .ok s ∧ s.isValid = true ∧ s.render = "amount >= ten" :=
  ⟨rfl, rfl, rfl, ⟨.ofText "ten", by decide, by decide⟩, _, rfl, by decide, by decide⟩

end Filter

end WhereClause
