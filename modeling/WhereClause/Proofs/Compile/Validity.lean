import WhereClause.Proofs.Compile.Registration
import WhereClause.Proofs.Filter.Section

/-!
# When the clause of some filters is valid

A clause is valid when it has sections and all of them are.  Filters that do not take
part have none, and the second section of the filter that was changed last is the first
one again, so neither the mode nor the order of the filters matters.

**The clause of some filters is valid exactly when one of them takes part and every one
that does has something to test against** (`isValid_iff_of_compile`).
-/

set_option autoImplicit false

namespace WhereClause

namespace Filter

variable {o : Options} {f : Filter}

/-- A filter adds something exactly when it takes part. -/
theorem additions_eq_nil : f.additions o = [] ↔ f.isRegistered = false := by
  unfold additions
  cases f.isRegistered <;> simp

/-- What a filter adds is valid when its section is: the second section is the first one
again. -/
theorem additions_all_isValid :
    ((f.additions o).all fun (_, s) => s.any Section.isValid) = true ↔
      (f.isRegistered = true → (f.builtSection o).isValid = true) := by
  unfold additions
  cases f.isRegistered
  · simp
  · cases f.isTwin o <;> simp

/-- A filter with a value takes part. -/
theorem isRegistered_of_values (valued : f.values ≠ []) : f.isRegistered = true := by
  obtain ⟨item, here⟩ := List.exists_mem_of_ne_nil _ valued
  have active : item ∈ f.active := (List.mem_filter.1 here).1
  have both := List.mem_filter.1 active
  have selected : f.hasActive = true := List.any_eq_true.2 ⟨item, both.1, both.2⟩
  simp [isRegistered, selected]

/-- A filter without active items has nothing to test against. -/
theorem not_hasTest_of_active (empty : f.active = []) : ¬ f.HasTest := by
  simp [HasTest, values, nulls, empty]

/-- Listed values whose joined text is blank are nothing to test against, whether the
absence of a value was selected as well or not. -/
theorem not_hasTest_of_blank (listed : f.kind = .discrete) (valued : f.values ≠ [])
    (blank : Text.isBlankText (joinLiterals f.literals) = true) :
    ¬ f.HasTest := by
  simp [HasTest, listed, valued, blank]

end Filter

/-- A compiled clause is valid exactly when some filter takes part and every filter that
does has something to test against. -/
theorem isValid_iff_of_compile {filters : List Filter} {o : Options} {c : Clause}
    (compiled : compile filters o = .ok c) :
    c.isValid = true ↔ (∃ f ∈ filters, f.isRegistered = true) ∧
      ∀ f ∈ filters, f.isRegistered = true → f.HasTest := by
  obtain ⟨usable, entries⟩ := (compile_ok_iff filters o c).1 compiled
  have filled : c.entries.isEmpty = false ↔ ∃ f ∈ filters, f.isRegistered = true := by
    simp [entries, Filter.additions_eq_nil]
  have tested (f : Filter) (here : f ∈ filters) (registered : f.isRegistered = true) :
      (f.builtSection o).isValid = true ↔ f.HasTest :=
    Filter.toSection_isValid_iff ((usable f here).toSection registered)
  have all : (c.entries.all fun (_, s) => s.any Section.isValid) = true ↔
      ∀ f ∈ filters, f.isRegistered = true → f.HasTest := by
    rw [entries, List.all_flatMap, List.all_eq_true]
    refine forall₂_congr fun f here => ?_
    rw [Filter.additions_all_isValid]
    exact forall_congr' (tested f here)
  rw [Clause.isValid, Bool.and_eq_true, Bool.not_eq_true', filled, all]

/-- **The validity of a compiled clause.** It is valid exactly when some filter takes part
and every filter that does has something to test against.  So a required filter without
active items makes it invalid, and so do listed values whose joined text is blank. -/
theorem isValid_compile_iff {filters : List Filter} {o : Options} {c : Clause}
    (compiled : compile filters o = .ok c) :
    (c.isValid = true ↔ (∃ f ∈ filters, f.isRegistered = true) ∧
      ∀ f ∈ filters, f.isRegistered = true → f.HasTest) ∧
    (∀ f ∈ filters, f.required = true → f.active = [] → c.isValid = false) ∧
    (∀ f ∈ filters, f.kind = .discrete → f.values ≠ [] →
      Text.isBlankText (joinLiterals f.literals) = true → c.isValid = false) := by
  have whole := isValid_iff_of_compile compiled
  refine ⟨whole, fun f here required empty => ?_, fun f here listed valued blank => ?_⟩
  · rw [Bool.eq_false_iff]
    intro valid
    have registered : f.isRegistered = true := by simp [Filter.isRegistered, required]
    exact Filter.not_hasTest_of_active empty ((whole.1 valid).2 f here registered)
  · rw [Bool.eq_false_iff]
    intro valid
    exact Filter.not_hasTest_of_blank listed valued blank
      ((whole.1 valid).2 f here (Filter.isRegistered_of_values valued))

/-- A list over identifiers whose only identifier is empty, with the absence of a value
selected as well. -/
def blankList : Filter :=
  { idColumn := some ⟨"Region", "region_id"⟩
    valueColumn := none
    items := [⟨"", "North", true, false⟩, ⟨"-", "None", true, false⟩]
    required := false
    kind := .discrete
    valueType := .ordinal
    bound := .atLeast }

/-- A range with one value. -/
def sinceYear : Filter :=
  { idColumn := none
    valueColumn := some ⟨"Year", "year"⟩
    items := [⟨"7", "2020", true, false⟩, ⟨"8", "2021", true, true⟩]
    required := true
    kind := .range
    valueType := .numeric
    bound := .atLeast }

theorem isValid_compile_blankList :
    ∃ c d, compile [sinceYear] {} = .ok c ∧ c.isValid = true ∧
      compile [sinceYear, blankList] {} = .ok d ∧ blankList.nulls ≠ [] ∧ d.isValid = false := by
  have first : compile [sinceYear] {} =
      .ok ⟨[(.conjunct, some (.ofCondition ⟨"year", "", .within (.single "'2020'") .atLeast⟩))]⟩ :=
    rfl
  have second : compile [sinceYear, blankList] {} =
      .ok ⟨[(.conjunct, some (.ofCondition ⟨"year", "", .within (.single "'2020'") .atLeast⟩)),
        (.conjunct, some (.mk (some ⟨"region_id", "", .oneOf [""]⟩) .and
          [some (.mk (some ⟨"region_id", "", .is "NULL"⟩) .or [])]))]⟩ :=
    rfl
  have tested : sinceYear.HasTest := .inr (.inl ⟨by decide, rfl⟩)
  refine ⟨_, _, first, ?_, second, by decide, ?_⟩
  · refine (isValid_compile_iff first).1.2 ⟨⟨sinceYear, by simp, rfl⟩, fun f here _ => ?_⟩
    rw [List.mem_singleton.1 here]
    exact tested
  · exact (isValid_compile_iff second).2.2 blankList (by simp) rfl (by decide) (by decide)

end WhereClause
