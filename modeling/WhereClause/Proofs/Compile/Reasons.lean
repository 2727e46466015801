import WhereClause.Proofs.Compile.Validity
import WhereClause.Proofs.Agreement

/-!
# The reasons against a clause

A section of a filter has one defect at most, which is that of its operand: literals whose joined
text is blank, or a range without a value (`Filter.defect?`).  Neither says which filter it is
about.  The reason against a compiled clause is **the row of the defects of its filters, in their
order, with one of them twice where a filter has a second section** (`defects_compile`).

So a required filter without active items is reported by the kind of its selection, once for every
section that it has, but **not by a name: the reason stays the same whatever the columns are
called** (`unmet_reported`).
-/

set_option autoImplicit false

namespace WhereClause

namespace Filter

variable {o : Options} {f : Filter}

/-! ## The defect of a filter -/

/-- Why the operand of a filter cannot be tested against, if it cannot. -/
def defect? (f : Filter) : Option Condition.Defect :=
  if f.values = [] ∧ f.nulls ≠ [] then none
  else
    match f.kind with
    | .discrete =>
        if Text.isBlankText (joinLiterals f.literals) then
          some (.noValues (joinLiterals f.literals))
        else none
    | .range => if f.values = [] then some .noExtent else none

/-- The defects of a section of one condition, with the check for a value or without it, are that
of the condition. -/
theorem defects_operandSection (f : Filter) (o : Options) (field : String) (operand : Operand) :
    (f.operandSection o field operand).defects =
      ((Condition.ofOperand field o.tableAlias operand f.bound).defect?.map
        Defect.condition).toList := by
  have check : (nullSection o field).isValid = true := isValid_nullSection o field
  unfold operandSection
  cases reason : (Condition.ofOperand field o.tableAlias operand f.bound).defect? with
  | none =>
      split
      · simp [Section.ofCondition, Section.defects, Section.allValid, reason]
      · simp [Section.ofCondition, Section.push, Section.defects, Section.allValid, reason, check]
  | some defect =>
      split
      · simp [Section.ofCondition, Section.defects, reason]
      · simp [Section.ofCondition, Section.push, Section.defects, reason]

/-- **The section of a filter has the defect of its operand**, and no other. -/
theorem defects_toSection {s : Section} (built : f.toSection o = .ok s) :
    s.defects = (f.defect?.map Defect.condition).toList := by
  obtain ⟨field, -, ⟨empty, nulled, rfl⟩ | ⟨valued, operand, made, rfl⟩⟩ := toSection_cases built
  · have none : f.defect? = none := if_pos ⟨empty, nulled⟩
    rw [none]
    exact (Section.isValid_iff_defects _).1 (isValid_nullSection o field)
  · rw [defects_operandSection, defect?, if_neg valued]
    rcases operand_cases made with ⟨listed, rfl⟩ | ⟨range, e, extent, rfl⟩
    · rw [listed]
      cases blank : Text.isBlankText (joinLiterals f.literals) <;>
        simp [Condition.ofOperand, Condition.defect?, Condition.isValid, blank]
    · have count : e.count = f.values.length := Extent.count_ofItems extent
      rw [range]
      cases found : f.values <;>
        simp [Condition.ofOperand, Condition.defect?, Condition.isValid, count, found]

/-- How many sections a filter has in a clause. -/
def sections (o : Options) (f : Filter) : Nat :=
  if f.isRegistered then if f.isTwin o then 2 else 1 else 0

/-- The defects that a filter leaves in a clause, one for each of its sections. -/
def complaints (o : Options) (f : Filter) : List Defect :=
  match f.defect? with
  | some defect => List.replicate (f.sections o) (.condition defect)
  | none => []

/-- What a filter adds to a clause has its complaints as defects. -/
theorem defects_additions (usable : f.Usable o) :
    ((f.additions o).flatMap fun (_, s) =>
      match s with
      | none => [.missingSection]
      | some s => s.defects) = f.complaints o := by
  unfold additions complaints sections
  cases registered : f.isRegistered with
  | false => cases f.defect? <;> simp
  | true =>
      have defects := defects_toSection (usable.toSection registered)
      cases f.isTwin o <;> cases reason : f.defect? <;>
        simp [defects, reason, List.replicate_succ]

end Filter

/-- **The defects of a compiled clause are those of its filters**, in their order. -/
theorem defects_compile {filters : List Filter} {o : Options} {c : Clause}
    (compiled : compile filters o = .ok c) :
    c.defects =
      if filters.all (fun f => !f.isRegistered) then [.noSections]
      else filters.flatMap (Filter.complaints o) := by
  obtain ⟨usable, entries⟩ := (compile_ok_iff filters o c).1 compiled
  have nothing : c.entries.isEmpty = filters.all fun f => !f.isRegistered := by
    rw [Bool.eq_iff_iff, entries]
    simp [Filter.additions_eq_nil]
  rw [Clause.defects, nothing]
  refine ite_congr rfl (fun _ => rfl) fun _ => ?_
  rw [entries, List.flatMap_assoc]
  exact List.flatMap_congr fun f here => Filter.defects_additions (usable f here)

/-! ## Filters that have to have a selection -/

/-- What is said of a filter that has to have a selection and has none. -/
def Kind.unmet : Kind → String
  | .discrete =>
      "The main FilterConditionSection is not valid. " ++
        "Message 'No values provided for evaluation. Values are ''.'."
  | .range =>
      "The main FilterConditionSection is not valid. " ++
        "Message 'No values provided for range evaluation.'."

namespace Filter

/-- **A required filter without active items is reported by its kind**, once for each of its
sections. -/
theorem messages_complaints_of_unmet (o : Options) {f : Filter} (required : f.required = true)
    (empty : f.active = []) :
    (f.complaints o).map Defect.message =
      List.replicate (if f.isTwin o then 2 else 1) f.kind.unmet := by
  have values : f.values = [] := by simp [Filter.values, empty]
  have nulls : f.nulls = [] := by simp [Filter.nulls, empty]
  have registered : f.isRegistered = true := by simp [isRegistered, required]
  have alone : ¬ (f.values = [] ∧ f.nulls ≠ []) := fun both => both.2 nulls
  have literals : f.literals = [] := by rw [Filter.literals, values, List.map_nil]
  unfold complaints sections defect?
  rw [if_neg alone, if_pos registered]
  cases f.kind with
  | discrete =>
      simp only [literals, isBlankText_joinLiterals_nil, if_true, List.map_replicate]
      rfl
  | range =>
      simp only [values, if_true, List.map_replicate]
      rfl

/-! ## Names -/

/-- Two filters that differ in what their columns are called, at most. -/
structure SameButNames (f g : Filter) : Prop where
  idColumn : f.idColumn.isSome = g.idColumn.isSome
  valueColumn : f.valueColumn.isSome = g.valueColumn.isSome
  items : f.items = g.items
  required : f.required = g.required
  kind : f.kind = g.kind
  valueType : f.valueType = g.valueType
  bound : f.bound = g.bound

variable {o o' : Options} {f g : Filter}

namespace SameButNames

theorem side (same : SameButNames f g) : f.side = g.side := by
  rw [Filter.side, Filter.side, same.idColumn]

theorem active (same : SameButNames f g) : f.active = g.active := by
  rw [Filter.active, Filter.active, same.items]

theorem values (same : SameButNames f g) : f.values = g.values := by
  rw [Filter.values, Filter.values, same.active, same.side]

theorem nulls (same : SameButNames f g) : f.nulls = g.nulls := by
  rw [Filter.nulls, Filter.nulls, same.active, same.side]

theorem isRegistered (same : SameButNames f g) : f.isRegistered = g.isRegistered := by
  rw [Filter.isRegistered, Filter.isRegistered, hasActive, hasActive, same.items, same.required]

theorem defect? (same : SameButNames f g) : f.defect? = g.defect? := by
  have literals : f.literals = g.literals := by
    rw [Filter.literals, Filter.literals, same.values, same.side]
  rw [Filter.defect?, Filter.defect?, same.values, same.nulls, same.kind, literals]

theorem operand (same : SameButNames f g) (format : o'.dateFormat = o.dateFormat) :
    g.operand o' = f.operand o := by
  rw [Filter.operand, Filter.operand, Filter.collation, Filter.collation, same.kind, same.side,
    same.values, same.valueType, format]

/-- Whether there is one column does not depend on what it is called. -/
theorem exists_field (same : SameButNames f g) (named : ∃ field, f.field = .ok field) :
    ∃ field, g.field = .ok field := by
  have one := exists_field_iff.1 named
  rw [same.idColumn, same.valueColumn] at one
  exact exists_field_iff.2 one

/-- A filter with other names can be used when it can be used with its own. -/
theorem usable (same : SameButNames f g) (format : o'.dateFormat = o.dateFormat)
    (usable : f.Usable o) : g.Usable o' := by
  obtain ⟨named, built⟩ := usable
  obtain ⟨other, otherNamed⟩ := same.exists_field named
  refine ⟨⟨other, otherNamed⟩, fun registered => ?_⟩
  obtain ⟨s, made⟩ := built (same.isRegistered.trans registered)
  obtain ⟨field, named⟩ := named
  rw [toSection_eq named] at made
  rw [toSection_eq otherNamed, ← same.values, ← same.nulls, same.operand format]
  split at made
  · next alone => exact ⟨_, if_pos alone⟩
  · next valued =>
      rw [if_neg valued]
      cases operand : f.operand o with
      | error failure =>
          rw [operand] at made
          cases made
      | ok operand => exact ⟨_, rfl⟩

/-- A filter with other names leaves the same complaints, if it has as many sections. -/
theorem complaints (same : SameButNames f g) (twin : f.isTwin o = g.isTwin o') :
    g.complaints o' = f.complaints o := by
  rw [Filter.complaints, Filter.complaints, sections, sections, same.defect?, same.isRegistered,
    twin]

end SameButNames

/-- Rows of filters that differ in names only, and in which the same filters have a second section,
can be used together and leave the same complaints. -/
theorem rows_sameButNames {filters others : List Filter} (format : o'.dateFormat = o.dateFormat)
    (same : List.Forall₂ (fun f g => SameButNames f g ∧ f.isTwin o = g.isTwin o') filters others)
    (usable : ∀ f ∈ filters, f.Usable o) :
    (∀ g ∈ others, g.Usable o') ∧
      (others.all fun f => !f.isRegistered) = (filters.all fun f => !f.isRegistered) ∧
      others.flatMap (complaints o') = filters.flatMap (complaints o) := by
  induction same with
  | nil => exact ⟨nofun, rfl, rfl⟩
  | cons first _ ih =>
      obtain ⟨alike, twin⟩ := first
      rw [List.forall_mem_cons] at usable ⊢
      obtain ⟨all, registered, complaints⟩ := ih usable.2
      refine ⟨⟨alike.usable format usable.1, all⟩, ?_, ?_⟩
      · rw [List.all_cons, List.all_cons, registered, alike.isRegistered]
      · rw [List.flatMap_cons, List.flatMap_cons, complaints, alike.complaints twin]

end Filter

/-- **The reason against a clause does not depend on what the columns are called**, as long as the
same filters have a second section. -/
theorem message?_sameButNames {filters others : List Filter} {o o' : Options} {c : Clause}
    (compiled : compile filters o = .ok c) (format : o'.dateFormat = o.dateFormat)
    (same : List.Forall₂ (fun f g => Filter.SameButNames f g ∧ f.isTwin o = g.isTwin o')
      filters others) :
    ∃ d, compile others o' = .ok d ∧ d.message? = c.message? := by
  obtain ⟨usable, -⟩ := (compile_ok_iff filters o c).1 compiled
  obtain ⟨otherUsable, registered, complaints⟩ := Filter.rows_sameButNames format same usable
  have compiledToo : compile others o' = .ok ⟨others.flatMap (Filter.additions o')⟩ :=
    (compile_ok_iff others o' _).2 ⟨otherUsable, rfl⟩
  refine ⟨_, compiledToo, ?_⟩
  rw [Clause.message?, Clause.message?, defects_compile compiled, defects_compile compiledToo,
    registered, complaints]

/-- **An unmet required filter is reported, but not by a name.** The clause is not valid, and the
reason against it is the row of what is said of each filter, in their order.  Of a required filter
without active items it says once for each of its sections that no values were provided, in words
that depend on its kind.  What the columns are called does not show: the reason is the same for
filters that differ from these in names only. -/
theorem unmet_reported {filters : List Filter} {o : Options} {c : Clause}
    (compiled : compile filters o = .ok c) {f : Filter} (here : f ∈ filters)
    (required : f.required = true) (empty : f.active = []) :
    c.isValid = false ∧
      c.message? = some (String.intercalate ", "
        (filters.flatMap fun g => (g.complaints o).map Defect.message)) ∧
      (f.complaints o).map Defect.message =
        List.replicate (if f.isTwin o then 2 else 1) f.kind.unmet ∧
      ∀ (others : List Filter) (o' : Options), o'.dateFormat = o.dateFormat →
        List.Forall₂ (fun f g => Filter.SameButNames f g ∧ f.isTwin o = g.isTwin o')
          filters others →
        ∃ d, compile others o' = .ok d ∧ d.message? = c.message? := by
  have own := Filter.messages_complaints_of_unmet o required empty
  have registered : f.isRegistered = true := by simp [Filter.isRegistered, required]
  have some_registered : ¬ (filters.all fun f => !f.isRegistered) = true := by
    intro none
    have missing := List.all_eq_true.1 none f here
    simp [registered] at missing
  have complains : filters.flatMap (Filter.complaints o) ≠ [] := by
    intro nothing
    have silent := List.flatMap_eq_nil_iff.1 nothing f here
    rw [silent] at own
    cases twin : f.isTwin o <;> simp [twin] at own
  have defects := defects_compile compiled
  rw [if_neg some_registered] at defects
  refine ⟨?_, ?_, own, fun others o' format same => message?_sameButNames compiled format same⟩
  · rw [Bool.eq_false_iff]
    intro valid
    rw [Clause.isValid_iff_defects, defects] at valid
    exact complains valid
  · rw [Clause.message?, defects, Defect.messages?, if_neg (by simpa using complains),
      List.map_flatMap]

/-- A filter that has to have a selection, on a column of some names, with an item that is not
active. -/
def demanded (display field : String) (kind : Kind) : Filter :=
  { idColumn := some ⟨display, field⟩
    valueColumn := none
    items := [⟨"3", "North", false, false⟩]
    required := true
    kind := kind
    valueType := .numeric
    bound := .atLeast }

theorem unmet_reported_twice :
    let o : Options := { mode := .global, lastSelected := some "region_id" }
    let filters (field : String) :=
      [demanded "Region" field .discrete, demanded "Year" "year" .range]
    ∃ c, compile (filters "region_id") o = .ok c ∧ c.isValid = false ∧
      c.message? = some (String.intercalate ", "
        [Kind.unmet .discrete, Kind.unmet .discrete, Kind.unmet .range]) ∧
      ∃ d, compile (filters "town_id") { o with lastSelected := some "town_id" } = .ok d ∧
        d.message? = c.message? := by
  intro o filters
  have compiled : compile (filters "region_id") o =
      .ok ⟨(filters "region_id").flatMap (Filter.additions o)⟩ := rfl
  obtain ⟨invalid, reason, -, renamed⟩ := unmet_reported compiled List.mem_cons_self rfl rfl
  refine ⟨_, compiled, invalid, ?_, ?_⟩
  · rw [reason]
    decide +kernel
  · exact renamed (filters "town_id") { o with lastSelected := some "town_id" } rfl
      (.cons ⟨⟨rfl, rfl, rfl, rfl, rfl, rfl, rfl⟩, rfl⟩
        (.cons ⟨⟨rfl, rfl, rfl, rfl, rfl, rfl, rfl⟩, rfl⟩ .nil))

/-- Neither name of a required filter has to stand in the reason against the clause. -/
theorem unmet_unnamed :
    ¬ ∀ (filters : List Filter) (o : Options) (c : Clause), compile filters o = .ok c →
      ∀ f ∈ filters, f.required = true → f.active = [] → f.display ≠ "" → f.fieldName ≠ "" →
        c.isValid = false ∧ ∃ reason, c.message? = some reason ∧
          (StandsIn f.display reason ∨ StandsIn f.fieldName reason) := by
  intro always
  let f := demanded "Region" "region_id" .discrete
  have compiled : compile [f] {} = .ok ⟨f.additions {}⟩ := rfl
  obtain ⟨-, reason, told, named⟩ := always [f] {} _ compiled f List.mem_cons_self rfl rfl
    (by decide) (by decide)
  have text : reason = Kind.unmet .discrete := by
    refine Option.some.inj (told.symm.trans ?_)
    decide +kernel
  have noCapital : 'R' ∉ (Kind.unmet .discrete).toList := by decide +kernel
  have noUnderscore : '_' ∉ (Kind.unmet .discrete).toList := by decide +kernel
  rw [text] at named
  rcases named with display | field
  · exact noCapital (display.mem_toList (by decide))
  · exact noUnderscore (field.mem_toList (by decide))

end WhereClause
