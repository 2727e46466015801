import WhereClause.Proofs.Clause
import WhereClause.Proofs.Compile.Registration
import WhereClause.Proofs.Filter.Section

/-!
# An alias is part of the name of every column

A condition is written on its column, the alias in front of the name.  So it can have the whole
of that as the name of its column, and no alias, without a change in its text (`spelled`).  By
one induction over the tree a section with all its conditions spelled in this way shows the same
(`Section.shown_spelled`).

Compiling under an alias and spelling out the columns of the clause comes to the same as
compiling without an alias filters whose columns have the alias in their names
(`compile_qualified`): neither the literals, nor the failures, nor the choice of the filter that
was changed last depend on where the alias is written.  **So the two compilations look the
same** (`compile_alias`).
-/

set_option autoImplicit false

namespace WhereClause

/-! ## Spelling out columns -/

/-- The same test of a column that has its qualifier in its name. -/
def Condition.spelled (c : Condition) : Condition := ⟨c.column, "", c.test⟩

namespace Condition

variable (c : Condition)

@[simp]
theorem isValid_spelled : c.spelled.isValid = c.isValid := rfl

@[simp]
theorem defect?_spelled : c.spelled.defect? = c.defect? := rfl

@[simp]
theorem render_spelled : c.spelled.render = c.render := by
  have column : c.spelled.column = c.column := Sql.qualify_empty c.column
  unfold render
  rw [column]
  rfl

/-- The test of a column against an operand, with the qualifier in the column's name. -/
theorem spelled_ofOperand {qualifier : String} (present : qualifier ≠ "") (field : String)
    (operand : Operand) (bound : Bound) :
    (ofOperand field qualifier operand bound).spelled =
      ofOperand (qualifier ++ "." ++ field) "" operand bound := by
  have written : Sql.qualify qualifier field = qualifier ++ "." ++ field := by
    simp [Sql.qualify, present]
  cases operand <;> simp [ofOperand, spelled, column, written]

end Condition

namespace Section

mutual
/-- A section with every condition spelled out. -/
def spelled : Section → Section
  | .mk primary joint children => .mk (primary.map Condition.spelled) joint (spelledAll children)

/-- A row of sections with every condition spelled out. -/
def spelledAll : List (Option Section) → List (Option Section)
  | [] => []
  | none :: rest => none :: spelledAll rest
  | some child :: rest => some child.spelled :: spelledAll rest
end

mutual
theorem isValid_spelled : ∀ s : Section, s.spelled.isValid = s.isValid
  | .mk primary joint children => by
      rw [spelled, isValid, isValid, allValid_spelledAll children]
      cases primary <;> simp

theorem allValid_spelledAll : ∀ children : List (Option Section),
    allValid (spelledAll children) = allValid children
  | [] => rfl
  | none :: rest => by rw [spelledAll, allValid, allValid, allValid_spelledAll rest]
  | some child :: rest => by
      rw [spelledAll, allValid, allValid, isValid_spelled child, allValid_spelledAll rest]
end

mutual
theorem defects_spelled : ∀ s : Section, s.spelled.defects = s.defects
  | .mk none joint children => by
      rw [spelled]
      simp only [Option.map_none, defects]
  | .mk (some c) joint children => by
      rw [spelled]
      simp only [Option.map_some, defects, Condition.defect?_spelled,
        allValid_spelledAll children, allDefects_spelledAll children]

theorem allDefects_spelledAll : ∀ children : List (Option Section),
    allDefects (spelledAll children) = allDefects children
  | [] => rfl
  | none :: rest => by rw [spelledAll, allDefects, allDefects, allDefects_spelledAll rest]
  | some child :: rest => by
      rw [spelledAll, allDefects, allDefects, defects_spelled child, allDefects_spelledAll rest]
end

/-- The sections that are missing in a row are still missing. -/
theorem all_isNone_spelledAll : ∀ children : List (Option Section),
    (spelledAll children).all Option.isNone = children.all Option.isNone
  | [] => rfl
  | none :: rest => by simpa [spelledAll] using all_isNone_spelledAll rest
  | some child :: rest => by simp [spelledAll]

mutual
theorem render_spelled : ∀ s : Section, s.spelled.render = s.render
  | .mk none joint children => by
      rw [spelled]
      simp only [Option.map_none, render]
  | .mk (some c) joint children => by
      have valid := isValid_spelled (.mk (some c) joint children)
      rw [spelled] at valid ⊢
      simp only [Option.map_some] at valid ⊢
      simp only [render, valid, all_isNone_spelledAll children, Condition.render_spelled,
        renderAll_spelledAll children]

theorem renderAll_spelledAll : ∀ children : List (Option Section),
    renderAll (spelledAll children) = renderAll children
  | [] => rfl
  | none :: rest => by rw [spelledAll, renderAll, renderAll, renderAll_spelledAll rest]
  | some (.mk primary joint children) :: rest => by
      have child := render_spelled (.mk primary joint children)
      rw [spelled] at child
      rw [spelledAll, spelled, renderAll, renderAll, child, renderAll_spelledAll rest]
end

/-- **A section with its columns spelled out shows the same.** -/
theorem shown_spelled (s : Section) : s.spelled.shown = s.shown := by
  rw [shown, shown, isValid_spelled, defects_spelled, render_spelled]

/-- A section of one condition, possibly with one section joined to it, is spelled out part by
part. -/
theorem spelled_ofCondition (c : Condition) : (ofCondition c).spelled = ofCondition c.spelled := rfl

theorem spelled_withJoint (joint : Joint) (s : Section) :
    (s.withJoint joint).spelled = s.spelled.withJoint joint := by
  cases s
  rfl

theorem spelledAll_append (children : List (Option Section)) (s : Section) :
    spelledAll (children ++ [some s]) = spelledAll children ++ [some s.spelled] := by
  induction children with
  | nil => rfl
  | cons child rest ih =>
      cases child with
      | none => rw [List.cons_append, spelledAll, spelledAll, ih, List.cons_append]
      | some child => rw [List.cons_append, spelledAll, spelledAll, ih, List.cons_append]

theorem spelled_push (s child : Section) :
    (s.push (some child)).spelled = s.spelled.push (some child.spelled) := by
  cases s with
  | mk primary joint children => rw [push, spelled, spelled, push, spelledAll_append]

end Section

namespace Clause

/-- A clause with every condition spelled out. -/
def spelled (c : Clause) : Clause := ⟨c.entries.map fun (role, s) => (role, s.map Section.spelled)⟩

/-- A clause with its columns spelled out shows the same. -/
theorem shown_spelled (c : Clause) : c.spelled.shown = c.shown := by
  rw [shown, shown, spelled, List.map_map]
  apply List.map_congr_left
  rintro ⟨role, s⟩ -
  cases s with
  | none => rfl
  | some s => simp [Section.shown_spelled]

theorem spelled_add (c : Clause) (role : Role) (s : Section) :
    (c.add role (some s)).spelled = c.spelled.add role (some s.spelled) := by
  simp [spelled, add]

end Clause

/-! ## Filters on columns that have the alias in their names -/

/-- A column with a table in front of its name. -/
def Column.qualified (table : String) (c : Column) : Column :=
  ⟨c.display, table ++ "." ++ c.field⟩

/-- A filter on columns with a table in front of their names. -/
def Filter.qualified (table : String) (f : Filter) : Filter :=
  { f with
    idColumn := f.idColumn.map (Column.qualified table)
    valueColumn := f.valueColumn.map (Column.qualified table) }

/-- The options without an alias, which stands in front of the column that was changed last
instead. -/
def Options.unaliased (o : Options) : Options :=
  { o with
    tableAlias := ""
    lastSelected := o.lastSelected.map fun field => o.tableAlias ++ "." ++ field }

namespace Filter

variable {table : String} {o : Options} (f : Filter)

theorem side_qualified : (f.qualified table).side = f.side := by
  unfold side qualified
  cases f.idColumn <;> rfl

/-- What the user calls a filter does not depend on the table. -/
theorem display_qualified : (f.qualified table).display = f.display := by
  unfold display qualified
  cases f.idColumn <;> cases f.valueColumn <;> rfl

theorem column_qualified :
    (f.qualified table).column = f.column.map (Column.qualified table) := by
  unfold column
  rw [display_qualified]
  unfold qualified
  cases f.idColumn <;> cases f.valueColumn <;> rfl

theorem field_qualified :
    (f.qualified table).field = f.field.map fun field => table ++ "." ++ field := by
  rw [field, field, column_qualified]
  cases f.column <;> rfl

theorem check_qualified : (f.qualified table).check = f.check := by
  rw [check, check, column_qualified]
  cases f.column <;> rfl

theorem values_qualified : (f.qualified table).values = f.values := by
  unfold values
  rw [side_qualified]
  rfl

theorem nulls_qualified : (f.qualified table).nulls = f.nulls := by
  unfold nulls
  rw [side_qualified]
  rfl

/-- The operand of a filter depends neither on the table nor on the alias. -/
theorem operand_qualified : (f.qualified table).operand o.unaliased = f.operand o := by
  unfold operand
  rw [side_qualified, values_qualified]
  rfl

/-- The check for the absence of a value has the alias in the column's name. -/
theorem nullSection_unaliased (present : o.tableAlias ≠ "") (field : String) :
    nullSection o.unaliased (o.tableAlias ++ "." ++ field) = (nullSection o field).spelled := by
  have condition := Condition.spelled_ofOperand present field (.null false) .atLeast
  unfold nullSection Condition.nullCheck
  rw [Section.spelled_ofCondition, condition]
  rfl

theorem operandSection_qualified (present : o.tableAlias ≠ "") (field : String)
    (operand : Operand) :
    (f.qualified o.tableAlias).operandSection o.unaliased (o.tableAlias ++ "." ++ field) operand =
      (f.operandSection o field operand).spelled := by
  have condition := Condition.spelled_ofOperand present field operand f.bound
  unfold operandSection
  rw [nulls_qualified, nullSection_unaliased present]
  by_cases alone : f.nulls = []
  · rw [if_pos alone, if_pos alone, Section.spelled_ofCondition, condition]
    rfl
  · rw [if_neg alone, if_neg alone, Section.spelled_push, Section.spelled_withJoint,
      Section.spelled_ofCondition, condition]
    rfl

/-- **The section of a filter** is spelled out when the alias moves into the names of its
columns. -/
theorem toSection_qualified (present : o.tableAlias ≠ "") :
    (f.qualified o.tableAlias).toSection o.unaliased = (f.toSection o).map Section.spelled := by
  have moved : (f.qualified o.tableAlias).field =
      f.field.map fun field => o.tableAlias ++ "." ++ field := field_qualified f
  cases named : f.field with
  | error failure =>
      rw [named] at moved
      simp only [toSection, moved, named, bind, Except.bind, Except.map]
  | ok field =>
      rw [named] at moved
      rw [toSection_eq moved, toSection_eq named, values_qualified, nulls_qualified,
        operand_qualified]
      split
      · exact congrArg Except.ok (nullSection_unaliased present field)
      · cases f.operand o with
        | error failure => rfl
        | ok operand => exact congrArg Except.ok (operandSection_qualified f present field operand)

/-- Whether a filter was changed last is told by the names with the alias as it is by the names
without. -/
theorem isDuplicated_unaliased (o : Options) (field : String) :
    isDuplicated o.unaliased (o.tableAlias ++ "." ++ field) = isDuplicated o field := by
  have injective (other : String) :
      o.tableAlias ++ "." ++ other = o.tableAlias ++ "." ++ field ↔ other = field :=
    String.append_right_inj _
  unfold isDuplicated Options.unaliased
  cases last : o.lastSelected with
  | none => rfl
  | some other =>
      have same : (some (o.tableAlias ++ "." ++ other) == some (o.tableAlias ++ "." ++ field)) =
          (some other == some field) := by
        rw [Bool.eq_iff_iff]
        simp only [beq_iff_eq, Option.some.injEq]
        exact injective other
      simp only [Option.map_some, same]

/-- **One filter** adds the same sections, spelled out. -/
theorem register_qualified (present : o.tableAlias ≠ "") (c : Clause) :
    register o.unaliased c.spelled (f.qualified o.tableAlias) =
      (register o c f).map Clause.spelled := by
  have takesPart : (f.qualified o.tableAlias).isRegistered = f.isRegistered := rfl
  unfold register addTo
  rw [check_qualified, takesPart, toSection_qualified f present, field_qualified]
  cases f.check with
  | error failure => rfl
  | ok =>
      cases f.isRegistered with
      | false => rfl
      | true =>
          cases f.toSection o with
          | error failure => rfl
          | ok s =>
              cases f.field with
              | error failure => rfl
              | ok field =>
                  have twin := isDuplicated_unaliased o field
                  cases twice : isDuplicated o field <;>
                    simp [twin, twice, bind, Except.bind, Except.map, Clause.spelled_add]

/-- Filters one after another add the same sections, spelled out. -/
theorem foldlM_register_qualified (present : o.tableAlias ≠ "") (filters : List Filter)
    (c : Clause) :
    (filters.map (qualified o.tableAlias)).foldlM (register o.unaliased) c.spelled =
      (filters.foldlM (register o) c).map Clause.spelled := by
  induction filters generalizing c with
  | nil => rfl
  | cons f filters ih =>
      rw [List.map_cons, List.foldlM_cons, List.foldlM_cons, register_qualified f present]
      cases register o c f with
      | error failure => rfl
      | ok d => exact ih d

end Filter

/-- **Compiling under an alias** gives the clause of the filters on columns that have the alias in
their names, with its columns spelled out. -/
theorem compile_qualified {o : Options} (present : o.tableAlias ≠ "") (filters : List Filter) :
    compile (filters.map (Filter.qualified o.tableAlias)) o.unaliased =
      (compile filters o).map Clause.spelled :=
  Filter.foldlM_register_qualified present filters Clause.empty

/-- **An alias is applied to every column alike.** Under a table alias, filters compile to what
they compile to without one when the alias and a point stand in front of the name of each of
their columns, and of the one that was changed last: they fail with one failure, or their clauses
have the same number of sections, the same validity, the same reason when they are not valid, and
the same text. -/
theorem compile_alias {o : Options} (present : o.tableAlias ≠ "") (filters : List Filter) :
    (∃ failure, compile filters o = .error failure ∧
        compile (filters.map (Filter.qualified o.tableAlias)) o.unaliased = .error failure) ∨
      ∃ c d, compile filters o = .ok c ∧
        compile (filters.map (Filter.qualified o.tableAlias)) o.unaliased = .ok d ∧
        c.count = d.count ∧ c.isValid = d.isValid ∧ c.message? = d.message? ∧ c.body = d.body ∧
        c.render = d.render := by
  rw [compile_qualified present]
  cases compile filters o with
  | error failure => exact .inl ⟨failure, rfl, rfl⟩
  | ok c =>
      have same : c.shown = c.spelled.shown := (Clause.shown_spelled c).symm
      exact .inr ⟨c, c.spelled, rfl, rfl, Clause.observed_eq same⟩

/-- A list with the absence of a value, and a range. -/
def placed (zone grade : String) : List Filter :=
  [{ idColumn := none
     valueColumn := some ⟨"Zone", zone⟩
     items := [.ofText "North", .ofText "-"]
     required := false
     kind := .discrete
     valueType := .ordinal
     bound := .atLeast },
   { idColumn := some ⟨"Grade", grade⟩
     valueColumn := none
     items := [.ofText "3", .ofText "1"]
     required := true
     kind := .range
     valueType := .ordinal
     bound := .atLeast }]

/-- The zone was changed last, and a table has an alias. -/
def aliasedZone : Options := { mode := .global, tableAlias := "t", lastSelected := some "zone" }

theorem compile_alias_zones :
    aliasedZone.tableAlias ≠ "" ∧
      ∃ c d, compile (placed "zone" "grade") aliasedZone = .ok c ∧
        compile (placed "t.zone" "t.grade") { mode := .global, lastSelected := some "t.zone" } =
          .ok d ∧
        c.count = 3 ∧ d.render = c.render ∧
        c.render = "WHERE (t.zone IN ('North') OR t.zone IS NULL) AND t.grade BETWEEN 1 AND 3 " ++
          "OR (t.zone IN ('North') OR t.zone IS NULL) " := by
  have present : aliasedZone.tableAlias ≠ "" := by decide
  refine ⟨present, ?_⟩
  rcases compile_alias present (placed "zone" "grade") with
    ⟨failure, failed, -⟩ | ⟨c, d, compiled, compiledToo, -, -, -, -, render⟩
  · cases failed
  · refine ⟨c, d, compiled, compiledToo, ?_, render.symm, ?_⟩
    · cases compiled
      rfl
    · cases compiled
      decide +kernel

end WhereClause
