import WhereClause.Proofs.Compile.Registration
import WhereClause.Proofs.Extent
import WhereClause.Proofs.Filter.Section
import WhereClause.Proofs.Section.Reading
import WhereClause.Proofs.Sql.Expression

/-!
# What the section of one filter means

A filter asks that its column is one of the selected values, or lies within them, or has
no value when the absence of one was selected (`Filter.holds`).  Which comparison the
values stand for is said without the pass that finds the extremes: the literals of a
range are the first least and the first greatest of its values.

Over plain names and clean literals, **the text of a filter's section is that of a factor
which is true exactly when the filter holds** (`toList_render_toSection`,
`eval_factor`).
-/

set_option autoImplicit false

namespace WhereClause

open Sql

/-- The texts that can be written on a side as they are: a number or the mark for the
absence of a value among identifiers, and a text without quotes among values. -/
def Side.Clean : Side → String → Prop
  | .id, text => text = Item.nullMark ∨ (text ≠ "" ∧ text.toList.all Char.isDigit = true)
  | .value, text => '\'' ∉ text.toList

namespace Filter

/-- A filter on a column with a plain name whose active items are clean. -/
structure Clean (f : Filter) : Prop where
  field : IsName f.fieldName
  items : ∀ item ∈ f.active, f.side.Clean (item.on f.side)

/-- The literal of the first value that is related to all of them. -/
def extremeLiteral (f : Filter) (r : Item → Item → Bool) : String :=
  match Extent.first r f.values with
  | some v => v.literal f.side
  | none => ""

/-- The comparison that the values of a filter stand for. -/
def comparison (o : Options) (f : Filter) : Comparison :=
  match f.kind, f.values with
  | .range, [v] => .bounded f.bound (v.literal f.side)
  | .range, _ :: _ :: _ =>
      .between (f.extremeLiteral (Extent.before (f.collation o) f.side))
        (f.extremeLiteral (Extent.behind (f.collation o) f.side))
  | _, _ => .oneOf f.literals

/-- The test of the column against the values of a filter. -/
def valueTest (o : Options) (f : Filter) : Predicate :=
  ⟨o.tableAlias, f.fieldName, f.comparison o⟩

/-- The test whether the column has no value. -/
def nullTest (o : Options) (f : Filter) : Predicate := ⟨o.tableAlias, f.fieldName, .null false⟩

/-- What a filter asks for, given the truth of the predicates: a value that passes the
test, or no value when the absence of one was selected. -/
def holds (o : Options) (truth : Predicate → Bool) (f : Filter) : Bool :=
  (!f.values.isEmpty && truth (f.valueTest o)) || (!f.nulls.isEmpty && truth (f.nullTest o))

/-- The factor that the section of a filter is written as. -/
def factor (o : Options) (f : Filter) : Factor :=
  if f.values = [] then .atom (f.nullTest o)
  else if f.nulls = [] then .atom (f.valueTest o)
  else .group (.or (.single (.atom (f.valueTest o))) (.single (.single (.atom (f.nullTest o)))))

variable {o : Options} {f : Filter}

/-- A filter that has something to test against has values or the absence of one. -/
theorem HasTest.nulls_ne_nil (tested : f.HasTest) (empty : f.values = []) : f.nulls ≠ [] := by
  rcases tested with ⟨-, nulled⟩ | ⟨valued, -⟩ | ⟨valued, -⟩
  · exact nulled
  · exact absurd empty valued
  · exact absurd empty valued

/-- **A filter's factor is true exactly when the filter holds.** -/
theorem eval_factor (tested : f.HasTest) (truth : Predicate → Bool) :
    (f.factor o).eval truth = f.holds o truth := by
  unfold factor holds
  by_cases empty : f.values = []
  · have nulled : f.nulls ≠ [] := tested.nulls_ne_nil empty
    simp [empty, nulled, Factor.eval]
  · by_cases alone : f.nulls = []
    · simp [empty, alone, Factor.eval]
    · have both : f.values.isEmpty = false ∧ f.nulls.isEmpty = false := by simp [empty, alone]
      simp [empty, alone, both, Factor.eval, Disjunction.eval, Conjunction.eval]

/-! ## The literals of a filter -/

/-- A clean value has a literal that can be read back. -/
theorem Clean.literal (clean : f.Clean) {v : Item} (here : v ∈ f.values) :
    IsLiteral (v.literal f.side) ∧ v.literal f.side ≠ "" := by
  obtain ⟨active, valued⟩ := List.mem_filter.1 here
  have text := clean.items v active
  unfold Item.literal
  unfold Item.isNull at valued
  cases side : f.side with
  | id =>
      rw [side] at text valued
      rcases text with null | ⟨nonempty, digits⟩
      · simp [null] at valued
      · exact ⟨.inl digits, nonempty⟩
  | value =>
      rw [side] at text
      refine ⟨.inr ⟨v.on .value, rfl, text⟩, fun missing => ?_⟩
      have chars := congrArg String.toList missing
      simp [Side.literal, quoted, String.toList_append] at chars

/-- The operand of a range over two values or more: its literals are the first least and
the first greatest value. -/
theorem operand_span {operand : Operand} (made : f.operand o = .ok operand)
    (range : f.kind = .range) {first second : Item} {rest : List Item}
    (values : f.values = first :: second :: rest) :
    ∃ least greatest, Extent.Covers (f.collation o) f.side f.values (least, greatest) ∧
      operand = .extent (.span rest.length (least.literal f.side) (greatest.literal f.side)) := by
  rcases operand_cases made with ⟨listed, -⟩ | ⟨-, e, extent, rfl⟩
  · rw [range] at listed
    cases listed
  · rw [values] at extent ⊢
    obtain ⟨least, greatest, covers, rfl⟩ := Extent.ofItems_span extent
    exact ⟨least, greatest, covers, rfl⟩

/-- The comparison of the operand that a filter's values make. -/
theorem comparison_operand {operand : Operand} (made : f.operand o = .ok operand)
    (valued : f.values ≠ []) (field : String) :
    Condition.comparison (Condition.ofOperand field o.tableAlias operand f.bound).test =
      f.comparison o := by
  rcases operand_cases made with ⟨listed, rfl⟩ | ⟨range, e, extent, rfl⟩
  · simp [comparison, listed, Condition.ofOperand, Condition.comparison]
  · cases values : f.values with
    | nil => exact absurd values valued
    | cons first rest =>
        cases rest with
        | nil =>
            rw [values] at extent
            cases extent
            simp [comparison, range, values, Condition.ofOperand, Condition.comparison]
        | cons second rest =>
            obtain ⟨least, greatest, covers, same⟩ := operand_span made range values
            cases same
            rw [values] at covers
            simp [comparison, range, values, Condition.ofOperand, Condition.comparison,
              extremeLiteral, covers.least, covers.greatest]

/-- Every literal of the comparison is that of a value. -/
theorem mem_literals_comparison {operand : Operand} (made : f.operand o = .ok operand)
    {l : String} (here : l ∈ (f.comparison o).literals) :
    ∃ v ∈ f.values, l = v.literal f.side := by
  unfold comparison at here
  split at here
  · next v _ values =>
      exact ⟨v, by simp [values], by simpa [Comparison.literals] using here⟩
  · next first second rest kind values =>
      obtain ⟨least, greatest, covers, -⟩ := operand_span made kind values
      simp only [extremeLiteral, covers.least, covers.greatest, Comparison.literals,
        List.mem_cons, List.not_mem_nil, or_false] at here
      rcases here with rfl | rfl
      · exact ⟨least, (Extent.first_spec covers.least).1, rfl⟩
      · exact ⟨greatest, (Extent.first_spec covers.greatest).1, rfl⟩
  · obtain ⟨v, member, rfl⟩ := List.mem_map.1 here
    exact ⟨v, member, rfl⟩

theorem comparison_listed (valued : f.values ≠ []) : f.comparison o ≠ .oneOf [] := by
  unfold comparison
  split
  · simp
  · simp
  · simpa [literals] using valued

/-- The test against clean values can be written and read back, and misses no literal. -/
theorem clean_valueTest (clean : f.Clean) (qualifier : o.tableAlias = "" ∨ IsName o.tableAlias)
    {operand : Operand} (made : f.operand o = .ok operand) (valued : f.values ≠ []) :
    (Factor.atom (f.valueTest o)).Clean := by
  refine ⟨⟨clean.field, qualifier, fun l here => ?_, comparison_listed valued⟩, ?_⟩
  · obtain ⟨v, member, rfl⟩ := mem_literals_comparison made here
    exact (clean.literal member).1
  · unfold Predicate.isComplete
    rw [List.all_eq_true]
    intro l here
    obtain ⟨v, member, rfl⟩ := mem_literals_comparison made here
    simpa using (clean.literal member).2

theorem clean_nullTest (clean : f.Clean) (qualifier : o.tableAlias = "" ∨ IsName o.tableAlias) :
    (Factor.atom (f.nullTest o)).Clean := by
  refine ⟨⟨clean.field, qualifier, ?_, by simp [nullTest]⟩, rfl⟩
  simp [nullTest, Comparison.literals]

/-! ## The section of a filter -/

/-- A filter's factor can be written and read back. -/
theorem clean_factor (clean : f.Clean) (qualifier : o.tableAlias = "" ∨ IsName o.tableAlias)
    {s : Section} (built : f.toSection o = .ok s) : (f.factor o).Clean := by
  obtain ⟨field, -, ⟨empty, -⟩ | ⟨-, operand, made, -⟩⟩ := toSection_cases built
  · rw [factor, if_pos empty]
    exact clean_nullTest clean qualifier
  · unfold factor
    split
    · exact clean_nullTest clean qualifier
    · next valued =>
        have value := clean_valueTest clean qualifier made valued
        split
        · exact value
        · exact ⟨value, clean_nullTest clean qualifier⟩

/-- The condition of a filter's values is over plain names and literals, and is written as
the test against them. -/
theorem condition_operand (clean : f.Clean) (qualifier : o.tableAlias = "" ∨ IsName o.tableAlias)
    {operand : Operand} (made : f.operand o = .ok operand) (valued : f.values ≠ []) :
    (Condition.ofOperand f.fieldName o.tableAlias operand f.bound).predicate = f.valueTest o ∧
      (Condition.ofOperand f.fieldName o.tableAlias operand f.bound).Plain := by
  have same : (Condition.ofOperand f.fieldName o.tableAlias operand f.bound).predicate =
      f.valueTest o := by
    unfold Condition.predicate valueTest
    rw [comparison_operand made valued f.fieldName]
    cases operand <;> rfl
  refine ⟨same, Condition.plain_of_wellFormed ?_ fun keyword test => ?_⟩
  · rw [same]
    exact (clean_valueTest clean qualifier made valued).1
  · rcases operand_cases made with ⟨-, rfl⟩ | ⟨-, e, -, rfl⟩
    · cases test
    · cases test

theorem predicate_nullCheck (o : Options) (f : Filter) :
    (Condition.nullCheck f.fieldName o.tableAlias false).predicate = f.nullTest o := rfl

theorem plain_nullSection (clean : f.Clean)
    (qualifier : o.tableAlias = "" ∨ IsName o.tableAlias) :
    (nullSection o f.fieldName).Plain := by
  refine ⟨?_, trivial⟩
  rintro _ ⟨⟩
  exact ⟨clean.field, qualifier, false, rfl⟩

/-- A filter's section has the tokens of its factor. -/
theorem tokens_toSection (clean : f.Clean) (qualifier : o.tableAlias = "" ∨ IsName o.tableAlias)
    (tested : f.HasTest) {s : Section} (built : f.toSection o = .ok s) :
    s.Plain ∧ s.tokens = (f.factor o).tokens true := by
  obtain ⟨field, named, cases⟩ := toSection_cases built
  rw [← fieldName_eq named] at cases
  rcases cases with ⟨empty, -, rfl⟩ | ⟨filled, operand, made, rfl⟩
  · rw [factor, if_pos empty]
    exact ⟨plain_nullSection clean qualifier, rfl⟩
  · have valued : f.values ≠ [] := fun empty => filled ⟨empty, tested.nulls_ne_nil empty⟩
    obtain ⟨written, plain⟩ := condition_operand clean qualifier made valued
    have alone : (Section.ofCondition
        (.ofOperand f.fieldName o.tableAlias operand f.bound)).tokens =
          (f.valueTest o).tokens true := by
      rw [← written]
      rfl
    unfold operandSection factor
    rw [if_neg valued]
    by_cases single : f.nulls = []
    · rw [if_pos single, if_pos single]
      refine ⟨⟨?_, trivial⟩, alone⟩
      rintro _ ⟨⟩
      exact plain
    · rw [if_neg single, if_neg single]
      refine ⟨⟨?_, plain_nullSection clean qualifier, trivial⟩, ?_⟩
      · rintro _ ⟨⟩
        exact plain
      · simp [Section.ofCondition, nullSection, Section.withJoint, Section.push, Section.tokens,
          Section.childTokens, Section.joint, Joint.reserved, written, Factor.tokens,
          Disjunction.tokens, Conjunction.tokens, gap, predicate_nullCheck]

/-- **The text of a filter's section is that of its factor.** -/
theorem toList_render_toSection (clean : f.Clean)
    (qualifier : o.tableAlias = "" ∨ IsName o.tableAlias) (tested : f.HasTest) {s : Section}
    (built : f.toSection o = .ok s) :
    s.render.toList = textOf ((f.factor o).tokens true) := by
  obtain ⟨plain, tokens⟩ := tokens_toSection clean qualifier tested built
  rw [Section.toList_render s ((toSection_isValid_iff built).2 tested) plain, tokens]

end Filter

end WhereClause
