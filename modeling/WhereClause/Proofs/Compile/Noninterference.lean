import WhereClause.Proofs.Clause
import WhereClause.Proofs.Compile.Registration
import WhereClause.Proofs.Extent.Texts
import WhereClause.Proofs.Filter.Section
import Mathlib.Data.List.Forall2

/-!
# What a clause does not depend on

Of its items a filter uses the texts of the active ones, on the side it compiles against.
The declared type matters only to ranges over two values or more, the bound only to ranges
over one, and whether something has to be selected only when nothing is.  Two filters with
one column that agree on these have the same selection (`SameSelection`), and whatever else
they are, their sections show the same (`SameSelection.shown_toSection`) and so does what
they add to a clause (`SameSelection.shown_compile`).

**Two lists of filters with the same selections compile to the same**: they fail with one
failure, or their clauses are the same to whoever asks (`compile_sameSelection`).
-/

set_option autoImplicit false

namespace WhereClause

namespace Filter

/-- The texts of the active items, on the side that a filter compiles against. -/
def selected (f : Filter) : List String := f.active.map fun item => item.on f.side

/-- Two filters on one column that select the same. -/
structure SameSelection (f g : Filter) : Prop where
  /-- Each declares exactly one column, and the columns have one name in the database. -/
  field : ∃ field, f.field = .ok field ∧ g.field = .ok field
  side : f.side = g.side
  kind : f.kind = g.kind
  selected : f.selected = g.selected
  valueType : f.kind = .range → 2 ≤ f.values.length → f.valueType = g.valueType
  bound : f.kind = .range → f.values.length = 1 → f.bound = g.bound
  required : f.active = [] → f.required = g.required

variable {o : Options} {f g : Filter}

/-! ## What is selected -/

/-- The texts of the values are the selected ones that do not stand for the absence of a
value. -/
theorem texts_values (f : Filter) :
    (f.values.map fun item => item.on f.side) =
      f.selected.filter fun text => text != Item.nullMark := by
  rw [selected, List.filter_map]
  rfl

theorem texts_nulls (f : Filter) :
    (f.nulls.map fun item => item.on f.side) =
      f.selected.filter fun text => text == Item.nullMark := by
  rw [selected, List.filter_map]
  rfl

theorem SameSelection.texts_values (same : SameSelection f g) :
    (f.values.map fun item => item.on f.side) = g.values.map fun item => item.on f.side := by
  rw [Filter.texts_values, same.selected, ← Filter.texts_values, same.side]

theorem SameSelection.values_length (same : SameSelection f g) :
    f.values.length = g.values.length := by
  simpa using congrArg List.length same.texts_values

theorem SameSelection.nulls_length (same : SameSelection f g) :
    f.nulls.length = g.nulls.length := by
  have texts : (f.nulls.map fun item => item.on f.side) =
      g.nulls.map fun item => item.on g.side := by
    rw [texts_nulls, same.selected, ← texts_nulls]
  simpa using congrArg List.length texts

/-- Something is selected exactly when there are active items. -/
theorem hasActive_eq (f : Filter) : f.hasActive = !f.active.isEmpty := by
  have inactive : f.active.isEmpty = true ↔ f.hasActive = false := by
    rw [List.isEmpty_iff, active, List.filter_eq_nil_iff, hasActive, List.any_eq_false]
  cases selected : f.hasActive with
  | false =>
      rw [inactive.2 selected]
      rfl
  | true =>
      cases empty : f.active.isEmpty with
      | false => rfl
      | true =>
          rw [inactive.1 empty] at selected
          cases selected

theorem SameSelection.isRegistered (same : SameSelection f g) :
    f.isRegistered = g.isRegistered := by
  have lengths : f.active.length = g.active.length := by
    simpa [Filter.selected] using congrArg List.length same.selected
  unfold Filter.isRegistered
  rw [hasActive_eq, hasActive_eq]
  cases items : f.active with
  | nil =>
      have empty : g.active = [] := List.length_eq_zero_iff.1 (by rw [← lengths, items]; rfl)
      simp [empty, same.required items]
  | cons item rest =>
      have filled : g.active ≠ [] := by
        intro empty
        simp [items, empty] at lengths
      simp [filled]

/-! ## The section -/

/-- Filters with the same selection have one operand. -/
theorem SameSelection.operand (same : SameSelection f g) : f.operand o = g.operand o := by
  unfold Filter.operand Operand.ofItems
  rw [← same.kind, ← same.side]
  cases kind : f.kind with
  | discrete =>
      have literals : (f.values.map fun item => item.literal f.side) =
          g.values.map fun item => item.literal f.side := by
        simpa [Item.literal, Function.comp_def] using
          congrArg (List.map f.side.literal) same.texts_values
      simp [Kind.shape, literals]
  | range =>
      have collations (several : 2 ≤ f.values.length) : f.collation o = g.collation o := by
        rw [Filter.collation, Filter.collation, same.valueType kind several]
      have extents : Extent.ofItems (f.collation o) f.side f.values =
          Extent.ofItems (g.collation o) f.side g.values :=
        Extent.ofItems_congr same.texts_values collations
      simp [Kind.shape, extents]

/-- The bound of an extent shows only when the extent is a single literal. -/
theorem shown_within (field qualifier : String) (e : Extent) {bound other : Bound}
    (single : e.count = 1 → bound = other) (joint : Joint) (children : List (Option Section)) :
    (Section.mk (some ⟨field, qualifier, .within e bound⟩) joint children).shown =
      (Section.mk (some ⟨field, qualifier, .within e other⟩) joint children).shown := by
  cases e with
  | empty => exact Section.shown_congr rfl rfl rfl joint children
  | single literal => rw [single rfl]
  | span between least greatest => exact Section.shown_congr rfl rfl rfl joint children

/-- The sections of one operand show the same for filters with the same selection. -/
theorem SameSelection.shown_operandSection (same : SameSelection f g) {operand : Operand}
    (made : f.operand o = .ok operand) (field : String) :
    (f.operandSection o field operand).shown = (g.operandSection o field operand).shown := by
  have nulls : f.nulls = [] ↔ g.nulls = [] := by
    rw [← List.length_eq_zero_iff, same.nulls_length, List.length_eq_zero_iff]
  unfold operandSection
  rw [ite_congr (propext nulls) (fun _ => rfl) fun _ => rfl]
  rcases operand_cases made with ⟨-, rfl⟩ | ⟨range, e, extent, rfl⟩
  · rfl
  · have bounds (single : e.count = 1) : f.bound = g.bound :=
      same.bound range (by rw [← Extent.count_ofItems extent, single])
    split
    · exact shown_within field o.tableAlias e bounds .and []
    · exact shown_within field o.tableAlias e bounds .and _

/-- **Filters with the same selection have sections that show the same**, or one failure. -/
theorem SameSelection.shown_toSection (same : SameSelection f g) :
    (f.toSection o).map Section.shown = (g.toSection o).map Section.shown := by
  obtain ⟨field, named, namedToo⟩ := same.field
  have alone : (f.values = [] ∧ f.nulls ≠ []) ↔ (g.values = [] ∧ g.nulls ≠ []) := by
    simp only [Ne, ← List.length_eq_zero_iff, same.values_length, same.nulls_length]
  rw [toSection_eq named, toSection_eq namedToo, ← same.operand]
  by_cases empty : f.values = [] ∧ f.nulls ≠ []
  · rw [if_pos empty, if_pos (alone.1 empty)]
  · rw [if_neg empty, if_neg (mt alone.2 empty)]
    cases made : f.operand o with
    | error failure => rfl
    | ok operand => exact congrArg Except.ok (same.shown_operandSection made field)

/-! ## The clause -/

/-- What a filter that takes part adds, given what its section shows. -/
def shownAdditions (o : Options) (field : String) (s : Shown) : List (Role × Option Shown) :=
  (.conjunct, some s) :: if isDuplicated o field then [(.alternative, some s)] else []

/-- What the clause of one filter on a column shows. -/
theorem shown_register {field : String} (named : f.field = .ok field) :
    (register o .empty f).map Clause.shown =
      if f.isRegistered then ((f.toSection o).map Section.shown).map (shownAdditions o field)
      else .ok [] := by
  have checked : f.check = .ok () := check_ok_iff.2 ⟨field, named⟩
  unfold register addTo
  rw [checked]
  cases f.isRegistered with
  | false => rfl
  | true =>
      cases f.toSection o with
      | error failure => rfl
      | ok s =>
          cases twin : isDuplicated o field <;>
            simp [named, twin, bind, Except.bind, Except.map, Clause.shown, Clause.add,
              Clause.empty, shownAdditions]

/-- **One filter** adds to a clause what any other one with its selection adds. -/
theorem SameSelection.shown_compile (same : SameSelection f g) :
    (compile [f] o).map Clause.shown = (compile [g] o).map Clause.shown := by
  obtain ⟨field, named, namedToo⟩ := same.field
  have single (f : Filter) : compile [f] o = register o .empty f := by
    rw [compile, List.foldlM_cons]
    exact bind_pure _
  rw [single, single, shown_register named, shown_register namedToo, same.isRegistered,
    same.shown_toSection]

end Filter

/-- Lists of filters with the same selections have clauses that show the same, or one
failure. -/
theorem shown_compile {filters others : List Filter} (o : Options)
    (same : List.Forall₂ Filter.SameSelection filters others) :
    (compile filters o).map Clause.shown = (compile others o).map Clause.shown := by
  induction same with
  | nil => rfl
  | @cons f g filters others first rest ih =>
      rw [compile_cons f filters, compile_cons g others]
      refine map_bind_congr first.shown_compile fun c d alike => ?_
      refine map_bind_congr ih fun c' d' alike' => ?_
      simp [Except.map, Clause.shown_append, alike, alike']

/-- **Compiling depends on nothing but the selections.** Two lists of filters with the same
selections fail with one failure, or have clauses with the same number of sections, the same
validity, the same reason when they are not valid, and the same text. -/
theorem compile_sameSelection {filters others : List Filter} (o : Options)
    (same : List.Forall₂ Filter.SameSelection filters others) :
    (∃ failure, compile filters o = .error failure ∧ compile others o = .error failure) ∨
      ∃ c d, compile filters o = .ok c ∧ compile others o = .ok d ∧ c.count = d.count ∧
        c.isValid = d.isValid ∧ c.message? = d.message? ∧ c.body = d.body ∧
        c.render = d.render := by
  have shown := shown_compile o same
  cases compiled : compile filters o with
  | error failure =>
      cases compiledToo : compile others o with
      | error refusal =>
          rw [compiled, compiledToo] at shown
          cases shown
          exact .inl ⟨failure, rfl, rfl⟩
      | ok d =>
          rw [compiled, compiledToo] at shown
          cases shown
  | ok c =>
      cases compiledToo : compile others o with
      | error refusal =>
          rw [compiled, compiledToo] at shown
          cases shown
      | ok d =>
          rw [compiled, compiledToo] at shown
          exact .inr ⟨c, d, rfl, rfl, Clause.observed_eq (Except.ok.inj shown)⟩

/-- A list over identifiers and a range over one value, with much that does not matter: other
sides, items that are not active, types and a bound that nothing is compared by. -/
def crowded : List Filter :=
  [{ idColumn := some ⟨"Status", "status"⟩
     valueColumn := none
     items := [⟨"3", "Open", true, false⟩, ⟨"4", "Late", true, true⟩, ⟨"-", "None", true, false⟩,
       ⟨"5", "Shut", false, false⟩]
     required := true
     kind := .discrete
     valueType := .date
     bound := .atMost },
   { idColumn := none
     valueColumn := some ⟨"Year", "year"⟩
     items := [⟨"7", "2020", true, false⟩, ⟨"-", "2021", false, true⟩]
     required := false
     kind := .range
     valueType := .numeric
     bound := .atMost }]

/-- The same selections with nothing else. -/
def sparse : List Filter :=
  [{ idColumn := some ⟨"", "status"⟩
     valueColumn := none
     items := [⟨"3", "", true, false⟩, ⟨"-", "", true, false⟩]
     required := false
     kind := .discrete
     valueType := .ordinal
     bound := .atLeast },
   { idColumn := none
     valueColumn := some ⟨"", "year"⟩
     items := [⟨"", "2020", true, false⟩]
     required := false
     kind := .range
     valueType := .ordinal
     bound := .atMost }]

theorem compile_sameSelection_sparse :
    List.Forall₂ Filter.SameSelection crowded sparse ∧
      ∃ c d, compile crowded {} = .ok c ∧ compile sparse {} = .ok d ∧ c.count = d.count ∧
        c.render = "WHERE (status IN (3) OR status IS NULL) AND year <= '2020' " ∧
        d.render = c.render := by
  have same : List.Forall₂ Filter.SameSelection crowded sparse :=
    .cons ⟨⟨"status", rfl, rfl⟩, rfl, rfl, by decide, by decide, by decide, by decide⟩
      (.cons ⟨⟨"year", rfl, rfl⟩, rfl, rfl, by decide, by decide, by decide, by decide⟩ .nil)
  refine ⟨same, ?_⟩
  rcases compile_sameSelection {} same with
    ⟨failure, failed, -⟩ | ⟨c, d, compiled, compiledToo, count, -, -, -, render⟩
  · cases failed
  · refine ⟨c, d, compiled, compiledToo, count, ?_, render.symm⟩
    cases compiled
    decide +kernel

end WhereClause
