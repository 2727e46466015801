import WhereClause.Proofs.Clause.Text
import WhereClause.Proofs.Compile.Validity
import WhereClause.Proofs.Filter.Meaning

/-!
# What a compiled clause means

The body of a clause is free text: conjuncts with AND between them, and alternatives
behind an OR each, without parentheses around the conjuncts.  Read as an expression, in
which OR binds weaker than AND and the AND of a range belongs to the range, **it is true
exactly when every filter that takes part holds, or, in the global mode, the filter that
was changed last does** (`eval_compile_iff`).
-/

set_option autoImplicit false

namespace WhereClause

open Sql

namespace Clause

/-! ## The text of a body -/

/-- The body of a clause that has a conjunct, as characters. -/
theorem toList_body {c : Clause} {first : String} {rest : List String}
    (conjuncts : c.texts .conjunct = first :: rest) :
    c.body.toList =
      first.toList ++ (rest.flatMap fun t => " AND ".toList ++ t.toList) ++
        ((c.texts .alternative).flatMap fun t => " OR ".toList ++ t.toList) ++ [' '] := by
  have several : c.texts .conjunct ≠ [] := by simp [conjuncts]
  rw [body_of_conjuncts several, conjuncts, intercalate_cons]
  simp only [String.toList_append, String.toList_join, List.flatMap_map]
  rfl

end Clause

namespace Filter

variable {o : Options}

/-- A filter whose section is written as its factor, and is true when the filter holds. -/
structure Written (o : Options) (f : Filter) : Prop where
  valid : (f.builtSection o).isValid = true
  text : (f.builtSection o).render.toList = textOf ((f.factor o).tokens true)
  clean : (f.factor o).Clean
  tested : f.HasTest

/-- A clean filter that takes part in a valid clause is written. -/
theorem written_of_usable {f : Filter} (usable : f.Usable o) (takesPart : f.isRegistered = true)
    (tested : f.HasTest) (clean : f.Clean)
    (qualifier : o.tableAlias = "" ∨ IsName o.tableAlias) : f.Written o :=
  have built : f.toSection o = .ok (f.builtSection o) := usable.toSection takesPart
  { valid := (toSection_isValid_iff built).2 tested
    text := toList_render_toSection clean qualifier tested built
    clean := clean_factor clean qualifier built
    tested := tested }

/-- The texts in one role are those of the filters that have a section in it. -/
theorem texts_additions (role : Role) {filters : List Filter}
    (written : ∀ f ∈ registered filters, f.Written o) :
    Clause.texts ⟨filters.flatMap (additions o)⟩ role =
      ((registered filters).filter (plays o role)).map fun f => (f.builtSection o).render := by
  rw [texts_registered, List.filter_eq_self]
  intro text here
  obtain ⟨f, member, rfl⟩ := List.mem_map.1 here
  have valid := (written f (List.mem_filter.1 member).1).valid
  simpa using Section.render_ne_empty valid

/-! ## The expression of a list of filters -/

/-- The expression that some filters are written as. -/
def expression (o : Options) (first : Filter) (rest others : List Filter) : Disjunction :=
  .ofRow (.ofRow (first.factor o) (rest.map (factor o))) (others.map fun f => .single (f.factor o))

theorem eval_expression (truth : Predicate → Bool) {first : Filter} {rest others : List Filter}
    (testedRow : ∀ f ∈ first :: rest, f.HasTest) (testedOthers : ∀ f ∈ others, f.HasTest) :
    (expression o first rest others).eval truth = true ↔
      (∀ f ∈ first :: rest, f.holds o truth = true) ∨ ∃ f ∈ others, f.holds o truth = true := by
  have row : ((first.factor o :: rest.map (factor o)).all fun g => g.eval truth) = true ↔
      ∀ f ∈ first :: rest, f.holds o truth = true := by
    rw [← List.map_cons, List.all_map, List.all_eq_true]
    refine forall₂_congr fun f here => ?_
    rw [Function.comp_apply, eval_factor (testedRow f here)]
  have alternatives : ((others.map fun f => Conjunction.single (f.factor o)).any
      fun d => d.eval truth) = true ↔ ∃ f ∈ others, f.holds o truth = true := by
    rw [List.any_map, List.any_eq_true]
    refine exists_congr fun f => and_congr_right fun here => ?_
    rw [Function.comp_apply, Conjunction.eval, eval_factor (testedOthers f here)]
  rw [expression, eval_disjunction_ofRow, List.any_cons, Bool.or_eq_true,
    eval_conjunction_ofRow, row, alternatives]

theorem clean_expression {first : Filter} {rest others : List Filter}
    (cleanRow : ∀ f ∈ first :: rest, (f.factor o).Clean)
    (cleanOthers : ∀ f ∈ others, (f.factor o).Clean) :
    (expression o first rest others).Clean := by
  apply clean_disjunction_ofRow
  intro d here
  rcases List.mem_cons.1 here with rfl | here
  · apply clean_conjunction_ofRow
    intro g member
    rw [← List.map_cons] at member
    obtain ⟨f, listed, rfl⟩ := List.mem_map.1 member
    exact cleanRow f listed
  · obtain ⟨f, listed, rfl⟩ := List.mem_map.1 here
    exact cleanOthers f listed

theorem textOf_expression (first : Filter) (rest others : List Filter) :
    textOf ((expression o first rest others).tokens true) =
      textOf ((first.factor o).tokens true) ++
        (rest.flatMap fun f => " AND ".toList ++ textOf ((f.factor o).tokens true)) ++
        others.flatMap fun f => " OR ".toList ++ textOf ((f.factor o).tokens true) := by
  rw [expression, textOf_disjunction_ofRow, textOf_conjunction_ofRow, List.flatMap_map,
    List.flatMap_map]
  rfl

/-- The body of a clause is the text of the expression, with a blank at its end. -/
theorem toList_body {c : Clause} {filters : List Filter}
    (entries : c.entries = filters.flatMap (additions o))
    (written : ∀ f ∈ registered filters, f.Written o) {first : Filter} {rest : List Filter}
    (row : registered filters = first :: rest) :
    c.body.toList =
      textOf ((expression o first rest (twins o filters)).tokens true ++ gap true) := by
  have conjuncts : c.texts .conjunct =
      (first :: rest).map fun f => (f.builtSection o).render := by
    have texts := texts_additions .conjunct written
    rw [← entries, List.filter_eq_self.2 (fun f _ => plays_conjunct o f), row] at texts
    exact texts
  have alternatives : c.texts .alternative =
      (twins o filters).map fun f => (f.builtSection o).render := by
    have texts := texts_additions .alternative written
    rw [← entries] at texts
    exact texts
  have texts (keyword : List Char) (fs : List Filter)
      (taken : ∀ f ∈ fs, f ∈ registered filters) :
      (fs.flatMap fun f => keyword ++ (f.builtSection o).render.toList) =
        fs.flatMap fun f => keyword ++ textOf ((f.factor o).tokens true) :=
    List.flatMap_congr fun f here => by rw [(written f (taken f here)).text]
  have restTexts := texts " AND ".toList rest fun f here => by simp [row, here]
  have otherTexts := texts " OR ".toList (twins o filters) fun f here => (List.mem_filter.1 here).1
  rw [Clause.toList_body conjuncts, alternatives, List.flatMap_map, List.flatMap_map,
    restTexts, otherTexts, (written first (by simp [row])).text, textOf_append, textOf_expression]
  rfl

end Filter

/-- **A compiled clause means what its filters ask for.** The body of a valid clause over
clean filters reads as an expression that is true exactly when every filter that takes part
holds or, in the global mode, one that was changed last does. -/
theorem eval_compile_iff {filters : List Filter} {o : Options} {c : Clause}
    (compiled : compile filters o = .ok c) (valid : c.isValid = true)
    (qualifier : o.tableAlias = "" ∨ IsName o.tableAlias)
    (clean : ∀ f ∈ filters, f.isRegistered = true → f.Clean) :
    ∃ e, Disjunction.parse? c.body = some e ∧ ∀ truth : Predicate → Bool,
      e.eval truth = true ↔
        (∀ f ∈ filters, f.isRegistered = true → f.holds o truth = true) ∨
          (o.mode = .global ∧ o.duplicateLastSelected = true ∧
            ∃ f ∈ filters, f.isRegistered = true ∧ o.lastSelected = some f.fieldName ∧
              f.holds o truth = true) := by
  obtain ⟨usable, entries⟩ := (compile_ok_iff filters o c).1 compiled
  obtain ⟨⟨_, here, takesPart⟩, tested⟩ := (isValid_iff_of_compile compiled).1 valid
  have written (f : Filter) (member : f ∈ Filter.registered filters) : f.Written o := by
    obtain ⟨listed, takesPart⟩ := Filter.mem_registered.1 member
    exact Filter.written_of_usable (usable f listed) takesPart (tested f listed takesPart)
      (clean f listed takesPart) qualifier
  cases row : Filter.registered filters with
  | nil =>
      have member := Filter.mem_registered.2 ⟨here, takesPart⟩
      rw [row] at member
      cases member
  | cons first rest =>
      have rowWritten (f : Filter) (member : f ∈ first :: rest) : f.Written o :=
        written f (row ▸ member)
      have othersWritten (f : Filter) (member : f ∈ Filter.twins o filters) : f.Written o :=
        written f (List.mem_filter.1 member).1
      refine ⟨Filter.expression o first rest (Filter.twins o filters), ?_, fun truth => ?_⟩
      · exact parse?_textOf
          (Filter.clean_expression (fun f member => (rowWritten f member).clean)
            fun f member => (othersWritten f member).clean)
          true (Filter.toList_body entries written row)
      · rw [Filter.eval_expression truth (fun f member => (rowWritten f member).tested)
          fun f member => (othersWritten f member).tested, ← row]
        simp only [Filter.mem_registered, Filter.mem_twins, and_imp]
        refine or_congr Iff.rfl ⟨?_, ?_⟩
        · rintro ⟨f, ⟨⟨listed, takesPart⟩, ⟨globally, last⟩, duplicated⟩, holds⟩
          exact ⟨globally, duplicated, f, listed, takesPart, last, holds⟩
        · rintro ⟨globally, duplicated, f, listed, takesPart, last, holds⟩
          exact ⟨f, ⟨⟨listed, takesPart⟩, ⟨globally, last⟩, duplicated⟩, holds⟩

/-- A required list over identifiers, with the absence of a value selected as well. -/
def statusList : Filter :=
  { idColumn := some ⟨"Status", "status"⟩
    valueColumn := none
    items := [⟨"3", "Open", true, false⟩, ⟨"-", "None", true, false⟩, ⟨"5", "Late", true, false⟩]
    required := true
    kind := .discrete
    valueType := .ordinal
    bound := .atLeast }

/-- A range over values, one of which is disabled and has a quote. -/
def zoneRange : Filter :=
  { idColumn := none
    valueColumn := some ⟨"Zone", "zone"⟩
    items := [⟨"", "west", true, false⟩, ⟨"", "east", true, false⟩, ⟨"", "o'clock", true, true⟩]
    required := false
    kind := .range
    valueType := .ordinal
    bound := .atMost }

/-- The settings after the range was changed. -/
def zoneChanged : Options := { mode := .global, tableAlias := "t", lastSelected := some "zone" }

/-- The clause of the two filters after the range was changed. -/
def statusZone : Clause :=
  let status : Section := .mk (some ⟨"status", "t", .oneOf ["3", "5"]⟩) .and
    [some (.mk (some ⟨"status", "t", .is "NULL"⟩) .or [])]
  let zone : Section := .ofCondition ⟨"zone", "t", .within (.span 0 "'east'" "'west'") .atMost⟩
  ⟨[(.conjunct, some status), (.conjunct, some zone), (.alternative, some zone)]⟩

theorem eval_compile_statusZone :
    compile [statusList, zoneRange] zoneChanged = .ok statusZone ∧ statusZone.isValid = true ∧
      statusZone.body =
        "(t.status IN (3,5) OR t.status IS NULL) AND t.zone BETWEEN 'east' AND 'west'" ++
          " OR t.zone BETWEEN 'east' AND 'west' " ∧
      ∃ e, Disjunction.parse? statusZone.body = some e ∧
        ∀ truth : Predicate → Bool, e.eval truth = true ↔
          (truth ⟨"t", "status", .oneOf ["3", "5"]⟩ || truth ⟨"t", "status", .null false⟩) &&
              truth ⟨"t", "zone", .between "'east'" "'west'"⟩ ||
            truth ⟨"t", "zone", .between "'east'" "'west'"⟩ := by
  have compiled : compile [statusList, zoneRange] zoneChanged = .ok statusZone := by rfl
  have valid : statusZone.isValid = true := by decide
  have clean : ∀ f ∈ [statusList, zoneRange], f.isRegistered = true → f.Clean := by
    intro f here _
    simp only [List.mem_cons, List.not_mem_nil, or_false] at here
    rcases here with rfl | rfl
    · refine ⟨by decide, ?_⟩
      simp [statusList, Filter.active, Item.isActive, Side.Clean, Filter.side, Item.on,
        Item.nullMark]
    · refine ⟨by decide, ?_⟩
      simp [zoneRange, Filter.active, Item.isActive, Side.Clean, Filter.side, Item.on]
  obtain ⟨e, reads, means⟩ := eval_compile_iff compiled valid (.inr (by decide)) clean
  refine ⟨compiled, valid, by decide +kernel, e, reads, fun truth => ?_⟩
  have status : statusList.holds zoneChanged truth =
      (truth ⟨"t", "status", .oneOf ["3", "5"]⟩ || truth ⟨"t", "status", .null false⟩) := rfl
  have zone : zoneRange.holds zoneChanged truth =
      (truth ⟨"t", "zone", .between "'east'" "'west'"⟩ || false) := rfl
  have statusRegistered : statusList.isRegistered = true := rfl
  have zoneRegistered : zoneRange.isRegistered = true := rfl
  have statusName : statusList.fieldName = "status" := rfl
  have zoneName : zoneRange.fieldName = "zone" := rfl
  have settings : zoneChanged.mode = .global ∧ zoneChanged.lastSelected = some "zone" ∧
      zoneChanged.duplicateLastSelected = true := ⟨rfl, rfl, rfl⟩
  rw [means truth]
  simp [status, zone, statusRegistered, zoneRegistered, statusName, zoneName, settings]

end WhereClause
