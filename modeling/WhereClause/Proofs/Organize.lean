import WhereClause.Organize
import WhereClause.Proofs.Filter.Section

/-!
# Organizing a filter is atomic

Everything that can fail when a filter is organized is done before anything is added.  The
section is made first; a filter that has one has a column, so the second look at the column
never fails (`isLastSelected_of_toSection`).

**Organizing a filter fails exactly as its section does, and then leaves the clause as it was;
otherwise it adds that section behind what was there, once or twice** (`organize_cases`).  A
compilation adds filters in the same way (`addTo_eq_outcome`).
-/

set_option autoImplicit false

namespace WhereClause

/-! ## Outcomes -/

namespace Building

variable {α β : Type}

/-- What is done behind a step starts from the clause that the step leaves. -/
theorem outcome_bind (first : Building α) (second : α → Building β) (c : Clause) :
    (first >>= second).outcome c =
      match first.outcome c with
      | (.ok a, d) => (second a).outcome d
      | (.error failure, d) => (.error failure, d) := by
  simp only [outcome, ExceptT.run_bind, StateT.run_bind]
  show (_ : Except Failure β × Clause) = _
  rcases first.run.run c with ⟨_ | _, d⟩ <;> rfl

/-- A result that does not touch the clause leaves it as it is. -/
theorem outcome_lift (e : Except Failure α) (c : Clause) :
    (liftM e : Building α).outcome c = (e, c) :=
  rfl

theorem outcome_add (role : Role) (s : Option Section) (c : Clause) :
    (add role s).outcome c = (.ok (), c.add role s) :=
  rfl

end Building

namespace Filter

variable {f : Filter} {o : Options} {s : Section}

/-! ## The two ways -/

/-- **A filter that has a section has a column**, so that it can be told whether it was changed
last. -/
theorem isLastSelected_of_toSection (built : f.toSection o = .ok s) :
    ∃ field, f.field = .ok field ∧ f.isLastSelected o = .ok (o.lastSelected == some field) := by
  obtain ⟨field, named, -⟩ := toSection_cases built
  refine ⟨field, named, ?_⟩
  rw [isLastSelected, named]
  rfl

/-- Without a section neither way adds anything. -/
theorem outcome_organize_of_error {failure : Failure} (failed : f.toSection o = .error failure)
    (mode : Mode) (c : Clause) : (f.organize mode o).outcome c = (.error failure, c) := by
  cases mode with
  | default => rw [organize, organizeDefault, failed, Building.outcome_bind, Building.outcome_lift]
  | global => rw [organize, organizeGlobal, failed, Building.outcome_bind, Building.outcome_lift]

/-- With a section both ways add it, and the global one adds it once more when the filter was
changed last. -/
theorem outcome_organize_of_ok {last : Bool} (built : f.toSection o = .ok s)
    (told : f.isLastSelected o = .ok last) (mode : Mode) (c : Clause) :
    (f.organize mode o).outcome c =
      (.ok (), if mode == .global && last && o.duplicateLastSelected then
        (c.add .conjunct (some s)).add .alternative (some s) else c.add .conjunct (some s)) := by
  cases mode with
  | default =>
      rw [organize, organizeDefault, built, Building.outcome_bind, Building.outcome_lift]
      rfl
  | global =>
      rw [organize, organizeGlobal, built, told, Building.outcome_bind, Building.outcome_lift]
      simp only [Building.outcome_bind, Building.outcome_lift, Building.outcome_add]
      cases last <;> cases o.duplicateLastSelected <;> rfl

/-- **What a compilation adds to a clause** is what organizing the filter in its mode leaves. -/
theorem addTo_eq_outcome (f : Filter) (o : Options) (c : Clause) :
    f.addTo o c =
      match (f.organize o.mode o).outcome c with
      | (.ok (), d) => .ok d
      | (.error failure, _) => .error failure := by
  cases built : f.toSection o with
  | error failure =>
      rw [outcome_organize_of_error built, addTo, built]
      rfl
  | ok s =>
      obtain ⟨field, named, told⟩ := isLastSelected_of_toSection built
      rw [outcome_organize_of_ok built told, addTo, built, named]
      rfl

/-! ## Both at once -/

/-- **Organizing a filter is atomic.** When the filter has no section both ways fail with the
failure of the section and leave the clause as it was.  Otherwise neither fails, the second look
at the column included, and both add the section as a conjunct behind what was there; the
global way adds it once more, as an alternative, exactly when the column is the one that was
changed last and second sections are wanted. -/
theorem organize_cases (f : Filter) (o : Options) (c : Clause) :
    (∃ failure, f.toSection o = .error failure ∧
        ∀ mode, (f.organize mode o).outcome c = (.error failure, c)) ∨
      ∃ s field, f.toSection o = .ok s ∧ f.field = .ok field ∧
        f.isLastSelected o = .ok (o.lastSelected == some field) ∧
        ∀ mode, ∃ d, (f.organize mode o).outcome c = (.ok (), d) ∧
          d.entries = c.entries ++ (.conjunct, some s) ::
            if mode = .global ∧ o.lastSelected = some field ∧ o.duplicateLastSelected = true then
              [(.alternative, some s)]
            else [] := by
  cases built : f.toSection o with
  | error failure => exact .inl ⟨failure, rfl, fun mode => outcome_organize_of_error built mode c⟩
  | ok s =>
      obtain ⟨field, named, told⟩ := isLastSelected_of_toSection built
      refine .inr ⟨s, field, rfl, named, told, ?_⟩
      intro mode
      refine ⟨_, outcome_organize_of_ok built told mode c, ?_⟩
      by_cases twice : mode = .global ∧ o.lastSelected = some field ∧ o.duplicateLastSelected = true
      · simp [twice, Clause.add]
      · have once : (mode == .global && o.lastSelected == some field &&
            o.duplicateLastSelected) = false := by
          rw [Bool.eq_false_iff]
          intro all
          exact twice (by simpa [and_assoc] using all)
        rw [if_neg twice, once]
        rfl

end Filter

end WhereClause
