import WhereClause.Compile

/-!
# What a list of filters adds to a clause

A filter can be used when it has a column and, if it takes part, a section.  It then
adds that section as a conjunct, and once more as an alternative when it is the one
that was changed last (`register_ok_iff`).  By induction over the filters, **a
compilation succeeds exactly when every filter can be used, and its clause then holds
what the filters add, in their order** (`compile_ok_iff`).  Otherwise it fails as the first
filter does that cannot be used (`compile_error_iff`).

What the filters add is one section for each of them that takes part, and one more for each
that has a second section; so the texts in either role are those of some of the filters that
take part (`texts_registered`).
-/

set_option autoImplicit false

namespace WhereClause

namespace Filter

/-- The database's name of the column; empty when there is no one column. -/
def fieldName (f : Filter) : String :=
  match f.field with
  | .ok field => field
  | .error _ => ""

/-- The section that a filter has; one without a condition when it has none. -/
def builtSection (o : Options) (f : Filter) : Section :=
  match f.toSection o with
  | .ok s => s
  | .error _ => .mk none .and []

/-- Whether a filter is the one that was changed last and has a second section. -/
def isTwin (o : Options) (f : Filter) : Bool := isDuplicated o f.fieldName

/-- What a filter adds to a clause. -/
def additions (o : Options) (f : Filter) : List (Role × Option Section) :=
  if f.isRegistered then
    (.conjunct, some (f.builtSection o)) ::
      if f.isTwin o then [(.alternative, some (f.builtSection o))] else []
  else []

/-- A filter can be used when it has a column and, if it takes part, a section. -/
def Usable (o : Options) (f : Filter) : Prop :=
  (∃ field, f.field = .ok field) ∧
    (f.isRegistered = true → ∃ s, f.toSection o = .ok s)

variable {o : Options} {f : Filter}

theorem fieldName_eq {field : String} (named : f.field = .ok field) : f.fieldName = field := by
  rw [fieldName, named]

theorem builtSection_eq {s : Section} (built : f.toSection o = .ok s) : f.builtSection o = s := by
  rw [builtSection, built]

/-- The section of a filter that takes part. -/
theorem Usable.toSection (usable : f.Usable o) (registered : f.isRegistered = true) :
    f.toSection o = .ok (f.builtSection o) := by
  obtain ⟨s, built⟩ := usable.2 registered
  rw [builtSection_eq built, built]

theorem check_ok_iff : f.check = .ok () ↔ ∃ field, f.field = .ok field := by
  unfold check field
  cases f.column <;> simp [Except.map]

/-- **One filter** is added to a clause exactly when it can be used. -/
theorem register_ok_iff (c d : Clause) :
    register o c f = .ok d ↔ f.Usable o ∧ d = ⟨c.entries ++ f.additions o⟩ := by
  cases checked : f.check with
  | error failure =>
      have missing : ¬ f.Usable o := by
        rintro ⟨named, -⟩
        rw [check_ok_iff.2 named] at checked
        cases checked
      simp [register, checked, bind, Except.bind, missing]
  | ok =>
      obtain ⟨field, named⟩ := check_ok_iff.1 checked
      cases registered : f.isRegistered with
      | false =>
          have usable : f.Usable o := ⟨⟨field, named⟩, by simp [registered]⟩
          have same : c = d ↔ d = ⟨c.entries⟩ := eq_comm
          simp [register, checked, registered, additions, usable, same, bind, Except.bind]
      | true =>
          cases built : f.toSection o with
          | error failure =>
              simp [register, addTo, checked, registered, Usable, built, bind, Except.bind]
          | ok s =>
              have usable : f.Usable o := ⟨⟨field, named⟩, fun _ => ⟨s, built⟩⟩
              cases twin : isDuplicated o field <;>
                simp [register, addTo, checked, registered, additions, usable, built, named, twin,
                  isTwin, fieldName_eq named, builtSection_eq built, Clause.add, bind, Except.bind,
                  eq_comm]

/-- A list of filters is added to a clause exactly when each of them can be used. -/
theorem foldlM_register_ok_iff (filters : List Filter) (c d : Clause) :
    filters.foldlM (register o) c = .ok d ↔
      (∀ f ∈ filters, f.Usable o) ∧ d = ⟨c.entries ++ filters.flatMap (additions o)⟩ := by
  induction filters generalizing c with
  | nil =>
      simp [pure, Except.pure, eq_comm]
  | cons f filters ih =>
      rw [List.foldlM_cons]
      cases first : register o c f with
      | error failure =>
          have unusable : ¬ f.Usable o := by
            intro usable
            rw [(register_ok_iff c _).2 ⟨usable, rfl⟩] at first
            cases first
          simp [bind, Except.bind, unusable]
      | ok middle =>
          obtain ⟨usable, rfl⟩ := (register_ok_iff c middle).1 first
          have step := ih ⟨c.entries ++ f.additions o⟩
          simpa [bind, Except.bind, usable] using step

/-! ## The first failure -/

/-- The failure of a filter that cannot be used. -/
def failure? (o : Options) (f : Filter) : Option Failure :=
  match f.check with
  | .error failure => some failure
  | .ok () =>
      match f.isRegistered, f.toSection o with
      | true, .error failure => some failure
      | _, _ => none

/-- **One filter** that cannot be used ends the compilation with its failure. -/
theorem register_error_iff (c : Clause) {failure : Failure} :
    register o c f = .error failure ↔ f.failure? o = some failure := by
  unfold register failure? addTo
  cases checked : f.check with
  | error refusal => simp [bind, Except.bind]
  | ok =>
      obtain ⟨field, named⟩ := check_ok_iff.1 checked
      cases registered : f.isRegistered with
      | false => simp [bind, Except.bind]
      | true =>
          cases built : f.toSection o with
          | error refusal => simp [bind, Except.bind]
          | ok s => cases twin : isDuplicated o field <;> simp [named, bind, Except.bind]

/-- A list of filters fails as the first one does that cannot be used. -/
theorem foldlM_register_error_iff (filters : List Filter) (c : Clause) {failure : Failure} :
    filters.foldlM (register o) c = .error failure ↔
      filters.findSome? (failure? o) = some failure := by
  induction filters generalizing c with
  | nil => simp [pure, Except.pure]
  | cons f filters ih =>
      rw [List.foldlM_cons, List.findSome?_cons]
      cases first : register o c f with
      | error refusal =>
          rw [(register_error_iff c).1 first]
          simp [bind, Except.bind]
      | ok d =>
          have free : f.failure? o = none := by
            rw [Option.eq_none_iff_forall_ne_some]
            intro refusal found
            rw [(register_error_iff c).2 found] at first
            cases first
          rw [free]
          exact ih d

end Filter

/-- **A compilation fails as the first filter does that cannot be used.** -/
theorem compile_error_iff (filters : List Filter) (o : Options) {failure : Failure} :
    compile filters o = .error failure ↔
      filters.findSome? (Filter.failure? o) = some failure :=
  Filter.foldlM_register_error_iff filters Clause.empty

/-- **A compilation succeeds exactly when every filter can be used**, and its clause
then holds what the filters add. -/
theorem compile_ok_iff (filters : List Filter) (o : Options) (c : Clause) :
    compile filters o = .ok c ↔
      (∀ f ∈ filters, f.Usable o) ∧ c.entries = filters.flatMap (Filter.additions o) := by
  rw [compile, Filter.foldlM_register_ok_iff]
  obtain ⟨entries⟩ := c
  simp [Clause.empty]

/-! ## The filters that take part -/

namespace Filter

variable {o : Options}

/-- The filters that take part. -/
def registered (filters : List Filter) : List Filter := filters.filter isRegistered

/-- Whether a filter that takes part has a section in some role. -/
def plays (o : Options) : Role → Filter → Bool
  | .conjunct, _ => true
  | .alternative, f => f.isTwin o

/-- The filters that take part and have a second section. -/
def twins (o : Options) (filters : List Filter) : List Filter :=
  (registered filters).filter (plays o .alternative)

theorem plays_conjunct (o : Options) (f : Filter) : plays o .conjunct f = true := rfl

theorem mem_registered {filters : List Filter} {f : Filter} :
    f ∈ registered filters ↔ f ∈ filters ∧ f.isRegistered = true :=
  List.mem_filter

/-- A filter that was changed last has a second section in the global mode. -/
theorem mem_twins {filters : List Filter} {f : Filter} :
    f ∈ twins o filters ↔ (f ∈ filters ∧ f.isRegistered = true) ∧
      (o.mode = .global ∧ o.lastSelected = some f.fieldName) ∧ o.duplicateLastSelected = true := by
  simp [twins, mem_registered, plays, isTwin, isDuplicated]

/-- Every filter that takes part adds one section, and one more when it has a second one. -/
theorem length_additions (o : Options) (filters : List Filter) :
    (filters.flatMap (additions o)).length =
      (registered filters).length + (twins o filters).length := by
  induction filters with
  | nil => rfl
  | cons f filters ih =>
      rw [List.flatMap_cons, List.length_append, ih, additions]
      unfold twins registered
      cases takesPart : f.isRegistered with
      | false => simp [takesPart]
      | true =>
          cases twin : f.isTwin o with
          | false =>
              simp [takesPart, plays, twin]
              omega
          | true =>
              simp [takesPart, plays, twin]
              omega

/-- **The texts in one role** are those of the filters that have a section in it, as far as
their sections have one. -/
theorem texts_registered (role : Role) (filters : List Filter) :
    Clause.texts ⟨filters.flatMap (additions o)⟩ role =
      (((registered filters).filter (plays o role)).map fun f =>
        (f.builtSection o).render).filter (· ≠ "") := by
  induction filters with
  | nil => rfl
  | cons f filters ih =>
      unfold Clause.texts registered at ih ⊢
      rw [List.flatMap_cons, List.filterMap_append, ih, additions]
      cases takesPart : f.isRegistered with
      | false => simp [takesPart]
      | true =>
          by_cases text : (f.builtSection o).render = "" <;> cases role <;>
            cases twin : f.isTwin o <;>
              simp [takesPart, List.filter_cons, plays, twin, text]

end Filter

end WhereClause
