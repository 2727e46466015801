import WhereClause.Proofs.Clause.Text
import WhereClause.Proofs.Section.Reading

/-!
# Validity, reasons and texts agree

Whether a condition, a section or a clause is valid, why it is not, and what its text is are
three answers by three recursions.  A missing further section counts in the second one only:
it is named among the reasons, but only when there is another one.

By one induction over the tree **a section is valid exactly when it has no defect**
(`isValid_iff_defects`), and so exactly when it has no reason and exactly when it has a text.
A clause is valid exactly when it has no reason; it has a text as soon as one of its sections
is valid, and when it is valid itself the texts of all its sections stand in it
(`validity_agrees`).
-/

set_option autoImplicit false

namespace WhereClause

/-! ## Reasons -/

namespace Defect

/-- Every defect has something to say. -/
theorem message_ne_empty (defect : Defect) : defect.message ≠ "" := by
  cases defect with
  | noSections => decide
  | missingSection => decide
  | missingCondition => decide
  | condition defect =>
      unfold message
      simp

variable {defects : List Defect}

/-- There is no reason exactly when there are no defects. -/
theorem messages?_eq_none : messages? defects = none ↔ defects = [] := by
  unfold messages?
  cases defects <;> simp

/-- A reason is never an empty text. -/
theorem messages?_ne_empty (defects : List Defect) : messages? defects ≠ some "" := by
  cases defects with
  | nil => simp [messages?]
  | cons first rest =>
      have told := intercalate_ne_empty ", " (message_ne_empty first) (rest.map Defect.message)
      simpa [messages?] using told

end Defect

/-! ## Conditions and sections -/

/-- A condition is valid exactly when it has no defect. -/
theorem Condition.isValid_iff_defect? {c : Condition} : c.isValid = true ↔ c.defect? = none := by
  unfold defect?
  cases c.isValid with
  | true => simp
  | false => cases c.test <;> simp

namespace Section

mutual
/-- **A section is valid exactly when it has no defect.** -/
theorem isValid_iff_defects : ∀ s : Section, s.isValid = true ↔ s.defects = []
  | .mk none _ _ => by simp [isValid, defects]
  | .mk (some c) joint children => by
      have further := allValid_of_allDefects children
      cases reason : c.defect? with
      | some defect =>
          have invalid : ¬ c.isValid = true := by simp [Condition.isValid_iff_defect?, reason]
          simp [isValid, defects, reason, invalid]
      | none =>
          have valid : c.isValid = true := Condition.isValid_iff_defect?.2 reason
          cases all : allValid children with
          | true => simp [isValid, defects, reason, valid, all]
          | false =>
              have faulty : allDefects children ≠ [] := fun free => by simp [further free] at all
              simp [isValid, defects, reason, valid, all, faulty]

/-- A row without a defect is valid; a missing section is a defect, but does no harm. -/
theorem allValid_of_allDefects : ∀ children : List (Option Section), allDefects children = [] →
    allValid children = true
  | [], _ => rfl
  | none :: rest, free => by simp [allDefects] at free
  | some child :: rest, free => by
      rw [allDefects, List.append_eq_nil_iff] at free
      rw [allValid, (isValid_iff_defects child).2 free.1, allValid_of_allDefects rest free.2]
      rfl
end

variable {s : Section}

theorem isValid_iff_message? : s.isValid = true ↔ s.message? = none := by
  rw [isValid_iff_defects, message?, Defect.messages?_eq_none]

/-- A section that is not valid has no text. -/
theorem render_eq_empty (invalid : ¬ s.isValid = true) : s.render = "" := by
  obtain ⟨_ | c, joint, children⟩ := s
  · rw [render]
  · rw [render, if_neg invalid]

theorem isValid_iff_render : s.isValid = true ↔ s.render ≠ "" :=
  ⟨render_ne_empty, fun written => by_contra fun invalid => written (render_eq_empty invalid)⟩

theorem isValid_iff_renderNext : s.isValid = true ↔ s.renderNext ≠ "" := by
  rw [isValid_iff_render]
  by_cases empty : s.render = "" <;> simp [renderNext, behind, empty]

end Section

/-! ## Clauses -/

namespace Clause

variable {c : Clause}

/-- The clause that is built by adding sections one after another. -/
def ofAdditions (added : List (Role × Option Section)) : Clause :=
  added.foldl (fun c (role, s) => c.add role s) empty

theorem foldl_add (added : List (Role × Option Section)) (c : Clause) :
    added.foldl (fun c (role, s) => c.add role s) c = ⟨c.entries ++ added⟩ := by
  induction added generalizing c with
  | nil => simp
  | cons entry added ih =>
      rw [List.foldl_cons, ih]
      simp [add]

/-- A clause holds what was added to it, in that order. -/
theorem entries_ofAdditions (added : List (Role × Option Section)) :
    (ofAdditions added).entries = added := by
  rw [ofAdditions, foldl_add]
  rfl

/-- A clause is valid exactly when it has sections, none of which is missing or not valid. -/
theorem isValid_iff : c.isValid = true ↔
    c.entries ≠ [] ∧ ∀ entry ∈ c.entries, ∃ s, entry.2 = some s ∧ s.isValid = true := by
  simp only [isValid, Bool.and_eq_true, Bool.not_eq_true', List.isEmpty_eq_false_iff,
    List.all_eq_true, Option.any_eq_true]

/-- **A clause is valid exactly when it has no defect.** -/
theorem isValid_iff_defects : c.isValid = true ↔ c.defects = [] := by
  unfold defects
  cases found : c.entries with
  | nil => simp [isValid, found]
  | cons entry rest =>
      rw [isValid_iff, found]
      simp only [List.isEmpty_cons, Bool.false_eq_true, if_false, List.flatMap_eq_nil_iff]
      constructor
      · rintro ⟨-, all⟩ ⟨role, s⟩ here
        obtain ⟨s, rfl, valid⟩ := all _ here
        exact (Section.isValid_iff_defects s).1 valid
      · intro free
        refine ⟨by simp, fun ⟨role, s⟩ here => ?_⟩
        cases s with
        | none => simpa using free _ here
        | some s => exact ⟨s, rfl, (Section.isValid_iff_defects s).2 (free _ here)⟩

theorem isValid_iff_message? : c.isValid = true ↔ c.message? = none := by
  rw [isValid_iff_defects, message?, Defect.messages?_eq_none]

/-- A clause has a text exactly when it has a body. -/
theorem render_eq_empty_iff_body : c.render = "" ↔ c.body = "" := by
  unfold render
  by_cases nothing : c.body = "" <;> simp [nothing]

/-- **A clause has no text exactly when none of its sections is valid.** -/
theorem render_eq_empty_iff : c.render = "" ↔
    ∀ entry ∈ c.entries, ∀ s ∈ entry.2, s.isValid = false := by
  rw [render_eq_empty_iff_body]
  constructor
  · intro nothing ⟨role, s⟩ here t present
    obtain rfl : s = some t := present
    have within := standsIn_body here
    rw [nothing] at within
    rw [Bool.eq_false_iff]
    exact fun valid => Section.render_ne_empty valid within.eq_empty
  · intro invalid
    have missing (role : Role) : c.texts role = [] := by
      rw [List.eq_nil_iff_forall_not_mem]
      intro text here
      obtain ⟨s, member, rfl, written⟩ := mem_texts.1 here
      have refuted := invalid _ member s rfl
      rw [Section.isValid_iff_render.2 written] at refuted
      cases refuted
    rw [body_eq_empty]
    exact ⟨missing .conjunct, missing .alternative⟩

/-- In a valid clause every section is there, has a text, and is written. -/
theorem written_of_isValid (valid : c.isValid = true) :
    ∀ entry ∈ c.entries, ∃ s, entry.2 = some s ∧ s.render ≠ "" ∧ StandsIn s.render c.body := by
  intro ⟨role, s⟩ here
  obtain ⟨s, rfl, sound⟩ := (isValid_iff.1 valid).2 _ here
  exact ⟨s, rfl, Section.render_ne_empty sound, standsIn_body here⟩

end Clause

/-- **Validity, reasons and texts agree.** A section, whatever it is made of, is valid exactly
when there is no reason against it, and exactly when it has a text, alone or behind its joint;
and its reason, if any, says something.  A clause, whatever was added to it, is valid exactly
when there is no reason against it; it has no text exactly when none of its sections is valid;
and when it is valid, every section is there and its text stands in the body. -/
theorem validity_agrees :
    (∀ s : Section, (s.isValid = true ↔ s.message? = none) ∧ (s.isValid = true ↔ s.render ≠ "") ∧
      (s.isValid = true ↔ s.renderNext ≠ "") ∧ s.message? ≠ some "") ∧
    ∀ added : List (Role × Option Section),
      ((Clause.ofAdditions added).isValid = true ↔ (Clause.ofAdditions added).message? = none) ∧
      ((Clause.ofAdditions added).render = "" ↔
        ∀ entry ∈ added, ∀ s ∈ entry.2, s.isValid = false) ∧
      ((Clause.ofAdditions added).isValid = true → ∀ entry ∈ added,
        ∃ s, entry.2 = some s ∧ s.render ≠ "" ∧
          StandsIn s.render (Clause.ofAdditions added).body) := by
  constructor
  · intro s
    exact ⟨Section.isValid_iff_message?, Section.isValid_iff_render,
      Section.isValid_iff_renderNext, Defect.messages?_ne_empty s.defects⟩
  · intro added
    have entries := Clause.entries_ofAdditions added
    refine ⟨Clause.isValid_iff_message?, ?_, fun valid => ?_⟩
    · rw [Clause.render_eq_empty_iff, entries]
    · have written := Clause.written_of_isValid valid
      rwa [entries] at written

/-- A nested section, with a check for a value as an alternative. -/
def nestedRow : List (Role × Option Section) :=
  [(.conjunct, some Section.nested),
    (.alternative, some (.ofCondition (.nullCheck "D" "t" false)))]

/-- A section with a missing further section and one that lists nothing. -/
def faulty : Section :=
  .mk (some ⟨"A", "", .is "NULL"⟩) .and [none, some (.ofCondition ⟨"B", "", .oneOf []⟩)]

theorem validity_agrees_nestedRow :
    (∀ entry ∈ nestedRow, ∃ s, entry.2 = some s ∧ s.render ≠ "" ∧
        StandsIn s.render (Clause.ofAdditions nestedRow).body) ∧
      faulty.message? = some ("null, The main FilterConditionSection is not valid. Message '" ++
        "No values provided for evaluation. Values are ''.'.") ∧
      faulty.isValid = false ∧ faulty.renderNext = "" := by
  obtain ⟨reason, -, next, -⟩ := validity_agrees.1 faulty
  have told : faulty.message? = some ("null, The main FilterConditionSection is not valid. " ++
      "Message 'No values provided for evaluation. Values are ''.'.") := by rfl
  have invalid : ¬ faulty.isValid = true := fun valid => by
    rw [reason.1 valid] at told
    cases told
  exact ⟨(validity_agrees.2 nestedRow).2.2 (by decide), told, by simpa using invalid,
    not_not.1 (mt next.2 invalid)⟩

end WhereClause
