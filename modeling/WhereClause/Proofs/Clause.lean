import WhereClause.Proofs.Compile.Append

/-!
# What a clause shows

Of a section a clause uses only whether it is valid, what its defects are and what its text
is (`Shown`).  Everything that can be asked of a clause is a function of what its sections
show and of the roles they play, so **two clauses that show the same are the same to whoever
asks** (`observed_eq`): they have the same number of sections, are valid together, give the
same reason when they are not, and have the same text.
-/

set_option autoImplicit false

namespace WhereClause

/-- What a section shows. -/
structure Shown where
  isValid : Bool
  defects : List Defect
  text : String
  deriving DecidableEq, Repr

/-- What a section shows. -/
def Section.shown (s : Section) : Shown := ⟨s.isValid, s.defects, s.render⟩

namespace Section

variable {c d : Condition}

/-- A section shows the same with another condition that is valid together with the first
one, has the same defect and the same text. -/
theorem shown_congr (valid : c.isValid = d.isValid) (defect : c.defect? = d.defect?)
    (text : c.render = d.render) (joint : Joint) (children : List (Option Section)) :
    (mk (some c) joint children).shown = (mk (some d) joint children).shown := by
  simp [shown, isValid, defects, render, valid, defect, text]

end Section

namespace Clause

/-- What the sections of a clause show, each in its role. -/
def shown (c : Clause) : List (Role × Option Shown) :=
  c.entries.map fun (role, s) => (role, s.map Section.shown)

theorem shown_append (c d : Clause) : (c.append d).shown = c.shown ++ d.shown := by
  simp [shown, append]

/-! ## Observations as functions of what is shown -/

variable {c d : Clause}

theorem length_shown (c : Clause) : c.shown.length = c.count := by
  simp [shown, count]

theorem isEmpty_shown (c : Clause) : c.shown.isEmpty = c.entries.isEmpty := by
  simp [shown]

theorem isValid_eq (c : Clause) :
    c.isValid = (!c.shown.isEmpty && c.shown.all fun (_, s) => s.any Shown.isValid) := by
  rw [isEmpty_shown, isValid, shown, List.all_map]
  congr 2
  funext ⟨role, s⟩
  cases s <;> rfl

theorem defects_eq (c : Clause) :
    c.defects = if c.shown.isEmpty then [.noSections]
      else c.shown.flatMap fun (_, s) => (s.map Shown.defects).getD [.missingSection] := by
  rw [isEmpty_shown, defects, shown, List.flatMap_map]
  congr 2
  funext ⟨role, s⟩
  cases s <;> rfl

theorem texts_eq (c : Clause) (role : Role) :
    c.texts role = c.shown.filterMap fun (r, s) =>
      s.bind fun s => if r = role ∧ s.text ≠ "" then some s.text else none := by
  rw [texts, shown, List.filterMap_map]
  congr 1
  funext ⟨r, s⟩
  cases s <;> rfl

/-- **Two clauses that show the same are the same to whoever asks.** -/
theorem observed_eq (same : c.shown = d.shown) :
    c.count = d.count ∧ c.isValid = d.isValid ∧ c.message? = d.message? ∧ c.body = d.body ∧
      c.render = d.render := by
  have texts (role : Role) : c.texts role = d.texts role := by
    rw [texts_eq, texts_eq, same]
  have body : c.body = d.body := by
    rw [Clause.body, Clause.body, texts, texts]
  have defects : c.defects = d.defects := by
    rw [defects_eq, defects_eq, same]
  refine ⟨?_, ?_, ?_, body, ?_⟩
  · rw [← length_shown, same, length_shown]
  · rw [isValid_eq, isValid_eq, same]
  · rw [message?, message?, defects]
  · rw [render, render, body]

end Clause

end WhereClause
