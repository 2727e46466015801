import WhereClause.Proofs.Agreement

/-!
# What the text of a clause depends on

Sections are added to a clause one after another, conjuncts and alternatives in any order, and
some of them may be missing or not valid.  Those leave nothing in the text, and of the others only
the order within each role shows: the text is made from the two rows of valid sections
(`standing`), the conjuncts and the alternatives.

So **two rows of additions with the same valid sections in either role have one text**
(`SameText.of_standing`).  In particular the text does not change when two neighbours in different
roles change places, or when a section that is missing or not valid comes in or goes.
-/

set_option autoImplicit false

namespace WhereClause.Clause

variable {role : Role} {added others : List (Role × Option Section)}

/-- The valid sections that were added in one role, in their order. -/
def standing (role : Role) (added : List (Role × Option Section)) : List Section :=
  added.filterMap fun (r, s) => if r = role then s.filter Section.isValid else none

/-- The texts of the sections that were added in one role, in their order, as far as they have
one. -/
def written (role : Role) (added : List (Role × Option Section)) : List String :=
  (((added.filter fun entry => entry.1 = role).filterMap Prod.snd).map Section.render).filter
    (· ≠ "")

/-! ## Rows of valid sections -/

theorem standing_append (role : Role) (added others : List (Role × Option Section)) :
    standing role (added ++ others) = standing role added ++ standing role others :=
  List.filterMap_append

theorem standing_cons (role : Role) (entry : Role × Option Section)
    (added : List (Role × Option Section)) :
    standing role (entry :: added) = standing role [entry] ++ standing role added :=
  standing_append role [entry] added

theorem written_cons (role : Role) (entry : Role × Option Section)
    (added : List (Role × Option Section)) :
    written role (entry :: added) = written role [entry] ++ written role added := by
  unfold written
  rw [← List.singleton_append, List.filter_append, List.filterMap_append, List.map_append,
    List.filter_append]

/-- A section in one role does not stand in the other. -/
theorem standing_of_ne {r : Role} (other : r ≠ role) (s : Option Section) :
    standing role [(r, s)] = [] := by
  simp [standing, other]

/-- A section that is missing or not valid stands in no role. -/
theorem standing_of_invalid {s : Option Section} (invalid : ∀ t ∈ s, t.isValid = false) (r : Role) :
    standing role [(r, s)] = [] := by
  cases s with
  | none => simp [standing]
  | some t => simp [standing, invalid t rfl]

/-- One section has a text exactly when it is valid. -/
theorem written_single (role r : Role) (s : Option Section) :
    written role [(r, s)] = (standing role [(r, s)]).map Section.render := by
  by_cases here : r = role
  · cases s with
    | none => simp [written, standing, here]
    | some t =>
        cases valid : t.isValid with
        | true =>
            have filled : t.render ≠ "" := Section.isValid_iff_render.1 valid
            simp [written, standing, Option.filter, here, valid, filled]
        | false =>
            have empty : t.render = "" := Section.render_eq_empty (by simp [valid])
            simp [written, standing, here, valid, empty]
  · simp [written, standing, here]

/-- **The sections that have a text are the valid ones.** -/
theorem written_eq (role : Role) (added : List (Role × Option Section)) :
    written role added = (standing role added).map Section.render := by
  induction added with
  | nil => rfl
  | cons entry added ih =>
      rw [written_cons, standing_cons, List.map_append, ih, written_single]

/-! ## The text of a clause -/

/-- One more section at the end of a clause adds its text in its role. -/
theorem texts_add (c : Clause) (role r : Role) (s : Option Section) :
    (c.add r s).texts role = c.texts role ++ written role [(r, s)] := by
  rw [texts, add, List.filterMap_append]
  refine congrArg (c.texts role ++ ·) ?_
  by_cases here : r = role
  · cases s with
    | none => simp [written, here]
    | some t => by_cases empty : t.render = "" <;> simp [written, here, empty]
  · cases s <;> simp [written, here]

/-- **The texts of a clause in one role are those of what was added in it.** -/
theorem texts_foldl_add (role : Role) (added : List (Role × Option Section)) (c : Clause) :
    (added.foldl (fun c (r, s) => c.add r s) c).texts role =
      c.texts role ++ written role added := by
  induction added generalizing c with
  | nil => simp [written]
  | cons entry added ih =>
      rw [List.foldl_cons, ih, texts_add, List.append_assoc, ← written_cons]

theorem texts_ofAdditions (role : Role) (added : List (Role × Option Section)) :
    (ofAdditions added).texts role = written role added := by
  rw [ofAdditions, texts_foldl_add]
  rfl

/-- Two rows of additions have one text. -/
def SameText (added others : List (Role × Option Section)) : Prop :=
  (ofAdditions added).body = (ofAdditions others).body ∧
    (ofAdditions added).render = (ofAdditions others).render

/-- **Rows with the same valid sections in either role have one text.** -/
theorem SameText.of_standing (same : ∀ role, standing role added = standing role others) :
    SameText added others := by
  have texts (role : Role) : (ofAdditions added).texts role = (ofAdditions others).texts role := by
    rw [texts_ofAdditions, texts_ofAdditions, written_eq, written_eq, same]
  have body : (ofAdditions added).body = (ofAdditions others).body := by
    rw [Clause.body, Clause.body, texts, texts]
  exact ⟨body, by rw [Clause.render, Clause.render, body]⟩

/-- Neighbours in different roles may change places. -/
theorem SameText.swap {r r' : Role} (different : r ≠ r') (s s' : Option Section)
    (before after : List (Role × Option Section)) :
    SameText (before ++ (r, s) :: (r', s') :: after) (before ++ (r', s') :: (r, s) :: after) := by
  apply SameText.of_standing
  intro role
  rw [standing_append, standing_append, standing_cons, standing_cons role _ after,
    standing_cons role (r', s') (_ :: _), standing_cons role _ after]
  by_cases here : r = role
  · have other : r' ≠ role := fun there => different (here.trans there.symm)
    rw [standing_of_ne other, List.nil_append, List.nil_append]
  · rw [standing_of_ne here, List.nil_append, List.nil_append]

/-- A section that is missing or not valid may come in or go anywhere. -/
theorem SameText.drop {s : Option Section} (invalid : ∀ t ∈ s, t.isValid = false) (r : Role)
    (before after : List (Role × Option Section)) :
    SameText (before ++ (r, s) :: after) (before ++ after) := by
  apply SameText.of_standing
  intro role
  rw [standing_append, standing_cons, standing_of_invalid invalid, List.nil_append,
    ← standing_append]

/-- The body of a clause by the texts of what was added. -/
theorem body_ofAdditions (added : List (Role × Option Section)) :
    (ofAdditions added).body =
      if written .conjunct added = [] ∧ written .alternative added = [] then ""
      else String.intercalate " OR " ((if written .conjunct added = [] then []
        else [String.intercalate " AND " (written .conjunct added)]) ++
          written .alternative added) ++ " " := by
  have nothing : (ofAdditions added).blocks = [] ↔
      written .conjunct added = [] ∧ written .alternative added = [] := by
    rw [blocks, texts_ofAdditions, texts_ofAdditions, List.append_eq_nil_iff]
    simp
  rw [body_eq, ite_congr (propext nothing) (fun _ => rfl) fun _ => rfl, blocks, texts_ofAdditions,
    texts_ofAdditions]

/-- **The text of a clause depends on its valid sections alone.** Whatever was added, in whatever
order, the body is made from the texts of the conjuncts, with AND between them, and from those of
the alternatives, with OR between the blocks.  So it is the same for any other row with the same
valid sections in either role: neighbours in different roles may change places, and sections that
are missing or not valid may come in or go anywhere. -/
theorem text_of_additions (added : List (Role × Option Section)) :
    ((ofAdditions added).body =
      if written .conjunct added = [] ∧ written .alternative added = [] then ""
      else String.intercalate " OR " ((if written .conjunct added = [] then []
        else [String.intercalate " AND " (written .conjunct added)]) ++
          written .alternative added) ++ " ") ∧
    (∀ others, (∀ role, standing role added = standing role others) → SameText added others) ∧
    (∀ before after r s r' s', r ≠ r' → added = before ++ (r, s) :: (r', s') :: after →
      SameText added (before ++ (r', s') :: (r, s) :: after)) ∧
    ∀ before after r s, (∀ t ∈ s, t.isValid = false) → added = before ++ (r, s) :: after →
      SameText added (before ++ after) := by
  refine ⟨body_ofAdditions added, fun others => SameText.of_standing, ?_, ?_⟩
  · rintro before after r s r' s' different rfl
    exact SameText.swap different s s' before after
  · rintro before after r s invalid rfl
    exact SameText.drop invalid r before after

/-- A row that begins with an alternative, and in which one section is not valid and one is
missing. -/
def mixedRow : List (Role × Option Section) :=
  [(.alternative, some (.ofCondition (.nullCheck "zone" "t" false))),
    (.conjunct, some (.ofCondition ⟨"id", "t", .oneOf ["1", "2"]⟩)),
    (.conjunct, some faulty),
    (.conjunct, some (.ofCondition ⟨"year", "t", .within (.single "2020") .atMost⟩)),
    (.alternative, none)]

theorem text_of_additions_mixedRow :
    faulty.isValid = false ∧
      (ofAdditions mixedRow).body = "t.id IN (1,2) AND t.year <= 2020 OR t.zone IS NULL " ∧
      SameText mixedRow ((mixedRow.take 2).reverse ++ mixedRow.drop 2) ∧
      SameText mixedRow (mixedRow.take 2 ++ mixedRow.drop 3) ∧
      SameText mixedRow ((mixedRow.take 2).reverse ++ (mixedRow.drop 3).take 1) := by
  obtain ⟨text, depends, swap, drop⟩ := text_of_additions mixedRow
  have invalid : faulty.isValid = false := by decide
  refine ⟨invalid, ?_, ?_, ?_, ?_⟩
  · rw [text]
    decide +kernel
  · exact swap [] (mixedRow.drop 2) .alternative _ .conjunct _ (by decide) rfl
  · refine drop (mixedRow.take 2) (mixedRow.drop 3) .conjunct (some faulty) ?_ rfl
    rintro _ ⟨⟩
    exact invalid
  · apply depends
    rintro (_ | _) <;> rfl

end WhereClause.Clause
