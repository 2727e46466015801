import WhereClause.Clause

/-!
# The text of a clause

The texts of the conjuncts make one block, with AND between them, and the text of every
alternative is a block of its own.  **The body of a clause is the row of its blocks**, with OR
between them and one blank behind the last (`body_eq`).

No block is left out, so the text of every section stands somewhere in the body
(`standsIn_body`).
-/

set_option autoImplicit false

namespace WhereClause

/-! ## Texts within texts -/

/-- Whether a text stands somewhere in another one. -/
def StandsIn (part whole : String) : Prop := ∃ before after, whole = before ++ part ++ after

namespace StandsIn

variable {part whole sep : String} {parts : List String}

theorem refl (text : String) : StandsIn text text := ⟨"", "", by simp⟩

/-- No text stands in every text. -/
theorem empty (whole : String) : StandsIn "" whole := ⟨"", whole, by simp⟩

theorem prepend (h : StandsIn part whole) (front : String) : StandsIn part (front ++ whole) := by
  obtain ⟨before, after, rfl⟩ := h
  exact ⟨front ++ before, after, by simp [String.append_assoc]⟩

theorem append (h : StandsIn part whole) (further : String) : StandsIn part (whole ++ further) := by
  obtain ⟨before, after, rfl⟩ := h
  exact ⟨before, after ++ further, by simp [String.append_assoc]⟩

theorem trans {middle : String} (inner : StandsIn part middle) (outer : StandsIn middle whole) :
    StandsIn part whole := by
  obtain ⟨before, after, rfl⟩ := outer
  exact (inner.prepend before).append after

/-- Only no text stands in no text. -/
theorem eq_empty (h : StandsIn part "") : part = "" := by
  obtain ⟨before, after, joined⟩ := h
  have nothing := joined.symm
  simp only [String.append_eq_empty_iff] at nothing
  exact nothing.1.2

/-- The characters of a part are characters of the whole. -/
theorem mem_toList {c : Char} (h : StandsIn part whole) (here : c ∈ part.toList) :
    c ∈ whole.toList := by
  obtain ⟨before, after, rfl⟩ := h
  simp [here]

/-- Every part stands in the joined text. -/
theorem intercalate (here : part ∈ parts) : StandsIn part (String.intercalate sep parts) := by
  induction parts with
  | nil => cases here
  | cons first rest ih =>
      cases rest with
      | nil =>
          obtain rfl : part = first := by simpa using here
          rw [String.intercalate_singleton]
          exact refl part
      | cons second rest =>
          rw [String.intercalate_cons_cons]
          rcases List.mem_cons.1 here with rfl | further
          · exact ((refl part).append sep).append _
          · exact (ih further).prepend _

end StandsIn

/-! ## Joined texts -/

/-- Joined texts are no text only when the first one is none. -/
theorem intercalate_ne_empty (sep : String) {first : String} (filled : first ≠ "")
    (rest : List String) : String.intercalate sep (first :: rest) ≠ "" := by
  cases rest with
  | nil => rwa [String.intercalate_singleton]
  | cons second rest =>
      rw [String.intercalate_cons_cons]
      simp [filled]

/-- The parts behind the first one each stand behind the separator. -/
theorem intercalate_cons (sep first : String) (rest : List String) :
    String.intercalate sep (first :: rest) =
      first ++ String.join (rest.map fun text => sep ++ text) := by
  induction rest generalizing first with
  | nil => simp [String.intercalate_singleton]
  | cons second rest ih =>
      rw [String.intercalate_cons_cons, ih second, List.map_cons, String.join_cons]
      simp only [String.append_assoc]

namespace Clause

variable {c : Clause} {role : Role}

/-- The blocks of a clause: its conjuncts in one, if there are any, and its alternatives. -/
def blocks (c : Clause) : List String :=
  (if c.texts .conjunct = [] then [] else [String.intercalate " AND " (c.texts .conjunct)]) ++
    c.texts .alternative

/-- The texts in one role are those of its sections that have one. -/
theorem mem_texts {text : String} :
    text ∈ c.texts role ↔ ∃ s, (role, some s) ∈ c.entries ∧ s.render = text ∧ text ≠ "" := by
  unfold texts
  rw [List.mem_filterMap]
  constructor
  · rintro ⟨⟨r, s⟩, here, shown⟩
    cases s with
    | none => cases shown
    | some s =>
        simp only [Option.ite_none_right_eq_some, Option.some.injEq] at shown
        obtain ⟨⟨rfl, filled⟩, rfl⟩ := shown
        exact ⟨s, here, rfl, filled⟩
  · rintro ⟨s, here, rfl, filled⟩
    exact ⟨(role, some s), here, by simp [filled]⟩

theorem texts_ne_empty {text : String} (here : text ∈ c.texts role) : text ≠ "" := by
  obtain ⟨-, -, -, filled⟩ := mem_texts.1 here
  exact filled

/-- The conjuncts that have a text make one. -/
theorem conjunction_eq_empty :
    String.intercalate " AND " (c.texts .conjunct) = "" ↔ c.texts .conjunct = [] := by
  cases found : c.texts .conjunct with
  | nil => simp
  | cons first rest =>
      have here : first ∈ c.texts .conjunct := by simp [found]
      simp [intercalate_ne_empty " AND " (texts_ne_empty here) rest]

theorem blocks_ne_empty {text : String} (here : text ∈ c.blocks) : text ≠ "" := by
  rcases List.mem_append.1 here with conjunction | alternative
  · split at conjunction
    · cases conjunction
    · next several =>
        rw [List.mem_singleton.1 conjunction]
        exact mt conjunction_eq_empty.1 several
  · exact texts_ne_empty alternative

/-- Alternatives that have a text are joined by OR to what stands before them. -/
theorem foldl_orElse {alternatives : List String} (filled : ∀ text ∈ alternatives, text ≠ "")
    (text : String) :
    alternatives.foldl orElse text =
      String.intercalate " OR " ((if text = "" then [] else [text]) ++ alternatives) := by
  induction alternatives generalizing text with
  | nil => by_cases empty : text = "" <;> simp [empty]
  | cons first rest ih =>
      have firstFilled : first ≠ "" := filled first (by simp)
      have restFilled : ∀ text ∈ rest, text ≠ "" := fun text here =>
        filled text (List.mem_cons_of_mem first here)
      rw [List.foldl_cons, ih restFilled]
      by_cases empty : text = ""
      · simp [orElse, empty, firstFilled]
      · simp [orElse, empty, String.append_assoc]

/-- **The body of a clause is the row of its blocks**, with one blank behind the last. -/
theorem body_eq (c : Clause) :
    c.body = if c.blocks = [] then "" else String.intercalate " OR " c.blocks ++ " " := by
  have alternatives : ∀ text ∈ c.texts .alternative, text ≠ "" := fun _ => texts_ne_empty
  have whole : (c.texts .alternative).foldl orElse
      (String.intercalate " AND " (c.texts .conjunct)) = String.intercalate " OR " c.blocks := by
    rw [foldl_orElse alternatives, blocks,
      ite_congr (propext conjunction_eq_empty) (fun _ => rfl) fun _ => rfl]
  unfold body
  simp only [whole]
  cases found : c.blocks with
  | nil => simp
  | cons first rest =>
      have here : first ∈ c.blocks := by simp [found]
      simp [intercalate_ne_empty " OR " (blocks_ne_empty here) rest]

/-- The body of a clause with conjuncts is their block, and every alternative behind an OR. -/
theorem body_of_conjuncts (several : c.texts .conjunct ≠ []) :
    c.body = String.intercalate " AND " (c.texts .conjunct) ++
      String.join ((c.texts .alternative).map fun text => " OR " ++ text) ++ " " := by
  rw [body_eq, blocks, if_neg several, List.singleton_append, intercalate_cons,
    if_neg (List.cons_ne_nil _ _)]

/-- The body of a clause is missing exactly when no section has a text. -/
theorem body_eq_empty : c.body = "" ↔ c.texts .conjunct = [] ∧ c.texts .alternative = [] := by
  rw [body_eq]
  by_cases nothing : c.blocks = []
  · simp only [nothing, if_true, true_iff]
    simpa [blocks] using nothing
  · simp only [nothing, if_false]
    simpa [blocks] using nothing

/-- The text of a section stands in a block. -/
theorem exists_block {text : String} (here : text ∈ c.texts role) :
    ∃ block ∈ c.blocks, StandsIn text block := by
  cases role with
  | conjunct =>
      have several : c.texts .conjunct ≠ [] := List.ne_nil_of_mem here
      exact ⟨String.intercalate " AND " (c.texts .conjunct), by simp [blocks, several],
        StandsIn.intercalate here⟩
  | alternative => exact ⟨text, by simp [blocks, here], StandsIn.refl text⟩

/-- **The text of every section stands in the body.** -/
theorem standsIn_body {s : Section} (here : (role, some s) ∈ c.entries) :
    StandsIn s.render c.body := by
  by_cases empty : s.render = ""
  · rw [empty]
    exact StandsIn.empty c.body
  · obtain ⟨block, member, within⟩ := exists_block (mem_texts.2 ⟨s, here, rfl, empty⟩)
    have filled : c.blocks ≠ [] := List.ne_nil_of_mem member
    rw [body_eq, if_neg filled]
    exact (within.trans (StandsIn.intercalate member)).append " "

end Clause

end WhereClause
