import WhereClause.Text.Blank
import Mathlib.Data.List.DropRight

/-!
# Trimmed texts

A text is trimmed when it has white space at neither end.  Trimming leads to such a text
(`isTrimmed_trimmed`), and such texts are the ones that it leaves as they are
(`trimmed_eq_self_iff`).

White space that is put around a text is taken off with whatever white space the text had itself:
**what trimming leaves does not depend on it** (`trimmed_surrounded`).
-/

set_option autoImplicit false

namespace WhereClause.Text

/-- A text that does not begin with white space. -/
def BeginsVisible (s : List Char) : Prop := ∀ c ∈ s.head?, isBlank c = false

/-- A text that does not end in white space. -/
def EndsVisible (s : List Char) : Prop := ∀ c ∈ s.getLast?, isBlank c = false

theorem endsVisible_iff {s : List Char} :
    (s.getLast?.all fun c => !isBlank c) = true ↔ EndsVisible s := by
  unfold EndsVisible
  cases s.getLast? <;> simp

instance (s : List Char) : Decidable (EndsVisible s) := decidable_of_iff _ endsVisible_iff

/-- A text with white space at neither end. -/
structure IsTrimmed (s : List Char) : Prop where
  front : BeginsVisible s
  back : EndsVisible s

variable {s t before after : List Char}

/-! ## The end of a text -/

/-- White space is taken off the end as far as the last character that is none. -/
theorem dropBlankEnd_append {c : Char} (visible : isBlank c = false) (s t : List Char) :
    dropBlankEnd (s ++ c :: t) = s ++ c :: dropBlankEnd t := by
  unfold dropBlankEnd
  rw [List.reverse_append, List.reverse_cons, List.append_assoc, List.dropWhile_append]
  split
  · next all =>
      rw [List.isEmpty_iff] at all
      rw [all, List.singleton_append, List.dropWhile_cons, if_neg (by simp [visible])]
      simp
  · simp

/-- Taking white space off the end leaves the beginning of a text. -/
theorem dropBlankEnd_isPrefix (s : List Char) : dropBlankEnd s <+: s :=
  List.rdropWhile_prefix isBlank s

theorem dropBlankEnd_surrounded (blank : after.all isBlank = true) (s : List Char) :
    dropBlankEnd (s ++ after) = dropBlankEnd s := by
  have each : ∀ c ∈ after.reverse, isBlank c = true := by
    intro c here
    exact List.all_eq_true.1 blank c (List.mem_reverse.1 here)
  rw [dropBlankEnd, List.reverse_append, List.dropWhile_append_of_pos each, dropBlankEnd]

theorem endsVisible_dropBlankEnd (s : List Char) : EndsVisible (dropBlankEnd s) := by
  intro c last
  obtain ⟨nonempty, rfl⟩ := List.mem_getLast?_eq_getLast last
  exact Bool.eq_false_iff.2 (List.rdropWhile_last_not isBlank s nonempty)

theorem EndsVisible.dropBlankEnd_eq (visible : EndsVisible s) : dropBlankEnd s = s := by
  apply List.rdropWhile_eq_self_iff.2
  intro nonempty
  rw [visible _ (List.getLast?_eq_some_getLast nonempty)]
  exact Bool.false_ne_true

theorem EndsVisible.append (first : EndsVisible s) (second : EndsVisible t) :
    EndsVisible (s ++ t) := by
  intro c last
  rw [List.getLast?_append] at last
  rcases Option.or_eq_some_iff.1 last with inside | ⟨-, before⟩
  · exact second c inside
  · exact first c before

theorem EndsVisible.of_append (visible : EndsVisible (s ++ t)) : EndsVisible t := by
  intro c last
  apply visible c
  rw [List.getLast?_append]
  exact Option.or_eq_some_iff.2 (.inl last)

/-! ## Both ends -/

theorem dropBlank_surrounded (blank : before.all isBlank = true) (s : List Char) :
    dropBlank (before ++ s) = dropBlank s :=
  List.dropWhile_append_of_pos (List.all_eq_true.1 blank)

/-- **White space around a text does not matter to what trimming leaves of it.** -/
theorem trimmed_surrounded (blankBefore : before.all isBlank = true)
    (blankAfter : after.all isBlank = true) (s : List Char) :
    trimmed (before ++ s ++ after) = trimmed s := by
  rw [trimmed, List.append_assoc, dropBlank_surrounded blankBefore, trimmed]
  by_cases all : s.all isBlank = true
  · have both : (s ++ after).all isBlank = true := by rw [List.all_append, all, blankAfter]; rfl
    rw [dropBlank_of_all all, dropBlank_of_all both]
  · have left : ¬ (List.dropWhile isBlank s).isEmpty = true := by
      rw [List.isEmpty_iff, List.dropWhile_eq_nil_iff, ← List.all_eq_true]
      exact all
    have front : dropBlank (s ++ after) = dropBlank s ++ after := by
      rw [dropBlank, List.dropWhile_append, if_neg left, dropBlank]
    rw [front, dropBlankEnd_surrounded blankAfter]

theorem trimmed_surroundedText {before after : String} (blankBefore : isBlankText before = true)
    (blankAfter : isBlankText after = true) (text : String) :
    trimmed (before ++ text ++ after).toList = trimmed text.toList := by
  rw [String.toList_append, String.toList_append]
  exact trimmed_surrounded blankBefore blankAfter text.toList

theorem beginsVisible_dropBlank (s : List Char) : BeginsVisible (dropBlank s) := by
  intro c first
  have kept := List.head?_dropWhile_not isBlank s
  rw [show (List.dropWhile isBlank s).head? = some c from first] at kept
  exact kept

/-- The beginning of a text begins as the text does. -/
theorem BeginsVisible.of_isPrefix (visible : BeginsVisible t) (starts : s <+: t) :
    BeginsVisible s := by
  obtain ⟨more, rfl⟩ := starts
  intro c first
  apply visible c
  rw [List.head?_append]
  exact Option.or_eq_some_iff.2 (.inl first)

/-- Trimming leads to a trimmed text. -/
theorem isTrimmed_trimmed (s : List Char) : IsTrimmed (trimmed s) where
  front := (beginsVisible_dropBlank s).of_isPrefix (dropBlankEnd_isPrefix _)
  back := endsVisible_dropBlankEnd _

/-- **Trimming leaves a text as it is exactly when the text is trimmed.** -/
theorem trimmed_eq_self_iff : trimmed s = s ↔ IsTrimmed s := by
  constructor
  · intro same
    rw [← same]
    exact isTrimmed_trimmed s
  · intro is
    have front : dropBlank s = s := by
      cases s with
      | nil => rfl
      | cons c rest =>
          have visible : isBlank c = false := is.front c rfl
          rw [dropBlank, List.dropWhile_cons, visible, if_neg Bool.false_ne_true]
    rw [trimmed, front, is.back.dropBlankEnd_eq]

end WhereClause.Text
