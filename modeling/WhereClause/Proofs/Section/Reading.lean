import WhereClause.Section
import WhereClause.Proofs.Condition

/-!
# Sections are read back from their text

The text of a section follows the grammar

    S ::= P | '(' P (' ' J ' ' S)+ ')'        J ::= AND | OR

where `P` is a predicate.  The reader of this grammar (`Outline.parse?`) looks at text
alone.  What it finds is an outline: the text of a predicate, and the outlines that are
joined to it, each with its joint.

A section has an outline too: missing sections are left out, and every section carries
its own joint, so that of the outermost one is lost.  **The text of a valid section over
plain names and literals reads back as its outline**, and so two such sections with one
text have one outline (`parse?_render`).
-/

set_option autoImplicit false

namespace WhereClause

open Sql

/-- The reserved word of a joint. -/
def Joint.reserved : Joint → Keyword
  | .and => .and
  | .or => .or

/-! ## Outlines -/

/-- A predicate's text and what is joined to it. -/
inductive Outline where
  | node (primary : String) (branches : List (Joint × Outline))

namespace Outline

/-- The joint at the front of a row with a blank on either side, and what follows. -/
def readJoint : List Token → Option (Joint × List Token)
  | .blank ' ' :: .keyword .and :: .blank ' ' :: rest => some (.and, rest)
  | .blank ' ' :: .keyword .or :: .blank ' ' :: rest => some (.or, rest)
  | _ => none

mutual
/-- The outline at the front of a row, and what follows. -/
def read (ts : List Token) : Option (Outline × List Token) :=
  match ts with
  | .mark .left :: inner =>
      match Predicate.read true inner with
      | some (p, rest) =>
          if _shorter : rest.length ≤ inner.length then
            match readBranches rest with
            | some (b :: bs, .mark .right :: rest) => some (.node p.text (b :: bs), rest)
            | _ => none
          else none
      | none => none
  | ts => (Predicate.read true ts).map fun (p, rest) => (.node p.text [], rest)
termination_by 2 * ts.length

/-- The outlines at the front of a row, each behind its joint, and what follows. -/
def readBranches (ts : List Token) : Option (List (Joint × Outline) × List Token) :=
  match readJoint ts with
  | some (j, inner) =>
      if _shorter : inner.length < ts.length then
        match read inner with
        | some (o, rest) =>
            if _shorter : rest.length < ts.length then
              (readBranches rest).map fun (bs, rest) => ((j, o) :: bs, rest)
            else none
        | none => none
      else none
  | none => some ([], ts)
termination_by 2 * ts.length + 1
end

/-- The outline that a whole text stands for. -/
def parse? (text : String) : Option Outline :=
  match (tokens? text.toList).bind read with
  | some (o, []) => some o
  | _ => none

end Outline

namespace Section

mutual
/-- The outline of a section. -/
def outline : Section → Outline
  | .mk primary _ children => .node (primary.elim "" Condition.render) (branches children)

/-- The outlines of the sections of a row that are not missing, with their joints. -/
def branches : List (Option Section) → List (Joint × Outline)
  | [] => []
  | none :: rest => branches rest
  | some child :: rest => (child.joint, outline child) :: branches rest
end

mutual
/-- A section whose conditions, as far as there are any, have plain names and
literals. -/
def Plain : Section → Prop
  | .mk primary _ children => (∀ c ∈ primary, c.Plain) ∧ AllPlain children

/-- A row of such sections, some of which may be missing. -/
def AllPlain : List (Option Section) → Prop
  | [] => True
  | none :: rest => AllPlain rest
  | some child :: rest => Plain child ∧ AllPlain rest
end

/-! ## Tokens of sections -/

mutual
/-- The tokens of a section. -/
def tokens : Section → List Token
  | .mk none _ _ => []
  | .mk (some c) _ children =>
      if children.all Option.isNone then c.predicate.tokens true
      else
        .mark .left :: (c.predicate.tokens true ++ (childTokens children ++ [.mark .right]))

/-- The tokens of the sections of a row, each behind its joint. -/
def childTokens : List (Option Section) → List Token
  | [] => []
  | none :: rest => childTokens rest
  | some child :: rest =>
      .blank ' ' :: .keyword child.joint.reserved :: .blank ' ' ::
        (tokens child ++ childTokens rest)
end

theorem childTokens_head (children : List (Option Section)) :
    ∀ u ∈ (childTokens children).head?, u = .blank ' ' := by
  induction children with
  | nil => simp [childTokens]
  | cons child rest ih =>
      cases child with
      | none => simpa [childTokens] using ih
      | some child => simp [childTokens]

/-- No section of a row is there exactly when the row has no branches. -/
theorem branches_eq_nil (children : List (Option Section)) :
    branches children = [] ↔ children.all Option.isNone = true := by
  induction children with
  | nil => simp [branches]
  | cons child rest ih => cases child <;> simp [branches, ih]

/-! ## The text of a section -/

theorem isValid_primary {c : Condition} {joint : Joint} {children : List (Option Section)}
    (valid : isValid (.mk (some c) joint children) = true) :
    c.isValid = true ∧ allValid children = true := by
  simpa [isValid] using valid

/-- A valid section has a text. -/
theorem render_ne_empty {s : Section} (valid : s.isValid = true) : s.render ≠ "" := by
  obtain ⟨_ | c, joint, children⟩ := s
  · simp [isValid] at valid
  · rw [render, if_pos valid]
    split
    · exact c.render_ne_empty (isValid_primary valid).1
    · intro missing
      have chars := congrArg String.toList missing
      simp [String.toList_append] at chars

/-- A valid section stands behind its joint. -/
theorem behind_render {s : Section} (valid : s.isValid = true) (joint : Joint) :
    behind joint s.render = joint.keyword ++ " " ++ s.render := by
  simp [behind, render_ne_empty valid]

/-- A section of one condition has the text of it. -/
theorem render_ofCondition {c : Condition} (valid : c.isValid = true) :
    (ofCondition c).render = c.render := by
  simp [ofCondition, render, isValid, allValid, valid]

/-- A section of one condition and a further section stands in parentheses. -/
theorem render_push_ofCondition {c : Condition} {child : Section} (valid : c.isValid = true)
    (further : child.isValid = true) :
    ((ofCondition c).push (some child)).render =
      "(" ++ c.render ++ " " ++ child.joint.keyword ++ " " ++ child.render ++ ")" := by
  have whole : (mk (some c) .and [some child]).isValid = true := by
    simp [isValid, allValid, valid, further]
  obtain ⟨primary, joint, children⟩ := child
  show (mk (some c) .and [some (mk primary joint children)]).render = _
  rw [render, if_pos whole, if_neg (by simp), renderAll, renderAll, behind_render further]
  simp [Section.joint, String.append_assoc]

theorem toList_condition {c : Condition} (valid : c.isValid = true) (plain : c.Plain) :
    c.render.toList = textOf (c.predicate.tokens true) := by
  rw [Condition.render_eq valid plain, toList_text]

theorem toList_keyword (joint : Joint) :
    joint.keyword.toList = (Token.keyword joint.reserved).text := by
  cases joint <;> rfl

mutual
/-- The text of a section is that of its tokens. -/
theorem toList_render : ∀ s : Section, s.isValid = true → s.Plain →
    s.render.toList = textOf s.tokens
  | .mk none _ _, valid, _ => by simp [isValid] at valid
  | .mk (some c) joint children, valid, plain => by
      obtain ⟨primaryValid, childrenValid⟩ := isValid_primary valid
      have primary := toList_condition primaryValid (plain.1 c rfl)
      have rest := toList_renderAll children childrenValid plain.2
      rw [render, if_pos valid, tokens]
      split
      · exact primary
      · simp [String.toList_append, primary, rest, Token.text, Mark.text]

theorem toList_renderAll : ∀ children : List (Option Section), allValid children = true →
    AllPlain children → (renderAll children).toList = textOf (childTokens children)
  | [], _, _ => rfl
  | none :: rest, valid, plain => by
      rw [renderAll, childTokens]
      exact toList_renderAll rest valid plain
  | some (.mk primary joint children) :: rest, valid, plain => by
      simp only [allValid, Bool.and_eq_true] at valid
      have first := toList_render (.mk primary joint children) valid.1 plain.1
      have further := toList_renderAll rest valid.2 plain.2
      rw [renderAll, behind_render valid.1, childTokens]
      simp [String.toList_append, toList_keyword, first, further, Section.joint, Token.text]
end

mutual
/-- The tokens of a valid section over plain names and literals are spaced. -/
theorem spaced_tokens : ∀ s : Section, s.isValid = true → s.Plain → Spaced s.tokens
  | .mk none _ _, valid, _ => by simp [isValid] at valid
  | .mk (some c) joint children, valid, plain => by
      obtain ⟨primaryValid, childrenValid⟩ := isValid_primary valid
      have primary : Spaced (c.predicate.tokens true) :=
        Predicate.spaced_tokens (c.predicate_wellFormed primaryValid (plain.1 c rfl))
      have rest := spaced_childTokens children childrenValid plain.2
      rw [tokens]
      split
      · exact primary
      · rw [spaced_cons rfl, ← List.append_assoc, spaced_append_cons rfl]
        refine ⟨trivial, spaced_append primary rest fun u first => ?_, trivial, spaced_nil⟩
        rw [childTokens_head children u first]
        rfl

theorem spaced_childTokens : ∀ children : List (Option Section), allValid children = true →
    AllPlain children → Spaced (childTokens children)
  | [], _, _ => spaced_nil
  | none :: rest, valid, plain => spaced_childTokens rest valid plain
  | some child :: rest, valid, plain => by
      simp only [allValid, Bool.and_eq_true] at valid
      have first := spaced_tokens child valid.1 plain.1
      have further := spaced_childTokens rest valid.2 plain.2
      rw [childTokens, spaced_cons rfl, spaced_cons_cons rfl]
      refine ⟨blank_wellFormed, trivial, blank_wellFormed,
        spaced_append first further fun u here => ?_⟩
      rw [childTokens_head rest u here]
      rfl
end

/-! ## Reading the tokens of a section -/

theorem read_predicate {p : Predicate} (listed : p.comparison ≠ .oneOf []) {rest : List Token}
    (ends : NoLiteral rest) :
    Outline.read (p.tokens true ++ rest) = some (.node p.text [], rest) := by
  have found := Predicate.read_tokens true listed ends
  rw [Outline.read]
  · rw [found]
    rfl
  · intro inner same
    simp only [Predicate.tokens, columnTokens] at same
    split at same <;> simp at same

theorem noLiteral_childTokens (children : List (Option Section)) {rest : List Token}
    (ends : NoLiteral rest) : NoLiteral (childTokens children ++ rest) := by
  intro literal here
  cases row : childTokens children with
  | nil => exact ends literal (by simpa [row] using here)
  | cons u us =>
      have blank := childTokens_head children u (by simp [row])
      simp [row, blank] at here

mutual
/-- **A section's tokens are read as its outline.** -/
theorem read_tokens : ∀ (s : Section) (rest : List Token), s.isValid = true → s.Plain →
    NoLiteral rest → Outline.read (s.tokens ++ rest) = some (s.outline, rest)
  | .mk none _ _, _, valid, _, _ => by simp [isValid] at valid
  | .mk (some c) joint children, rest, valid, plain, ends => by
      obtain ⟨primaryValid, childrenValid⟩ := isValid_primary valid
      have listed := c.predicate_listed primaryValid
      have text : c.predicate.text = c.render := (c.render_eq primaryValid (plain.1 c rfl)).symm
      rw [tokens]
      split
      · next alone =>
          rw [read_predicate listed ends, outline, (branches_eq_nil children).2 alone, text]
          rfl
      · next joined =>
          have stop : NoLiteral (childTokens children ++ .mark .right :: rest) :=
            noLiteral_childTokens children (by simp [NoLiteral])
          have primary := Predicate.read_tokens true listed stop
          have further := readBranches_childTokens children rest childrenValid plain.2
          cases row : branches children with
          | nil => exact absurd ((branches_eq_nil children).1 row) joined
          | cons b bs =>
              rw [row] at further
              simp only [List.cons_append, List.append_assoc, List.nil_append]
              rw [Outline.read]
              simp [primary, further, outline, row, text]

theorem readBranches_childTokens : ∀ (children : List (Option Section)) (rest : List Token),
    allValid children = true → AllPlain children →
      Outline.readBranches (childTokens children ++ .mark .right :: rest) =
        some (branches children, .mark .right :: rest)
  | [], rest, _, _ => by
      rw [childTokens, List.nil_append, Outline.readBranches]
      rfl
  | none :: children, rest, valid, plain => by
      rw [childTokens, branches]
      exact readBranches_childTokens children rest valid plain
  | some child :: children, rest, valid, plain => by
      simp only [allValid, Bool.and_eq_true] at valid
      have stop : NoLiteral (childTokens children ++ .mark .right :: rest) :=
        noLiteral_childTokens children (by simp [NoLiteral])
      have first := read_tokens child _ valid.1 plain.1 stop
      have further := readBranches_childTokens children rest valid.2 plain.2
      have joint (ts : List Token) : Outline.readJoint
          (.blank ' ' :: .keyword child.joint.reserved :: .blank ' ' :: ts) =
            some (child.joint, ts) := by
        cases child.joint <;> rfl
      rw [childTokens, List.cons_append, List.cons_append, List.cons_append, List.append_assoc,
        Outline.readBranches, joint]
      simp only [List.length_cons, List.length_append, first, further, branches]
      rw [dif_pos (by omega), dif_pos (by omega)]
      rfl
end

/-- **Sections are uniquely readable.** The text of a valid section over plain names and
literals reads back as its outline, so that no section of another outline has that
text. -/
theorem parse?_render (s : Section) (valid : s.isValid = true) (plain : s.Plain) :
    Outline.parse? s.render = some s.outline ∧
      ∀ t : Section, t.isValid = true → t.Plain → t.render = s.render → t.outline = s.outline := by
  have reads (u : Section) (valid : u.isValid = true) (plain : u.Plain) :
      Outline.parse? u.render = some u.outline := by
    have whole := read_tokens u [] valid plain (by simp [NoLiteral])
    rw [List.append_nil] at whole
    simp [Outline.parse?, toList_render u valid plain, tokens?_textOf (spaced_tokens u valid plain),
      whole]
  refine ⟨reads s valid plain, fun t validT plainT same => ?_⟩
  have other := reads t validT plainT
  rw [same, reads s valid plain] at other
  exact (Option.some.inj other).symm

/-- A section with a missing child, a check for a value inside a nested section, and a
range whose text has an AND of its own. -/
def nested : Section :=
  .mk (some ⟨"A", "", .oneOf ["1", "2"]⟩) .and
    [none,
      some (.mk (some ⟨"B", "t", .within (.span 0 "'x, y'" "'z'") .atLeast⟩) .and
        [some (.mk (some ⟨"B", "t", .is "NULL"⟩) .or [none])]),
      some (.mk (some ⟨"C", "", .is "NOT NULL"⟩) .or [])]

theorem parse?_render_nested :
    nested.isValid = true ∧ nested.Plain ∧
      nested.render =
        "(A IN (1,2) AND (t.B BETWEEN 'x, y' AND 'z' OR t.B IS NULL) OR C IS NOT NULL)" ∧
      Outline.parse? nested.render = some (.node "A IN (1,2)"
        [(.and, .node "t.B BETWEEN 'x, y' AND 'z'" [(.or, .node "t.B IS NULL" [])]),
          (.or, .node "C IS NOT NULL" [])]) ∧
      (nested.withJoint .or).outline = nested.outline := by
  have listed : Condition.PlainTest (.oneOf ["1", "2"]) := by
    intro l here
    left
    revert l
    decide
  have range : Condition.PlainTest (.within (.span 0 "'x, y'" "'z'") .atLeast) := by
    constructor
    · rintro _ ⟨⟩
      exact .inr ⟨"x, y", rfl, by decide⟩
    · rintro _ ⟨⟩
      exact .inr ⟨"z", rfl, by decide⟩
  have valid : nested.isValid = true := by decide
  have plain : nested.Plain := by
    refine ⟨?_, ⟨?_, ⟨?_, trivial⟩, trivial⟩, ⟨?_, trivial⟩, trivial⟩
    · rintro _ ⟨⟩
      exact ⟨by decide, .inl rfl, listed⟩
    · rintro _ ⟨⟩
      exact ⟨by decide, .inr (by decide), range⟩
    · rintro _ ⟨⟩
      exact ⟨by decide, .inr (by decide), false, rfl⟩
    · rintro _ ⟨⟩
      exact ⟨by decide, .inl rfl, true, rfl⟩
  obtain ⟨reads, unique⟩ := parse?_render nested valid plain
  exact ⟨valid, plain, by decide, reads, unique (nested.withJoint .or) valid plain (by decide)⟩

end Section

end WhereClause
