import WhereClause.Proofs.Sql.Predicate

/-!
# Conditions as predicates

A condition that has something to test against is written as a predicate of SQL text:
a list of literals, a check for a value, one bound, or two literals with AND between
them.  Over plain names and literals that predicate is well formed, so that its text
can be scanned and read back.
-/

set_option autoImplicit false

namespace WhereClause

open Sql

namespace Condition

/-- The comparison that a test is written as. -/
def comparison : Test → Comparison
  | .oneOf literals => .oneOf literals
  | .is keyword => .null (keyword == nullKeyword true)
  | .within .empty _ => .oneOf []
  | .within (.single literal) bound => .bounded bound literal
  | .within (.span _ least greatest) _ => .between least greatest

/-- The predicate that a condition is written as. -/
def predicate (c : Condition) : Predicate := ⟨c.qualifier, c.field, comparison c.test⟩

/-- A check for a value, or a list or range of plain literals. -/
def PlainTest : Test → Prop
  | .oneOf literals => ∀ l ∈ literals, IsLiteral l
  | .is keyword => ∃ negated, keyword = nullKeyword negated
  | .within extent _ => (∀ l ∈ extent.least?, IsLiteral l) ∧ ∀ l ∈ extent.greatest?, IsLiteral l

/-- A condition on a column with a plain name, whose qualifier is empty or a plain name,
over plain literals. -/
structure Plain (c : Condition) : Prop where
  field : IsName c.field
  qualifier : c.qualifier = "" ∨ IsName c.qualifier
  test : PlainTest c.test

/-! ## Texts of tokens -/

theorem textOf_literalTokens (literal : String) :
    textOf (literalTokens literal) = literal.toList := by
  unfold literalTokens
  split
  · next missing =>
      subst missing
      rfl
  · simp [Token.text]

theorem textOf_listTokens (literals : List String) :
    textOf (listTokens literals) = (joinLiterals literals).toList := by
  induction literals with
  | nil => rfl
  | cons first rest ih =>
      cases rest with
      | nil => simp [listTokens, furtherTokens, joinLiterals, textOf_literalTokens]
      | cons second rest =>
          have tail : textOf (furtherTokens (second :: rest)) =
              ',' :: (joinLiterals (second :: rest)).toList := by
            rw [← ih]
            simp [furtherTokens, listTokens, Token.text, Mark.text]
          have step : joinLiterals (first :: second :: rest) =
              first ++ "," ++ joinLiterals (second :: rest) := String.intercalate_cons_cons
          rw [listTokens, textOf_append, tail, textOf_literalTokens, step]
          simp [String.toList_append]

theorem textOf_columnTokens (qualifier field : String) :
    textOf (columnTokens qualifier field) = (qualify qualifier field).toList := by
  unfold columnTokens
  split
  · next missing =>
      subst missing
      simp [Token.text]
  · next present =>
      simp [qualify, present, Token.text, Mark.text, String.toList_append]

theorem textOf_boundMark (bound : Bound) :
    (boundMark bound).text.toList = bound.sign.toList := by
  cases bound <;> rfl

/-! ## Conditions -/

variable {c : Condition}

/-- A condition that has something to test against has literals to list. -/
theorem predicate_listed (valid : c.isValid = true) : c.predicate.comparison ≠ .oneOf [] := by
  obtain ⟨field, qualifier, test⟩ := c
  cases test with
  | oneOf literals =>
      rintro same
      cases same
      simp [isValid, joinLiterals, Text.isBlankText] at valid
  | is keyword => rintro ⟨⟩
  | within extent bound =>
      cases extent with
      | empty => simp [isValid, Extent.count] at valid
      | single literal => rintro ⟨⟩
      | span between least greatest => rintro ⟨⟩

theorem predicate_wellFormed (valid : c.isValid = true) (plain : c.Plain) :
    c.predicate.WellFormed where
  field := plain.field
  qualifier := plain.qualifier
  listed := predicate_listed valid
  literals := by
    obtain ⟨field, qualifier, test⟩ := c
    intro l here
    cases test with
    | oneOf literals => exact plain.test l here
    | is keyword => cases here
    | within extent bound =>
        cases extent with
        | empty => cases here
        | single literal =>
            simp only [predicate, comparison, Comparison.literals, List.mem_singleton] at here
            exact plain.test.1 l (by simp [Extent.least?, here])
        | span between least greatest =>
            simp only [predicate, comparison, Comparison.literals, List.mem_cons,
              List.not_mem_nil, or_false] at here
            rcases here with rfl | rfl
            · exact plain.test.1 l (by simp [Extent.least?])
            · exact plain.test.2 l (by simp [Extent.greatest?])

/-- A condition that is no check for a value is plain as soon as its predicate is over plain
names and literals. -/
theorem plain_of_wellFormed (wellFormed : c.predicate.WellFormed)
    (valued : ∀ keyword, c.test ≠ .is keyword) : c.Plain where
  field := wellFormed.field
  qualifier := wellFormed.qualifier
  test := by
    obtain ⟨field, qualifier, test⟩ := c
    have plain := wellFormed.literals
    cases test with
    | oneOf literals => exact plain
    | is keyword => exact absurd rfl (valued keyword)
    | within extent bound =>
        cases extent with
        | empty =>
            constructor
            · rintro l ⟨⟩
            · rintro l ⟨⟩
        | single literal =>
            constructor
            · rintro l ⟨⟩
              exact plain literal List.mem_cons_self
            · rintro l ⟨⟩
              exact plain literal List.mem_cons_self
        | span between least greatest =>
            constructor
            · rintro l ⟨⟩
              exact plain least List.mem_cons_self
            · rintro l ⟨⟩
              exact plain greatest (List.mem_cons_of_mem least List.mem_cons_self)

/-- A condition has a text as soon as it has something to test against. -/
theorem render_ne_empty (valid : c.isValid = true) : c.render ≠ "" := by
  obtain ⟨field, qualifier, test⟩ := c
  intro missing
  have chars := congrArg String.toList missing
  simp only [render, valid, if_true] at chars
  cases test with
  | oneOf literals => simp [String.toList_append] at chars
  | is keyword => simp [String.toList_append] at chars
  | within extent bound =>
      cases extent with
      | empty => simp [isValid, Extent.count] at valid
      | single literal => simp [String.toList_append] at chars
      | span between least greatest => simp [String.toList_append] at chars

/-- **A condition is written as its predicate.** -/
theorem render_eq (valid : c.isValid = true) (plain : c.Plain) : c.render = c.predicate.text := by
  apply String.toList_injective
  rw [toList_text]
  obtain ⟨field, qualifier, test⟩ := c
  simp only [render, valid, if_true, Predicate.tokens, predicate, textOf_append,
    textOf_columnTokens, gap]
  cases test with
  | oneOf literals =>
      simp [comparison, Comparison.tokens, gap, textOf_listTokens, Token.text, Keyword.text,
        Mark.text, column, String.toList_append]
  | is keyword =>
      obtain ⟨negated, rfl⟩ := plain.test
      cases negated <;>
        simp [comparison, Comparison.tokens, gap, nullKeyword, Token.text, Keyword.text, column,
          String.toList_append]
  | within extent bound =>
      cases extent with
      | empty => simp [isValid, Extent.count] at valid
      | single literal =>
          simp [comparison, Comparison.tokens, gap, textOf_literalTokens, textOf_boundMark,
            Token.text, column, String.toList_append]
      | span between least greatest =>
          simp [comparison, Comparison.tokens, gap, textOf_literalTokens, Token.text,
            Keyword.text, column, Extent.render, String.toList_append]

end Condition

end WhereClause
