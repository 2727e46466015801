import WhereClause.Condition
import WhereClause.Proofs.Sql.Token

/-!
# Predicates of SQL text

A predicate compares one column with literals or asks whether it has a value.  Its
tokens are written with one blank in every gap between words, or, where blanks have
been dropped from a text, with none; the reader is told which of the two to expect.

The AND between the two literals of a range belongs to the predicate.  A missing
literal is read as the empty text; a predicate is complete when it misses none.

Every predicate that lists at least one literal is read back from its tokens, whatever
follows them but a literal (`Predicate.read_tokens`).  A condition that has something
to test against is written as such a predicate (`Condition.render_eq`).
-/

set_option autoImplicit false

namespace WhereClause.Sql

/-- What a column is compared with. -/
inductive Comparison where
  | oneOf (literals : List String)
  | null (negated : Bool)
  | bounded (bound : Bound) (literal : String)
  | between (low high : String)
  deriving DecidableEq, Repr

/-- A comparison of one column. -/
structure Predicate where
  /-- The table's name or alias; none when empty. -/
  qualifier : String
  field : String
  comparison : Comparison
  deriving DecidableEq, Repr

/-- The literals of a comparison, missing ones included. -/
def Comparison.literals : Comparison → List String
  | .oneOf literals => literals
  | .null _ => []
  | .bounded _ literal => [literal]
  | .between low high => [low, high]

/-- Whether no literal of a predicate is missing. -/
def Predicate.isComplete (p : Predicate) : Bool := p.comparison.literals.all (· ≠ "")

/-- A predicate over plain names and literals that lists at least one literal if it
lists any. -/
structure Predicate.WellFormed (p : Predicate) : Prop where
  field : IsName p.field
  qualifier : p.qualifier = "" ∨ IsName p.qualifier
  literals : ∀ l ∈ p.comparison.literals, IsLiteral l
  listed : p.comparison ≠ .oneOf []

/-! ## Writing -/

/-- What stands between two words. -/
def gap (blanks : Bool) : List Token := if blanks then [.blank ' '] else []

/-- The tokens of a column. -/
def columnTokens (qualifier field : String) : List Token :=
  if qualifier = "" then [.name field] else [.name qualifier, .mark .point, .name field]

/-- The tokens of a literal; a missing one has none. -/
def literalTokens (literal : String) : List Token :=
  if literal = "" then [] else [.literal literal]

/-- The tokens of further literals of a list. -/
def furtherTokens (literals : List String) : List Token :=
  literals.flatMap fun literal => .mark .comma :: literalTokens literal

/-- The tokens of the literals of a list. -/
def listTokens : List String → List Token
  | [] => []
  | first :: rest => literalTokens first ++ furtherTokens rest

/-- The sign of a bound. -/
def boundMark : Bound → Mark
  | .atLeast => .atLeast
  | .atMost => .atMost

/-- The tokens of a comparison. -/
def Comparison.tokens (blanks : Bool) : Comparison → List Token
  | .oneOf literals =>
      .keyword .isIn :: (gap blanks ++ .mark .left :: (listTokens literals ++ [.mark .right]))
  | .null false => .keyword .is :: (gap blanks ++ [.keyword .null])
  | .null true =>
      .keyword .is :: (gap blanks ++ .keyword .not :: (gap blanks ++ [.keyword .null]))
  | .bounded bound literal => .mark (boundMark bound) :: (gap blanks ++ literalTokens literal)
  | .between low high =>
      .keyword .between :: (gap blanks ++ (literalTokens low ++
        (gap blanks ++ .keyword .and :: (gap blanks ++ literalTokens high))))

/-- The tokens of a predicate. -/
def Predicate.tokens (blanks : Bool) (p : Predicate) : List Token :=
  columnTokens p.qualifier p.field ++ (gap blanks ++ p.comparison.tokens blanks)

/-- A predicate as it is written. -/
def Predicate.text (p : Predicate) : String := String.ofList (textOf (p.tokens true))

/-! ## Reading -/

/-- What follows a gap. -/
def skipGap : (blanks : Bool) → List Token → Option (List Token)
  | false, ts => some ts
  | true, .blank ' ' :: ts => some ts
  | true, _ => none

/-- The column at the front of a row, and what follows. -/
def readColumn : List Token → Option ((String × String) × List Token)
  | .name qualifier :: .mark .point :: .name field :: rest => some ((qualifier, field), rest)
  | .name field :: rest => some (("", field), rest)
  | _ => none

/-- The literal at the front of a row, which may be missing, and what follows. -/
def readLiteral : List Token → String × List Token
  | .literal literal :: rest => (literal, rest)
  | rest => ("", rest)

/-- Further literals of a list, and what follows. -/
def readFurther : List Token → List String × List Token
  | .mark .comma :: .literal literal :: rest =>
      let (literals, rest) := readFurther rest
      (literal :: literals, rest)
  | .mark .comma :: rest =>
      let (literals, rest) := readFurther rest
      ("" :: literals, rest)
  | rest => ([], rest)

/-- The list of literals that stands in parentheses at the front of a row. -/
def readList : List Token → Option (Comparison × List Token)
  | .mark .left :: ts =>
      let (first, ts) := readLiteral ts
      match readFurther ts with
      | (literals, .mark .right :: rest) => some (.oneOf (first :: literals), rest)
      | _ => none
  | _ => none

/-- The check for a value behind its first word. -/
def readNull (blanks : Bool) : List Token → Option (Comparison × List Token)
  | .keyword .null :: rest => some (.null false, rest)
  | .keyword .not :: ts =>
      match skipGap blanks ts with
      | some (.keyword .null :: rest) => some (.null true, rest)
      | _ => none
  | _ => none

/-- The two literals of a range. -/
def readRange (blanks : Bool) (ts : List Token) : Option (Comparison × List Token) :=
  let (low, ts) := readLiteral ts
  match skipGap blanks ts with
  | some (.keyword .and :: ts) =>
      (skipGap blanks ts).map fun ts =>
        let (high, rest) := readLiteral ts
        (.between low high, rest)
  | _ => none

/-- The literal behind the sign of a bound. -/
def readBound (bound : Bound) (ts : List Token) : Comparison × List Token :=
  let (literal, rest) := readLiteral ts
  (.bounded bound literal, rest)

/-- The comparison at the front of a row, and what follows. -/
def Comparison.read (blanks : Bool) : List Token → Option (Comparison × List Token)
  | .keyword .isIn :: ts => (skipGap blanks ts).bind readList
  | .keyword .is :: ts => (skipGap blanks ts).bind (readNull blanks)
  | .keyword .between :: ts => (skipGap blanks ts).bind (readRange blanks)
  | .mark .atLeast :: ts => (skipGap blanks ts).map (readBound .atLeast)
  | .mark .atMost :: ts => (skipGap blanks ts).map (readBound .atMost)
  | _ => none

/-- The predicate at the front of a row, and what follows. -/
def Predicate.read (blanks : Bool) (ts : List Token) : Option (Predicate × List Token) := do
  let ((qualifier, field), ts) ← readColumn ts
  let ts ← skipGap blanks ts
  let (comparison, rest) ← Comparison.read blanks ts
  some (⟨qualifier, field, comparison⟩, rest)

/-! ## Reading what was written -/

/-- A row that does not go on with a literal. -/
def NoLiteral (rest : List Token) : Prop := ∀ literal, rest.head? ≠ some (.literal literal)

@[simp]
theorem skipGap_gap (blanks : Bool) (ts : List Token) :
    skipGap blanks (gap blanks ++ ts) = some ts := by
  cases blanks <;> rfl

theorem readLiteral_literalTokens {literal : String} {rest : List Token} (ends : NoLiteral rest) :
    readLiteral (literalTokens literal ++ rest) = (literal, rest) := by
  unfold literalTokens
  split
  · next missing =>
      subst missing
      rw [List.nil_append, readLiteral]
      rintro other tail rfl
      exact ends other rfl
  · rfl

theorem readFurther_furtherTokens (literals : List String) {rest : List Token}
    (ends : NoLiteral rest) (stop : rest.head? ≠ some (.mark .comma)) :
    readFurther (furtherTokens literals ++ rest) = (literals, rest) := by
  induction literals with
  | nil =>
      rw [furtherTokens, List.flatMap_nil, List.nil_append, readFurther]
      · rintro literal tail rfl
        exact stop rfl
      · rintro tail rfl
        exact stop rfl
  | cons literal literals ih =>
      have step : furtherTokens (literal :: literals) ++ rest =
          .mark .comma :: (literalTokens literal ++ (furtherTokens literals ++ rest)) := by
        simp [furtherTokens]
      rw [step, literalTokens]
      split
      · next missing =>
          subst missing
          rw [List.nil_append, readFurther, ih]
          intro other tail same
          cases literals with
          | nil => exact ends other (by simp [furtherTokens] at same; simp [same])
          | cons next literals => simp [furtherTokens] at same
      · rw [List.singleton_append, readFurther, ih]

theorem readList_listTokens {literals : List String} (listed : literals ≠ []) (rest : List Token) :
    readList (.mark .left :: (listTokens literals ++ .mark .right :: rest)) =
      some (.oneOf literals, rest) := by
  cases literals with
  | nil => exact absurd rfl listed
  | cons first literals =>
      have ends : NoLiteral (furtherTokens literals ++ .mark .right :: rest) := by
        cases literals <;> simp [NoLiteral, furtherTokens]
      have further : readFurther (furtherTokens literals ++ .mark .right :: rest) =
          (literals, .mark .right :: rest) :=
        readFurther_furtherTokens literals (by simp [NoLiteral]) (by simp)
      simp [readList, listTokens, readLiteral_literalTokens ends, further]

theorem noLiteral_gap (blanks : Bool) {rest : List Token} (ends : NoLiteral rest) :
    NoLiteral (gap blanks ++ rest) := by
  cases blanks
  · exact ends
  · simp [NoLiteral, gap]

theorem readRange_append (blanks : Bool) (low high : String) {rest : List Token}
    (ends : NoLiteral rest) :
    readRange blanks (literalTokens low ++
      (gap blanks ++ .keyword .and :: (gap blanks ++ (literalTokens high ++ rest)))) =
      some (.between low high, rest) := by
  have stop : NoLiteral (gap blanks ++
      .keyword .and :: (gap blanks ++ (literalTokens high ++ rest))) :=
    noLiteral_gap blanks (by simp [NoLiteral])
  simp [readRange, readLiteral_literalTokens stop, readLiteral_literalTokens ends]

/-- A comparison is read back from its tokens. -/
theorem Comparison.read_tokens (blanks : Bool) {c : Comparison} (listed : c ≠ .oneOf [])
    {rest : List Token} (ends : NoLiteral rest) :
    Comparison.read blanks (c.tokens blanks ++ rest) = some (c, rest) := by
  cases c with
  | oneOf literals =>
      have nonempty : literals ≠ [] := fun same => listed (same ▸ rfl)
      simp [Comparison.read, Comparison.tokens, readList_listTokens nonempty]
  | null negated => cases negated <;> simp [Comparison.read, Comparison.tokens, readNull]
  | bounded bound literal =>
      cases bound <;>
        simp [Comparison.read, Comparison.tokens, boundMark, readBound,
          readLiteral_literalTokens ends]
  | between low high =>
      simp [Comparison.read, Comparison.tokens, readRange_append blanks low high ends]

/-- A column is read back from its tokens, unless a point follows. -/
theorem readColumn_columnTokens (qualifier field : String) {rest : List Token}
    (stop : rest.head? ≠ some (.mark .point)) :
    readColumn (columnTokens qualifier field ++ rest) = some ((qualifier, field), rest) := by
  unfold columnTokens
  split
  · next missing =>
      subst missing
      rw [List.singleton_append, readColumn]
      rintro name tail rfl
      exact stop rfl
  · rfl

/-- **A predicate is read back from its tokens**, whatever follows but a literal. -/
theorem Predicate.read_tokens (blanks : Bool) {p : Predicate} (listed : p.comparison ≠ .oneOf [])
    {rest : List Token} (ends : NoLiteral rest) :
    Predicate.read blanks (p.tokens blanks ++ rest) = some (p, rest) := by
  have stop : (gap blanks ++ (p.comparison.tokens blanks ++ rest)).head? ≠
      some (.mark .point) := by
    cases blanks
    · cases p.comparison with
      | null negated => cases negated <;> simp [gap, Comparison.tokens]
      | bounded bound _ => cases bound <;> simp [gap, Comparison.tokens, boundMark]
      | _ => simp [gap, Comparison.tokens]
    · simp [gap]
  simp [Predicate.read, Predicate.tokens, readColumn_columnTokens _ _ stop,
    Comparison.read_tokens blanks listed ends]

/-! ## Predicates as texts -/

theorem spaced_literalTokens {literal : String} (plain : IsLiteral literal) :
    Spaced (literalTokens literal) := by
  unfold literalTokens
  split
  · exact spaced_nil
  · next present => exact (spaced_singleton _).2 ⟨plain, present⟩

theorem furtherTokens_head (literals : List String) :
    ∀ u ∈ (furtherTokens literals).head?, u.isSeparator = true := by
  cases literals with
  | nil => simp [furtherTokens]
  | cons literal literals => simp [furtherTokens, Token.isSeparator]

theorem spaced_furtherTokens {literals : List String} (plain : ∀ l ∈ literals, IsLiteral l) :
    Spaced (furtherTokens literals) := by
  induction literals with
  | nil => exact spaced_nil
  | cons literal literals ih =>
      have first : Spaced (literalTokens literal) := spaced_literalTokens (plain literal (by simp))
      have rest : Spaced (furtherTokens literals) := ih fun l here => plain l (by simp [here])
      have step : furtherTokens (literal :: literals) =
          .mark .comma :: (literalTokens literal ++ furtherTokens literals) := rfl
      rw [step, spaced_cons rfl]
      exact ⟨trivial, spaced_append first rest (furtherTokens_head literals)⟩

theorem spaced_listTokens {literals : List String} (plain : ∀ l ∈ literals, IsLiteral l) :
    Spaced (listTokens literals) := by
  cases literals with
  | nil => exact spaced_nil
  | cons first rest =>
      have head : Spaced (literalTokens first) := spaced_literalTokens (plain first (by simp))
      have tail : Spaced (furtherTokens rest) :=
        spaced_furtherTokens fun l here => plain l (by simp [here])
      exact spaced_append head tail (furtherTokens_head rest)

theorem blank_wellFormed : (Token.blank ' ').WellFormed := by
  change Text.isBlank ' ' = true
  decide

theorem spaced_columnTokens {qualifier field : String} (isField : IsName field)
    (isQualifier : qualifier = "" ∨ IsName qualifier) :
    Spaced (columnTokens qualifier field) := by
  unfold columnTokens
  split
  · exact (spaced_singleton _).2 isField
  · next present =>
      have name : IsName qualifier := isQualifier.resolve_left present
      rw [spaced_cons_cons rfl]
      exact ⟨name, trivial, (spaced_singleton _).2 isField⟩

theorem spaced_comparison {c : Comparison} (plain : ∀ l ∈ c.literals, IsLiteral l) :
    Spaced (c.tokens true) := by
  have blank := blank_wellFormed
  have null : Spaced [.keyword .null] := (spaced_singleton _).2 trivial
  cases c with
  | oneOf literals =>
      have list := spaced_listTokens plain
      simp only [Comparison.tokens, gap, if_true, List.singleton_append]
      rw [spaced_cons_cons rfl, spaced_cons rfl, spaced_append_cons rfl]
      exact ⟨trivial, blank, trivial, list, trivial, spaced_nil⟩
  | null negated =>
      cases negated
      · simp only [Comparison.tokens, gap, if_true, List.singleton_append]
        rw [spaced_cons_cons rfl]
        exact ⟨trivial, blank, null⟩
      · simp only [Comparison.tokens, gap, if_true, List.singleton_append]
        rw [spaced_cons_cons rfl, spaced_cons_cons rfl]
        exact ⟨trivial, blank, trivial, blank, null⟩
  | bounded bound literal =>
      have last : Spaced (literalTokens literal) :=
        spaced_literalTokens (plain literal (by simp [Comparison.literals]))
      simp only [Comparison.tokens, gap, if_true, List.singleton_append]
      rw [spaced_cons rfl, spaced_cons rfl]
      exact ⟨trivial, blank, last⟩
  | between low high =>
      have first : Spaced (literalTokens low) :=
        spaced_literalTokens (plain low (by simp [Comparison.literals]))
      have last : Spaced (literalTokens high) :=
        spaced_literalTokens (plain high (by simp [Comparison.literals]))
      simp only [Comparison.tokens, gap, if_true, List.singleton_append]
      rw [spaced_cons_cons rfl, spaced_append_cons rfl, spaced_cons_cons rfl]
      exact ⟨trivial, blank, first, blank, trivial, blank, last⟩

/-- The tokens of a predicate over plain names and literals are spaced. -/
theorem Predicate.spaced_tokens {p : Predicate} (wellFormed : p.WellFormed) :
    Spaced (p.tokens true) := by
  simp only [Predicate.tokens, gap, if_true, List.singleton_append]
  rw [spaced_append_cons rfl]
  exact ⟨spaced_columnTokens wellFormed.field wellFormed.qualifier, blank_wellFormed,
    spaced_comparison wellFormed.literals⟩

theorem toList_text (p : Predicate) : p.text.toList = textOf (p.tokens true) :=
  String.toList_ofList

end WhereClause.Sql
