import WhereClause.Proofs.Sql.Predicate

/-!
# Boolean expressions of SQL text

Expressions follow the usual grammar: OR is weaker than AND, and parentheses group.

    disjunction ::= conjunction | conjunction OR disjunction
    conjunction ::= factor | factor AND conjunction
    factor      ::= predicate | '(' disjunction ')'

The trees of this grammar are the types of this module, one for each of its lines, and
`Disjunction.parse?` reads them from a text whose blanks only keep words apart.  A
predicate that misses a literal is not read.  Given the truth of every predicate a tree
has a truth value.

**Every tree whose predicates are well formed and complete is read back from its text**,
with a blank after it or not (`parse?_textOf`).
-/

set_option autoImplicit false

namespace WhereClause.Sql

/-! ## Trees -/

mutual
/-- A predicate, or a group in parentheses. -/
inductive Factor where
  | atom (p : Predicate)
  | group (d : Disjunction)

/-- Factors joined by AND. -/
inductive Conjunction where
  | single (f : Factor)
  | and (f : Factor) (rest : Conjunction)

/-- Conjunctions joined by OR. -/
inductive Disjunction where
  | single (c : Conjunction)
  | or (c : Conjunction) (rest : Disjunction)
end

mutual
/-- The truth of a factor, given that of the predicates. -/
def Factor.eval (truth : Predicate → Bool) : Factor → Bool
  | .atom p => truth p
  | .group d => d.eval truth

/-- The truth of a conjunction. -/
def Conjunction.eval (truth : Predicate → Bool) : Conjunction → Bool
  | .single f => f.eval truth
  | .and f rest => f.eval truth && rest.eval truth

/-- The truth of a disjunction. -/
def Disjunction.eval (truth : Predicate → Bool) : Disjunction → Bool
  | .single c => c.eval truth
  | .or c rest => c.eval truth || rest.eval truth
end

mutual
/-- The tokens of a factor. -/
def Factor.tokens (blanks : Bool) : Factor → List Token
  | .atom p => p.tokens blanks
  | .group d => .mark .left :: (d.tokens blanks ++ [.mark .right])

/-- The tokens of a conjunction. -/
def Conjunction.tokens (blanks : Bool) : Conjunction → List Token
  | .single f => f.tokens blanks
  | .and f rest =>
      f.tokens blanks ++ (gap blanks ++ .keyword .and :: (gap blanks ++ rest.tokens blanks))

/-- The tokens of a disjunction. -/
def Disjunction.tokens (blanks : Bool) : Disjunction → List Token
  | .single c => c.tokens blanks
  | .or c rest =>
      c.tokens blanks ++ (gap blanks ++ .keyword .or :: (gap blanks ++ rest.tokens blanks))
end

mutual
/-- Every predicate of a factor is over plain names and literals and misses none. -/
def Factor.Clean : Factor → Prop
  | .atom p => p.WellFormed ∧ p.isComplete = true
  | .group d => d.Clean

def Conjunction.Clean : Conjunction → Prop
  | .single f => f.Clean
  | .and f rest => f.Clean ∧ rest.Clean

def Disjunction.Clean : Disjunction → Prop
  | .single c => c.Clean
  | .or c rest => c.Clean ∧ rest.Clean
end

/-! ## Reading -/

/-- The predicate at the front of a row, when it misses no literal. -/
def readAtom (ts : List Token) : Option (Factor × List Token) :=
  match Predicate.read false ts with
  | some (p, rest) => if p.isComplete then some (.atom p, rest) else none
  | none => none

mutual
/-- The factor at the front of a row, and what follows. -/
def readFactor (ts : List Token) : Option (Factor × List Token) :=
  match ts with
  | .mark .left :: inner =>
      match readDisjunction inner with
      | some (d, .mark .right :: rest) => some (.group d, rest)
      | _ => none
  | ts => readAtom ts
termination_by 3 * ts.length

/-- The conjunction at the front of a row, and what follows. -/
def readConjunction (ts : List Token) : Option (Conjunction × List Token) :=
  match readFactor ts with
  | some (f, .keyword .and :: inner) =>
      if _shorter : inner.length < ts.length then
        (readConjunction inner).map fun (c, rest) => (.and f c, rest)
      else none
  | some (f, rest) => some (.single f, rest)
  | none => none
termination_by 3 * ts.length + 1

/-- The disjunction at the front of a row, and what follows. -/
def readDisjunction (ts : List Token) : Option (Disjunction × List Token) :=
  match readConjunction ts with
  | some (c, .keyword .or :: inner) =>
      if _shorter : inner.length < ts.length then
        (readDisjunction inner).map fun (d, rest) => (.or c d, rest)
      else none
  | some (c, rest) => some (.single c, rest)
  | none => none
termination_by 3 * ts.length + 2
end

/-- A row without its blanks. -/
def dense (ts : List Token) : List Token := ts.filter fun t => !t.isBlank

/-- The expression that a whole text stands for. -/
def Disjunction.parse? (text : String) : Option Disjunction :=
  match (tokens? text.toList).bind fun ts => readDisjunction (dense ts) with
  | some (d, []) => some d
  | _ => none

/-! ## Reading what was written -/

/-- A row that goes on with none of some words, nor with a literal. -/
def NotAfter (words : List Keyword) (rest : List Token) : Prop :=
  NoLiteral rest ∧ ∀ k ∈ words, rest.head? ≠ some (.keyword k)

theorem readAtom_tokens {p : Predicate} (clean : (Factor.atom p).Clean) {rest : List Token}
    (ends : NoLiteral rest) : readAtom (p.tokens false ++ rest) = some (.atom p, rest) := by
  obtain ⟨wellFormed, complete⟩ := clean
  simp [readAtom, Predicate.read_tokens false wellFormed.listed ends, complete]

mutual
theorem readFactor_tokens : ∀ (f : Factor) (rest : List Token), f.Clean → NoLiteral rest →
    readFactor (f.tokens false ++ rest) = some (f, rest)
  | .atom p, rest, clean, ends => by
      rw [Factor.tokens, readFactor]
      · exact readAtom_tokens clean ends
      · intro inner same
        simp only [Predicate.tokens, columnTokens] at same
        split at same <;> simp at same
  | .group d, rest, clean, _ => by
      have inner := readDisjunction_tokens d (.mark .right :: rest) clean
        (by simp [NotAfter, NoLiteral])
      simp only [Factor.tokens, List.cons_append, List.append_assoc, List.nil_append]
      rw [readFactor, inner]

theorem readConjunction_tokens : ∀ (c : Conjunction) (rest : List Token), c.Clean →
    NotAfter [.and] rest → readConjunction (c.tokens false ++ rest) = some (c, rest)
  | .single f, rest, clean, ends => by
      rw [Conjunction.tokens, readConjunction, readFactor_tokens f rest clean ends.1]
      split
      · next inner same =>
          cases same
          exact absurd rfl (ends.2 .and (by simp))
      · next same =>
          cases same
          rfl
      · next none => cases none
  | .and f c, rest, clean, ends => by
      have first := readFactor_tokens f (.keyword .and :: (c.tokens false ++ rest)) clean.1
        (by simp [NoLiteral])
      have further := readConjunction_tokens c rest clean.2 ends
      simp only [Conjunction.tokens, gap, List.append_assoc, List.cons_append, List.nil_append,
        Bool.false_eq_true, if_false]
      rw [readConjunction, first]
      simp only [List.length_append, List.length_cons, further]
      rw [dif_pos (by omega)]
      rfl

theorem readDisjunction_tokens : ∀ (d : Disjunction) (rest : List Token), d.Clean →
    NotAfter [.and, .or] rest → readDisjunction (d.tokens false ++ rest) = some (d, rest)
  | .single c, rest, clean, ends => by
      have stop : NotAfter [.and] rest := ⟨ends.1, by simpa using ends.2 .and (by simp)⟩
      rw [Disjunction.tokens, readDisjunction, readConjunction_tokens c rest clean stop]
      split
      · next inner same =>
          cases same
          exact absurd rfl (ends.2 .or (by simp))
      · next same =>
          cases same
          rfl
      · next none => cases none
  | .or c d, rest, clean, ends => by
      have first := readConjunction_tokens c (.keyword .or :: (d.tokens false ++ rest)) clean.1
        (by simp [NotAfter, NoLiteral])
      have further := readDisjunction_tokens d rest clean.2 ends
      simp only [Disjunction.tokens, gap, List.append_assoc, List.cons_append, List.nil_append,
        Bool.false_eq_true, if_false]
      rw [readDisjunction, first]
      simp only [List.length_append, List.length_cons, further]
      rw [dif_pos (by omega)]
      rfl
end

/-! ## Expressions as texts -/

@[simp]
theorem dense_append (ts us : List Token) : dense (ts ++ us) = dense ts ++ dense us := by
  simp [dense]

@[simp]
theorem dense_nil : dense [] = [] := rfl

@[simp]
theorem dense_keyword (k : Keyword) (ts : List Token) :
    dense (.keyword k :: ts) = .keyword k :: dense ts := rfl

@[simp]
theorem dense_mark (m : Mark) (ts : List Token) : dense (.mark m :: ts) = .mark m :: dense ts := rfl

@[simp]
theorem dense_gap (blanks : Bool) : dense (gap blanks) = [] := by
  cases blanks <;> rfl

@[simp]
theorem dense_columnTokens (qualifier field : String) :
    dense (columnTokens qualifier field) = columnTokens qualifier field := by
  unfold columnTokens
  split <;> rfl

@[simp]
theorem dense_literalTokens (literal : String) :
    dense (literalTokens literal) = literalTokens literal := by
  unfold literalTokens
  split <;> rfl

theorem dense_furtherTokens (literals : List String) :
    dense (furtherTokens literals) = furtherTokens literals := by
  induction literals with
  | nil => rfl
  | cons literal literals ih =>
      have step : furtherTokens (literal :: literals) =
          .mark .comma :: (literalTokens literal ++ furtherTokens literals) := rfl
      rw [step, dense_mark, dense_append, dense_literalTokens, ih]

@[simp]
theorem dense_listTokens (literals : List String) :
    dense (listTokens literals) = listTokens literals := by
  cases literals with
  | nil => rfl
  | cons first rest => rw [listTokens, dense_append, dense_literalTokens, dense_furtherTokens]

/-- Without its blanks a predicate has the tokens of one that is written without
gaps. -/
theorem dense_predicate (p : Predicate) : dense (p.tokens true) = p.tokens false := by
  obtain ⟨qualifier, field, comparison⟩ := p
  have none : gap false = [] := rfl
  cases comparison with
  | oneOf literals => simp [Predicate.tokens, Comparison.tokens, none]
  | null negated => cases negated <;> simp [Predicate.tokens, Comparison.tokens, none]
  | bounded bound literal => simp [Predicate.tokens, Comparison.tokens, none]
  | between low high => simp [Predicate.tokens, Comparison.tokens, none]

mutual
theorem dense_factor : ∀ f : Factor, dense (f.tokens true) = f.tokens false
  | .atom p => dense_predicate p
  | .group d => by
      rw [Factor.tokens, dense_mark, dense_append, dense_disjunction d]
      rfl

theorem dense_conjunction : ∀ c : Conjunction, dense (c.tokens true) = c.tokens false
  | .single f => dense_factor f
  | .and f c => by
      rw [Conjunction.tokens, dense_append, dense_append, dense_gap, dense_keyword, dense_append,
        dense_gap, dense_factor f, dense_conjunction c]
      rfl

theorem dense_disjunction : ∀ d : Disjunction, dense (d.tokens true) = d.tokens false
  | .single c => dense_conjunction c
  | .or c d => by
      rw [Disjunction.tokens, dense_append, dense_append, dense_gap, dense_keyword, dense_append,
        dense_gap, dense_conjunction c, dense_disjunction d]
      rfl
end

mutual
theorem spaced_factor : ∀ f : Factor, f.Clean → Spaced (f.tokens true)
  | .atom _, clean => Predicate.spaced_tokens clean.1
  | .group d, clean => by
      rw [Factor.tokens, spaced_cons rfl, spaced_append_cons rfl]
      exact ⟨trivial, spaced_disjunction d clean, trivial, spaced_nil⟩

theorem spaced_conjunction : ∀ c : Conjunction, c.Clean → Spaced (c.tokens true)
  | .single f, clean => spaced_factor f clean
  | .and f c, clean => by
      simp only [Conjunction.tokens, gap, if_true, List.singleton_append]
      rw [spaced_append_cons rfl, spaced_cons_cons rfl]
      exact ⟨spaced_factor f clean.1, blank_wellFormed, trivial, blank_wellFormed,
        spaced_conjunction c clean.2⟩

theorem spaced_disjunction : ∀ d : Disjunction, d.Clean → Spaced (d.tokens true)
  | .single c, clean => spaced_conjunction c clean
  | .or c d, clean => by
      simp only [Disjunction.tokens, gap, if_true, List.singleton_append]
      rw [spaced_append_cons rfl, spaced_cons_cons rfl]
      exact ⟨spaced_conjunction c clean.1, blank_wellFormed, trivial, blank_wellFormed,
        spaced_disjunction d clean.2⟩
end

/-- **An expression is read back from its text**, with a blank after it or not. -/
theorem parse?_textOf {d : Disjunction} (clean : d.Clean) (blank : Bool) {text : String}
    (written : text.toList = textOf (d.tokens true ++ gap blank)) :
    Disjunction.parse? text = some d := by
  have spaced : Spaced (d.tokens true ++ gap blank) := by
    refine spaced_append (spaced_disjunction d clean) ?_ ?_
    · cases blank
      · exact spaced_nil
      · exact (spaced_singleton _).2 blank_wellFormed
    · cases blank <;> simp [gap, Token.isSeparator]
  have solid : dense (d.tokens true ++ gap blank) = d.tokens false := by
    rw [dense_append, dense_gap, dense_disjunction, List.append_nil]
  have whole := readDisjunction_tokens d [] clean (by simp [NotAfter, NoLiteral])
  rw [List.append_nil] at whole
  rw [Disjunction.parse?, written, tokens?_textOf spaced, Option.bind_some, solid, whole]

/-! ## Rows of factors and of conjunctions -/

/-- The factors of a row joined by AND. -/
def Conjunction.ofRow : Factor → List Factor → Conjunction
  | f, [] => .single f
  | f, g :: rest => .and f (ofRow g rest)

/-- The conjunctions of a row joined by OR. -/
def Disjunction.ofRow : Conjunction → List Conjunction → Disjunction
  | c, [] => .single c
  | c, d :: rest => .or c (ofRow d rest)

theorem eval_conjunction_ofRow (truth : Predicate → Bool) (f : Factor) (rest : List Factor) :
    (Conjunction.ofRow f rest).eval truth = (f :: rest).all fun g => g.eval truth := by
  induction rest generalizing f with
  | nil => simp [Conjunction.ofRow, Conjunction.eval]
  | cons g rest ih =>
      rw [Conjunction.ofRow, Conjunction.eval, ih]
      rfl

theorem eval_disjunction_ofRow (truth : Predicate → Bool) (c : Conjunction)
    (rest : List Conjunction) :
    (Disjunction.ofRow c rest).eval truth = (c :: rest).any fun d => d.eval truth := by
  induction rest generalizing c with
  | nil => simp [Disjunction.ofRow, Disjunction.eval]
  | cons d rest ih =>
      rw [Disjunction.ofRow, Disjunction.eval, ih]
      rfl

theorem clean_conjunction_ofRow {f : Factor} {rest : List Factor}
    (clean : ∀ g ∈ f :: rest, g.Clean) : (Conjunction.ofRow f rest).Clean := by
  induction rest generalizing f with
  | nil => exact clean f List.mem_cons_self
  | cons g rest ih =>
      exact ⟨clean f List.mem_cons_self, ih fun h here => clean h (List.mem_cons_of_mem f here)⟩

theorem clean_disjunction_ofRow {c : Conjunction} {rest : List Conjunction}
    (clean : ∀ d ∈ c :: rest, d.Clean) : (Disjunction.ofRow c rest).Clean := by
  induction rest generalizing c with
  | nil => exact clean c List.mem_cons_self
  | cons d rest ih =>
      exact ⟨clean c List.mem_cons_self, ih fun e here => clean e (List.mem_cons_of_mem c here)⟩

theorem textOf_conjunction_ofRow (f : Factor) (rest : List Factor) :
    textOf ((Conjunction.ofRow f rest).tokens true) =
      textOf (f.tokens true) ++ rest.flatMap fun g => " AND ".toList ++ textOf (g.tokens true) := by
  induction rest generalizing f with
  | nil => simp [Conjunction.ofRow, Conjunction.tokens]
  | cons g rest ih =>
      simp [Conjunction.ofRow, Conjunction.tokens, ih, gap, Token.text, Keyword.text]

theorem textOf_disjunction_ofRow (c : Conjunction) (rest : List Conjunction) :
    textOf ((Disjunction.ofRow c rest).tokens true) =
      textOf (c.tokens true) ++ rest.flatMap fun d => " OR ".toList ++ textOf (d.tokens true) := by
  induction rest generalizing c with
  | nil => simp [Disjunction.ofRow, Disjunction.tokens]
  | cons d rest ih =>
      simp [Disjunction.ofRow, Disjunction.tokens, ih, gap, Token.text, Keyword.text]

end WhereClause.Sql
