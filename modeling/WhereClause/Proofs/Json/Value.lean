import WhereClause.Proofs.Json.Token

/-!
# JSON values as trees

A value is a tree of lists and objects.  An object is a row of members, whose names are strings
as they are written; nothing forbids that two members have one name.

The tokens of a value are settled by the tree, and the white space between them is not
(`Value.Written`).  A document is one value with nothing but white space around it.
-/

set_option autoImplicit false

namespace WhereClause.Json

/-- A JSON value. -/
inductive Value where
  | null
  | boolean (b : Bool)
  | number (n : Numeral)
  | text (t : Literal)
  | list (values : List Value)
  | object (members : List (Literal × Value))

namespace Value

mutual
/-- The tokens of a value. -/
def tokens : Value → List Token
  | .null => [.null]
  | .boolean b => [.boolean b]
  | .number n => [.number n]
  | .text t => [.text t]
  | .list [] => [.mark .openList, .mark .closeList]
  | .list (v :: vs) => .mark .openList :: (tokens v ++ furtherElements vs)
  | .object [] => [.mark .openObject, .mark .closeObject]
  | .object ((name, v) :: ms) =>
      .mark .openObject :: .text name :: .mark .colon :: (tokens v ++ furtherMembers ms)

/-- The tokens of a list behind an element. -/
def furtherElements : List Value → List Token
  | [] => [.mark .closeList]
  | v :: vs => .mark .comma :: (tokens v ++ furtherElements vs)

/-- The tokens of an object behind a member. -/
def furtherMembers : List (Literal × Value) → List Token
  | [] => [.mark .closeObject]
  | (name, v) :: ms =>
      .mark .comma :: .text name :: .mark .colon :: (tokens v ++ furtherMembers ms)
end

/-- The tokens of a list, behind its bracket if what is left of it begins there. -/
def elements : Bool → List Value → List Token
  | true, [] => [.mark .closeList]
  | true, v :: vs => v.tokens ++ furtherElements vs
  | false, vs => furtherElements vs

/-- The tokens of an object, behind its brace if what is left of it begins there. -/
def members : Bool → List (Literal × Value) → List Token
  | true, [] => [.mark .closeObject]
  | true, (name, v) :: ms => .text name :: .mark .colon :: (v.tokens ++ furtherMembers ms)
  | false, ms => furtherMembers ms

/-- Whether a text is a value with any white space around and inside it. -/
def Written (v : Value) (text : String) : Prop := Spells v.tokens text.toList

/-- How a value begins behind white space: its first character, and what is left behind it of
the value and of the tokens that follow. -/
inductive Opens (ts : List Token) : Value → Char → List Char → Prop where
  | null {rest : List Char} (spells : Spells ts rest) :
      Opens ts .null 'n' (['u', 'l', 'l'] ++ rest)
  | yes {rest : List Char} (spells : Spells ts rest) :
      Opens ts (.boolean true) 't' (['r', 'u', 'e'] ++ rest)
  | no {rest : List Char} (spells : Spells ts rest) :
      Opens ts (.boolean false) 'f' (['a', 'l', 's', 'e'] ++ rest)
  | negative {n : Numeral} {rest : List Char} (spells : Spells ts rest)
      (sign : n.negative = true) : Opens ts (.number n) '-' (n.magnitude ++ rest)
  | number {n : Numeral} {c : Char} {more rest : List Char} (spells : Spells ts rest)
      (digit : c.isDigit = true) (written : c :: more = n.magnitude ++ rest)
      (sign : n.negative = false) : Opens ts (.number n) c more
  | text {t : Literal} {rest : List Char} (spells : Spells ts rest) :
      Opens ts (.text t) '"' (t.body ++ '"' :: rest)
  | list {vs : List Value} {rest : List Char} (spells : Spells (elements true vs ++ ts) rest) :
      Opens ts (.list vs) '[' rest
  | object {ms : List (Literal × Value)} {rest : List Char}
      (spells : Spells (members true ms ++ ts) rest) : Opens ts (.object ms) '\x7b' rest

/-- A value that is neither a list nor an object. -/
def IsScalar : Value → Prop
  | .list _ => False
  | .object _ => False
  | _ => True

/-- A scalar does not begin with a bracket. -/
theorem Opens.ne_bracket {v : Value} {ts : List Token} {c : Char} {rest : List Char}
    (opens : Opens ts v c rest) (scalar : v.IsScalar) : c ≠ '[' ∧ c ≠ '\x7b' := by
  cases opens with
  | number _ digit =>
      constructor
      · rintro rfl
        cases digit
      · rintro rfl
        cases digit
  | list => exact scalar.elim
  | object => exact scalar.elim
  | _ => decide

theorem tokens_list (vs : List Value) :
    (Value.list vs).tokens = .mark .openList :: elements true vs := by
  cases vs <;> rfl

theorem tokens_object (ms : List (Literal × Value)) :
    (Value.object ms).tokens = .mark .openObject :: members true ms := by
  cases ms <;> rfl

/-- The beginning of a value is settled by the tree. -/
theorem opens_of_spells {v : Value} {ts : List Token} {s : List Char}
    (spells : Spells (v.tokens ++ ts) s) :
    ∃ c rest, skipSpace s = c :: rest ∧ Opens ts v c rest := by
  cases v with
  | null =>
      obtain ⟨rest, found, further⟩ := Spells.skipSpace_eq spells
      exact ⟨'n', _, found, .null further⟩
  | boolean b =>
      obtain ⟨rest, found, further⟩ := Spells.skipSpace_eq spells
      cases b with
      | true => exact ⟨'t', _, found, .yes further⟩
      | false => exact ⟨'f', _, found, .no further⟩
  | number n =>
      obtain ⟨rest, found, further⟩ := Spells.skipSpace_eq spells
      rw [Token.written, Numeral.text] at found
      cases negative : n.negative with
      | true =>
          rw [negative, if_pos rfl] at found
          exact ⟨'-', _, found, .negative further negative⟩
      | false =>
          rw [negative, if_neg Bool.false_ne_true] at found
          exact ⟨n.whole.first, _, found, .number further n.whole.isDigit_first rfl negative⟩
  | text t =>
      obtain ⟨rest, found, further⟩ := Spells.skipSpace_eq spells
      rw [Token.written, List.cons_append, List.append_assoc] at found
      exact ⟨'"', _, found, .text further⟩
  | list vs =>
      rw [tokens_list] at spells
      obtain ⟨rest, found, further⟩ := Spells.skipSpace_eq spells
      exact ⟨'[', rest, found, .list further⟩
  | object ms =>
      rw [tokens_object] at spells
      obtain ⟨rest, found, further⟩ := Spells.skipSpace_eq spells
      exact ⟨'\x7b', rest, found, .object further⟩

end Value

end WhereClause.Json
