import WhereClause.Json.Number

/-!
# Passing over a value

A member that nobody asks for is passed over: its text has to be well formed, but
numbers may be of any size and escapes may name any code unit.  The brackets
that are still open are kept in a list, the innermost first, so a value may be
nested to any depth.
-/

set_option autoImplicit false

namespace WhereClause.Json

/-- A bracket that has been opened. -/
inductive Bracket where
  | list
  | object
  deriving DecidableEq, Repr

/-- Passes over a value that is not a list or an object; the text begins with it. -/
def skipScalar : List Char → Except Problem (List Char)
  | [] => .error (.ended .value)
  | 'n' :: rest => word ['u', 'l', 'l'] rest
  | 't' :: rest => word ['r', 'u', 'e'] rest
  | 'f' :: rest => word ['a', 'l', 's', 'e'] rest
  | '"' :: rest => skipText rest
  | '-' :: rest => skipNumber rest
  | c :: rest => if c.isDigit then skipNumber (c :: rest) else .error .expectedValue

/-- Passes over the colon behind a key. -/
def skipColon (s : List Char) : Except Problem (List Char) :=
  match skipSpace s with
  | [] => .error (.ended .object)
  | ':' :: rest => .ok rest
  | _ => .error .expectedColon

/-- Passes over a key and its colon. -/
def skipKey (s : List Char) : Except Problem (List Char) :=
  match skipSpace s with
  | [] => .error (.ended .object)
  | '"' :: rest => (skipText rest).bind skipColon
  | _ => .error .keyNotText

/-! ## How much is left -/

theorem length_of_skipSpace {s rest : List Char} {c : Char} (h : skipSpace s = c :: rest) :
    rest.length < s.length := by
  have := length_skipSpace_le s
  rw [h, List.length_cons] at this
  omega

theorem length_skipScalar {s rest : List Char} (h : skipScalar s = .ok rest) :
    rest.length < s.length := by
  unfold skipScalar at h
  split at h
  · simp at h
  · exact Nat.lt_succ_of_le (length_word_le h)
  · exact Nat.lt_succ_of_le (length_word_le h)
  · exact Nat.lt_succ_of_le (length_word_le h)
  · exact Nat.lt_succ_of_lt (length_skipText h)
  · exact Nat.lt_succ_of_lt (length_skipNumber h)
  · split at h
    · exact length_skipNumber h
    · simp at h

theorem length_skipColon {s rest : List Char} (h : skipColon s = .ok rest) :
    rest.length < s.length := by
  unfold skipColon at h
  split at h
  · simp at h
  · rename_i found
    cases h
    exact length_of_skipSpace found
  · simp at h

theorem length_skipKey {s rest : List Char} (h : skipKey s = .ok rest) :
    rest.length < s.length := by
  unfold skipKey at h
  split at h
  · simp at h
  · rename_i tail found
    cases key : skipText tail with
    | error p => simp [key, Except.bind] at h
    | ok t =>
        simp only [key, Except.bind] at h
        have := length_of_skipSpace found
        have := length_skipText key
        have := length_skipColon h
        omega
  · simp at h

/-! ## Nested values -/

mutual
/-- Passes over a value inside the brackets that are open, and over all that
follows up to the last closing bracket. -/
def skipValue (nest : List Bracket) (s : List Char) : Except Problem (List Char) :=
  match _found : skipSpace s with
  | [] => .error (.ended .value)
  | '[' :: rest =>
      match _next : skipSpace rest with
      | [] => .error (.ended .list)
      | ']' :: rest' => skipNext nest rest'
      | c :: rest' => skipValue (.list :: nest) (c :: rest')
  | '\x7b' :: rest =>
      match _next : skipSpace rest with
      | [] => .error (.ended .object)
      | '\x7d' :: rest' => skipNext nest rest'
      | c :: rest' =>
          match _key : skipKey (c :: rest') with
          | .error p => .error p
          | .ok rest' => skipValue (.object :: nest) rest'
  | c :: rest =>
      match _scalar : skipScalar (c :: rest) with
      | .error p => .error p
      | .ok rest' => skipNext nest rest'
termination_by s.length
decreasing_by
  all_goals
    have := length_skipSpace_le s
    have := congrArg List.length _found
    simp only [List.length_cons] at this
  · have := length_of_skipSpace _next
    omega
  · have := length_skipSpace_le rest
    have := congrArg List.length _next
    simp only [List.length_cons] at *
    omega
  · have := length_of_skipSpace _next
    omega
  · have := length_skipSpace_le rest
    have := congrArg List.length _next
    have := length_skipKey _key
    simp only [List.length_cons] at *
    omega
  · have := length_skipScalar _scalar
    simp only [List.length_cons] at *
    omega

/-- Passes over what follows a value inside the brackets that are open. -/
def skipNext (nest : List Bracket) (s : List Char) : Except Problem (List Char) :=
  match nest with
  | [] => .ok s
  | .list :: outer =>
      match _found : skipSpace s with
      | [] => .error (.ended .list)
      | ',' :: rest => skipValue (.list :: outer) rest
      | ']' :: rest => skipNext outer rest
      | _ => .error .expectedListCommaOrEnd
  | .object :: outer =>
      match _found : skipSpace s with
      | [] => .error (.ended .object)
      | ',' :: rest =>
          match _key : skipKey rest with
          | .error p => .error p
          | .ok rest' => skipValue (.object :: outer) rest'
      | '\x7d' :: rest => skipNext outer rest
      | _ => .error .expectedObjectCommaOrEnd
termination_by s.length
decreasing_by
  · exact length_of_skipSpace _found
  · exact length_of_skipSpace _found
  · exact Nat.lt_trans (length_skipKey _key) (length_of_skipSpace _found)
  · exact length_of_skipSpace _found
end

/-- Passing over a value leaves less than there was, and passing over what
follows one leaves no more. -/
theorem length_skip (bound : Nat) :
    (∀ {nest : List Bracket} {s rest : List Char}, s.length ≤ bound →
      skipValue nest s = .ok rest → rest.length < s.length) ∧
    (∀ {nest : List Bracket} {s rest : List Char}, s.length ≤ bound →
      skipNext nest s = .ok rest → rest.length ≤ s.length) := by
  induction bound using Nat.strongRecOn with
  | ind bound ih =>
    have value : ∀ {nest : List Bracket} {s t rest : List Char}, t.length < s.length →
        s.length ≤ bound → skipValue nest t = .ok rest → rest.length < s.length := by
      intro nest s t rest lt le h
      exact Nat.lt_trans ((ih t.length (by omega)).1 (Nat.le_refl _) h) lt
    have next : ∀ {nest : List Bracket} {s t rest : List Char}, t.length < s.length →
        s.length ≤ bound → skipNext nest t = .ok rest → rest.length < s.length := by
      intro nest s t rest lt le h
      exact Nat.lt_of_le_of_lt ((ih t.length (by omega)).2 (Nat.le_refl _) h) lt
    constructor
    · intro nest s rest le h
      have space := length_skipSpace_le s
      unfold skipValue at h
      split at h
      · simp at h
      · rename_i tail found
        have here := length_of_skipSpace found
        have inner := length_skipSpace_le tail
        split at h
        · simp at h
        · rename_i after
          exact next (Nat.lt_trans (length_of_skipSpace after) here) le h
        · rename_i after
          rw [after] at inner
          exact value (Nat.lt_of_le_of_lt inner here) le h
      · rename_i tail found
        have here := length_of_skipSpace found
        have inner := length_skipSpace_le tail
        split at h
        · simp at h
        · rename_i after
          exact next (Nat.lt_trans (length_of_skipSpace after) here) le h
        · rename_i after
          rw [after] at inner
          split at h
          · simp at h
          · rename_i key
            exact value (Nat.lt_trans (length_skipKey key) (Nat.lt_of_le_of_lt inner here)) le h
      · rename_i found
        rw [found] at space
        split at h
        · simp at h
        · rename_i scalar
          exact next (Nat.lt_of_lt_of_le (length_skipScalar scalar) space) le h
    · intro nest s rest le h
      unfold skipNext at h
      split at h
      · cases h
        exact Nat.le_refl _
      · split at h
        · simp at h
        · rename_i found
          exact Nat.le_of_lt (value (length_of_skipSpace found) le h)
        · rename_i found
          exact Nat.le_of_lt (next (length_of_skipSpace found) le h)
        · simp at h
      · split at h
        · simp at h
        · rename_i found
          split at h
          · simp at h
          · rename_i key
            exact Nat.le_of_lt
              (value (Nat.lt_trans (length_skipKey key) (length_of_skipSpace found)) le h)
        · rename_i found
          exact Nat.le_of_lt (next (length_of_skipSpace found) le h)
        · simp at h

theorem length_skipValue {nest : List Bracket} {s rest : List Char}
    (h : skipValue nest s = .ok rest) : rest.length < s.length :=
  (length_skip s.length).1 (Nat.le_refl _) h

end WhereClause.Json
