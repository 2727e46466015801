import WhereClause.Json.Skip

/-!
# Readers of typed values

A reader takes a value of one type off the front of a text, white space before
the value included, and leaves less than it was given.  The first character of
the value settles what it is; a value that is not of the reader's type is still
read, as far as it takes to say what it is, so a problem in its own text comes
before the problem of its type.
-/

set_option autoImplicit false

namespace WhereClause.Json

/-- A reader of values of one type. -/
structure Reader (α : Type) where
  read : List Char → Scan α
  shortens : ∀ {s rest : List Char} {a : α}, read s = .ok (a, rest) → rest.length < s.length

/-! ## Values of another type -/

/-- What a value is whose first character has been read. -/
def foundFrom (c : Char) (rest : List Char) : Except Problem Found :=
  match c with
  | 'n' => (word ['u', 'l', 'l'] rest).map fun _ => .null
  | 't' => (word ['r', 'u', 'e'] rest).map fun _ => .boolean true
  | 'f' => (word ['a', 'l', 's', 'e'] rest).map fun _ => .boolean false
  | '"' => (textFrom [] rest).map fun (text, _) => .text text
  | '[' => .ok .sequence
  | '\x7b' => .ok .map
  | '-' => (number true rest).map fun (n, _) => n.found
  | c =>
      if c.isDigit then (number false (c :: rest)).map fun (n, _) => n.found
      else .error .expectedValue

/-- The problem of a value that stands where another type was called for. -/
def unexpected (expected : String) (c : Char) (rest : List Char) : Problem :=
  match foundFrom c rest with
  | .ok found => .wrongType found expected
  | .error p => p

namespace Reader

variable {α β : Type}

/-! ## Scalars -/

/-- A reader that goes by the first character behind white space. -/
def ofFirst (next : Char → List Char → Scan α)
    (shortens : ∀ {c : Char} {s rest : List Char} {a : α},
      next c s = .ok (a, rest) → rest.length ≤ s.length) : Reader α where
  read s :=
    match skipSpace s with
    | [] => .error (.ended .value)
    | c :: rest => next c rest
  shortens {s rest a} h := by
    split at h
    · simp at h
    · rename_i found
      exact Nat.lt_of_le_of_lt (shortens h) (length_of_skipSpace found)

/-- A reader whose values are changed by a function. -/
def map (f : α → β) (r : Reader α) : Reader β where
  read s := (r.read s).map fun (a, rest) => (f a, rest)
  shortens {s rest b} h := by
    cases read : r.read s with
    | error p => simp [read, Except.map] at h
    | ok pair =>
        simp only [read, Except.map, Except.ok.injEq, Prod.mk.injEq] at h
        exact h.2 ▸ r.shortens read

/-- Letters that have to follow, and the value that they complete. -/
def wordFor (letters : List Char) (a : α) (s : List Char) : Scan α :=
  (word letters s).map fun rest => (a, rest)

theorem length_wordFor {letters s rest : List Char} {a b : α}
    (h : wordFor letters a s = .ok (b, rest)) : rest.length ≤ s.length := by
  unfold wordFor at h
  cases read : word letters s with
  | error p => simp [read, Except.map] at h
  | ok t =>
      simp only [read, Except.map, Except.ok.injEq, Prod.mk.injEq] at h
      exact h.2 ▸ length_word_le read

/-- A string. -/
def text : Reader String :=
  ofFirst
    (fun c rest => if c = '"' then textFrom [] rest else .error (unexpected "a string" c rest))
    (fun {_ _ _ _} h => by
      split at h
      · exact Nat.le_of_lt (length_textFrom h)
      · simp at h)

/-- A truth value. -/
def boolean : Reader Bool :=
  ofFirst
    (fun c rest =>
      if c = 't' then wordFor ['r', 'u', 'e'] true rest
      else if c = 'f' then wordFor ['a', 'l', 's', 'e'] false rest
      else .error (unexpected "a boolean" c rest))
    (fun {_ _ _ _} h => by
      split at h
      · exact length_wordFor h
      · split at h
        · exact length_wordFor h
        · simp at h)

/-- The word `null` where nothing else may stand. -/
def null : Reader Unit :=
  ofFirst
    (fun c rest =>
      if c = 'n' then wordFor ['u', 'l', 'l'] () rest else .error (unexpected "unit" c rest))
    (fun {_ _ _ _} h => by
      split at h
      · exact length_wordFor h
      · simp at h)

/-- The word `null`, or a value. -/
def orNull (r : Reader α) : Reader (Option α) :=
  ofFirst
    (fun c rest =>
      if c = 'n' then wordFor ['u', 'l', 'l'] none rest
      else (r.map some).read (c :: rest))
    (fun {_ _ _ _} h => by
      split at h
      · exact length_wordFor h
      · exact Nat.le_of_lt_succ ((r.map some).shortens h))

/-- A value of any type, which is passed over. -/
def skipped : Reader Unit where
  read s := (skipValue [] s).map fun rest => ((), rest)
  shortens {s rest a} h := by
    cases read : skipValue [] s with
    | error p => simp [read, Except.map] at h
    | ok t =>
        simp only [read, Except.map, Except.ok.injEq, Prod.mk.injEq] at h
        exact h.2 ▸ length_skipValue read

/-- A value behind a colon. -/
def behindColon (r : Reader α) : Reader α where
  read s := (skipColon s).bind r.read
  shortens {s rest a} h := by
    cases colon : skipColon s with
    | error p => simp [colon, Except.bind] at h
    | ok t =>
        simp only [colon, Except.bind] at h
        exact Nat.lt_trans (r.shortens h) (length_skipColon colon)

/-! ## Choices -/

/-- The value that a name stands for. -/
def pick (variants : List (String × α)) (name : String) : Except Problem α :=
  match variants.lookup name with
  | some a => .ok a
  | none => .error (.unknownVariant name (variants.map Prod.fst))

/-- A name behind its opening quote, as the value that it stands for. -/
def variantFrom (variants : List (String × α)) (s : List Char) : Scan α :=
  match textFrom [] s with
  | .error p => .error p
  | .ok (name, rest) => (pick variants name).map fun a => (a, rest)

/-- The closing brace of a choice that is spelled as an object. -/
def closeChoice (a : α) (s : List Char) : Scan α :=
  match skipSpace s with
  | [] => .error (.ended .object)
  | '\x7d' :: rest => .ok (a, rest)
  | _ => .error .expectedValue

/-- A choice spelled as an object, behind its opening brace: its one key is the
name, and its value is `null`. -/
def bracedVariant (variants : List (String × α)) (s : List Char) : Scan α :=
  match skipSpace s with
  | [] => .error (.ended .object)
  | '"' :: rest =>
      match variantFrom variants rest with
      | .error p => .error p
      | .ok (a, rest) =>
          match null.behindColon.read rest with
          | .error p => .error p
          | .ok ((), rest) => closeChoice a rest
  | '\x7d' :: _ => .error .expectedValue
  | _ => .error .keyNotText

theorem length_variantFrom {variants : List (String × α)} {s rest : List Char} {a : α}
    (h : variantFrom variants s = .ok (a, rest)) : rest.length < s.length := by
  unfold variantFrom at h
  split at h
  · simp at h
  · rename_i name tail read
    cases picked : pick variants name with
    | error p => simp [picked, Except.map] at h
    | ok b =>
        simp only [picked, Except.map, Except.ok.injEq, Prod.mk.injEq] at h
        exact h.2 ▸ length_textFrom read

theorem length_closeChoice {s rest : List Char} {a b : α}
    (h : closeChoice a s = .ok (b, rest)) : rest.length < s.length := by
  unfold closeChoice at h
  split at h
  · simp at h
  · rename_i found
    simp only [Except.ok.injEq, Prod.mk.injEq] at h
    exact h.2 ▸ length_of_skipSpace found
  · simp at h

theorem length_bracedVariant {variants : List (String × α)} {s rest : List Char} {a : α}
    (h : bracedVariant variants s = .ok (a, rest)) : rest.length < s.length := by
  unfold bracedVariant at h
  split at h
  · simp at h
  · rename_i found
    split at h
    · simp at h
    · rename_i name
      split at h
      · simp at h
      · rename_i value
        have := length_of_skipSpace found
        have := length_variantFrom name
        have := (null.behindColon).shortens value
        have := length_closeChoice h
        omega
  · simp at h
  · simp at h

/-- One of some names, or an object with that name as its one key. -/
def choice (variants : List (String × α)) : Reader α :=
  ofFirst
    (fun c rest =>
      if c = '"' then variantFrom variants rest
      else if c = '\x7b' then bracedVariant variants rest
      else .error .expectedValue)
    (fun {_ _ _ _} h => by
      split at h
      · exact Nat.le_of_lt (length_variantFrom h)
      · split at h
        · exact Nat.le_of_lt (length_bracedVariant h)
        · simp at h)

end Reader

/-! ## Lists -/

/-- What stands where a further part of a list or an object may follow: its end, or
the rest of the text from the further part on. -/
inductive Turn where
  | stop (rest : List Char)
  | more (rest : List Char)
  deriving DecidableEq, Repr

/-- The turn behind a comma in a list. -/
def elementBehindComma (s : List Char) : Except Problem Turn :=
  match skipSpace s with
  | [] => .error (.ended .value)
  | ']' :: _ => .error .trailingComma
  | c :: rest => .ok (.more (c :: rest))

/-- The turn in a list, at its beginning or behind an element. -/
def nextElement (first : Bool) (s : List Char) : Except Problem Turn :=
  match skipSpace s with
  | [] => .error (.ended .list)
  | ']' :: rest => .ok (.stop rest)
  | c :: rest =>
      if first then .ok (.more (c :: rest))
      else if c = ',' then elementBehindComma rest
      else .error .expectedListCommaOrEnd

theorem length_elementBehindComma {s rest : List Char}
    (h : elementBehindComma s = .ok (.more rest)) : rest.length ≤ s.length := by
  unfold elementBehindComma at h
  have := length_skipSpace_le s
  split at h
  · simp at h
  · simp at h
  · rename_i found
    simp only [Except.ok.injEq, Turn.more.injEq] at h
    rw [found] at this
    exact h ▸ this

theorem length_nextElement_more {first : Bool} {s rest : List Char}
    (h : nextElement first s = .ok (.more rest)) : rest.length ≤ s.length := by
  unfold nextElement at h
  have := length_skipSpace_le s
  split at h
  · simp at h
  · simp at h
  · rename_i found
    rw [found, List.length_cons] at this
    split at h
    · simp only [Except.ok.injEq, Turn.more.injEq] at h
      exact h ▸ this
    · split at h
      · have := length_elementBehindComma h
        omega
      · simp at h

theorem length_nextElement_stop {first : Bool} {s rest : List Char}
    (h : nextElement first s = .ok (.stop rest)) : rest.length < s.length := by
  unfold nextElement at h
  split at h
  · simp at h
  · rename_i found
    simp only [Except.ok.injEq, Turn.stop.injEq] at h
    exact h ▸ length_of_skipSpace found
  · split at h
    · simp at h
    · split at h
      · unfold elementBehindComma at h
        split at h <;> simp at h
      · simp at h

namespace Reader

variable {α : Type}

/-- The elements of a list behind its opening bracket or behind an element; `done`
holds those so far, the last one first. -/
def elements (r : Reader α) (done : List α) (first : Bool) (s : List Char) : Scan (List α) :=
  match _turn : nextElement first s with
  | .error p => .error p
  | .ok (.stop rest) => .ok (done.reverse, rest)
  | .ok (.more rest) =>
      match _element : r.read rest with
      | .error p => .error p
      | .ok (a, rest) => r.elements (a :: done) false rest
termination_by s.length
decreasing_by exact Nat.lt_of_lt_of_le (r.shortens _element) (length_nextElement_more _turn)

theorem length_elements {r : Reader α} {done as : List α} {first : Bool} {s rest : List Char}
    (h : r.elements done first s = .ok (as, rest)) : rest.length < s.length := by
  fun_induction r.elements done first s with
  | case1 => simp at h
  | case2 done first s t turn =>
      simp only [Except.ok.injEq, Prod.mk.injEq] at h
      exact h.2 ▸ length_nextElement_stop turn
  | case3 => simp at h
  | case4 done first s t turn a u element ih =>
      have := ih h
      have := r.shortens element
      have := length_nextElement_more turn
      omega

/-- A list of values of one type. -/
def listOf (r : Reader α) : Reader (List α) :=
  ofFirst
    (fun c rest =>
      if c = '[' then r.elements [] true rest else .error (unexpected "a sequence" c rest))
    (fun {_ _ _ _} h => by
      split at h
      · exact Nat.le_of_lt (length_elements h)
      · simp at h)

/-- A whole text as one value, with nothing but white space around it. -/
def whole (r : Reader α) (s : List Char) : Except Problem α :=
  match r.read s with
  | .error p => .error p
  | .ok (a, rest) => if (skipSpace rest).isEmpty then .ok a else .error .trailingCharacters

end Reader

end WhereClause.Json
