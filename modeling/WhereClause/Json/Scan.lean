import WhereClause.Json.Problem

/-!
# The small parts of a JSON text

White space, the three words, and strings.  Every function takes the text that
is still to be read and gives back what remains of it; the lemmas
`length_…` say that a successful reading leaves less than it was given.
-/

set_option autoImplicit false

namespace WhereClause.Json

/-- The result of reading something off the front of a text. -/
abbrev Scan (α : Type) := Except Problem (α × List Char)

/-- The four characters that may stand between the tokens of a document. -/
def isSpace (c : Char) : Bool := c == ' ' || c == '\n' || c == '\t' || c == '\r'

/-- The rest of a text after its leading white space. -/
def skipSpace (s : List Char) : List Char := s.dropWhile isSpace

/-- Reads given letters, one by one. -/
def word : List Char → List Char → Except Problem (List Char)
  | [], s => .ok s
  | _ :: _, [] => .error (.ended .value)
  | c :: letters, d :: s => if c = d then word letters s else .error .expectedWord

/-! ## Escapes -/

/-- The value of a hexadecimal digit of either case. -/
def hexDigit? (c : Char) : Option Nat :=
  if c.isDigit then some (Decimal.digit c)
  else if 'a' ≤ c ∧ c ≤ 'f' then some (c.toNat - 'a'.toNat + 10)
  else if 'A' ≤ c ∧ c ≤ 'F' then some (c.toNat - 'A'.toNat + 10)
  else none

/-- The value of four hexadecimal digits. -/
def hexValue? (a b c d : Char) : Option Nat := do
  some (((← hexDigit? a) * 16 + (← hexDigit? b)) * 256 + ((← hexDigit? c) * 16 + (← hexDigit? d)))

/-- What is wrong with a text that does not begin with four hexadecimal digits: it
has ended too early when less than four bytes of it are left. -/
def hexProblem (s : List Char) : Problem :=
  if (String.ofList s).utf8ByteSize < 4 then .ended .text else .badEscape

/-- Reads four hexadecimal digits. -/
def hexFour : List Char → Scan Nat
  | a :: b :: c :: d :: rest =>
      match hexValue? a b c d with
      | some n => .ok (n, rest)
      | none => .error (hexProblem (a :: b :: c :: d :: rest))
  | s => .error (hexProblem s)

/-- Whether a code unit is the first half of a surrogate pair. -/
def isLeading (n : Nat) : Bool := 0xD800 ≤ n && n ≤ 0xDBFF

/-- Whether a code unit is the second half of a surrogate pair. -/
def isTrailing (n : Nat) : Bool := 0xDC00 ≤ n && n ≤ 0xDFFF

/-- The character of a surrogate pair. -/
def joinSurrogates (first second : Nat) : Char :=
  Char.ofNat ((first - 0xD800) * 0x400 + (second - 0xDC00) + 0x10000)

/-- Reads the second half of a surrogate pair. -/
def secondHalf (first : Nat) : List Char → Scan Char
  | [] => .error (.ended .text)
  | '\\' :: [] => .error (.ended .text)
  | '\\' :: 'u' :: rest =>
      match hexFour rest with
      | .error p => .error p
      | .ok (second, rest) =>
          if isTrailing second then .ok (joinSurrogates first second, rest)
          else .error .loneSurrogate
  | _ => .error .brokenSurrogate

/-- Reads a character given by its number; beyond the basic plane it takes two
numbers. -/
def numbered (s : List Char) : Scan Char :=
  match hexFour s with
  | .error p => .error p
  | .ok (n, rest) =>
      if isTrailing n then .error .loneSurrogate
      else if isLeading n then secondHalf n rest
      else .ok (Char.ofNat n, rest)

/-- The characters that a backslash and one letter stand for. -/
def shortEscape? : Char → Option Char
  | '"' => some '"'
  | '\\' => some '\\'
  | '/' => some '/'
  | 'b' => some '\x08'
  | 'f' => some '\x0C'
  | 'n' => some '\n'
  | 'r' => some '\r'
  | 't' => some '\t'
  | _ => none

/-- Reads what follows a backslash. -/
def escape : List Char → Scan Char
  | [] => .error (.ended .text)
  | 'u' :: rest => numbered rest
  | c :: rest =>
      match shortEscape? c with
      | some d => .ok (d, rest)
      | none => .error .badEscape

/-- Passes over what follows a backslash without asking what it stands for. -/
def skipEscape : List Char → Except Problem (List Char)
  | [] => .error (.ended .text)
  | 'u' :: rest => (hexFour rest).map Prod.snd
  | c :: rest =>
      match shortEscape? c with
      | some _ => .ok rest
      | none => .error .badEscape

/-! ## How much is left -/

theorem length_skipSpace_le (s : List Char) : (skipSpace s).length ≤ s.length :=
  (List.dropWhile_suffix isSpace).length_le

theorem length_word_le {letters s rest : List Char} (h : word letters s = .ok rest) :
    rest.length ≤ s.length := by
  induction letters generalizing s with
  | nil => cases h; exact Nat.le_refl _
  | cons c letters ih =>
      cases s with
      | nil => simp [word] at h
      | cons d s =>
          simp only [word] at h
          split at h
          · exact Nat.le_succ_of_le (ih h)
          · simp at h

theorem length_hexFour {s rest : List Char} {n : Nat} (h : hexFour s = .ok (n, rest)) :
    rest.length < s.length := by
  unfold hexFour at h
  split at h
  · split at h
    · simp only [Except.ok.injEq, Prod.mk.injEq] at h
      obtain ⟨-, rfl⟩ := h
      simp only [List.length_cons]
      omega
    · simp at h
  · simp at h

theorem length_secondHalf {first : Nat} {s rest : List Char} {c : Char}
    (h : secondHalf first s = .ok (c, rest)) : rest.length < s.length := by
  unfold secondHalf at h
  split at h
  · simp at h
  · simp at h
  · split at h
    · simp at h
    · rename_i hex
      have := length_hexFour hex
      split at h
      · simp only [Except.ok.injEq, Prod.mk.injEq] at h
        obtain ⟨-, rfl⟩ := h
        simp only [List.length_cons]
        omega
      · simp at h
  · simp at h

theorem length_numbered {s rest : List Char} {c : Char} (h : numbered s = .ok (c, rest)) :
    rest.length < s.length := by
  unfold numbered at h
  split at h
  · simp at h
  · rename_i hex
    have := length_hexFour hex
    split at h
    · simp at h
    · split at h
      · exact Nat.lt_trans (length_secondHalf h) this
      · simp only [Except.ok.injEq, Prod.mk.injEq] at h
        obtain ⟨-, rfl⟩ := h
        exact this

theorem length_escape {s rest : List Char} {c : Char} (h : escape s = .ok (c, rest)) :
    rest.length < s.length := by
  unfold escape at h
  split at h
  · simp at h
  · exact Nat.lt_succ_of_lt (length_numbered h)
  · split at h
    · simp only [Except.ok.injEq, Prod.mk.injEq] at h
      obtain ⟨-, rfl⟩ := h
      simp
    · simp at h

theorem length_skipEscape {s rest : List Char} (h : skipEscape s = .ok rest) :
    rest.length < s.length := by
  unfold skipEscape at h
  split at h
  · simp at h
  · rename_i t
    cases hex : hexFour t with
    | error p => simp [hex, Except.map] at h
    | ok r =>
        simp only [hex, Except.map, Except.ok.injEq] at h
        subst h
        exact Nat.lt_succ_of_lt (length_hexFour hex)
  · split at h
    · cases h
      simp
    · simp at h

/-! ## Strings -/

/-- Reads a string up to its closing quote; the opening one has been read, and
`done` holds the characters so far, the last one first. -/
def textFrom (done : List Char) : List Char → Scan String
  | [] => .error (.ended .text)
  | '"' :: rest => .ok (String.ofList done.reverse, rest)
  | '\\' :: rest =>
      match _h : escape rest with
      | .error p => .error p
      | .ok (c, rest') => textFrom (c :: done) rest'
  | c :: rest => if c.toNat < 0x20 then .error .controlCharacter else textFrom (c :: done) rest
termination_by s => s.length
decreasing_by
  · exact Nat.lt_succ_of_lt (length_escape ‹_›)
  · simp

/-- Passes over a string up to its closing quote; the opening one has been read. -/
def skipText : List Char → Except Problem (List Char)
  | [] => .error (.ended .text)
  | '"' :: rest => .ok rest
  | '\\' :: rest =>
      match _h : skipEscape rest with
      | .error p => .error p
      | .ok rest' => skipText rest'
  | c :: rest => if c.toNat < 0x20 then .error .controlCharacter else skipText rest
termination_by s => s.length
decreasing_by
  · exact Nat.lt_succ_of_lt (length_skipEscape ‹_›)
  · simp

theorem length_textFrom {done s rest : List Char} {text : String}
    (h : textFrom done s = .ok (text, rest)) : rest.length < s.length := by
  fun_induction textFrom done s with
  | case1 => simp at h
  | case2 =>
      simp only [Except.ok.injEq, Prod.mk.injEq] at h
      obtain ⟨-, rfl⟩ := h
      simp
  | case3 => simp at h
  | case4 done t c rest' hesc ih =>
      have := length_escape hesc
      have := ih h
      simp only [List.length_cons]
      omega
  | case5 => simp at h
  | case6 done c t _ _ _ ih => exact Nat.lt_succ_of_lt (ih h)

theorem length_skipText {s rest : List Char} (h : skipText s = .ok rest) :
    rest.length < s.length := by
  fun_induction skipText s with
  | case1 => simp at h
  | case2 => cases h; simp
  | case3 => simp at h
  | case4 t rest' hesc ih =>
      have := length_skipEscape hesc
      have := ih h
      simp only [List.length_cons]
      omega
  | case5 => simp at h
  | case6 c t _ _ _ ih => exact Nat.lt_succ_of_lt (ih h)

end WhereClause.Json
