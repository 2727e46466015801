import WhereClause.Proofs.Json.Text

/-!
# Strings as they are written

A string of a JSON text is a row of glyphs between quotes.  A glyph is a character that stands
for itself, a short escape, or the number of a code unit in four hexadecimal digits; so a row of
glyphs is exactly what the grammar allows, whether it stands for a text or not.

It stands for none when half of a surrogate pair is alone in it (`Literal.value?`).  **Reading a
string gives the text that it stands for, and fails when there is none** (`textFrom_literal`);
passing over it never fails (`skipText_literal`).
-/

set_option autoImplicit false

namespace WhereClause.Json

/-! ## Strings -/

/-- A digit of a hexadecimal number, of either case. -/
structure HexDigit where
  char : Char
  known : (hexDigit? char).isSome = true

/-- The number that a digit stands for. -/
def HexDigit.number (d : HexDigit) : Nat := (hexDigit? d.char).get d.known

/-- A character of a string as it is written. -/
inductive Glyph where
  /-- Any character but the quote, the backslash and the controls stands for itself. -/
  | plain (c : Char) (fits : c ≠ '"' ∧ c ≠ '\\' ∧ ¬ c.toNat < 0x20)
  /-- A backslash and a letter. -/
  | short (c : Char) (known : (shortEscape? c).isSome = true)
  /-- A code unit by its number. -/
  | numbered (a b c d : HexDigit)

/-- The code unit of four digits. -/
def codeUnit (a b c d : HexDigit) : Nat :=
  (a.number * 16 + b.number) * 256 + (c.number * 16 + d.number)

/-- A string as it is written, without its quotes. -/
abbrev Literal := List Glyph

namespace Glyph

/-- A glyph as it is written. -/
def text : Glyph → List Char
  | .plain c _ => [c]
  | .short c _ => ['\\', c]
  | .numbered a b c d => ['\\', 'u', a.char, b.char, c.char, d.char]

end Glyph

namespace Literal

/-- The characters between the quotes. -/
def body (t : Literal) : List Char := t.flatMap Glyph.text

/-- The characters that a string stands for; none when half of a surrogate pair stands
alone. -/
def characters? : Literal → Option (List Char)
  | [] => some []
  | .plain c _ :: rest => (characters? rest).map (c :: ·)
  | .short c known :: rest => (characters? rest).map ((shortEscape? c).get known :: ·)
  | .numbered a b c d :: rest =>
      if isTrailing (codeUnit a b c d) then none
      else if isLeading (codeUnit a b c d) then
        match rest with
        | .numbered e f g h :: rest =>
            if isTrailing (codeUnit e f g h) then
              (characters? rest).map (joinSurrogates (codeUnit a b c d) (codeUnit e f g h) :: ·)
            else none
        | _ => none
      else (characters? rest).map (Char.ofNat (codeUnit a b c d) :: ·)

/-- The text that a string stands for. -/
def value? (t : Literal) : Option String := t.characters?.map String.ofList

/-- Whether a character can stand for itself. -/
def isPlain (c : Char) : Bool := c != '"' && c != '\\' && !decide (c.toNat < 0x20)

theorem fits_of_isPlain {c : Char} (plain : isPlain c = true) :
    c ≠ '"' ∧ c ≠ '\\' ∧ ¬ c.toNat < 0x20 := by
  simpa [isPlain, and_assoc] using plain

/-- A text whose characters all stand for themselves, as it is written. -/
def plainly (s : List Char) (all : s.all isPlain = true) : Literal :=
  s.pmap Glyph.plain fun c here => fits_of_isPlain (List.all_eq_true.1 all c here)

theorem value?_plainly (s : List Char) (all : s.all isPlain = true) :
    (plainly s all).value? = some (String.ofList s) := by
  have chars (fits : ∀ c ∈ s, c ≠ '"' ∧ c ≠ '\\' ∧ ¬ c.toNat < 0x20) :
      characters? (s.pmap Glyph.plain fits) = some s := by
    clear all
    induction s with
    | nil => rfl
    | cons c s ih =>
        rw [List.pmap, characters?, ih]
        rfl
  rw [value?, plainly, chars]
  rfl

end Literal

/-! ### Reading strings -/

/-- Four digits are read as their code unit. -/
theorem hexFour_digits (a b c d : HexDigit) (rest : List Char) :
    hexFour (a.char :: b.char :: c.char :: d.char :: rest) = .ok (codeUnit a b c d, rest) := by
  have value (d : HexDigit) : hexDigit? d.char = some d.number := by
    simp [HexDigit.number]
  simp [hexFour, hexValue?, value, codeUnit]

theorem escape_short {c : Char} (known : (shortEscape? c).isSome = true) (rest : List Char) :
    escape (c :: rest) = .ok ((shortEscape? c).get known, rest) := by
  obtain ⟨d, found⟩ := Option.isSome_iff_exists.1 known
  have other : c ≠ 'u' := by
    rintro rfl
    cases found
  unfold escape
  split
  · next none => cases none
  · next u => exact absurd (List.cons.inj u).1 other
  · next same =>
      cases same
      simp [found]

theorem skipEscape_short {c : Char} (known : (shortEscape? c).isSome = true) (rest : List Char) :
    skipEscape (c :: rest) = .ok rest := by
  obtain ⟨d, found⟩ := Option.isSome_iff_exists.1 known
  have other : c ≠ 'u' := by
    rintro rfl
    cases found
  unfold skipEscape
  split
  · next none => cases none
  · next u => exact absurd (List.cons.inj u).1 other
  · next same =>
      cases same
      simp [found]

theorem escape_numbered (a b c d : HexDigit) (rest : List Char) :
    escape ('u' :: a.char :: b.char :: c.char :: d.char :: rest) =
      if isTrailing (codeUnit a b c d) then .error .loneSurrogate
      else if isLeading (codeUnit a b c d) then secondHalf (codeUnit a b c d) rest
      else .ok (Char.ofNat (codeUnit a b c d), rest) := by
  simp only [escape, numbered, hexFour_digits]

/-- A backslash in front of what is no escape is a problem. -/
theorem textFrom_backslash_error (done : List Char) {s : List Char} {p : Problem}
    (wrong : escape s = .error p) :
    textFrom done ('\\' :: s) = .error p := by
  rw [textFrom]
  split
  · next failed =>
      rw [wrong] at failed
      cases failed
      rfl
  · next found => simp [wrong] at found

/-- Only an escape by number can be the second half of a pair. -/
theorem secondHalf_fails {t : Literal} (other : ∀ a b c d further, t ≠ .numbered a b c d :: further)
    (first : Nat) (rest : List Char) :
    ∃ p, secondHalf first (t.body ++ '"' :: rest) = .error p := by
  match t, other with
  | [], _ => exact ⟨_, rfl⟩
  | .plain c fits :: further, _ =>
      refine ⟨.brokenSurrogate, ?_⟩
      show secondHalf first (c :: (Literal.body further ++ '"' :: rest)) = _
      unfold secondHalf
      split
      · next none => cases none
      · next backslash => exact absurd (List.cons.inj backslash).1 fits.2.1
      · next backslash => exact absurd (List.cons.inj backslash).1 fits.2.1
      · rfl
  | .short c known :: further, _ =>
      refine ⟨.brokenSurrogate, ?_⟩
      have letter : c ≠ 'u' := by
        rintro rfl
        cases known
      show secondHalf first ('\\' :: c :: (Literal.body further ++ '"' :: rest)) = _
      unfold secondHalf
      split
      · next none => cases none
      · next short => cases (List.cons.inj short).2
      · next number => exact absurd (List.cons.inj (List.cons.inj number).2).1 letter
      · rfl
  | .numbered a b c d :: further, other => exact absurd rfl (other a b c d further)

theorem secondHalf_numbered (first : Nat) (a b c d : HexDigit) (rest : List Char) :
    secondHalf first ('\\' :: 'u' :: a.char :: b.char :: c.char :: d.char :: rest) =
      if isTrailing (codeUnit a b c d) then
        .ok (joinSurrogates first (codeUnit a b c d), rest)
      else .error .loneSurrogate := by
  simp only [secondHalf, hexFour_digits]

/-- **Reading a string gives its value**, and fails when it has none. -/
theorem textFrom_literal (t : Literal) (done rest : List Char) :
    (textFrom done (t.body ++ '"' :: rest)).toOption =
      t.characters?.map fun cs => (String.ofList (done.reverse ++ cs), rest) := by
  fun_induction Literal.characters? t generalizing done with
  | case1 => simp [Literal.body, textFrom, Except.toOption]
  | case2 c fits further ih =>
      show (textFrom done (c :: (Literal.body further ++ '"' :: rest))).toOption = _
      rw [textFrom_plain fits.1 fits.2.1 fits.2.2, ih]
      simp [Function.comp_def]
  | case3 c known further ih =>
      show (textFrom done ('\\' :: c :: (Literal.body further ++ '"' :: rest))).toOption = _
      rw [textFrom_backslash (escape_short known _), ih]
      simp [Function.comp_def]
  | case4 a b c d further trailing =>
      have wrong := escape_numbered a b c d (Literal.body further ++ '"' :: rest)
      rw [if_pos trailing] at wrong
      exact congrArg Except.toOption (textFrom_backslash_error done wrong)
  | case5 a b c d trailing leading e f g h further second ih =>
      have read := escape_numbered a b c d
        (Literal.body (.numbered e f g h :: further) ++ '"' :: rest)
      rw [if_neg trailing, if_pos leading] at read
      have pair := secondHalf_numbered (codeUnit a b c d) e f g h
        (Literal.body further ++ '"' :: rest)
      rw [if_pos second] at pair
      have whole : textFrom done _ = _ := textFrom_backslash (read.trans pair)
      refine (congrArg Except.toOption whole).trans ?_
      rw [ih]
      simp [Function.comp_def]
  | case6 a b c d trailing leading e f g h further second =>
      have read := escape_numbered a b c d
        (Literal.body (.numbered e f g h :: further) ++ '"' :: rest)
      rw [if_neg trailing, if_pos leading] at read
      have pair := secondHalf_numbered (codeUnit a b c d) e f g h
        (Literal.body further ++ '"' :: rest)
      rw [if_neg second] at pair
      exact congrArg Except.toOption (textFrom_backslash_error done (read.trans pair))
  | case7 a b c d further trailing leading other =>
      have read := escape_numbered a b c d (Literal.body further ++ '"' :: rest)
      rw [if_neg trailing, if_pos leading] at read
      obtain ⟨p, lone⟩ := secondHalf_fails (fun e f g h more => other e f g h more)
        (codeUnit a b c d) rest
      exact congrArg Except.toOption (textFrom_backslash_error done (read.trans lone))
  | case8 a b c d further trailing leading ih =>
      have read := escape_numbered a b c d (Literal.body further ++ '"' :: rest)
      rw [if_neg trailing, if_neg leading] at read
      refine (congrArg Except.toOption (textFrom_backslash read)).trans ?_
      rw [ih]
      simp [Function.comp_def]

/-- A string with a value is read as it. -/
theorem textFrom_of_value {t : Literal} {text : String} (spelled : t.value? = some text)
    (rest : List Char) : textFrom [] (t.body ++ '"' :: rest) = .ok (text, rest) := by
  have read := textFrom_literal t [] rest
  obtain ⟨cs, found, rfl⟩ := Option.map_eq_some_iff.1 spelled
  rw [found] at read
  cases result : textFrom [] (t.body ++ '"' :: rest) with
  | error p =>
      rw [result] at read
      cases read
  | ok pair =>
      rw [result] at read
      exact congrArg Except.ok (Option.some.inj read)

/-- A string without a value is not read. -/
theorem textFrom_of_none {t : Literal} (none : t.value? = none) (rest : List Char) :
    ∃ p, textFrom [] (t.body ++ '"' :: rest) = .error p := by
  have read := textFrom_literal t [] rest
  rw [Option.map_eq_none_iff.1 none] at read
  cases result : textFrom [] (t.body ++ '"' :: rest) with
  | error p => exact ⟨p, rfl⟩
  | ok pair =>
      rw [result] at read
      cases read

/-! ### Passing over strings -/

theorem skipText_plain {s : List Char} {c : Char} (quote : c ≠ '"') (backslash : c ≠ '\\')
    (printed : ¬ c.toNat < 0x20) : skipText (c :: s) = skipText s := by
  rw [skipText.eq_def]
  split
  · next none => cases none
  · next closed => exact absurd (List.cons.inj closed).1 quote
  · next escaped => exact absurd (List.cons.inj escaped).1 backslash
  · next other =>
      cases other
      rw [if_neg printed]

theorem skipText_backslash {s rest : List Char} (skipped : skipEscape s = .ok rest) :
    skipText ('\\' :: s) = skipText rest := by
  rw [skipText]
  split
  · next failed =>
      rw [skipped] at failed
      cases failed
  · next found =>
      rw [skipped] at found
      cases found
      rfl

/-- **Any string can be passed over**, whether it has a value or not. -/
theorem skipText_literal (t : Literal) (rest : List Char) :
    skipText (t.body ++ '"' :: rest) = .ok rest := by
  induction t with
  | nil => simp [Literal.body, skipText]
  | cons glyph t ih =>
      cases glyph with
      | plain c fits => exact (skipText_plain fits.1 fits.2.1 fits.2.2).trans ih
      | short c known => exact (skipText_backslash (skipEscape_short known _)).trans ih
      | numbered a b c d =>
          have skipped : skipEscape ('u' :: a.char :: b.char :: c.char :: d.char ::
              (Literal.body t ++ '"' :: rest)) = .ok (Literal.body t ++ '"' :: rest) := by
            simp only [skipEscape, hexFour_digits]
            rfl
          exact (skipText_backslash skipped).trans ih

end WhereClause.Json
