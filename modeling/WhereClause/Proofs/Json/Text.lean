import WhereClause.Json.Scan
import WhereClause.Json.Writer

/-!
# Strings are read back

A character inside a written string stands for itself, or is written with a backslash: by a
letter, or by its number in four hexadecimal digits.  Each of these forms is read as the
character that it was written for (`textFrom_escaped`), so by induction over its characters
**a written string is read back, whatever stands behind it** (`textFrom_text`).
-/

set_option autoImplicit false

namespace WhereClause.Json

/-! ## Numbered characters -/

/-- A written digit is read as its value. -/
theorem hexDigit?_hexDigit : ∀ n < 16, hexDigit? (Writer.hexDigit n) = some n := by
  decide

/-- The written digits of a control are those of its number. -/
theorem hexValue?_control {c : Char} (control : c.toNat < 0x20) :
    hexValue? '0' '0' (Writer.hexDigit (c.toNat / 16)) (Writer.hexDigit (c.toNat % 16)) =
      some c.toNat := by
  have zero : hexDigit? '0' = some 0 := by decide
  have first := hexDigit?_hexDigit (c.toNat / 16) (by omega)
  have second := hexDigit?_hexDigit (c.toNat % 16) (by omega)
  have number : (0 * 16 + 0) * 256 + (c.toNat / 16 * 16 + c.toNat % 16) = c.toNat := by omega
  simp only [hexValue?, zero, first, second, Option.bind_eq_bind, Option.bind_some, number]

/-- A control is read from its number: it is no half of a pair. -/
theorem numbered_control {c : Char} (control : c.toNat < 0x20) (rest : List Char) :
    numbered ('0' :: '0' :: Writer.hexDigit (c.toNat / 16) :: Writer.hexDigit (c.toNat % 16) ::
      rest) = .ok (c, rest) := by
  have trailing : isTrailing c.toNat = false := by
    simp only [isTrailing, Bool.and_eq_false_iff, decide_eq_false_iff_not]
    omega
  have leading : isLeading c.toNat = false := by
    simp only [isLeading, Bool.and_eq_false_iff, decide_eq_false_iff_not]
    omega
  simp [numbered, hexFour, hexValue?_control control, trailing, leading, Char.ofNat_toNat]

/-! ## Characters of a string -/

/-- A backslash and what follows it add one character. -/
theorem textFrom_backslash {done s rest : List Char} {c : Char} (read : escape s = .ok (c, rest)) :
    textFrom done ('\\' :: s) = textFrom (c :: done) rest := by
  rw [textFrom]
  split
  · next failed =>
      rw [read] at failed
      cases failed
  · next found =>
      rw [read] at found
      cases found
      rfl

/-- A character that needs no escape stands for itself. -/
theorem textFrom_plain {done s : List Char} {c : Char} (quote : c ≠ '"') (backslash : c ≠ '\\')
    (printed : ¬ c.toNat < 0x20) : textFrom done (c :: s) = textFrom (c :: done) s := by
  rw [textFrom.eq_def]
  split
  · next none => cases none
  · next closed => exact absurd (List.cons.inj closed).1 quote
  · next escaped => exact absurd (List.cons.inj escaped).1 backslash
  · next other =>
      cases other
      rw [if_neg printed]

/-- **A written character is read back**, whether it is written by a letter behind a backslash,
by its number or as itself. -/
theorem textFrom_escaped (c : Char) (done s : List Char) :
    textFrom done (Writer.escaped c ++ s) = textFrom (c :: done) s := by
  unfold Writer.escaped
  split
  iterate 7 exact textFrom_backslash rfl
  · next c quote backslash _ _ _ _ _ =>
      split
      · next control => exact textFrom_backslash (numbered_control control s)
      · next printed => exact textFrom_plain quote backslash printed

/-! ## Strings -/

theorem textFrom_flatMap (s done rest : List Char) :
    textFrom done (s.flatMap Writer.escaped ++ '"' :: rest) =
      .ok (String.ofList (done.reverse ++ s), rest) := by
  induction s generalizing done with
  | nil => simp [textFrom]
  | cons c s ih =>
      rw [List.flatMap_cons, List.append_assoc, textFrom_escaped, ih]
      simp

/-- **A written string is read back**, whatever stands behind it. -/
theorem textFrom_text (s : String) (rest : List Char) :
    textFrom [] (s.toList.flatMap Writer.escaped ++ '"' :: rest) = .ok (s, rest) := by
  rw [textFrom_flatMap]
  simp

end WhereClause.Json
