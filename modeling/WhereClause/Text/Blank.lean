/-!
# Blank characters

The characters that count as white space everywhere in this library are the
twenty-five of the Unicode property White_Space.  They are what trimming takes
off a literal, what a date format may skip, and what makes an operand count as
missing: an operand is missing when it holds nothing else.

Core's `Char.isWhitespace` knows four of them, so the property has a table of
its own; `isBlank_of_isWhitespace` says that the table extends core's class.
-/

set_option autoImplicit false

namespace WhereClause.Text

/-- Whether a character is white space. -/
def isBlank (c : Char) : Bool :=
  let n := c.toNat
  (9 ≤ n && n ≤ 13) || n == 0x20 || n == 0x85 || n == 0xA0 || n == 0x1680
    || (0x2000 ≤ n && n ≤ 0x200A) || n == 0x2028 || n == 0x2029 || n == 0x202F
    || n == 0x205F || n == 0x3000

/-- The rest of a text after its leading white space. -/
def dropBlank (s : List Char) : List Char := s.dropWhile isBlank

/-- A text without the white space at its end. -/
def dropBlankEnd (s : List Char) : List Char := (s.reverse.dropWhile isBlank).reverse

/-- A text without the white space at either end. -/
def trimmed (s : List Char) : List Char := dropBlankEnd (dropBlank s)

/-- Whether a string holds nothing but white space. -/
def isBlankText (s : String) : Bool := s.toList.all isBlank

/-! ## Small laws -/

/-- Every character that core calls white space is blank. -/
theorem isBlank_of_isWhitespace {c : Char} (h : c.isWhitespace = true) : isBlank c = true := by
  simp only [Char.isWhitespace, Bool.or_eq_true, decide_eq_true_eq] at h
  rcases h with ((rfl | rfl) | rfl) | rfl <;> decide

/-- Nothing is left of a blank text. -/
theorem dropBlank_of_all {s : List Char} (h : s.all isBlank = true) : dropBlank s = [] := by
  induction s with
  | nil => rfl
  | cons c rest ih =>
      simp only [List.all_cons, Bool.and_eq_true] at h
      simpa [dropBlank, List.dropWhile_cons, h.1] using ih h.2

/-- Trimming empties a blank text. -/
theorem trimmed_of_all {s : List Char} (h : s.all isBlank = true) : trimmed s = [] := by
  simp [trimmed, dropBlank_of_all h, dropBlankEnd]

end WhereClause.Text
