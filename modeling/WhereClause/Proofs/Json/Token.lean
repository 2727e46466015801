import Mathlib.Data.List.DropRight
import WhereClause.Proofs.Json.Literal
import WhereClause.Proofs.Json.Reading

/-!
# The tokens of a JSON text

A JSON text is a row of tokens with white space anywhere between them: brackets, commas and
colons, the three words, numbers, and strings (`Spells`).  Numbers and strings are tokens as
they are written, so nothing that the grammar allows is left out.
-/

set_option autoImplicit false

namespace WhereClause.Json

/-! ## Numbers -/

/-- At least one digit. -/
structure Digits where
  first : Char
  rest : List Char
  isDigit_first : first.isDigit = true
  isDigit_rest : rest.all Char.isDigit = true

/-- Digits as they are written. -/
def Digits.text (d : Digits) : List Char := d.first :: d.rest

/-- A sign in front of a power of ten. -/
inductive Sign where
  | plus
  | minus

/-- A sign as it is written, if there is one. -/
def Sign.text : Option Sign → List Char
  | none => []
  | some .plus => ['+']
  | some .minus => ['-']

/-- Whether a sign is a minus. -/
def Sign.isMinus : Option Sign → Bool
  | some .minus => true
  | _ => false

/-- A power of ten. -/
structure Power where
  /-- Whether the mark is a capital letter. -/
  capital : Bool
  sign : Option Sign
  digits : Digits

/-- A power of ten as it is written. -/
def Power.text (p : Power) : List Char :=
  (if p.capital then 'E' else 'e') :: (Sign.text p.sign ++ p.digits.text)

/-- A number as it is written. -/
structure Numeral where
  negative : Bool
  whole : Digits
  /-- No digit may stand behind a leading zero. -/
  noLeadingZero : whole.first = '0' → whole.rest = []
  fraction : Option Digits
  power : Option Power

namespace Numeral

/-- The part of a number behind its whole part. -/
def tail (n : Numeral) : List Char :=
  (n.fraction.elim [] fun d => '.' :: d.text) ++ n.power.elim [] Power.text

/-- A number without its minus sign. -/
def magnitude (n : Numeral) : List Char := n.whole.text ++ n.tail

/-- A number as it is written. -/
def text (n : Numeral) : List Char :=
  if n.negative then '-' :: n.magnitude else n.magnitude

end Numeral

/-! ## Tokens -/

/-- The characters that stand for themselves between the values. -/
inductive Mark where
  | openList
  | closeList
  | openObject
  | closeObject
  | comma
  | colon
  deriving DecidableEq

/-- A mark as it is written. -/
def Mark.char : Mark → Char
  | .openList => '['
  | .closeList => ']'
  | .openObject => '\x7b'
  | .closeObject => '\x7d'
  | .comma => ','
  | .colon => ':'

/-- A token of a JSON text. -/
inductive Token where
  | mark (m : Mark)
  | null
  | boolean (b : Bool)
  | number (n : Numeral)
  | text (t : Literal)

namespace Token

/-- A token as it is written. -/
def written : Token → List Char
  | .mark m => [m.char]
  | .null => Writer.null
  | .boolean b => Writer.boolean b
  | .number n => n.text
  | .text t => '"' :: (t.body ++ ['"'])

/-- A token does not begin with white space. -/
theorem head_written (t : Token) :
    ∃ c more, t.written = c :: more ∧ isSpace c = false := by
  have digit {c : Char} (h : c.isDigit = true) : isSpace c = false := by
    simp only [Char.isDigit, Bool.and_eq_true, decide_eq_true_eq] at h
    simp only [isSpace, Bool.or_eq_false_iff, beq_eq_false_iff_ne]
    refine ⟨⟨⟨?_, ?_⟩, ?_⟩, ?_⟩ <;> rintro rfl <;> revert h <;> decide
  cases t with
  | mark m => exact ⟨m.char, [], rfl, by cases m <;> rfl⟩
  | null => exact ⟨'n', _, rfl, rfl⟩
  | boolean b =>
      cases b with
      | true => exact ⟨'t', _, rfl, rfl⟩
      | false => exact ⟨'f', _, rfl, rfl⟩
  | number n =>
      cases negative : n.negative with
      | true => exact ⟨'-', n.magnitude, by simp [written, Numeral.text, negative], rfl⟩
      | false =>
          exact ⟨n.whole.first, n.whole.rest ++ n.tail,
            by simp [written, Numeral.text, negative, Numeral.magnitude, Digits.text],
            digit n.whole.isDigit_first⟩
  | text t => exact ⟨'"', _, rfl, rfl⟩

end Token

/-- Whether a text is a row of tokens with any white space around them. -/
def Spells : List Token → List Char → Prop
  | [], s => s.all isSpace = true
  | t :: ts, s => ∃ space rest, s = space ++ (t.written ++ rest) ∧ space.all isSpace = true ∧
      Spells ts rest

theorem skipSpace_skipSpace (s : List Char) : skipSpace (skipSpace s) = skipSpace s :=
  List.dropWhile_idempotent isSpace s

/-- The white space in front of a token can be passed over. -/
theorem Spells.skipSpace_eq {t : Token} {ts : List Token} {s : List Char}
    (spells : Spells (t :: ts) s) : ∃ rest, skipSpace s = t.written ++ rest ∧ Spells ts rest := by
  obtain ⟨space, rest, rfl, blank, further⟩ := spells
  obtain ⟨c, more, head, plain⟩ := t.head_written
  refine ⟨rest, ?_, further⟩
  rw [head, List.cons_append]
  exact skipSpace_append blank plain _

theorem Spells.skipSpace_mark {m : Mark} {ts : List Token} {s : List Char}
    (spells : Spells (.mark m :: ts) s) :
    ∃ rest, skipSpace s = m.char :: rest ∧ Spells ts rest :=
  spells.skipSpace_eq

theorem spells_cons_iff {t : Token} {ts : List Token} {s : List Char} :
    Spells (t :: ts) s ↔
      t.written <+: skipSpace s ∧ Spells ts ((skipSpace s).drop t.written.length) := by
  constructor
  · intro spells
    obtain ⟨rest, found, further⟩ := spells.skipSpace_eq
    rw [found, List.drop_left]
    exact ⟨List.prefix_append t.written rest, further⟩
  · rintro ⟨⟨rest, found⟩, further⟩
    rw [← found, List.drop_left] at further
    refine ⟨s.takeWhile isSpace, rest, ?_, List.all_takeWhile, further⟩
    rw [found]
    exact List.takeWhile_append_dropWhile.symm

/-- Whether a text is a given row of tokens can be found out from left to right. -/
instance decidableSpells : (ts : List Token) → (s : List Char) → Decidable (Spells ts s)
  | [], s => inferInstanceAs (Decidable (s.all isSpace = true))
  | t :: ts, s =>
      have := decidableSpells ts ((skipSpace s).drop t.written.length)
      decidable_of_iff _ spells_cons_iff.symm

/-- Behind the last token there is only white space. -/
theorem Spells.skipSpace_nil {s : List Char} (spells : Spells [] s) : skipSpace s = [] := by
  have blank : s.all isSpace = true := spells
  have all : (s ++ []).dropWhile isSpace = [] :=
    List.dropWhile_append_of_pos (List.all_eq_true.1 blank)
  rwa [List.append_nil] at all

end WhereClause.Json
