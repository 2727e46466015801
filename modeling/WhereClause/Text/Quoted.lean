import WhereClause.Text.Unprintable

/-!
# Texts quoted for a message

A text in a message stands between double quotes.  The quote, the backslash and
the usual controls are written with a backslash, every other character without a
printed form by its number in braces, and all else stands for itself.
-/

set_option autoImplicit false

namespace WhereClause.Text

/-- The digits of a number in base sixteen, without leading zeros. -/
def hexDigits (n : Nat) : List Char := Nat.toDigits 16 n

/-- A character as it is written between double quotes. -/
def escaped (c : Char) : List Char :=
  match c with
  | '\x00' => ['\\', '0']
  | '\t' => ['\\', 't']
  | '\r' => ['\\', 'r']
  | '\n' => ['\\', 'n']
  | '\\' => ['\\', '\\']
  | '"' => ['\\', '"']
  | c =>
      if isUnprintable c then ['\\', 'u', '{'] ++ hexDigits c.toNat ++ ['}']
      else [c]

/-- A text between double quotes, with escapes. -/
def quoted (s : String) : String :=
  String.ofList ('"' :: s.toList.flatMap escaped ++ ['"'])

end WhereClause.Text
