/-!
# Writing JSON

Values are written without white space between their parts.  In a string the
quote, the backslash and the controls are escaped, the latter by a letter when
they have one and by their number otherwise; every other character stands for
itself.
-/

set_option autoImplicit false

namespace WhereClause.Json.Writer

/-- The lower-case digit of a number below sixteen. -/
def hexDigit (n : Nat) : Char := if n < 10 then Char.ofNat (48 + n) else Char.ofNat (87 + n)

/-- A character as it is written inside a string. -/
def escaped (c : Char) : List Char :=
  match c with
  | '"' => ['\\', '"']
  | '\\' => ['\\', '\\']
  | '\x08' => ['\\', 'b']
  | '\x0C' => ['\\', 'f']
  | '\n' => ['\\', 'n']
  | '\r' => ['\\', 'r']
  | '\t' => ['\\', 't']
  | c =>
      if c.toNat < 0x20 then
        ['\\', 'u', '0', '0', hexDigit (c.toNat / 16), hexDigit (c.toNat % 16)]
      else [c]

/-- A string. -/
def text (s : String) : List Char := '"' :: s.toList.flatMap escaped ++ ['"']

/-- A truth value. -/
def boolean (b : Bool) : List Char :=
  if b then ['t', 'r', 'u', 'e'] else ['f', 'a', 'l', 's', 'e']

/-- The word `null`. -/
def null : List Char := ['n', 'u', 'l', 'l']

/-- Written parts with a comma between them. -/
def separated (parts : List (List Char)) : List Char := [','].intercalate parts

/-- A list of written values. -/
def list (values : List (List Char)) : List Char := '[' :: separated values ++ [']']

/-- An object of names and written values. -/
def object (members : List (String × List Char)) : List Char :=
  '\x7b' :: separated (members.map fun (name, value) => text name ++ ':' :: value) ++ ['\x7d']

end WhereClause.Json.Writer
