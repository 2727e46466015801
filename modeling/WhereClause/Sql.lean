/-!
# Pieces of SQL text

Columns, literals and identifiers.  Literals are written into the clause as they
are: an identifier-side literal stands bare, a value-side literal stands between
single quotes, and nothing inside a literal is escaped.  Text from an untrusted
source has to be cleaned before the clause is executed.
-/

set_option autoImplicit false

namespace WhereClause.Sql

/-- A column, with the table's name in front when there is one. -/
def qualify (qualifier field : String) : String :=
  if qualifier.isEmpty then field else qualifier ++ "." ++ field

/-- A literal that stands for itself. -/
def bare (text : String) : String := text

/-- A literal between single quotes. -/
def quoted (text : String) : String := "'" ++ text ++ "'"

/-- A letter of the basic Latin alphabet, or the underscore. -/
def isIdentifierStart (c : Char) : Bool := c.isAlpha || c == '_'

/-- A character that may follow the first one of a plain identifier. -/
def isIdentifierPart (c : Char) : Bool := c.isAlphanum || c == '_'

/-- Whether a text can be used unquoted as an identifier: a letter or underscore,
then letters, digits and underscores, all of them ASCII. -/
def isIdentifier (s : String) : Bool :=
  match s.toList with
  | [] => false
  | c :: rest => isIdentifierStart c && rest.all isIdentifierPart

/-! ## Small laws -/

@[simp]
theorem qualify_empty (field : String) : qualify "" field = field := by
  simp [qualify]

end WhereClause.Sql
