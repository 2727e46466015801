import WhereClause.Decimal.Shortest
import WhereClause.Text.Quoted

/-!
# What can be wrong with a JSON document

A document is decoded while it is read, so the first problem in reading order is
the one that is reported.  A problem is either one of the text itself or one of
a value that is not of the type that its place in the document calls for.
-/

set_option autoImplicit false

namespace WhereClause.Json

/-- What was being read when the text ended. -/
inductive Unfinished where
  | value
  | list
  | object
  | text
  deriving DecidableEq, Repr

/-- The text of an unfinished part in a message. -/
def Unfinished.name : Unfinished → String
  | .value => "a value"
  | .list => "a list"
  | .object => "an object"
  | .text => "a string"

/-- The value that stands where another type was called for. -/
inductive Found where
  | null
  | boolean (value : Bool)
  | integer (value : Int)
  | float (value : Binary64)
  | text (value : String)
  | sequence
  | map
  deriving DecidableEq

/-- Numbers with a fraction or a power of ten are shown with a point when the
exponent of the first digit is between -5 and 15, and with a signed power of as
many digits as it needs otherwise. -/
def floatLayout : Decimal.Layout := ⟨-5, 15, 1⟩

/-- A value in a message. -/
def Found.describe : Found → String
  | .null => "null"
  | .boolean value => "boolean `" ++ (if value then "true" else "false") ++ "`"
  | .integer value => "integer `" ++ toString value ++ "`"
  | .float value => "floating point `" ++ floatLayout.show value ++ "`"
  | .text value => "string " ++ Text.quoted value
  | .sequence => "sequence"
  | .map => "map"

/-- The first problem of a document. -/
inductive Problem where
  /-- The text ends too early. -/
  | ended (within : Unfinished)
  | expectedColon
  | expectedListCommaOrEnd
  | expectedObjectCommaOrEnd
  /-- Letters that do not spell `null`, `true` or `false`. -/
  | expectedWord
  | expectedValue
  | keyNotText
  | trailingComma
  | trailingCharacters
  | badNumber
  | numberOutOfRange
  | badEscape
  /-- A leading surrogate without an escape behind it. -/
  | brokenSurrogate
  /-- A surrogate without its partner. -/
  | loneSurrogate
  | controlCharacter
  | tooDeep
  | wrongType (found : Found) (expected : String)
  | wrongLength (length : Nat) (title : String) (fields : Nat)
  | missingField (name : String)
  | duplicateField (name : String)
  | unknownVariant (name : String) (known : List String)
  deriving DecidableEq

/-- A name between backquotes. -/
def marked (name : String) : String := "`" ++ name ++ "`"

/-- The names that would have been accepted. -/
def oneOf : List String → String
  | [] => "nothing"
  | [a] => marked a
  | [a, b] => marked a ++ " or " ++ marked b
  | names => "one of " ++ String.intercalate ", " (names.map marked)

/-- The text of a problem. -/
def Problem.message : Problem → String
  | .ended within => "EOF while parsing " ++ within.name
  | .expectedColon => "expected `:`"
  | .expectedListCommaOrEnd => "expected `,` or `]`"
  | .expectedObjectCommaOrEnd => "expected `,` or `\x7d`"
  | .expectedWord => "expected ident"
  | .expectedValue => "expected value"
  | .keyNotText => "key must be a string"
  | .trailingComma => "trailing comma"
  | .trailingCharacters => "trailing characters"
  | .badNumber => "invalid number"
  | .numberOutOfRange => "number out of range"
  | .badEscape => "invalid escape"
  | .brokenSurrogate => "unexpected end of hex escape"
  | .loneSurrogate => "lone leading surrogate in hex escape"
  | .controlCharacter => "control character (\\u0000-\\u001F) found while parsing a string"
  | .tooDeep => "recursion limit exceeded"
  | .wrongType found expected => "invalid type: " ++ found.describe ++ ", expected " ++ expected
  | .wrongLength length title fields =>
      "invalid length " ++ toString length ++ ", expected " ++ title ++ " with "
        ++ toString fields ++ " elements"
  | .missingField name => "missing field " ++ marked name
  | .duplicateField name => "duplicate field " ++ marked name
  | .unknownVariant name known =>
      "unknown variant " ++ marked name ++ ", expected " ++ oneOf known

end WhereClause.Json
