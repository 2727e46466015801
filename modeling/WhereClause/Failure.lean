import WhereClause.Json.Problem
import WhereClause.Sql

/-!
# What can fail

A failure is hard: it ends the reading of a document or the compilation of a
list of filters.  A clause that has nothing usable in it is not a failure; it
says so itself.
-/

set_option autoImplicit false

namespace WhereClause

/-- What a literal had to be. -/
inductive Wanted where
  | number
  | date (format : String)
  deriving DecidableEq, Repr

/-- What a literal had to be, in a message. -/
def Wanted.describe : Wanted → String
  | .number => "number"
  | .date format => "date for format '" ++ format ++ "'"

/-- The greatest number of bytes that a document may have. -/
def maxDocumentBytes : Nat := 65536

/-- The greatest number of filters that a document may hold. -/
def maxFilters : Nat := 50

/-- A reason why filters were not read or not compiled. -/
inductive Failure where
  /-- A literal of a range that does not have the declared type. -/
  | invalidLiteral (text : String) (wanted : Wanted)
  /-- A filter, given by what the user calls it, that declares both names or none. -/
  | ambiguousColumn (display : String)
  | documentTooLarge
  | invalidDocument (problem : Json.Problem)
  | tooManyFilters (count : Nat)
  deriving DecidableEq

namespace Failure

/-- The text of a failure. -/
def message : Failure → String
  | .invalidLiteral text wanted =>
      "Invalid argument: '" ++ text ++ "' is not a valid " ++ wanted.describe
  | .ambiguousColumn display =>
      "Filter '" ++ display ++ "' must declare exactly one of filter_id_name or filter_name"
  | .documentTooLarge =>
      "Filter JSON exceeds maximum size of " ++ toString maxDocumentBytes ++ " bytes"
  | .invalidDocument problem => "Invalid filter JSON: " ++ problem.message
  | .tooManyFilters count =>
      "Maximum " ++ toString maxFilters ++ " filters allowed, got " ++ toString count

/-- Whether changing the document alone can mend a failure. -/
def isInputError : Failure → Bool
  | .documentTooLarge | .invalidDocument _ | .tooManyFilters _ => true
  | .invalidLiteral _ _ | .ambiguousColumn _ => false

end Failure

end WhereClause
