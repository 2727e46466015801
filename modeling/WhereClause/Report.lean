import WhereClause.Failure

/-!
# Reports

What the program does with files and settings either succeeds or ends in trouble,
and warns on the way in either case.
-/

set_option autoImplicit false

namespace WhereClause

/-- Something that does not stop the program but should be known. -/
inductive Warning where
  /-- Members of a settings file that are not settings. -/
  | unknownMembers (names : List String)
  /-- A filter was marked as changed last where that means nothing. -/
  | lastSelectedIgnored
  /-- A clause was compiled that is not valid. -/
  | invalidClause (message : String)
  deriving DecidableEq, Repr

/-- The text of a warning, apart from its details. -/
def Warning.text : Warning → String
  | .unknownMembers _ => "Unknown fields in config file (possible typos)"
  | .lastSelectedIgnored => "Last selected field is ignored outside global mode"
  | .invalidClause _ => "Compiled WHERE clause is invalid"

/-- The details of a warning, each under its name. -/
def Warning.details : Warning → List (String × String)
  | .unknownMembers names => [("fields", String.intercalate ", " names)]
  | .lastSelectedIgnored => []
  | .invalidClause message => [("message", message)]

/-- Why the program cannot go on. -/
inductive Trouble where
  | failure (cause : Failure)
  /-- A file that is missing or is no text. -/
  | unreadable (path : String)
  /-- A settings file that is not well formed. -/
  | malformedSettings (path : String)
  /-- A settings file that was asked for and is not there. -/
  | missingSettings (path : String)
  | blankDateFormat
  | malformedDateFormat (format : String)
  | badAlias (name : String)
  | invalidClause (message : String)
  deriving DecidableEq

/-- The text of a trouble. -/
def Trouble.message : Trouble → String
  | .failure cause => cause.message
  | .unreadable path => "Failed to read file: " ++ path
  | .malformedSettings path => "Failed to parse config file: " ++ path
  | .missingSettings path => "Config file not found: " ++ path
  | .blankDateFormat => "Configuration error: compiler.date_format must not be empty"
  | .malformedDateFormat format =>
      "Configuration error: compiler.date_format '" ++ format ++ "' is not a valid chrono format"
  | .badAlias name =>
      "Configuration error: compiler.table_alias '" ++ name ++ "' must be a plain identifier"
  | .invalidClause message => "Invalid WHERE clause: " ++ message

/-- A result together with the warnings on the way to it. -/
structure Report (α : Type) where
  warnings : List Warning
  result : Except Trouble α

namespace Report

variable {α β : Type}

/-- A result without a warning. -/
def ok (a : α) : Report α := ⟨[], .ok a⟩

/-- A trouble without a warning. -/
def fail (trouble : Trouble) : Report α := ⟨[], .error trouble⟩

/-- A result that may be a failure. -/
def ofFailure : Except Failure α → Report α
  | .ok a => ok a
  | .error cause => fail (.failure cause)

/-- One report after another; the second is not made when the first is trouble. -/
def andThen (first : Report α) (second : α → Report β) : Report β :=
  match first.result with
  | .ok a => ⟨first.warnings ++ (second a).warnings, (second a).result⟩
  | .error trouble => ⟨first.warnings, .error trouble⟩

instance : Monad Report where
  pure := ok
  bind := andThen

end Report

end WhereClause
