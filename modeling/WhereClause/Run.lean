import WhereClause.CommandLine
import WhereClause.Files.Tree
import WhereClause.Program
import WhereClause.Variables.Assignments

/-!
# A run of the program

A run takes its variables from the environment and from a file of assignments, its
command from the arguments, its settings from both and from the settings files,
and then carries the command out.  It ends with what is to be printed and with an
exit code: zero for success and for the texts that can be asked for, one for
trouble, and two for arguments that are not those of a command.

The file of assignments is the nearest one in the current directory or above it.
-/

set_option autoImplicit false

namespace WhereClause.Program

open Files

/-- What a run ends with. -/
structure Outcome where
  exitCode : Nat
  output : String
  errors : String
  warnings : List Warning := []
  deriving DecidableEq, Repr

/-! ## Places -/

/-- The name of a file of assignments. -/
def assignmentsName : String := ".env"

/-- A directory and those above it, given by the names on the way with the last one
first. -/
def upwards : List String → List String
  | [] => ["/"]
  | name :: above => ("/" ++ String.intercalate "/" (name :: above).reverse) :: upwards above

/-- Where a file of assignments may be, the nearest place first. -/
def assignmentsPaths (current : String) : List String :=
  (upwards (Tree.parts current).reverse).map fun directory => join directory assignmentsName

/-- The nearest file of assignments. -/
def assignments? (files : String → Content) (current : String) : Option ByteArray :=
  (assignmentsPaths current).findSome? fun path =>
    match files path with
    | .file bytes => some bytes
    | .directory | .absent => none

/-- The variables together with those that a file assigns. -/
def allVariables (files : String → Content) (current : String) (env : Variables) :
    Variables :=
  match assignments? files current with
  | some bytes => Assignments.apply env bytes
  | none => env

/-- The variable with the home directory. -/
def homeName : String := "HOME"

/-- The place of a run. -/
def placeOf (current : String) (env : Variables) : Place where
  home := (env.get? homeName).filter fun home => !home.isEmpty
  current := current

/-! ## Runs -/

/-- The name and the version of the program. -/
def versionText : String := "filterql 1.0.0"

/-- A short reminder of the commands. -/
def helpText : String :=
  "Compile filter selections into SQL WHERE clauses\n\n"
    ++ "Usage: filterql [OPTIONS] <COMMAND>\n\n"
    ++ "Commands:\n"
    ++ "  compile  Compile a JSON filter list and print the WHERE clause\n"
    ++ "  check    Parse and validate a JSON filter list without compiling it\n"
    ++ "  help     Print this message or the help of the given subcommand(s)"

/-- How a run ends whose arguments are not those of a command. -/
def usageOutcome : CommandLine.Usage → Outcome
  | .help => ⟨0, helpText ++ "\n", "", []⟩
  | .version => ⟨0, versionText ++ "\n", "", []⟩
  | _ => ⟨2, "", helpText ++ "\n", []⟩

/-- How a run ends with a report of what it prints. -/
def reportOutcome (report : Report String) : Outcome :=
  match report.result with
  | .ok text => ⟨0, text ++ "\n", "", report.warnings⟩
  | .error trouble => ⟨1, "", "\nError: " ++ trouble.message ++ "\n\n", report.warnings⟩

/-- Carries out a command. -/
def carryOut (place : Place) (files : String → Content) (invocation : CommandLine.Invocation) :
    Report String := do
  let settings ← Settings.load place files invocation.overrides
  match invocation.command with
  | .compile =>
      let clause ← compileFile place files settings invocation.path
      .ok (if invocation.valueOnly then clause.body else clause.render)
  | .check => checkFile place files invocation.path

/-- A run of the program. -/
def run (files : String → Content) (current : String) (env : Variables)
    (arguments : List String) : Outcome :=
  let env := allVariables files current env
  match CommandLine.parse env arguments with
  | .error usage => usageOutcome usage
  | .ok invocation => reportOutcome (carryOut (placeOf current env) files invocation)

/-- The variables that a run may look at. -/
def consultedVariables (files : String → Content) (current : String) : List String :=
  homeName :: CommandLine.variableNames.map Prod.snd
    ++ ((assignments? files current).map Assignments.names).getD []

/-- The files that a run may look at besides those of assignments. -/
def consultedFiles (files : String → Content) (current : String) (env : Variables)
    (arguments : List String) : List String :=
  let env := allVariables files current env
  match CommandLine.parse env arguments with
  | .error _ => []
  | .ok invocation =>
      let place := placeOf current env
      place.expand invocation.path :: Settings.consulted place invocation.overrides

end WhereClause.Program
