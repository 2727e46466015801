import WhereClause.Run

/-!
# The program

Takes a snapshot of the variables and files that a run may look at, and prints what
the run ends with.
-/

set_option autoImplicit false

namespace WhereClause

open Files

/-- What stands at an absolute path of the file system.  What is there and cannot be
read counts as a directory. -/
def contentOf (path : String) : IO Content := do
  let file := (← IO.currentDir) / path
  match ← (IO.FS.readBinFile file).toBaseIO with
  | .ok bytes => return .file bytes
  | .error _ => return if ← file.pathExists then .directory else .absent

/-- What stands at some paths, as a function. -/
def snapshot (paths : List String) : IO (String → Content) := do
  let known ← paths.mapM fun path => return (path, ← contentOf path)
  return fun path => (known.lookup path).getD .absent

/-- The variables of the environment that have given names. -/
def environment (names : List String) : IO Variables := do
  let found ← names.mapM fun name => return (← IO.getEnv name).map fun value => (name, value)
  return found.filterMap id

end WhereClause

open WhereClause in
/-- Runs the program on its arguments.  Warnings go where errors go. -/
def main (arguments : List String) : IO UInt32 := do
  let current := (← IO.currentDir).toString
  let assignments := Program.assignmentsPaths current
  let files ← snapshot assignments
  let env ← environment (Program.consultedVariables files current)
  let files ← snapshot (assignments ++ Program.consultedFiles files current env arguments)
  let outcome := Program.run files current env arguments
  for warning in outcome.warnings do
    IO.eprintln ("warning: " ++ String.intercalate ": "
      (warning.text :: warning.details.map Prod.snd))
  IO.print outcome.output
  IO.eprint outcome.errors
  return outcome.exitCode.toUInt32
