import WhereClause.Filter.Document
import WhereClause.Settings

/-!
# Documents and files

What the program does under its settings: it compiles a document of filters to a
clause, which has to be valid, or it checks a document and sums it up.  The
document may be given by the path of its file.
-/

set_option autoImplicit false

namespace WhereClause.Program

open Files

/-- Compiles filters, with a warning when their clause is not valid. -/
def compileFilters (filters : List Filter) (o : Options) : Report Clause := do
  let clause ← Report.ofFailure (compile filters o)
  match clause.message? with
  | some message => ⟨[.invalidClause message], .ok clause⟩
  | none => .ok clause

/-- The valid clause of a document. -/
def compileDocument (settings : Settings) (document : String) : Report Clause := do
  let filters ← Report.ofFailure (Filter.parse document)
  let clause ← compileFilters filters settings.options
  match clause.message? with
  | some message => .fail (.invalidClause message)
  | none => .ok clause

/-- One line on a filter: what it is called, its column, and how many items
contribute. -/
def summaryLine (f : Filter) (field : String) : String :=
  "  " ++ f.display ++ " (" ++ field ++ "): " ++ toString f.active.length ++ " selected"
    ++ (if f.required then ", required" else "")

/-- Sums up a document: the number of filters, and a line on each. -/
def checkDocument (document : String) : Report String := do
  let filters ← Report.ofFailure (Filter.parse document)
  let lines ← Report.ofFailure (filters.mapM fun f => f.field.map (summaryLine f))
  .ok (String.intercalate "\n" ((toString filters.length ++ " filter(s) OK") :: lines))

/-- The text of the file at the path that a user means. -/
def textAt (place : Place) (files : String → Content) (path : String) : Report String :=
  let path := place.expand path
  match (files path).text? with
  | some text => .ok text
  | none => .fail (.unreadable path)

/-- The valid clause of the document in a file. -/
def compileFile (place : Place) (files : String → Content) (settings : Settings) (path : String) :
    Report Clause := do
  compileDocument settings (← textAt place files path)

/-- Sums up the document in a file. -/
def checkFile (place : Place) (files : String → Content) (path : String) : Report String := do
  checkDocument (← textAt place files path)

end WhereClause.Program
