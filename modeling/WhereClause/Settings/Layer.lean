import WhereClause.Compile
import WhereClause.Json.Strict

/-!
# Layers of settings

A layer is what one settings file says: any of the settings, and the names of
members that are not settings, in their order and each once.  A member that is
`null` says nothing.  Of two layers the upper one decides whatever it says.

A file holds the settings of the compiler in a member of their own.  That member
may be spelled as a list, which then has to be complete; a member of it that is
not a setting is passed over without a trace.
-/

set_option autoImplicit false

namespace WhereClause.Settings

/-- What a settings file says. -/
structure Layer where
  mode : Option Mode := none
  tableAlias : Option String := none
  dateFormat : Option String := none
  duplicateLastSelected : Option Bool := none
  debug : Option Bool := none
  unknown : List String := []
  deriving DecidableEq, Repr

/-- The modes by their names. -/
def modeNames : List (String × Mode) := [("default", .default), ("global", .global)]

/-! ## The settings of the compiler -/

/-- What has been read of the settings of the compiler. -/
structure CompilerDraft where
  mode : Option (Option Mode) := none
  tableAlias : Option (Option String) := none
  dateFormat : Option (Option String) := none
  duplicateLastSelected : Option (Option Bool) := none

/-- How the settings of the compiler are read. -/
def compilerRecord : Json.Record CompilerDraft Layer where
  title := "struct CompilerFileConfig"
  fields :=
    [.of "mode" (·.mode) (fun v d => { d with mode := some v })
       (Json.Reader.choice modeNames).orNull false,
     .of "table_alias" (·.tableAlias) (fun v d => { d with tableAlias := some v })
       Json.Reader.text.orNull false,
     .of "date_format" (·.dateFormat) (fun v d => { d with dateFormat := some v })
       Json.Reader.text.orNull false,
     .of "duplicate_last_selected" (·.duplicateLastSelected)
       (fun v d => { d with duplicateLastSelected := some v }) Json.Reader.boolean.orNull false]
  blank := {}
  other := Json.passOver
  listed := true
  finish d := .ok
    { mode := d.mode.join
      tableAlias := d.tableAlias.join
      dateFormat := d.dateFormat.join
      duplicateLastSelected := d.duplicateLastSelected.join }

/-! ## Files -/

/-- What has been read of a settings file. -/
structure Draft where
  compiler : Option (Option Layer) := none
  debug : Option (Option Bool) := none
  unknown : List String := []

/-- The draft with the name of one more member that is not a setting. -/
def Draft.note (name : String) (d : Draft) : Draft :=
  if d.unknown.contains name then d else { d with unknown := d.unknown ++ [name] }

/-- How deep the lists and objects in a member may be nested that is not a setting. -/
def maxLevels : Nat := 126

/-- How a settings file is read. -/
def fileRecord : Json.Record Draft Layer where
  title := "struct FileConfig"
  fields :=
    [.of "compiler" (·.compiler) (fun v d => { d with compiler := some v })
       compilerRecord.reader.orNull false,
     .of "debug" (·.debug) (fun v d => { d with debug := some v }) Json.Reader.boolean.orNull false]
  blank := {}
  other name := (Json.Reader.strict maxLevels).map fun _ => Draft.note name
  listed := false
  finish d := .ok { d.compiler.join.getD {} with debug := d.debug.join, unknown := d.unknown }

namespace Layer

/-- The layer that the text of a settings file spells. -/
def parse (text : String) : Except Json.Problem Layer := fileRecord.reader.whole text.toList

/-- An upper layer over a lower one. -/
def orElse (upper lower : Layer) : Layer where
  mode := upper.mode.or lower.mode
  tableAlias := upper.tableAlias.or lower.tableAlias
  dateFormat := upper.dateFormat.or lower.dateFormat
  duplicateLastSelected := upper.duplicateLastSelected.or lower.duplicateLastSelected
  debug := upper.debug.or lower.debug
  unknown := upper.unknown ++ lower.unknown

end Layer

end WhereClause.Settings
