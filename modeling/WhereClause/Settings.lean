import WhereClause.Calendar.Format
import WhereClause.Files
import WhereClause.Report
import WhereClause.Settings.Layer

/-!
# Settings

The settings come from four places: the command line, a settings file, a settings
file of the user's profile, and defaults.  Each setting is taken from the first of
them that says something about it, except that the command line can only switch
debugging on, and that only it says which filter was changed last.

The settings file is the one named on the command line, which has to be there, or
else the one in the current directory, which need not.  Only the settings that
prevail are checked.
-/

set_option autoImplicit false

namespace WhereClause

/-- What the command line says about the settings. -/
structure Overrides where
  debug : Bool := false
  config : Option String := none
  mode : Option Mode := none
  tableAlias : Option String := none
  lastSelected : Option String := none
  dateFormat : Option String := none
  duplicateLastSelected : Option Bool := none
  deriving DecidableEq, Repr

/-- The settings of the program. -/
structure Settings where
  options : Options
  debug : Bool
  deriving DecidableEq, Repr

namespace Settings

open Files

/-- The name of a settings file. -/
def fileName : String := "filterql.json"

/-- The settings file of the user's profile. -/
def profilePath (home : String) : String := join (join home ".filterql") fileName

/-- Reads a settings file, which is shown by a name of its own in messages. -/
def readLayer (shown : String) (content : Content) : Report Layer :=
  match content.text? with
  | none => .fail (.unreadable shown)
  | some text =>
      match Layer.parse text with
      | .error _ => .fail (.malformedSettings shown)
      | .ok layer =>
          ⟨if layer.unknown.isEmpty then [] else [.unknownMembers layer.unknown], .ok layer⟩

/-- Reads a settings file if it is there. -/
def readOptional (shown : String) (content : Content) : Report Layer :=
  if content.exists? then readLayer shown content else .ok {}

/-- The layer of the user's profile. -/
def profile (place : Place) (files : String → Content) : Report Layer :=
  match place.home with
  | some home => readOptional (profilePath home) (files (profilePath home))
  | none => .ok {}

/-- The layer of the settings file that was asked for, or of the one in the current
directory. -/
def overlay (place : Place) (files : String → Content) (config : Option String) : Report Layer :=
  match config with
  | some path =>
      let path := place.expand path
      if (files path).exists? then readLayer path (files path) else .fail (.missingSettings path)
  | none => readOptional fileName (files (join place.current fileName))

/-- The settings that prevail. -/
def resolve (cli : Overrides) (layer : Layer) : Settings where
  options :=
    { mode := (cli.mode.or layer.mode).getD .default
      tableAlias := (cli.tableAlias.or layer.tableAlias).getD ""
      lastSelected := cli.lastSelected
      dateFormat := (cli.dateFormat.or layer.dateFormat).getD defaultDateFormat
      duplicateLastSelected :=
        (cli.duplicateLastSelected.or layer.duplicateLastSelected).getD true }
  debug := cli.debug || layer.debug.getD false

/-- What is wrong with the settings that prevail. -/
def trouble? (settings : Settings) : Option Trouble :=
  let o := settings.options
  if Text.isBlankText o.dateFormat then some .blankDateFormat
  else if ¬ Calendar.Format.isWellFormed o.dateFormat then some (.malformedDateFormat o.dateFormat)
  else if ¬ o.tableAlias.isEmpty ∧ ¬ Sql.isIdentifier o.tableAlias then
    some (.badAlias o.tableAlias)
  else none

/-- Checks the settings that prevail. -/
def checked (settings : Settings) : Report Settings :=
  match settings.trouble? with
  | some trouble => .fail trouble
  | none =>
      if settings.options.mode = .default ∧ settings.options.lastSelected.isSome then
        ⟨[.lastSelectedIgnored], .ok settings⟩
      else .ok settings

/-- The settings from all places. -/
def load (place : Place) (files : String → Content) (cli : Overrides) : Report Settings := do
  let lower ← profile place files
  let upper ← overlay place files cli.config
  checked (resolve cli (upper.orElse lower))

/-- The files that the settings may be taken from. -/
def consulted (place : Place) (cli : Overrides) : List String :=
  (place.home.map profilePath).toList
    ++ [(cli.config.map place.expand).getD (join place.current fileName)]

end Settings

end WhereClause
