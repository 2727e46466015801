import WhereClause.Settings
import WhereClause.Variables

/-!
# The command line

The program has two commands, `compile` and `check`, each with the path of a
document.  Options stand before or behind the name of the command; every one of
them can also be given by a variable of the environment.

An argument that begins with a hyphen is always an option and never the value of
one, except behind `--`, where nothing is an option any more.  An option that has
been met without a value waits for one: its value is checked only when the next
option or path begins or when the arguments end, so that of two mistakes the
later one may be the one that is reported.

The arguments behind the name of a command are read to their end first, with the
variables, and only then the options before it are settled.  What is given behind
the name prevails over what is given before it, and both over the variables.
-/

set_option autoImplicit false

namespace WhereClause.CommandLine

/-- Why arguments are not those of a command. -/
inductive Usage where
  | invalidValue
  | unknownArgument
  | invalidCommand
  | tooManyValues
  | repeatedArgument
  | unknownMode
  | missingPath
  | missingCommand
  /-- There are no arguments at all. -/
  | nothingGiven
  /-- The help text was asked for. -/
  | help
  /-- The version was asked for. -/
  | version
  deriving DecidableEq, Repr

/-- What can be given on the command line. -/
inductive Parameter where
  | debug
  | config
  | mode
  | tableAlias
  | lastSelected
  | dateFormat
  | duplicateLastSelected
  | valueOnly
  | path
  deriving DecidableEq, Repr

/-- What has been given. -/
structure Given where
  debug : Option Bool := none
  config : Option String := none
  mode : Option Mode := none
  tableAlias : Option String := none
  lastSelected : Option String := none
  dateFormat : Option String := none
  duplicateLastSelected : Option Bool := none
  valueOnly : Option Bool := none
  path : Option String := none
  deriving DecidableEq, Repr

/-! ## Values -/

/-- A truth value. -/
def boolean : String → Except Usage Bool
  | "true" => .ok true
  | "false" => .ok false
  | _ => .error .invalidValue

/-- A mode, in letters of either case. -/
def modeNamed (name : String) : Except Usage Mode :=
  match String.ofList (name.toList.map Char.toLower) with
  | "default" => .ok .default
  | "global" => .ok .global
  | "global-filters" => .ok .global
  | _ => .error .unknownMode

/-- A path, which is not empty. -/
def pathNamed (path : String) : Except Usage String :=
  if path.isEmpty then .error .invalidValue else .ok path

namespace Given

/-- Whether something has been given for a parameter. -/
def isSet (given : Given) : Parameter → Bool
  | .debug => given.debug.isSome
  | .config => given.config.isSome
  | .mode => given.mode.isSome
  | .tableAlias => given.tableAlias.isSome
  | .lastSelected => given.lastSelected.isSome
  | .dateFormat => given.dateFormat.isSome
  | .duplicateLastSelected => given.duplicateLastSelected.isSome
  | .valueOnly => given.valueOnly.isSome
  | .path => given.path.isSome

/-- Gives a parameter the value that a text stands for. -/
def put (given : Given) (text : String) : Parameter → Except Usage Given
  | .debug => (boolean text).map fun v => { given with debug := some v }
  | .config => (pathNamed text).map fun v => { given with config := some v }
  | .mode => (modeNamed text).map fun v => { given with mode := some v }
  | .tableAlias => .ok { given with tableAlias := some text }
  | .lastSelected => .ok { given with lastSelected := some text }
  | .dateFormat => .ok { given with dateFormat := some text }
  | .duplicateLastSelected =>
      (boolean text).map fun v => { given with duplicateLastSelected := some v }
  | .valueOnly => (boolean text).map fun v => { given with valueOnly := some v }
  | .path => (pathNamed text).map fun v => { given with path := some v }

/-- Gives a parameter its value from the command line: there has to be one, and the
parameter must not have been given before. -/
def accept (given : Given) (parameter : Parameter) : Option String → Except Usage Given
  | none => .error .invalidValue
  | some text =>
      if given.isSet parameter then .error .repeatedArgument else given.put text parameter

/-- What is given behind the name of a command, and else what is given before. -/
def orElse (behind before : Given) : Given where
  debug := behind.debug.or before.debug
  config := behind.config.or before.config
  mode := behind.mode.or before.mode
  tableAlias := behind.tableAlias.or before.tableAlias
  lastSelected := behind.lastSelected.or before.lastSelected
  dateFormat := behind.dateFormat.or before.dateFormat
  duplicateLastSelected := behind.duplicateLastSelected.or before.duplicateLastSelected
  valueOnly := behind.valueOnly.or before.valueOnly
  path := behind.path.or before.path

end Given

/-- The parameters with a variable of the environment, in the order in which the
variables are looked at. -/
def variableNames : List (Parameter × String) :=
  [(.debug, "FILTERQL_DEBUG"), (.config, "FILTERQL_CONFIG"), (.mode, "FILTERQL_MODE"),
   (.tableAlias, "FILTERQL_TABLE_ALIAS"), (.lastSelected, "FILTERQL_LAST_SELECTED"),
   (.dateFormat, "FILTERQL_DATE_FORMAT"),
   (.duplicateLastSelected, "FILTERQL_DUPLICATE_LAST_SELECTED")]

/-- Takes what has not been given from the variables. -/
def Given.complete (given : Given) (env : Variables) : Except Usage Given :=
  variableNames.foldlM
    (fun given (parameter, name) =>
      if given.isSet parameter then .ok given
      else
        match env.get? name with
        | some text => given.put text parameter
        | none => .ok given)
    given

/-! ## Arguments -/

/-- An argument by its form. -/
inductive Argument where
  /-- The two hyphens behind which nothing is an option. -/
  | separator
  /-- Two hyphens and a name, perhaps with a value behind an equals sign. -/
  | long (name : String) (value : Option String)
  /-- A hyphen and letters. -/
  | short (letter : Char) (rest : List Char)
  | plain
  deriving DecidableEq, Repr

/-- The form of an argument. -/
def Argument.ofText (text : String) : Argument :=
  match text.toList with
  | ['-', '-'] => .separator
  | '-' :: '-' :: rest =>
      let name := String.ofList (rest.takeWhile fun c => c != '=')
      match rest.dropWhile fun c => c != '=' with
      | _ :: value => .long name (some (String.ofList value))
      | [] => .long name none
  | '-' :: letter :: rest => .short letter rest
  | _ => .plain

/-- What an option makes happen. -/
inductive Action where
  | help
  | version
  /-- An option that is switched on. -/
  | switch (parameter : Parameter)
  /-- An option with a value. -/
  | valued (parameter : Parameter)
  deriving DecidableEq, Repr

/-- The commands. -/
inductive Command where
  | compile
  | check
  deriving DecidableEq, Repr

/-- The name of a command. -/
def Command.ofName? : String → Option Command
  | "compile" => some .compile
  | "check" => some .check
  | _ => none

/-- The options with a long name, before the name of a command or behind it. -/
def longOption (command : Option Command) : String → Option Action
  | "debug" => some (.switch .debug)
  | "config" => some (.valued .config)
  | "mode" => some (.valued .mode)
  | "alias" => some (.valued .tableAlias)
  | "last-selected" => some (.valued .lastSelected)
  | "date-format" => some (.valued .dateFormat)
  | "duplicate-last-selected" => some (.valued .duplicateLastSelected)
  | "help" => some .help
  | "version" => if command.isNone then some .version else none
  | "value-only" => if command = some .compile then some (.switch .valueOnly) else none
  | _ => none

/-- The options with a letter, before the name of a command or behind it. -/
def shortOption (command : Option Command) : Char → Option Action
  | 'c' => some (.valued .config)
  | 'm' => some (.valued .mode)
  | 'a' => some (.valued .tableAlias)
  | 'l' => some (.valued .lastSelected)
  | 'h' => some .help
  | 'V' => if command.isNone then some .version else none
  | _ => none

/-! ## Reading -/

/-- How far the reading has come. -/
structure Progress where
  given : Given := {}
  /-- The parameter that was met last, as long as it has not been settled. -/
  pending : Option (Parameter × Option String) := none
  /-- Whether the path has been met. -/
  hasPath : Bool := false
  /-- Whether the two hyphens have been met. -/
  plainOnly : Bool := false
  deriving DecidableEq, Repr

namespace Progress

/-- Whether an option waits for its value. -/
def awaitsValue (progress : Progress) : Bool :=
  match progress.pending with
  | some (_, none) => true
  | some (_, some _) | none => false

/-- Settles the parameter that was met last. -/
def settle (progress : Progress) : Except Usage Progress :=
  match progress.pending with
  | none => .ok progress
  | some (parameter, text) => do
      let given ← progress.given.accept parameter text
      .ok { progress with given, pending := none }

/-- Gives a parameter its value at once. -/
def accept (progress : Progress) (parameter : Parameter) (text : String) :
    Except Usage Progress := do
  let progress ← progress.settle
  let given ← progress.given.accept parameter (some text)
  .ok { progress with given }

/-- Meets a parameter that is settled later. -/
def meet (progress : Progress) (parameter : Parameter) (text : Option String) :
    Except Usage Progress := do
  let progress ← progress.settle
  .ok { progress with pending := some (parameter, text) }

/-- Ends the reading with what was asked for, unless the parameter that was met last
is wrong. -/
def stop (progress : Progress) (usage : Usage) : Except Usage Progress := do
  let _ ← progress.settle
  .error usage

/-- Gives the option that waits its value. -/
def supply (progress : Progress) (text : String) : Progress :=
  { progress with pending := progress.pending.map fun (parameter, _) => (parameter, some text) }

/-- Reads an option with a long name. -/
def long (progress : Progress) (command : Option Command) (name : String)
    (value : Option String) : Except Usage Progress :=
  match longOption command name, value with
  | none, _ => .error .unknownArgument
  | some (.valued parameter), some text => progress.accept parameter text
  | some (.valued parameter), none => progress.meet parameter none
  | some _, some _ => .error .tooManyValues
  | some (.switch parameter), none => progress.accept parameter "true"
  | some .help, none => progress.stop .help
  | some .version, none => progress.stop .version

/-- Reads an option with a letter; what follows the letter is its value, perhaps
behind an equals sign. -/
def short (progress : Progress) (command : Option Command) (letter : Char)
    (rest : List Char) : Except Usage Progress :=
  match shortOption command letter, rest with
  | none, _ => .error .unknownArgument
  | some .help, _ => progress.stop .help
  | some .version, _ => progress.stop .version
  | some (.switch parameter), _ => progress.accept parameter "true"
  | some (.valued parameter), [] => progress.meet parameter none
  | some (.valued parameter), '=' :: text => progress.accept parameter (String.ofList text)
  | some (.valued parameter), text => progress.accept parameter (String.ofList text)

end Progress

/-- Reads an argument that is a path. -/
def readPath (progress : Progress) (text : String) : Except Usage Progress :=
  if progress.hasPath then .error .unknownArgument
  else do
    let progress ← progress.meet .path (some text)
    .ok { progress with hasPath := true }

/-- Reads an argument behind the name of a command. -/
def readArgument (command : Command) (progress : Progress) (text : String) :
    Except Usage Progress :=
  if progress.plainOnly then readPath progress text
  else
    match Argument.ofText text with
    | .separator => .ok { progress with plainOnly := true }
    | .long name value => progress.long (some command) name value
    | .short letter rest => progress.short (some command) letter rest
    | .plain =>
        if progress.awaitsValue then .ok (progress.supply text) else readPath progress text

/-- What is given behind the name of a command, apart from the variables. -/
def readCommand (env : Variables) (command : Command) (arguments : List String) :
    Except Usage Given := do
  let progress ← arguments.foldlM (readArgument command) {}
  let progress ← progress.settle
  let complete ← progress.given.complete env
  if complete.path.isNone then .error .missingPath
  .ok progress.given

/-- What is asked for when help on some commands is. -/
def readHelp : List String → Usage
  | [] => .help
  | [name] => if name = "help" ∨ (Command.ofName? name).isSome then .help else .invalidCommand
  | _ => .invalidCommand

/-- A command with its path, and what is given about the settings. -/
structure Invocation where
  command : Command
  path : String
  /-- Whether the clause is written without its keyword. -/
  valueOnly : Bool
  overrides : Overrides
  deriving DecidableEq, Repr

/-- The invocation that is given by all parameters together. -/
def Given.invocation (given : Given) (command : Command) : Except Usage Invocation :=
  match given.path with
  | none => .error .missingPath
  | some path => .ok
      { command
        path
        valueOnly := given.valueOnly.getD false
        overrides :=
          { debug := given.debug.getD false
            config := given.config
            mode := given.mode
            tableAlias := given.tableAlias
            lastSelected := given.lastSelected
            dateFormat := given.dateFormat
            duplicateLastSelected := given.duplicateLastSelected } }

/-- Reads the arguments from the name of a command on, when the options before it
have been read. -/
def finish (env : Variables) (before : Progress) (command : Command)
    (arguments : List String) : Except Usage Invocation := do
  let behind ← readCommand env command arguments
  let before ← before.settle
  let _ ← before.given.complete env
  let given ← (behind.orElse before.given).complete env
  given.invocation command

/-- Reads arguments that do not name a command. -/
def finishWithout (env : Variables) (progress : Progress) : Except Usage Invocation := do
  let progress ← progress.settle
  let given ← progress.given.complete env
  if given = {} then .error .nothingGiven else .error .missingCommand

/-- Reads the arguments from the first one on. -/
def readArguments (env : Variables) (progress : Progress) :
    List String → Except Usage Invocation
  | [] => finishWithout env progress
  | text :: rest =>
      if progress.plainOnly then
        if text = "help" ∨ (Command.ofName? text).isSome then .error .unknownArgument
        else .error .invalidCommand
      else if progress.awaitsValue then
        match Argument.ofText text with
        | .separator => readArguments env { progress with plainOnly := true } rest
        | .long name value => do readArguments env (← progress.long none name value) rest
        | .short letter more => do readArguments env (← progress.short none letter more) rest
        | .plain => readArguments env (progress.supply text) rest
      else if text = "help" then .error (readHelp rest)
      else
        match Command.ofName? text, Argument.ofText text with
        | some command, _ => finish env progress command rest
        | none, .separator => readArguments env { progress with plainOnly := true } rest
        | none, .long name value => do
            readArguments env (← progress.long none name value) rest
        | none, .short letter more => do
            readArguments env (← progress.short none letter more) rest
        | none, .plain => .error .invalidCommand

/-- The invocation that arguments spell under the variables of the environment. -/
def parse (env : Variables) (arguments : List String) : Except Usage Invocation :=
  readArguments env {} arguments

end WhereClause.CommandLine
