/-!
# Variables of the environment

Variables are kept with their names in a list, in which the first of a name
counts.  Each stands for an entry that is its name, an equals sign and its value,
and a name is looked up by what the entries begin with.
-/

set_option autoImplicit false

namespace WhereClause

/-- Variables with their values. -/
abbrev Variables := List (String × String)

namespace Variables

/-- A variable as an entry. -/
def entry (setting : String × String) : List Char :=
  setting.1.toList ++ ('=' :: setting.2.toList)

/-- The value of a variable: what is left of the first entry that begins with the
name and an equals sign.  The empty name is that of no variable. -/
def get? (env : Variables) (name : String) : Option String :=
  if name.isEmpty then none
  else
    env.findSome? fun setting =>
      ((name.toList ++ ['=']).isPrefixOf? (entry setting)).map String.ofList

/-- The variables with one more, unless there is one of that name. -/
def addMissing (env : Variables) (name value : String) : Variables :=
  if (env.get? name).isSome then env else env ++ [(name, value)]

end Variables

end WhereClause
