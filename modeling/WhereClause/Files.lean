import WhereClause.Text.Blank

/-!
# Paths and files

A path is a text whose parts are separated by slashes; it is absolute when it
begins with one.  A path that a user gives is taken without the white space around
it.  It may begin with a tilde for the home directory, and a relative path is
joined to the current directory.  Joining an absolute path to a directory gives
that path, so a tilde and two slashes lead away from the home directory.

The files themselves are known by a function that says what stands at a path.
-/

set_option autoImplicit false

namespace WhereClause.Files

/-- Where the program is run. -/
structure Place where
  home : Option String
  current : String
  deriving DecidableEq, Repr

/-- What stands at a path. -/
inductive Content where
  | absent
  | directory
  | file (bytes : ByteArray)

namespace Content

/-- Whether anything stands at a path. -/
def exists? : Content → Bool
  | .absent => false
  | .directory | .file _ => true

/-- The text of a file, when it is one. -/
def text? : Content → Option String
  | .file bytes => String.fromUTF8? bytes
  | .absent | .directory => none

end Content

/-- Whether a path begins at the root. -/
def isAbsolute (path : String) : Bool :=
  match path.toList with
  | '/' :: _ => true
  | _ => false

/-- Whether a path ends in a slash. -/
def endsInSlash (path : String) : Bool :=
  match path.toList.reverse with
  | '/' :: _ => true
  | _ => false

/-- A path below a directory, or the path itself when it is absolute. -/
def join (directory path : String) : String :=
  if isAbsolute path then path
  else if directory.isEmpty || endsInSlash directory then directory ++ path
  else directory ++ "/" ++ path

/-- A path with the home directory in the place of a leading tilde.  No path at all
is the current directory. -/
def withHome (home : Option String) (path : List Char) : String :=
  match path, home with
  | [], _ => "."
  | ['~'], some home => home
  | '~' :: '/' :: rest, some home => join home (String.ofList rest)
  | path, _ => String.ofList path

/-- The absolute path that a user means. -/
def Place.expand (place : Place) (path : String) : String :=
  join place.current (withHome place.home (Text.trimmed path.toList))

end WhereClause.Files
