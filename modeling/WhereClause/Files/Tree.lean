import WhereClause.Files

/-!
# Trees of files

A tree of files as a value: the files with their absolute paths, and directories
that are there even when they are empty.  Every directory above a file is there as
well.

A path is followed part by part from the root.  Each part has to be looked up in a
directory, the parts `.` and `..` and an empty part behind a slash included, and
`..` leads one directory up.
-/

set_option autoImplicit false

namespace WhereClause.Files

/-- A tree of files.  The parts of a path are kept in order. -/
structure Tree where
  files : List (List String × ByteArray)
  directories : List (List String)

namespace Tree

/-- The parts of a path that name something. -/
def parts (path : String) : List String := (path.splitOn "/").filter fun part => part ≠ ""

/-- The tree of some files and directories, given by absolute paths. -/
def ofPaths (files : List (String × ByteArray)) (directories : List String) : Tree where
  files := files.map fun (path, bytes) => (parts path, bytes)
  directories := directories.map parts

/-- What stands at a place that is given by the names on the way to it. -/
def contentAt (tree : Tree) (names : List String) : Content :=
  match tree.files.lookup names with
  | some bytes => .file bytes
  | none =>
      let inside := tree.files.map Prod.fst ++ tree.directories
      if inside.any fun other => names.isPrefixOf other then .directory else .absent

/-- Follows the parts of a path from a directory; the names on the way are kept with
the last one first. -/
def follow (tree : Tree) (names : List String) : List String → Option (List String)
  | [] => some names
  | part :: rest =>
      match tree.contentAt names.reverse with
      | .directory =>
          if part = "" ∨ part = "." then tree.follow names rest
          else if part = ".." then tree.follow (names.drop 1) rest
          else tree.follow (part :: names) rest
      | .file _ | .absent => none

/-- What stands at an absolute path. -/
def content (tree : Tree) (path : String) : Content :=
  match tree.follow [] (path.splitOn "/") with
  | some names => tree.contentAt names.reverse
  | none => .absent

end Tree

end WhereClause.Files
