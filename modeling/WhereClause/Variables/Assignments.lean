import WhereClause.Text.Alphanumeric
import WhereClause.Text.Blank
import WhereClause.Variables

/-!
# Files of assignments

A file can assign variables of the environment, one to an entry.  An entry is a
line, or several lines when quotes are open at the end of a line; a mark `#` begins
a comment at the beginning of an entry or behind white space.  The name is
followed by an equals sign, and the word `export` may stand before it.

In a value the single quotes keep everything as it is; double quotes keep white
space, and outside single quotes a backslash stands before a character that is
meant literally and a dollar sign before the name of a variable, which may have been
assigned before; one that is not set stands for nothing.

The first broken entry ends the reading, and what has been assigned before it
stays.  Variables that are set already are not assigned.
-/

set_option autoImplicit false

namespace WhereClause.Assignments

/-! ## Lines -/

/-- The lines of a file, each with the line feed that ends it. -/
def splitLines (line : List UInt8) : List UInt8 → List (List UInt8)
  | [] => if line.isEmpty then [] else [line.reverse]
  | byte :: rest =>
      if byte = 10 then (byte :: line).reverse :: splitLines [] rest
      else splitLines (byte :: line) rest

/-- The bytes of a file without the byte order mark. -/
def withoutMark : List UInt8 → List UInt8
  | 0xEF :: 0xBB :: 0xBF :: rest => rest
  | bytes => bytes

/-- The lines of a file up to the first that is no text. -/
def readableLines : List (List UInt8) → List (List Char)
  | [] => []
  | line :: rest =>
      match String.fromUTF8? ⟨line.toArray⟩ with
      | some text => text.toList :: readableLines rest
      | none => []

/-! ## Entries -/

/-- What is open at some point of an entry. -/
inductive Quoting where
  | none
  /-- White space, behind which a comment may begin. -/
  | blank
  | escape
  | single
  | singleEscape
  | double
  | doubleEscape
  deriving DecidableEq, Repr

/-- What is open behind one more character outside quotes. -/
def Quoting.outside (c : Char) : Quoting :=
  if c = '\\' then .escape
  else if c = '"' then .double
  else if c = '\'' then .single
  else .none

/-- What is open behind one more character that does not begin a comment. -/
def Quoting.next (quoting : Quoting) (c : Char) : Quoting :=
  match quoting with
  | .none => if Text.isBlank c ∧ c ≠ '\n' ∧ c ≠ '\r' then .blank else .outside c
  | .blank => .outside c
  | .escape => .none
  | .single => if c = '\\' then .singleEscape else if c = '\'' then .none else .single
  | .singleEscape => .single
  | .double => if c = '\\' then .doubleEscape else if c = '"' then .none else .double
  | .doubleEscape => .double

/-- What a line leaves open, or the part of it before a comment. -/
inductive LineEnd where
  | leaves (quoting : Quoting)
  | comment (before : List Char)
  deriving DecidableEq, Repr

/-- Follows the quotes of a line; `seen` holds its characters so far, the last one
first. -/
def endOfLine (quoting : Quoting) (seen : List Char) : List Char → LineEnd
  | [] => .leaves quoting
  | c :: rest =>
      if quoting = .blank ∧ c = '#' then .comment seen.reverse
      else endOfLine (quoting.next c) (c :: seen) rest

/-- An entry without the line break that ends it. -/
def withoutBreak (entry : List Char) : List Char :=
  match entry.reverse with
  | '\n' :: '\r' :: rest => rest.reverse
  | '\n' :: rest => rest.reverse
  | _ => entry

/-- Whether an entry is a comment. -/
def isComment (entry : List Char) : Bool :=
  match Text.dropBlank entry with
  | '#' :: _ => true
  | _ => false

/-- The entries that lines make up; `begun` is what has been read of the entry at
hand.  An entry that is never closed is left out, and what it would have been is
broken anyway. -/
def entries (quoting : Quoting) (begun : List Char) : List (List Char) → List (List Char)
  | [] => []
  | line :: rest =>
      let entry := begun ++ line
      if isComment entry then entries .none [] rest
      else
        match endOfLine quoting [] line with
        | .comment before => (begun ++ before) :: entries .none [] rest
        | .leaves .none => withoutBreak entry :: entries .none [] rest
        | .leaves unclosed => entries unclosed entry rest

/-! ## Values -/

/-- What is open at some point of a value. -/
inductive Mode where
  | bare
  | single
  | double
  | escape (quoted : Bool)
  /-- Behind a dollar sign; the letters of the name, the last one first. -/
  | name (quoted : Bool) (letters : List Char)
  /-- Behind a dollar sign and a brace. -/
  | braced (quoted : Bool) (letters : List Char)
  /-- Behind white space, where only a comment may follow. -/
  | ended
  | comment
  deriving DecidableEq, Repr

/-- The mode within double quotes or without. -/
def Mode.text (quoted : Bool) : Mode := if quoted then .double else .bare

/-- The characters that a backslash may stand before, and what they then mean. -/
def escaped? : Char → Option Char
  | '\\' => some '\\'
  | '\'' => some '\''
  | '"' => some '"'
  | '$' => some '$'
  | ' ' => some ' '
  | 'n' => some '\n'
  | _ => none

/-- Whether a character is a blank between a value and a comment. -/
def isGap (c : Char) : Bool := c == ' ' || c == '\t'

section Value

variable (value : List Char → List Char)

/-- One more character of a value: the mode behind it, and the text so far with the
last character first.  The values of variables are given by a function. -/
def step (out : List Char) (c : Char) : Mode → Option (Mode × List Char)
  | .comment => some (.comment, out)
  | .ended =>
      if isGap c then some (.ended, out)
      else if c = '#' then some (.comment, out)
      else none
  | .escape quoted => (escaped? c).map fun d => (.text quoted, d :: out)
  | .single => if c = '\'' then some (.bare, out) else some (.single, c :: out)
  | .name quoted letters =>
      if Text.isAlphanumeric c then some (.name quoted (c :: letters), out)
      else if c = '\x7b' ∧ letters.isEmpty then some (.braced quoted [], out)
      else
        let out := (value letters.reverse).reverse ++ out
        if c = '$' then some (.name quoted [], out) else some (.text quoted, c :: out)
  | .braced quoted letters =>
      if c = '\x7d' then some (.text quoted, (value letters.reverse).reverse ++ out)
      else some (.braced quoted (c :: letters), out)
  | .double =>
      if c = '$' then some (.name true [], out)
      else if c = '"' then some (.bare, out)
      else if c = '\\' then some (.escape true, out)
      else some (.double, c :: out)
  | .bare =>
      if c = '$' then some (.name false [], out)
      else if c = '\'' then some (.single, out)
      else if c = '"' then some (.double, out)
      else if c = '\\' then some (.escape false, out)
      else if isGap c then some (.ended, out)
      else some (.bare, c :: out)

/-- The text of a value from some point on. -/
def valueFrom (mode : Mode) (out : List Char) : List Char → Option (List Char)
  | [] =>
      match mode with
      | .bare | .ended | .comment | .escape false => some out.reverse
      | .name false letters => some (out.reverse ++ value letters.reverse)
      | .single | .double | .escape true | .name true _ | .braced _ _ => none
  | c :: rest =>
      match step value out c mode with
      | some (mode, out) => valueFrom mode out rest
      | none => none

end Value

/-! ## Assignments -/

/-- A character that a name may begin with. -/
def isNameStart (c : Char) : Bool := c.isAlpha || c == '_'

/-- A character that may follow in a name. -/
def isNamePart (c : Char) : Bool := c.isAlphanum || c == '_' || c == '.'

/-- Reads a name. -/
def readName : List Char → Option (String × List Char)
  | [] => none
  | c :: rest =>
      if isNameStart c then
        some (String.ofList ((c :: rest).takeWhile isNamePart), (c :: rest).dropWhile isNamePart)
      else none

/-- Reads an equals sign and the white space around it. -/
def readEquals (s : List Char) : Option (List Char) :=
  match Text.dropBlank s with
  | '=' :: rest => some (Text.dropBlank rest)
  | _ => none

/-- Reads the name of an assignment up to its value; `export` may stand before it,
or be the name itself. -/
def readHead (s : List Char) : Option (String × List Char) := do
  let (name, rest) ← readName s
  match readEquals rest with
  | some value => some (name, value)
  | none =>
      if name = "export" then
        let (name, rest) ← readName (Text.dropBlank rest)
        let value ← readEquals rest
        some (name, value)
      else none

/-- Whether nothing but perhaps a comment is left. -/
def isOver : List Char → Bool
  | [] => true
  | c :: _ => c == '#'

/-- What stands for the name of a variable. -/
def valueOf (env : Variables) (name : List Char) : List Char :=
  ((env.get? (String.ofList name)).getD "").toList

/-- Carries out entries up to the first that is broken.  A variable that an entry
assigns is set for the entries behind it. -/
def carryOut (env : Variables) : List (List Char) → Variables
  | [] => env
  | entry :: rest =>
      let entry := Text.trimmed entry
      if isOver entry then carryOut env rest
      else
        match readHead entry with
        | none => env
        | some (name, text) =>
            let value := if isOver text then some [] else valueFrom (valueOf env) .bare [] text
            match value with
            | none => env
            | some value => carryOut (env.addMissing name (String.ofList value)) rest

/-- The entries of a file. -/
def entriesOf (bytes : ByteArray) : List (List Char) :=
  entries .none [] (readableLines (splitLines [] (withoutMark bytes.toList)))

/-- The variables with those that a file assigns. -/
def apply (env : Variables) (bytes : ByteArray) : Variables :=
  carryOut env (entriesOf bytes)

/-! ## Names -/

/-- The names behind the dollar signs of a text. -/
def askedFor : List Char → List String
  | [] => []
  | c :: rest =>
      if c = '$' then
        match rest with
        | '\x7b' :: more => String.ofList (more.takeWhile fun d => d != '\x7d') :: askedFor rest
        | _ => String.ofList (rest.takeWhile Text.isAlphanumeric) :: askedFor rest
      else askedFor rest

/-- All names of variables that it can matter to a file whether they are set. -/
def names (bytes : ByteArray) : List String :=
  (entriesOf bytes).flatMap fun entry =>
    ((readHead (Text.trimmed entry)).map Prod.fst).toList ++ askedFor entry

end WhereClause.Assignments
