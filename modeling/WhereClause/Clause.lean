import WhereClause.Section

/-!
# The clause

A clause is a row of sections, each in a role: the conjuncts are joined by AND,
and the block that they make is joined with every alternative by OR.  A section
may be missing; it then has no text and makes the clause not valid.

The body of a clause ends in one space, so that more can be written behind it.
-/

set_option autoImplicit false

namespace WhereClause

/-- The part that a section plays in the clause. -/
inductive Role where
  | conjunct
  | alternative
  deriving DecidableEq, Repr

/-- A row of sections with their roles. -/
structure Clause where
  entries : List (Role × Option Section)

namespace Clause

/-- The clause without any section. -/
def empty : Clause := ⟨[]⟩

/-- The clause with one more section at its end. -/
def add (c : Clause) (role : Role) (s : Option Section) : Clause :=
  ⟨c.entries ++ [(role, s)]⟩

/-- How many sections a clause has, missing ones included. -/
def count (c : Clause) : Nat := c.entries.length

/-- The texts of the sections in one role, as far as they have one. -/
def texts (c : Clause) (role : Role) : List String :=
  c.entries.filterMap fun (r, s) =>
    match s with
    | some s => if r = role ∧ s.render ≠ "" then some s.render else none
    | none => none

/-- A text with one more alternative. -/
def orElse (text alternative : String) : String :=
  if text.isEmpty then alternative else text ++ " OR " ++ alternative

/-- The clause without its keyword. -/
def body (c : Clause) : String :=
  let conjunction := String.intercalate " AND " (c.texts .conjunct)
  let text := (c.texts .alternative).foldl orElse conjunction
  if text.isEmpty then "" else text ++ " "

/-- The whole clause; nothing at all when no section has a text. -/
def render (c : Clause) : String := if c.body.isEmpty then "" else "WHERE " ++ c.body

/-- A clause is valid when it has sections and all of them are. -/
def isValid (c : Clause) : Bool :=
  !c.entries.isEmpty && c.entries.all fun (_, s) => s.any Section.isValid

/-- Why a clause is not valid. -/
def defects (c : Clause) : List Defect :=
  if c.entries.isEmpty then [.noSections]
  else c.entries.flatMap fun (_, s) =>
    match s with
    | none => [.missingSection]
    | some s => s.defects

/-- Why a clause is not valid, as one text. -/
def message? (c : Clause) : Option String := Defect.messages? c.defects

end Clause

end WhereClause
