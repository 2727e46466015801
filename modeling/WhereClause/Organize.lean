import WhereClause.Compile

/-!
# Organizing one filter

A clause that is being built can be handed on from filter to filter.  Organizing a filter adds
its sections to it; when that fails the clause is still there, with whatever had been added by
then.

There are two ways to do it.  The default one makes the section of the filter and adds it as a
conjunct.  The global one makes the section, looks whether the filter is the one that was
changed last, which asks for its column once more, and only then adds the section, followed by
a second, identical one when the filter has it.
-/

set_option autoImplicit false

namespace WhereClause

/-- An activity that adds to a clause and may fail.  What it has added stays added when it
fails. -/
abbrev Building (α : Type) := ExceptT Failure (StateM Clause) α

namespace Building

/-- Adds one more section. -/
def add (role : Role) (s : Option Section) : Building Unit :=
  modify fun c => c.add role s

/-- What an activity ends with, and the clause that it leaves behind. -/
def outcome {α : Type} (activity : Building α) (c : Clause) : Except Failure α × Clause :=
  (activity.run.run c).run

end Building

namespace Filter

/-- Whether a filter is the one that was changed last. -/
def isLastSelected (f : Filter) (o : Options) : Except Failure Bool := do
  let field ← f.field
  .ok (o.lastSelected == some field)

/-- Adds the section of a filter. -/
def organizeDefault (f : Filter) (o : Options) : Building Unit := do
  let s ← f.toSection o
  Building.add .conjunct (some s)

/-- Adds the section of a filter, and once more when the filter is the one that was changed
last, unless second sections are not wanted. -/
def organizeGlobal (f : Filter) (o : Options) : Building Unit := do
  let s ← f.toSection o
  let last ← f.isLastSelected o
  Building.add .conjunct (some s)
  if last && o.duplicateLastSelected then Building.add .alternative (some s)

/-- Adds the sections that a filter has in a mode. -/
def organize (f : Filter) (mode : Mode) (o : Options) : Building Unit :=
  match mode with
  | .default => f.organizeDefault o
  | .global => f.organizeGlobal o

end Filter

end WhereClause
