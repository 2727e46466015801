import WhereClause.Clause

/-!
# Compiling filters

Every filter that takes part becomes a section.  Selected literals make one
condition, listed or as a range; when the absence of a value is selected as well,
the check for it is joined by OR, and when nothing else is selected it stands
alone.  A required filter without a selection has a section that is not valid.

In the global mode the filter that was changed last also has a second, identical
section, which is an alternative to the whole conjunction.
-/

set_option autoImplicit false

namespace WhereClause

/-- Which sections a filter adds to the clause. -/
inductive Mode where
  | default
  | global
  deriving DecidableEq, Repr

/-- The format of dates when none is given. -/
def defaultDateFormat : String := "%Y-%m-%d"

/-- The settings of one compilation. -/
structure Options where
  mode : Mode := .default
  /-- The alias in front of every column; none when empty. -/
  tableAlias : String := ""
  /-- The column of the filter that was changed last. -/
  lastSelected : Option String := none
  dateFormat : String := defaultDateFormat
  /-- Whether the filter that was changed last has a second section. -/
  duplicateLastSelected : Bool := true
  deriving DecidableEq, Repr

namespace Filter

/-- The section of the selected literals of a filter, apart from the absence of a
value. -/
def literalSection (f : Filter) (o : Options) (field : String) (values : List Item) :
    Except Failure Section := do
  let collation := Collation.ofValueType f.valueType o.dateFormat
  let operand ← Operand.ofItems f.kind.shape collation f.side values
  .ok (.ofCondition (.ofOperand field o.tableAlias operand f.bound))

/-- The section of a filter. -/
def toSection (f : Filter) (o : Options) : Except Failure Section := do
  let field ← f.field
  let (nulls, values) := f.active.partition fun item => item.isNull f.side
  let nullSection := Section.ofCondition (.nullCheck field o.tableAlias false)
  if values.isEmpty ∧ ¬ nulls.isEmpty then
    .ok nullSection
  else
    let s ← f.literalSection o field values
    .ok (if nulls.isEmpty then s else s.push (some (nullSection.withJoint .or)))

/-- Whether a filter on a column has a second section. -/
def isDuplicated (o : Options) (field : String) : Bool :=
  o.mode == .global && o.lastSelected == some field && o.duplicateLastSelected

/-- Adds the sections of a filter to a clause. -/
def addTo (f : Filter) (o : Options) (c : Clause) : Except Failure Clause := do
  let s ← f.toSection o
  let field ← f.field
  let c := c.add .conjunct (some s)
  .ok (if isDuplicated o field then c.add .alternative (some s) else c)

/-- Adds the sections of a filter if it takes part; its column has to be clear in
any case. -/
def register (o : Options) (c : Clause) (f : Filter) : Except Failure Clause := do
  f.check
  if f.isRegistered then f.addTo o c else .ok c

end Filter

/-- The clause of a list of filters.  The first filter that fails ends the
compilation. -/
def compile (filters : List Filter) (o : Options) : Except Failure Clause :=
  filters.foldlM (Filter.register o) Clause.empty

end WhereClause
