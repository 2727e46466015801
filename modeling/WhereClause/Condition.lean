import WhereClause.Extent
import WhereClause.Text.Blank

/-!
# Conditions

A condition tests one column: whether it is one of some literals, whether it is a
keyword, or whether it lies within an extent.  A condition that has nothing to
test against is not valid; it has no text, and its `defect?` says why.

The literals of a list count as missing when their joined text is blank, so a
single empty literal is missing, while two of them leave a comma.  An extent is
missing only when it has no literal at all.
-/

set_option autoImplicit false

namespace WhereClause

/-- The form that selected literals take. -/
inductive Shape where
  | list
  | extent
  | null
  deriving DecidableEq, Repr

/-- Listed filters take a list, ranges an extent. -/
def Kind.shape : Kind → Shape
  | .discrete => .list
  | .range => .extent

/-- What a column is tested against. -/
inductive Operand where
  | list (literals : List String)
  | extent (extent : Extent)
  /-- The absence of a value, or its presence. -/
  | null (negated : Bool)
  deriving DecidableEq, Repr

/-- Literals as the members of a list. -/
def joinLiterals (literals : List String) : String := String.intercalate "," literals

/-- The keyword for the absence of a value, or for its presence. -/
def nullKeyword (negated : Bool) : String := if negated then "NOT NULL" else "NULL"

namespace Operand

/-- One side of some items in a given form. -/
def ofItems (shape : Shape) (collation : Collation) (side : Side) (items : List Item) :
    Except Failure Operand :=
  match shape with
  | .list => .ok (.list (items.map fun item => item.literal side))
  | .extent => (Extent.ofItems collation side items).map .extent
  | .null => .ok (.null false)

/-- How many values an operand holds. -/
def count : Operand → Nat
  | .list literals => literals.length
  | .extent range => range.count
  | .null _ => 1

/-- The text of an operand. -/
def render : Operand → String
  | .list literals => joinLiterals literals
  | .extent range => range.render
  | .null negated => nullKeyword negated

end Operand

/-! ## Conditions -/

/-- How a column is tested. -/
inductive Test where
  | oneOf (literals : List String)
  | is (keyword : String)
  /-- The bound says which way a single literal is compared. -/
  | within (extent : Extent) (bound : Bound)
  deriving DecidableEq, Repr

/-- A test of one column. -/
structure Condition where
  field : String
  /-- The name of the table, or an alias of it; none when empty. -/
  qualifier : String
  test : Test
  deriving DecidableEq, Repr

namespace Condition

/-- The test of a column against an operand. -/
def ofOperand (field qualifier : String) (operand : Operand) (bound : Bound) : Condition :=
  match operand with
  | .list literals => ⟨field, qualifier, .oneOf literals⟩
  | .extent range => ⟨field, qualifier, .within range bound⟩
  | .null negated => ⟨field, qualifier, .is (nullKeyword negated)⟩

/-- The test whether a column has no value, or that it has one. -/
def nullCheck (field qualifier : String) (negated : Bool) : Condition :=
  ofOperand field qualifier (.null negated) .atLeast

/-- Why a condition has nothing to test against. -/
inductive Defect where
  | noValues (list : String)
  | noKeyword (keyword : String)
  | noExtent
  deriving DecidableEq, Repr

/-- The text of a defect. -/
def Defect.message : Defect → String
  | .noValues list => "No values provided for evaluation. Values are '" ++ list ++ "'."
  | .noKeyword keyword => "No value provided for evaluation. Value is '" ++ keyword ++ "'."
  | .noExtent => "No values provided for range evaluation."

/-- Whether there is something to test against. -/
def isValid (c : Condition) : Bool :=
  match c.test with
  | .oneOf literals => !Text.isBlankText (joinLiterals literals)
  | .is keyword => !Text.isBlankText keyword
  | .within extent _ => extent.count != 0

/-- Why a condition is not valid. -/
def defect? (c : Condition) : Option Defect :=
  if c.isValid then none
  else match c.test with
    | .oneOf literals => some (.noValues (joinLiterals literals))
    | .is keyword => some (.noKeyword keyword)
    | .within _ _ => some .noExtent

/-- The column of a condition. -/
def column (c : Condition) : String := Sql.qualify c.qualifier c.field

/-- The text of a condition, which is empty when the condition is not valid. -/
def render (c : Condition) : String :=
  if c.isValid then
    match c.test with
    | .oneOf literals => c.column ++ " IN (" ++ joinLiterals literals ++ ")"
    | .is keyword => c.column ++ " IS " ++ keyword
    | .within .empty _ => ""
    | .within (.single literal) bound => c.column ++ " " ++ bound.sign ++ " " ++ literal
    | .within extent _ => c.column ++ " BETWEEN " ++ extent.render
  else ""

/-! ## Small laws -/

/-- The check for a value always has its keyword. -/
@[simp]
theorem isValid_nullCheck (field qualifier : String) (negated : Bool) :
    (nullCheck field qualifier negated).isValid = true := by
  cases negated <;> rfl

end Condition

end WhereClause
