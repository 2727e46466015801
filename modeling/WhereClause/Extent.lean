import WhereClause.Collation

/-!
# The extent of a selection

Of the literals of a range only the extremes matter, and how many literals there
are.  Both extremes are found in one pass: every further item is compared with
the least and then with the greatest so far, and replaces it only when it lies
beyond.  So of equal literals the first one is kept, and a single literal is never
compared.
-/

set_option autoImplicit false

namespace WhereClause

/-- The extremes of some literals, as they stand in the clause. -/
inductive Extent where
  | empty
  | single (literal : String)
  /-- Two literals or more, some of which may lie between the extremes. -/
  | span (between : Nat) (least greatest : String)
  deriving DecidableEq, Repr

namespace Extent

/-- How many literals an extent is made of. -/
def count : Extent → Nat
  | .empty => 0
  | .single _ => 1
  | .span between _ _ => between + 2

/-- The least literal. -/
def least? : Extent → Option String
  | .empty => none
  | .single literal => some literal
  | .span _ least _ => some least

/-- The greatest literal. -/
def greatest? : Extent → Option String
  | .empty => none
  | .single literal => some literal
  | .span _ _ greatest => some greatest

/-- An extent as the operand of a comparison. -/
def render : Extent → String
  | .empty => ""
  | .single literal => literal
  | .span _ least greatest => least ++ " AND " ++ greatest

/-- The extremes once a further item is taken into account. -/
def widen (collation : Collation) (side : Side) (extremes : Item × Item) (item : Item) :
    Except Failure (Item × Item) := do
  let low ← collation.compareItems side item extremes.1
  let high ← collation.compareItems side item extremes.2
  .ok (if low.isLT then item else extremes.1, if high.isGT then item else extremes.2)

/-- The extremes of an item and those that follow it. -/
def extremes (collation : Collation) (side : Side) (first : Item) (rest : List Item) :
    Except Failure (Item × Item) :=
  rest.foldlM (widen collation side) (first, first)

/-- The extent of one side of some items. -/
def ofItems (collation : Collation) (side : Side) : List Item → Except Failure Extent
  | [] => .ok .empty
  | [item] => .ok (.single (item.literal side))
  | first :: second :: rest => do
      let (least, greatest) ← extremes collation side first (second :: rest)
      .ok (.span rest.length (least.literal side) (greatest.literal side))

end Extent

end WhereClause
