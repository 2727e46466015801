import WhereClause.Failure

/-!
# Filters

A filter is a predicate over one column that a user shapes by selecting items.
Every item has two sides, an identifier and a value, and a filter compiles
against one of them: the side of the name it declares.  A filter that declares
both names, or neither, has no column (`exists_field_iff`).

An item contributes only when it is selected and not disabled.  An item whose
compiled side is exactly `-` stands for the absence of a value.
-/

set_option autoImplicit false

namespace WhereClause

/-- The side of its items that a filter compiles against. -/
inductive Side where
  | id
  | value
  deriving DecidableEq, Repr

/-- A literal as it stands in the clause: bare on the identifier side, between
quotes on the value side. -/
def Side.literal : Side → String → String
  | .id, text => Sql.bare text
  | .value, text => Sql.quoted text

/-- One selectable value of a filter. -/
structure Item where
  id : String
  value : String
  selected : Bool
  disabled : Bool
  deriving DecidableEq, Repr

namespace Item

/-- The text that stands for the absence of a value. -/
def nullMark : String := "-"

/-- A selected, enabled item with one text on both sides. -/
def ofText (text : String) : Item := ⟨text, text, true, false⟩

/-- A disabled item never contributes, even when it is marked selected. -/
def isActive (item : Item) : Bool := item.selected && !item.disabled

/-- The text on one side of an item. -/
def on (item : Item) : Side → String
  | .id => item.id
  | .value => item.value

/-- Whether an item stands for the absence of a value. -/
def isNull (item : Item) (side : Side) : Bool := item.on side == nullMark

/-- The side of an item as a literal of the clause. -/
def literal (item : Item) (side : Side) : String := side.literal (item.on side)

end Item

/-- A column: what the user calls it and what the database calls it. -/
structure Column where
  display : String
  field : String
  deriving DecidableEq, Repr

/-- Whether selected values are listed or collapsed to their extremes. -/
inductive Kind where
  | discrete
  | range
  deriving DecidableEq, Repr

/-- What the values of a filter are, which settles their order. -/
inductive ValueType where
  | ordinal
  | numeric
  | date
  deriving DecidableEq, Repr

/-- The comparison that a range with a single value stands for. -/
inductive Bound where
  | atLeast
  | atMost
  deriving DecidableEq, Repr

/-- The comparison sign of a bound. -/
def Bound.sign : Bound → String
  | .atLeast => ">="
  | .atMost => "<="

/-- A named, user-selectable predicate over one column. -/
structure Filter where
  idColumn : Option Column
  valueColumn : Option Column
  items : List Item
  required : Bool
  kind : Kind
  valueType : ValueType
  bound : Bound
  deriving DecidableEq, Repr

namespace Filter

/-- The side that the items are compiled on: the identifiers as soon as an
identifier column is declared. -/
def side (f : Filter) : Side := if f.idColumn.isSome then .id else .value

/-- What the user calls the filter. -/
def display (f : Filter) : String :=
  match f.idColumn, f.valueColumn with
  | some c, _ => c.display
  | none, some c => c.display
  | none, none => "<unnamed>"

/-- The one column that a filter declares; both or neither is a failure. -/
def column (f : Filter) : Except Failure Column :=
  match f.idColumn, f.valueColumn with
  | some c, none => .ok c
  | none, some c => .ok c
  | _, _ => .error (.ambiguousColumn f.display)

/-- The database's name of the column. -/
def field (f : Filter) : Except Failure String := f.column.map Column.field

/-- A filter that declares both columns or neither fails by the name that the user knows. -/
theorem field_of_ambiguous {f : Filter} (same : f.idColumn.isSome = f.valueColumn.isSome) :
    f.field = .error (.ambiguousColumn f.display) := by
  unfold field column
  split
  · next id value =>
      rw [id, value] at same
      cases same
  · next id value =>
      rw [id, value] at same
      cases same
  · rfl

/-- The one column of a filter that declares one. -/
theorem exists_column {f : Filter} (one : f.idColumn.isSome ≠ f.valueColumn.isSome) :
    ∃ column, (f.idColumn = some column ∨ f.valueColumn = some column) ∧
      f.field = .ok column.field := by
  unfold field Filter.column
  cases id : f.idColumn with
  | none =>
      cases value : f.valueColumn with
      | none =>
          rw [id, value] at one
          exact absurd rfl one
      | some column => exact ⟨column, .inr rfl, rfl⟩
  | some column =>
      cases value : f.valueColumn with
      | none => exact ⟨column, .inl rfl, rfl⟩
      | some other =>
          rw [id, value] at one
          exact absurd rfl one

/-- A filter has a column exactly when it declares one and not both. -/
theorem exists_field_iff {f : Filter} :
    (∃ field, f.field = .ok field) ↔ f.idColumn.isSome ≠ f.valueColumn.isSome := by
  constructor
  · rintro ⟨field, named⟩ same
    rw [field_of_ambiguous same] at named
    cases named
  · intro one
    obtain ⟨column, -, named⟩ := exists_column one
    exact ⟨column.field, named⟩

/-- A filter is usable when it declares exactly one column. -/
def check (f : Filter) : Except Failure Unit := f.column.map fun _ => ()

/-- The items that contribute, in their order. -/
def active (f : Filter) : List Item := f.items.filter Item.isActive

/-- Whether any item contributes. -/
def hasActive (f : Filter) : Bool := f.items.any Item.isActive

/-- A filter takes part in the clause when something is selected, or when
something has to be. -/
def isRegistered (f : Filter) : Bool := f.hasActive || f.required

end Filter

end WhereClause
