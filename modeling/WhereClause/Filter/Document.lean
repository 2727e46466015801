import WhereClause.Filter
import WhereClause.Json.Record
import WhereClause.Json.Writer

/-!
# Documents of filters

A document is a list of filters in JSON.  Its size is checked first, then it is
decoded, then the number of filters is checked, and then every filter in turn.

The fields of a filter may all be left out: it has no column then, no items, is
not required, and is a listed filter of ordinal literals whose bound is a lower
one.  A column needs both its names, and an item both its sides.  Writing a filter
spells out every field.
-/

set_option autoImplicit false

namespace WhereClause

/-- The kinds by their names. -/
def Kind.names : List (String × Kind) := [("discrete", .discrete), ("range", .range)]

/-- The types of values by their names. -/
def ValueType.names : List (String × ValueType) :=
  [("ordinal", .ordinal), ("numeric", .numeric), ("date", .date)]

/-- The bounds by their names. -/
def Bound.names : List (String × Bound) := [("at_least", .atLeast), ("at_most", .atMost)]

/-! ## Columns -/

/-- What has been read of a column. -/
structure Column.Draft where
  display : Option String := none
  field : Option String := none

/-- A value of a field that has to be there. -/
def needed {α : Type} (name : String) : Option α → Except Json.Problem α
  | some a => .ok a
  | none => .error (.missingField name)

/-- How a column is read. -/
def Column.record : Json.Record Column.Draft Column where
  title := "struct FilterName"
  fields :=
    [.of "display_name" (·.display) (fun v d => { d with display := some v }) .text false,
     .of "field_name" (·.field) (fun v d => { d with field := some v }) .text false]
  blank := {}
  other := Json.passOver
  listed := true
  finish d := do
    let display ← needed "display_name" d.display
    let field ← needed "field_name" d.field
    .ok ⟨display, field⟩

/-! ## Items -/

/-- What has been read of an item. -/
structure Item.Draft where
  id : Option String := none
  value : Option String := none
  selected : Option Bool := none
  disabled : Option Bool := none

/-- How an item is read. -/
def Item.record : Json.Record Item.Draft Item where
  title := "struct FilterItem"
  fields :=
    [.of "filter_id" (·.id) (fun v d => { d with id := some v }) .text false,
     .of "filter_val" (·.value) (fun v d => { d with value := some v }) .text false,
     .of "selected" (·.selected) (fun v d => { d with selected := some v }) .boolean true,
     .of "disabled" (·.disabled) (fun v d => { d with disabled := some v }) .boolean true]
  blank := {}
  other := Json.passOver
  listed := true
  finish d := do
    let id ← needed "filter_id" d.id
    let value ← needed "filter_val" d.value
    .ok ⟨id, value, d.selected.getD false, d.disabled.getD false⟩

/-! ## Filters -/

namespace Filter

/-- What has been read of a filter. -/
structure Draft where
  idColumn : Option (Option Column) := none
  valueColumn : Option (Option Column) := none
  items : Option (List Item) := none
  required : Option Bool := none
  kind : Option Kind := none
  valueType : Option ValueType := none
  bound : Option Bound := none

/-- How a filter is read. -/
def record : Json.Record Draft Filter where
  title := "struct Filter"
  fields :=
    [.of "filter_id_name" (·.idColumn) (fun v d => { d with idColumn := some v })
       Column.record.reader.orNull true,
     .of "filter_name" (·.valueColumn) (fun v d => { d with valueColumn := some v })
       Column.record.reader.orNull true,
     .of "items" (·.items) (fun v d => { d with items := some v }) Item.record.reader.listOf true,
     .of "required" (·.required) (fun v d => { d with required := some v }) .boolean true,
     .of "kind" (·.kind) (fun v d => { d with kind := some v }) (.choice Kind.names) true,
     .of "value_type" (·.valueType) (fun v d => { d with valueType := some v })
       (.choice ValueType.names) true,
     .of "single_bound" (·.bound) (fun v d => { d with bound := some v })
       (.choice Bound.names) true]
  blank := {}
  other := Json.passOver
  listed := true
  finish d := .ok
    { idColumn := d.idColumn.getD none
      valueColumn := d.valueColumn.getD none
      items := d.items.getD []
      required := d.required.getD false
      kind := d.kind.getD .discrete
      valueType := d.valueType.getD .ordinal
      bound := d.bound.getD .atLeast }

/-- Decodes a document without looking at its size or at its filters. -/
def decode (document : String) : Except Failure (List Filter) :=
  (record.reader.listOf.whole document.toList).mapError .invalidDocument

/-- Checks every filter in turn. -/
def checkAll : List Filter → Except Failure Unit
  | [] => .ok ()
  | f :: rest => do
      f.check
      checkAll rest

/-- The filters of a document. -/
def parse (document : String) : Except Failure (List Filter) :=
  if maxDocumentBytes < document.utf8ByteSize then .error .documentTooLarge
  else do
    let filters ← decode document
    if maxFilters < filters.length then .error (.tooManyFilters filters.length)
    checkAll filters
    .ok filters

/-! ## Writing -/

/-- The name under which a value is found in a list of names. -/
def nameIn {α : Type} [BEq α] (names : List (String × α)) (a : α) : List Char :=
  Json.Writer.text (((names.find? fun n => n.2 == a).map Prod.fst).getD "")

/-- A column as JSON. -/
def writeColumn : Option Column → List Char
  | none => Json.Writer.null
  | some c =>
      Json.Writer.object
        [("display_name", Json.Writer.text c.display), ("field_name", Json.Writer.text c.field)]

/-- An item as JSON. -/
def writeItem (i : Item) : List Char :=
  Json.Writer.object
    [("filter_id", Json.Writer.text i.id), ("filter_val", Json.Writer.text i.value),
     ("selected", Json.Writer.boolean i.selected), ("disabled", Json.Writer.boolean i.disabled)]

/-- A filter as JSON. -/
def write (f : Filter) : List Char :=
  Json.Writer.object
    [("filter_id_name", writeColumn f.idColumn), ("filter_name", writeColumn f.valueColumn),
     ("items", Json.Writer.list (f.items.map writeItem)),
     ("required", Json.Writer.boolean f.required), ("kind", nameIn Kind.names f.kind),
     ("value_type", nameIn ValueType.names f.valueType),
     ("single_bound", nameIn Bound.names f.bound)]

/-- Filters as a document. -/
def render (filters : List Filter) : String :=
  String.ofList (Json.Writer.list (filters.map write))

end Filter

end WhereClause
