import WhereClause.Filter.Document
import WhereClause.Proofs.Json.Reading

/-!
# Documents of filters are read back

Every part of a filter is written so that its reader takes the text for that part: names and
sides as strings, marks as words, kinds, types and bounds by their names, a column as an object
or as `null`, the items as a list of objects.  So **writing filters and decoding the document
gives the same filters** (`decode_render`), whatever texts they hold.

Reading a document also asks for its size, for the number of its filters, and that each of them
declares exactly one column (`parse_ok_iff`).  These are then the only reasons why a written
document is not read (`parse_render_iff`).
-/

set_option autoImplicit false

namespace WhereClause

open Json

/-! ## Parts of a filter -/

theorem reads_kind (kind : Kind) :
    Reads (.choice Kind.names) (Filter.nameIn Kind.names kind) kind := by
  cases kind with
  | discrete => exact reads_choice rfl
  | range => exact reads_choice rfl

theorem reads_valueType (type : ValueType) :
    Reads (.choice ValueType.names) (Filter.nameIn ValueType.names type) type := by
  cases type with
  | ordinal => exact reads_choice rfl
  | numeric => exact reads_choice rfl
  | date => exact reads_choice rfl

theorem reads_bound (bound : Bound) :
    Reads (.choice Bound.names) (Filter.nameIn Bound.names bound) bound := by
  cases bound with
  | atLeast => exact reads_choice rfl
  | atMost => exact reads_choice rfl

/-- A written column is read back: both its names are needed and there. -/
theorem reads_column (c : Column) :
    Reads Column.record.reader
      (Writer.object [("display_name", Writer.text c.display), ("field_name", Writer.text c.field)])
      c :=
  Record.reads_object
    (.field rfl rfl (reads_text c.display)
      (.field rfl rfl (reads_text c.field) (.nil _)))
    rfl

theorem reads_writeColumn (column : Option Column) :
    Reads Column.record.reader.orNull (Filter.writeColumn column) column := by
  cases column with
  | none => exact reads_null Column.record.reader
  | some c => exact (reads_column c).orNull (by simp [Writer.object])

/-- A written item is read back. -/
theorem reads_item (item : Item) : Reads Item.record.reader (Filter.writeItem item) item :=
  Record.reads_object
    (.field rfl rfl (reads_text item.id)
      (.field rfl rfl (reads_text item.value)
        (.field rfl rfl (reads_boolean item.selected)
          (.field rfl rfl (reads_boolean item.disabled) (.nil _)))))
    rfl

/-- Values that are written one by one are read as their list. -/
theorem reads_map {α : Type} {r : Reader α} {write : α → List Char}
    (reads : ∀ a, Reads r (write a) a) (values : List α) :
    Reads r.listOf (Writer.list (values.map write)) values := by
  refine reads_list ?_
  induction values with
  | nil => exact .nil
  | cons a values ih => exact .cons (reads a) ih

namespace Filter

/-- **A written filter is read back**, field by field. -/
theorem reads_write (f : Filter) : Reads record.reader f.write f :=
  Record.reads_object
    (.field rfl rfl (reads_writeColumn f.idColumn)
      (.field rfl rfl (reads_writeColumn f.valueColumn)
        (.field rfl rfl (reads_map reads_item f.items)
          (.field rfl rfl (reads_boolean f.required)
            (.field rfl rfl (reads_kind f.kind)
              (.field rfl rfl (reads_valueType f.valueType)
                (.field rfl rfl (reads_bound f.bound) (.nil _))))))))
    rfl

/-! ## Documents -/

/-- **Decoding a written document gives the filters that were written.** -/
theorem decode_render (filters : List Filter) : decode (render filters) = .ok filters := by
  have read := (reads_map reads_write filters).read_append []
  rw [List.append_nil] at read
  rw [decode, render, String.toList_ofList, Reader.whole, read]
  rfl

/-- Whether a filter declares exactly one column. -/
def declaresOne (f : Filter) : Bool := f.idColumn.isSome ^^ f.valueColumn.isSome

theorem check_ok_iff_declaresOne {f : Filter} : f.check = .ok () ↔ f.declaresOne = true := by
  unfold check column declaresOne
  cases f.idColumn <;> cases f.valueColumn <;> simp [Except.map]

theorem checkAll_ok_iff {filters : List Filter} :
    checkAll filters = .ok () ↔ ∀ f ∈ filters, f.declaresOne = true := by
  induction filters with
  | nil => simp [checkAll]
  | cons f filters ih =>
      rw [checkAll, List.forall_mem_cons, ← ih, ← check_ok_iff_declaresOne]
      cases f.check <;> simp [bind, Except.bind]

/-- **What is asked of a document:** its size, that it decodes, the number of its filters, and
that each of them declares exactly one column. -/
theorem parse_ok_iff {document : String} {filters : List Filter} :
    parse document = .ok filters ↔
      document.utf8ByteSize ≤ maxDocumentBytes ∧ decode document = .ok filters ∧
        filters.length ≤ maxFilters ∧ ∀ f ∈ filters, f.declaresOne = true := by
  rw [← checkAll_ok_iff]
  unfold parse
  by_cases large : maxDocumentBytes < document.utf8ByteSize
  · have tooLarge : ¬ document.utf8ByteSize ≤ maxDocumentBytes := by omega
    simp [large, tooLarge]
  · have small : document.utf8ByteSize ≤ maxDocumentBytes := by omega
    cases decoded : decode document with
    | error failure => simp [large, bind, Except.bind]
    | ok found =>
        by_cases many : maxFilters < found.length
        · simp only [large, if_false, bind, Except.bind, many, if_true, Except.ok.injEq,
            reduceCtorEq, false_iff]
          rintro ⟨-, rfl, few, -⟩
          omega
        · cases checked : checkAll found with
          | error failure =>
              simp only [large, if_false, bind, Except.bind, many, checked, Except.ok.injEq,
                reduceCtorEq, false_iff]
              rintro ⟨-, rfl, -, each⟩
              simp [checked] at each
          | ok _ =>
              simp only [large, if_false, bind, Except.bind, many, checked, Except.ok.injEq,
                small, true_and]
              constructor
              · rintro rfl
                exact ⟨rfl, by omega, checked⟩
              · exact fun read => read.1

/-- **Which written documents are read back:** those of at most 65536 bytes that hold at most 50
filters, each of which declares exactly one column, whatever texts stand in them. -/
theorem parse_render_iff (filters : List Filter) :
    parse (render filters) = .ok filters ↔
      (render filters).utf8ByteSize ≤ 65536 ∧ filters.length ≤ 50 ∧
        ∀ f ∈ filters, f.declaresOne = true := by
  rw [parse_ok_iff, maxDocumentBytes, maxFilters]
  simp only [decode_render, true_and]

end Filter

end WhereClause
