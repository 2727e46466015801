import WhereClause.Proofs.Filter.Document
import WhereClause.Proofs.Json.Edit
import WhereClause.Proofs.Json.Finding

/-!
# A document of filters may be spelled in many ways

A document may be edited at all its three levels, filters, columns and items: the order of
members may change, members that are no fields may come and go, a field that has its default may
be left out, the fields of a record may stand in a list, a name may stand in braces, and there
may be any white space (`Filter.DocumentEdit`).  Every document that is read is written by a tree,
and **whatever is done of this to the tree, the document has the same filters** as long as it does
not grow beyond the size limit (`Filter.parse_edited`).
-/

set_option autoImplicit false

namespace WhereClause

open Json

/-! ## Fields as a document shows them -/

/-- The names of a column have to be there. -/
def Column.slots : List Slot :=
  [⟨"display_name", fun _ => False, NoEdit⟩, ⟨"field_name", fun _ => False, NoEdit⟩]

/-- Both sides of an item have to be there; its marks are `false` when they are left out. -/
def Item.slots : List Slot :=
  [⟨"filter_id", fun _ => False, NoEdit⟩, ⟨"filter_val", fun _ => False, NoEdit⟩,
   ⟨"selected", (· = .boolean false), NoEdit⟩, ⟨"disabled", (· = .boolean false), NoEdit⟩]

/-- Every field of a filter may be left out. -/
def Filter.slots : List Slot :=
  [⟨"filter_id_name", (· = .null), RecordEdit Column.slots⟩,
   ⟨"filter_name", (· = .null), RecordEdit Column.slots⟩,
   ⟨"items", (· = .list []), ElementEdit (RecordEdit Item.slots)⟩,
   ⟨"required", (· = .boolean false), NoEdit⟩,
   ⟨"kind", Value.IsText "discrete", ChoiceEdit⟩,
   ⟨"value_type", Value.IsText "ordinal", ChoiceEdit⟩,
   ⟨"single_bound", Value.IsText "at_least", ChoiceEdit⟩]

/-- What may be done to a document of filters. -/
def Filter.DocumentEdit : Edit := ElementEdit (RecordEdit Filter.slots)

/-! ## The readers keep the edits -/

theorem Column.follows : Column.record.Follows Column.slots where
  other := rfl
  listed := rfl
  apart := by
    simp only [record, List.pairwise_cons, List.forall_mem_cons, List.not_mem_nil, false_imp_iff,
      implies_true, List.Pairwise.nil, and_true]
    exact .of (by decide) (fun _ _ _ => rfl) (fun _ _ => rfl) (fun _ _ => rfl)
  shows :=
    .cons (.needed means_text (.noEdit _) rfl fun _ _ => rfl) <|
    .cons (.needed means_text (.noEdit _) rfl fun _ _ => rfl) .nil

theorem Item.follows : Item.record.Follows Item.slots where
  other := rfl
  listed := rfl
  apart := by
    simp only [record, List.pairwise_cons, List.forall_mem_cons, List.not_mem_nil, false_imp_iff,
      implies_true, List.Pairwise.nil, and_true]
    and_intros
    all_goals exact .of (by decide) (fun _ _ _ => rfl) (fun _ _ => rfl) (fun _ _ => rfl)
  shows :=
    .cons (.needed means_text (.noEdit _) rfl fun _ _ => rfl) <|
    .cons (.needed means_text (.noEdit _) rfl fun _ _ => rfl) <|
    .cons (.optional false means_boolean (.noEdit _) (fun _ said => said ▸ rfl) rfl
      (fun _ _ => rfl) fun d unset => by simp [record, unset]) <|
    .cons (.optional false means_boolean (.noEdit _) (fun _ said => said ▸ rfl) rfl
      (fun _ _ => rfl) fun d unset => by simp [record, unset]) .nil

theorem means_column : Column.record.reader.Means Column.record.value? :=
  Record.means_reader Column.follows.goesByTree

theorem means_item : Item.record.reader.Means Item.record.value? :=
  Record.means_reader Item.follows.goesByTree

/-- A column may be edited wherever it is given. -/
theorem keeps_column : Column.record.reader.orNull.Keeps (RecordEdit Column.slots) :=
  .orNull means_column Column.follows.keeps fun _ _ edited => edited.ne_null

theorem keeps_items : Item.record.reader.listOf.Keeps (ElementEdit (RecordEdit Item.slots)) :=
  .listOf means_item Item.follows.keeps

/-! ## Every document is a tree -/

theorem Column.finds : Column.record.reader.Finds := by
  refine Record.finds_reader ⟨?_, finds_passOver⟩
  simp only [record, List.forall_mem_cons, List.not_mem_nil, false_imp_iff, implies_true, and_true]
  exact ⟨Field.finds_of finds_text, Field.finds_of finds_text⟩

theorem Item.finds : Item.record.reader.Finds := by
  refine Record.finds_reader ⟨?_, finds_passOver⟩
  simp only [record, List.forall_mem_cons, List.not_mem_nil, false_imp_iff, implies_true, and_true]
  exact ⟨Field.finds_of finds_text, Field.finds_of finds_text, Field.finds_of finds_boolean,
    Field.finds_of finds_boolean⟩

theorem Filter.finds : Filter.record.reader.Finds := by
  refine Record.finds_reader ⟨?_, finds_passOver⟩
  simp only [record, List.forall_mem_cons, List.not_mem_nil, false_imp_iff, implies_true, and_true]
  exact ⟨Field.finds_of Column.finds.orNull, Field.finds_of Column.finds.orNull,
    Field.finds_of Item.finds.listOf, Field.finds_of finds_boolean,
    Field.finds_of (finds_choice _), Field.finds_of (finds_choice _),
    Field.finds_of (finds_choice _)⟩

/-- A document that is decoded is written by a tree. -/
theorem Filter.exists_of_decode {document : String} {filters : List Filter}
    (decoded : Filter.decode document = .ok filters) : ∃ v : Value, v.Written document := by
  unfold Filter.decode at decoded
  cases read : Filter.record.reader.listOf.whole document.toList with
  | error p => simp [read, Except.mapError] at decoded
  | ok a => exact Filter.finds.listOf.exists_written read

/-! ## Every edit is kept -/

/-- A text that names a choice means what the name stands for. -/
theorem name?_of_isText {text : String} {v : Value} (said : v.IsText text) :
    v.name? = some text := by
  cases v with
  | text t => exact said
  | _ => cases said

namespace Filter

theorem follows : record.Follows slots where
  other := rfl
  listed := rfl
  apart := by
    simp only [record, List.pairwise_cons, List.forall_mem_cons, List.not_mem_nil, false_imp_iff,
      implies_true, List.Pairwise.nil, and_true]
    and_intros
    all_goals exact .of (by decide) (fun _ _ _ => rfl) (fun _ _ => rfl) (fun _ _ => rfl)
  shows :=
    .cons (.optional none means_column.orNull keeps_column (fun _ said => said ▸ rfl) rfl
      (fun _ _ => rfl) fun d unset => by simp [record, unset]) <|
    .cons (.optional none means_column.orNull keeps_column (fun _ said => said ▸ rfl) rfl
      (fun _ _ => rfl) fun d unset => by simp [record, unset]) <|
    .cons (.optional [] means_item.listOf keeps_items (fun _ said => said ▸ rfl) rfl
      (fun _ _ => rfl) fun d unset => by simp [record, unset]) <|
    .cons (.optional false means_boolean (.noEdit _) (fun _ said => said ▸ rfl) rfl
      (fun _ _ => rfl) fun d unset => by simp [record, unset]) <|
    .cons (.optional .discrete (means_choice _) (.choice _)
      (fun _ said => by rw [name?_of_isText said]; rfl) rfl
      (fun _ _ => rfl) fun d unset => by simp [record, unset]) <|
    .cons (.optional .ordinal (means_choice _) (.choice _)
      (fun _ said => by rw [name?_of_isText said]; rfl) rfl
      (fun _ _ => rfl) fun d unset => by simp [record, unset]) <|
    .cons (.optional .atLeast (means_choice _) (.choice _)
      (fun _ said => by rw [name?_of_isText said]; rfl) rfl
      (fun _ _ => rfl) fun d unset => by simp [record, unset]) .nil

/-- What a document means. -/
theorem means_document : record.reader.listOf.Means (Value.list? record.value?) :=
  (Record.means_reader follows.goesByTree).listOf

theorem keeps_document : record.reader.listOf.Keeps DocumentEdit :=
  .listOf (Record.means_reader follows.goesByTree) follows.keeps

/-- **A document is decoded as its tree.** -/
theorem decode_ok_iff {v : Value} {document : String} (written : v.Written document)
    {filters : List Filter} :
    decode document = .ok filters ↔ record.reader.listOf.take v = some filters := by
  rw [means_document.take_eq, ← means_document.whole_eq written, decode]
  cases record.reader.listOf.whole document.toList <;> simp [Except.mapError, Except.toOption]

/-- **Edits of its spelling do not change the filters of a document**: it is written by a tree,
and every document that a tree edited from there writes has the same filters. -/
theorem parse_edited {first : String} {filters : List Filter} (read : parse first = .ok filters) :
    (∃ v : Value, v.Written first) ∧
      ∀ (v w : Value) (second : String), v.Written first → Relation.EqvGen DocumentEdit v w →
        w.Written second → second.utf8ByteSize ≤ 65536 → parse second = .ok filters := by
  obtain ⟨-, decoded, few, declared⟩ := parse_ok_iff.1 read
  refine ⟨exists_of_decode decoded, ?_⟩
  intro v w second written edited rewritten small
  refine parse_ok_iff.2 ⟨small, ?_, few, declared⟩
  rw [decode_ok_iff written] at decoded
  rw [decode_ok_iff rewritten, ← keeps_document.eqvGen edited]
  exact decoded

/-- A further member whose number is too large for any reader, a default that is spelled out, the
members the other way round, and white space. -/
theorem parse_edited_city :
    parse "[ \x7b\"required\": false, \"note\": [1e999],\n \"filter_name\": [\"C\", \"C\"]\x7d ]" =
      .ok [⟨none, some ⟨"C", "C"⟩, [], false, .discrete, .ordinal, .atLeast⟩] := by
  have read : parse "[\x7b\"filter_name\":[\"C\",\"C\"]\x7d]" =
      .ok [⟨none, some ⟨"C", "C"⟩, [], false, .discrete, .ordinal, .atLeast⟩] := by
    decide +kernel
  let named (name : String) (all : name.toList.all Literal.isPlain = true) (v : Value) :
      Literal × Value := (.plainly name.toList all, v)
  let city : Value := .text (.plainly ['C'] rfl)
  let column := named "filter_name" rfl (.list [city, city])
  let note := named "note" rfl (.list [.number ⟨false, ⟨'1', [], rfl, rfl⟩, nofun, none,
    some ⟨false, none, ⟨'9', ['9', '9'], rfl, rfl⟩⟩⟩])
  let required := named "required" rfl (.boolean false)
  have first : RecordEdit slots (.object [column]) (.object [column, note]) :=
    .unknown [column] (Literal.value?_plainly _ _) (by decide) _
  have second : RecordEdit slots (.object [column, note]) (.object [column, note, required]) :=
    .default (show (⟨"required", (· = .boolean false), NoEdit⟩ : Slot) ∈ slots by simp [slots])
      (Literal.value?_plainly _ _) (by decide) rfl
  have third : RecordEdit slots (.object [column, note, required])
      (.object [required, note, column]) := .permute (List.reverse_perm _).symm
  have edited : Relation.EqvGen DocumentEdit (.list [.object [column]])
      (.list [.object [required, note, column]]) :=
    .trans _ _ _ (.rel _ _ (ElementEdit.element [] first [])) <|
    .trans _ _ _ (.rel _ _ (ElementEdit.element [] second []))
      (.rel _ _ (ElementEdit.element [] third []))
  have written : (Value.list [.object [column]]).Written
      "[\x7b\"filter_name\":[\"C\",\"C\"]\x7d]" := by
    unfold Value.Written
    decide
  have rewritten : (Value.list [.object [required, note, column]]).Written
      "[ \x7b\"required\": false, \"note\": [1e999],\n \"filter_name\": [\"C\", \"C\"]\x7d ]" := by
    unfold Value.Written
    decide
  exact (parse_edited read).2 _ _ _ written edited rewritten (by decide)

end Filter

end WhereClause
