import WhereClause.Proofs.Json.Finding
import WhereClause.Proofs.Json.Strict
import WhereClause.Settings.Layer

/-!
# What a settings file says

A settings file is an object.  Debugging is a member of it, and the settings of the compiler are
found by name in the object, or by place in the list, that its member `compiler` is.

Every file that is decoded is written by a tree (`Layer.exists_of_parse`), and **a layer holds
exactly what its file sets** (`Layer.spelled_of_parse`): a setting is set when its value is there
and is not `null`, and then to what the value means; an empty text is a value like any other.
-/

set_option autoImplicit false

namespace WhereClause.Settings

open Json

/-! ## Settings of a file -/

/-- A setting of the compiler: by its name in an object, or by its place in a list. -/
def setting (place : Nat) (name : String) : Value → Option Value
  | .object ms => Record.member? name ms
  | .list vs => vs[place]?
  | _ => none

/-- The value of a member of a file. -/
def memberOf (name : String) : Value → Option Value
  | .object ms => Record.member? name ms
  | _ => none

/-- A setting of the compiler in a file. -/
def compilerSetting (place : Nat) (name : String) (file : Value) : Option Value :=
  (memberOf "compiler" file).bind (setting place name)

/-- Whether a setting has been set to what a value means; a value that is absent or `null` sets
nothing. -/
def Sets {α : Type} (meaning : Value → Option α) (given : Option Value) (set : Option α) : Prop :=
  match given with
  | none => set = none
  | some .null => set = none
  | some v => ∃ a, meaning v = some a ∧ set = some a

/-- The mode that a value names. -/
def modeOf (v : Value) : Option Mode := v.name?.bind fun name => modeNames.lookup name

/-- A layer holds the settings of the compiler that are given by place and name. -/
structure Layer.SetBy (given : Nat → String → Option Value) (layer : Layer) : Prop where
  mode : Sets modeOf (given 0 "mode") layer.mode
  tableAlias : Sets Value.text? (given 1 "table_alias") layer.tableAlias
  dateFormat : Sets Value.text? (given 2 "date_format") layer.dateFormat
  duplicateLastSelected :
    Sets Value.boolean? (given 3 "duplicate_last_selected") layer.duplicateLastSelected

/-- A layer holds what a file sets. -/
structure Layer.Spelled (file : Value) (layer : Layer) : Prop where
  compiler : layer.SetBy fun place name => compilerSetting place name file
  debug : Sets Value.boolean? (memberOf "debug" file) layer.debug

/-! ## The readers go by the tree -/

theorem goesByTree_compiler : compilerRecord.GoesByTree where
  field := by
    simp only [compilerRecord, List.forall_mem_cons]
    exact ⟨Field.means_of (means_choice _).orNull, Field.means_of means_text.orNull,
      Field.means_of means_text.orNull, Field.means_of means_boolean.orNull, nofun⟩
  other _ := (means_skipped.map fun _ => id).take

theorem means_compiler : compilerRecord.reader.Means compilerRecord.value? :=
  Record.means_reader goesByTree_compiler

theorem goesByTree_file : fileRecord.GoesByTree where
  field := by
    simp only [fileRecord, List.forall_mem_cons]
    exact ⟨Field.means_of means_compiler.orNull, Field.means_of means_boolean.orNull, nofun⟩
  other name := ((means_strict maxLevels).map fun _ => Draft.note name).take

theorem means_file : fileRecord.reader.Means fileRecord.value? :=
  Record.means_reader goesByTree_file

/-! ## Places of the drafts -/

/-- What a value sets that may be `null`. -/
theorem sets_value {α : Type} {r : Reader α} {meaning : Value → Option α} (means : r.Means meaning)
    {v : Value} {set : Option α} (said : r.orNull.take v = some set) :
    Sets meaning (some v) set := by
  rw [means.orNull.take_eq] at said
  cases v with
  | null =>
      cases said
      rfl
  | _ =>
      obtain ⟨a, meant, rfl⟩ := Option.map_eq_some_iff.1 said
      exact ⟨a, meant, rfl⟩

theorem sets_join {α : Type} {r : Reader α} {meaning : Value → Option α} (means : r.Means meaning)
    {given : Option Value} {held : Option (Option α)}
    (fills : match given with
      | none => held = none
      | some v => ∃ b, r.orNull.take v = some b ∧ held = some b) :
    Sets meaning given held.join := by
  cases given with
  | none =>
      obtain rfl : held = none := fills
      rfl
  | some v =>
      obtain ⟨b, said, rfl⟩ := fills
      exact sets_value means said

theorem passOver_frame {δ γ : Type} {other : δ → Option γ} (title : String) (v : Value)
    (p : δ → δ) (said : (passOver title).take v = some p) (d : δ) : other (p d) = other d := by
  obtain ⟨u, -, rfl⟩ := Option.map_eq_some_iff.1 ((take_map _ Reader.skipped v).symm.trans said)
  rfl

/-- Each setting of the compiler fills its own place and no other. -/
theorem compiler_frame {f : Json.Field CompilerDraft} (known : f ∈ compilerRecord.fields)
    {p : CompilerDraft → CompilerDraft} (puts : f.Puts p) (d : CompilerDraft) :
    (f.name ≠ "mode" → (p d).mode = d.mode) ∧
      (f.name ≠ "table_alias" → (p d).tableAlias = d.tableAlias) ∧
      (f.name ≠ "date_format" → (p d).dateFormat = d.dateFormat) ∧
      (f.name ≠ "duplicate_last_selected" →
        (p d).duplicateLastSelected = d.duplicateLastSelected) := by
  simp only [compilerRecord, List.mem_cons, List.not_mem_nil, or_false] at known
  rcases known with rfl | rfl | rfl | rfl
  all_goals
    obtain ⟨b, rfl⟩ := puts.exists_eq
    simp [Field.of]

theorem holds_mode : compilerRecord.Holds "mode" (·.mode) (Reader.choice modeNames).orNull :=
  .of rfl (fun _ _ => rfl) (fun _ known other _ puts d => (compiler_frame known puts d).1 other)
    passOver_frame

theorem holds_tableAlias : compilerRecord.Holds "table_alias" (·.tableAlias) Reader.text.orNull :=
  .of rfl (fun _ _ => rfl)
    (fun _ known other _ puts d => (compiler_frame known puts d).2.1 other) passOver_frame

theorem holds_dateFormat : compilerRecord.Holds "date_format" (·.dateFormat) Reader.text.orNull :=
  .of rfl (fun _ _ => rfl)
    (fun _ known other _ puts d => (compiler_frame known puts d).2.2.1 other) passOver_frame

theorem holds_duplicateLastSelected : compilerRecord.Holds "duplicate_last_selected"
    (·.duplicateLastSelected) Reader.boolean.orNull :=
  .of rfl (fun _ _ => rfl)
    (fun _ known other _ puts d => (compiler_frame known puts d).2.2.2 other) passOver_frame

theorem file_frame {f : Json.Field Draft} (known : f ∈ fileRecord.fields) {p : Draft → Draft}
    (puts : f.Puts p) (d : Draft) :
    (f.name ≠ "compiler" → (p d).compiler = d.compiler) ∧
      (f.name ≠ "debug" → (p d).debug = d.debug) ∧ (p d).unknown = d.unknown := by
  simp only [fileRecord, List.mem_cons, List.not_mem_nil, or_false] at known
  rcases known with rfl | rfl
  all_goals
    obtain ⟨b, rfl⟩ := puts.exists_eq
    simp [Field.of]

/-- A member that is no setting leaves its name. -/
theorem eq_note_of_other {title : String} {v : Value} {p : Draft → Draft}
    (said : (fileRecord.other title).take v = some p) : p = Draft.note title := by
  obtain ⟨u, -, rfl⟩ := Option.map_eq_some_iff.1
    ((take_map (fun _ => Draft.note title) (Reader.strict maxLevels) v).symm.trans said)
  rfl

/-- A member that is no setting leaves nothing else. -/
theorem note_frame {title : String} {v : Value} {p : Draft → Draft}
    (said : (fileRecord.other title).take v = some p) (d : Draft) :
    (p d).compiler = d.compiler ∧ (p d).debug = d.debug := by
  rw [eq_note_of_other said, Draft.note]
  split <;> exact ⟨rfl, rfl⟩

theorem holds_compiler : fileRecord.Holds "compiler" (·.compiler) compilerRecord.reader.orNull :=
  .of rfl (fun _ _ => rfl) (fun _ known other _ puts d => (file_frame known puts d).1 other)
    fun _ _ _ said d => (note_frame said d).1

theorem holds_debug : fileRecord.Holds "debug" (·.debug) Reader.boolean.orNull :=
  .of rfl (fun _ _ => rfl) (fun _ known other _ puts d => (file_frame known puts d).2.1 other)
    fun _ _ _ said d => (note_frame said d).2

/-! ## Layers -/

/-- The settings of the compiler are those that its value gives by name or by place; none of them
may be left out of a list. -/
theorem setBy_of_value? {c : Value} {layer : Layer} (said : compilerRecord.value? c = some layer) :
    layer.SetBy fun place name => setting place name c := by
  obtain ⟨draft, taken, finished⟩ := Option.bind_eq_some_iff.1 said
  cases finished
  cases c with
  | object ms =>
      exact
        { mode := sets_join (means_choice _) (holds_mode.get_eq rfl taken)
          tableAlias := sets_join means_text (holds_tableAlias.get_eq rfl taken)
          dateFormat := sets_join means_text (holds_dateFormat.get_eq rfl taken)
          duplicateLastSelected :=
            sets_join means_boolean (holds_duplicateLastSelected.get_eq rfl taken) }
  | list vs =>
      obtain ⟨mode, vs, a, rfl, first, taken⟩ := Record.exists_of_place rfl taken
      obtain ⟨tableAlias, vs, b, rfl, second, taken⟩ := Record.exists_of_place rfl taken
      obtain ⟨dateFormat, vs, c, rfl, third, taken⟩ := Record.exists_of_place rfl taken
      obtain ⟨duplicate, vs, d, rfl, fourth, taken⟩ := Record.exists_of_place rfl taken
      obtain ⟨rfl, rfl⟩ := Record.eq_of_place_nil taken
      exact
        { mode := sets_value (means_choice _) first
          tableAlias := sets_value means_text second
          dateFormat := sets_value means_text third
          duplicateLastSelected := sets_value means_boolean fourth }
  | _ => cases taken

/-- Where nothing is given, nothing is set. -/
theorem setBy_blank : Layer.SetBy (fun _ _ => none) {} := ⟨rfl, rfl, rfl, rfl⟩

/-- A member that may be `null` sets the settings of the compiler that its value gives. -/
theorem setBy_of_sets {member : Option Value} {set : Option Layer}
    (sets : Sets compilerRecord.value? member set) :
    (set.getD {}).SetBy fun place name => member.bind (setting place name) := by
  match member with
  | none =>
      obtain rfl : set = none := sets
      exact setBy_blank
  | some .null =>
      obtain rfl : set = none := sets
      exact setBy_blank
  | some (.boolean _) | some (.number _) | some (.text _) | some (.list _) | some (.object _) =>
      obtain ⟨layer, said, rfl⟩ := sets
      exact setBy_of_value? said

/-- A file that is decoded is an object, whose members have been taken into a draft. -/
theorem Layer.exists_object_of_parse {text : String} {file : Value} {layer : Layer}
    (written : file.Written text) (decoded : Layer.parse text = .ok layer) :
    ∃ ms draft, file = .object ms ∧ ms.foldlM fileRecord.note {} = some draft ∧
      layer = { draft.compiler.join.getD {} with
        debug := draft.debug.join, unknown := draft.unknown } := by
  have said := means_file.whole_eq written
  rw [show fileRecord.reader.whole text.toList = .ok layer from decoded] at said
  obtain ⟨draft, taken, finished⟩ := Option.bind_eq_some_iff.1 said.symm
  cases finished
  cases file with
  | object ms => exact ⟨ms, draft, rfl, taken, rfl⟩
  | _ => cases taken

/-- **A layer holds exactly what its file sets.** -/
theorem Layer.spelled_of_parse {text : String} {file : Value} {layer : Layer}
    (written : file.Written text) (decoded : Layer.parse text = .ok layer) :
    layer.Spelled file := by
  obtain ⟨ms, draft, rfl, taken, rfl⟩ := Layer.exists_object_of_parse written decoded
  have debug := sets_join means_boolean (holds_debug.get_eq rfl taken)
  have compiler := sets_join means_compiler (holds_compiler.get_eq rfl taken)
  obtain ⟨mode, tableAlias, dateFormat, duplicate⟩ := setBy_of_sets compiler
  exact ⟨⟨mode, tableAlias, dateFormat, duplicate⟩, debug⟩

/-! ## Every file is a tree -/

theorem finds_compiler : compilerRecord.reader.Finds := by
  refine Record.finds_reader ⟨?_, finds_passOver⟩
  simp only [compilerRecord, List.forall_mem_cons, List.not_mem_nil, false_imp_iff, implies_true,
    and_true]
  exact ⟨Field.finds_of (finds_choice _).orNull, Field.finds_of finds_text.orNull,
    Field.finds_of finds_text.orNull, Field.finds_of finds_boolean.orNull⟩

theorem finds_file : fileRecord.reader.Finds := by
  refine Record.finds_reader ⟨?_, fun name => (finds_strict maxLevels).map fun _ => Draft.note name⟩
  simp only [fileRecord, List.forall_mem_cons, List.not_mem_nil, false_imp_iff, implies_true,
    and_true]
  exact ⟨Field.finds_of finds_compiler.orNull, Field.finds_of finds_boolean.orNull⟩

/-- A settings file that is decoded is written by a tree. -/
theorem Layer.exists_of_parse {text : String} {layer : Layer}
    (decoded : Layer.parse text = .ok layer) : ∃ file : Value, file.Written text :=
  finds_file.exists_written decoded

end WhereClause.Settings
