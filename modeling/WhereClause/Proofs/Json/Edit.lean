import Mathlib.Data.List.Pairwise
import Mathlib.Logic.Relation
import WhereClause.Proofs.Json.Record

/-!
# Other ways to spell a record

A document may say the same in many ways.  What may be done to a value is a relation of trees:
a name may stand in braces (`ChoiceEdit`), an element of a list may be changed (`ElementEdit`),
and the spelling of a record may be changed (`RecordEdit`): the order of its members, members
that are no fields, fields that have their default, and objects for lists.

A reader keeps an edit when it makes the same of a value before and after it (`Reader.Keeps`), or
refuses both.  **A record whose fields are apart from each other keeps every edit of its
spelling** (`Record.Follows.keeps`): no field looks at another one, so the order of the members
does not matter, and finishing the draft puts the default where a field is not set.
-/

set_option autoImplicit false

namespace WhereClause.Json

/-! ## Edits -/

/-- Something that may be done to a value. -/
abbrev Edit := Value → Value → Prop

/-- Whether a value is a text, however it is spelled. -/
def Value.IsText (text : String) (v : Value) : Prop := v.text? = some text

/-- No edit at all. -/
def NoEdit : Edit := fun _ _ => False

/-- A name may be put into braces, with `null` behind it. -/
inductive ChoiceEdit : Edit where
  | brace (t : Literal) : ChoiceEdit (.text t) (.object [(t, .null)])

/-- An element of a list may be edited. -/
inductive ElementEdit (edit : Edit) : Edit where
  | element (before : List Value) {v w : Value} (edited : edit v w) (after : List Value) :
      ElementEdit edit (.list (before ++ v :: after)) (.list (before ++ w :: after))

/-- A field of a record as a document shows it. -/
structure Slot where
  name : String
  /-- The values that say the same as leaving the field out; none when it has to be there. -/
  IsDefault : Value → Prop
  /-- What may be done to the value of the field. -/
  edit : Edit

/-- Whether a field may be left out. -/
def Slot.IsOptional (slot : Slot) : Prop := ∃ v, slot.IsDefault v

/-- What may be done to the spelling of a record with the given fields. -/
inductive RecordEdit (slots : List Slot) : Edit where
  /-- The members of an object may stand in any order. -/
  | permute {ms ns : List (Literal × Value)} (perm : ms.Perm ns) :
      RecordEdit slots (.object ms) (.object ns)
  /-- A member that is no field may be added, with any value. -/
  | unknown (ms : List (Literal × Value)) {t : Literal} {name : String}
      (spelled : t.value? = some name) (other : ∀ slot ∈ slots, slot.name ≠ name) (v : Value) :
      RecordEdit slots (.object ms) (.object (ms ++ [(t, v)]))
  /-- A field that is absent may be added with its default. -/
  | default {ms : List (Literal × Value)} {t : Literal} {slot : Slot} (known : slot ∈ slots)
      (spelled : t.value? = some slot.name) (absent : ∀ m ∈ ms, m.1.value? ≠ some slot.name)
      {v : Value} (default : slot.IsDefault v) :
      RecordEdit slots (.object ms) (.object (ms ++ [(t, v)]))
  /-- An object of the first fields in their order may be spelled as the list of their values,
  when the others may be left out. -/
  | asList {ms : List (Literal × Value)} (count : Nat)
      (named : ms.map (fun m => m.1.value?) = (slots.take count).map fun slot => some slot.name)
      (optional : ∀ slot ∈ slots.drop count, slot.IsOptional) :
      RecordEdit slots (.object ms) (.list (ms.map Prod.snd))
  /-- The value of a member may be edited. -/
  | member (before : List (Literal × Value)) {t : Literal} {slot : Slot} (known : slot ∈ slots)
      (spelled : t.value? = some slot.name) {v w : Value} (edited : slot.edit v w)
      (after : List (Literal × Value)) :
      RecordEdit slots (.object (before ++ (t, v) :: after)) (.object (before ++ (t, w) :: after))
  /-- The value at the place of a field may be edited. -/
  | place (before : List Value) {slot : Slot} (known : slots[before.length]? = some slot)
      {v w : Value} (edited : slot.edit v w) (after : List Value) :
      RecordEdit slots (.list (before ++ v :: after)) (.list (before ++ w :: after))

/-! ## Readers that keep edits -/

variable {α δ : Type} {edit : Edit}

/-- Whether a reader makes the same of a value before and after an edit. -/
def Reader.Keeps (r : Reader α) (edit : Edit) : Prop := ∀ v w, edit v w → r.take v = r.take w

namespace Reader.Keeps

theorem noEdit (r : Reader α) : r.Keeps NoEdit := fun _ _ edited => edited.elim

/-- What keeps an edit keeps any number of them, there and back. -/
theorem eqvGen {r : Reader α} (keeps : r.Keeps edit) {v w : Value}
    (edited : Relation.EqvGen edit v w) : r.take v = r.take w := by
  induction edited with
  | rel v w edited => exact keeps v w edited
  | refl v => rfl
  | symm v w _ ih => exact ih.symm
  | trans u v w _ _ first second => exact first.trans second

theorem choice (variants : List (String × α)) : (Reader.choice variants).Keeps ChoiceEdit := by
  intro v w edited
  cases edited with
  | brace t =>
      rw [(means_choice variants).take_eq]
      rfl

/-- A list is read element by element. -/
theorem listOf {r : Reader α} {meaning : Value → Option α} (means : r.Means meaning)
    (keeps : r.Keeps edit) : r.listOf.Keeps (ElementEdit edit) := by
  intro v w edited
  cases edited with
  | @element before v w edited after =>
      have same : meaning v = meaning w := by
        rw [← means.take_eq]
        exact keeps v w edited
      rw [means.listOf.take_eq]
      simp only [Value.list?, List.mapM_append, List.mapM_cons, same]

/-- The word `null` is kept apart from the values that may be edited. -/
theorem orNull {r : Reader α} {meaning : Value → Option α} (means : r.Means meaning)
    (keeps : r.Keeps edit) (given : ∀ v w, edit v w → v ≠ .null ∧ w ≠ .null) :
    r.orNull.Keeps edit := by
  have other {v : Value} (some : v ≠ .null) :
      Value.orNull? meaning v = (meaning v).map Option.some := by
    cases v with
    | null => exact absurd rfl some
    | _ => rfl
  intro v w edited
  obtain ⟨left, right⟩ := given v w edited
  have same := keeps v w edited
  rw [means.take_eq] at same
  rw [means.orNull.take_eq, other left, other right, same]

theorem map {β : Type} {r : Reader α} (keeps : r.Keeps edit) (f : α → β) :
    (r.map f).Keeps edit := by
  intro v w edited
  rw [take_map, take_map, keeps v w edited]

end Reader.Keeps

/-- A record is spelled as an object or as a list. -/
theorem RecordEdit.ne_null {slots : List Slot} {v w : Value} (edited : RecordEdit slots v w) :
    v ≠ .null ∧ w ≠ .null := by
  cases edited <;> exact ⟨nofun, nofun⟩

/-! ## Records that keep edits -/

/-- Two fields that have nothing to do with each other. -/
structure Field.Apart (f g : Field δ) : Prop where
  name : f.name ≠ g.name
  comm : ∀ {p q}, f.Puts p → g.Puts q → ∀ d, p (q d) = q (p d)
  left : ∀ {q}, g.Puts q → ∀ d, f.isSet (q d) = f.isSet d
  right : ∀ {p}, f.Puts p → ∀ d, g.isSet (p d) = g.isSet d

instance : Std.Symm (Field.Apart (δ := δ)) where
  symm _ _ apart :=
    { name := apart.name.symm
      comm := fun q p d => (apart.comm p q d).symm
      left := apart.right
      right := apart.left }

/-- A field of a record is as a document shows it. -/
structure Field.Shows (record : Record δ α) (f : Field δ) (slot : Slot) : Prop where
  name : f.name = slot.name
  tree : f.reader.Means f.reader.take
  blank : f.isSet record.blank = false
  sets : ∀ {p}, f.Puts p → ∀ d, f.isSet (p d) = true
  mayEnd : slot.IsOptional → f.mayEnd = true
  default : ∀ {v}, slot.IsDefault v → ∃ p, f.reader.take v = some p ∧
    ∀ d, f.isSet d = false → record.finish (p d) = record.finish d
  keeps : f.reader.Keeps slot.edit

/-- A record has fields as a document shows them, apart from each other, and passes over its other
members. -/
structure Record.Follows (record : Record δ α) (slots : List Slot) : Prop where
  other : record.other = passOver
  listed : record.listed = true
  apart : record.fields.Pairwise Field.Apart
  shows : List.Forall₂ (Field.Shows record) record.fields slots

namespace Record.Follows

variable {record : Record δ α} {slots : List Slot}

theorem take_passOver (name : String) (v : Value) : (passOver (δ := δ) name).take v = some id :=
  congrFun (means_skipped.map fun _ => (id : δ → δ)).take_eq v

theorem shows_of_field (follows : record.Follows slots) {f : Field δ} (known : f ∈ record.fields) :
    ∃ slot ∈ slots, f.Shows record slot := by
  obtain ⟨i, here, rfl⟩ := List.mem_iff_getElem.1 known
  have there : i < slots.length := follows.shows.length_eq ▸ here
  exact ⟨slots[i], List.getElem_mem there, follows.shows.get here there⟩

theorem shows_of_slot (follows : record.Follows slots) {slot : Slot} (known : slot ∈ slots) :
    ∃ f ∈ record.fields, f.Shows record slot := by
  obtain ⟨i, here, rfl⟩ := List.mem_iff_getElem.1 known
  have there : i < record.fields.length := follows.shows.length_eq.symm ▸ here
  exact ⟨record.fields[i], List.getElem_mem there, follows.shows.get there here⟩

theorem goesByTree (follows : record.Follows slots) : record.GoesByTree where
  field f known := by
    obtain ⟨slot, -, shows⟩ := follows.shows_of_field known
    exact shows.tree
  other name := by
    rw [follows.other]
    exact (means_skipped.map fun _ => id).take

/-! ### One member -/

/-- The field of a name is the only one. -/
theorem find?_name (follows : record.Follows slots) {f : Field δ} (known : f ∈ record.fields) :
    (record.fields.find? fun g => g.name == f.name) = some f := by
  have some : (record.fields.find? fun g => g.name == f.name).isSome :=
    List.find?_isSome.2 ⟨f, known, beq_self_eq_true f.name⟩
  obtain ⟨g, found⟩ := Option.isSome_iff_exists.1 some
  have called : g.name = f.name := by simpa using List.find?_some found
  rw [found]
  by_contra other
  have apart := follows.apart.forall (List.mem_of_find?_eq_some found) known
    fun same => other (congrArg Option.some same)
  exact apart.name called

theorem assign_field (follows : record.Follows slots) {f : Field δ} (known : f ∈ record.fields)
    (draft : δ) (v : Value) :
    record.assign draft f.name v =
      if f.isSet draft then none else (f.reader.take v).map fun put => put draft := by
  rw [assign, follows.find?_name known]

/-- A member that is no field leaves the draft as it is. -/
theorem assign_other (follows : record.Follows slots) {name : String}
    (other : ∀ f ∈ record.fields, f.name ≠ name) (draft : δ) (v : Value) :
    record.assign draft name v = some draft := by
  have none : (record.fields.find? fun g => g.name == name) = none :=
    List.find?_eq_none.2 fun g known => by simpa using other g known
  rw [assign, none, follows.other]
  simp only [take_passOver]
  rfl

/-- A member is a field or not. -/
theorem known_or_other (record : Record δ α) (name : String) :
    (∃ f ∈ record.fields, f.name = name) ∨ ∀ f ∈ record.fields, f.name ≠ name := by
  by_cases known : ∃ f ∈ record.fields, f.name = name
  · exact .inl known
  · exact .inr fun f here same => known ⟨f, here, same⟩

/-- A field that has been set is not set again. -/
theorem assign_again (follows : record.Follows slots) {f : Field δ} (known : f ∈ record.fields)
    (draft : δ) (v w : Value) :
    ((record.assign draft f.name v).bind fun next => record.assign next f.name w) = none := by
  obtain ⟨slot, -, shows⟩ := follows.shows_of_field known
  simp only [follows.assign_field known]
  by_cases set : f.isSet draft = true
  · rw [if_pos set]
    rfl
  · rw [if_neg set]
    cases said : f.reader.take v with
    | none => rfl
    | some put => exact if_pos (shows.sets ⟨v, said⟩ draft)

/-- Two different fields may be set in either order. -/
theorem assign_apart {f g : Field δ} (follows : record.Follows slots) (left : f ∈ record.fields)
    (right : g ∈ record.fields) (apart : f.Apart g) (draft : δ) (v w : Value) :
    ((record.assign draft f.name v).bind fun next => record.assign next g.name w) =
      (record.assign draft g.name w).bind fun next => record.assign next f.name v := by
  simp only [follows.assign_field left, follows.assign_field right]
  cases first : f.reader.take v with
  | none => 
      cases g.isSet draft <;> cases g.reader.take w <;> simp
  | some p =>
      cases second : g.reader.take w with
      | none => cases f.isSet draft <;> simp
      | some q =>
          have sets := apart.right ⟨v, first⟩ draft
          have set := apart.left ⟨w, second⟩ draft
          cases here : f.isSet draft <;> cases there : g.isSet draft <;>
            simp [sets, set, here, there, apart.comm ⟨v, first⟩ ⟨w, second⟩ draft]

/-- **Two members may be taken in either order.** -/
theorem note_comm (follows : record.Follows slots) (draft : δ) (m n : Literal × Value) :
    ((record.note draft m).bind fun next => record.note next n) =
      (record.note draft n).bind fun next => record.note next m := by
  unfold note
  cases m.1.value? with
  | none => simp
  | some first =>
      cases n.1.value? with
      | none => simp
      | some second =>
          simp only [Option.bind_some]
          rcases known_or_other record first with ⟨f, left, rfl⟩ | other
          · rcases known_or_other record second with ⟨g, right, rfl⟩ | other
            · by_cases same : f = g
              · subst same
                rw [follows.assign_again left, follows.assign_again left]
              · have apart := follows.apart.forall left right same
                exact follows.assign_apart left right apart draft _ _
            · simp [follows.assign_other other]
          · simp [follows.assign_other other]

/-! ### All members -/

/-- The members of an object may stand in any order. -/
theorem foldlM_perm (follows : record.Follows slots) {ms ns : List (Literal × Value)}
    (perm : ms.Perm ns) (draft : δ) :
    ms.foldlM record.note draft = ns.foldlM record.note draft := by
  rw [List.foldlM_eq_foldl, List.foldlM_eq_foldl]
  refine perm.foldl_eq' (fun m _ n _ reached => ?_) _
  cases reached with
  | none => rfl
  | some draft => exact follows.note_comm draft m n

/-- A member with another name does not set a field. -/
theorem isSet_note (follows : record.Follows slots) {f : Field δ} (known : f ∈ record.fields)
    {m : Literal × Value} (absent : m.1.value? ≠ some f.name) {draft next : δ}
    (taken : record.note draft m = some next) : f.isSet next = f.isSet draft := by
  obtain ⟨name, spelled, taken⟩ := Option.bind_eq_some_iff.1 taken
  rcases known_or_other record name with ⟨g, here, rfl⟩ | other
  · rw [follows.assign_field here] at taken
    split at taken
    · cases taken
    · obtain ⟨put, said, rfl⟩ := Option.map_eq_some_iff.1 taken
      have different : f ≠ g := by
        rintro rfl
        exact absent spelled
      exact (follows.apart.forall known here different).left ⟨m.2, said⟩ draft
  · rw [follows.assign_other other] at taken
    cases taken
    rfl

/-- A field that no member names is as it was at first. -/
theorem isSet_foldlM (follows : record.Follows slots) {f : Field δ} (known : f ∈ record.fields)
    {ms : List (Literal × Value)} (absent : ∀ m ∈ ms, m.1.value? ≠ some f.name)
    {draft final : δ} (taken : ms.foldlM record.note draft = some final) :
    f.isSet final = f.isSet draft := by
  induction ms generalizing draft with
  | nil =>
      cases taken
      rfl
  | cons m ms ih =>
      obtain ⟨next, first, further⟩ := Option.bind_eq_some_iff.1 taken
      have here := follows.isSet_note known (absent m List.mem_cons_self) first
      exact (ih (fun n there => absent n (List.mem_cons_of_mem m there)) further).trans here

/-- A member behind the others is taken into the draft that they make. -/
theorem value?_append (record : Record δ α) (ms : List (Literal × Value)) (m : Literal × Value) :
    record.value? (.object (ms ++ [m])) =
      (record.draft? (.object ms)).bind fun draft =>
        (record.note draft m).bind fun final => (record.finish final).toOption := by
  show ((ms ++ [m]).foldlM record.note record.blank).bind _ = _
  rw [List.foldlM_append]
  show ((ms.foldlM record.note record.blank).bind fun draft =>
    [m].foldlM record.note draft).bind _ = _
  rw [Option.bind_assoc]
  simp [List.foldlM_cons, draft?]

/-! ### The edits -/

theorem unknown_eq (follows : record.Follows slots) (ms : List (Literal × Value)) {t : Literal}
    {name : String} (spelled : t.value? = some name) (other : ∀ slot ∈ slots, slot.name ≠ name)
    (v : Value) : record.value? (.object (ms ++ [(t, v)])) = record.value? (.object ms) := by
  have strange : ∀ f ∈ record.fields, f.name ≠ name := by
    intro f known
    obtain ⟨slot, there, shows⟩ := follows.shows_of_field known
    rw [shows.name]
    exact other slot there
  rw [value?_append]
  simp only [note, spelled, Option.bind_some, follows.assign_other strange]
  rfl

/-- A default that is spelled out is finished as if it were left out. -/
theorem default_eq (follows : record.Follows slots) {ms : List (Literal × Value)} {t : Literal}
    {slot : Slot} (known : slot ∈ slots) (spelled : t.value? = some slot.name)
    (absent : ∀ m ∈ ms, m.1.value? ≠ some slot.name) {v : Value} (default : slot.IsDefault v) :
    record.value? (.object (ms ++ [(t, v)])) = record.value? (.object ms) := by
  obtain ⟨f, here, shows⟩ := follows.shows_of_slot known
  obtain ⟨put, said, same⟩ := shows.default default
  rw [← shows.name] at spelled absent
  rw [value?_append, value?]
  cases taken : record.draft? (.object ms) with
  | none => rfl
  | some draft =>
      have unset : f.isSet draft = false :=
        (follows.isSet_foldlM here absent taken).trans shows.blank
      have next : record.note draft (t, v) = some (put draft) := by
        rw [note, spelled, Option.bind_some, follows.assign_field here, unset, said]
        rfl
      rw [Option.bind_some, next, Option.bind_some, Option.bind_some, same draft unset]

/-- A member goes by what its field makes of its value. -/
theorem note_congr (follows : record.Follows slots) {t : Literal} {slot : Slot}
    (known : slot ∈ slots) (spelled : t.value? = some slot.name) {v w : Value}
    (edited : slot.edit v w) (draft : δ) : record.note draft (t, v) = record.note draft (t, w) := by
  obtain ⟨f, here, shows⟩ := follows.shows_of_slot known
  rw [← shows.name] at spelled
  simp only [note, spelled, Option.bind_some, follows.assign_field here,
    shows.keeps v w edited]

theorem all_mayEnd {fields : List (Field δ)} {shown : List Slot}
    (fits : List.Forall₂ (Field.Shows record) fields shown)
    (optional : ∀ slot ∈ shown, slot.IsOptional) : fields.all Field.mayEnd = true := by
  induction fits with
  | nil => rfl
  | @cons f slot fields shown shows _ ih =>
      rw [List.all_cons, shows.mayEnd (optional slot List.mem_cons_self), Bool.true_and]
      exact ih fun other there => optional other (List.mem_cons_of_mem slot there)

/-- The first fields in their order are taken from an object as from a list: none of them is
set before its own member comes, since the fields are apart. -/
theorem foldlM_eq_place (follows : record.Follows slots) {fields : List (Field δ)}
    {shown : List Slot} (fits : List.Forall₂ (Field.Shows record) fields shown)
    (known : ∀ f ∈ fields, f ∈ record.fields) (apart : fields.Pairwise Field.Apart) {draft : δ}
    (unset : ∀ f ∈ fields, f.isSet draft = false) {ms : List (Literal × Value)} {count : Nat}
    (named : ms.map (fun m => m.1.value?) = (shown.take count).map fun slot => some slot.name)
    (optional : ∀ slot ∈ shown.drop count, slot.IsOptional) :
    ms.foldlM record.note draft = place fields draft (ms.map Prod.snd) := by
  induction fits generalizing draft ms count with
  | nil =>
      cases ms with
      | nil => rfl
      | cons m ms => simp at named
  | @cons f slot fields shown shows fits ih =>
      cases count with
      | zero =>
          obtain rfl : ms = [] := by simpa using named
          exact (if_pos (all_mayEnd (.cons shows fits) optional)).symm
      | succ count =>
          cases ms with
          | nil => simp at named
          | cons m ms =>
              obtain ⟨spelled, named⟩ := List.cons.inj named
              obtain ⟨different, apart⟩ := List.pairwise_cons.1 apart
              have note : record.note draft m =
                  (f.reader.take m.2).map fun put => put draft := by
                have spelled : m.1.value? = some slot.name := spelled
                rw [Record.note, spelled, Option.bind_some, ← shows.name,
                  follows.assign_field (known f List.mem_cons_self),
                  unset f List.mem_cons_self]
                rfl
              show (record.note draft m).bind _ = (f.reader.take m.2).bind _
              rw [note]
              cases said : f.reader.take m.2 with
              | none => rfl
              | some put =>
                  refine ih (fun g there => known g (List.mem_cons_of_mem f there)) apart ?_
                    named optional
                  intro g there
                  rw [(different g there).right ⟨m.2, said⟩ draft]
                  exact unset g (List.mem_cons_of_mem f there)

theorem asList_eq (follows : record.Follows slots) {ms : List (Literal × Value)} {count : Nat}
    (named : ms.map (fun m => m.1.value?) = (slots.take count).map fun slot => some slot.name)
    (optional : ∀ slot ∈ slots.drop count, slot.IsOptional) :
    record.value? (.object ms) = record.value? (.list (ms.map Prod.snd)) := by
  have unset : ∀ f ∈ record.fields, f.isSet record.blank = false := by
    intro f known
    obtain ⟨slot, -, shows⟩ := follows.shows_of_field known
    exact shows.blank
  have taken := follows.foldlM_eq_place follows.shows (fun _ here => here) follows.apart unset
    named optional
  simp only [value?, draft?, taken, follows.listed, if_true]

/-- The value at a place goes by what the field of that place makes of it. -/
theorem place_congr {fields : List (Field δ)} {shown : List Slot}
    (fits : List.Forall₂ (Field.Shows record) fields shown) {before : List Value} {slot : Slot}
    (here : shown[before.length]? = some slot) {v w : Value} (edited : slot.edit v w)
    (after : List Value) (draft : δ) :
    place fields draft (before ++ v :: after) = place fields draft (before ++ w :: after) := by
  induction fits generalizing before draft with
  | nil => simp at here
  | @cons f other fields shown shows fits ih =>
      cases before with
      | nil =>
          obtain rfl : other = slot := by simpa using here
          simp only [List.nil_append, place, shows.keeps v w edited]
      | cons u before =>
          have there : shown[before.length]? = some slot := by simpa using here
          simp only [List.cons_append, place]
          congr 1
          funext put
          exact ih there (put draft)

/-- **A record keeps every edit of its spelling**, in all its fields. -/
theorem keeps (follows : record.Follows slots) : record.reader.Keeps (RecordEdit slots) := by
  rw [Reader.Keeps, (means_reader follows.goesByTree).take_eq]
  intro v w edited
  cases edited with
  | permute perm => simp only [value?, draft?, follows.foldlM_perm perm]
  | unknown ms spelled other v => exact (follows.unknown_eq ms spelled other v).symm
  | default known spelled absent default =>
      exact (follows.default_eq known spelled absent default).symm
  | asList count named optional => exact follows.asList_eq named optional
  | member before known spelled edited after =>
      simp only [value?, draft?, List.foldlM_append, List.foldlM_cons,
        follows.note_congr known spelled edited]
  | place before here edited after =>
      simp only [value?, draft?, place_congr follows.shows here edited after]

end Record.Follows

/-! ### Fields that fill a place -/

section Places

variable {β γ : Type} {name title : String} {get : δ → Option β} {put : β → δ → δ} {r : Reader β}
  {mayEnd : Bool} {meaning : Value → Option β}

/-- Fields that fill different places are apart. -/
theorem Field.Apart.of {get' : δ → Option γ} {put' : γ → δ → δ} {r' : Reader γ} {mayEnd' : Bool}
    (different : name ≠ title) (comm : ∀ b c d, put b (put' c d) = put' c (put b d))
    (left : ∀ c d, get (put' c d) = get d) (right : ∀ b d, get' (put b d) = get' d) :
    (Field.of name get put r mayEnd).Apart (Field.of title get' put' r' mayEnd') where
  name := different
  comm p q d := by
    obtain ⟨b, rfl⟩ := p.exists_eq
    obtain ⟨c, rfl⟩ := q.exists_eq
    exact comm b c d
  left q d := by
    obtain ⟨c, rfl⟩ := q.exists_eq
    exact congrArg Option.isSome (left c d)
  right p d := by
    obtain ⟨b, rfl⟩ := p.exists_eq
    exact congrArg Option.isSome (right b d)

/-- A field that has to be there shows in a document as such. -/
theorem Field.Shows.needed {record : Record δ α} (means : r.Means meaning)
    (keeps : r.Keeps edit) (blank : get record.blank = none)
    (sets : ∀ b d, get (put b d) = some b) :
    Field.Shows record (.of name get put r false) ⟨name, fun _ => False, edit⟩ where
  name := rfl
  tree := Field.means_of means
  blank := congrArg Option.isSome blank
  sets p d := by
    obtain ⟨b, rfl⟩ := p.exists_eq
    exact congrArg Option.isSome (sets b d)
  mayEnd := fun ⟨_, never⟩ => never.elim
  default never := never.elim
  keeps := keeps.map put

/-- A field that may be left out has a value that says the same. -/
theorem Field.Shows.optional {record : Record δ α} {IsDefault : Value → Prop} (b : β)
    (means : r.Means meaning) (keeps : r.Keeps edit)
    (default : ∀ v, IsDefault v → meaning v = some b) (blank : get record.blank = none)
    (sets : ∀ b d, get (put b d) = some b)
    (finish : ∀ d, get d = none → record.finish (put b d) = record.finish d) :
    Field.Shows record (.of name get put r true) ⟨name, IsDefault, edit⟩ where
  name := rfl
  tree := Field.means_of means
  blank := congrArg Option.isSome blank
  sets p d := by
    obtain ⟨b, rfl⟩ := p.exists_eq
    exact congrArg Option.isSome (sets b d)
  mayEnd := fun _ => rfl
  default {v} said := by
    refine ⟨put b, ?_, fun d unset => finish d (Option.not_isSome_iff_eq_none.1 ?_)⟩
    · rw [Field.of, take_map, means.take_eq, default v said]
      rfl
    · simpa [Field.of] using unset
  keeps := keeps.map put

end Places

end WhereClause.Json
