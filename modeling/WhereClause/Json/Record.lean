import WhereClause.Json.Reader

/-!
# Records

A record has fields, each with a name and a type, which fill a draft.  It is
spelled as an object whose keys are the names, in any order, or else as the list
of its fields in their own order.

In an object no field may be given twice, and a member that is no field goes to
the record's reader for other members.  In a list, fields may be left out at the
end as far as they allow it, and nothing may follow the last field.  What has to
be there at all is settled when the draft is finished.
-/

set_option autoImplicit false

namespace WhereClause.Json

/-- A field of a record that is read into a draft. -/
structure Field (δ : Type) where
  name : String
  isSet : δ → Bool
  reader : Reader (δ → δ)
  /-- Whether the field may be left out at the end of a list. -/
  mayEnd : Bool

/-- A field given by the place in the draft that it fills. -/
def Field.of {δ α : Type} (name : String) (get : δ → Option α) (put : α → δ → δ)
    (reader : Reader α) (mayEnd : Bool) : Field δ where
  name := name
  isSet draft := (get draft).isSome
  reader := reader.map put
  mayEnd := mayEnd

/-- How a record is read. -/
structure Record (δ α : Type) where
  /-- What the record is called in messages. -/
  title : String
  fields : List (Field δ)
  /-- The draft without any field. -/
  blank : δ
  /-- Reads the value of a member that is not a field. -/
  other : String → Reader (δ → δ)
  /-- Whether the record may be spelled as a list. -/
  listed : Bool
  finish : δ → Except Problem α

/-- Passes over members that are not fields. -/
def passOver {δ : Type} (_name : String) : Reader (δ → δ) := Reader.skipped.map fun _ => id

/-! ## Objects -/

/-- The turn behind a comma in an object; the opening quote of a key is taken. -/
def keyBehindComma (s : List Char) : Except Problem Turn :=
  match skipSpace s with
  | [] => .error (.ended .value)
  | '"' :: rest => .ok (.more rest)
  | '\x7d' :: _ => .error .trailingComma
  | _ => .error .keyNotText

/-- The turn in an object, at its beginning or behind a member; the opening quote of
a key is taken. -/
def nextKey (first : Bool) (s : List Char) : Except Problem Turn :=
  match skipSpace s with
  | [] => .error (.ended .object)
  | '\x7d' :: rest => .ok (.stop rest)
  | c :: rest =>
      if first then
        if c = '"' then .ok (.more rest) else .error .keyNotText
      else if c = ',' then keyBehindComma rest
      else .error .expectedObjectCommaOrEnd

theorem length_keyBehindComma {s rest : List Char} (h : keyBehindComma s = .ok (.more rest)) :
    rest.length < s.length := by
  unfold keyBehindComma at h
  split at h
  · simp at h
  · rename_i found
    simp only [Except.ok.injEq, Turn.more.injEq] at h
    exact h ▸ length_of_skipSpace found
  · simp at h
  · simp at h

theorem length_nextKey_more {first : Bool} {s rest : List Char}
    (h : nextKey first s = .ok (.more rest)) : rest.length < s.length := by
  unfold nextKey at h
  split at h
  · simp at h
  · simp at h
  · rename_i found
    have := length_of_skipSpace found
    split at h
    · split at h
      · simp only [Except.ok.injEq, Turn.more.injEq] at h
        exact h ▸ this
      · simp at h
    · split at h
      · exact Nat.lt_trans (length_keyBehindComma h) this
      · simp at h

theorem length_nextKey_stop {first : Bool} {s rest : List Char}
    (h : nextKey first s = .ok (.stop rest)) : rest.length < s.length := by
  unfold nextKey at h
  split at h
  · simp at h
  · rename_i found
    simp only [Except.ok.injEq, Turn.stop.injEq] at h
    exact h ▸ length_of_skipSpace found
  · split at h
    · split at h <;> simp at h
    · split at h
      · unfold keyBehindComma at h
        split at h <;> simp at h
      · simp at h

namespace Record

variable {δ α : Type}

/-- The reader of what follows a key: a colon and a value for the draft. -/
def member (record : Record δ α) (draft : δ) (name : String) : Except Problem (Reader δ) :=
  match record.fields.find? fun f => f.name == name with
  | some f =>
      if f.isSet draft then .error (.duplicateField name)
      else .ok (f.reader.behindColon.map fun put => put draft)
  | none => .ok ((record.other name).behindColon.map fun put => put draft)

/-- The members of an object behind its opening brace or behind a member. -/
def members (record : Record δ α) (draft : δ) (first : Bool) (s : List Char) : Scan δ :=
  match _turn : nextKey first s with
  | .error p => .error p
  | .ok (.stop rest) => .ok (draft, rest)
  | .ok (.more rest) =>
      match _key : textFrom [] rest with
      | .error p => .error p
      | .ok (name, rest) =>
          match record.member draft name with
          | .error p => .error p
          | .ok reader =>
              match _value : reader.read rest with
              | .error p => .error p
              | .ok (draft, rest) => record.members draft false rest
termination_by s.length
decreasing_by
  exact Nat.lt_trans (reader.shortens _value)
    (Nat.lt_trans (length_textFrom _key) (length_nextKey_more _turn))

theorem length_members {record : Record δ α} {draft final : δ} {first : Bool}
    {s rest : List Char} (h : record.members draft first s = .ok (final, rest)) :
    rest.length < s.length := by
  fun_induction record.members draft first s with
  | case1 => simp at h
  | case2 draft first s t turn =>
      simp only [Except.ok.injEq, Prod.mk.injEq] at h
      exact h.2 ▸ length_nextKey_stop turn
  | case3 => simp at h
  | case4 => simp at h
  | case5 => simp at h
  | case6 draft first s t turn name u key reader found next v value ih =>
      have := ih h
      have := reader.shortens value
      have := length_textFrom key
      have := length_nextKey_more turn
      omega

/-! ## Lists of fields -/

/-- The closing bracket behind the last field. -/
def closeList (draft : δ) (s : List Char) : Scan δ :=
  match skipSpace s with
  | [] => .error (.ended .list)
  | ']' :: rest => .ok (draft, rest)
  | ',' :: rest =>
      match skipSpace rest with
      | ']' :: _ => .error .trailingComma
      | _ => .error .trailingCharacters
  | _ => .error .trailingCharacters

/-- The draft of a list that ends before the given fields, the first of which has
the given place. -/
def endList (record : Record δ α) (draft : δ) (place : Nat) (fields : List (Field δ)) :
    Except Problem δ :=
  if fields.all Field.mayEnd then .ok draft
  else .error (.wrongLength (place + (fields.takeWhile Field.mayEnd).length) record.title
    record.fields.length)

/-- The fields of a list behind its opening bracket or behind a field. -/
def listedFields (record : Record δ α) (draft : δ) (place : Nat) (s : List Char) :
    List (Field δ) → Scan δ
  | [] => closeList draft s
  | f :: fields =>
      match nextElement (place == 0) s with
      | .error p => .error p
      | .ok (.stop rest) => (record.endList draft place (f :: fields)).map fun d => (d, rest)
      | .ok (.more rest) =>
          match f.reader.read rest with
          | .error p => .error p
          | .ok (put, rest) => record.listedFields (put draft) (place + 1) rest fields

theorem length_closeList {draft final : δ} {s rest : List Char}
    (h : closeList draft s = .ok (final, rest)) : rest.length < s.length := by
  unfold closeList at h
  split at h
  · simp at h
  · rename_i found
    simp only [Except.ok.injEq, Prod.mk.injEq] at h
    exact h.2 ▸ length_of_skipSpace found
  · split at h <;> simp at h
  · simp at h

theorem length_listedFields {record : Record δ α} {fields : List (Field δ)} {draft final : δ}
    {place : Nat} {s rest : List Char}
    (h : record.listedFields draft place s fields = .ok (final, rest)) :
    rest.length < s.length := by
  induction fields generalizing draft place s with
  | nil => exact length_closeList h
  | cons f fields ih =>
      unfold listedFields at h
      split at h
      · simp at h
      · rename_i turn
        cases ended : record.endList draft place (f :: fields) with
        | error p => simp [ended, Except.map] at h
        | ok d =>
            simp only [ended, Except.map, Except.ok.injEq, Prod.mk.injEq] at h
            exact h.2 ▸ length_nextElement_stop turn
      · rename_i turn
        split at h
        · simp at h
        · rename_i value
          have := ih h
          have := f.reader.shortens value
          have := length_nextElement_more turn
          omega

/-! ## Records -/

/-- Finishes a draft that has been read. -/
def finished (record : Record δ α) : Except Problem (δ × List Char) → Scan α
  | .error p => .error p
  | .ok (draft, rest) => (record.finish draft).map fun a => (a, rest)

theorem length_finished {record : Record δ α} {s rest : List Char} {a : α}
    {read : Except Problem (δ × List Char)}
    (shortens : ∀ {draft : δ} {t : List Char}, read = .ok (draft, t) → t.length < s.length)
    (h : record.finished read = .ok (a, rest)) : rest.length < s.length := by
  cases read with
  | error p => simp [finished] at h
  | ok pair =>
      obtain ⟨draft, t⟩ := pair
      cases result : record.finish draft with
      | error p => simp [finished, result, Except.map] at h
      | ok b =>
          simp only [finished, result, Except.map, Except.ok.injEq, Prod.mk.injEq] at h
          exact h.2 ▸ shortens rfl

/-- The reader of a record. -/
def reader (record : Record δ α) : Reader α :=
  Reader.ofFirst
    (fun c rest =>
      if c = '\x7b' then record.finished (record.members record.blank true rest)
      else if c = '[' ∧ record.listed then
        record.finished (record.listedFields record.blank 0 rest record.fields)
      else .error (unexpected record.title c rest))
    (fun {_ _ _ _} h => by
      split at h
      · exact Nat.le_of_lt (length_finished length_members h)
      · split at h
        · exact Nat.le_of_lt (length_finished length_listedFields h)
        · simp at h)

end Record

end WhereClause.Json
