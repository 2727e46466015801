import WhereClause.Proofs.Json.Meaning

/-!
# What records mean

A record takes the members of an object into a draft one after another, in whatever order they
stand (`Record.note`), or the values of a list each for the field at its place (`Record.place`),
and then finishes the draft.  **Reading a record goes by the tree** when reading its fields and
its other members does (`Record.means_reader`).
-/

set_option autoImplicit false

namespace WhereClause.Json.Record

variable {δ α : Type}

/-- Takes the value of a member into a draft: for a field that is not set yet, or for the reader
of other members. -/
def assign (record : Record δ α) (draft : δ) (name : String) (v : Value) : Option δ :=
  match record.fields.find? fun f => f.name == name with
  | some f => if f.isSet draft then none else (f.reader.take v).map fun put => put draft
  | none => ((record.other name).take v).map fun put => put draft

/-- Takes a member of an object into a draft. -/
def note (record : Record δ α) (draft : δ) (m : Literal × Value) : Option δ :=
  m.1.value?.bind fun name => record.assign draft name m.2

/-- Takes the values of a list into a draft, each for the field at its place. -/
def place : List (Field δ) → δ → List Value → Option δ
  | fields, draft, [] => if fields.all Field.mayEnd then some draft else none
  | [], _, _ :: _ => none
  | f :: fields, draft, v :: vs =>
      (f.reader.take v).bind fun put => place fields (put draft) vs

/-- The draft that a value means. -/
def draft? (record : Record δ α) : Value → Option δ
  | .object ms => ms.foldlM record.note record.blank
  | .list vs => if record.listed then place record.fields record.blank vs else none
  | _ => none

/-- What a value means for a record. -/
def value? (record : Record δ α) (v : Value) : Option α :=
  (record.draft? v).bind fun draft => (record.finish draft).toOption

/-- Whether what the fields of a record and its other members mean goes by the tree. -/
structure GoesByTree (record : Record δ α) : Prop where
  field : ∀ f ∈ record.fields, f.reader.Means f.reader.take
  other : ∀ name, (record.other name).Means (record.other name).take

/-! ## Objects -/

/-- At the beginning of an object or behind a member there is the end of the object, or else a
further key with its value behind a colon. -/
theorem nextKey_tokens {first : Bool} {ms : List (Literal × Value)} {ts : List Token}
    {s : List Char} (spells : Spells (Value.members first ms ++ ts) s) :
    match ms with
    | [] => ∃ rest, nextKey first s = .ok (.stop rest) ∧ Spells ts rest
    | (t, v) :: ms => ∃ rest, nextKey first s = .ok (.more (t.body ++ '"' :: rest)) ∧
        Spells (.mark .colon :: (v.tokens ++ (Value.furtherMembers ms ++ ts))) rest := by
  match first, ms with
  | true, [] =>
      obtain ⟨rest, found, spells⟩ := Spells.skipSpace_mark spells
      refine ⟨rest, ?_, spells⟩
      rw [nextKey, found]
      rfl
  | false, [] =>
      obtain ⟨rest, found, spells⟩ := Spells.skipSpace_mark spells
      refine ⟨rest, ?_, spells⟩
      rw [nextKey, found]
      rfl
  | true, (t, v) :: ms =>
      rw [Value.members, List.cons_append, List.cons_append, List.append_assoc] at spells
      obtain ⟨rest, found, spells⟩ := spells.skipSpace_eq
      rw [Token.written, List.cons_append, List.append_assoc, List.singleton_append] at found
      refine ⟨rest, ?_, spells⟩
      rw [nextKey, found]
      rfl
  | false, (t, v) :: ms =>
      rw [Value.members, Value.furtherMembers, List.cons_append, List.cons_append,
        List.cons_append, List.append_assoc] at spells
      obtain ⟨behind, comma, spells⟩ := spells.skipSpace_mark
      obtain ⟨rest, found, spells⟩ := spells.skipSpace_eq
      rw [Token.written, List.cons_append, List.append_assoc, List.singleton_append] at found
      refine ⟨rest, ?_, spells⟩
      rw [nextKey, comma]
      show keyBehindComma behind = _
      rw [keyBehindComma, found]
      rfl

theorem members_eq (record : Record δ α) (draft : δ) (first : Bool) (s : List Char) :
    record.members draft first s =
      match nextKey first s with
      | .error p => .error p
      | .ok (.stop rest) => .ok (draft, rest)
      | .ok (.more rest) =>
          (textFrom [] rest).bind fun (name, rest) =>
            ((record.member draft name).bind fun reader => reader.read rest).bind
              fun (draft, rest) => record.members draft false rest := by
  rw [Record.members]
  split
  · next turn => simp only [turn]
  · next turn => simp only [turn]
  · next turn =>
      simp only [turn]
      split
      · next failed => simp only [failed, Except.bind]
      · next key =>
          simp only [key, Except.bind]
          split
          · next failed => simp only [failed]
          · next called =>
              simp only [called]
              split
              · next failed => simp only [failed]
              · next value => simp only [value]

/-- The value of a member is read as what it adds to the draft. -/
theorem leads_member {record : Record δ α} (tree : record.GoesByTree) (draft : δ) (name : String)
    {v : Value} {ts : List Token} {s : List Char} (closed : Closed ts)
    (spells : Spells (.mark .colon :: (v.tokens ++ ts)) s) :
    Leads ((record.member draft name).bind fun reader => reader.read s)
      (record.assign draft name v) ts := by
  unfold Record.member assign
  cases called : record.fields.find? fun f => f.name == name with
  | none => exact ((tree.other name).behindColon closed spells).map fun put => put draft
  | some f =>
      have known := tree.field f (List.mem_of_find?_eq_some called)
      simp only
      cases f.isSet draft with
      | true => exact ⟨_, rfl⟩
      | false => exact (known.behindColon closed spells).map fun put => put draft

/-- The members of an object are taken into the draft one after another. -/
theorem leads_members {record : Record δ α} (tree : record.GoesByTree)
    {ms : List (Literal × Value)} {ts : List Token} (draft : δ) {first : Bool} {s : List Char}
    (spells : Spells (Value.members first ms ++ ts) s) :
    Leads (record.members draft first s) (ms.foldlM record.note draft) ts := by
  induction ms generalizing draft first s with
  | nil =>
      obtain ⟨rest, turn, spells⟩ := nextKey_tokens spells
      refine ⟨rest, ?_, spells⟩
      rw [members_eq, turn]
  | cons m ms ih =>
      obtain ⟨t, v⟩ := m
      obtain ⟨rest, turn, spells⟩ := nextKey_tokens spells
      have each : ((t, v) :: ms).foldlM record.note draft =
          t.value?.bind fun name =>
            (record.assign draft name v).bind fun next => ms.foldlM record.note next :=
        Option.bind_assoc t.value? _ _
      rw [members_eq, turn, each]
      refine (leads_textFrom t spells).bind fun name behind _ spells => ?_
      refine (leads_member tree draft name (closed_furtherMembers ms ts) spells).bind ?_
      intro next rest _ spells
      have spells : Spells (Value.members false ms ++ ts) rest := spells
      exact ih next spells

/-! ## Lists -/

/-- Behind the last field of a list there must be its end. -/
theorem leads_closeList (draft : δ) {first : Bool} {vs : List Value} {ts : List Token}
    {s : List Char} (spells : Spells (Value.elements first vs ++ ts) s) :
    Leads (closeList draft s) (place [] draft vs) ts := by
  unfold closeList
  match first, vs with
  | true, [] =>
      obtain ⟨rest, found, spells⟩ := Spells.skipSpace_mark spells
      rw [found]
      exact ⟨rest, rfl, spells⟩
  | false, [] =>
      obtain ⟨rest, found, spells⟩ := Spells.skipSpace_mark spells
      rw [found]
      exact ⟨rest, rfl, spells⟩
  | true, v :: vs =>
      rw [Value.elements, List.append_assoc] at spells
      obtain ⟨c, rest, found, opens⟩ := v.opens_of_spells spells
      rw [found]
      split
      · exact ⟨_, rfl⟩
      · next same =>
          cases same
          cases opens with
          | number _ digit _ => cases digit
      · split <;> exact ⟨_, rfl⟩
      · exact ⟨_, rfl⟩
  | false, v :: vs =>
      obtain ⟨rest, found, -⟩ := Spells.skipSpace_mark spells
      rw [found]
      simp only [Mark.char]
      split <;> exact ⟨_, rfl⟩

theorem listedFields_cons (record : Record δ α) (draft : δ) (n : Nat) (s : List Char)
    (f : Field δ) (fields : List (Field δ)) :
    record.listedFields draft n s (f :: fields) =
      match nextElement (n == 0) s with
      | .error p => .error p
      | .ok (.stop rest) => (record.endList draft n (f :: fields)).map fun d => (d, rest)
      | .ok (.more rest) =>
          (f.reader.read rest).bind fun (put, rest) =>
            record.listedFields (put draft) (n + 1) rest fields := by
  rw [listedFields]
  cases nextElement (n == 0) s with
  | error p => rfl
  | ok turn =>
      cases turn with
      | stop rest => rfl
      | more rest =>
          dsimp only
          cases f.reader.read rest <;> rfl

/-- The values of a list are taken into the draft, each for the field at its place. -/
theorem leads_listedFields {record : Record δ α} {fields : List (Field δ)}
    (tree : ∀ f ∈ fields, f.reader.Means f.reader.take) {vs : List Value} {ts : List Token}
    (draft : δ) (n : Nat) {s : List Char}
    (spells : Spells (Value.elements (n == 0) vs ++ ts) s) :
    Leads (record.listedFields draft n s fields) (place fields draft vs) ts := by
  induction fields generalizing draft n vs s with
  | nil => exact leads_closeList draft spells
  | cons f fields ih =>
      rw [listedFields_cons]
      cases vs with
      | nil =>
          obtain ⟨rest, turn, spells⟩ := nextElement_tokens spells
          simp only [turn, endList, place]
          cases (f :: fields).all Field.mayEnd with
          | true => exact ⟨rest, rfl, spells⟩
          | false => exact ⟨_, rfl⟩
      | cons v vs =>
          obtain ⟨rest, turn, spells⟩ := nextElement_tokens spells
          have value := tree f List.mem_cons_self v _ rest (closed_furtherElements vs ts) spells
          simp only [turn, place]
          refine value.bind fun put rest _ spells => ?_
          exact ih (fun g known => tree g (List.mem_cons_of_mem f known)) (put draft) (n + 1) spells

/-! ## Records -/

/-- A draft that has been read is finished. -/
theorem leads_finished {record : Record δ α} {read : Scan δ} {draft : Option δ} {ts : List Token}
    (leads : Leads read draft ts) :
    Leads (record.finished read) (draft.bind fun d => (record.finish d).toOption) ts := by
  have bound : record.finished read =
      read.bind fun (d, rest) => (record.finish d).map fun a => (a, rest) := by
    cases read <;> rfl
  rw [bound]
  refine leads.bind fun d rest _ spells => ?_
  simp only
  cases record.finish d with
  | error p => exact ⟨p, rfl⟩
  | ok a => exact ⟨rest, rfl, spells⟩

/-- **Reading a record goes by the tree** when reading its parts does. -/
theorem means_reader {record : Record δ α} (tree : record.GoesByTree) :
    record.reader.Means record.value? := by
  refine .ofFirst fun {v ts c rest} closed opens _ => ?_
  cases opens with
  | object spells => exact leads_finished (leads_members tree record.blank spells)
  | list spells =>
      unfold value? draft?
      cases record.listed with
      | true => exact leads_finished (leads_listedFields tree.field record.blank 0 spells)
      | false => exact ⟨_, rfl⟩
  | number _ digit _ =>
      rw [if_neg (ne_of_isDigit digit rfl), if_neg fun both => ne_of_isDigit digit rfl both.1]
      exact ⟨_, rfl⟩
  | _ => exact ⟨_, rfl⟩

/-! ## The value of a field -/

section Fields

variable {β : Type} {name : String} {get : δ → Option β} {r : Reader β}

/-- The value of the first member of a name. -/
def member? (name : String) (ms : List (Literal × Value)) : Option Value :=
  (ms.find? fun m => m.1.value? == some name).map Prod.snd

/-- A record keeps the value of a field at a place of the draft that nothing else fills. -/
structure Holds (record : Record δ α) (name : String) (get : δ → Option β) (r : Reader β) :
    Prop where
  field : ∃ put mayEnd, (record.fields.find? fun f => f.name == name) =
    some (.of name get put r mayEnd) ∧ ∀ b d, get (put b d) = some b
  frame : ∀ {title : String} {v : Value} {draft next : δ}, title ≠ name →
    record.assign draft title v = some next → get next = get draft

/-- A record of fields that each fill a place of their own. -/
theorem Holds.of {record : Record δ α} {put : β → δ → δ} {mayEnd : Bool}
    (called : (record.fields.find? fun f => f.name == name) = some (.of name get put r mayEnd))
    (sets : ∀ b d, get (put b d) = some b)
    (others : ∀ f ∈ record.fields, f.name ≠ name → ∀ p, f.Puts p → ∀ d, get (p d) = get d)
    (strangers : ∀ title v p, (record.other title).take v = some p → ∀ d, get (p d) = get d) :
    record.Holds name get r where
  field := ⟨put, mayEnd, called, sets⟩
  frame {title v draft next} different taken := by
    unfold assign at taken
    split at taken
    · next f found =>
        obtain rfl : f.name = title := by simpa using List.find?_some found
        split at taken
        · cases taken
        · obtain ⟨p, said, rfl⟩ := Option.map_eq_some_iff.1 taken
          exact others f (List.mem_of_find?_eq_some found) different p ⟨v, said⟩ draft
    · obtain ⟨p, said, rfl⟩ := Option.map_eq_some_iff.1 taken
      exact strangers title v p said draft

/-- A member of the name fills the place, which has to be free. -/
theorem Holds.assign_name {record : Record δ α} (holds : record.Holds name get r) {v : Value}
    {draft next : δ} (taken : record.assign draft name v = some next) :
    get draft = none ∧ ∃ b, r.take v = some b ∧ get next = some b := by
  obtain ⟨put, mayEnd, called, sets⟩ := holds.field
  rw [assign, called] at taken
  cases held : get draft with
  | some b => simp [Field.of, held] at taken
  | none =>
      simp only [Field.of, held, Option.isSome_none, Bool.false_eq_true, if_false, take_map,
        Option.map_map] at taken
      obtain ⟨b, said, rfl⟩ := Option.map_eq_some_iff.1 taken
      exact ⟨rfl, b, said, sets b draft⟩

theorem Holds.note_cases {record : Record δ α} (holds : record.Holds name get r)
    {m : Literal × Value} {draft next : δ} (taken : record.note draft m = some next) :
    (m.1.value? = some name ∧ get draft = none ∧ ∃ b, r.take m.2 = some b ∧ get next = some b) ∨
      (m.1.value? ≠ some name ∧ get next = get draft) := by
  obtain ⟨title, spelled, taken⟩ := Option.bind_eq_some_iff.1 taken
  by_cases same : title = name
  · subst same
    exact .inl ⟨spelled, holds.assign_name taken⟩
  · refine .inr ⟨?_, holds.frame same taken⟩
    rw [spelled]
    exact fun other => same (Option.some.inj other)

/-- A place that is filled stays as it is. -/
theorem Holds.kept {record : Record δ α} (holds : record.Holds name get r)
    {ms : List (Literal × Value)} {draft final : δ} {b : β} (filled : get draft = some b)
    (taken : ms.foldlM record.note draft = some final) : get final = some b := by
  induction ms generalizing draft with
  | nil =>
      cases taken
      exact filled
  | cons m ms ih =>
      obtain ⟨next, first, further⟩ := Option.bind_eq_some_iff.1 taken
      rcases holds.note_cases first with ⟨-, free, -⟩ | ⟨-, same⟩
      · rw [filled] at free
        cases free
      · exact ih (same.trans filled) further

/-- **The place of a field holds what its reader makes of the member of its name**, and nothing
when there is no such member. -/
theorem Holds.get_eq {record : Record δ α} (holds : record.Holds name get r)
    {ms : List (Literal × Value)} {draft final : δ} (free : get draft = none)
    (taken : ms.foldlM record.note draft = some final) :
    match member? name ms with
    | none => get final = none
    | some v => ∃ b, r.take v = some b ∧ get final = some b := by
  induction ms generalizing draft with
  | nil =>
      cases taken
      exact free
  | cons m ms ih =>
      obtain ⟨next, first, further⟩ := Option.bind_eq_some_iff.1 taken
      rcases holds.note_cases first with ⟨spelled, -, b, said, filled⟩ | ⟨other, same⟩
      · have found : member? name (m :: ms) = some m.2 := by
          simp [member?, spelled]
        rw [found]
        exact ⟨b, said, holds.kept filled further⟩
      · have found : member? name (m :: ms) = member? name ms := by
          simp [member?, other]
        rw [found]
        exact ih (same.trans free) further

/-- A field that may not be left out takes the next value of a list. -/
theorem exists_of_place {put : β → δ → δ} {mayEnd : Bool} {fields : List (Field δ)}
    {draft final : δ} {vs : List Value} (needed : mayEnd = false)
    (placed : place (.of name get put r mayEnd :: fields) draft vs = some final) :
    ∃ v rest b, vs = v :: rest ∧ r.take v = some b ∧
      place fields (put b draft) rest = some final := by
  subst needed
  cases vs with
  | nil => simp [place, Field.of] at placed
  | cons v rest =>
      obtain ⟨p, read, placed⟩ := Option.bind_eq_some_iff.1 placed
      rw [Field.of, take_map] at read
      obtain ⟨b, said, rfl⟩ := Option.map_eq_some_iff.1 read
      exact ⟨v, rest, b, rfl, said, placed⟩

theorem eq_of_place_nil {draft final : δ} {vs : List Value}
    (placed : place [] draft vs = some final) : vs = [] ∧ draft = final := by
  cases vs with
  | nil => exact ⟨rfl, Option.some.inj placed⟩
  | cons v vs => cases placed

end Fields

end WhereClause.Json.Record
