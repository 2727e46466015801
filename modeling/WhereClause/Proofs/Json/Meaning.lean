import WhereClause.Json.Record
import WhereClause.Proofs.Json.Skipping

/-!
# Readers go by the tree

A reader means a function of trees when, in front of any mark or of the end of the text, it takes
exactly the tokens of a value and gives what the function says of it, or has a problem when the
function says nothing (`Reader.Means`).  There is one such function at most, and it can be had by
reading the value written without white space (`Reader.take`, `Reader.Means.take_eq`).

Every way of building readers has its way of building these functions, so **what a reader makes
of a text does not depend on the white space in it**.
-/

set_option autoImplicit false

namespace WhereClause.Json

variable {α β : Type}

/-- What reading a value leads to: what it means, with the tokens behind it left, or a problem
when it means nothing. -/
def Leads (result : Scan α) (meaning : Option α) (ts : List Token) : Prop :=
  match meaning with
  | some a => ∃ rest, result = .ok (a, rest) ∧ Spells ts rest
  | none => ∃ p, result = .error p

theorem Leads.map {result : Scan α} {meaning : Option α} {ts : List Token}
    (leads : Leads result meaning ts) (f : α → β) :
    Leads (result.map fun (a, rest) => (f a, rest)) (meaning.map f) ts := by
  cases meaning with
  | none =>
      obtain ⟨p, rfl⟩ := leads
      exact ⟨p, rfl⟩
  | some a =>
      obtain ⟨rest, rfl, spells⟩ := leads
      exact ⟨rest, rfl, spells⟩

/-- What is read behind a first part, which need not be followed up when there is none. -/
theorem Leads.bind {result : Scan α} {meaning : Option α} {ts us : List Token}
    {next : α × List Char → Scan β} {further : α → Option β} (leads : Leads result meaning ts)
    (follows : ∀ a rest, meaning = some a → Spells ts rest →
      Leads (next (a, rest)) (further a) us) :
    Leads (result.bind next) (meaning.bind further) us := by
  cases meaning with
  | none =>
      obtain ⟨p, rfl⟩ := leads
      exact ⟨p, rfl⟩
  | some a =>
      obtain ⟨rest, rfl, spells⟩ := leads
      exact follows a rest rfl spells

namespace Reader

/-- Whether what a reader makes of a value is what a function says of the tree. -/
def Means (r : Reader α) (meaning : Value → Option α) : Prop :=
  ∀ (v : Value) (ts : List Token) (s : List Char), Closed ts → Spells (v.tokens ++ ts) s →
    Leads (r.read s) (meaning v) ts

/-- What a reader makes of a value that is written without white space. -/
def take (r : Reader α) (v : Value) : Option α :=
  (r.read (v.tokens.flatMap Token.written)).toOption.map Prod.fst

end Reader

theorem take_map (f : α → β) (r : Reader α) (v : Value) : (r.map f).take v = (r.take v).map f := by
  unfold Reader.take Reader.map
  simp only
  cases r.read (v.tokens.flatMap Token.written) <;> rfl

theorem spells_flatMap (ts : List Token) : Spells ts (ts.flatMap Token.written) := by
  induction ts with
  | nil => rfl
  | cons t ts ih => exact ⟨[], ts.flatMap Token.written, rfl, rfl, ih⟩

theorem Spells.skipSpace {ts : List Token} {s : List Char} (spells : Spells ts s) :
    Spells ts (skipSpace s) := by
  cases ts with
  | nil =>
      rw [spells.skipSpace_nil]
      rfl
  | cons t ts =>
      obtain ⟨rest, found, further⟩ := spells.skipSpace_eq
      exact ⟨[], rest, found, rfl, further⟩

namespace Reader.Means

variable {r : Reader α} {meaning : Value → Option α}

/-- A reader means one function at most. -/
theorem take_eq (means : r.Means meaning) : r.take = meaning := by
  funext v
  have leads := means v [] (v.tokens.flatMap Token.written) closed_nil
    (by simpa using spells_flatMap v.tokens)
  unfold take
  cases said : meaning v with
  | none =>
      rw [said] at leads
      obtain ⟨p, failed⟩ := leads
      rw [failed]
      rfl
  | some a =>
      rw [said] at leads
      obtain ⟨rest, read, -⟩ := leads
      rw [read]
      rfl

theorem take (means : r.Means meaning) : r.Means r.take := by
  rwa [means.take_eq]

/-- **A document is its value**: what a reader makes of a whole text is what it means of the
tree that the text writes. -/
theorem whole_eq (means : r.Means meaning) {v : Value} {text : String} (written : v.Written text) :
    (r.whole text.toList).toOption = meaning v := by
  have leads := means v [] text.toList closed_nil (by rwa [List.append_nil])
  unfold Reader.whole
  cases said : meaning v with
  | none =>
      rw [said] at leads
      obtain ⟨p, failed⟩ := leads
      rw [failed]
      rfl
  | some a =>
      rw [said] at leads
      obtain ⟨rest, read, blank⟩ := leads
      simp only [read, Spells.skipSpace_nil blank]
      rfl

/-! ## Scalars -/

/-- A reader that goes by the first character of a value. -/
theorem ofFirst {next : Char → List Char → Scan α}
    {shortens : ∀ {c : Char} {s rest : List Char} {a : α},
      next c s = .ok (a, rest) → rest.length ≤ s.length}
    (leads : ∀ {v ts c rest}, Closed ts → v.Opens ts c rest → Spells (v.tokens ++ ts) (c :: rest) →
      Leads (next c rest) (meaning v) ts) : (Reader.ofFirst next @shortens).Means meaning := by
  intro v ts s closed spells
  obtain ⟨c, rest, found, opens⟩ := v.opens_of_spells spells
  have again := spells.skipSpace
  rw [found] at again
  unfold Reader.ofFirst
  simp only [found]
  exact leads closed opens again

theorem map (means : r.Means meaning) (f : α → β) :
    (r.map f).Means fun v => (meaning v).map f :=
  fun v ts s closed spells => (means v ts s closed spells).map f

end Reader.Means

theorem ne_of_isDigit {c d : Char} (digit : c.isDigit = true) (other : d.isDigit = false) :
    c ≠ d := by
  rintro rfl
  rw [digit] at other
  cases other

/-- The text of a value that is one. -/
def Value.text? : Value → Option String
  | .text t => t.value?
  | _ => none

/-- The truth value of a value that is one. -/
def Value.boolean? : Value → Option Bool
  | .boolean b => some b
  | _ => none

/-- What a value that is the word `null` means. -/
def Value.null? : Value → Option Unit
  | .null => some ()
  | _ => none

/-- Reading a string up to its closing quote leads to its value. -/
theorem leads_textFrom (t : Literal) {ts : List Token} {rest : List Char}
    (spells : Spells ts rest) : Leads (textFrom [] (t.body ++ '"' :: rest)) t.value? ts := by
  cases value : t.value? with
  | none => exact textFrom_of_none value rest
  | some text => exact ⟨rest, textFrom_of_value value rest, spells⟩

theorem means_text : Reader.text.Means Value.text? := by
  refine .ofFirst fun closed opens _ => ?_
  cases opens with
  | text spells => exact leads_textFrom _ spells
  | number _ digit _ =>
      rw [if_neg (ne_of_isDigit digit rfl)]
      exact ⟨_, rfl⟩
  | _ => exact ⟨_, rfl⟩

theorem leads_wordFor (letters : List Char) (a : α) {ts : List Token} {rest : List Char}
    (spells : Spells ts rest) : Leads (Reader.wordFor letters a (letters ++ rest)) (some a) ts :=
  ⟨rest, wordFor_append letters rest a, spells⟩

theorem means_boolean : Reader.boolean.Means Value.boolean? := by
  refine .ofFirst fun closed opens _ => ?_
  cases opens with
  | yes spells => exact leads_wordFor ['r', 'u', 'e'] true spells
  | no spells => exact leads_wordFor ['a', 'l', 's', 'e'] false spells
  | number _ digit _ =>
      rw [if_neg (ne_of_isDigit digit rfl), if_neg (ne_of_isDigit digit rfl)]
      exact ⟨_, rfl⟩
  | _ => exact ⟨_, rfl⟩

theorem means_null : Reader.null.Means Value.null? := by
  refine .ofFirst fun closed opens _ => ?_
  cases opens with
  | null spells => exact leads_wordFor ['u', 'l', 'l'] () spells
  | number _ digit _ =>
      rw [if_neg (ne_of_isDigit digit rfl)]
      exact ⟨_, rfl⟩
  | _ => exact ⟨_, rfl⟩

/-- What a value means where `null` stands for no value. -/
def Value.orNull? (meaning : Value → Option α) : Value → Option (Option α)
  | .null => some none
  | v => (meaning v).map some

theorem Reader.Means.orNull {r : Reader α} {meaning : Value → Option α} (means : r.Means meaning) :
    r.orNull.Means (Value.orNull? meaning) := by
  refine .ofFirst fun {v ts c rest} closed opens spells => ?_
  have other := means.map some v ts (c :: rest) closed spells
  cases opens with
  | null further => exact leads_wordFor ['u', 'l', 'l'] none further
  | number _ digit _ =>
      rw [if_neg (ne_of_isDigit digit rfl)]
      exact other
  | _ => exact other

/-- Any value means the same to a reader that passes it over. -/
theorem means_skipped : Reader.skipped.Means fun _ => some () := by
  intro v ts s closed spells
  obtain ⟨rest, passed, spells⟩ := skipValue_tokens v [] ts s closed spells
  refine ⟨rest, ?_, spells⟩
  unfold Reader.skipped
  simp only [passed, skipNext]
  rfl

/-! ## Choices -/

/-- The name that a value gives to a choice. -/
def Value.name? : Value → Option String
  | .text t => t.value?
  | .object [(t, .null)] => t.value?
  | _ => none

theorem Reader.Means.behindColon {r : Reader α} {meaning : Value → Option α}
    (means : r.Means meaning) {v : Value} {ts : List Token} {s : List Char} (closed : Closed ts)
    (spells : Spells (.mark .colon :: (v.tokens ++ ts)) s) :
    Leads (r.behindColon.read s) (meaning v) ts := by
  obtain ⟨rest, found, spells⟩ := spells.skipSpace_mark
  unfold Reader.behindColon
  simp only [skipColon, found, Mark.char, Except.bind]
  exact means v ts rest closed spells

theorem leads_variantFrom (variants : List (String × α)) (t : Literal) {ts : List Token}
    {rest : List Char} (spells : Spells ts rest) :
    Leads (Reader.variantFrom variants (t.body ++ '"' :: rest))
      (t.value?.bind fun name => variants.lookup name) ts := by
  cases value : t.value? with
  | none =>
      obtain ⟨p, failed⟩ := textFrom_of_none value rest
      refine ⟨p, ?_⟩
      rw [Reader.variantFrom, failed]
  | some name =>
      rw [Option.bind_some, Reader.variantFrom, textFrom_of_value value rest]
      simp only [Reader.pick]
      cases variants.lookup name with
      | none => exact ⟨_, rfl⟩
      | some a => exact ⟨rest, rfl, spells⟩

/-- In the braces of a choice stands one name with `null`, and nothing else. -/
theorem name?_bind_cons (t : Literal) (v : Value) (ms : List (Literal × Value))
    (find : String → Option α) :
    (Value.object ((t, v) :: ms)).name?.bind find =
      (t.value?.bind find).bind fun a =>
        v.null?.bind fun _ => if ms = [] then some a else none := by
  cases v with
  | null => cases ms <;> simp [Value.name?, Value.null?]
  | _ => simp [Value.name?, Value.null?]

theorem bracedVariant_quote (variants : List (String × α)) {s rest : List Char}
    (found : skipSpace s = '"' :: rest) :
    Reader.bracedVariant variants s =
      (Reader.variantFrom variants rest).bind fun (a, rest) =>
        (Reader.null.behindColon.read rest).bind fun ((), rest) => Reader.closeChoice a rest := by
  rw [Reader.bracedVariant, found]
  simp only
  split
  · next failed => rw [failed, Except.bind]
  · next name =>
      rw [name, Except.bind]
      split
      · next failed => rw [failed, Except.bind]
      · next value => rw [value, Except.bind]

theorem leads_closeChoice (a : α) (ms : List (Literal × Value)) {ts : List Token}
    {s : List Char} (spells : Spells (Value.furtherMembers ms ++ ts) s) :
    Leads (Reader.closeChoice a s) (if ms = [] then some a else none) ts := by
  unfold Reader.closeChoice
  cases ms with
  | nil =>
      obtain ⟨rest, found, spells⟩ := Spells.skipSpace_mark spells
      rw [found]
      exact ⟨rest, rfl, spells⟩
  | cons m ms =>
      obtain ⟨rest, found, -⟩ := Spells.skipSpace_mark spells
      rw [found]
      exact ⟨_, rfl⟩

theorem leads_bracedVariant (variants : List (String × α)) (ms : List (Literal × Value))
    {ts : List Token} {s : List Char} (spells : Spells (Value.members true ms ++ ts) s) :
    Leads (Reader.bracedVariant variants s)
      ((Value.object ms).name?.bind fun name => variants.lookup name) ts := by
  match ms with
  | [] =>
      obtain ⟨rest, found, spells⟩ := Spells.skipSpace_mark spells
      rw [Reader.bracedVariant, found]
      exact ⟨_, rfl⟩
  | (t, v) :: ms =>
      rw [Value.members, List.cons_append, List.cons_append, List.append_assoc] at spells
      obtain ⟨rest, found, spells⟩ := spells.skipSpace_eq
      rw [Token.written, List.cons_append, List.append_assoc, List.singleton_append] at found
      rw [bracedVariant_quote variants found, name?_bind_cons]
      refine (leads_variantFrom variants t spells).bind fun a rest _ spells => ?_
      refine (means_null.behindColon (closed_furtherMembers ms ts) spells).bind ?_
      exact fun _ rest _ spells => leads_closeChoice a ms spells

theorem means_choice (variants : List (String × α)) :
    (Reader.choice variants).Means fun v => v.name?.bind fun name => variants.lookup name := by
  refine .ofFirst fun closed opens _ => ?_
  cases opens with
  | text spells => exact leads_variantFrom variants _ spells
  | object spells => exact leads_bracedVariant variants _ spells
  | number _ digit _ =>
      rw [if_neg (ne_of_isDigit digit rfl), if_neg (ne_of_isDigit digit rfl)]
      exact ⟨_, rfl⟩
  | _ => exact ⟨_, rfl⟩

/-! ## Lists -/

/-- What a value that is a list means, element by element. -/
def Value.list? (meaning : Value → Option α) : Value → Option (List α)
  | .list vs => vs.mapM meaning
  | _ => none

/-- At the beginning of a list or behind an element there is the end of the list, or else a
further element. -/
theorem nextElement_tokens {first : Bool} {vs : List Value} {ts : List Token} {s : List Char}
    (spells : Spells (Value.elements first vs ++ ts) s) :
    match vs with
    | [] => ∃ rest, nextElement first s = .ok (.stop rest) ∧ Spells ts rest
    | v :: vs => ∃ rest, nextElement first s = .ok (.more rest) ∧
        Spells (v.tokens ++ (Value.furtherElements vs ++ ts)) rest := by
  have bracket {v : Value} {us : List Token} {rest : List Char} : ¬ v.Opens us ']' rest := by
    intro opens
    cases opens with
    | number _ digit _ => cases digit
  match first, vs with
  | true, [] =>
      obtain ⟨rest, found, spells⟩ := Spells.skipSpace_mark spells
      refine ⟨rest, ?_, spells⟩
      rw [nextElement, found]
      rfl
  | false, [] =>
      obtain ⟨rest, found, spells⟩ := Spells.skipSpace_mark spells
      refine ⟨rest, ?_, spells⟩
      rw [nextElement, found]
      rfl
  | true, v :: vs =>
      rw [Value.elements, List.append_assoc] at spells
      obtain ⟨c, rest, found, opens⟩ := v.opens_of_spells spells
      refine ⟨c :: rest, ?_, found ▸ spells.skipSpace⟩
      rw [nextElement, found]
      split
      · next none => cases none
      · next same =>
          cases same
          exact absurd opens bracket
      · next same =>
          cases same
          rfl
  | false, v :: vs =>
      rw [Value.elements, Value.furtherElements, List.cons_append, List.append_assoc] at spells
      obtain ⟨behind, comma, spells⟩ := spells.skipSpace_mark
      obtain ⟨c, rest, found, opens⟩ := v.opens_of_spells spells
      refine ⟨c :: rest, ?_, found ▸ spells.skipSpace⟩
      rw [nextElement, comma]
      show elementBehindComma behind = _
      rw [elementBehindComma, found]
      split
      · next none => cases none
      · next same =>
          cases same
          exact absurd opens bracket
      · next same =>
          cases same
          rfl

theorem elements_eq (r : Reader α) (done : List α) (first : Bool) (s : List Char) :
    r.elements done first s =
      match nextElement first s with
      | .error p => .error p
      | .ok (.stop rest) => .ok (done.reverse, rest)
      | .ok (.more rest) =>
          (r.read rest).bind fun (a, rest) => r.elements (a :: done) false rest := by
  rw [Reader.elements]
  split
  · next turn => simp only [turn]
  · next turn => simp only [turn]
  · next turn =>
      simp only [turn]
      split
      · next failed => simp only [failed, Except.bind]
      · next element => simp only [element, Except.bind]

/-- The elements of a list are read one after another, each as what it means. -/
theorem Reader.Means.elements {r : Reader α} {meaning : Value → Option α} (means : r.Means meaning)
    {vs : List Value} {ts : List Token} (done : List α) {first : Bool} {s : List Char}
    (spells : Spells (Value.elements first vs ++ ts) s) :
    Leads (r.elements done first s) ((vs.mapM meaning).map (done.reverse ++ ·)) ts := by
  induction vs generalizing done first s with
  | nil =>
      obtain ⟨rest, turn, spells⟩ := nextElement_tokens spells
      refine ⟨rest, ?_, spells⟩
      rw [elements_eq, turn]
      simp
  | cons v vs ih =>
      obtain ⟨rest, turn, spells⟩ := nextElement_tokens spells
      rw [elements_eq, turn]
      have element := means v _ rest (closed_furtherElements vs ts) spells
      have others : ((v :: vs).mapM meaning).map (done.reverse ++ ·) =
          (meaning v).bind fun a => (vs.mapM meaning).map ((a :: done).reverse ++ ·) := by
        rw [List.mapM_cons]
        cases meaning v with
        | none => rfl
        | some a => cases vs.mapM meaning <;> simp
      rw [others]
      exact element.bind fun a rest _ spells => ih (a :: done) spells

/-- **A list means the list of what its elements mean.** -/
theorem Reader.Means.listOf {r : Reader α} {meaning : Value → Option α} (means : r.Means meaning) :
    r.listOf.Means (Value.list? meaning) := by
  refine .ofFirst fun {v ts c rest} closed opens _ => ?_
  cases opens with
  | list spells =>
      rw [if_pos rfl]
      simpa [Value.list?] using means.elements [] spells
  | number _ digit _ =>
      rw [if_neg (ne_of_isDigit digit rfl)]
      exact ⟨_, rfl⟩
  | _ => exact ⟨_, rfl⟩

/-! ## Fields -/

section Fields

variable {δ : Type} {name : String} {get : δ → Option β} {put : β → δ → δ} {r : Reader β}
  {mayEnd : Bool}

/-- Whether a function of drafts is one that a field reads. -/
def Field.Puts (f : Field δ) (put : δ → δ) : Prop := ∃ v, f.reader.take v = some put

theorem Field.Puts.exists_eq {p : δ → δ} (puts : (Field.of name get put r mayEnd).Puts p) :
    ∃ b, p = put b := by
  obtain ⟨v, said⟩ := puts
  rw [Field.of, take_map] at said
  obtain ⟨b, -, rfl⟩ := Option.map_eq_some_iff.1 said
  exact ⟨b, rfl⟩

/-- A field goes by the tree when its values do. -/
theorem Field.means_of {meaning : Value → Option β} (means : r.Means meaning) :
    (Field.of name get put r mayEnd).reader.Means (Field.of name get put r mayEnd).reader.take :=
  (means.map put).take

end Fields

end WhereClause.Json
