import WhereClause.Json.Strict
import WhereClause.Proofs.Json.Existence
import WhereClause.Proofs.Json.Record

/-!
# What is read is a tree

A reader finds values when whatever it reads begins with the tokens of a tree (`Reader.Finds`).
Every way of building readers keeps this, records (`Record.finds_reader`) and values of any type
(`finds_strict`) included, so a reader takes nothing that the grammar does not allow: **a whole
text that is read is written by a tree** (`Reader.Finds.exists_written`).
-/

set_option autoImplicit false

namespace WhereClause.Json

variable {α β δ : Type}

/-- Whether whatever a reader reads is a value. -/
def Reader.Finds (r : Reader α) : Prop :=
  ∀ ⦃s rest : List Char⦄ ⦃a : α⦄, r.read s = .ok (a, rest) → ∃ v : Value, Begins v.tokens s rest

namespace Reader.Finds

/-- A whole text that is read is written by a tree. -/
theorem exists_written {r : Reader α} (finds : r.Finds) {text : String} {a : α}
    (read : r.whole text.toList = .ok a) : ∃ v : Value, v.Written text := by
  unfold Reader.whole at read
  split at read
  · cases read
  · next b rest found =>
      split at read
      · next ended =>
          obtain ⟨v, begins⟩ := finds found
          refine ⟨v, begins.spells ?_⟩
          rw [skipSpace, List.isEmpty_iff, List.dropWhile_eq_nil_iff] at ended
          exact List.all_eq_true.2 ended
      · cases read

/-- A reader that goes by the first character of a value. -/
theorem ofFirst {next : Char → List Char → Scan α}
    {shortens : ∀ {c : Char} {s rest : List Char} {a : α},
      next c s = .ok (a, rest) → rest.length ≤ s.length}
    (found : ∀ {c s rest a}, next c s = .ok (a, rest) →
      ∃ v : Value, Begins v.tokens (c :: s) rest) : (Reader.ofFirst next @shortens).Finds := by
  intro s rest a read
  unfold Reader.ofFirst at read
  simp only at read
  split at read
  · cases read
  · next c more first =>
      obtain ⟨v, begins⟩ := found read
      rw [← first] at begins
      exact ⟨v, begins.value_of_skipSpace⟩

theorem map {r : Reader α} (finds : r.Finds) (f : α → β) : (r.map f).Finds := by
  intro s rest b read
  obtain ⟨⟨a, behind⟩, found, same⟩ := exists_of_map read
  cases same
  exact finds found

theorem behindColon {r : Reader α} (finds : r.Finds) {s rest : List Char} {a : α}
    (read : r.behindColon.read s = .ok (a, rest)) :
    ∃ v : Value, Begins (.mark .colon :: v.tokens) s rest := by
  obtain ⟨behind, colon, read⟩ := exists_of_bind read
  obtain ⟨v, begins⟩ := finds read
  exact ⟨v, .cons (skipSpace_of_skipColon colon) begins⟩

end Reader.Finds

/-! ## Scalars -/

theorem begins_text {c : Char} {t : Literal} {rest : List Char} (quote : c = '"') :
    Begins (Value.text t).tokens (c :: (t.body ++ '"' :: rest)) rest :=
  ⟨[], rest, by simp [quote, Token.written], rfl, rfl⟩

theorem finds_text : Reader.text.Finds := by
  refine .ofFirst fun {c s rest a} read => ?_
  split at read
  · next quote =>
      obtain ⟨t, rfl⟩ := exists_of_textFrom read
      exact ⟨.text t, begins_text quote⟩
  · cases read

theorem finds_boolean : Reader.boolean.Finds := by
  refine .ofFirst fun {c s rest a} read => ?_
  split at read
  · next yes =>
      obtain rfl := eq_of_wordFor read
      exact ⟨.boolean true, [], rest, yes ▸ rfl, rfl, rfl⟩
  · split at read
    · next no =>
        obtain rfl := eq_of_wordFor read
        exact ⟨.boolean false, [], rest, no ▸ rfl, rfl, rfl⟩
    · cases read

theorem begins_null {c : Char} {s rest : List Char} {a b : α} (first : c = 'n')
    (read : Reader.wordFor ['u', 'l', 'l'] a s = .ok (b, rest)) :
    Begins Value.null.tokens (c :: s) rest := by
  obtain rfl := eq_of_wordFor read
  exact ⟨[], rest, first ▸ rfl, rfl, rfl⟩

theorem finds_null : Reader.null.Finds := by
  refine .ofFirst fun {c s rest a} read => ?_
  split at read
  · next first => exact ⟨.null, begins_null first read⟩
  · cases read

theorem Reader.Finds.orNull {r : Reader α} (finds : r.Finds) : r.orNull.Finds := by
  refine .ofFirst fun {c s rest a} read => ?_
  split at read
  · next first => exact ⟨.null, begins_null first read⟩
  · exact finds.map some read

theorem finds_skipped : Reader.skipped.Finds := by
  intro s rest a read
  obtain ⟨behind, passed, same⟩ := exists_of_map read
  cases same
  exact exists_of_skipValue passed

/-! ## Choices -/

theorem exists_of_variantFrom {variants : List (String × α)} {s rest : List Char} {a : α}
    (read : Reader.variantFrom variants s = .ok (a, rest)) :
    ∃ t : Literal, s = t.body ++ '"' :: rest := by
  unfold Reader.variantFrom at read
  split at read
  · cases read
  · next name behind found =>
      obtain ⟨b, -, same⟩ := exists_of_map read
      cases same
      exact exists_of_textFrom found

theorem skipSpace_of_closeChoice {s rest : List Char} {a b : α}
    (read : Reader.closeChoice a s = .ok (b, rest)) : skipSpace s = '\x7d' :: rest := by
  unfold Reader.closeChoice at read
  split at read
  · cases read
  · next found =>
      cases read
      exact found
  · cases read

/-- A choice in braces is found as the members of an object, the first of which begins with a
quote. -/
theorem exists_of_bracedVariant {variants : List (String × α)} {s rest : List Char} {a : α}
    (read : Reader.bracedVariant variants s = .ok (a, rest)) :
    ∃ ms, Begins (Value.members true ms) s rest := by
  cases found : skipSpace s with
  | nil => simp [Reader.bracedVariant, found] at read
  | cons c more =>
      by_cases quote : c = '"'
      · subst quote
        rw [bracedVariant_quote variants found] at read
        obtain ⟨⟨b, behind⟩, name, further⟩ := exists_of_bind read
        obtain ⟨⟨⟨⟩, last⟩, value, closed⟩ := exists_of_bind further
        obtain ⟨t, rfl⟩ := exists_of_variantFrom name
        obtain ⟨v, begins⟩ := finds_null.behindColon value
        have brace : Begins (Value.furtherMembers []) last rest :=
          .cons (skipSpace_of_closeChoice closed) rfl
        refine ⟨[(t, v)], .cons ?_ (begins.append brace)⟩
        rw [found]
        simp [Token.written]
      · unfold Reader.bracedVariant at read
        rw [found] at read
        split at read
        · cases read
        · next same => exact absurd (List.cons.inj same).1 quote
        · cases read
        · cases read

theorem begins_object {c : Char} {s rest : List Char} {ms : List (Literal × Value)}
    (brace : c = '\x7b') (begins : Begins (Value.members true ms) s rest) :
    Begins (Value.object ms).tokens (c :: s) rest := by
  rw [Value.tokens_object]
  exact ⟨[], s, brace ▸ rfl, rfl, begins⟩

theorem finds_choice (variants : List (String × α)) : (Reader.choice variants).Finds := by
  refine .ofFirst fun {c s rest a} read => ?_
  split at read
  · next quote =>
      obtain ⟨t, rfl⟩ := exists_of_variantFrom read
      exact ⟨.text t, begins_text quote⟩
  · split at read
    · next brace =>
        obtain ⟨ms, begins⟩ := exists_of_bracedVariant read
        exact ⟨.object ms, begins_object brace begins⟩
    · cases read

/-! ## Lists -/

theorem begins_of_nextElement_stop {first : Bool} {s rest : List Char}
    (turn : nextElement first s = .ok (.stop rest)) : Begins (Value.elements first []) s rest := by
  unfold nextElement at turn
  split at turn
  · cases turn
  · next found =>
      cases turn
      cases first <;> exact .cons found rfl
  · split at turn
    · cases turn
    · split at turn
      · unfold elementBehindComma at turn
        split at turn <;> cases turn
      · cases turn

theorem begins_of_nextElement_more {first : Bool} {s rest more final : List Char} {v : Value}
    {vs : List Value} (turn : nextElement first s = .ok (.more rest))
    (element : Begins v.tokens rest more) (others : Begins (Value.elements false vs) more final) :
    Begins (Value.elements first (v :: vs)) s final := by
  unfold nextElement at turn
  split at turn
  · cases turn
  · cases turn
  · next c behind _ found =>
      cases first with
      | true =>
          cases turn
          rw [← found] at element
          exact element.value_of_skipSpace.append others
      | false =>
          simp only [Bool.false_eq_true, if_false] at turn
          split at turn
          · next comma =>
              unfold elementBehindComma at turn
              split at turn
              · cases turn
              · cases turn
              · next found' =>
                  cases turn
                  rw [← found'] at element
                  subst comma
                  exact .cons found (element.value_of_skipSpace.append others)
          · cases turn

theorem Reader.Finds.elements {r : Reader α} (finds : r.Finds) {done as : List α} {first : Bool}
    {s rest : List Char} (read : r.elements done first s = .ok (as, rest)) :
    ∃ vs, Begins (Value.elements first vs) s rest := by
  fun_induction r.elements done first s with
  | case1 => cases read
  | case2 done first s behind turn =>
      cases read
      exact ⟨[], begins_of_nextElement_stop turn⟩
  | case3 => cases read
  | case4 done first s t turn a u element ih =>
      obtain ⟨v, begins⟩ := finds element
      obtain ⟨vs, others⟩ := ih read
      exact ⟨v :: vs, begins_of_nextElement_more turn begins others⟩

theorem begins_list {c : Char} {s rest : List Char} {vs : List Value} (bracket : c = '[')
    (begins : Begins (Value.elements true vs) s rest) :
    Begins (Value.list vs).tokens (c :: s) rest := by
  rw [Value.tokens_list]
  exact ⟨[], s, bracket ▸ rfl, rfl, begins⟩

theorem Reader.Finds.listOf {r : Reader α} (finds : r.Finds) : r.listOf.Finds := by
  refine .ofFirst fun {c s rest a} read => ?_
  split at read
  · next bracket =>
      obtain ⟨vs, begins⟩ := finds.elements read
      exact ⟨.list vs, begins_list bracket begins⟩
  · cases read

/-! ## Records -/

/-- A field finds values when its reader does. -/
theorem Field.finds_of {r : Reader β} (finds : r.Finds) {name : String} {get : δ → Option β}
    {put : β → δ → δ} {mayEnd : Bool} : (Field.of name get put r mayEnd).reader.Finds :=
  finds.map put

theorem finds_passOver (name : String) : (passOver name : Reader (δ → δ)).Finds :=
  finds_skipped.map fun _ => id

namespace Record

theorem begins_of_nextKey_stop {first : Bool} {s rest : List Char}
    (turn : nextKey first s = .ok (.stop rest)) : Begins (Value.members first []) s rest := by
  unfold nextKey at turn
  split at turn
  · cases turn
  · next found =>
      cases turn
      cases first <;> exact .cons found rfl
  · split at turn
    · split at turn <;> cases turn
    · split at turn
      · unfold keyBehindComma at turn
        split at turn <;> cases turn
      · cases turn

theorem begins_of_nextKey_more {first : Bool} {t : Literal} {v : Value}
    {ms : List (Literal × Value)} {s rest more final : List Char}
    (turn : nextKey first s = .ok (.more (t.body ++ '"' :: rest)))
    (value : Begins (.mark .colon :: v.tokens) rest more)
    (others : Begins (Value.members false ms) more final) :
    Begins (Value.members first ((t, v) :: ms)) s final := by
  have key {s : List Char} (quote : skipSpace s = '"' :: (t.body ++ '"' :: rest)) :
      Begins (.text t :: (.mark .colon :: (v.tokens ++ Value.furtherMembers ms))) s final :=
    .cons (by simp [quote, Token.written]) (value.append others)
  unfold nextKey at turn
  split at turn
  · cases turn
  · cases turn
  · next c behind _ found =>
      cases first with
      | true =>
          simp only [if_true] at turn
          split at turn
          · next quote =>
              cases turn
              exact key (quote ▸ found)
          · cases turn
      | false =>
          simp only [Bool.false_eq_true, if_false] at turn
          split at turn
          · next comma =>
              unfold keyBehindComma at turn
              split at turn
              · cases turn
              · next quote =>
                  cases turn
                  subst comma
                  exact .cons found (key quote)
              · cases turn
              · cases turn
          · cases turn

/-- Whether whatever the fields of a record and its other members read is a value. -/
structure FindsParts (record : Record δ α) : Prop where
  field : ∀ f ∈ record.fields, f.reader.Finds
  other : ∀ name, (record.other name).Finds

theorem FindsParts.member {record : Record δ α} (parts : record.FindsParts) {draft : δ}
    {name : String} {reader : Reader δ} (called : record.member draft name = .ok reader)
    {s rest : List Char} {next : δ} (read : reader.read s = .ok (next, rest)) :
    ∃ v : Value, Begins (.mark .colon :: v.tokens) s rest := by
  unfold Record.member at called
  split at called
  · next f known =>
      split at called
      · cases called
      · cases called
        obtain ⟨⟨put, behind⟩, value, same⟩ := exists_of_map read
        cases same
        exact (parts.field f (List.mem_of_find?_eq_some known)).behindColon value
  · cases called
    obtain ⟨⟨put, behind⟩, value, same⟩ := exists_of_map read
    cases same
    exact (parts.other name).behindColon value

theorem FindsParts.members {record : Record δ α} (parts : record.FindsParts) {draft final : δ}
    {first : Bool} {s rest : List Char} (read : record.members draft first s = .ok (final, rest)) :
    ∃ ms, Begins (Value.members first ms) s rest := by
  fun_induction record.members draft first s with
  | case1 => cases read
  | case2 draft first s behind turn =>
      cases read
      exact ⟨[], begins_of_nextKey_stop turn⟩
  | case3 => cases read
  | case4 => cases read
  | case5 => cases read
  | case6 draft first s t turn name u key reader called next w value ih =>
      obtain ⟨t, rfl⟩ := exists_of_textFrom key
      obtain ⟨v, begins⟩ := parts.member called value
      obtain ⟨ms, others⟩ := ih read
      exact ⟨(t, v) :: ms, begins_of_nextKey_more turn begins others⟩

theorem begins_of_closeList {first : Bool} {draft final : δ} {s rest : List Char}
    (read : closeList draft s = .ok (final, rest)) : Begins (Value.elements first []) s rest := by
  unfold closeList at read
  split at read
  · cases read
  · next found =>
      cases read
      cases first <;> exact .cons found rfl
  · split at read <;> cases read
  · cases read

theorem exists_of_listedFields {record : Record δ α} {fields : List (Field δ)}
    (finds : ∀ f ∈ fields, f.reader.Finds) {draft final : δ} {place : Nat} {s rest : List Char}
    (read : record.listedFields draft place s fields = .ok (final, rest)) :
    ∃ vs, Begins (Value.elements (place == 0) vs) s rest := by
  induction fields generalizing draft place s with
  | nil => exact ⟨[], begins_of_closeList read⟩
  | cons f fields ih =>
      rw [listedFields_cons] at read
      split at read
      · cases read
      · next turn =>
          obtain ⟨d, -, same⟩ := exists_of_map read
          cases same
          exact ⟨[], begins_of_nextElement_stop turn⟩
      · next turn =>
          obtain ⟨⟨put, behind⟩, element, further⟩ := exists_of_bind read
          obtain ⟨v, begins⟩ := finds f List.mem_cons_self element
          obtain ⟨vs, others⟩ := ih (fun g known => finds g (List.mem_cons_of_mem f known)) further
          exact ⟨v :: vs, begins_of_nextElement_more turn begins others⟩

theorem exists_of_finished {record : Record δ α} {read : Scan δ} {rest : List Char} {a : α}
    (finished : record.finished read = .ok (a, rest)) : ∃ draft, read = .ok (draft, rest) := by
  cases read with
  | error p => cases finished
  | ok pair =>
      obtain ⟨b, -, same⟩ := exists_of_map finished
      cases same
      exact ⟨pair.1, rfl⟩

/-- **A record finds values** when its fields and its reader of other members do. -/
theorem finds_reader {record : Record δ α} (parts : record.FindsParts) : record.reader.Finds := by
  refine .ofFirst fun {c s rest a} read => ?_
  split at read
  · next brace =>
      obtain ⟨draft, read⟩ := exists_of_finished read
      obtain ⟨ms, begins⟩ := parts.members read
      exact ⟨.object ms, begins_object brace begins⟩
  · split at read
    · next bracket =>
        obtain ⟨draft, read⟩ := exists_of_finished read
        obtain ⟨vs, begins⟩ := exists_of_listedFields parts.field read
        exact ⟨.list vs, begins_list bracket.1 begins⟩
    · cases read

end Record

/-! ## Kept values -/

theorem begins_scalar {c : Char} {s rest : List Char} {u : Unit}
    (read : scalar c s = .ok (u, rest)) : ∃ v : Value, Begins v.tokens (c :: s) rest := by
  unfold scalar at read
  split at read
  · exact ⟨.null, begins_null rfl read⟩
  · obtain rfl := eq_of_wordFor read
    exact ⟨.boolean true, [], rest, rfl, rfl, rfl⟩
  · obtain rfl := eq_of_wordFor read
    exact ⟨.boolean false, [], rest, rfl, rfl, rfl⟩
  · obtain ⟨⟨text, behind⟩, read, same⟩ := exists_of_map read
    cases same
    obtain ⟨t, rfl⟩ := exists_of_textFrom read
    exact ⟨.text t, begins_text rfl⟩
  · obtain ⟨⟨value, behind⟩, read, same⟩ := exists_of_map read
    cases same
    obtain ⟨n, negative, rfl⟩ := exists_of_skipNumber (skipNumber_of_number read) true
    exact ⟨.number n, [], rest, by simp [Token.written, Numeral.text, negative], rfl, rfl⟩
  · split at read
    · obtain ⟨⟨value, behind⟩, read, same⟩ := exists_of_map read
      cases same
      obtain ⟨n, negative, found⟩ := exists_of_skipNumber (skipNumber_of_number read) false
      refine ⟨.number n, [], rest, ?_, rfl, rfl⟩
      simp [Token.written, Numeral.text, negative, found]
    · cases read

/-- **A reader of values of any type finds values.** -/
theorem finds_strict (levels : Nat) : (Reader.strict levels).Finds := by
  induction levels with
  | zero =>
      refine .ofFirst fun {c s rest a} read => ?_
      split at read
      · cases read
      · exact begins_scalar read
  | succ levels ih =>
      refine .ofFirst fun {c s rest a} read => ?_
      split at read
      · next bracket =>
          obtain ⟨⟨as, behind⟩, read, same⟩ := exists_of_map read
          cases same
          obtain ⟨vs, begins⟩ := ih.elements read
          exact ⟨.list vs, begins_list bracket begins⟩
      · split at read
        · next brace =>
            have parts : (Record.ofMembers (Reader.strict levels)).FindsParts :=
              { field := fun _ known => by cases known
                other := fun _ => ih.map fun _ => id }
            obtain ⟨ms, begins⟩ := parts.members read
            exact ⟨.object ms, begins_object brace begins⟩
        · exact begins_scalar read

end WhereClause.Json
