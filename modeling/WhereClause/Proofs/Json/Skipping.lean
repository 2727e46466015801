import WhereClause.Proofs.Json.Value

/-!
# Any value can be passed over

Passing over a value asks for the grammar only: numbers may be of any size and strings may have
no value.  A number ends where what follows cannot continue it (`skipNumber_magnitude`), which
holds in front of every mark and at the end of the text (`Closed.endsNumber`).

**Passing over a value takes exactly its tokens**, whatever brackets are still open around it
(`skipValue_tokens`), by induction over the tree.
-/

set_option autoImplicit false

namespace WhereClause.Json

/-! ## Numbers -/

/-- A text that does not go on with a number. -/
def EndsNumber (rest : List Char) : Prop :=
  ∀ c ∈ rest.head?, c.isDigit = false ∧ c ≠ '.' ∧ c ≠ 'e' ∧ c ≠ 'E'

/-- The digits at the front of a text. -/
theorem dropWhile_digits {digits more : List Char} (all : digits.all Char.isDigit = true)
    (ends : ∀ c ∈ more.head?, c.isDigit = false) :
    (digits ++ more).dropWhile Char.isDigit = more := by
  rw [List.dropWhile_append_of_pos (List.all_eq_true.1 all)]
  cases more with
  | nil => rfl
  | cons c more => rw [List.dropWhile_cons, if_neg (by simp [ends c rfl])]

theorem skipDigits_text (d : Digits) {more : List Char}
    (ends : ∀ c ∈ more.head?, c.isDigit = false) : skipDigits (d.text ++ more) = .ok more := by
  rw [Digits.text, List.cons_append, skipDigits, if_pos d.isDigit_first,
    dropWhile_digits d.isDigit_rest ends]

/-- A sign is told apart from the digits behind it. -/
theorem sign_digits (sign : Option Sign) (d : Digits) (more : List Char) :
    Decimal.sign (Sign.text sign ++ (d.text ++ more)) = (Sign.isMinus sign, d.text ++ more) := by
  have digit := d.isDigit_first
  cases sign with
  | none =>
      show Decimal.sign (d.first :: (d.rest ++ more)) = (false, d.first :: (d.rest ++ more))
      unfold Decimal.sign
      split
      · next minus =>
          rw [(List.cons.inj minus).1] at digit
          cases digit
      · next plus =>
          rw [(List.cons.inj plus).1] at digit
          cases digit
      · rfl
  | some sign =>
      cases sign with
      | plus => rfl
      | minus => rfl

/-- A power of ten, if there is one, is passed over up to what ends the number. -/
theorem skipPower_text (power : Option Power) {rest : List Char} (ends : EndsNumber rest) :
    skipPower (power.elim [] Power.text ++ rest) = .ok rest := by
  cases power with
  | none =>
      cases rest with
      | nil => rfl
      | cons c rest =>
          obtain ⟨-, -, small, capital⟩ := ends c rfl
          rw [Option.elim_none, List.nil_append, skipPower, if_neg (by simp [small, capital])]
  | some p =>
      have mark : (if p.capital then 'E' else 'e') = 'e' ∨
          (if p.capital then 'E' else 'e') = 'E' := by
        cases p.capital <;> simp
      have digits : ∀ c ∈ rest.head?, c.isDigit = false := fun c here => (ends c here).1
      rw [Option.elim_some, Power.text, List.cons_append, skipPower, if_pos mark,
        List.append_assoc, sign_digits, skipDigits_text p.digits digits]

/-- What may stand behind the whole part of a number does not begin with a digit. -/
theorem power_head (power : Option Power) {rest : List Char} (ends : EndsNumber rest) :
    ∀ c ∈ (power.elim [] Power.text ++ rest).head?, c.isDigit = false ∧ c ≠ '.' := by
  cases power with
  | none => exact fun c here => ⟨(ends c here).1, (ends c here).2.1⟩
  | some p =>
      intro c here
      obtain rfl : (if p.capital then 'E' else 'e') = c := by simpa [Power.text] using here
      cases p.capital <;> decide

theorem skipAfterWhole_tail (n : Numeral) {rest : List Char} (ends : EndsNumber rest) :
    skipAfterWhole (n.tail ++ rest) = .ok rest := by
  have head := power_head n.power ends
  have power := skipPower_text n.power ends
  unfold Numeral.tail
  cases n.fraction with
  | none =>
      rw [Option.elim_none, List.nil_append]
      unfold skipAfterWhole
      split
      · next point =>
          rw [point] at head
          exact absurd rfl (head '.' rfl).2
      · exact power
  | some d =>
      rw [Option.elim_some, List.append_assoc, List.cons_append, skipAfterWhole,
        skipDigits_text d fun c here => (head c here).1]
      exact power

theorem tail_head (n : Numeral) {rest : List Char} (ends : EndsNumber rest) :
    ∀ c ∈ (n.tail ++ rest).head?, c.isDigit = false := by
  unfold Numeral.tail
  cases n.fraction with
  | none => exact fun c here => (power_head n.power ends c (by simpa using here)).1
  | some d =>
      intro c here
      obtain rfl : '.' = c := by simpa using here
      rfl

/-- **A number is passed over up to what ends it.** -/
theorem skipNumber_magnitude (n : Numeral) {rest : List Char} (ends : EndsNumber rest) :
    skipNumber (n.magnitude ++ rest) = .ok rest := by
  have head := tail_head n ends
  have tail := skipAfterWhole_tail n ends
  have digit := n.whole.isDigit_first
  have written : n.magnitude ++ rest = n.whole.first :: (n.whole.rest ++ (n.tail ++ rest)) := by
    simp [Numeral.magnitude, Digits.text]
  rw [written]
  by_cases zero : n.whole.first = '0'
  · rw [zero, n.noLeadingZero zero, List.nil_append]
    cases found : n.tail ++ rest with
    | nil =>
        rw [found] at tail
        exact tail
    | cons c more =>
        rw [found] at head tail
        have other : ¬ c.isDigit = true := by simp [head c rfl]
        exact (if_neg other).trans tail
  · unfold skipNumber
    split
    · next none => cases none
    · next leading => exact absurd (List.cons.inj leading).1 zero
    · next same =>
        cases same
        rw [if_pos digit, dropWhile_digits n.whole.isDigit_rest head]
        exact tail

/-! ## What follows a value -/

/-- What may follow a value: a mark, or nothing. -/
def Closed (ts : List Token) : Prop := ∀ t ∈ ts.head?, ∃ m, t = .mark m

theorem closed_nil : Closed [] := by
  intro t here
  cases here

theorem closed_mark (m : Mark) (ts : List Token) : Closed (.mark m :: ts) := by
  intro t here
  exact ⟨m, (Option.some.inj here).symm⟩

theorem closed_furtherElements (vs : List Value) (ts : List Token) :
    Closed (Value.furtherElements vs ++ ts) := by
  cases vs with
  | nil => exact closed_mark .closeList ts
  | cons v vs => exact closed_mark .comma _

theorem closed_furtherMembers (ms : List (Literal × Value)) (ts : List Token) :
    Closed (Value.furtherMembers ms ++ ts) := by
  cases ms with
  | nil => exact closed_mark .closeObject ts
  | cons m ms => exact closed_mark .comma _

/-- What may follow a value ends a number. -/
theorem Closed.endsNumber {ts : List Token} {s : List Char} (closed : Closed ts)
    (spells : Spells ts s) : EndsNumber s := by
  have space {c : Char} (blank : isSpace c = true) :
      c.isDigit = false ∧ c ≠ '.' ∧ c ≠ 'e' ∧ c ≠ 'E' := by
    simp only [isSpace, Bool.or_eq_true, beq_iff_eq] at blank
    rcases blank with ((rfl | rfl) | rfl) | rfl <;> decide
  cases ts with
  | nil =>
      intro c here
      have blank : s.all isSpace = true := spells
      exact space (List.all_eq_true.1 blank c (List.mem_of_mem_head? here))
  | cons t ts =>
      obtain ⟨m, rfl⟩ := closed t rfl
      obtain ⟨gap, rest, rfl, blank, -⟩ := spells
      cases gap with
      | nil =>
          intro c here
          obtain rfl : m.char = c := by simpa [Token.written] using here
          cases m <;> decide
      | cons d gap =>
          intro c here
          obtain rfl : d = c := by simpa using here
          exact space (List.all_eq_true.1 blank d List.mem_cons_self)

/-! ## Scalars and keys -/

/-- A scalar is passed over up to what follows it. -/
theorem skipScalar_of_opens {v : Value} {ts : List Token} {c : Char} {rest : List Char}
    (opens : v.Opens ts c rest) (scalar : v.IsScalar) (closed : Closed ts) :
    ∃ further, skipScalar (c :: rest) = .ok further ∧ Spells ts further := by
  cases opens with
  | null spells => exact ⟨_, word_append _ _, spells⟩
  | yes spells => exact ⟨_, word_append _ _, spells⟩
  | no spells => exact ⟨_, word_append _ _, spells⟩
  | negative spells => exact ⟨_, skipNumber_magnitude _ (closed.endsNumber spells), spells⟩
  | @number n _ _ further spells digit written =>
      refine ⟨further, ?_, spells⟩
      have passed := skipNumber_magnitude n (closed.endsNumber spells)
      rw [← written] at passed
      unfold skipScalar
      split
      · next none => cases none
      iterate 5
        next same =>
          rw [(List.cons.inj same).1] at digit
          cases digit
      · next same =>
          cases same
          rw [if_pos digit]
          exact passed
  | text spells => exact ⟨_, skipText_literal _ _, spells⟩
  | list spells => exact scalar.elim
  | object spells => exact scalar.elim

/-- A key and its colon are passed over, whether the key has a value or not. -/
theorem skipKey_tokens {name : Literal} {ts : List Token} {s : List Char}
    (spells : Spells (.text name :: .mark .colon :: ts) s) :
    ∃ rest, skipKey s = .ok rest ∧ Spells ts rest := by
  obtain ⟨behind, key, spells⟩ := spells.skipSpace_eq
  obtain ⟨rest, colon, spells⟩ := spells.skipSpace_eq
  rw [Token.written, List.cons_append, List.append_assoc] at key
  refine ⟨rest, ?_, spells⟩
  have text := skipText_literal name behind
  simp only [skipKey, key, List.singleton_append, text, Except.bind, skipColon, colon]
  rfl

/-! ## Values -/

/-- Passing over a value goes by its first character, and in a list or an object by the first
one inside. -/
theorem skipValue_eq (nest : List Bracket) (s : List Char) :
    skipValue nest s =
      match skipSpace s with
      | [] => .error (.ended .value)
      | '[' :: rest =>
          match skipSpace rest with
          | [] => .error (.ended .list)
          | ']' :: rest => skipNext nest rest
          | c :: rest => skipValue (.list :: nest) (c :: rest)
      | '\x7b' :: rest =>
          match skipSpace rest with
          | [] => .error (.ended .object)
          | '\x7d' :: rest => skipNext nest rest
          | c :: rest => (skipKey (c :: rest)).bind (skipValue (.object :: nest))
      | c :: rest => (skipScalar (c :: rest)).bind (skipNext nest) := by
  rw [skipValue]
  split
  · next found => simp only [found]
  · next found =>
      simp only [found]
      split
      · next inner => simp only [inner]
      · next inner => simp only [inner]
      · next inner => simp only [inner]
  · next found =>
      simp only [found]
      split
      · next inner => simp only [inner]
      · next inner => simp only [inner]
      · next inner =>
          simp only [inner]
          split
          · next key => simp only [key, Except.bind]
          · next key => simp only [key, Except.bind]
  · next found =>
      simp only [found]
      split
      · next scalar => simp only [scalar, Except.bind]
      · next scalar => simp only [scalar, Except.bind]

theorem skipNext_list (nest : List Bracket) (s : List Char) :
    skipNext (.list :: nest) s =
      match skipSpace s with
      | [] => .error (.ended .list)
      | ',' :: rest => skipValue (.list :: nest) rest
      | ']' :: rest => skipNext nest rest
      | _ => .error .expectedListCommaOrEnd := by
  rw [skipNext]
  split
  · next found => simp only [found]
  · next found => simp only [found]
  · next found => simp only [found]
  · next ended comma close =>
      split
      · next found => exact (ended found).elim
      · next found => exact (comma _ found).elim
      · next found => exact (close _ found).elim
      · rfl

theorem skipNext_object (nest : List Bracket) (s : List Char) :
    skipNext (.object :: nest) s =
      match skipSpace s with
      | [] => .error (.ended .object)
      | ',' :: rest => (skipKey rest).bind (skipValue (.object :: nest))
      | '\x7d' :: rest => skipNext nest rest
      | _ => .error .expectedObjectCommaOrEnd := by
  rw [skipNext]
  split
  · next found => simp only [found]
  · next found =>
      simp only [found]
      split
      · next key => simp only [key, Except.bind]
      · next key => simp only [key, Except.bind]
  · next found => simp only [found]
  · next ended comma close =>
      split
      · next found => exact (ended found).elim
      · next found => exact (comma _ found).elim
      · next found => exact (close _ found).elim
      · rfl

/-- A scalar is passed over, and what follows it is next. -/
theorem skipValue_scalar {v : Value} {ts : List Token} {s : List Char} (nest : List Bracket)
    (scalar : v.IsScalar) (spells : Spells (v.tokens ++ ts) s) (closed : Closed ts) :
    ∃ rest, skipValue nest s = skipNext nest rest ∧ Spells ts rest := by
  obtain ⟨c, behind, found, opens⟩ := v.opens_of_spells spells
  obtain ⟨rest, passed, spells⟩ := skipScalar_of_opens opens scalar closed
  refine ⟨rest, ?_, spells⟩
  obtain ⟨list, object⟩ := opens.ne_bracket scalar
  rw [skipValue_eq, found]
  split
  · next none => cases none
  · next same => exact absurd (List.cons.inj same).1 list
  · next same => exact absurd (List.cons.inj same).1 object
  · next same =>
      cases same
      rw [passed]
      rfl

theorem skipValue_skipSpace (nest : List Bracket) (s : List Char) :
    skipValue nest (skipSpace s) = skipValue nest s := by
  rw [skipValue_eq, skipSpace_skipSpace, ← skipValue_eq]

/-- Behind the bracket of a list that is not empty stands its first element. -/
theorem skipValue_list {v : Value} {ts : List Token} {s rest : List Char} (nest : List Bracket)
    (found : skipSpace s = '[' :: rest) (spells : Spells (v.tokens ++ ts) rest) :
    skipValue nest s = skipValue (.list :: nest) rest := by
  obtain ⟨c, behind, inner, opens⟩ := v.opens_of_spells spells
  rw [← skipValue_skipSpace _ rest, skipValue_eq, found]
  simp only [inner]
  split
  · next none => cases none
  · next same =>
      cases same
      cases opens with
      | number _ digit _ => cases digit
  · next same =>
      cases same
      rfl

/-- Behind the brace of an object that is not empty stands its first key. -/
theorem skipValue_object {name : Literal} {ts : List Token} {s rest : List Char}
    (nest : List Bracket) (found : skipSpace s = '\x7b' :: rest)
    (spells : Spells (.text name :: ts) rest) :
    skipValue nest s = (skipKey rest).bind (skipValue (.object :: nest)) := by
  obtain ⟨behind, inner, -⟩ := spells.skipSpace_eq
  have key : skipKey (skipSpace rest) = skipKey rest := by
    rw [skipKey, skipSpace_skipSpace, ← skipKey]
  rw [← key, skipValue_eq, found]
  simp only [inner]
  rfl

mutual
/-- **Passing over a value takes exactly its tokens**, whatever brackets are open around it. -/
theorem skipValue_tokens (v : Value) (nest : List Bracket) (ts : List Token) (s : List Char)
    (closed : Closed ts) (spells : Spells (v.tokens ++ ts) s) :
    ∃ rest, skipValue nest s = skipNext nest rest ∧ Spells ts rest := by
  match v with
  | .null => exact skipValue_scalar nest (v := .null) trivial spells closed
  | .boolean b => exact skipValue_scalar nest (v := .boolean b) trivial spells closed
  | .number n => exact skipValue_scalar nest (v := .number n) trivial spells closed
  | .text t => exact skipValue_scalar nest (v := .text t) trivial spells closed
  | .list [] =>
      obtain ⟨inside, found, spells⟩ := Spells.skipSpace_mark spells
      obtain ⟨rest, inner, spells⟩ := Spells.skipSpace_mark spells
      refine ⟨rest, ?_, spells⟩
      simp only [skipValue_eq, found, inner, Mark.char]
  | .list (v :: vs) =>
      rw [Value.tokens, List.cons_append, List.append_assoc] at spells
      obtain ⟨inside, found, spells⟩ := spells.skipSpace_mark
      have list := skipValue_list nest found spells
      obtain ⟨behind, first, spells⟩ :=
        skipValue_tokens v (.list :: nest) _ inside (closed_furtherElements vs ts) spells
      obtain ⟨rest, others, spells⟩ := skipNext_elements vs nest ts behind closed spells
      exact ⟨rest, (list.trans first).trans others, spells⟩
  | .object [] =>
      obtain ⟨inside, found, spells⟩ := Spells.skipSpace_mark spells
      obtain ⟨rest, inner, spells⟩ := Spells.skipSpace_mark spells
      refine ⟨rest, ?_, spells⟩
      simp only [skipValue_eq, found, inner, Mark.char]
  | .object ((name, v) :: ms) =>
      rw [Value.tokens, List.cons_append, List.cons_append, List.cons_append,
        List.append_assoc] at spells
      obtain ⟨inside, found, spells⟩ := spells.skipSpace_mark
      have object := skipValue_object nest found spells
      obtain ⟨value, key, spells⟩ := skipKey_tokens spells
      rw [key] at object
      obtain ⟨behind, first, spells⟩ :=
        skipValue_tokens v (.object :: nest) _ value (closed_furtherMembers ms ts) spells
      obtain ⟨rest, others, spells⟩ := skipNext_members ms nest ts behind closed spells
      exact ⟨rest, (object.trans first).trans others, spells⟩

theorem skipNext_elements (vs : List Value) (nest : List Bracket) (ts : List Token)
    (s : List Char) (closed : Closed ts) (spells : Spells (Value.furtherElements vs ++ ts) s) :
    ∃ rest, skipNext (.list :: nest) s = skipNext nest rest ∧ Spells ts rest := by
  match vs with
  | [] =>
      obtain ⟨rest, found, spells⟩ := Spells.skipSpace_mark spells
      refine ⟨rest, ?_, spells⟩
      simp only [skipNext_list, found, Mark.char]
  | v :: vs =>
      rw [Value.furtherElements, List.cons_append, List.append_assoc] at spells
      obtain ⟨value, found, spells⟩ := spells.skipSpace_mark
      obtain ⟨behind, first, spells⟩ :=
        skipValue_tokens v (.list :: nest) _ value (closed_furtherElements vs ts) spells
      obtain ⟨rest, others, spells⟩ := skipNext_elements vs nest ts behind closed spells
      refine ⟨rest, ?_, spells⟩
      rw [skipNext_list, found]
      exact first.trans others

theorem skipNext_members (ms : List (Literal × Value)) (nest : List Bracket) (ts : List Token)
    (s : List Char) (closed : Closed ts) (spells : Spells (Value.furtherMembers ms ++ ts) s) :
    ∃ rest, skipNext (.object :: nest) s = skipNext nest rest ∧ Spells ts rest := by
  match ms with
  | [] =>
      obtain ⟨rest, found, spells⟩ := Spells.skipSpace_mark spells
      refine ⟨rest, ?_, spells⟩
      simp only [skipNext_object, found, Mark.char]
  | (name, v) :: ms =>
      rw [Value.furtherMembers, List.cons_append, List.cons_append, List.cons_append,
        List.append_assoc] at spells
      obtain ⟨behind, found, spells⟩ := spells.skipSpace_mark
      obtain ⟨value, key, spells⟩ := skipKey_tokens spells
      obtain ⟨behind, first, spells⟩ :=
        skipValue_tokens v (.object :: nest) _ value (closed_furtherMembers ms ts) spells
      obtain ⟨rest, others, spells⟩ := skipNext_members ms nest ts behind closed spells
      refine ⟨rest, ?_, spells⟩
      rw [skipNext_object, found]
      show (skipKey _).bind _ = _
      rw [key]
      exact first.trans others
end

end WhereClause.Json
