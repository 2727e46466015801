import WhereClause.Proofs.Json.Skipping

/-!
# What is passed over is a tree

A tree that a text writes is passed over token by token.  Conversely **a value that is passed
over is the tokens of a tree** (`exists_of_skipValue`), with white space in front of each of them
(`Begins`), so nothing is passed over that the grammar does not allow.  The strings, words and
numbers in it are what readers of single values take as well.
-/

set_option autoImplicit false

namespace WhereClause.Json

/-! ## Reading in two steps -/

section Steps

variable {α β : Type}

theorem exists_of_map {f : α → β} {read : Except Problem α} {b : β} (mapped : read.map f = .ok b) :
    ∃ a, read = .ok a ∧ f a = b := by
  cases read with
  | error p => cases mapped
  | ok a => exact ⟨a, rfl, Except.ok.inj mapped⟩

theorem exists_of_bind {next : α → Except Problem β} {read : Except Problem α} {b : β}
    (bound : read.bind next = .ok b) : ∃ a, read = .ok a ∧ next a = .ok b := by
  cases read with
  | error p => cases bound
  | ok a => exact ⟨a, rfl, bound⟩

end Steps

/-! ## Tokens at the front of a text -/

/-- A text begins with a row of tokens, each behind any white space, in front of what is left. -/
def Begins : List Token → List Char → List Char → Prop
  | [], s, rest => s = rest
  | t :: ts, s, rest => ∃ space more, s = space ++ (t.written ++ more) ∧
      space.all isSpace = true ∧ Begins ts more rest

theorem Begins.append {ts us : List Token} {s more rest : List Char} (first : Begins ts s more)
    (second : Begins us more rest) : Begins (ts ++ us) s rest := by
  induction ts generalizing s with
  | nil =>
      obtain rfl : s = more := first
      exact second
  | cons t ts ih =>
      obtain ⟨space, behind, rfl, blank, further⟩ := first
      exact ⟨space, behind, rfl, blank, ih further⟩

theorem Begins.spells {ts : List Token} {s rest : List Char} (begins : Begins ts s rest)
    (blank : rest.all isSpace = true) : Spells ts s := by
  induction ts generalizing s with
  | nil =>
      obtain rfl : s = rest := begins
      exact blank
  | cons t ts ih =>
      obtain ⟨space, behind, rfl, gap, further⟩ := begins
      exact ⟨space, behind, rfl, gap, ih further⟩

/-- The white space in front of a token may be passed over or not. -/
theorem Begins.cons {t : Token} {ts : List Token} {s more rest : List Char}
    (found : skipSpace s = t.written ++ more) (further : Begins ts more rest) :
    Begins (t :: ts) s rest := by
  refine ⟨s.takeWhile isSpace, more, ?_, List.all_takeWhile, further⟩
  rw [← found]
  exact List.takeWhile_append_dropWhile.symm

theorem Begins.of_skipSpace {t : Token} {ts : List Token} {s rest : List Char}
    (begins : Begins (t :: ts) (skipSpace s) rest) : Begins (t :: ts) s rest := by
  obtain ⟨space, more, found, blank, further⟩ := begins
  obtain ⟨c, behind, head, plain⟩ := t.head_written
  refine .cons ?_ further
  rw [← skipSpace_skipSpace, found, head, List.cons_append]
  exact skipSpace_append blank plain _

theorem Begins.length_le {ts : List Token} {s rest : List Char} (begins : Begins ts s rest) :
    rest.length ≤ s.length := by
  induction ts generalizing s with
  | nil =>
      obtain rfl : s = rest := begins
      exact Nat.le_refl _
  | cons t ts ih =>
      obtain ⟨space, behind, rfl, -, further⟩ := begins
      have := ih further
      simp only [List.length_append]
      omega

theorem Value.exists_tokens (v : Value) : ∃ t ts, v.tokens = t :: ts := by
  cases v with
  | list vs => exact ⟨_, _, Value.tokens_list vs⟩
  | object ms => exact ⟨_, _, Value.tokens_object ms⟩
  | _ => exact ⟨_, _, rfl⟩

theorem Begins.value_of_skipSpace {v : Value} {s rest : List Char}
    (begins : Begins v.tokens (skipSpace s) rest) : Begins v.tokens s rest := by
  obtain ⟨t, ts, tokens⟩ := v.exists_tokens
  rw [tokens] at begins ⊢
  exact begins.of_skipSpace

/-! ## Strings -/

/-- Four digits that are read are digits. -/
theorem exists_of_hexFour {s rest : List Char} {n : Nat} (read : hexFour s = .ok (n, rest)) :
    ∃ a b c d : HexDigit, s = a.char :: b.char :: c.char :: d.char :: rest := by
  unfold hexFour at read
  split at read
  · next a b c d further =>
      split at read
      · next value found =>
          cases read
          simp only [hexValue?, Option.bind_eq_bind, Option.bind_eq_some_iff] at found
          obtain ⟨p, first, q, second, u, third, v, fourth, -⟩ := found
          exact ⟨⟨a, by simp [first]⟩, ⟨b, by simp [second]⟩, ⟨c, by simp [third]⟩,
            ⟨d, by simp [fourth]⟩, rfl⟩
      · cases read
  · cases read

theorem exists_of_secondHalf {first : Nat} {s rest : List Char} {c : Char}
    (read : secondHalf first s = .ok (c, rest)) :
    ∃ a b c d : HexDigit, s = (Glyph.numbered a b c d).text ++ rest := by
  unfold secondHalf at read
  split at read
  · cases read
  · cases read
  · next more =>
      split at read
      · cases read
      · next second behind hex =>
          obtain ⟨a, b, c, d, rfl⟩ := exists_of_hexFour hex
          split at read
          · obtain rfl := (Prod.mk.inj (Except.ok.inj read)).2
            exact ⟨a, b, c, d, rfl⟩
          · cases read
  · cases read

/-- What is read behind a backslash is one glyph or a pair of them. -/
theorem exists_of_escape {s rest : List Char} {c : Char} (read : escape s = .ok (c, rest)) :
    ∃ t : Literal, '\\' :: s = t.body ++ rest := by
  unfold escape at read
  split at read
  · cases read
  · next more =>
      unfold numbered at read
      split at read
      · cases read
      · next n behind hex =>
          obtain ⟨a, b, c, d, rfl⟩ := exists_of_hexFour hex
          split at read
          · cases read
          · split at read
            · obtain ⟨e, f, g, h, rfl⟩ := exists_of_secondHalf read
              exact ⟨[.numbered a b c d, .numbered e f g h], rfl⟩
            · cases read
              exact ⟨[.numbered a b c d], rfl⟩
  · next letter more _ =>
      split at read
      · next known =>
          cases read
          exact ⟨[.short letter (by simp [known])], rfl⟩
      · cases read

theorem exists_of_textFrom {done s rest : List Char} {text : String}
    (read : textFrom done s = .ok (text, rest)) : ∃ t : Literal, s = t.body ++ '"' :: rest := by
  fun_induction textFrom done s with
  | case1 => cases read
  | case2 =>
      cases read
      exact ⟨[], rfl⟩
  | case3 => cases read
  | case4 done s c behind escaped ih =>
      obtain ⟨t, glyph⟩ := exists_of_escape escaped
      obtain ⟨u, rfl⟩ := ih read
      exact ⟨t ++ u, by simp [glyph, Literal.body]⟩
  | case5 => cases read
  | case6 done c s quote backslash printed ih =>
      obtain ⟨u, rfl⟩ := ih read
      exact ⟨.plain c ⟨quote, backslash, printed⟩ :: u, rfl⟩

/-- A string that is passed over is a row of glyphs. -/
theorem exists_of_skipEscape {s rest : List Char} (passed : skipEscape s = .ok rest) :
    ∃ glyph : Glyph, '\\' :: s = glyph.text ++ rest := by
  unfold skipEscape at passed
  split at passed
  · cases passed
  · next more =>
      obtain ⟨⟨n, behind⟩, hex, rfl⟩ := exists_of_map passed
      obtain ⟨a, b, c, d, rfl⟩ := exists_of_hexFour hex
      exact ⟨.numbered a b c d, rfl⟩
  · next letter more _ =>
      split at passed
      · next known =>
          cases passed
          exact ⟨.short letter (by simp [known]), rfl⟩
      · cases passed

theorem exists_of_skipText {s rest : List Char} (passed : skipText s = .ok rest) :
    ∃ t : Literal, s = t.body ++ '"' :: rest := by
  fun_induction skipText s with
  | case1 => cases passed
  | case2 =>
      cases passed
      exact ⟨[], rfl⟩
  | case3 => cases passed
  | case4 s behind escaped ih =>
      obtain ⟨glyph, found⟩ := exists_of_skipEscape escaped
      obtain ⟨u, rfl⟩ := ih passed
      exact ⟨glyph :: u, by simp [found, Literal.body]⟩
  | case5 => cases passed
  | case6 c s quote backslash printed ih =>
      obtain ⟨u, rfl⟩ := ih passed
      exact ⟨.plain c ⟨quote, backslash, printed⟩ :: u, rfl⟩

/-! ## Words and numbers -/

theorem eq_of_word {letters s rest : List Char} (read : word letters s = .ok rest) :
    s = letters ++ rest := by
  induction letters generalizing s with
  | nil =>
      cases read
      rfl
  | cons c letters ih =>
      cases s with
      | nil => cases read
      | cons d s =>
          rw [word] at read
          split at read
          · next same => rw [← same, ih read, List.cons_append]
          · cases read

theorem eq_of_wordFor {α : Type} {letters s rest : List Char} {a b : α}
    (read : Reader.wordFor letters a s = .ok (b, rest)) : s = letters ++ rest := by
  obtain ⟨behind, found, same⟩ := exists_of_map read
  cases same
  exact eq_of_word found

/-- Digits up to the first character that is none. -/
theorem exists_digits {c : Char} (digit : c.isDigit = true) (s : List Char) :
    ∃ d : Digits, d.first = c ∧ d.rest = s.takeWhile Char.isDigit ∧
      c :: s = d.text ++ s.dropWhile Char.isDigit :=
  ⟨⟨c, s.takeWhile Char.isDigit, digit, List.all_takeWhile⟩, rfl, rfl, by simp [Digits.text]⟩

theorem exists_of_skipDigits {s rest : List Char} (passed : skipDigits s = .ok rest) :
    ∃ d : Digits, s = d.text ++ rest := by
  unfold skipDigits at passed
  split at passed
  · cases passed
  · next c more =>
      split at passed
      · next digit =>
          cases passed
          obtain ⟨d, -, -, found⟩ := exists_digits digit more
          exact ⟨d, found⟩
      · cases passed

theorem exists_sign (s : List Char) :
    ∃ sign : Option Sign, s = Sign.text sign ++ (Decimal.sign s).2 := by
  unfold Decimal.sign
  split
  · exact ⟨some .minus, rfl⟩
  · exact ⟨some .plus, rfl⟩
  · exact ⟨none, rfl⟩

theorem exists_of_skipPower {s rest : List Char} (passed : skipPower s = .ok rest) :
    ∃ power : Option Power, s = power.elim [] Power.text ++ rest := by
  unfold skipPower at passed
  split at passed
  · cases passed
    exact ⟨none, rfl⟩
  · next c more =>
      split at passed
      · next mark =>
          obtain ⟨sign, signed⟩ := exists_sign more
          obtain ⟨d, digits⟩ := exists_of_skipDigits passed
          rcases mark with rfl | rfl
          · refine ⟨some ⟨false, sign, d⟩, ?_⟩
            rw [signed, digits]
            simp [Power.text]
          · refine ⟨some ⟨true, sign, d⟩, ?_⟩
            rw [signed, digits]
            simp [Power.text]
      · cases passed
        exact ⟨none, rfl⟩

theorem exists_of_skipAfterWhole {s rest : List Char} (passed : skipAfterWhole s = .ok rest) :
    ∃ (fraction : Option Digits) (power : Option Power),
      s = (fraction.elim [] fun d => '.' :: d.text) ++ power.elim [] Power.text ++ rest := by
  unfold skipAfterWhole at passed
  split at passed
  · next more =>
      obtain ⟨behind, digits, further⟩ := exists_of_bind passed
      obtain ⟨d, rfl⟩ := exists_of_skipDigits digits
      obtain ⟨power, rfl⟩ := exists_of_skipPower further
      exact ⟨some d, power, by simp⟩
  · obtain ⟨power, rfl⟩ := exists_of_skipPower passed
    exact ⟨none, power, rfl⟩

/-- A number that is passed over is a numeral, with or without a minus sign in front. -/
theorem exists_of_skipNumber {s rest : List Char} (passed : skipNumber s = .ok rest)
    (negative : Bool) : ∃ n : Numeral, n.negative = negative ∧ s = n.magnitude ++ rest := by
  unfold skipNumber at passed
  split at passed
  · cases passed
  · next more =>
      have tail : skipAfterWhole more = .ok rest := by
        split at passed
        · split at passed
          · cases passed
          · exact passed
        · exact passed
      obtain ⟨fraction, power, rfl⟩ := exists_of_skipAfterWhole tail
      exact ⟨⟨negative, ⟨'0', [], rfl, rfl⟩, fun _ => rfl, fraction, power⟩, rfl,
        by simp [Numeral.magnitude, Numeral.tail, Digits.text]⟩
  · next c more other =>
      split at passed
      · next digit =>
          obtain ⟨d, first, -, found⟩ := exists_digits digit more
          obtain ⟨fraction, power, tail⟩ := exists_of_skipAfterWhole passed
          refine ⟨⟨negative, d, ?_, fraction, power⟩, rfl, ?_⟩
          · rw [first]
            exact fun zero => (other zero).elim
          · rw [found, tail]
            simp [Numeral.magnitude, Numeral.tail]
      · cases passed

/-! ## Numbers that are read -/

theorem skipDigits_of_fractionDigits {s digits rest : List Char}
    (read : fractionDigits s = .ok (digits, rest)) : skipDigits s = .ok rest := by
  unfold fractionDigits at read
  split at read
  · cases read
  · next c more =>
      split at read
      · next digit =>
          cases read
          exact if_pos digit
      · cases read

theorem skipPower_of_finish {negative : Bool} {significand : Nat} {exponent : Int}
    {s rest : List Char} {n : Number}
    (read : finish negative significand exponent s = .ok (n, rest)) : skipPower s = .ok rest := by
  unfold finish at read
  split at read
  · obtain ⟨a, -, same⟩ := exists_of_map read
    cases same
    rfl
  · next c more =>
      split at read
      · next mark =>
          split at read
          · cases read
          · next power behind power =>
              obtain ⟨a, -, same⟩ := exists_of_map read
              cases same
              unfold powerOfTen at power
              simp only at power
              split at power
              · cases power
              · next digits =>
                  cases power
                  rw [skipPower, if_pos mark]
                  exact skipDigits_of_fractionDigits digits
      · next other =>
          obtain ⟨a, -, same⟩ := exists_of_map read
          cases same
          exact if_neg other

theorem skipAfterWhole_of_afterWhole {negative : Bool} {significand dropped : Nat}
    {s rest : List Char} {n : Number}
    (read : afterWhole negative significand dropped s = .ok (n, rest)) :
    skipAfterWhole s = .ok rest := by
  unfold afterWhole at read
  split at read
  · split at read
    · cases read
    · next digits =>
        rw [skipAfterWhole, skipDigits_of_fractionDigits digits]
        exact skipPower_of_finish read
  · exact skipPower_of_finish read
  · exact skipPower_of_finish read
  · next point small capital =>
      obtain ⟨a, -, same⟩ := exists_of_map read
      cases same
      cases s with
      | nil => rfl
      | cons c more =>
          have mark : ¬ (c = 'e' ∨ c = 'E') := by
            rintro (rfl | rfl)
            · exact small more rfl
            · exact capital more rfl
          unfold skipAfterWhole
          split
          · next same => exact absurd same (point _)
          · exact if_neg mark

/-- A number that is read can be passed over as well. -/
theorem skipNumber_of_number {negative : Bool} {s rest : List Char} {n : Number}
    (read : number negative s = .ok (n, rest)) : skipNumber s = .ok rest := by
  unfold number at read
  split at read
  · cases read
  · next digits more whole =>
      have tail := skipAfterWhole_of_afterWhole read
      unfold wholeDigits at whole
      split at whole
      · cases whole
      · split at whole
        · split at whole
          · cases whole
          · next behind other =>
              cases whole
              exact (if_neg other).trans tail
        · cases whole
          exact tail
      · next c behind other =>
          split at whole
          · next digit =>
              cases whole
              unfold skipNumber
              split
              · next none => cases none
              · next zero => exact absurd (List.cons.inj zero).1 other
              · next same =>
                  cases same
                  exact (if_pos digit).trans tail
          · cases whole

/-! ## Values that are passed over -/

/-- A scalar that is passed over is one token. -/
theorem exists_of_skipScalar {s rest : List Char} (passed : skipScalar s = .ok rest) :
    ∃ (v : Value) (t : Token), v.tokens = [t] ∧ s = t.written ++ rest := by
  unfold skipScalar at passed
  split at passed
  · cases passed
  · exact ⟨.null, .null, rfl, congrArg ('n' :: ·) (eq_of_word passed)⟩
  · exact ⟨.boolean true, .boolean true, rfl, congrArg ('t' :: ·) (eq_of_word passed)⟩
  · exact ⟨.boolean false, .boolean false, rfl, congrArg ('f' :: ·) (eq_of_word passed)⟩
  · obtain ⟨t, rfl⟩ := exists_of_skipText passed
    exact ⟨.text t, .text t, rfl, by simp [Token.written]⟩
  · obtain ⟨n, negative, rfl⟩ := exists_of_skipNumber passed true
    exact ⟨.number n, .number n, rfl, by simp [Token.written, Numeral.text, negative]⟩
  · split at passed
    · obtain ⟨n, negative, found⟩ := exists_of_skipNumber passed false
      exact ⟨.number n, .number n, rfl, by simp [Token.written, Numeral.text, negative, found]⟩
    · cases passed

theorem skipSpace_of_skipColon {s rest : List Char} (passed : skipColon s = .ok rest) :
    skipSpace s = ':' :: rest := by
  unfold skipColon at passed
  split at passed
  · cases passed
  · next found =>
      cases passed
      exact found
  · cases passed

/-- A key that is passed over is a string with a colon behind it. -/
theorem exists_of_skipKey {s rest : List Char} (passed : skipKey s = .ok rest) :
    ∃ name : Literal, Begins [.text name, .mark .colon] s rest := by
  unfold skipKey at passed
  split at passed
  · cases passed
  · next more found =>
      obtain ⟨behind, key, colon⟩ := exists_of_bind passed
      obtain ⟨name, rfl⟩ := exists_of_skipText key
      refine ⟨name, .cons ?_ (.cons (skipSpace_of_skipColon colon) rfl)⟩
      rw [found]
      simp [Token.written]
  · cases passed

/-- What passing over the rest of a list or an object says of the text. -/
def NextAt : List Bracket → List Char → List Char → Prop
  | [], _, _ => True
  | .list :: outer, s, final => ∃ (vs : List Value) (rest : List Char),
      Begins (Value.furtherElements vs) s rest ∧ skipNext outer rest = .ok final
  | .object :: outer, s, final => ∃ (ms : List (Literal × Value)) (rest : List Char),
      Begins (Value.furtherMembers ms) s rest ∧ skipNext outer rest = .ok final

/-- Whether the shorter texts that are passed over begin with a value, whatever brackets are
open around it, and what follows the value is passed over as well. -/
def FoundBelow (bound : Nat) : Prop :=
  ∀ ⦃nest : List Bracket⦄ ⦃s final : List Char⦄, s.length < bound →
    skipValue nest s = .ok final → ∃ (v : Value) (rest : List Char),
      Begins v.tokens s rest ∧ skipNext nest rest = .ok final ∧ NextAt nest rest final

theorem FoundBelow.mono {bound less : Nat} (below : FoundBelow bound) (le : less ≤ bound) :
    FoundBelow less := fun _ _ _ short passed => below (Nat.lt_of_lt_of_le short le) passed

theorem FoundBelow.value {nest : List Bracket} {s final : List Char} (below : FoundBelow s.length)
    (passed : skipValue nest s = .ok final) :
    ∃ (v : Value) (rest : List Char), Begins v.tokens s rest ∧ skipNext nest rest = .ok final := by
  rw [skipValue_eq] at passed
  split at passed
  · cases passed
  · next more found =>
      have shorter := length_of_skipSpace found
      have same := length_skipSpace_le more
      split at passed
      · cases passed
      · next rest inner => exact ⟨.list [], rest, .cons found (.cons inner rfl), passed⟩
      · next inner =>
          rw [← inner] at passed
          obtain ⟨v, m, begins, -, vs, rest, others, further⟩ := below (by omega) passed
          refine ⟨.list (v :: vs), rest, .cons found ?_, further⟩
          exact begins.value_of_skipSpace.append others
  · next more found =>
      have shorter := length_of_skipSpace found
      have same := length_skipSpace_le more
      split at passed
      · cases passed
      · next rest inner => exact ⟨.object [], rest, .cons found (.cons inner rfl), passed⟩
      · next inner =>
          rw [← inner] at passed
          obtain ⟨behind, keyed, passed⟩ := exists_of_bind passed
          obtain ⟨name, key⟩ := exists_of_skipKey keyed
          have less := key.length_le
          obtain ⟨v, m, begins, -, ms, rest, others, further⟩ := below (by omega) passed
          refine ⟨.object ((name, v) :: ms), rest, .cons found ?_, further⟩
          exact key.of_skipSpace.append (begins.append others)
  · next c more _ _ found =>
      obtain ⟨rest, scalar, passed⟩ := exists_of_bind passed
      obtain ⟨v, t, tokens, written⟩ := exists_of_skipScalar scalar
      refine ⟨v, rest, ?_, passed⟩
      rw [tokens]
      exact .cons (found.trans written) rfl

theorem FoundBelow.next {nest : List Bracket} {s final : List Char} (below : FoundBelow s.length)
    (passed : skipNext nest s = .ok final) : NextAt nest s final := by
  cases nest with
  | nil => trivial
  | cons bracket outer =>
      cases bracket with
      | list =>
          rw [skipNext_list] at passed
          split at passed
          · cases passed
          · next more found =>
              obtain ⟨v, m, begins, -, vs, rest, others, further⟩ :=
                below (length_of_skipSpace found) passed
              exact ⟨v :: vs, rest, .cons found (begins.append others), further⟩
          · next more found => exact ⟨[], more, .cons found rfl, passed⟩
          · cases passed
      | object =>
          rw [skipNext_object] at passed
          split at passed
          · cases passed
          · next more found =>
              have shorter := length_of_skipSpace found
              obtain ⟨behind, keyed, passed⟩ := exists_of_bind passed
              obtain ⟨name, key⟩ := exists_of_skipKey keyed
              have less := key.length_le
              obtain ⟨v, m, begins, -, ms, rest, others, further⟩ := below (by omega) passed
              refine ⟨(name, v) :: ms, rest, .cons found ?_, further⟩
              exact key.append (begins.append others)
          · next more found => exact ⟨[], more, .cons found rfl, passed⟩
          · cases passed

/-- The induction is on how much text is left, which carries values and what follows them at
once. -/
theorem foundBelow (bound : Nat) : FoundBelow bound := by
  induction bound with
  | zero => exact fun _ _ _ short => absurd short (Nat.not_lt_zero _)
  | succ bound ih =>
      intro nest s final short passed
      have le := Nat.le_of_lt_succ short
      obtain ⟨v, rest, begins, further⟩ := (ih.mono le).value passed
      have less := begins.length_le
      exact ⟨v, rest, begins, further, (ih.mono (Nat.le_trans less le)).next further⟩

/-- **A value that is passed over is a tree.** -/
theorem exists_of_skipValue {s rest : List Char} (passed : skipValue [] s = .ok rest) :
    ∃ v : Value, Begins v.tokens s rest := by
  obtain ⟨v, more, begins, ended, -⟩ := foundBelow (s.length + 1) (Nat.lt_succ_self _) passed
  rw [skipNext] at ended
  cases ended
  exact ⟨v, begins⟩

end WhereClause.Json
