import WhereClause.Json.Strict
import WhereClause.Proofs.Json.Record

/-!
# Kept values go by the tree

A number that is kept is read digit by digit, and in front of anything that ends it **the value
of a number is settled by how it is written** (`number_magnitude`), whatever stands behind it.
So a reader of values of any type goes by the tree as well, level by level
(`means_strict`): only its numbers, its strings and its depth decide whether it takes a value.
-/

set_option autoImplicit false

namespace WhereClause.Json

/-! ## Numbers -/

/-- A number that has been read, in front of what is left. -/
def before (result : Except Problem Number) (rest : List Char) : Scan Number :=
  result.map fun n => (n, rest)

theorem takeWhile_digits {digits more : List Char} (all : digits.all Char.isDigit = true)
    (ends : ∀ c ∈ more.head?, c.isDigit = false) :
    (digits ++ more).takeWhile Char.isDigit = digits := by
  rw [List.takeWhile_append_of_pos (List.all_eq_true.1 all)]
  cases more with
  | nil => simp
  | cons c more => rw [List.takeWhile_cons, if_neg (by simp [ends c rfl]), List.append_nil]

theorem fractionDigits_text (d : Digits) {more : List Char}
    (ends : ∀ c ∈ more.head?, c.isDigit = false) :
    fractionDigits (d.text ++ more) = .ok (d.text, more) := by
  rw [Digits.text, List.cons_append, fractionDigits, if_pos d.isDigit_first,
    takeWhile_digits d.isDigit_rest ends, dropWhile_digits d.isDigit_rest ends]

theorem wholeDigits_text (n : Numeral) {more : List Char}
    (ends : ∀ c ∈ more.head?, c.isDigit = false) :
    wholeDigits (n.whole.text ++ more) = .ok (n.whole.text, more) := by
  have digit := n.whole.isDigit_first
  rw [Digits.text, List.cons_append]
  by_cases zero : n.whole.first = '0'
  · rw [zero, n.noLeadingZero zero, List.nil_append]
    cases more with
    | nil => rfl
    | cons c more => 
        have other : ¬ c.isDigit = true := by simp [ends c rfl]
        exact if_neg other
  · unfold wholeDigits
    split
    · next none => cases none
    · next leading => exact absurd (List.cons.inj leading).1 zero
    · next same =>
        cases same
        rw [if_pos digit, takeWhile_digits n.whole.isDigit_rest ends,
          dropWhile_digits n.whole.isDigit_rest ends]

/-- The power of ten of a number, as it is written. -/
def Power.value (p : Power) : Int :=
  if Sign.isMinus p.sign then -(Decimal.value p.digits.text : Int)
  else Decimal.value p.digits.text

/-- What is read of a number behind its minus sign, if it has one. -/
def Numeral.read (n : Numeral) (negative : Bool) : Except Problem Number :=
  let (significand, dropped) := takeWhole 0 n.whole.text
  match n.fraction, n.power with
  | none, none => plain negative significand dropped
  | none, some p => approximate negative significand (dropped + p.value)
  | some d, power =>
      let (significand, taken) := takeFraction significand d.text
      approximate negative significand (dropped - taken + power.elim 0 Power.value)

theorem powerOfTen_text (p : Power) {rest : List Char} (ends : EndsNumber rest) :
    powerOfTen (Sign.text p.sign ++ (p.digits.text ++ rest)) = .ok (p.value, rest) := by
  have digits := fractionDigits_text p.digits fun c here => (ends c here).1
  simp only [powerOfTen, sign_digits, digits, Power.value]

theorem finish_text (negative : Bool) (significand : Nat) (exponent : Int) (power : Option Power)
    {rest : List Char} (ends : EndsNumber rest) :
    finish negative significand exponent (power.elim [] Power.text ++ rest) =
      before (approximate negative significand (exponent + power.elim 0 Power.value)) rest := by
  cases power with
  | none =>
      rw [Option.elim_none, Option.elim_none, List.nil_append, Int.add_zero]
      cases rest with
      | nil => rfl
      | cons c rest =>
          obtain ⟨-, -, small, capital⟩ := ends c rfl
          rw [finish, if_neg (by simp [small, capital])]
          rfl
  | some p =>
      have mark : (if p.capital then 'E' else 'e') = 'e' ∨
          (if p.capital then 'E' else 'e') = 'E' := by
        cases p.capital <;> simp
      rw [Option.elim_some, Option.elim_some, Power.text, List.cons_append, finish, if_pos mark,
        List.append_assoc, powerOfTen_text p ends]
      rfl

theorem afterWhole_tail (n : Numeral) (negative : Bool) {significand dropped : Nat}
    (whole : takeWhole 0 n.whole.text = (significand, dropped)) {rest : List Char}
    (ends : EndsNumber rest) :
    afterWhole negative significand dropped (n.tail ++ rest) = before (n.read negative) rest := by
  have power := finish_text negative significand dropped n.power ends
  unfold Numeral.read Numeral.tail
  rw [whole]
  cases n.fraction with
  | none =>
      rw [Option.elim_none, List.nil_append]
      cases found : n.power with
      | none =>
          rw [Option.elim_none, List.nil_append]
          unfold afterWhole
          split
          · exact absurd rfl (ends '.' rfl).2.1
          · exact absurd rfl (ends 'e' rfl).2.2.1
          · exact absurd rfl (ends 'E' rfl).2.2.2
          · rfl
      | some p =>
          rw [found] at power
          refine Eq.trans ?_ power
          rw [Option.elim_some, Power.text]
          cases p.capital <;> rfl
  | some d =>
      have head := power_head n.power ends
      have digits := fractionDigits_text d fun c here => (head c here).1
      rw [Option.elim_some, List.append_assoc, List.cons_append, afterWhole, digits]
      exact finish_text negative _ _ n.power ends

/-- **What is read of a number is settled by how it is written**, in front of anything that ends
it. -/
theorem number_magnitude (n : Numeral) (negative : Bool) {rest : List Char}
    (ends : EndsNumber rest) :
    number negative (n.magnitude ++ rest) = before (n.read negative) rest := by
  rw [Numeral.magnitude, List.append_assoc, number, wholeDigits_text n (tail_head n ends)]
  exact afterWhole_tail n negative rfl ends

/-! ## Values -/

/-- A number leads to what is read of it. -/
theorem leads_number (n : Numeral) (negative : Bool) {ts : List Token} {rest : List Char}
    (closed : Closed ts) (spells : Spells ts rest) :
    Leads (number negative (n.magnitude ++ rest)) (n.read negative).toOption ts := by
  rw [number_magnitude n negative (closed.endsNumber spells)]
  cases n.read negative with
  | error p => exact ⟨p, rfl⟩
  | ok value => exact ⟨rest, rfl, spells⟩

/-- Whether a value that is neither a list nor an object is taken. -/
def Value.scalar? : Value → Option Unit
  | .null => some ()
  | .boolean _ => some ()
  | .number n => (n.read n.negative).toOption.map fun _ => ()
  | .text t => t.value?.map fun _ => ()
  | .list _ => none
  | .object _ => none

theorem leads_scalar {v : Value} {ts : List Token} {c : Char} {rest : List Char}
    (closed : Closed ts) (opens : v.Opens ts c rest) (kind : v.IsScalar) :
    Leads (scalar c rest) v.scalar? ts := by
  cases opens with
  | null spells => exact leads_wordFor ['u', 'l', 'l'] () spells
  | yes spells => exact leads_wordFor ['r', 'u', 'e'] () spells
  | no spells => exact leads_wordFor ['a', 'l', 's', 'e'] () spells
  | text spells => exact (leads_textFrom _ spells).map fun _ => ()
  | negative spells sign =>
      rw [Value.scalar?, sign]
      exact (leads_number _ true closed spells).map fun _ => ()
  | @number n _ _ _ spells digit written sign =>
      have number := leads_number n false closed spells
      rw [← written] at number
      rw [Value.scalar?, sign]
      unfold scalar
      split
      iterate 5 cases digit
      rw [if_pos digit]
      exact number.map fun _ => ()
  | list _ => exact kind.elim
  | object _ => exact kind.elim

/-- Whether a value is taken that may be nested to so many levels. -/
def Value.kept? : Nat → Value → Option Unit
  | 0, v => v.scalar?
  | levels + 1, .list vs => (vs.mapM (kept? levels)).map fun _ => ()
  | levels + 1, .object ms =>
      ms.foldlM (fun _ m => m.1.value?.bind fun _ => kept? levels m.2) ()
  | _ + 1, v => v.scalar?

theorem Value.kept?_of_isScalar {v : Value} (kind : v.IsScalar) (levels : Nat) :
    v.kept? levels = v.scalar? := by
  cases levels with
  | zero => rfl
  | succ levels =>
      cases v with
      | list => exact kind.elim
      | object => exact kind.elim
      | _ => rfl

/-- The members of an object of any members are each taken by the same reader. -/
theorem leads_ofMembers {value : Reader Unit} {meaning : Value → Option Unit}
    (means : value.Means meaning) {ms : List (Literal × Value)} {ts : List Token} {s : List Char}
    (spells : Spells (Value.members true ms ++ ts) s) :
    Leads ((Record.ofMembers value).members () true s)
      (ms.foldlM (fun _ m => m.1.value?.bind fun _ => meaning m.2) ()) ts := by
  have tree : (Record.ofMembers value).GoesByTree :=
    { field := fun _ known => by cases known
      other := fun _ => (means.map fun _ => id).take }
  have note : (Record.ofMembers value).note =
      fun _ m => m.1.value?.bind fun _ => meaning m.2 := by
    funext u m
    refine congrArg m.1.value?.bind (funext fun name => ?_)
    show ((value.map fun _ => id).take m.2).map (fun put => put u) = meaning m.2
    rw [take_map, means.take_eq]
    cases meaning m.2 <;> rfl
  have members := Record.leads_members tree () spells
  rwa [note] at members

/-- **A reader of values of any type goes by the tree**, level by level. -/
theorem means_strict (levels : Nat) : (Reader.strict levels).Means (Value.kept? levels) := by
  induction levels with
  | zero =>
      refine .ofFirst fun {v ts c rest} closed opens _ => ?_
      by_cases kind : v.IsScalar
      · obtain ⟨list, object⟩ := opens.ne_bracket kind
        rw [if_neg fun nested => nested.elim list object]
        exact leads_scalar closed opens kind
      · cases opens with
        | list => exact ⟨_, rfl⟩
        | object => exact ⟨_, rfl⟩
        | _ => exact absurd trivial kind
  | succ levels ih =>
      refine .ofFirst fun {v ts c rest} closed opens _ => ?_
      by_cases kind : v.IsScalar
      · obtain ⟨list, object⟩ := opens.ne_bracket kind
        rw [if_neg list, if_neg object, Value.kept?_of_isScalar kind]
        exact leads_scalar closed opens kind
      · cases opens with
        | list spells => simpa [Value.kept?] using (ih.elements [] spells).map fun _ => ()
        | object spells => exact leads_ofMembers ih spells
        | _ => exact absurd trivial kind

end WhereClause.Json
