import WhereClause.Json.Scan

/-!
# Numbers in a JSON document

A number is whole when it has neither a fraction nor a power of ten and fits 64
bits, signed when it is negative.  Any other number is approximated: its digits
are taken into a significand below `2 ^ 64`, further digits of the whole part
only raise the power of ten, and further digits of the fraction are dropped.
The significand is then multiplied or divided once by a power of ten, each step
rounding to nearest, so the last bit need not be that of the nearest number.

No leading zero may stand before another digit, and a fraction or a power of ten
needs a digit.
-/

set_option autoImplicit false

namespace WhereClause.Json

/-- A number of a document. -/
inductive Number where
  | whole (value : Int)
  | approximate (value : Binary64)
  deriving DecidableEq

/-- A number as what stands where another type was called for. -/
def Number.found : Number → Found
  | .whole value => .integer value
  | .approximate value => .float value

/-! ## Approximation -/

/-- A power of ten up to `10 ^ 308` as a binary number. -/
def tenTo? (k : Nat) : Option Binary64 := Binary64.ofQuotient? false (Nat.pow 10 k) 1

/-- A number times a power of ten.  A power beyond `10 ^ 308` is applied in steps
as long as it shrinks the number, and is too much otherwise. -/
def timesTen? (x : Binary64) (exponent : Int) : Option Binary64 :=
  if exponent.natAbs ≤ 308 then do
    let ten ← tenTo? exponent.natAbs
    if exponent < 0 then x.div? ten else x.mul? ten
  else if x.magnitude = 0 then some x
  else if _h : exponent < 0 then do
    let ten ← tenTo? 308
    let x ← x.div? ten
    timesTen? x (exponent + 308)
  else none
termination_by exponent.natAbs
decreasing_by omega

/-- The number `significand * 10 ^ exponent`, approximately. -/
def approximate (negative : Bool) (significand : Nat) (exponent : Int) :
    Except Problem Number :=
  match (Binary64.ofQuotient? negative significand 1).bind (timesTen? · exponent) with
  | some x => .ok (.approximate x)
  | none => .error .numberOutOfRange

/-- Whether a significand has room for another digit. -/
def hasRoom (significand : Nat) (c : Char) : Bool :=
  10 * significand + Decimal.digit c < 1 <<< 64

/-- Takes digits of the whole part: the significand, and how many digits did not
fit. -/
def takeWhole (significand : Nat) : List Char → Nat × Nat
  | [] => (significand, 0)
  | c :: digits =>
      if hasRoom significand c then takeWhole (10 * significand + Decimal.digit c) digits
      else (significand, digits.length + 1)

/-- Takes digits of the fraction: the significand, and how many digits fitted. -/
def takeFraction (significand : Nat) : List Char → Nat × Nat
  | [] => (significand, 0)
  | c :: digits =>
      if hasRoom significand c then
        let (significand, taken) := takeFraction (10 * significand + Decimal.digit c) digits
        (significand, taken + 1)
      else (significand, 0)

/-! ## Reading -/

/-- Reads the digits of the whole part. -/
def wholeDigits : List Char → Scan (List Char)
  | [] => .error (.ended .value)
  | '0' :: rest =>
      match rest with
      | c :: _ => if c.isDigit then .error .badNumber else .ok (['0'], rest)
      | [] => .ok (['0'], rest)
  | c :: rest =>
      if c.isDigit then .ok (c :: rest.takeWhile Char.isDigit, rest.dropWhile Char.isDigit)
      else .error .badNumber

/-- Reads the digits behind a point. -/
def fractionDigits : List Char → Scan (List Char)
  | [] => .error (.ended .value)
  | c :: rest =>
      if c.isDigit then .ok (c :: rest.takeWhile Char.isDigit, rest.dropWhile Char.isDigit)
      else .error .badNumber

/-- Reads a power of ten behind its mark. -/
def powerOfTen (s : List Char) : Scan Int :=
  let (negative, rest) := Decimal.sign s
  match fractionDigits rest with
  | .error p => .error p
  | .ok (digits, rest) =>
      .ok (if negative then -(Decimal.value digits : Int) else Decimal.value digits, rest)

/-- Reads an optional power of ten behind the digits of a number. -/
def finish (negative : Bool) (significand : Nat) (exponent : Int) : List Char → Scan Number
  | [] => (approximate negative significand exponent).map (·, [])
  | c :: rest =>
      if c = 'e' ∨ c = 'E' then
        match powerOfTen rest with
        | .error p => .error p
        | .ok (power, rest) =>
            (approximate negative significand (exponent + power)).map (·, rest)
      else (approximate negative significand exponent).map (·, c :: rest)

/-- A number without fraction and power of ten: whole when it fits.  Minus zero
is not whole. -/
def plain (negative : Bool) (significand dropped : Nat) : Except Problem Number :=
  if dropped ≠ 0 then approximate negative significand dropped
  else if negative then
    if significand = 0 ∨ 1 <<< 63 < significand then approximate true significand 0
    else .ok (.whole (-significand))
  else .ok (.whole significand)

/-- Reads what follows the digits of the whole part. -/
def afterWhole (negative : Bool) (significand dropped : Nat) : List Char → Scan Number
  | '.' :: rest =>
      match fractionDigits rest with
      | .error p => .error p
      | .ok (digits, rest) =>
          let (significand, taken) := takeFraction significand digits
          finish negative significand (dropped - taken) rest
  | 'e' :: rest => finish negative significand dropped ('e' :: rest)
  | 'E' :: rest => finish negative significand dropped ('E' :: rest)
  | s => (plain negative significand dropped).map (·, s)

/-- Reads a number; its minus sign, if any, has been read. -/
def number (negative : Bool) (s : List Char) : Scan Number :=
  match wholeDigits s with
  | .error p => .error p
  | .ok (digits, rest) =>
      let (significand, dropped) := takeWhole 0 digits
      afterWhole negative significand dropped rest

/-! ## Passing over numbers -/

/-- Passes over the digits of a fraction or a power of ten; the end of the text
is as wrong as any other character. -/
def skipDigits : List Char → Except Problem (List Char)
  | [] => .error .badNumber
  | c :: rest => if c.isDigit then .ok (rest.dropWhile Char.isDigit) else .error .badNumber

/-- Passes over an optional power of ten. -/
def skipPower : List Char → Except Problem (List Char)
  | [] => .ok []
  | c :: rest =>
      if c = 'e' ∨ c = 'E' then skipDigits (Decimal.sign rest).2 else .ok (c :: rest)

/-- Passes over what may follow the whole part. -/
def skipAfterWhole : List Char → Except Problem (List Char)
  | '.' :: rest => (skipDigits rest).bind skipPower
  | s => skipPower s

/-- Passes over a number behind its minus sign, if any, without asking for its
value. -/
def skipNumber : List Char → Except Problem (List Char)
  | [] => .error .badNumber
  | '0' :: rest =>
      match rest with
      | c :: _ => if c.isDigit then .error .badNumber else skipAfterWhole rest
      | [] => .ok []
  | c :: rest =>
      if c.isDigit then skipAfterWhole (rest.dropWhile Char.isDigit) else .error .badNumber

/-! ## How much is left -/

theorem length_dropDigits_le (s : List Char) : (s.dropWhile Char.isDigit).length ≤ s.length :=
  (List.dropWhile_suffix Char.isDigit).length_le

theorem length_sign_le (s : List Char) : (Decimal.sign s).2.length ≤ s.length := by
  unfold Decimal.sign
  split <;> simp

theorem length_wholeDigits {s digits rest : List Char} (h : wholeDigits s = .ok (digits, rest)) :
    rest.length < s.length := by
  unfold wholeDigits at h
  split at h
  · simp at h
  · split at h
    · split at h
      · simp at h
      · simp only [Except.ok.injEq, Prod.mk.injEq] at h
        rw [← h.2]
        simp
    · simp only [Except.ok.injEq, Prod.mk.injEq] at h
      rw [← h.2]
      simp
  · split at h
    · simp only [Except.ok.injEq, Prod.mk.injEq] at h
      obtain ⟨-, rfl⟩ := h
      exact Nat.lt_succ_of_le (length_dropDigits_le _)
    · simp at h

theorem length_fractionDigits {s digits rest : List Char}
    (h : fractionDigits s = .ok (digits, rest)) : rest.length < s.length := by
  unfold fractionDigits at h
  split at h
  · simp at h
  · split at h
    · simp only [Except.ok.injEq, Prod.mk.injEq] at h
      obtain ⟨-, rfl⟩ := h
      exact Nat.lt_succ_of_le (length_dropDigits_le _)
    · simp at h

theorem rest_eq_of_map {α : Type} {e : Except Problem α} {s rest : List Char} {a : α}
    (h : e.map (fun x => (x, s)) = .ok (a, rest)) : s = rest := by
  cases e with
  | error p => simp [Except.map] at h
  | ok x =>
      simp only [Except.map, Except.ok.injEq, Prod.mk.injEq] at h
      exact h.2

theorem length_powerOfTen {s rest : List Char} {n : Int} (h : powerOfTen s = .ok (n, rest)) :
    rest.length < s.length := by
  unfold powerOfTen at h
  have := length_sign_le s
  simp only at h
  split at h
  · simp at h
  · rename_i digits
    have := length_fractionDigits digits
    simp only [Except.ok.injEq, Prod.mk.injEq] at h
    obtain ⟨-, rfl⟩ := h
    omega

theorem length_finish_le {negative : Bool} {significand : Nat} {exponent : Int}
    {s rest : List Char} {n : Number} (h : finish negative significand exponent s = .ok (n, rest)) :
    rest.length ≤ s.length := by
  unfold finish at h
  split at h
  · exact Nat.le_of_eq (by rw [rest_eq_of_map h])
  · split at h
    · split at h
      · simp at h
      · rename_i power
        have := length_powerOfTen power
        rw [← rest_eq_of_map h]
        exact Nat.le_succ_of_le (Nat.le_of_lt this)
    · exact Nat.le_of_eq (by rw [rest_eq_of_map h])

theorem length_afterWhole_le {negative : Bool} {significand dropped : Nat}
    {s rest : List Char} {n : Number}
    (h : afterWhole negative significand dropped s = .ok (n, rest)) : rest.length ≤ s.length := by
  unfold afterWhole at h
  split at h
  · split at h
    · simp at h
    · rename_i digits
      have := length_fractionDigits digits
      have := length_finish_le h
      simp only [List.length_cons]
      omega
  · exact length_finish_le h
  · exact length_finish_le h
  · exact Nat.le_of_eq (by rw [rest_eq_of_map h])

theorem length_number {negative : Bool} {s rest : List Char} {n : Number}
    (h : number negative s = .ok (n, rest)) : rest.length < s.length := by
  unfold number at h
  split at h
  · simp at h
  · rename_i digits
    exact Nat.lt_of_le_of_lt (length_afterWhole_le h) (length_wholeDigits digits)

theorem length_skipDigits {s rest : List Char} (h : skipDigits s = .ok rest) :
    rest.length < s.length := by
  unfold skipDigits at h
  split at h
  · simp at h
  · split at h
    · cases h
      exact Nat.lt_succ_of_le (length_dropDigits_le _)
    · simp at h

theorem length_skipPower_le {s rest : List Char} (h : skipPower s = .ok rest) :
    rest.length ≤ s.length := by
  unfold skipPower at h
  split at h
  · cases h
    exact Nat.le_refl _
  · split at h
    · rename_i tail _
      have := length_skipDigits h
      have := length_sign_le tail
      simp only [List.length_cons]
      omega
    · cases h
      exact Nat.le_refl _

theorem length_skipAfterWhole_le {s rest : List Char} (h : skipAfterWhole s = .ok rest) :
    rest.length ≤ s.length := by
  unfold skipAfterWhole at h
  split at h
  · rename_i tail
    cases digits : skipDigits tail with
    | error p => simp [digits, Except.bind] at h
    | ok t =>
        simp only [digits, Except.bind] at h
        have := length_skipDigits digits
        have := length_skipPower_le h
        simp only [List.length_cons]
        omega
  · exact length_skipPower_le h

theorem length_skipNumber {s rest : List Char} (h : skipNumber s = .ok rest) :
    rest.length < s.length := by
  unfold skipNumber at h
  split at h
  · simp at h
  · split at h
    · split at h
      · simp at h
      · exact Nat.lt_succ_of_le (length_skipAfterWhole_le h)
    · cases h
      simp
  · split at h
    · rename_i tail _ _
      have := length_skipAfterWhole_le h
      have := length_dropDigits_le tail
      simp only [List.length_cons]
      omega
    · simp at h

end WhereClause.Json
