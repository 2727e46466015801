import WhereClause.Json.Record

/-!
# Values of any type

A value that is kept has to be well formed throughout: its numbers have to be
finite, its escapes have to name characters, and its lists and objects may be
nested only to a limit.
-/

set_option autoImplicit false

namespace WhereClause.Json

/-- A value that is neither a list nor an object, whose first character has been
read. -/
def scalar (c : Char) (rest : List Char) : Scan Unit :=
  match c with
  | 'n' => Reader.wordFor ['u', 'l', 'l'] () rest
  | 't' => Reader.wordFor ['r', 'u', 'e'] () rest
  | 'f' => Reader.wordFor ['a', 'l', 's', 'e'] () rest
  | '"' => (textFrom [] rest).map fun (_, rest) => ((), rest)
  | '-' => (number true rest).map fun (_, rest) => ((), rest)
  | c =>
      if c.isDigit then (number false (c :: rest)).map fun (_, rest) => ((), rest)
      else .error .expectedValue

/-- A result without its value leaves as much as the result itself. -/
theorem length_of_map_unit {α : Type} {rest : List Char} {bound : Nat} {u : Unit}
    {scan : Scan α} (le : ∀ {a : α} {t : List Char}, scan = .ok (a, t) → t.length ≤ bound)
    (h : scan.map (fun (_, rest) => ((), rest)) = .ok (u, rest)) : rest.length ≤ bound := by
  cases scan with
  | error p => simp [Except.map] at h
  | ok pair =>
      obtain ⟨a, t⟩ := pair
      simp only [Except.map, Except.ok.injEq, Prod.mk.injEq] at h
      exact h.2 ▸ le rfl

theorem length_scalar {c : Char} {s rest : List Char} {u : Unit}
    (h : scalar c s = .ok (u, rest)) : rest.length ≤ s.length := by
  unfold scalar at h
  split at h
  · exact Reader.length_wordFor h
  · exact Reader.length_wordFor h
  · exact Reader.length_wordFor h
  · exact length_of_map_unit (fun read => Nat.le_of_lt (length_textFrom read)) h
  · exact length_of_map_unit (fun read => Nat.le_of_lt (length_number read)) h
  · split at h
    · refine length_of_map_unit (fun read => ?_) h
      exact Nat.le_of_lt_succ (length_number read)
    · simp at h

/-- An object of any members with values of one kind. -/
def Record.ofMembers (value : Reader Unit) : Record Unit Unit where
  title := ""
  fields := []
  blank := ()
  other _ := value.map fun _ => id
  listed := false
  finish := .ok

/-- A value of any type, with so many levels of lists and objects at most. -/
def Reader.strict : Nat → Reader Unit
  | 0 =>
      .ofFirst
        (fun c rest => if c = '[' ∨ c = '\x7b' then .error .tooDeep else scalar c rest)
        (fun {_ _ _ _} h => by
          split at h
          · simp at h
          · exact length_scalar h)
  | levels + 1 =>
      .ofFirst
        (fun c rest =>
          if c = '[' then
            ((strict levels).elements [] true rest).map fun (_, rest) => ((), rest)
          else if c = '\x7b' then (Record.ofMembers (strict levels)).members () true rest
          else scalar c rest)
        (fun {_ _ _ _} h => by
          split at h
          · exact length_of_map_unit (fun read => Nat.le_of_lt (length_elements read)) h
          · split at h
            · exact Nat.le_of_lt (Record.length_members h)
            · exact length_scalar h)

end WhereClause.Json
