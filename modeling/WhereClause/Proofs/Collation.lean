import WhereClause.Proofs.Calendar.Reading
import WhereClause.Proofs.Extent

/-!
# Which literals can be ordered

A collation accepts the literals of its kind: every text, the finite numbers, or the dates
of its format.  A literal has a key exactly when it is accepted (`readable_iff`), and one
that is not is refused by name, together with what it had to be (`key_error_iff`).

A blank literal is neither a number nor a date, so **only the collation of texts accepts
blank literals** (`accepts_of_blank`).
-/

set_option autoImplicit false

namespace WhereClause.Collation

/-- Whether a literal is of the kind that a collation orders. -/
def accepts (collation : Collation) (text : String) : Bool :=
  match collation with
  | .ordinal => true
  | .numeric => (number? text).isSome
  | .date format => (Calendar.Moment.parse? format text).isSome

/-- What a literal has to be for a collation; the collation of texts takes every one. -/
def wanted? : Collation → Option Wanted
  | .ordinal => none
  | .numeric => some .number
  | .date format => some (.date format)

variable {collation : Collation} {text : String}

/-- **A literal is refused by name**, exactly when it is not of the collation's kind. -/
theorem key_error_iff {failure : Failure} :
    collation.key text = .error failure ↔ collation.accepts text = false ∧
      ∃ wanted ∈ collation.wanted?, failure = .invalidLiteral text wanted := by
  cases collation with
  | ordinal => simp [key, accepts]
  | numeric =>
      cases number : number? text <;> simp [key, accepts, wanted?, number, eq_comm]
  | date format =>
      cases moment : Calendar.Moment.parse? format text <;>
        simp [key, accepts, wanted?, moment, eq_comm]

/-- A literal has a key exactly when it is accepted. -/
theorem readable_iff : collation.Readable text ↔ collation.accepts text = true := by
  unfold Readable
  cases collation with
  | ordinal => simp [key, accepts]
  | numeric => cases number : number? text <;> simp [key, accepts, number]
  | date format =>
      cases moment : Calendar.Moment.parse? format text <;> simp [key, accepts, moment]

theorem exists_key_error (rejected : collation.accepts text = false) :
    ∃ failure, collation.key text = .error failure := by
  cases keyed : collation.key text with
  | error failure => exact ⟨failure, rfl⟩
  | ok key =>
      rw [readable_iff.1 ⟨key, keyed⟩] at rejected
      cases rejected

/-- The code points of a text, by which it is ordered. -/
def codes (s : List Char) : Key := s.map fun c => (c.toNat : Int)

theorem codes_cons (c : Char) (s : List Char) : codes (c :: s) = (c.toNat : Int) :: codes s := rfl

theorem codes_inj {s t : List Char} : codes s = codes t ↔ s = t := by
  have injective (c d : Char) (same : (c.toNat : Int) = d.toNat) : c = d :=
    Char.toNat_inj.1 (Int.ofNat.inj same)
  exact List.map_inj_right injective

/-- Texts with one place in the order are one text. -/
theorem eq_of_precedes_ordinal {a b : String} (before : ordinal.precedes a b = true)
    (behind : ordinal.precedes b a = true) : a = b := by
  have keyed (text : String) : ordinal.key text = .ok (codes text.toList) := rfl
  rw [precedes_eq (keyed a) (keyed b)] at before
  rw [precedes_eq (keyed b) (keyed a)] at behind
  have keys : codes a.toList = codes b.toList :=
    Std.LawfulEqCmp.compare_eq_iff_eq.1 (Std.OrientedCmp.isLE_antisymm before behind)
  exact String.toList_injective (codes_inj.1 keys)

/-- A blank literal is no number. -/
theorem number?_of_blank (blank : Text.isBlankText text = true) : number? text = none := by
  have nothing : Text.trimmed text.toList = [] := Text.trimmed_of_all blank
  rw [number?, nothing]
  rfl

/-- **Only the collation of texts accepts blank literals.** -/
theorem accepts_of_blank (blank : Text.isBlankText text = true) :
    collation.accepts text = true ↔ collation = .ordinal := by
  cases collation with
  | ordinal => simp [accepts]
  | numeric => simp [accepts, number?_of_blank blank]
  | date format => simp [accepts, Calendar.Moment.parse?_of_blank format blank]

/-- A blank literal has a place only in the order of texts. -/
theorem eq_ordinal_of_precedes {other : String} (before : collation.precedes text other = true)
    (blank : Text.isBlankText text = true) : collation = .ordinal :=
  (accepts_of_blank blank).1 (readable_iff.1 (readable_of_precedes before).1)

end WhereClause.Collation
