import WhereClause.Proofs.Extent.Refusal
import Mathlib.Control.Monad.Basic

/-!
# What the extent of a selection is

The pass over the items of a range is described item by item, without the pass.  Nothing is asked
of a single item, so it is both extremes whatever it is.  Of two items or more all must have keys.
When some have none, the second item is blamed before the first one, and the first one before all
others, which are blamed in their order (`blamed_of_refused`).

When all have keys, the least literal is that of the earliest item whose key is not above any key,
and the greatest that of the earliest item whose key is not below any (`Covers.isEarliest`): of
items with one key the first counts, at both ends.  **This is all that can happen**
(`ofItems_spec`).
-/

set_option autoImplicit false

namespace WhereClause.Extent

/-! ## The earliest item with a property -/

/-- An item of a list that has a property which no item before it has. -/
def IsEarliest (p : Item → Prop) (items : List Item) (v : Item) : Prop :=
  ∃ earlier later, items = earlier ++ v :: later ∧ p v ∧ ∀ w ∈ earlier, ¬ p w

/-- A search from the front finds the earliest item with a property. -/
theorem isEarliest_of_find? {test : Item → Bool} {p : Item → Prop} {items : List Item} {v : Item}
    (decides : ∀ w, test w = true ↔ p w) (found : items.find? test = some v) :
    IsEarliest p items v := by
  obtain ⟨holds, earlier, later, parts, fails⟩ := List.find?_eq_some_iff_append.1 found
  refine ⟨earlier, later, parts, (decides v).1 holds, ?_⟩
  intro w here held
  have failed := fails w here
  rw [(decides w).2 held] at failed
  cases failed

/-! ## Keys -/

/-- Two items have keys, and the key of the first one is not above that of the second. -/
def KeyLE (collation : Collation) (side : Side) (v w : Item) : Prop :=
  ∃ x y, collation.key (v.on side) = .ok x ∧ collation.key (w.on side) = .ok y ∧
    Ord.compare x y ≠ .gt

variable {collation : Collation} {side : Side}

theorem before_iff_keyLE {v w : Item} :
    before collation side v w = true ↔ KeyLE collation side v w := by
  unfold before KeyLE
  constructor
  · intro ordered
    obtain ⟨⟨x, keyV⟩, ⟨y, keyW⟩⟩ := Collation.readable_of_precedes ordered
    refine ⟨x, y, keyV, keyW, ?_⟩
    rw [Collation.precedes_eq keyV keyW] at ordered
    intro above
    rw [above] at ordered
    cases ordered
  · rintro ⟨x, y, keyV, keyW, notAbove⟩
    rw [Collation.precedes_eq keyV keyW]
    cases compared : Ord.compare x y with
    | lt => rfl
    | eq => rfl
    | gt => exact absurd compared notAbove

/-- **The extremes that the pass keeps** are the earliest item whose key is not above any key, and
the earliest one whose key is not below any. -/
theorem Covers.isEarliest {items : List Item} {least greatest : Item}
    (covers : Covers collation side items (least, greatest)) :
    IsEarliest (fun v => ∀ w ∈ items, KeyLE collation side v w) items least ∧
      IsEarliest (fun v => ∀ w ∈ items, KeyLE collation side w v) items greatest := by
  constructor
  · apply isEarliest_of_find? _ covers.least
    intro v
    simp only [List.all_eq_true, before_iff_keyLE]
  · apply isEarliest_of_find? _ covers.greatest
    intro v
    simp only [List.all_eq_true, behind, before_iff_keyLE]

/-! ## Blame -/

/-- Which item of several is blamed when some have no key: the second one if it has none,
otherwise the first one, and otherwise the earliest that has none. -/
structure Blamed (collation : Collation) (side : Side) (first second : Item) (rest : List Item)
    (v : Item) : Prop where
  ofSecond : ¬ collation.Readable (second.on side) → v = second
  ofFirst : collation.Readable (second.on side) → ¬ collation.Readable (first.on side) → v = first
  ofOthers : collation.Readable (second.on side) → collation.Readable (first.on side) →
    IsEarliest (fun w => ¬ collation.Readable (w.on side)) (first :: second :: rest) v

/-- The first item without a key, in the order in which the keys are taken, is the one to blame. -/
theorem blamed_of_refused {first second v : Item} {rest : List Item}
    (found : refused collation side (compared (first :: second :: rest)) = some v) :
    Blamed collation side first second rest v := by
  rw [compared, refused_cons, refused_cons] at found
  constructor
  · intro unreadable
    rw [Collation.readable_iff] at unreadable
    rw [if_neg unreadable] at found
    exact (Option.some.inj found).symm
  · intro readable unreadable
    rw [Collation.readable_iff] at readable unreadable
    rw [if_pos readable, if_neg unreadable] at found
    exact (Option.some.inj found).symm
  · intro readable readableToo
    rw [Collation.readable_iff] at readable readableToo
    rw [if_pos readable, if_pos readableToo] at found
    have search : refused collation side (first :: second :: rest) = some v := by
      rw [refused_cons, refused_cons, if_pos readable, if_pos readableToo, found]
    apply isEarliest_of_find? _ search
    intro w
    rw [Collation.readable_iff, Bool.not_eq_true', Bool.not_eq_true]

/-! ## The extent -/

/-- **What the extent of a selection is.** No items have no extremes.  A single item is both
extremes, whatever its literal.  Two items or more have no extent exactly when one of them has no
key, and the failure names the one to blame and says what it had to be; otherwise the extent
counts them all, and its literals are those of the earliest least and of the earliest greatest
item. -/
theorem ofItems_spec (collation : Collation) (side : Side) :
    (∃ e, ofItems collation side [] = .ok e ∧ e.count = 0 ∧ e.least? = none ∧
      e.greatest? = none) ∧
    (∀ item : Item, ∃ e, ofItems collation side [item] = .ok e ∧ e.count = 1 ∧
      e.least? = some (item.literal side) ∧ e.greatest? = some (item.literal side)) ∧
    ∀ (first second : Item) (rest : List Item),
      ((∃ failure, ofItems collation side (first :: second :: rest) = .error failure) ↔
        ∃ v ∈ first :: second :: rest, ¬ collation.Readable (v.on side)) ∧
      (∀ failure, ofItems collation side (first :: second :: rest) = .error failure →
        ∃ v wanted, failure = .invalidLiteral (v.on side) wanted ∧
          collation.wanted? = some wanted ∧ Blamed collation side first second rest v) ∧
      ∀ e, ofItems collation side (first :: second :: rest) = .ok e →
        e.count = (first :: second :: rest).length ∧
        ∃ least greatest, e.least? = some (least.literal side) ∧
          e.greatest? = some (greatest.literal side) ∧
          IsEarliest (fun v => ∀ w ∈ first :: second :: rest, KeyLE collation side v w)
            (first :: second :: rest) least ∧
          IsEarliest (fun v => ∀ w ∈ first :: second :: rest, KeyLE collation side w v)
            (first :: second :: rest) greatest := by
  refine ⟨⟨.empty, rfl, rfl, rfl, rfl⟩, fun item => ⟨.single _, rfl, rfl, rfl, rfl⟩, ?_⟩
  intro first second rest
  refine ⟨?_, ?_, ?_⟩
  · rw [ofItems_fails_iff]
    simp only [Collation.readable_iff, Bool.not_eq_true]
    have several : 2 ≤ (first :: second :: rest).length := by simp
    exact ⟨fun ⟨_, refused⟩ => refused, fun refused => ⟨several, refused⟩⟩
  · intro failure failed
    obtain ⟨v, found, keyV⟩ := ofItems_error_iff.1 failed
    obtain ⟨-, wanted, expected, named⟩ := Collation.key_error_iff.1 keyV
    exact ⟨v, wanted, named, expected, blamed_of_refused found⟩
  · intro e made
    obtain ⟨least, greatest, covers, rfl⟩ := ofItems_span made
    obtain ⟨earliestLeast, earliestGreatest⟩ := covers.isEarliest
    exact ⟨rfl, least, greatest, rfl, rfl, earliestLeast, earliestGreatest⟩

/-- Of numbers that are spelled in two ways the first spelling stands at either end; a range with
two words for numbers blames the second item, not the first. -/
theorem ofItems_spec_spellings :
    (∃ e, ofItems .numeric .id (["2", "1", "01", "02"].map Item.ofText) = .ok e ∧ e.count = 4 ∧
        e.least? = some "1" ∧ e.greatest? = some "2") ∧
      ∃ failure, ofItems .numeric .id (["one", "two", "3"].map Item.ofText) = .error failure ∧
        failure = .invalidLiteral "two" .number := by
  obtain ⟨-, -, several⟩ := ofItems_spec .numeric .id
  constructor
  · have made : ofItems .numeric .id (["2", "1", "01", "02"].map Item.ofText) =
        .ok (.span 2 "1" "2") := by decide +kernel
    obtain ⟨counted, -⟩ := (several _ _ _).2.2 _ made
    exact ⟨_, made, counted, rfl, rfl⟩
  · have unreadable (text : String) (word : Collation.numeric.accepts text = false) :
        ¬ Collation.numeric.Readable text := by
      rw [Collation.readable_iff, word]
      exact Bool.false_ne_true
    have two := unreadable "two" (by decide +kernel)
    obtain ⟨fails, names, -⟩ := several (.ofText "one") (.ofText "two") [.ofText "3"]
    obtain ⟨failure, failed⟩ := fails.2 ⟨.ofText "two", by simp, two⟩
    obtain ⟨v, wanted, rfl, expected, blamed⟩ := names failure failed
    cases expected
    obtain rfl := blamed.ofSecond two
    exact ⟨_, failed, rfl⟩

end WhereClause.Extent
