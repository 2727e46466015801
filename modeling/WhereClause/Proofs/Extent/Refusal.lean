import WhereClause.Proofs.Collation

/-!
# Which selections have no extent

The keys of literals are taken only in order to compare them.  A single item is not
compared with anything, so nothing is asked of it; of two items or more the key of the
second one is taken first, then that of the first one, and then those of the others in
their order (`compared`).  The first literal among them that the collation does not accept
ends the pass.

**A selection has no extent exactly when an item that is compared is not accepted**, and
the failure names the first such item (`ofItems_error_iff`).
-/

set_option autoImplicit false

namespace WhereClause.Extent

/-- The items whose keys are taken, in the order in which that happens. -/
def compared : List Item → List Item
  | first :: second :: rest => second :: first :: rest
  | _ => []

/-- The first item of some whose literal is not accepted. -/
def refused (collation : Collation) (side : Side) (items : List Item) : Option Item :=
  items.find? fun v => !collation.accepts (v.on side)

variable {collation : Collation} {side : Side} {failure : Failure}

/-- Items are compared as soon as there are two of them. -/
theorem mem_compared {items : List Item} {v : Item} :
    v ∈ compared items ↔ 2 ≤ items.length ∧ v ∈ items := by
  cases items with
  | nil => simp [compared]
  | cons first rest =>
      cases rest with
      | nil => simp [compared]
      | cons second rest => simp [compared, or_left_comm]

theorem refused_cons (item : Item) (items : List Item) :
    refused collation side (item :: items) =
      if collation.accepts (item.on side) then refused collation side items else some item := by
  unfold refused
  rw [List.find?_cons]
  cases collation.accepts (item.on side) <;> rfl

/-- One step of the pass fails when the key of the item cannot be taken, provided that the
extremes so far have theirs. -/
theorem widen_error_iff {pair : Item × Item} {x : Item}
    (least : collation.Readable (pair.1.on side)) (greatest : collation.Readable (pair.2.on side)) :
    widen collation side pair x = .error failure ↔ collation.key (x.on side) = .error failure := by
  obtain ⟨low, keyLow⟩ := least
  obtain ⟨high, keyHigh⟩ := greatest
  unfold widen Collation.compareItems Collation.compare
  cases keyX : collation.key (x.on side) <;> simp [keyLow, keyHigh, bind, Except.bind]

/-- After a step the extremes have their keys. -/
theorem readable_widen {pair next : Item × Item} {x : Item}
    (widened : widen collation side pair x = .ok next) :
    collation.Readable (next.1.on side) ∧ collation.Readable (next.2.on side) := by
  obtain ⟨least, greatest⟩ := pair
  obtain ⟨readable, readableLeast, readableGreatest, rfl⟩ := widen_ok widened
  constructor
  · dsimp only
    split
    · exact readableLeast
    · exact readable
  · dsimp only
    split
    · exact readableGreatest
    · exact readable

/-- The whole pass fails at the first item that is not accepted. -/
theorem foldlM_error_iff {items : List Item} {pair : Item × Item}
    (least : collation.Readable (pair.1.on side)) (greatest : collation.Readable (pair.2.on side)) :
    items.foldlM (widen collation side) pair = .error failure ↔
      ∃ v ∈ refused collation side items, collation.key (v.on side) = .error failure := by
  induction items generalizing pair with
  | nil => simp [refused, pure, Except.pure]
  | cons x items ih =>
      rw [List.foldlM_cons, refused_cons]
      cases widened : widen collation side pair x with
      | error first =>
          have keyX := (widen_error_iff least greatest).1 widened
          have rejected := (Collation.key_error_iff.1 keyX).1
          simp [rejected, keyX, bind, Except.bind]
      | ok next =>
          have accepted := Collation.readable_iff.1 (widen_ok widened).1
          obtain ⟨nextLeast, nextGreatest⟩ := readable_widen widened
          simpa [accepted, bind, Except.bind] using ih nextLeast nextGreatest

/-- **A selection has no extent exactly when an item that is compared is not accepted**, and
the first such item is the one that is named. -/
theorem ofItems_error_iff {items : List Item} :
    ofItems collation side items = .error failure ↔
      ∃ v ∈ refused collation side (compared items),
        collation.key (v.on side) = .error failure := by
  cases items with
  | nil => simp [ofItems, compared, refused]
  | cons first rest =>
      cases rest with
      | nil => simp [ofItems, compared, refused]
      | cons second rest =>
          have whole : ofItems collation side (first :: second :: rest) = .error failure ↔
              extremes collation side first (second :: rest) = .error failure := by
            rw [ofItems]
            cases extremes collation side first (second :: rest) <;> simp [bind, Except.bind]
          rw [whole, extremes, compared, List.foldlM_cons, refused_cons, refused_cons]
          cases keySecond : collation.key (second.on side) with
          | error refusal =>
              have rejected := (Collation.key_error_iff.1 keySecond).1
              simp [rejected, keySecond, widen, Collation.compareItems, Collation.compare, bind,
                Except.bind]
          | ok y =>
              have accepted := Collation.readable_iff.1 ⟨y, keySecond⟩
              cases keyFirst : collation.key (first.on side) with
              | error refusal =>
                  have rejected := (Collation.key_error_iff.1 keyFirst).1
                  simp [accepted, rejected, keySecond, keyFirst, widen, Collation.compareItems,
                    Collation.compare, bind, Except.bind]
              | ok x =>
                  have both := Collation.readable_iff.1 ⟨x, keyFirst⟩
                  have run : (second :: rest).foldlM (widen collation side) (first, first) =
                      .error failure ↔ ∃ v ∈ refused collation side (second :: rest),
                        collation.key (v.on side) = .error failure :=
                    foldlM_error_iff ⟨x, keyFirst⟩ ⟨x, keyFirst⟩
                  rw [List.foldlM_cons, refused_cons] at run
                  simpa [accepted, both] using run

/-- The failure of a selection names one of its literals, which is not accepted. -/
theorem exists_refused {items : List Item}
    (failed : ofItems collation side items = .error failure) :
    ∃ v ∈ items, collation.accepts (v.on side) = false ∧
      ∃ wanted ∈ collation.wanted?, failure = .invalidLiteral (v.on side) wanted := by
  obtain ⟨v, found, keyV⟩ := ofItems_error_iff.1 failed
  obtain ⟨-, here⟩ := mem_compared.1 (List.mem_of_find?_eq_some found)
  exact ⟨v, here, Collation.key_error_iff.1 keyV⟩

/-- **A selection of two items or more has no extent when any of them is not accepted**, and
one of a single item always has. -/
theorem ofItems_fails_iff {items : List Item} :
    (∃ failure, ofItems collation side items = .error failure) ↔
      2 ≤ items.length ∧ ∃ v ∈ items, collation.accepts (v.on side) = false := by
  simp only [ofItems_error_iff]
  constructor
  · rintro ⟨failure, v, found, keyV⟩
    obtain ⟨several, here⟩ := mem_compared.1 (List.mem_of_find?_eq_some found)
    exact ⟨several, v, here, (Collation.key_error_iff.1 keyV).1⟩
  · rintro ⟨several, v, here, rejected⟩
    cases found : refused collation side (compared items) with
    | none =>
        have accepted := List.find?_eq_none.1 found v (mem_compared.2 ⟨several, here⟩)
        simp [rejected] at accepted
    | some w =>
        have rejectedW : collation.accepts (w.on side) = false := by
          simpa using List.find?_some found
        obtain ⟨failure, keyW⟩ := Collation.exists_key_error rejectedW
        exact ⟨failure, w, rfl, keyW⟩

end WhereClause.Extent
