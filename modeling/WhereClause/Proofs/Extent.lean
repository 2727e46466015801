import WhereClause.Extent

/-!
# The extremes of a selection

Literals that have a key are ordered by it, and any two of them can be compared.  The
extremes are found in one pass that compares every item with the least and with the
greatest so far (`widen_ok`).  What the pass keeps is that the least so far is the first
item that precedes all items so far, and the greatest the first one that all of them
precede.  **So the two literals of a range are the first least and the first greatest of
all the items** (`ofItems_span`).
-/

set_option autoImplicit false

namespace WhereClause

/-- A key of one number is compared by that number. -/
theorem Key.compare_singleton (x y : Int) : Ord.compare [x] [y] = Ord.compare x y := by
  rw [List.compare_cons_cons, List.compare_nil_nil, Ordering.then_eq]

namespace Collation

/-- Whether two literals have a key and the first one does not come later. -/
def precedes (collation : Collation) (a b : String) : Bool :=
  match collation.compare a b with
  | .ok ordering => ordering.isLE
  | .error _ => false

/-- Whether a literal has a key. -/
def Readable (collation : Collation) (text : String) : Prop := ∃ key, collation.key text = .ok key

variable {collation : Collation} {a b c : String}

theorem compare_eq {x y : Key} (first : collation.key a = .ok x)
    (second : collation.key b = .ok y) :
    collation.compare a b = .ok (Ord.compare x y) := by
  simp [compare, first, second, bind, Except.bind]

theorem precedes_eq {x y : Key} (first : collation.key a = .ok x)
    (second : collation.key b = .ok y) :
    collation.precedes a b = (Ord.compare x y).isLE := by
  simp [precedes, compare_eq first second]

/-- Two literals that can be compared have a key. -/
theorem readable_of_compare {ordering : Ordering}
    (compared : collation.compare a b = .ok ordering) :
    collation.Readable a ∧ collation.Readable b := by
  unfold compare at compared
  cases first : collation.key a with
  | error failure => simp [first, bind, Except.bind] at compared
  | ok x =>
      cases second : collation.key b with
      | error failure => simp [first, second, bind, Except.bind] at compared
      | ok y => exact ⟨⟨x, first⟩, ⟨y, second⟩⟩

theorem readable_of_precedes (before : collation.precedes a b = true) :
    collation.Readable a ∧ collation.Readable b := by
  unfold precedes at before
  cases compared : collation.compare a b with
  | error failure => simp [compared] at before
  | ok ordering => exact readable_of_compare compared

theorem precedes_refl (readable : collation.Readable a) : collation.precedes a a = true := by
  obtain ⟨x, key⟩ := readable
  rw [precedes_eq key key]
  exact Std.ReflOrd.isLE_rfl

theorem precedes_trans (first : collation.precedes a b = true)
    (second : collation.precedes b c = true) : collation.precedes a c = true := by
  obtain ⟨⟨x, keyA⟩, ⟨y, keyB⟩⟩ := readable_of_precedes first
  obtain ⟨-, ⟨z, keyC⟩⟩ := readable_of_precedes second
  rw [precedes_eq keyA keyB] at first
  rw [precedes_eq keyB keyC] at second
  rw [precedes_eq keyA keyC]
  exact Std.TransOrd.isLE_trans first second

theorem precedes_total (readableA : collation.Readable a) (readableB : collation.Readable b) :
    collation.precedes a b = true ∨ collation.precedes b a = true := by
  obtain ⟨x, keyA⟩ := readableA
  obtain ⟨y, keyB⟩ := readableB
  rw [precedes_eq keyA keyB, precedes_eq keyB keyA]
  by_cases before : (Ord.compare x y).isLE = true
  · exact .inl before
  · exact .inr (Ordering.isLE_of_eq_lt (Std.OrientedCmp.lt_of_not_isLE before))

/-- The first of two literals comes strictly earlier when the second does not precede
it. -/
theorem isLT_compare {ordering : Ordering} (compared : collation.compare a b = .ok ordering) :
    ordering.isLT = !collation.precedes b a := by
  obtain ⟨⟨x, keyA⟩, ⟨y, keyB⟩⟩ := readable_of_compare compared
  rw [compare_eq keyA keyB] at compared
  cases compared
  rw [precedes_eq keyB keyA, Std.OrientedOrd.eq_swap]
  cases Ord.compare y x <;> rfl

theorem isGT_compare {ordering : Ordering} (compared : collation.compare a b = .ok ordering) :
    ordering.isGT = !collation.precedes a b := by
  rw [precedes, compared]
  cases ordering <;> rfl

end Collation

namespace Extent

/-! ## The first of the extreme items -/

/-- The first item that is related to all of them. -/
def first (r : Item → Item → Bool) (items : List Item) : Option Item :=
  items.find? fun v => items.all fun w => r v w

/-- The relation between two items that the first one precedes the second. -/
def before (collation : Collation) (side : Side) (v w : Item) : Bool :=
  collation.precedes (v.on side) (w.on side)

/-- The relation between two items that the second one precedes the first. -/
def behind (collation : Collation) (side : Side) (v w : Item) : Bool := before collation side w v

theorem first_spec {r : Item → Item → Bool} {items : List Item} {v : Item}
    (found : first r items = some v) : v ∈ items ∧ ∀ w ∈ items, r v w = true :=
  ⟨List.mem_of_find?_eq_some found, by simpa using List.find?_some found⟩

theorem first_singleton {r : Item → Item → Bool} {v : Item} (reflexive : r v v = true) :
    first r [v] = some v := by
  simp [first, reflexive]

/-- One more item replaces the first extreme one only when it lies beyond.  No earlier item comes
in between, since one that reached the new item would carry the first extreme one up to it. -/
theorem first_append {r : Item → Item → Bool}
    (trans : ∀ u v w, r u v = true → r v w = true → r u w = true) {seen : List Item} {v x : Item}
    (found : first r seen = some v) (reflexive : r x x = true)
    (total : r v x = true ∨ r x v = true) :
    first r (seen ++ [x]) = some (if r v x then v else x) := by
  obtain ⟨-, least⟩ := first_spec found
  have split (u : Item) : ((seen ++ [x]).all fun w => r u w) =
      ((seen.all fun w => r u w) && r u x) := by
    simp
  unfold first
  rw [List.find?_append]
  simp only [split]
  by_cases kept : r v x = true
  · have same : (seen.find? fun u => (seen.all fun w => r u w) && r u x) = some v := by
      obtain ⟨holds, before, after, parts, earlier⟩ := List.find?_eq_some_iff_append.1 found
      refine List.find?_eq_some_iff_append.2 ⟨?_, before, after, parts, fun u here => ?_⟩
      · simp only [holds, kept, Bool.and_self]
      · have fails := earlier u here
        simp only [Bool.not_eq_true'] at fails
        simp [fails]
    simp [same, kept]
  · have beyond : r x v = true := total.resolve_left kept
    have none : (seen.find? fun u => (seen.all fun w => r u w) && r u x) = none := by
      rw [List.find?_eq_none]
      intro u here both
      simp only [Bool.and_eq_true, List.all_eq_true] at both
      have reaches : r v x = true := trans v u x (least u here) both.2
      exact kept reaches
    have all : (seen.all fun w => r x w) = true := by
      rw [List.all_eq_true]
      exact fun w here => trans x v w beyond (least w here)
    simp [none, kept, reflexive, all]

/-! ## The pass over the items -/

variable {collation : Collation} {side : Side}

theorem before_trans (u v w : Item) (first : before collation side u v = true)
    (second : before collation side v w = true) : before collation side u w = true :=
  Collation.precedes_trans first second

theorem behind_trans (u v w : Item) (first : behind collation side u v = true)
    (second : behind collation side v w = true) : behind collation side u w = true :=
  Collation.precedes_trans second first

/-- One step of the pass: the item and both extremes have a key, and the item replaces
an extreme that it lies beyond. -/
theorem widen_ok {least greatest x : Item} {pair : Item × Item}
    (widened : widen collation side (least, greatest) x = .ok pair) :
    collation.Readable (x.on side) ∧ collation.Readable (least.on side) ∧
      collation.Readable (greatest.on side) ∧
      pair = (if before collation side least x then least else x,
        if behind collation side greatest x then greatest else x) := by
  unfold widen Collation.compareItems at widened
  cases low : collation.compare (x.on side) (least.on side) with
  | error failure => simp [low, bind, Except.bind] at widened
  | ok lowOrdering =>
      cases high : collation.compare (x.on side) (greatest.on side) with
      | error failure => simp [low, high, bind, Except.bind] at widened
      | ok highOrdering =>
          obtain ⟨readable, readableLeast⟩ := Collation.readable_of_compare low
          obtain ⟨-, readableGreatest⟩ := Collation.readable_of_compare high
          refine ⟨readable, readableLeast, readableGreatest, ?_⟩
          simp only [low, high, bind, Except.bind, Collation.isLT_compare low,
            Collation.isGT_compare high] at widened
          cases widened
          unfold behind before
          cases collation.precedes (least.on side) (x.on side) <;>
            cases collation.precedes (x.on side) (greatest.on side) <;> rfl

/-- What the pass keeps: the extremes so far are the first ones of the items so far. -/
structure Covers (collation : Collation) (side : Side) (items : List Item)
    (extremes : Item × Item) : Prop where
  least : first (before collation side) items = some extremes.1
  greatest : first (behind collation side) items = some extremes.2

theorem covers_singleton {item : Item} (readable : collation.Readable (item.on side)) :
    Covers collation side [item] (item, item) :=
  ⟨first_singleton (Collation.precedes_refl readable),
    first_singleton (Collation.precedes_refl readable)⟩

/-- One step keeps the extremes of the items so far. -/
theorem covers_widen {seen : List Item} {extremes pair : Item × Item} {x : Item}
    (covers : Covers collation side seen extremes)
    (widened : widen collation side extremes x = .ok pair) :
    Covers collation side (seen ++ [x]) pair := by
  obtain ⟨least, greatest⟩ := extremes
  obtain ⟨readable, readableLeast, readableGreatest, rfl⟩ := widen_ok widened
  have reflexive : collation.precedes (x.on side) (x.on side) = true :=
    Collation.precedes_refl readable
  constructor
  · exact first_append before_trans covers.least reflexive
      (Collation.precedes_total readableLeast readable)
  · exact first_append behind_trans covers.greatest reflexive
      (Collation.precedes_total readable readableGreatest)

/-- The whole pass keeps the extremes of the items so far. -/
theorem covers_foldlM {rest seen : List Item} {extremes pair : Item × Item}
    (covers : Covers collation side seen extremes)
    (run : rest.foldlM (widen collation side) extremes = .ok pair) :
    Covers collation side (seen ++ rest) pair := by
  induction rest generalizing seen extremes with
  | nil =>
      cases run
      simpa using covers
  | cons x rest ih =>
      rw [List.foldlM_cons] at run
      cases widened : widen collation side extremes x with
      | error failure => simp [widened, bind, Except.bind] at run
      | ok next =>
          have further := ih (covers_widen covers widened)
            (by simpa [widened, bind, Except.bind] using run)
          simpa using further

/-- The first item of two or more that are compared has a key. -/
theorem readable_of_extremes {item second : Item} {rest : List Item} {pair : Item × Item}
    (run : extremes collation side item (second :: rest) = .ok pair) :
    collation.Readable (item.on side) := by
  rw [extremes, List.foldlM_cons] at run
  cases widened : widen collation side (item, item) second with
  | error failure => simp [widened, bind, Except.bind] at run
  | ok next => exact (widen_ok widened).2.1

/-- **The two literals of a range** are the first least and the first greatest of its
items. -/
theorem ofItems_span {item second : Item} {rest : List Item} {e : Extent}
    (made : ofItems collation side (item :: second :: rest) = .ok e) :
    ∃ least greatest, Covers collation side (item :: second :: rest) (least, greatest) ∧
      e = .span rest.length (least.literal side) (greatest.literal side) := by
  rw [ofItems] at made
  cases run : extremes collation side item (second :: rest) with
  | error failure => simp [run, bind, Except.bind] at made
  | ok pair =>
      obtain ⟨least, greatest⟩ := pair
      have covers := covers_foldlM (covers_singleton (readable_of_extremes run)) run
      refine ⟨least, greatest, covers, ?_⟩
      simp only [run, bind, Except.bind, Except.ok.injEq] at made
      exact made.symm

end Extent

end WhereClause
