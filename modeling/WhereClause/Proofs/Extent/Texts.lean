import WhereClause.Extent

/-!
# An extent depends on the texts of its items

The pass over some items looks at one side of each and at nothing else.  Two passes over
items with the same texts on that side run alongside: they fail together, or their extremes
have the same texts (`widen_congr`, `foldlM_congr`).  A collation matters only to two items
or more.  So **items with the same texts have the same extent** (`ofItems_congr`).
-/

set_option autoImplicit false

namespace WhereClause

/-- Two computations that go on alike after results that look the same end alike. -/
theorem map_bind_congr {ε α β γ δ : Type} {x y : Except ε α} {view : α → β}
    {h k : α → Except ε γ} {look : γ → δ} (same : x.map view = y.map view)
    (further : ∀ a b, view a = view b → (h a).map look = (k b).map look) :
    (x >>= h).map look = (y >>= k).map look := by
  cases x with
  | error failure =>
      cases y with
      | error refusal =>
          cases same
          rfl
      | ok b => cases same
  | ok a =>
      cases y with
      | error refusal => cases same
      | ok b => exact further a b (Except.ok.inj same)

namespace Extent

/-- The texts of a pair of items on one side. -/
def texts (side : Side) (pair : Item × Item) : String × String := (pair.1.on side, pair.2.on side)

variable {collation : Collation} {side : Side}

/-- One step of two passes over items with the same texts. -/
theorem widen_congr {pair other : Item × Item} {x y : Item}
    (same : texts side pair = texts side other) (item : x.on side = y.on side) :
    (widen collation side pair x).map (texts side) =
      (widen collation side other y).map (texts side) := by
  obtain ⟨least, greatest⟩ := Prod.mk.inj same
  unfold widen Collation.compareItems
  rw [least, greatest, item]
  cases collation.compare (y.on side) (other.1.on side) with
  | error failure => rfl
  | ok low =>
      cases collation.compare (y.on side) (other.2.on side) with
      | error failure => rfl
      | ok high =>
          cases low <;> cases high <;>
            simp [bind, Except.bind, Except.map, texts, least, greatest, item]

/-- Two whole passes over items with the same texts. -/
theorem foldlM_congr {items others : List Item} {pair other : Item × Item}
    (same : texts side pair = texts side other)
    (texted : (items.map fun v => v.on side) = others.map fun v => v.on side) :
    (items.foldlM (widen collation side) pair).map (texts side) =
      (others.foldlM (widen collation side) other).map (texts side) := by
  induction items generalizing others pair other with
  | nil =>
      cases others with
      | nil => exact congrArg Except.ok same
      | cons y others => cases texted
  | cons x items ih =>
      cases others with
      | nil => cases texted
      | cons y others =>
          obtain ⟨item, rest⟩ := List.cons.inj texted
          rw [List.foldlM_cons, List.foldlM_cons]
          exact map_bind_congr (widen_congr same item) fun next further same => ih same rest

/-- The extent of two items or more is written with the texts of the extremes. -/
theorem ofItems_eq_map (first second : Item) (rest : List Item) :
    ofItems collation side (first :: second :: rest) =
      ((extremes collation side first (second :: rest)).map (texts side)).map fun (low, high) =>
        .span rest.length (side.literal low) (side.literal high) := by
  rw [ofItems]
  cases extremes collation side first (second :: rest) <;> rfl

/-- **Items with the same texts have the same extent**, under any two collations unless
there are items to compare. -/
theorem ofItems_congr {other : Collation} {items others : List Item}
    (texted : (items.map fun v => v.on side) = others.map fun v => v.on side)
    (ordered : 2 ≤ items.length → collation = other) :
    ofItems collation side items = ofItems other side others := by
  have lengths : items.length = others.length := by
    simpa using congrArg List.length texted
  match items, others with
  | [], [] => rfl
  | [x], [y] =>
      have item : x.on side = y.on side := by simpa using texted
      simp [ofItems, Item.literal, item]
  | x :: w :: items, y :: z :: others =>
      obtain rfl := ordered (by simp)
      obtain ⟨item, rest⟩ := List.cons.inj texted
      have run : (extremes collation side x (w :: items)).map (texts side) =
          (extremes collation side y (z :: others)).map (texts side) :=
        foldlM_congr (by simp [texts, item]) rest
      have length : items.length = others.length := by simpa using lengths
      rw [ofItems_eq_map, ofItems_eq_map, run, length]

end Extent

end WhereClause
