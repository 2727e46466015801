import WhereClause.Proofs.Compile.Registration
import WhereClause.Proofs.Filter.Meaning
import WhereClause.Proofs.Filter.Refusal

/-!
# A filter with its items in another order

The order of the items of a filter settles neither which of them are active, nor which stand
for the absence of a value, nor whether their literals are of the declared type.  So a filter
can be used in one order of its items exactly when it can be used in any other
(`usable_withItems`).

The pass over the values of a range keeps the first of those that could be its extremes.
When all of them are written alike, the order does not show (`SpelledOnce`); texts always are
(`spelledOnce_of_ordinal`).
-/

set_option autoImplicit false

namespace WhereClause

namespace Extent

/-- An item of some that is related to all of them. -/
def IsExtreme (r : Item → Item → Bool) (items : List Item) (v : Item) : Prop :=
  v ∈ items ∧ ∀ w ∈ items, r v w = true

theorem isExtreme_first {r : Item → Item → Bool} {items : List Item} {v : Item}
    (found : first r items = some v) : IsExtreme r items v :=
  first_spec found

/-- Which items are extreme does not depend on their order. -/
theorem isExtreme_perm {r : Item → Item → Bool} {items others : List Item}
    (perm : items.Perm others) {v : Item} : IsExtreme r items v ↔ IsExtreme r others v := by
  simp only [IsExtreme, perm.mem_iff]

/-- An extreme item in front of the others is the first one. -/
theorem first_cons_of_isExtreme {r : Item → Item → Bool} {v : Item} {rest : List Item}
    (extreme : IsExtreme r (v :: rest) v) : first r (v :: rest) = some v := by
  have related : ((v :: rest).all fun u => r v u) = true := List.all_eq_true.2 extreme.2
  rw [first, List.find?_cons, related]

/-- An item in front of the others that is not extreme is passed over. -/
theorem first_cons_cons_of_isExtreme {r : Item → Item → Bool} {v w : Item} {rest : List Item}
    (passed : ¬ IsExtreme r (v :: w :: rest) v) (extreme : IsExtreme r (v :: w :: rest) w) :
    first r (v :: w :: rest) = some w := by
  have related : ((v :: w :: rest).all fun u => r v u) = false := by
    rw [Bool.eq_false_iff]
    intro all
    exact passed ⟨by simp, List.all_eq_true.1 all⟩
  have further : ((v :: w :: rest).all fun u => r w u) = true := List.all_eq_true.2 extreme.2
  rw [first, List.find?_cons, related, List.find?_cons, further]

/-- When a least item is greatest as well, all items have its place in the order, and each of
them is both. -/
theorem isExtreme_of_tied {collation : Collation} {side : Side} {items : List Item} {u v : Item}
    (least : IsExtreme (before collation side) items u)
    (greatest : IsExtreme (behind collation side) items u) (here : v ∈ items) :
    IsExtreme (before collation side) items v ∧ IsExtreme (behind collation side) items v :=
  ⟨⟨here, fun w there => before_trans v u w (greatest.2 v here) (least.2 w there)⟩,
    ⟨here, fun w there => behind_trans v u w (least.2 v here) (greatest.2 w there)⟩⟩

end Extent

namespace Filter

/-- A filter with other items. -/
def withItems (f : Filter) (items : List Item) : Filter := { f with items := items }

variable {o : Options} {f : Filter} {items : List Item}

theorem active_withItems (perm : items.Perm f.items) :
    (f.withItems items).active.Perm f.active :=
  perm.filter _

theorem values_withItems (perm : items.Perm f.items) :
    (f.withItems items).values.Perm f.values :=
  (active_withItems perm).filter _

theorem nulls_withItems (perm : items.Perm f.items) :
    (f.withItems items).nulls.Perm f.nulls :=
  (active_withItems perm).filter _

theorem isRegistered_withItems (perm : items.Perm f.items) :
    (f.withItems items).isRegistered = f.isRegistered := by
  have any : items.any Item.isActive = f.items.any Item.isActive := perm.any_eq
  simp [isRegistered, hasActive, withItems, any]

/-- **A filter can be used in one order of its items exactly when it can in any other.** -/
theorem usable_withItems (perm : items.Perm f.items) :
    (f.withItems items).Usable o ↔ f.Usable o := by
  unfold Usable
  rw [isRegistered_withItems perm]
  refine and_congr_right fun named => imp_congr_right fun _ => ?_
  obtain ⟨field, named⟩ := named
  have namedToo : f.field = .ok field := named
  have values := values_withItems perm
  rw [toSection_ok_iff named, toSection_ok_iff namedToo, values.length_eq]
  simp only [values.mem_iff]
  rfl

/-! ## Values that are written alike -/

/-- The values that precede all values are written alike, and so are those that all values
precede. -/
structure SpelledOnce (o : Options) (f : Filter) : Prop where
  least : ∀ v w, Extent.IsExtreme (Extent.before (f.collation o) f.side) f.values v →
    Extent.IsExtreme (Extent.before (f.collation o) f.side) f.values w →
    v.literal f.side = w.literal f.side
  greatest : ∀ v w, Extent.IsExtreme (Extent.behind (f.collation o) f.side) f.values v →
    Extent.IsExtreme (Extent.behind (f.collation o) f.side) f.values w →
    v.literal f.side = w.literal f.side

theorem collation_eq_ordinal_iff : f.collation o = .ordinal ↔ f.valueType = .ordinal := by
  unfold Filter.collation Collation.ofValueType
  cases f.valueType <;> simp

/-- The values of texts are written alike when they have one place in the order. -/
theorem spelledOnce_of_ordinal (ordinal : f.valueType = .ordinal) : f.SpelledOnce o := by
  have collation : f.collation o = .ordinal := collation_eq_ordinal_iff.2 ordinal
  constructor
  · rw [collation]
    rintro v w ⟨here, before⟩ ⟨there, behind⟩
    exact congrArg f.side.literal
      (Collation.eq_of_precedes_ordinal (before w there) (behind v here))
  · rw [collation]
    rintro v w ⟨here, before⟩ ⟨there, behind⟩
    exact congrArg f.side.literal
      (Collation.eq_of_precedes_ordinal (behind v here) (before w there))

/-- The section of a range over two values or more: its operand is made of the first least
and the first greatest of them. -/
theorem toSection_span (range : f.kind = .range) (several : 2 ≤ f.values.length) {s : Section}
    (built : f.toSection o = .ok s) :
    ∃ least greatest, Extent.Covers (f.collation o) f.side f.values (least, greatest) ∧
      s = f.operandSection o f.fieldName (.extent (.span (f.values.length - 2)
        (least.literal f.side) (greatest.literal f.side))) := by
  obtain ⟨field, named, ⟨empty, -⟩ | ⟨-, operand, made, rfl⟩⟩ := toSection_cases built
  · simp [empty] at several
  · match values : f.values with
    | [] | [_] => simp [values] at several
    | first :: second :: rest =>
        obtain ⟨least, greatest, covers, rfl⟩ := operand_span made range values
        rw [values] at covers
        exact ⟨least, greatest, covers, by rw [fieldName_eq named]; simp⟩

end Filter

end WhereClause
