import WhereClause.Proofs.Compile.Validity
import WhereClause.Proofs.Filter.Range
import WhereClause.Proofs.Filter.Reordering
import WhereClause.Proofs.Section.Reading
import Mathlib.Data.List.Perm.Subperm

/-!
# Ranges do not depend on the order of their items, but for spelling

Whether a filter compiles does not depend on the order of its items.  The text of a range
over two values or more does when a least or a greatest value can be spelled in several
ways: of `1` and `01` the one that comes first is written (`render_spellings`).

That is the only way in which the order shows.  **A range has one text in every order of its
items exactly when its extremes are spelled in one way** (`render_withItems_iff`).  For the
one direction the extremes in two orders are compared; for the other one, two spellings of
an extreme are each moved to the front, and the texts are told apart by what stands there.
-/

set_option autoImplicit false

namespace WhereClause

/-! ## Texts -/

/-- A text that stands on both sides of a mark can be read off the whole. -/
theorem eq_of_doubled {a b mark : String} (same : a ++ mark ++ a = b ++ mark ++ b) : a = b := by
  have chars := congrArg String.toList same
  simp only [String.toList_append] at chars
  have lengths := congrArg List.length chars
  simp only [List.length_append] at lengths
  exact String.toList_injective (List.append_inj_right' chars (by omega))

/-- The clause of one section and, possibly, that section once more. -/
theorem Clause.render_single {s : Section} (valid : s.isValid = true) (twin : Bool) :
    (Clause.mk ((.conjunct, some s) :: if twin then [(.alternative, some s)] else [])).render =
      "WHERE " ++ ((if twin then s.render ++ " OR " ++ s.render else s.render) ++ " ") := by
  have filled : s.render ≠ "" := Section.render_ne_empty valid
  cases twin <;>
    simp [render, body, texts, orElse, filled, String.intercalate_singleton]

namespace Filter

variable {o : Options} {f : Filter}

/-- The section of a range over two values or more is valid. -/
theorem isValid_operandSection_span (f : Filter) (o : Options) (field : String) (between : Nat)
    (least greatest : String) :
    (f.operandSection o field (.extent (.span between least greatest))).isValid = true := by
  rw [isValid_operandSection]
  rfl

/-- What stands in front of the extremes in the section of a range. -/
def opening (f : Filter) (o : Options) : String :=
  (if f.nulls = [] then "" else "(") ++ (Sql.qualify o.tableAlias f.fieldName ++ " BETWEEN ")

/-- What stands behind them. -/
def closing (f : Filter) (o : Options) : String :=
  if f.nulls = [] then "" else " OR " ++ ((nullSection o f.fieldName).withJoint .or).render ++ ")"

/-- The text of the section of a range over two values or more. -/
theorem render_operandSection_span (f : Filter) (o : Options) (between : Nat)
    (least greatest : String) :
    (f.operandSection o f.fieldName (.extent (.span between least greatest))).render =
      f.opening o ++ (least ++ " AND " ++ greatest) ++ f.closing o := by
  have test : (Condition.ofOperand f.fieldName o.tableAlias
      (.extent (.span between least greatest)) f.bound).render =
        Sql.qualify o.tableAlias f.fieldName ++ " BETWEEN " ++ (least ++ " AND " ++ greatest) := by
    simp [Condition.ofOperand, Condition.render, Condition.isValid, Extent.count, Extent.render,
      Condition.column]
  have check : ((nullSection o f.fieldName).withJoint .or).isValid = true := by simp
  unfold operandSection opening closing
  by_cases alone : f.nulls = []
  · simp only [alone, if_true]
    rw [Section.render_ofCondition rfl, test]
    simp [String.append_assoc]
  · simp only [alone, if_false]
    rw [Section.render_push_ofCondition rfl check, test]
    simp [String.append_assoc, nullSection, Section.ofCondition, Section.withJoint, Section.joint,
      Joint.keyword]

/-- The clause of a range with a given text of its extremes. -/
def around (f : Filter) (o : Options) (extremes : String) : String :=
  let text := f.opening o ++ extremes ++ f.closing o
  "WHERE " ++ ((if f.isTwin o then text ++ " OR " ++ text else text) ++ " ")

/-- The extremes can be read off the clause. -/
theorem around_inj {a b : String} (same : f.around o a = f.around o b) : a = b := by
  have texts : f.opening o ++ a ++ f.closing o = f.opening o ++ b ++ f.closing o := by
    simp only [around] at same
    cases twin : f.isTwin o with
    | false => simpa [twin] using same
    | true =>
        simp only [twin, if_true] at same
        exact eq_of_doubled (by simpa using same)
  simpa using texts

theorem around_withItems {items : List Item} (perm : items.Perm f.items) :
    (f.withItems items).around o = f.around o := by
  have nulls : (f.withItems items).nulls = [] ↔ f.nulls = [] := by
    rw [← List.length_eq_zero_iff, (nulls_withItems perm).length_eq, List.length_eq_zero_iff]
  funext extremes
  have opening : (f.withItems items).opening o = f.opening o := by
    unfold Filter.opening
    rw [ite_congr (propext nulls) (fun _ => rfl) fun _ => rfl]
    rfl
  have closing : (f.withItems items).closing o = f.closing o := by
    unfold Filter.closing
    rw [ite_congr (propext nulls) (fun _ => rfl) fun _ => rfl]
    rfl
  unfold around
  rw [opening, closing]
  rfl

/-- **The clause of a range** over two values or more is written with the first least and the
first greatest of them. -/
theorem render_range (range : f.kind = .range) (several : 2 ≤ f.values.length) {c : Clause}
    (compiled : compile [f] o = .ok c) :
    ∃ least greatest, Extent.Covers (f.collation o) f.side f.values (least, greatest) ∧
      c.render = f.around o (least.literal f.side ++ " AND " ++ greatest.literal f.side) := by
  obtain ⟨usable, entries⟩ := (compile_ok_iff [f] o c).1 compiled
  have registered : f.isRegistered = true :=
    isRegistered_of_values (List.ne_nil_of_length_pos (by omega))
  have built := (usable f (by simp)).toSection registered
  obtain ⟨least, greatest, covers, section_eq⟩ := toSection_span range several built
  refine ⟨least, greatest, covers, ?_⟩
  have valid : (f.builtSection o).isValid = true := by
    rw [section_eq]
    exact isValid_operandSection_span f o f.fieldName _ _ _
  have parts : c = ⟨(.conjunct, some (f.builtSection o)) ::
      if f.isTwin o then [(.alternative, some (f.builtSection o))] else []⟩ := by
    cases c
    simpa [additions, registered] using entries
  rw [parts, Clause.render_single valid, section_eq, render_operandSection_span]
  rfl

/-- The clause of a range in another order of its items. -/
theorem render_withItems (range : f.kind = .range) (several : 2 ≤ f.values.length)
    {items : List Item} (perm : items.Perm f.items) {d : Clause}
    (compiled : compile [f.withItems items] o = .ok d) :
    ∃ least greatest, Extent.Covers (f.collation o) f.side (f.withItems items).values
        (least, greatest) ∧
      d.render = f.around o (least.literal f.side ++ " AND " ++ greatest.literal f.side) := by
  have still : 2 ≤ (f.withItems items).values.length := by
    rwa [(values_withItems perm).length_eq]
  have rangeToo : (f.withItems items).kind = .range := range
  obtain ⟨least, greatest, covers, text⟩ := render_range rangeToo still compiled
  rw [around_withItems perm] at text
  exact ⟨least, greatest, covers, text⟩

/-- A filter compiles in one order of its items exactly when it does in any other. -/
theorem compile_withItems_iff {items : List Item} (perm : items.Perm f.items) :
    (∃ d, compile [f.withItems items] o = .ok d) ↔ ∃ c, compile [f] o = .ok c := by
  have compiles (g : Filter) : (∃ c, compile [g] o = .ok c) ↔ g.Usable o := by
    simp only [compile_ok_iff, List.mem_singleton, forall_eq, exists_and_left, and_iff_left_iff_imp]
    exact fun _ => ⟨⟨_⟩, rfl⟩
  rw [compiles, compiles, usable_withItems perm]

/-! ## Values moved to the front -/

/-- Some values of a filter can be moved to the front of all of them. -/
theorem exists_order {front : List Item} (among : front.Subperm f.values) :
    ∃ items, items.Perm f.items ∧ ∃ rest, (f.withItems items).values = front ++ rest := by
  have within : front.Subperm f.items :=
    List.Subperm.trans among (List.filter_sublist.trans List.filter_sublist).subperm
  have valued (v : Item) (here : v ∈ front) : v ∈ f.active ∧ (!v.isNull f.side) = true :=
    List.mem_filter.1 (List.Subperm.subset among here)
  have active : front.filter Item.isActive = front :=
    List.filter_eq_self.2 fun v here => (List.mem_filter.1 (valued v here).1).2
  have values : (front.filter fun v => !v.isNull f.side) = front :=
    List.filter_eq_self.2 fun v here => (valued v here).2
  refine ⟨front ++ f.items.diff front,
    List.subperm_append_diff_self_of_count_le fun v _ => List.Subperm.count_le within v,
    (f.withItems (f.items.diff front)).values, ?_⟩
  simp only [Filter.values, Filter.active, withItems, List.filter_append, active]
  exact congrArg (· ++ _) values

/-- Two values can be moved to the front, one behind the other. -/
theorem exists_order_pair {a b : Item} (first : a ∈ f.values) (second : b ∈ f.values) :
    ∃ items, items.Perm f.items ∧ ∃ rest, (f.withItems items).values = a :: rest ∧
      (a = b ∨ ∃ further, rest = b :: further) := by
  by_cases same : a = b
  · obtain ⟨items, perm, rest, values⟩ := exists_order (List.singleton_subperm_iff.2 first)
    exact ⟨items, perm, rest, values, .inl same⟩
  · have among : [a, b].Subperm f.values :=
      List.subperm_of_subset (by simpa using same) (by simp [first, second])
    obtain ⟨items, perm, rest, values⟩ := exists_order among
    exact ⟨items, perm, b :: rest, values, .inr ⟨rest, rfl⟩⟩

/-- A least and a greatest value are written in some order of the items, unless the least
one is greatest as well and comes in the way of the other. -/
theorem exists_render (range : f.kind = .range) (several : 2 ≤ f.values.length) {c : Clause}
    (compiled : compile [f] o = .ok c) {a b : Item}
    (least : Extent.IsExtreme (Extent.before (f.collation o) f.side) f.values a)
    (greatest : Extent.IsExtreme (Extent.behind (f.collation o) f.side) f.values b)
    (apart : Extent.IsExtreme (Extent.behind (f.collation o) f.side) f.values a → a = b) :
    ∃ items, items.Perm f.items ∧ ∃ d, compile [f.withItems items] o = .ok d ∧
      d.render = f.around o (a.literal f.side ++ " AND " ++ b.literal f.side) := by
  obtain ⟨items, perm, rest, values, next⟩ := exists_order_pair least.1 greatest.1
  obtain ⟨d, compiledToo⟩ := (compile_withItems_iff perm).2 ⟨c, compiled⟩
  obtain ⟨v, w, ⟨first, last⟩, text⟩ := render_withItems range several perm compiledToo
  rw [← Extent.isExtreme_perm (values_withItems perm), values] at least greatest apart
  rw [values] at first last
  have leastFirst : v = a :=
    Option.some.inj (first.symm.trans (Extent.first_cons_of_isExtreme least))
  have greatestFirst : w = b := by
    by_cases same : a = b
    · subst same
      exact Option.some.inj (last.symm.trans (Extent.first_cons_of_isExtreme greatest))
    · obtain ⟨further, rfl⟩ := next.resolve_left same
      exact Option.some.inj (last.symm.trans
        (Extent.first_cons_cons_of_isExtreme (mt apart same) greatest))
  subst leastFirst greatestFirst
  exact ⟨items, perm, d, compiledToo, text⟩

/-- When the text of a range is the same in every order, its extremes are spelled in one
way.  If all values have one place in the order, each of them can be written twice; otherwise no
least value is greatest, and any two extremes can be written together. -/
theorem spelledOnce_of_render (range : f.kind = .range) (several : 2 ≤ f.values.length)
    {c : Clause} (compiled : compile [f] o = .ok c)
    (same : ∀ items d, items.Perm f.items → compile [f.withItems items] o = .ok d →
      d.render = c.render) : f.SpelledOnce o := by
  have written {a b : Item}
      (least : Extent.IsExtreme (Extent.before (f.collation o) f.side) f.values a)
      (greatest : Extent.IsExtreme (Extent.behind (f.collation o) f.side) f.values b)
      (apart : Extent.IsExtreme (Extent.behind (f.collation o) f.side) f.values a → a = b) :
      f.around o (a.literal f.side ++ " AND " ++ b.literal f.side) = c.render := by
    obtain ⟨items, perm, d, compiledToo, text⟩ :=
      exists_render range several compiled least greatest apart
    rw [← text, same items d perm compiledToo]
  obtain ⟨least, greatest, covers, -⟩ := render_range range several compiled
  have isLeast := Extent.isExtreme_first covers.least
  have isGreatest := Extent.isExtreme_first covers.greatest
  by_cases tied : Extent.IsExtreme (Extent.behind (f.collation o) f.side) f.values least
  · have alike (v w : Item) (here : v ∈ f.values) (there : w ∈ f.values) :
        v.literal f.side = w.literal f.side := by
      obtain ⟨leastV, greatestV⟩ := Extent.isExtreme_of_tied isLeast tied here
      obtain ⟨leastW, greatestW⟩ := Extent.isExtreme_of_tied isLeast tied there
      exact eq_of_doubled (around_inj ((written leastV greatestV fun _ => rfl).trans
        (written leastW greatestW fun _ => rfl).symm))
    exact ⟨fun v w leastV leastW => alike v w leastV.1 leastW.1,
      fun v w greatestV greatestW => alike v w greatestV.1 greatestW.1⟩
  · have apart {v : Item}
        (leastV : Extent.IsExtreme (Extent.before (f.collation o) f.side) f.values v) :
        ¬ Extent.IsExtreme (Extent.behind (f.collation o) f.side) f.values v := fun greatestV =>
      tied (Extent.isExtreme_of_tied leastV greatestV isLeast.1).2
    constructor
    · intro v w leastV leastW
      have texts := around_inj ((written leastV isGreatest (absurd · (apart leastV))).trans
        (written leastW isGreatest (absurd · (apart leastW))).symm)
      simpa [String.append_assoc] using texts
    · intro v w greatestV greatestW
      have texts := around_inj ((written isLeast greatestV (absurd · tied)).trans
        (written isLeast greatestW (absurd · tied)).symm)
      simpa using texts

/-- **When the order of the items of a range does not show.** A range over two values or more
compiles in every order of its items or in none, and it has one text in all of them exactly
when its extremes are spelled in one way. -/
theorem render_withItems_iff (range : f.kind = .range) (several : 2 ≤ f.values.length) :
    (∀ items, items.Perm f.items →
      ((∃ d, compile [f.withItems items] o = .ok d) ↔ ∃ c, compile [f] o = .ok c)) ∧
    ∀ c, compile [f] o = .ok c →
      ((∀ items d, items.Perm f.items → compile [f.withItems items] o = .ok d →
        d.render = c.render) ↔ f.SpelledOnce o) := by
  refine ⟨fun items perm => compile_withItems_iff perm, fun c compiled =>
    ⟨spelledOnce_of_render range several compiled, fun spelled items d perm compiledToo => ?_⟩⟩
  obtain ⟨least, greatest, covers, text⟩ := render_range range several compiled
  obtain ⟨v, w, coversToo, textToo⟩ := render_withItems range several perm compiledToo
  have leastV := (Extent.isExtreme_perm (values_withItems perm)).1
    (Extent.isExtreme_first coversToo.least)
  have greatestW := (Extent.isExtreme_perm (values_withItems perm)).1
    (Extent.isExtreme_first coversToo.greatest)
  rw [text, textToo, spelled.least v least leastV (Extent.isExtreme_first covers.least),
    spelled.greatest w greatest greatestW (Extent.isExtreme_first covers.greatest)]

/-- A range over three texts, with the absence of a value selected as well. -/
def letters : Filter :=
  { idColumn := none
    valueColumn := some ⟨"Letter", "letter"⟩
    items := [⟨"", "m", true, false⟩, ⟨"", "-", true, false⟩, ⟨"", "a", true, false⟩,
      ⟨"", "q", true, false⟩]
    required := false
    kind := .range
    valueType := .ordinal
    bound := .atLeast }

theorem render_withItems_letters :
    ∃ c d, compile [letters] {} = .ok c ∧
      compile [letters.withItems letters.items.reverse] {} = .ok d ∧
      c.render = "WHERE (letter BETWEEN 'a' AND 'q' OR letter IS NULL) " ∧ d.render = c.render := by
  obtain ⟨compiles, same⟩ := @render_withItems_iff {} letters rfl (by decide)
  have compiled : ∃ c, compile [letters] {} = .ok c ∧
      c.render = "WHERE (letter BETWEEN 'a' AND 'q' OR letter IS NULL) " := ⟨_, rfl, rfl⟩
  obtain ⟨c, compiled, text⟩ := compiled
  have perm : letters.items.reverse.Perm letters.items := List.reverse_perm _
  obtain ⟨d, reversed⟩ := (compiles _ perm).2 ⟨c, compiled⟩
  exact ⟨c, d, compiled, reversed, text,
    (same c compiled).2 (spelledOnce_of_ordinal rfl) _ d perm reversed⟩

/-- A range over one number in two spellings. -/
def spellings : Filter := numberRange ["1", "01"]

/-- Of two spellings of a number the range has the one that comes first. -/
theorem render_spellings :
    spellings.kind = .range ∧ 2 ≤ spellings.values.length ∧
      spellings.items.reverse.Perm spellings.items ∧
      (compile [spellings] {}).map Clause.render = .ok "WHERE number BETWEEN 1 AND 1 " ∧
      (compile [spellings.withItems spellings.items.reverse] {}).map Clause.render =
        .ok "WHERE number BETWEEN 01 AND 01 " :=
  ⟨rfl, by decide, List.reverse_perm _, by decide +kernel, by decide +kernel⟩

end Filter

end WhereClause
