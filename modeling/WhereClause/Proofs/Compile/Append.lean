import WhereClause.Compile

/-!
# Compiling a list of filters part by part

What a filter adds to a clause does not depend on the clause (`register_append`).  So the
clause of two lists of filters, one after the other, is the clause of the first followed by
that of the second, and the first failure of either list in that order is the failure of
the whole (`compile_append`).
-/

set_option autoImplicit false

namespace WhereClause

/-- A clause followed by the sections of another one. -/
def Clause.append (c d : Clause) : Clause := ⟨c.entries ++ d.entries⟩

theorem Clause.append_empty (c : Clause) : c.append .empty = c := by
  simp [append, empty]

theorem Clause.append_assoc (c d e : Clause) : (c.append d).append e = c.append (d.append e) := by
  simp [append]

variable {o : Options}

/-- **What a filter adds** to a clause is what it adds to the empty one. -/
theorem Filter.register_append (c : Clause) (f : Filter) :
    register o c f = (register o .empty f).map c.append := by
  unfold register addTo
  cases f.check with
  | error failure => rfl
  | ok =>
      cases f.isRegistered with
      | false => simp [bind, Except.bind, Except.map, Clause.append_empty]
      | true =>
          cases f.toSection o with
          | error failure => rfl
          | ok s =>
              cases f.field with
              | error failure => rfl
              | ok field =>
                  cases twin : isDuplicated o field <;>
                    simp [twin, bind, Except.bind, Except.map, Clause.append, Clause.add,
                      Clause.empty]

/-- What some filters add to a clause is their own clause. -/
theorem Filter.foldlM_register (filters : List Filter) (c : Clause) :
    filters.foldlM (register o) c = (compile filters o).map c.append := by
  induction filters generalizing c with
  | nil => simp [compile, Except.map, pure, Except.pure, Clause.append_empty]
  | cons f filters ih =>
      rw [compile, List.foldlM_cons, List.foldlM_cons, register_append c]
      cases register o .empty f with
      | error failure => rfl
      | ok d =>
          simp only [bind, Except.bind, Except.map]
          rw [ih, ih]
          cases compile filters o with
          | error failure => rfl
          | ok e => simp [Except.map, Clause.append_assoc]

/-- **The clause of two lists of filters** is that of the first followed by that of the
second. -/
theorem compile_append (filters others : List Filter) (o : Options) :
    compile (filters ++ others) o =
      (do
        let c ← compile filters o
        let d ← compile others o
        .ok (c.append d)) := by
  rw [compile, List.foldlM_append]
  refine bind_congr fun c => ?_
  rw [Filter.foldlM_register]
  cases compile others o <;> rfl

/-- The clause of a list of filters starts with that of the first one. -/
theorem compile_cons (f : Filter) (filters : List Filter) (o : Options) :
    compile (f :: filters) o =
      (do
        let c ← compile [f] o
        let d ← compile filters o
        .ok (c.append d)) :=
  compile_append [f] filters o

end WhereClause
