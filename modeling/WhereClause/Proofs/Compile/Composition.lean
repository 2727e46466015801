import WhereClause.Proofs.Agreement
import WhereClause.Proofs.Compile.Append
import WhereClause.Proofs.Compile.Global
import WhereClause.Proofs.Compile.Noninterference
import WhereClause.Proofs.Filter.Document

/-!
# Compiling is compositional

The clause of two lists of filters holds the sections of the first list and then those of the
second (`compile_append_ok`), and the first list decides the failure when both fail
(`compile_append_error_iff`).  In the default mode the text follows the same way: the two
conjunctions are joined by AND, as far as they have a text (`Clause.body_append`).

A filter that has a column, no active item and need not have one is passed over
(`compile_passed`).  Whether a compilation succeeds and whether its clause is valid are
questions about the members of the list, so the order of the filters does not matter for
either (`compile_perm_ok_iff`, `isValid_perm`).
-/

set_option autoImplicit false

namespace WhereClause

variable {o : Options} {filters others : List Filter} {c d : Clause}

/-! ## Two lists, one after the other -/

/-- **Two lists fail** as the first one does, or as the second one when the first does not. -/
theorem compile_append_error_iff {failure : Failure} :
    compile (filters ++ others) o = .error failure ↔
      compile filters o = .error failure ∨
        (∃ c, compile filters o = .ok c) ∧ compile others o = .error failure := by
  rw [compile_append]
  cases compile filters o with
  | error refusal => simp [bind, Except.bind]
  | ok c =>
      cases compile others o with
      | error refusal => simp [bind, Except.bind]
      | ok d => simp [bind, Except.bind]

/-- **Two lists that compile make one clause**, the sections of the first before those of the
second. -/
theorem compile_append_ok (compiled : compile filters o = .ok c)
    (compiledToo : compile others o = .ok d) :
    compile (filters ++ others) o = .ok (c.append d) := by
  rw [compile_append, compiled, compiledToo]
  rfl

/-! ## Texts -/

/-- A text with one blank behind it; no text stays without one. -/
def ended (text : String) : String := if text = "" then "" else text ++ " "

namespace Clause

/-- The texts of the conjuncts with AND between them. -/
def conjunction (c : Clause) : String := String.intercalate " AND " (c.texts .conjunct)

theorem texts_append (c d : Clause) (role : Role) :
    (c.append d).texts role = c.texts role ++ d.texts role := by
  unfold texts append
  exact List.filterMap_append

/-- The body of a clause without alternatives is its conjunction. -/
theorem body_of_plain (plain : c.texts .alternative = []) : c.body = ended c.conjunction := by
  rw [body, plain, ended, conjunction]
  simp

/-- **The conjunction of two clauses** joins theirs by AND, as far as they have a text. -/
theorem conjunction_append (c d : Clause) :
    (c.append d).conjunction =
      String.intercalate " AND " ([c.conjunction, d.conjunction].filter (· ≠ "")) := by
  have empty (c : Clause) : c.conjunction = "" ↔ c.texts .conjunct = [] := conjunction_eq_empty
  have joined : (c.append d).conjunction =
      String.intercalate " AND " (c.texts .conjunct ++ d.texts .conjunct) := by
    rw [conjunction, texts_append]
  rw [joined]
  by_cases first : c.texts .conjunct = []
  · rw [first, (empty c).2 first, List.nil_append]
    by_cases second : d.conjunction = ""
    · simp [(empty d).1 second, second]
    · have only : ["", d.conjunction].filter (· ≠ "") = [d.conjunction] := by simp [second]
      rw [only, String.intercalate_singleton, conjunction]
  · have filled : c.conjunction ≠ "" := mt (empty c).1 first
    by_cases second : d.texts .conjunct = []
    · have only : [c.conjunction, ""].filter (· ≠ "") = [c.conjunction] := by simp [filled]
      rw [second, (empty d).2 second, List.append_nil, only, String.intercalate_singleton,
        conjunction]
    · have filledToo : d.conjunction ≠ "" := mt (empty d).1 second
      have both : [c.conjunction, d.conjunction].filter (· ≠ "") =
          [c.conjunction, d.conjunction] := by
        simp [filled, filledToo]
      rw [both, String.intercalate_append_of_ne_nil first second,
        String.intercalate_cons_cons, String.intercalate_singleton]
      rfl

/-- Two clauses without alternatives make one whose body joins their conjunctions. -/
theorem body_append (plain : c.texts .alternative = []) (plainToo : d.texts .alternative = []) :
    (c.append d).body =
      ended (String.intercalate " AND " ([c.conjunction, d.conjunction].filter (· ≠ ""))) := by
  rw [body_of_plain, conjunction_append]
  rw [texts_append, plain, plainToo, List.append_nil]

/-- In the default mode a compiled clause has no alternatives. -/
theorem texts_alternative_of_default (compiled : compile filters o = .ok c)
    (mode : o.mode = .default) : c.texts .alternative = [] := by
  obtain ⟨-, entries⟩ := (compile_ok_iff filters o c).1 compiled
  rw [texts_compiled entries, ← Filter.twins]
  have same : o = { o with mode := .default } := by rw [← mode]
  rw [same, Filter.twins_default]
  rfl

end Clause

/-! ## Filters that are passed over -/

/-- **A filter that has a column, no active item and need not have one changes nothing**,
wherever it stands. -/
theorem compile_passed {f : Filter} (one : f.declaresOne = true) (inactive : f.active = [])
    (free : f.required = false) :
    compile (filters ++ f :: others) o = compile (filters ++ others) o := by
  have checked : f.check = .ok () := Filter.check_ok_iff_declaresOne.2 one
  have passed : f.isRegistered = false := by
    simp [Filter.isRegistered, Filter.hasActive_eq, inactive, free]
  have step (c : Clause) : Filter.register o c f = .ok c := by
    rw [Filter.register, checked, passed]
    rfl
  rw [compile, compile, List.foldlM_append, List.foldlM_append]
  refine bind_congr fun c => ?_
  rw [List.foldlM_cons, step]
  rfl

/-! ## Reordering -/

/-- **The order of the filters does not matter for whether they compile.** -/
theorem compile_perm_ok_iff (perm : filters.Perm others) :
    (∃ c, compile filters o = .ok c) ↔ ∃ d, compile others o = .ok d := by
  have usable (filters : List Filter) :
      (∃ c, compile filters o = .ok c) ↔ ∀ f ∈ filters, f.Usable o := by
    constructor
    · rintro ⟨c, compiled⟩
      exact ((compile_ok_iff filters o c).1 compiled).1
    · intro each
      exact ⟨⟨_⟩, (compile_ok_iff filters o _).2 ⟨each, rfl⟩⟩
  rw [usable, usable]
  exact forall_congr' fun f => imp_congr_left perm.mem_iff

/-- **Nor does it matter for whether the clause is valid.** -/
theorem isValid_perm (perm : filters.Perm others) (compiled : compile filters o = .ok c)
    (compiledToo : compile others o = .ok d) : c.isValid = d.isValid := by
  rw [Bool.eq_iff_iff, isValid_iff_of_compile compiled, isValid_iff_of_compile compiledToo]
  simp only [perm.mem_iff]

/-! ## All together -/

/-- **Compiling is compositional in the list of filters.** Two lists, one after the other, fail
as the first does, or else as the second; when neither fails, their clause is the one built by
adding the sections of the first and then those of the second, so it has the sections of both,
and in the default mode its body joins what the bodies have in front of their last blank.
Filters that have a column, no active item and need not have one can be left out, and the order
of the filters matters neither for the success nor for the validity of the clause. -/
theorem compile_compositional (filters others : List Filter) (o : Options) :
    (∀ failure, compile (filters ++ others) o = .error failure ↔
      compile filters o = .error failure ∨
        (∃ c, compile filters o = .ok c) ∧ compile others o = .error failure) ∧
    (∀ c d, compile filters o = .ok c → compile others o = .ok d →
      ∃ e, compile (filters ++ others) o = .ok e ∧
        e = Clause.ofAdditions (c.entries ++ d.entries) ∧ e.count = c.count + d.count ∧
        (o.mode = .default → ∃ first second, c.body = ended first ∧ d.body = ended second ∧
          e.body = ended (String.intercalate " AND " ([first, second].filter (· ≠ ""))))) ∧
    (∀ f, f.declaresOne = true → f.active = [] → f.required = false →
      compile (filters ++ f :: others) o = compile (filters ++ others) o) ∧
    ∀ reordered, filters.Perm reordered →
      ((∃ c, compile filters o = .ok c) ↔ ∃ d, compile reordered o = .ok d) ∧
        ∀ c d, compile filters o = .ok c → compile reordered o = .ok d → c.isValid = d.isValid := by
  refine ⟨fun failure => compile_append_error_iff, ?_, ?_, ?_⟩
  · intro c d compiled compiledToo
    refine ⟨c.append d, compile_append_ok compiled compiledToo, ?_, ?_, ?_⟩
    · rw [Clause.ofAdditions, Clause.foldl_add]
      rfl
    · simp [Clause.count, Clause.append]
    · intro mode
      have plain := Clause.texts_alternative_of_default compiled mode
      have plainToo := Clause.texts_alternative_of_default compiledToo mode
      exact ⟨c.conjunction, d.conjunction, Clause.body_of_plain plain,
        Clause.body_of_plain plainToo, Clause.body_append plain plainToo⟩
  · intro f one inactive free
    exact compile_passed one inactive free
  · intro reordered perm
    exact ⟨compile_perm_ok_iff perm, fun c d => isValid_perm perm⟩

/-- A filter on a column by the values that are selected. -/
def selecting (field : String) (values : List String) : Filter :=
  ⟨none, some ⟨field, field⟩, values.map Item.ofText, false, .discrete, .ordinal, .atLeast⟩

/-- Two filters that have a text, with one between them that is passed over. -/
theorem compile_compositional_towns :
    (selecting "B" []).active = [] ∧
      ∃ e, compile [selecting "A" ["x"], selecting "B" [], selecting "C" ["y"]] {} = .ok e ∧
        e.count = 2 ∧ e.body = "A IN ('x') AND C IN ('y') " ∧
        ∃ d, compile [selecting "C" ["y"], selecting "A" ["x"]] {} = .ok d ∧
          d.isValid = e.isValid := by
  obtain ⟨-, both, passed, -⟩ :=
    compile_compositional [selecting "A" ["x"]] [selecting "C" ["y"]] {}
  obtain ⟨e, together, -, count, -⟩ := both _ _ rfl rfl
  have idle := passed (selecting "B" []) rfl rfl rfl
  obtain ⟨succeeds, valid⟩ := (compile_compositional [selecting "A" ["x"], selecting "C" ["y"]] []
    {}).2.2.2 [selecting "C" ["y"], selecting "A" ["x"]] (.swap _ _ [])
  obtain ⟨d, other⟩ := succeeds.1 ⟨e, together⟩
  refine ⟨rfl, e, idle.trans together, count, ?_, d, other, (valid e d together other).symm⟩
  cases together
  decide +kernel

end WhereClause
