import WhereClause.Proofs.Clause.Text
import WhereClause.Proofs.Compile.Validity

/-!
# The global mode

The mode settles only which filters have a second section.  Whether a filter can be used,
what its section is and how it fails do not depend on it, and no filter has a second section in
the default mode.

So **a list of filters compiles in the global mode exactly when it does in the default mode**,
and its clause is that of the default mode with the alternatives behind it (`compile_global`).
The second sections are registered between the others, but they are written behind all of
them.
-/

set_option autoImplicit false

namespace WhereClause

namespace Filter

variable {o : Options} {f : Filter} {filters : List Filter}

/-- The filters that take part on the column that was changed last; none when they are not to
have a second section. -/
def lastChanged (o : Options) (filters : List Filter) : List Filter :=
  filters.filter fun f =>
    f.isRegistered && (o.lastSelected == some f.fieldName && o.duplicateLastSelected)

/-- The texts of their sections, as far as they have one. -/
def lastTexts (o : Options) (filters : List Filter) : List String :=
  ((lastChanged o filters).map fun f => (f.builtSection o).render).filter (· ≠ "")

/-- The filters on that column are those with a second section in the global mode. -/
theorem twins_global (o : Options) (filters : List Filter) :
    twins { o with mode := .global } filters = lastChanged o filters := by
  simp [twins, registered, lastChanged, plays, isTwin, isDuplicated, List.filter_filter,
    Bool.and_comm]

/-- No filter has a second section in the default mode. -/
theorem twins_default (o : Options) (filters : List Filter) :
    twins { o with mode := .default } filters = [] := by
  rw [List.eq_nil_iff_forall_not_mem]
  intro f here
  obtain ⟨-, ⟨globally, -⟩, -⟩ := mem_twins.1 here
  cases globally

/-- In the default mode a filter adds the same whichever was changed last. -/
theorem register_default (o : Options) (last : Option String) (duplicate : Bool) :
    register { o with mode := .default, lastSelected := last, duplicateLastSelected := duplicate } =
      register { o with mode := .default } := by
  funext c f
  rfl

end Filter

namespace Clause

variable {o : Options} {filters : List Filter} {c g d : Clause}

/-- The texts of a compiled clause in one role. -/
theorem texts_compiled (entries : c.entries = filters.flatMap (Filter.additions o)) (role : Role) :
    c.texts role = (((Filter.registered filters).filter (Filter.plays o role)).map fun f =>
      (f.builtSection o).render).filter (· ≠ "") := by
  obtain ⟨parts⟩ := c
  subst entries
  exact Filter.texts_registered role filters

/-- A clause with an alternative that has a text has a conjunct that has it too. -/
theorem conjuncts_ne_nil (entries : c.entries = filters.flatMap (Filter.additions o))
    (further : c.texts .alternative ≠ []) : c.texts .conjunct ≠ [] := by
  obtain ⟨text, here⟩ := List.exists_mem_of_ne_nil _ further
  rw [texts_compiled entries] at here ⊢
  obtain ⟨member, filled⟩ := List.mem_filter.1 here
  obtain ⟨f, twin, rfl⟩ := List.mem_map.1 member
  have takesPart := (List.mem_filter.1 twin).1
  refine List.ne_nil_of_mem (a := (f.builtSection o).render) (List.mem_filter.2 ⟨?_, filled⟩)
  exact List.mem_map.2 ⟨f, List.mem_filter.2 ⟨takesPart, Filter.plays_conjunct o f⟩, rfl⟩

/-- **The text of a clause with alternatives** is that of another one with the same conjuncts
and no alternatives, and every alternative behind an OR. -/
theorem body_of_alternatives (entries : g.entries = filters.flatMap (Filter.additions o))
    (same : g.texts .conjunct = d.texts .conjunct) (plain : d.texts .alternative = []) :
    (g.texts .alternative = [] ∧ g.body = d.body) ∨ ∃ text, d.body = text ++ " " ∧
      g.body = text ++ String.join ((g.texts .alternative).map (" OR " ++ ·)) ++ " " := by
  by_cases further : g.texts .alternative = []
  · have blocks : g.blocks = d.blocks := by
      rw [Clause.blocks, Clause.blocks, same, plain, further]
    exact .inl ⟨further, by rw [body_eq, body_eq, blocks]⟩
  · have several := conjuncts_ne_nil entries further
    refine .inr ⟨String.intercalate " AND " (g.texts .conjunct), ?_, ?_⟩
    · rw [same] at several ⊢
      rw [body_of_conjuncts several, plain]
      simp
    · exact body_of_conjuncts several

end Clause

/-- **The global mode is the default mode with the second sections behind it.** Both fail with
one failure, or both compile: then the clauses are valid together, the one of the global mode
has one section more for every filter that takes part on the column that was changed last, and
the texts of these sections, as far as they have one, stand behind the other text with an OR
each.  In the default mode it does not matter which filter was changed last. -/
theorem compile_global (filters : List Filter) (o : Options) :
    ((∃ failure, compile filters { o with mode := .global } = .error failure ∧
        compile filters { o with mode := .default } = .error failure) ∨
      ∃ g d, compile filters { o with mode := .global } = .ok g ∧
        compile filters { o with mode := .default } = .ok d ∧ g.isValid = d.isValid ∧
        g.count = d.count + (Filter.lastChanged o filters).length ∧
        ((Filter.lastTexts o filters = [] ∧ g.body = d.body) ∨
          ∃ text, d.body = text ++ " " ∧ g.body =
            text ++ String.join ((Filter.lastTexts o filters).map (" OR " ++ ·)) ++ " ")) ∧
    ∀ last duplicate, compile filters { o with
        mode := .default, lastSelected := last, duplicateLastSelected := duplicate } =
      compile filters { o with mode := .default } := by
  constructor
  · cases compiled : compile filters { o with mode := .global } with
    | error failure =>
        have first := (compile_error_iff filters _).1 compiled
        exact .inl ⟨failure, rfl, (compile_error_iff filters _).2 first⟩
    | ok g =>
        obtain ⟨usable, entries⟩ := (compile_ok_iff filters _ g).1 compiled
        obtain ⟨d, compiledToo⟩ : ∃ d, compile filters { o with mode := .default } = .ok d :=
          ⟨_, (compile_ok_iff filters _ _).2 ⟨usable, rfl⟩⟩
        obtain ⟨-, entriesToo⟩ := (compile_ok_iff filters _ d).1 compiledToo
        have alternatives : g.texts .alternative = Filter.lastTexts o filters := by
          rw [Clause.texts_compiled entries, Filter.lastTexts, ← Filter.twins_global]
          rfl
        have plain : d.texts .alternative = [] := by
          rw [Clause.texts_compiled entriesToo, ← Filter.twins, Filter.twins_default]
          rfl
        have conjuncts : g.texts .conjunct = d.texts .conjunct := by
          rw [Clause.texts_compiled entries, Clause.texts_compiled entriesToo]
          rfl
        refine .inr ⟨g, d, rfl, compiledToo, ?_, ?_, ?_⟩
        · rw [Bool.eq_iff_iff, isValid_iff_of_compile compiled,
            isValid_iff_of_compile compiledToo]
        · rw [Clause.count, Clause.count, entries, entriesToo, Filter.length_additions,
            Filter.length_additions, Filter.twins_global, Filter.twins_default, List.length_nil,
            Nat.add_zero]
        · rw [← alternatives]
          exact Clause.body_of_alternatives entries conjuncts plain
  · intro last duplicate
    rw [compile, compile, Filter.register_default]

end WhereClause
