import WhereClause.Program
import WhereClause.Proofs.Agreement
import WhereClause.Proofs.Compile.Registration
import WhereClause.Proofs.Filter.Document
import WhereClause.Proofs.Filter.Refusal
import Mathlib.Data.String.Basic

/-!
# Checking and compiling a document

Both begin by reading the document, and both look once more at what reading has settled: that
every filter declares exactly one column.  So **checking fails exactly when reading does**
(`checkDocument_error_iff`), and once a document has been read the only failure of a
compilation is a literal of a range that cannot be compared (`compile_error_of_declaresOne`).

A clause that is not valid is refused in the end (`compileDocument_error_iff`).  Hence every
clause that the program gives out is complete: it is valid, nothing in it is left out, and its
size is bounded by that of the document (`Clause.Complete`).
-/

set_option autoImplicit false

namespace WhereClause

/-! ## Reports -/

namespace Report

variable {α β : Type} {first : Report α} {second : α → Report β} {trouble : Trouble}

theorem bind_ok_iff {b : β} : (first >>= second).result = .ok b ↔
    ∃ a, first.result = .ok a ∧ (second a).result = .ok b := by
  change (first.andThen second).result = .ok b ↔ _
  unfold andThen
  cases first.result <;> simp

theorem bind_error_iff : (first >>= second).result = .error trouble ↔
    first.result = .error trouble ∨
      ∃ a, first.result = .ok a ∧ (second a).result = .error trouble := by
  change (first.andThen second).result = .error trouble ↔ _
  unfold andThen
  cases first.result <;> simp

/-- What has been warned of stays, whatever comes after it. -/
theorem mem_warnings_bind {warning : Warning} : warning ∈ (first >>= second).warnings ↔
    warning ∈ first.warnings ∨ ∃ a, first.result = .ok a ∧ warning ∈ (second a).warnings := by
  change warning ∈ (first.andThen second).warnings ↔ _
  unfold andThen
  cases first.result <;> simp

theorem ofFailure_ok_iff {e : Except Failure α} {a : α} :
    (ofFailure e).result = .ok a ↔ e = .ok a := by
  cases e <;> simp [ofFailure, ok, fail]

theorem ofFailure_error_iff {e : Except Failure α} :
    (ofFailure e).result = .error trouble ↔
      ∃ failure, e = .error failure ∧ trouble = .failure failure := by
  cases e <;> simp [ofFailure, ok, fail, eq_comm]

end Report

/-! ## Filters that have been read -/

namespace Filter

variable {f : Filter} {o : Options}

/-- A filter that declares exactly one column has its name. -/
theorem field_of_declaresOne (one : f.declaresOne = true) : ∃ field, f.field = .ok field :=
  check_ok_iff.1 (check_ok_iff_declaresOne.2 one)

/-- Whether a filter compares literals by their declared type: a range of numbers or of dates
over two values or more. -/
def Compares (f : Filter) : Prop :=
  f.kind = .range ∧ (f.valueType = .numeric ∨ f.valueType = .date) ∧ 2 ≤ f.values.length

/-- A range that has no extent compares literals, and the failure names one of them; texts are
compared as they stand, so none of them is rejected. -/
theorem compares_of_refused {failure : Failure} (range : f.kind = .range)
    (refused : Extent.ofItems (f.collation o) f.side f.values = .error failure) :
    f.Compares ∧ ∃ text wanted, failure = .invalidLiteral text wanted := by
  obtain ⟨several, -⟩ := Extent.ofItems_fails_iff.1 ⟨failure, refused⟩
  obtain ⟨v, -, rejected, wanted, -, rfl⟩ := Extent.exists_refused refused
  refine ⟨⟨range, ?_, several⟩, v.on f.side, wanted, rfl⟩
  cases type : f.valueType with
  | ordinal =>
      rw [collation, type] at rejected
      cases rejected
  | numeric => exact .inl rfl
  | date => exact .inr rfl

/-- **A filter that declares exactly one column fails only where it compares literals.** -/
theorem compares_of_failure? {failure : Failure} (one : f.declaresOne = true)
    (failed : f.failure? o = some failure) :
    f.Compares ∧ ∃ text wanted, failure = .invalidLiteral text wanted := by
  obtain ⟨field, named⟩ := field_of_declaresOne one
  unfold failure? at failed
  rw [check_ok_iff_declaresOne.2 one] at failed
  cases built : f.toSection o with
  | ok s => simp [built] at failed
  | error refusal =>
      cases registered : f.isRegistered with
      | false => simp [registered] at failed
      | true =>
          obtain rfl : refusal = failure := by simpa [built, registered] using failed
          obtain ⟨range, refused⟩ := (toSection_error_iff named).1 built
          exact compares_of_refused range refused

end Filter

/-- **Filters that declare exactly one column each fail only where they compare literals.** -/
theorem compile_error_of_declaresOne {filters : List Filter} {o : Options} {failure : Failure}
    (each : ∀ f ∈ filters, f.declaresOne = true) (failed : compile filters o = .error failure) :
    (∃ text wanted, failure = .invalidLiteral text wanted) ∧ ∃ f ∈ filters, f.Compares := by
  obtain ⟨f, here, failedHere⟩ := List.exists_of_findSome?_eq_some
    ((compile_error_iff filters o).1 failed)
  obtain ⟨compares, named⟩ := Filter.compares_of_failure? (each f here) failedHere
  exact ⟨named, f, here, compares⟩

/-! ## Complete clauses -/

/-- What can be said of every clause that the program gives out. -/
structure Clause.Complete (c : Clause) : Prop where
  valid : c.isValid = true
  filled : 1 ≤ c.count
  /-- A document has at most 50 filters, and each of them at most two sections. -/
  few : c.count ≤ 100
  /-- No section is missing or left out of the body. -/
  written : ∀ entry ∈ c.entries, ∃ s, entry.2 = some s ∧ s.render ≠ "" ∧ StandsIn s.render c.body
  body : c.body ≠ ""
  render : c.render = "WHERE " ++ c.body

/-- Every filter has at most two sections. -/
theorem count_compile_le {filters : List Filter} {o : Options} {c : Clause}
    (compiled : compile filters o = .ok c) : c.count ≤ 2 * filters.length := by
  obtain ⟨-, entries⟩ := (compile_ok_iff filters o c).1 compiled
  have first : (Filter.registered filters).length ≤ filters.length := List.length_filter_le _ _
  have second : (Filter.twins o filters).length ≤ (Filter.registered filters).length :=
    List.length_filter_le _ _
  rw [Clause.count, entries, Filter.length_additions]
  omega

/-- **A valid clause is complete** when it has been compiled from few filters. -/
theorem Clause.complete_of_compile {filters : List Filter} {o : Options} {c : Clause}
    (few : filters.length ≤ 50) (compiled : compile filters o = .ok c) (valid : c.isValid = true) :
    c.Complete := by
  have filled : c.entries ≠ [] := (isValid_iff.1 valid).1
  have written := written_of_isValid valid
  have body : c.body ≠ "" := by
    intro nothing
    obtain ⟨entry, here⟩ := List.exists_mem_of_ne_nil _ filled
    obtain ⟨s, -, text, within⟩ := written entry here
    rw [nothing] at within
    exact text within.eq_empty
  refine ⟨valid, List.length_pos_iff.2 filled, ?_, written, body, ?_⟩
  · have bound := count_compile_le compiled
    omega
  · rw [Clause.render, if_neg (by simpa using body)]

/-! ## Checking -/

namespace Program

variable {settings : Settings} {document : String} {trouble : Trouble}

/-- Every filter that declares exactly one column has its line in a summary. -/
theorem exists_lines {filters : List Filter} (each : ∀ f ∈ filters, f.declaresOne = true) :
    ∃ lines, (filters.mapM fun f => f.field.map (summaryLine f)) = .ok lines := by
  induction filters with
  | nil => exact ⟨[], rfl⟩
  | cons f filters ih =>
      obtain ⟨one, further⟩ := List.forall_mem_cons.1 each
      obtain ⟨field, named⟩ := Filter.field_of_declaresOne one
      obtain ⟨lines, rest⟩ := ih further
      refine ⟨summaryLine f field :: lines, ?_⟩
      rw [List.mapM_cons, named, rest]
      rfl

/-- **A document is summed up exactly when it is read.** -/
theorem exists_summary_iff : (∃ summary, (checkDocument document).result = .ok summary) ↔
    ∃ filters, Filter.parse document = .ok filters := by
  unfold checkDocument
  simp only [Report.bind_ok_iff, Report.ofFailure_ok_iff]
  constructor
  · rintro ⟨-, filters, parsed, -⟩
    exact ⟨filters, parsed⟩
  · rintro ⟨filters, parsed⟩
    obtain ⟨-, -, -, each⟩ := Filter.parse_ok_iff.1 parsed
    obtain ⟨lines, summed⟩ := exists_lines each
    exact ⟨_, filters, parsed, lines, summed, rfl⟩

/-- **Checking a document fails exactly when reading it does,** and in the same way. -/
theorem checkDocument_error_iff : (checkDocument document).result = .error trouble ↔
    ∃ failure, Filter.parse document = .error failure ∧ trouble = .failure failure := by
  constructor
  · intro failed
    have cause := failed
    rw [checkDocument, Report.bind_error_iff, Report.ofFailure_error_iff] at cause
    rcases cause with refused | ⟨filters, read, -⟩
    · exact refused
    · obtain ⟨summary, summed⟩ :=
        exists_summary_iff.2 ⟨filters, Report.ofFailure_ok_iff.1 read⟩
      rw [failed] at summed
      cases summed
  · intro refused
    rw [checkDocument, Report.bind_error_iff, Report.ofFailure_error_iff]
    exact .inl refused

/-! ## Compiling -/

/-- The warning about a clause that is not valid does not change the result. -/
theorem compileFilters_result (filters : List Filter) (o : Options) :
    (compileFilters filters o).result = (Report.ofFailure (compile filters o)).result := by
  unfold compileFilters
  cases compile filters o with
  | error failure => rfl
  | ok c =>
      change (Report.andThen (Report.ok c) _).result = _
      unfold Report.andThen
      cases reason : c.message? <;> simp [Report.ok, Report.ofFailure, reason]

/-- **A document is compiled exactly when it is read, its filters compile, and their clause is
valid.** -/
theorem compileDocument_ok_iff {c : Clause} :
    (compileDocument settings document).result = .ok c ↔
      ∃ filters, Filter.parse document = .ok filters ∧
        compile filters settings.options = .ok c ∧ c.isValid = true := by
  unfold compileDocument
  simp only [Report.bind_ok_iff, Report.ofFailure_ok_iff, compileFilters_result]
  refine exists_congr fun filters => and_congr_right fun _ => ?_
  constructor
  · rintro ⟨d, compiled, given⟩
    cases reason : d.message? with
    | some message => simp [reason, Report.fail] at given
    | none =>
        obtain rfl : d = c := by simpa [reason, Report.ok] using given
        exact ⟨compiled, Clause.isValid_iff_message?.2 reason⟩
  · rintro ⟨compiled, valid⟩
    refine ⟨c, compiled, ?_⟩
    rw [Clause.isValid_iff_message?.1 valid]
    rfl

/-- **Why a document is not compiled:** reading it fails, compiling its filters fails, or their
clause is not valid. -/
theorem compileDocument_error_iff :
    (compileDocument settings document).result = .error trouble ↔
      (∃ failure, Filter.parse document = .error failure ∧ trouble = .failure failure) ∨
        ∃ filters, Filter.parse document = .ok filters ∧
          ((∃ failure, compile filters settings.options = .error failure ∧
              trouble = .failure failure) ∨
            ∃ c reason, compile filters settings.options = .ok c ∧ c.message? = some reason ∧
              trouble = .invalidClause reason) := by
  unfold compileDocument
  simp only [Report.bind_error_iff, Report.ofFailure_error_iff, Report.ofFailure_ok_iff,
    compileFilters_result]
  refine or_congr_right (exists_congr fun filters => and_congr_right fun _ => or_congr_right ?_)
  refine exists_congr fun c => ?_
  cases reason : c.message? <;> simp [Report.ok, Report.fail, eq_comm]

/-! ## Agreement -/

/-- **Checking and compiling agree.** Checking fails exactly when the document cannot be read,
and compiling then fails in the same way.  A document that is read has at most 50 filters, each
of which declares exactly one column; then a compilation fails only for a literal, and only when
some filter compares literals, and compiling the document fails for that or because the clause
is not valid.  What compiling gives out is complete, and checking succeeds as well. -/
theorem check_compile_agree (settings : Settings) (document : String) :
    (∀ trouble, (checkDocument document).result = .error trouble ↔
      ∃ failure, Filter.parse document = .error failure ∧ trouble = .failure failure) ∧
    (∀ failure, Filter.parse document = .error failure →
      (compileDocument settings document).result = .error (.failure failure)) ∧
    (∀ filters, Filter.parse document = .ok filters →
      filters.length ≤ 50 ∧ (∀ f ∈ filters, f.declaresOne = true) ∧
      (∀ o failure, compile filters o = .error failure →
        (∃ text wanted, failure = .invalidLiteral text wanted) ∧ ∃ f ∈ filters, f.Compares) ∧
      ∀ trouble, (compileDocument settings document).result = .error trouble →
        ((∃ text wanted, trouble = .failure (.invalidLiteral text wanted)) ∧
          ∃ f ∈ filters, f.Compares) ∨
        ∃ c reason, compile filters settings.options = .ok c ∧ c.message? = some reason ∧
          trouble = .invalidClause reason) ∧
    ∀ c, (compileDocument settings document).result = .ok c →
      (∃ summary, (checkDocument document).result = .ok summary) ∧ c.Complete := by
  refine ⟨fun trouble => checkDocument_error_iff, ?_, ?_, ?_⟩
  · intro failure refused
    exact compileDocument_error_iff.2 (.inl ⟨failure, refused, rfl⟩)
  · intro filters parsed
    obtain ⟨-, -, few, each⟩ := Filter.parse_ok_iff.1 parsed
    refine ⟨few, each, fun o failure failed => compile_error_of_declaresOne each failed, ?_⟩
    intro trouble failed
    rcases compileDocument_error_iff.1 failed with ⟨failure, refused, -⟩ | ⟨read, same, cause⟩
    · rw [parsed] at refused
      cases refused
    · obtain rfl : filters = read := by simpa [parsed] using same
      rcases cause with ⟨failure, failedHere, rfl⟩ | invalid
      · obtain ⟨⟨text, wanted, rfl⟩, comparing⟩ := compile_error_of_declaresOne each failedHere
        exact .inl ⟨⟨text, wanted, rfl⟩, comparing⟩
      · exact .inr invalid
  · intro c given
    obtain ⟨filters, parsed, compiled, valid⟩ := compileDocument_ok_iff.1 given
    obtain ⟨-, -, few, -⟩ := Filter.parse_ok_iff.1 parsed
    exact ⟨exists_summary_iff.2 ⟨filters, parsed⟩,
      Clause.complete_of_compile few compiled valid⟩

/-- A range of numbers over two identifiers. -/
def amounts (first second : String) : Filter :=
  { idColumn := some ⟨"Amount", "amount"⟩
    valueColumn := none
    items := [.ofText first, .ofText second]
    required := false
    kind := .range
    valueType := .numeric
    bound := .atLeast }

/-- A document of one such range is read unless it is too long. -/
theorem parse_amounts {first second : String}
    (small : String.utf8Len (Json.Writer.list [(amounts first second).write]) ≤ maxDocumentBytes) :
    Filter.parse (Filter.render [amounts first second]) = .ok [amounts first second] := by
  have size : (Filter.render [amounts first second]).utf8ByteSize ≤ maxDocumentBytes := by
    rw [Filter.render, String.utf8ByteSize_ofList]
    exact small
  have few : [amounts first second].length ≤ maxFilters := by simp [maxFilters]
  have each : ∀ f ∈ [amounts first second], f.declaresOne = true := by
    simp [amounts, Filter.declaresOne]
  exact Filter.parse_ok_iff.2 ⟨size, Filter.decode_render _, few, each⟩

/-- No text at all is not read, a word is refused, and two numbers make a complete clause. -/
theorem check_compile_agree_amounts :
    (compileDocument ⟨{}, false⟩ "").result = .error (.failure (.invalidDocument (.ended .value))) ∧
      (∃ f ∈ [amounts "2" "ten"], f.Compares) ∧
      (∃ text wanted, (compileDocument ⟨{}, false⟩ (Filter.render [amounts "2" "ten"])).result =
        .error (.failure (.invalidLiteral text wanted))) ∧
      ∃ c, (compileDocument ⟨{}, false⟩ (Filter.render [amounts "10" "2"])).result = .ok c ∧
        c.Complete := by
  have nothing : Filter.parse "" = .error (.invalidDocument (.ended .value)) := by rfl
  have word := @parse_amounts "2" "ten" (by decide +kernel)
  have numbers := @parse_amounts "10" "2" (by decide +kernel)
  have refused : compile [amounts "2" "ten"] {} = .error (.invalidLiteral "ten" .number) :=
    (compile_error_iff _ _).2 (by decide)
  have troubled : (compileDocument ⟨{}, false⟩ (Filter.render [amounts "2" "ten"])).result =
      .error (.failure (.invalidLiteral "ten" .number)) :=
    compileDocument_error_iff.2 (.inr ⟨_, word, .inl ⟨_, refused, rfl⟩⟩)
  have usable : (amounts "10" "2").Usable {} :=
    ⟨⟨"amount", rfl⟩, fun _ => (Filter.toSection_ok_iff rfl).2 fun _ _ => by decide +kernel⟩
  have compiled := (compile_ok_iff [amounts "10" "2"] {} _).2 ⟨by simpa using usable, rfl⟩
  have given := (@compileDocument_ok_iff ⟨{}, false⟩ _ _).2
    ⟨_, numbers, compiled, by decide +kernel⟩
  obtain ⟨-, -, failures, troubles⟩ := (check_compile_agree ⟨{}, false⟩ _).2.2.1 _ word
  refine ⟨(check_compile_agree _ "").2.1 _ nothing, (failures {} _ refused).2, ?_,
    _, given, ((check_compile_agree _ _).2.2.2 _ given).2⟩
  rcases troubles _ troubled with ⟨⟨text, wanted, same⟩, -⟩ | ⟨c, reason, compiled, -⟩
  · exact ⟨text, wanted, same ▸ troubled⟩
  · rw [refused] at compiled
    cases compiled

end Program

end WhereClause
