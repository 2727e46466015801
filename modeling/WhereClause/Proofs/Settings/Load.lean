import WhereClause.Proofs.Program
import WhereClause.Proofs.Settings.Layer
import WhereClause.Settings

/-!
# Which settings prevail

The settings come from the command line, from the settings file and from the file of the profile,
in this order, and from the defaults.  Two files are consulted at most (`Consulted`): that of the
profile when it is there, and the one that was asked for, which has to be there, or else the one
in the current directory when it is there.

Every setting is taken on its own from the first place that sets it (`Prevails`), and only then
the date format and the alias are checked (`Acceptable`).  **Loading gives the settings that
prevail, and fails exactly when a file that is consulted cannot be read or the settings that
prevail are not acceptable** (`load_ok_iff`): what a lower place says does not matter once an
upper one has spoken.
-/

set_option autoImplicit false

namespace WhereClause.Settings

open Files

/-! ## Files -/

/-- A file is a text that spells a layer. -/
def Says (content : Content) (layer : Layer) : Prop :=
  ∃ text, content.text? = some text ∧ Layer.parse text = .ok layer

/-- A file that may be absent says nothing then. -/
def SaysIfThere (content : Content) (layer : Layer) : Prop :=
  if content.exists? then Says content layer else layer = {}

/-- The layers of the files that are consulted. -/
structure Consulted (place : Place) (files : String → Content) (config : Option String)
    (lower upper : Layer) : Prop where
  profile : match place.home with
    | some home => SaysIfThere (files (profilePath home)) lower
    | none => lower = {}
  overlay : match config with
    | some path => (files (place.expand path)).exists? = true ∧
        Says (files (place.expand path)) upper
    | none => SaysIfThere (files (join place.current fileName)) upper

theorem readLayer_ok_iff {shown : String} {content : Content} {layer : Layer} :
    (readLayer shown content).result = .ok layer ↔ Says content layer := by
  unfold readLayer Says
  cases content.text? with
  | none => simp [Report.fail]
  | some text => cases parsed : Layer.parse text <;> simp [Report.fail, parsed]

theorem readOptional_ok_iff {shown : String} {content : Content} {layer : Layer} :
    (readOptional shown content).result = .ok layer ↔ SaysIfThere content layer := by
  unfold readOptional SaysIfThere
  split
  · exact readLayer_ok_iff
  · simp [Report.ok, eq_comm]

theorem consulted_iff {place : Place} {files : String → Content} {config : Option String}
    {lower upper : Layer} :
    Consulted place files config lower upper ↔
      (profile place files).result = .ok lower ∧
        (overlay place files config).result = .ok upper := by
  have lowest : (profile place files).result = .ok lower ↔
      match place.home with
      | some home => SaysIfThere (files (profilePath home)) lower
      | none => lower = {} := by
    unfold profile
    cases place.home with
    | none => simp [Report.ok, eq_comm]
    | some home => exact readOptional_ok_iff
  have above : (overlay place files config).result = .ok upper ↔
      match config with
      | some path => (files (place.expand path)).exists? = true ∧
          Says (files (place.expand path)) upper
      | none => SaysIfThere (files (join place.current fileName)) upper := by
    unfold overlay
    cases config with
    | none => exact readOptional_ok_iff
    | some path =>
        simp only
        split
        · next there => simp only [readLayer_ok_iff, there, true_and]
        · next missing => simp [Report.fail, missing]
  rw [lowest, above]
  exact ⟨fun consulted => ⟨consulted.profile, consulted.overlay⟩, fun both => ⟨both.1, both.2⟩⟩

/-! ## Settings -/

/-- The first value that is set, or a default. -/
def firstSet {α : Type} (values : List (Option α)) (default : α) : α :=
  (values.findSome? id).getD default

/-- Each setting is taken from the first place that sets it.  The command line can only switch
debugging on, and only it says which filter was changed last. -/
structure Prevails (cli : Overrides) (upper lower : Layer) (settings : Settings) : Prop where
  mode : settings.options.mode = firstSet [cli.mode, upper.mode, lower.mode] .default
  tableAlias : settings.options.tableAlias =
    firstSet [cli.tableAlias, upper.tableAlias, lower.tableAlias] ""
  dateFormat : settings.options.dateFormat =
    firstSet [cli.dateFormat, upper.dateFormat, lower.dateFormat] defaultDateFormat
  duplicateLastSelected : settings.options.duplicateLastSelected =
    firstSet [cli.duplicateLastSelected, upper.duplicateLastSelected,
      lower.duplicateLastSelected] true
  debug : settings.debug = (cli.debug || firstSet [upper.debug, lower.debug] false)
  lastSelected : settings.options.lastSelected = cli.lastSelected

theorem or_getD_eq_firstSet {α : Type} (first second third : Option α) (default : α) :
    (first.or (second.or third)).getD default = firstSet [first, second, third] default := by
  cases first <;> cases second <;> cases third <;> rfl

theorem prevails_iff {cli : Overrides} {upper lower : Layer} {settings : Settings} :
    Prevails cli upper lower settings ↔ resolve cli (upper.orElse lower) = settings := by
  have debug : (upper.debug.or lower.debug).getD false =
      firstSet [upper.debug, lower.debug] false := by
    cases upper.debug <;> cases lower.debug <;> rfl
  constructor
  · intro prevails
    obtain ⟨⟨mode, tableAlias, lastSelected, dateFormat, duplicate⟩, shown⟩ := settings
    obtain ⟨rfl, rfl, rfl, rfl, rfl, rfl⟩ := prevails
    simp only [resolve, Layer.orElse, or_getD_eq_firstSet, debug]
  · rintro rfl
    constructor <;> simp only [resolve, Layer.orElse, or_getD_eq_firstSet, debug]

/-- What is asked of the settings that prevail: a date format that shows something and has only
directives that are known, and an alias that is empty or a plain identifier. -/
structure Acceptable (o : Options) : Prop where
  shows : ∃ c ∈ o.dateFormat.toList, Text.isBlank c = false
  known : ∀ item ∈ Calendar.Format.items o.dateFormat.toList, item ≠ .malformed
  tableAlias : o.tableAlias = "" ∨ ∃ c rest, o.tableAlias.toList = c :: rest ∧
    (c.isAlpha = true ∨ c = '_') ∧ ∀ d ∈ rest, d.isAlphanum = true ∨ d = '_'

theorem isIdentifier_iff {s : String} :
    Sql.isIdentifier s = true ↔ ∃ c rest, s.toList = c :: rest ∧
      (c.isAlpha = true ∨ c = '_') ∧ ∀ d ∈ rest, d.isAlphanum = true ∨ d = '_' := by
  unfold Sql.isIdentifier
  cases s.toList with
  | nil => simp
  | cons c rest =>
      simp [Sql.isIdentifierStart, Sql.isIdentifierPart]

/-- What is asked of the settings is what is looked for when they are checked. -/
theorem acceptable_iff {settings : Settings} :
    Acceptable settings.options ↔ settings.trouble? = none := by
  have blank : Text.isBlankText settings.options.dateFormat = false ↔
      ∃ c ∈ settings.options.dateFormat.toList, Text.isBlank c = false := by
    simp [Text.isBlankText, List.all_eq_false]
  have known : Calendar.Format.isWellFormed settings.options.dateFormat = true ↔
      ∀ item ∈ Calendar.Format.items settings.options.dateFormat.toList, item ≠ .malformed := by
    simp [Calendar.Format.isWellFormed]
  have named : (settings.options.tableAlias.isEmpty = true ∨
      Sql.isIdentifier settings.options.tableAlias = true) ↔
      settings.options.tableAlias = "" ∨ ∃ c rest, settings.options.tableAlias.toList = c :: rest ∧
        (c.isAlpha = true ∨ c = '_') ∧ ∀ d ∈ rest, d.isAlphanum = true ∨ d = '_' := by
    rw [isIdentifier_iff, String.isEmpty_iff]
  have all : Acceptable settings.options ↔
      Text.isBlankText settings.options.dateFormat = false ∧
        Calendar.Format.isWellFormed settings.options.dateFormat = true ∧
        (settings.options.tableAlias.isEmpty = true ∨
          Sql.isIdentifier settings.options.tableAlias = true) := by
    rw [blank, known, named]
    exact ⟨fun a => ⟨a.shows, a.known, a.tableAlias⟩, fun a => ⟨a.1, a.2.1, a.2.2⟩⟩
  rw [all, trouble?]
  cases Text.isBlankText settings.options.dateFormat <;>
    cases Calendar.Format.isWellFormed settings.options.dateFormat <;>
    cases settings.options.tableAlias.isEmpty <;>
    cases Sql.isIdentifier settings.options.tableAlias <;> simp

theorem checked_result (settings : Settings) :
    (checked settings).result =
      match settings.trouble? with
      | some trouble => .error trouble
      | none => .ok settings := by
  unfold checked
  cases settings.trouble? with
  | some trouble => rfl
  | none =>
      simp only
      split <;> rfl

theorem checked_ok_iff {settings final : Settings} :
    (checked settings).result = .ok final ↔ settings = final ∧ Acceptable final.options := by
  rw [checked_result, acceptable_iff]
  cases found : settings.trouble? with
  | none =>
      rw [Except.ok.injEq]
      exact ⟨fun same => ⟨same, same ▸ found⟩, fun both => both.1⟩
  | some trouble =>
      refine ⟨nofun, ?_⟩
      rintro ⟨rfl, accepted⟩
      rw [found] at accepted
      cases accepted

theorem load_ok_iff {place : Place} {files : String → Content} {cli : Overrides}
    {settings : Settings} :
    (load place files cli).result = .ok settings ↔
      ∃ lower upper, Consulted place files cli.config lower upper ∧
        Prevails cli upper lower settings ∧ Acceptable settings.options := by
  simp only [load, Report.bind_ok_iff, checked_ok_iff, consulted_iff, prevails_iff]
  constructor
  · rintro ⟨lower, profile, upper, overlay, resolved, accepted⟩
    exact ⟨lower, upper, ⟨profile, overlay⟩, resolved, accepted⟩
  · rintro ⟨lower, upper, ⟨profile, overlay⟩, resolved, accepted⟩
    exact ⟨lower, profile, upper, overlay, resolved, accepted⟩

/-- The layers of the files that are consulted are settled by the files. -/
theorem Consulted.unique {place : Place} {files : String → Content} {config : Option String}
    {lower upper lower' upper' : Layer} (first : Consulted place files config lower upper)
    (second : Consulted place files config lower' upper') : lower = lower' ∧ upper = upper' := by
  obtain ⟨profile, overlay⟩ := consulted_iff.1 first
  obtain ⟨profile', overlay'⟩ := consulted_iff.1 second
  rw [profile] at profile'
  rw [overlay] at overlay'
  exact ⟨Except.ok.inj profile', Except.ok.inj overlay'⟩

/-- Once the files have been read, only the settings that prevail decide whether loading
succeeds. -/
theorem load_succeeds_iff {place : Place} {files : String → Content} {cli : Overrides}
    {lower upper : Layer} (consulted : Consulted place files cli.config lower upper) :
    (∃ settings, (load place files cli).result = .ok settings) ↔
      ∀ settings, Prevails cli upper lower settings → Acceptable settings.options := by
  constructor
  · rintro ⟨loaded, result⟩ settings prevails
    obtain ⟨lower', upper', consulted', prevails', accepted⟩ := load_ok_iff.1 result
    obtain ⟨rfl, rfl⟩ := consulted.unique consulted'
    rw [prevails_iff] at prevails prevails'
    rwa [← prevails, prevails']
  · intro acceptable
    have prevails := prevails_iff.2 (Eq.refl (resolve cli (upper.orElse lower)))
    exact ⟨_, load_ok_iff.2 ⟨lower, upper, consulted, prevails, acceptable _ prevails⟩⟩

/-- **Settings are layered.**  Loading gives the settings that prevail, and fails when a file that
is consulted cannot be read or when these settings are not acceptable; what is overridden does
not matter.  A file is written by a tree, which settles what it sets: a value that is absent or
`null` sets nothing, and any other value is set to what it means. -/
theorem load_layered (place : Place) (files : String → Content) (cli : Overrides) :
    (∀ settings, (load place files cli).result = .ok settings ↔
      ∃ lower upper, Consulted place files cli.config lower upper ∧
        Prevails cli upper lower settings ∧ Acceptable settings.options) ∧
    (∀ lower upper, Consulted place files cli.config lower upper →
      ((∃ settings, (load place files cli).result = .ok settings) ↔
        ∀ settings, Prevails cli upper lower settings → Acceptable settings.options)) ∧
    ∀ text layer, Layer.parse text = .ok layer →
      (∃ file : Json.Value, file.Written text) ∧
        ∀ file : Json.Value, file.Written text → layer.Spelled file :=
  ⟨fun _ => load_ok_iff, fun _ _ => load_succeeds_iff,
    fun _ _ decoded => ⟨Layer.exists_of_parse decoded, fun _ written =>
      Layer.spelled_of_parse written decoded⟩⟩

/-- A home whose profile says something, and no other file. -/
def profileOnly (home text : String) (path : String) : Content :=
  if path = profilePath home then .file text.toUTF8 else .absent

/-- An alias that is no identifier prevents loading, unless it is overridden. -/
theorem load_layered_alias :
    let place : Place := ⟨some "/home/u", "/work"⟩
    let text := "\x7b\"compiler\": \x7b\"table_alias\": \"1\"\x7d\x7d"
    (load place (profileOnly "/home/u" text) { tableAlias := some "o" }).result =
        .ok ⟨{ tableAlias := "o" }, false⟩ ∧
      (¬ ∃ settings, (load place (profileOnly "/home/u" text) {}).result = .ok settings) ∧
      ∃ file : Json.Value, file.Written text ∧
        Layer.Spelled file { tableAlias := some "1" } := by
  intro place text
  have decoded : Layer.parse text = .ok { tableAlias := some "1" } := by decide +kernel
  have there : (profileOnly "/home/u" text (profilePath "/home/u")).text? = some text := by
    decide +kernel
  have consulted : Consulted place (profileOnly "/home/u" text) none { tableAlias := some "1" }
      {} := by
    refine ⟨?_, ?_⟩
    · show SaysIfThere _ _
      rw [SaysIfThere, if_pos (by decide +kernel)]
      exact ⟨text, there, decoded⟩
    · show SaysIfThere _ _
      rw [SaysIfThere, if_neg (by decide +kernel)]
  obtain ⟨⟨file, written⟩, spelled⟩ :=
    (load_layered place (profileOnly "/home/u" text) {}).2.2 _ _ decoded
  refine ⟨?_, ?_, file, written, spelled file written⟩
  · refine ((load_layered place (profileOnly "/home/u" text) { tableAlias := some "o" }).1 _).2
      ⟨_, _, consulted, ⟨rfl, rfl, rfl, rfl, rfl, rfl⟩, ?_⟩
    exact acceptable_iff.2 (by decide +kernel)
  · intro loaded
    have accepted := ((load_layered place _ {}).2.1 _ _ consulted).1 loaded
      ⟨{ tableAlias := "1" }, false⟩ ⟨rfl, rfl, rfl, rfl, rfl, rfl⟩
    exact absurd (acceptable_iff.1 accepted) (by decide +kernel)

end WhereClause.Settings
