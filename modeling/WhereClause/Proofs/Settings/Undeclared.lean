import WhereClause.Proofs.Settings.Load

/-!
# Members of a settings file that are no settings

A member that is no setting is mostly a misspelled one, so loading warns of it.  What is noted
while a file is read are **the members of the file itself that are no settings, each once and in
their order** (`Layer.unknown_eq`), and loading warns of them as soon as the file has been decoded,
whether it succeeds in the end or not (`unknownMembers_mem_load`).

The settings of the compiler are an object of their own inside the file.  Its members that are no
settings are passed over without a note, so **such a member is named only where a file has a member
of the same name that is no setting either** (`load_names_undeclared`).
-/

set_option autoImplicit false

namespace WhereClause.Settings

open Json Files

/-! ## Members of objects -/

/-- The names of the members of an object, in their order. -/
def memberNames : Value → List String
  | .object ms => ms.filterMap fun m => m.1.value?
  | _ => []

/-- The settings of a file. -/
def fileSettings : List String := ["compiler", "debug"]

/-- The settings of the compiler. -/
def compilerSettings : List String :=
  ["mode", "table_alias", "date_format", "duplicate_last_selected"]

/-- The members of a file that are no settings. -/
def undeclared (file : Value) : List String :=
  (memberNames file).filter (· ∉ fileSettings)

/-- The members inside the settings of the compiler that are no settings. -/
def undeclaredInside (file : Value) : List String :=
  ((memberOf "compiler" file).elim [] memberNames).filter (· ∉ compilerSettings)

/-! ## What is noted of a file -/

/-- The members of a file that are settings are found by their names. -/
theorem find?_fileRecord (name : String) :
    (fileRecord.fields.find? fun f => f.name == name).isSome = true ↔ name ∈ fileSettings := by
  have names : fileSettings = fileRecord.fields.map Field.name := rfl
  rw [names, List.find?_isSome, List.mem_map]
  simp only [beq_iff_eq]

/-- **One member** leaves its name when it is no setting. -/
theorem unknown_note {m : Literal × Value} {d next : Draft}
    (taken : fileRecord.note d m = some next) :
    ∃ name, m.1.value? = some name ∧
      next.unknown = if name ∈ fileSettings then d.unknown else (d.note name).unknown := by
  obtain ⟨name, spelled, assigned⟩ := Option.bind_eq_some_iff.1 taken
  refine ⟨name, spelled, ?_⟩
  have settled := find?_fileRecord name
  unfold Record.assign at assigned
  split at assigned
  · next f found =>
      rw [found] at settled
      rw [if_pos (settled.1 rfl)]
      split at assigned
      · cases assigned
      · obtain ⟨p, said, rfl⟩ := Option.map_eq_some_iff.1 assigned
        exact (file_frame (List.mem_of_find?_eq_some found) ⟨m.2, said⟩ d).2.2
  · next missing =>
      rw [missing] at settled
      rw [if_neg fun known => Bool.false_ne_true (settled.2 known)]
      obtain ⟨p, said, rfl⟩ := Option.map_eq_some_iff.1 assigned
      rw [eq_note_of_other said]

theorem undeclared_cons {m : Literal × Value} {name : String} (spelled : m.1.value? = some name)
    (ms : List (Literal × Value)) :
    undeclared (.object (m :: ms)) =
      if name ∈ fileSettings then undeclared (.object ms) else name :: undeclared (.object ms) := by
  have names : memberNames (.object (m :: ms)) = name :: memberNames (.object ms) := by
    simp [memberNames, spelled]
  rw [undeclared, names, List.filter_cons]
  by_cases setting : name ∈ fileSettings <;> simp [setting, undeclared]

/-- A name that has been noted is not noted again. -/
theorem noted_cons {seen : List String} {name : String} (fresh : name ∉ seen)
    (names : List String) :
    (seen ++ [name]) ++ (names.filter (· ∉ seen ++ [name])).eraseDups =
      seen ++ ((name :: names).filter (· ∉ seen)).eraseDups := by
  have same : (names.filter (· ∉ seen)).filter (fun other => !other == name) =
      names.filter (· ∉ seen ++ [name]) := by
    rw [List.filter_filter]
    refine List.filter_congr fun other _ => ?_
    by_cases known : other = name <;> simp [known]
  rw [List.filter_cons, if_pos (by simpa using fresh), List.eraseDups_cons, same,
    List.append_assoc, List.singleton_append]

/-- The members of a file leave the names of those that are no settings, each once. -/
theorem unknown_foldlM {ms : List (Literal × Value)} {d final : Draft}
    (taken : ms.foldlM fileRecord.note d = some final) :
    final.unknown =
      d.unknown ++ ((undeclared (.object ms)).filter (· ∉ d.unknown)).eraseDups := by
  induction ms generalizing d with
  | nil =>
      cases taken
      simp [undeclared, memberNames]
  | cons m ms ih =>
      obtain ⟨next, first, further⟩ := Option.bind_eq_some_iff.1 taken
      obtain ⟨name, spelled, noted⟩ := unknown_note first
      rw [ih further, undeclared_cons spelled]
      by_cases setting : name ∈ fileSettings
      · rw [if_pos setting] at noted ⊢
        rw [noted]
      · rw [if_neg setting] at noted ⊢
        rw [noted, Draft.note]
        by_cases again : name ∈ d.unknown
        · simp [again]
        · rw [if_neg (by simpa using again), noted_cons again]

/-- **A layer holds the names of the members of its file that are no settings**, each once and in
their order. -/
theorem Layer.unknown_eq {text : String} {file : Value} {layer : Layer}
    (written : file.Written text) (decoded : Layer.parse text = .ok layer) :
    layer.unknown = (undeclared file).eraseDups := by
  obtain ⟨ms, draft, rfl, taken, rfl⟩ := Layer.exists_object_of_parse written decoded
  simpa using unknown_foldlM taken

/-! ## Warnings -/

/-- A settings file that is decoded, and the tree that writes it. -/
def DecodedAs (content : Content) (file : Value) : Prop :=
  ∃ text layer, content.text? = some text ∧ file.Written text ∧ Layer.parse text = .ok layer

/-- The file that the settings are taken from besides that of the profile. -/
def overlayPath (place : Place) (config : Option String) : String :=
  (config.map place.expand).getD (join place.current fileName)

/-- The files that loading reads and decodes: that of the profile, and then, if nothing is wrong
with the profile, the other one. -/
inductive Decoded (place : Place) (files : String → Content) (config : Option String) :
    Value → Prop where
  | profile {home : String} {file : Value} (there : place.home = some home)
      (decoded : DecodedAs (files (profilePath home)) file) : Decoded place files config file
  | overlay {lower : Layer} {file : Value}
      (below : (Settings.profile place files).result = .ok lower)
      (decoded : DecodedAs (files (overlayPath place config)) file) :
      Decoded place files config file

/-- Whether a report warns of a member by its name. -/
def Names (report : Report Settings) (name : String) : Prop :=
  ∃ names, Warning.unknownMembers names ∈ report.warnings ∧ name ∈ names

variable {place : Place} {files : String → Content} {cli : Overrides} {names : List String}

/-- Some names are those of the members of a decoded file that are no settings. -/
def AreUndeclared (content : Content) (names : List String) : Prop :=
  ∃ file, DecodedAs content file ∧ undeclared file ≠ [] ∧ names = (undeclared file).eraseDups

/-- What is decoded is there. -/
theorem AreUndeclared.exists? {content : Content} (noted : AreUndeclared content names) :
    content.exists? = true := by
  obtain ⟨file, ⟨text, layer, found, -⟩, -⟩ := noted
  cases content with
  | absent => cases found
  | directory => cases found
  | file bytes => rfl

/-- Reading a settings file warns of what its layer has noted. -/
theorem unknownMembers_mem_readLayer_iff {shown : String} {content : Content} :
    Warning.unknownMembers names ∈ (readLayer shown content).warnings ↔
      ∃ layer, Says content layer ∧ layer.unknown ≠ [] ∧ names = layer.unknown := by
  unfold readLayer Says
  cases content.text? with
  | none => simp [Report.fail]
  | some text =>
      cases parsed : Layer.parse text with
      | error problem => simp [Report.fail, parsed]
      | ok layer => by_cases nothing : layer.unknown = [] <;> simp [parsed, nothing]

/-- **Reading a settings file warns of its members that are no settings.** -/
theorem unknownMembers_mem_readLayer {shown : String} {content : Content} :
    Warning.unknownMembers names ∈ (readLayer shown content).warnings ↔
      AreUndeclared content names := by
  rw [unknownMembers_mem_readLayer_iff]
  constructor
  · rintro ⟨layer, ⟨text, found, parsed⟩, several, rfl⟩
    obtain ⟨file, written⟩ := Layer.exists_of_parse parsed
    have noted := Layer.unknown_eq written parsed
    refine ⟨file, ⟨text, layer, found, written, parsed⟩, fun nothing => several ?_, noted⟩
    rw [noted, nothing]
    rfl
  · rintro ⟨file, ⟨text, layer, found, written, parsed⟩, several, rfl⟩
    have noted := Layer.unknown_eq written parsed
    obtain ⟨name, here⟩ := List.exists_mem_of_ne_nil _ several
    refine ⟨layer, ⟨text, found, parsed⟩, ?_, noted.symm⟩
    rw [noted]
    exact List.ne_nil_of_mem (List.mem_eraseDups.2 here)

theorem unknownMembers_mem_readOptional {shown : String} {content : Content} :
    Warning.unknownMembers names ∈ (readOptional shown content).warnings ↔
      AreUndeclared content names := by
  unfold readOptional
  split
  · exact unknownMembers_mem_readLayer
  · next missing => exact ⟨nofun, fun noted => absurd noted.exists? missing⟩

theorem unknownMembers_mem_profile :
    Warning.unknownMembers names ∈ (profile place files).warnings ↔
      ∃ home, place.home = some home ∧ AreUndeclared (files (profilePath home)) names := by
  unfold profile
  cases place.home with
  | none => simp [Report.ok]
  | some home => simp [unknownMembers_mem_readOptional]

theorem unknownMembers_mem_overlay {config : Option String} :
    Warning.unknownMembers names ∈ (overlay place files config).warnings ↔
      AreUndeclared (files (overlayPath place config)) names := by
  unfold overlay overlayPath
  cases config with
  | none => exact unknownMembers_mem_readOptional
  | some path =>
      simp only [Option.map_some, Option.getD_some]
      split
      · exact unknownMembers_mem_readLayer
      · next missing => exact ⟨nofun, fun noted => absurd noted.exists? missing⟩

theorem unknownMembers_not_mem_checked (settings : Settings) :
    Warning.unknownMembers names ∉ (checked settings).warnings := by
  unfold checked
  cases settings.trouble? with
  | some trouble => exact nofun
  | none =>
      simp only
      split
      · simp
      · exact nofun

/-- **Loading warns of the members of every file that it decodes that are no settings**, each once
and in their order, and of nothing else. -/
theorem unknownMembers_mem_load :
    Warning.unknownMembers names ∈ (load place files cli).warnings ↔
      ∃ file, Decoded place files cli.config file ∧ undeclared file ≠ [] ∧
        names = (undeclared file).eraseDups := by
  rw [load, Report.mem_warnings_bind, unknownMembers_mem_profile]
  constructor
  · rintro (⟨home, there, file, decoded, several⟩ | ⟨lower, below, warned⟩)
    · exact ⟨file, .profile there decoded, several⟩
    · rw [Report.mem_warnings_bind, unknownMembers_mem_overlay] at warned
      rcases warned with ⟨file, decoded, several⟩ | ⟨upper, -, warned⟩
      · exact ⟨file, .overlay below decoded, several⟩
      · exact absurd warned (unknownMembers_not_mem_checked _)
  · rintro ⟨file, decoded, several⟩
    cases decoded with
    | profile there decoded => exact .inl ⟨_, there, file, decoded, several⟩
    | overlay below decoded =>
        refine .inr ⟨_, below, ?_⟩
        rw [Report.mem_warnings_bind, unknownMembers_mem_overlay]
        exact .inl ⟨file, decoded, several⟩

/-- A member is named exactly when it is a member of a decoded file and no setting. -/
theorem names_load_iff {name : String} :
    Names (load place files cli) name ↔
      ∃ file, Decoded place files cli.config file ∧ name ∈ undeclared file := by
  constructor
  · rintro ⟨names, warned, here⟩
    obtain ⟨file, decoded, -, rfl⟩ := unknownMembers_mem_load.1 warned
    exact ⟨file, decoded, List.mem_eraseDups.1 here⟩
  · rintro ⟨file, decoded, here⟩
    exact ⟨_, unknownMembers_mem_load.2 ⟨file, decoded, List.ne_nil_of_mem here, rfl⟩,
      List.mem_eraseDups.2 here⟩

/-- **Every member of a decoded file that is no setting is named; one inside the settings of the
compiler is named exactly when some decoded file has a member of that name that is no setting.**
Loading may fail later on: what it has warned of stays. -/
theorem load_names_undeclared {file : Value} (decoded : Decoded place files cli.config file) :
    (∀ name ∈ undeclared file, Names (load place files cli) name) ∧
      ∀ name ∈ undeclaredInside file, (Names (load place files cli) name ↔
        ∃ other, Decoded place files cli.config other ∧ name ∈ undeclared other) := by
  constructor
  · intro name here
    exact names_load_iff.2 ⟨file, decoded, here⟩
  · intro name _
    exact names_load_iff

/-- A member of an object whose name is written plainly. -/
def plainMember (name : String) (all : name.toList.all Literal.isPlain = true) (v : Value) :
    Literal × Value := (.plainly name.toList all, v)

/-- A file with a misspelled member, beside the settings of the compiler and inside them. -/
def misspelled : Value :=
  .object [plainMember "compilr" rfl .null,
    plainMember "compiler" rfl
      (.object [plainMember "mod" rfl (.boolean true), plainMember "compilr" rfl .null])]

theorem load_names_undeclared_misspelled :
    let place : Place := ⟨some "/home/u", "/work"⟩
    let text := "\x7b\"compilr\": null, \"compiler\": \x7b\"mod\": true, \"compilr\": null\x7d\x7d"
    let files := profileOnly "/home/u" text
    Decoded place files none misspelled ∧ Names (load place files {}) "compilr" ∧
      "compilr" ∈ undeclaredInside misspelled ∧ "mod" ∈ undeclaredInside misspelled ∧
      ¬ ∃ other, Decoded place files none other ∧ "mod" ∈ undeclared other := by
  intro place text files
  have decoded : Decoded place files none misspelled := by
    refine .profile rfl ⟨text, { unknown := ["compilr"] }, by decide +kernel, ?_, by decide +kernel⟩
    unfold Value.Written
    decide
  have named := @load_names_undeclared place files {} misspelled decoded
  have mod : "mod" ∈ undeclaredInside misspelled := by decide
  have warned : (load place files {}).warnings = [.unknownMembers ["compilr"]] := by
    decide +kernel
  refine ⟨decoded, named.1 "compilr" (by decide), by decide, mod, fun other => ?_⟩
  obtain ⟨names, here, within⟩ := (named.2 "mod" mod).2 other
  rw [warned] at here
  cases List.mem_singleton.1 here
  exact absurd within (by decide)

/-- A file with a misspelled member inside the settings of the compiler only. -/
def misspelledInside : Value :=
  .object [plainMember "compiler" rfl
    (.object [plainMember "table_alais" rfl (.text (.plainly ['t'] rfl))])]

/-- A misspelled setting of the compiler is not warned of. -/
theorem load_passes_over_inside :
    ¬ ∀ (place : Place) (files : String → Content) (cli : Overrides) (file : Value),
      Decoded place files cli.config file →
        ∀ name ∈ undeclared file ++ undeclaredInside file, Names (load place files cli) name := by
  intro always
  let place : Place := ⟨some "/home/u", "/work"⟩
  let text := "\x7b\"compiler\": \x7b\"table_alais\": \"t\"\x7d\x7d"
  let files := profileOnly "/home/u" text
  have decoded : Decoded place files none misspelledInside := by
    refine .profile rfl ⟨text, {}, by decide +kernel, ?_, by decide +kernel⟩
    unfold Value.Written
    decide
  obtain ⟨names, here, -⟩ :=
    always place files {} misspelledInside decoded "table_alais" (by decide)
  have warned : (load place files {}).warnings = [] := by decide +kernel
  rw [warned] at here
  cases here

end WhereClause.Settings
