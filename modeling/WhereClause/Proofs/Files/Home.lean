import WhereClause.Files
import WhereClause.Proofs.Text.Blank

/-!
# Paths under the home directory

The parts of a path are the names between its slashes; an empty part and a single dot name
nothing.  A path lies under a directory when it is absolute and its parts begin with those of the
directory (`LiesUnder`); that `..` leads upwards again does not matter here.

Joining a relative path to a directory puts its parts behind those of the directory
(`components_join`), so what is written behind a tilde and a slash lies under the home directory
as long as it is relative.  A further slash makes it absolute, and then the home directory is
lost: **a path behind a tilde lies under the home directory exactly when what stands behind the
slash is relative or leads there by itself** (`Place.expand_tilde_under`).
-/

set_option autoImplicit false

namespace WhereClause

namespace Text

/-- A path behind a tilde keeps its beginning when it is trimmed. -/
theorem trimmed_tilde (s : List Char) : trimmed ('~' :: '/' :: s) = '~' :: '/' :: dropBlankEnd s :=
  dropBlankEnd_append (by decide) ['~'] s

end Text

namespace Files

/-! ## Parts of a path -/

/-- The parts of a path that name something. -/
def components (path : String) : List (List Char) :=
  (path.toList.splitOn '/').filter fun part => part ≠ [] ∧ part ≠ ['.']

/-- Whether a path is absolute and its parts begin with those of a directory. -/
def LiesUnder (directory path : String) : Prop :=
  isAbsolute path = true ∧ components directory <+: components path

instance (directory path : String) : Decidable (LiesUnder directory path) :=
  inferInstanceAs (Decidable (_ ∧ _))

/-- A slash ends a part, so the parts on either side of it are those of the whole. -/
theorem components_slash (before after : String) :
    components (before ++ "/" ++ after) = components before ++ components after := by
  unfold components
  rw [String.toList_append, String.toList_append, List.append_assoc]
  show ((before.toList ++ '/' :: after.toList).splitOn '/').filter _ = _
  rw [List.splitOn_append_cons_self, List.filter_append]

theorem components_empty : components "" = [] := rfl

/-- A slash at the end of a path ends no part that names something. -/
theorem exists_of_endsInSlash {directory : String} (ends : endsInSlash directory = true) :
    ∃ front, directory = front ++ "/" := by
  unfold endsInSlash at ends
  split at ends
  · next rest found =>
      refine ⟨String.ofList rest.reverse, String.toList_injective ?_⟩
      rw [← List.reverse_reverse directory.toList, found]
      simp
  · cases ends

/-- **The parts of a relative path stand behind those of the directory** that it is joined to. -/
theorem components_join {path : String} (relative : isAbsolute path = false) (directory : String) :
    components (join directory path) = components directory ++ components path := by
  unfold join
  rw [relative, if_neg Bool.false_ne_true]
  split
  · next adjoins =>
      rw [Bool.or_eq_true] at adjoins
      rcases adjoins with empty | ends
      · rw [String.isEmpty_iff] at empty
        rw [empty, String.empty_append, components_empty, List.nil_append]
      · obtain ⟨front, rfl⟩ := exists_of_endsInSlash ends
        have whole : components (front ++ "/") = components front := by
          simpa [components_empty] using components_slash front ""
        rw [components_slash, whole]
  · exact components_slash directory path

/-! ## Absolute paths -/

/-- A path is absolute when its first character is a slash. -/
theorem isAbsolute_iff {path : String} :
    isAbsolute path = true ↔ ∃ rest, path.toList = '/' :: rest := by
  unfold isAbsolute
  split
  · next rest found => simp [found]
  · next other =>
      refine ⟨nofun, ?_⟩
      rintro ⟨rest, slash⟩
      exact absurd slash (other rest)

/-- An absolute path is not joined to anything. -/
theorem join_of_isAbsolute {path : String} (absolute : isAbsolute path = true)
    (directory : String) : join directory path = path := by
  rw [join, if_pos absolute]

theorem isAbsolute_append {path : String} (absolute : isAbsolute path = true) (more : String) :
    isAbsolute (path ++ more) = true := by
  obtain ⟨rest, slash⟩ := isAbsolute_iff.1 absolute
  apply isAbsolute_iff.2
  rw [String.toList_append, slash]
  exact ⟨rest ++ more.toList, rfl⟩

theorem isAbsolute_join {directory : String} (absolute : isAbsolute directory = true)
    (path : String) : isAbsolute (join directory path) = true := by
  unfold join
  split
  · assumption
  · split
    · exact isAbsolute_append absolute path
    · exact isAbsolute_append (isAbsolute_append absolute "/") path

/-- A path is absolute with or without white space at its end, since a slash is none. -/
theorem isAbsolute_dropBlankEnd (path : String) :
    isAbsolute (String.ofList (Text.dropBlankEnd path.toList)) = isAbsolute path := by
  unfold isAbsolute
  rw [String.toList_ofList]
  cases found : path.toList with
  | nil => rfl
  | cons c more =>
      by_cases slash : c = '/'
      · rw [slash, show Text.dropBlankEnd ('/' :: more) = '/' :: Text.dropBlankEnd more from
          Text.dropBlankEnd_append (by decide) [] more]
        rfl
      · have first := Text.dropBlankEnd_isPrefix (c :: more)
        cases left : Text.dropBlankEnd (c :: more) with
        | nil => simp [slash]
        | cons d behind =>
            rw [left, List.cons_prefix_cons] at first
            simp [first.1, slash]

/-! ## The home directory -/

variable {place : Place} {home : String}

/-- What a path behind a tilde stands for. -/
theorem Place.expand_tilde (there : place.home = some home) (absolute : isAbsolute home = true)
    (rest : String) :
    place.expand ("~/" ++ rest) =
      join home (String.ofList (Text.dropBlankEnd rest.toList)) := by
  have trimmed : Text.trimmed ("~/" ++ rest).toList =
      '~' :: '/' :: Text.dropBlankEnd rest.toList := by
    rw [String.toList_append]
    exact Text.trimmed_tilde rest.toList
  rw [Place.expand, trimmed, there, withHome, join_of_isAbsolute (isAbsolute_join absolute _)]

/-- **A path behind a tilde lies under the home directory exactly when what stands behind the
slash is relative, or leads there by itself.** A relative path has its parts behind those of the
home directory; an absolute one, behind a further slash, is taken as it stands. -/
theorem Place.expand_tilde_under (there : place.home = some home)
    (absolute : isAbsolute home = true) (rest : String) :
    let path := String.ofList (Text.dropBlankEnd rest.toList)
    (LiesUnder home (place.expand ("~/" ++ rest)) ↔
      isAbsolute rest = false ∨ LiesUnder home path) ∧
    (isAbsolute rest = false →
      components (place.expand ("~/" ++ rest)) = components home ++ components path) ∧
    (isAbsolute rest = true → place.expand ("~/" ++ rest) = path) := by
  intro path
  have same : isAbsolute path = isAbsolute rest := isAbsolute_dropBlankEnd rest
  rw [Place.expand_tilde there absolute]
  cases leads : isAbsolute rest with
  | false =>
      have parts : components (join home path) = components home ++ components path :=
        components_join (same.trans leads) home
      refine ⟨⟨fun _ => .inl rfl, fun _ => ⟨isAbsolute_join absolute path, ?_⟩⟩, fun _ => parts,
        nofun⟩
      rw [parts]
      exact List.prefix_append _ _
  | true =>
      have replaced : join home path = path := join_of_isAbsolute (same.trans leads) home
      refine ⟨?_, nofun, fun _ => replaced⟩
      rw [replaced]
      simp

theorem Place.expand_tilde_under_notes :
    let place : Place := ⟨some "/home/u", "/work"⟩
    LiesUnder "/home/u" (place.expand ("~/" ++ " notes/../ ")) ∧
      LiesUnder "/home/u" (place.expand ("~/" ++ "/home//./u/notes")) ∧
      ¬ LiesUnder "/home/u" (place.expand ("~/" ++ "/home/user")) := by
  intro place
  have there : place.home = some "/home/u" := rfl
  have under := Place.expand_tilde_under there (by decide)
  refine ⟨(under _).1.2 (.inl (by decide)), (under _).1.2 (.inr (by decide)), fun lies => ?_⟩
  rcases (under _).1.1 lies with relative | within
  · exact absurd relative (by decide)
  · exact absurd within (by decide)

/-- Two slashes behind a tilde lead away from the home directory. -/
theorem Place.expand_doubledSlash :
    ¬ ∀ (place : Place) (home rest : String), place.home = some home → isAbsolute home = true →
      LiesUnder home (place.expand ("~/" ++ rest)) := by
  intro always
  have within := always ⟨some "/home/u", "/work"⟩ "/home/u" "/etc/x" rfl (by decide)
  exact absurd within (by decide)

end Files

end WhereClause
