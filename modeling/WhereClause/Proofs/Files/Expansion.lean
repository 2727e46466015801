import WhereClause.Proofs.Files.Home

/-!
# What the expansion of a path settles

A path is rooted when it is absolute and has no white space around it.  Rooted paths mean
themselves: they begin with a slash, so neither trimming nor the home directory nor the current
directory changes them (`IsRooted.expand_eq`).

When the home directory and the current directory are rooted, every expansion is.  What a user
writes is trimmed first, so it does not end in white space; what comes of it ends as it does, or as
one of the two directories does, or in a slash or a dot that is put there (`endsVisible_join`,
`endsVisible_withHome`).  **So the expansions are the paths that expansion leaves as they are**
(`Place.expand_eq_self_iff`), and expanding once is as good as expanding twice
(`Place.expand_settles`).
-/

set_option autoImplicit false

namespace WhereClause.Files

open Text (EndsVisible IsTrimmed)

/-- An absolute path with no white space around it. -/
structure IsRooted (path : String) : Prop where
  absolute : isAbsolute path = true
  trimmed : IsTrimmed path.toList

/-- A place whose directories are rooted. -/
structure Place.IsRooted (place : Place) : Prop where
  home : ∀ home ∈ place.home, Files.IsRooted home
  current : Files.IsRooted place.current

/-! ## Absolute paths -/

/-- An absolute path begins with a slash, so only its end can be white space. -/
theorem isRooted_of_endsVisible {path : String} (absolute : isAbsolute path = true)
    (visible : EndsVisible path.toList) : IsRooted path := by
  obtain ⟨rest, slash⟩ := isAbsolute_iff.1 absolute
  refine ⟨absolute, ?_, visible⟩
  intro c first
  rw [slash] at first
  cases first
  rfl

/-- There is no tilde at the front of an absolute path. -/
theorem withHome_slash (home : Option String) (rest : List Char) :
    withHome home ('/' :: rest) = String.ofList ('/' :: rest) := by
  cases home <;> rfl

/-- **A rooted path means itself**, wherever the program is run. -/
theorem IsRooted.expand_eq {path : String} (rooted : IsRooted path) (place : Place) :
    place.expand path = path := by
  obtain ⟨rest, slash⟩ := isAbsolute_iff.1 rooted.absolute
  have same : withHome place.home path.toList = path := by
    rw [slash, withHome_slash, ← slash, String.ofList_toList]
  rw [Place.expand, Text.trimmed_eq_self_iff.2 rooted.trimmed, same,
    join_of_isAbsolute rooted.absolute]

/-! ## The end of an expansion -/

theorem endsVisible_slash : EndsVisible "/".toList := by decide

/-- A path that is joined to a directory ends as it does, or as the directory does, or in the slash
between them. -/
theorem endsVisible_join {directory path : String} (front : EndsVisible directory.toList)
    (back : EndsVisible path.toList) : EndsVisible (join directory path).toList := by
  unfold join
  split
  · exact back
  · split
    · rw [String.toList_append]
      exact front.append back
    · rw [String.toList_append, String.toList_append]
      exact (front.append endsVisible_slash).append back

/-- The home directory in the place of a tilde puts no white space at the end of a path. -/
theorem endsVisible_withHome {home : Option String} {path : List Char}
    (rooted : ∀ directory ∈ home, IsRooted directory) (visible : EndsVisible path) :
    EndsVisible (withHome home path).toList := by
  unfold withHome
  split
  case h_1 => decide
  case h_2 directory => exact (rooted directory rfl).trimmed.back
  case h_3 rest directory =>
    have behind : EndsVisible (String.ofList rest).toList := by
      rw [String.toList_ofList]
      exact EndsVisible.of_append (s := ['~', '/']) visible
    exact endsVisible_join (rooted directory rfl).trimmed.back behind
  case h_4 =>
    rw [String.toList_ofList]
    exact visible

/-! ## Expansions -/

variable {place : Place}

/-- Every expansion is rooted. -/
theorem Place.IsRooted.expand (rooted : place.IsRooted) (path : String) :
    Files.IsRooted (place.expand path) := by
  apply isRooted_of_endsVisible
  · exact isAbsolute_join rooted.current.absolute _
  · have written : EndsVisible (Text.trimmed path.toList) := (Text.isTrimmed_trimmed _).back
    exact endsVisible_join rooted.current.trimmed.back (endsVisible_withHome rooted.home written)

/-- **The paths that expansion leaves as they are** are the rooted ones. -/
theorem Place.expand_eq_self_iff (rooted : place.IsRooted) {path : String} :
    place.expand path = path ↔ Files.IsRooted path := by
  constructor
  · intro same
    rw [← same]
    exact rooted.expand path
  · intro settled
    exact settled.expand_eq place

/-- White space around a path does not matter to what it means. -/
theorem Place.expand_surrounded {before after : String} (place : Place)
    (blankBefore : Text.isBlankText before = true) (blankAfter : Text.isBlankText after = true)
    (path : String) : place.expand (before ++ path ++ after) = place.expand path := by
  rw [Place.expand, Text.trimmed_surroundedText blankBefore blankAfter, Place.expand]

/-- **Expanding a path settles it.** At a place whose directories are absolute and have no white
space around them, every path expands to an absolute one, which expanding again leaves as it is; and
white space around the path makes no difference. -/
theorem Place.expand_settles (rooted : place.IsRooted) (path : String) :
    isAbsolute (place.expand path) = true ∧
      place.expand (place.expand path) = place.expand path ∧
      ∀ before after, Text.isBlankText before = true → Text.isBlankText after = true →
        place.expand (before ++ path ++ after) = place.expand path := by
  have settled : Files.IsRooted (place.expand path) := rooted.expand path
  refine ⟨settled.absolute, (Place.expand_eq_self_iff rooted).2 settled, ?_⟩
  intro before after blankBefore blankAfter
  exact Place.expand_surrounded place blankBefore blankAfter path

theorem Place.expand_settles_notes :
    let place : Place := ⟨some "/home/u", "/"⟩
    place.IsRooted ∧ place.expand ("\u3000" ++ "~/ notes" ++ "\t ") = "/home/u/ notes" ∧
      place.expand "/home/u/ notes" = "/home/u/ notes" ∧
      isAbsolute (place.expand "~user") = true ∧
      place.expand (place.expand "~user") = "/~user" := by
  intro place
  have atRoot : Files.IsRooted "/" := isRooted_of_endsVisible (by decide) endsVisible_slash
  have atHome : Files.IsRooted "/home/u" := isRooted_of_endsVisible (by decide) (by decide)
  have rooted : place.IsRooted := by
    refine ⟨?_, atRoot⟩
    rintro home ⟨⟩
    exact atHome
  have notes : place.expand "~/ notes" = "/home/u/ notes" := by decide +kernel
  have user : place.expand "~user" = "/~user" := by decide +kernel
  obtain ⟨-, again, around⟩ := Place.expand_settles rooted "~/ notes"
  obtain ⟨absolute, stays, -⟩ := Place.expand_settles rooted "~user"
  have padded := around "\u3000" "\t " (by decide) (by decide)
  rw [notes] at again padded
  exact ⟨rooted, padded, again, absolute, stays.trans user⟩

end WhereClause.Files
