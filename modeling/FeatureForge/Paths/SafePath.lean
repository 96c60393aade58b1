import FeatureForge.Paths.RepoPath

/-!
# Which normalized paths are safe

`normalize_repo_relative_path` refuses what looks like an absolute path and then drops the
empty components and the dots.  What comes out has the components it should have
(`component_of_mem_pathParts`), and put together they are cut into the same components again
(`pathParts_intercalate`), so a second normalization would change nothing
(`normalize_intercalate`) if it were not for the refusals: they look at the text before the
dots are dropped.  In `./C:/x` the drive stands behind a dot, so it is not seen, and what
comes out is `C:/x`.  `safePath_iff` says that nothing else goes wrong.
-/

namespace FeatureForge

/-- The path with its backslashes turned into slashes. -/
def slashed (input : List Char) : List Char := input.map fun c => if c = '\\' then '/' else c

/-- What a component of a normalized path is. -/
structure Component (part : List Char) : Prop where
  nonempty : part ≠ []
  notDot : part ≠ ['.']
  notUp : part ≠ ['.', '.']
  noSlash : '/' ∉ part
  noBackslash : '\\' ∉ part

/-- What callers take a normalized path to be. -/
structure SafePath (path : List Char) : Prop where
  nonempty : path ≠ []
  relative : startsWith ['/'] path = false
  components : ∀ part ∈ path.splitOn '/', part ≠ [] ∧ part ≠ ['.'] ∧ part ≠ ['.', '.']
  forward : '\\' ∉ path
  notAbsolute : looksLikeWindowsAbsolute path = false
  stable : normalizeRepoRelativePath path = some path

/-- The input's components that are neither empty nor a dot are a drive and then more. -/
def DriveFirst (input : List Char) : Prop :=
  ∃ drive part rest, drive.isAlpha = true ∧ pathParts (slashed input) = [drive, ':'] :: part :: rest

/-! ### The components -/

theorem not_mem_slashed (input : List Char) : '\\' ∉ slashed input := by
  intro h
  obtain ⟨c, -, hc⟩ := List.mem_map.mp h
  split_ifs at hc with hback
  · exact absurd hc (by decide)
  · exact hback hc

theorem slashed_of_not_mem {input : List Char} (h : '\\' ∉ input) : slashed input = input := by
  refine (List.map_congr_left fun c hc => ?_).trans (List.map_id input)
  rw [if_neg (show c ≠ '\\' from fun heq => h (heq ▸ hc)), id]

theorem pathParts_of_normalize {input path : List Char}
    (h : normalizeRepoRelativePath input = some path) :
    pathParts (slashed input) ≠ [] ∧ ['.', '.'] ∉ pathParts (slashed input) := by
  unfold normalizeRepoRelativePath at h
  dsimp only at h
  split_ifs at h with _ _ _ hparts
  rw [Bool.or_eq_true, not_or, List.contains_iff_mem, List.isEmpty_iff] at hparts
  exact ⟨hparts.2, hparts.1⟩

theorem component_of_mem_pathParts {input path : List Char}
    (h : normalizeRepoRelativePath input = some path) :
    ∀ part ∈ pathParts (slashed input), Component part := by
  intro part hpart
  obtain ⟨hcut, hkept⟩ := List.mem_filter.mp hpart
  simp only [Bool.and_eq_true, decide_eq_true_iff] at hkept
  refine ⟨hkept.1, hkept.2, fun hup => (pathParts_of_normalize h).2 (hup ▸ hpart), ?_, ?_⟩
  · exact fun hslash => absurd (not_of_mem_splitOnP part hcut _ hslash) (by decide)
  · exact fun hback => not_mem_slashed input (mem_of_mem_splitOnP part hcut _ hback)

/-- **Components put together are cut apart again.** -/
theorem splitOn_intercalate_components {parts : List (List Char)} (hne : parts ≠ [])
    (hparts : ∀ part ∈ parts, Component part) :
    (List.intercalate ['/'] parts).splitOn '/' = parts :=
  List.splitOn_intercalate '/' (fun part hpart => (hparts part hpart).noSlash) hne

theorem pathParts_intercalate {parts : List (List Char)} (hne : parts ≠ [])
    (hparts : ∀ part ∈ parts, Component part) :
    pathParts (List.intercalate ['/'] parts) = parts := by
  rw [pathParts, ← List.splitOn_eq_splitOnP, splitOn_intercalate_components hne hparts,
    List.filter_eq_self]
  intro part hpart
  simp [(hparts part hpart).nonempty, (hparts part hpart).notDot]

theorem not_mem_intercalate {parts : List (List Char)} (hparts : ∀ part ∈ parts, Component part) :
    '\\' ∉ List.intercalate ['/'] parts := by
  intro h
  rcases mem_intercalate h with h | ⟨part, hpart, h⟩
  · exact absurd h (by decide)
  · exact (hparts part hpart).noBackslash h

theorem startsWith_intercalate {parts : List (List Char)} (hne : parts ≠ [])
    (hparts : ∀ part ∈ parts, Component part) :
    startsWith ['/'] (List.intercalate ['/'] parts) = false := by
  obtain ⟨part, rest, rfl⟩ := List.exists_cons_of_ne_nil hne
  have hpart := hparts part List.mem_cons_self
  obtain ⟨c, cs, rfl⟩ := List.exists_cons_of_ne_nil hpart.nonempty
  have hc : '/' ≠ c := fun heq => hpart.noSlash (heq ▸ List.mem_cons_self)
  have hstart : ∀ cs, startsWith ['/'] (c :: cs) = false := by
    intro cs
    simpa [startsWith, List.isPrefixOf] using hc
  cases rest with
  | nil =>
    rw [List.intercalate_singleton]
    exact hstart cs
  | cons part' rest =>
    rw [intercalate_cons_cons, List.cons_append]
    exact hstart _

/-! ### Drives -/

theorem looksLikeWindowsAbsolute_iff {input : List Char} : looksLikeWindowsAbsolute input = true ↔
    (∃ drive separator rest, input = drive :: ':' :: separator :: rest ∧ drive.isAlpha = true ∧
      (separator = '/' ∨ separator = '\\')) ∨ startsWith ['\\', '\\'] input = true := by
  unfold looksLikeWindowsAbsolute
  rw [Bool.or_eq_true]
  refine or_congr_left ?_
  split
  · simp only [Bool.and_eq_true, Bool.or_eq_true, decide_eq_true_iff, List.cons.injEq]
    constructor
    · intro h
      exact ⟨_, _, _, ⟨rfl, trivial, rfl, rfl⟩, h⟩
    · rintro ⟨_, _, _, ⟨rfl, -, rfl, -⟩, h⟩
      exact h
  · rename_i hshape
    refine iff_of_false Bool.false_ne_true ?_
    rintro ⟨drive, separator, rest, rfl, -⟩
    exact hshape drive separator rest rfl

/-- **The drive of a normalized path is its first component**, with another one behind it. -/
theorem looksLikeWindowsAbsolute_intercalate {parts : List (List Char)}
    (hparts : ∀ part ∈ parts, Component part) :
    looksLikeWindowsAbsolute (List.intercalate ['/'] parts) = true ↔
      ∃ drive part rest, drive.isAlpha = true ∧ parts = [drive, ':'] :: part :: rest := by
  have hback := not_mem_intercalate hparts
  have hseparator : ∀ {drive separator : Char} {rest : List Char},
      Component (drive :: ':' :: separator :: rest) → ¬(separator = '/' ∨ separator = '\\') := by
    rintro drive separator rest hpart (rfl | rfl)
    · exact hpart.noSlash (by simp)
    · exact hpart.noBackslash (by simp)
  rw [looksLikeWindowsAbsolute_iff]
  constructor
  · rintro (⟨drive, separator, rest, hpath, hdrive, hsep⟩ | hunc)
    · cases parts with
      | nil => cases hpath
      | cons part parts =>
        have hpart := hparts part List.mem_cons_self
        cases parts with
        | nil =>
          rw [List.intercalate_singleton] at hpath
          exact absurd hsep (hseparator (hpath ▸ hpart))
        | cons part' rest' =>
          rw [intercalate_cons_cons] at hpath
          match part, hpart, hpath with
          | [], hpart, _ => exact absurd rfl hpart.nonempty
          | [c], _, hpath => simp at hpath
          | [c, d], _, hpath =>
            simp only [List.cons_append, List.cons.injEq] at hpath
            exact ⟨drive, part', rest', hdrive, by rw [hpath.1, hpath.2.1]⟩
          | c :: d :: e :: cs, hpart, hpath =>
            simp only [List.cons_append, List.cons.injEq] at hpath
            obtain ⟨rfl, rfl, rfl, -⟩ := hpath
            exact absurd hsep (hseparator hpart)
    · exact absurd ((startsWith_iff.mp hunc).subset List.mem_cons_self) hback
  · rintro ⟨drive, part, rest, hdrive, rfl⟩
    rw [intercalate_cons_cons]
    exact Or.inl ⟨drive, '/', _, rfl, hdrive, Or.inl rfl⟩

/-! ### Normalizing twice -/

/-- **Components put together are a normalized path**, unless they begin with a drive. -/
theorem normalize_intercalate_iff {parts : List (List Char)} (hne : parts ≠ [])
    (hparts : ∀ part ∈ parts, Component part) :
    normalizeRepoRelativePath (List.intercalate ['/'] parts) =
        some (List.intercalate ['/'] parts) ↔
      looksLikeWindowsAbsolute (List.intercalate ['/'] parts) = false := by
  have hnil : List.intercalate ['/'] parts ≠ [] := by
    intro hnil
    have hcut := splitOn_intercalate_components hne hparts
    rw [hnil] at hcut
    exact (hparts [] (hcut ▸ List.mem_cons_self)).nonempty rfl
  have hslashed := slashed_of_not_mem (not_mem_intercalate hparts)
  unfold normalizeRepoRelativePath
  rw [startsWith_intercalate hne hparts, if_neg (by simpa using hnil)]
  rw [slashed] at hslashed
  dsimp only
  rw [hslashed, startsWith_intercalate hne hparts, Bool.false_or,
    pathParts_intercalate hne hparts]
  have hup : parts.contains ['.', '.'] = false := by
    rw [← Bool.not_eq_true, List.contains_iff_mem]
    exact fun hmem => (hparts _ hmem).notUp rfl
  rw [hup, Bool.false_or, List.isEmpty_eq_false_iff.mpr hne]
  cases looksLikeWindowsAbsolute (List.intercalate ['/'] parts) <;> simp

/-- Normalized once more, a normalized path stays or is refused. -/
theorem normalize_normalized {input path : List Char}
    (h : normalizeRepoRelativePath input = some path) :
    normalizeRepoRelativePath path = if looksLikeWindowsAbsolute path then none else some path := by
  have hstable := normalize_intercalate_iff (pathParts_of_normalize h).1
    (component_of_mem_pathParts h)
  have hpath : path = List.intercalate ['/'] (pathParts (slashed input)) :=
    normalizeRepoRelativePath_eq_some h
  rw [← hpath] at hstable
  split_ifs with hdrive
  · have hnil := path_ne_nil h
    unfold normalizeRepoRelativePath
    rw [if_pos hdrive]
    exact ite_self none
  · exact hstable.mpr (Bool.not_eq_true _ ▸ hdrive)

/-- A normalized path does not end in a slash. -/
theorem getLast?_normalized {input path : List Char}
    (h : normalizeRepoRelativePath input = some path) : path.getLast? ≠ some '/' := by
  intro hlast
  have hparts := component_of_mem_pathParts h
  have hcut := splitOn_intercalate_components (pathParts_of_normalize h).1 hparts
  have hpath : path = List.intercalate ['/'] (pathParts (slashed input)) :=
    normalizeRepoRelativePath_eq_some h
  rw [← hpath, ← List.dropLast_append_getLast? _ hlast, List.splitOn_append_cons_self] at hcut
  have hmem : [] ∈ pathParts (slashed input) := by
    rw [← hcut]
    exact List.mem_append_right _ List.mem_cons_self
  exact (hparts [] hmem).nonempty rfl

/-- A drive that comes first and is accepted stands behind a dot. -/
theorem dot_of_driveFirst {input path : List Char}
    (h : normalizeRepoRelativePath input = some path) (hdrive : DriveFirst input) :
    ((slashed input).splitOn '/').head? = some ['.'] := by
  obtain ⟨drive, part, rest, halpha, hparts⟩ := hdrive
  have haccepted : startsWith ['/'] (slashed input) = false ∧
      looksLikeWindowsAbsolute (slashed input) = false := by
    unfold normalizeRepoRelativePath at h
    dsimp only at h
    split_ifs at h with _ _ hstart
    rw [Bool.or_eq_true, not_or, Bool.not_eq_true, Bool.not_eq_true] at hstart
    exact hstart
  obtain ⟨first, more, hcut⟩ := List.exists_cons_of_ne_nil (List.splitOn_ne_nil '/' (slashed input))
  have hinput : List.intercalate ['/'] (first :: more) = slashed input := by
    rw [← hcut, List.intercalate_splitOn]
  rw [pathParts, ← List.splitOn_eq_splitOnP, hcut, List.filter_cons] at hparts
  rw [hcut, List.head?_cons]
  split_ifs at hparts with hkept
  · obtain ⟨rfl, hmore⟩ := List.cons_eq_cons.mp hparts
    cases more with
    | nil => cases hmore
    | cons next more =>
      have habsolute : looksLikeWindowsAbsolute (slashed input) = true := by
        rw [← hinput, intercalate_cons_cons, looksLikeWindowsAbsolute_iff]
        exact Or.inl ⟨drive, '/', _, rfl, halpha, Or.inl rfl⟩
      exact absurd habsolute (by rw [haccepted.2]; exact Bool.false_ne_true)
  · simp only [Bool.and_eq_true, decide_eq_true_iff, not_and_or, not_not] at hkept
    rcases hkept with rfl | rfl
    · cases more with
      | nil => cases hparts
      | cons next more =>
        rw [intercalate_cons_cons] at hinput
        rw [← hinput] at haccepted
        exact absurd haccepted.1 (by simp [startsWith])
    · rfl

/-- **What normalizing gives is a safe path exactly where no drive comes first**, once the
empty components and the dots are gone. -/
theorem safePath_iff (input path : List Char) (h : normalizeRepoRelativePath input = some path) :
    SafePath path ↔ ¬DriveFirst input := by
  have hne := (pathParts_of_normalize h).1
  have hparts := component_of_mem_pathParts h
  have hpath : path = List.intercalate ['/'] (pathParts (slashed input)) :=
    normalizeRepoRelativePath_eq_some h
  have hstable := normalize_intercalate_iff hne hparts
  rw [DriveFirst, ← looksLikeWindowsAbsolute_intercalate hparts, Bool.not_eq_true]
  constructor
  · intro hsafe
    exact hpath ▸ hsafe.notAbsolute
  · intro hdrive
    exact
      { nonempty := path_ne_nil h
        relative := hpath ▸ startsWith_intercalate hne hparts
        components := by
          intro part hpart
          rw [hpath, splitOn_intercalate_components hne hparts] at hpart
          have hcomponent := hparts part hpart
          exact ⟨hcomponent.nonempty, hcomponent.notDot, hcomponent.notUp⟩
        forward := hpath ▸ not_mem_intercalate hparts
        notAbsolute := hpath ▸ hdrive
        stable := by rw [hpath, hstable, hdrive] }

theorem safePath_readme : SafePath "README.md".toList :=
  (safePath_iff "./README.md".toList _ (by decide)).mpr (by
    rintro ⟨drive, part, rest, -, hparts⟩
    have hone : pathParts (slashed "./README.md".toList) = ["README.md".toList] := by decide
    rw [hone] at hparts
    simp at hparts)

/-- A drive behind a dot is let through. -/
theorem not_safePath_drive : ¬∀ input path, normalizeRepoRelativePath input = some path →
    SafePath path := by
  intro h
  have hsafe := h "./C:/temp".toList "C:/temp".toList (by decide)
  exact absurd hsafe.notAbsolute (by decide)

end FeatureForge
