import FeatureForge.Lib.Words

/-!
# Repo-relative paths

`normalize_repo_relative_path`: a path relative to the repository, with forward slashes and
without empty or dot components; one that leaves the repository is refused.
-/

namespace FeatureForge

/-- `looks_like_windows_absolute`. -/
def looksLikeWindowsAbsolute (input : List Char) : Bool :=
  (match input with
    | drive :: ':' :: separator :: _ =>
      drive.isAlpha && (separator = '/' || separator = '\\')
    | _ => false) || startsWith ['\\', '\\'] input

def pathParts (input : List Char) : List (List Char) :=
  ((input.splitOnP (· == '/')).filter fun part => part ≠ [] && part ≠ ['.'])

/-- `normalize_repo_relative_path`; `none` for its error. -/
def normalizeRepoRelativePath (input : List Char) : Option (List Char) :=
  if input = [] || startsWith ['/'] input then none
  else if looksLikeWindowsAbsolute input then none
  else
    let normalizedInput := input.map fun c => if c = '\\' then '/' else c
    if startsWith ['/'] normalizedInput || looksLikeWindowsAbsolute normalizedInput then none
    else
      let parts := pathParts normalizedInput
      if parts.contains ['.', '.'] || parts.isEmpty then none
      else some (List.intercalate ['/'] parts)

theorem normalizeRepoRelativePath_eq_some {input path : List Char}
    (h : normalizeRepoRelativePath input = some path) :
    path = List.intercalate ['/'] (pathParts (input.map fun c => if c = '\\' then '/' else c)) := by
  unfold normalizeRepoRelativePath at h
  dsimp only at h
  split_ifs at h
  exact (Option.some.inj h).symm

theorem length_normalizeRepoRelativePath {input path : List Char}
    (h : normalizeRepoRelativePath input = some path) : path.length ≤ input.length := by
  rw [normalizeRepoRelativePath_eq_some h, pathParts]
  refine (length_intercalate_filter_splitOnP _ _ _ _).trans ?_
  rw [List.length_map]

theorem normalizeRepoRelativePath_ne_nil {input path : List Char}
    (h : normalizeRepoRelativePath input = some path) : input ≠ [] := by
  rintro rfl
  cases h

/-- A path that is accepted has a component. -/
theorem path_ne_nil {input path : List Char} (h : normalizeRepoRelativePath input = some path) :
    path ≠ [] := by
  have hparts : ∀ part ∈ pathParts (input.map fun c => if c = '\\' then '/' else c),
      part ≠ [] := by
    intro part hpart
    have hkeep := (List.mem_filter.mp hpart).2
    simp only [Bool.and_eq_true, decide_eq_true_iff] at hkeep
    exact hkeep.1
  rw [normalizeRepoRelativePath_eq_some h]
  unfold normalizeRepoRelativePath at h
  dsimp only at h
  split_ifs at h with _ _ _ hempty
  cases hcut : pathParts (input.map fun c => if c = '\\' then '/' else c) with
  | nil =>
    rw [hcut] at hempty
    exact absurd (by decide) hempty
  | cons part parts =>
    rw [hcut, List.forall_mem_cons] at hparts
    cases parts with
    | nil => simpa [List.intercalate] using hparts.1
    | cons part' parts =>
      rw [intercalate_cons_cons]
      exact List.append_ne_nil_of_left_ne_nil hparts.1 _

theorem not_mem_normalizeRepoRelativePath {input path : List Char} {c : Char}
    (h : normalizeRepoRelativePath input = some path) (hc : c ∉ input) (hne : c ≠ '/') :
    c ∉ path := by
  rw [normalizeRepoRelativePath_eq_some h, pathParts]
  intro hmem
  rcases mem_intercalate_filter_splitOnP hmem with hmem | hmem
  · exact hne hmem
  · obtain ⟨d, hd, hdc⟩ := List.mem_map.mp hmem
    split_ifs at hdc with hd'
    · exact hne hdc.symm
    · exact hc (hdc ▸ hd)

end FeatureForge
