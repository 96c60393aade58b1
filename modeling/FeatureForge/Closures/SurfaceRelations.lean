import FeatureForge.Closures.BranchClosures
import FeatureForge.Paths.SafePath

/-!
# Three relations of surfaces

Whether a reviewed surface covers a path is asked in three places.  The closure graph takes a
path of a surface for a file or a directory, after it has trimmed it (`graphCovers_eq`); the
freshness check takes it for a directory only if it ends in a slash, which no recorded path does
(`freshnessCovers_eq`); and the supersession compares normalized paths (`overlapCovers_eq`).
`coverage_one_relation_iff` says where the three agree.
-/

namespace FeatureForge

open AuthoritativeClosureGraph

/-- A path as `normalize_repo_relative_path` gives it: one that a surface records, or one of the
repository. -/
def RepoRelative (path : String) : Prop :=
  ∃ input, normalizeRepoRelativePath input = some path.toList

/-- The closure graph: `path_covers` on the normalized surfaces. -/
def graphCovers (surface path : String) : Bool :=
  (normalizedTaskSurfacePaths [path]).any fun candidatePath =>
    (normalizedTaskSurfacePaths [surface]).any fun canonicalPath =>
      pathCovers canonicalPath candidatePath

/-- The freshness and drift checks. -/
def freshnessCovers (surface path : String) : Bool := pathMatchesLateStageSurface path [surface]

/-- The supersession of task closures. -/
def overlapCovers (surface path : String) : Bool := taskSurfacePathsOverlap [surface] [path]

/-! ### The graph -/

/-- The path as the closure graph reads it. -/
def graphPath (path : String) : String :=
  String.ofList (stripDotSlashes ((trim path).toList.map fun c => if c = '\\' then '/' else c))

/-- The closure graph reads a path there. -/
def GraphNamed (path : String) : Prop := graphPath path ≠ "" ∧ graphPath path ≠ noRepoFilesMarker

instance (path : String) : Decidable (GraphNamed path) := inferInstanceAs (Decidable (_ ∧ _))

theorem normalizedTaskSurfacePaths_single (path : String) :
    normalizedTaskSurfacePaths [path] = if GraphNamed path then [graphPath path] else [] := by
  show OrderedMap.keySet ([graphPath path].filter fun path =>
    path ≠ "" && path ≠ noRepoFilesMarker) = _
  by_cases h : GraphNamed path
  · rw [if_pos h, List.filter_cons_of_pos (by simpa [GraphNamed] using h)]
    rfl
  · rw [if_neg h, List.filter_cons_of_neg (by simpa [GraphNamed] using h)]
    rfl

theorem graphCovers_eq (surface path : String) : graphCovers surface path = true ↔
    GraphNamed surface ∧ GraphNamed path ∧
      pathCovers (graphPath surface) (graphPath path) = true := by
  rw [graphCovers, normalizedTaskSurfacePaths_single, normalizedTaskSurfacePaths_single]
  split_ifs with hpath hsurface <;> simp [*]

theorem pathCovers_self (path : String) : pathCovers path path = true := by
  rw [pathCovers, Bool.or_eq_true]
  exact Or.inl (decide_eq_true rfl)

/-! ### Freshness and supersession -/

theorem freshnessCovers_eq {surface path : String} (hsurface : RepoRelative surface) :
    freshnessCovers surface path = decide (path = surface) := by
  obtain ⟨input, hinput⟩ := hsurface
  simp [freshnessCovers, pathMatchesLateStageSurface, getLast?_normalized hinput]

theorem normalizedEffectiveTaskSurfacePaths_single {path : String} (h : RepoRelative path) :
    normalizedEffectiveTaskSurfacePaths [path] =
      if path = noRepoFilesMarker ∨ looksLikeWindowsAbsolute path.toList = true then []
      else [path.toList] := by
  obtain ⟨input, hinput⟩ := h
  have hnormal := normalize_normalized hinput
  unfold normalizedEffectiveTaskSurfacePaths
  by_cases hmarker : path = noRepoFilesMarker
  · rw [if_pos (Or.inl hmarker), List.filter_cons_of_neg (by simpa using hmarker)]
    rfl
  · rw [List.filter_cons_of_pos (by simpa using hmarker), List.filter_nil, List.filterMap_cons,
      hnormal]
    by_cases hdrive : looksLikeWindowsAbsolute path.toList = true
    · rw [if_pos hdrive, if_pos (Or.inr hdrive)]
      rfl
    · rw [if_neg hdrive, if_neg (not_or.mpr ⟨hmarker, hdrive⟩)]
      rfl

theorem overlapCovers_eq {surface path : String} (hsurface : RepoRelative surface)
    (hpath : RepoRelative path) : overlapCovers surface path = true ↔
      path = surface ∧ surface ≠ noRepoFilesMarker ∧
        looksLikeWindowsAbsolute surface.toList = false := by
  rw [overlapCovers, taskSurfacePathsOverlap, normalizedEffectiveTaskSurfacePaths_single hsurface,
    normalizedEffectiveTaskSurfacePaths_single hpath]
  by_cases hdropped : surface = noRepoFilesMarker ∨ looksLikeWindowsAbsolute surface.toList = true
  · rw [if_pos hdropped]
    refine iff_of_false Bool.false_ne_true ?_
    rintro ⟨-, hmarker, hdrive⟩
    rw [hdrive] at hdropped
    exact hdropped.elim hmarker Bool.false_ne_true
  · rw [if_neg hdropped]
    rw [not_or, Bool.not_eq_true] at hdropped
    constructor
    · intro h
      split_ifs at h with hpathDropped
      · cases h
      · have heq : surface = path := String.toList_inj.mp (by simpa using h)
        exact ⟨heq.symm, hdropped⟩
    · rintro ⟨rfl, -⟩
      rw [if_neg (not_or.mpr ⟨hdropped.1, by rw [hdropped.2]; exact Bool.false_ne_true⟩)]
      simp

/-! ### One relation -/

/-- Where the three relations give one answer: to a path itself, if it is named in the graph and
not absolute; to another one, if the graph does not take the surface for it or for a directory
above it. -/
def CoverageAgrees (surface path : String) : Prop :=
  (path = surface → GraphNamed surface ∧ looksLikeWindowsAbsolute surface.toList = false) ∧
  (path ≠ surface → ¬(GraphNamed surface ∧ GraphNamed path ∧
    pathCovers (graphPath surface) (graphPath path) = true))

theorem graphNamed_marker : ¬GraphNamed noRepoFilesMarker := by decide

/-! ### Surfaces -/

theorem mem_normalizedTaskSurfacePaths {paths : List String} {found : String} :
    found ∈ normalizedTaskSurfacePaths paths ↔
      ∃ path ∈ paths, GraphNamed path ∧ graphPath path = found := by
  show found ∈ OrderedMap.keySet ((paths.map graphPath).filter fun path =>
    path ≠ "" && path ≠ noRepoFilesMarker) ↔ _
  rw [OrderedMap.mem_keySet, List.mem_filter, List.mem_map]
  simp only [Bool.and_eq_true, decide_eq_true_iff]
  constructor
  · rintro ⟨⟨path, hpath, rfl⟩, hnamed⟩
    exact ⟨path, hpath, hnamed, rfl⟩
  · rintro ⟨path, hpath, hnamed, rfl⟩
    exact ⟨⟨path, hpath, rfl⟩, hnamed⟩

theorem overlap_of_mem {left right : List String} {path : String} (hleft : path ∈ left)
    (hright : path ∈ right) (hrelative : RepoRelative path)
    (h : overlapCovers path path = true) : taskSurfacePathsOverlap left right = true := by
  obtain ⟨-, hmarker, hdrive⟩ := (overlapCovers_eq hrelative hrelative).mp h
  obtain ⟨input, hinput⟩ := hrelative
  have hnormal : normalizeRepoRelativePath path.toList = some path.toList := by
    rw [normalize_normalized hinput, hdrive]
    rfl
  have hmem : ∀ paths : List String, path ∈ paths →
      path.toList ∈ normalizedEffectiveTaskSurfacePaths paths := by
    intro paths hpath
    exact List.mem_filterMap.mpr ⟨path, List.mem_filter.mpr ⟨hpath, by simpa using hmarker⟩,
      hnormal⟩
  rw [taskSurfacePathsOverlap, List.any_eq_true]
  exact ⟨path.toList, hmem left hleft, List.contains_iff_mem.mpr (hmem right hright)⟩

/-- **A closure that resolves another's staleness also supersedes it**, where the coverage of
their surfaces is one relation. -/
theorem overlap_of_broader {current older : ClosureEvaluation}
    (h : taskClosureSurfaceIsSameOrBroader current older = true)
    (hne : normalizedTaskSurfacePaths older.dependencyBinding.sourceArtifactFingerprints ≠ [])
    (hagrees : ∀ surface ∈ current.dependencyBinding.sourceArtifactFingerprints,
      ∀ path ∈ older.dependencyBinding.sourceArtifactFingerprints,
        RepoRelative surface ∧ RepoRelative path ∧ CoverageAgrees surface path) :
    taskSurfacePathsOverlap older.dependencyBinding.sourceArtifactFingerprints
      current.dependencyBinding.sourceArtifactFingerprints = true := by
  obtain ⟨found, hfound⟩ := List.exists_mem_of_ne_nil _ hne
  obtain ⟨path, hpath, hpathNamed, rfl⟩ := mem_normalizedTaskSurfacePaths.mp hfound
  unfold taskClosureSurfaceIsSameOrBroader at h
  dsimp only at h
  rw [if_neg hne] at h
  split_ifs at h
  obtain ⟨canonical, hcanonical, hcovers⟩ := List.any_eq_true.mp (List.all_eq_true.mp h _ hfound)
  obtain ⟨surface, hsurface, hsurfaceNamed, rfl⟩ := mem_normalizedTaskSurfacePaths.mp hcanonical
  obtain ⟨hsurfaceRelative, hpathRelative, hone⟩ := hagrees surface hsurface path hpath
  by_cases heq : path = surface
  · subst heq
    refine overlap_of_mem hpath hsurface hpathRelative ?_
    have hmarker : path ≠ noRepoFilesMarker := by
      rintro rfl
      exact graphNamed_marker hpathNamed
    exact (overlapCovers_eq hpathRelative hpathRelative).mpr ⟨rfl, hmarker, (hone.1 rfl).2⟩
  · exact absurd ⟨hsurfaceNamed, hpathNamed, hcovers⟩ (hone.2 heq)

/-! ### Where they agree -/

/-- **The coverage of reviewed surfaces is one relation** exactly where it is asked for a file of
the surface, or for one that is not below it. -/
theorem coverage_one_relation_iff (surface path : String) (hsurface : RepoRelative surface)
    (hpath : RepoRelative path) :
    (graphCovers surface path = freshnessCovers surface path ∧
        freshnessCovers surface path = overlapCovers surface path) ↔
      CoverageAgrees surface path := by
  refine (and_congr Bool.eq_iff_iff Bool.eq_iff_iff).trans ?_
  rw [freshnessCovers_eq hsurface, graphCovers_eq, overlapCovers_eq hsurface hpath,
    decide_eq_true_iff, CoverageAgrees]
  by_cases heq : path = surface
  · subst heq
    have hself := pathCovers_self (graphPath path)
    constructor
    · rintro ⟨hgraph, hoverlap⟩
      exact ⟨fun _ => ⟨(hgraph.mpr rfl).1, (hoverlap.mp rfl).2.2⟩, fun hne => absurd rfl hne⟩
    · rintro ⟨hsame, -⟩
      obtain ⟨hnamed, hdrive⟩ := hsame rfl
      have hmarker : path ≠ noRepoFilesMarker := by
        rintro rfl
        exact graphNamed_marker hnamed
      exact ⟨iff_of_true ⟨hnamed, hnamed, hself⟩ rfl, iff_of_true rfl ⟨rfl, hmarker, hdrive⟩⟩
  · constructor
    · rintro ⟨hgraph, -⟩
      exact ⟨fun hsame => absurd hsame heq, fun _ hcovers => heq (hgraph.mp hcovers)⟩
    · rintro ⟨-, hnot⟩
      exact ⟨iff_of_false (hnot heq) heq, iff_of_false heq fun h => heq h.1⟩

theorem coverage_one_relation_file :
    (graphCovers "src/lib.rs" "src/main.rs" = freshnessCovers "src/lib.rs" "src/main.rs" ∧
      freshnessCovers "src/lib.rs" "src/main.rs" = overlapCovers "src/lib.rs" "src/main.rs") :=
  (coverage_one_relation_iff "src/lib.rs" "src/main.rs" ⟨"src/lib.rs".toList, by decide⟩
    ⟨"src/main.rs".toList, by decide⟩).mpr
      ⟨fun h => absurd h (by decide), fun _ h => absurd h.2.2 (by decide)⟩

/-- A directory covers its files in the graph only. -/
theorem not_coverage_one_relation : ¬∀ surface path, RepoRelative surface → RepoRelative path →
    graphCovers surface path = freshnessCovers surface path ∧
      freshnessCovers surface path = overlapCovers surface path := by
  intro h
  have hone := (h "src" "src/lib.rs" ⟨"src".toList, by decide⟩ ⟨"src/lib.rs".toList, by decide⟩).1
  exact absurd hone (by decide)

end FeatureForge
