import FeatureForge.Closures.BranchClosures
import FeatureForge.Lib.Except
import FeatureForge.Plans.StepLines
import Mathlib.Data.Finset.Max

/-!
# Late-stage surfaces as texts

A surface is rendered with commas between its paths, and parsed piece by piece, each piece
trimmed and normalized.  The pieces of a rendered surface are those of its paths
(`surfaceEntries_render`), so a surface is parsed back to its paths exactly if no path has a
comma and each is normal (`parse_render_iff`).
-/

namespace FeatureForge

/-! ### Pieces -/

theorem surfaceEntries_append (a b : List Char) :
    surfaceEntries (a ++ ',' :: b) = surfaceEntries a ++ surfaceEntries b := by
  unfold surfaceEntries
  rw [List.splitOn_append_cons_self, List.map_append, List.filter_append]

theorem surfaceEntries_of_not_mem {a : List Char} (h : ',' ∉ a) :
    surfaceEntries a =
      if trim (String.ofList a) = "" then [] else [trim (String.ofList a)] := by
  unfold surfaceEntries
  rw [List.splitOn_eq_singleton h, List.map_singleton]
  split_ifs with hblank
  · rw [hblank]
    rfl
  · exact List.filter_cons_of_pos (decide_eq_true hblank)

theorem isWhitespace_comma : isWhitespace ',' = false := by decide

/-- White space at the end of a text is not part of its pieces. -/
theorem surfaceEntries_concat {c : Char} (hc : isWhitespace c = true) (a : List Char) :
    surfaceEntries (a ++ [c]) = surfaceEntries a := by
  have hcomma : c ≠ ',' := by
    rintro rfl
    rw [isWhitespace_comma] at hc
    cases hc
  have hlast : ∀ b : List Char, ',' ∉ b → surfaceEntries (b ++ [c]) = surfaceEntries b := by
    intro b hb
    have hbc : ',' ∉ b ++ [c] := by
      rw [List.mem_append, List.mem_singleton]
      exact fun h => h.elim hb fun h => hcomma h.symm
    have htrim : trim (String.ofList (b ++ [c])) = trim (String.ofList b) := by
      rw [trim, trim, String.toList_ofList, String.toList_ofList, trimChars_concat hc]
    rw [surfaceEntries_of_not_mem hbc, surfaceEntries_of_not_mem hb, htrim]
  by_cases ha : ',' ∈ a
  · -- the part after the last comma
    obtain ⟨after, before, hsplit, hafter⟩ :=
      List.eq_append_cons_of_mem (List.mem_reverse.mpr ha)
    have hparts : a = before.reverse ++ ',' :: after.reverse := by
      rw [← List.reverse_reverse a, hsplit, List.reverse_append, List.reverse_cons,
        List.append_assoc]
      rfl
    rw [hparts, List.append_assoc, List.cons_append, surfaceEntries_append, surfaceEntries_append,
      hlast _ fun h => hafter (List.mem_reverse.mp h)]
  · exact hlast a ha

theorem surfaceEntries_trimEnd (a : List Char) : surfaceEntries (trimEnd a) = surfaceEntries a := by
  induction a using List.reverseRecOn with
  | nil => rfl
  | append_singleton a c ih =>
    by_cases hc : isWhitespace c = true
    · rw [trimEnd_concat hc, ih, surfaceEntries_concat hc]
    · rw [trimEnd, List.reverse_append, List.reverse_singleton, List.singleton_append,
        List.dropWhile_cons_of_neg hc, List.reverse_cons, List.reverse_reverse]

/-- The pieces of some paths. -/
def pathEntries (paths : List String) : List String :=
  paths.flatMap fun path => surfaceEntries path.toList

theorem surfaceEntries_intercalate (paths : List String) :
    surfaceEntries (List.intercalate [','] (paths.map String.toList)) = pathEntries paths := by
  induction paths with
  | nil =>
    rw [List.map_nil, List.intercalate_nil, surfaceEntries_of_not_mem List.not_mem_nil]
    decide
  | cons path paths ih =>
    rw [pathEntries, List.flatMap_cons, ← pathEntries, ← ih, List.map_cons]
    cases paths with
    | nil =>
      rw [List.map_nil, List.intercalate_singleton, List.intercalate_nil,
        surfaceEntries_of_not_mem List.not_mem_nil]
      exact (List.append_nil _).symm
    | cons path' paths =>
      rw [List.map_cons, List.intercalate_cons_cons, ← surfaceEntries_append, List.append_assoc]
      rfl

/-- **The pieces of a rendered surface** are those of its paths. -/
theorem surfaceEntries_render (paths : List String) :
    ∃ rawEntries, (renderLateStageSurfaceOnlyBranchSurface paths).toList =
        lateStageSurfaceOnly.toList ++ rawEntries ∧
      surfaceEntries rawEntries = pathEntries (OrderedMap.keySet paths) := by
  refine ⟨_, ?_, surfaceEntries_intercalate _⟩
  rw [renderLateStageSurfaceOnlyBranchSurface, String.toList_append, String.toList_ofList]

theorem mem_pathEntries_keySet {paths : List String} {entry : String} :
    entry ∈ pathEntries (OrderedMap.keySet paths) ↔ entry ∈ pathEntries paths := by
  unfold pathEntries
  simp only [List.mem_flatMap, OrderedMap.mem_keySet]

theorem not_mem_of_mem_splitOn {c : Char} {s part : List Char} (h : part ∈ s.splitOn c) :
    c ∉ part := by
  induction s generalizing part with
  | nil =>
    rw [List.splitOn_nil, List.mem_singleton] at h
    rw [h]
    exact List.not_mem_nil
  | cons d s ih =>
    rw [List.splitOn_cons_eq_if_modifyHead] at h
    split_ifs at h with hd
    · rcases List.mem_cons.mp h with rfl | h
      · exact List.not_mem_nil
      · exact ih h
    · obtain ⟨head, rest, hsplit⟩ := List.exists_cons_of_ne_nil (List.splitOn_ne_nil c s)
      rw [hsplit, List.modifyHead_cons] at h
      rw [hsplit] at ih
      rcases List.mem_cons.mp h with rfl | h
      · rw [List.mem_cons, not_or]
        refine ⟨fun heq => hd (beq_iff_eq.mpr heq.symm), ih List.mem_cons_self⟩
      · exact ih (List.mem_cons_of_mem _ h)

/-- No piece has a comma. -/
theorem comma_not_mem_of_mem_surfaceEntries {value : List Char} {entry : String}
    (h : entry ∈ surfaceEntries value) : ',' ∉ entry.toList := by
  obtain ⟨part, hpart, rfl⟩ := List.mem_map.mp (List.mem_filter.mp h).1
  rw [trim, String.toList_ofList, String.toList_ofList]
  exact fun hmem => not_mem_of_mem_splitOn hpart ((infix_trimChars part).subset hmem)

/-! ### Normal entries -/

theorem stripDotSlashes_suffix : ∀ path : List Char,
    AuthoritativeClosureGraph.stripDotSlashes path <:+ path := by
  intro path
  induction path using AuthoritativeClosureGraph.stripDotSlashes.induct with
  | case1 path ih =>
    rw [AuthoritativeClosureGraph.stripDotSlashes]
    exact ih.trans ⟨['.', '/'], rfl⟩
  | case2 path h =>
    rw [AuthoritativeClosureGraph.stripDotSlashes.eq_2 path h]

/-- The slashes of an entry after it has been normalized. -/
def forwardSlashes (path : List Char) : List Char :=
  path.map fun c => if c = '\\' then '/' else c

/-- An entry that is refused once its slashes and its leading dots are normalized. -/
def refusedEntry (normalized : List Char) : Bool :=
  normalized = [] || startsWith ['/'] normalized || drivePath normalized ||
    (normalized.splitOn '/').contains ['.', '.'] || normalized.any unsupportedEntryChar

theorem normalizeLateStageSurfaceEntry_eq_ok {entry normalized : String} :
    normalizeLateStageSurfaceEntry entry = .ok normalized ↔
      refusedEntry (AuthoritativeClosureGraph.stripDotSlashes
        (forwardSlashes (trim entry).toList)) = false ∧
      String.ofList (AuthoritativeClosureGraph.stripDotSlashes
        (forwardSlashes (trim entry).toList)) = normalized := by
  have hunfold : normalizeLateStageSurfaceEntry entry =
      if refusedEntry (AuthoritativeClosureGraph.stripDotSlashes
        (forwardSlashes (trim entry).toList)) then .error (lateStageSurfaceInvalid entry)
      else .ok (String.ofList (AuthoritativeClosureGraph.stripDotSlashes
        (forwardSlashes (trim entry).toList))) := rfl
  rw [hunfold]
  generalize AuthoritativeClosureGraph.stripDotSlashes (forwardSlashes (trim entry).toList) = path
  cases refusedEntry path with
  | true => exact iff_of_false nofun nofun
  | false => exact ⟨fun h => ⟨rfl, Except.ok.inj h⟩, fun h => congrArg Except.ok h.2⟩

/-- An entry is normalized as it is trimmed. -/
theorem normalizeLateStageSurfaceEntry_trim {entry normalized : String} :
    normalizeLateStageSurfaceEntry (trim entry) = .ok normalized ↔
      normalizeLateStageSurfaceEntry entry = .ok normalized := by
  rw [normalizeLateStageSurfaceEntry_eq_ok, normalizeLateStageSurfaceEntry_eq_ok, trim_trim]

theorem normalizeLateStageSurfaceEntry_toList {entry normalized : String}
    (h : normalizeLateStageSurfaceEntry entry = .ok normalized) :
    normalized.toList = AuthoritativeClosureGraph.stripDotSlashes
      (forwardSlashes (trim entry).toList) := by
  rw [← (normalizeLateStageSurfaceEntry_eq_ok.mp h).2, String.toList_ofList]

/-- What normalizing makes less: the length, and the slashes that are not forward. -/
def entryWeight (entry : String) : Nat := entry.toList.length + entry.toList.count '\\'

theorem count_forwardSlashes (path : List Char) : (forwardSlashes path).count '\\' = 0 := by
  refine List.count_eq_zero.mpr fun hmem => ?_
  obtain ⟨c, _, hc⟩ := List.mem_map.mp hmem
  split_ifs at hc with hback
  · cases hc
  · exact hback hc

theorem forwardSlashes_of_count {path : List Char} (h : path.count '\\' = 0) :
    forwardSlashes path = path := by
  refine (List.map_congr_left fun c hc => ?_).trans (List.map_id path)
  have hback : c ≠ '\\' := fun heq => List.count_eq_zero.mp h (heq ▸ hc)
  rw [if_neg hback]
  rfl

/-- **Normalizing an entry** leaves it as it is, or makes it less. -/
theorem entryWeight_lt {entry normalized : String}
    (h : normalizeLateStageSurfaceEntry entry = .ok normalized) (hne : normalized ≠ entry) :
    entryWeight normalized < entryWeight entry := by
  have htoList := normalizeLateStageSurfaceEntry_toList h
  have hsuffix := stripDotSlashes_suffix (forwardSlashes (trim entry).toList)
  have hcount : normalized.toList.count '\\' = 0 := by
    have hle := hsuffix.sublist.count_le '\\'
    rw [← htoList, count_forwardSlashes] at hle
    omega
  have hlength : (forwardSlashes (trim entry).toList).length = (trim entry).toList.length :=
    List.length_map _
  have hstrip := hsuffix.length_le
  have htrim : (trim entry).toList.length ≤ entry.toList.length := by
    rw [trim, String.toList_ofList]
    exact length_trimChars_le _
  rw [← htoList, hlength] at hstrip
  unfold entryWeight
  by_contra hge
  -- nothing has been trimmed, replaced or stripped
  have hsame : (trim entry).toList = entry.toList := by
    rw [trim, String.toList_ofList] at htrim hstrip ⊢
    exact (infix_trimChars _).eq_of_length (by omega)
  have hforward : forwardSlashes (trim entry).toList = entry.toList := by
    rw [hsame]
    exact forwardSlashes_of_count (by omega)
  rw [hforward] at htoList hsuffix
  refine hne (String.toList_injective (htoList.trans (hsuffix.eq_of_length ?_)))
  rw [← htoList]
  omega

theorem comma_not_mem_of_normalize {entry normalized : String}
    (h : normalizeLateStageSurfaceEntry entry = .ok normalized) (hentry : ',' ∉ entry.toList) :
    ',' ∉ normalized.toList := by
  rw [normalizeLateStageSurfaceEntry_toList h]
  intro hmem
  obtain ⟨c, hc, heq⟩ := List.mem_map.mp ((stripDotSlashes_suffix _).subset hmem)
  rw [trim, String.toList_ofList] at hc
  split_ifs at heq
  · cases heq
  · exact hentry (heq ▸ (infix_trimChars _).subset hc)

/-! ### Round trips -/

theorem parse_eq_some {value : String} {rawEntries : List Char} {entries : List String}
    (hvalue : value.toList = lateStageSurfaceOnly.toList ++ rawEntries) :
    parseLateStageSurfaceOnlyBranchSurface value = some entries ↔ ∃ normalized,
      (surfaceEntries rawEntries).mapM normalizeLateStageSurfaceEntry = .ok normalized ∧
        OrderedMap.keySet normalized = entries := by
  unfold parseLateStageSurfaceOnlyBranchSurface
  rw [hvalue, stripPrefix_append, Option.bind_eq_bind, Option.bind_some]
  cases (surfaceEntries rawEntries).mapM normalizeLateStageSurfaceEntry with
  | error failure => exact iff_of_false nofun (by rintro ⟨_, h, _⟩; cases h)
  | ok normalized =>
    show some (OrderedMap.keySet normalized) = some entries ↔ _
    rw [Option.some.injEq]
    exact ⟨fun h => ⟨normalized, rfl, h⟩, fun ⟨_, hok, h⟩ => by cases hok; exact h⟩

/-- A path that is parsed back as it is. -/
def NormalPath (path : String) : Prop :=
  ',' ∉ path.toList ∧ normalizeLateStageSurfaceEntry path = .ok path

theorem surfaceEntries_of_normal {path : String} (h : NormalPath path) :
    surfaceEntries path.toList = [trim path] := by
  rw [surfaceEntries_of_not_mem h.1, String.ofList_toList, if_neg]
  intro hblank
  obtain ⟨hrefused, hpath⟩ := normalizeLateStageSurfaceEntry_eq_ok.mp h.2
  rw [hblank] at hrefused
  cases hrefused

/-- **A surface is parsed back to its paths** exactly if all of them are normal. -/
theorem parse_render_iff (paths : List String) :
    parseLateStageSurfaceOnlyBranchSurface (renderLateStageSurfaceOnlyBranchSurface paths) =
        some (OrderedMap.keySet paths) ↔
      ∀ path ∈ paths, NormalPath path := by
  obtain ⟨rawEntries, hvalue, hentries⟩ := surfaceEntries_render paths
  rw [parse_eq_some hvalue, hentries]
  constructor
  · rintro ⟨normalized, hok, hset⟩
    have hmem : ∀ path, path ∈ normalized ↔ path ∈ paths := fun path => by
      rw [← OrderedMap.mem_keySet, hset, OrderedMap.mem_keySet]
    have hsource : ∀ path ∈ paths, ∃ entry ∈ pathEntries paths,
        normalizeLateStageSurfaceEntry entry = .ok path := fun path hpath => by
      obtain ⟨entry, hentry, hnormal⟩ := mem_of_mapM_eq_ok hok ((hmem path).mpr hpath)
      exact ⟨entry, mem_pathEntries_keySet.mp hentry, hnormal⟩
    have hcomma : ∀ path ∈ paths, ',' ∉ path.toList := fun path hpath => by
      obtain ⟨entry, hentry, hnormal⟩ := hsource path hpath
      obtain ⟨_, _, hentry⟩ := List.mem_flatMap.mp hentry
      exact comma_not_mem_of_normalize hnormal (comma_not_mem_of_mem_surfaceEntries hentry)
    have hfrom : ∀ path ∈ paths, ∃ path' ∈ paths,
        normalizeLateStageSurfaceEntry path' = .ok path := fun path hpath => by
      obtain ⟨entry, hentry, hnormal⟩ := hsource path hpath
      obtain ⟨path', hpath', hentry⟩ := List.mem_flatMap.mp hentry
      rw [surfaceEntries_of_not_mem (hcomma path' hpath'), String.ofList_toList] at hentry
      split_ifs at hentry
      · cases hentry
      · rw [List.mem_singleton.mp hentry] at hnormal
        exact ⟨path', hpath', normalizeLateStageSurfaceEntry_trim.mp hnormal⟩
    by_contra hall
    -- the heaviest path that is not normal comes from one that is heavier
    let abnormal := paths.toFinset.filter fun path => normalizeLateStageSurfaceEntry path ≠ .ok path
    have hne : abnormal.Nonempty := by
      rw [not_forall] at hall
      obtain ⟨path, hpath⟩ := hall
      rw [Classical.not_imp] at hpath
      refine ⟨path, Finset.mem_filter.mpr ⟨List.mem_toFinset.mpr hpath.1, fun hnormal => ?_⟩⟩
      exact hpath.2 ⟨hcomma path hpath.1, hnormal⟩
    obtain ⟨path, hpath, hmax⟩ := Finset.exists_max_image abnormal entryWeight hne
    obtain ⟨hpath, habnormal⟩ := Finset.mem_filter.mp hpath
    obtain ⟨path', hpath', hnormal⟩ := hfrom path (List.mem_toFinset.mp hpath)
    have hdiff : path ≠ path' := by
      rintro rfl
      exact habnormal hnormal
    have habnormal' : path' ∈ abnormal := by
      refine Finset.mem_filter.mpr ⟨List.mem_toFinset.mpr hpath', fun hself => hdiff ?_⟩
      exact Except.ok.inj (hnormal.symm.trans hself)
    have hlt := entryWeight_lt hnormal hdiff
    have hle := hmax path' habnormal'
    omega
  · intro h
    have hpieces : pathEntries (OrderedMap.keySet paths) =
        (OrderedMap.keySet paths).map trim := by
      unfold pathEntries
      rw [← List.flatMap_pure_eq_map]
      refine List.flatMap_congr fun path hpath => ?_
      exact surfaceEntries_of_normal (h path (OrderedMap.mem_keySet.mp hpath))
    refine ⟨OrderedMap.keySet paths, ?_, OrderedMap.keySet_ext fun path => OrderedMap.mem_keySet⟩
    rw [hpieces, mapM_eq_ok, List.forall₂_map_left_iff, List.forall₂_same]
    exact fun path hpath =>
      normalizeLateStageSurfaceEntry_trim.mpr (h path (OrderedMap.mem_keySet.mp hpath)).2

end FeatureForge
