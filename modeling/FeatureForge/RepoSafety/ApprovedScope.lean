import Mathlib.Data.List.Find
import Mathlib.Data.List.Induction
import FeatureForge.Lib.Except
import FeatureForge.RepoSafety.Approvals

/-!
# Writes in the approved scope

A run of calls keeps, for each file, the record that was written there last
(`approvalAt_run`), so without collisions of digests a check meets the last approval of its
stage and task.  It lets the write through where the fingerprints agree
(`check_allowed_iff`).  The fingerprint tells the targets, but of the paths only what they
are joined by line feeds (`fingerprintText_inj`): this is the one way in which a check can
let through what was not approved (`approved_scope_iff`).
-/

namespace FeatureForge

/-! ### Sets of texts -/

theorem mem_btreeSet {xs : List (List Char)} {x : List Char} : x ∈ btreeSet xs ↔ x ∈ xs := by
  rw [btreeSet, List.map_map, List.mem_map]
  constructor
  · rintro ⟨⟨key, ⟨⟩⟩, hmem, rfl⟩
    rw [OrderedMap.mem_entries, OrderedMap.get?_ofList_map (fun _ _ _ => rfl)] at hmem
    obtain ⟨x, hx, rfl, _⟩ := hmem
    show (String.ofList x).toList ∈ xs
    rw [String.toList_ofList]
    exact hx
  · intro hx
    refine ⟨(String.ofList x, ()), ?_, String.toList_ofList⟩
    rw [OrderedMap.mem_entries, OrderedMap.get?_ofList_map (fun _ _ _ => rfl)]
    exact ⟨x, hx, rfl, rfl⟩

/-- Sets with the same texts are the same list. -/
theorem btreeSet_ext {xs ys : List (List Char)}
    (h : ∀ x, x ∈ btreeSet xs ↔ x ∈ btreeSet ys) : btreeSet xs = btreeSet ys := by
  have hmap : OrderedMap.ofList (xs.map fun x => (String.ofList x, ())) =
      OrderedMap.ofList (ys.map fun x => (String.ofList x, ())) := by
    refine OrderedMap.ext_get? fun key => Option.ext fun u => ?_
    rw [OrderedMap.get?_ofList_map (fun _ _ _ => rfl), OrderedMap.get?_ofList_map (fun _ _ _ => rfl)]
    refine exists_congr fun x => and_congr_left fun _ => ?_
    rw [← mem_btreeSet, h, mem_btreeSet]
  rw [btreeSet, hmap, ← btreeSet]

/-! ### Texts cut at line feeds -/

/-- Lists with a last mark that comes before the same things. -/
theorem append_cons_inj_of_not_mem {α : Type} {m : α} {xs ys xs' ys' : List α} (hys : m ∉ ys)
    (hys' : m ∉ ys') (h : xs ++ m :: ys = xs' ++ m :: ys') : xs = xs' ∧ ys = ys' := by
  rcases List.append_eq_append_iff.mp h with ⟨zs, hxs, hzs⟩ | ⟨zs, hxs, hzs⟩
  · cases zs with
    | nil =>
      rw [List.append_nil] at hxs
      exact ⟨hxs.symm, (List.cons.inj hzs).2⟩
    | cons z zs =>
      obtain ⟨rfl, rfl⟩ := List.cons.inj hzs
      exact absurd (List.mem_append_right _ List.mem_cons_self) hys
  · cases zs with
    | nil =>
      rw [List.append_nil] at hxs
      exact ⟨hxs, (List.cons.inj hzs).2.symm⟩
    | cons z zs =>
      obtain ⟨rfl, rfl⟩ := List.cons.inj hzs
      exact absurd (List.mem_append_right _ List.mem_cons_self) hys'

/-- Lines without line feeds are told from what they are joined to. -/
theorem joinLines_inj {ls ls' : List (List Char)} (hls : ∀ l ∈ ls, l ≠ [] ∧ '\n' ∉ l)
    (hls' : ∀ l ∈ ls', l ≠ [] ∧ '\n' ∉ l) (h : joinLines ls = joinLines ls') : ls = ls' := by
  have hsplit : ∀ ls : List (List Char), ls ≠ [] → (∀ l ∈ ls, l ≠ [] ∧ '\n' ∉ l) →
      (joinLines ls).splitOn '\n' = ls :=
    fun ls hne hls => List.splitOn_intercalate '\n' (fun l hl => (hls l hl).2) hne
  have hblank : ∀ ls : List (List Char), (∀ l ∈ ls, l ≠ [] ∧ '\n' ∉ l) → joinLines ls = [] →
      ls = [] := by
    intro ls hls hjoin
    by_contra hne
    have hlines := hsplit ls hne hls
    rw [hjoin, List.splitOn_nil] at hlines
    exact (hls [] (by rw [← hlines]; exact List.mem_cons_self)).1 rfl
  by_cases hne : ls = []
  · subst hne
    exact (hblank ls' hls' h.symm).symm
  · by_cases hne' : ls' = []
    · subst hne'
      exact hblank ls hls h
    · rw [← hsplit ls hne hls, h, hsplit ls' hne' hls']

theorem allowed_line {target : List Char} (h : target ∈ writeTargetAllowlist) :
    target ≠ [] ∧ '\n' ∉ target ∧ target ≠ "--targets--".toList := by
  have hall : ∀ target ∈ writeTargetAllowlist,
      target ≠ [] ∧ '\n' ∉ target ∧ target ≠ "--targets--".toList := by decide
  exact hall target h

/-- **What a fingerprint tells**: the targets, and the paths as far as they are told by what
they are joined to. -/
theorem fingerprintText_inj {repoRoot branchName stage taskId : List Char}
    {paths paths' targets targets' : List (List Char)}
    (htargets : ∀ t ∈ targets, t ∈ writeTargetAllowlist)
    (htargets' : ∀ t ∈ targets', t ∈ writeTargetAllowlist) :
    fingerprintText repoRoot branchName stage taskId paths targets =
        fingerprintText repoRoot branchName stage taskId paths' targets' ↔
      joinLines paths = joinLines paths' ∧ targets = targets' := by
  constructor
  · intro h
    unfold fingerprintText at h
    have h := List.append_cancel_left h
    have h := List.append_cancel_left (List.cons.inj h).2
    have h := List.append_cancel_left (List.cons.inj h).2
    have h := List.append_cancel_left (List.cons.inj h).2
    have h := List.append_cancel_left (List.cons.inj h).2
    -- the lines of the rest: those of the paths, the mark, and those of the targets
    have hcut : ∀ paths targets : List (List Char),
        (joinLines paths ++ ("\n--targets--\n".toList ++ joinLines targets)).splitOn '\n' =
          (joinLines paths).splitOn '\n' ++
            "--targets--".toList :: (joinLines targets).splitOn '\n' := by
      intro paths targets
      have hmark : "\n--targets--\n".toList ++ joinLines targets =
          '\n' :: ("--targets--".toList ++ '\n' :: joinLines targets) := rfl
      have hline : "--targets--".toList.splitOn '\n' = ["--targets--".toList] := by
        decide
      rw [hmark, List.splitOn_append_cons_self, List.splitOn_append_cons_self, hline]
      rfl
    have hmark : ∀ targets : List (List Char), (∀ t ∈ targets, t ∈ writeTargetAllowlist) →
        "--targets--".toList ∉ (joinLines targets).splitOn '\n' := by
      intro targets htargets hmem
      by_cases hne : targets = []
      · rw [hne] at hmem
        revert hmem
        decide
      · have hsplit : (joinLines targets).splitOn '\n' = targets :=
          List.splitOn_intercalate '\n' (fun t ht => (allowed_line (htargets t ht)).2.1) hne
        rw [hsplit] at hmem
        exact (allowed_line (htargets _ hmem)).2.2 rfl
    have hjoined : ∀ text text' : List Char, text.splitOn '\n' = text'.splitOn '\n' →
        text = text' := by
      intro text text' heq
      have hcut := congrArg (List.intercalate ['\n']) heq
      rw [List.intercalate_splitOn, List.intercalate_splitOn] at hcut
      exact hcut
    have hlines := congrArg (List.splitOn '\n') h
    rw [hcut, hcut] at hlines
    obtain ⟨hpaths, hjoin⟩ :=
      append_cons_inj_of_not_mem (hmark _ htargets) (hmark _ htargets') hlines
    refine ⟨hjoined _ _ hpaths, joinLines_inj ?_ ?_ (hjoined _ _ hjoin)⟩
    · exact fun t ht => ⟨(allowed_line (htargets t ht)).1, (allowed_line (htargets t ht)).2.1⟩
    · exact fun t ht => ⟨(allowed_line (htargets' t ht)).1, (allowed_line (htargets' t ht)).2.1⟩
  · rintro ⟨hpaths, rfl⟩
    rw [fingerprintText, hpaths, ← fingerprintText]

/-! ### Scopes -/

/-- **What a scope is made of.** -/
structure IsScope (sha : Sha256Hex) (runtime : RepoSafetyRuntime) (scope : Scope) : Prop where
  paths : ∃ paths, scope.paths = btreeSet paths ∧
    ∀ path ∈ paths, ∃ rawPath, normalizeRepoRelativePath rawPath = some path
  writeTargets : ∃ targets, scope.writeTargets = btreeSet targets ∧
    ∀ target ∈ targets, target ∈ writeTargetAllowlist
  taskId : (∀ text, '\n' ∉ (sha text).toList) → '\n' ∉ scope.taskId
  fingerprint : scope.approvalFingerprint = sha (fingerprintText runtime.repoRoot
    runtime.branchName scope.stage scope.taskId scope.paths scope.writeTargets)
  file : scope.canonicalApprovalPath = ⟨runtime.userName ++ '-' :: runtime.safeBranch,
    shortHash sha (taskText scope.stage scope.taskId) ++ ".json".toList⟩

theorem feed_not_mem_normalizeIdentifierToken (value : List Char) :
    '\n' ∉ normalizeIdentifierToken value := by
  have hchar : ∀ c, identifierChar c ≠ '\n' := by
    intro c hc
    unfold identifierChar at hc
    split_ifs at hc with hsafe
    · subst hc
      exact absurd hsafe (by decide)
    · exact absurd hc (by decide)
  unfold normalizeIdentifierToken
  dsimp only
  split_ifs
  · exact List.not_mem_nil
  · intro hmem
    obtain ⟨c, _, hc⟩ := List.mem_map.mp hmem
    exact hchar c hc

theorem feed_not_mem_deriveTaskId {sha : Sha256Hex} (hsha : ∀ text, '\n' ∉ (sha text).toList)
    {stage taskId : List Char} {rawTaskId : Option (List Char)} {paths targets : List (List Char)}
    (h : deriveTaskId sha stage rawTaskId paths targets = .ok taskId) : '\n' ∉ taskId := by
  unfold deriveTaskId at h
  cases rawTaskId with
  | some rawTaskId =>
    dsimp only at h
    split_ifs at h
    cases h
    exact feed_not_mem_normalizeIdentifierToken rawTaskId
  | none =>
    dsimp only at h
    split_ifs at h
    cases h
    rw [List.mem_append, List.mem_cons, not_or, not_or]
    refine ⟨feed_not_mem_normalizeIdentifierToken stage, by decide, fun hmem => ?_⟩
    exact hsha _ (List.mem_of_mem_take hmem)

namespace RepoSafetyRuntime

variable {sha : Sha256Hex} {runtime : RepoSafetyRuntime}

theorem prepareScope_eq_ok {stage : List Char} {rawTaskId : Option (List Char)}
    {rawPaths rawWriteTargets : List (List Char)} {scope : Scope}
    (h : runtime.prepareScope sha stage rawTaskId rawPaths rawWriteTargets = .ok scope) :
    IsScope sha runtime scope := by
  unfold prepareScope at h
  split_ifs at h
  obtain ⟨paths, hpaths, h⟩ := bind_eq_ok.mp h
  obtain ⟨targets, htargets, h⟩ := bind_eq_ok.mp h
  obtain ⟨taskId, htask, h⟩ := bind_eq_ok.mp h
  cases h
  refine ⟨?_, ?_, fun hsha => feed_not_mem_deriveTaskId hsha htask, rfl, rfl⟩
  · obtain ⟨paths', hread, h⟩ := bind_eq_ok.mp hpaths
    cases h
    refine ⟨paths', rfl, fun path hpath => ?_⟩
    obtain ⟨rawPath, _, hraw⟩ := mem_of_mapM_eq_ok hread hpath
    cases hnormal : normalizeRepoRelativePath rawPath with
    | none => rw [hnormal] at hraw; cases hraw
    | some path' =>
      rw [hnormal] at hraw
      exact ⟨rawPath, hnormal.trans (congrArg some (Except.ok.inj hraw))⟩
  · obtain ⟨targets', hread, h⟩ := bind_eq_ok.mp htargets
    cases h
    refine ⟨targets', rfl, fun target htarget => ?_⟩
    obtain ⟨rawTarget, _, hraw⟩ := mem_of_mapM_eq_ok hread htarget
    split_ifs at hraw with hallowed
    exact Except.ok.inj hraw ▸ hallowed

/-! ### Runs -/

variable (sha runtime)

/-- The scope that a call files, with its reason. -/
def filing : Call → Option (Scope × List Char)
  | .check _ => none
  | .approve args =>
    match runtime.prepareScope sha args.stage args.taskId args.paths
      (args.writeTargets.map WriteTargetArg.asStr), normalizeReason args.reason with
    | .ok scope, .ok reason => some (scope, reason)
    | _, _ => none

/-- The approvals that some calls have recorded, the last one first. -/
def filings (calls : List Call) : List (Scope × List Char) :=
  calls.reverse.filterMap (runtime.filing sha)

/-- The last approval of a stage and a task. -/
def lastApproval (calls : List Call) (stage taskId : List Char) : Option Scope :=
  ((runtime.filings sha calls).map Prod.fst).find? fun scope =>
    decide (scope.stage = stage) && decide (scope.taskId = taskId)

variable {sha runtime}

theorem isScope_of_filing {call : Call} {scope : Scope} {reason : List Char}
    (h : runtime.filing sha call = some (scope, reason)) : IsScope sha runtime scope := by
  cases call with
  | check args => cases h
  | approve args =>
    unfold filing at h
    dsimp only at h
    split at h
    · next hscope _ =>
      cases h
      exact prepareScope_eq_ok hscope
    · cases h

/-- What a call does to the records. -/
theorem call_eq (store : ApprovalStore) (c : Call) :
    runtime.call sha store c = match runtime.filing sha c with
      | none => store
      | some (scope, reason) => runtime.writeApprovalRecord store scope.canonicalApprovalPath
          (runtime.approvalRecord scope reason) := by
  cases c with
  | check args => rfl
  | approve args =>
    unfold call filing approve
    dsimp only
    cases runtime.prepareScope sha args.stage args.taskId args.paths
        (args.writeTargets.map WriteTargetArg.asStr) with
    | error e => rfl
    | ok scope =>
      cases normalizeReason args.reason with
      | error e => rfl
      | ok reason => rfl

theorem run_concat (calls : List Call) (c : Call) :
    runtime.run sha (calls ++ [c]) = runtime.call sha (runtime.run sha calls) c := by
  rw [run, List.foldl_append]
  rfl

theorem filings_concat (calls : List Call) (c : Call) :
    runtime.filings sha (calls ++ [c]) =
      (runtime.filing sha c).toList ++ runtime.filings sha calls := by
  rw [filings, List.reverse_append, List.reverse_singleton, List.singleton_append,
    List.filterMap_cons]
  cases runtime.filing sha c <;> rfl

/-- **After a run** a file holds what was filed there last. -/
theorem approvalAt_run (calls : List Call) (file : ApprovalFile) :
    approvalAt (runtime.run sha calls) runtime.repoSlug file =
      ((runtime.filings sha calls).find? fun filed =>
        decide (filed.1.canonicalApprovalPath = file)).map fun filed =>
          runtime.approvalRecord filed.1 filed.2 := by
  induction calls using List.reverseRecOn with
  | nil => rfl
  | append_singleton calls c ih =>
    rw [run_concat, call_eq, filings_concat]
    cases runtime.filing sha c with
    | none => exact ih
    | some filed =>
      obtain ⟨scope, reason⟩ := filed
      dsimp only [Option.toList_some]
      rw [approvalAt, writeApprovalRecord, OrderedMap.get?_insert_self, Option.bind_some,
        List.singleton_append, List.find?_cons]
      by_cases hfile : scope.canonicalApprovalPath = file
      · rw [decide_eq_true hfile, ← hfile, Function.update_self]
        rfl
      · rw [decide_eq_false hfile, Function.update_of_ne (Ne.symm hfile)]
        dsimp only
        rw [← ih, approvalAt]
        cases (runtime.run sha calls).get? runtime.repoSlug <;> rfl

/-- No other repository has records after a run. -/
theorem get?_run_of_ne (calls : List Call) {slug : String} (h : slug ≠ runtime.repoSlug) :
    (runtime.run sha calls).get? slug = none := by
  induction calls using List.reverseRecOn with
  | nil => rfl
  | append_singleton calls c ih =>
    rw [run_concat, call_eq]
    cases runtime.filing sha c with
    | none => exact ih
    | some filed =>
      dsimp only
      rw [writeApprovalRecord, OrderedMap.get?_insert_of_ne _ _ h]
      exact ih

theorem readLegacyApproval_run (calls : List Call) (scope : Scope) :
    runtime.readLegacyApproval sha (runtime.run sha calls) scope = none := by
  have hnil : ((runtime.run sha calls).entries.filter fun slugDir =>
      decide (slugDir.1 ≠ runtime.repoSlug)) = [] := by
    refine List.filter_eq_nil_iff.mpr ?_
    rintro ⟨slug, files⟩ hmem hne
    have hget := OrderedMap.mem_entries.mp hmem
    rw [get?_run_of_ne calls (of_decide_eq_true hne)] at hget
    cases hget
  rw [readLegacyApproval, hnil]
  rfl

/-! ### Checks -/

variable (sha runtime)

/-- The texts whose digests tell the scopes of a runtime. -/
def scopeTexts (scope : Scope) : List (List Char) :=
  [taskText scope.stage scope.taskId, fingerprintText runtime.repoRoot runtime.branchName
    scope.stage scope.taskId scope.paths scope.writeTargets]

/-- The scopes that some calls have filed, and the one that is to be checked. -/
def scopesOf (calls : List Call) (args : RepoSafetyCheckArgs) : List Scope :=
  ((runtime.filings sha calls).map Prod.fst) ++
    (runtime.prepareScope sha args.stage args.taskId args.paths
      (args.writeTargets.map WriteTargetArg.asStr)).toOption.toList

/-- No two texts of these scopes share their digest, nor the first digits of it. -/
def NoCollision (scopes : List Scope) : Prop :=
  ∀ text ∈ scopes.flatMap runtime.scopeTexts, ∀ text' ∈ scopes.flatMap runtime.scopeTexts,
    shortHash sha text = shortHash sha text' → text = text'

/-- The last approval of the stage and the task is for the same paths and targets. -/
def ScopeApproved (calls : List Call) (scope : Scope) : Prop :=
  ∃ approved, runtime.lastApproval sha calls scope.stage scope.taskId = some approved ∧
    (∀ path, path ∈ approved.paths ↔ path ∈ scope.paths) ∧
    ∀ target, target ∈ approved.writeTargets ↔ target ∈ scope.writeTargets

/-- The last approval of the stage and the task is for the same targets, and for other
paths that a line feed in one of them makes look alike. -/
def PathsAlike (calls : List Call) (scope : Scope) : Prop :=
  ∃ approved, runtime.lastApproval sha calls scope.stage scope.taskId = some approved ∧
    approved.writeTargets = scope.writeTargets ∧
    joinLines approved.paths = joinLines scope.paths ∧ approved.paths ≠ scope.paths

variable {sha runtime}

theorem taskText_inj {stage stage' taskId taskId' : List Char} (h : '\n' ∉ taskId)
    (h' : '\n' ∉ taskId') (heq : taskText stage taskId = taskText stage' taskId') :
    stage = stage' ∧ taskId = taskId' :=
  append_cons_inj_of_not_mem h h' heq

/-- Without collisions a file is that of one stage and task. -/
theorem canonicalApprovalPath_inj {scopes : List Scope} (hsha : ∀ text, '\n' ∉ (sha text).toList)
    (hcollision : runtime.NoCollision sha scopes) {scope scope' : Scope} (hmem : scope ∈ scopes)
    (hmem' : scope' ∈ scopes) (h : IsScope sha runtime scope) (h' : IsScope sha runtime scope') :
    scope.canonicalApprovalPath = scope'.canonicalApprovalPath ↔
      scope.stage = scope'.stage ∧ scope.taskId = scope'.taskId := by
  constructor
  · intro heq
    rw [h.file, h'.file] at heq
    have hhash := List.append_cancel_right (congrArg ApprovalFile.fileName heq)
    refine taskText_inj (h.taskId hsha) (h'.taskId hsha) (hcollision _ ?_ _ ?_ hhash)
    · exact List.mem_flatMap.mpr ⟨scope, hmem, List.mem_cons_self⟩
    · exact List.mem_flatMap.mpr ⟨scope', hmem', List.mem_cons_self⟩
  · rintro ⟨hstage, htask⟩
    rw [h.file, h'.file, hstage, htask]

/-- Without collisions fingerprints are those of the same targets and the same joined paths. -/
theorem approvalFingerprint_inj {scopes : List Scope} (hcollision : runtime.NoCollision sha scopes)
    {scope scope' : Scope} (hmem : scope ∈ scopes) (hmem' : scope' ∈ scopes)
    (h : IsScope sha runtime scope) (h' : IsScope sha runtime scope')
    (hstage : scope.stage = scope'.stage) (htask : scope.taskId = scope'.taskId) :
    scope.approvalFingerprint = scope'.approvalFingerprint ↔
      joinLines scope.paths = joinLines scope'.paths ∧
        scope.writeTargets = scope'.writeTargets := by
  obtain ⟨targets, htargets, hallowed⟩ := h.writeTargets
  obtain ⟨targets', htargets', hallowed'⟩ := h'.writeTargets
  have hinj := @fingerprintText_inj runtime.repoRoot runtime.branchName scope.stage scope.taskId
    scope.paths scope'.paths scope.writeTargets scope'.writeTargets
    (fun t ht => hallowed t (mem_btreeSet.mp (htargets ▸ ht)))
    (fun t ht => hallowed' t (mem_btreeSet.mp (htargets' ▸ ht)))
  rw [← hinj, h.fingerprint, h'.fingerprint, ← hstage, ← htask]
  constructor
  · intro heq
    refine hcollision _ ?_ _ ?_ (by rw [shortHash, heq, ← shortHash])
    · exact List.mem_flatMap.mpr ⟨scope, hmem, List.mem_cons_of_mem _ List.mem_cons_self⟩
    · refine List.mem_flatMap.mpr ⟨scope', hmem', List.mem_cons_of_mem _ ?_⟩
      rw [hstage, htask]
      exact List.mem_cons_self
  · intro heq
    rw [heq]

theorem mem_scopesOf_of_filing {calls : List Call} {args : RepoSafetyCheckArgs}
    {filed : Scope × List Char} (h : filed ∈ runtime.filings sha calls) :
    filed.1 ∈ runtime.scopesOf sha calls args ∧ IsScope sha runtime filed.1 := by
  obtain ⟨c, _, hc⟩ := List.mem_filterMap.mp h
  exact ⟨List.mem_append_left _ (List.mem_map_of_mem h), isScope_of_filing hc⟩

theorem mem_scopesOf_of_check {calls : List Call} {args : RepoSafetyCheckArgs} {scope : Scope}
    (h : runtime.prepareScope sha args.stage args.taskId args.paths
      (args.writeTargets.map WriteTargetArg.asStr) = .ok scope) :
    scope ∈ runtime.scopesOf sha calls args := by
  rw [scopesOf, h]
  exact List.mem_append_right _ List.mem_cons_self

/-- What a check reads after a run: the record of the last approval of its stage and task. -/
theorem readApproval_run {calls : List Call} {args : RepoSafetyCheckArgs} {scope : Scope}
    (hsha : ∀ text, '\n' ∉ (sha text).toList)
    (hcollision : runtime.NoCollision sha (runtime.scopesOf sha calls args))
    (hscope : runtime.prepareScope sha args.stage args.taskId args.paths
      (args.writeTargets.map WriteTargetArg.asStr) = .ok scope) :
    runtime.readApproval sha (runtime.run sha calls) scope =
      ((runtime.filings sha calls).find? fun filed =>
        decide (filed.1.stage = scope.stage) && decide (filed.1.taskId = scope.taskId)).map
          fun filed => runtime.approvalRecord filed.1 filed.2 := by
  rw [readApproval, readLegacyApproval_run, Option.or_none, approvalAt_run]
  refine congrArg _ (List.find?_congr fun filed hfiled => ?_)
  obtain ⟨hmem, his⟩ := mem_scopesOf_of_filing hfiled
  rw [← Bool.decide_and]
  exact decide_eq_decide.mpr (canonicalApprovalPath_inj hsha hcollision hmem
    (mem_scopesOf_of_check hscope) his (prepareScope_eq_ok hscope))

theorem recordMatchesScope_approvalRecord {approved scope : Scope} {reason : List Char}
    (hstage : approved.stage = scope.stage) (htask : approved.taskId = scope.taskId) :
    runtime.recordMatchesScope (runtime.approvalRecord approved reason) scope = true := by
  have hroot : runtime.storedRepoRootMatchesCurrent runtime.repoRoot = true := by
    unfold storedRepoRootMatchesCurrent
    rw [if_neg runtime.root_ne_nil, if_pos runtime.root_canonical.symm]
  unfold recordMatchesScope approvalRecord
  simp [hroot, hstage, htask]

theorem recordFingerprintMatchesScope_approvalRecord {approved scope : Scope} {reason : List Char}
    (h : IsScope sha runtime scope) :
    runtime.recordFingerprintMatchesScope sha (runtime.approvalRecord approved reason) scope =
      decide (approved.approvalFingerprint = scope.approvalFingerprint) := by
  have hsame : computeFingerprintForRepoRoot sha runtime.repoRoot runtime.branchName scope.stage
      scope.taskId scope.paths scope.writeTargets = scope.approvalFingerprint := h.fingerprint.symm
  unfold recordFingerprintMatchesScope approvalRecord
  dsimp only
  rw [hsame, Bool.or_self]

/-- **A check lets a write through** where the last approval of its stage and task is for the
same targets, and for paths that are joined to the same text. -/
theorem check_allowed_iff {calls : List Call} {args : RepoSafetyCheckArgs} {scope : Scope}
    (hprotected : runtime.isProtected = true) (hwrite : args.intent = .write)
    (hsha : ∀ text, '\n' ∉ (sha text).toList)
    (hcollision : runtime.NoCollision sha (runtime.scopesOf sha calls args))
    (hscope : runtime.prepareScope sha args.stage args.taskId args.paths
      (args.writeTargets.map WriteTargetArg.asStr) = .ok scope) :
    (∃ result, runtime.check sha (runtime.run sha calls) args = .ok result ∧
      result.outcome = "allowed") ↔
    ∃ approved, runtime.lastApproval sha calls scope.stage scope.taskId = some approved ∧
      joinLines approved.paths = joinLines scope.paths ∧
      approved.writeTargets = scope.writeTargets := by
  have hcheck : runtime.check sha (runtime.run sha calls) args =
      .ok (runtime.checkApproval sha args.intent (runtime.run sha calls) scope) := by
    refine bind_eq_ok.mpr ⟨scope, hscope, ?_⟩
    rw [hwrite, hprotected]
    rfl
  have hresult : (∃ result, runtime.check sha (runtime.run sha calls) args = .ok result ∧
      result.outcome = "allowed") ↔
      (runtime.checkApproval sha args.intent (runtime.run sha calls) scope).outcome =
        "allowed" := by
    rw [hcheck]
    exact ⟨fun ⟨_, heq, h⟩ => Except.ok.inj heq ▸ h, fun h => ⟨_, rfl, h⟩⟩
  rw [hresult, checkApproval, readApproval_run hsha hcollision hscope, lastApproval, List.find?_map]
  have hpred : ((fun scope' : Scope => decide (scope'.stage = scope.stage) &&
      decide (scope'.taskId = scope.taskId)) ∘ (Prod.fst : Scope × List Char → Scope)) =
      fun filed => decide (filed.1.stage = scope.stage) && decide (filed.1.taskId = scope.taskId) :=
    rfl
  rw [hpred]
  cases hfind : (runtime.filings sha calls).find? fun filed =>
      decide (filed.1.stage = scope.stage) && decide (filed.1.taskId = scope.taskId) with
  | none =>
    refine iff_of_false ?_ (by rintro ⟨_, h, _⟩; cases h)
    show ¬("blocked" = "allowed")
    decide
  | some filed =>
    obtain ⟨hmem, his⟩ := mem_scopesOf_of_filing (List.mem_of_find?_eq_some hfind)
    have hmatch := List.find?_some hfind
    rw [Bool.and_eq_true, decide_eq_true_iff, decide_eq_true_iff] at hmatch
    have hinj := approvalFingerprint_inj hcollision hmem (mem_scopesOf_of_check hscope) his
      (prepareScope_eq_ok hscope) hmatch.1 hmatch.2
    rw [Option.map_some, Option.map_some]
    dsimp only
    rw [recordMatchesScope_approvalRecord hmatch.1 hmatch.2,
      recordFingerprintMatchesScope_approvalRecord (prepareScope_eq_ok hscope),
      Bool.not_true, if_neg Bool.false_ne_true]
    by_cases hsame : filed.1.approvalFingerprint = scope.approvalFingerprint
    · rw [decide_eq_true hsame, Bool.not_true, if_neg Bool.false_ne_true]
      exact iff_of_true rfl ⟨filed.1, rfl, hinj.mp hsame⟩
    · rw [decide_eq_false hsame, Bool.not_false, if_pos rfl]
      refine iff_of_false ?_ ?_
      · show ¬("blocked" = "allowed")
        decide
      · rintro ⟨approved, heq, h⟩
        exact hsame (hinj.mpr (Option.some.inj heq ▸ h))

/-- The sets of two scopes are the same where their lists are. -/
theorem sets_eq_iff {approved scope : Scope} (h : IsScope sha runtime approved)
    (h' : IsScope sha runtime scope) :
    ((∀ path, path ∈ approved.paths ↔ path ∈ scope.paths) ∧
      ∀ target, target ∈ approved.writeTargets ↔ target ∈ scope.writeTargets) ↔
    approved.paths = scope.paths ∧ approved.writeTargets = scope.writeTargets := by
  obtain ⟨paths, hpaths, _⟩ := h.paths
  obtain ⟨paths', hpaths', _⟩ := h'.paths
  obtain ⟨targets, htargets, _⟩ := h.writeTargets
  obtain ⟨targets', htargets', _⟩ := h'.writeTargets
  rw [hpaths, hpaths', htargets, htargets']
  refine and_congr ⟨btreeSet_ext, ?_⟩ ⟨btreeSet_ext, ?_⟩
  · intro heq path
    rw [heq]
  · intro heq target
    rw [heq]

/-- Without line feeds in paths no paths look alike. -/
theorem not_pathsAlike {calls : List Call} {scope : Scope} (h : IsScope sha runtime scope)
    (hfeed : ∀ path ∈ scope.paths, '\n' ∉ path)
    (hfiled : ∀ filed ∈ runtime.filings sha calls, ∀ path ∈ filed.1.paths, '\n' ∉ path) :
    ¬runtime.PathsAlike sha calls scope := by
  rintro ⟨approved, hlast, _, hpaths, hne⟩
  have hpath : ∀ {scope : Scope}, IsScope sha runtime scope → ∀ path ∈ scope.paths, path ≠ [] := by
    intro scope h path hmem
    obtain ⟨paths, hpaths, hread⟩ := h.paths
    obtain ⟨rawPath, hraw⟩ := hread path (mem_btreeSet.mp (hpaths ▸ hmem))
    exact path_ne_nil hraw
  obtain ⟨filed, hmem, rfl⟩ := List.mem_map.mp (List.mem_of_find?_eq_some hlast)
  obtain ⟨c, _, hc⟩ := List.mem_filterMap.mp hmem
  exact hne (joinLines_inj
    (fun path hp => ⟨hpath (isScope_of_filing hc) path hp, hfiled filed hmem path hp⟩)
    (fun path hp => ⟨hpath h path hp, hfeed path hp⟩) hpaths)

/-- **A write to a protected branch needs exactly the approved scope**, save where the paths
of the last approval look like those of the check once they are joined by line feeds. -/
theorem approved_scope_iff (hprotected : runtime.isProtected = true)
    (hsha : ∀ text, '\n' ∉ (sha text).toList) (calls : List Call) {args : RepoSafetyCheckArgs}
    (hwrite : args.intent = .write)
    (hcollision : runtime.NoCollision sha (runtime.scopesOf sha calls args)) :
    ((∃ result, runtime.check sha (runtime.run sha calls) args = .ok result ∧
        result.outcome = "allowed") ↔
      ∃ scope, runtime.prepareScope sha args.stage args.taskId args.paths
        (args.writeTargets.map WriteTargetArg.asStr) = .ok scope ∧
          runtime.ScopeApproved sha calls scope) ↔
    ¬∃ scope, runtime.prepareScope sha args.stage args.taskId args.paths
      (args.writeTargets.map WriteTargetArg.asStr) = .ok scope ∧
        runtime.PathsAlike sha calls scope := by
  cases hscope : runtime.prepareScope sha args.stage args.taskId args.paths
      (args.writeTargets.map WriteTargetArg.asStr) with
  | error e =>
    have hcheck : ¬∃ result, runtime.check sha (runtime.run sha calls) args = .ok result ∧
        result.outcome = "allowed" := by
      rintro ⟨result, h, _⟩
      obtain ⟨scope, h, _⟩ := bind_eq_ok.mp h
      rw [hscope] at h
      cases h
    refine iff_of_true (iff_of_false hcheck ?_) ?_
    · rintro ⟨scope, h, _⟩
      cases h
    · rintro ⟨scope, h, _⟩
      cases h
  | ok scope =>
    have happroved : ∀ {approved},
        runtime.lastApproval sha calls scope.stage scope.taskId = some approved →
          IsScope sha runtime approved := by
      intro approved h
      obtain ⟨filed, hfiled, rfl⟩ := List.mem_map.mp (List.mem_of_find?_eq_some h)
      exact (@mem_scopesOf_of_filing sha runtime calls args filed hfiled).2
    have hthis : ∀ P : Scope → Prop,
        (∃ scope', (Except.ok scope : Except JsonFailure Scope) = .ok scope' ∧ P scope') ↔
          P scope :=
      fun P => ⟨fun ⟨_, heq, h⟩ => Except.ok.inj heq ▸ h, fun h => ⟨scope, rfl, h⟩⟩
    rw [check_allowed_iff hprotected hwrite hsha hcollision hscope, hthis, hthis, PathsAlike,
      ScopeApproved]
    constructor
    · rintro hiff ⟨approved, hlast, htargets, hpaths, hne⟩
      obtain ⟨approved', hlast', hsets⟩ := hiff.mp ⟨approved, hlast, hpaths, htargets⟩
      cases hlast.symm.trans hlast'
      exact hne ((sets_eq_iff (happroved hlast) (prepareScope_eq_ok hscope)).mp hsets).1
    · intro halike
      refine exists_congr fun approved => and_congr_right fun hlast => ?_
      rw [sets_eq_iff (happroved hlast) (prepareScope_eq_ok hscope)]
      refine and_congr_left fun htargets => ⟨fun hpaths => ?_, fun hpaths => by rw [hpaths]⟩
      by_contra hne
      exact halike ⟨approved, hlast, htargets, hpaths, hne⟩

end RepoSafetyRuntime

/-! ### A protected main branch -/

namespace SampleApprovals

/-- A digest that shows the text itself, on one line. -/
def sha : Sha256Hex := fun text => String.ofList (text.map fun c => if c = '\n' then 'n' else c)

theorem feed_not_mem_sha (text : List Char) : '\n' ∉ (sha text).toList := by
  rw [sha, String.toList_ofList]
  intro hmem
  obtain ⟨c, _, hc⟩ := List.mem_map.mp hmem
  split_ifs at hc with hfeed
  · exact absurd hc (by decide)
  · exact hfeed hc

def runtime : RepoSafetyRuntime where
  repoRoot := "/r".toList
  branchName := "main".toList
  repoSlug := "r"
  safeBranch := "main".toList
  userName := "user".toList
  isProtected := true
  protectedBy := "default"
  canonicalize := id
  root_ne_nil := by decide
  root_canonical := rfl

def approve (paths : List (List Char)) : RepoSafetyRuntime.Call :=
  .approve ⟨"s".toList, some "t".toList, "why".toList, paths, [.gitCommit]⟩

def write (paths : List (List Char)) : RepoSafetyCheckArgs :=
  ⟨.write, "s".toList, some "t".toList, paths, [.gitCommit]⟩

end SampleApprovals

open SampleApprovals in
theorem approved_scope_readme :
    (∃ result, runtime.check sha (runtime.run sha [approve ["a".toList]]) (write ["a".toList]) =
        .ok result ∧ result.outcome = "allowed") ↔
      ∃ scope, runtime.prepareScope sha "s".toList (some "t".toList) ["a".toList]
        ["git-commit".toList] = .ok scope ∧
          runtime.ScopeApproved sha [approve ["a".toList]] scope := by
  refine (RepoSafetyRuntime.approved_scope_iff rfl feed_not_mem_sha [approve ["a".toList]] rfl
    ?_).mpr ?_
  · unfold RepoSafetyRuntime.NoCollision
    decide
  · rintro ⟨scope, hscope, halike⟩
    refine RepoSafetyRuntime.not_pathsAlike (RepoSafetyRuntime.prepareScope_eq_ok hscope) ?_ ?_
      halike
    · cases hscope
      decide
    · decide

/-- An approval for one path with a line feed in it lets through a write to the two paths
that it consists of. -/
theorem not_approved_scope :
    ¬∀ (sha : Sha256Hex) (runtime : RepoSafetyRuntime), runtime.isProtected = true →
      (∀ text, '\n' ∉ (sha text).toList) → ∀ (calls : List RepoSafetyRuntime.Call)
        (args : RepoSafetyCheckArgs), args.intent = .write →
        runtime.NoCollision sha (runtime.scopesOf sha calls args) →
        ((∃ result, runtime.check sha (runtime.run sha calls) args = .ok result ∧
            result.outcome = "allowed") ↔
          ∃ scope, runtime.prepareScope sha args.stage args.taskId args.paths
            (args.writeTargets.map WriteTargetArg.asStr) = .ok scope ∧
              runtime.ScopeApproved sha calls scope) := by
  intro h
  have hiff := h SampleApprovals.sha SampleApprovals.runtime rfl SampleApprovals.feed_not_mem_sha
    [SampleApprovals.approve ["a\nb".toList]] (SampleApprovals.write ["a".toList, "b".toList]) rfl
    (by unfold RepoSafetyRuntime.NoCollision; decide)
  have hallowed : (SampleApprovals.runtime.check SampleApprovals.sha (SampleApprovals.runtime.run
      SampleApprovals.sha [SampleApprovals.approve ["a\nb".toList]])
      (SampleApprovals.write ["a".toList, "b".toList])).toOption.map RepoSafetyResult.outcome =
        some "allowed" := by
    decide
  have hlast : (SampleApprovals.runtime.lastApproval SampleApprovals.sha
      [SampleApprovals.approve ["a\nb".toList]] "s".toList "t".toList).map Scope.paths =
        some ["a\nb".toList] := by
    decide
  cases hcheck : SampleApprovals.runtime.check SampleApprovals.sha (SampleApprovals.runtime.run
      SampleApprovals.sha [SampleApprovals.approve ["a\nb".toList]])
      (SampleApprovals.write ["a".toList, "b".toList]) with
  | error e => rw [hcheck] at hallowed; cases hallowed
  | ok result =>
    rw [hcheck] at hallowed hiff
    obtain ⟨scope, hscope, approved, happroved, hpaths, _⟩ :=
      hiff.mp ⟨result, rfl, Option.some.inj hallowed⟩
    cases hscope
    have hsame : approved.paths = ["a\nb".toList] := by
      rw [show SampleApprovals.runtime.lastApproval SampleApprovals.sha _ "s".toList "t".toList =
        some approved from happroved] at hlast
      exact Option.some.inj hlast
    have hmem := (hpaths "a".toList).mpr (by decide)
    rw [hsame] at hmem
    revert hmem
    decide

end FeatureForge
