import FeatureForge.Closures.Runs
import FeatureForge.Closures.Surfaces

/-!
# Branch closures that can be read

A branch closure that has been recorded is read back exactly if it rests on a closure of a task,
or on changed paths whose pieces are all entries of a late-stage surface
(`branch_closure_readable`).  What a repair records again without either is not.
-/

namespace FeatureForge

/-- The texts of a recording are not blank. -/
structure BranchRecording.Worded (recording : BranchRecording) : Prop where
  planRel : trim recording.context.planRel ≠ ""
  repoSlug : trim recording.context.repoSlug ≠ ""
  branchName : trim recording.context.branchName ≠ ""
  baseBranch : trim recording.baseBranch ≠ ""
  reviewedStateId : trim recording.reviewedStateId ≠ ""
  contractIdentity : trim recording.contractIdentity ≠ ""
  stillCurrentRecords : ∀ record ∈ recording.stillCurrentRecords, Named record.closureRecordId

/-- The closures of tasks that a recording rests on. -/
def BranchRecording.lineage (recording : BranchRecording) : List String :=
  branchSourceTaskClosureIds recording.stillCurrentRecords
    (if recording.changedPaths = [] then none
    else (normalizedLateStageSurface recording.context.lateStageSurfaceHeader).toOption)

/-- All pieces of some paths are entries of a late-stage surface, and there is one. -/
def ReadablePaths (paths : List String) : Prop :=
  (∀ entry ∈ pathEntries paths, ∃ normalized,
    normalizeLateStageSurfaceEntry entry = .ok normalized) ∧ pathEntries paths ≠ []

variable {sha : Sha256Hex} {now : String} {s s' : StateObject} {recording : BranchRecording}
  {id : String}

/-! ### Surfaces that are read -/

theorem exists_mapM_ok {ε α β : Type} {f : α → Except ε β} {xs : List α} :
    (∃ ys, xs.mapM f = .ok ys) ↔ ∀ x ∈ xs, ∃ y, f x = .ok y := by
  simp only [mapM_eq_ok]
  induction xs with
  | nil => exact iff_of_true ⟨[], List.Forall₂.nil⟩ nofun
  | cons x xs ih =>
    simp only [List.forall₂_cons_left_iff]
    rw [List.forall_mem_cons, ← ih]
    constructor
    · rintro ⟨_, y, ys, hy, hys, rfl⟩
      exact ⟨⟨y, hy⟩, ys, hys⟩
    · rintro ⟨⟨y, hy⟩, ys, hys⟩
      exact ⟨_, y, ys, hy, hys, rfl⟩

/-- A text that starts with a word is trimmed behind it. -/
theorem trimChars_append_of_unspaced {p : List Char} (hp : ∀ c ∈ p, isWhitespace c = false)
    (hne : p ≠ []) (v : List Char) : trimChars (p ++ v) = p ++ trimEnd v := by
  have hend : ∀ p : List Char, (∀ c ∈ p, isWhitespace c = false) →
      trimEnd (p ++ v) = p ++ trimEnd v := by
    intro p hp
    induction p with
    | nil => rfl
    | cons c p ih =>
      rw [List.forall_mem_cons] at hp
      rw [List.cons_append, trimEnd_cons hp.1, ih hp.2, List.cons_append]
  obtain ⟨c, p, rfl⟩ := List.exists_cons_of_ne_nil hne
  rw [List.forall_mem_cons] at hp
  rw [List.cons_append, trimChars_cons hp.1, hend p hp.2, List.cons_append]

/-- **A rendered surface that is read back.** -/
theorem wellFormed_render_iff (paths : List String) :
    wellFormedLateStageSurfaceOnlyBranchSurface
        (trim (renderLateStageSurfaceOnlyBranchSurface paths)) = true ↔ ReadablePaths paths := by
  obtain ⟨rawEntries, hvalue, hentries⟩ := surfaceEntries_render paths
  have htrim : (trim (renderLateStageSurfaceOnlyBranchSurface paths)).toList =
      lateStageSurfaceOnly.toList ++ trimEnd rawEntries := by
    rw [trim, String.toList_ofList, hvalue]
    exact trimChars_append_of_unspaced (forall_mem_of_all (by decide)) (by decide) rawEntries
  unfold wellFormedLateStageSurfaceOnlyBranchSurface
  rw [Option.any_eq_true]
  simp only [parse_eq_some htrim, surfaceEntries_trimEnd, hentries, decide_eq_true_eq]
  have hmem : ∀ entry, entry ∈ pathEntries (OrderedMap.keySet paths) ↔
      entry ∈ pathEntries paths := fun entry => mem_pathEntries_keySet
  have hnil : ∀ {xs ys : List String}, (∀ x, x ∈ xs ↔ x ∈ ys) → (xs = [] ↔ ys = []) :=
    fun h => by rw [List.eq_nil_iff_forall_not_mem, List.eq_nil_iff_forall_not_mem]; simp only [h]
  constructor
  · rintro ⟨_, ⟨normalized, hok, rfl⟩, hne⟩
    refine ⟨fun entry hentry => ?_, fun hempty => hne ?_⟩
    · exact exists_mapM_ok.mp ⟨normalized, hok⟩ entry ((hmem entry).mpr hentry)
    · rw [(hnil hmem).mpr hempty] at hok
      cases Except.ok.inj hok
      rfl
  · rintro ⟨hok, hne⟩
    obtain ⟨normalized, hnormalized⟩ :=
      exists_mapM_ok.mpr fun entry hentry => hok entry ((hmem entry).mp hentry)
    refine ⟨_, ⟨normalized, hnormalized, rfl⟩, ?_⟩
    rw [ne_eq, hnil fun x => OrderedMap.mem_keySet]
    exact mapM_ne_nil (fun hempty => hne ((hnil hmem).mp hempty)) hnormalized

/-! ### Records that are read -/

/-- The texts of a branch closure as it is recorded are not blank. -/
structure BranchClosureResultRecord.Worded (r : BranchClosureResultRecord) : Prop where
  branchClosureId : Named r.branchClosureId
  sourcePlanPath : trim r.sourcePlanPath ≠ ""
  repoSlug : trim r.repoSlug ≠ ""
  branchName : trim r.branchName ≠ ""
  baseBranch : trim r.baseBranch ≠ ""
  reviewedStateId : trim r.reviewedStateId ≠ ""
  contractIdentity : trim r.contractIdentity ≠ ""
  surface : trim r.effectiveReviewedBranchSurface ≠ ""
  provenanceBasis : trim r.provenanceBasis ≠ ""
  sourceTaskClosureIds : ∀ id ∈ r.sourceTaskClosureIds, trim id ≠ ""
  supersededBranchClosureIds : ∀ id ∈ r.supersededBranchClosureIds, trim id ≠ ""

theorem guard_bind_isSome {p : Prop} [Decidable p] {α : Type} (x : Option α) :
    ((guard p : Option Unit).bind fun _ => x).isSome = (decide p && x.isSome) := by
  by_cases hp : p
  · rw [guard, if_pos hp, decide_eq_true hp]
    rfl
  · rw [guard, if_neg hp, decide_eq_false hp]
    rfl

/-- **A branch closure as it is recorded** is read if what it rests on and its surface go
together. -/
theorem isSome_branchClosureRecordFromPayload {r : BranchClosureResultRecord} (hr : r.Worded)
    (hcurrent : r.closureStatus = "current") (sequence : Nat) :
    (branchClosureRecordFromPayload r.branchClosureId .current
      (.obj (branchClosurePayload r sequence))).isSome =
      provenanceReadable (trim r.provenanceBasis) (trim r.effectiveReviewedBranchSurface)
        (r.sourceTaskClosureIds.map trim) := by
  have hmember : ∀ key, key ≠ "semantic_reviewed_state_id" → key ≠ "branch_closure_fingerprint" →
      (Json.obj (branchClosurePayload r sequence)).get? key =
        OrderedMap.lookup key (branchClosureMembers r sequence) := fun key hsemantic hprint => by
    rw [Json.get?_obj, branchClosurePayload_lookup _ _ hsemantic hprint]
  have htext : ∀ key v, key ≠ "semantic_reviewed_state_id" → key ≠ "branch_closure_fingerprint" →
      OrderedMap.lookup key (branchClosureMembers r sequence) = some (.str v) → trim v ≠ "" →
      jsonString ((Json.obj (branchClosurePayload r sequence)).get? key) = some (trim v) := by
    intro key v hsemantic hprint hlookup hv
    rw [hmember key hsemantic hprint, hlookup, jsonString_of_text hv]
  have hid := htext "branch_closure_id" _ (by decide) (by decide) rfl
    (hr.branchClosureId.1.symm ▸ hr.branchClosureId.2)
  have hstatus := htext "closure_status" _ (by decide) (by decide) rfl
    (hcurrent.symm ▸ (by decide : trim "current" ≠ ""))
  have hpath := htext "source_plan_path" _ (by decide) (by decide) rfl hr.sourcePlanPath
  have hslug := htext "repo_slug" _ (by decide) (by decide) rfl hr.repoSlug
  have hbranch := htext "branch_name" _ (by decide) (by decide) rfl hr.branchName
  have hbase := htext "base_branch" _ (by decide) (by decide) rfl hr.baseBranch
  have hsurface := htext "effective_reviewed_branch_surface" _ (by decide) (by decide) rfl hr.surface
  have hbasis := htext "provenance_basis" _ (by decide) (by decide) rfl hr.provenanceBasis
  have hreviewed := htext "reviewed_state_id" _ (by decide) (by decide) rfl hr.reviewedStateId
  have hcontract := htext "contract_identity" _ (by decide) (by decide) rfl hr.contractIdentity
  have hrevision : jsonU32 ((Json.obj (branchClosurePayload r sequence)).get?
      "source_plan_revision") = some r.sourcePlanRevision := by
    rw [hmember _ (by decide) (by decide)]
    exact jsonU32_u64 r.sourcePlanRevision
  have hsources : jsonStringArrayStrict ((Json.obj (branchClosurePayload r sequence)).get?
      "source_task_closure_ids") = some (r.sourceTaskClosureIds.map trim) := by
    rw [hmember _ (by decide) (by decide)]
    exact jsonStringArrayStrict_strArr hr.sourceTaskClosureIds
  have hsuperseded : jsonStringArrayStrict ((Json.obj (branchClosurePayload r sequence)).get?
      "superseded_branch_closure_ids") = some (r.supersededBranchClosureIds.map trim) := by
    rw [hmember _ (by decide) (by decide)]
    exact jsonStringArrayStrict_strArr hr.supersededBranchClosureIds
  have hallows : BranchClosureStatusRead.current.allows (trim r.closureStatus) = true := by
    rw [hcurrent]
    decide
  unfold branchClosureRecordFromPayload
  rw [hid, hstatus, hpath, hslug, hbranch, hbase, hsurface, hbasis, hreviewed, hcontract, hrevision,
    hsources, hsuperseded]
  simp only [Option.bind_eq_bind, Option.bind_some, guard_bind_isSome, hr.branchClosureId.1, hallows,
    decide_true, Bool.true_and, Bool.decide_eq_true]
  exact Bool.and_true _

/-! ### What the command records -/

/-- What a recording follows up is among the records, under its own id. -/
theorem named_of_mem_supersededByRecording {context : RecordingContext} {x : String}
    (h : x ∈ supersededByRecording s id (repairFollowUpBranchClosureTarget context s)) :
    trim x ≠ "" := by
  have hprevious : ∀ x ∈ ((jsonString (s .currentBranchClosureId)).filter
      fun previous => previous ≠ id).toList, trim x ≠ "" := by
    intro x hx
    obtain ⟨hbound, _⟩ := Option.filter_eq_some_iff.mp (Option.mem_toList.mp hx)
    obtain ⟨htrim, hne⟩ := trimmed_of_nonBlank hbound
    rwa [htrim]
  unfold supersededByRecording at h
  cases htarget : repairFollowUpBranchClosureTarget context s with
  | none =>
    rw [htarget] at h
    exact hprevious x h
  | some target =>
    rw [htarget] at h
    dsimp only at h
    split_ifs at h
    · exact hprevious x h
    · rcases List.mem_append.mp h with h | h
      · exact hprevious x h
      · rw [List.mem_singleton.mp h]
        have hread := (Option.filter_eq_some_iff.mp htarget).2
        obtain ⟨record, hrecord, _⟩ := (Option.any_eq_true _ _).mp hread
        obtain ⟨payload, _, hrecord⟩ := Option.bind_eq_some_iff.mp hrecord
        unfold branchClosureRecordFromPayload at hrecord
        obtain ⟨payloadId, hpayloadId, hrecord⟩ := Option.bind_eq_some_iff.mp hrecord
        obtain ⟨_, hguard, _⟩ := Option.bind_eq_some_iff.mp hrecord
        obtain ⟨htrim, hne⟩ := trimmed_of_nonBlank hpayloadId
        have hsame : payloadId = target := by
          by_contra hother
          rw [guard, if_neg hother] at hguard
          cases hguard
        rwa [← hsame, htrim]

theorem trim_repoTrackedContent : trim repoTrackedContent = repoTrackedContent := by decide

theorem trim_lateStageSurfaceExemptionBasis :
    trim lateStageSurfaceExemptionBasis = lateStageSurfaceExemptionBasis := by decide

theorem trim_taskClosureLineageBasis : trim taskClosureLineageBasis = taskClosureLineageBasis := by
  decide

theorem repoTrackedContent_ne_empty : repoTrackedContent ≠ "" := by decide

theorem render_ne_empty (paths : List String) :
    renderLateStageSurfaceOnlyBranchSurface paths ≠ "" :=
  append_ne_empty (by decide)

theorem trim_render_ne_empty (paths : List String) :
    trim (renderLateStageSurfaceOnlyBranchSurface paths) ≠ "" := by
  obtain ⟨rawEntries, hvalue, _⟩ := surfaceEntries_render paths
  intro hblank
  have htrim : (trim (renderLateStageSurfaceOnlyBranchSurface paths)).toList =
      lateStageSurfaceOnly.toList ++ trimEnd rawEntries := by
    rw [trim, String.toList_ofList, hvalue]
    exact trimChars_append_of_unspaced (forall_mem_of_all (by decide)) (by decide) rawEntries
  rw [hblank] at htrim
  exact (by decide : lateStageSurfaceOnly.toList ≠ [])
    (List.append_eq_nil_iff.mp htrim.symm).1

/-- The drift is assessed against the surface of the plan. -/
theorem lateStageSurface_of_supported {assessment : BranchRerecordingAssessment}
    (h : branchClosureRerecordingAssessment recording s = .ok assessment)
    (hdrifts : recording.changedPaths ≠ []) (hsupported : assessment.supported = true) :
    (normalizedLateStageSurface recording.context.lateStageSurfaceHeader).toOption =
      some assessment.lateStageSurface := by
  unfold branchClosureRerecordingAssessment at h
  dsimp only at h
  rw [if_neg hdrifts] at h
  split_ifs at h
  · cases h
    cases hsupported
  · revert h
    cases normalizedLateStageSurface recording.context.lateStageSurfaceHeader with
    | error failure => intro h; cases h
    | ok surface => intro h; cases h; rfl

/-- The basis that a recording writes. -/
def BranchRecording.basis (recording : BranchRecording) (followsUp : Bool) : String :=
  if recording.changedPaths ≠ [] ∨ (followsUp = true ∧ recording.lineage = []) then
    lateStageSurfaceExemptionBasis
  else taskClosureLineageBasis

/-- The surface that a recording writes. -/
def BranchRecording.surface (recording : BranchRecording) : String :=
  if recording.changedPaths ≠ [] ∧ recording.lineage = [] then
    renderLateStageSurfaceOnlyBranchSurface recording.changedPaths
  else repoTrackedContent

/-- What a recording writes as its basis, its surface and its sources. -/
theorem reviewedStateToRecord_eq {assessment : BranchRerecordingAssessment}
    (hassessment : branchClosureRerecordingAssessment recording s = .ok assessment)
    (hsupported : recording.changedPaths ≠ [] → assessment.supported = true) (followsUp : Bool) :
    reviewedStateToRecord recording assessment followsUp =
      { recording.reviewedState with
        sourceTaskClosureIds := recording.lineage
        effectiveReviewedBranchSurface := recording.surface
        provenanceBasis := recording.basis followsUp } := by
  unfold BranchRecording.surface BranchRecording.basis
  unfold reviewedStateToRecord
  by_cases hdrifts : recording.changedPaths = []
  · have hlineage : recording.lineage =
        branchSourceTaskClosureIds recording.stillCurrentRecords none := by
      rw [BranchRecording.lineage, if_pos hdrifts]
    rw [hlineage]
    dsimp only
    rw [if_pos hdrifts]
    dsimp only [BranchRecording.reviewedState]
    by_cases hempty : branchSourceTaskClosureIds recording.stillCurrentRecords none = []
    · cases followsUp with
      | false => simp [hdrifts]
      | true => simp [hdrifts, hempty, repoTrackedContent_ne_empty]
    · simp [hdrifts, hempty]
  · have hlineage : recording.lineage = branchSourceTaskClosureIds recording.stillCurrentRecords
        (some assessment.lateStageSurface) := by
      rw [BranchRecording.lineage, if_neg hdrifts,
        lateStageSurface_of_supported hassessment hdrifts (hsupported hdrifts)]
    rw [hlineage]
    dsimp only
    rw [if_neg hdrifts]
    dsimp only [BranchRecording.reviewedState]
    by_cases hempty : branchSourceTaskClosureIds recording.stillCurrentRecords
        (some assessment.lateStageSurface) = []
    · simp [hdrifts, hempty, render_ne_empty]
    · simp [hdrifts, hempty]

theorem named_of_mem_lineage (hw : recording.Worded) {id : String} (h : id ∈ recording.lineage) :
    Named id := by
  unfold BranchRecording.lineage branchSourceTaskClosureIds at h
  obtain ⟨record, hrecord, rfl⟩ := List.mem_map.mp (OrderedMap.mem_keySet.mp h)
  exact hw.stillCurrentRecords record (List.mem_filter.mp hrecord).1

theorem provenanceReadable_taskClosureLineage (surface : String) (ids : List String) :
    provenanceReadable taskClosureLineageBasis surface ids =
      (decide (ids ≠ []) && decide (surface = repoTrackedContent)) :=
  if_pos rfl

theorem provenanceReadable_lateStageSurfaceExemption (surface : String) (ids : List String) :
    provenanceReadable lateStageSurfaceExemptionBasis surface ids =
      if ids = [] then wellFormedLateStageSurfaceOnlyBranchSurface surface
      else decide (surface = repoTrackedContent) := by
  have hbases : lateStageSurfaceExemptionBasis ≠ taskClosureLineageBasis := by decide
  unfold provenanceReadable
  rw [if_neg hbases, if_pos rfl]

/-- What a recording rests on and its surface go together, as they are read back. -/
theorem provenanceReadable_iff {followsUp : Bool}
    (hrests : recording.lineage = [] → recording.changedPaths ≠ [] ∨ followsUp = true) :
    provenanceReadable (trim (recording.basis followsUp)) (trim recording.surface)
        (recording.lineage.map trim) = true ↔
      recording.lineage ≠ [] ∨ ReadablePaths recording.changedPaths := by
  unfold BranchRecording.basis BranchRecording.surface
  by_cases hlineage : recording.lineage = []
  · have hreadable : (recording.lineage ≠ [] ∨ ReadablePaths recording.changedPaths) ↔
        ReadablePaths recording.changedPaths :=
      or_iff_right fun hne => hne hlineage
    rw [hreadable, hlineage, List.map_nil,
      if_pos ((hrests hlineage).imp id fun hfollows => ⟨hfollows, rfl⟩),
      trim_lateStageSurfaceExemptionBasis, provenanceReadable_lateStageSurfaceExemption, if_pos rfl]
    by_cases hdrifts : recording.changedPaths = []
    · -- the repair writes the whole repository where nothing has changed
      rw [if_neg fun h => h.1 hdrifts, hdrifts]
      refine iff_of_false (by decide) fun h => h.2 rfl
    · rw [if_pos ⟨hdrifts, rfl⟩]
      exact wellFormed_render_iff recording.changedPaths
  · have hmap : recording.lineage.map trim ≠ [] := fun h => hlineage (List.map_eq_nil_iff.mp h)
    have hsurface : ¬(recording.changedPaths ≠ [] ∧ recording.lineage = []) := fun h => hlineage h.2
    rw [if_neg hsurface, trim_repoTrackedContent]
    refine iff_of_true ?_ (Or.inl hlineage)
    by_cases hdrifts : recording.changedPaths = []
    · rw [if_neg fun h => h.elim (fun h => h hdrifts) fun h => hlineage h.2,
        trim_taskClosureLineageBasis, provenanceReadable_taskClosureLineage, decide_eq_true hmap]
      simp
    · rw [if_pos (Or.inl hdrifts), trim_lateStageSurfaceExemptionBasis,
        provenanceReadable_lateStageSurfaceExemption, if_neg hmap]
      exact decide_eq_true rfl

theorem trim_surface_ne_empty (recording : BranchRecording) : trim recording.surface ≠ "" := by
  unfold BranchRecording.surface
  split_ifs
  · exact trim_render_ne_empty _
  · rw [trim_repoTrackedContent]
    exact repoTrackedContent_ne_empty

theorem trim_basis_ne_empty (recording : BranchRecording) (followsUp : Bool) :
    trim (recording.basis followsUp) ≠ "" := by
  unfold BranchRecording.basis
  split_ifs <;> decide

theorem drifts_or_followsUp_of_basis {followsUp : Bool}
    (h : recording.basis followsUp = lateStageSurfaceExemptionBasis) :
    recording.changedPaths ≠ [] ∨ followsUp = true := by
  unfold BranchRecording.basis at h
  split_ifs at h with hcase
  · exact hcase.imp id fun h => h.1
  · exact absurd h.symm (by decide)

/-- A recorded branch closure is bound, and it is read as it is filed. -/
theorem branchClosureRecord_of_recorded {r : BranchClosureResultRecord} (hr : r.Worded)
    (hcurrent : r.closureStatus = "current")
    (h : recordCurrentBranchClosure sha now r s = .ok s') :
    (branchClosureRecord s' r.branchClosureId).isSome =
        provenanceReadable (trim r.provenanceBasis) (trim r.effectiveReviewedBranchSurface)
          (r.sourceTaskClosureIds.map trim) ∧
      (boundCurrentBranchClosureIdentity s').map CurrentBranchClosureIdentity.branchClosureId =
        (branchClosureRecord s' r.branchClosureId).map fun _ => r.branchClosureId := by
  obtain ⟨hbound, hrecords⟩ := recordCurrentBranchClosure_records hr.branchClosureId h
  constructor
  · rw [branchClosureRecord, branchClosureRecordWithStatus, hrecords, OrderedMap.get?_insert_self,
      Option.bind_some, isSome_branchClosureRecordFromPayload hr hcurrent]
  · rw [boundCurrentBranchClosureIdentity, hbound, jsonString_str hr.branchClosureId,
      Option.bind_some, Option.map_map]
    rfl

/-- **A branch closure that was recorded is read back** exactly if it rests on a closure of a task
or all pieces of its changed paths are entries of a surface; and a surface is parsed back to its
paths exactly if they are all normal. -/
theorem branch_closure_readable (hsha : ∀ t, Unspaced (sha t)) :
    (∀ (now : String) (recording : BranchRecording) (s s' : StateObject) (id : String),
      recording.Worded →
      recordBranchClosureForCommand sha now recording s = .ok (some (id, s')) →
      (((branchClosureRecord s' id).isSome = true ∧
          (boundCurrentBranchClosureIdentity s').map CurrentBranchClosureIdentity.branchClosureId =
            some id) ↔
        recording.lineage ≠ [] ∨ ReadablePaths recording.changedPaths)) ∧
    ∀ paths : List String,
      parseLateStageSurfaceOnlyBranchSurface (renderLateStageSurfaceOnlyBranchSurface paths) =
          some (OrderedMap.keySet paths) ↔
        ∀ path ∈ paths, NormalPath path := by
  refine ⟨fun now recording s s' id hw h => ?_, parse_render_iff⟩
  obtain ⟨assessment, reviewed, hassessment, hreviewed, hsupported, hrests, hid, hrecord⟩ :=
    recordBranchClosureForCommand_eq_some h
  have hnamed := named_branchClosureId hsha (objectEntries (s .branchClosureRecords))
    recording.context reviewed
  rw [hid] at hnamed
  rw [reviewedStateToRecord_eq hassessment hsupported] at hreviewed
  generalize (repairFollowUpBranchClosureTarget recording.context s).isSome = followsUp at hreviewed
  subst hreviewed
  have hworded : (branchClosureResultRecord recording { recording.reviewedState with
      sourceTaskClosureIds := recording.lineage
      effectiveReviewedBranchSurface := recording.surface
      provenanceBasis := recording.basis followsUp } id (supersededByRecording s id
        (repairFollowUpBranchClosureTarget recording.context s))).Worded :=
    { branchClosureId := hnamed
      sourcePlanPath := hw.planRel
      repoSlug := hw.repoSlug
      branchName := hw.branchName
      baseBranch := hw.baseBranch
      reviewedStateId := hw.reviewedStateId
      contractIdentity := hw.contractIdentity
      surface := trim_surface_ne_empty recording
      provenanceBasis := trim_basis_ne_empty recording followsUp
      sourceTaskClosureIds := fun id hid => by
        obtain ⟨htrim, hne⟩ := named_of_mem_lineage hw hid
        rwa [htrim]
      supersededBranchClosureIds := fun x hx => named_of_mem_supersededByRecording hx }
  obtain ⟨hread, hbound⟩ := branchClosureRecord_of_recorded hworded rfl hrecord
  have hrests' : recording.lineage = [] → recording.changedPaths ≠ [] ∨ followsUp = true :=
    fun hlineage => drifts_or_followsUp_of_basis (hrests hlineage)
  rw [← provenanceReadable_iff hrests']
  change (branchClosureRecord s' id).isSome = provenanceReadable (trim (recording.basis followsUp))
    (trim recording.surface) (recording.lineage.map trim) at hread
  rw [hbound, ← hread]
  refine ⟨fun h => h.1, fun h => ⟨h, ?_⟩⟩
  obtain ⟨record, hrecord⟩ := Option.isSome_iff_exists.mp h
  exact (congrArg (Option.map fun _ => id) hrecord).trans rfl

/-- What is recorded after the first task of the run has been closed. -/
def recordedBranch (recording : BranchRecording) : Option (String × StateObject) :=
  (recordBranchClosureForCommand closureSha "2026-01-01T00:00:02Z" recording
    firstClosed).toOption.join

theorem recordedBranch_eq_some {recording : BranchRecording} {id : String} {s' : StateObject}
    (h : recordedBranch recording = some (id, s')) :
    recordBranchClosureForCommand closureSha "2026-01-01T00:00:02Z" recording firstClosed =
      .ok (some (id, s')) :=
  ok_of_toOption (Option.join_eq_some_iff.mp h)

theorem worded_branchRecording : branchRecording.Worded := by
  refine ⟨?_, ?_, ?_, ?_, ?_, ?_, ?_⟩ <;> decide +kernel

theorem branch_closure_readable_branchRecording : ∃ id s',
    recordBranchClosureForCommand closureSha "2026-01-01T00:00:02Z" branchRecording firstClosed =
        .ok (some (id, s')) ∧
      (branchClosureRecord s' id).isSome = true ∧
      (boundCurrentBranchClosureIdentity s').map CurrentBranchClosureIdentity.branchClosureId =
        some id := by
  obtain ⟨⟨id, s'⟩, h⟩ :=
    Option.isSome_iff_exists.mp (by decide +kernel : (recordedBranch branchRecording).isSome = true)
  have hrecord := recordedBranch_eq_some h
  refine ⟨id, s', hrecord, ((branch_closure_readable unspaced_closureSha).1 _ branchRecording
    firstClosed s' id worded_branchRecording hrecord).mpr (Or.inl ?_)⟩
  decide +kernel

/-- A recording of other changes, under another late-stage surface. -/
def BranchRecording.withDrift (recording : BranchRecording) (header : String)
    (changedPaths : List String) : BranchRecording :=
  { recording with
    context := { recording.context with lateStageSurfaceHeader := some header }
    changedPaths := changedPaths }

theorem BranchRecording.Worded.withDrift (h : recording.Worded) (header : String)
    (changedPaths : List String) : (recording.withDrift header changedPaths).Worded :=
  ⟨h.planRel, h.repoSlug, h.branchName, h.baseBranch, h.reviewedStateId, h.contractIdentity,
    h.stillCurrentRecords⟩

/-- The file of the task lies in the late-stage surface, and a file beside it has been changed
that has brackets in its name. -/
def bracketRecording : BranchRecording := branchRecording.withDrift "src/" ["src/[slug].rs"]

theorem not_readable_bracketRecording :
    ¬ ∀ (recording : BranchRecording) (id : String) (s' : StateObject), recording.Worded →
      recordBranchClosureForCommand closureSha "2026-01-01T00:00:02Z" recording firstClosed =
        .ok (some (id, s')) →
      (branchClosureRecord s' id).isSome = true ∧
        (boundCurrentBranchClosureIdentity s').map CurrentBranchClosureIdentity.branchClosureId =
          some id := by
  intro hall
  have hunread : (recordedBranch bracketRecording).any
      (fun recorded => !(branchClosureRecord recorded.2 recorded.1).isSome) = true := by
    decide +kernel
  obtain ⟨⟨id, s'⟩, h, hnone⟩ := (Option.any_eq_true _ _).mp hunread
  have hread := (hall bracketRecording id s' (worded_branchRecording.withDrift _ _) (recordedBranch_eq_some h)).1
  rw [hread] at hnone
  cases hnone

end FeatureForge
