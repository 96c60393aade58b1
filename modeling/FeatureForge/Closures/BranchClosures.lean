import FeatureForge.Closures.TaskClosures

/-!
# Branch closures

How a branch closure is recorded (`recordBranchClosureForCommand`) and how its record is read
(`branchClosureRecordWithStatus`).  A record states what it rests on: on closures of tasks, or,
where its changes keep to the late-stage surface of the plan and no closure of a task stands,
on that surface alone, and then it lists the changed paths.
-/

namespace FeatureForge

def taskClosureLineageBasis : String := "task_closure_lineage"

def lateStageSurfaceExemptionBasis : String :=
  "task_closure_lineage_plus_late_stage_surface_exemption"

def repoTrackedContent : String := "repo_tracked_content"

/-! ### Surfaces -/

def lateStageSurfaceOnly : String := "late_stage_surface_only:"

/-- `render_late_stage_surface_only_branch_surface`. -/
def renderLateStageSurfaceOnlyBranchSurface (surfaceEntries : List String) : String :=
  lateStageSurfaceOnly ++ String.ofList
    (List.intercalate [','] ((OrderedMap.keySet surfaceEntries).map String.toList))

/-- A character that no entry may have. -/
def unsupportedEntryChar (c : Char) : Bool := ['*', '?', '[', ']', '{', '}'].contains c

/-- A drive, a colon and a slash. -/
def drivePath : List Char → Bool
  | drive :: ':' :: '/' :: _ => drive.isAlpha
  | _ => false

def lateStageSurfaceInvalid (entry : String) : JsonFailure where
  errorClass := .invalidCommandInput
  message := "late_stage_surface_invalid: unsupported Late-Stage Surface entry \x60" ++ entry ++
    "\x60."

/-- `normalize_late_stage_surface_entry`. -/
def normalizeLateStageSurfaceEntry (entry : String) : Except JsonFailure String :=
  let normalized := AuthoritativeClosureGraph.stripDotSlashes
    ((trim entry).toList.map fun c => if c = '\\' then '/' else c)
  if normalized = [] || startsWith ['/'] normalized || drivePath normalized ||
      (normalized.splitOn '/').contains ['.', '.'] || normalized.any unsupportedEntryChar then
    .error (lateStageSurfaceInvalid entry)
  else .ok (String.ofList normalized)

/-- The entries between commas, those that are blank left out. -/
def surfaceEntries (value : List Char) : List String :=
  ((value.splitOn ',').map fun entry => trim (String.ofList entry)).filter fun entry => entry ≠ ""

/-- `parse_late_stage_surface_only_branch_surface`. -/
def parseLateStageSurfaceOnlyBranchSurface (value : String) : Option (List String) := do
  let rawEntries ← stripPrefix lateStageSurfaceOnly.toList value.toList
  let normalized ← ((surfaceEntries rawEntries).mapM normalizeLateStageSurfaceEntry).toOption
  return OrderedMap.keySet normalized

def wellFormedLateStageSurfaceOnlyBranchSurface (value : String) : Bool :=
  (parseLateStageSurfaceOnlyBranchSurface value).any fun entries => entries ≠ []

/-- `normalized_late_stage_surface`, on the text of the plan's header. -/
def normalizedLateStageSurface (header : Option String) : Except JsonFailure (List String) :=
  match header with
  | none => .ok []
  | some rawValue => (surfaceEntries rawValue.toList).mapM normalizeLateStageSurfaceEntry

def pathMatchesLateStageSurface (path : String) (surface : List String) : Bool :=
  surface.any fun entry =>
    if entry.toList.getLast? = some '/' then
      path.toList = entry.toList.dropLast || startsWith entry.toList path.toList
    else path = entry

/-! ### Reading a record -/

structure BranchClosureRecord where
  sourcePlanPath : String
  sourcePlanRevision : UInt32
  repoSlug : String
  branchName : String
  baseBranch : String
  reviewedStateId : String
  semanticReviewedStateId : Option String
  contractIdentity : String
  effectiveReviewedBranchSurface : String
  sourceTaskClosureIds : List String
  provenanceBasis : String
  branchClosureFingerprint : Option String

inductive BranchClosureStatusRead where
  | current
  | currentOrHistorical

def BranchClosureStatusRead.allows (read : BranchClosureStatusRead) (closureStatus : String) :
    Bool :=
  match read with
  | .current => closureStatus = "current"
  | .currentOrHistorical => closureStatus = "current" || closureStatus = "historical"

/-- What a record rests on and its surface go together. -/
def provenanceReadable (provenanceBasis surface : String) (sourceTaskClosureIds : List String) :
    Bool :=
  if provenanceBasis = taskClosureLineageBasis then
    sourceTaskClosureIds ≠ [] && surface = repoTrackedContent
  else if provenanceBasis = lateStageSurfaceExemptionBasis then
    if sourceTaskClosureIds = [] then wellFormedLateStageSurfaceOnlyBranchSurface surface
    else surface = repoTrackedContent
  else false

/-- The record that a payload under an id states. -/
def branchClosureRecordFromPayload (branchClosureId : String) (read : BranchClosureStatusRead)
    (payload : Json) : Option BranchClosureRecord := do
  let id ← jsonString (payload.get? "branch_closure_id")
  guard (id = branchClosureId)
  let closureStatus ← jsonString (payload.get? "closure_status")
  guard (read.allows closureStatus)
  let sourcePlanPath ← jsonString (payload.get? "source_plan_path")
  let sourcePlanRevision ← jsonU32 (payload.get? "source_plan_revision")
  let repoSlug ← jsonString (payload.get? "repo_slug")
  let branchName ← jsonString (payload.get? "branch_name")
  let baseBranch ← jsonString (payload.get? "base_branch")
  let surface ← jsonString (payload.get? "effective_reviewed_branch_surface")
  let provenanceBasis ← jsonString (payload.get? "provenance_basis")
  let sourceTaskClosureIds ← jsonStringArrayStrict (payload.get? "source_task_closure_ids")
  let _ ← jsonStringArrayStrict (payload.get? "superseded_branch_closure_ids")
  guard (provenanceReadable provenanceBasis surface sourceTaskClosureIds)
  let reviewedStateId ← jsonString (payload.get? "reviewed_state_id")
  let contractIdentity ← jsonString (payload.get? "contract_identity")
  return {
    sourcePlanPath := sourcePlanPath
    sourcePlanRevision := sourcePlanRevision
    repoSlug := repoSlug
    branchName := branchName
    baseBranch := baseBranch
    reviewedStateId := reviewedStateId
    semanticReviewedStateId := jsonString (payload.get? "semantic_reviewed_state_id")
    contractIdentity := contractIdentity
    effectiveReviewedBranchSurface := surface
    sourceTaskClosureIds := sourceTaskClosureIds
    provenanceBasis := provenanceBasis
    branchClosureFingerprint := jsonString (payload.get? "branch_closure_fingerprint") }

/-- `branch_closure_record_with_status`. -/
def branchClosureRecordWithStatus (s : StateObject) (branchClosureId : String)
    (read : BranchClosureStatusRead) : Option BranchClosureRecord :=
  ((objectEntries (s .branchClosureRecords)).get? branchClosureId).bind
    (branchClosureRecordFromPayload branchClosureId read)

def branchClosureRecord (s : StateObject) (branchClosureId : String) : Option BranchClosureRecord :=
  branchClosureRecordWithStatus s branchClosureId .current

def branchClosureRecordForRepairFollowUp (s : StateObject) (branchClosureId : String) :
    Option BranchClosureRecord :=
  branchClosureRecordWithStatus s branchClosureId .currentOrHistorical

structure CurrentBranchClosureIdentity where
  branchClosureId : String
  reviewedStateId : String
  semanticReviewedStateId : Option String
  contractIdentity : String

/-- `bound_current_branch_closure_identity`. -/
def boundCurrentBranchClosureIdentity (s : StateObject) : Option CurrentBranchClosureIdentity :=
  (jsonString (s .currentBranchClosureId)).bind fun branchClosureId =>
    (branchClosureRecord s branchClosureId).map fun record =>
      { branchClosureId := branchClosureId
        reviewedStateId := record.reviewedStateId
        semanticReviewedStateId := record.semanticReviewedStateId
        contractIdentity := record.contractIdentity }

/-! ### What a closure rests on -/

/-- `is_runtime_owned_execution_control_plane_path`. -/
def isRuntimeOwnedExecutionControlPlanePath (path : String) : Bool :=
  let normalized := AuthoritativeClosureGraph.stripDotSlashes
    ((trim path).toList.map fun c => if c = '\\' then '/' else c)
  ["docs/featureforge/execution-evidence/", "docs/archive/featureforge/execution-evidence/",
    "docs/featureforge/projections/", "docs/featureforge/reviews/"].any fun root =>
      startsWith root.toList normalized

/-- The paths of a surface that stand for content of the repository. -/
def contributingPaths (surfacePaths : List String) : List String :=
  surfacePaths.filter fun path => path ≠ AuthoritativeClosureGraph.noRepoFilesMarker &&
    !isRuntimeOwnedExecutionControlPlanePath path

def taskClosureContributesToBranchSurface (record : CurrentTaskClosureRecord) : Bool :=
  contributingPaths record.effectiveReviewedSurfacePaths ≠ []

/-- `branch_source_task_closure_ids`. -/
def branchSourceTaskClosureIds (currentRecords : List CurrentTaskClosureRecord)
    (lateStageSurface : Option (List String)) : List String :=
  OrderedMap.keySet ((currentRecords.filter fun record => taskClosureContributesToBranchSurface record &&
    match lateStageSurface with
    | none => true
    | some surface => (contributingPaths record.effectiveReviewedSurfacePaths).any fun path =>
        !pathMatchesLateStageSurface path surface).map CurrentTaskClosureRecord.closureRecordId)

/-! ### Recording -/

/-- What the recording reads of the plan and of the repository. -/
structure RecordingContext where
  planRel : String
  planRevision : UInt32
  repoSlug : String
  branchName : String
  /-- the header of the plan for its late-stage surface -/
  lateStageSurfaceHeader : Option String

structure BranchReviewedState where
  baseBranch : String
  contractIdentity : String
  effectiveReviewedBranchSurface : String
  provenanceBasis : String
  reviewedStateId : String
  semanticReviewedStateId : String
  sourceTaskClosureIds : List String

/-- What the recording finds in the workspace, and what the routing says of it. -/
structure BranchRecording where
  context : RecordingContext
  baseBranch : String
  contractIdentity : String
  reviewedStateId : String
  semanticReviewedStateId : String
  /-- the closures of tasks that are still current in the workspace -/
  stillCurrentRecords : List CurrentTaskClosureRecord
  /-- the paths that changed since the closure before -/
  changedPaths : List String
  /-- the closure before may be recorded again without a closure of a task -/
  allowsRepairedRerecord : Bool
  routesBranchClosure : Bool
  /-- a current closure of a task is malformed, or the branch closure is current already -/
  answeredEarly : Bool
  branchClosureFingerprint : String

/-- `current_branch_reviewed_state`. -/
def BranchRecording.reviewedState (recording : BranchRecording) : BranchReviewedState where
  baseBranch := recording.baseBranch
  contractIdentity := recording.contractIdentity
  effectiveReviewedBranchSurface := repoTrackedContent
  provenanceBasis := taskClosureLineageBasis
  reviewedStateId := recording.reviewedStateId
  semanticReviewedStateId := recording.semanticReviewedStateId
  sourceTaskClosureIds := branchSourceTaskClosureIds recording.stillCurrentRecords none

structure BranchRerecordingAssessment where
  lateStageSurface : List String
  supported : Bool

/-- `branch_closure_rerecording_assessment`. -/
def branchClosureRerecordingAssessment (recording : BranchRecording) (s : StateObject) :
    Except JsonFailure BranchRerecordingAssessment :=
  let baselineExists := !(currentTaskClosureResults s).isEmpty
  if recording.changedPaths = [] then .ok ⟨[], true⟩
  else if (recording.stillCurrentRecords.filter taskClosureContributesToBranchSurface).isEmpty &&
      !baselineExists && !recording.allowsRepairedRerecord then .ok ⟨[], false⟩
  else (normalizedLateStageSurface recording.context.lateStageSurfaceHeader).map fun surface =>
    ⟨surface, surface ≠ [] && recording.changedPaths.all fun path =>
      pathMatchesLateStageSurface path surface⟩

/-- `branch_closure_record_matches_plan_exemption`. -/
def branchClosureRecordMatchesPlanExemption (context : RecordingContext)
    (record : BranchClosureRecord) : Bool :=
  if record.provenanceBasis = lateStageSurfaceExemptionBasis ∧ record.sourceTaskClosureIds = [] then
    match normalizedLateStageSurface context.lateStageSurfaceHeader with
    | .error _ => false
    | .ok surface => surface ≠ [] &&
        (parseLateStageSurfaceOnlyBranchSurface record.effectiveReviewedBranchSurface).any
          fun recordedSurface => recordedSurface ≠ [] &&
            recordedSurface.all fun entry => pathMatchesLateStageSurface entry surface
  else true

/-- `branch_closure_record_is_empty_lineage_late_stage_exemption_baseline`. -/
def isEmptyLineageLateStageExemptionBaseline (context : RecordingContext)
    (record : BranchClosureRecord) : Bool :=
  record.sourcePlanPath = context.planRel && record.sourcePlanRevision = context.planRevision &&
    record.repoSlug = context.repoSlug && record.branchName = context.branchName &&
    record.provenanceBasis = lateStageSurfaceExemptionBasis && record.sourceTaskClosureIds = [] &&
    branchClosureRecordMatchesPlanExemption context record

/-- The branch closure that a repair was asked to record again. -/
def repairFollowUpBranchClosureTarget (context : RecordingContext) (s : StateObject) :
    Option String :=
  ((repairFollowUpRecordFromState s).bind fun record =>
    if (record.kind = .recordBranchClosure ∨ record.kind = .advanceLateStage) ∧
        record.targetScope = .branchClosure then record.targetRecordId
    else none).filter fun target =>
      (branchClosureRecordForRepairFollowUp s target).any
        (isEmptyLineageLateStageExemptionBaseline context)

/-- The reviewed state after the drift and the repair have been looked at. -/
def reviewedStateToRecord (recording : BranchRecording) (assessment : BranchRerecordingAssessment)
    (followsUp : Bool) : BranchReviewedState :=
  let reviewed := recording.reviewedState
  let reviewed :=
    if recording.changedPaths = [] then reviewed
    else
      let sourceTaskClosureIds := branchSourceTaskClosureIds recording.stillCurrentRecords
        (some assessment.lateStageSurface)
      { reviewed with
        provenanceBasis := lateStageSurfaceExemptionBasis
        sourceTaskClosureIds := sourceTaskClosureIds
        effectiveReviewedBranchSurface :=
          if sourceTaskClosureIds = [] then
            renderLateStageSurfaceOnlyBranchSurface recording.changedPaths
          else reviewed.effectiveReviewedBranchSurface }
  if followsUp && reviewed.sourceTaskClosureIds = [] then
    { reviewed with
      provenanceBasis := lateStageSurfaceExemptionBasis
      effectiveReviewedBranchSurface :=
        if reviewed.effectiveReviewedBranchSurface = "" then
          renderLateStageSurfaceOnlyBranchSurface recording.changedPaths
        else reviewed.effectiveReviewedBranchSurface }
  else reviewed

/-- `deterministic_branch_closure_record_id`. -/
def deterministicBranchClosureRecordId (sha : Sha256Hex) (context : RecordingContext)
    (reviewed : BranchReviewedState) : String :=
  deterministicRecordId sha "branch-closure"
    [context.planRel, context.branchName, reviewed.baseBranch, reviewed.semanticReviewedStateId,
     reviewed.contractIdentity, reviewed.provenanceBasis, reviewed.effectiveReviewedBranchSurface,
     String.ofList (List.intercalate ['\n'] (reviewed.sourceTaskClosureIds.map String.toList))]

/-- The branch closures that a new one supersedes: the current one, and the one a repair was
asked to record again. -/
def supersededByRecording (s : StateObject) (branchClosureId : String)
    (target : Option String) : List String :=
  let previous := ((jsonString (s .currentBranchClosureId)).filter
    fun previous => previous ≠ branchClosureId).toList
  match target with
  | none => previous
  | some target =>
    if target = branchClosureId ∨ target ∈ previous then previous else previous ++ [target]

def branchClosureResultRecord (recording : BranchRecording) (reviewed : BranchReviewedState)
    (branchClosureId : String) (superseded : List String) : BranchClosureResultRecord where
  branchClosureId := branchClosureId
  sourcePlanPath := recording.context.planRel
  sourcePlanRevision := recording.context.planRevision
  repoSlug := recording.context.repoSlug
  branchName := recording.context.branchName
  baseBranch := reviewed.baseBranch
  reviewedStateId := reviewed.reviewedStateId
  semanticReviewedStateId := some reviewed.semanticReviewedStateId
  contractIdentity := reviewed.contractIdentity
  effectiveReviewedBranchSurface := reviewed.effectiveReviewedBranchSurface
  sourceTaskClosureIds := reviewed.sourceTaskClosureIds
  provenanceBasis := reviewed.provenanceBasis
  closureStatus := "current"
  supersededBranchClosureIds := superseded
  branchClosureFingerprint := some recording.branchClosureFingerprint

/-- `record_branch_closure_for_command`, up to the persist: the id that is recorded and the state
after it, or `none` where another answer is given than that it is recorded. -/
def recordBranchClosureForCommand (sha : Sha256Hex) (now : String) (recording : BranchRecording)
    (s : StateObject) : Except JsonFailure (Option (String × StateObject)) :=
  if recording.answeredEarly then .ok none
  else do
    let assessment ← branchClosureRerecordingAssessment recording s
    let drifts := recording.changedPaths ≠ []
    let target := repairFollowUpBranchClosureTarget recording.context s
    let ready := recording.routesBranchClosure || (drifts && assessment.supported) || target.isSome
    let reviewed := reviewedStateToRecord recording assessment target.isSome
    if !ready || (drifts && !assessment.supported) then .ok none
    else if reviewed.sourceTaskClosureIds = [] ∧
        reviewed.provenanceBasis ≠ lateStageSurfaceExemptionBasis then .ok none
    else
      let branchClosureId := nextAvailableHistoryRecordId (objectEntries (s .branchClosureRecords))
        (deterministicBranchClosureRecordId sha recording.context reviewed) none
      let recorded ← recordCurrentBranchClosure sha now (branchClosureResultRecord recording reviewed
        branchClosureId (supersededByRecording s branchClosureId target)) s
      .ok (some (branchClosureId, recorded))

end FeatureForge
