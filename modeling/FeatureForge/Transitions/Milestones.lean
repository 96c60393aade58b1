import FeatureForge.Transitions.Payload

/-!
# The late-stage milestones

The recordings of `AuthoritativeTransitionState` for the four late-stage milestones and
the clear of a structural repair.  Each takes the payload to the changed one; the
timestamp of an archived dispatch lineage is an argument, and so is the digest.
-/

namespace FeatureForge

structure BranchClosureResultRecord where
  branchClosureId : String
  sourcePlanPath : String
  sourcePlanRevision : UInt32
  repoSlug : String
  branchName : String
  baseBranch : String
  reviewedStateId : String
  semanticReviewedStateId : Option String
  contractIdentity : String
  effectiveReviewedBranchSurface : String
  sourceTaskClosureIds : List String
  provenanceBasis : String
  closureStatus : String
  supersededBranchClosureIds : List String
  branchClosureFingerprint : Option String

structure ReleaseReadinessResultRecord where
  branchClosureId : String
  sourcePlanPath : String
  sourcePlanRevision : UInt32
  repoSlug : String
  branchName : String
  baseBranch : String
  reviewedStateId : String
  semanticReviewedStateId : Option String
  result : String
  releaseDocsFingerprint : Option String
  summary : String
  summaryHash : String
  generatedByIdentity : String

structure FinalReviewMilestoneRecord where
  branchClosureId : String
  releaseReadinessRecordId : String
  dispatchId : String
  reviewerSource : String
  reviewerId : String
  result : String
  finalReviewFingerprint : Option String
  deviationsRequired : Option Bool
  browserQaRequired : Option Bool
  sourcePlanPath : String
  sourcePlanRevision : UInt32
  repoSlug : String
  branchName : String
  baseBranch : String
  reviewedStateId : String
  semanticReviewedStateId : Option String
  summary : String
  summaryHash : String

structure BrowserQaResultRecord where
  branchClosureId : String
  finalReviewRecordId : String
  sourcePlanPath : String
  sourcePlanRevision : UInt32
  repoSlug : String
  branchName : String
  baseBranch : String
  reviewedStateId : String
  semanticReviewedStateId : Option String
  result : String
  browserQaFingerprint : Option String
  sourceTestPlanFingerprint : Option String
  summary : String
  summaryHash : String
  generatedByIdentity : String

def optionBool (v : Option Bool) : Json := (v.map Json.bool).getD .null

/-- `Option::to_string`, or `none`. -/
def boolPart : Option Bool → String
  | none => "none"
  | some true => "true"
  | some false => "false"

/-! ### Fields that fall with a milestone -/

def releaseReadinessBindings : List Field :=
  [.currentReleaseReadinessResult, .currentReleaseReadinessSummaryHash,
   .currentReleaseReadinessRecordId, .releaseDocsState, .lastReleaseDocsArtifactFingerprint]

def finalReviewBindings : List Field :=
  [.currentFinalReviewBranchClosureId, .currentFinalReviewDispatchId,
   .currentFinalReviewReviewerSource, .currentFinalReviewReviewerId, .currentFinalReviewResult,
   .currentFinalReviewSummaryHash, .currentFinalReviewRecordId, .finalReviewState,
   .lastFinalReviewArtifactFingerprint]

def qaBindings : List Field :=
  [.browserQaState, .lastBrowserQaArtifactFingerprint, .currentQaBranchClosureId, .currentQaResult,
   .currentQaSummaryHash, .currentQaRecordId]

/-! ### The branch closure -/

/-- A member for a text there is. -/
def insertPresent (m : Object) (key : String) : Option String → Object
  | some v => m.insert key (.str v)
  | none => m

theorem insertPresent_get?_of_ne (m : Object) {key k : String} (v : Option String) (h : k ≠ key) :
    (insertPresent m key v).get? k = m.get? k := by
  cases v with
  | none => rfl
  | some v => exact OrderedMap.get?_insert_of_ne m _ h

def branchClosurePayload (r : BranchClosureResultRecord) (sequence : Nat) : Object :=
  insertPresent (insertPresent (OrderedMap.ofList
    [("branch_closure_id", .str r.branchClosureId),
     ("source_plan_path", .str r.sourcePlanPath),
     ("source_plan_revision", .u64 r.sourcePlanRevision.toNat),
     ("repo_slug", .str r.repoSlug),
     ("branch_name", .str r.branchName),
     ("base_branch", .str r.baseBranch),
     ("reviewed_state_id", .str r.reviewedStateId),
     ("contract_identity", .str r.contractIdentity),
     ("effective_reviewed_branch_surface", .str r.effectiveReviewedBranchSurface),
     ("source_task_closure_ids", strArr r.sourceTaskClosureIds),
     ("provenance_basis", .str r.provenanceBasis),
     ("closure_status", .str r.closureStatus),
     ("superseded_branch_closure_ids", strArr r.supersededBranchClosureIds),
     ("record_sequence", .u64 sequence)])
    "semantic_reviewed_state_id" r.semanticReviewedStateId)
    "branch_closure_fingerprint" r.branchClosureFingerprint

/-- `record_branch_closure`. -/
def recordBranchClosure (r : BranchClosureResultRecord) (s : StateObject) :
    Except JsonFailure StateObject := do
  let records ← recordsMut .branchClosureRecords s
  let payload := branchClosurePayload r (records.entries.length + 1)
  .ok ((s.set .branchClosureRecords (.obj (records.insert r.branchClosureId (.obj payload)))).set
    .harnessPhase (.str "document_release_pending"))

/-- `append_superseded_branch_closure_ids`. -/
def appendSupersededBranchClosureIds (closureIds : List String) (s : StateObject) :
    Except JsonFailure StateObject :=
  appendUniqueStringArray .supersededBranchClosureIds closureIds s

/-- `set_current_branch_closure_id`. -/
def setCurrentBranchClosureId (sha : Sha256Hex) (now branchClosureId reviewedStateId
    contractIdentity : String) (s : StateObject) : Except JsonFailure StateObject := do
  let previous := jsonString (s .currentBranchClosureId)
  let changed := previous.any fun id => id != branchClosureId
  let previousReleaseReadiness := jsonString (s .currentReleaseReadinessRecordId)
  let previousFinalReview := jsonString (s .currentFinalReviewRecordId)
  let previousQa := jsonString (s .currentQaRecordId)
  let s ← (if changed then archiveFinalReviewDispatchLineageRecord sha now "stale_unreviewed" s
    else .ok s)
  let s := ((s.set .currentBranchClosureId (.str branchClosureId)).set
    .currentBranchClosureReviewedStateId (.str reviewedStateId)).set
    .currentBranchClosureContractIdentity (.str contractIdentity)
  let s := s.setNulls (releaseReadinessBindings ++ finalReviewBindings ++ qaBindings ++
    [.finalReviewDispatchLineage, .finishReviewGatePassBranchClosureId, .reviewStateRepairFollowUp])
  let s ← (if changed then markPrevious .branchClosureRecords previous "superseded" s else .ok s)
  let s ← markPrevious .releaseReadinessRecordHistory previousReleaseReadiness "historical" s
  let s ← markPrevious .finalReviewRecordHistory previousFinalReview "historical" s
  markPrevious .browserQaRecordHistory previousQa "historical" s

/-- `record_current_branch_closure_for_command`, up to the persist. -/
def recordCurrentBranchClosure (sha : Sha256Hex) (now : String) (r : BranchClosureResultRecord)
    (s : StateObject) : Except JsonFailure StateObject := do
  let s ← recordBranchClosure r s
  let s ← appendSupersededBranchClosureIds r.supersededBranchClosureIds s
  setCurrentBranchClosureId sha now r.branchClosureId r.reviewedStateId r.contractIdentity s

/-- `clear_current_branch_closure_for_structural_repair`. -/
def clearCurrentBranchClosureForStructuralRepair (sha : Sha256Hex) (now : String)
    (s : StateObject) : Except JsonFailure StateObject := do
  let previous := jsonString (s .currentBranchClosureId)
  let previousReleaseReadiness := jsonString (s .currentReleaseReadinessRecordId)
  let previousFinalReview := jsonString (s .currentFinalReviewRecordId)
  let previousQa := jsonString (s .currentQaRecordId)
  let hadFinalReviewDispatchLineage := ((s .finalReviewDispatchLineage).bind Json.asObject).isSome
  let hadFinishReviewCheckpoint := (jsonString (s .finishReviewGatePassBranchClosureId)).isSome
  if previous.isNone && previousReleaseReadiness.isNone && previousFinalReview.isNone &&
      previousQa.isNone && !hadFinalReviewDispatchLineage && !hadFinishReviewCheckpoint then .ok s
  else
    let s ← archiveFinalReviewDispatchLineageRecord sha now "historical" s
    let s := s.setNulls ([.currentBranchClosureId, .currentBranchClosureReviewedStateId,
      .currentBranchClosureContractIdentity] ++ releaseReadinessBindings ++ finalReviewBindings ++
      qaBindings ++ [.finalReviewDispatchLineage, .finishReviewGatePassBranchClosureId])
    let s ← markPrevious .branchClosureRecords previous "historical" s
    let s ← markPrevious .releaseReadinessRecordHistory previousReleaseReadiness "historical" s
    let s ← markPrevious .finalReviewRecordHistory previousFinalReview "historical" s
    markPrevious .browserQaRecordHistory previousQa "historical" s

/-! ### The records of the later milestones -/

/-- A record put in force in a history, the one before it marked historical. -/
def fileRecord (f : Field) (history : Object) (previous : Option String) (recordId : String)
    (payload : Object) (s : StateObject) : StateObject :=
  let history := match previous with
    | some previous =>
      if previous = recordId then history else markRecordStatus history previous "historical"
    | none => history
  s.set f (.obj (history.insert recordId (.obj payload)))

def releaseReadinessPayload (r : ReleaseReadinessResultRecord) (recordId : String)
    (sequence : Nat) : Object :=
  OrderedMap.ofList
    [("record_id", .str recordId),
     ("record_sequence", .u64 sequence),
     ("record_status", .str "current"),
     ("branch_closure_id", .str r.branchClosureId),
     ("source_plan_path", .str r.sourcePlanPath),
     ("source_plan_revision", .u64 r.sourcePlanRevision.toNat),
     ("repo_slug", .str r.repoSlug),
     ("branch_name", .str r.branchName),
     ("base_branch", .str r.baseBranch),
     ("reviewed_state_id", .str r.reviewedStateId),
     ("semantic_reviewed_state_id", optionStr r.semanticReviewedStateId),
     ("result", .str r.result),
     ("release_docs_fingerprint", optionStr r.releaseDocsFingerprint),
     ("summary", .str r.summary),
     ("summary_hash", .str r.summaryHash),
     ("generated_by_identity", .str r.generatedByIdentity)]

/-- `record_release_readiness_result`. -/
def recordReleaseReadinessResult (sha : Sha256Hex) (now : String)
    (r : ReleaseReadinessResultRecord) (s : StateObject) : Except JsonFailure StateObject := do
  let previous := jsonString (s .currentReleaseReadinessRecordId)
  let previousFinalReview := jsonString (s .currentFinalReviewRecordId)
  let previousQa := jsonString (s .currentQaRecordId)
  let history ← recordsMut .releaseReadinessRecordHistory s
  let baseRecordId := deterministicRecordId sha "release-readiness"
    [r.branchClosureId, r.reviewedStateId, r.sourcePlanPath, r.sourcePlanRevision.toNat.repr,
     r.repoSlug, r.branchName, r.baseBranch, r.result, r.summaryHash, r.generatedByIdentity,
     r.releaseDocsFingerprint.getD "none"]
  let recordId := nextAvailableHistoryRecordId history baseRecordId previous
  let s := fileRecord .releaseReadinessRecordHistory history previous recordId
    (releaseReadinessPayload r recordId (history.entries.length + 1)) s
  let changed := previous != some recordId
  let s ← (if changed then archiveFinalReviewDispatchLineageRecord sha now "stale_unreviewed" s
    else .ok s)
  let s := (((s.set .currentReleaseReadinessResult (.str r.result)).set
    .currentReleaseReadinessSummaryHash (.str r.summaryHash)).set
    .currentReleaseReadinessRecordId (.str recordId)).set .releaseDocsState (.str "fresh")
  let s := s.set .harnessPhase
    (.str (if r.result = "ready" then "final_review_pending" else "document_release_pending"))
  let s := s.set .lastReleaseDocsArtifactFingerprint (optionStr r.releaseDocsFingerprint)
  if changed then
    let s := s.setNulls (finalReviewBindings ++ qaBindings ++ [.finalReviewDispatchLineage])
    let s ← markPrevious .finalReviewRecordHistory previousFinalReview "historical" s
    markPrevious .browserQaRecordHistory previousQa "historical" s
  else .ok s

def finalReviewPayload (r : FinalReviewMilestoneRecord) (recordId : String) (sequence : Nat) :
    Object :=
  OrderedMap.ofList
    [("record_id", .str recordId),
     ("record_sequence", .u64 sequence),
     ("record_status", .str "current"),
     ("branch_closure_id", .str r.branchClosureId),
     ("release_readiness_record_id", .str r.releaseReadinessRecordId),
     ("source_plan_path", .str r.sourcePlanPath),
     ("source_plan_revision", .u64 r.sourcePlanRevision.toNat),
     ("repo_slug", .str r.repoSlug),
     ("branch_name", .str r.branchName),
     ("base_branch", .str r.baseBranch),
     ("reviewed_state_id", .str r.reviewedStateId),
     ("semantic_reviewed_state_id", optionStr r.semanticReviewedStateId),
     ("dispatch_id", .str r.dispatchId),
     ("reviewer_source", .str r.reviewerSource),
     ("reviewer_id", .str r.reviewerId),
     ("result", .str r.result),
     ("final_review_fingerprint", optionStr r.finalReviewFingerprint),
     ("deviations_required", optionBool r.deviationsRequired),
     ("browser_qa_required", optionBool r.browserQaRequired),
     ("summary", .str r.summary),
     ("summary_hash", .str r.summaryHash)]

/-- `record_final_review_result`. -/
def recordFinalReviewResult (sha : Sha256Hex) (r : FinalReviewMilestoneRecord)
    (s : StateObject) : Except JsonFailure StateObject := do
  let previous := jsonString (s .currentFinalReviewRecordId)
  let previousQa := jsonString (s .currentQaRecordId)
  let history ← recordsMut .finalReviewRecordHistory s
  let recordId := deterministicRecordId sha "final-review"
    [r.branchClosureId, r.releaseReadinessRecordId, r.dispatchId, r.reviewerSource, r.reviewerId,
     r.result, r.summaryHash, r.finalReviewFingerprint.getD "none", boolPart r.deviationsRequired,
     boolPart r.browserQaRequired, r.sourcePlanPath, r.sourcePlanRevision.toNat.repr, r.repoSlug,
     r.branchName, r.baseBranch, r.reviewedStateId]
  let s := fileRecord .finalReviewRecordHistory history previous recordId
    (finalReviewPayload r recordId (history.entries.length + 1)) s
  let changed := previous != some recordId
  let s := (((((((s.set .currentFinalReviewBranchClosureId (.str r.branchClosureId)).set
    .currentFinalReviewDispatchId (.str r.dispatchId)).set
    .currentFinalReviewReviewerSource (.str r.reviewerSource)).set
    .currentFinalReviewReviewerId (.str r.reviewerId)).set
    .currentFinalReviewResult (.str r.result)).set
    .currentFinalReviewSummaryHash (.str r.summaryHash)).set
    .currentFinalReviewRecordId (.str recordId)).set .finalReviewState (.str "fresh")
  let s := if r.result = "pass" then
      s.set .harnessPhase (.str (if r.browserQaRequired = some true then "qa_pending"
        else "ready_for_branch_completion"))
    else s
  let s := s.set .lastFinalReviewArtifactFingerprint (optionStr r.finalReviewFingerprint)
  let s := if r.browserQaRequired = some false then
      (s.set .browserQaState (.str "not_required")).set .lastBrowserQaArtifactFingerprint .null
    else s
  if changed then
    let s := s.setNulls [.currentQaBranchClosureId, .currentQaResult, .currentQaSummaryHash,
      .currentQaRecordId, .lastBrowserQaArtifactFingerprint]
    let s := if r.browserQaRequired = some false then s else s.set .browserQaState .null
    markPrevious .browserQaRecordHistory previousQa "historical" s
  else .ok s

def browserQaPayload (r : BrowserQaResultRecord) (recordId : String) (sequence : Nat) : Object :=
  OrderedMap.ofList
    [("record_id", .str recordId),
     ("record_sequence", .u64 sequence),
     ("record_status", .str "current"),
     ("branch_closure_id", .str r.branchClosureId),
     ("final_review_record_id", .str r.finalReviewRecordId),
     ("source_plan_path", .str r.sourcePlanPath),
     ("source_plan_revision", .u64 r.sourcePlanRevision.toNat),
     ("repo_slug", .str r.repoSlug),
     ("branch_name", .str r.branchName),
     ("base_branch", .str r.baseBranch),
     ("reviewed_state_id", .str r.reviewedStateId),
     ("semantic_reviewed_state_id", optionStr r.semanticReviewedStateId),
     ("result", .str r.result),
     ("browser_qa_fingerprint", optionStr r.browserQaFingerprint),
     ("source_test_plan_fingerprint", optionStr r.sourceTestPlanFingerprint),
     ("summary", .str r.summary),
     ("summary_hash", .str r.summaryHash),
     ("generated_by_identity", .str r.generatedByIdentity)]

/-- `record_browser_qa_result`. -/
def recordBrowserQaResult (sha : Sha256Hex) (r : BrowserQaResultRecord) (s : StateObject) :
    Except JsonFailure StateObject := do
  let previous := jsonString (s .currentQaRecordId)
  let history ← recordsMut .browserQaRecordHistory s
  let recordId := deterministicRecordId sha "browser-qa"
    [r.branchClosureId, r.finalReviewRecordId, r.sourcePlanPath, r.sourcePlanRevision.toNat.repr,
     r.repoSlug, r.branchName, r.baseBranch, r.reviewedStateId, r.result, r.summaryHash,
     r.generatedByIdentity, r.sourceTestPlanFingerprint.getD "none",
     r.browserQaFingerprint.getD "none"]
  let s := fileRecord .browserQaRecordHistory history previous recordId
    (browserQaPayload r recordId (history.entries.length + 1)) s
  let s := ((((s.set .currentQaBranchClosureId (.str r.branchClosureId)).set
    .currentQaResult (.str r.result)).set .currentQaSummaryHash (.str r.summaryHash)).set
    .currentQaRecordId (.str recordId)).set .browserQaState (.str "fresh")
  let s := if r.result = "pass" then
      s.set .harnessPhase (.str "ready_for_branch_completion")
    else s
  .ok (s.set .lastBrowserQaArtifactFingerprint (optionStr r.browserQaFingerprint))

end FeatureForge
