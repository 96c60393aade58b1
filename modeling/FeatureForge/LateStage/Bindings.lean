import FeatureForge.Closures.OverlayRestore
import FeatureForge.Strategy.Checkpoints

/-!
# Late-stage bindings

Release readiness, final review and browser QA are recorded one over the other, in three
histories, and the state is bound to one record of each.  `currentLateStageBranchBindings` reads
which of the bound records are those of the current branch closure; the `restore…OverlayFields`
write what a bound record says into the fields of the state that are read in its place, and
`restoreReviewStateProjectionOverlays` repairs all of it.
-/

namespace FeatureForge

inductive LateStageMilestone where
  | releaseReadiness
  | finalReview
  | browserQa
  deriving DecidableEq

namespace LateStageMilestone

/-- The field of the id of the record that the state is bound to. -/
def recordIdField : LateStageMilestone → Field
  | releaseReadiness => .currentReleaseReadinessRecordId
  | finalReview => .currentFinalReviewRecordId
  | browserQa => .currentQaRecordId

def historyField : LateStageMilestone → Field
  | releaseReadiness => .releaseReadinessRecordHistory
  | finalReview => .finalReviewRecordHistory
  | browserQa => .browserQaRecordHistory

def resultField : LateStageMilestone → Field
  | releaseReadiness => .currentReleaseReadinessResult
  | finalReview => .currentFinalReviewResult
  | browserQa => .currentQaResult

def summaryHashField : LateStageMilestone → Field
  | releaseReadiness => .currentReleaseReadinessSummaryHash
  | finalReview => .currentFinalReviewSummaryHash
  | browserQa => .currentQaSummaryHash

/-- The field of the branch closure of the record; a release readiness has none. -/
def branchClosureIdField : LateStageMilestone → Option Field
  | releaseReadiness => none
  | finalReview => some .currentFinalReviewBranchClosureId
  | browserQa => some .currentQaBranchClosureId

/-- The field that is made `fresh`. -/
def stateField : LateStageMilestone → Field
  | releaseReadiness => .releaseDocsState
  | finalReview => .finalReviewState
  | browserQa => .browserQaState

/-- The field of the artifact of the record, and the member that it is from. -/
def fingerprintField : LateStageMilestone → Field × String
  | releaseReadiness => (.lastReleaseDocsArtifactFingerprint, "release_docs_fingerprint")
  | finalReview => (.lastFinalReviewArtifactFingerprint, "final_review_fingerprint")
  | browserQa => (.lastBrowserQaArtifactFingerprint, "browser_qa_fingerprint")

/-- The milestone that a record is made over, and the member that names its record. -/
def predecessor : LateStageMilestone → Option (String × LateStageMilestone)
  | releaseReadiness => none
  | finalReview => some ("release_readiness_record_id", .releaseReadiness)
  | browserQa => some ("final_review_record_id", .finalReview)

/-- The texts of a record that are written into fields, in the order they are required. -/
def writtenMembers : LateStageMilestone → List (String × Field)
  | releaseReadiness =>
    [("result", .currentReleaseReadinessResult),
     ("summary_hash", .currentReleaseReadinessSummaryHash)]
  | finalReview =>
    [("dispatch_id", .currentFinalReviewDispatchId),
     ("reviewer_source", .currentFinalReviewReviewerSource),
     ("reviewer_id", .currentFinalReviewReviewerId),
     ("result", .currentFinalReviewResult),
     ("summary_hash", .currentFinalReviewSummaryHash)]
  | browserQa =>
    [("result", .currentQaResult), ("summary_hash", .currentQaSummaryHash)]

/-- What else a record must say to be read. -/
def requiredMembers : LateStageMilestone → List String
  | releaseReadiness => ["summary", "generated_by_identity"]
  | finalReview => ["dispatch_id", "reviewer_source", "reviewer_id", "summary"]
  | browserQa => ["summary", "generated_by_identity"]

/-- How error messages name a record. -/
def label : LateStageMilestone → String
  | releaseReadiness => "release-readiness"
  | finalReview => "final-review"
  | browserQa => "browser QA"

/-- The action that a repair reports. -/
def restoredAction : LateStageMilestone → String
  | releaseReadiness => "restored_current_release_readiness_overlay"
  | finalReview => "restored_current_final_review_overlay"
  | browserQa => "restored_current_browser_qa_overlay"

end LateStageMilestone

/-! ### Reading the records -/

/-- What the bindings read of a record of any of the three histories. -/
structure LateStageRecord where
  recordStatus : String
  branchClosureId : String
  /-- the record of the milestone before it -/
  predecessorRecordId : Option String
  sourcePlanPath : String
  sourcePlanRevision : UInt32
  repoSlug : String
  branchName : String
  baseBranch : String
  reviewedStateId : String
  semanticReviewedStateId : Option String
  result : String
  summaryHash : String
  deriving DecidableEq

/-- `json_string_allow_empty`. -/
def jsonStringAllowEmpty (v : Option Json) : Option String := (v.bind Json.asStr).map trim

/-- The base branch of a record, which for a browser QA may be empty. -/
def recordBaseBranch (m : LateStageMilestone) (payload : Json) : Option String :=
  if m = .browserQa then jsonStringAllowEmpty (payload.get? "base_branch")
  else jsonString (payload.get? "base_branch")

def lateStageRecordFromPayload (m : LateStageMilestone) (payload : Json) :
    Option LateStageRecord := do
  let recordStatus ← jsonString (payload.get? "record_status")
  let branchClosureId ← jsonString (payload.get? "branch_closure_id")
  let sourcePlanPath ← jsonString (payload.get? "source_plan_path")
  let sourcePlanRevision ← jsonU32 (payload.get? "source_plan_revision")
  let repoSlug ← jsonString (payload.get? "repo_slug")
  let branchName ← jsonString (payload.get? "branch_name")
  let baseBranch ← recordBaseBranch m payload
  let reviewedStateId ← jsonString (payload.get? "reviewed_state_id")
  let result ← jsonString (payload.get? "result")
  let summaryHash ← jsonString (payload.get? "summary_hash")
  guard (m.requiredMembers.all fun key => (jsonString (payload.get? key)).isSome)
  return {
    recordStatus := recordStatus
    branchClosureId := branchClosureId
    predecessorRecordId := m.predecessor.bind fun previous => jsonString (payload.get? previous.1)
    sourcePlanPath := sourcePlanPath
    sourcePlanRevision := sourcePlanRevision
    repoSlug := repoSlug
    branchName := branchName
    baseBranch := baseBranch
    reviewedStateId := reviewedStateId
    semanticReviewedStateId := jsonString (payload.get? "semantic_reviewed_state_id")
    result := result
    summaryHash := summaryHash }

/-- `record_payload_by_id`. -/
def recordPayloadById (s : StateObject) (history : Field) (recordId : String) : Option Json :=
  (nonBlank (some recordId)).bind fun recordId => (objectEntries (s history)).get? recordId

def lateStageRecordById (m : LateStageMilestone) (s : StateObject) (recordId : String) :
    Option LateStageRecord :=
  (recordPayloadById s m.historyField recordId).bind (lateStageRecordFromPayload m)

def releaseReadinessRecordById : StateObject → String → Option LateStageRecord :=
  lateStageRecordById .releaseReadiness

def finalReviewRecordById : StateObject → String → Option LateStageRecord :=
  lateStageRecordById .finalReview

def browserQaRecordById : StateObject → String → Option LateStageRecord :=
  lateStageRecordById .browserQa

/-- `current_record_entry`, for the milestones: the record that the state is bound to, if it is
current. -/
def currentRecordEntry (s : StateObject) (m : LateStageMilestone) : Option (String × Json) :=
  (jsonString (s m.recordIdField)).bind fun recordId =>
    ((objectEntries (s m.historyField)).get? recordId).bind fun payload =>
      if jsonString (payload.get? "record_status") = some "current" then some (recordId, payload)
      else none

/-- `current_release_readiness_record`, `current_final_review_record` and
`current_browser_qa_record`. -/
def currentLateStageRecord (s : StateObject) (m : LateStageMilestone) : Option LateStageRecord :=
  (currentRecordEntry s m).bind fun entry => lateStageRecordById m s entry.1

/-! ### Bindings -/

/-- `ClosureGraphSignals::from_authoritative_state`. -/
def closureGraphSignalsFromState (s : StateObject) (overlayCurrentBranchClosureId : Option String)
    (lateStageStaleUnreviewed missingCurrentClosureStaleProvenance : Bool)
    (staleReasonCodes : List String) : ClosureGraphSignals where
  currentBranchClosureId :=
    (boundCurrentBranchClosureIdentity s).map CurrentBranchClosureIdentity.branchClosureId
  overlayCurrentBranchClosureId := nonBlank overlayCurrentBranchClosureId
  finishReviewGatePassBranchClosureId := jsonString (s .finishReviewGatePassBranchClosureId)
  currentReleaseReadinessBranchClosureId :=
    (currentLateStageRecord s .releaseReadiness).map LateStageRecord.branchClosureId
  currentFinalReviewBranchClosureId :=
    ((currentLateStageRecord s .finalReview).map LateStageRecord.branchClosureId).or
      (jsonString (s .currentFinalReviewBranchClosureId))
  currentQaBranchClosureId :=
    ((currentLateStageRecord s .browserQa).map LateStageRecord.branchClosureId).or
      (jsonString (s .currentQaBranchClosureId))
  lateStageStaleUnreviewed := lateStageStaleUnreviewed
  missingCurrentClosureStaleProvenance := missingCurrentClosureStaleProvenance
  staleReasonCodes := staleReasonCodes

structure CurrentLateStageBranchBindings where
  finishReviewGatePassBranchClosureId : Option String
  currentReleaseReadinessRecordId : Option String
  currentReleaseReadinessResult : Option String
  currentFinalReviewRecordId : Option String
  currentFinalReviewBranchClosureId : Option String
  currentFinalReviewResult : Option String
  currentQaRecordId : Option String
  currentQaBranchClosureId : Option String
  currentQaResult : Option String

/-- `CurrentLateStageBranchBindings::default`. -/
def noBindings : CurrentLateStageBranchBindings :=
  ⟨none, none, none, none, none, none, none, none, none⟩

/-- The id of the record that the bindings name. -/
def CurrentLateStageBranchBindings.recordId (bindings : CurrentLateStageBranchBindings) :
    LateStageMilestone → Option String
  | .releaseReadiness => bindings.currentReleaseReadinessRecordId
  | .finalReview => bindings.currentFinalReviewRecordId
  | .browserQa => bindings.currentQaRecordId

/-- The closure `milestone_reviewed_state_matches`: by the semantic ids when both have one. -/
def milestoneReviewedStateMatches (current : BranchClosureRecord) (currentReviewedStateId : String)
    (record : LateStageRecord) : Bool :=
  match current.semanticReviewedStateId, record.semanticReviewedStateId with
  | some currentSemantic, some recordSemantic => currentSemantic = recordSemantic
  | _, _ => record.reviewedStateId = currentReviewedStateId

/-- The closure `milestone_matches_current_branch`. -/
def milestoneMatchesCurrentBranch (current : BranchClosureRecord) (currentReviewedStateId : String)
    (record : LateStageRecord) : Bool :=
  record.sourcePlanPath = current.sourcePlanPath &&
    record.sourcePlanRevision = current.sourcePlanRevision &&
    record.repoSlug = current.repoSlug && record.branchName = current.branchName &&
    record.baseBranch = current.baseBranch &&
    milestoneReviewedStateMatches current currentReviewedStateId record

/-- The record is current and of the branch closure, and made over the record that is named of
the milestone before it. -/
def milestoneAdmitted (m : LateStageMilestone) (branchClosureId reviewedStateId : String)
    (current : BranchClosureRecord) (previous : Option String) (record : LateStageRecord) : Bool :=
  record.recordStatus = "current" && record.branchClosureId = branchClosureId &&
    (m.predecessor.isNone || (previous.isSome && record.predecessorRecordId = previous)) &&
    milestoneMatchesCurrentBranch current reviewedStateId record

/-- The record of a milestone that the graph names, if it is admitted. -/
def namedMilestone (m : LateStageMilestone) (s : StateObject)
    (branchClosureId reviewedStateId : String) (current : BranchClosureRecord)
    (recordId previous : Option String) : Option (String × LateStageRecord) :=
  recordId.bind fun recordId =>
    ((lateStageRecordById m s recordId).filter
      (milestoneAdmitted m branchClosureId reviewedStateId current previous)).map fun record =>
        (recordId, record)

/-- `current_late_stage_branch_bindings`. -/
def currentLateStageBranchBindings (s : StateObject)
    (currentBranchClosureId currentBranchReviewedStateId : Option String) :
    CurrentLateStageBranchBindings :=
  match nonBlank currentBranchClosureId, nonBlank currentBranchReviewedStateId with
  | some branchClosureId, some reviewedStateId =>
    match branchClosureRecord s branchClosureId with
    | none => noBindings
    | some current =>
      let graph := AuthoritativeClosureGraph.fromState s
        (closureGraphSignalsFromState s (some branchClosureId) false false [])
      let release := namedMilestone .releaseReadiness s branchClosureId reviewedStateId current
        graph.currentReleaseReadinessRecordId none
      let review := namedMilestone .finalReview s branchClosureId reviewedStateId current
        graph.currentFinalReviewRecordId (release.map Prod.fst)
      let qa := namedMilestone .browserQa s branchClosureId reviewedStateId current
        graph.currentBrowserQaRecordId (review.map Prod.fst)
      { finishReviewGatePassBranchClosureId :=
          (jsonString (s .finishReviewGatePassBranchClosureId)).filter fun closureId =>
            closureId = branchClosureId
        currentReleaseReadinessRecordId := release.map Prod.fst
        currentReleaseReadinessResult := release.map fun named => named.2.result
        currentFinalReviewRecordId := review.map Prod.fst
        currentFinalReviewBranchClosureId := review.map fun named => named.2.branchClosureId
        currentFinalReviewResult := review.map fun named => named.2.result
        currentQaRecordId := qa.map Prod.fst
        currentQaBranchClosureId := qa.map fun named => named.2.branchClosureId
        currentQaResult := qa.map fun named => named.2.result }
  | _, _ => noBindings

/-! ### Restoring -/

def missingMember (m : LateStageMilestone) (key : String) : JsonFailure where
  errorClass := .malformedExecutionState
  message := "Current " ++ m.label ++ " record is missing " ++ key ++ "."

/-- A text that a record must have. -/
def requiredMember (m : LateStageMilestone) (payload : Json) (key : String) :
    Except JsonFailure String :=
  match jsonString (payload.get? key) with
  | some text => .ok text
  | none => .error (missingMember m key)

/-- `late_stage_record_matches_current_branch_identity`: the semantic ids, or neither has one. -/
def lateStageRecordMatchesCurrentBranchIdentity (identity : CurrentBranchClosureIdentity)
    (semanticReviewedStateId : Option String) : Bool :=
  match identity.semanticReviewedStateId, semanticReviewedStateId with
  | some currentSemantic, some recordSemantic => currentSemantic = recordSemantic
  | none, none => true
  | _, _ => false

/-- The record that a payload names of the milestone before it is the bound one. -/
def overBoundPredecessor (m : LateStageMilestone) (payload : Json) (s : StateObject) : Bool :=
  match m.predecessor with
  | none => true
  | some (key, previous) =>
    match jsonString (s previous.recordIdField) with
    | none => false
    | some recordId => jsonString (payload.get? key) = some recordId

/-- The fields that stand for a record. -/
def writeOverlayFields (m : LateStageMilestone) (recordId branchClosureId : String) (payload : Json)
    (texts : List (Field × String)) (s : StateObject) : StateObject :=
  let s := match m.branchClosureIdField with
    | none => s
    | some field => s.set field (.str branchClosureId)
  let s := texts.foldl (fun s text => s.set text.1 (.str text.2)) s
  ((s.set m.recordIdField (.str recordId)).set m.stateField (.str "fresh")).set m.fingerprintField.1
    (optionStr (jsonString (payload.get? m.fingerprintField.2)))

/-- What the three restorations share; whether anything was restored. -/
def restoreOverlayFields (m : LateStageMilestone) (s : StateObject) :
    Except JsonFailure (Option Json × StateObject) :=
  match currentRecordEntry s m with
  | none => .ok (none, s)
  | some (recordId, payload) => do
    let branchClosureId ← requiredMember m payload "branch_closure_id"
    let _ ← requiredMember m payload "reviewed_state_id"
    match recoverableCurrentBranchClosureIdentity s with
    | none => .ok (none, s)
    | some identity =>
      if identity.branchClosureId ≠ branchClosureId ∨
          lateStageRecordMatchesCurrentBranchIdentity identity
            (jsonString (payload.get? "semantic_reviewed_state_id")) = false then .ok (none, s)
      else if (jsonString (s .currentBranchClosureId)).any (· ≠ branchClosureId) = true then
        .ok (none, s)
      else if overBoundPredecessor m payload s = false then .ok (none, s)
      else do
        let texts ← m.writtenMembers.mapM fun member => do
          let text ← requiredMember m payload member.1
          .ok (member.2, text)
        .ok (some payload, writeOverlayFields m recordId branchClosureId payload texts s)

/-- `restore_current_release_readiness_overlay_fields`. -/
def restoreCurrentReleaseReadinessOverlayFields (s : StateObject) :
    Except JsonFailure (Bool × StateObject) := do
  let (restored, s) ← restoreOverlayFields .releaseReadiness s
  .ok (restored.isSome, s)

/-- A review that needs no browser QA says so. -/
def markBrowserQaNotRequired (payload : Json) (s : StateObject) : StateObject :=
  if (payload.get? "browser_qa_required").bind Json.asBool = some false then
    (s.set .browserQaState (.str "not_required")).set .lastBrowserQaArtifactFingerprint .null
  else s

/-- `restore_current_final_review_overlay_fields`. -/
def restoreCurrentFinalReviewOverlayFields (s : StateObject) :
    Except JsonFailure (Bool × StateObject) := do
  let (restored, s) ← restoreOverlayFields .finalReview s
  .ok (restored.isSome, restored.elim s fun payload => markBrowserQaNotRequired payload s)

/-- `restore_current_browser_qa_overlay_fields`. -/
def restoreCurrentBrowserQaOverlayFields (s : StateObject) :
    Except JsonFailure (Bool × StateObject) := do
  let (restored, s) ← restoreOverlayFields .browserQa s
  .ok (restored.isSome, s)

def LateStageMilestone.restore : LateStageMilestone → StateObject →
    Except JsonFailure (Bool × StateObject)
  | .releaseReadiness => restoreCurrentReleaseReadinessOverlayFields
  | .finalReview => restoreCurrentFinalReviewOverlayFields
  | .browserQa => restoreCurrentBrowserQaOverlayFields

/-! ### The repair -/

/-- `validated_current_branch_closure_identity`: the bound branch closure, if the context accepts
its record with the current closures of tasks. -/
def validatedCurrentBranchClosureIdentity
    (accepts : BranchClosureRecord → List CurrentTaskClosureRecord → Bool)
    (closures : OrderedMap Nat CurrentTaskClosureRecord) (s : StateObject) :
    Option CurrentBranchClosureIdentity :=
  (boundCurrentBranchClosureIdentity s).bind fun identity =>
    (branchClosureRecord s identity.branchClosureId).bind fun record =>
      if identity.contractIdentity = record.contractIdentity ∧
          accepts record (closures.entries.map Prod.snd) = true then some identity
      else none

/-- The overlay of the branch closure repaired, and the actions to report. -/
def restoreBranchClosureOverlay (identity : Option CurrentBranchClosureIdentity) (s : StateObject) :
    List String × StateObject :=
  match identity with
  | none => ([], s)
  | some identity =>
    let branchIdChanged := jsonString (s .currentBranchClosureId) ≠ some identity.branchClosureId
    let reviewedStateChanged :=
      jsonString (s .currentBranchClosureReviewedStateId) ≠ some identity.reviewedStateId
    let contractIdentityChanged :=
      jsonString (s .currentBranchClosureContractIdentity) ≠ some identity.contractIdentity
    if branchIdChanged ∨ reviewedStateChanged ∨ contractIdentityChanged then
      ((if branchIdChanged then ["restored_current_branch_closure_id"] else []) ++
        (if reviewedStateChanged then ["restored_current_branch_closure_reviewed_state"] else []) ++
        (if contractIdentityChanged then ["restored_current_branch_closure_contract_identity"]
          else []),
       ((s.set .currentBranchClosureId (.str identity.branchClosureId)).set
        .currentBranchClosureReviewedStateId (.str identity.reviewedStateId)).set
          .currentBranchClosureContractIdentity (.str identity.contractIdentity))
    else ([], s)

/-- A milestone bound to the record that the bindings name, and its fields restored; the actions
to report.  The setters `set_current_…_record_id_cache` set the id and nothing else. -/
def settleMilestone (m : LateStageMilestone) (named : Option String) (s : StateObject) :
    Except JsonFailure (List String × StateObject) := do
  let differs := jsonString (s m.recordIdField) ≠ named
  let s := if differs then s.set m.recordIdField (optionStr named) else s
  let (restored, s) ← if named.isSome then m.restore s else .ok (false, s)
  .ok (if differs ∨ restored = true then [m.restoredAction] else [], s)

/-- `restore_review_state_projection_overlays`, up to the write: the actions and the state. -/
def restoreReviewStateProjectionOverlays
    (accepts : BranchClosureRecord → List CurrentTaskClosureRecord → Bool) (s : StateObject) :
    Except JsonFailure (List String × StateObject) := do
  let (closures, s₁) := restoreCurrentTaskClosureRecordsFromHistory s
  let (negatives, s₂) := restoreTaskClosureNegativeResultRecordsFromHistory s₁
  -- the branch closure is validated on the state as it was loaded
  let identity := validatedCurrentBranchClosureIdentity accepts (currentTaskClosureResults s) s
  let (branch, s₃) := restoreBranchClosureOverlay identity s₂
  let bindings := currentLateStageBranchBindings s₃
    (identity.map CurrentBranchClosureIdentity.branchClosureId)
    (identity.map CurrentBranchClosureIdentity.reviewedStateId)
  let (release, s₄) ← settleMilestone .releaseReadiness bindings.currentReleaseReadinessRecordId s₃
  let (review, s₅) ← settleMilestone .finalReview bindings.currentFinalReviewRecordId s₄
  let (qa, s₆) ← settleMilestone .browserQa bindings.currentQaRecordId s₅
  .ok ((if closures then ["restored_current_task_closure_records"] else []) ++
    (if negatives then ["restored_task_closure_negative_result_records"] else []) ++ branch ++
      release ++ review ++ qa, s₆)

end FeatureForge
