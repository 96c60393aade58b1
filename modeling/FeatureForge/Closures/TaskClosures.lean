import FeatureForge.Closures.Graph
import FeatureForge.Paths.RepoPath
import FeatureForge.Transitions.Milestones

/-!
# The closures of tasks

A task closure is filed twice: as the current one of its task, under the key of the task, and
in a history, under its own id.  `recordCurrentTaskClosure` files one and takes back those it
supersedes, `removeCurrentTaskClosureResults` takes back closures with the status that the
caller gives; `currentTaskClosureResult` reads the history first, and then the current map.
-/

namespace FeatureForge

structure CurrentTaskClosureRecord where
  task : UInt32
  dispatchId : String
  closureRecordId : String
  sourcePlanPath : Option String
  sourcePlanRevision : Option UInt32
  executionRunId : Option String
  reviewedStateId : String
  semanticReviewedStateId : Option String
  contractIdentity : String
  effectiveReviewedSurfacePaths : List String
  reviewResult : String
  reviewSummaryHash : String
  verificationResult : String
  verificationSummaryHash : String
  closureStatus : Option String
  deriving DecidableEq

structure TaskClosureNegativeResult where
  dispatchId : String
  reviewedStateId : String
  semanticReviewedStateId : Option String
  contractIdentity : String
  reviewResult : String
  reviewSummaryHash : String
  verificationResult : String
  verificationSummaryHash : Option String

structure TaskClosureResultRecord where
  task : UInt32
  dispatchId : String
  closureRecordId : String
  executionRunId : Option String
  reviewedStateId : String
  semanticReviewedStateId : Option String
  contractIdentity : String
  effectiveReviewedSurfacePaths : List String
  reviewResult : String
  reviewSummaryHash : String
  verificationResult : String
  verificationSummaryHash : String

/-- The key of a task in the maps of current records. -/
def taskScopeKey (task : UInt32) : String := "task-" ++ task.toNat.repr

/-! ### Reading -/

/-- `json_string_array_strict`. -/
def jsonStringArrayStrict (v : Option Json) : Option (List String) :=
  (v.bind Json.asArray).bind fun values => values.mapM fun value => nonBlank value.asStr

/-- `current_task_closure_record_from_payload`. -/
def currentTaskClosureRecordFromPayload (task : UInt32) (payload : Json) :
    Option CurrentTaskClosureRecord := do
  let dispatchId ← jsonString (payload.get? "dispatch_id")
  let closureRecordId ← jsonString (payload.get? "closure_record_id")
  let reviewedStateId ← jsonString (payload.get? "reviewed_state_id")
  let contractIdentity ← jsonString (payload.get? "contract_identity")
  let effectiveReviewedSurfacePaths ←
    jsonStringArrayStrict (payload.get? "effective_reviewed_surface_paths")
  let reviewResult ← jsonString (payload.get? "review_result")
  let reviewSummaryHash ← jsonString (payload.get? "review_summary_hash")
  let verificationResult ← jsonString (payload.get? "verification_result")
  let verificationSummaryHash ← jsonString (payload.get? "verification_summary_hash")
  return {
    task := task
    dispatchId := dispatchId
    closureRecordId := closureRecordId
    sourcePlanPath := jsonString (payload.get? "source_plan_path")
    sourcePlanRevision := jsonU32 (payload.get? "source_plan_revision")
    executionRunId := jsonString (payload.get? "execution_run_id")
    reviewedStateId := reviewedStateId
    semanticReviewedStateId := jsonString (payload.get? "semantic_reviewed_state_id")
    contractIdentity := contractIdentity
    effectiveReviewedSurfacePaths := effectiveReviewedSurfacePaths
    reviewResult := reviewResult
    reviewSummaryHash := reviewSummaryHash
    verificationResult := verificationResult
    verificationSummaryHash := verificationSummaryHash
    closureStatus := jsonString (payload.get? "closure_status") }

/-- `task_closure_negative_result_from_payload`. -/
def taskClosureNegativeResultFromPayload (payload : Json) : Option TaskClosureNegativeResult := do
  let dispatchId ← jsonString (payload.get? "dispatch_id")
  let reviewedStateId ← jsonString (payload.get? "reviewed_state_id")
  let contractIdentity ← jsonString (payload.get? "contract_identity")
  let reviewResult ← jsonString (payload.get? "review_result")
  let reviewSummaryHash ← jsonString (payload.get? "review_summary_hash")
  let verificationResult ← jsonString (payload.get? "verification_result")
  return {
    dispatchId := dispatchId
    reviewedStateId := reviewedStateId
    semanticReviewedStateId := jsonString (payload.get? "semantic_reviewed_state_id")
    contractIdentity := contractIdentity
    reviewResult := reviewResult
    reviewSummaryHash := reviewSummaryHash
    verificationResult := verificationResult
    verificationSummaryHash := jsonString (payload.get? "verification_summary_hash") }

/-- The current records of a history by the number of their task, the last one of each. -/
def currentByTask {α : Type} (read : UInt32 → Json → Option α) (history : Object) :
    OrderedMap Nat α :=
  .ofList (history.entries.filterMap fun record =>
    if jsonString (record.2.get? "record_status") = some "current" then
      (jsonU32 (record.2.get? "task")).bind fun task =>
        (read task record.2).map fun result => (task.toNat, result)
    else none)

/-- `raw_current_task_closure_result`. -/
def rawCurrentTaskClosureResult (s : StateObject) (task : UInt32) :
    Option CurrentTaskClosureRecord :=
  ((objectEntries (s .currentTaskClosureRecords)).get? (taskScopeKey task)).bind
    (currentTaskClosureRecordFromPayload task)

/-- `current_task_closure_results_from_history`. -/
def currentTaskClosureResultsFromHistory (s : StateObject) :
    OrderedMap Nat CurrentTaskClosureRecord :=
  currentByTask currentTaskClosureRecordFromPayload (objectEntries (s .taskClosureRecordHistory))

/-- `current_task_closure_result`. -/
def currentTaskClosureResult (s : StateObject) (task : UInt32) : Option CurrentTaskClosureRecord :=
  ((currentTaskClosureResultsFromHistory s).get? task.toNat).or (rawCurrentTaskClosureResult s task)

/-- `task_scope_key_task_number`. -/
def taskScopeKeyTaskNumber (scopeKey : String) : Option UInt32 :=
  (stripPrefix "task-".toList scopeKey.toList).bind fun raw =>
    if raw = [] || !raw.all Char.isDigit then none else parseU32 raw

/-- `raw_current_task_closure_results`. -/
def rawCurrentTaskClosureResults (s : StateObject) : OrderedMap Nat CurrentTaskClosureRecord :=
  .ofList ((objectEntries (s .currentTaskClosureRecords)).entries.filterMap fun record =>
    (taskScopeKeyTaskNumber record.1).bind fun task =>
      (rawCurrentTaskClosureResult s task).map fun result => (result.task.toNat, result))

/-- `current_task_closure_results`. -/
def currentTaskClosureResults (s : StateObject) : OrderedMap Nat CurrentTaskClosureRecord :=
  (currentTaskClosureResultsFromHistory s).entries.foldl
    (fun results record => results.insert record.1 record.2) (rawCurrentTaskClosureResults s)

/-- `task_closure_history_records`. -/
def taskClosureHistoryRecords (s : StateObject) : List CurrentTaskClosureRecord :=
  (objectEntries (s .taskClosureRecordHistory)).entries.filterMap fun record =>
    (jsonU32 (record.2.get? "task")).bind fun task =>
      currentTaskClosureRecordFromPayload task record.2

/-- `task_closure_negative_result`. -/
def taskClosureNegativeResult (s : StateObject) (task : UInt32) :
    Option TaskClosureNegativeResult :=
  ((currentByTask (fun _ => taskClosureNegativeResultFromPayload)
    (objectEntries (s .taskClosureNegativeResultHistory))).get? task.toNat).or
    (((objectEntries (s .taskClosureNegativeResultRecords)).get? (taskScopeKey task)).bind
      taskClosureNegativeResultFromPayload)

/-- `execution_run_id_opt`. -/
def executionRunIdOpt (s : StateObject) : Option String :=
  (jsonString (jsonMember (s .runIdentity) "execution_run_id")).or (jsonString (s .executionRunId))

/-- `superseded_task_closure_ids`. -/
def supersededTaskClosureIds (s : StateObject) : List String :=
  stringArray (s .supersededTaskClosureIds)

/-- `superseded_branch_closure_ids`. -/
def supersededBranchClosureIds (s : StateObject) : List String :=
  stringArray (s .supersededBranchClosureIds)

/-- `closure_history_snapshot`. -/
def closureHistorySnapshot (s : StateObject) : ClosureHistorySnapshot where
  taskClosureRecordHistory := objectEntries (s .taskClosureRecordHistory)
  branchClosureRecords := objectEntries (s .branchClosureRecords)
  releaseReadinessRecordHistory := objectEntries (s .releaseReadinessRecordHistory)
  finalReviewRecordHistory := objectEntries (s .finalReviewRecordHistory)
  browserQaRecordHistory := objectEntries (s .browserQaRecordHistory)
  currentBranchClosureId := jsonString (s .currentBranchClosureId)
  currentReleaseReadinessRecordId := jsonString (s .currentReleaseReadinessRecordId)
  currentFinalReviewRecordId := jsonString (s .currentFinalReviewRecordId)
  currentQaRecordId := jsonString (s .currentQaRecordId)
  supersededTaskClosureIds := supersededTaskClosureIds s
  supersededBranchClosureIds := supersededBranchClosureIds s

/-- `AuthoritativeClosureGraph::from_state`. -/
def AuthoritativeClosureGraph.fromState (s : StateObject) (signals : ClosureGraphSignals) :
    AuthoritativeClosureGraph :=
  fromSnapshot (closureHistorySnapshot s) signals

/-! ### Taking closures back -/

/-- Drops current records by their keys, and marks those of some ids in the history. -/
def takeBackTaskClosures (scopeKeys closureIds : List String) (status : String) (s : StateObject) :
    Except JsonFailure StateObject := do
  let records ← recordsMut .currentTaskClosureRecords s
  let s := s.set .currentTaskClosureRecords (.obj (scopeKeys.foldl OrderedMap.erase records))
  if closureIds = [] then .ok s
  else
    let history ← recordsMut .taskClosureRecordHistory s
    .ok (s.set .taskClosureRecordHistory (.obj (closureIds.foldl
      (fun history closureId => markRecordStatus history closureId status) history)))

/-- The id of the entry under a key of the current records. -/
def rawClosureRecordId (s : StateObject) (scopeKey : String) : Option String :=
  ((objectEntries (s .currentTaskClosureRecords)).get? scopeKey).bind fun payload =>
    jsonString (payload.get? "closure_record_id")

/-- `remove_current_task_closure_results_with_record_status`. -/
def removeCurrentTaskClosureResultsWithRecordStatus (tasks : List UInt32) (status : String)
    (s : StateObject) : Except JsonFailure StateObject :=
  takeBackTaskClosures (tasks.map taskScopeKey)
    (tasks.filterMap fun task => (rawClosureRecordId s (taskScopeKey task)).or
      ((currentTaskClosureResult s task).map CurrentTaskClosureRecord.closureRecordId)) status s

/-- `remove_current_task_closure_results_with_record_status_by_scope_keys`. -/
def removeCurrentTaskClosureResultsWithRecordStatusByScopeKeys (scopeKeys : List String)
    (status : String) (s : StateObject) : Except JsonFailure StateObject :=
  if scopeKeys = [] then .ok s
  else takeBackTaskClosures scopeKeys (scopeKeys.filterMap (rawClosureRecordId s)) status s

/-- `remove_current_task_closure_results`. -/
def removeCurrentTaskClosureResults (tasks : List UInt32) :
    StateObject → Except JsonFailure StateObject :=
  removeCurrentTaskClosureResultsWithRecordStatus tasks "superseded"

/-- `clear_current_task_closure_results_for_execution_reentry`. -/
def clearCurrentTaskClosureResultsForExecutionReentry (tasks : List UInt32) :
    StateObject → Except JsonFailure StateObject :=
  removeCurrentTaskClosureResultsWithRecordStatus tasks "stale_unreviewed"

/-- `clear_current_task_closure_results_for_structural_repair`. -/
def clearCurrentTaskClosureResultsForStructuralRepair (tasks : List UInt32) :
    StateObject → Except JsonFailure StateObject :=
  removeCurrentTaskClosureResultsWithRecordStatus tasks "historical"

/-- `clear_current_task_closure_results_for_structural_repair_scope_keys`. -/
def clearCurrentTaskClosureResultsForStructuralRepairScopeKeys (scopeKeys : List String) :
    StateObject → Except JsonFailure StateObject :=
  removeCurrentTaskClosureResultsWithRecordStatusByScopeKeys scopeKeys "historical"

/-- `clear_task_closure_negative_result`. -/
def clearTaskClosureNegativeResult (task : UInt32) (s : StateObject) :
    Except JsonFailure StateObject := do
  let negativeResult := taskClosureNegativeResult s task
  let records ← recordsMut .taskClosureNegativeResultRecords s
  let s := s.set .taskClosureNegativeResultRecords (.obj (records.erase (taskScopeKey task)))
  markPrevious .taskClosureNegativeResultHistory
    (negativeResult.map fun result => taskScopeKey task ++ ":" ++ result.dispatchId) "historical" s

/-! ### Recording -/

/-- `append_superseded_task_closure_ids`. -/
def appendSupersededTaskClosureIds (closureIds : List String) (s : StateObject) :
    Except JsonFailure StateObject :=
  appendUniqueStringArray .supersededTaskClosureIds closureIds s

/-- A number or null. -/
def optionU32 (v : Option UInt32) : Json := (v.map fun value => Json.u64 value.toNat).getD .null

/-- The members of a record of the run that the state identifies. -/
def taskClosureMembers (r : TaskClosureResultRecord) (runIdentity : Option Json) (sequence : Nat) :
    List (String × Json) :=
  [("task", .u64 r.task.toNat),
   ("record_id", .str r.closureRecordId),
   ("record_sequence", .u64 sequence),
   ("record_status", .str "current"),
   ("closure_status", .str "current"),
   ("source_plan_path", optionStr (jsonString (jsonMember runIdentity "source_plan_path"))),
   ("source_plan_revision", optionU32 (jsonU32 (jsonMember runIdentity "source_plan_revision"))),
   ("execution_run_id", optionStr ((nonBlank r.executionRunId).or
     (jsonString (jsonMember runIdentity "execution_run_id")))),
   ("dispatch_id", .str r.dispatchId),
   ("closure_record_id", .str r.closureRecordId),
   ("reviewed_state_id", .str r.reviewedStateId),
   ("contract_identity", .str r.contractIdentity),
   ("effective_reviewed_surface_paths", strArr r.effectiveReviewedSurfacePaths),
   ("review_result", .str r.reviewResult),
   ("review_summary_hash", .str r.reviewSummaryHash),
   ("verification_result", .str r.verificationResult),
   ("verification_summary_hash", .str r.verificationSummaryHash)]

def taskClosurePayload (r : TaskClosureResultRecord) (runIdentity : Option Json)
    (sequence : Nat) : Object :=
  insertPresent (OrderedMap.ofList (taskClosureMembers r runIdentity sequence))
    "semantic_reviewed_state_id" r.semanticReviewedStateId

/-- `record_task_closure_result`. -/
def recordTaskClosureResult (r : TaskClosureResultRecord) (s : StateObject) :
    Except JsonFailure StateObject := do
  let payload : Json := .obj (taskClosurePayload r (s .runIdentity)
    ((objectEntries (s .taskClosureRecordHistory)).entries.length + 1))
  let records ← recordsMut .currentTaskClosureRecords s
  let s := s.set .currentTaskClosureRecords (.obj (records.insert (taskScopeKey r.task) payload))
  let history ← recordsMut .taskClosureRecordHistory s
  .ok (s.set .taskClosureRecordHistory (.obj (history.insert r.closureRecordId payload)))

/-- `current_task_closure_record_id`, of the completion lineage of the task. -/
def currentTaskClosureRecordId (sha : Sha256Hex) (planRel : String) (taskNumber : UInt32)
    (currentLineage : String) : String :=
  deterministicRecordId sha "task-closure" [planRel, taskNumber.toNat.repr, currentLineage]

/-- `record_current_task_closure`, up to its postconditions and the persist. -/
def recordCurrentTaskClosure (r : TaskClosureResultRecord) (supersededTasks : List UInt32)
    (supersededIds : List String) (s : StateObject) : Except JsonFailure StateObject := do
  let s ← removeCurrentTaskClosureResults supersededTasks s
  let s ← clearTaskClosureNegativeResult r.task s
  let s ← appendSupersededTaskClosureIds supersededIds s
  recordTaskClosureResult r s

/-! ### What a closure supersedes -/

/-- The plan that a command runs for. -/
structure ActivePlan where
  planRel : String
  planRevision : UInt32

/-- `normalized_effective_task_surface_paths`. -/
def normalizedEffectiveTaskSurfacePaths (paths : List String) : List (List Char) :=
  (paths.filter fun path => path ≠ AuthoritativeClosureGraph.noRepoFilesMarker).filterMap
    fun path => normalizeRepoRelativePath path.toList

def taskSurfacePathsOverlap (left right : List String) : Bool :=
  (normalizedEffectiveTaskSurfacePaths left).any fun path =>
    (normalizedEffectiveTaskSurfacePaths right).contains path

/-- `task_closure_record_matches_active_plan_and_runtime_scope`. -/
def taskClosureRecordMatchesActivePlanAndRuntimeScope (plan : ActivePlan) (s : StateObject)
    (record : CurrentTaskClosureRecord) : Bool :=
  record.sourcePlanPath = some plan.planRel && record.sourcePlanRevision = some plan.planRevision &&
    match executionRunIdOpt s with
    | some activeRunId => record.executionRunId = some activeRunId
    | none => record.executionRunId.all fun runId => trim runId = ""

def supersededTaskClosureRecords (plan : ActivePlan) (s : StateObject) (taskNumber : UInt32)
    (closureRecordId : String) (effectiveReviewedSurfacePaths : List String) :
    List CurrentTaskClosureRecord :=
  (taskClosureHistoryRecords s).filter fun record => record.closureRecordId ≠ closureRecordId &&
    taskClosureRecordMatchesActivePlanAndRuntimeScope plan s record &&
    (record.task = taskNumber ||
      taskSurfacePathsOverlap record.effectiveReviewedSurfacePaths effectiveReviewedSurfacePaths)

/-- What `close_current_task` records of a task that passes. -/
def closeCurrentTask (plan : ActivePlan) (r : TaskClosureResultRecord) (s : StateObject) :
    Except JsonFailure StateObject :=
  let superseded := supersededTaskClosureRecords plan s r.task r.closureRecordId
    r.effectiveReviewedSurfacePaths
  recordCurrentTaskClosure r (superseded.map CurrentTaskClosureRecord.task)
    (superseded.map CurrentTaskClosureRecord.closureRecordId) s

end FeatureForge
