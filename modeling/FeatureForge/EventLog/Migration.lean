import FeatureForge.EventLog.Chain
import FeatureForge.EventLog.Delta
import Mathlib.Data.List.Sort

/-!
# Migrating a legacy state

A branch whose state was kept as one JSON object gets its event log by replay:
`migration_replay_events_from_legacy_state` makes an event of every record, step and
group of fields of the legacy state, in the order of the records' sequence numbers.
The events are staged behind a `migration_imported` event, reduced, and compared with
the legacy state by `migration_parity_projection` and by a check that no record has
been left out; a migration that does not pass is not published.
-/

namespace FeatureForge

/-- `collect_authoritative_fields`. -/
def collectAuthoritativeFields (state : StateObject) (fields : List Field) :
    AuthoritativeFactBuilder :=
  .collect fields state

/-! ### Facts about one record -/

def singleRecordDelta (entryKey : String) (entry : Json) : Json :=
  .obj (OrderedMap.empty.insert entryKey entry)

def migrationRecordEntryFields (f : Field) (entryKey : String) (entry : Json) :
    AuthoritativeFactBuilder :=
  .ofGet _ fun g => if g = f then some (singleRecordDelta entryKey entry) else none

/-- `copy_present_fields`. -/
def copyPresentFields (state : StateObject) (facts : AuthoritativeFactBuilder)
    (fields : List Field) : AuthoritativeFactBuilder :=
  .ofGet _ fun f => if f ∈ fields then (state f).or (facts.get f) else facts.get f

/-- The entry's own id is the current one. -/
def isCurrentEntry (state : StateObject) (current : Field) (entryId : Option String) : Bool :=
  match entryId, jsonString (state current) with
  | some entryId, some currentId => entryId == currentId
  | _, _ => false

/-- The facts of a record, with the current bindings where it is the current one. -/
def migrationMilestoneEntryFields (history current : Field) (bindings : List Field)
    (state : StateObject) (entryKey : String) (entry : Json) (entryId : Option String) :
    AuthoritativeFactBuilder :=
  let facts := migrationRecordEntryFields history entryKey entry
  if isCurrentEntry state current entryId then copyPresentFields state facts bindings else facts

def migrationBranchClosureEntryFields :=
  migrationMilestoneEntryFields .branchClosureRecords .currentBranchClosureId
    [.currentBranchClosureId, .currentBranchClosureReviewedStateId,
     .currentBranchClosureContractIdentity]

def migrationReleaseReadinessEntryFields :=
  migrationMilestoneEntryFields .releaseReadinessRecordHistory .currentReleaseReadinessRecordId
    [.currentReleaseReadinessRecordId, .currentReleaseReadinessResult,
     .currentReleaseReadinessSummaryHash, .releaseDocsState, .lastReleaseDocsArtifactFingerprint]

def migrationFinalReviewEntryFields :=
  migrationMilestoneEntryFields .finalReviewRecordHistory .currentFinalReviewRecordId
    [.currentFinalReviewBranchClosureId, .currentFinalReviewDispatchId,
     .currentFinalReviewReviewerSource, .currentFinalReviewReviewerId, .currentFinalReviewResult,
     .currentFinalReviewSummaryHash, .currentFinalReviewRecordId, .finalReviewState,
     .lastFinalReviewArtifactFingerprint]

def migrationQaEntryFields :=
  migrationMilestoneEntryFields .browserQaRecordHistory .currentQaRecordId
    [.currentQaBranchClosureId, .currentQaResult, .currentQaSummaryHash, .currentQaRecordId,
     .browserQaState, .lastBrowserQaArtifactFingerprint]

/-! ### Facts about the current bindings -/

def migrationStepStateFields (state : StateObject) : AuthoritativeFactBuilder :=
  collectAuthoritativeFields state stepEventFields

def migrationRunMetadataStateFields (state : StateObject) : AuthoritativeFactBuilder :=
  collectAuthoritativeFields state runMetadataFields

def migrationBranchClosureCurrentFields (state : StateObject) : AuthoritativeFactBuilder :=
  collectAuthoritativeFields state
    [.currentBranchClosureId, .currentBranchClosureReviewedStateId,
     .currentBranchClosureContractIdentity, .harnessPhase]

def migrationReleaseReadinessCurrentFields (state : StateObject) : AuthoritativeFactBuilder :=
  collectAuthoritativeFields state
    [.currentReleaseReadinessRecordId, .currentReleaseReadinessResult,
     .currentReleaseReadinessSummaryHash, .releaseDocsState, .lastReleaseDocsArtifactFingerprint,
     .harnessPhase]

def migrationFinalReviewCurrentFields (state : StateObject) : AuthoritativeFactBuilder :=
  collectAuthoritativeFields state
    [.currentFinalReviewBranchClosureId, .currentFinalReviewDispatchId,
     .currentFinalReviewReviewerSource, .currentFinalReviewReviewerId, .currentFinalReviewResult,
     .currentFinalReviewSummaryHash, .currentFinalReviewRecordId, .finalReviewState,
     .lastFinalReviewArtifactFingerprint, .harnessPhase]

def migrationQaCurrentFields (state : StateObject) : AuthoritativeFactBuilder :=
  collectAuthoritativeFields state
    [.currentQaBranchClosureId, .currentQaResult, .currentQaSummaryHash, .currentQaRecordId,
     .browserQaState, .lastBrowserQaArtifactFingerprint, .harnessPhase]

def migrationDispatchFields : List Field :=
  [.currentTaskReviewDispatchId, .currentFinalReviewDispatchId, .taskClosureNegativeResultRecords,
   .taskClosureNegativeResultHistory, .strategyReviewDispatchLineage,
   .strategyReviewDispatchLineageHistory, .finalReviewDispatchLineage,
   .finalReviewDispatchLineageHistory, .harnessPhase]

def migrationDispatchStateFields (state : StateObject) : AuthoritativeFactBuilder :=
  collectAuthoritativeFields state migrationDispatchFields

def migrationHandoffStateFields (state : StateObject) : AuthoritativeFactBuilder :=
  collectAuthoritativeFields state handoffFields

def migrationRepairFields : List Field :=
  [.reviewStateRepairFollowUpRecord, .reviewStateRepairFollowUp, .reviewStateRepairFollowUpTask,
   .reviewStateRepairFollowUpStep, .reviewStateRepairFollowUpClosureRecordId,
   .explicitReopenRepairTargets, .harnessPhase, .currentOpenStepState, .currentTaskClosureRecords,
   .taskClosureRecordHistory, .taskClosureNegativeResultRecords, .taskClosureNegativeResultHistory,
   .supersededTaskClosureIds, .currentBranchClosureId, .currentBranchClosureReviewedStateId,
   .currentBranchClosureContractIdentity, .branchClosureRecords, .supersededBranchClosureIds,
   .releaseReadinessRecordHistory, .currentReleaseReadinessRecordId, .currentReleaseReadinessResult,
   .currentReleaseReadinessSummaryHash, .releaseDocsState, .lastReleaseDocsArtifactFingerprint,
   .finalReviewRecordHistory, .currentFinalReviewBranchClosureId, .currentFinalReviewDispatchId,
   .currentFinalReviewReviewerSource, .currentFinalReviewReviewerId, .currentFinalReviewResult,
   .currentFinalReviewSummaryHash, .currentFinalReviewRecordId, .finalReviewState,
   .lastFinalReviewArtifactFingerprint, .browserQaRecordHistory, .currentQaBranchClosureId,
   .currentQaResult, .currentQaSummaryHash, .currentQaRecordId, .browserQaState,
   .lastBrowserQaArtifactFingerprint]

def migrationRepairStateFields (state : StateObject) : AuthoritativeFactBuilder :=
  collectAuthoritativeFields state migrationRepairFields

def migrationStrategyStateFields (state : StateObject) : AuthoritativeFactBuilder :=
  collectAuthoritativeFields state strategyEventFields

/-! ### Completed steps -/

def legacyCompletedStepFromKey (key : String) : Option (UInt32 × UInt32) := do
  let (task, step) ← splitOnce ['.'] key.toList
  let task ← parseUnsigned (2 ^ 32) (trimChars task)
  let step ← parseUnsigned (2 ^ 32) (trimChars step)
  some (UInt32.ofNat task, UInt32.ofNat step)

def legacyCompletedStepFromEntry (key : String) (entry : Json) : Option (UInt32 × UInt32) :=
  match jsonU32 (entry.get? "task"), jsonU32 (entry.get? "step") with
  | some task, some step => some (task, step)
  | _, _ => legacyCompletedStepFromKey key

def stepLe (a b : UInt32 × UInt32) : Bool := a.1 < b.1 || (a.1 = b.1 && a.2 ≤ b.2)

/-- `legacy_completed_step_events`, in order. -/
def legacyCompletedStepEvents (state : StateObject) : List (UInt32 × UInt32) :=
  (((objectEntries (state .eventCompletedSteps)).entries.filterMap fun e =>
    legacyCompletedStepFromEntry e.1 e.2).insertionSort fun a b => stepLe a b).dedup

/-! ### Replay -/

def recordSequenceOf (entry : Json) : Nat := ((entry.get? "record_sequence").bind Json.asU64).getD 0

/-- `record_id_from_migration_entry`. -/
def recordIdFromMigrationEntry (entryKey : String) (entry : Json) : Option String :=
  (jsonString ((entry.get? "record_id").or ((entry.get? "closure_record_id").or
    (entry.get? "branch_closure_id")))).or (nonBlank (some entryKey))

def recordStatusFromMigrationEntry (entry : Json) (defaultRecordStatus : Option String) :
    Option String :=
  (jsonString (entry.get? "record_status")).or defaultRecordStatus

/-- A closure that is current in the history only is not to become current by replay. -/
def promotesHistoricalCurrent (f : Field) (recordFamily : String) (recordStatus : Option String) :
    Bool :=
  f == .taskClosureRecordHistory && recordFamily == "task_closure_record" &&
    recordStatus == some "current"

/-- `collect_history_replay_events`, each event with its sequence number. -/
def collectHistoryReplayEvents (state : StateObject) (f : Field) (recordFamily : String)
    (defaultRecordStatus : Option String) (makeEvent : String → Json → ExecutionEvent) :
    List (Nat × ExecutionEvent) :=
  (objectEntries (state f)).entries.flatMap fun (entryKey, entry) =>
    let sequence := recordSequenceOf entry
    let recordStatus := recordStatusFromMigrationEntry entry defaultRecordStatus
    (sequence, makeEvent entryKey entry) ::
      if promotesHistoricalCurrent f recordFamily recordStatus then []
      else [(sequence, .recordStatusTransition recordFamily
        (recordIdFromMigrationEntry entryKey entry) recordStatus (some (UInt64.ofNat sequence)))]

/-- The id a closure entry itself gives. -/
def closureIdOfEntry (entry : Json) : Option String :=
  jsonString ((entry.get? "closure_record_id").or (entry.get? "record_id"))

def taskClosureReplay (f : Field) (entryKey : String) (entry : Json) : ExecutionEvent :=
  .taskClosureRecorded (jsonU32 (entry.get? "task")) (closureIdOfEntry entry)
    ((migrationRecordEntryFields f entryKey entry).into _)

def branchClosureReplay (state : StateObject) (entryKey : String) (entry : Json) :
    ExecutionEvent :=
  let id := jsonString (entry.get? "branch_closure_id")
  .branchClosureRecorded id ((migrationBranchClosureEntryFields state entryKey entry id).into _)

def releaseReadinessReplay (state : StateObject) (entryKey : String) (entry : Json) :
    ExecutionEvent :=
  let id := jsonString (entry.get? "record_id")
  .releaseReadinessRecorded id
    ((migrationReleaseReadinessEntryFields state entryKey entry id).into _)

def finalReviewReplay (state : StateObject) (entryKey : String) (entry : Json) :
    ExecutionEvent :=
  let id := jsonString (entry.get? "record_id")
  .finalReviewRecorded id (jsonString (entry.get? "dispatch_id"))
    ((migrationFinalReviewEntryFields state entryKey entry id).into _)

def qaReplay (state : StateObject) (entryKey : String) (entry : Json) : ExecutionEvent :=
  let id := jsonString (entry.get? "record_id")
  .qaRecorded id ((migrationQaEntryFields state entryKey entry id).into _)

def recordHistoryEmpty (state : StateObject) (f : Field) : Bool := (objectEntries (state f)).isEmpty

def legacyCurrentScalarFieldsPresent (state : StateObject) (fields : List Field) : Bool :=
  fields.any fun f => (state f).any fun v => !v.isNull

def scalarCurrentNotReplayedFromHistory (state : StateObject) (history current : Field) : Bool :=
  match jsonString (state current) with
  | none => true
  | some currentId =>
    !(objectEntries (state history)).entries.any fun e =>
      recordEntryMatchesId e.1 e.2 currentId &&
        ((e.2.get? "record_status").bind Json.asStr).any fun status => trim status == "current"

def openStepReplay (state : StateObject) : List ExecutionEvent :=
  let openStep := state .currentOpenStepState
  let task := jsonU32 (jsonMember openStep "task")
  let step := jsonU32 (jsonMember openStep "step")
  let noteState := jsonString (jsonMember openStep "note_state")
  let facts := (migrationStepStateFields state).into stepSlots
  if task.isSome || step.isSome then
    [if noteState = some "Active" then .begin task step facts
      else if noteState = some "Completed" then .complete task step facts
      else if noteState = some "Interrupted" then .reopen task step facts
      else .note task step noteState facts]
  else []

/-- The completed steps, less the open step where it is noted as completed. -/
def completedStepReplay (state : StateObject) : List ExecutionEvent :=
  let openStep := state .currentOpenStepState
  let isOpen := fun (s : UInt32 × UInt32) =>
    some s.1 = jsonU32 (jsonMember openStep "task") &&
      some s.2 = jsonU32 (jsonMember openStep "step") &&
      jsonString (jsonMember openStep "note_state") = some "Completed"
  ((legacyCompletedStepEvents state).filter fun s => !isOpen s).map fun s =>
    .complete (some s.1) (some s.2) (.ofGet _ fun _ => none)

def currentBranchClosureReplay (state : StateObject) : List ExecutionEvent :=
  if recordHistoryEmpty state .branchClosureRecords &&
      (jsonString (state .currentBranchClosureId)).isSome then
    [.branchClosureRecorded (jsonString (state .currentBranchClosureId))
      ((migrationBranchClosureCurrentFields state).into _)]
  else []

def currentReleaseReadinessReplay (state : StateObject) : List ExecutionEvent :=
  if legacyCurrentScalarFieldsPresent state
      [.currentReleaseReadinessRecordId, .currentReleaseReadinessResult,
       .currentReleaseReadinessSummaryHash] &&
      scalarCurrentNotReplayedFromHistory state .releaseReadinessRecordHistory
        .currentReleaseReadinessRecordId then
    [.releaseReadinessRecorded (jsonString (state .currentReleaseReadinessRecordId))
      ((migrationReleaseReadinessCurrentFields state).into _)]
  else []

def currentFinalReviewReplay (state : StateObject) : List ExecutionEvent :=
  if legacyCurrentScalarFieldsPresent state
      [.currentFinalReviewBranchClosureId, .currentFinalReviewDispatchId,
       .currentFinalReviewReviewerSource, .currentFinalReviewReviewerId,
       .currentFinalReviewResult, .currentFinalReviewSummaryHash, .currentFinalReviewRecordId] &&
      scalarCurrentNotReplayedFromHistory state .finalReviewRecordHistory
        .currentFinalReviewRecordId then
    [.finalReviewRecorded (jsonString (state .currentFinalReviewRecordId))
      (jsonString (state .currentFinalReviewDispatchId))
      ((migrationFinalReviewCurrentFields state).into _)]
  else []

def currentQaReplay (state : StateObject) : List ExecutionEvent :=
  if legacyCurrentScalarFieldsPresent state
      [.currentQaBranchClosureId, .currentQaResult, .currentQaSummaryHash, .currentQaRecordId] &&
      scalarCurrentNotReplayedFromHistory state .browserQaRecordHistory .currentQaRecordId then
    [.qaRecorded (jsonString (state .currentQaRecordId)) ((migrationQaCurrentFields state).into _)]
  else []

/-- One event for a dispatch under each of the two ids, and one for all of its fields. -/
def dispatchReplay (state : StateObject) : List ExecutionEvent :=
  let facts := (migrationDispatchStateFields state).into dispatchSlots
  ((jsonString (state .currentTaskReviewDispatchId)).toList.map fun id =>
      ExecutionEvent.dispatchRecorded (some "task") (some id) facts) ++
    ((jsonString (state .currentFinalReviewDispatchId)).toList.map fun id =>
      ExecutionEvent.dispatchRecorded (some "final_review") (some id) facts) ++
    [.dispatchRecorded none none facts]

def handoffReplay (state : StateObject) : List ExecutionEvent :=
  if (jsonString (state .lastHandoffPath)).isSome ||
      (jsonString (state .lastHandoffFingerprint)).isSome || (state .handoffRequired).isSome then
    [.handoffRecorded ((migrationHandoffStateFields state).into _)]
  else []

def repairReplay (state : StateObject) : ExecutionEvent :=
  let facts := (migrationRepairStateFields state).into repairSlots
  match repairFollowUpRecordFromState state with
  | some record => .repairFollowUpSet (some record) facts
  | none => .repairFollowUpCleared facts

def strategyReplay (state : StateObject) : ExecutionEvent :=
  let kind := jsonString (state .strategyCheckpointKind)
  let fingerprint := jsonString (state .lastStrategyCheckpointFingerprint)
  let facts := (migrationStrategyStateFields state).into strategySlots
  if kind.isSome || fingerprint.isSome then .strategyCheckpointRecorded kind fingerprint facts
  else .strategyCheckpointCleared facts

/-- What stands behind the records. -/
def tailReplay (state : StateObject) : List ExecutionEvent :=
  dispatchReplay state ++ handoffReplay state ++ [repairReplay state, strategyReplay state]

def atZero (events : List ExecutionEvent) : List (Nat × ExecutionEvent) := events.map (0, ·)

/-- What stands behind the run metadata and the steps. -/
def recordReplay (state : StateObject) : List (Nat × ExecutionEvent) :=
  collectHistoryReplayEvents state .currentTaskClosureRecords "task_closure_record"
    (some "current") (taskClosureReplay .currentTaskClosureRecords) ++
  collectHistoryReplayEvents state .taskClosureRecordHistory "task_closure_record" none
    (taskClosureReplay .taskClosureRecordHistory) ++
  collectHistoryReplayEvents state .branchClosureRecords "branch_closure_record" none
    (branchClosureReplay state) ++
  atZero (currentBranchClosureReplay state) ++
  collectHistoryReplayEvents state .releaseReadinessRecordHistory "release_readiness_record" none
    (releaseReadinessReplay state) ++
  atZero (currentReleaseReadinessReplay state) ++
  collectHistoryReplayEvents state .finalReviewRecordHistory "final_review_record" none
    (finalReviewReplay state) ++
  atZero (currentFinalReviewReplay state) ++
  collectHistoryReplayEvents state .browserQaRecordHistory "browser_qa_record" none
    (qaReplay state) ++
  atZero (currentQaReplay state) ++
  atZero (tailReplay state)

/-- All events in the order in which they are made, which gives them their ordinals. -/
def orderedReplay (state : StateObject) : List (Nat × ExecutionEvent) :=
  (0, .preflightBootstrapRecorded ((migrationRunMetadataStateFields state).into _)) ::
    (atZero (openStepReplay state ++ completedStepReplay state) ++ recordReplay state)

/-- By sequence number, then by ordinal. -/
def replayLe (a b : (Nat × ExecutionEvent) × Nat) : Prop :=
  a.1.1 < b.1.1 ∨ a.1.1 = b.1.1 ∧ a.2 ≤ b.2

instance (a b : (Nat × ExecutionEvent) × Nat) : Decidable (replayLe a b) :=
  inferInstanceAs (Decidable (_ ∨ _))

/-- `migration_replay_events_from_legacy_state`. -/
def migrationReplayEventsFromLegacyState (state : StateObject) : List ExecutionEvent :=
  ((orderedReplay state).zipIdx.insertionSort replayLe).map fun e => e.1.2

/-! ### Parity -/

def migrationParityKeys : List Field :=
  [.currentTaskClosureRecords, .taskClosureRecordHistory, .taskClosureNegativeResultRecords,
   .eventCompletedSteps, .executionEvidenceAttempts, .currentBranchClosureId,
   .currentBranchClosureReviewedStateId, .currentBranchClosureContractIdentity,
   .branchClosureRecords, .supersededBranchClosureIds, .currentReleaseReadinessRecordId,
   .currentReleaseReadinessResult, .releaseReadinessRecordHistory, .currentFinalReviewRecordId,
   .currentFinalReviewResult, .currentFinalReviewBranchClosureId, .finalReviewRecordHistory,
   .currentQaRecordId, .currentQaResult, .currentQaBranchClosureId, .browserQaRecordHistory,
   .currentTaskReviewDispatchId, .currentFinalReviewDispatchId, .strategyReviewDispatchLineage,
   .strategyReviewDispatchLineageHistory, .finalReviewDispatchLineage,
   .finalReviewDispatchLineageHistory, .reviewStateRepairFollowUpRecord,
   .reviewStateRepairFollowUp, .explicitReopenRepairTargets, .strategyCheckpoints, .strategyState,
   .strategyCheckpointKind, .lastStrategyCheckpointFingerprint, .strategyResetRequired,
   .strategyCycleBreakTask, .strategyCycleBreakStep, .strategyCycleBreakCheckpointFingerprint,
   .finishReviewGatePassBranchClosureId, .harnessPhase]

def migrationProjectionDefaultValue : Field → Json
  | .currentTaskClosureRecords => .obj .empty
  | .taskClosureRecordHistory => .obj .empty
  | .taskClosureNegativeResultRecords => .obj .empty
  | .taskClosureNegativeResultHistory => .obj .empty
  | .eventCompletedSteps => .obj .empty
  | .branchClosureRecords => .obj .empty
  | .releaseReadinessRecordHistory => .obj .empty
  | .finalReviewRecordHistory => .obj .empty
  | .browserQaRecordHistory => .obj .empty
  | .strategyReviewDispatchLineage => .obj .empty
  | .strategyReviewDispatchLineageHistory => .obj .empty
  | .finalReviewDispatchLineage => .obj .empty
  | .finalReviewDispatchLineageHistory => .obj .empty
  | .supersededTaskClosureIds => .arr []
  | .supersededBranchClosureIds => .arr []
  | .strategyCheckpoints => .arr []
  | .executionEvidenceAttempts => .arr []
  | .handoffRequired => .bool false
  | .strategyResetRequired => .bool false
  | _ => .null

/-- `normalize_event_completed_steps_projection`. -/
def normalizeEventCompletedStepsProjection (value : Json) : Json :=
  let steps := (objectEntries (some value)).entries.filterMap fun e =>
    legacyCompletedStepFromEntry e.1 e.2
  .obj (OrderedMap.ofList (steps.map fun s =>
    (completedStepKey s.1 s.2, completedStepEntry s.1 s.2)))

/-- One member of the projection. -/
def migrationParityValue (state : StateObject) (f : Field) : Json :=
  let value := ((state f).filter fun v => !v.isNull).getD (migrationProjectionDefaultValue f)
  if f = .eventCompletedSteps then normalizeEventCompletedStepsProjection value else value

/-- `migration_parity_projection`, the values under the keys in order. -/
def migrationParityProjection (state : StateObject) : List (Field × Json) :=
  migrationParityKeys.map fun f => (f, migrationParityValue state f)

/-! ### Coverage -/

structure RecordStatusTransitionExpectation where
  recordFamily : String
  recordId : Option String
  recordStatus : Option String
  recordSequence : Option UInt64
  deriving DecidableEq

structure TaskClosureReplayExpectation where
  task : Option UInt32
  closureRecordId : Option String
  deriving DecidableEq

def collectExpectedRecordStatusTransitions (state : StateObject) (f : Field)
    (recordFamily : String) (defaultRecordStatus : Option String) :
    List RecordStatusTransitionExpectation :=
  (objectEntries (state f)).entries.flatMap fun (entryKey, entry) =>
    let recordStatus := recordStatusFromMigrationEntry entry defaultRecordStatus
    if promotesHistoricalCurrent f recordFamily recordStatus then []
    else [{
      recordFamily, recordId := recordIdFromMigrationEntry entryKey entry, recordStatus,
      recordSequence := some (UInt64.ofNat (recordSequenceOf entry)) }]

def expectedRecordStatusTransitionsFromLegacy (state : StateObject) :
    List RecordStatusTransitionExpectation :=
  collectExpectedRecordStatusTransitions state .currentTaskClosureRecords "task_closure_record"
    (some "current") ++
  collectExpectedRecordStatusTransitions state .taskClosureRecordHistory "task_closure_record"
    none ++
  collectExpectedRecordStatusTransitions state .branchClosureRecords "branch_closure_record" none ++
  collectExpectedRecordStatusTransitions state .releaseReadinessRecordHistory
    "release_readiness_record" none ++
  collectExpectedRecordStatusTransitions state .finalReviewRecordHistory "final_review_record"
    none ++
  collectExpectedRecordStatusTransitions state .browserQaRecordHistory "browser_qa_record" none

def observedRecordStatusTransition : ExecutionEvent → Option RecordStatusTransitionExpectation
  | .recordStatusTransition recordFamily recordId recordStatus recordSequence =>
    some { recordFamily, recordId, recordStatus, recordSequence }
  | _ => none

def expectedCurrentTaskClosureReplay (state : StateObject) : List TaskClosureReplayExpectation :=
  (objectEntries (state .currentTaskClosureRecords)).entries.map fun (entryKey, entry) =>
    { task := jsonU32 (entry.get? "task"),
      closureRecordId := (closureIdOfEntry entry).or (nonBlank (some entryKey)) }

def observedTaskClosureReplay : ExecutionEvent → Option TaskClosureReplayExpectation
  | .taskClosureRecorded task closureRecordId _ => some { task, closureRecordId }
  | _ => none

def observedCompletedStepReplay : ExecutionEvent → Option (UInt32 × UInt32)
  | .complete (some task) (some step) _ => some (task, step)
  | _ => none

def blockedRuntimeBugStopReportGuidance : String :=
  "Stop and report this diagnostic; do not invent runtime mutations or reconstruct artifacts manually."

/-- The failure without the listing of what is missing or differs. -/
def blockedMigration (what : String) : JsonFailure where
  errorClass := .blockedRuntimeBug
  message := "blocked_runtime_bug: event-log migration " ++ what ++ " " ++
    blockedRuntimeBugStopReportGuidance

def validateMigrationReplayCoverage (legacy : StateObject) (events : List ExecutionEvent) :
    Except JsonFailure Unit :=
  if ¬ expectedRecordStatusTransitionsFromLegacy legacy ⊆
      events.filterMap observedRecordStatusTransition then
    .error (blockedMigration "replay omitted expected record-status transitions.")
  else if ¬ expectedCurrentTaskClosureReplay legacy ⊆
      events.filterMap observedTaskClosureReplay then
    .error (blockedMigration "replay omitted current task-closure events.")
  else if ¬ legacyCompletedStepEvents legacy ⊆ events.filterMap observedCompletedStepReplay then
    .error (blockedMigration "replay omitted completed-step events.")
  else .ok ()

/-- `validate_migration_parity`. -/
def validateMigrationParity (legacy : StateObject) (migrated : List ExecutionEventEnvelope) :
    Except JsonFailure Unit :=
  match reduceEventsToState migrated with
  | none => .error (blockedMigration "parity failed because reduced state is empty.")
  | some reduced =>
    if migrationParityProjection legacy ≠ migrationParityProjection reduced then
      .error (blockedMigration
        "parity mismatch for authoritative closure/dispatch/checkpoint fields.")
    else validateMigrationReplayCoverage legacy (migrated.map (·.payload))

/-! ### Staging -/

/-- What a migration reads besides the legacy state: the path of the backup it has
written, the plan it infers where the state names none, the branch and the clock. -/
structure MigrationInput where
  backupPath : String
  inferredPlanPath : Option String
  branchContext : BranchContext
  clock : Nat → String

def MigrationInput.metadata (i : MigrationInput) (legacy : StateObject) (command : String)
    (idx : Nat) : EventEnvelopeMetadata where
  command
  planPath := (jsonString (legacy .sourcePlanPath)).or i.inferredPlanPath
  planRevision := jsonU32 (legacy .sourcePlanRevision)
  executionRunId := (jsonString (jsonMember (legacy .runIdentity) "execution_run_id")).or
    (jsonString (legacy .executionRunId))
  branchContext := i.branchContext
  timestamp := i.clock idx

/-- The events of a log, each staged behind those before it. -/
def stageEvents (sha : Sha256Hex) (metadata : Nat → EventEnvelopeMetadata) :
    List ExecutionEventEnvelope → List ExecutionEvent → List ExecutionEventEnvelope
  | staged, [] => staged
  | staged, payload :: payloads =>
    stageEvents sha metadata
      (staged ++ [nextEventEnvelope sha staged (metadata staged.length) payload]) payloads

def stagedMigration (sha : Sha256Hex) (i : MigrationInput) (legacy : StateObject) :
    List ExecutionEventEnvelope :=
  let imported := [nextEventEnvelope sha []
    (i.metadata legacy "migrate_legacy_authoritative_state" 0) (.migrationImported i.backupPath)]
  stageEvents sha (i.metadata legacy "migrate_legacy_authoritative_state_replay") imported
    (migrationReplayEventsFromLegacyState legacy)

/-- `ensure_event_log_migrated_from_legacy_state_path` on a branch without events: the log
that is published. -/
def migrateLegacyState (sha : Sha256Hex) (i : MigrationInput) (legacy : StateObject) :
    Except JsonFailure (List ExecutionEventEnvelope) := do
  let staged := stagedMigration sha i legacy
  validateEventLog sha staged
  validateMigrationParity legacy staged
  .ok staged

end FeatureForge
