import FeatureForge.Routing.CommandTemplate

/-!
# The status of a plan's execution

The fields of the status that routes are read from and written to, and what the tokens of its
phase and of its state kind stand for.
-/

namespace FeatureForge

/-! ### Tokens -/

def detailBlockedRuntimeBug : String := "blocked_runtime_bug"

def detailBranchClosureRecordingRequiredForReleaseReadiness : String :=
  "branch_closure_recording_required_for_release_readiness"

def detailExecutionReentryRequired : String := "execution_reentry_required"

def detailFinalReviewDispatchRequired : String := "final_review_dispatch_required"

def detailFinalReviewRecordingReady : String := "final_review_recording_ready"

def detailFinishCompletionGateReady : String := "finish_completion_gate_ready"

def detailFinishReviewGateReady : String := "finish_review_gate_ready"

def detailPlanningReentryRequired : String := "planning_reentry_required"

def detailQaRecordingRequired : String := "qa_recording_required"

def detailReleaseBlockerResolutionRequired : String := "release_blocker_resolution_required"

def detailReleaseReadinessRecordingReady : String := "release_readiness_recording_ready"

def detailRuntimeReconcileRequired : String := "runtime_reconcile_required"

def detailTaskClosureRecordingReady : String := "task_closure_recording_ready"

def reviewStateStaleUnreviewed : String := "stale_unreviewed"

def reasonNegativeResultRequiresExecutionReentry : String :=
  "negative_result_requires_execution_reentry"

def reasonTaskClosureBaselineRepairCandidate : String := "task_closure_baseline_repair_candidate"

def nextActionRuntimeDiagnosticRequired : String := "runtime diagnostic required"

def nextActionCloseCurrentTask : String := "close current task"

/-! ### The status -/

structure PublicReviewStateTaskClosure where
  task : UInt32
  closureRecordId : String
  deriving DecidableEq

structure PublicRecordingContext where
  taskNumber : Option UInt32
  dispatchId : Option String
  branchClosureId : Option String
  deriving DecidableEq

structure PublicExecutionCommandContext where
  commandKind : String
  taskNumber : Option UInt32
  stepId : Option UInt32
  deriving DecidableEq

structure PublicRepairTarget where
  commandKind : String
  task : Option UInt32
  step : Option UInt32
  reasonCode : String
  sourceRecordId : Option String
  expiresWhenFingerprintChanges : Bool
  deriving DecidableEq

structure StatusBlockingRecord where
  code : String
  scopeType : String
  scopeKey : String
  recordType : String
  recordId : Option String
  reviewStateStatus : String
  requiredFollowUp : Option String
  message : String
  deriving DecidableEq

structure NextPublicAction where
  displayOnly : Bool
  command : String
  argsTemplate : Option String
  deriving DecidableEq

structure Blocker where
  category : String
  scopeType : String
  scopeKey : String
  recordId : Option String
  nextPublicAction : Option NextPublicAction
  details : String
  deriving DecidableEq

structure PlanExecutionStatus where
  phase : Option String
  phaseDetail : String
  stateKind : String
  reviewStateStatus : String
  nextAction : String
  currentTaskClosures : List PublicReviewStateTaskClosure
  staleUnreviewedClosures : List String
  recordingContext : Option PublicRecordingContext
  executionCommandContext : Option PublicExecutionCommandContext
  executionReentryTargetSource : Option String
  publicRepairTargets : List PublicRepairTarget
  blockingRecords : List StatusBlockingRecord
  externalWaitState : Option String
  reasonCodes : List String
  blockingReasonCodes : List String
  nextPublicAction : Option NextPublicAction
  blockers : List Blocker
  recommendedPublicCommand : Option PublicCommand
  recommendedPublicCommandArgv : Option (List String)
  recommendedPublicCommandTemplate : Option PublicCommandTemplate
  /-- the names of the inputs that the recommended command requires -/
  requiredInputs : List String
  recommendedCommand : Option String
  executionFingerprint : String
  activeTask : Option UInt32
  blockingTask : Option UInt32
  resumeTask : Option UInt32
  deriving DecidableEq

/-! ### State kinds -/

def stateKindActionablePublicCommand : String := "actionable_public_command"

def stateKindWaitingExternalInput : String := "waiting_external_input"

def stateKindTerminal : String := "terminal"

def stateKindIsActionablePublicCommand (stateKind : String) : Bool :=
  trim stateKind = stateKindActionablePublicCommand

def stateKindIsExternalWait (stateKind : String) : Bool :=
  trim stateKind = stateKindWaitingExternalInput

def stateKindIsTerminal (stateKind : String) : Bool := trim stateKind = stateKindTerminal

def stateKindIsBlockedRuntimeBug (stateKind : String) : Bool :=
  trim stateKind = detailBlockedRuntimeBug

def stateKindIsPlanningReentryRequired (stateKind : String) : Bool :=
  trim stateKind = detailPlanningReentryRequired

def stateKindIsRuntimeReconcileRequired (stateKind : String) : Bool :=
  trim stateKind = detailRuntimeReconcileRequired

def stateKindIsRuntimeDiagnostic (stateKind : String) : Bool :=
  trim stateKind ≠ "" && !stateKindIsActionablePublicCommand stateKind &&
    !stateKindIsExternalWait stateKind && !stateKindIsTerminal stateKind &&
    !stateKindIsPlanningReentryRequired stateKind

def stateKindOrPhaseIsRuntimeDiagnostic (stateKind phaseDetail : String) : Bool :=
  stateKindIsRuntimeDiagnostic stateKind || phaseDetail = detailBlockedRuntimeBug ||
    phaseDetail = detailRuntimeReconcileRequired

def stateKindBlocksLocalMutation (stateKind : String) : Bool :=
  stateKindIsExternalWait stateKind || stateKindIsTerminal stateKind ||
    stateKindIsPlanningReentryRequired stateKind || stateKindIsRuntimeDiagnostic stateKind

/-- `external_wait_state_is_external_wait`. -/
def externalWaitStateIsExternalWait (externalWaitState : Option String) : Bool :=
  externalWaitState.any fun state => trim state = "waiting_for_external_review_result"

/-- `diagnostic_next_action_for_route`. -/
def diagnosticNextActionForRoute (stateKind phaseDetail : String)
    (hasPublicInvocation hasRequiredInputs : Bool) : Option String :=
  if stateKindOrPhaseIsRuntimeDiagnostic stateKind phaseDetail && !hasPublicInvocation &&
      !hasRequiredInputs then
    some nextActionRuntimeDiagnosticRequired
  else none

/-! ### Late-stage modes -/

/-- `public_advance_late_stage_mode_for_phase_detail`. -/
def publicAdvanceLateStageModeForPhaseDetail (phaseDetail : String) :
    Option PublicAdvanceLateStageMode :=
  if phaseDetail = detailBranchClosureRecordingRequiredForReleaseReadiness then some .basic
  else if phaseDetail = detailReleaseReadinessRecordingReady ||
      phaseDetail = detailReleaseBlockerResolutionRequired then some .releaseReadiness
  else if phaseDetail = detailFinalReviewDispatchRequired then some .finalReviewDispatch
  else if phaseDetail = detailFinalReviewRecordingReady then some .finalReview
  else if phaseDetail = detailQaRecordingRequired then some .qa
  else if phaseDetail = detailFinishReviewGateReady then some .finishReview
  else if phaseDetail = detailFinishCompletionGateReady then some .finishCompletion
  else none

/-- `public_advance_late_stage_mode_for_routed_public_command`. -/
def publicAdvanceLateStageModeForRoutedPublicCommand (phaseDetail : String)
    (recommendedPublicCommand : Option PublicCommand) : Option PublicAdvanceLateStageMode :=
  (recommendedPublicCommand.bind PublicCommand.advanceLateStageMode).bind fun commandMode =>
    match publicAdvanceLateStageModeForPhaseDetail phaseDetail with
    | some phaseDetailMode => if phaseDetailMode ≠ commandMode then none else some commandMode
    | none => some commandMode

/-- `public_advance_late_stage_request_mode_matches_routed_public_command`. -/
def publicAdvanceLateStageRequestModeMatchesRoutedPublicCommand (phaseDetail : String)
    (recommendedPublicCommand : Option PublicCommand)
    (requestMode : Option PublicAdvanceLateStageMode) : Bool :=
  requestMode.any fun mode =>
    publicAdvanceLateStageModeForRoutedPublicCommand phaseDetail recommendedPublicCommand =
      some mode

end FeatureForge
