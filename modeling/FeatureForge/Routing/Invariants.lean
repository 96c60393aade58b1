import FeatureForge.Routing.Eligibility

/-!
# The invariants of the read surface

A status is checked before it is shown (`checkRuntimeStatusInvariants`), and one that violates an
invariant is converted: what it recommends is taken out, and it becomes a runtime bug or a
reconcile (`convertStatusToRuntimeReconcileOrBug`).  A converted status still calls for the marker
of a stale state without a target, if it did before, and the check does not look whether the
status is a runtime bug by then.
-/

namespace FeatureForge

/-! ### A stale state without a target -/

structure TargetlessStaleAuthority where
  hasAuthoritativeStaleTarget : Bool

/-- `push_reason_once` and `push_code_once`. -/
def pushCodeOnce (codes : List String) (code : String) : List String :=
  if code ∈ codes then codes else codes ++ [code]

namespace TargetlessStaleReconcile

def reasonCode : String := "stale_unreviewed_target_missing"

def missingAuthorityCode : String := "missing_authoritative_stale_target"

def detail : String :=
  "Review state is stale_unreviewed but no authoritative stale task, branch, or milestone target " ++
    "is bound."

/-- `status_has_concrete_public_stale_target`. -/
def hasConcretePublicStaleTarget (status : PlanExecutionStatus) : Bool :=
  status.blockingTask.isSome || (status.reasonCodes ++ status.blockingReasonCodes).contains
    reasonTaskClosureBaselineRepairCandidate

/-- `status_needs_marker_with_authority`. -/
def statusNeedsMarker (status : PlanExecutionStatus) (authority : TargetlessStaleAuthority) : Bool :=
  !status.reasonCodes.contains reasonNegativeResultRequiresExecutionReentry &&
    status.reviewStateStatus = reviewStateStaleUnreviewed &&
    status.staleUnreviewedClosures.isEmpty && !hasConcretePublicStaleTarget status &&
    !authority.hasAuthoritativeStaleTarget

def statusHasDiagnostic (status : PlanExecutionStatus) : Bool :=
  status.phaseDetail = detailRuntimeReconcileRequired &&
    status.reviewStateStatus = reviewStateStaleUnreviewed &&
    status.staleUnreviewedClosures.isEmpty && !hasConcretePublicStaleTarget status &&
    status.reasonCodes.contains reasonCode &&
    status.blockingReasonCodes.contains missingAuthorityCode

def ensureStatusDiagnostic (status : PlanExecutionStatus) : PlanExecutionStatus :=
  { status with
    reasonCodes := pushCodeOnce status.reasonCodes reasonCode
    blockingReasonCodes := pushCodeOnce (pushCodeOnce status.blockingReasonCodes reasonCode)
      missingAuthorityCode }

def statusBlockingRecord (status : PlanExecutionStatus) : Option StatusBlockingRecord :=
  if statusHasDiagnostic status then
    some
      { code := reasonCode
        scopeType := "runtime"
        scopeKey := "targetless_stale_unreviewed"
        recordType := "review_state"
        recordId := none
        reviewStateStatus := status.reviewStateStatus
        requiredFollowUp := none
        message := detail }
  else none

end TargetlessStaleReconcile

/-! ### Checks -/

inductive RuntimeInvariantSeverity
  | runtimeBug
  | reconcileRequired
  deriving DecidableEq

structure RuntimeInvariantViolation where
  code : String
  severity : RuntimeInvariantSeverity

inductive InvariantEnforcementMode
  | readSurface
  | postMutation
  deriving DecidableEq

namespace PlanExecutionStatus

variable (status : PlanExecutionStatus)

/-- The closures of tasks that are current and stale. -/
def overlappingIds : List String :=
  status.staleUnreviewedClosures.filter fun closureId =>
    (status.currentTaskClosures.map PublicReviewStateTaskClosure.closureRecordId).contains closureId

/-- `execution_reentry_has_concrete_target`. -/
def executionReentryHasConcreteTarget : Bool :=
  status.executionCommandContext.any fun context =>
    context.taskNumber.isSome && context.stepId.isSome &&
      (PublicCommandKind.fromExecutionMutationName context.commandKind).isSome

/-- `status_exposes_public_execution_mutation`. -/
def exposesPublicExecutionMutation : Bool :=
  status.recommendedPublicCommand.any fun command => command.kind.isExecutionMutation

def executionReentryTargetMissing : Bool :=
  status.phaseDetail = detailExecutionReentryRequired &&
    !stateKindIsBlockedRuntimeBug status.stateKind &&
    status.phaseDetail ≠ detailRuntimeReconcileRequired && status.exposesPublicExecutionMutation &&
    !status.executionReentryHasConcreteTarget

/-- The execution context names a command that is no public execution command. -/
def illegalExecutionCommandContext : Bool :=
  status.executionCommandContext.any fun context =>
    (PublicCommandKind.fromExecutionMutationName context.commandKind).isNone

def recommendedCommandHidden : Bool := status.recommendedCommand.any commandInvokesHiddenLane

def nextPublicActionHidden : Bool :=
  status.nextPublicAction.any fun action => commandInvokesHiddenLane action.command

def argvHasTemplateTokens : Bool :=
  status.recommendedPublicCommandArgv.any publicArgvHasTemplateTokens

def recommendedCommandNextActionMismatch : Bool :=
  status.recommendedCommand.any fun recommendedCommand =>
    status.nextPublicAction.any fun action => recommendedCommand ≠ action.command

/-- The marker of a stale state without a target is missing. -/
def targetlessStale (authority : Option TargetlessStaleAuthority) : Bool :=
  authority.any fun authority => !TargetlessStaleReconcile.statusHasDiagnostic status &&
    TargetlessStaleReconcile.statusNeedsMarker status authority

def terminalRecommendedCommand : Bool :=
  stateKindIsTerminal status.stateKind && status.recommendedCommand.isSome

def waitingLocalMutation : Bool :=
  stateKindIsExternalWait status.stateKind && status.recommendedPublicCommand.any fun command =>
    command.kind.publicMutationName.isSome && command.kind ≠ .workflowOperator

/-- The oracle does not accept what is recommended. -/
def recommendedMutationRejected : Bool :=
  status.recommendedPublicCommand.any fun command =>
    command.kind.publicMutationName.isSome && command.toMutationRequest.any fun request =>
      !(decidePublicMutation status request).allowed

end PlanExecutionStatus

/-- What a check reports. -/
def reportWhen (condition : Bool) (code : String) (severity : RuntimeInvariantSeverity) :
    List RuntimeInvariantViolation :=
  if condition then [⟨code, severity⟩] else []

/-- `check_public_commands`. -/
def checkPublicCommands (status : PlanExecutionStatus) (mode : InvariantEnforcementMode) :
    List RuntimeInvariantViolation :=
  reportWhen status.recommendedCommandHidden "recommended_command_hidden_or_debug" .runtimeBug ++
    reportWhen status.nextPublicActionHidden "next_public_action_hidden_or_debug" .runtimeBug ++
    reportWhen status.argvHasTemplateTokens "recommended_public_command_argv_template_tokens"
      .runtimeBug ++
    reportWhen (mode = .postMutation && status.recommendedCommandNextActionMismatch)
      "recommended_command_next_action_mismatch" .runtimeBug

/-- `check_runtime_status_invariants_with_targetless_authority`. -/
def checkRuntimeStatusInvariants (status : PlanExecutionStatus) (mode : InvariantEnforcementMode)
    (authority : Option TargetlessStaleAuthority) : List RuntimeInvariantViolation :=
  reportWhen (status.overlappingIds ≠ []) "current_stale_closure_overlap" .runtimeBug ++
    reportWhen status.executionReentryTargetMissing "execution_reentry_target_missing"
      .reconcileRequired ++
    reportWhen status.illegalExecutionCommandContext "illegal_execution_command_context"
      .runtimeBug ++
    checkPublicCommands status mode ++
    reportWhen (status.targetlessStale authority) TargetlessStaleReconcile.reasonCode
      .reconcileRequired ++
    reportWhen status.terminalRecommendedCommand "terminal_recommended_command" .runtimeBug ++
    reportWhen status.waitingLocalMutation "waiting_external_input_local_mutation" .runtimeBug ++
    reportWhen status.recommendedMutationRejected "recommended_mutation_command_rejected" .runtimeBug

/-! ### Conversion -/

/-- What a violation leaves in the codes of a status. -/
def pushViolation (status : PlanExecutionStatus) (violation : RuntimeInvariantViolation) :
    PlanExecutionStatus :=
  if violation.code = TargetlessStaleReconcile.reasonCode then
    TargetlessStaleReconcile.ensureStatusDiagnostic status
  else
    { status with
      reasonCodes := pushCodeOnce status.reasonCodes violation.code
      blockingReasonCodes := pushCodeOnce status.blockingReasonCodes violation.code }

/-- The phase and the state kind that a conversion sets. -/
def setDiagnosticPhase (hasRuntimeBug : Bool) (status : PlanExecutionStatus) :
    PlanExecutionStatus :=
  if hasRuntimeBug then
    { status with
      phase := some "blocked"
      phaseDetail := detailBlockedRuntimeBug
      stateKind := detailBlockedRuntimeBug }
  else
    { status with
      phaseDetail := detailRuntimeReconcileRequired
      stateKind := detailRuntimeReconcileRequired }

/-- Takes out what a status recommends. -/
def clearRecommendations (status : PlanExecutionStatus) : PlanExecutionStatus :=
  { status with
    recommendedPublicCommand := none
    recommendedPublicCommandArgv := none
    recommendedPublicCommandTemplate := none
    requiredInputs := []
    nextAction := (diagnosticNextActionForRoute status.stateKind status.phaseDetail false
      false).getD nextActionRuntimeDiagnosticRequired
    recommendedCommand := none
    executionCommandContext := none
    executionReentryTargetSource := none
    publicRepairTargets := []
    nextPublicAction := none
    blockers := [] }

/-- `convert_status_to_runtime_reconcile_or_bug`. -/
def convertStatusToRuntimeReconcileOrBug (status : PlanExecutionStatus)
    (violations : List RuntimeInvariantViolation) : PlanExecutionStatus :=
  let targetlessStaleReconcile := violations.any fun violation =>
    violation.code = TargetlessStaleReconcile.reasonCode
  let hasRuntimeBug := violations.any fun violation => violation.severity = .runtimeBug
  let status := violations.foldl pushViolation
    (clearRecommendations (setDiagnosticPhase hasRuntimeBug status))
  if targetlessStaleReconcile then
    { status with
      blockingRecords := (TargetlessStaleReconcile.statusBlockingRecord status).toList }
  else status

/-- `apply_read_surface_invariants_with_targetless_authority`. -/
def applyReadSurfaceInvariants (authority : Option TargetlessStaleAuthority)
    (status : PlanExecutionStatus) : PlanExecutionStatus :=
  let violations := checkRuntimeStatusInvariants status .readSurface authority
  if violations.isEmpty then status else convertStatusToRuntimeReconcileOrBug status violations

end FeatureForge
