import FeatureForge.Routing.Status

/-!
# The mutation oracle

`decidePublicMutation` allows a mutation that the status exposes: as the exact route, as the
command of the execution context, or as a repair target.  It rejects every mutation while the
state is a runtime bug, and while a reconcile is diagnostic only (`decide_of_blockedRuntimeBug`,
`decide_of_diagnosticOnly`).
-/

namespace FeatureForge

inductive MutationEligibilitySource
  | exactRoute
  | explicitRepairTarget
  deriving DecidableEq

structure MutationEligibilityDecision where
  allowed : Bool
  source : Option MutationEligibilitySource
  reasonCode : String

def MutationEligibilityDecision.allow (source : MutationEligibilitySource) (reasonCode : String) :
    MutationEligibilityDecision :=
  ⟨true, some source, reasonCode⟩

def MutationEligibilityDecision.reject (reasonCode : String) : MutationEligibilityDecision :=
  ⟨false, none, reasonCode⟩

/-- `public_mutation_fingerprint_matches`. -/
def publicMutationFingerprintMatches (routeRequest request : PublicMutationRequest) : Bool :=
  match routeRequest.expectExecutionFingerprint, request.expectExecutionFingerprint with
  | _, none => true
  | some routeFingerprint, some requestFingerprint => routeFingerprint = requestFingerprint
  | none, some _ => false

/-- `public_transfer_scope_matches`. -/
def publicTransferScopeMatches (routeRequest request : PublicMutationRequest) : Bool :=
  if routeRequest.transferMode = some .workflowHandoff ∧ routeRequest.transferScope = none then
    request.transferScope.any fun scope => scope = "task" || scope = "branch"
  else routeRequest.transferScope = request.transferScope

/-- `public_mutation_requests_match`. -/
def publicMutationRequestsMatch (routeRequest request : PublicMutationRequest) : Bool :=
  if routeRequest.kind ≠ request.kind then false
  else if request.kind = .transfer then
    routeRequest.transferMode = request.transferMode &&
      publicTransferScopeMatches routeRequest request &&
      routeRequest.task = request.task && routeRequest.step = request.step &&
      publicMutationFingerprintMatches routeRequest request
  else if request.kind = .advanceLateStage ∧
      routeRequest.advanceLateStageMode ≠ request.advanceLateStageMode then false
  else
    routeRequest.task = request.task && routeRequest.step = request.step &&
      publicMutationFingerprintMatches routeRequest request

/-- `public_repair_target_matches_request`. -/
def publicRepairTargetMatchesRequest (target : PublicRepairTarget)
    (request : PublicMutationRequest) : Bool :=
  if request.kind = .advanceLateStage then false
  else
    request.kind.matchesPublicMutationToken target.commandKind && target.task = request.task &&
      target.step = request.step &&
      (request.kind ≠ .transfer || request.transferMode = some .repairStep)

namespace PlanExecutionStatus

variable (status : PlanExecutionStatus)

/-- `runtime_reconcile_route_is_diagnostic_only`. -/
def runtimeReconcileRouteIsDiagnosticOnly : Bool :=
  status.phaseDetail = detailRuntimeReconcileRequired &&
    status.recommendedPublicCommand.isNone && status.recommendedPublicCommandArgv.isNone &&
    status.recommendedPublicCommandTemplate.isNone && status.nextPublicAction.isNone &&
    status.publicRepairTargets.isEmpty

/-- `status_blocks_non_exact_public_mutation`. -/
def blocksNonExactPublicMutation : Bool :=
  status.phaseDetail = detailRuntimeReconcileRequired ||
    stateKindBlocksLocalMutation status.stateKind

/-- `route_exposes_public_mutation_request`. -/
def routeExposesPublicMutationRequest (request : PublicMutationRequest) : Bool :=
  (status.recommendedPublicCommand.bind PublicCommand.toMutationRequest).any fun routeRequest =>
    if routeRequest.kind = .advanceLateStage &&
        !publicAdvanceLateStageRequestModeMatchesRoutedPublicCommand status.phaseDetail
          status.recommendedPublicCommand routeRequest.advanceLateStageMode then false
    else publicMutationRequestsMatch routeRequest request

/-- `request_fingerprint_matches_status`. -/
def fingerprintMatches (request : PublicMutationRequest) : Bool :=
  request.expectExecutionFingerprint.all fun fingerprint =>
    fingerprint = status.executionFingerprint

/-- `external_wait_exact_route_exception`. -/
def externalWaitExactRouteException (request : PublicMutationRequest) : Bool :=
  stateKindIsExternalWait status.stateKind &&
    status.phaseDetail = detailFinalReviewDispatchRequired && request.kind = .advanceLateStage

/-- `runtime_reconcile_repair_route_exception`. -/
def runtimeReconcileRepairRouteException (request : PublicMutationRequest) : Bool :=
  request.kind = .repairReviewState && status.phaseDetail = detailRuntimeReconcileRequired &&
    stateKindIsRuntimeReconcileRequired status.stateKind &&
    !status.runtimeReconcileRouteIsDiagnosticOnly

/-- `state_kind_blocks_all_public_mutation`. -/
def stateKindBlocksAllPublicMutation (request : PublicMutationRequest) : Bool :=
  stateKindBlocksLocalMutation status.stateKind &&
    !status.runtimeReconcileRepairRouteException request

/-- The execution context names the command, the task and the step of a request. -/
def contextNames (request : PublicMutationRequest) : Bool :=
  request.executionCommandKind.any fun commandKind =>
    status.executionCommandContext.any fun context =>
      context.commandKind = commandKind && context.taskNumber = request.task &&
        context.stepId = request.step

end PlanExecutionStatus

/-- `decide_public_mutation`. -/
def decidePublicMutation (status : PlanExecutionStatus) (request : PublicMutationRequest) :
    MutationEligibilityDecision :=
  if request.publicCommandName = none then .reject "mutation_hidden_or_unsupported_command"
  else if stateKindIsBlockedRuntimeBug status.stateKind then .reject "mutation_blocked_runtime_bug"
  else if status.phaseDetail = detailRuntimeReconcileRequired ∧
      request.kind ≠ .repairReviewState then
    .reject "mutation_runtime_reconcile_required"
  else if status.phaseDetail = detailRuntimeReconcileRequired ∧
      status.runtimeReconcileRouteIsDiagnosticOnly then
    .reject "mutation_runtime_reconcile_diagnostic_only"
  else
    let exactPublicRouteExposed := request.executionCommandKind.isNone &&
      status.routeExposesPublicMutationRequest request
    if exactPublicRouteExposed && status.externalWaitExactRouteException request then
      .allow .exactRoute "mutation_exact_route_authorized"
    else if externalWaitStateIsExternalWait status.externalWaitState then
      .reject "mutation_waiting_external_input"
    else if status.stateKindBlocksAllPublicMutation request then
      .reject "mutation_state_kind_blocks_local_mutation"
    else if exactPublicRouteExposed then .allow .exactRoute "mutation_exact_route_authorized"
    else if status.contextNames request && status.fingerprintMatches request then
      .allow .exactRoute "mutation_exact_route_authorized"
    else if status.fingerprintMatches request && status.publicRepairTargets.any fun target =>
        publicRepairTargetMatchesRequest target request then
      .allow .explicitRepairTarget "mutation_explicit_repair_target_authorized"
    else if status.blocksNonExactPublicMutation then
      .reject "mutation_blocked_until_exact_public_route"
    else .reject "mutation_not_route_authorized"

variable {status : PlanExecutionStatus}

/-- A runtime bug blocks every mutation. -/
theorem decide_of_blockedRuntimeBug (h : stateKindIsBlockedRuntimeBug status.stateKind = true)
    (request : PublicMutationRequest) : (decidePublicMutation status request).allowed = false := by
  unfold decidePublicMutation
  rw [if_pos h]
  split_ifs <;> rfl

/-- A reconcile that is diagnostic only blocks every mutation. -/
theorem decide_of_diagnosticOnly (h : status.runtimeReconcileRouteIsDiagnosticOnly = true)
    (request : PublicMutationRequest) : (decidePublicMutation status request).allowed = false := by
  have hphase : status.phaseDetail = detailRuntimeReconcileRequired := by
    unfold PlanExecutionStatus.runtimeReconcileRouteIsDiagnosticOnly at h
    simp only [Bool.and_eq_true, decide_eq_true_eq] at h
    exact h.1.1.1.1.1
  unfold decidePublicMutation
  by_cases hkind : request.kind = .repairReviewState
  · have hdiagnostic : status.phaseDetail = detailRuntimeReconcileRequired ∧
        status.runtimeReconcileRouteIsDiagnosticOnly = true := ⟨hphase, h⟩
    rw [if_pos hdiagnostic]
    split_ifs <;> rfl
  · have hreconcile : status.phaseDetail = detailRuntimeReconcileRequired ∧
        request.kind ≠ .repairReviewState := ⟨hphase, hkind⟩
    rw [if_pos hreconcile]
    split_ifs <;> rfl

end FeatureForge
