import FeatureForge.Lib.Json
import FeatureForge.Lib.Text

/-!
# The fields of the authoritative state

The reduced authoritative state is one JSON object.  `Field` enumerates the keys
the event log knows, `Field.name` is the key itself, and the lists below are the
field lists of `event_log.rs` under the names they have there: which fields an
event of each kind may carry, which of them decide the kind, and which hold a map
of records.

`authoritativeFactFields` are the fields `AuthoritativeFactBuilder` has a slot
for.  The six summaries of a late-stage projection (`release_docs_state` and the
like) are on the lists but have no slot, so no event carries them.

A state is the partial function `StateObject` from fields to values; a JSON
`null` that is stored is a value like any other.
-/

namespace FeatureForge

/-- A key of the authoritative state object. -/
inductive Field where
  | schemaVersion
  | harnessPhase
  | latestAuthoritativeSequence
  | authoritativeSequence
  | sourcePlanPath
  | sourcePlanRevision
  | executionPlanProjectionFingerprint
  | executionEvidenceProjectionFingerprint
  | executionEvidenceAttempts
  | runIdentity
  | executionRunId
  | chunkId
  | activeContractPath
  | activeContractFingerprint
  | activeWorktreeLeaseFingerprints
  | activeWorktreeLeaseBindings
  | releasedWorktreeLeaseRecords
  | requiredEvaluatorKinds
  | completedEvaluatorKinds
  | pendingEvaluatorKinds
  | nonPassingEvaluatorKinds
  | failedEvaluatorKinds
  | blockedEvaluatorKinds
  | aggregateEvaluationState
  | lastEvaluationReportPath
  | lastEvaluationReportFingerprint
  | lastEvaluationEvaluatorKind
  | lastEvaluationVerdict
  | currentChunkRetryCount
  | currentChunkRetryBudget
  | currentChunkPivotThreshold
  | handoffRequired
  | openFailedCriteria
  | writeAuthorityState
  | writeAuthorityHolder
  | writeAuthorityWorktree
  | repoStateBaselineHeadSha
  | repoStateBaselineWorktreeFingerprint
  | repoStateDriftState
  | reasonCodes
  | dependencyIndexState
  | currentOpenStepState
  | currentTransferScope
  | currentTransferTo
  | currentTaskClosureRecords
  | taskClosureRecordHistory
  | taskClosureNegativeResultRecords
  | taskClosureNegativeResultHistory
  | supersededTaskClosureIds
  | branchClosureRecords
  | currentBranchClosureId
  | currentBranchClosureReviewedStateId
  | currentBranchClosureContractIdentity
  | supersededBranchClosureIds
  | releaseReadinessRecordHistory
  | currentReleaseReadinessRecordId
  | currentReleaseReadinessResult
  | currentReleaseReadinessSummaryHash
  | releaseDocsState
  | lastReleaseDocsArtifactFingerprint
  | finalReviewRecordHistory
  | currentFinalReviewBranchClosureId
  | currentFinalReviewDispatchId
  | currentFinalReviewReviewerSource
  | currentFinalReviewReviewerId
  | currentFinalReviewResult
  | currentFinalReviewSummaryHash
  | currentFinalReviewRecordId
  | finalReviewState
  | lastFinalReviewArtifactFingerprint
  | browserQaRecordHistory
  | currentQaBranchClosureId
  | currentQaResult
  | currentQaSummaryHash
  | currentQaRecordId
  | browserQaState
  | lastBrowserQaArtifactFingerprint
  | reviewStateRepairFollowUpRecord
  | reviewStateRepairFollowUp
  | reviewStateRepairFollowUpTask
  | reviewStateRepairFollowUpStep
  | reviewStateRepairFollowUpClosureRecordId
  | explicitReopenRepairTargets
  | currentTaskReviewDispatchId
  | strategyReviewDispatchLineage
  | strategyReviewDispatchLineageHistory
  | finalReviewDispatchLineage
  | finalReviewDispatchLineageHistory
  | strategyCheckpoints
  | strategyState
  | strategyCheckpointKind
  | lastStrategyCheckpointFingerprint
  | strategyResetRequired
  | strategyCycleCounts
  | strategyReviewDispatchCredits
  | strategyCycleBreakTask
  | strategyCycleBreakStep
  | strategyCycleBreakCheckpointFingerprint
  | finishReviewGatePassBranchClosureId
  | lastHandoffPath
  | lastHandoffFingerprint
  | lastPivotPath
  | lastPivotFingerprint
  | eventCompletedSteps
  deriving DecidableEq

namespace Field

/-- The key under which the state object stores the field. -/
def name : Field → String
  | .schemaVersion => "schema_version"
  | .harnessPhase => "harness_phase"
  | .latestAuthoritativeSequence => "latest_authoritative_sequence"
  | .authoritativeSequence => "authoritative_sequence"
  | .sourcePlanPath => "source_plan_path"
  | .sourcePlanRevision => "source_plan_revision"
  | .executionPlanProjectionFingerprint => "execution_plan_projection_fingerprint"
  | .executionEvidenceProjectionFingerprint => "execution_evidence_projection_fingerprint"
  | .executionEvidenceAttempts => "execution_evidence_attempts"
  | .runIdentity => "run_identity"
  | .executionRunId => "execution_run_id"
  | .chunkId => "chunk_id"
  | .activeContractPath => "active_contract_path"
  | .activeContractFingerprint => "active_contract_fingerprint"
  | .activeWorktreeLeaseFingerprints => "active_worktree_lease_fingerprints"
  | .activeWorktreeLeaseBindings => "active_worktree_lease_bindings"
  | .releasedWorktreeLeaseRecords => "released_worktree_lease_records"
  | .requiredEvaluatorKinds => "required_evaluator_kinds"
  | .completedEvaluatorKinds => "completed_evaluator_kinds"
  | .pendingEvaluatorKinds => "pending_evaluator_kinds"
  | .nonPassingEvaluatorKinds => "non_passing_evaluator_kinds"
  | .failedEvaluatorKinds => "failed_evaluator_kinds"
  | .blockedEvaluatorKinds => "blocked_evaluator_kinds"
  | .aggregateEvaluationState => "aggregate_evaluation_state"
  | .lastEvaluationReportPath => "last_evaluation_report_path"
  | .lastEvaluationReportFingerprint => "last_evaluation_report_fingerprint"
  | .lastEvaluationEvaluatorKind => "last_evaluation_evaluator_kind"
  | .lastEvaluationVerdict => "last_evaluation_verdict"
  | .currentChunkRetryCount => "current_chunk_retry_count"
  | .currentChunkRetryBudget => "current_chunk_retry_budget"
  | .currentChunkPivotThreshold => "current_chunk_pivot_threshold"
  | .handoffRequired => "handoff_required"
  | .openFailedCriteria => "open_failed_criteria"
  | .writeAuthorityState => "write_authority_state"
  | .writeAuthorityHolder => "write_authority_holder"
  | .writeAuthorityWorktree => "write_authority_worktree"
  | .repoStateBaselineHeadSha => "repo_state_baseline_head_sha"
  | .repoStateBaselineWorktreeFingerprint => "repo_state_baseline_worktree_fingerprint"
  | .repoStateDriftState => "repo_state_drift_state"
  | .reasonCodes => "reason_codes"
  | .dependencyIndexState => "dependency_index_state"
  | .currentOpenStepState => "current_open_step_state"
  | .currentTransferScope => "current_transfer_scope"
  | .currentTransferTo => "current_transfer_to"
  | .currentTaskClosureRecords => "current_task_closure_records"
  | .taskClosureRecordHistory => "task_closure_record_history"
  | .taskClosureNegativeResultRecords => "task_closure_negative_result_records"
  | .taskClosureNegativeResultHistory => "task_closure_negative_result_history"
  | .supersededTaskClosureIds => "superseded_task_closure_ids"
  | .branchClosureRecords => "branch_closure_records"
  | .currentBranchClosureId => "current_branch_closure_id"
  | .currentBranchClosureReviewedStateId => "current_branch_closure_reviewed_state_id"
  | .currentBranchClosureContractIdentity => "current_branch_closure_contract_identity"
  | .supersededBranchClosureIds => "superseded_branch_closure_ids"
  | .releaseReadinessRecordHistory => "release_readiness_record_history"
  | .currentReleaseReadinessRecordId => "current_release_readiness_record_id"
  | .currentReleaseReadinessResult => "current_release_readiness_result"
  | .currentReleaseReadinessSummaryHash => "current_release_readiness_summary_hash"
  | .releaseDocsState => "release_docs_state"
  | .lastReleaseDocsArtifactFingerprint => "last_release_docs_artifact_fingerprint"
  | .finalReviewRecordHistory => "final_review_record_history"
  | .currentFinalReviewBranchClosureId => "current_final_review_branch_closure_id"
  | .currentFinalReviewDispatchId => "current_final_review_dispatch_id"
  | .currentFinalReviewReviewerSource => "current_final_review_reviewer_source"
  | .currentFinalReviewReviewerId => "current_final_review_reviewer_id"
  | .currentFinalReviewResult => "current_final_review_result"
  | .currentFinalReviewSummaryHash => "current_final_review_summary_hash"
  | .currentFinalReviewRecordId => "current_final_review_record_id"
  | .finalReviewState => "final_review_state"
  | .lastFinalReviewArtifactFingerprint => "last_final_review_artifact_fingerprint"
  | .browserQaRecordHistory => "browser_qa_record_history"
  | .currentQaBranchClosureId => "current_qa_branch_closure_id"
  | .currentQaResult => "current_qa_result"
  | .currentQaSummaryHash => "current_qa_summary_hash"
  | .currentQaRecordId => "current_qa_record_id"
  | .browserQaState => "browser_qa_state"
  | .lastBrowserQaArtifactFingerprint => "last_browser_qa_artifact_fingerprint"
  | .reviewStateRepairFollowUpRecord => "review_state_repair_follow_up_record"
  | .reviewStateRepairFollowUp => "review_state_repair_follow_up"
  | .reviewStateRepairFollowUpTask => "review_state_repair_follow_up_task"
  | .reviewStateRepairFollowUpStep => "review_state_repair_follow_up_step"
  | .reviewStateRepairFollowUpClosureRecordId => "review_state_repair_follow_up_closure_record_id"
  | .explicitReopenRepairTargets => "explicit_reopen_repair_targets"
  | .currentTaskReviewDispatchId => "current_task_review_dispatch_id"
  | .strategyReviewDispatchLineage => "strategy_review_dispatch_lineage"
  | .strategyReviewDispatchLineageHistory => "strategy_review_dispatch_lineage_history"
  | .finalReviewDispatchLineage => "final_review_dispatch_lineage"
  | .finalReviewDispatchLineageHistory => "final_review_dispatch_lineage_history"
  | .strategyCheckpoints => "strategy_checkpoints"
  | .strategyState => "strategy_state"
  | .strategyCheckpointKind => "strategy_checkpoint_kind"
  | .lastStrategyCheckpointFingerprint => "last_strategy_checkpoint_fingerprint"
  | .strategyResetRequired => "strategy_reset_required"
  | .strategyCycleCounts => "strategy_cycle_counts"
  | .strategyReviewDispatchCredits => "strategy_review_dispatch_credits"
  | .strategyCycleBreakTask => "strategy_cycle_break_task"
  | .strategyCycleBreakStep => "strategy_cycle_break_step"
  | .strategyCycleBreakCheckpointFingerprint => "strategy_cycle_break_checkpoint_fingerprint"
  | .finishReviewGatePassBranchClosureId => "finish_review_gate_pass_branch_closure_id"
  | .lastHandoffPath => "last_handoff_path"
  | .lastHandoffFingerprint => "last_handoff_fingerprint"
  | .lastPivotPath => "last_pivot_path"
  | .lastPivotFingerprint => "last_pivot_fingerprint"
  | .eventCompletedSteps => "event_completed_steps"

def all : List Field :=
  [.schemaVersion, .harnessPhase, .latestAuthoritativeSequence, .authoritativeSequence,
   .sourcePlanPath, .sourcePlanRevision, .executionPlanProjectionFingerprint,
   .executionEvidenceProjectionFingerprint, .executionEvidenceAttempts, .runIdentity,
   .executionRunId, .chunkId, .activeContractPath, .activeContractFingerprint,
   .activeWorktreeLeaseFingerprints, .activeWorktreeLeaseBindings, .releasedWorktreeLeaseRecords,
   .requiredEvaluatorKinds, .completedEvaluatorKinds, .pendingEvaluatorKinds,
   .nonPassingEvaluatorKinds, .failedEvaluatorKinds, .blockedEvaluatorKinds,
   .aggregateEvaluationState, .lastEvaluationReportPath, .lastEvaluationReportFingerprint,
   .lastEvaluationEvaluatorKind, .lastEvaluationVerdict, .currentChunkRetryCount,
   .currentChunkRetryBudget, .currentChunkPivotThreshold, .handoffRequired, .openFailedCriteria,
   .writeAuthorityState, .writeAuthorityHolder, .writeAuthorityWorktree, .repoStateBaselineHeadSha,
   .repoStateBaselineWorktreeFingerprint, .repoStateDriftState, .reasonCodes, .dependencyIndexState,
   .currentOpenStepState, .currentTransferScope, .currentTransferTo, .currentTaskClosureRecords,
   .taskClosureRecordHistory, .taskClosureNegativeResultRecords, .taskClosureNegativeResultHistory,
   .supersededTaskClosureIds, .branchClosureRecords, .currentBranchClosureId,
   .currentBranchClosureReviewedStateId, .currentBranchClosureContractIdentity,
   .supersededBranchClosureIds, .releaseReadinessRecordHistory, .currentReleaseReadinessRecordId,
   .currentReleaseReadinessResult, .currentReleaseReadinessSummaryHash, .releaseDocsState,
   .lastReleaseDocsArtifactFingerprint, .finalReviewRecordHistory,
   .currentFinalReviewBranchClosureId, .currentFinalReviewDispatchId,
   .currentFinalReviewReviewerSource, .currentFinalReviewReviewerId, .currentFinalReviewResult,
   .currentFinalReviewSummaryHash, .currentFinalReviewRecordId, .finalReviewState,
   .lastFinalReviewArtifactFingerprint, .browserQaRecordHistory, .currentQaBranchClosureId,
   .currentQaResult, .currentQaSummaryHash, .currentQaRecordId, .browserQaState,
   .lastBrowserQaArtifactFingerprint, .reviewStateRepairFollowUpRecord, .reviewStateRepairFollowUp,
   .reviewStateRepairFollowUpTask, .reviewStateRepairFollowUpStep,
   .reviewStateRepairFollowUpClosureRecordId, .explicitReopenRepairTargets,
   .currentTaskReviewDispatchId, .strategyReviewDispatchLineage,
   .strategyReviewDispatchLineageHistory, .finalReviewDispatchLineage,
   .finalReviewDispatchLineageHistory, .strategyCheckpoints, .strategyState,
   .strategyCheckpointKind, .lastStrategyCheckpointFingerprint, .strategyResetRequired,
   .strategyCycleCounts, .strategyReviewDispatchCredits, .strategyCycleBreakTask,
   .strategyCycleBreakStep, .strategyCycleBreakCheckpointFingerprint,
   .finishReviewGatePassBranchClosureId, .lastHandoffPath, .lastHandoffFingerprint, .lastPivotPath,
   .lastPivotFingerprint, .eventCompletedSteps]

theorem mem_all (f : Field) : f ∈ all := by cases f <;> decide

theorem nodup_names : (all.map name).Nodup := by simp [all, name]

/-- **Different fields have different keys.** -/
theorem name_injective : Function.Injective name := fun f g h =>
  List.inj_on_of_nodup_map nodup_names (mem_all f) (mem_all g) h

@[simp] theorem name_inj {f g : Field} : f.name = g.name ↔ f = g := name_injective.eq_iff

end Field

/-- The state object by field: what the object stores, if anything. -/
abbrev StateObject : Type := Field → Option Json

instance : DecidableEq StateObject := fun s t =>
  decidable_of_iff (∀ f ∈ Field.all, s f = t f)
    ⟨fun h => funext fun f => h f (Field.mem_all f), fun h _ _ => h ▸ rfl⟩

/-! ### The field lists -/

def runMetadataFields : List Field :=
  [.schemaVersion, .harnessPhase, .latestAuthoritativeSequence, .authoritativeSequence,
   .sourcePlanPath, .sourcePlanRevision, .executionPlanProjectionFingerprint,
   .executionEvidenceProjectionFingerprint, .executionEvidenceAttempts, .runIdentity,
   .executionRunId, .chunkId, .activeContractPath, .activeContractFingerprint,
   .activeWorktreeLeaseFingerprints, .activeWorktreeLeaseBindings, .releasedWorktreeLeaseRecords,
   .requiredEvaluatorKinds, .completedEvaluatorKinds, .pendingEvaluatorKinds,
   .nonPassingEvaluatorKinds, .failedEvaluatorKinds, .blockedEvaluatorKinds,
   .aggregateEvaluationState, .lastEvaluationReportPath, .lastEvaluationReportFingerprint,
   .lastEvaluationEvaluatorKind, .lastEvaluationVerdict, .currentChunkRetryCount,
   .currentChunkRetryBudget, .currentChunkPivotThreshold, .handoffRequired, .openFailedCriteria,
   .writeAuthorityState, .writeAuthorityHolder, .writeAuthorityWorktree, .repoStateBaselineHeadSha,
   .repoStateBaselineWorktreeFingerprint, .repoStateDriftState, .reasonCodes, .strategyState,
   .lastStrategyCheckpointFingerprint, .strategyCheckpointKind, .strategyResetRequired,
   .strategyCycleCounts, .strategyReviewDispatchCredits, .dependencyIndexState]

def handoffFields : List Field :=
  [.handoffRequired, .lastHandoffPath, .lastHandoffFingerprint, .harnessPhase]

def stepEventFields : List Field :=
  [.currentOpenStepState, .executionPlanProjectionFingerprint,
   .executionEvidenceProjectionFingerprint, .executionEvidenceAttempts, .harnessPhase,
   .handoffRequired, .aggregateEvaluationState, .reviewStateRepairFollowUpRecord,
   .reviewStateRepairFollowUp, .strategyCheckpoints, .strategyState, .strategyCheckpointKind,
   .lastStrategyCheckpointFingerprint, .strategyResetRequired, .strategyCycleCounts,
   .strategyReviewDispatchCredits, .strategyCycleBreakTask, .strategyCycleBreakStep,
   .strategyCycleBreakCheckpointFingerprint, .lastEvaluationReportPath,
   .lastEvaluationReportFingerprint, .lastEvaluationEvaluatorKind, .lastEvaluationVerdict,
   .lastHandoffPath, .lastHandoffFingerprint, .lastPivotPath, .lastPivotFingerprint]

def transferEventFields : List Field :=
  [.currentTransferScope, .currentTransferTo, .currentOpenStepState, .harnessPhase,
   .handoffRequired, .lastHandoffPath, .lastHandoffFingerprint]

def dispatchEventFields : List Field :=
  [.currentTaskReviewDispatchId, .currentFinalReviewDispatchId, .taskClosureNegativeResultRecords,
   .taskClosureNegativeResultHistory, .strategyReviewDispatchLineage,
   .strategyReviewDispatchLineageHistory, .finalReviewDispatchLineage,
   .finalReviewDispatchLineageHistory, .harnessPhase, .strategyCheckpoints, .strategyState,
   .strategyCheckpointKind, .lastStrategyCheckpointFingerprint, .strategyResetRequired,
   .strategyCycleCounts, .strategyReviewDispatchCredits, .strategyCycleBreakTask,
   .strategyCycleBreakStep, .strategyCycleBreakCheckpointFingerprint]

def dispatchPrimaryEventFields : List Field :=
  [.currentTaskReviewDispatchId, .currentFinalReviewDispatchId, .strategyReviewDispatchLineage,
   .strategyReviewDispatchLineageHistory, .finalReviewDispatchLineage,
   .finalReviewDispatchLineageHistory]

def taskClosureEventFields : List Field :=
  [.currentOpenStepState, .harnessPhase, .currentTaskClosureRecords, .taskClosureRecordHistory,
   .taskClosureNegativeResultRecords, .taskClosureNegativeResultHistory, .supersededTaskClosureIds,
   .reviewStateRepairFollowUpRecord, .reviewStateRepairFollowUp, .currentTaskReviewDispatchId,
   .strategyReviewDispatchLineage, .strategyReviewDispatchLineageHistory, .strategyCheckpoints,
   .strategyState, .strategyCheckpointKind, .lastStrategyCheckpointFingerprint,
   .strategyResetRequired, .strategyCycleCounts, .strategyReviewDispatchCredits,
   .strategyCycleBreakTask, .strategyCycleBreakStep, .strategyCycleBreakCheckpointFingerprint]

def branchClosureEventFields : List Field :=
  [.branchClosureRecords, .currentBranchClosureId, .currentBranchClosureReviewedStateId,
   .currentBranchClosureContractIdentity, .supersededBranchClosureIds,
   .reviewStateRepairFollowUpRecord, .reviewStateRepairFollowUp, .reviewStateRepairFollowUpTask,
   .reviewStateRepairFollowUpStep, .reviewStateRepairFollowUpClosureRecordId,
   .releaseReadinessRecordHistory, .currentReleaseReadinessRecordId, .currentReleaseReadinessResult,
   .currentReleaseReadinessSummaryHash, .releaseDocsState, .lastReleaseDocsArtifactFingerprint,
   .finalReviewRecordHistory, .currentFinalReviewBranchClosureId, .currentFinalReviewDispatchId,
   .currentFinalReviewReviewerSource, .currentFinalReviewReviewerId, .currentFinalReviewResult,
   .currentFinalReviewSummaryHash, .currentFinalReviewRecordId, .finalReviewState,
   .lastFinalReviewArtifactFingerprint, .finalReviewDispatchLineage,
   .finalReviewDispatchLineageHistory, .browserQaRecordHistory, .currentQaBranchClosureId,
   .currentQaResult, .currentQaSummaryHash, .currentQaRecordId, .browserQaState,
   .lastBrowserQaArtifactFingerprint, .finishReviewGatePassBranchClosureId, .harnessPhase]

def branchClosurePrimaryEventFields : List Field :=
  [.branchClosureRecords, .currentBranchClosureId, .currentBranchClosureReviewedStateId,
   .currentBranchClosureContractIdentity, .supersededBranchClosureIds]

def branchClosureRepairEventFields : List Field :=
  [.reviewStateRepairFollowUpRecord, .reviewStateRepairFollowUp, .reviewStateRepairFollowUpTask,
   .reviewStateRepairFollowUpStep, .reviewStateRepairFollowUpClosureRecordId]

def releaseReadinessEventFields : List Field :=
  [.releaseReadinessRecordHistory, .currentReleaseReadinessRecordId, .currentReleaseReadinessResult,
   .currentReleaseReadinessSummaryHash, .releaseDocsState, .lastReleaseDocsArtifactFingerprint,
   .finalReviewRecordHistory, .currentFinalReviewBranchClosureId, .currentFinalReviewDispatchId,
   .currentFinalReviewReviewerSource, .currentFinalReviewReviewerId, .currentFinalReviewResult,
   .currentFinalReviewSummaryHash, .currentFinalReviewRecordId, .finalReviewState,
   .lastFinalReviewArtifactFingerprint, .browserQaRecordHistory, .currentQaBranchClosureId,
   .currentQaResult, .currentQaSummaryHash, .currentQaRecordId, .browserQaState,
   .lastBrowserQaArtifactFingerprint, .finalReviewDispatchLineage,
   .finalReviewDispatchLineageHistory, .finishReviewGatePassBranchClosureId, .harnessPhase]

def releaseReadinessPrimaryEventFields : List Field :=
  [.releaseReadinessRecordHistory, .currentReleaseReadinessRecordId]

def finalReviewEventFields : List Field :=
  [.finalReviewRecordHistory, .currentFinalReviewBranchClosureId, .currentFinalReviewDispatchId,
   .currentFinalReviewReviewerSource, .currentFinalReviewReviewerId, .currentFinalReviewResult,
   .currentFinalReviewSummaryHash, .currentFinalReviewRecordId, .finalReviewState,
   .lastFinalReviewArtifactFingerprint, .browserQaRecordHistory, .currentQaBranchClosureId,
   .currentQaResult, .currentQaSummaryHash, .currentQaRecordId, .browserQaState,
   .lastBrowserQaArtifactFingerprint, .finishReviewGatePassBranchClosureId, .harnessPhase]

def finalReviewPrimaryEventFields : List Field :=
  [.finalReviewRecordHistory, .currentFinalReviewRecordId]

def qaEventFields : List Field :=
  [.browserQaRecordHistory, .currentQaBranchClosureId, .currentQaResult, .currentQaSummaryHash,
   .currentQaRecordId, .browserQaState, .lastBrowserQaArtifactFingerprint,
   .finishReviewGatePassBranchClosureId, .harnessPhase]

def qaPrimaryEventFields : List Field :=
  [.browserQaRecordHistory, .currentQaRecordId]

def repairEventFields : List Field :=
  [.currentOpenStepState, .currentTaskClosureRecords, .taskClosureRecordHistory,
   .taskClosureNegativeResultRecords, .taskClosureNegativeResultHistory, .supersededTaskClosureIds,
   .currentBranchClosureId, .currentBranchClosureReviewedStateId,
   .currentBranchClosureContractIdentity, .branchClosureRecords, .supersededBranchClosureIds,
   .currentReleaseReadinessRecordId, .currentReleaseReadinessResult,
   .currentReleaseReadinessSummaryHash, .releaseReadinessRecordHistory, .releaseDocsState,
   .lastReleaseDocsArtifactFingerprint, .currentFinalReviewBranchClosureId,
   .currentFinalReviewDispatchId, .currentFinalReviewReviewerSource, .currentFinalReviewReviewerId,
   .currentFinalReviewResult, .currentFinalReviewSummaryHash, .currentFinalReviewRecordId,
   .finalReviewRecordHistory, .finalReviewState, .lastFinalReviewArtifactFingerprint,
   .currentQaBranchClosureId, .currentQaResult, .currentQaSummaryHash, .currentQaRecordId,
   .browserQaRecordHistory, .browserQaState, .lastBrowserQaArtifactFingerprint,
   .reviewStateRepairFollowUpRecord, .reviewStateRepairFollowUp, .reviewStateRepairFollowUpTask,
   .reviewStateRepairFollowUpStep, .reviewStateRepairFollowUpClosureRecordId,
   .explicitReopenRepairTargets, .harnessPhase, .currentTaskReviewDispatchId,
   .currentFinalReviewDispatchId, .strategyReviewDispatchLineage,
   .strategyReviewDispatchLineageHistory, .finalReviewDispatchLineage,
   .finalReviewDispatchLineageHistory, .strategyCheckpoints, .strategyState,
   .strategyCheckpointKind, .lastStrategyCheckpointFingerprint, .strategyResetRequired,
   .strategyCycleCounts, .strategyReviewDispatchCredits, .strategyCycleBreakTask,
   .strategyCycleBreakStep, .strategyCycleBreakCheckpointFingerprint,
   .finishReviewGatePassBranchClosureId]

def strategyEventFields : List Field :=
  [.strategyCheckpoints, .strategyState, .strategyCheckpointKind,
   .lastStrategyCheckpointFingerprint, .strategyResetRequired, .strategyCycleCounts,
   .strategyReviewDispatchCredits, .strategyCycleBreakTask, .strategyCycleBreakStep,
   .strategyCycleBreakCheckpointFingerprint, .finishReviewGatePassBranchClosureId, .harnessPhase]

def authoritativeEventFields : List Field :=
  [.schemaVersion, .harnessPhase, .latestAuthoritativeSequence, .authoritativeSequence,
   .sourcePlanPath, .sourcePlanRevision, .executionPlanProjectionFingerprint,
   .executionEvidenceProjectionFingerprint, .executionEvidenceAttempts, .runIdentity,
   .executionRunId, .chunkId, .activeContractPath, .activeContractFingerprint,
   .activeWorktreeLeaseFingerprints, .activeWorktreeLeaseBindings, .releasedWorktreeLeaseRecords,
   .requiredEvaluatorKinds, .completedEvaluatorKinds, .pendingEvaluatorKinds,
   .nonPassingEvaluatorKinds, .failedEvaluatorKinds, .blockedEvaluatorKinds,
   .aggregateEvaluationState, .lastEvaluationReportPath, .lastEvaluationReportFingerprint,
   .lastEvaluationEvaluatorKind, .lastEvaluationVerdict, .currentChunkRetryCount,
   .currentChunkRetryBudget, .currentChunkPivotThreshold, .handoffRequired, .openFailedCriteria,
   .writeAuthorityState, .writeAuthorityHolder, .writeAuthorityWorktree, .repoStateBaselineHeadSha,
   .repoStateBaselineWorktreeFingerprint, .repoStateDriftState, .reasonCodes, .dependencyIndexState,
   .currentOpenStepState, .currentTransferScope, .currentTransferTo, .currentTaskClosureRecords,
   .taskClosureRecordHistory, .taskClosureNegativeResultRecords, .taskClosureNegativeResultHistory,
   .supersededTaskClosureIds, .branchClosureRecords, .currentBranchClosureId,
   .currentBranchClosureReviewedStateId, .currentBranchClosureContractIdentity,
   .supersededBranchClosureIds, .releaseReadinessRecordHistory, .currentReleaseReadinessRecordId,
   .currentReleaseReadinessResult, .currentReleaseReadinessSummaryHash, .releaseDocsState,
   .lastReleaseDocsArtifactFingerprint, .finalReviewRecordHistory,
   .currentFinalReviewBranchClosureId, .currentFinalReviewDispatchId,
   .currentFinalReviewReviewerSource, .currentFinalReviewReviewerId, .currentFinalReviewResult,
   .currentFinalReviewSummaryHash, .currentFinalReviewRecordId, .finalReviewState,
   .lastFinalReviewArtifactFingerprint, .browserQaRecordHistory, .currentQaBranchClosureId,
   .currentQaResult, .currentQaSummaryHash, .currentQaRecordId, .browserQaState,
   .lastBrowserQaArtifactFingerprint, .reviewStateRepairFollowUpRecord, .reviewStateRepairFollowUp,
   .reviewStateRepairFollowUpTask, .reviewStateRepairFollowUpStep,
   .reviewStateRepairFollowUpClosureRecordId, .explicitReopenRepairTargets,
   .currentTaskReviewDispatchId, .strategyReviewDispatchLineage,
   .strategyReviewDispatchLineageHistory, .finalReviewDispatchLineage,
   .finalReviewDispatchLineageHistory, .strategyCheckpoints, .strategyState,
   .strategyCheckpointKind, .lastStrategyCheckpointFingerprint, .strategyResetRequired,
   .strategyCycleCounts, .strategyReviewDispatchCredits, .strategyCycleBreakTask,
   .strategyCycleBreakStep, .strategyCycleBreakCheckpointFingerprint,
   .finishReviewGatePassBranchClosureId, .lastHandoffPath, .lastHandoffFingerprint, .lastPivotPath,
   .lastPivotFingerprint]

def recordMapDeltaFields : List Field :=
  [.currentTaskClosureRecords, .taskClosureRecordHistory, .taskClosureNegativeResultRecords,
   .taskClosureNegativeResultHistory, .branchClosureRecords, .releaseReadinessRecordHistory,
   .finalReviewRecordHistory, .browserQaRecordHistory, .strategyReviewDispatchLineage,
   .strategyReviewDispatchLineageHistory, .finalReviewDispatchLineage,
   .finalReviewDispatchLineageHistory]

/-- The slots of `AuthoritativeFactBuilder`. -/
def authoritativeFactFields : List Field :=
  [.schemaVersion, .harnessPhase, .latestAuthoritativeSequence, .authoritativeSequence,
   .sourcePlanPath, .sourcePlanRevision, .executionPlanProjectionFingerprint,
   .executionEvidenceProjectionFingerprint, .executionEvidenceAttempts, .runIdentity,
   .executionRunId, .chunkId, .activeContractPath, .activeContractFingerprint,
   .activeWorktreeLeaseFingerprints, .activeWorktreeLeaseBindings, .releasedWorktreeLeaseRecords,
   .requiredEvaluatorKinds, .completedEvaluatorKinds, .pendingEvaluatorKinds,
   .nonPassingEvaluatorKinds, .failedEvaluatorKinds, .blockedEvaluatorKinds,
   .aggregateEvaluationState, .lastEvaluationReportPath, .lastEvaluationReportFingerprint,
   .lastEvaluationEvaluatorKind, .lastEvaluationVerdict, .currentChunkRetryCount,
   .currentChunkRetryBudget, .currentChunkPivotThreshold, .handoffRequired, .openFailedCriteria,
   .writeAuthorityState, .writeAuthorityHolder, .writeAuthorityWorktree, .repoStateBaselineHeadSha,
   .repoStateBaselineWorktreeFingerprint, .repoStateDriftState, .reasonCodes, .strategyState,
   .lastStrategyCheckpointFingerprint, .strategyCheckpointKind, .strategyResetRequired,
   .strategyCycleCounts, .strategyReviewDispatchCredits, .dependencyIndexState,
   .currentOpenStepState, .currentTransferScope, .currentTransferTo, .currentTaskClosureRecords,
   .taskClosureRecordHistory, .taskClosureNegativeResultRecords, .taskClosureNegativeResultHistory,
   .supersededTaskClosureIds, .branchClosureRecords, .currentBranchClosureId,
   .currentBranchClosureReviewedStateId, .currentBranchClosureContractIdentity,
   .supersededBranchClosureIds, .releaseReadinessRecordHistory, .currentReleaseReadinessRecordId,
   .currentReleaseReadinessResult, .currentReleaseReadinessSummaryHash, .finalReviewRecordHistory,
   .currentFinalReviewBranchClosureId, .currentFinalReviewDispatchId,
   .currentFinalReviewReviewerSource, .currentFinalReviewReviewerId, .currentFinalReviewResult,
   .currentFinalReviewSummaryHash, .currentFinalReviewRecordId, .browserQaRecordHistory,
   .currentQaBranchClosureId, .currentQaResult, .currentQaSummaryHash, .currentQaRecordId,
   .reviewStateRepairFollowUpRecord, .reviewStateRepairFollowUp, .reviewStateRepairFollowUpTask,
   .reviewStateRepairFollowUpStep, .reviewStateRepairFollowUpClosureRecordId,
   .explicitReopenRepairTargets, .currentTaskReviewDispatchId, .strategyReviewDispatchLineage,
   .strategyReviewDispatchLineageHistory, .finalReviewDispatchLineage,
   .finalReviewDispatchLineageHistory, .strategyCheckpoints, .strategyCycleBreakTask,
   .strategyCycleBreakStep, .strategyCycleBreakCheckpointFingerprint,
   .finishReviewGatePassBranchClosureId, .lastHandoffPath, .lastHandoffFingerprint, .lastPivotPath,
   .lastPivotFingerprint]

/-! ### The slots of the fact payloads

Each payload struct has the slots of its field list, in the order of the list,
less the names the builder has no slot for.  `RepairEventFacts` lists its own in
another order. -/

def factSlots (fields : List Field) : List Field :=
  fields.filter fun f => f ∈ authoritativeFactFields

def stepSlots : List Field := factSlots stepEventFields
def transferSlots : List Field := factSlots transferEventFields
def dispatchSlots : List Field := factSlots dispatchEventFields
def taskClosureSlots : List Field := factSlots taskClosureEventFields
def branchClosureSlots : List Field := factSlots branchClosureEventFields
def releaseReadinessSlots : List Field := factSlots releaseReadinessEventFields
def finalReviewSlots : List Field := factSlots finalReviewEventFields
def qaSlots : List Field := factSlots qaEventFields
def strategySlots : List Field := factSlots strategyEventFields
def runMetadataSlots : List Field := factSlots runMetadataFields
def handoffSlots : List Field := factSlots handoffFields

def repairSlots : List Field :=
  [.currentOpenStepState, .currentTaskClosureRecords, .taskClosureRecordHistory,
   .taskClosureNegativeResultRecords, .taskClosureNegativeResultHistory, .supersededTaskClosureIds,
   .currentBranchClosureId, .currentBranchClosureReviewedStateId,
   .currentBranchClosureContractIdentity, .branchClosureRecords, .supersededBranchClosureIds,
   .currentReleaseReadinessRecordId, .currentReleaseReadinessResult,
   .currentReleaseReadinessSummaryHash, .releaseReadinessRecordHistory,
   .currentFinalReviewBranchClosureId, .currentFinalReviewDispatchId,
   .currentFinalReviewReviewerSource, .currentFinalReviewReviewerId, .currentFinalReviewResult,
   .currentFinalReviewSummaryHash, .currentFinalReviewRecordId, .finalReviewRecordHistory,
   .currentQaBranchClosureId, .currentQaResult, .currentQaSummaryHash, .currentQaRecordId,
   .browserQaRecordHistory, .reviewStateRepairFollowUpRecord, .reviewStateRepairFollowUp,
   .reviewStateRepairFollowUpTask, .reviewStateRepairFollowUpStep,
   .reviewStateRepairFollowUpClosureRecordId, .explicitReopenRepairTargets, .harnessPhase,
   .currentTaskReviewDispatchId, .strategyReviewDispatchLineage,
   .strategyReviewDispatchLineageHistory, .finalReviewDispatchLineage,
   .finalReviewDispatchLineageHistory, .strategyCheckpoints, .strategyState,
   .strategyCheckpointKind, .lastStrategyCheckpointFingerprint, .strategyResetRequired,
   .strategyCycleCounts, .strategyReviewDispatchCredits, .strategyCycleBreakTask,
   .strategyCycleBreakStep, .strategyCycleBreakCheckpointFingerprint,
   .finishReviewGatePassBranchClosureId]

/-- The repair slots are the repair fields the builder has a slot for. -/
theorem mem_repairSlots (f : Field) : f ∈ repairSlots ↔ f ∈ factSlots repairEventFields := by
  have h : ∀ f ∈ Field.all, f ∈ repairSlots ↔ f ∈ factSlots repairEventFields := by decide
  exact h f (Field.mem_all f)

theorem mem_authoritativeEventFields_of_fact {f : Field} (h : f ∈ authoritativeFactFields) :
    f ∈ authoritativeEventFields := by
  have h' : ∀ f ∈ authoritativeFactFields, f ∈ authoritativeEventFields := by decide +kernel
  exact h' f h

end FeatureForge
