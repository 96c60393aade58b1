import FeatureForge.Evidence.Attempts
import FeatureForge.Lib.Values

/-!
# Attempts as values

The state keeps the attempts at the steps as a list of structs, under
`execution_evidence_attempts`.  Here are the written forms of `EvidenceAttempt` and `FileProof`,
and that a list of attempts reads back as it was written.
-/

namespace FeatureForge

open Members

namespace FileProof

def toMembers (proof : FileProof) : Members :=
  [("path", ValueCodec.text.encode proof.path), ("proof", ValueCodec.text.encode proof.proof)]

def fromMembers (ms : Members) : Option FileProof :=
  if noDuplicates ["path", "proof"] ms then do
    let path ← getRequired ms "path" ValueCodec.text.toCodec
    let proof ← getRequired ms "proof" ValueCodec.text.toCodec
    some { path, proof }
  else none

def codec : ValueCodec FileProof :=
  .struct ["path", "proof"] toMembers fromMembers
    (fun _ => show ["path", "proof"].Nodup by decide)
    fun proof ms h => by
      rw [fromMembers, if_pos h.once, h.required (c := .text) (b := proof.path) rfl,
        h.required (c := .text) (b := proof.proof) rfl]
      rfl

end FileProof

namespace EvidenceAttempt

def fieldNames : List String :=
  ["task_number", "step_number", "attempt_number", "status", "recorded_at", "execution_source",
   "claim", "files", "file_proofs", "verify_command", "verification_summary",
   "invalidation_reason", "packet_fingerprint", "head_sha", "base_sha", "source_contract_path",
   "source_contract_fingerprint", "source_evaluation_report_fingerprint", "evaluator_verdict",
   "failing_criterion_ids", "source_handoff_fingerprint", "repo_state_baseline_head_sha",
   "repo_state_baseline_worktree_fingerprint"]

/-- A text, or null for none. -/
def textOrNull (v : Option (List Char)) : RawJson := (v.map ValueCodec.text.encode).getD .null

def toMembers (attempt : EvidenceAttempt) : Members :=
  [("task_number", ValueCodec.u32.encode attempt.taskNumber),
   ("step_number", ValueCodec.u32.encode attempt.stepNumber),
   ("attempt_number", ValueCodec.u32.encode attempt.attemptNumber),
   ("status", ValueCodec.text.encode attempt.status),
   ("recorded_at", ValueCodec.text.encode attempt.recordedAt),
   ("execution_source", ValueCodec.text.encode attempt.executionSource),
   ("claim", ValueCodec.text.encode attempt.claim),
   ("files", (ValueCodec.list .text).encode attempt.files),
   ("file_proofs", (ValueCodec.list FileProof.codec).encode attempt.fileProofs),
   ("verify_command", textOrNull attempt.verifyCommand),
   ("verification_summary", ValueCodec.text.encode attempt.verificationSummary),
   ("invalidation_reason", ValueCodec.text.encode attempt.invalidationReason),
   ("packet_fingerprint", textOrNull attempt.packetFingerprint),
   ("head_sha", textOrNull attempt.headSha),
   ("base_sha", textOrNull attempt.baseSha),
   ("source_contract_path", textOrNull attempt.sourceContractPath),
   ("source_contract_fingerprint", textOrNull attempt.sourceContractFingerprint),
   ("source_evaluation_report_fingerprint", textOrNull attempt.sourceEvaluationReportFingerprint),
   ("evaluator_verdict", textOrNull attempt.evaluatorVerdict),
   ("failing_criterion_ids", (ValueCodec.list .text).encode attempt.failingCriterionIds),
   ("source_handoff_fingerprint", textOrNull attempt.sourceHandoffFingerprint),
   ("repo_state_baseline_head_sha", textOrNull attempt.repoStateBaselineHeadSha),
   ("repo_state_baseline_worktree_fingerprint",
     textOrNull attempt.repoStateBaselineWorktreeFingerprint)]

def fromMembers (ms : Members) : Option EvidenceAttempt :=
  if noDuplicates fieldNames ms then do
    let taskNumber ← getRequired ms "task_number" ValueCodec.u32.toCodec
    let stepNumber ← getRequired ms "step_number" ValueCodec.u32.toCodec
    let attemptNumber ← getRequired ms "attempt_number" ValueCodec.u32.toCodec
    let status ← getRequired ms "status" ValueCodec.text.toCodec
    let recordedAt ← getRequired ms "recorded_at" ValueCodec.text.toCodec
    let executionSource ← getRequired ms "execution_source" ValueCodec.text.toCodec
    let claim ← getRequired ms "claim" ValueCodec.text.toCodec
    let files ← getRequired ms "files" (ValueCodec.list .text).toCodec
    let fileProofs ← getRequired ms "file_proofs" (ValueCodec.list FileProof.codec).toCodec
    let verifyCommand ← getOptional ms "verify_command" ValueCodec.text.toCodec
    let verificationSummary ← getRequired ms "verification_summary" ValueCodec.text.toCodec
    let invalidationReason ← getRequired ms "invalidation_reason" ValueCodec.text.toCodec
    let packetFingerprint ← getOptional ms "packet_fingerprint" ValueCodec.text.toCodec
    let headSha ← getOptional ms "head_sha" ValueCodec.text.toCodec
    let baseSha ← getOptional ms "base_sha" ValueCodec.text.toCodec
    let sourceContractPath ← getOptional ms "source_contract_path" ValueCodec.text.toCodec
    let sourceContractFingerprint ←
      getOptional ms "source_contract_fingerprint" ValueCodec.text.toCodec
    let sourceEvaluationReportFingerprint ←
      getOptional ms "source_evaluation_report_fingerprint" ValueCodec.text.toCodec
    let evaluatorVerdict ← getOptional ms "evaluator_verdict" ValueCodec.text.toCodec
    let failingCriterionIds ← getRequired ms "failing_criterion_ids" (ValueCodec.list .text).toCodec
    let sourceHandoffFingerprint ←
      getOptional ms "source_handoff_fingerprint" ValueCodec.text.toCodec
    let repoStateBaselineHeadSha ←
      getOptional ms "repo_state_baseline_head_sha" ValueCodec.text.toCodec
    let repoStateBaselineWorktreeFingerprint ←
      getOptional ms "repo_state_baseline_worktree_fingerprint" ValueCodec.text.toCodec
    some {
      taskNumber, stepNumber, attemptNumber, status, recordedAt, executionSource, claim, files,
      fileProofs, verifyCommand, verificationSummary, invalidationReason, packetFingerprint,
      headSha, baseSha, sourceContractPath, sourceContractFingerprint,
      sourceEvaluationReportFingerprint, evaluatorVerdict, failingCriterionIds,
      sourceHandoffFingerprint, repoStateBaselineHeadSha, repoStateBaselineWorktreeFingerprint }
  else none

theorem keys_toMembers (attempt : EvidenceAttempt) :
    attempt.toMembers.map Prod.fst = fieldNames := rfl

/-- **An attempt reads back as it was written.** -/
theorem fromMembers_of_readsAs {attempt : EvidenceAttempt} {ms : Members}
    (h : ReadsAs fieldNames attempt.toMembers ms) : fromMembers ms = some attempt := by
  have htext : ∀ {k : String} {v : List Char},
      member attempt.toMembers k = some (ValueCodec.text.encode v) →
      getRequired ms k ValueCodec.text.toCodec = some v := h.required
  have hoption : ∀ {k : String} {v : Option (List Char)},
      member attempt.toMembers k = some (textOrNull v) →
      getOptional ms k ValueCodec.text.toCodec = some v := h.optional
  rw [fromMembers, if_pos h.once,
    h.required (c := .u32) (b := attempt.taskNumber) rfl,
    h.required (c := .u32) (b := attempt.stepNumber) rfl,
    h.required (c := .u32) (b := attempt.attemptNumber) rfl,
    htext (v := attempt.status) rfl, htext (v := attempt.recordedAt) rfl,
    htext (v := attempt.executionSource) rfl, htext (v := attempt.claim) rfl,
    h.required (c := .list .text) (b := attempt.files) rfl,
    h.required (c := .list FileProof.codec) (b := attempt.fileProofs) rfl,
    hoption (v := attempt.verifyCommand) rfl, htext (v := attempt.verificationSummary) rfl,
    htext (v := attempt.invalidationReason) rfl, hoption (v := attempt.packetFingerprint) rfl,
    hoption (v := attempt.headSha) rfl, hoption (v := attempt.baseSha) rfl,
    hoption (v := attempt.sourceContractPath) rfl,
    hoption (v := attempt.sourceContractFingerprint) rfl,
    hoption (v := attempt.sourceEvaluationReportFingerprint) rfl,
    hoption (v := attempt.evaluatorVerdict) rfl,
    h.required (c := .list .text) (b := attempt.failingCriterionIds) rfl,
    hoption (v := attempt.sourceHandoffFingerprint) rfl,
    hoption (v := attempt.repoStateBaselineHeadSha) rfl,
    hoption (v := attempt.repoStateBaselineWorktreeFingerprint) rfl]
  rfl

def codec : ValueCodec EvidenceAttempt :=
  .struct fieldNames toMembers fromMembers
    (fun attempt => by rw [keys_toMembers]; simp [fieldNames])
    fun _ _ => fromMembers_of_readsAs

end EvidenceAttempt

end FeatureForge
