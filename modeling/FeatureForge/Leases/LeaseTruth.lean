import FeatureForge.EventLog.Chain
import FeatureForge.EventLog.Reduce
import FeatureForge.Leases.Release

/-!
# The truth of worktree leases

An active lease is a file that a binding names.  The gate checks each one
(`enforceWorktreeLease`): that its file is the one the binding names, that its body is of this
run, plan and branch, and that a lease that is over was reconciled as it was reviewed
(`validateTerminalWorktreeLeaseStructuredProof`).  When a task is closed, its leases that are
over are released (`releasableTerminalWorktreeLeaseFingerprints`) after checks of their own.
-/

namespace FeatureForge

/-! ### Leases -/

inductive WorktreeLeaseState
  | open
  | reviewPassedPendingReconcile
  | reconciled
  | cleaned
  deriving DecidableEq

structure WorktreeLease where
  leaseVersion : UInt32
  authoritativeSequence : UInt64
  executionRunId : String
  executionContextKey : String
  sourcePlanPath : String
  sourcePlanRevision : UInt32
  executionUnitId : String
  sourceBranch : String
  authoritativeIntegrationBranch : String
  worktreePath : String
  repoStateBaselineHeadSha : String
  repoStateBaselineWorktreeFingerprint : String
  leaseState : WorktreeLeaseState
  cleanupState : String
  reviewedCheckpointCommitSha : Option String
  reconcileResultCommitSha : Option String
  reconcileResultProofFingerprint : Option String
  reconcileMode : String
  generatedBy : String
  generatedAt : String
  leaseFingerprint : String
  deriving DecidableEq

/-- `WORKTREE_LEASE_VERSION`. -/
def worktreeLeaseVersion : UInt32 := 1

/-- `require_non_empty`. -/
def requireNonEmpty (value fieldName : String) : Except JsonFailure Unit :=
  if trim value = "" then
    .error ⟨.malformedExecutionState, "WorktreeLease is missing non-empty " ++ fieldName ++ "."⟩
  else .ok ()

/-- A text that a lease has where it is in a state that requires it. -/
def requireProvenance (required : Bool) (value : Option String) (fieldName message : String) :
    Except JsonFailure Unit :=
  if required && (nonBlank value).isNone then .error ⟨.malformedExecutionState, message⟩
  else match value with
    | none => .ok ()
    | some value => requireNonEmpty value fieldName

/-- A lease that is malformed. -/
def rejectLeaseIf (condition : Bool) (message : String) : Except JsonFailure Unit :=
  if condition then .error ⟨.malformedExecutionState, message⟩ else .ok ()

/-- `validate_worktree_lease`. -/
def validateWorktreeLease (lease : WorktreeLease) : Except JsonFailure Unit := do
  rejectLeaseIf (lease.leaseVersion ≠ worktreeLeaseVersion)
    ("WorktreeLease has unsupported lease_version " ++
      String.ofList (decimal lease.leaseVersion) ++ ".")
  rejectLeaseIf (lease.authoritativeSequence = 0)
    "WorktreeLease must record a non-zero authoritative_sequence."
  requireNonEmpty lease.executionRunId "execution_run_id"
  requireNonEmpty lease.executionContextKey "execution_context_key"
  requireNonEmpty lease.sourcePlanPath "source_plan_path"
  requireNonEmpty lease.executionUnitId "execution_unit_id"
  requireNonEmpty lease.sourceBranch "source_branch"
  requireNonEmpty lease.authoritativeIntegrationBranch "authoritative_integration_branch"
  requireNonEmpty lease.worktreePath "worktree_path"
  requireNonEmpty lease.repoStateBaselineHeadSha "repo_state_baseline_head_sha"
  requireNonEmpty lease.repoStateBaselineWorktreeFingerprint
    "repo_state_baseline_worktree_fingerprint"
  requireNonEmpty lease.cleanupState "cleanup_state"
  requireNonEmpty lease.reconcileMode "reconcile_mode"
  requireNonEmpty lease.generatedBy "generated_by"
  requireNonEmpty lease.generatedAt "generated_at"
  requireNonEmpty lease.leaseFingerprint "lease_fingerprint"
  requireProvenance (lease.leaseState ≠ .open) lease.reviewedCheckpointCommitSha
    "reviewed_checkpoint_commit_sha"
    "WorktreeLease must include reviewed_checkpoint_commit_sha while lease_state is not open."
  let terminal := lease.leaseState = .reconciled || lease.leaseState = .cleaned
  requireProvenance terminal lease.reconcileResultCommitSha "reconcile_result_commit_sha"
    "WorktreeLease must include reconcile_result_commit_sha while lease_state is terminal."
  requireProvenance terminal lease.reconcileResultProofFingerprint
    "reconcile_result_proof_fingerprint"
    "WorktreeLease must include reconcile_result_proof_fingerprint while lease_state is terminal."

/-! ### What the checks look at -/

/-- A file among the authoritative artifacts. -/
inductive LeaseFile
  | missing (error : String)
  | notRegular
  | unreadable (error : String)
  | regular (source : List Char)

/-- What the checks ask the file system, the repository, `serde_json` and the plan. -/
structure LeaseWorld where
  sha : Sha256Hex
  jsonFromStr : List Char → Option Json
  leaseFromStr : List Char → Except String WorktreeLease
  artifact : List Char → LeaseFile
  /-- `display` of the path of an artifact -/
  artifactDisplay : List Char → String
  commitObjectFingerprint : String → Option String
  isAncestorCommit : String → String → Bool
  taskPacketFingerprint : String → UInt32 → UInt32 → Option String

/-- The members of `ExecutionContext` that the checks read. -/
structure LeasePlanContext where
  planRel : String
  planRevision : UInt32
  branchName : String

/-- The members of the authoritative state that the checks read. -/
structure WorktreeLeaseAuthoritativeContext where
  repoStateBaselineHeadSha : Option String
  repoStateBaselineWorktreeFingerprint : Option String

/-- The members of `ExecutionContract` that the checks read. -/
structure LeaseContract where
  contractFingerprint : String
  sourceSpecFingerprint : String
  coveredSteps : List String
  sourceTaskPacketFingerprints : List String

variable (world : LeaseWorld) (context : LeasePlanContext)

/-- `worktree_lease_execution_context_key`. -/
def worktreeLeaseExecutionContextKey (executionRunId executionUnitId sourcePlanPath : String)
    (sourcePlanRevision : UInt32)
    (authoritativeIntegrationBranch reviewedCheckpointCommitSha : String) : String :=
  world.sha ("run=" ++ executionRunId ++ "\nunit=" ++ executionUnitId ++ "\nplan=" ++
    sourcePlanPath ++ "\nplan_revision=" ++ String.ofList (decimal sourcePlanRevision) ++
    "\nbranch=" ++ authoritativeIntegrationBranch ++ "\nreviewed_checkpoint=" ++
    reviewedCheckpointCommitSha ++ "\n").toList

/-- `expected_worktree_lease_execution_context_key`. -/
def expectedWorktreeLeaseExecutionContextKey (runIdentity : RunIdentitySnapshot)
    (lease : WorktreeLease) : String :=
  worktreeLeaseExecutionContextKey world runIdentity.executionRunId lease.executionUnitId
    context.planRel context.planRevision lease.authoritativeIntegrationBranch
    ((nonBlank lease.reviewedCheckpointCommitSha).getD "open")

/-- `approved_unit_contract_fingerprint_for_review`. -/
def approvedUnitContractFingerprintForReview (activeContractFingerprint
    approvedTaskPacketFingerprint executionUnitId : String) : String :=
  world.sha ("approved-unit-contract:" ++ activeContractFingerprint ++ ":" ++
    approvedTaskPacketFingerprint ++ ":" ++ executionUnitId).toList

/-- `canonical_worktree_lease_fingerprint`. -/
def canonicalWorktreeLeaseFingerprint (source : List Char) : Option String :=
  ((world.jsonFromStr source).bind Json.asObject).map fun object =>
    world.sha (Json.obj (object.erase "lease_fingerprint")).raw.print

/-- `lease_applies_to_current_plan_context`. -/
def leaseAppliesToCurrentPlanContext (lease : WorktreeLease) : Bool :=
  lease.sourcePlanPath = context.planRel && lease.sourcePlanRevision = context.planRevision &&
    lease.authoritativeIntegrationBranch = context.branchName && trim lease.sourceBranch ≠ ""

/-- The canonical name of the file of a lease. -/
def worktreeLeaseFileName (lease : WorktreeLease) : List Char :=
  "worktree-lease-".toList ++ branchStorageKey world.sha context.branchName.toList ++ ['-'] ++
    lease.executionRunId.toList ++ ['-'] ++ lease.executionContextKey.toList ++ ".json".toList

/-! ### Checks -/

def failed (failureClass : FailureClass) (code message : String) : Except GateDiagnostic α :=
  .error ⟨failureClass, code, message⟩

/-- A check that fails with a diagnostic. -/
def demand (condition : Bool) (failureClass : FailureClass) (code message : String) :
    Except GateDiagnostic Unit :=
  if condition then .ok () else failed failureClass code message

/-- A value that has to be there. -/
def demandSome (value : Option String) (failureClass : FailureClass) (code message : String) :
    Except GateDiagnostic String :=
  match value with
  | none => failed failureClass code message
  | some value => .ok value

/-- A text that has to be there and not be blank. -/
def demandText (value : Option String) (failureClass : FailureClass) (code message : String) :
    Except GateDiagnostic String :=
  demandSome (nonBlank value) failureClass code message

/-- `normalize_authoritative_artifact_binding_path`: a path of one normal component. -/
def normalizeAuthoritativeArtifactBindingPath (rawPath artifactKind : String) :
    Except GateDiagnostic (List Char) :=
  let trimmed := trimChars rawPath.toList
  let invalid := failed .malformedExecutionState "worktree_lease_binding_path_invalid"
    ("Authoritative " ++ artifactKind ++ " binding path must be a normalized relative filename.")
  -- a root and a leading `.` are components of their own
  if trimmed.head? = some '/' || (trimmed.splitOnP (· == '/')).head? = some ['.'] then invalid
  else match pathParts trimmed with
    | [component] => if component = ['.', '.'] then invalid else .ok component
    | _ => invalid

/-- `validate_authoritative_worktree_lease_fingerprint`. -/
def validateAuthoritativeWorktreeLeaseFingerprint (source : List Char) (lease : WorktreeLease)
    (leasePath : String) : Except GateDiagnostic Unit :=
  match canonicalWorktreeLeaseFingerprint world source with
  | none => failed .malformedExecutionState "worktree_lease_fingerprint_unverifiable"
      ("Authoritative worktree lease fingerprint is unverifiable in " ++ leasePath ++ ".")
  | some canonicalFingerprint =>
    demand (canonicalFingerprint = lease.leaseFingerprint) .artifactIntegrityMismatch
      "worktree_lease_fingerprint_mismatch"
      ("Authoritative worktree lease fingerprint does not match canonical content in " ++
        leasePath ++ ".")

structure TerminalWorktreeLeaseProof where
  reviewedCheckpointCommitSha : String
  reconcileResultCommitSha : String
  reconcileResultProofFingerprint : String
  deriving DecidableEq

/-- `validate_terminal_worktree_lease_proof`. -/
def validateTerminalWorktreeLeaseProof (lease : WorktreeLease) (currentHead : String) :
    Except GateDiagnostic TerminalWorktreeLeaseProof := do
  let reviewedCheckpointCommitSha ← demandText lease.reviewedCheckpointCommitSha
    .executionStateNotReady "worktree_lease_identity_preserving_provenance_missing"
    "An authoritative worktree lease is missing the reviewed checkpoint required to release dependent work."
  let reconcileResultCommitSha ← demandText lease.reconcileResultCommitSha
    .executionStateNotReady "worktree_lease_identity_preserving_proof_missing"
    "An authoritative worktree lease is missing the exact reconciled commit proof required to release dependent work."
  let reconcileResultProofFingerprint ← demandText lease.reconcileResultProofFingerprint
    .executionStateNotReady "worktree_lease_identity_preserving_proof_missing"
    "An authoritative worktree lease is missing the exact reconciled commit object proof required to release dependent work."
  let computed ← demandSome (world.commitObjectFingerprint reconcileResultCommitSha)
    .malformedExecutionState "worktree_lease_identity_preserving_proof_unverifiable"
    "The authoritative worktree lease exact reconcile proof could not be verified against repository history."
  demand (reconcileResultProofFingerprint = computed) .staleProvenance
    "worktree_lease_identity_preserving_lease_proof_mismatch"
    "The authoritative worktree lease exact reconciled commit object proof does not match the reviewed reconcile proof."
  demand (world.isAncestorCommit reviewedCheckpointCommitSha reconcileResultCommitSha)
    .staleProvenance "worktree_lease_checkpoint_mismatch"
    "Authoritative worktree lease reconciled result is not descended from the reviewed checkpoint."
  demand (world.isAncestorCommit reconcileResultCommitSha currentHead) .staleProvenance
    "worktree_lease_checkpoint_mismatch"
    "Authoritative worktree lease reconciled result is not contained in the current branch history."
  demand (trim lease.cleanupState = "cleaned") .executionStateNotReady
    "worktree_lease_cleanup_pending" "Authoritative worktree lease has not been cleaned up yet."
  .ok ⟨reviewedCheckpointCommitSha, reconcileResultCommitSha, computed⟩

structure TerminalWorktreeLeaseStructuredProof where
  approvedTaskPacketFingerprint : String
  approvedUnitContractFingerprint : String
  terminalLeaseProof : TerminalWorktreeLeaseProof
  deriving DecidableEq

/-- `validate_terminal_worktree_lease_structured_proof`. -/
def validateTerminalWorktreeLeaseStructuredProof (runIdentity : RunIdentitySnapshot)
    (authoritative : WorktreeLeaseAuthoritativeContext) (lease : WorktreeLease)
    (binding : WorktreeLeaseBindingSnapshot) (contract : LeaseContract)
    (contractFingerprint currentHead : String) :
    Except GateDiagnostic TerminalWorktreeLeaseStructuredProof := do
  let packet ← demandText binding.approvedTaskPacketFingerprint .executionStateNotReady
    "worktree_lease_review_binding_task_packet_missing"
    "A runtime-owned worktree lease review binding is required to bind the approved task packet before a cleaned worktree lease can release dependent work."
  demand (packet ∈ contract.sourceTaskPacketFingerprints) .malformedExecutionState
    "worktree_lease_review_binding_task_packet_not_authoritative"
    "The runtime-owned worktree lease review binding does not bind a task packet from the current authoritative contract."
  let proof ← validateTerminalWorktreeLeaseProof world lease currentHead
  let unitContract ← demandText binding.approvedUnitContractFingerprint .executionStateNotReady
    "worktree_lease_review_binding_unit_contract_missing"
    "A runtime-owned worktree lease review binding is required to bind the approved unit contract before a cleaned worktree lease can release dependent work."
  demand (unitContract = approvedUnitContractFingerprintForReview world contractFingerprint packet
      lease.executionUnitId) .malformedExecutionState
    "worktree_lease_review_binding_unit_contract_mismatch"
    "The runtime-owned worktree lease review binding does not bind the canonical approved unit contract fingerprint."
  let checkpoint ← demandText binding.reviewedCheckpointCommitSha .executionStateNotReady
    "worktree_lease_review_binding_checkpoint_missing"
    "A runtime-owned worktree lease review binding is required to bind the reviewed checkpoint before a cleaned worktree lease can release dependent work."
  let reconcileMode ← demandText binding.reconcileMode .executionStateNotReady
    "worktree_lease_review_binding_reconcile_mode_missing"
    "A runtime-owned worktree lease review binding is required to bind the identity-preserving reconcile mode before a cleaned worktree lease can release dependent work."
  let reconcileResult ← demandText binding.reconcileResultCommitSha .executionStateNotReady
    "worktree_lease_review_binding_reconcile_result_missing"
    "A runtime-owned worktree lease review binding is required to bind the exact reconciled commit before a cleaned worktree lease can release dependent work."
  let reconcileProof ← demandText binding.reconcileResultProofFingerprint .executionStateNotReady
    "worktree_lease_review_binding_reconcile_proof_missing"
    "A runtime-owned worktree lease review binding is required to bind the exact reconciled commit object before a cleaned worktree lease can release dependent work."
  demand (reconcileProof = proof.reconcileResultProofFingerprint) .staleProvenance
    "worktree_lease_identity_preserving_proof_mismatch"
    "The authoritative worktree lease exact reconciled commit object does not match the runtime-owned worktree lease review binding."
  demand (checkpoint = proof.reviewedCheckpointCommitSha) .staleProvenance
    "worktree_lease_identity_preserving_provenance_mismatch"
    "Authoritative worktree lease reviewed checkpoint does not match the runtime-owned worktree lease review binding."
  demand (reconcileResult = proof.reconcileResultCommitSha) .staleProvenance
    "worktree_lease_identity_preserving_proof_mismatch"
    "Authoritative worktree lease reconciled result does not match the runtime-owned worktree lease review binding."
  let expectedKey := expectedWorktreeLeaseExecutionContextKey world context runIdentity lease
  demand (trim lease.executionContextKey = expectedKey) .malformedExecutionState
    "worktree_lease_execution_context_key_mismatch"
    "Authoritative worktree lease body does not match the current execution context."
  demand (nonBlank binding.executionContextKey = some expectedKey) .malformedExecutionState
    "worktree_lease_execution_context_key_mismatch"
    "Authoritative worktree lease binding does not match the current execution context."
  demand (reconcileMode = "identity_preserving" &&
      trim lease.reconcileMode = "identity_preserving") .staleProvenance
    "worktree_lease_identity_preserving_reconcile_mode_mismatch"
    "Authoritative worktree lease does not prove an identity-preserving reconcile."
  demand (lease.reviewedCheckpointCommitSha = some checkpoint) .staleProvenance
    "worktree_lease_review_binding_checkpoint_mismatch"
    "Authoritative worktree lease reviewed checkpoint does not match the runtime-owned worktree lease review binding."
  let baselineHead ← demandText authoritative.repoStateBaselineHeadSha .malformedExecutionState
    "worktree_lease_authoritative_state_missing"
    "Authoritative harness state is missing the baseline head provenance required for worktree lease gating."
  let baselineWorktree ← demandText authoritative.repoStateBaselineWorktreeFingerprint
    .malformedExecutionState "worktree_lease_authoritative_state_missing"
    "Authoritative harness state is missing the baseline worktree provenance required for worktree lease gating."
  demand (trim lease.repoStateBaselineHeadSha = baselineHead) .staleProvenance
    "worktree_lease_identity_preserving_provenance_mismatch"
    "Authoritative worktree lease baseline head provenance does not match the current authoritative baseline."
  demand (trim lease.repoStateBaselineWorktreeFingerprint = baselineWorktree) .staleProvenance
    "worktree_lease_identity_preserving_provenance_mismatch"
    "Authoritative worktree lease baseline worktree provenance does not match the current authoritative baseline."
  .ok ⟨packet, unitContract, proof⟩

/-! ### The gate -/

/-- The file of a lease, as a binding names it: its source and its body. -/
def readWorktreeLease (name : List Char) : Except GateDiagnostic (List Char × WorktreeLease) :=
  let path := world.artifactDisplay name
  match world.artifact name with
  | .missing error => failed .malformedExecutionState "worktree_lease_metadata_unreadable"
      ("Could not inspect authoritative worktree lease " ++ path ++ ": " ++ error)
  | .notRegular => failed .malformedExecutionState "worktree_lease_path_not_regular_file"
      ("Authoritative worktree lease must be a regular file in " ++ path ++ ".")
  | .unreadable error => failed .malformedExecutionState "worktree_lease_unreadable"
      ("Could not read authoritative worktree lease " ++ path ++ ": " ++ error)
  | .regular source =>
    match world.leaseFromStr source with
    | .error error => failed .malformedExecutionState "worktree_lease_malformed"
        ("Authoritative worktree lease is malformed in " ++ path ++ ": " ++ error)
    | .ok lease => .ok (source, lease)

/-- What the state of a lease asks for. -/
def enforceLeaseState (runIdentity : RunIdentitySnapshot)
    (authoritative : WorktreeLeaseAuthoritativeContext) (contract : LeaseContract)
    (contractFingerprint currentHead : String) (binding : WorktreeLeaseBindingSnapshot)
    (lease : WorktreeLease) : Except GateDiagnostic Unit :=
  match lease.leaseState with
  | .open => failed .executionStateNotReady "worktree_lease_open"
      "An authoritative worktree lease remains open."
  | .reviewPassedPendingReconcile =>
    failed .executionStateNotReady "worktree_lease_reconcile_pending"
      "An authoritative worktree lease has passed review but not yet been reconciled."
  | .reconciled | .cleaned =>
    (validateTerminalWorktreeLeaseStructuredProof world context runIdentity authoritative lease
      binding contract contractFingerprint currentHead).map fun _ => ()

/-- One turn of the loop of `enforce_worktree_lease_binding_truth`. -/
def enforceWorktreeLease (runIdentity : RunIdentitySnapshot)
    (authoritative : WorktreeLeaseAuthoritativeContext) (contract : LeaseContract)
    (contractFingerprint currentHead : String) (fingerprint : String)
    (binding : WorktreeLeaseBindingSnapshot) : Except GateDiagnostic Unit := do
  let name ← normalizeAuthoritativeArtifactBindingPath binding.leaseArtifactPath "worktree lease"
  let (source, lease) ← readWorktreeLease world name
  demand (name = worktreeLeaseFileName world context lease) .malformedExecutionState
    "worktree_lease_binding_path_invalid"
    "Authoritative worktree lease binding path does not match the canonical runtime-owned filename."
  demand (lease.leaseFingerprint = fingerprint) .malformedExecutionState
    "worktree_lease_provenance_unindexed"
    "Authoritative worktree lease fingerprint is not indexed by the current runtime state."
  demand (lease.executionRunId = runIdentity.executionRunId) .malformedExecutionState
    "worktree_lease_run_id_mismatch"
    "Authoritative worktree lease body does not match the current execution run."
  demand (leaseAppliesToCurrentPlanContext context lease) .malformedExecutionState
    "worktree_lease_plan_context_mismatch"
    "Authoritative worktree lease does not match the current plan and execution context."
  (validateWorktreeLease lease).mapError fun error =>
    ⟨.malformedExecutionState, "worktree_lease_validation_failed", error.message⟩
  demand (nonBlank authoritative.repoStateBaselineHeadSha).isSome .malformedExecutionState
    "worktree_lease_authoritative_state_missing"
    "Authoritative harness state is missing the baseline head provenance required for worktree lease gating."
  demand (nonBlank authoritative.repoStateBaselineWorktreeFingerprint).isSome
    .malformedExecutionState "worktree_lease_authoritative_state_missing"
    "Authoritative harness state is missing the baseline worktree provenance required for worktree lease gating."
  demand (trim lease.executionContextKey =
      expectedWorktreeLeaseExecutionContextKey world context runIdentity lease)
    .malformedExecutionState "worktree_lease_execution_context_key_mismatch"
    "Authoritative worktree lease body does not match the current execution context."
  validateAuthoritativeWorktreeLeaseFingerprint world source lease (world.artifactDisplay name)
  enforceLeaseState world context runIdentity authoritative contract contractFingerprint currentHead
    binding lease

/-- What of the lease's truth has been loaded; `none` where it could not be. -/
structure LeaseAuthority where
  runIdentity : Option RunIdentitySnapshot
  authoritative : WorktreeLeaseAuthoritativeContext
  /-- the active contract, and the fingerprint it is active under -/
  activeContract : Option (LeaseContract × String)
  currentHead : Option String

/-- `parse_contract_task_step_scope`. -/
def parseContractTaskStepScope (value : String) : Option (UInt32 × UInt32) :=
  match splitWhitespace value.toList with
  | [taskWord, task, stepWord, step] =>
    if taskWord = "Task".toList ∧ stepWord = "Step".toList then
      (parseU32 task).bind fun task => (parseU32 step).map fun step => (task, step)
    else none
  | _ => none

/-- `task_packet_fingerprints_for_contract_task`. -/
def taskPacketFingerprintsForContractTask (contract : LeaseContract) (taskNumber : UInt32) :
    List String :=
  (((contract.coveredSteps.filterMap parseContractTaskStepScope).filter
    fun scope => scope.1 = taskNumber).filterMap fun scope =>
      world.taskPacketFingerprint contract.sourceSpecFingerprint taskNumber scope.2).filter
        fun fingerprint => fingerprint ∈ contract.sourceTaskPacketFingerprints

/-- `load_worktree_lease_for_release`. -/
def loadWorktreeLeaseForRelease (binding : WorktreeLeaseBindingSnapshot) :
    Option WorktreeLease := do
  let name ← (normalizeAuthoritativeArtifactBindingPath binding.leaseArtifactPath
    "worktree lease").toOption
  let (source, lease) ← (readWorktreeLease world name).toOption
  guard (name = worktreeLeaseFileName world context lease)
  guard (lease.leaseFingerprint = trim binding.leaseFingerprint)
  guard (lease.executionRunId = trim binding.executionRunId)
  guard (leaseAppliesToCurrentPlanContext context lease)
  let _ ← (validateWorktreeLease lease).toOption
  let _ ← (validateAuthoritativeWorktreeLeaseFingerprint world source lease
    (world.artifactDisplay name)).toOption
  some lease

/-- `releasable_terminal_worktree_lease_fingerprint`. -/
def releasableTerminalWorktreeLeaseFingerprint (runIdentity : RunIdentitySnapshot)
    (authoritative : WorktreeLeaseAuthoritativeContext) (contract : LeaseContract)
    (contractFingerprint currentHead : String) (taskPacketFingerprints : List String)
    (binding : WorktreeLeaseBindingSnapshot) : Option String := do
  let packet ← nonBlank binding.approvedTaskPacketFingerprint
  guard (packet ∈ taskPacketFingerprints ∧ packet ∈ contract.sourceTaskPacketFingerprints)
  let lease ← loadWorktreeLeaseForRelease world context binding
  guard (lease.leaseState = .reconciled ∨ lease.leaseState = .cleaned)
  let _ ← (validateTerminalWorktreeLeaseStructuredProof world context runIdentity authoritative
    lease binding contract contractFingerprint currentHead).toOption
  some (trim binding.leaseFingerprint)

/-- `releasable_terminal_worktree_lease_fingerprints_for_task_closure`. -/
def releasableTerminalWorktreeLeaseFingerprints (authority : LeaseAuthority)
    (executionRunId : Option String) (fingerprints : List String)
    (bindings : List WorktreeLeaseBindingSnapshot) (taskNumber : UInt32) : Option (List String) := do
  let executionRunId ← nonBlank executionRunId
  guard (fingerprints ≠ [])
  let runIdentity ← authority.runIdentity
  guard (trim runIdentity.executionRunId = executionRunId ∧
    runIdentity.sourcePlanPath = context.planRel ∧
    runIdentity.sourcePlanRevision = context.planRevision)
  let (contract, contractFingerprint) ← authority.activeContract
  guard (contract.contractFingerprint = contractFingerprint)
  let taskPacketFingerprints := taskPacketFingerprintsForContractTask world contract taskNumber
  guard (taskPacketFingerprints ≠ [])
  let currentHead ← authority.currentHead
  some (((bindings.filter fun binding => trim binding.executionRunId = executionRunId).filter
    fun binding => binding.leaseFingerprint ∈ fingerprints).filterMap
      (releasableTerminalWorktreeLeaseFingerprint world context runIdentity authority.authoritative
        contract contractFingerprint currentHead taskPacketFingerprints))

/-- The fingerprints that are releasable; none where something could not be loaded. -/
def releasableFingerprints (authority : LeaseAuthority) (executionRunId : Option String)
    (fingerprints : List String) (bindings : List WorktreeLeaseBindingSnapshot)
    (taskNumber : UInt32) : List String :=
  (releasableTerminalWorktreeLeaseFingerprints world context authority executionRunId fingerprints
    bindings taskNumber).getD []

end FeatureForge
