import FeatureForge.Contracts.PlanFidelity
import FeatureForge.Diagnostics
import FeatureForge.Paths.BranchKey

/-!
# Releasing worktree leases

The active leases of a run are kept twice, as fingerprints and as bindings, beside the records
of those that were released.  `release_active_worktree_leases_with_locked_index` asks for a
decision on the active leases, takes what is decided out of both lists and adds the records it
came with.
-/

namespace FeatureForge

structure RunIdentitySnapshot where
  executionRunId : String
  sourcePlanPath : String
  sourcePlanRevision : UInt32
  deriving DecidableEq

structure WorktreeLeaseBindingSnapshot where
  executionRunId : String
  leaseFingerprint : String
  leaseArtifactPath : String
  executionContextKey : Option String
  approvedTaskPacketFingerprint : Option String
  approvedUnitContractFingerprint : Option String
  reconcileResultProofFingerprint : Option String
  reviewedCheckpointCommitSha : Option String
  reconcileResultCommitSha : Option String
  reconcileMode : Option String
  reviewReceiptFingerprint : Option String
  reviewReceiptArtifactPath : Option String
  deriving DecidableEq

structure WorktreeLeaseReleaseRecord where
  executionRunId : String
  leaseFingerprint : String
  sourceTask : UInt32
  sourceTaskClosureRecordId : String
  releasedBy : String
  deriving DecidableEq

/-- The members of `MutableHarnessState` that a release works on. -/
structure LeaseIndex where
  runIdentity : Option RunIdentitySnapshot
  chunkId : Option String
  activeWorktreeLeaseFingerprints : Option (List String)
  activeWorktreeLeaseBindings : Option (List WorktreeLeaseBindingSnapshot)
  releasedWorktreeLeaseRecords : Option (List WorktreeLeaseReleaseRecord)
  deriving DecidableEq

structure WorktreeLeaseReleaseDecision where
  releasedBy : List (UInt32 × String)
  leaseFingerprints : List String
  releaseRecords : List WorktreeLeaseReleaseRecord
  deriving DecidableEq

structure WorktreeLeaseReleaseApplication where
  releasedBy : List (UInt32 × String)
  removedFingerprints : List String
  releaseRecords : List WorktreeLeaseReleaseRecord

namespace LeaseIndex

def fingerprints (s : LeaseIndex) : List String := s.activeWorktreeLeaseFingerprints.getD []

def bindings (s : LeaseIndex) : List WorktreeLeaseBindingSnapshot :=
  s.activeWorktreeLeaseBindings.getD []

def records (s : LeaseIndex) : List WorktreeLeaseReleaseRecord :=
  s.releasedWorktreeLeaseRecords.getD []

end LeaseIndex

/-! ### Checks -/

def validateSafeIdentifierToken (value fieldName : String) : Except JsonFailure Unit :=
  if normalizeIdentifierToken value.toList = [] ∨
      normalizeIdentifierToken value.toList ≠ value.toList then
    .error ⟨.malformedExecutionState,
      "Authoritative " ++ fieldName ++ " must be a safe identifier token."⟩
  else .ok ()

def validateArtifactFileName (value fieldName : String) : Except JsonFailure Unit :=
  if trimChars value.toList = [] ∨ '/' ∈ value.toList ∨ '\\' ∈ value.toList ∨
      fileName value.toList ≠ some value.toList then
    .error ⟨.malformedExecutionState,
      "Authoritative " ++ fieldName ++ " must stay within authoritative-artifacts."⟩
  else .ok ()

def validateWorktreeLeaseBinding (runIdentity : RunIdentitySnapshot)
    (binding : WorktreeLeaseBindingSnapshot) : Except JsonFailure Unit :=
  if binding.executionRunId ≠ runIdentity.executionRunId then
    .error ⟨.artifactIntegrityMismatch,
      "Authoritative worktree lease binding execution_run_id does not match active run identity."⟩
  else do
    validateSafeIdentifierToken binding.leaseFingerprint "lease_fingerprint"
    validateArtifactFileName binding.leaseArtifactPath "lease_artifact_path"
    match binding.reviewReceiptArtifactPath with
    | none => .ok ()
    | some path => validateArtifactFileName path "review_receipt_artifact_path"

def validateWorktreeLeaseBindings (runIdentity : RunIdentitySnapshot)
    (bindings : List WorktreeLeaseBindingSnapshot) : Except JsonFailure Unit :=
  bindings.forM (validateWorktreeLeaseBinding runIdentity)

def validateWorktreeLeaseReleaseRecord (runIdentity : RunIdentitySnapshot)
    (record : WorktreeLeaseReleaseRecord) : Except JsonFailure Unit :=
  if record.executionRunId ≠ runIdentity.executionRunId then
    .error ⟨.artifactIntegrityMismatch,
      "Authoritative worktree lease release record execution_run_id does not match active run identity."⟩
  else do
    validateSafeIdentifierToken record.leaseFingerprint "lease_fingerprint"
    validateSafeIdentifierToken record.sourceTaskClosureRecordId "source_task_closure_record_id"
    validateSafeIdentifierToken record.releasedBy "released_by"
    if record.sourceTask = 0 then
      .error ⟨.artifactIntegrityMismatch,
        "Authoritative worktree lease release record source_task must be greater than zero."⟩
    else .ok ()

def validateWorktreeLeaseReleaseRecords (runIdentity : RunIdentitySnapshot)
    (records : List WorktreeLeaseReleaseRecord) : Except JsonFailure Unit :=
  records.forM (validateWorktreeLeaseReleaseRecord runIdentity)

/-! ### The release -/

/-- The active fingerprints, of either list, that are decided on. -/
def removedFingerprints (fingerprints : List String) (bindings : List WorktreeLeaseBindingSnapshot)
    (decided : List String) : List String :=
  fingerprints.filter (· ∈ decided) ++ (bindings.map (·.leaseFingerprint)).filter (· ∈ decided)

def prepareWorktreeLeaseReleaseApplication (runIdentity : RunIdentitySnapshot)
    (fingerprints : List String) (bindings : List WorktreeLeaseBindingSnapshot)
    (decision : WorktreeLeaseReleaseDecision) :
    Except JsonFailure (Option WorktreeLeaseReleaseApplication) :=
  let removed := removedFingerprints fingerprints bindings decision.leaseFingerprints
  if decision.leaseFingerprints = [] ∨ removed = [] then .ok none
  else
    let releaseRecords := decision.releaseRecords.filter (·.leaseFingerprint ∈ removed)
    if ∀ fingerprint ∈ removed, ∃ record ∈ releaseRecords, record.leaseFingerprint = fingerprint
    then do
      validateWorktreeLeaseReleaseRecords runIdentity releaseRecords
      .ok (some { releasedBy := decision.releasedBy, removedFingerprints := removed,
                  releaseRecords := releaseRecords })
    else .error ⟨.malformedExecutionState,
      "Authoritative worktree lease index cannot release an active lease without a matching release record."⟩

def sameRelease (record existing : WorktreeLeaseReleaseRecord) : Bool :=
  existing.executionRunId = record.executionRunId &&
    existing.leaseFingerprint = record.leaseFingerprint

/-- A release is recorded once. -/
def addRelease (records : List WorktreeLeaseReleaseRecord) (record : WorktreeLeaseReleaseRecord) :
    List WorktreeLeaseReleaseRecord :=
  if records.any (sameRelease record) then records else records ++ [record]

def appendUniqueWorktreeLeaseReleaseRecords (s : LeaseIndex)
    (released : List WorktreeLeaseReleaseRecord) : LeaseIndex :=
  if released = [] then s
  else { s with releasedWorktreeLeaseRecords := some (released.foldl addRelease s.records) }

/-- What a decision is asked for: the active leases of the run. -/
abbrev ComputeRelease : Type :=
  RunIdentitySnapshot → List String → List WorktreeLeaseBindingSnapshot →
    Except JsonFailure WorktreeLeaseReleaseDecision

/-- The application that a release of the active leases comes to. -/
def releaseApplication (computeRelease : ComputeRelease) (s : LeaseIndex) :
    Except JsonFailure (Option WorktreeLeaseReleaseApplication) :=
  match s.runIdentity, s.chunkId with
  | none, _ => .error ⟨.malformedExecutionState,
      "Authoritative worktree lease index cannot be refreshed because execution_run_id is missing."⟩
  | some _, none => .error ⟨.malformedExecutionState,
      "Authoritative worktree lease index cannot be refreshed because chunk_id is missing."⟩
  | some runIdentity, some chunkId => do
    validateSafeIdentifierToken runIdentity.executionRunId "execution_run_id"
    validateSafeIdentifierToken chunkId "chunk_id"
    validateWorktreeLeaseBindings runIdentity s.bindings
    let decision ← computeRelease runIdentity s.fingerprints s.bindings
    prepareWorktreeLeaseReleaseApplication runIdentity s.fingerprints s.bindings decision

def applyRelease (application : WorktreeLeaseReleaseApplication) (s : LeaseIndex) : LeaseIndex :=
  appendUniqueWorktreeLeaseReleaseRecords
    { s with
      activeWorktreeLeaseFingerprints :=
        some (s.fingerprints.filter (· ∉ application.removedFingerprints))
      activeWorktreeLeaseBindings :=
        some (s.bindings.filter (·.leaseFingerprint ∉ application.removedFingerprints)) }
    application.releaseRecords

/-- How `persist_mutable_harness_state` may fail: before the event is in the log, or after it,
when the state file is written. -/
inductive PersistFailure
  | append (failure : JsonFailure)
  | publish (failure : JsonFailure)

/-- `release_active_worktree_leases_with_locked_index`: what it returns, and the state of the
event log after it. -/
def releaseActiveWorktreeLeasesWithLockedIndex (persist : Option PersistFailure)
    (computeRelease : ComputeRelease) (s : LeaseIndex) :
    Except JsonFailure (List (UInt32 × String)) × LeaseIndex :=
  if s.fingerprints = [] ∧ s.bindings = [] then (.ok [], s)
  else match releaseApplication computeRelease s with
    | .error failure => (.error failure, s)
    | .ok none => (.ok [], s)
    | .ok (some application) =>
      match persist with
      | some (.append failure) => (.error failure, s)
      | some (.publish failure) => (.error failure, applyRelease application s)
      | none => (.ok application.releasedBy, applyRelease application s)

end FeatureForge
