import FeatureForge.Closures.Recordings

/-!
# The dispatch lineage of a task

A task that is dispatched for review gets a lineage record, the one before it archived in the
history; a negative result of the task is cleared first (`upsertTaskDispatchLineage`).
-/

namespace FeatureForge

structure TaskDispatchLineageUpsertInput where
  task : UInt32
  executionRunId : String
  sourceStep : UInt32
  strategyCheckpointFingerprint : String
  taskCompletionLineageFingerprint : String
  reviewedStateId : String
  semanticReviewedStateId : Option String

/-- A lineage record as it is archived under an id, at the time `now`. -/
def archivedLineage (now status recordId : String) (sequence : Nat) (provenance : Json)
    (current : Object) : Object :=
  let archived := setStatus "status_updated_at" now (setStatus "status" status
    (setStatus "record_status" status ((current.insert "record_id" (.str recordId)).insert
      "record_sequence" (.u64 sequence))))
  let archived := if (jsonString (archived.get? "recorded_at")).isNone then
    archived.insert "recorded_at" (.str now) else archived
  insertAbsent archived "dispatch_provenance" provenance

/-- `archive_task_dispatch_lineage_record`. -/
def archiveTaskDispatchLineageRecord (sha : Sha256Hex) (now : String) (task : UInt32)
    (status : String) (s : StateObject) : Except JsonFailure StateObject :=
  let lineageKey := taskScopeKey task
  match ((objectEntries (s .strategyReviewDispatchLineage)).get? lineageKey).bind Json.asObject with
  | none => .ok s
  | some current =>
    let dispatchId := jsonString (current.get? "dispatch_id")
    match (jsonString (current.get? "record_id")).or (dispatchId.map fun dispatchId =>
      deterministicRecordId sha "task-review-dispatch" [lineageKey, dispatchId]) with
    | none => .ok s
    | some recordId => do
      let history ← recordsMut .strategyReviewDispatchLineageHistory s
      let sequence := (((history.get? recordId).bind recordSequenceFromDispatchRecord).or
        (recordSequenceFromDispatchRecord (.obj current))).getD (nextDispatchRecordSequence history)
      let archived := archivedLineage now status recordId sequence
        (.record [("scope_type", .str "task"), ("scope_key", .str lineageKey)]) current
      .ok (s.set .strategyReviewDispatchLineageHistory
        (.obj (history.insert recordId (.obj archived))))

/-- The lineage record of a dispatch. -/
def dispatchLineageRecord (now recordId : String) (sequence : Nat)
    (input : TaskDispatchLineageUpsertInput) : Json :=
  .record [
    ("record_id", .str recordId),
    ("record_sequence", .u64 sequence),
    ("record_status", .str "current"),
    ("status", .str "current"),
    ("recorded_at", .str now),
    ("status_updated_at", .str now),
    ("execution_run_id", .str input.executionRunId),
    ("dispatch_id", .str input.strategyCheckpointFingerprint),
    ("reviewed_state_id", .str input.reviewedStateId),
    ("semantic_reviewed_state_id", optionStr input.semanticReviewedStateId),
    ("source_task", .u64 input.task.toNat),
    ("source_step", .u64 input.sourceStep.toNat),
    ("strategy_checkpoint_fingerprint", .str input.strategyCheckpointFingerprint),
    ("task_completion_lineage_fingerprint", .str input.taskCompletionLineageFingerprint),
    ("dispatch_provenance", .record [
      ("scope_type", .str "task"),
      ("scope_key", .str (taskScopeKey input.task)),
      ("source_task", .u64 input.task.toNat),
      ("source_step", .u64 input.sourceStep.toNat),
      ("strategy_checkpoint_fingerprint", .str input.strategyCheckpointFingerprint)])]

/-- `upsert_task_dispatch_lineage`, at the time `now`. -/
def upsertTaskDispatchLineage (sha : Sha256Hex) (now : String)
    (input : TaskDispatchLineageUpsertInput) (s : StateObject) : Except JsonFailure StateObject := do
  let s ← clearTaskClosureNegativeResult input.task s
  let lineageKey := taskScopeKey input.task
  let s ← archiveTaskDispatchLineageRecord sha now input.task "historical" s
  let recordId := deterministicRecordId sha "task-review-dispatch"
    [lineageKey, input.strategyCheckpointFingerprint]
  let history ← recordsMut .strategyReviewDispatchLineageHistory s
  let sequence := ((history.get? recordId).bind recordSequenceFromDispatchRecord).getD
    (nextDispatchRecordSequence history)
  let payload := dispatchLineageRecord now recordId sequence input
  let s := s.set .strategyReviewDispatchLineageHistory (.obj (history.insert recordId payload))
  let lineage ← recordsMut .strategyReviewDispatchLineage s
  .ok (s.set .strategyReviewDispatchLineage (.obj (lineage.insert lineageKey payload)))

variable {sha : Sha256Hex} {now : String} {s s' : StateObject}

theorem archiveTaskDispatchLineageRecord_ok {task : UInt32} {status : String}
    (h : archiveTaskDispatchLineageRecord sha now task status s = .ok s') :
    ∀ g, g ≠ .strategyReviewDispatchLineageHistory → s' g = s g := by
  unfold archiveTaskDispatchLineageRecord at h
  dsimp only at h
  intro g hg
  split at h
  · cases h
    rfl
  · split at h
    · cases h
      rfl
    · obtain ⟨history, _, h⟩ := bind_ok h
      cases h
      exact set_of_ne _ _ hg

/-- **A dispatch** clears the negative result of its task, and writes the lineage. -/
theorem upsertTaskDispatchLineage_ok {input : TaskDispatchLineageUpsertInput}
    (h : upsertTaskDispatchLineage sha now input s = .ok s') :
    ∃ t, clearTaskClosureNegativeResult input.task s = .ok t ∧
      ∀ g, g ≠ .strategyReviewDispatchLineageHistory → g ≠ .strategyReviewDispatchLineage →
        s' g = t g := by
  obtain ⟨t, hclear, h⟩ := bind_ok h
  obtain ⟨u, harchive, h⟩ := bind_ok h
  obtain ⟨history, _, h⟩ := bind_ok h
  obtain ⟨lineage, _, h⟩ := bind_ok h
  cases h
  refine ⟨t, hclear, fun g hhistory hlineage => ?_⟩
  rw [set_of_ne _ _ hlineage, set_of_ne _ _ hhistory,
    archiveTaskDispatchLineageRecord_ok harchive g hhistory]

end FeatureForge
