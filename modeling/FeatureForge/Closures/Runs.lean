import FeatureForge.Closures.BranchState
import FeatureForge.Closures.TaskState

/-!
# Runs of closure recordings

A run closes tasks, takes closures of tasks back, records and clears branch closures, and
changes what else there is in the state.  Each step keeps the two maps of task closures in step
and the records of branch closures in order (`ClosureState.apply`).
-/

namespace FeatureForge

inductive ClosureOp
  | closeCurrentTask (currentLineage : String) (r : TaskClosureResultRecord)
  | removeCurrentTaskClosureResults (tasks : List UInt32)
  | clearForExecutionReentry (tasks : List UInt32)
  | clearForStructuralRepair (tasks : List UInt32)
  | clearForStructuralRepairScopeKeys (scopeKeys : List String)
  | recordBranchClosure (now : String) (recording : BranchRecording)
  | clearCurrentBranchClosure (now : String)
  /-- any change outside the closures -/
  | other (changed : StateObject)

/-- A record under the id that the completion lineage of its task gives. -/
def TaskClosureResultRecord.under (r : TaskClosureResultRecord) (sha : Sha256Hex) (planRel : String)
    (currentLineage : String) : TaskClosureResultRecord :=
  { r with closureRecordId := currentTaskClosureRecordId sha planRel r.task currentLineage }

def ClosureOp.apply (sha : Sha256Hex) (plan : ActivePlan) (s : StateObject) :
    ClosureOp → Option StateObject
  | .closeCurrentTask currentLineage r =>
    (FeatureForge.closeCurrentTask plan (r.under sha plan.planRel currentLineage) s).toOption
  | .removeCurrentTaskClosureResults tasks =>
    (FeatureForge.removeCurrentTaskClosureResults tasks s).toOption
  | .clearForExecutionReentry tasks =>
    (clearCurrentTaskClosureResultsForExecutionReentry tasks s).toOption
  | .clearForStructuralRepair tasks =>
    (clearCurrentTaskClosureResultsForStructuralRepair tasks s).toOption
  | .clearForStructuralRepairScopeKeys scopeKeys =>
    (clearCurrentTaskClosureResultsForStructuralRepairScopeKeys scopeKeys s).toOption
  | .recordBranchClosure now recording =>
    (recordBranchClosureForCommand sha now recording s).toOption.join.map Prod.snd
  | .clearCurrentBranchClosure now =>
    (clearCurrentBranchClosureForStructuralRepair sha now s).toOption
  | .other changed => some changed

/-- The fields that closures are read from. -/
def closureFields : List Field :=
  [.runIdentity, .currentTaskClosureRecords, .taskClosureRecordHistory, .supersededTaskClosureIds,
   .branchClosureRecords, .currentBranchClosureId, .supersededBranchClosureIds,
   .releaseReadinessRecordHistory, .currentReleaseReadinessRecordId, .finalReviewRecordHistory,
   .currentFinalReviewRecordId, .browserQaRecordHistory, .currentQaRecordId]

/-- The texts of a task closure are not blank. -/
structure TaskClosureResultRecord.Worded (r : TaskClosureResultRecord) : Prop where
  dispatchId : trim r.dispatchId ≠ ""
  reviewedStateId : trim r.reviewedStateId ≠ ""
  contractIdentity : trim r.contractIdentity ≠ ""
  effectiveReviewedSurfacePaths : ∀ path ∈ r.effectiveReviewedSurfacePaths, trim path ≠ ""
  reviewResult : trim r.reviewResult ≠ ""
  reviewSummaryHash : trim r.reviewSummaryHash ≠ ""
  verificationResult : trim r.verificationResult ≠ ""
  verificationSummaryHash : trim r.verificationSummaryHash ≠ ""

/-- A step as the commands take it: a task is closed for the run of the state, its texts are
not blank, and the digest of its lineage is not that of another task. -/
def ClosureOp.Issued (sha : Sha256Hex) (run : ExecutionRun) (s : StateObject) : ClosureOp → Prop
  | .closeCurrentTask currentLineage r => r.Worded ∧ r.executionRunId = some run.executionRunId ∧
      Allocated run (objectEntries (s .taskClosureRecordHistory))
        (r.under sha run.plan.planRel currentLineage)
  | .other changed => ∀ f ∈ closureFields, changed f = s f
  | _ => True

variable {sha : Sha256Hex} {run : ExecutionRun} {s s' : StateObject}

theorem TaskClosureResultRecord.Worded.issued (hsha : ∀ t, Unspaced (sha t))
    {r : TaskClosureResultRecord} (h : r.Worded) (planRel currentLineage : String) :
    (r.under sha planRel currentLineage).Issued where
  closureRecordId := named_deterministicRecordId hsha (by decide) (by decide) _
  kind := startsWith_deterministicRecordId sha "task-closure" _
  dispatchId := h.dispatchId
  reviewedStateId := h.reviewedStateId
  contractIdentity := h.contractIdentity
  effectiveReviewedSurfacePaths := h.effectiveReviewedSurfacePaths
  reviewResult := h.reviewResult
  reviewSummaryHash := h.reviewSummaryHash
  verificationResult := h.verificationResult
  verificationSummaryHash := h.verificationSummaryHash

/-! ### Frames -/

theorem TaskState.congr (hs : TaskState run s) (hrun : s' .runIdentity = s .runIdentity)
    (hhistory : s' .taskClosureRecordHistory = s .taskClosureRecordHistory)
    (hcurrent : s' .currentTaskClosureRecords = s .currentTaskClosureRecords) : TaskState run s' where
  runIdentity := hrun.trans hs.runIdentity
  closures := by
    rw [hhistory, hcurrent]
    exact hs.closures

/-- The fields of the branch closures and of the milestones. -/
def branchStateFields : List Field :=
  [.branchClosureRecords, .currentBranchClosureId, .supersededBranchClosureIds,
   .releaseReadinessRecordHistory, .currentReleaseReadinessRecordId, .finalReviewRecordHistory,
   .currentFinalReviewRecordId, .browserQaRecordHistory, .currentQaRecordId]

theorem BranchState.congr (hs : BranchState s) (h : ∀ f ∈ branchStateFields, s' f = s f) :
    BranchState s' where
  records := by
    unfold supersededBranchClosureIds
    rw [h .branchClosureRecords (by decide), h .currentBranchClosureId (by decide),
      h .supersededBranchClosureIds (by decide)]
    exact hs.records
  releaseReadiness := by
    unfold NoMilestone
    rw [h .releaseReadinessRecordHistory (by decide), h .currentReleaseReadinessRecordId (by decide)]
    exact hs.releaseReadiness
  finalReview := by
    unfold NoMilestone
    rw [h .finalReviewRecordHistory (by decide), h .currentFinalReviewRecordId (by decide)]
    exact hs.finalReview
  qa := by
    unfold NoMilestone
    rw [h .browserQaRecordHistory (by decide), h .currentQaRecordId (by decide)]
    exact hs.qa

/-! ### States -/

structure ClosureState (run : ExecutionRun) (s : StateObject) : Prop where
  task : TaskState run s
  branch : BranchState s
  supersededTasks : ∀ id ∈ supersededTaskClosureIds s,
    startsWith "task-closure-".toList id.toList = true

/-- A state of a run without closures. -/
structure NoClosures (run : ExecutionRun) (s : StateObject) : Prop where
  runIdentity : s .runIdentity = some run.runIdentity
  currentTaskClosureRecords : objectEntries (s .currentTaskClosureRecords) = .empty
  taskClosureRecordHistory : objectEntries (s .taskClosureRecordHistory) = .empty
  supersededTaskClosureIds : supersededTaskClosureIds s = []
  supersededBranchClosureIds : supersededBranchClosureIds s = []
  milestones : NoMilestones s

theorem not_currentClosure_empty {task : UInt32} {id : String} :
    ¬ CurrentClosure run .empty task id := by
  rintro ⟨r, hr, _, _⟩
  obtain ⟨payload, _, hget, _⟩ := hr.filed
  cases hget

theorem NoClosures.closureState (h : NoClosures run s) : ClosureState run s := by
  refine ⟨⟨h.runIdentity, ?_⟩, ⟨?_, h.milestones.releaseReadiness, h.milestones.finalReview,
    h.milestones.qa⟩, ?_⟩
  · rw [h.currentTaskClosureRecords, h.taskClosureRecordHistory]
    exact ⟨nofun, nofun, fun _ _ hcurrent => absurd hcurrent not_currentClosure_empty⟩
  · rw [h.milestones.branchClosure.1, h.milestones.branchClosure.2, h.supersededBranchClosureIds]
    refine ⟨nofun, fun _ => Nat.zero_le _, ?_, nofun, nofun⟩
    rintro r status ⟨_, _, payload, _, hget, _⟩
    cases hget
  · rw [h.supersededTaskClosureIds]
    nofun

theorem ClosureState.takeBack (hs : ClosureState run s) {gone : UInt32 → Prop}
    (h : TakenBack run gone s s') : ClosureState run s' := by
  refine ⟨h.state, hs.branch.congr fun f hf => ?_, ?_⟩
  · refine h.same f ?_ ?_ <;> rintro rfl <;> exact absurd hf (by decide)
  · rw [supersededTaskClosureIds, h.same _ (by decide) (by decide)]
    exact hs.supersededTasks

theorem ClosureState.recordBranch (hs : ClosureState run s) (hbranch : BranchState s')
    (hframe : ∀ g, g ∉ branchClosureFields → s' g = s g) : ClosureState run s' := by
  refine ⟨hs.task.congr (hframe _ (by decide)) (hframe _ (by decide)) (hframe _ (by decide)),
    hbranch, ?_⟩
  rw [supersededTaskClosureIds, hframe _ (by decide)]
  exact hs.supersededTasks

/-- **Every step keeps the closures of a state in order.** -/
theorem ClosureState.apply (hsha : ∀ t, Unspaced (sha t)) {op : ClosureOp}
    (hs : ClosureState run s) (hi : op.Issued sha run s) (ha : op.apply sha run.plan s = some s') :
    ClosureState run s' := by
  cases op with
  | closeCurrentTask currentLineage r =>
    obtain ⟨hworded, hrun, hallocated⟩ := hi
    obtain ⟨htask, hframe, _, hsuperseded⟩ := closeCurrentTask_ok hs.task
      (hworded.issued hsha _ _) hrun hallocated (ok_of_toOption ha)
    refine ⟨htask, hs.branch.congr fun f hf => hframe f ?_, fun id hid => ?_⟩
    · exact (show ∀ f ∈ branchStateFields, f ∉ taskClosureFields by decide) f hf
    · rcases (hsuperseded id).mp hid with hid | ⟨r', _, hr', _, rfl⟩
      · exact hs.supersededTasks id hid
      · exact hr'.issued.kind
  | removeCurrentTaskClosureResults tasks =>
    exact hs.takeBack (removeCurrentTaskClosureResults_ok hs.task (ok_of_toOption ha) (by decide)
      (by decide))
  | clearForExecutionReentry tasks =>
    exact hs.takeBack (removeCurrentTaskClosureResults_ok hs.task (ok_of_toOption ha) (by decide)
      (by decide))
  | clearForStructuralRepair tasks =>
    exact hs.takeBack (removeCurrentTaskClosureResults_ok hs.task (ok_of_toOption ha) (by decide)
      (by decide))
  | clearForStructuralRepairScopeKeys scopeKeys =>
    exact hs.takeBack (removeCurrentTaskClosureResultsByScopeKeys_ok hs.task (ok_of_toOption ha)
      (by decide) (by decide))
  | recordBranchClosure now recording =>
    obtain ⟨⟨id, recorded⟩, hjoin, rfl⟩ := Option.map_eq_some_iff.mp ha
    obtain ⟨hbranch, hframe⟩ := recordBranchClosureForCommand_ok hsha hs.branch
      (ok_of_toOption (Option.join_eq_some_iff.mp hjoin))
    exact hs.recordBranch hbranch hframe
  | clearCurrentBranchClosure now =>
    have hclear := ok_of_toOption ha
    exact hs.recordBranch (hs.branch.clear hclear) fun g hg =>
      clearCurrentBranchClosureForStructuralRepair_frame hclear (Or.inr hg)
  | other changed =>
    cases ha
    refine ⟨hs.task.congr (hi _ (by decide)) (hi _ (by decide)) (hi _ (by decide)),
      hs.branch.congr fun f hf => hi f ?_, ?_⟩
    · exact (show ∀ f ∈ branchStateFields, f ∈ closureFields by decide) f hf
    · rw [supersededTaskClosureIds, hi _ (by decide)]
      exact hs.supersededTasks

/-- The runs whose steps also satisfy `ok`. -/
def ClosureRun (sha : Sha256Hex) (run : ExecutionRun) (ok : StateObject → ClosureOp → Prop)
    (start s : StateObject) : Prop :=
  Machine.Reaches (fun s op => ClosureOp.apply sha run.plan s op)
    (fun s op => op.Issued sha run s ∧ ok s op) start s

/-- **Every state of a run** has its closures in order. -/
theorem ClosureRun.closureState (hsha : ∀ t, Unspaced (sha t))
    {ok : StateObject → ClosureOp → Prop} {start : StateObject} (hstart : NoClosures run start)
    (h : ClosureRun sha run ok start s) : ClosureState run s :=
  h.invariant hstart.closureState fun _ _ _ hs hok ha => hs.apply hsha hok.1 ha

/-! ### A run -/

def closurePlan : ActivePlan := ⟨"docs/featureforge/plans/plan.md", 1⟩

def closureRunIdentity : Json := .record
  [("execution_run_id", .str "run-0123456789abcdef"),
   ("source_plan_path", .str "docs/featureforge/plans/plan.md"), ("source_plan_revision", .u64 1)]

def closureRun : ExecutionRun where
  plan := closurePlan
  runIdentity := closureRunIdentity
  executionRunId := "run-0123456789abcdef"
  sourcePlanPath := by decide
  sourcePlanRevision := by decide
  identified := by decide

def firstLineage : String := "9c6b9610496d9f0ab7de62f8d3728f5ccc761503d9233fb0f1e64e9b89fd2463"

def secondLineage : String := "e48e6e384a020caf2c8f3ee39cf5f381964c8bf2fe8553ecd6740a34a490c8be"

/-- The digests of the two lineages of the run, and of its branch closure; the texts are told
apart by how they end. -/
def closureSha : Sha256Hex := fun text =>
  if text.getLast? = some '3' then
    "8aebf313aaf189ed2c503388ad4d2942361e4e52d24e93ce6c4a3636af162f3d"
  else if text.getLast? = some 'e' then
    "8ba614a4ddd654b4f2318b009ebd40f6c25c92ab9c331220404a05b54e18c869"
  else "f8aac15ccc8be2082142a783d37dd7b927ee8089268a9f18091fd3a521e4bcc7"

theorem unspaced_closureSha : ∀ t, Unspaced (closureSha t) := by
  intro t
  unfold closureSha
  split_ifs <;> decide

/-- A closure of a task, of changes to one file. -/
def fileClosure (task : UInt32) : TaskClosureResultRecord where
  task := task
  dispatchId := "dispatch"
  closureRecordId := ""
  executionRunId := some "run-0123456789abcdef"
  reviewedStateId := "git_tree:one"
  semanticReviewedStateId := none
  contractIdentity := "task-contract"
  effectiveReviewedSurfacePaths := ["src/lib.rs"]
  reviewResult := "pass"
  reviewSummaryHash := "hash"
  verificationResult := "pass"
  verificationSummaryHash := "hash"

theorem worded_fileClosure (task : UInt32) : (fileClosure task).Worded where
  dispatchId := show trim "dispatch" ≠ "" by decide
  reviewedStateId := show trim "git_tree:one" ≠ "" by decide
  contractIdentity := show trim "task-contract" ≠ "" by decide
  effectiveReviewedSurfacePaths :=
    show ∀ path ∈ ["src/lib.rs"], trim path ≠ "" by decide
  reviewResult := show trim "pass" ≠ "" by decide
  reviewSummaryHash := show trim "hash" ≠ "" by decide
  verificationResult := show trim "pass" ≠ "" by decide
  verificationSummaryHash := show trim "hash" ≠ "" by decide

def closeFirst : ClosureOp := .closeCurrentTask firstLineage (fileClosure 1)

def closeSecond : ClosureOp := .closeCurrentTask secondLineage (fileClosure 2)

/-- The state after a step. -/
def afterClosing (s : StateObject) (op : ClosureOp) : StateObject :=
  (op.apply closureSha closurePlan s).getD s

def noneClosed : StateObject := emptyState.set .runIdentity closureRunIdentity

def firstClosed : StateObject := afterClosing noneClosed closeFirst

def secondClosed : StateObject := afterClosing firstClosed closeSecond

def firstClosedAgain : StateObject := afterClosing secondClosed closeFirst

theorem noClosures_noneClosed : NoClosures closureRun noneClosed := by
  refine ⟨?_, ?_, ?_, ?_, ?_, ⟨⟨?_, ?_⟩, ⟨?_, ?_⟩, ⟨?_, ?_⟩, ⟨?_, ?_⟩⟩⟩ <;> decide

theorem apply_afterClosing {s : StateObject} {op : ClosureOp}
    (h : (op.apply closureSha closurePlan s).isSome = true) :
    op.apply closureSha closurePlan s = some (afterClosing s op) := by
  obtain ⟨s', hs'⟩ := Option.isSome_iff_exists.mp h
  rw [afterClosing, hs', Option.getD_some]

/-- A closure is issued where what is under its id is of its task. -/
theorem issued_fileClosure {s : StateObject} {task : UInt32} {currentLineage : String}
    (h : ((objectEntries (s .taskClosureRecordHistory)).get? (currentTaskClosureRecordId closureSha
      closurePlan.planRel task currentLineage)).all
        (fun payload => jsonU32 (payload.get? "task") = some task) = true) :
    (ClosureOp.closeCurrentTask currentLineage (fileClosure task)).Issued closureSha closureRun s := by
  refine ⟨worded_fileClosure task, rfl, allocated_of_get? fun payload hget => ?_⟩
  have hget' : (objectEntries (s .taskClosureRecordHistory)).get? (currentTaskClosureRecordId
      closureSha closurePlan.planRel task currentLineage) = some payload := hget
  rw [hget', Option.all_some] at h
  exact of_decide_eq_true h

theorem run_noneClosed (ok : StateObject → ClosureOp → Prop) :
    ClosureRun closureSha closureRun ok noneClosed noneClosed := Machine.Reaches.refl

theorem run_firstClosed {ok : StateObject → ClosureOp → Prop} (h : ok noneClosed closeFirst) :
    ClosureRun closureSha closureRun ok noneClosed firstClosed :=
  (run_noneClosed ok).tail ⟨issued_fileClosure (by decide), h⟩
    (apply_afterClosing (by decide))

theorem run_secondClosed : ClosureRun closureSha closureRun (fun _ _ => True) noneClosed
    secondClosed :=
  (run_firstClosed trivial).tail ⟨issued_fileClosure (by decide), trivial⟩
    (apply_afterClosing (by decide))

def branchRecording : BranchRecording where
  context := ⟨"docs/featureforge/plans/plan.md", 1, "repo", "feature", none⟩
  baseBranch := "main"
  contractIdentity := "branch-contract"
  reviewedStateId := "git_tree:one"
  semanticReviewedStateId := "semantic_tree:one"
  stillCurrentRecords := (currentTaskClosureResult firstClosed 1).toList
  changedPaths := []
  allowsRepairedRerecord := false
  routesBranchClosure := true
  answeredEarly := false
  branchClosureFingerprint := "fingerprint"

def branchRecorded : StateObject :=
  afterClosing firstClosed (.recordBranchClosure "2026-01-01T00:00:02Z" branchRecording)

theorem run_branchRecorded : ClosureRun closureSha closureRun (fun _ _ => True) noneClosed
    branchRecorded := by
  have hi : (ClosureOp.recordBranchClosure "2026-01-01T00:00:02Z" branchRecording).Issued closureSha
      closureRun firstClosed := trivial
  exact (run_firstClosed trivial).tail ⟨hi, trivial⟩ (apply_afterClosing (by decide +kernel))

end FeatureForge
