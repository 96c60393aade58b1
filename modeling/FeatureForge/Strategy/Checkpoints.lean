import FeatureForge.Closures.DispatchLineage
import FeatureForge.Closures.BranchClosures

/-!
# Strategy checkpoints

The state keeps a log of strategy checkpoints, a count of the review cycles of each task and a
credit for a review dispatch that no reopening has answered.  Three functions write them: the
initial checkpoint, the checkpoint of a reopening and that of a review dispatch; the last also
writes the dispatch lineage.
-/

namespace FeatureForge

/-- What a checkpoint reads of the plan and of the workspace. -/
structure StrategyContext where
  plan : ActivePlan
  /-- the numbers of the tasks of the plan -/
  taskNumbers : List UInt32
  executionMode : String
  /-- `task_completion_lineage_fingerprint` -/
  taskCompletionLineageFingerprint : UInt32 → Option String
  /-- `current_tracked_tree_sha` -/
  currentTrackedTreeSha : Except JsonFailure String
  /-- the tree id of `semantic_workspace_snapshot` -/
  semanticWorkspaceTreeId : Except JsonFailure String
  now : String

inductive StrategyCheckpointCycleState
  | ready
  | cycleBreak (binding : Option (UInt32 × Option UInt32))

namespace StrategyCheckpointCycleState

def isCycleBreak : StrategyCheckpointCycleState → Bool
  | ready => false
  | cycleBreak _ => true

def cycleBreakBinding : StrategyCheckpointCycleState → Option UInt32 × Option UInt32
  | ready => (none, none)
  | cycleBreak none => (none, none)
  | cycleBreak (some (task, step)) => (some task, step)

end StrategyCheckpointCycleState

/-! ### The log -/

def selectedTopologyFromExecutionMode (executionMode : String) : String :=
  if trim executionMode = "featureforge:subagent-driven-development" then "worktree-backed-parallel"
  else "conservative-fallback"

def laneDecomposition (context : StrategyContext) : List String :=
  context.taskNumbers.map taskScopeKey

def laneOwnerMap (context : StrategyContext) : List String :=
  (laneDecomposition context).map fun lane => lane ++ "=runtime"

def worktreePlan (selectedTopology : String) : String :=
  if selectedTopology = "worktree-backed-parallel" then "worktree-backed-isolated-lanes"
  else "single-worktree-serialized"

def subagentDispatchPlan (selectedTopology : String) : String :=
  if selectedTopology = "worktree-backed-parallel" then "parallel-lane-owned-subagents"
  else "serial-single-lane-subagent"

def acceptanceRequirements : List String := ["preflight_accepted", "approved_plan_revision_bound"]

def reviewRequirements : List String := ["dedicated_final_review", "gate_finish"]

/-- The text that the fingerprint of a checkpoint is taken of. -/
def checkpointText (context : StrategyContext) (executionRunId : Option String)
    (checkpointKind : String) (triggerFingerprints : List String) (rationale : String) : String :=
  let topology := selectedTopologyFromExecutionMode context.executionMode
  "plan=" ++ context.plan.planRel ++
  "\nplan_revision=" ++ context.plan.planRevision.toNat.repr ++
  "\nrun=" ++ executionRunId.getD "<none>" ++
  "\ncheckpoint_kind=" ++ checkpointKind ++
  "\nselected_topology=" ++ topology ++
  "\ntriggers=" ++ (if triggerFingerprints = [] then "none"
    else "|".intercalate triggerFingerprints) ++
  "\nlane_decomposition=" ++ ",".intercalate (laneDecomposition context) ++
  "\nlane_owner_map=" ++ ",".intercalate (laneOwnerMap context) ++
  "\nworktree_plan=" ++ worktreePlan topology ++
  "\nsubagent_dispatch_plan=" ++ subagentDispatchPlan topology ++
  "\nacceptance=" ++ ",".intercalate acceptanceRequirements ++
  "\nreview=" ++ ",".intercalate reviewRequirements ++
  "\nrationale=" ++ trim rationale ++ "\n"

def checkpointMembers (context : StrategyContext) (executionRunId : Option String)
    (checkpointKind : String) (triggerFingerprints : List String) (rationale fingerprint : String) :
    List (String × Json) :=
  let topology := selectedTopologyFromExecutionMode context.executionMode
  [("source_plan_path", .str context.plan.planRel),
   ("source_plan_revision", .u64 context.plan.planRevision.toNat),
   ("execution_run_id", optionStr executionRunId),
   ("trigger_fingerprints", strArr triggerFingerprints),
   ("checkpoint_kind", .str checkpointKind),
   ("selected_topology", .str topology),
   ("lane_decomposition", strArr (laneDecomposition context)),
   ("lane_owner_map", strArr (laneOwnerMap context)),
   ("worktree_plan", .str (worktreePlan topology)),
   ("subagent_dispatch_plan", .str (subagentDispatchPlan topology)),
   ("acceptance_requirements", strArr acceptanceRequirements),
   ("review_requirements", strArr reviewRequirements),
   ("rationale", .str (trim rationale)),
   ("generated_at", .str context.now),
   ("fingerprint", .str fingerprint)]

/-- The entries of the log, which is absent or an array. -/
def strategyCheckpointsMut (s : StateObject) : Except JsonFailure (List Json) :=
  match ((s .strategyCheckpoints).getD (.arr [])).asArray with
  | some checkpoints => .ok checkpoints
  | none => .error {
      errorClass := .malformedExecutionState
      message := "Authoritative harness strategy_checkpoints must be a JSON array." }

/-- `record_strategy_checkpoint`. -/
def recordStrategyCheckpoint (sha : Sha256Hex) (context : StrategyContext)
    (checkpointKind : String) (triggerFingerprints : List String) (rationale : String)
    (cycleState : StrategyCheckpointCycleState) (s : StateObject) :
    Except JsonFailure StateObject := do
  let executionRunId := executionRunIdOpt s
  let fingerprint := sha
    (checkpointText context executionRunId checkpointKind triggerFingerprints rationale).toList
  let checkpoint := Json.record (checkpointMembers context executionRunId checkpointKind
    triggerFingerprints rationale fingerprint)
  let checkpoints ← strategyCheckpointsMut s
  let binding := cycleState.cycleBreakBinding
  .ok (((((((s.set .strategyCheckpoints (.arr (checkpoints ++ [checkpoint]))).set
      .strategyState (.str (if cycleState.isCycleBreak then "cycle_breaking" else "ready"))).set
      .strategyCheckpointKind (.str checkpointKind)).set
      .lastStrategyCheckpointFingerprint (.str fingerprint)).set
      .strategyResetRequired (.bool false)).set
      .strategyCycleBreakTask (optionU32 binding.1)).set
      .strategyCycleBreakStep (optionU32 binding.2) |>.set
      .strategyCycleBreakCheckpointFingerprint
        (if cycleState.isCycleBreak then .str fingerprint else .null))

/-- `last_strategy_checkpoint_fingerprint`. -/
def lastStrategyCheckpointFingerprint (s : StateObject) : Option String :=
  jsonString (s .lastStrategyCheckpointFingerprint)

/-- `ensure_initial_dispatch_strategy_checkpoint`. -/
def ensureInitialDispatchStrategyCheckpoint (sha : Sha256Hex) (context : StrategyContext)
    (s : StateObject) : Except JsonFailure StateObject :=
  if (lastStrategyCheckpointFingerprint s).isSome then .ok s
  else recordStrategyCheckpoint sha context "initial_dispatch" []
    "Runtime recorded the initial dispatch strategy checkpoint before repo-writing execution."
    .ready s

/-! ### Counts and credits -/

def taskCycleCountOf (cycleCounts : Object) (task : UInt32) : Nat :=
  ((cycleCounts.get? (taskScopeKey task)).bind Json.asU64).getD 0

/-- `increment_task_cycle_count`, saturating. -/
def incrementTaskCycleCount (task : UInt32) (s : StateObject) :
    Except JsonFailure (Nat × StateObject) := do
  let cycleCounts ← recordsMut .strategyCycleCounts s
  let next := min (taskCycleCountOf cycleCounts task + 1) (2 ^ 64 - 1)
  .ok (next, s.set .strategyCycleCounts
    (.obj (cycleCounts.insert (taskScopeKey task) (.u64 next))))

/-- `current_task_cycle_count`, which leaves a map in place. -/
def currentTaskCycleCount (task : UInt32) (s : StateObject) :
    Except JsonFailure (Nat × StateObject) := do
  let cycleCounts ← recordsMut .strategyCycleCounts s
  .ok (taskCycleCountOf cycleCounts task, s.set .strategyCycleCounts (.obj cycleCounts))

def setTaskCycleCount (task : UInt32) (value : Nat) (s : StateObject) :
    Except JsonFailure StateObject := do
  let cycleCounts ← recordsMut .strategyCycleCounts s
  .ok (s.set .strategyCycleCounts (.obj (cycleCounts.insert (taskScopeKey task) (.u64 value))))

/-- The key of a credit, of a task or of none. -/
def dispatchCreditKey : Option UInt32 → String
  | some task => taskScopeKey task
  | none => "unbound"

/-- `increment_task_dispatch_credit` and `increment_unbound_dispatch_credit`. -/
def incrementDispatchCredit (target : Option UInt32) (s : StateObject) :
    Except JsonFailure (Nat × StateObject) := do
  let credits ← recordsMut .strategyReviewDispatchCredits s
  .ok (1, s.set .strategyReviewDispatchCredits
    (.obj (credits.insert (dispatchCreditKey target) (.u64 1))))

/-- `consume_task_dispatch_credit` and `consume_unbound_dispatch_credit`. -/
def consumeDispatchCredit (target : Option UInt32) (s : StateObject) :
    Except JsonFailure (Bool × StateObject) := do
  let credits ← recordsMut .strategyReviewDispatchCredits s
  if credits.contains (dispatchCreditKey target) then
    .ok (true, s.set .strategyReviewDispatchCredits
      (.obj (credits.erase (dispatchCreditKey target))))
  else .ok (false, s.set .strategyReviewDispatchCredits (.obj credits))

def clearDispatchCredits (s : StateObject) : Except JsonFailure StateObject := do
  let _ ← recordsMut .strategyReviewDispatchCredits s
  .ok (s.set .strategyReviewDispatchCredits (.obj .empty))

/-- `clear_task_dispatch_credits`; its callers drop the tasks. -/
def clearTaskDispatchCredits (s : StateObject) : Except JsonFailure StateObject := do
  let credits ← recordsMut .strategyReviewDispatchCredits s
  .ok (s.set .strategyReviewDispatchCredits
    (.obj (credits.filter fun key _ => (taskScopeKeyTaskNumber key).isNone)))

/-! ### A reopening -/

/-- The strategy is broken off at the moment. -/
def cycleBreaking (s : StateObject) : Bool :=
  ((s .strategyCheckpointKind).bind Json.asStr = some "cycle_break") ||
    ((s .strategyState).bind Json.asStr = some "cycle_breaking")

/-- The checkpoint of a cycle that is counted: at the third a break, and the count starts anew. -/
def recordCountedCycle (sha : Sha256Hex) (context : StrategyContext) (cycleBreak : Bool)
    (binding : Option (UInt32 × UInt32)) (trigger breakRationale rationale : String)
    (s : StateObject) : Except JsonFailure StateObject :=
  if cycleBreak then do
    let s ← recordStrategyCheckpoint sha context "cycle_break" [trigger] breakRationale
      (.cycleBreak (binding.map fun (task, step) => (task, some step))) s
    match binding with
    | some (task, _) => setTaskCycleCount task 0 s
    | none => .ok s
  else recordStrategyCheckpoint sha context "review_remediation" [trigger] rationale .ready s

def churnRationale : String :=
  "Runtime detected churn after three reviewable dispatch/remediation cycles for the same task and auto-entered cycle-break strategy."

/-- The trigger of a cycle of a task. -/
def cycleTrigger (task step : UInt32) (cycle : Nat) (suffix : String) : String :=
  "task-" ++ task.toNat.repr ++ ":step-" ++ step.toNat.repr ++ ":cycle-" ++ cycle.repr ++ suffix

/-- `record_reopen_strategy_checkpoint`. -/
def recordReopenStrategyCheckpoint (sha : Sha256Hex) (context : StrategyContext)
    (task step : UInt32) (reason : String) (s : StateObject) : Except JsonFailure StateObject := do
  let s ← ensureInitialDispatchStrategyCheckpoint sha context s
  let (credited, s) ← consumeDispatchCredit (some task) s
  if credited then
    let (cycleCount, s) ← currentTaskCycleCount task s
    let triggerCycle := if cycleCount = 0 then 1 else cycleCount
    recordCountedCycle sha context (cycleBreaking s || 3 ≤ cycleCount) (some (task, step))
      (cycleTrigger task step triggerCycle ":reopen-after-review-dispatch")
      "Runtime preserved cycle-break strategy while reopening remediation after a bound review dispatch."
      reason s
  else
    let s ← clearTaskDispatchCredits s
    let (bound, s) ← consumeDispatchCredit none s
    let (cycleCount, s) ← incrementTaskCycleCount task s
    recordCountedCycle sha context (3 ≤ cycleCount) (some (task, step))
      (cycleTrigger task step cycleCount
        (if bound then ":bound-from-unbound-review-dispatch" else ""))
      churnRationale reason s

/-! ### A review dispatch -/

/-- `recoverable_current_branch_closure_identity`. -/
def recoverableCurrentBranchClosureIdentity (s : StateObject) :
    Option CurrentBranchClosureIdentity :=
  match boundCurrentBranchClosureIdentity s with
  | some identity => some identity
  | none =>
    match (objectEntries (s .branchClosureRecords)).entries.filterMap fun entry =>
        (branchClosureRecord s entry.1).map fun record =>
          ({ branchClosureId := entry.1
             reviewedStateId := record.reviewedStateId
             semanticReviewedStateId := record.semanticReviewedStateId
             contractIdentity := record.contractIdentity } : CurrentBranchClosureIdentity) with
    | [current] => some current
    | _ => none

/-- `upsert_final_review_dispatch_lineage`, at the time `now`. -/
def upsertFinalReviewDispatchLineage (sha : Sha256Hex)
    (now executionRunId branchClosureId strategyCheckpointFingerprint : String) (s : StateObject) :
    Except JsonFailure StateObject := do
  let s ← archiveFinalReviewDispatchLineageRecord sha now "historical" s
  let recordId := deterministicRecordId sha "final-review-dispatch"
    [branchClosureId, strategyCheckpointFingerprint]
  let history ← recordsMut .finalReviewDispatchLineageHistory s
  let sequence := ((history.get? recordId).bind recordSequenceFromDispatchRecord).getD
    (nextDispatchRecordSequence history)
  let payload := Json.record [
    ("record_id", .str recordId),
    ("record_sequence", .u64 sequence),
    ("record_status", .str "current"),
    ("status", .str "current"),
    ("recorded_at", .str now),
    ("status_updated_at", .str now),
    ("execution_run_id", .str executionRunId),
    ("dispatch_id", .str strategyCheckpointFingerprint),
    ("branch_closure_id", .str branchClosureId),
    ("dispatch_provenance", .record [
      ("scope_type", .str "final_review"),
      ("scope_key", .str branchClosureId),
      ("strategy_checkpoint_fingerprint", .str strategyCheckpointFingerprint)])]
  .ok (((s.set .finalReviewDispatchLineageHistory (.obj (history.insert recordId payload))).set
    .finalReviewDispatchLineage payload).set
    .currentFinalReviewDispatchId (.str strategyCheckpointFingerprint))

/-- The counting and the checkpoint of `record_review_dispatch_strategy_checkpoint`. -/
def recordReviewDispatchCycle (sha : Sha256Hex) (context : StrategyContext)
    (cycleTarget : Option (UInt32 × UInt32)) (s : StateObject) :
    Except JsonFailure StateObject := do
  let s ← ensureInitialDispatchStrategyCheckpoint sha context s
  let s ← clearDispatchCredits s
  match cycleTarget with
  | some (task, step) =>
    let (cycleCount, s) ← incrementTaskCycleCount task s
    let (_, s) ← incrementDispatchCredit (some task) s
    recordCountedCycle sha context (3 ≤ cycleCount) (some (task, step))
      (cycleTrigger task step cycleCount ":review-dispatch") churnRationale
      ("Runtime recorded reviewer dispatch cycle tracking for task " ++ task.toNat.repr ++
        " step " ++ step.toNat.repr ++ ".") s
  | none =>
    let (pending, s) ← incrementDispatchCredit none s
    -- without a task the count is zero, which never breaks off
    recordCountedCycle sha context false none
      ("task-unbound:step-unbound:pending-review-dispatch-" ++ pending.repr) churnRationale
      "Runtime recorded reviewer dispatch cycle tracking for completed-plan review pending reopen task binding."
      s

/-- The lineage that `record_review_dispatch_strategy_checkpoint` leaves. -/
def recordReviewDispatchLineage (sha : Sha256Hex) (context : StrategyContext)
    (cycleTarget : Option (UInt32 × UInt32)) (s : StateObject) : Except JsonFailure StateObject :=
  match lastStrategyCheckpointFingerprint s, executionRunIdOpt s with
  | some strategyCheckpointFingerprint, some executionRunId =>
    match cycleTarget with
    | some (task, step) =>
      match context.taskCompletionLineageFingerprint task with
      | none => .ok s
      | some taskCompletionLineage => do
        let trackedTree ← context.currentTrackedTreeSha
        let semanticTree ← context.semanticWorkspaceTreeId
        upsertTaskDispatchLineage sha context.now
          { task := task
            executionRunId := executionRunId
            sourceStep := step
            strategyCheckpointFingerprint := strategyCheckpointFingerprint
            taskCompletionLineageFingerprint := taskCompletionLineage
            reviewedStateId := "git_tree:" ++ trackedTree
            semanticReviewedStateId := some semanticTree } s
    | none =>
      match recoverableCurrentBranchClosureIdentity s with
      | none => .error {
          errorClass := .executionStateNotReady
          message :=
            "final-review runtime state update requires a current branch closure." }
      | some identity =>
        upsertFinalReviewDispatchLineage sha context.now executionRunId identity.branchClosureId
          strategyCheckpointFingerprint s
  | _, _ => .ok s

/-- `record_review_dispatch_strategy_checkpoint`. -/
def recordReviewDispatchStrategyCheckpoint (sha : Sha256Hex) (context : StrategyContext)
    (cycleTarget : Option (UInt32 × UInt32)) (s : StateObject) :
    Except JsonFailure StateObject := do
  let s ← recordReviewDispatchCycle sha context cycleTarget s
  recordReviewDispatchLineage sha context cycleTarget s

end FeatureForge
