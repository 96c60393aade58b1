import FeatureForge.EventLog.Ledger
import FeatureForge.Lib.First
import FeatureForge.Plans.StepAgreement
import FeatureForge.Steps.Frames
import FeatureForge.Steps.OpenStep

/-!
# The context of a step command

What a step command sees of a plan: its steps as the plan lists them, with the marks of the state
laid over them.  A step is checked if its task has a closure record or the ledger names it, and
the open step is not; the note is the one of the open step.  The attempts are those of the state,
where it has any.

The checks of the plan file and of its spec, what is read of the files of the repository, and the
evidence that is read from projection files are inputs (`Workspace`).
-/

namespace FeatureForge

def PlanStepState.key (step : PlanStepState) : StepKey := (step.taskNumber, step.stepNumber)

/-- The plan that a command runs for, under its path in the repository. -/
structure ApprovedPlan where
  planRel : List Char
  document : PlanDocument

/-- `ExecutionContext`, what of it the step commands read. -/
structure ExecutionContext where
  planRel : List Char
  planRevision : UInt32
  executionMode : List Char
  steps : List PlanStepState
  attempts : List EvidenceAttempt

/-- What a command reads next to the plan and the state. -/
structure Workspace where
  /-- the checks of the plan file, of its spec and of the manifest -/
  planChecks : Except StepFailure Unit
  /-- the attempts that projection files of the evidence show -/
  evidenceProjection : Except StepFailure (List EvidenceAttempt)
  statePath : String
  repoRoot : List Char
  canonicalizeRepoRoot : List Char → List Char
  /-- whether the worktree that a record is of, another one, shares this one's plan and files -/
  sharesWorkspace : OpenStepStateRecord → Bool
  sourceSpecSource : List Char
  taskDefinitionIdentity : UInt32 → Option (List Char)
  fileExists : List Char → Bool
  currentFileProof : List Char → List Char
  /-- the paths that files of these paths have been renamed to -/
  renameBackedPaths : List (List Char) → Except StepFailure (List (List Char × List Char))
  currentHeadSha : Except StepFailure (List Char)
  executionFingerprint : ExecutionContext → List Char
  authoritativeSequence : UInt64
  now : List Char

/-! ### Execution modes -/

def noExecutionMode : List Char := "none".toList

def executionModes : List (List Char) :=
  ["featureforge:executing-plans".toList, "featureforge:subagent-driven-development".toList]

local instance lawfulBEqOfModes : LawfulBEq (List Char) := inferInstance

/-- `normalize_source`. -/
def normalizeSource (source executionMode : List Char) : Except StepFailure Unit :=
  if source ∉ executionModes then .error ⟨.invalidExecutionMode,
    "Execution source must be one of the supported execution modes."⟩
  else if source ≠ executionMode then .error ⟨.invalidExecutionMode,
    "Execution source must exactly match the persisted execution mode for this plan revision."⟩
  else .ok ()

/-- `infer_execution_mode_from_evidence`. -/
def inferExecutionModeFromEvidence (executionMode : List Char) (attempts : List EvidenceAttempt) :
    List Char :=
  if executionMode ≠ noExecutionMode then executionMode
  else ((attempts.reverse.map EvidenceAttempt.executionSource).find? fun source =>
    source ∈ executionModes).getD executionMode

/-! ### Steps -/

/-- The first step of a key, changed. -/
def setStep (key : StepKey) (change : PlanStepState → PlanStepState) :
    List PlanStepState → List PlanStepState :=
  setFirst (fun step => step.key = key) change

def stepAt (steps : List PlanStepState) (key : StepKey) : Option PlanStepState :=
  steps.find? fun step => step.key = key

def PlanStepState.clearNote (step : PlanStepState) : PlanStepState :=
  { step with noteState := none, noteSummary := [] }

def PlanStepState.check (checked : Bool) (step : PlanStepState) : PlanStepState :=
  { step with checked := checked }

def PlanStepState.note (noteState : NoteState) (noteSummary : List Char) (step : PlanStepState) :
    PlanStepState :=
  { step with noteState := some noteState, noteSummary := noteSummary }

/-! ### The marks of the state -/

/-- `task_number_from_task_closure_record`. -/
def taskNumberFromTaskClosureRecord (recordKey : String) (record : Json) : Option UInt32 :=
  (taskScopeKeyTaskNumber recordKey).bind fun task =>
    if ["task", "task_number"].all fun field =>
        ((record.get? field).all fun value => jsonU32 (some value) = some task) then some task
    else none

/-- The tasks that have a closure record. -/
def closedTasks (s : StateObject) : List UInt32 :=
  (objectEntries (s .currentTaskClosureRecords)).entries.filterMap fun record =>
    taskNumberFromTaskClosureRecord record.1 record.2

/-- `overlay_task_closure_completed_steps`. -/
def overlayTaskClosureCompletedSteps (s : StateObject) (steps : List PlanStepState) :
    List PlanStepState :=
  steps.map fun step => if step.taskNumber ∈ closedTasks s then step.check true else step

def missingNumber (field : String) : StepFailure :=
  .malformed ("Authoritative event_completed_steps entry is missing a numeric " ++ field ++ ".")

/-- A number of an entry of the ledger. -/
def completedStepNumber (entry : Json) (field : String) : Except StepFailure UInt32 :=
  match jsonU32 (entry.get? field) with
  | none => .error (missingNumber field)
  | some number => .ok number

/-- `parse_authoritative_completed_steps`. -/
def parseAuthoritativeCompletedSteps (completedSteps : Object) :
    Except StepFailure (List StepKey) :=
  completedSteps.entries.mapM fun entry => do
    let task ← completedStepNumber entry.2 "task"
    let step ← completedStepNumber entry.2 "step"
    .ok (task, step)

def numberText (n : UInt32) : String := n.toNat.repr

/-- A completed step is checked, if the plan has it. -/
def checkCompletedStep (steps : List PlanStepState) (key : StepKey) :
    Except StepFailure (List PlanStepState) :=
  if (stepAt steps key).isSome then .ok (setStep key (PlanStepState.check true) steps)
  else .error (.malformed ("Authoritative event_completed_steps points to missing Task "
    ++ numberText key.1 ++ " Step " ++ numberText key.2 ++ "."))

/-- `overlay_event_completed_steps`. -/
def overlayEventCompletedSteps (completedSteps : Object) (steps : List PlanStepState) :
    Except StepFailure (List PlanStepState) := do
  let keys ← parseAuthoritativeCompletedSteps completedSteps
  keys.foldlM checkCompletedStep steps

/-- What is wrong with the open step of a plan. -/
def malformedOpenStepOf (planRel : List Char) (reason : String) : StepFailure :=
  .malformed ("Authoritative current_open_step_state for " ++ String.ofList planRel ++ reason)

/-- `apply_authoritative_open_step_record_to_steps`. -/
def applyAuthoritativeOpenStepRecordToSteps (record : OpenStepStateRecord) (planRel : List Char)
    (planRevision : UInt32) (steps : List PlanStepState) :
    Except StepFailure (List PlanStepState) :=
  if normalizeWhitespace record.sourcePlanPath ≠ planRel then
    .error (malformedOpenStepOf planRel (" points to source_plan_path \x60"
      ++ String.ofList record.sourcePlanPath ++ "\x60."))
  else if record.sourcePlanRevision ≠ planRevision then
    .error (malformedOpenStepOf planRel (" points to source_plan_revision "
      ++ numberText record.sourcePlanRevision ++ ", expected " ++ numberText planRevision ++ "."))
  else
    match [NoteState.active, .blocked, .interrupted].find? fun state =>
        record.noteState = state.asStr with
    | none => .error (malformedOpenStepOf planRel (" has invalid note_state \x60"
        ++ String.ofList record.noteState ++ "\x60."))
    | some noteState =>
      if (stepAt steps record.key).isNone then
        .error (malformedOpenStepOf planRel (" points to missing Task " ++ numberText record.task
          ++ " Step " ++ numberText record.step ++ "."))
      else
        let noteSummary := normalizeWhitespace record.noteSummary
        if noteSummary = [] then
          .error (malformedOpenStepOf planRel " has a blank note_summary.")
        else if 120 < noteSummary.length then
          .error (malformedOpenStepOf planRel " has note_summary longer than 120 characters.")
        else .ok (setStep record.key (fun step => (step.check false).note noteState noteSummary)
          (steps.map PlanStepState.clearNote))

/-- The mode of the open step, for a plan without one. -/
def adoptExecutionMode (record : OpenStepStateRecord) (context : ExecutionContext) :
    Except StepFailure (List Char) :=
  if context.executionMode ≠ noExecutionMode then .ok context.executionMode
  else
    match record.executionMode with
    | none => .ok context.executionMode
    | some executionMode =>
      if executionMode ∈ executionModes then .ok executionMode
      else .error (malformedOpenStepOf context.planRel (" has invalid execution_mode \x60"
        ++ String.ofList executionMode ++ "\x60."))

/-- `open_step_record_matches_or_can_share_current_workspace`. -/
def matchesWorkspace (workspace : Workspace) (record : OpenStepStateRecord) : Bool :=
  record.repoRoot.all fun root =>
    workspace.canonicalizeRepoRoot root = workspace.repoRoot || workspace.sharesWorkspace record

/-- `overlay_authoritative_open_step_state_from_state`. -/
def overlayAuthoritativeOpenStepState (workspace : Workspace) (s : StateObject)
    (context : ExecutionContext) : Except StepFailure ExecutionContext := do
  match ← currentOpenStepStateChecked workspace.statePath s with
  | none => .ok context
  | some record =>
    if matchesWorkspace workspace record then do
      let executionMode ← adoptExecutionMode record context
      let steps ← applyAuthoritativeOpenStepRecordToSteps record context.planRel
        context.planRevision context.steps
      .ok { context with executionMode := executionMode, steps := steps }
    else .ok context

/-- The ledger of a state, if it has one. -/
def overlayLedger (s : StateObject) (steps : List PlanStepState) :
    Except StepFailure (List PlanStepState) :=
  match (s .eventCompletedSteps).bind Json.asObject with
  | none => .ok steps
  | some completedSteps => overlayEventCompletedSteps completedSteps steps

/-- `overlay_step_state_from_authority`. -/
def overlayStepStateFromAuthority (workspace : Workspace) (s : StateObject)
    (context : ExecutionContext) : Except StepFailure ExecutionContext := do
  let steps ← overlayLedger s (overlayTaskClosureCompletedSteps s context.steps)
  overlayAuthoritativeOpenStepState workspace s { context with steps := steps }

/-! ### The attempts of the state -/

def noRepoFilesMarker : List Char := "__featureforge__/no-repo-files".toList

/-- The place of a step in the order of tasks and steps. -/
def stepPlace (key : StepKey) : Nat := key.1.toNat * 2 ^ 32 + key.2.toNat

/-- The surface of a closure record. -/
def reviewedSurfacePaths (record : Json) : List (List Char) :=
  (((record.get? "effective_reviewed_surface_paths").bind Json.asArray).getD []).filterMap
    fun path => path.asStr.map String.toList

/-- A step in place with no files, if it is not there. -/
def addCompletedStep (completed : OrderedMap Nat (StepKey × List (List Char))) (key : StepKey) :
    OrderedMap Nat (StepKey × List (List Char)) :=
  if completed.contains (stepPlace key) then completed
  else completed.insert (stepPlace key) (key, [])

/-- The steps of a closed task, with its surface if it has one. -/
def addClosedStep (paths : List (List Char))
    (completed : OrderedMap Nat (StepKey × List (List Char))) (key : StepKey) :
    OrderedMap Nat (StepKey × List (List Char)) :=
  if paths = [] then addCompletedStep completed key
  else completed.insert (stepPlace key) (key, paths)

/-- `authoritative_completed_steps_for_evidence`. -/
def authoritativeCompletedStepsForEvidence (s : StateObject) (steps : List PlanStepState) :
    Except StepFailure (OrderedMap Nat (StepKey × List (List Char))) := do
  let keys ← parseAuthoritativeCompletedSteps (objectEntries (s .eventCompletedSteps))
  .ok ((objectEntries (s .currentTaskClosureRecords)).entries.foldl
    (fun completed record =>
      match taskNumberFromTaskClosureRecord record.1 record.2 with
      | none => completed
      | some task => ((steps.filter fun step => step.taskNumber = task).map PlanStepState.key).foldl
          (addClosedStep (reviewedSurfacePaths record.2)) completed)
    (keys.foldl addCompletedStep .empty))

/-- `compute_packet_fingerprint` of a step of the plan. -/
def taskPacketFingerprint (sha : Sha256Hex) (plan : ApprovedPlan) (workspace : Workspace)
    (context : ExecutionContext) (key : StepKey) : Option (List Char) :=
  (workspace.taskDefinitionIdentity key.1).map fun identity =>
    (sha ("plan_path=".toList ++ context.planRel ++
      "\nplan_revision=".toList ++ decimal context.planRevision ++
      "\ntask_definition_identity=".toList ++ identity ++
      "\nsource_spec_path=".toList ++ plan.document.sourceSpecPath ++
      "\nsource_spec_revision=".toList ++ decimal plan.document.sourceSpecRevision ++
      "\nsource_spec_fingerprint=".toList ++ (sha workspace.sourceSpecSource).toList ++
      "\ntask_number=".toList ++ decimal key.1 ++
      "\nstep_number=".toList ++ decimal key.2 ++ ['\n'])).toList

/-- A step that the log has completed, as an attempt. -/
def recoveredAttempt (workspace : Workspace) (executionSource headSha : List Char)
    (packetFingerprint : Option (List Char)) (key : StepKey) (files : List (List Char)) :
    EvidenceAttempt :=
  let files := if files = [] then [noRepoFilesMarker] else files
  { EvidenceAttempt.blank key.1 key.2 1 with
    status := "Completed".toList
    recordedAt := "authoritative-event-log".toList
    executionSource := executionSource
    claim := "Authoritative event log marks Task ".toList ++ decimal key.1 ++ " Step ".toList ++
      decimal key.2 ++ " complete.".toList
    files := files
    fileProofs := files.map fun path => ⟨path, workspace.currentFileProof path⟩
    verificationSummary := "Recovered from authoritative completed-step state.".toList
    invalidationReason := "N/A".toList
    packetFingerprint := packetFingerprint
    headSha := some headSha
    baseSha := some headSha }

/-- `synthesize_legacy_authoritative_evidence_attempts`. -/
def synthesizeLegacyAuthoritativeEvidenceAttempts (sha : Sha256Hex) (plan : ApprovedPlan)
    (workspace : Workspace) (s : StateObject) (context : ExecutionContext) :
    Except StepFailure ExecutionContext := do
  let completed ← authoritativeCompletedStepsForEvidence s context.steps
  if completed.isEmpty then .ok context
  else
    let executionMode := if context.executionMode = noExecutionMode
      then "featureforge:executing-plans".toList else context.executionMode
    let headSha := ((jsonString (s .repoStateBaselineHeadSha)).map String.toList).getD
      (workspace.currentHeadSha.toOption.getD "authoritative-event-log".toList)
    .ok { context with
      executionMode := executionMode
      attempts := completed.entries.map fun entry =>
        recoveredAttempt workspace executionMode headSha
          (taskPacketFingerprint sha plan workspace context entry.2.1) entry.2.1 entry.2.2 }

def malformedAttempts : StepFailure :=
  .malformed "Authoritative execution evidence attempts are malformed: "

def attemptsCodec : ValueCodec (List EvidenceAttempt) := .list EvidenceAttempt.codec

/-- `overlay_execution_evidence_attempts_from_authority`. -/
def overlayExecutionEvidenceAttempts (sha : Sha256Hex) (plan : ApprovedPlan)
    (workspace : Workspace) (s : StateObject) (context : ExecutionContext) :
    Except StepFailure ExecutionContext :=
  match (s .executionEvidenceAttempts).filter fun value => !value.isNull with
  | none =>
    if context.attempts = [] then
      synthesizeLegacyAuthoritativeEvidenceAttempts sha plan workspace s context
    else .ok context
  | some value =>
    match attemptsCodec.fromValue value with
    | none => .error malformedAttempts
    | some attempts => .ok { context with attempts := attempts }

/-! ### Loading -/

/-- The steps of a plan without a mark. -/
def unmarkedSteps (parsed : List PlanStepState) : List PlanStepState :=
  parsed.map fun step => step.clearNote.check false

/-- An attempt is of a step of the plan, in its mode. -/
def checkAttempt (context : ExecutionContext) (attempt : EvidenceAttempt) :
    Except StepFailure Unit :=
  if (stepAt context.steps attempt.key).isNone then .error (.malformed
    "Execution evidence references a task/step that does not exist in the approved plan.")
  else (normalizeSource attempt.executionSource context.executionMode).mapError fun _ =>
    .malformed "Execution evidence source must match the persisted execution mode."

/-- Lays the state, if there is one, over a context. -/
def overlayAuthority (sha : Sha256Hex) (plan : ApprovedPlan) (workspace : Workspace)
    (s : Option StateObject) (context : ExecutionContext) : Except StepFailure ExecutionContext :=
  match s with
  | none => .ok context
  | some s => do
    let context ← overlayExecutionEvidenceAttempts sha plan workspace s context
    overlayStepStateFromAuthority workspace s { context with
      executionMode := inferExecutionModeFromEvidence context.executionMode context.attempts }

/-- The context of a plan with the attempts that projection files show. -/
def planContext (plan : ApprovedPlan) (parsed : List PlanStepState)
    (projected : List EvidenceAttempt) : ExecutionContext where
  planRel := plan.planRel
  planRevision := plan.document.planRevision
  executionMode := inferExecutionModeFromEvidence plan.document.executionMode projected
  steps := unmarkedSteps parsed
  attempts := projected

/-- The last checks of a context that has been loaded. -/
def checkContext (parsed : List PlanStepState) (context : ExecutionContext) :
    Except StepFailure Unit :=
  if context.executionMode = noExecutionMode ∧
      (parsed.any fun step => step.checked || step.noteState.isSome) = true then
    .error ⟨.state .planNotExecutionReady,
      "Newly approved plan revisions must start execution-clean."⟩
  else context.attempts.forM (checkAttempt context)

/-- The rest of a load, behind the checks of the files. -/
def loadContext (sha : Sha256Hex) (plan : ApprovedPlan) (workspace : Workspace)
    (s : Option StateObject) (parsed : List PlanStepState) (projected : List EvidenceAttempt) :
    Except StepFailure ExecutionContext := do
  let context ← overlayAuthority sha plan workspace s (planContext plan parsed projected)
  checkContext parsed context
  .ok context

/-- `load_execution_context_for_mutation`, over the state that has been loaded, if there is one. -/
def loadExecutionContextForMutation (sha : Sha256Hex) (plan : ApprovedPlan)
    (workspace : Workspace) (s : Option StateObject) : Except StepFailure ExecutionContext := do
  workspace.planChecks
  let parsed ← liftState (parseStepState plan.document.source plan.document)
  let projected ← workspace.evidenceProjection
  if (planContext plan parsed projected).executionMode = noExecutionMode ∧ projected ≠ [] then
    .error (.malformed "Execution evidence history cannot exist while Execution Mode is none.")
  else loadContext sha plan workspace s parsed projected

/-! ### The state of a log -/

/-- The state of the events of a log. -/
def logState (log : List ExecutionEvent) : StateObject := (reduceFrom (emptyState, false) log).1

/-- `load_authoritative_transition_state`: the state of a log with an event that applied. -/
def loadAuthoritativeTransitionState (log : List ExecutionEvent) :
    Except StepFailure (Option StateObject) :=
  if (reduceFrom (emptyState, false) log).2 then
    (liftState (hydrateMissingReviewProjectionSummaryFields (logState log))).map some
  else .ok none

theorem logState_concat (log : List ExecutionEvent) (e : ExecutionEvent) :
    logState (log ++ [e]) = (applyTypedEventToState (logState log) e).1 := by
  rw [logState, reduceFrom_append]
  rfl

/-- **What is loaded is the state of the log**, but for the summaries of the late stages. -/
theorem changesOnly_load {log : List ExecutionEvent} {s : Option StateObject}
    (h : loadAuthoritativeTransitionState log = .ok s) :
    ChangesOnly summaryFields (logState log) (s.getD emptyState) := by
  rw [loadAuthoritativeTransitionState] at h
  split_ifs at h with happlied
  · obtain ⟨s', hhydrate, rfl⟩ := map_eq_ok.mp h
    exact changesOnly_hydrate (liftState_eq_ok.mp hhydrate)
  · obtain rfl := Except.ok.inj h
    rw [logState, (reduceFrom_of_not_applied (Bool.eq_false_iff.mpr happlied)).1]
    exact .refl emptyState

end FeatureForge
