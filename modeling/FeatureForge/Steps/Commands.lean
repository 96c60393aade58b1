import FeatureForge.Leases.LeaseTruth
import FeatureForge.Steps.Context

/-!
# The step commands

`begin`, `note`, `complete`, `reopen` and `transfer` change the state of a plan's steps.  Each of
them checks its request against the context and the state that it has loaded, changes both, and
hands the changed state over, from which its event is made (`StepEffect`).

The answers of the routing, of the gates before the first step and of the active contract are
inputs (`StepGates`), and so are the rendered projections.
-/

namespace FeatureForge

/-! ### Requests -/

/-- `require_normalized_text`. -/
def requireNormalizedText (value : List Char) (failure : StepFailure) :
    Except StepFailure (List Char) :=
  if normalizeWhitespace value = [] then .error failure else .ok (normalizeWhitespace value)

def invalidStepInput (message : String) : StepFailure := ⟨.state .invalidCommandInput, message⟩

def blankSummary : StepFailure :=
  invalidStepInput "Execution note summaries may not be blank after whitespace normalization."

structure BeginRequest where
  task : UInt32
  step : UInt32
  executionMode : Option (List Char)
  expectExecutionFingerprint : List Char

structure NoteRequest where
  task : UInt32
  step : UInt32
  state : NoteState
  message : List Char
  expectExecutionFingerprint : List Char

structure CompleteRequest where
  task : UInt32
  step : UInt32
  source : List Char
  claim : List Char
  files : List (List Char)
  verifyCommand : Option (List Char)
  verificationSummary : List Char
  expectExecutionFingerprint : List Char

structure ReopenRequest where
  task : UInt32
  step : UInt32
  source : List Char
  reason : List Char
  expectExecutionFingerprint : List Char

/-- `TransferRequestMode::RepairStep`, with the reason. -/
structure RepairStepRequest where
  repairTask : UInt32
  repairStep : UInt32
  source : List Char
  reason : List Char
  expectExecutionFingerprint : List Char

/-- `NoteStateArg`. -/
inductive NoteStateArg where
  | blocked
  | interrupted
  deriving DecidableEq

/-- `normalize_note_request`, of its message and its state. -/
def normalizeNoteRequest (message : List Char) (state : NoteStateArg) :
    Except StepFailure (NoteState × List Char) := do
  let message ← requireNormalizedText message blankSummary
  if 120 < message.length then
    .error (invalidStepInput "Execution note summaries may not exceed 120 characters.")
  else .ok (match state with | .blocked => .blocked | .interrupted => .interrupted, message)

/-- `normalize_reopen_request`, of its reason. -/
def normalizeReopenReason (reason : List Char) : Except StepFailure (List Char) :=
  requireNormalizedText reason
    (invalidStepInput "Reopen reasons may not be blank after whitespace normalization.")

/-! ### Gates -/

/-- `ActiveAuthoritativeContract`, what the step commands read of it. -/
structure ActiveStepContract where
  resetPolicy : String
  coveredSteps : List String

structure StepGates where
  /-- the plan's fidelity review, for a first step -/
  planFidelity : Except StepFailure Unit
  /-- whether the preflight may be taken as passed -/
  preflight : Except StepFailure Unit
  persistPreflight : Except StepFailure Unit
  activeContract : Except StepFailure (Option ActiveStepContract)
  requirePublicMutation : Except StepFailure Unit
  /-- the closure of the task before, for the first step of a task -/
  priorTaskClosure : Except StepFailure Unit

/-- What a step command runs in. -/
structure StepEnvironment where
  sha : Sha256Hex
  plan : ApprovedPlan
  workspace : Workspace
  gates : StepGates
  strategy : ExecutionContext → StrategyContext
  /-- `render_execution_projections`: the plan and the evidence of a context -/
  renderProjections : ExecutionContext → List Char × List Char

/-- What a command hands over: the state to persist and the context that it leaves in memory. -/
structure StepEffect where
  payload : StateObject
  context : ExecutionContext

inductive StepCommand where
  | begin
  | note
  | complete
  | reopen
  | transfer
  deriving DecidableEq

def StepCommand.asStr : StepCommand → String
  | .begin => "begin"
  | .note => "note"
  | .complete => "complete"
  | .reopen => "reopen"
  | .transfer => "transfer"

/-- `enforce_authoritative_phase`. -/
def enforceAuthoritativePhase (command : StepCommand) (s : StateObject) :
    Except StepFailure Unit :=
  let phase := jsonString (s .harnessPhase)
  if (s .strategyResetRequired).bind Json.asBool = some true then .error ⟨.blockedOnPlanPivot,
    command.asStr ++ " is blocked while runtime strategy reset is required."⟩
  else if phase = some "handoff_required" then .error ⟨.state .illegalHarnessPhase, command.asStr ++
    " is blocked while the authoritative harness phase is handoff_required."⟩
  else if phase = some "pivot_required" then .error ⟨.blockedOnPlanPivot, command.asStr ++
    " is blocked while the authoritative harness phase is pivot_required."⟩
  else .ok ()

/-- A step that a contract covers. -/
def readContractScope (scope : String) : Except StepFailure StepKey :=
  match parseContractTaskStepScope scope with
  | some step => .ok step
  | none => .error ⟨.contractMismatch,
      "Execution contract covered_steps entries must use \x60Task <n> Step <m>\x60 scope format."⟩

/-- `enforce_active_contract_scope`. -/
def enforceActiveContractScope (command : StepCommand) (task step : UInt32)
    (contract : Option ActiveStepContract) : Except StepFailure Unit :=
  match contract with
  | none => .ok ()
  | some contract => do
    let coveredSteps ← contract.coveredSteps.mapM readContractScope
    if (task, step) ∈ coveredSteps then .ok ()
    else .error ⟨.contractMismatch, command.asStr ++ " target Task " ++ numberText task ++ " Step "
      ++ numberText step ++ " is outside the active authoritative contract scope."⟩

/-- The two checks of the state that begin every command. -/
def enforceAuthority (command : StepCommand) (task step : UInt32) (gates : StepGates)
    (s : StateObject) : Except StepFailure (Option ActiveStepContract) := do
  let contract ← gates.activeContract
  enforceAuthoritativePhase command s
  enforceActiveContractScope command task step contract
  .ok contract

/-- `validate_expected_fingerprint`. -/
def validateExpectedFingerprint (workspace : Workspace) (context : ExecutionContext)
    (expected : List Char) : Except StepFailure Unit :=
  if workspace.executionFingerprint context = expected then .ok ()
  else .error ⟨.staleMutation,
    "Execution state changed since the last parsed execution fingerprint."⟩

local instance lawfulBEqOfSources : LawfulBEq (List Char) := inferInstance

/-- `normalize_or_seed_source`. -/
def normalizeOrSeedSource (source executionMode : List Char) : Except StepFailure (List Char) :=
  if source ∉ executionModes then .error ⟨.invalidExecutionMode,
    "Execution source must be one of the supported execution modes."⟩
  else if executionMode = noExecutionMode then .ok source
  else (normalizeSource source executionMode).map fun _ => executionMode

/-! ### Changing the state -/

/-- `set_harness_phase_executing`. -/
def setHarnessPhaseExecuting (s : StateObject) : StateObject :=
  s.set .harnessPhase (.str "executing")

/-- Null at a field that is there. -/
def clearPresent (f : Field) (s : StateObject) : StateObject :=
  if (s f).isSome then s.set f .null else s

def repairFollowUpFields : List Field :=
  [.reviewStateRepairFollowUp, .reviewStateRepairFollowUpRecord, .reviewStateRepairFollowUpTask,
   .reviewStateRepairFollowUpStep, .reviewStateRepairFollowUpClosureRecordId]

/-- The follow-up of a repair asks for the step to be taken up again. -/
def asksForReentry (s : StateObject) : Bool :=
  (repairFollowUpRecordFromState s).any fun record => record.kind.publicToken = "execution_reentry"

/-- `consume_execution_reentry_repair_follow_up`. -/
def consumeExecutionReentryRepairFollowUp (s : StateObject) : Bool × StateObject :=
  if asksForReentry s then
    (true, setHarnessPhaseExecuting (repairFollowUpFields.foldl (fun s f => clearPresent f s) s))
  else (false, s)

/-- `record_execution_projection_fingerprints`. -/
def recordExecutionProjectionFingerprints (env : StepEnvironment) (context : ExecutionContext)
    (s : StateObject) : StateObject :=
  let rendered := env.renderProjections context
  (s.set .executionPlanProjectionFingerprint (.str (env.sha rendered.1))).set
    .executionEvidenceProjectionFingerprint (.str (env.sha rendered.2))

/-- `record_execution_evidence_attempts`. -/
def recordExecutionEvidenceAttempts (context : ExecutionContext) (s : StateObject) : StateObject :=
  s.set .executionEvidenceAttempts (attemptsCodec.toValue context.attempts)

/-- `open_step_state_record`. -/
def openStepStateRecord (env : StepEnvironment) (context : ExecutionContext) (key : StepKey)
    (noteState : NoteState) (noteSummary : List Char) : OpenStepStateRecord where
  task := key.1
  step := key.2
  noteState := noteState.asStr
  noteSummary := truncateSummary noteSummary
  executionMode := some context.executionMode
  repoRoot := some env.workspace.repoRoot
  sourcePlanPath := context.planRel
  sourcePlanRevision := context.planRevision
  authoritativeSequence := env.workspace.authoritativeSequence

/-- `json_u64`. -/
def jsonU64 (v : Option Json) : Nat := (v.bind Json.asU64).getD 0

/-- `apply_note_reset_policy`. -/
def applyNoteResetPolicy (noteState : NoteState) (contract : Option ActiveStepContract)
    (s : StateObject) : StateObject :=
  if noteState = .active then s
  else
    match contract with
    | none => s
    | some contract =>
      if trim contract.resetPolicy ∉ ["adaptive", "chunk-boundary"] then s
      else
        let threshold := jsonU64 (s .currentChunkPivotThreshold)
        let phase := if 0 < threshold ∧ threshold ≤ jsonU64 (s .currentChunkRetryCount)
          then "pivot_required" else "handoff_required"
        ((s.set .harnessPhase (.str phase)).set .handoffRequired (.bool true)).set
          .aggregateEvaluationState (.str "blocked")

/-- The artifacts of reviews that a reopening drops. -/
def staleProvenanceFields : List Field :=
  [.lastEvaluationReportPath, .lastEvaluationReportFingerprint, .lastEvaluationEvaluatorKind,
   .lastEvaluationVerdict, .lastHandoffPath, .lastHandoffFingerprint, .lastPivotPath,
   .lastPivotFingerprint, .lastFinalReviewArtifactFingerprint, .lastBrowserQaArtifactFingerprint,
   .lastReleaseDocsArtifactFingerprint]

/-- `stale_reopen_provenance`. -/
def staleReopenProvenance (s : StateObject) : StateObject :=
  ((((s.setNulls staleProvenanceFields).set .finalReviewState (.str "stale")).set
    .browserQaState (.str "stale")).set .releaseDocsState (.str "stale"))

/-! ### The attempts -/

/-- `next_attempt_number`, wrapping. -/
def nextAttemptNumber (attempts : List EvidenceAttempt) (key : StepKey) : UInt32 :=
  UInt32.ofNat (((attemptsAt attempts key).map fun attempt =>
    attempt.attemptNumber.toNat).max?.getD 0) + 1

/-- An attempt that no longer counts. -/
def EvidenceAttempt.invalidate (now reason : List Char) (attempt : EvidenceAttempt) :
    EvidenceAttempt :=
  { attempt with
    status := "Invalidated".toList, recordedAt := now, invalidationReason := reason }

/-- An attempt that completed a step. -/
def EvidenceAttempt.completes (key : StepKey) (attempt : EvidenceAttempt) : Bool :=
  attempt.key = key && attempt.status = "Completed".toList

/-- `invalidate_latest_completed_attempt`. -/
def invalidateLatestCompletedAttempt (now reason : List Char) (key : StepKey)
    (attempts : List EvidenceAttempt) : List EvidenceAttempt :=
  (setFirst (EvidenceAttempt.completes key) (EvidenceAttempt.invalidate now reason)
    attempts.reverse).reverse

/-- Sorted, each once. -/
def sortedPaths (paths : List (List Char)) : List (List Char) :=
  (OrderedMap.keySet (paths.map String.ofList)).map String.toList

/-- `canonicalize_files`. -/
def canonicalizeFiles (files : List (List Char)) : Except StepFailure (List (List Char)) := do
  let normalized ← files.mapM fun path =>
    match normalizeRepoRelativePath path with
    | some path => .ok path
    | none => .error (invalidStepInput
        "Evidence file paths must be normalized repo-relative paths inside the repo root.")
  .ok (if normalized = [] then [noRepoFilesMarker] else sortedPaths normalized)

/-- `default_files_for_task`; of tasks with one number the last is looked at. -/
def defaultFilesForTask (plan : ApprovedPlan) (workspace : Workspace) (task : UInt32) :
    List (List Char) :=
  match (plan.document.tasks.filter fun planTask => planTask.number = task).getLast? with
  | none => [noRepoFilesMarker]
  | some planTask =>
    let files := sortedPaths ((planTask.files.map TaskFileEntry.path).filter workspace.fileExists)
    if files = [] then [noRepoFilesMarker] else files

/-- `canonicalize_repo_visible_paths`. -/
def canonicalizeRepoVisiblePaths (workspace : Workspace) (files : List (List Char)) :
    Except StepFailure (List (List Char)) :=
  let missing := sortedPaths (files.filter fun path => !workspace.fileExists path)
  if missing = [] then .ok files
  else do
    let renames ← workspace.renameBackedPaths missing
    .ok (sortedPaths (files.map fun path => (OrderedMap.lookup path renames).getD path))

/-- The attempt that completes a step. -/
def completedAttempt (env : StepEnvironment) (context : ExecutionContext) (s : StateObject)
    (request : CompleteRequest) (files : List (List Char)) (packetFingerprint headSha : List Char) :
    EvidenceAttempt where
  taskNumber := request.task
  stepNumber := request.step
  attemptNumber := nextAttemptNumber context.attempts (request.task, request.step)
  status := "Completed".toList
  recordedAt := env.workspace.now
  executionSource := request.source
  claim := request.claim
  files := files
  fileProofs := files.map fun path => ⟨path, env.workspace.currentFileProof path⟩
  verifyCommand := request.verifyCommand
  verificationSummary := request.verificationSummary
  invalidationReason := "N/A".toList
  packetFingerprint := some packetFingerprint
  headSha := some headSha
  baseSha := some headSha
  sourceContractPath := (jsonString (s .activeContractPath)).map String.toList
  sourceContractFingerprint := (jsonString (s .activeContractFingerprint)).map String.toList
  sourceEvaluationReportFingerprint :=
    (jsonString (s .lastEvaluationReportFingerprint)).map String.toList
  evaluatorVerdict := (jsonString (s .lastEvaluationVerdict)).map String.toList
  failingCriterionIds := (stringArray (s .openFailedCriteria)).map String.toList
  sourceHandoffFingerprint := (jsonString (s .lastHandoffFingerprint)).map String.toList
  repoStateBaselineHeadSha := (jsonString (s .repoStateBaselineHeadSha)).map String.toList
  repoStateBaselineWorktreeFingerprint :=
    (jsonString (s .repoStateBaselineWorktreeFingerprint)).map String.toList

/-! ### Steps -/

def missingStep : StepFailure :=
  .invalidTransition "Requested task/step does not exist in the approved plan."

def noted (noteState : NoteState) (step : PlanStepState) : Bool := step.noteState = some noteState

/-- The order of the steps of a plan. -/
def StepBefore (key key' : StepKey) : Prop := key.1 < key'.1 ∨ key.1 = key'.1 ∧ key.2 < key'.2

instance (key key' : StepKey) : Decidable (StepBefore key key') := inferInstanceAs (Decidable (_ ∨ _))

/-- A later step that is parked does not stand in the way of an earlier one; its note goes. -/
def clearParked (key : StepKey) (failure : StepFailure) (steps : List PlanStepState) :
    Except StepFailure (List PlanStepState) :=
  match steps.find? (noted .interrupted) with
  | none => .ok steps
  | some parked =>
    if parked.key = key then .ok steps
    else if StepBefore parked.key key then .error failure
    else .ok (setFirst (noted .interrupted) PlanStepState.clearNote steps)

/-! ### The commands -/

/-- The mode that a first step begins the plan in. -/
def beginExecutionMode (request : BeginRequest) (executionMode : List Char) :
    Except StepFailure (List Char) :=
  if executionMode = noExecutionMode then
    match request.executionMode with
    | none => .error ⟨.invalidExecutionMode,
        "The first begin for a plan revision must supply a valid execution mode."⟩
    | some requested =>
      if requested ∈ executionModes then .ok requested
      else .error ⟨.invalidExecutionMode,
        "The first begin for a plan revision must supply a valid execution mode."⟩
  else if request.executionMode.any (· ≠ executionMode) = true then .error ⟨.invalidExecutionMode,
    "begin may not change the persisted execution mode."⟩
  else .ok executionMode

/-- The step that `begin` works on is active already. -/
def beginAgain (gates : StepGates) (context : ExecutionContext) (s : StateObject) :
    Except StepFailure (Option StepEffect) :=
  if asksForReentry s then do
    gates.requirePublicMutation
    .ok (some ⟨(consumeExecutionReentryRepairFollowUp s).2, context⟩)
  else .ok none

/-- The step that `begin` works on becomes the active one. -/
def beginStep (env : StepEnvironment) (key : StepKey) (context : ExecutionContext)
    (s : StateObject) (steps : List PlanStepState) (title : List Char) :
    Except StepFailure StepEffect := do
  let summary := truncateSummary (← requireNormalizedText title blankSummary)
  let context := { context with steps := setStep key (PlanStepState.note .active summary) steps }
  let s ← recordOpenStepState env.workspace.statePath
    (openStepStateRecord env context key .active summary) s
  let s ← liftState (ensureInitialDispatchStrategyCheckpoint env.sha (env.strategy context)
    (setHarnessPhaseExecuting s))
  let s := (consumeExecutionReentryRepairFollowUp s).2
  .ok ⟨recordExecutionProjectionFingerprints env context s, context⟩

/-- The checks of `begin` on the steps, up to the work itself. -/
def beginChecked (env : StepEnvironment) (key : StepKey) (context : ExecutionContext)
    (s : StateObject) (target : PlanStepState) : Except StepFailure StepEffect := do
  env.gates.requirePublicMutation
  if target.checked then
    .error (.invalidTransition "begin may not target a completed step.")
  else do
    env.gates.priorTaskClosure
    if (context.steps.find? (noted .blocked)).any (fun step => step.key ≠ key) = true then
      .error (.invalidTransition "begin may not bypass existing blocked work.")
    else do
      let steps ← clearParked key
        (.invalidTransition "Interrupted work must resume on the same step.") context.steps
      env.gates.persistPreflight
      beginStep env key context s steps target.title

/-- `begin`, over the context that it has loaded and, later, the state. -/
def StepEnvironment.begin (env : StepEnvironment) (request : BeginRequest)
    (context : ExecutionContext) (s : StateObject) : Except StepFailure (Option StepEffect) := do
  let key := (request.task, request.step)
  validateExpectedFingerprint env.workspace context request.expectExecutionFingerprint
  let executionMode ← beginExecutionMode request context.executionMode
  env.gates.planFidelity
  let context := { context with executionMode := executionMode }
  env.gates.preflight
  let _ ← enforceAuthority .begin request.task request.step env.gates s
  match context.steps.find? (noted .active) with
  | some active =>
    if active.key = key then beginAgain env.gates context s
    else .error (.invalidTransition "A different step is already active.")
  | none =>
    match stepAt context.steps key with
    | none => .error missingStep
    | some target => (beginChecked env key context s target).map some

/-- `note`. -/
def StepEnvironment.note (env : StepEnvironment) (request : NoteRequest)
    (context : ExecutionContext) (s : StateObject) : Except StepFailure StepEffect := do
  let key := (request.task, request.step)
  validateExpectedFingerprint env.workspace context request.expectExecutionFingerprint
  let contract ← enforceAuthority .note request.task request.step env.gates s
  match stepAt context.steps key with
  | none => .error missingStep
  | some target =>
    if target.noteState ≠ some .active then
      .error (.invalidTransition "note may target only the current active step.")
    else if target.checked then
      .error (.invalidTransition "note may not target a completed step.")
    else do
      let context := { context with
        steps := setStep key (PlanStepState.note request.state request.message) context.steps }
      let s ← recordOpenStepState env.workspace.statePath
        (openStepStateRecord env context key request.state request.message) s
      let s := applyNoteResetPolicy request.state contract s
      .ok ⟨recordExecutionProjectionFingerprints env context s, context⟩

/-- The files that a completion names, or those of its task. -/
def completedFiles (env : StepEnvironment) (request : CompleteRequest) :
    Except StepFailure (List (List Char)) :=
  if request.files = [] then .ok (defaultFilesForTask env.plan env.workspace request.task)
  else canonicalizeFiles request.files

/-- The step that `complete` works on is completed. -/
def completeStep (env : StepEnvironment) (request : CompleteRequest) (context : ExecutionContext)
    (s : StateObject) : Except StepFailure StepEffect := do
  let key := (request.task, request.step)
  let files ← completedFiles env request
  let files ← canonicalizeRepoVisiblePaths env.workspace files
  match taskPacketFingerprint env.sha env.plan env.workspace context key with
  | none => .error ⟨.state .executionStateNotReady,
      "complete could not determine semantic task contract identity for task "
        ++ numberText request.task ++ "."⟩
  | some packetFingerprint => do
    let headSha ← env.workspace.currentHeadSha
    let context := { context with
      steps := setStep key (fun step => (step.check true).clearNote) context.steps
      attempts := context.attempts ++
        [completedAttempt env context s request files packetFingerprint headSha] }
    let s := recordExecutionEvidenceAttempts context (clearOpenStepState s)
    let s := recordExecutionProjectionFingerprints env context s
    .ok ⟨(consumeExecutionReentryRepairFollowUp s).2, context⟩

/-- `complete`. -/
def StepEnvironment.complete (env : StepEnvironment) (request : CompleteRequest)
    (context : ExecutionContext) (s : StateObject) : Except StepFailure StepEffect := do
  validateExpectedFingerprint env.workspace context request.expectExecutionFingerprint
  let executionMode ← normalizeOrSeedSource request.source context.executionMode
  let context := { context with executionMode := executionMode }
  let _ ← enforceAuthority .complete request.task request.step env.gates s
  env.gates.requirePublicMutation
  match stepAt context.steps (request.task, request.step) with
  | none => .error missingStep
  | some target =>
    if target.noteState ≠ some .active then
      .error (.invalidTransition "complete may target only the current active step.")
    else if target.checked then
      .error (.invalidTransition "complete may not directly refresh an already checked step.")
    else completeStep env request context s

/-- The state that a reopening hands over. -/
def reopenState (env : StepEnvironment) (request : ReopenRequest) (context : ExecutionContext)
    (summary : List Char) (s : StateObject) : Except StepFailure StateObject := do
  let s ← recordOpenStepState env.workspace.statePath
    (openStepStateRecord env context (request.task, request.step) .interrupted summary) s
  let s ← liftState (clearCurrentTaskClosureResultsForExecutionReentry [request.task] s)
  let s ← liftState (recordReopenStrategyCheckpoint env.sha (env.strategy context) request.task
    request.step (String.ofList request.reason) (staleReopenProvenance s))
  let s := if jsonString (s .strategyCheckpointKind) = some "cycle_break" then s
    else setHarnessPhaseExecuting s
  let s := recordExecutionEvidenceAttempts context s
  let s := (consumeExecutionReentryRepairFollowUp s).2
  .ok (recordExecutionProjectionFingerprints env context s)

/-- The step that `reopen` works on is reopened. -/
def reopenStep (env : StepEnvironment) (request : ReopenRequest) (context : ExecutionContext)
    (s : StateObject) (steps : List PlanStepState) : Except StepFailure StepEffect := do
  let key := (request.task, request.step)
  let summary := truncateSummary request.reason
  let context := { context with
    steps := setStep key (fun step => (step.check false).note .interrupted summary) steps
    attempts := invalidateLatestCompletedAttempt env.workspace.now request.reason key
      context.attempts }
  let s ← reopenState env request context summary s
  .ok ⟨s, context⟩

/-- `reopen`. -/
def StepEnvironment.reopen (env : StepEnvironment) (request : ReopenRequest)
    (context : ExecutionContext) (s : StateObject) : Except StepFailure (Option StepEffect) := do
  let key := (request.task, request.step)
  validateExpectedFingerprint env.workspace context request.expectExecutionFingerprint
  let executionMode ← normalizeOrSeedSource request.source context.executionMode
  let context := { context with executionMode := executionMode }
  let _ ← enforceAuthority .reopen request.task request.step env.gates s
  match stepAt context.steps key with
  | none => .error missingStep
  | some target => do
    env.gates.requirePublicMutation
    if (context.steps.find? (noted .interrupted)).any (fun step => step.key = key) = true then
      .ok none
    else do
      let steps ← clearParked key (.invalidTransition
        "reopen may not create a second parked interrupted step while one already exists.")
        context.steps
      if !target.checked ∧ (currentTaskClosureResult s request.task).isNone then
        .error (.invalidTransition "reopen may target only a completed step.")
      else (reopenStep env request context s steps).map some

/-- The note of a step that is parked for a repair. -/
def parkedSummary (key : StepKey) : List Char :=
  truncateSummary ("Parked for repair of Task ".toList ++ decimal key.1 ++ " Step ".toList ++
    decimal key.2)

/-- The work of `transfer`: the active step is parked for the repair. -/
def parkActive (env : StepEnvironment) (request : RepairStepRequest) (context : ExecutionContext)
    (s : Option StateObject) (active : PlanStepState) : Except StepFailure (Option StepEffect) :=
  let repairKey := (request.repairTask, request.repairStep)
  let context := { context with
    steps := setFirst (noted .active) (PlanStepState.note .interrupted (parkedSummary repairKey))
      (setStep repairKey (fun step => (step.check false).clearNote) context.steps)
    attempts := invalidateLatestCompletedAttempt env.workspace.now request.reason repairKey
      context.attempts }
  match s with
  | none => .ok none
  | some s => do
    let s ← recordOpenStepState env.workspace.statePath
      (openStepStateRecord env context active.key .interrupted (parkedSummary repairKey)) s
    .ok (some ⟨recordExecutionProjectionFingerprints env context s, context⟩)

/-- `transfer_repair_step`. -/
def StepEnvironment.transferRepairStep (env : StepEnvironment) (request : RepairStepRequest)
    (context : ExecutionContext) (s : Option StateObject) :
    Except StepFailure (Option StepEffect) := do
  validateExpectedFingerprint env.workspace context request.expectExecutionFingerprint
  normalizeSource request.source context.executionMode
  env.gates.requirePublicMutation
  match s with
  | none => .ok ()
  | some s => do
    let _ ← enforceAuthority .transfer request.repairTask request.repairStep env.gates s
    .ok ()
  match context.steps.find? (noted .active) with
  | none => .error (.invalidTransition "transfer requires a current active step.")
  | some active =>
    if (context.steps.find? (noted .interrupted)).isSome then .error (.invalidTransition
      "transfer may not create a second parked interrupted step while one already exists.")
    else
      match stepAt context.steps (request.repairTask, request.repairStep) with
      | none => .error (.invalidTransition
          "Requested repair task/step does not exist in the approved plan.")
      | some repair =>
        if !repair.checked then .error (.invalidTransition
          "transfer may target only a completed repair step.")
        else parkActive env request context s active

end FeatureForge
