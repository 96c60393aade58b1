import FeatureForge.Steps.Runs

/-!
# Commands over a log

A whole command: it loads the state and the context from the log, works on them, and appends the
event that is made from what it hands over (`StepEnvironment.run`).  On the log of a run of the
plan every command that succeeds goes on with the run (`StepRun.run`).
-/

namespace FeatureForge

/-- What is asked of a step command; the texts of a completion and of a repair are as they have
been read. -/
inductive StepInput where
  | begin (request : BeginRequest)
  | note (task step : UInt32) (state : NoteStateArg) (message expected : List Char)
  | complete (request : CompleteRequest)
  | reopen (request : ReopenRequest)
  | transfer (request : RepairStepRequest)

namespace StepInput

def command : StepInput → StepCommand
  | .begin _ => .begin
  | .note .. => .note
  | .complete _ => .complete
  | .reopen _ => .reopen
  | .transfer _ => .transfer

/-- Only `complete` says what its step is: there is no open step any more that does. -/
def hint : StepInput → Option StepKey
  | .complete request => some (request.task, request.step)
  | _ => none

end StepInput

/-- The work of a command, over the state and the context. -/
def StepEnvironment.work (env : StepEnvironment) (context : ExecutionContext)
    (s : Option StateObject) : StepInput → Except StepFailure (Option StepEffect)
  | .begin request => env.begin request context (s.getD emptyState)
  | .note task step state message expected => do
    let (noteState, message) ← normalizeNoteRequest message state
    (env.note ⟨task, step, noteState, message, expected⟩ context (s.getD emptyState)).map some
  | .complete request => (env.complete request context (s.getD emptyState)).map some
  | .reopen request => do
    let reason ← normalizeReopenReason request.reason
    env.reopen { request with reason := reason } context (s.getD emptyState)
  | .transfer request => env.transferRepairStep request context s

/-- The log with the event of what a command hands over. -/
def appendEffect (input : StepInput) (log : List ExecutionEvent) (effect : StepEffect) :
    Except StepFailure (List ExecutionEvent) := do
  let e ← liftState (eventFromCommandAuthoritativeDelta input.command.asStr (logState log)
    effect.payload input.hint)
  .ok (log ++ [e])

/-- A command, over a log. -/
def StepEnvironment.run (env : StepEnvironment) (input : StepInput) (log : List ExecutionEvent) :
    Except StepFailure (List ExecutionEvent) := do
  let s ← loadAuthoritativeTransitionState log
  let context ← loadExecutionContextForMutation env.sha env.plan env.workspace s
  match ← env.work context s input with
  | none => .ok log
  | some effect => appendEffect input log effect

section

variable {plan : StepPlan} {log log' : List ExecutionEvent} {moves : List StepMove}
  {env : StepEnvironment} {input : StepInput}

theorem appendEffect_ok {effect : StepEffect} (h : appendEffect input log effect = .ok log') :
    ∃ e, log' = log ++ [e] ∧ AppendsEvent input.command log effect input.hint e := by
  obtain ⟨e, hevent, h⟩ := bind_eq_ok.mp h
  exact ⟨e, (Except.ok.inj h).symm, liftState_eq_ok.mp hevent⟩

/-- A command that succeeds has loaded a state and a context, and has appended one event at most. -/
theorem run_ok (h : env.run input log = .ok log') :
    ∃ s context, loadAuthoritativeTransitionState log = .ok s ∧
      loadExecutionContextForMutation env.sha env.plan env.workspace s = .ok context ∧
      (log' = log ∨ ∃ effect e, env.work context s input = .ok (some effect) ∧
        log' = log ++ [e] ∧ AppendsEvent input.command log effect input.hint e) := by
  obtain ⟨s, hload, h⟩ := bind_eq_ok.mp h
  obtain ⟨context, hcontext, h⟩ := bind_eq_ok.mp h
  obtain ⟨effect, hwork, h⟩ := bind_eq_ok.mp h
  refine ⟨s, context, hload, hcontext, ?_⟩
  cases effect with
  | none => exact Or.inl (Except.ok.inj h).symm
  | some effect =>
    obtain ⟨e, rfl, happend⟩ := appendEffect_ok h
    exact Or.inr ⟨effect, e, hwork, rfl, happend⟩

theorem OpensStep.opens {context : ExecutionContext} {key : StepKey} {noteState : NoteState}
    {s : StateObject} {effect : StepEffect}
    (h : OpensStep env context key noteState s effect.payload) :
    ∃ record, effect.Opens record ∧ record.key = key := by
  obtain ⟨summary, normal, hnormal, hchanges⟩ := h
  obtain ⟨_, _, hrecord, _⟩ := normalizeOpenStepStateRecord_ok hnormal
  refine ⟨normal, ?_, hrecord ▸ rfl⟩
  rw [StepEffect.Opens, hchanges _ (progressFields_not_side _ (by decide)), set_self]

theorem Reopens.opens {request : ReopenRequest} {context : ExecutionContext}
    {attempts : List EvidenceAttempt} {s : StateObject} {effect : StepEffect}
    {record : OpenStepStateRecord}
    (h : Reopens env request context attempts s effect.payload record) : effect.Opens record := by
  rw [StepEffect.Opens, h.changes _ (progressFields_not_side _ (by decide)),
    set_of_ne _ _ (by decide), set_self]

theorem Reopens.key {request : ReopenRequest} {context : ExecutionContext}
    {attempts : List EvidenceAttempt} {s payload : StateObject} {record : OpenStepStateRecord}
    (h : Reopens env request context attempts s payload record) :
    record.key = (request.task, request.step) := by
  obtain ⟨summary, hnormal⟩ := h.normal
  obtain ⟨_, _, hrecord, _⟩ := normalizeOpenStepStateRecord_ok hnormal
  exact hrecord ▸ rfl

/-- **A completion is a move of its own.** -/
theorem StepRun.run_complete (h : StepRun plan log moves)
    (happroved : env.plan = plan.toApprovedPlan)
    (hprojects : env.workspace.Projects (progressOf moves).attempts) {request : CompleteRequest}
    (hrun : env.run (.complete request) log = .ok log') :
    log' = log ∨ ∃ attempt, attempt.key = (request.task, request.step) ∧
      StepRun plan log' (moves ++ [.completed attempt]) := by
  obtain ⟨s, context, hload, hcontext, hrest⟩ := run_ok hrun
  refine hrest.imp_right ?_
  rintro ⟨effect, e, hwork, rfl, happend⟩
  obtain ⟨effect', hcomplete, heffect⟩ := map_eq_ok.mp hwork
  obtain rfl := Option.some.inj heffect
  obtain ⟨_, _, attempt, _, _, _, hdone⟩ := complete_ok hcomplete
  refine ⟨attempt, hdone.key, .completed h ⟨happroved, hprojects, hload, happroved ▸ hcontext⟩
    hcomplete happend ?_⟩
  rw [hdone.left]

/-- **A command that succeeds goes on with the run.** -/
theorem StepRun.run (h : StepRun plan log moves) (happroved : env.plan = plan.toApprovedPlan)
    (hprojects : env.workspace.Projects (progressOf moves).attempts)
    (hrun : env.run input log = .ok log') : ∃ done, StepRun plan log' (moves ++ done) := by
  obtain ⟨s, context, hload, hcontext, rfl | ⟨effect, e, hwork, rfl, happend⟩⟩ := run_ok hrun
  · exact ⟨[], (List.append_nil moves).symm ▸ h⟩
  have hloads : plan.Loads env moves log s context :=
    ⟨happroved, hprojects, hload, happroved ▸ hcontext⟩
  cases input with
  | begin request =>
    cases hactive : context.steps.find? (FeatureForge.noted .active) with
    | none =>
      obtain ⟨_, _, _, _, _, _, hopened⟩ := begin_ok hwork hactive
      obtain ⟨record, hopens, _⟩ := hopened.opens
      exact ⟨[.began record], .begun h hloads h (fun _ _ => rfl) hload hactive hwork happend hopens⟩
    | some active =>
      refine ⟨[], (List.append_nil moves).symm ▸ .resumed h hload ?_ hwork happend⟩
      rw [hactive]
      rfl
  | note task step state message expected =>
    obtain ⟨⟨noteState, text⟩, hrequest, hwork⟩ := bind_eq_ok.mp hwork
    obtain ⟨effect', hnote, heffect⟩ := map_eq_ok.mp hwork
    obtain rfl := Option.some.inj heffect
    obtain ⟨_, _, _, hopened⟩ := note_ok hnote
    obtain ⟨record, hopens, _⟩ := hopened.opens
    exact ⟨[.noted ⟨record, noteState⟩],
      .noted h hloads (show normalizeNoteRequest message state =
        .ok ((⟨task, step, noteState, text, expected⟩ : NoteRequest).state, text) from hrequest)
        hnote happend hopens⟩
  | complete request =>
    rcases h.run_complete happroved hprojects hrun with heq | ⟨attempt, _, hcompleted⟩
    · exact ⟨[], (List.append_nil moves).symm ▸ heq.symm ▸ h⟩
    · exact ⟨[.completed attempt], hcompleted⟩
  | reopen request =>
    obtain ⟨reason, _, hreopen⟩ := bind_eq_ok.mp hwork
    obtain ⟨_, _, record, _, _, _, hreopens⟩ := reopen_ok hreopen
    exact ⟨[.reopened record env.workspace.now reason],
      .reopened h hloads hreopen happend hreopens.opens⟩
  | transfer request =>
    cases s with
    | none => exact absurd hwork transfer_none
    | some s =>
      obtain ⟨_, _, _, _, _, hopened, _⟩ := transfer_ok hwork
      obtain ⟨record, hopens, _⟩ := hopened.opens
      exact ⟨[.transferred record], .transferred h hloads hwork happend hopens⟩

end

/-! ### One command after the other -/

/-- Commands of several workspaces, one after the other. -/
def session (commands : List (StepEnvironment × StepInput)) (log : List ExecutionEvent) :
    Except StepFailure (List ExecutionEvent) :=
  commands.foldlM (fun log command => command.1.run command.2 log) log

/-- No evidence has been written out. -/
theorem projects_of_nil {workspace : Workspace} (h : workspace.evidenceProjection = .ok [])
    (attempts : List EvidenceAttempt) : workspace.Projects attempts :=
  ⟨[], h, fun _ hmem => absurd hmem List.not_mem_nil⟩

/-- **Commands that all succeed are a run.** -/
theorem StepRun.session {plan : StepPlan} {commands : List (StepEnvironment × StepInput)} :
    ∀ {log log' : List ExecutionEvent} {moves : List StepMove}, StepRun plan log moves →
    (∀ command ∈ commands, command.1.plan = plan.toApprovedPlan ∧
      command.1.workspace.evidenceProjection = .ok []) →
    FeatureForge.session commands log = .ok log' → ∃ done, StepRun plan log' (moves ++ done) := by
  induction commands with
  | nil =>
    intro log log' moves h _ hsession
    obtain rfl := Except.ok.inj hsession
    exact ⟨[], (List.append_nil moves).symm ▸ h⟩
  | cons command commands ih =>
    intro log log' moves h hall hsession
    obtain ⟨happroved, hprojection⟩ := hall command List.mem_cons_self
    obtain ⟨log₁, hrun, hrest⟩ := bind_eq_ok.mp hsession
    obtain ⟨done, hdone⟩ := h.run happroved (projects_of_nil hprojection _) hrun
    obtain ⟨more, hmore⟩ := ih hdone (fun c hc => hall c (List.mem_cons_of_mem _ hc)) hrest
    exact ⟨done ++ more, List.append_assoc moves done more ▸ hmore⟩

/-! ### A plan with two steps -/

def noteDocument : PlanDocument where
  path := "docs/featureforge/plans/note.md".toList
  workflowState := "Engineering Approved".toList
  planRevision := 1
  executionMode := noExecutionMode
  sourceSpecPath := "docs/featureforge/specs/note.md".toList
  sourceSpecRevision := 1
  lastReviewedBy := "plan-eng-review".toList
  qaRequirement := none
  coverageMatrix := .empty
  tasks := []
  source := "## Task 1: Note\n- [ ] **Step 1: Write**\n- [ ] **Step 2: Check**\n".toList

def noteSteps : List PlanStepState :=
  (parseStepState noteDocument.source noteDocument).toOption.getD []

theorem exists_of_isOk {ε α : Type} {x : Except ε α} (h : x.isOk = true) : ∃ a, x = .ok a := by
  cases x with
  | error e => cases h
  | ok a => exact ⟨a, rfl⟩

theorem noteSteps_parse : parseStepState noteDocument.source noteDocument = .ok noteSteps := by
  obtain ⟨steps, hsteps⟩ := exists_of_isOk
    (show (parseStepState noteDocument.source noteDocument).isOk = true by decide)
  rw [noteSteps, hsteps]
  rfl

def notePlan : StepPlan where
  planRel := noteDocument.path
  document := noteDocument
  parsed := noteSteps
  parses := noteSteps_parse
  mode := by decide
  clean := by decide
  path := by decide

def noteWorkspace : Workspace where
  planChecks := .ok ()
  evidenceProjection := .ok []
  statePath := "state.json"
  repoRoot := "/repo".toList
  canonicalizeRepoRoot := id
  sharesWorkspace _ := false
  sourceSpecSource := []
  taskDefinitionIdentity _ := some "task".toList
  fileExists _ := true
  currentFileProof _ := "proof".toList
  renameBackedPaths _ := .ok []
  currentHeadSha := .ok "head".toList
  executionFingerprint _ := "fingerprint".toList
  authoritativeSequence := 1
  now := "now".toList

def noteEnvironment : StepEnvironment where
  sha _ := "0"
  plan := notePlan.toApprovedPlan
  workspace := noteWorkspace
  gates :=
    { planFidelity := .ok ()
      preflight := .ok ()
      persistPreflight := .ok ()
      activeContract := .ok none
      requirePublicMutation := .ok ()
      priorTaskClosure := .ok () }
  strategy _ :=
    { plan := ⟨"docs/featureforge/plans/note.md", 1⟩
      taskNumbers := [1]
      executionMode := "featureforge:executing-plans"
      taskCompletionLineageFingerprint := fun _ => none
      currentTrackedTreeSha := .ok "tree"
      semanticWorkspaceTreeId := .ok "tree"
      now := "now" }
  renderProjections _ := ([], [])

def noteMode : List Char := "featureforge:executing-plans".toList

def noteBegin (step : UInt32) : BeginRequest :=
  ⟨1, step, some noteMode, "fingerprint".toList⟩

def noteComplete (step : UInt32) : CompleteRequest where
  task := 1
  step := step
  source := noteMode
  claim := "written".toList
  files := ["note.md".toList]
  verifyCommand := none
  verificationSummary := "read".toList
  expectExecutionFingerprint := "fingerprint".toList

def noteRepair : RepairStepRequest := ⟨1, 1, noteMode, "again".toList, "fingerprint".toList⟩

def noteReopen : ReopenRequest := ⟨1, 1, noteMode, "again".toList, "fingerprint".toList⟩

/-- The log that a command leaves, or none. -/
def noteRun (input : StepInput) (log : List ExecutionEvent) : List ExecutionEvent :=
  ((noteEnvironment.run input log).toOption).getD []

/-- The first step is worked on. -/
def noteBegun : List ExecutionEvent := noteRun (.begin (noteBegin 1)) []

/-- The first step is completed. -/
def noteCompleted : List ExecutionEvent := noteRun (.complete (noteComplete 1)) noteBegun

/-- The second step is worked on. -/
def noteResumed : List ExecutionEvent := noteRun (.begin (noteBegin 2)) noteCompleted

/-- The second step is parked for a repair of the first. -/
def noteParked : List ExecutionEvent := noteRun (.transfer noteRepair) noteResumed

/-- Both steps are completed. -/
def noteFinished : List ExecutionEvent := noteRun (.complete (noteComplete 2)) noteResumed

/-- A closure of the task. -/
def noteClosure : ExecutionEvent :=
  taskClosureEvent emptyState (emptyState.set .currentTaskClosureRecords
    (.obj (.ofList [("task-1", .record [("task", .u64 1)])])))

/-- The task is closed. -/
def noteClosed : List ExecutionEvent := noteFinished ++ [noteClosure]

/-- The first step is reopened. -/
def noteReopened : List ExecutionEvent := noteRun (.reopen noteReopen) noteClosed

theorem note_runs : (noteEnvironment.run (.begin (noteBegin 1)) []).isOk = true ∧
    (noteEnvironment.run (.complete (noteComplete 1)) noteBegun).isOk = true ∧
    (noteEnvironment.run (.begin (noteBegin 2)) noteCompleted).isOk = true ∧
    (noteEnvironment.run (.transfer noteRepair) noteResumed).isOk = true ∧
    (noteEnvironment.run (.complete (noteComplete 2)) noteResumed).isOk = true ∧
    (noteEnvironment.run (.reopen noteReopen) noteClosed).isOk = true ∧
    [noteBegun, noteCompleted, noteResumed, noteParked, noteClosed, noteReopened].map
      List.length = [1, 2, 3, 4, 5, 6] := by
  decide +kernel

/-- The loads of the logs, and the closure between them. -/
theorem note_loads :
    ([noteCompleted, noteParked, noteReopened].all fun log =>
      (loadAuthoritativeTransitionState log).isOk) = true ∧
    (applyTypedEventToState (logState noteFinished) noteClosure).1 .executionEvidenceAttempts =
      logState noteFinished .executionEvidenceAttempts ∧
    (applyTypedEventToState (logState noteFinished) noteClosure).1 .currentOpenStepState =
      logState noteFinished .currentOpenStepState ∧
    (∀ step ∈ notePlan.parsed, ((completedSteps (logState noteFinished)).get?
      (completedStepKey step.taskNumber step.stepNumber)).isSome) ∧
    1 ∈ closedTasks (logState noteClosed) := by
  decide +kernel

theorem eq_getD_of_isOk {ε α : Type} {x : Except ε (List α)} (h : x.isOk = true) :
    x = .ok (x.toOption.getD []) := by
  obtain ⟨a, rfl⟩ := exists_of_isOk h
  rfl

theorem noteRun_eq {input : StepInput} {log : List ExecutionEvent}
    (h : (noteEnvironment.run input log).isOk = true) :
    noteEnvironment.run input log = .ok (noteRun input log) := eq_getD_of_isOk h

/-- A command of the sample that has appended an event. -/
theorem noteRun_appends {input : StepInput} {log : List ExecutionEvent}
    (h : (noteEnvironment.run input log).isOk = true)
    (hlength : (noteRun input log).length ≠ log.length) :
    ∃ s context effect e, loadAuthoritativeTransitionState log = .ok s ∧
      loadExecutionContextForMutation noteEnvironment.sha notePlan.toApprovedPlan noteWorkspace s =
        .ok context ∧
      noteEnvironment.work context s input = .ok (some effect) ∧
      noteRun input log = log ++ [e] ∧ AppendsEvent input.command log effect input.hint e := by
  obtain ⟨s, context, hload, hcontext, heq | ⟨effect, e, hwork, heq, happend⟩⟩ :=
    run_ok (noteRun_eq h)
  · exact absurd (congrArg List.length heq) hlength
  · exact ⟨s, context, effect, e, hload, hcontext, hwork, heq, happend⟩

theorem noteBegun_stepRun : ∃ moves, StepRun notePlan noteBegun moves :=
  (StepRun.start : StepRun notePlan [] []).run rfl (projects_of_nil rfl _)
    (noteRun_eq note_runs.1)

theorem noteCompleted_stepRun : ∃ moves attempt, attempt.key = ((1, 1) : StepKey) ∧
    StepRun notePlan noteCompleted (moves ++ [.completed attempt]) := by
  obtain ⟨moves, hbegun⟩ := noteBegun_stepRun
  obtain ⟨_, hcompleted, _, _, _, _, hlengths⟩ := note_runs
  have hrun := hbegun.run_complete rfl (projects_of_nil rfl _) (noteRun_eq hcompleted)
  rcases hrun with heq | ⟨attempt, hkey, hrun⟩
  · have hlength : noteCompleted.length = noteBegun.length := congrArg List.length heq
    simp only [List.map_cons, List.cons.injEq] at hlengths
    omega
  · exact ⟨moves, attempt, hkey, hrun⟩

theorem noteResumed_stepRun : ∃ moves, StepRun notePlan noteResumed moves := by
  obtain ⟨moves, attempt, _, hrun⟩ := noteCompleted_stepRun
  obtain ⟨done, hdone⟩ := hrun.run rfl (projects_of_nil rfl _) (noteRun_eq note_runs.2.2.1)
  exact ⟨_, hdone⟩

theorem noteClosed_stepRun : ∃ moves, StepRun notePlan noteClosed moves := by
  obtain ⟨moves, hrun⟩ := noteResumed_stepRun
  obtain ⟨_, _, _, _, hfinished, _, _⟩ := note_runs
  obtain ⟨done, hdone⟩ := hrun.run rfl (projects_of_nil rfl _) (noteRun_eq hfinished)
  obtain ⟨_, hattempts, hopen, hsteps, _⟩ := note_loads
  have hquiet : notePlan.Quiet (logState noteFinished) noteClosure :=
    ⟨by decide, by decide, hattempts, fun _ _ => Or.inr fun step hstep _ => hsteps step hstep⟩
  refine ⟨_, .kept hdone hquiet ?_⟩
  rw [logState_concat]
  exact hopen

end FeatureForge
