import FeatureForge.Steps.Persisted

/-!
# Runs of the step commands

A run of the log of a plan: every command loads its context and the state from the log as it is
and appends the event that is made from what it hands over; in between other commands append
events (`StepPlan.Quiet`), which may also drop the open step.  `begin` loads its context before it
claims the right to write, so its context may be of an earlier log; in a run nothing that it
relies on has been appended in between.

`StepRun.tracks` is the refinement: what is done to the steps along a run is a history of moves,
and the state of the log keeps the progress that it makes.
-/

namespace FeatureForge

/-- The progress that moves make. -/
def progressOf (moves : List StepMove) : Progress := moves.foldl Progress.after .start

theorem progressOf_concat (moves : List StepMove) (m : StepMove) :
    progressOf (moves ++ [m]) = (progressOf moves).after m := List.foldl_concat ..

/-- What a command loads, from a log on which there have been some moves. -/
structure StepPlan.Loads (plan : StepPlan) (env : StepEnvironment) (moves : List StepMove)
    (log : List ExecutionEvent) (s : Option StateObject) (context : ExecutionContext) : Prop where
  approved : env.plan = plan.toApprovedPlan
  projects : env.workspace.Projects (progressOf moves).attempts
  state : loadAuthoritativeTransitionState log = .ok s
  context : loadExecutionContextForMutation env.sha plan.toApprovedPlan env.workspace s =
    .ok context

/-- An event of another command: it has nothing to do with the steps, and it closes a task only
when the steps of the task are completed. -/
structure StepPlan.Quiet (plan : StepPlan) (s : StateObject) (e : ExecutionEvent) : Prop where
  notComplete : e.kind ≠ .complete
  notReopen : e.kind ≠ .reopen
  attempts : (applyTypedEventToState s e).1 .executionEvidenceAttempts =
    s .executionEvidenceAttempts
  closures : ∀ task ∈ closedTasks (applyTypedEventToState s e).1, task ∈ closedTasks s ∨
    ∀ step ∈ plan.parsed, step.taskNumber = task →
      ((completedSteps s).get? (completedStepKey step.taskNumber step.stepNumber)).isSome

/-- The fields that a step which is begun relies on. -/
def beginFields : List Field := [.eventCompletedSteps, .executionEvidenceAttempts]

/-- The event that a command appends to a log. -/
def AppendsEvent (command : StepCommand) (log : List ExecutionEvent) (effect : StepEffect)
    (hint : Option StepKey) (e : ExecutionEvent) : Prop :=
  eventFromCommandAuthoritativeDelta command.asStr (logState log) effect.payload hint = .ok e

/-- The open step that a command hands over. -/
def StepEffect.Opens (effect : StepEffect) (record : OpenStepStateRecord) : Prop :=
  effect.payload .currentOpenStepState = some (OpenStepStateRecord.codec.toValue record)

/-- **A run**: the log, and what has been done to the steps. -/
inductive StepRun (plan : StepPlan) : List ExecutionEvent → List StepMove → Prop where
  | start : StepRun plan [] []
  /-- Another command keeps the open step. -/
  | kept {log moves e} : StepRun plan log moves → plan.Quiet (logState log) e →
      logState (log ++ [e]) .currentOpenStepState = logState log .currentOpenStepState →
      StepRun plan (log ++ [e]) moves
  /-- Another command drops it. -/
  | dropped {log moves e} : StepRun plan log moves → plan.Quiet (logState log) e →
      NoOpenStep (logState (log ++ [e])) → StepRun plan (log ++ [e]) (moves ++ [.dropped])
  /-- `begin` of the step that is worked on. -/
  | resumed {log moves e request s} {env : StepEnvironment} {context : ExecutionContext}
      {effect : StepEffect} : StepRun plan log moves →
      loadAuthoritativeTransitionState log = .ok s →
      (context.steps.find? (FeatureForge.noted .active)).isSome →
      env.begin request context (s.getD emptyState) = .ok (some effect) →
      AppendsEvent .begin log effect none e → StepRun plan (log ++ [e]) moves
  | begun {earlier log moves₀ moves e request s₀ s record} {env : StepEnvironment}
      {context : ExecutionContext} {effect : StepEffect} : StepRun plan earlier moves₀ →
      plan.Loads env moves₀ earlier s₀ context → StepRun plan log moves →
      (∀ f ∈ beginFields, logState log f = logState earlier f) →
      loadAuthoritativeTransitionState log = .ok s →
      context.steps.find? (FeatureForge.noted .active) = none →
      env.begin request context (s.getD emptyState) = .ok (some effect) →
      AppendsEvent .begin log effect none e → effect.Opens record →
      StepRun plan (log ++ [e]) (moves ++ [.began record])
  | noted {log moves e message arg s record} {env : StepEnvironment} {request : NoteRequest}
      {context : ExecutionContext} {effect : StepEffect} : StepRun plan log moves →
      plan.Loads env moves log s context →
      normalizeNoteRequest message arg = .ok (request.state, request.message) →
      env.note request context (s.getD emptyState) = .ok effect →
      AppendsEvent .note log effect none e → effect.Opens record →
      StepRun plan (log ++ [e]) (moves ++ [.noted ⟨record, request.state⟩])
  | completed {log moves e s attempt} {env : StepEnvironment} {request : CompleteRequest}
      {context : ExecutionContext} {effect : StepEffect} : StepRun plan log moves →
      plan.Loads env moves log s context →
      env.complete request context (s.getD emptyState) = .ok effect →
      AppendsEvent .complete log effect (some (request.task, request.step)) e →
      effect.context.attempts = context.attempts ++ [attempt] →
      StepRun plan (log ++ [e]) (moves ++ [.completed attempt])
  | reopened {log moves e s record} {env : StepEnvironment} {request : ReopenRequest}
      {context : ExecutionContext} {effect : StepEffect} : StepRun plan log moves →
      plan.Loads env moves log s context →
      env.reopen request context (s.getD emptyState) = .ok (some effect) →
      AppendsEvent .reopen log effect none e → effect.Opens record →
      StepRun plan (log ++ [e])
        (moves ++ [.reopened record env.workspace.now request.reason])
  | transferred {log moves e s record} {env : StepEnvironment} {request : RepairStepRequest}
      {context : ExecutionContext} {effect : StepEffect} : StepRun plan log moves →
      plan.Loads env moves log s context →
      env.transferRepairStep request context s = .ok (some effect) →
      AppendsEvent .transfer log effect none e → effect.Opens record →
      StepRun plan (log ++ [e]) (moves ++ [.transferred record])

/-- The state of a log keeps the progress of the moves on it. -/
structure StepPlan.Tracks (plan : StepPlan) (log : List ExecutionEvent) (moves : List StepMove) :
    Prop where
  history : plan.History moves (progressOf moves)
  keeps : (logState log).Keeps (progressOf moves)
  closes : plan.ClosesAttempted (logState log)

/-! ### Loading -/

theorem clean_logState (log : List ExecutionEvent) : (logState log).Clean :=
  clean_reduceFrom log (emptyState, false) clean_emptyState

theorem ClosesAttempted.congr {plan : StepPlan} {s s' : StateObject}
    (h : plan.ClosesAttempted s)
    (hattempts : s' .executionEvidenceAttempts = s .executionEvidenceAttempts)
    (hclosures : s' .currentTaskClosureRecords = s .currentTaskClosureRecords) :
    plan.ClosesAttempted s' := by
  intro hnone step hstep
  rw [hattempts] at hnone
  rw [closedTasks, hclosures]
  exact h hnone step hstep

section

variable {plan : StepPlan} {log : List ExecutionEvent} {moves : List StepMove}
  {env : StepEnvironment} {s : Option StateObject} {context : ExecutionContext}

theorem loaded_eq (hload : loadAuthoritativeTransitionState log = .ok s) {f : Field}
    (hf : f ∈ taskRecordFields ++ progressFields) :
    (s.getD emptyState) f = logState log f := by
  refine changesOnly_load hload f ?_
  have hnot : ∀ f ∈ taskRecordFields ++ progressFields, f ∉ summaryFields := by decide
  exact hnot f hf

/-- What is loaded in a run. -/
structure LoadedFrom (plan : StepPlan) (workspace : Workspace) (p : Progress)
    (s : Option StateObject) (context : ExecutionContext) (mode : List Char) : Prop where
  inMode : plan.InMode mode p.attempts
  opens : ∀ o, p.openStep = some o → plan.Opens mode o
  shown : plan.Shows mode (workspace.marks (s.getD emptyState) p) p.attempts context

theorem StepPlan.Tracks.loaded_keeps (h : plan.Tracks log moves)
    (hload : loadAuthoritativeTransitionState log = .ok s) :
    (s.getD emptyState).Keeps (progressOf moves) ∧ plan.ClosesAttempted (s.getD emptyState) :=
  ⟨h.keeps.congr fun f hf => loaded_eq hload (List.mem_append_right _ hf),
    ClosesAttempted.congr h.closes (loaded_eq hload (by decide)) (loaded_eq hload (by decide))⟩

/-- **A context can be loaded**, in every workspace, and it shows the progress. -/
theorem StepPlan.Tracks.reloads (h : plan.Tracks log moves)
    (hload : loadAuthoritativeTransitionState log = .ok s) (sha : Sha256Hex)
    {workspace : Workspace} (hchecks : workspace.planChecks = .ok ())
    (hprojects : workspace.Projects (progressOf moves).attempts) :
    ∃ mode context,
      loadExecutionContextForMutation sha plan.toApprovedPlan workspace s = .ok context ∧
      LoadedFrom plan workspace (progressOf moves) s context mode := by
  obtain ⟨hkeeps, hcloses⟩ := h.loaded_keeps hload
  obtain ⟨mode, hmode, hopens⟩ := h.history.sound.mode
  obtain ⟨context, hcontext, hshows⟩ := @load_shows sha plan workspace (progressOf moves) s
    hkeeps h.history.sound hcloses hchecks hprojects mode hmode hopens
  exact ⟨mode, context, hcontext, hmode, hopens, hshows⟩

/-- **What is loaded shows the progress.** -/
theorem StepPlan.Tracks.loads (h : plan.Tracks log moves)
    (hloads : plan.Loads env moves log s context) :
    ∃ mode, LoadedFrom plan env.workspace (progressOf moves) s context mode := by
  have hchecks : env.workspace.planChecks = .ok () := by
    obtain ⟨⟨⟩, hchecks, _⟩ := bind_eq_ok.mp hloads.context
    exact hchecks
  obtain ⟨mode, context', hcontext, hloaded⟩ :=
    h.reloads hloads.state env.sha hchecks hloads.projects
  obtain rfl := Except.ok.inj (hloads.context.symm.trans hcontext)
  exact ⟨mode, hloaded⟩

/-! ### What is shown -/

namespace LoadedFrom

variable {workspace : Workspace} {p : Progress} {mode : List Char}

theorem planned (h : LoadedFrom plan workspace p s context mode) {key : StepKey} {step : PlanStepState}
    (hstep : stepAt context.steps key = some step) : plan.Planned key := by
  have hat := h.shown.steps.stepAt key
  rw [hstep] at hat
  rw [StepPlan.Planned, ← Option.isSome_map, ← hat]
  rfl

/-- **A step with a note is the open one**, and the mode is known. -/
theorem of_noted (h : LoadedFrom plan workspace p s context mode) {step : PlanStepState}
    (hmem : step ∈ context.steps) {noteState : NoteState} (hnote : step.noteState = some noteState) :
    ∃ record, p.openStep = some ⟨record, noteState⟩ ∧ step.key = record.key ∧
      context.executionMode = mode := by
  obtain ⟨o, hshown, hkey, rfl⟩ := h.shown.steps.noted step hmem noteState hnote
  have hopen : p.openStep = some o := (Option.filter_eq_some_iff.mp hshown).1
  refine ⟨o.record, hopen, hkey, h.shown.mode.resolve_right fun hnone => ?_⟩
  rw [hnone.2.2.2] at hshown
  cases hshown

theorem of_stepAt (h : LoadedFrom plan workspace p s context mode) {key : StepKey} {step : PlanStepState}
    (hstep : stepAt context.steps key = some step) {noteState : NoteState}
    (hnote : step.noteState = some noteState) :
    ∃ record, p.openStep = some ⟨record, noteState⟩ ∧ record.key = key ∧
      context.executionMode = mode := by
  obtain ⟨record, hopen, hkey, hmode⟩ := h.of_noted (List.mem_of_find?_eq_some hstep) hnote
  exact ⟨record, hopen, hkey.symm.trans (key_of_stepAt hstep), hmode⟩

/-- **A step that is not checked is not completed.** -/
theorem not_completed (h : LoadedFrom plan workspace p s context mode) (hsound : plan.Sound p)
    {key : StepKey} {step : PlanStepState} (hstep : stepAt context.steps key = some step)
    (hchecked : step.checked = false) : key ∉ p.completed := by
  intro hcompleted
  have hat := h.shown.steps.stepAt key
  rw [hstep] at hat
  obtain ⟨parsed, hparsed, hmark⟩ := Option.map_eq_some_iff.mp hat.symm
  have hkey : parsed.key = key := key_of_stepAt hparsed
  have hdone : (workspace.marks (s.getD emptyState) p).Done parsed.key :=
    Or.inr (hkey.symm ▸ hcompleted)
  have hticked : (workspace.marks (s.getD emptyState) p).mark parsed =
      (workspace.marks (s.getD emptyState) p).ticked parsed := by
    refine Marks.mark_of_ne _ fun o hshown hopen => ?_
    -- the open step is not completed
    refine hsound.openStep o (Option.filter_eq_some_iff.mp hshown).1 ?_
    rw [hopen, hkey]
    exact hcompleted
  rw [← hmark, hticked, Marks.checked_ticked, decide_eq_true hdone] at hchecked
  cases hchecked

/-- A mode that a command goes on in, or begins in. -/
theorem chosen (h : LoadedFrom plan workspace p s context mode) {chosen : List Char}
    (hknown : context.executionMode = noExecutionMode → chosen ∈ executionModes)
    (hsame : context.executionMode ≠ noExecutionMode → chosen = context.executionMode) :
    plan.InMode chosen p.attempts := by
  rcases h.shown.mode with heq | ⟨hnone, hheader, hnil, _⟩
  · have hne : context.executionMode ≠ noExecutionMode := fun hnone =>
      noExecutionMode_not_mem (hnone ▸ heq ▸ h.inMode.known)
    rw [hsame hne, heq]
    exact h.inMode
  · refine ⟨hknown hnone, Or.inl hheader, ?_⟩
    rw [hnil]
    exact fun _ hmem => absurd hmem List.not_mem_nil

end LoadedFrom

theorem beginExecutionMode_ok {request : BeginRequest} {executionMode mode : List Char}
    (h : beginExecutionMode request executionMode = .ok mode) :
    (executionMode = noExecutionMode → mode ∈ executionModes) ∧
      (executionMode ≠ noExecutionMode → mode = executionMode) := by
  rw [beginExecutionMode] at h
  by_cases hnone : executionMode = noExecutionMode
  · rw [if_pos hnone] at h
    refine ⟨fun _ => ?_, fun hne => absurd hnone hne⟩
    cases hmode : request.executionMode with
    | none => rw [hmode] at h; cases h
    | some requested =>
      simp only [hmode] at h
      split_ifs at h with hknown
      obtain rfl := Except.ok.inj h
      exact hknown
  · rw [if_neg hnone] at h
    obtain ⟨_, h⟩ := ite_error_eq_ok.mp h
    exact ⟨fun heq => absurd heq hnone, fun _ => (Except.ok.inj h).symm⟩

theorem normalizeOrSeedSource_ok {source executionMode mode : List Char}
    (h : normalizeOrSeedSource source executionMode = .ok mode) :
    mode = source ∧ (executionMode = noExecutionMode → mode ∈ executionModes) ∧
      (executionMode ≠ noExecutionMode → mode = executionMode) := by
  obtain ⟨hknown, h⟩ := ite_error_eq_ok.mp h
  by_cases hnone : executionMode = noExecutionMode
  · rw [if_pos hnone] at h
    obtain rfl := Except.ok.inj h
    exact ⟨rfl, fun _ => not_not.mp hknown, fun hne => absurd hnone hne⟩
  · rw [if_neg hnone] at h
    obtain ⟨⟨⟩, hsource, rfl⟩ := map_eq_ok.mp h
    obtain ⟨_, hsource⟩ := ite_error_eq_ok.mp hsource
    obtain ⟨hsame, _⟩ := ite_error_eq_ok.mp hsource
    exact ⟨(not_not.mp hsame).symm, fun heq => absurd heq hnone, fun _ => rfl⟩

/-! ### One event -/

/-- An event that opens a step leaves the rest of the progress. -/
theorem progress_kept (hload : loadAuthoritativeTransitionState log = .ok s)
    {payload : StateObject} {e : ExecutionEvent} (hevent : OpensOnly e)
    (hcarries : CarriesDelta (logState log) payload e)
    (hattempts : payload .executionEvidenceAttempts =
      (s.getD emptyState) .executionEvidenceAttempts) :
    completedSteps (logState (log ++ [e])) = completedSteps (logState log) ∧
      logState (log ++ [e]) .executionEvidenceAttempts =
        logState log .executionEvidenceAttempts := by
  rw [logState_concat]
  constructor
  · rw [completedSteps_applyTyped, ledgerAfter_of_plain hevent.notComplete hevent.notReopen]
  · refine value_of_same hcarries ?_ (by decide)
    rw [hattempts, loaded_eq hload (by decide)]

/-- A command has opened a step, and nothing else of the progress. -/
theorem StepPlan.Tracks.opened (h : plan.Tracks log moves)
    (hload : loadAuthoritativeTransitionState log = .ok s) {payload : StateObject}
    {e : ExecutionEvent} (hevent : OpensOnly e) (hcarries : CarriesDelta (logState log) payload e)
    {o : OpenStep} (hopen : HasOpenStep payload o.record o.noteState)
    (hattempts : payload .executionEvidenceAttempts =
      (s.getD emptyState) .executionEvidenceAttempts) {m : StepMove}
    (hallows : plan.Allows (progressOf moves) m)
    (hafter : (progressOf moves).after m = { progressOf moves with openStep := some o }) :
    plan.Tracks (log ++ [e]) (moves ++ [m]) := by
  have hclean := clean_logState log
  obtain ⟨hledger, hsame⟩ := progress_kept hload hevent hcarries hattempts
  have hclosures : logState (log ++ [e]) .currentTaskClosureRecords =
      logState log .currentTaskClosureRecords := by
    rw [logState_concat]
    exact value_of_no_slot hcarries (hevent.noClosures _ (by decide)) (by decide)
  refine ⟨?_, ?_, ClosesAttempted.congr h.closes hsame hclosures⟩
  · rw [progressOf_concat]
    exact .move h.history hallows
  · rw [progressOf_concat, hafter]
    refine ⟨?_, ?_, ?_⟩
    · rw [logState_concat]
      refine opened_applied hclean hcarries hevent.slot ⟨fun hnone => (by cases hnone), ?_⟩
      rintro _ ⟨⟩
      exact hopen
    · rw [hledger]
      exact h.keeps.ledger
    · rw [hsame]
      exact h.keeps.attempts

/-! ### Other commands -/

/-- An event of another command leaves the ledger and the attempts. -/
theorem StepPlan.Tracks.quiet (h : plan.Tracks log moves) {e : ExecutionEvent}
    (hquiet : plan.Quiet (logState log) e) :
    LedgerOf (progressOf moves).completed (completedSteps (logState (log ++ [e]))) ∧
      logState (log ++ [e]) .executionEvidenceAttempts =
        logState log .executionEvidenceAttempts ∧
      plan.ClosesAttempted (logState (log ++ [e])) := by
  rw [logState_concat]
  refine ⟨?_, hquiet.attempts, fun hnone step hstep hclosed => ?_⟩
  · rw [completedSteps_applyTyped, ledgerAfter_of_plain hquiet.notComplete hquiet.notReopen]
    exact h.keeps.ledger
  · rw [hquiet.attempts] at hnone
    rcases hquiet.closures _ hclosed with hold | hsteps
    · exact h.closes hnone step hstep hold
    · -- nothing is completed before there is an attempt
      have hnil : (progressOf moves).attempts = [] := by
        rcases h.keeps.attempts with hvalue | ⟨_, hnil⟩
        · rw [hnone] at hvalue
          cases hvalue
        · exact hnil
      have hempty := completed_of_no_attempts h.history.sound hnil
      have hledger := ledger_of_empty (hempty ▸ h.keeps.ledger)
      have hsome := hsteps step hstep rfl
      rw [hledger] at hsome
      cases hsome

theorem StepPlan.Tracks.kept (h : plan.Tracks log moves) {e : ExecutionEvent}
    (hquiet : plan.Quiet (logState log) e)
    (hopen : logState (log ++ [e]) .currentOpenStepState = logState log .currentOpenStepState) :
    plan.Tracks (log ++ [e]) moves := by
  obtain ⟨hledger, hattempts, hcloses⟩ := h.quiet hquiet
  refine ⟨h.history, ⟨h.keeps.toOpened.congr hopen, hledger, ?_⟩, hcloses⟩
  rw [hattempts]
  exact h.keeps.attempts

theorem StepPlan.Tracks.dropped (h : plan.Tracks log moves) {e : ExecutionEvent}
    (hquiet : plan.Quiet (logState log) e) (hopen : NoOpenStep (logState (log ++ [e]))) :
    plan.Tracks (log ++ [e]) (moves ++ [.dropped]) := by
  obtain ⟨hledger, hattempts, hcloses⟩ := h.quiet hquiet
  refine ⟨?_, ?_, hcloses⟩
  · rw [progressOf_concat]
    exact .move h.history .dropped
  · rw [progressOf_concat]
    refine ⟨⟨fun _ => hopen, fun _ h => (by cases h)⟩, hledger, ?_⟩
    rw [hattempts]
    exact h.keeps.attempts

/-- A command that writes side fields only. -/
theorem StepPlan.Tracks.resumed (h : plan.Tracks log moves)
    (hload : loadAuthoritativeTransitionState log = .ok s) {payload : StateObject}
    {e : ExecutionEvent} (hevent : OpensOnly e) (hcarries : CarriesDelta (logState log) payload e)
    (hchanges : ChangesOnly sideFields (s.getD emptyState) payload) :
    plan.Tracks (log ++ [e]) moves := by
  have hsame : ∀ f ∈ progressFields, f ≠ .eventCompletedSteps →
      logState (log ++ [e]) f = logState log f := by
    intro f hf hne
    rw [logState_concat]
    refine value_of_same hcarries ?_ hne
    rw [hchanges f (progressFields_not_side f hf), loaded_eq hload (List.mem_append_right _ hf)]
  have hattempts := hsame .executionEvidenceAttempts (by decide) (by decide)
  have hclosures : logState (log ++ [e]) .currentTaskClosureRecords =
      logState log .currentTaskClosureRecords := by
    rw [logState_concat]
    exact value_of_no_slot hcarries (hevent.noClosures _ (by decide)) (by decide)
  refine ⟨h.history, ⟨h.keeps.toOpened.congr (hsame _ (by decide) (by decide)), ?_, ?_⟩,
    ClosesAttempted.congr h.closes hattempts hclosures⟩
  · rw [logState_concat, completedSteps_applyTyped,
      ledgerAfter_of_plain hevent.notComplete hevent.notReopen]
    exact h.keeps.ledger
  · rw [hattempts]
    exact h.keeps.attempts

/-! ### The step commands -/

theorem openStepStateRecord_codec_injective {record record' : OpenStepStateRecord}
    (h : OpenStepStateRecord.codec.toValue record = OpenStepStateRecord.codec.toValue record') :
    record = record' := by
  have hread := congrArg OpenStepStateRecord.codec.fromValue h
  rw [ValueCodec.fromValue_toValue, ValueCodec.fromValue_toValue] at hread
  exact Option.some.inj hread

theorem StepEffect.Opens.eq {effect : StepEffect} {record record' : OpenStepStateRecord}
    {noteState : NoteState} (h : effect.Opens record)
    (h' : HasOpenStep effect.payload record' noteState) : record' = record :=
  openStepStateRecord_codec_injective (Option.some.inj (h'.value.symm.trans h))

/-- The attempts of a state are of one progress. -/
theorem StateObject.Keeps.attempts_eq {t t' : StateObject} {p p' : Progress} (h : t.Keeps p)
    (h' : t'.Keeps p')
    (heq : t .executionEvidenceAttempts = t' .executionEvidenceAttempts) :
    p.attempts = p'.attempts := by
  rcases h.attempts with hvalue | ⟨hnone, hnil⟩
  · rcases h'.attempts with hvalue' | ⟨hnone', _⟩
    · have hsame := Option.some.inj (hvalue.symm.trans (heq.trans hvalue'))
      have hread := congrArg attemptsCodec.fromValue hsame
      rw [ValueCodec.fromValue_toValue, ValueCodec.fromValue_toValue] at hread
      exact Option.some.inj hread
    · rw [hvalue, hnone'] at heq
      cases heq
  · rcases h'.attempts with hvalue' | ⟨_, hnil'⟩
    · rw [hvalue', hnone] at heq
      cases heq
    · rw [hnil, hnil']

/-- A step that is begun, over what has been loaded when there was some progress. -/
structure StepPlan.Begins (plan : StepPlan) (request : BeginRequest) (p : Progress)
    (s : StateObject) (effect : StepEffect) (record : OpenStepStateRecord) : Prop where
  inMode : plan.InMode effect.context.executionMode p.attempts
  opens : plan.Opens effect.context.executionMode ⟨record, .active⟩
  key : record.key = (request.task, request.step)
  new : record.key ∉ p.completed
  payload : HasOpenStep effect.payload record .active
  attempts : effect.payload .executionEvidenceAttempts = s .executionEvidenceAttempts

theorem StepPlan.Tracks.begins (h : plan.Tracks log moves)
    (hloads : plan.Loads env moves log s context)
    (hactive : context.steps.find? (noted .active) = none) {request : BeginRequest}
    {t : StateObject} {effect : StepEffect}
    (hbegin : env.begin request context t = .ok (some effect)) :
    ∃ record, plan.Begins request (progressOf moves) t effect record := by
  obtain ⟨mode, hloaded⟩ := h.loads hloads
  obtain ⟨chosen, target, hchosen, htarget, hchecked, rfl, hopened⟩ := begin_ok hbegin hactive
  obtain ⟨hknown, hsame⟩ := beginExecutionMode_ok hchosen
  obtain ⟨record, hrecord, hkey, hhas, hattempts⟩ := hopened.opened hloaded.shown.planRel
    hloaded.shown.planRevision rfl (hloaded.planned htarget)
  refine ⟨record, hloaded.chosen hknown hsame, hrecord, hkey, ?_, hhas, hattempts⟩
  rw [hkey]
  exact hloaded.not_completed h.history.sound htarget hchecked

/-- A step that has been begun over earlier progress, and may still be worked on. -/
theorem StepPlan.Tracks.begun_of_new (h : plan.Tracks log moves)
    (hload : loadAuthoritativeTransitionState log = .ok s) {request : BeginRequest}
    {p : Progress} {effect : StepEffect} {record : OpenStepStateRecord}
    (hbegins : plan.Begins request p (s.getD emptyState) effect record) {e : ExecutionEvent}
    (happend : AppendsEvent .begin log effect none e)
    (hmode : plan.InMode effect.context.executionMode (progressOf moves).attempts)
    (hnew : record.key ∉ (progressOf moves).completed) :
    plan.Tracks (log ++ [e]) (moves ++ [.began record]) :=
  h.opened hload (event_begin happend) (facts_eventFromCommand happend)
    (o := ⟨record, .active⟩) hbegins.payload hbegins.attempts
    (.began hmode hbegins.opens hnew) rfl

theorem StepPlan.Tracks.begun (h : plan.Tracks log moves) {earlier : List ExecutionEvent}
    {moves₀ : List StepMove} (h₀ : plan.Tracks earlier moves₀) {s₀ : Option StateObject}
    (hloads : plan.Loads env moves₀ earlier s₀ context)
    (hcurrent : ∀ f ∈ beginFields, logState log f = logState earlier f)
    (hload : loadAuthoritativeTransitionState log = .ok s)
    (hactive : context.steps.find? (noted .active) = none) {request : BeginRequest}
    {effect : StepEffect}
    (hbegin : env.begin request context (s.getD emptyState) = .ok (some effect))
    {e : ExecutionEvent} (happend : AppendsEvent .begin log effect none e)
    {record : OpenStepStateRecord} (hopens : effect.Opens record) :
    plan.Tracks (log ++ [e]) (moves ++ [.began record]) := by
  obtain ⟨record', hbegins⟩ := h₀.begins hloads hactive hbegin
  obtain rfl := hopens.eq hbegins.payload
  -- what the step relies on is still there
  have hledger : completedSteps (logState log) = completedSteps (logState earlier) :=
    congrArg objectEntries (hcurrent _ (by decide))
  have hcompleted := h.keeps.ledger.unique (hledger ▸ h₀.keeps.ledger)
  have hattempts := h.keeps.attempts_eq h₀.keeps (hcurrent _ (by decide))
  refine h.begun_of_new hload hbegins happend (hattempts ▸ hbegins.inMode) ?_
  rw [hcompleted]
  exact hbegins.new

/-- A note is never that a step is worked on. -/
theorem noteState_ne_active {message text : List Char} {arg : NoteStateArg} {state : NoteState}
    (h : normalizeNoteRequest message arg = .ok (state, text)) : state ≠ .active := by
  obtain ⟨_, _, h⟩ := bind_eq_ok.mp h
  obtain ⟨_, h⟩ := ite_error_eq_ok.mp h
  obtain ⟨hstate, _⟩ := Prod.mk.inj (Except.ok.inj h)
  intro hactive
  rw [hactive] at hstate
  cases arg
  · cases hstate
  · cases hstate

theorem StepPlan.Tracks.noted (h : plan.Tracks log moves)
    (hloads : plan.Loads env moves log s context) {message : List Char} {arg : NoteStateArg}
    {request : NoteRequest}
    (hrequest : normalizeNoteRequest message arg = .ok (request.state, request.message))
    {effect : StepEffect} (hnote : env.note request context (s.getD emptyState) = .ok effect)
    {e : ExecutionEvent} (happend : AppendsEvent .note log effect none e)
    {record : OpenStepStateRecord} (hopens : effect.Opens record) :
    plan.Tracks (log ++ [e]) (moves ++ [.noted ⟨record, request.state⟩]) := by
  obtain ⟨mode, hloaded⟩ := h.loads hloads
  obtain ⟨target, htarget, hactive, hopened⟩ := note_ok hnote
  obtain ⟨active, hopen, hactiveKey, hmode⟩ := hloaded.of_stepAt htarget hactive
  obtain ⟨record', hrecord, hkey, hhas, hattempts⟩ := hopened.opened hloaded.shown.planRel
    hloaded.shown.planRevision hmode (hloaded.planned htarget)
  obtain rfl := hopens.eq hhas
  have hstate := noteState_ne_active hrequest
  exact h.opened hloads.state (event_note happend) (facts_eventFromCommand happend)
    (o := ⟨record', request.state⟩) hhas hattempts
    (.noted hopen hloaded.inMode hrecord (hkey.trans hactiveKey.symm) hstate) rfl

theorem StepPlan.Tracks.transferred (h : plan.Tracks log moves)
    (hloads : plan.Loads env moves log s context) {request : RepairStepRequest}
    {effect : StepEffect} (htransfer : env.transferRepairStep request context s = .ok (some effect))
    {e : ExecutionEvent} (happend : AppendsEvent .transfer log effect none e)
    {record : OpenStepStateRecord} (hopens : effect.Opens record) :
    plan.Tracks (log ++ [e]) (moves ++ [.transferred record]) := by
  obtain ⟨mode, hloaded⟩ := h.loads hloads
  cases s with
  | none => exact absurd htransfer transfer_none
  | some s =>
    obtain ⟨step, repair, hfind, _, _, hopened, _⟩ := transfer_ok htransfer
    have hactive : step.noteState = some .active := by
      simpa [FeatureForge.noted] using List.find?_some hfind
    obtain ⟨active, hopen, hactiveKey, hmode⟩ :=
      hloaded.of_noted (List.mem_of_find?_eq_some hfind) hactive
    have hplanned : plan.Planned step.key := hactiveKey ▸ (hloaded.opens _ hopen).planned
    obtain ⟨record', hrecord, hkey, hhas, hattempts⟩ := hopened.opened hloaded.shown.planRel
      hloaded.shown.planRevision hmode hplanned
    obtain rfl := hopens.eq hhas
    exact h.opened hloads.state (event_transfer happend) (facts_eventFromCommand happend)
      (o := ⟨record', .interrupted⟩) hhas hattempts
      (.transferred hopen hloaded.inMode hrecord (hkey.trans hactiveKey)) rfl

theorem StepPlan.Tracks.completed (h : plan.Tracks log moves)
    (hloads : plan.Loads env moves log s context) {request : CompleteRequest}
    {effect : StepEffect}
    (hcomplete : env.complete request context (s.getD emptyState) = .ok effect)
    {e : ExecutionEvent}
    (happend : AppendsEvent .complete log effect (some (request.task, request.step)) e)
    {attempt : EvidenceAttempt} (hlast : effect.context.attempts = context.attempts ++ [attempt]) :
    plan.Tracks (log ++ [e]) (moves ++ [.completed attempt]) := by
  obtain ⟨mode, hloaded⟩ := h.loads hloads
  obtain ⟨chosen, target, attempt', hchosen, htarget, hactive, hdone⟩ := complete_ok hcomplete
  obtain ⟨active, hopen, hactiveKey, hmode⟩ := hloaded.of_stepAt htarget hactive
  obtain ⟨hsource, _, hsame⟩ := normalizeOrSeedSource_ok hchosen
  have hattempt : attempt' = attempt := by
    rw [hdone.left] at hlast
    exact (List.cons.inj (List.append_cancel_left hlast)).1
  subst hattempt
  have hknown : context.executionMode ≠ noExecutionMode := fun hnone =>
    noExecutionMode_not_mem (hnone ▸ hmode ▸ hloaded.inMode.known)
  have hallows : plan.Allows (progressOf moves) (.completed attempt') := by
    refine .completed hopen (hdone.key.trans hactiveKey.symm) ?_ hdone.status ?_
    · rw [(hloaded.opens _ hopen).mode, hdone.source, ← hsource, hsame hknown, hmode]
    · rw [hdone.number, hloaded.shown.shown]
  obtain ⟨facts, rfl⟩ := event_complete happend
  have hcarries := facts_eventFromCommand happend
  have hclean := clean_logState log
  have hvalue : effect.payload .executionEvidenceAttempts =
      some (attemptsCodec.toValue ((progressOf moves).attempts ++ [attempt'])) := by
    rw [hdone.payload _ (progressFields_not_side _ (by decide)), set_self, hloaded.shown.shown]
  have hnoOpen : NoOpenStep effect.payload := by
    have hcleared := clearOpenStepState_noOpenStep (s.getD emptyState)
    rw [NoOpenStep, hdone.payload _ (progressFields_not_side _ (by decide)),
      set_of_ne _ _ (by decide)]
    exact hcleared
  have hattempts := attempts_applied hclean hcarries (show _ ∈ stepSlots by decide) hvalue
  refine ⟨?_, ?_, fun hnone => ?_⟩
  · rw [progressOf_concat]
    exact .move h.history hallows
  · rw [progressOf_concat, logState_concat]
    refine ⟨opened_applied hclean hcarries (show _ ∈ stepSlots by decide)
      ⟨fun _ => hnoOpen, fun _ h => (by cases h)⟩, ?_, Or.inl hattempts⟩
    rw [completedSteps_applyTyped]
    have hledger := h.keeps.ledger.insert attempt'.key
    rw [hdone.key] at hledger
    show LedgerOf (insert attempt'.key _) _
    rw [hdone.key]
    exact hledger
  · rw [logState_concat, hattempts] at hnone
    cases hnone

theorem StepPlan.Tracks.reopened (h : plan.Tracks log moves)
    (hloads : plan.Loads env moves log s context) {request : ReopenRequest}
    {effect : StepEffect}
    (hreopen : env.reopen request context (s.getD emptyState) = .ok (some effect))
    {e : ExecutionEvent} (happend : AppendsEvent .reopen log effect none e)
    {record : OpenStepStateRecord} (hopens : effect.Opens record) :
    plan.Tracks (log ++ [e])
      (moves ++ [.reopened record env.workspace.now request.reason]) := by
  obtain ⟨mode, hloaded⟩ := h.loads hloads
  obtain ⟨chosen, target, normal, hchosen, htarget, _, ⟨summary, hnormal⟩, hchanges, _⟩ :=
    reopen_ok hreopen
  obtain ⟨_, hknown, hsame⟩ := normalizeOrSeedSource_ok hchosen
  have hmode := hloaded.chosen hknown hsame
  obtain ⟨hrecord, hkey⟩ := opens_of_normalize hnormal hloaded.shown.planRel
    hloaded.shown.planRevision (Eq.refl chosen) (hloaded.planned htarget)
  have hopenValue : effect.payload .currentOpenStepState =
      some (OpenStepStateRecord.codec.toValue normal) := by
    rw [hchanges _ (progressFields_not_side _ (by decide)), set_of_ne _ _ (by decide), set_self]
  have hhas : HasOpenStep effect.payload normal .interrupted := ⟨hopenValue, hrecord.normal⟩
  obtain rfl := hopens.eq hhas
  have hvalue : effect.payload .executionEvidenceAttempts = some (attemptsCodec.toValue
      (invalidateLatestCompletedAttempt env.workspace.now request.reason normal.key
        (progressOf moves).attempts)) := by
    rw [hchanges _ (progressFields_not_side _ (by decide)), set_self, hkey]
    exact congrArg (fun attempts => some (attemptsCodec.toValue
      (invalidateLatestCompletedAttempt env.workspace.now request.reason
        (request.task, request.step) attempts))) hloaded.shown.shown
  obtain ⟨facts, rfl⟩ := event_reopen hopenValue happend
  have hcarries := facts_eventFromCommand happend
  have hclean := clean_logState log
  have hattempts := attempts_applied hclean hcarries (show _ ∈ stepSlots by decide) hvalue
  refine ⟨?_, ?_, fun hnone => ?_⟩
  · rw [progressOf_concat]
    exact .move h.history (.reopened hmode hrecord)
  · rw [progressOf_concat, logState_concat]
    refine ⟨opened_applied hclean hcarries (show _ ∈ stepSlots by decide)
      ⟨fun hnone => (by cases hnone), ?_⟩, ?_, Or.inl hattempts⟩
    · rintro _ ⟨⟩
      exact hhas
    · rw [completedSteps_applyTyped]
      exact h.keeps.ledger.erase normal.key
  · rw [logState_concat, hattempts] at hnone
    cases hnone

end

theorem StepPlan.tracks_start (plan : StepPlan) : plan.Tracks [] [] where
  history := .start
  keeps := keeps_emptyState
  closes := closesAttempted_emptyState plan

/-- **The log of a run keeps the progress that its moves make**, and these are a history of moves
that there are. -/
theorem StepRun.tracks {plan : StepPlan} {log : List ExecutionEvent} {moves : List StepMove}
    (h : StepRun plan log moves) : plan.Tracks log moves := by
  induction h with
  | start => exact plan.tracks_start
  | kept _ hquiet hopen ih => exact ih.kept hquiet hopen
  | dropped _ hquiet hopen ih => exact ih.dropped hquiet hopen
  | resumed _ hload hactive hbegin happend ih =>
    exact ih.resumed hload (event_begin happend) (facts_eventFromCommand happend)
      (begin_again hbegin hactive)
  | begun _ hloads _ hcurrent hload hactive hbegin happend hopens ih₀ ih =>
    exact ih.begun ih₀ hloads hcurrent hload hactive hbegin happend hopens
  | noted _ hloads hrequest hnote happend hopens ih =>
    exact ih.noted hloads hrequest hnote happend hopens
  | completed _ hloads hcomplete happend hlast ih =>
    exact ih.completed hloads hcomplete happend hlast
  | reopened _ hloads hreopen happend hopens ih => exact ih.reopened hloads hreopen happend hopens
  | transferred _ hloads htransfer happend hopens ih =>
    exact ih.transferred hloads htransfer happend hopens

end FeatureForge
