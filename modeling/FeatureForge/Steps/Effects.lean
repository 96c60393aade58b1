import FeatureForge.Steps.Loaded

/-!
# What the step commands hand over

The state that a step command hands over is the one it was given with the open step set, or the
attempts, or both; the rest that it writes are side fields (`ChangesOnly sideFields`).  The open
step is one of the plan, in the mode of the context (`StepPlan.Opens`).
-/

namespace FeatureForge

/-! ### Side fields -/

namespace ChangesOnly

variable {fields : List Field} {s t : StateObject}

/-- The same write on both sides. -/
theorem set_both (h : ChangesOnly fields s t) (f : Field) (v : Json) :
    ChangesOnly fields (s.set f v) (t.set f v) := by
  intro g hg
  rw [set_apply, set_apply]
  split_ifs
  · rfl
  · exact h g hg

end ChangesOnly

/-- What the step commands write next to the progress and the closures. -/
def bookFields : List Field :=
  strategyFields ++ repairFollowUpFields ++ staleProvenanceFields ++
    [.harnessPhase, .handoffRequired, .aggregateEvaluationState,
     .executionPlanProjectionFingerprint, .executionEvidenceProjectionFingerprint,
     .finalReviewState, .browserQaState, .releaseDocsState]

/-- What they write next to the progress. -/
def sideFields : List Field := taskRecordFields ++ bookFields

theorem progressFields_not_side : ∀ f ∈ progressFields, f ∉ sideFields := by decide

theorem strategyFields_book : ∀ f ∈ strategyFields, f ∈ bookFields := by decide

theorem taskRecordFields_not_book : ∀ f ∈ taskRecordFields, f ∉ bookFields := by decide

theorem ChangesOnly.side {s t : StateObject} (h : ChangesOnly bookFields s t) :
    ChangesOnly sideFields s t := h.mono fun _ hf => List.mem_append_right _ hf

section

variable {s s' : StateObject}

theorem changesOnly_clearPresent (fields : List Field) (hsub : ∀ f ∈ fields, f ∈ bookFields) :
    ∀ s : StateObject, ChangesOnly bookFields s (fields.foldl (fun s f => clearPresent f s) s) := by
  induction fields with
  | nil => exact fun s => .refl s
  | cons f fields ih =>
    intro s
    refine ChangesOnly.trans ?_ (ih (fun g hg => hsub g (List.mem_cons_of_mem _ hg)) _)
    exact .ite ((ChangesOnly.refl s).set (hsub f List.mem_cons_self) .null) (.refl s)

theorem changesOnly_setHarnessPhaseExecuting (s : StateObject) :
    ChangesOnly bookFields s (setHarnessPhaseExecuting s) :=
  (ChangesOnly.refl s).set (by decide) _

theorem changesOnly_consume (s : StateObject) :
    ChangesOnly bookFields s (consumeExecutionReentryRepairFollowUp s).2 := by
  rw [consumeExecutionReentryRepairFollowUp]
  split_ifs
  · exact (changesOnly_clearPresent repairFollowUpFields (by decide) s).trans
      (changesOnly_setHarnessPhaseExecuting _)
  · exact .refl s

theorem changesOnly_projections (env : StepEnvironment) (context : ExecutionContext)
    (s : StateObject) :
    ChangesOnly bookFields s (recordExecutionProjectionFingerprints env context s) :=
  ((ChangesOnly.refl s).set (by decide) _).set (by decide) _

theorem changesOnly_applyNoteResetPolicy (noteState : NoteState)
    (contract : Option ActiveStepContract) (s : StateObject) :
    ChangesOnly bookFields s (applyNoteResetPolicy noteState contract s) := by
  refine .ite (.refl s) ?_
  cases contract with
  | none => exact .refl s
  | some contract =>
    exact .ite (.refl s) ((((ChangesOnly.refl s).set (by decide) _).set (by decide) _).set
      (by decide) _)

theorem changesOnly_staleReopenProvenance (s : StateObject) :
    ChangesOnly bookFields s (staleReopenProvenance s) := by
  have hnulls : ∀ f ∈ staleProvenanceFields, f ∈ bookFields := by decide
  exact ((((ChangesOnly.refl s).setNulls hnulls).set (by decide) _).set (by decide) _).set
    (by decide) _

theorem changesOnly_clearClosures {tasks : List UInt32}
    (h : clearCurrentTaskClosureResultsForExecutionReentry tasks s = .ok s') :
    ChangesOnly taskRecordFields s s' := changesOnly_takeBackTaskClosures h

/-- The closure of a task that is taken back is not among the current ones. -/
theorem get?_clearClosures {task : UInt32}
    (h : clearCurrentTaskClosureResultsForExecutionReentry [task] s = .ok s') :
    (objectEntries (s' .currentTaskClosureRecords)).get? (taskScopeKey task) = none := by
  rw [(takeBackTaskClosures_ok h).2.1, get?_foldl_erase, List.map_singleton,
    if_pos (List.mem_singleton_self _)]

end

/-! ### The open step -/

section

variable {env : StepEnvironment} {plan : StepPlan} {context : ExecutionContext} {key : StepKey}
  {noteState : NoteState} {s payload : StateObject}

/-- The state with a new open step and side fields that differ. -/
def OpensStep (env : StepEnvironment) (context : ExecutionContext) (key : StepKey)
    (noteState : NoteState) (s payload : StateObject) : Prop :=
  ∃ summary normal, normalizeOpenStepStateRecord env.workspace.statePath
      (openStepStateRecord env context key noteState summary) = .ok normal ∧
    ChangesOnly sideFields
      (s.set .currentOpenStepState (OpenStepStateRecord.codec.toValue normal)) payload

/-- **The step that is opened is one of the plan.** -/
theorem opens_of_normalize {summary : List Char} {normal : OpenStepStateRecord} {mode : List Char}
    (h : normalizeOpenStepStateRecord env.workspace.statePath
      (openStepStateRecord env context key noteState summary) = .ok normal)
    (hplanRel : context.planRel = plan.planRel)
    (hplanRevision : context.planRevision = plan.document.planRevision)
    (hmode : context.executionMode = mode) (hplanned : plan.Planned key) :
    plan.Opens mode ⟨normal, noteState⟩ ∧ normal.key = key := by
  obtain ⟨noteState', hread, rfl, hnormal⟩ := normalizeOpenStepStateRecord_ok h
  have hstate : noteState' = noteState :=
    Option.some.inj (hread.symm.trans (readNoteState_asStr noteState))
  subst hstate
  exact ⟨⟨hnormal, hplanRel, hplanRevision, hplanned, congrArg some hmode⟩, rfl⟩

/-- The open step of what a command hands over. -/
theorem OpensStep.opened (h : OpensStep env context key noteState s payload)
    {mode : List Char} (hplanRel : context.planRel = plan.planRel)
    (hplanRevision : context.planRevision = plan.document.planRevision)
    (hmode : context.executionMode = mode) (hplanned : plan.Planned key) :
    ∃ record, plan.Opens mode ⟨record, noteState⟩ ∧ record.key = key ∧
      HasOpenStep payload record noteState ∧
      payload .executionEvidenceAttempts = s .executionEvidenceAttempts := by
  obtain ⟨summary, normal, hnormal, hchanges⟩ := h
  obtain ⟨hopens, hkey⟩ := opens_of_normalize hnormal hplanRel hplanRevision hmode hplanned
  refine ⟨normal, hopens, hkey, ⟨?_, hopens.normal⟩, ?_⟩
  · rw [hchanges _ (progressFields_not_side _ (by decide)), set_self]
  · rw [hchanges _ (progressFields_not_side _ (by decide)), set_of_ne _ _ (by decide)]

theorem opensStep_of_record {summary : List Char} {s₁ : StateObject}
    (h : recordOpenStepState env.workspace.statePath
      (openStepStateRecord env context key noteState summary) s = .ok s₁)
    (hchanges : ChangesOnly sideFields s₁ payload) :
    OpensStep env context key noteState s payload := by
  obtain ⟨normal, hnormal, rfl⟩ := recordOpenStepState_ok h
  exact ⟨summary, normal, hnormal, hchanges⟩

end

/-! ### The commands -/

section

variable {env : StepEnvironment} {context : ExecutionContext} {s : StateObject}
  {effect : StepEffect}

theorem beginStep_opens {key : StepKey} {steps : List PlanStepState} {title : List Char}
    (h : beginStep env key context s steps title = .ok effect) :
    OpensStep env context key .active s effect.payload ∧
      effect.context.executionMode = context.executionMode := by
  obtain ⟨text, _, h⟩ := bind_eq_ok.mp h
  obtain ⟨s₁, hopen, h⟩ := bind_eq_ok.mp h
  obtain ⟨s₂, hdispatch, h⟩ := bind_eq_ok.mp h
  obtain rfl := Except.ok.inj h
  refine ⟨opensStep_of_record hopen ?_, rfl⟩
  have hstrategy := (changesOnly_ensureInitialDispatch (liftState_eq_ok.mp hdispatch)).mono
    strategyFields_book
  exact ChangesOnly.side ((((changesOnly_setHarnessPhaseExecuting s₁).trans hstrategy).trans
    (changesOnly_consume s₂)).trans (changesOnly_projections env _ _))

/-- The step that `begin` works on is worked on already. -/
theorem begin_again {request : BeginRequest}
    (h : env.begin request context s = .ok (some effect))
    (hactive : (context.steps.find? (noted .active)).isSome) :
    ChangesOnly sideFields s effect.payload := by
  obtain ⟨_, _, h⟩ := bind_eq_ok.mp h
  obtain ⟨mode, hmode, h⟩ := bind_eq_ok.mp h
  obtain ⟨_, _, h⟩ := bind_eq_ok.mp h
  obtain ⟨_, _, h⟩ := bind_eq_ok.mp h
  obtain ⟨_, _, h⟩ := bind_eq_ok.mp h
  dsimp only at h
  obtain ⟨active, hactive⟩ := Option.isSome_iff_exists.mp hactive
  simp only [hactive] at h
  split_ifs at h
  rw [beginAgain] at h
  split_ifs at h
  · obtain ⟨_, _, h⟩ := bind_eq_ok.mp h
    obtain rfl := Option.some.inj (Except.ok.inj h)
    exact (changesOnly_consume s).side
  · cases h

/-- **What `begin` does**: a step of the plan that is not completed is worked on. -/
theorem begin_ok {request : BeginRequest}
    (h : env.begin request context s = .ok (some effect))
    (hactive : context.steps.find? (noted .active) = none) :
    ∃ mode target, beginExecutionMode request context.executionMode = .ok mode ∧
      stepAt context.steps (request.task, request.step) = some target ∧
      target.checked = false ∧ effect.context.executionMode = mode ∧
      OpensStep env { context with executionMode := mode } (request.task, request.step) .active
        s effect.payload := by
  obtain ⟨_, _, h⟩ := bind_eq_ok.mp h
  obtain ⟨mode, hmode, h⟩ := bind_eq_ok.mp h
  obtain ⟨_, _, h⟩ := bind_eq_ok.mp h
  obtain ⟨_, _, h⟩ := bind_eq_ok.mp h
  obtain ⟨_, _, h⟩ := bind_eq_ok.mp h
  dsimp only at h
  simp only [hactive] at h
  cases htarget : stepAt context.steps (request.task, request.step) with
  | none => simp only [htarget] at h; cases h
  | some target =>
    simp only [htarget] at h
    obtain ⟨effect', hbegin, hsome⟩ := map_eq_ok.mp h
    obtain ⟨_, _, hbegin⟩ := bind_eq_ok.mp hbegin
    obtain ⟨hchecked, hbegin⟩ := ite_error_eq_ok.mp hbegin
    obtain ⟨_, _, hbegin⟩ := bind_eq_ok.mp hbegin
    obtain ⟨_, hbegin⟩ := ite_error_eq_ok.mp hbegin
    obtain ⟨steps, _, hbegin⟩ := bind_eq_ok.mp hbegin
    obtain ⟨_, _, hbegin⟩ := bind_eq_ok.mp hbegin
    obtain ⟨hopens, hleft⟩ := beginStep_opens hbegin
    obtain rfl := Option.some.inj hsome
    exact ⟨mode, target, hmode, rfl, Bool.eq_false_iff.mpr hchecked, hleft, hopens⟩

/-- **What `note` does**: the step that is worked on gets another note. -/
theorem note_ok {request : NoteRequest} (h : env.note request context s = .ok effect) :
    ∃ target, stepAt context.steps (request.task, request.step) = some target ∧
      target.noteState = some .active ∧
      OpensStep env context (request.task, request.step) request.state s effect.payload := by
  obtain ⟨_, _, h⟩ := bind_eq_ok.mp h
  obtain ⟨contract, _, h⟩ := bind_eq_ok.mp h
  dsimp only at h
  cases htarget : stepAt context.steps (request.task, request.step) with
  | none => simp only [htarget] at h; cases h
  | some target =>
    simp only [htarget] at h
    split_ifs at h with hactive _
    obtain ⟨s₁, hopen, h⟩ := bind_eq_ok.mp h
    obtain rfl := Except.ok.inj h
    refine ⟨target, rfl, not_not.mp hactive, opensStep_of_record hopen ?_⟩
    exact ((changesOnly_applyNoteResetPolicy request.state contract s₁).trans
      (changesOnly_projections env _ _)).side

/-- What a completion hands over. -/
structure Completes (env : StepEnvironment) (request : CompleteRequest) (mode : List Char)
    (context : ExecutionContext) (s : StateObject) (attempt : EvidenceAttempt)
    (effect : StepEffect) : Prop where
  key : attempt.key = (request.task, request.step)
  status : attempt.status = "Completed".toList
  number : attempt.attemptNumber = nextAttemptNumber context.attempts attempt.key
  source : attempt.executionSource = request.source
  left : effect.context = { context with
    executionMode := mode
    steps := setStep (request.task, request.step) (fun step => (step.check true).clearNote)
      context.steps
    attempts := context.attempts ++ [attempt] }
  payload : ChangesOnly sideFields ((clearOpenStepState s).set .executionEvidenceAttempts
    (attemptsCodec.toValue (context.attempts ++ [attempt]))) effect.payload

theorem completeStep_completes {request : CompleteRequest} {mode : List Char}
    (h : completeStep env request { context with executionMode := mode } s = .ok effect) :
    ∃ attempt, Completes env request mode context s attempt effect := by
  obtain ⟨files, _, h⟩ := bind_eq_ok.mp h
  obtain ⟨files, _, h⟩ := bind_eq_ok.mp h
  dsimp only at h
  cases hpacket : taskPacketFingerprint env.sha env.plan env.workspace
      { context with executionMode := mode } (request.task, request.step) with
  | none => simp only [hpacket] at h; cases h
  | some packetFingerprint =>
    simp only [hpacket] at h
    obtain ⟨headSha, _, h⟩ := bind_eq_ok.mp h
    obtain rfl := Except.ok.inj h
    exact ⟨_, rfl, rfl, rfl, rfl, rfl,
      ((changesOnly_projections env _ _).trans (changesOnly_consume _)).side⟩

/-- **What `complete` does**: the step that is worked on is completed, with one more attempt. -/
theorem complete_ok {request : CompleteRequest} (h : env.complete request context s = .ok effect) :
    ∃ mode target attempt,
      normalizeOrSeedSource request.source context.executionMode = .ok mode ∧
      stepAt context.steps (request.task, request.step) = some target ∧
      target.noteState = some .active ∧ Completes env request mode context s attempt effect := by
  obtain ⟨_, _, h⟩ := bind_eq_ok.mp h
  obtain ⟨mode, hmode, h⟩ := bind_eq_ok.mp h
  obtain ⟨_, _, h⟩ := bind_eq_ok.mp h
  obtain ⟨_, _, h⟩ := bind_eq_ok.mp h
  dsimp only at h
  cases htarget : stepAt context.steps (request.task, request.step) with
  | none => simp only [htarget] at h; cases h
  | some target =>
    simp only [htarget] at h
    obtain ⟨hactive, h⟩ := ite_error_eq_ok.mp h
    obtain ⟨_, h⟩ := ite_error_eq_ok.mp h
    obtain ⟨attempt, hcompletes⟩ := completeStep_completes h
    exact ⟨mode, target, attempt, hmode, rfl, not_not.mp hactive, hcompletes⟩

/-- What a reopening hands over: the step is open, the attempts are as they are given, and the
closure of the task is taken back. -/
structure Reopens (env : StepEnvironment) (request : ReopenRequest) (context : ExecutionContext)
    (attempts : List EvidenceAttempt) (s payload : StateObject) (record : OpenStepStateRecord) :
    Prop where
  normal : ∃ summary, normalizeOpenStepStateRecord env.workspace.statePath
    (openStepStateRecord env context (request.task, request.step) .interrupted summary) =
    .ok record
  changes : ChangesOnly sideFields
    ((s.set .currentOpenStepState (OpenStepStateRecord.codec.toValue record)).set
      .executionEvidenceAttempts (attemptsCodec.toValue attempts)) payload
  closure :
    (objectEntries (payload .currentTaskClosureRecords)).get? (taskScopeKey request.task) = none

theorem reopenState_reopens {request : ReopenRequest} {summary : List Char}
    {payload : StateObject} (h : reopenState env request context summary s = .ok payload) :
    ∃ record, Reopens env request context context.attempts s payload record := by
  obtain ⟨s₁, hopen, h⟩ := bind_eq_ok.mp h
  obtain ⟨s₂, hclosures, h⟩ := bind_eq_ok.mp h
  obtain ⟨s₃, hstrategy, h⟩ := bind_eq_ok.mp h
  obtain rfl := Except.ok.inj h
  obtain ⟨normal, hnormal, rfl⟩ := recordOpenStepState_ok hopen
  rw [liftState_eq_ok] at hclosures hstrategy
  -- what is written once the closure has been taken back
  have hphase : ChangesOnly bookFields s₃
      (if jsonString (s₃ .strategyCheckpointKind) = some "cycle_break" then s₃
        else setHarnessPhaseExecuting s₃) :=
    .ite (.refl s₃) (changesOnly_setHarnessPhaseExecuting s₃)
  have hbook := ((changesOnly_staleReopenProvenance s₂).trans
    ((changesOnly_recordReopenStrategyCheckpoint hstrategy).mono strategyFields_book)).trans
      hphase
  have hlast : ∀ t, ChangesOnly bookFields t (recordExecutionProjectionFingerprints env context
      (consumeExecutionReentryRepairFollowUp t).2) := fun t =>
    (changesOnly_consume t).trans (changesOnly_projections env context _)
  have hclosed : ∀ f ∈ taskRecordFields, f ∈ sideFields := fun f hf => List.mem_append_left _ hf
  have hside := ((changesOnly_clearClosures hclosures).mono hclosed).trans hbook.side
  refine ⟨normal, ⟨_, hnormal⟩, (hside.set_both _ _).trans (hlast _).side, ?_⟩
  have hsame := ((hbook.set_both .executionEvidenceAttempts
    (attemptsCodec.toValue context.attempts)).trans (hlast _)) .currentTaskClosureRecords
    (taskRecordFields_not_book _ (by decide))
  rw [set_of_ne _ _ (by decide)] at hsame
  rw [← get?_clearClosures hclosures, ← hsame]
  rfl

/-- **What `reopen` does**: a step that is checked, or whose task is closed, is open again. -/
theorem reopen_ok {request : ReopenRequest}
    (h : env.reopen request context s = .ok (some effect)) :
    ∃ mode target record,
      normalizeOrSeedSource request.source context.executionMode = .ok mode ∧
      stepAt context.steps (request.task, request.step) = some target ∧
      (target.checked = true ∨ (currentTaskClosureResult s request.task).isSome) ∧
      Reopens env request { context with executionMode := mode }
        (invalidateLatestCompletedAttempt env.workspace.now request.reason
          (request.task, request.step) context.attempts) s effect.payload record := by
  obtain ⟨_, _, h⟩ := bind_eq_ok.mp h
  obtain ⟨mode, hmode, h⟩ := bind_eq_ok.mp h
  obtain ⟨_, _, h⟩ := bind_eq_ok.mp h
  dsimp only at h
  cases htarget : stepAt context.steps (request.task, request.step) with
  | none => simp only [htarget] at h; cases h
  | some target =>
    simp only [htarget] at h
    obtain ⟨_, _, h⟩ := bind_eq_ok.mp h
    by_cases hsame : (context.steps.find? (noted .interrupted)).any
        (fun step => step.key = (request.task, request.step)) = true
    · simp only [hsame, if_true] at h
      cases h
    · simp only [if_neg hsame] at h
      obtain ⟨steps, _, h⟩ := bind_eq_ok.mp h
      obtain ⟨hdone, h⟩ := ite_error_eq_ok.mp h
      obtain ⟨effect', hreopen, hsome⟩ := map_eq_ok.mp h
      obtain ⟨payload, hstate, hleft⟩ := bind_eq_ok.mp hreopen
      obtain rfl := Except.ok.inj hleft
      obtain rfl := Option.some.inj hsome
      obtain ⟨record, hreopens⟩ := reopenState_reopens hstate
      refine ⟨mode, target, record, hmode, rfl, ?_, hreopens.normal, hreopens.changes,
        hreopens.closure⟩
      by_contra hnot
      rw [not_or] at hnot
      exact hdone ⟨by simpa using hnot.1, by simpa using hnot.2⟩

/-- What `transfer` leaves in memory: the repair step is open, and its last completion does not
count. -/
def repairContext (now : List Char) (request : RepairStepRequest) (context : ExecutionContext) :
    ExecutionContext :=
  { context with
    steps := setFirst (noted .active) (PlanStepState.note .interrupted
        (parkedSummary (request.repairTask, request.repairStep)))
      (setStep (request.repairTask, request.repairStep)
        (fun step => (step.check false).clearNote) context.steps)
    attempts := invalidateLatestCompletedAttempt now request.reason
      (request.repairTask, request.repairStep) context.attempts }

/-- **What `transfer` does**: the step that is worked on is parked. -/
theorem transfer_ok {request : RepairStepRequest}
    (h : env.transferRepairStep request context (some s) = .ok (some effect)) :
    ∃ active repair, context.steps.find? (noted .active) = some active ∧
      stepAt context.steps (request.repairTask, request.repairStep) = some repair ∧
      repair.checked = true ∧ OpensStep env context active.key .interrupted s effect.payload ∧
      effect.context = repairContext env.workspace.now request context := by
  obtain ⟨_, _, h⟩ := bind_eq_ok.mp h
  obtain ⟨_, _, h⟩ := bind_eq_ok.mp h
  obtain ⟨_, _, h⟩ := bind_eq_ok.mp h
  obtain ⟨_, _, h⟩ := bind_eq_ok.mp h
  dsimp only at h
  cases hactive : context.steps.find? (noted .active) with
  | none => simp only [hactive] at h; cases h
  | some active =>
    simp only [hactive] at h
    obtain ⟨_, h⟩ := ite_error_eq_ok.mp h
    cases hrepair : stepAt context.steps (request.repairTask, request.repairStep) with
    | none => simp only [hrepair] at h; cases h
    | some repair =>
      simp only [hrepair] at h
      obtain ⟨hchecked, h⟩ := ite_error_eq_ok.mp h
      obtain ⟨s₁, hopen, h⟩ := bind_eq_ok.mp h
      obtain rfl := Option.some.inj (Except.ok.inj h)
      exact ⟨active, repair, rfl, rfl, by simpa using hchecked,
        opensStep_of_record hopen (changesOnly_projections env _ _).side, rfl⟩

/-- Without a state there is nothing to hand over. -/
theorem transfer_none {request : RepairStepRequest} :
    env.transferRepairStep request context none ≠ .ok (some effect) := by
  intro h
  obtain ⟨_, _, h⟩ := bind_eq_ok.mp h
  obtain ⟨_, _, h⟩ := bind_eq_ok.mp h
  obtain ⟨_, _, h⟩ := bind_eq_ok.mp h
  obtain ⟨_, _, h⟩ := bind_eq_ok.mp h
  dsimp only at h
  cases hactive : context.steps.find? (noted .active) with
  | none => simp only [hactive] at h; cases h
  | some active =>
    simp only [hactive] at h
    obtain ⟨_, h⟩ := ite_error_eq_ok.mp h
    cases hrepair : stepAt context.steps (request.repairTask, request.repairStep) with
    | none => simp only [hrepair] at h; cases h
    | some repair =>
      simp only [hrepair] at h
      obtain ⟨_, h⟩ := ite_error_eq_ok.mp h
      cases h

end

end FeatureForge
