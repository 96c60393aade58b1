import FeatureForge.Steps.Histories

/-!
# What a command leaves behind

A command changes the context in memory and hands over a state; the next command sees neither, but
what the log says.  After `complete` both are the same (`complete_reloads`).  What `transfer` does
to the repair step (`transfer_forgets_repair`) and what `reopen` does to the closure of the task
(`reopen_keeps_closure`) does not reach the log.  And a `begin` whose context has been overtaken
leaves a log that moves account for just when what it relies on is still there
(`overtaken_begin`).
-/

namespace FeatureForge

section

variable {plan : StepPlan} {log : List ExecutionEvent} {moves : List StepMove}
  {env : StepEnvironment} {s s' : Option StateObject} {context : ExecutionContext}
  {e : ExecutionEvent} {sha : Sha256Hex} {workspace : Workspace}

/-! ### Closures -/

/-- An event that has no slots for the closures leaves them. -/
theorem closures_kept {before after : StateObject} (he : CarriesDelta before after e)
    (hslots : ∀ f ∈ taskRecordFields, f ∉ ExecutionEvent.slots e.kind) :
    ∀ f ∈ taskRecordFields, (applyTypedEventToState before e).1 f = before f := by
  have hplain : ∀ f ∈ taskRecordFields, f ≠ .eventCompletedSteps := by decide
  exact fun f hf => value_of_no_slot he (hslots f hf) (hplain f hf)

/-- Closures are seen in two fields. -/
theorem currentTaskClosureResult_congr {t t' : StateObject}
    (h : ∀ f ∈ taskRecordFields, t' f = t f) (task : UInt32) :
    currentTaskClosureResult t' task = currentTaskClosureResult t task := by
  rw [currentTaskClosureResult, currentTaskClosureResult, currentTaskClosureResultsFromHistory,
    currentTaskClosureResultsFromHistory, rawCurrentTaskClosureResult,
    rawCurrentTaskClosureResult, h _ (by decide), h _ (by decide)]

/-- The closures of what is loaded, before and after an event that leaves them. -/
theorem loaded_closures (hload : loadAuthoritativeTransitionState log = .ok s)
    (hload' : loadAuthoritativeTransitionState (log ++ [e]) = .ok s') {after : StateObject}
    (he : CarriesDelta (logState log) after e)
    (hslots : ∀ f ∈ taskRecordFields, f ∉ ExecutionEvent.slots e.kind) :
    ∀ f ∈ taskRecordFields, (s'.getD emptyState) f = (s.getD emptyState) f := by
  intro f hf
  have hmem : f ∈ taskRecordFields ++ progressFields := List.mem_append_left _ hf
  rw [loaded_eq hload' hmem, loaded_eq hload hmem, logState_concat, closures_kept he hslots f hf]

theorem closedTasks_congr {t t' : StateObject} (h : ∀ f ∈ taskRecordFields, t' f = t f) :
    closedTasks t' = closedTasks t := by
  rw [closedTasks, closedTasks, h _ (by decide)]

/-! ### `complete` -/

/-- A step that is completed in memory, and one that is marked as done. -/
theorem check_mark (m : Marks) (step : PlanStepState) :
    ((m.mark step).check true).clearNote = step.clearNote.check true := by
  rw [Marks.mark]
  cases m.shown with
  | none => rfl
  | some o =>
    rw [Option.elim_some]
    split_ifs
    · rfl
    · rfl

/-- The marks after a completion are those before it with the step done. -/
theorem completed_marks {parsed steps steps' : List PlanStepState} {m m' : Marks} {key : StepKey}
    (h : MarkedSteps m parsed steps) (h' : MarkedSteps m' parsed steps')
    (hclosed : m'.closed = m.closed) (hcompleted : m'.completed = insert key m.completed)
    (hopen : ∀ o, m.shown = some o → o.record.key = key) (hshown : m'.shown = none)
    (key' : StepKey) : stepAt steps' key' =
      stepAt (setStep key (fun step => (step.check true).clearNote) steps) key' := by
  have hkept : ∀ step : PlanStepState, PlanStepState.key ((step.check true).clearNote) = step.key :=
    fun _ => rfl
  rw [stepAt_setStep hkept, h'.stepAt, h.stepAt, h.stepAt]
  cases hparsed : stepAt parsed key' with
  | none =>
    by_cases hkey : key' = key
    · rw [if_pos hkey, ← hkey, hparsed]
      rfl
    · rw [if_neg hkey]
      rfl
  | some step =>
    have hstep : step.key = key' := key_of_stepAt hparsed
    have hticked : m'.mark step = m'.ticked step := m'.mark_of_ne fun o ho => by
      rw [hshown] at ho
      cases ho
    have hdone : m'.Done step.key ↔ m.Done step.key ∨ step.key = key := by
      rw [Marks.Done, Marks.Done, hclosed, hcompleted, Finset.mem_insert, or_assoc,
        or_comm (a := step.key = key)]
    by_cases hkey : key' = key
    · rw [if_pos hkey, ← hkey, hparsed]
      simp only [Option.map_some, check_mark, hticked]
      have hin : m'.Done step.key := hdone.mpr (Or.inr (hstep.trans hkey))
      rw [Marks.ticked, decide_eq_true hin]
    · have hne : step.key ≠ key := fun heq => hkey (hstep.symm.trans heq)
      have hsame : m.mark step = m.ticked step := m.mark_of_ne fun o ho heq =>
        hne (heq.symm.trans (hopen o ho))
      rw [if_neg hkey]
      simp only [Option.map_some, hticked, hsame]
      rw [Marks.ticked, Marks.ticked, decide_eq_decide.mpr (hdone.trans (or_iff_left hne))]

/-- **What `complete` leaves in memory is what the next command loads**, in every workspace. -/
theorem complete_reloads (h : StepRun plan log moves) (hloads : plan.Loads env moves log s context)
    {request : CompleteRequest} {effect : StepEffect}
    (hcomplete : env.complete request context (s.getD emptyState) = .ok effect)
    (happend : AppendsEvent .complete log effect (some (request.task, request.step)) e)
    (hload' : loadAuthoritativeTransitionState (log ++ [e]) = .ok s')
    (hchecks : workspace.planChecks = .ok ())
    (hprojects : workspace.Projects effect.context.attempts) :
    ∃ context', loadExecutionContextForMutation sha plan.toApprovedPlan workspace s' =
        .ok context' ∧
      (∀ key, stepAt context'.steps key = stepAt effect.context.steps key) ∧
      context'.attempts = effect.context.attempts ∧
      context'.executionMode = effect.context.executionMode := by
  obtain ⟨mode, hloaded⟩ := h.tracks.loads hloads
  obtain ⟨chosen, target, attempt, hchosen, htarget, hactive, hdone⟩ := complete_ok hcomplete
  obtain ⟨active, hopen, hactiveKey, _⟩ := hloaded.of_stepAt htarget hactive
  have hleft : effect.context.attempts = context.attempts ++ [attempt] := by rw [hdone.left]
  have hafter := h.tracks.completed hloads hcomplete happend hleft
  have hprogress : progressOf (moves ++ [.completed attempt]) =
      (progressOf moves).after (.completed attempt) := progressOf_concat _ _
  have hattempts : (progressOf (moves ++ [.completed attempt])).attempts =
      effect.context.attempts := by
    rw [hprogress, hleft, hloaded.shown.shown]
    rfl
  obtain ⟨mode', context', hcontext, hloaded'⟩ := hafter.reloads hload' sha hchecks
    (hattempts.symm ▸ hprojects)
  refine ⟨context', hcontext, fun key => ?_, hloaded'.shown.shown.trans hattempts, ?_⟩
  · -- the event of a completion has no slots for the closures
    obtain ⟨facts, rfl⟩ := event_complete happend
    have hslots : ∀ f ∈ taskRecordFields, f ∉ ExecutionEvent.slots .complete := by decide
    have hclosures := loaded_closures hloads.state hload' (facts_eventFromCommand happend) hslots
    have hsteps : effect.context.steps = setStep (request.task, request.step)
        (fun step => (step.check true).clearNote) context.steps := by
      rw [hdone.left]
    rw [hsteps]
    refine completed_marks hloaded.shown.steps hloaded'.shown.steps
      (closedTasks_congr hclosures) ?_ ?_ ?_ key
    · rw [← hdone.key]
      exact congrArg Progress.completed hprogress
    · intro o ho
      have hshown : (progressOf moves).openStep = some o := (Option.filter_eq_some_iff.mp ho).1
      obtain rfl := Option.some.inj (hopen.symm.trans hshown)
      exact hactiveKey
    · show ((progressOf (moves ++ [.completed attempt])).openStep.filter _) = none
      rw [hprogress]
      rfl
  · have hmem : attempt ∈ (progressOf (moves ++ [.completed attempt])).attempts := by
      rw [hattempts, hleft]
      exact List.mem_append_right _ (List.mem_singleton_self attempt)
    have hsource := hloaded'.inMode.attempts attempt hmem
    have hmode : context'.executionMode = mode' := by
      refine hloaded'.shown.mode.resolve_right fun hnone => ?_
      rw [hnone.2.2.1] at hmem
      exact List.not_mem_nil hmem
    rw [hmode, ← hsource, hdone.source, ← (normalizeOrSeedSource_ok hchosen).1, hdone.left]

theorem complete_reloads_note : ∃ s' effect context',
    loadAuthoritativeTransitionState noteCompleted = .ok s' ∧
      loadExecutionContextForMutation (fun _ => "0") notePlan.toApprovedPlan noteWorkspace s' =
        .ok context' ∧
      (∀ key, stepAt context'.steps key = stepAt (StepEffect.context effect).steps key) ∧
      context'.attempts = effect.context.attempts := by
  obtain ⟨moves, hrun⟩ := noteBegun_stepRun
  obtain ⟨_, hcompleted, _, _, _, _, hlengths⟩ := note_runs
  simp only [List.map_cons, List.cons.injEq] at hlengths
  obtain ⟨s, context, effect, e, hload, hcontext, hwork, heq, happend⟩ :=
    noteRun_appends hcompleted (show noteCompleted.length ≠ noteBegun.length by omega)
  obtain ⟨effect', hcomplete, heffect⟩ := map_eq_ok.mp hwork
  obtain rfl := Option.some.inj heffect
  obtain ⟨s', hload'⟩ := exists_of_isOk
    (List.all_eq_true.mp note_loads.1 noteCompleted List.mem_cons_self)
  have hload'' : loadAuthoritativeTransitionState (noteBegun ++ [e]) = .ok s' := by
    rw [← heq]
    exact hload'
  obtain ⟨context', hcontext', hsteps, hattempts, _⟩ := complete_reloads hrun
    ⟨rfl, projects_of_nil rfl _, hload, hcontext⟩ hcomplete happend hload''
    (show noteWorkspace.planChecks = .ok () from rfl) (projects_of_nil rfl _)
  exact ⟨s', effect', context', hload', hcontext', hsteps, hattempts⟩

/-! ### `transfer` -/

/-- A step of the plan is checked where it is marked as done and is not the open one. -/
theorem checked_marked {parsed steps : List PlanStepState} {m : Marks} {key : StepKey}
    (h : MarkedSteps m parsed steps) (hplanned : (stepAt parsed key).isSome)
    (hopen : ∀ o, m.shown = some o → o.record.key ≠ key) :
    (stepAt steps key).map PlanStepState.checked = some (decide (m.Done key)) := by
  obtain ⟨step, hstep⟩ := Option.isSome_iff_exists.mp hplanned
  have hkey : step.key = key := key_of_stepAt hstep
  have hticked : m.mark step = m.ticked step := m.mark_of_ne fun o ho => hkey.symm ▸ hopen o ho
  rw [h.stepAt, hstep, Option.map_some, Option.map_some, hticked, Marks.checked_ticked, hkey]

/-- A step that is shown as checked is done. -/
theorem done_of_checked {parsed steps : List PlanStepState} {m : Marks} {key : StepKey}
    {step : PlanStepState} (h : MarkedSteps m parsed steps) (hstep : stepAt steps key = some step)
    (hchecked : step.checked = true) :
    m.Done key ∧ ∀ o, m.shown = some o → o.record.key ≠ key := by
  have hat := h.stepAt key
  rw [hstep] at hat
  obtain ⟨parsedStep, hparsed, rfl⟩ := Option.map_eq_some_iff.mp hat.symm
  have hkey : parsedStep.key = key := key_of_stepAt hparsed
  have hopen : ∀ o, m.shown = some o → o.record.key ≠ key := by
    intro o ho heq
    rw [m.mark_of_open ho (heq.trans hkey.symm)] at hchecked
    cases hchecked
  refine ⟨?_, hopen⟩
  rw [m.mark_of_ne fun o ho => hkey.symm ▸ hopen o ho, Marks.checked_ticked, hkey] at hchecked
  exact of_decide_eq_true hchecked

/-- In memory the repair step is open. -/
theorem repairContext_checked (now : List Char) (request : RepairStepRequest)
    (context : ExecutionContext) :
    (stepAt (repairContext now request context).steps
        (request.repairTask, request.repairStep)).map PlanStepState.checked =
      (stepAt context.steps (request.repairTask, request.repairStep)).map fun _ => false := by
  have hparked : ∀ step : PlanStepState, (step.note .interrupted
      (parkedSummary (request.repairTask, request.repairStep))).key = step.key := fun _ => rfl
  have hopened : ∀ step : PlanStepState, (step.check false).clearNote.key = step.key := fun _ => rfl
  have hsame := map_find?_setFirst (p := noted .active) (g := PlanStepState.checked) hparked
    (fun _ => rfl) (request.repairTask, request.repairStep)
    (setStep (request.repairTask, request.repairStep)
      (fun step => (step.check false).clearNote) context.steps)
  refine hsame.trans ?_
  show (stepAt (setStep _ _ _) _).map _ = _
  rw [stepAt_setStep hopened, if_pos rfl, Option.map_map]
  rfl

/-- **What `transfer` does to the repair step is forgotten**: it leaves the step open in memory and
its last completion invalidated, and the next command finds the step checked and the attempts as
they were. -/
theorem transfer_forgets_repair (h : StepRun plan log moves)
    (hloads : plan.Loads env moves log s context) {request : RepairStepRequest}
    {effect : StepEffect} (htransfer : env.transferRepairStep request context s = .ok (some effect))
    (happend : AppendsEvent .transfer log effect none e)
    (hload' : loadAuthoritativeTransitionState (log ++ [e]) = .ok s')
    (hchecks : workspace.planChecks = .ok ())
    (hprojects : workspace.Projects context.attempts) :
    (stepAt effect.context.steps (request.repairTask, request.repairStep)).map
        PlanStepState.checked = some false ∧
      effect.context.attempts = invalidateLatestCompletedAttempt env.workspace.now request.reason
        (request.repairTask, request.repairStep) context.attempts ∧
      ∃ context', loadExecutionContextForMutation sha plan.toApprovedPlan workspace s' =
          .ok context' ∧
        (stepAt context'.steps (request.repairTask, request.repairStep)).map
          PlanStepState.checked = some true ∧
        context'.attempts = context.attempts := by
  obtain ⟨mode, hloaded⟩ := h.tracks.loads hloads
  cases s with
  | none =>
    -- without a state there is nothing to hand over
    exact absurd htransfer transfer_none
  | some s =>
    obtain ⟨active, repair, hfind, hrepair, hchecked, hopened, hleft⟩ := transfer_ok htransfer
    obtain ⟨record, hopens, hkey⟩ := hopened.opens
    have hafter := h.tracks.transferred hloads htransfer happend hopens
    have hprogress : progressOf (moves ++ [.transferred record]) =
        (progressOf moves).after (.transferred record) := progressOf_concat _ _
    have hattempts : (progressOf (moves ++ [.transferred record])).attempts = context.attempts := by
      rw [hprogress, hloaded.shown.shown]
      rfl
    obtain ⟨mode', context', hcontext, hloaded'⟩ := hafter.reloads hload' sha hchecks
      (hattempts.symm ▸ hprojects)
    refine ⟨?_, ?_, context', hcontext, ?_, hloaded'.shown.shown.trans hattempts⟩
    · rw [hleft, repairContext_checked, hrepair]
      rfl
    · rw [hleft, repairContext]
    · -- the repair step is done, and it is not the one that is parked
      obtain ⟨hdone, hother⟩ := done_of_checked hloaded.shown.steps hrepair hchecked
      have hactive : active.noteState = some .active := by
        simpa [noted] using List.find?_some hfind
      obtain ⟨o, hshown, hopenKey, _⟩ := hloaded.shown.steps.noted active
        (List.mem_of_find?_eq_some hfind) _ hactive
      have hclosures := loaded_closures hloads.state hload' (facts_eventFromCommand happend)
        (event_transfer happend).noClosures
      have hdone' : (workspace.marks (s'.getD emptyState)
          (progressOf (moves ++ [.transferred record]))).Done
            (request.repairTask, request.repairStep) := by
        rw [hprogress, Marks.Done, Workspace.marks, closedTasks_congr hclosures]
        exact hdone
      rw [checked_marked hloaded'.shown.steps (hloaded.planned hrepair), decide_eq_true hdone']
      intro o' ho'
      have hparked := (Option.filter_eq_some_iff.mp ho').1
      rw [hprogress] at hparked
      obtain rfl := Option.some.inj hparked
      show record.key ≠ _
      rw [hkey, hopenKey]
      exact hother o hshown

theorem transfer_forgets_repair_note : ∃ s' effect context',
    loadAuthoritativeTransitionState noteParked = .ok s' ∧
      (stepAt (StepEffect.context effect).steps (1, 1)).map PlanStepState.checked = some false ∧
      loadExecutionContextForMutation (fun _ => "0") notePlan.toApprovedPlan noteWorkspace s' =
        .ok context' ∧
      (stepAt context'.steps (1, 1)).map PlanStepState.checked = some true := by
  obtain ⟨moves, hrun⟩ := noteResumed_stepRun
  obtain ⟨_, _, _, hparked, _, _, hlengths⟩ := note_runs
  simp only [List.map_cons, List.cons.injEq] at hlengths
  obtain ⟨s, context, effect, e, hload, hcontext, hwork, heq, happend⟩ :=
    noteRun_appends hparked (show noteParked.length ≠ noteResumed.length by omega)
  obtain ⟨s', hload'⟩ := exists_of_isOk
    (List.all_eq_true.mp note_loads.1 noteParked (by simp))
  have hload'' : loadAuthoritativeTransitionState (noteResumed ++ [e]) = .ok s' := by
    rw [← heq]
    exact hload'
  obtain ⟨hopen, _, context', hcontext', hchecked, _⟩ := transfer_forgets_repair hrun
    ⟨rfl, projects_of_nil rfl _, hload, hcontext⟩ hwork happend hload''
    (show noteWorkspace.planChecks = .ok () from rfl) (projects_of_nil rfl _)
  exact ⟨s', effect, context', hload', hopen, hcontext', hchecked⟩

/-! ### `reopen` -/

/-- Projections are of attempts with the modes of those that there are. -/
theorem Workspace.Projects.congr {attempts attempts' : List EvidenceAttempt}
    (h : workspace.Projects attempts) (hsources : attempts'.map EvidenceAttempt.executionSource =
      attempts.map EvidenceAttempt.executionSource) : workspace.Projects attempts' := by
  obtain ⟨projected, hprojection, hall⟩ := h
  refine ⟨projected, hprojection, fun a ha => ?_⟩
  obtain ⟨b, hb, hsource⟩ := hall a ha
  have hmem : b.executionSource ∈ attempts'.map EvidenceAttempt.executionSource :=
    hsources ▸ List.mem_map_of_mem hb
  obtain ⟨b', hb', heq⟩ := List.mem_map.mp hmem
  exact ⟨b', hb', hsource.trans heq.symm⟩

/-- **What `reopen` does to the closure of the task is forgotten**: the state that it hands over has
none, and the next command finds the closures as they were, and the other steps of the task
checked. -/
theorem reopen_keeps_closure (h : StepRun plan log moves)
    (hloads : plan.Loads env moves log s context) {request : ReopenRequest} {effect : StepEffect}
    (hreopen : env.reopen request context (s.getD emptyState) = .ok (some effect))
    (happend : AppendsEvent .reopen log effect none e)
    (hload' : loadAuthoritativeTransitionState (log ++ [e]) = .ok s')
    (hchecks : workspace.planChecks = .ok ())
    (hprojects : workspace.Projects context.attempts) :
    rawCurrentTaskClosureResult effect.payload request.task = none ∧
      (∀ task, currentTaskClosureResult (s'.getD emptyState) task =
        currentTaskClosureResult (s.getD emptyState) task) ∧
      ∃ context', loadExecutionContextForMutation sha plan.toApprovedPlan workspace s' =
          .ok context' ∧
        (request.task ∈ closedTasks (s.getD emptyState) → ∀ step, step ≠ request.step →
          plan.Planned (request.task, step) →
          (stepAt context'.steps (request.task, step)).map PlanStepState.checked = some true) := by
  obtain ⟨mode, hloaded⟩ := h.tracks.loads hloads
  obtain ⟨chosen, target, record, hchosen, htarget, _, hreopens⟩ := reopen_ok hreopen
  have hafter := h.tracks.reopened hloads hreopen happend hreopens.opens
  have hprogress : progressOf (moves ++ [.reopened record env.workspace.now request.reason]) =
      (progressOf moves).after (.reopened record env.workspace.now request.reason) :=
    progressOf_concat _ _
  have hprojects' : workspace.Projects (progressOf
      (moves ++ [.reopened record env.workspace.now request.reason])).attempts := by
    rw [hloaded.shown.shown] at hprojects
    rw [hprogress]
    exact hprojects.congr (map_invalidate fun _ => rfl)
  obtain ⟨mode', context', hcontext, hloaded'⟩ := hafter.reloads hload' sha hchecks hprojects'
  have hopenValue := hreopens.opens
  obtain ⟨facts, rfl⟩ := event_reopen hopenValue happend
  have hslots : ∀ f ∈ taskRecordFields, f ∉ ExecutionEvent.slots .reopen := by decide
  have hclosures := loaded_closures hloads.state hload' (facts_eventFromCommand happend) hslots
  refine ⟨?_, currentTaskClosureResult_congr hclosures, context', hcontext, ?_⟩
  · rw [rawCurrentTaskClosureResult, hreopens.closure, Option.bind_none]
  · intro htask step hne hplanned
    have hdone : (workspace.marks (s'.getD emptyState) (progressOf
        (moves ++ [.reopened record env.workspace.now request.reason]))).Done
          (request.task, step) := by
      refine Or.inl ?_
      rw [Workspace.marks, closedTasks_congr hclosures]
      exact htask
    rw [checked_marked hloaded'.shown.steps hplanned, decide_eq_true hdone]
    intro o ho heq
    have hshown := (Option.filter_eq_some_iff.mp ho).1
    rw [hprogress] at hshown
    obtain rfl := Option.some.inj hshown
    -- only the step that is reopened is open
    exact hne (congrArg Prod.snd (heq.symm.trans hreopens.key))

theorem reopen_keeps_closure_note : ∃ s' context',
    loadAuthoritativeTransitionState noteReopened = .ok s' ∧
      loadExecutionContextForMutation (fun _ => "0") notePlan.toApprovedPlan noteWorkspace s' =
        .ok context' ∧
      (stepAt context'.steps (1, 2)).map PlanStepState.checked = some true := by
  obtain ⟨moves, hrun⟩ := noteClosed_stepRun
  obtain ⟨_, _, _, _, _, hreopened, hlengths⟩ := note_runs
  simp only [List.map_cons, List.cons.injEq] at hlengths
  obtain ⟨s, context, effect, e, hload, hcontext, hwork, heq, happend⟩ :=
    noteRun_appends hreopened (show noteReopened.length ≠ noteClosed.length by omega)
  obtain ⟨s', hload'⟩ := exists_of_isOk
    (List.all_eq_true.mp note_loads.1 noteReopened (by simp))
  have hload'' : loadAuthoritativeTransitionState (noteClosed ++ [e]) = .ok s' := by
    rw [← heq]
    exact hload'
  obtain ⟨reason, _, hreopen⟩ := bind_eq_ok.mp hwork
  obtain ⟨_, _, context', hcontext', hchecked⟩ := reopen_keeps_closure hrun
    ⟨rfl, projects_of_nil rfl _, hload, hcontext⟩ hreopen happend hload''
    (show noteWorkspace.planChecks = .ok () from rfl) (projects_of_nil rfl _)
  -- the task was closed before
  have hclosed : (1 : UInt32) ∈ closedTasks (s.getD emptyState) := by
    rw [closedTasks_congr fun f hf => loaded_eq hload (List.mem_append_left _ hf)]
    exact note_loads.2.2.2.2
  have hother : (2 : UInt32) ≠ noteReopen.step := by decide
  have hplanned : notePlan.Planned (1, 2) := by
    rw [StepPlan.Planned]
    decide
  exact ⟨s', context', hload', hcontext', hchecked hclosed 2 hother hplanned⟩

/-! ### `begin` -/

/-- A state has one open step. -/
theorem StateObject.Opened.eq_some {t : StateObject} {o : OpenStep} {openStep : Option OpenStep}
    (h : t.Opened (some o)) (h' : t.Opened openStep) :
    ∃ o', openStep = some o' ∧ o'.record = o.record := by
  have hvalue := (h.openStep o rfl).value
  cases openStep with
  | none =>
    rcases h'.noOpen rfl with hnone | hnull
    · rw [hnone] at hvalue
      cases hvalue
    · rw [hnull] at hvalue
      exact absurd (Option.some.inj hvalue).symm (OpenStepStateRecord.codec.toValue_ne_null _)
  | some o' =>
    have hvalue' := (h'.openStep o' rfl).value
    exact ⟨o', rfl,
      openStepStateRecord_codec_injective (Option.some.inj (hvalue'.symm.trans hvalue))⟩

/-- A `begin` of `log` with a context of an earlier log. -/
def StepEnvironment.beginFrom (env : StepEnvironment) (request : BeginRequest)
    (earlier log : List ExecutionEvent) : Except StepFailure (List ExecutionEvent) := do
  let s₀ ← loadAuthoritativeTransitionState earlier
  let context ← loadExecutionContextForMutation env.sha env.plan env.workspace s₀
  let s ← loadAuthoritativeTransitionState log
  match ← env.begin request context (s.getD emptyState) with
  | none => .ok log
  | some effect => appendEffect (.begin request) log effect

theorem beginFrom_ok {request : BeginRequest} {earlier log' : List ExecutionEvent}
    (h : env.beginFrom request earlier log = .ok log') :
    ∃ s₀ context s, loadAuthoritativeTransitionState earlier = .ok s₀ ∧
      loadExecutionContextForMutation env.sha env.plan env.workspace s₀ = .ok context ∧
      loadAuthoritativeTransitionState log = .ok s ∧
      (log' = log ∨ ∃ effect e, env.begin request context (s.getD emptyState) = .ok (some effect) ∧
        log' = log ++ [e] ∧ AppendsEvent .begin log effect none e) := by
  obtain ⟨s₀, hload₀, h⟩ := bind_eq_ok.mp h
  obtain ⟨context, hcontext, h⟩ := bind_eq_ok.mp h
  obtain ⟨s, hload, h⟩ := bind_eq_ok.mp h
  obtain ⟨effect, hbegin, h⟩ := bind_eq_ok.mp h
  refine ⟨s₀, context, s, hload₀, hcontext, hload, ?_⟩
  cases effect with
  | none => exact Or.inl (Except.ok.inj h).symm
  | some effect =>
    obtain ⟨e, rfl, happend⟩ := appendEffect_ok h
    exact Or.inr ⟨effect, e, hbegin, rfl, happend⟩

/-- **A begin that has been overtaken**: its context was loaded from an earlier log, and other
commands have gone on.  Moves still account for the log just when its step has not been completed
in between and the mode is the one that the plan goes on in. -/
theorem overtaken_begin {earlier : List ExecutionEvent} {moves₀ : List StepMove}
    {s₀ : Option StateObject} (h₀ : StepRun plan earlier moves₀)
    (hloads : plan.Loads env moves₀ earlier s₀ context) (h : StepRun plan log moves)
    (hload : loadAuthoritativeTransitionState log = .ok s)
    (hactive : context.steps.find? (noted .active) = none) {request : BeginRequest}
    {effect : StepEffect}
    (hbegin : env.begin request context (s.getD emptyState) = .ok (some effect))
    (happend : AppendsEvent .begin log effect none e) :
    (∃ moves', plan.Tracks (log ++ [e]) moves') ↔
      (request.task, request.step) ∉ (progressOf moves).completed ∧
        ∀ attempt ∈ (progressOf moves).attempts,
          attempt.executionSource = effect.context.executionMode := by
  obtain ⟨record, hbegins⟩ := h₀.tracks.begins hloads hactive hbegin
  have hcarries := facts_eventFromCommand happend
  constructor
  · rintro ⟨moves', h'⟩
    -- the log has the step open, and the ledger and the attempts as they were
    have hnew : effect.payload.Opened (some ⟨record, .active⟩) :=
      ⟨fun hnone => (by cases hnone), by rintro _ ⟨⟩; exact hbegins.payload⟩
    have hopened :=
      opened_applied (clean_logState log) hcarries (event_begin happend).slot hnew
    rw [← logState_concat] at hopened
    obtain ⟨o, hopen, hrecord⟩ := hopened.eq_some h'.keeps.toOpened
    replace hrecord : o.record = record := hrecord
    obtain ⟨hledger, hattempts⟩ :=
      progress_kept hload (event_begin happend) hcarries hbegins.attempts
    have hcompleted := h'.keeps.ledger.unique (hledger.symm ▸ h.tracks.keeps.ledger)
    have hsame := h'.keeps.attempts_eq h.tracks.keeps hattempts
    have hsound := h'.history.sound
    obtain ⟨mode, hmode, hopens⟩ := hsound.mode
    have hmode_eq : mode = effect.context.executionMode := by
      have hstep := (hopens o hopen).mode
      rw [hrecord, hbegins.opens.mode] at hstep
      exact (Option.some.inj hstep).symm
    refine ⟨?_, fun attempt hattempt => ?_⟩
    · rw [← hbegins.key, ← hrecord, ← hcompleted]
      exact hsound.openStep o hopen
    · rw [← hmode_eq]
      exact hmode.attempts attempt (hsame ▸ hattempt)
  · rintro ⟨hnew, hmodes⟩
    exact ⟨_, h.tracks.begun_of_new hload hbegins happend
      ⟨hbegins.inMode.known, hbegins.inMode.header, hmodes⟩ (hbegins.key.symm ▸ hnew)⟩

/-- The first step, begun as if it had not been completed. -/
def noteOvertaken : List ExecutionEvent :=
  ((noteEnvironment.beginFrom (noteBegin 1) [] noteCompleted).toOption).getD []

theorem noteOvertaken_run :
    (noteEnvironment.beginFrom (noteBegin 1) [] noteCompleted).isOk = true ∧
      noteOvertaken.length ≠ noteCompleted.length := by
  decide +kernel

theorem noteOvertaken_eq :
    noteEnvironment.beginFrom (noteBegin 1) [] noteCompleted = .ok noteOvertaken :=
  eq_getD_of_isOk noteOvertaken_run.1

theorem overtaken_begin_note : ¬ ∃ moves', notePlan.Tracks noteOvertaken moves' := by
  obtain ⟨s₀, context, s, hload₀, hcontext, hload, heq | ⟨effect, e, hbegin, heq, happend⟩⟩ :=
    beginFrom_ok noteOvertaken_eq
  · exact absurd (congrArg List.length heq) noteOvertaken_run.2
  rw [heq]
  obtain ⟨moves, attempt, hkey, hrun⟩ := noteCompleted_stepRun
  have hloads : notePlan.Loads noteEnvironment [] [] s₀ context :=
    ⟨rfl, projects_of_nil rfl _, hload₀, hcontext⟩
  -- nothing is worked on in the beginning
  have hactive : context.steps.find? (noted .active) = none := by
    obtain ⟨mode, hloaded⟩ := notePlan.tracks_start.loads hloads
    rw [List.find?_eq_none]
    intro step hstep hnoted
    obtain ⟨_, hopen, _⟩ := hloaded.of_noted hstep (of_decide_eq_true hnoted)
    cases hopen
  intro htracks
  have hnew := ((overtaken_begin .start hloads hrun hload hactive hbegin happend).mp htracks).1
  rw [progressOf_concat] at hnew
  refine hnew ?_
  show ((1, 1) : StepKey) ∈ insert attempt.key (progressOf moves).completed
  rw [hkey]
  exact Finset.mem_insert_self _ _

end

end FeatureForge
