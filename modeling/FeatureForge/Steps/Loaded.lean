import FeatureForge.Steps.Overlay

/-!
# Loading a context

From a state that keeps a progress a context is loaded that shows it (`load_shows`): the checks of
the overlays, which stop a command on a state that is malformed, all pass.  The projection files of
the evidence may be older than the state, or gone.
-/

namespace FeatureForge

/-! ### The state -/

/-- The open step of a state. -/
structure StateObject.Opened (s : StateObject) (openStep : Option OpenStep) : Prop where
  noOpen : openStep = none → NoOpenStep s
  openStep : ∀ o, openStep = some o → HasOpenStep s o.record o.noteState

/-- A state that keeps a progress. -/
structure StateObject.Keeps (s : StateObject) (p : Progress) : Prop
    extends s.Opened p.openStep where
  ledger : LedgerOf p.completed (completedSteps s)
  attempts : s .executionEvidenceAttempts = some (attemptsCodec.toValue p.attempts) ∨
    s .executionEvidenceAttempts = none ∧ p.attempts = []

/-- No task that has steps is closed before there is an attempt. -/
def StepPlan.ClosesAttempted (plan : StepPlan) (s : StateObject) : Prop :=
  s .executionEvidenceAttempts = none → ∀ step ∈ plan.parsed, step.taskNumber ∉ closedTasks s

/-- The fields that progress is kept in. -/
def progressFields : List Field :=
  [.eventCompletedSteps, .currentOpenStepState, .executionEvidenceAttempts]

theorem StateObject.Opened.congr {s s' : StateObject} {openStep : Option OpenStep}
    (h : s.Opened openStep) (heq : s' .currentOpenStepState = s .currentOpenStepState) :
    s'.Opened openStep where
  noOpen hnone := by
    rw [NoOpenStep, heq]
    exact h.noOpen hnone
  openStep o ho := ⟨heq.trans (h.openStep o ho).value, (h.openStep o ho).normal⟩

namespace StateObject.Keeps

variable {s s' : StateObject} {p : Progress}

theorem congr (h : s.Keeps p) (heq : ∀ f ∈ progressFields, s' f = s f) : s'.Keeps p := by
  have hledger := heq .eventCompletedSteps (by decide)
  have hattempts := heq .executionEvidenceAttempts (by decide)
  refine ⟨h.toOpened.congr (heq .currentOpenStepState (by decide)), ?_, ?_⟩
  · rw [completedSteps, hledger]
    exact h.ledger
  · rw [hattempts]
    exact h.attempts

end StateObject.Keeps

theorem keeps_emptyState : emptyState.Keeps .start where
  ledger := ledgerOf_empty
  noOpen _ := Or.inl rfl
  openStep _ h := by cases h
  attempts := Or.inr ⟨rfl, rfl⟩

theorem closesAttempted_emptyState (plan : StepPlan) : plan.ClosesAttempted emptyState :=
  fun _ _ _ h => absurd h List.not_mem_nil

/-- The projection files show attempts in modes of those that there are, or none. -/
def Workspace.Projects (workspace : Workspace) (attempts : List EvidenceAttempt) : Prop :=
  ∃ projected, workspace.evidenceProjection = .ok projected ∧
    ∀ a ∈ projected, ∃ b ∈ attempts, a.executionSource = b.executionSource

/-- What a load marks. -/
def Workspace.marks (workspace : Workspace) (s : StateObject) (p : Progress) : Marks where
  closed := closedTasks s
  completed := p.completed
  shown := p.openStep.filter fun o => matchesWorkspace workspace o.record

/-- A context that shows marks and attempts; the mode is not there before there are any. -/
structure StepPlan.Shows (plan : StepPlan) (mode : List Char) (m : Marks)
    (attempts : List EvidenceAttempt) (context : ExecutionContext) : Prop where
  planRel : context.planRel = plan.planRel
  planRevision : context.planRevision = plan.document.planRevision
  shown : context.attempts = attempts
  steps : MarkedSteps m plan.parsed context.steps
  mode : context.executionMode = mode ∨ context.executionMode = noExecutionMode ∧
    plan.document.executionMode = noExecutionMode ∧ attempts = [] ∧ m.shown = none

/-! ### The mode -/

theorem noExecutionMode_not_mem : noExecutionMode ∉ executionModes := by decide

theorem infer_known {mode : List Char} {attempts : List EvidenceAttempt}
    (hknown : mode ∈ executionModes) (hall : ∀ a ∈ attempts, a.executionSource = mode)
    (hne : attempts ≠ []) :
    inferExecutionModeFromEvidence noExecutionMode attempts = mode := by
  obtain ⟨a, rest, hrev⟩ := List.exists_cons_of_ne_nil (List.reverse_ne_nil_iff.mpr hne)
  have hsource : a.executionSource = mode :=
    hall a (List.mem_reverse.mp (hrev ▸ List.mem_cons_self))
  rw [inferExecutionModeFromEvidence, if_neg (fun h => h rfl), hrev, List.map_cons, hsource,
    List.find?_cons_of_pos (by simpa using hknown), Option.getD_some]

theorem infer_fixed {mode : List Char} (attempts : List EvidenceAttempt)
    (h : mode ≠ noExecutionMode) : inferExecutionModeFromEvidence mode attempts = mode :=
  if_pos h

/-- The mode of a plan with the attempts of one mode. -/
theorem StepPlan.infer (plan : StepPlan) {mode : List Char} {attempts projected : List EvidenceAttempt}
    (h : plan.InMode mode attempts)
    (hprojected : ∀ a ∈ projected, ∃ b ∈ attempts, a.executionSource = b.executionSource) :
    inferExecutionModeFromEvidence plan.document.executionMode projected = mode ∨
      inferExecutionModeFromEvidence plan.document.executionMode projected = noExecutionMode ∧
        plan.document.executionMode = noExecutionMode ∧ projected = [] := by
  have hall : ∀ a ∈ projected, a.executionSource = mode := by
    intro a ha
    obtain ⟨b, hb, heq⟩ := hprojected a ha
    exact heq.trans (h.attempts b hb)
  rcases h.header with hnone | hmode
  · by_cases hne : projected = []
    · refine Or.inr ⟨?_, hnone, hne⟩
      rw [hne, hnone]
      rfl
    · rw [hnone]
      exact Or.inl (infer_known h.known hall hne)
  · rw [hmode]
    exact Or.inl (infer_fixed _ fun heq => noExecutionMode_not_mem (heq ▸ h.known))

/-! ### The overlays -/

section

variable {sha : Sha256Hex} {plan : StepPlan} {workspace : Workspace} {s : StateObject}
  {p : Progress} {context : ExecutionContext}

theorem completed_of_no_attempts (h : plan.Sound p) (hnil : p.attempts = []) :
    p.completed = ∅ := by
  rw [Finset.eq_empty_iff_forall_notMem]
  intro key hkey
  obtain ⟨earlier, last, heq, _⟩ := (h.tally key).completed hkey
  rw [hnil] at heq
  simp [attemptsAt] at heq

theorem ledger_of_empty {ledger : Object} (h : LedgerOf ∅ ledger) : ledger = .empty := by
  rw [OrderedMap.eq_empty_iff_get?]
  intro k
  cases hget : ledger.get? k with
  | none => rfl
  | some v =>
    obtain ⟨key, hkey, _⟩ := (h k v).mp hget
    exact absurd hkey (Finset.notMem_empty key)

theorem foldl_of_fixed {α β : Type} {f : α → β → α} {a : α} {bs : List β}
    (h : ∀ b ∈ bs, f a b = a) : bs.foldl f a = a := by
  induction bs with
  | nil => rfl
  | cons b bs ih =>
    rw [List.foldl_cons, h b List.mem_cons_self]
    exact ih fun b' hb' => h b' (List.mem_cons_of_mem _ hb')

/-- Without an attempt there is nothing that one is made up for. -/
theorem evidence_of_no_attempts (hledger : completedSteps s = .empty)
    (hclosed : ∀ step ∈ context.steps, step.taskNumber ∉ closedTasks s) :
    authoritativeCompletedStepsForEvidence s context.steps = .ok .empty := by
  have hparse : parseAuthoritativeCompletedSteps (objectEntries (s .eventCompletedSteps)) =
      .ok [] := by
    rw [show objectEntries (s .eventCompletedSteps) = .empty from hledger]
    rfl
  rw [authoritativeCompletedStepsForEvidence, hparse]
  refine congrArg Except.ok (foldl_of_fixed fun record hrecord => ?_)
  cases htask : taskNumberFromTaskClosureRecord record.1 record.2 with
  | none => rfl
  | some task =>
    have hmem : task ∈ closedTasks s := List.mem_filterMap.mpr ⟨record, hrecord, htask⟩
    have hsteps : context.steps.filter (fun step => step.taskNumber = task) = [] := by
      rw [List.filter_eq_nil_iff]
      intro step hstep heq
      exact hclosed step hstep (of_decide_eq_true heq ▸ hmem)
    simp only [hsteps]
    rfl

/-- **The attempts of the state are taken.** -/
theorem overlay_attempts (hkeeps : s.Keeps p) (hsound : plan.Sound p)
    (hclosed : plan.ClosesAttempted s) (hsteps : context.steps = unmarkedSteps plan.parsed)
    (hprojected : p.attempts = [] → context.attempts = []) :
    overlayExecutionEvidenceAttempts sha plan.toApprovedPlan workspace s context =
      .ok { context with attempts := p.attempts } := by
  rw [overlayExecutionEvidenceAttempts]
  rcases hkeeps.attempts with hvalue | ⟨hnone, hnil⟩
  · have hnull : (attemptsCodec.toValue p.attempts).isNull = false :=
      Bool.eq_false_iff.mpr fun h => attemptsCodec.toValue_ne_null _ (Json.isNull_iff.mp h)
    simp only [hvalue, Option.filter_some, hnull, Bool.not_false, if_true,
      ValueCodec.fromValue_toValue]
  · have hledger : completedSteps s = .empty :=
      ledger_of_empty (completed_of_no_attempts hsound hnil ▸ hkeeps.ledger)
    have hopen : ∀ step ∈ context.steps, step.taskNumber ∉ closedTasks s := by
      rw [hsteps]
      intro step hstep
      obtain ⟨parsed, hparsed, rfl⟩ := List.mem_map.mp hstep
      exact hclosed hnone parsed hparsed
    simp only [hnone, Option.filter_none, hprojected hnil, if_true]
    rw [synthesizeLegacyAuthoritativeEvidenceAttempts, evidence_of_no_attempts hledger hopen]
    show Except.ok context = _
    rw [hnil, ← hprojected hnil]

theorem overlayLedger_eq (s : StateObject) (steps : List PlanStepState) :
    overlayLedger s steps = overlayEventCompletedSteps (completedSteps s) steps := by
  rw [overlayLedger, completedSteps, objectEntries]
  cases (s .eventCompletedSteps).bind Json.asObject with
  | none => rfl
  | some ledger => rfl

/-- **Closures and the ledger are laid over the steps of the plan.** -/
theorem overlay_ticked (hkeeps : s.Keeps p) (hsound : plan.Sound p) {m : Marks}
    (hclosed : m.closed = closedTasks s) (hcompleted : m.completed = p.completed) :
    ∃ steps, overlayLedger s (overlayTaskClosureCompletedSteps s (unmarkedSteps plan.parsed)) =
      .ok steps ∧ TickedSteps m plan.parsed steps := by
  obtain ⟨keys, hparse, hkeys⟩ := hkeeps.ledger.parse
  obtain ⟨steps, hfold, hticked⟩ := ticked_overlay hclosed
    (fun key => (hkeys key).trans (by rw [hcompleted])) fun key hkey =>
      hsound.completed key ((hkeys key).mp hkey)
  refine ⟨steps, ?_, hticked⟩
  rw [overlayLedger_eq, overlayEventCompletedSteps, hparse]
  exact hfold

/-- An open step of the plan is put on its steps. -/
theorem apply_open {o : OpenStep} {mode : List Char} (hopens : plan.Opens mode o)
    {steps : List PlanStepState} (hplanned : (stepAt steps o.record.key).isSome) :
    applyAuthoritativeOpenStepRecordToSteps o.record plan.planRel plan.document.planRevision
      steps = .ok (setStep o.record.key
        (fun step => (step.check false).note o.noteState o.record.noteSummary)
        (steps.map PlanStepState.clearNote)) := by
  have hfind : [NoteState.active, .blocked, .interrupted].find? (fun state =>
      o.record.noteState = state.asStr) = some o.noteState := by
    rw [hopens.normal.noteState]
    cases o.noteState <;> decide
  have hsome : ¬ (stepAt steps o.record.key).isNone = true := by
    rw [Option.isNone_iff_eq_none]
    intro hnone
    rw [hnone] at hplanned
    cases hplanned
  have hsummary := normalizeWhitespace_of_spaced hopens.normal.noteSummary
  have hlength : ¬ 120 < o.record.noteSummary.length := by
    have := hopens.normal.length
    omega
  have hpath : ¬ normalizeWhitespace o.record.sourcePlanPath ≠ plan.planRel := by
    rw [hopens.planRel, plan.path]
    exact fun h => h rfl
  rw [applyAuthoritativeOpenStepRecordToSteps, if_neg hpath,
    if_neg (fun h => h hopens.planRevision), hfind]
  simp only [if_neg hsome, hsummary, if_neg (ne_nil_of_spaced hopens.normal.noteSummary),
    if_neg hlength]

/-- **The state is laid over a context.** -/
theorem overlay_shows (hkeeps : s.Keeps p) (hsound : plan.Sound p)
    (hplanRel : context.planRel = plan.planRel)
    (hplanRevision : context.planRevision = plan.document.planRevision)
    (hsteps : context.steps = unmarkedSteps plan.parsed) (hattempts : context.attempts = p.attempts)
    {mode : List Char} (hmode : plan.InMode mode p.attempts)
    (hopens : ∀ o, p.openStep = some o → plan.Opens mode o)
    (hinferred : context.executionMode = mode ∨ context.executionMode = noExecutionMode ∧
      plan.document.executionMode = noExecutionMode ∧ p.attempts = []) :
    ∃ shown, overlayStepStateFromAuthority workspace s context = .ok shown ∧
      plan.Shows mode (workspace.marks s p) p.attempts shown := by
  obtain ⟨steps, hledger, hticked⟩ := overlay_ticked (m := workspace.marks s p) hkeeps hsound
    rfl rfl
  rw [overlayStepStateFromAuthority, hsteps, hledger]
  show ∃ shown, overlayAuthoritativeOpenStepState workspace s { context with steps := steps } =
    .ok shown ∧ _
  rw [overlayAuthoritativeOpenStepState]
  -- no open step, one of another workspace, or one that is shown
  cases hopen : p.openStep with
  | none =>
    have hshown : (workspace.marks s p).shown = none := by
      rw [Workspace.marks, hopen]
      rfl
    rw [(hkeeps.noOpen hopen).checked]
    refine ⟨_, rfl, ?_⟩
    exact ⟨hplanRel, hplanRevision, hattempts, hticked.marked hshown,
      hinferred.imp_right fun h => ⟨h.1, h.2.1, h.2.2, hshown⟩⟩
  | some o =>
    rw [(hkeeps.openStep o hopen).checked]
    by_cases hmatches : matchesWorkspace workspace o.record = true
    · have hshown : (workspace.marks s p).shown = some o := by
        rw [Workspace.marks, hopen, Option.filter_some, if_pos hmatches]
      have hadopt : adoptExecutionMode o.record { context with steps := steps } = .ok mode := by
        rw [adoptExecutionMode]
        rcases hinferred with heq | ⟨heq, _⟩
        · have hne : context.executionMode ≠ noExecutionMode := fun h =>
            noExecutionMode_not_mem (h ▸ heq ▸ hmode.known)
          rw [if_pos hne, heq]
        · rw [if_neg (fun h => h heq), (hopens o hopen).mode]
          exact if_pos hmode.known
      have hplanned : (stepAt steps o.record.key).isSome := by
        rw [hticked.stepAt, Option.isSome_map]
        exact (hopens o hopen).planned
      have happly := apply_open (hopens o hopen) hplanned
      simp only [bind, Except.bind, if_pos hmatches, hadopt]
      simp only [hplanRel, hplanRevision, happly]
      refine ⟨_, rfl, ?_⟩
      exact ⟨rfl, rfl, hattempts, hticked.open hshown, Or.inl rfl⟩
    · have hshown : (workspace.marks s p).shown = none := by
        rw [Workspace.marks, hopen, Option.filter_some, if_neg hmatches]
      simp only [bind, Except.bind, if_neg hmatches]
      refine ⟨_, rfl, ?_⟩
      exact ⟨hplanRel, hplanRevision, hattempts, hticked.marked hshown,
        hinferred.imp_right fun h => ⟨h.1, h.2.1, h.2.2, hshown⟩⟩

/-! ### Loading -/

theorem closedTasks_emptyState : closedTasks emptyState = [] := rfl

/-- No state is laid over a context like the empty one. -/
theorem overlayAuthority_eq (s : Option StateObject) (hattempts : s = none → context.attempts = []) :
    overlayAuthority sha plan.toApprovedPlan workspace s context =
      overlayAuthority sha plan.toApprovedPlan workspace (some (s.getD emptyState)) context := by
  cases s with
  | some s => rfl
  | none =>
    have hnil := hattempts rfl
    have hoverlay : overlayExecutionEvidenceAttempts sha plan.toApprovedPlan workspace emptyState
        context = .ok context := if_pos hnil
    have hmode : inferExecutionModeFromEvidence context.executionMode context.attempts =
        context.executionMode := by
      rw [inferExecutionModeFromEvidence, hnil]
      split_ifs
      · rfl
      · rfl
    have hclosed : overlayTaskClosureCompletedSteps emptyState context.steps = context.steps := by
      refine (List.map_congr_left fun step _ => ?_).trans (List.map_id _)
      rw [closedTasks_emptyState, if_neg List.not_mem_nil]
      rfl
    show Except.ok context = _
    rw [Option.getD_none, overlayAuthority]
    simp only [hoverlay, bind, Except.bind, hmode]
    rw [overlayStepStateFromAuthority]
    simp only [hclosed]
    rfl

theorem checkAttempt_of_mode {attempt : EvidenceAttempt}
    (hplanned : (stepAt context.steps attempt.key).isSome)
    (hmode : context.executionMode = attempt.executionSource)
    (hknown : attempt.executionSource ∈ executionModes) : checkAttempt context attempt = .ok () := by
  have hsome : ¬ (stepAt context.steps attempt.key).isNone = true := by
    rw [Option.isNone_iff_eq_none]
    intro hnone
    rw [hnone] at hplanned
    cases hplanned
  have hsource : normalizeSource attempt.executionSource context.executionMode = .ok () := by
    rw [normalizeSource, if_neg (fun h => h hknown), if_neg (fun h => h hmode.symm)]
  rw [checkAttempt, if_neg hsome, hsource]
  rfl

/-- **A context that shows sound progress passes the last checks.** -/
theorem checkContext_ok {mode : List Char} (hsound : plan.Sound p)
    (hmode : plan.InMode mode p.attempts) {m : Marks} (h : plan.Shows mode m p.attempts context) :
    checkContext plan.parsed context = .ok () := by
  have hclean : ¬ (context.executionMode = noExecutionMode ∧
      (plan.parsed.any fun step => step.checked || step.noteState.isSome) = true) := by
    rintro ⟨hnone, hany⟩
    rcases h.mode with heq | ⟨_, hheader, _⟩
    · exact noExecutionMode_not_mem (hnone ▸ heq ▸ hmode.known)
    · rw [plan.clean hheader] at hany
      cases hany
  rw [checkContext, if_neg hclean, h.shown, forM_eq_ok]
  intro attempt hattempt
  have hsource := hmode.attempts attempt hattempt
  refine checkAttempt_of_mode ?_ ?_ (hsource ▸ hmode.known)
  · rw [h.steps.stepAt, Option.isSome_map]
    exact hsound.attempts attempt hattempt
  · rw [hsource]
    refine h.mode.resolve_right fun hnil => ?_
    rw [hnil.2.2.1] at hattempt
    exact absurd hattempt List.not_mem_nil

/-- **From a state that keeps sound progress a context is loaded that shows it.** -/
theorem load_shows {s : Option StateObject} (hkeeps : (s.getD emptyState).Keeps p)
    (hsound : plan.Sound p) (hclosed : plan.ClosesAttempted (s.getD emptyState))
    (hchecks : workspace.planChecks = .ok ()) (hprojects : workspace.Projects p.attempts)
    {mode : List Char} (hmode : plan.InMode mode p.attempts)
    (hopens : ∀ o, p.openStep = some o → plan.Opens mode o) :
    ∃ context, loadExecutionContextForMutation sha plan.toApprovedPlan workspace s = .ok context ∧
      plan.Shows mode (workspace.marks (s.getD emptyState) p) p.attempts context := by
  obtain ⟨projected, hprojection, hsources⟩ := hprojects
  have hnil : p.attempts = [] → projected = [] := by
    intro hnil
    rw [hnil] at hsources
    rw [List.eq_nil_iff_forall_not_mem]
    intro a ha
    obtain ⟨b, hb, _⟩ := hsources a ha
    exact absurd hb List.not_mem_nil
  have hinfer := plan.infer hmode hsources
  have hstart : ¬ ((planContext plan.toApprovedPlan plan.parsed projected).executionMode =
      noExecutionMode ∧ projected ≠ []) := by
    rintro ⟨hnone, hne⟩
    rcases hinfer with heq | ⟨_, _, heq⟩
    · have hmode_eq : mode = noExecutionMode := heq.symm.trans hnone
      exact noExecutionMode_not_mem (hmode_eq ▸ hmode.known)
    · exact hne heq
  have hempty : s = none → projected = [] := by
    rintro rfl
    rcases hkeeps.attempts with hvalue | ⟨_, heq⟩
    · cases hvalue
    · exact hnil heq
  have hattempts := @overlay_attempts sha plan workspace (s.getD emptyState) p
    (planContext plan.toApprovedPlan plan.parsed projected) hkeeps hsound hclosed rfl hnil
  -- the mode that the attempts of the state show
  have hinferred : inferExecutionModeFromEvidence (inferExecutionModeFromEvidence
      plan.document.executionMode projected) p.attempts = mode ∨
      inferExecutionModeFromEvidence (inferExecutionModeFromEvidence
        plan.document.executionMode projected) p.attempts = noExecutionMode ∧
      plan.document.executionMode = noExecutionMode ∧ p.attempts = [] := by
    rcases hinfer with heq | ⟨heq, hheader, _⟩
    · rw [heq]
      exact Or.inl (infer_fixed _ fun h => noExecutionMode_not_mem (h ▸ hmode.known))
    · rw [heq]
      by_cases hne : p.attempts = []
      · refine Or.inr ⟨?_, hheader, hne⟩
        rw [hne]
        rfl
      · exact Or.inl (infer_known hmode.known hmode.attempts hne)
  obtain ⟨context, hoverlay, hshows⟩ := @overlay_shows plan workspace (s.getD emptyState) p
    { planContext plan.toApprovedPlan plan.parsed projected with
      attempts := p.attempts
      executionMode := inferExecutionModeFromEvidence (inferExecutionModeFromEvidence
        plan.document.executionMode projected) p.attempts }
    hkeeps hsound rfl rfl rfl rfl mode hmode hopens hinferred
  refine ⟨context, ?_, hshows⟩
  have hparse : liftState (parseStepState plan.document.source plan.document) = .ok plan.parsed :=
    liftState_eq_ok.mpr plan.parses
  have hauthority : overlayAuthority sha plan.toApprovedPlan workspace s
      (planContext plan.toApprovedPlan plan.parsed projected) = .ok context := by
    rw [overlayAuthority_eq s hempty, overlayAuthority, hattempts]
    exact hoverlay
  rw [loadExecutionContextForMutation, hchecks, hparse, hprojection]
  show (if _ then _ else _) = _
  rw [if_neg hstart, loadContext, hauthority]
  show (checkContext plan.parsed context >>= fun _ => Except.ok context) = _
  rw [checkContext_ok hsound hmode hshows]
  rfl

end

end FeatureForge
