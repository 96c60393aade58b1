import FeatureForge.Closures.StateGraph

/-!
# Two readers of closures

The graph of a state and the state itself name the same closures for as long as no recording is
of task 0, and none is under an id that the state lists as superseded
(`closure_readers_agree`).  The graph goes by the lists of superseded ids, which only grow, and
a task that is closed again without a new attempt is closed under the id that it had.
-/

namespace FeatureForge

open AuthoritativeClosureGraph

/-- Both readers name the same closure of every task. -/
def TaskReadersAgree (s : StateObject) (signals : ClosureGraphSignals) : Prop :=
  ∀ task, ((fromState s signals).currentTaskClosure task).map
      (fun evaluation => evaluation.identity.recordId) =
    (currentTaskClosureResult s task).map CurrentTaskClosureRecord.closureRecordId

/-- The branch closure that the state reports as current is that of the graph. -/
def BranchReadersAgree (s : StateObject) (signals : ClosureGraphSignals) : Prop :=
  ∀ identity, boundCurrentBranchClosureIdentity s = some identity →
    (fromState s signals).currentBranchClosure.map
      (fun evaluation => evaluation.identity.recordId) = some identity.branchClosureId

/-- The readers agree whatever the signals are, if they project nothing as stale. -/
def ReadersAgree (s : StateObject) : Prop :=
  ∀ signals, projectsStale signals = false →
    TaskReadersAgree s signals ∧ BranchReadersAgree s signals

/-- A closure is recorded of a task other than 0, under an id that the state does not list. -/
def ClosureOp.Fresh (sha : Sha256Hex) (planRel : String) (s : StateObject) : ClosureOp → Prop
  | .closeCurrentTask currentLineage r => r.task ≠ 0 ∧
      currentTaskClosureRecordId sha planRel r.task currentLineage ∉ supersededTaskClosureIds s
  | _ => True

variable {sha : Sha256Hex} {run : ExecutionRun} {s s' : StateObject} {signals : ClosureGraphSignals}

/-! ### What the readers agree on -/

/-- No current closure is of task 0, and none is listed as superseded. -/
def Unlisted (run : ExecutionRun) (s : StateObject) : Prop :=
  ∀ task id, IsCurrentClosure run s task id → task ≠ 0 ∧ id ∉ supersededTaskClosureIds s

theorem not_projectsStale (h : projectsStale signals = false) (id : String) :
    ¬ ProjectsStale signals id := by
  rintro ⟨hstale, _⟩
  rw [h] at hstale
  cases hstale

theorem IsCurrentClosure.listed_iff (hs : ClosureState run s) {task : UInt32} {id : String}
    (h : IsCurrentClosure run s task id) : Listed s id ↔ id ∈ supersededTaskClosureIds s := by
  refine or_iff_right fun hlisted => ?_
  obtain ⟨r, hr, _, rfl⟩ := h
  exact kinds_clash hr.issued.kind (hs.branch_id (hs.branch.records.superseded _ hlisted).1)

theorem ClosureState.currentTaskClosure_iff (hs : ClosureState run s)
    (hsignals : projectsStale signals = false) {task : UInt32} {id : String} :
    ((fromState s signals).currentTaskClosure task).map
        (fun evaluation => evaluation.identity.recordId) = some id ↔
      IsCurrentClosure run s task id ∧ task ≠ 0 ∧ id ∉ supersededTaskClosureIds s := by
  have hunique : ∀ task id id', (evaluatedState s signals).CurrentTask task id →
      (evaluatedState s signals).CurrentTask task id' → id = id' := fun task id id' hid hid' =>
    hs.task.closures.unique (hs.currentTask_iff.mp hid).1 (hs.currentTask_iff.mp hid').1
  refine (AuthoritativeClosureGraph.currentTaskClosure_iff hunique).trans
    (hs.currentTask_iff.trans (and_congr_right fun hcurrent => and_congr_right fun _ => ?_))
  rw [hcurrent.listed_iff hs]
  exact and_iff_left (not_projectsStale hsignals id)

/-- **The readers of task closures agree** where all current ones are unlisted. -/
theorem ClosureState.taskReadersAgree_iff (hs : ClosureState run s)
    (hsignals : projectsStale signals = false) :
    TaskReadersAgree s signals ↔ Unlisted run s := by
  constructor
  · intro h task id hcurrent
    have hgraph := (h task).trans (hs.task.currentTaskClosureResult_iff.mpr hcurrent)
    exact ((hs.currentTaskClosure_iff hsignals).mp hgraph).2
  · intro h task
    refine Option.ext fun id => ?_
    rw [hs.currentTaskClosure_iff hsignals, hs.task.currentTaskClosureResult_iff]
    exact and_iff_left_of_imp (h task id)

/-- **The readers of branch closures agree.** -/
theorem ClosureState.branchReadersAgree (hs : ClosureState run s)
    (hsignals : projectsStale signals = false) : BranchReadersAgree s signals := by
  intro identity hidentity
  obtain ⟨id, hbound, hread⟩ := Option.bind_eq_some_iff.mp hidentity
  obtain ⟨_, _, rfl⟩ := Option.map_eq_some_iff.mp hread
  obtain ⟨evaluation, hget, hkind, hcurrent, hlisted⟩ := hs.bound_evaluation signals hbound
  have hfresh : (passed s signals id evaluation).freshness = .current :=
    passed_current_iff.mpr ⟨hcurrent, hlisted, not_projectsStale hsignals _⟩
  have hnamed : nonBlank (jsonString (s .currentBranchClosureId)) = some id := by
    rw [hbound, nonBlank_of_trimmed (trimmed_of_nonBlank hbound)]
  have hgraph : (fromState s signals).currentBranchRecordId = some id := by
    show (evaluatedState s signals).boundCurrentRecordId (jsonString (s .currentBranchClosureId))
      .branchClosure = _
    rw [boundCurrentRecordId, hnamed, Option.bind_some, hget, Option.bind_some, if_neg]
    rw [identity_passed, not_or, not_not, not_not]
    exact ⟨hkind, hfresh⟩
  rw [currentBranchClosure, hgraph, Option.bind_some]
  show ((evaluatedState s signals).evaluations.get? _).map _ = _
  rw [hget, Option.map_some, ownIds_evaluated _ _ _ _ hget]

/-- Signals that project nothing. -/
def quietSignals : ClosureGraphSignals := ⟨none, none, none, none, none, none, false, false, []⟩

theorem ClosureState.readersAgree_iff (hs : ClosureState run s) :
    ReadersAgree s ↔ Unlisted run s := by
  constructor
  · exact fun h => (hs.taskReadersAgree_iff rfl).mp (h quietSignals rfl).1
  · exact fun h signals hsignals =>
      ⟨(hs.taskReadersAgree_iff hsignals).mpr h, hs.branchReadersAgree hsignals⟩

/-! ### What a step keeps -/

theorem Unlisted.takeBack (hu : Unlisted run s) {gone : UInt32 → Prop}
    (h : TakenBack run gone s s') : Unlisted run s' := by
  intro task id hcurrent
  rw [supersededTaskClosureIds, h.same _ (by decide) (by decide)]
  exact hu task id ((h.current task id).mp hcurrent).1

theorem Unlisted.congr (hu : Unlisted run s)
    (hhistory : s' .taskClosureRecordHistory = s .taskClosureRecordHistory)
    (hids : s' .supersededTaskClosureIds = s .supersededTaskClosureIds) : Unlisted run s' := by
  unfold Unlisted IsCurrentClosure supersededTaskClosureIds
  rw [hhistory, hids]
  exact hu

/-- **A step keeps the current closures unlisted** exactly if what it records is fresh. -/
theorem Unlisted.apply_iff (hsha : ∀ t, Unspaced (sha t)) {op : ClosureOp}
    (hs : ClosureState run s) (hu : Unlisted run s) (hi : op.Issued sha run s)
    (ha : op.apply sha run.plan s = some s') :
    Unlisted run s' ↔ op.Fresh sha run.plan.planRel s := by
  cases op with
  | closeCurrentTask currentLineage r =>
    obtain ⟨hworded, hrun, hallocated⟩ := hi
    obtain ⟨_, _, hcurrent, hsuperseded⟩ := closeCurrentTask_ok hs.task
      (hworded.issued hsha _ _) hrun hallocated (ok_of_toOption ha)
    constructor
    · intro h
      obtain ⟨hzero, hid⟩ := h _ _ ((hcurrent _ _).mpr (Or.inl ⟨rfl, rfl⟩))
      exact ⟨hzero, fun hmem => hid ((hsuperseded _).mpr (Or.inl hmem))⟩
    · rintro ⟨hzero, hfresh⟩ task id h
      rw [hsuperseded, not_or]
      rcases (hcurrent task id).mp h with ⟨rfl, rfl⟩ | ⟨hold, hne, hkept⟩
      · refine ⟨hzero, hfresh, ?_⟩
        rintro ⟨r', _, _, hsupersedes, hid⟩
        exact hsupersedes.1 hid
      · obtain ⟨hzero', hid⟩ := hu task id hold
        refine ⟨hzero', hid, ?_⟩
        -- a closure that is superseded is lost to its task
        rintro ⟨r', status, hr', hsupersedes, hid'⟩
        obtain ⟨r₀, hr₀, htask, hid₀⟩ := hold
        refine hkept ⟨r', status, hr', hsupersedes, ?_⟩
        rw [← htask, (hr'.unique hr₀ (hid'.trans hid₀.symm)).1]
  | removeCurrentTaskClosureResults tasks =>
    exact iff_of_true (hu.takeBack (removeCurrentTaskClosureResults_ok hs.task (ok_of_toOption ha)
      (by decide) (by decide))) trivial
  | clearForExecutionReentry tasks =>
    exact iff_of_true (hu.takeBack (removeCurrentTaskClosureResults_ok hs.task (ok_of_toOption ha)
      (by decide) (by decide))) trivial
  | clearForStructuralRepair tasks =>
    exact iff_of_true (hu.takeBack (removeCurrentTaskClosureResults_ok hs.task (ok_of_toOption ha)
      (by decide) (by decide))) trivial
  | clearForStructuralRepairScopeKeys scopeKeys =>
    exact iff_of_true (hu.takeBack (removeCurrentTaskClosureResultsByScopeKeys_ok hs.task
      (ok_of_toOption ha) (by decide) (by decide))) trivial
  | recordBranchClosure now recording =>
    obtain ⟨⟨id, recorded⟩, hjoin, rfl⟩ := Option.map_eq_some_iff.mp ha
    obtain ⟨_, hframe⟩ := recordBranchClosureForCommand_ok hsha hs.branch
      (ok_of_toOption (Option.join_eq_some_iff.mp hjoin))
    exact iff_of_true (hu.congr (hframe _ (by decide)) (hframe _ (by decide))) trivial
  | clearCurrentBranchClosure now =>
    have hframe : ∀ g, g ∉ branchClosureFields → s' g = s g := fun g hg =>
      clearCurrentBranchClosureForStructuralRepair_frame (ok_of_toOption ha) (Or.inr hg)
    exact iff_of_true (hu.congr (hframe _ (by decide)) (hframe _ (by decide))) trivial
  | other changed =>
    cases ha
    exact iff_of_true (hu.congr (hi _ (by decide)) (hi _ (by decide))) trivial

theorem NoClosures.unlisted (h : NoClosures run s) : Unlisted run s := by
  intro task id hcurrent
  unfold IsCurrentClosure at hcurrent
  rw [h.taskClosureRecordHistory] at hcurrent
  exact absurd hcurrent not_currentClosure_empty

structure UnlistedState (run : ExecutionRun) (s : StateObject) : Prop where
  closures : ClosureState run s
  unlisted : Unlisted run s

theorem UnlistedState.apply (hsha : ∀ t, Unspaced (sha t)) {op : ClosureOp}
    (h : UnlistedState run s) (hi : op.Issued sha run s) (hfresh : op.Fresh sha run.plan.planRel s)
    (ha : op.apply sha run.plan s = some s') : UnlistedState run s' :=
  ⟨h.closures.apply hsha hi ha, (h.unlisted.apply_iff hsha h.closures hi ha).mpr hfresh⟩

/-- **The readers agree** in every state of a run whose recordings are fresh, and a step from
such a state leaves them in agreement exactly if it is fresh itself. -/
theorem closure_readers_agree (hsha : ∀ t, Unspaced (sha t)) {start : StateObject}
    (hstart : NoClosures run start)
    (h : ClosureRun sha run (fun s op => op.Fresh sha run.plan.planRel s) start s) :
    ReadersAgree s ∧ ∀ (op : ClosureOp) (s' : StateObject), op.Issued sha run s →
      op.apply sha run.plan s = some s' → (ReadersAgree s' ↔ op.Fresh sha run.plan.planRel s) := by
  have hinv : UnlistedState run s := h.invariant ⟨hstart.closureState, hstart.unlisted⟩
    fun _ _ _ hs hok ha => hs.apply hsha hok.1 hok.2 ha
  obtain ⟨hs, hu⟩ := hinv
  refine ⟨hs.readersAgree_iff.mpr hu, fun op s' hi ha => ?_⟩
  exact (hs.apply hsha hi ha).readersAgree_iff.trans (hu.apply_iff hsha hs hi ha)

theorem closure_readers_agree_firstClosed : ReadersAgree firstClosed :=
  (closure_readers_agree unspaced_closureSha noClosures_noneClosed
    (run_firstClosed ⟨by decide, by decide⟩)).1

/-- A task that is closed again under the id that it had before another one superseded it. -/
theorem not_readersAgree_firstClosedAgain :
    ClosureRun closureSha closureRun (fun _ _ => True) noneClosed firstClosedAgain ∧
      ¬ ReadersAgree firstClosedAgain := by
  refine ⟨run_secondClosed.tail ⟨issued_fileClosure (by decide +kernel), trivial⟩
    (apply_afterClosing (by decide +kernel)), fun h => ?_⟩
  have htask := (h quietSignals rfl).1 1
  revert htask
  decide +kernel

end FeatureForge
