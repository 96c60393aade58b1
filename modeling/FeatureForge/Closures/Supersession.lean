import FeatureForge.Closures.StateGraph
import FeatureForge.Lib.Dag

/-!
# Supersession

An edge of the graph of a state leads to a later branch closure, or from a task closure that is
not current to one that is (`SupersededBy`).  So the edges have no cycle, and none leads from
what is current; what is bound and stale is shown as such (`supersession_keeps_live`).
-/

namespace FeatureForge

open AuthoritativeClosureGraph

variable {sha : Sha256Hex} {run : ExecutionRun} {s : StateObject} {signals : ClosureGraphSignals}
  {id superseder : String}

/-- An evaluation of a task closure that is current, or that is not. -/
def TaskEvaluation (graph : AuthoritativeClosureGraph) (current : Bool) (id : String) : Prop :=
  ∃ evaluation, graph.evaluations.get? id = some evaluation ∧
    evaluation.identity.kind = .taskClosure ∧
    decide (evaluation.freshness = .current) = current

/-- A branch closure is superseded by a later one, and a task closure that is not current by
one that is. -/
inductive SupersededBy (s : StateObject) (graph : AuthoritativeClosureGraph) :
    String → String → Prop
  | branch {id superseder : String} :
      (objectEntries (s .branchClosureRecords)).get? id ≠ none →
      (objectEntries (s .branchClosureRecords)).get? superseder ≠ none →
      jsonString (s .currentBranchClosureId) ≠ some id →
      branchSequence (objectEntries (s .branchClosureRecords)) id <
        branchSequence (objectEntries (s .branchClosureRecords)) superseder →
      SupersededBy s graph id superseder
  | task {id superseder : String} : TaskEvaluation graph false id →
      TaskEvaluation graph true superseder → SupersededBy s graph id superseder

/-- What a branch closure lists. -/
theorem ClosureState.supersededBy_of_list (hs : ClosureState run s)
    (graph : AuthoritativeClosureGraph) {r : BranchClosureResultRecord} {status : String}
    (hr : BranchFiled (objectEntries (s .branchClosureRecords)) r status)
    (hid : id ∈ r.supersededBranchClosureIds) : SupersededBy s graph id r.branchClosureId := by
  obtain ⟨hsome, hbound, hlt⟩ := hs.branch.records.older r status hr id hid
  obtain ⟨payload, _, hget, _⟩ := hr.filed
  exact .branch hsome (by rw [hget]; nofun) hbound hlt

/-- **The edges of the graph of a state.** -/
theorem ClosureState.edges (hs : ClosureState run s) (signals : ClosureGraphSignals) :
    EdgesIn (SupersededBy s (evaluatedState s signals)) (fromState s signals).supersededBy := by
  have hbranch : ∀ key payload evaluation,
      (closureHistorySnapshot s).branchClosureRecords.get? key = some payload →
      branchClosureEvaluation key payload = some evaluation →
      ∀ id ∈ valueStringArray payload "superseded_branch_closure_ids",
        SupersededBy s (evaluatedState s signals) id evaluation.identity.recordId := by
    intro key payload evaluation hget hread id hid
    obtain ⟨r, status, rfl, hr⟩ := hs.branch.records.filed key payload hget
    obtain ⟨payload', n, hget', hmarked⟩ := hr.filed
    cases hget.symm.trans hget'
    obtain ⟨evaluation', hread', hrecordId, _, _, _, _, hlist⟩ :=
      hmarked.branchClosureEvaluation hr.issued hr.known r.branchClosureId
    cases hread.symm.trans hread'
    rw [hlist] at hid
    rw [hrecordId]
    exact hs.supersededBy_of_list _ hr hid
  refine edgesIn_refreshedEdges (ownIds_evaluated _ _) (edgesIn_evaluated signals hbranch) ?_ ?_
  · rintro id evaluation task superseder hget hkind hfresh ⟨evaluation', hget', hkind', hfresh', _⟩
    exact .task ⟨evaluation, hget, hkind, decide_eq_false hfresh⟩
      ⟨evaluation', hget', hkind', decide_eq_true hfresh'⟩
  · intro id evaluation hget older holder
    rcases hs.exists_of_get? hget with ⟨r, status, hr, rfl, hzero⟩ | ⟨r, status, hr, rfl⟩
    · obtain ⟨evaluation', hget', _, _, hnone, _⟩ := hs.get?_task signals hr hzero
      cases hget.symm.trans hget'
      rw [hnone] at holder
      cases holder
    · obtain ⟨evaluation', hget', _, hsupersedes, _⟩ := hs.get?_branch signals hr
      cases hget.symm.trans hget'
      rw [supersedes_passed, hsupersedes] at holder
      exact hs.supersededBy_of_list _ hr (List.mem_of_mem_head? holder)

/-- Task closures are no branch closures. -/
theorem ClosureState.not_taskEvaluation (hs : ClosureState run s) {current : Bool}
    (hget : (objectEntries (s .branchClosureRecords)).get? id ≠ none) :
    ¬ TaskEvaluation (evaluatedState s signals) current id := by
  rintro ⟨evaluation, heval, hkind, _⟩
  obtain ⟨payload, hget⟩ := Option.ne_none_iff_exists'.mp hget
  obtain ⟨r, status, rfl, hr⟩ := hs.branch.records.filed id payload hget
  obtain ⟨evaluation', heval', hkind', _⟩ := hs.get?_branch signals hr
  cases heval.symm.trans heval'
  rw [identity_passed, hkind'] at hkind
  cases hkind

/-- Branch closures rank by their sequence, task closures by whether they are current. -/
def supersessionRank (s : StateObject) (graph : AuthoritativeClosureGraph) (id : String) : Nat :=
  match graph.evaluations.get? id with
  | none => branchSequence (objectEntries (s .branchClosureRecords)) id
  | some evaluation =>
    if evaluation.identity.kind = .taskClosure then
      if evaluation.freshness = .current then 1 else 0
    else branchSequence (objectEntries (s .branchClosureRecords)) id

theorem supersessionRank_task {graph : AuthoritativeClosureGraph} {current : Bool}
    (h : TaskEvaluation graph current id) : supersessionRank s graph id = current.toNat := by
  obtain ⟨evaluation, hget, hkind, rfl⟩ := h
  rw [supersessionRank, hget]
  dsimp only
  rw [if_pos hkind]
  by_cases hfresh : evaluation.freshness = .current
  · rw [if_pos hfresh, decide_eq_true hfresh]
    rfl
  · rw [if_neg hfresh, decide_eq_false hfresh]
    rfl

theorem ClosureState.supersessionRank_branch (hs : ClosureState run s)
    (hget : (objectEntries (s .branchClosureRecords)).get? id ≠ none) :
    supersessionRank s (evaluatedState s signals) id =
      branchSequence (objectEntries (s .branchClosureRecords)) id := by
  rw [supersessionRank]
  cases heval : (evaluatedState s signals).evaluations.get? id with
  | none => rfl
  | some evaluation =>
    dsimp only
    rw [if_neg fun hkind => hs.not_taskEvaluation hget ⟨evaluation, heval, hkind, rfl⟩]

theorem ClosureState.rank_lt (hs : ClosureState run s)
    (h : SupersededBy s (evaluatedState s signals) id superseder) :
    supersessionRank s (evaluatedState s signals) id <
      supersessionRank s (evaluatedState s signals) superseder := by
  cases h with
  | branch hid hsuperseder _ hlt =>
    rw [hs.supersessionRank_branch hid, hs.supersessionRank_branch hsuperseder]
    exact hlt
  | task hid hsuperseder =>
    rw [supersessionRank_task hid, supersessionRank_task hsuperseder]
    exact Nat.zero_lt_one

/-- **Supersession never hides what is live.**  In every state of a run the edges have no cycle,
none leads from the branch closure that the state is bound to or from the current closure of a
task, and the bound branch closure is shown as stale by all signals that project it as stale. -/
theorem supersession_keeps_live (hsha : ∀ t, Unspaced (sha t))
    {ok : StateObject → ClosureOp → Prop} {start : StateObject} (hstart : NoClosures run start)
    (h : ClosureRun sha run ok start s) (signals : ClosureGraphSignals) :
    Dag.Acyclic (fun id superseder =>
      (fromState s signals).supersededBy.get? id = some superseder) ∧
    (∀ id, jsonString (s .currentBranchClosureId) = some id →
      (fromState s signals).supersededBy.get? id = none ∧
      (ProjectsStale signals id →
        ∃ evaluation ∈ (fromState s signals).staleUnreviewedEvaluations,
          evaluation.identity.recordId = id)) ∧
    ∀ task evaluation, (fromState s signals).currentTaskClosure task = some evaluation →
      (fromState s signals).supersededBy.get? evaluation.identity.recordId = none := by
  have hs := h.closureState hsha hstart
  have hedges := hs.edges signals
  have hbound : ∀ id, jsonString (s .currentBranchClosureId) = some id →
      (fromState s signals).supersededBy.get? id = none := by
    intro id hid
    refine Option.eq_none_iff_forall_ne_some.mpr fun superseder hget => ?_
    obtain ⟨r, rfl, hr⟩ := hs.branch.records.bound id hid
    cases hedges _ _ hget with
    | branch _ _ hne _ => exact hne hid
    | task htask _ =>
      obtain ⟨payload, _, hrecord, _⟩ := hr.filed
      exact hs.not_taskEvaluation (by rw [hrecord]; nofun) htask
  refine ⟨?_, fun id hid => ⟨hbound id hid, fun hstale => ?_⟩, fun task evaluation hcurrent => ?_⟩
  · exact Dag.acyclic_of_rank (supersessionRank s (evaluatedState s signals))
      fun id superseder hget => hs.rank_lt (hedges id superseder hget)
  · obtain ⟨evaluation, hget, _, hfresh, hlisted⟩ := hs.bound_evaluation signals hid
    refine ⟨_, List.mem_map.mpr ⟨(id, passed s signals id evaluation), List.mem_filter.mpr
      ⟨OrderedMap.mem_entries.mpr hget, ?_⟩, rfl⟩, ownIds_evaluated _ _ _ _ hget⟩
    rw [Bool.and_eq_true, decide_eq_true_eq]
    refine ⟨passed_stale hfresh hlisted hstale, ?_⟩
    rw [OrderedMap.contains, hbound id hid]
    rfl
  · have hown := ownIds_evaluated (closureHistorySnapshot s) signals
    obtain ⟨id, hid, hget⟩ := Option.bind_eq_some_iff.mp hcurrent
    obtain ⟨_, _, evaluation', hget', hkind, hfresh, _⟩ := taskRecordIds_sound hown hid
    cases hget'.symm.trans hget
    rw [hown id evaluation hget]
    refine Option.eq_none_iff_forall_ne_some.mpr fun superseder hedge => ?_
    cases hedges _ _ hedge with
    | branch hsome _ _ _ => exact hs.not_taskEvaluation hsome ⟨evaluation, hget, hkind, rfl⟩
    | task htask _ =>
      obtain ⟨evaluation', hget', _, hnot⟩ := htask
      cases hget'.symm.trans hget
      rw [decide_eq_false_iff_not] at hnot
      exact hnot hfresh

/-- Signals that project the branch closure as stale. -/
def driftSignals : ClosureGraphSignals where
  currentBranchClosureId := some "branch-closure-f8aac15ccc8be208"
  overlayCurrentBranchClosureId := none
  finishReviewGatePassBranchClosureId := none
  currentReleaseReadinessBranchClosureId := none
  currentFinalReviewBranchClosureId := none
  currentQaBranchClosureId := none
  lateStageStaleUnreviewed := true
  missingCurrentClosureStaleProvenance := false
  staleReasonCodes := ["files_proven_drifted"]

theorem supersession_keeps_live_branchRecorded :
    (fromState branchRecorded driftSignals).supersededBy.get? "branch-closure-f8aac15ccc8be208" = none ∧
      ∃ evaluation ∈ (fromState branchRecorded driftSignals).staleUnreviewedEvaluations,
        evaluation.identity.recordId = "branch-closure-f8aac15ccc8be208" := by
  have hlive := (supersession_keeps_live unspaced_closureSha noClosures_noneClosed run_branchRecorded
    driftSignals).2.1 "branch-closure-f8aac15ccc8be208" (by decide +kernel)
  exact ⟨hlive.1, hlive.2 ⟨by decide +kernel, by decide +kernel⟩⟩

end FeatureForge
