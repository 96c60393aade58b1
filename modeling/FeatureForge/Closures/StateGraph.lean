import FeatureForge.Closures.Runs

/-!
# The graph of a state

The graph of a state in order has an evaluation for every branch closure and for every task
closure of a task other than 0, under its id (`ClosureState.get?_task`,
`ClosureState.get?_branch`), and no other (`ClosureState.exists_of_get?`).  An evaluation is
current if its record is, no list of the state names it, and no signal projects it as stale.
-/

namespace FeatureForge

open AuthoritativeClosureGraph

/-- The graph of a state before its indexes are refreshed. -/
def evaluatedState (s : StateObject) (signals : ClosureGraphSignals) : AuthoritativeClosureGraph :=
  evaluated (closureHistorySnapshot s) signals

/-- The signals project a record as stale. -/
def ProjectsStale (signals : ClosureGraphSignals) (id : String) : Prop :=
  projectsStale signals = true ∧ id ∈ lateStageCandidateClosureIds signals

instance (signals : ClosureGraphSignals) (id : String) : Decidable (ProjectsStale signals id) :=
  inferInstanceAs (Decidable (_ ∧ _))

/-! ### The passes over an evaluation -/

/-- What a list of superseded ids makes of an evaluation. -/
def supersededIn (recordIds : List String) (before : List ClosureFreshness) (id : String)
    (evaluation : ClosureEvaluation) : ClosureEvaluation :=
  if id ∈ recordIds ∧ evaluation.freshness ∈ before then
    { evaluation with freshness := .superseded }
  else evaluation

/-- What the lists of a state make of an evaluation. -/
def listed (s : StateObject) (id : String) (evaluation : ClosureEvaluation) : ClosureEvaluation :=
  supersededIn (supersededTaskClosureIds s) [.current, .staleUnreviewed, .historical] id
    (supersededIn (supersededBranchClosureIds s) [.current] id evaluation)

/-- What the passes over a graph make of an evaluation. -/
def passed (s : StateObject) (signals : ClosureGraphSignals) (id : String)
    (evaluation : ClosureEvaluation) : ClosureEvaluation :=
  if ProjectsStale signals id then
    AuthoritativeClosureGraph.staleEvaluation signals.staleReasonCodes (listed s id evaluation)
  else listed s id evaluation

variable {run : ExecutionRun} {s : StateObject} {signals : ClosureGraphSignals} {id : String}
  {evaluation : ClosureEvaluation}

/-- The state's lists name a record. -/
def Listed (s : StateObject) (id : String) : Prop :=
  id ∈ supersededBranchClosureIds s ∨ id ∈ supersededTaskClosureIds s

theorem identity_supersededIn {recordIds : List String} {before : List ClosureFreshness} :
    (supersededIn recordIds before id evaluation).identity = evaluation.identity := by
  unfold supersededIn
  split_ifs <;> rfl

theorem supersedes_supersededIn {recordIds : List String} {before : List ClosureFreshness} :
    (supersededIn recordIds before id evaluation).supersedes = evaluation.supersedes := by
  unfold supersededIn
  split_ifs <;> rfl

theorem supersededIn_current_iff {recordIds : List String} {before : List ClosureFreshness}
    (hbefore : .current ∈ before) :
    (supersededIn recordIds before id evaluation).freshness = .current ↔
      evaluation.freshness = .current ∧ id ∉ recordIds := by
  unfold supersededIn
  by_cases hid : id ∈ recordIds
  · refine iff_of_false ?_ fun h => h.2 hid
    split_ifs with hfresh
    · nofun
    · exact fun hcurrent => hfresh ⟨hid, hcurrent ▸ hbefore⟩
  · rw [if_neg fun h => hid h.1]
    exact (and_iff_left hid).symm

theorem listed_current_iff : (listed s id evaluation).freshness = .current ↔
    evaluation.freshness = .current ∧ ¬ Listed s id := by
  unfold listed Listed
  rw [supersededIn_current_iff List.mem_cons_self, supersededIn_current_iff List.mem_cons_self,
    not_or, and_assoc]

theorem identity_passed : (passed s signals id evaluation).identity = evaluation.identity := by
  unfold passed
  split_ifs
  · exact identity_supersededIn.trans identity_supersededIn
  · exact identity_supersededIn.trans identity_supersededIn

theorem supersedes_passed : (passed s signals id evaluation).supersedes = evaluation.supersedes := by
  unfold passed
  split_ifs
  · exact supersedes_supersededIn.trans supersedes_supersededIn
  · exact supersedes_supersededIn.trans supersedes_supersededIn

/-- **What is still current** after the passes. -/
theorem passed_current_iff : (passed s signals id evaluation).freshness = .current ↔
    evaluation.freshness = .current ∧ ¬ Listed s id ∧ ¬ ProjectsStale signals id := by
  unfold passed
  by_cases hstale : ProjectsStale signals id
  · rw [if_pos hstale]
    exact iff_of_false (freshness_staleEvaluation_ne _ _) fun h => h.2.2 hstale
  · rw [if_neg hstale, listed_current_iff, ← and_assoc]
    exact (and_iff_left hstale).symm

/-- A current record that is projected as stale is stale. -/
theorem passed_stale (hfresh : evaluation.freshness = .current) (hlisted : ¬ Listed s id)
    (hstale : ProjectsStale signals id) :
    (passed s signals id evaluation).freshness = .staleUnreviewed := by
  unfold passed
  rw [if_pos hstale]
  show (if (listed s id evaluation).freshness = .current ∨ _ then ClosureFreshness.staleUnreviewed
    else (listed s id evaluation).freshness) = _
  rw [if_pos (Or.inl (listed_current_iff.mpr ⟨hfresh, hlisted⟩))]

/-! ### The records of a state -/

/-- What the histories of a state hold of an id. -/
def readRecord (s : StateObject) (id : String) : Option ClosureEvaluation :=
  (((objectEntries (s .branchClosureRecords)).get? id).bind (branchClosureEvaluation id)).or
    (((objectEntries (s .taskClosureRecordHistory)).get? id).bind (taskClosureEvaluation id))

theorem ingest_empty (evaluationOf : String → Json → Option ClosureEvaluation) {history : Object}
    (h : history = .empty) (graph : AuthoritativeClosureGraph) :
    graph.ingest evaluationOf history = graph := by
  rw [h]
  rfl

theorem kinds_clash {id : String} (htask : startsWith "task-closure-".toList id.toList = true)
    (hbranch : startsWith "branch-closure-".toList id.toList = true) : False := by
  obtain ⟨rest, hrest⟩ := startsWith_iff.mp hbranch
  rw [← hrest, startsWith_of_clash (by decide)] at htask
  cases htask

theorem ClosureState.task_id (hs : ClosureState run s) {payload : Json}
    (hget : (objectEntries (s .taskClosureRecordHistory)).get? id = some payload) :
    startsWith "task-closure-".toList id.toList = true := by
  obtain ⟨r, _, rfl, hr⟩ := hs.task.closures.filed id payload hget
  exact hr.issued.kind

theorem ClosureState.branch_id (hs : ClosureState run s)
    (hget : (objectEntries (s .branchClosureRecords)).get? id ≠ none) :
    startsWith "branch-closure-".toList id.toList = true := by
  obtain ⟨payload, hget⟩ := Option.ne_none_iff_exists'.mp hget
  obtain ⟨r, _, rfl, hr⟩ := hs.branch.records.filed id payload hget
  exact hr.issued.kind

/-- The evaluation of a task closure is under its id. -/
theorem ClosureState.taskEvaluation_id (hs : ClosureState run s) {payload : Json}
    (hget : (objectEntries (s .taskClosureRecordHistory)).get? id = some payload)
    (h : taskClosureEvaluation id payload = some evaluation) :
    evaluation.identity.recordId = id := by
  obtain ⟨r, status, rfl, hr⟩ := hs.task.closures.filed id payload hget
  obtain ⟨payload', n, hget', hmarked⟩ := hr.filed
  cases hget.symm.trans hget'
  have hread := hmarked.taskClosureEvaluation hr.issued hr.known r.closureRecordId
  split_ifs at hread
  · rw [hread] at h
    cases h
  · obtain ⟨evaluation', hread, hid, _⟩ := hread
    cases hread.symm.trans h
    exact hid

/-- **The graph of a state is read record by record.** -/
theorem ClosureState.get?_evaluated (hs : ClosureState run s) (signals : ClosureGraphSignals)
    (id : String) :
    (evaluatedState s signals).evaluations.get? id =
      (readRecord s id).map (passed s signals id) := by
  have hbranchId : ∀ key payload evaluation,
      (objectEntries (s .branchClosureRecords)).get? key = some payload →
      branchClosureEvaluation key payload = some evaluation →
        evaluation.identity.recordId = key := by
    intro key payload evaluation hget h
    obtain ⟨r, status, rfl, hr⟩ := hs.branch.records.filed key payload hget
    obtain ⟨payload', n, hget', hmarked⟩ := hr.filed
    cases hget.symm.trans hget'
    obtain ⟨evaluation', hread, hid, _⟩ :=
      hmarked.branchClosureEvaluation hr.issued hr.known r.branchClosureId
    cases hread.symm.trans h
    exact hid
  have htask : ∀ id, (empty.ingest taskClosureEvaluation
      (objectEntries (s .taskClosureRecordHistory))).evaluations.get? id =
        ((objectEntries (s .taskClosureRecordHistory)).get? id).bind (taskClosureEvaluation id) := by
    intro id
    rw [get?_ingest (fun key payload evaluation hget h => hs.taskEvaluation_id hget h)
      (fun _ _ _ => rfl)]
    exact Option.or_none
  have hnew : ∀ key payload, (objectEntries (s .branchClosureRecords)).get? key = some payload →
      (empty.ingest taskClosureEvaluation
        (objectEntries (s .taskClosureRecordHistory))).evaluations.get? key = none := by
    intro key payload hget
    rw [htask]
    cases hother : (objectEntries (s .taskClosureRecordHistory)).get? key with
    | none => rfl
    | some other =>
      have hsome : (objectEntries (s .branchClosureRecords)).get? key ≠ none := by
        rw [hget]
        nofun
      exact absurd (hs.branch_id hsome) fun hbranch => kinds_clash (hs.task_id hother) hbranch
  have hrelease : (closureHistorySnapshot s).releaseReadinessRecordHistory = .empty :=
    hs.branch.releaseReadiness.1
  have hreview : (closureHistorySnapshot s).finalReviewRecordHistory = .empty :=
    hs.branch.finalReview.1
  have hqa : (closureHistorySnapshot s).browserQaRecordHistory = .empty := hs.branch.qa.1
  unfold evaluatedState evaluated
  rw [get?_applyLateStageStaleProjection, applySupersededTaskIds, get?_supersede,
    ingest_empty _ hqa, ingest_empty _ hreview, ingest_empty _ hrelease]
  have hingest : ((empty.ingest taskClosureEvaluation
      (closureHistorySnapshot s).taskClosureRecordHistory).ingestBranchClosureHistory
        (closureHistorySnapshot s).branchClosureRecords
        (closureHistorySnapshot s).supersededBranchClosureIds).evaluations.get? id =
      (readRecord s id).map (supersededIn (supersededBranchClosureIds s) [.current] id) := by
    refine (get?_ingestBranchClosureHistory _ hbranchId hnew id).trans ?_
    rw [htask]
    rfl
  rw [hingest, Option.map_map, Option.map_map]
  refine congrArg (fun f => (readRecord s id).map f) (funext fun evaluation => ?_)
  rfl

/-- **A task closure in the graph**, its task not being 0. -/
theorem ClosureState.get?_task (hs : ClosureState run s) (signals : ClosureGraphSignals)
    {r : TaskClosureResultRecord} {status : String}
    (hr : FiledAs run (objectEntries (s .taskClosureRecordHistory)) r status) (hzero : r.task ≠ 0) :
    ∃ evaluation, (evaluatedState s signals).evaluations.get? r.closureRecordId = some evaluation ∧
      evaluation.identity.kind = .taskClosure ∧ evaluation.identity.taskNumber = some r.task ∧
      evaluation.supersedes = none ∧ (evaluation.freshness = .current ↔
        status = "current" ∧ ¬ Listed s r.closureRecordId ∧
          ¬ ProjectsStale signals r.closureRecordId) := by
  obtain ⟨payload, n, hget, hmarked⟩ := hr.filed
  have hread := hmarked.taskClosureEvaluation hr.issued hr.known r.closureRecordId
  rw [if_neg hzero] at hread
  obtain ⟨evaluation, hread, _, hkind, htask, hsupersedes, hcurrent⟩ := hread
  have hnone : (objectEntries (s .branchClosureRecords)).get? r.closureRecordId = none := by
    by_contra hsome
    exact kinds_clash hr.issued.kind (hs.branch_id hsome)
  have hrecord : readRecord s r.closureRecordId = some evaluation := by
    rw [readRecord, hnone, Option.bind_none, Option.none_or, hget, Option.bind_some, hread]
  refine ⟨_, (hs.get?_evaluated signals _).trans (congrArg _ hrecord), ?_, ?_, ?_, ?_⟩
  · rw [identity_passed, hkind]
  · rw [identity_passed, htask]
  · rw [supersedes_passed, hsupersedes]
  · rw [passed_current_iff, hcurrent]

/-- **A branch closure in the graph.** -/
theorem ClosureState.get?_branch (hs : ClosureState run s) (signals : ClosureGraphSignals)
    {r : BranchClosureResultRecord} {status : String}
    (hr : BranchFiled (objectEntries (s .branchClosureRecords)) r status) :
    ∃ evaluation, (evaluatedState s signals).evaluations.get? r.branchClosureId =
        some (passed s signals r.branchClosureId evaluation) ∧
      evaluation.identity.kind = .branchClosure ∧
      evaluation.supersedes = r.supersededBranchClosureIds.head? ∧
      (evaluation.freshness = .current ↔ status = "current") := by
  obtain ⟨payload, n, hget, hmarked⟩ := hr.filed
  obtain ⟨evaluation, hread, _, hkind, _, hsupersedes, hcurrent, _⟩ :=
    hmarked.branchClosureEvaluation hr.issued hr.known r.branchClosureId
  have hrecord : readRecord s r.branchClosureId = some evaluation := by
    rw [readRecord, hget, Option.bind_some, hread, Option.some_or]
  exact ⟨evaluation, (hs.get?_evaluated signals _).trans (congrArg _ hrecord), hkind, hsupersedes,
    hcurrent⟩

/-- **The graph has no other evaluation.** -/
theorem ClosureState.exists_of_get? (hs : ClosureState run s)
    (hget : (evaluatedState s signals).evaluations.get? id = some evaluation) :
    (∃ r status, FiledAs run (objectEntries (s .taskClosureRecordHistory)) r status ∧
      r.closureRecordId = id ∧ r.task ≠ 0) ∨
    ∃ r status, BranchFiled (objectEntries (s .branchClosureRecords)) r status ∧
      r.branchClosureId = id := by
  rw [hs.get?_evaluated] at hget
  obtain ⟨read, hread, _⟩ := Option.map_eq_some_iff.mp hget
  rcases Option.or_eq_some_iff.mp hread with hbranch | ⟨_, htask⟩
  · obtain ⟨payload, hpayload, _⟩ := Option.bind_eq_some_iff.mp hbranch
    obtain ⟨r, status, hid, hr⟩ := hs.branch.records.filed id payload hpayload
    exact Or.inr ⟨r, status, hr, hid⟩
  · obtain ⟨payload, hpayload, heval⟩ := Option.bind_eq_some_iff.mp htask
    obtain ⟨r, status, rfl, hr⟩ := hs.task.closures.filed id payload hpayload
    refine Or.inl ⟨r, status, hr, rfl, fun hzero => ?_⟩
    obtain ⟨payload', n, hget', hmarked⟩ := hr.filed
    cases hpayload.symm.trans hget'
    have hread := hmarked.taskClosureEvaluation hr.issued hr.known r.closureRecordId
    rw [if_pos hzero, heval] at hread
    cases hread

/-- **What the graph has as a current closure of a task.** -/
theorem ClosureState.currentTask_iff (hs : ClosureState run s) {task : UInt32} :
    (evaluatedState s signals).CurrentTask task id ↔ IsCurrentClosure run s task id ∧ task ≠ 0 ∧
      ¬ Listed s id ∧ ¬ ProjectsStale signals id := by
  constructor
  · rintro ⟨evaluation, hget, hkind, hfresh, htask⟩
    rcases hs.exists_of_get? hget with ⟨r, status, hr, rfl, hzero⟩ | ⟨r, status, hr, rfl⟩
    · obtain ⟨evaluation', hget', _, htask', _, hcurrent⟩ := hs.get?_task signals hr hzero
      cases hget.symm.trans hget'
      cases htask.symm.trans htask'
      obtain ⟨rfl, hlisted, hstale⟩ := hcurrent.mp hfresh
      exact ⟨⟨r, hr, rfl, rfl⟩, hzero, hlisted, hstale⟩
    · obtain ⟨evaluation', hget', hkind', _⟩ := hs.get?_branch signals hr
      cases hget.symm.trans hget'
      rw [identity_passed, hkind'] at hkind
      cases hkind
  · rintro ⟨⟨r, hr, rfl, rfl⟩, hzero, hlisted, hstale⟩
    obtain ⟨evaluation, hget, hkind, htask, _, hcurrent⟩ := hs.get?_task signals hr hzero
    exact ⟨evaluation, hget, hkind, hcurrent.mpr ⟨rfl, hlisted, hstale⟩, htask⟩

/-- The branch closure that the state is bound to is read as current, and no list names it. -/
theorem ClosureState.bound_evaluation (hs : ClosureState run s) (signals : ClosureGraphSignals)
    (hid : jsonString (s .currentBranchClosureId) = some id) :
    ∃ evaluation, (evaluatedState s signals).evaluations.get? id =
        some (passed s signals id evaluation) ∧
      evaluation.identity.kind = .branchClosure ∧ evaluation.freshness = .current ∧
      ¬ Listed s id := by
  obtain ⟨r, rfl, hr⟩ := hs.branch.records.bound id hid
  obtain ⟨evaluation, hget, hkind, _, hcurrent⟩ := hs.get?_branch signals hr
  refine ⟨evaluation, hget, hkind, hcurrent.mpr rfl, ?_⟩
  rintro (hlisted | hlisted)
  · exact (hs.branch.records.superseded _ hlisted).2 hid
  · exact kinds_clash (hs.supersededTasks _ hlisted) hr.issued.kind

end FeatureForge
