import FeatureForge.Closures.Evaluations

/-!
# Current records and edges of a graph

Every evaluation of a graph is under its own id (`ownIds_evaluated`).  The graph names for a
task one of the closures of the task that are current (`taskRecordIds_sound`,
`taskRecordIds_complete`), and an edge leads from what a branch closure lists to the branch
closure, or from a closure of a task that is not current to one that is
(`edges_refreshedEdges`).
-/

namespace FeatureForge

namespace AuthoritativeClosureGraph

variable {graph : AuthoritativeClosureGraph}

/-! ### Ids -/

/-- Every evaluation is under its own id. -/
def OwnIds (graph : AuthoritativeClosureGraph) : Prop :=
  ∀ id evaluation, graph.evaluations.get? id = some evaluation → evaluation.identity.recordId = id

theorem OwnIds.upsertEvaluation (h : graph.OwnIds) (evaluation : ClosureEvaluation) :
    (graph.upsertEvaluation evaluation).OwnIds := by
  intro id evaluation' hget
  rw [get?_upsertEvaluation] at hget
  split_ifs at hget with hid
  · cases hget
    exact hid.1.symm
  · exact h id evaluation' hget

theorem OwnIds.ingestRecord {evaluationOf : String → Json → Option ClosureEvaluation}
    (h : graph.OwnIds) (record : String × Json) :
    (AuthoritativeClosureGraph.ingestRecord evaluationOf graph record).OwnIds := by
  unfold AuthoritativeClosureGraph.ingestRecord
  cases evaluationOf record.1 record.2 with
  | none => exact h
  | some evaluation => exact h.upsertEvaluation evaluation

theorem OwnIds.ingest (h : graph.OwnIds)
    (evaluationOf : String → Json → Option ClosureEvaluation) (history : Object) :
    (graph.ingest evaluationOf history).OwnIds :=
  List.foldlRecOn history.entries _ h fun _ h record _ => h.ingestRecord record

theorem OwnIds.map {graph' : AuthoritativeClosureGraph} (h : graph.OwnIds)
    {f : String → ClosureEvaluation → ClosureEvaluation}
    (hf : ∀ id evaluation, (f id evaluation).identity = evaluation.identity)
    (hmap : ∀ id, graph'.evaluations.get? id = (graph.evaluations.get? id).map (f id)) :
    graph'.OwnIds := by
  intro id evaluation hget
  rw [hmap] at hget
  obtain ⟨evaluation', hget', rfl⟩ := Option.map_eq_some_iff.mp hget
  rw [hf]
  exact h id evaluation' hget'

theorem OwnIds.supersede (h : graph.OwnIds) (before : List ClosureFreshness)
    (recordIds : List String) : (graph.supersede before recordIds).OwnIds := by
  refine h.map (fun id evaluation => ?_) (get?_supersede before graph recordIds)
  split_ifs <;> rfl

theorem OwnIds.applyLateStageStaleProjection (h : graph.OwnIds) (signals : ClosureGraphSignals) :
    (graph.applyLateStageStaleProjection signals).OwnIds := by
  refine h.map (fun id evaluation => ?_) (get?_applyLateStageStaleProjection signals graph)
  split_ifs <;> rfl

theorem OwnIds.ingestBranchClosureHistory (h : graph.OwnIds) (records : Object)
    (supersededIds : List String) :
    (graph.ingestBranchClosureHistory records supersededIds).OwnIds := by
  refine OwnIds.supersede (fun id evaluation hget => ?_) _ _
  rw [evaluations_ingestBranchClosures records.entries graph graph rfl] at hget
  exact h.ingest branchClosureEvaluation records id evaluation hget

/-- **The evaluations of a graph are under their own ids.** -/
theorem ownIds_evaluated (snapshot : ClosureHistorySnapshot) (signals : ClosureGraphSignals) :
    (evaluated snapshot signals).OwnIds := by
  have hempty : empty.OwnIds := nofun
  unfold evaluated
  refine OwnIds.applyLateStageStaleProjection (OwnIds.supersede ?_ _ _) signals
  refine OwnIds.ingest (OwnIds.ingest (OwnIds.ingest ?_ _ _) _ _) _ _
  exact (hempty.ingest _ _).ingestBranchClosureHistory _ _

theorem mem_values {evaluation : ClosureEvaluation} :
    evaluation ∈ graph.values ↔ ∃ id, graph.evaluations.get? id = some evaluation := by
  unfold values
  rw [List.mem_map]
  constructor
  · rintro ⟨⟨id, evaluation⟩, hmem, rfl⟩
    exact ⟨id, OrderedMap.mem_entries.mp hmem⟩
  · rintro ⟨id, hget⟩
    exact ⟨(id, evaluation), OrderedMap.mem_entries.mpr hget, rfl⟩

/-! ### The current closures of tasks -/

/-- The evaluation of a record is that of a current closure of a task. -/
def CurrentTask (graph : AuthoritativeClosureGraph) (task : UInt32) (id : String) : Prop :=
  ∃ evaluation, graph.evaluations.get? id = some evaluation ∧
    evaluation.identity.kind = .taskClosure ∧ evaluation.freshness = .current ∧
    evaluation.identity.taskNumber = some task

/-- One evaluation looked at. -/
def newestTaskRecord (current : OrderedMap Nat (Nat × String)) (evaluation : ClosureEvaluation) :
    OrderedMap Nat (Nat × String) :=
  match evaluation.identity.taskNumber with
  | none => current
  | some taskNumber =>
    let newest := (evaluation.identity.authoritativeSequence, evaluation.identity.recordId)
    match current.get? taskNumber.toNat with
    | none => current.insert taskNumber.toNat newest
    | some entry =>
      if entry.1 ≤ newest.1 then current.insert taskNumber.toNat newest else current

theorem newestTaskRecord_or (current : OrderedMap Nat (Nat × String))
    {evaluation : ClosureEvaluation} {task : UInt32}
    (htask : evaluation.identity.taskNumber = some task) :
    newestTaskRecord current evaluation = current.insert task.toNat
        (evaluation.identity.authoritativeSequence, evaluation.identity.recordId) ∨
      newestTaskRecord current evaluation = current ∧
        ∃ entry, current.get? task.toNat = some entry := by
  unfold newestTaskRecord
  rw [htask]
  dsimp only
  cases hold : current.get? task.toNat with
  | none => exact Or.inl rfl
  | some old =>
    dsimp only
    split_ifs
    · exact Or.inl rfl
    · exact Or.inr ⟨rfl, old, rfl⟩

/-- **The fold names evaluations** of the tasks. -/
theorem newestTaskRecords_sound {evaluations : List ClosureEvaluation} {number : Nat}
    {entry : Nat × String} (h : (newestTaskRecords evaluations).get? number = some entry) :
    ∃ evaluation ∈ evaluations, ∃ task, evaluation.identity.taskNumber = some task ∧
      task.toNat = number ∧ evaluation.identity.recordId = entry.2 := by
  have hfold : newestTaskRecords evaluations = evaluations.foldl newestTaskRecord .empty := rfl
  rw [hfold] at h
  refine List.foldlRecOn evaluations newestTaskRecord
    (motive := fun current : OrderedMap Nat (Nat × String) => ∀ number entry,
      current.get? number = some entry → ∃ evaluation ∈ evaluations, ∃ task,
        evaluation.identity.taskNumber = some task ∧ task.toNat = number ∧
          evaluation.identity.recordId = entry.2) ?_ ?_ number entry h
  · intro number entry hget
    rw [OrderedMap.get?_empty] at hget
    cases hget
  · intro current ih evaluation hmem number entry hget
    cases htask : evaluation.identity.taskNumber with
    | none =>
      unfold newestTaskRecord at hget
      rw [htask] at hget
      exact ih number entry hget
    | some task =>
      rcases newestTaskRecord_or current htask with hinsert | ⟨hsame, _⟩
      · rw [hinsert, OrderedMap.get?_insert] at hget
        split_ifs at hget with hnumber
        · cases hget
          exact ⟨evaluation, hmem, task, htask, hnumber.symm, rfl⟩
        · exact ih number entry hget
      · exact ih number entry (hsame ▸ hget)

theorem newestTaskRecord_grows {current : OrderedMap Nat (Nat × String)} {number : Nat}
    (h : ∃ entry, current.get? number = some entry) (evaluation : ClosureEvaluation) :
    ∃ entry, (newestTaskRecord current evaluation).get? number = some entry := by
  cases htask : evaluation.identity.taskNumber with
  | none =>
    unfold newestTaskRecord
    rw [htask]
    exact h
  | some task =>
    rcases newestTaskRecord_or current htask with hinsert | ⟨hsame, _⟩
    · rw [hinsert]
      by_cases hnumber : number = task.toNat
      · rw [hnumber, OrderedMap.get?_insert_self]
        exact ⟨_, rfl⟩
      · rwa [OrderedMap.get?_insert_of_ne _ _ hnumber]
    · rwa [hsame]

/-- **The fold leaves no task out.** -/
theorem newestTaskRecords_complete {evaluations : List ClosureEvaluation}
    {evaluation : ClosureEvaluation} (hmem : evaluation ∈ evaluations) {task : UInt32}
    (htask : evaluation.identity.taskNumber = some task) :
    ∃ entry, (newestTaskRecords evaluations).get? task.toNat = some entry := by
  obtain ⟨before, after, rfl⟩ := List.append_of_mem hmem
  have hfold : newestTaskRecords (before ++ evaluation :: after) =
      after.foldl newestTaskRecord
        (newestTaskRecord (before.foldl newestTaskRecord .empty) evaluation) := by
    rw [← List.foldl_cons, ← List.foldl_append]
    rfl
  rw [hfold]
  refine List.foldlRecOn after _ (motive := fun current : OrderedMap Nat (Nat × String) =>
    ∃ entry, current.get? task.toNat = some entry) ?_ fun _ ih evaluation _ =>
      newestTaskRecord_grows ih evaluation
  rcases newestTaskRecord_or (before.foldl newestTaskRecord .empty) htask with hinsert | ⟨hsame, hold⟩
  · exact ⟨_, hinsert ▸ OrderedMap.get?_insert_self _ _ _⟩
  · rwa [hsame]

theorem taskRecordIds_sound (h : graph.OwnIds) {number : Nat} {id : String}
    (hget : graph.taskRecordIds.get? number = some id) :
    ∃ task : UInt32, task.toNat = number ∧ graph.CurrentTask task id := by
  unfold taskRecordIds at hget
  rw [OrderedMap.get?_mapVal] at hget
  obtain ⟨entry, hentry, rfl⟩ := Option.map_eq_some_iff.mp hget
  obtain ⟨evaluation, hmem, task, htask, hnumber, hid⟩ := newestTaskRecords_sound hentry
  obtain ⟨hvalue, hcurrent⟩ := List.mem_filter.mp hmem
  simp only [Bool.and_eq_true, decide_eq_true_eq] at hcurrent
  obtain ⟨id, hget⟩ := mem_values.mp hvalue
  rw [h id evaluation hget] at hid
  exact ⟨task, hnumber, evaluation, hid ▸ hget, hcurrent.1, hcurrent.2, htask⟩

theorem taskRecordIds_complete {task : UInt32} {id : String} (h : graph.CurrentTask task id) :
    ∃ id', graph.taskRecordIds.get? task.toNat = some id' := by
  obtain ⟨evaluation, hget, hkind, hfresh, htask⟩ := h
  have hmem : evaluation ∈ graph.values.filter fun evaluation =>
      evaluation.identity.kind = .taskClosure && evaluation.freshness = .current := by
    refine List.mem_filter.mpr ⟨mem_values.mpr ⟨id, hget⟩, ?_⟩
    rw [hkind, hfresh]
    rfl
  obtain ⟨entry, hentry⟩ := newestTaskRecords_complete hmem htask
  refine ⟨entry.2, ?_⟩
  unfold taskRecordIds
  rw [OrderedMap.get?_mapVal, hentry, Option.map_some]

/-- **A graph names the current closure of a task** where there is one at most. -/
theorem currentTaskClosure_iff {snapshot : ClosureHistorySnapshot} {signals : ClosureGraphSignals}
    (hunique : ∀ task id id', (evaluated snapshot signals).CurrentTask task id →
      (evaluated snapshot signals).CurrentTask task id' → id = id') {task : UInt32} {id : String} :
    ((fromSnapshot snapshot signals).currentTaskClosure task).map
        (fun evaluation => evaluation.identity.recordId) = some id ↔
      (evaluated snapshot signals).CurrentTask task id := by
  have hown := ownIds_evaluated snapshot signals
  have hread : (fromSnapshot snapshot signals).currentTaskClosure task =
      ((evaluated snapshot signals).taskRecordIds.get? task.toNat).bind
        (evaluated snapshot signals).evaluations.get? := rfl
  rw [hread]
  constructor
  · intro h
    obtain ⟨evaluation, hbind, rfl⟩ := Option.map_eq_some_iff.mp h
    obtain ⟨id, hid, hget⟩ := Option.bind_eq_some_iff.mp hbind
    obtain ⟨task', htask, hcurrent⟩ := taskRecordIds_sound hown hid
    rw [hown id evaluation hget]
    exact UInt32.toNat.inj htask ▸ hcurrent
  · intro h
    obtain ⟨id', hid'⟩ := taskRecordIds_complete h
    obtain ⟨task', htask, hcurrent⟩ := taskRecordIds_sound hown hid'
    cases UInt32.toNat.inj htask
    cases hunique task id id' h hcurrent
    obtain ⟨evaluation, hget, _⟩ := h
    rw [hid', Option.bind_some, hget, Option.map_some, hown id evaluation hget]

/-! ### Edges -/

/-- All edges are of a kind. -/
def EdgesIn (P : String → String → Prop) (edges : OrderedMap String String) : Prop :=
  ∀ id by', edges.get? id = some by' → P id by'

section

variable {P : String → String → Prop} {edges : OrderedMap String String}

theorem EdgesIn.insert (h : EdgesIn P edges) {id superseder : String} (hnew : P id superseder) :
    EdgesIn P (edges.insert id superseder) := by
  intro id' superseder' hget
  rw [OrderedMap.get?_insert] at hget
  split_ifs at hget with hid
  · cases hget
    exact hid ▸ hnew
  · exact h id' superseder' hget

theorem supersededBy_upsertEvaluation (evaluation : ClosureEvaluation) :
    (graph.upsertEvaluation evaluation).supersededBy = graph.supersededBy := by
  unfold upsertEvaluation
  dsimp only
  split_ifs <;> rfl

theorem supersededBy_ingest (evaluationOf : String → Json → Option ClosureEvaluation)
    (history : Object) : (graph.ingest evaluationOf history).supersededBy = graph.supersededBy := by
  rw [ingest_eq]
  refine List.foldlRecOn history.entries _
    (motive := fun graph' : AuthoritativeClosureGraph =>
      graph'.supersededBy = graph.supersededBy) rfl ?_
  intro graph' ih record _
  unfold ingestRecord
  cases evaluationOf record.1 record.2 with
  | none => exact ih
  | some evaluation => exact (supersededBy_upsertEvaluation evaluation).trans ih

theorem supersededBy_applyLateStageStaleProjection (signals : ClosureGraphSignals) :
    (graph.applyLateStageStaleProjection signals).supersededBy = graph.supersededBy := by
  unfold applyLateStageStaleProjection
  split_ifs
  · refine List.foldlRecOn _ _ (motive := fun graph' : AuthoritativeClosureGraph =>
      graph'.supersededBy = graph.supersededBy) rfl ?_
    intro graph' ih recordId _
    unfold projectStale
    cases graph'.evaluations.get? recordId <;> exact ih
  · rfl

/-- The edges to the branch closures that list them. -/
theorem edgesIn_ingestBranchClosureHistory {records : Object} (supersededIds : List String)
    (h : EdgesIn P graph.supersededBy)
    (hnew : ∀ key payload evaluation, records.get? key = some payload →
      branchClosureEvaluation key payload = some evaluation →
      ∀ id ∈ valueStringArray payload "superseded_branch_closure_ids",
        P id evaluation.identity.recordId) :
    EdgesIn P (graph.ingestBranchClosureHistory records supersededIds).supersededBy := by
  refine List.foldlRecOn records.entries _
    (motive := fun graph' : AuthoritativeClosureGraph => EdgesIn P graph'.supersededBy) h ?_
  rintro graph' ih ⟨key, payload⟩ hmem
  unfold ingestBranchClosure
  cases hrecord : branchClosureEvaluation key payload with
  | none => exact ih
  | some evaluation =>
    dsimp only
    rw [supersededBy_upsertEvaluation]
    exact List.foldlRecOn _ _ ih fun _ ih id hid =>
      ih.insert (hnew key payload evaluation (OrderedMap.mem_entries.mp hmem) hrecord id hid)

/-- The edges before the indexes are refreshed are those of the branch closures. -/
theorem edgesIn_evaluated {snapshot : ClosureHistorySnapshot} (signals : ClosureGraphSignals)
    (hnew : ∀ key payload evaluation, snapshot.branchClosureRecords.get? key = some payload →
      branchClosureEvaluation key payload = some evaluation →
      ∀ id ∈ valueStringArray payload "superseded_branch_closure_ids",
        P id evaluation.identity.recordId) :
    EdgesIn P (evaluated snapshot signals).supersededBy := by
  unfold evaluated applySupersededTaskIds
  rw [supersededBy_applyLateStageStaleProjection]
  show EdgesIn P (ingest _ _ _).supersededBy
  rw [supersededBy_ingest, supersededBy_ingest, supersededBy_ingest]
  refine edgesIn_ingestBranchClosureHistory _ ?_ hnew
  rw [supersededBy_ingest]
  nofun

theorem taskSupersessionEdge_eq_some {taskRecordIds : OrderedMap Nat String}
    {evaluation : ClosureEvaluation} {edge : String × String}
    (h : graph.taskSupersessionEdge taskRecordIds evaluation = some edge) :
    ∃ task, evaluation.identity.taskNumber = some task ∧
      taskRecordIds.get? task.toNat = some edge.2 ∧ edge.1 = evaluation.identity.recordId := by
  unfold taskSupersessionEdge at h
  obtain ⟨task, htask, h⟩ := Option.bind_eq_some_iff.mp h
  obtain ⟨id, hid, h⟩ := Option.bind_eq_some_iff.mp h
  refine ⟨task, htask, ?_⟩
  split_ifs at h with hself hstale
  · obtain ⟨_, _, h⟩ := Option.bind_eq_some_iff.mp h
    split_ifs at h
    cases h
    exact ⟨hid, rfl⟩
  · cases h
    exact ⟨hid, rfl⟩

/-- **The edges of a graph** lead from what a branch closure lists to the branch closure, and
from closures of tasks that are not current to the one that is. -/
theorem edgesIn_refreshedEdges (hown : graph.OwnIds) (h : EdgesIn P graph.supersededBy)
    (htask : ∀ id evaluation task by', graph.evaluations.get? id = some evaluation →
      evaluation.identity.kind = .taskClosure → evaluation.freshness ≠ .current →
      graph.CurrentTask task by' → P id by')
    (hbranch : ∀ id evaluation, graph.evaluations.get? id = some evaluation →
      ∀ older, evaluation.supersedes = some older → P older id) :
    EdgesIn P (graph.refreshedEdges graph.taskRecordIds) := by
  unfold refreshedEdges
  refine List.foldlRecOn _ _ (motive := EdgesIn P) (List.foldlRecOn _ _ (motive := EdgesIn P) h ?_) ?_
  · intro edges ih edge hmem
    obtain ⟨evaluation, hvalue, hedge⟩ := List.mem_filterMap.mp hmem
    obtain ⟨hvalue, hkind⟩ := List.mem_filter.mp hvalue
    obtain ⟨id, hget⟩ := mem_values.mp hvalue
    obtain ⟨task, _, hcurrent, hid⟩ := taskSupersessionEdge_eq_some hedge
    obtain ⟨task', _, hcurrent⟩ := taskRecordIds_sound hown hcurrent
    rw [Bool.and_eq_true, decide_eq_true_eq] at hkind
    have hfresh : evaluation.freshness ≠ .current := by
      intro hfresh
      rw [hfresh] at hkind
      exact absurd hkind.2 (by decide)
    split_ifs
    · exact ih
    · refine ih.insert ?_
      rw [hid, hown id evaluation hget]
      exact htask id evaluation task' edge.2 hget hkind.1 hfresh hcurrent
  · intro edges ih evaluation hmem
    obtain ⟨id, hget⟩ := mem_values.mp (List.mem_filter.mp hmem).1
    cases holder : evaluation.supersedes with
    | none => exact ih
    | some older =>
      refine ih.insert ?_
      rw [hown id evaluation hget]
      exact hbranch id evaluation hget older holder

end

end AuthoritativeClosureGraph

end FeatureForge
