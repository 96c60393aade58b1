import FeatureForge.Closures.Edges
import Mathlib.Data.List.Induction
import Mathlib.Data.Prod.Lex

/-!
# Stale closures of tasks

A stale closure of a task is unresolved as long as no edge leads from it.  A graph without
signals has an edge from it where a branch closure lists it, and where the newest of the current
closures of its task has a larger number, the same plan and a surface that covers it
(`unresolvedStale_iff`).  The newest closure is the one with the greatest number, and among those
with one number the one whose id comes last (`taskRecordIds_iff`).
-/

namespace FeatureForge

/-- `ClosureGraphSignals::default`. -/
def noSignals : ClosureGraphSignals :=
  ⟨none, none, none, none, none, none, false, false, []⟩

namespace AuthoritativeClosureGraph

variable {graph : AuthoritativeClosureGraph}

/-- `earliest_unresolved_stale_task_number`. -/
def earliestUnresolvedStaleTaskNumber (graph : AuthoritativeClosureGraph) : Option UInt32 :=
  ((graph.evaluations.entries.filter fun entry => entry.2.identity.kind = .taskClosure &&
    entry.2.freshness = .staleUnreviewed && !graph.supersededBy.contains entry.1).filterMap
      fun entry => entry.2.identity.taskNumber).min?

/-- The evaluation of an id is that of a closure of a task, with a freshness. -/
structure TaskRecord (graph : AuthoritativeClosureGraph) (task : UInt32)
    (freshness : ClosureFreshness) (id : String) (evaluation : ClosureEvaluation) : Prop where
  get : graph.evaluations.get? id = some evaluation
  kind : evaluation.identity.kind = .taskClosure
  fresh : evaluation.freshness = freshness
  number : evaluation.identity.taskNumber = some task

/-- A task has a stale closure that nothing supersedes. -/
def UnresolvedStale (graph : AuthoritativeClosureGraph) (task : UInt32) : Prop :=
  ∃ id evaluation, graph.TaskRecord task .staleUnreviewed id evaluation ∧
    graph.supersededBy.contains id = false

theorem unresolvedStale_of_earliest {task : UInt32}
    (h : graph.earliestUnresolvedStaleTaskNumber = some task) : graph.UnresolvedStale task := by
  obtain ⟨⟨id, evaluation⟩, hmem, htask⟩ := List.mem_filterMap.mp (List.min?_mem h)
  obtain ⟨hmem, hstale⟩ := List.mem_filter.mp hmem
  simp only [Bool.and_eq_true, decide_eq_true_eq, Bool.not_eq_true'] at hstale
  exact ⟨id, evaluation, ⟨OrderedMap.mem_entries.mp hmem, hstale.1.1, hstale.1.2, htask⟩, hstale.2⟩

/-! ### The newest closure -/

/-- Closures by their numbers, and those of one number by their ids. -/
def rank (evaluation : ClosureEvaluation) : Nat ×ₗ String :=
  toLex (evaluation.identity.authoritativeSequence, evaluation.identity.recordId)

/-- The newest of some closures. -/
def Newest (contenders : ClosureEvaluation → Prop) (evaluation : ClosureEvaluation) : Prop :=
  contenders evaluation ∧ ∀ other, contenders other → rank other ≤ rank evaluation

/-- Two newest closures have one id. -/
theorem Newest.recordId_eq {contenders : ClosureEvaluation → Prop}
    {evaluation other : ClosureEvaluation} (h : Newest contenders evaluation)
    (h' : Newest contenders other) : evaluation.identity.recordId = other.identity.recordId := by
  have hrank : rank evaluation = rank other := le_antisymm (h'.2 evaluation h.1) (h.2 other h'.1)
  exact congrArg (fun p : Nat ×ₗ String => (ofLex p).2) hrank

theorem Newest.congr {contenders contenders' : ClosureEvaluation → Prop}
    (h : ∀ evaluation, contenders evaluation ↔ contenders' evaluation)
    (evaluation : ClosureEvaluation) :
    Newest contenders evaluation ↔ Newest contenders' evaluation := by
  rw [funext fun evaluation => propext (h evaluation)]

/-- **The fold names the newest** of the closures of a task, where the ids of the closures
ascend. -/
theorem newestTaskRecords_newest {evaluations : List ClosureEvaluation}
    (hsorted : evaluations.Pairwise fun older newer =>
      older.identity.recordId < newer.identity.recordId) {task : UInt32} {entry : Nat × String}
    (h : (newestTaskRecords evaluations).get? task.toNat = some entry) :
    ∃ evaluation, Newest (fun other => other ∈ evaluations ∧
      other.identity.taskNumber = some task) evaluation ∧ rank evaluation = toLex entry := by
  induction evaluations using List.reverseRecOn generalizing entry with
  | nil =>
    cases h
  | append_singleton evaluations last ih =>
    have hfold : newestTaskRecords (evaluations ++ [last]) =
        newestTaskRecord (newestTaskRecords evaluations) last := List.foldl_append
    rw [hfold] at h
    obtain ⟨hsorted, _, hlast⟩ := List.pairwise_append.mp hsorted
    -- the last closure is of this task, or everything stays as it was
    by_cases htask : last.identity.taskNumber = some task
    · have hnew : ∀ other ∈ evaluations, other.identity.recordId < last.identity.recordId :=
        fun other hother => hlast other hother last List.mem_cons_self
      have hsplit : ∀ other, other ∈ evaluations ++ [last] → other ∈ evaluations ∨ other = last :=
        fun other hother => (List.mem_append.mp hother).imp_right List.mem_singleton.mp
      unfold newestTaskRecord at h
      rw [htask] at h
      dsimp only at h
      cases hold : (newestTaskRecords evaluations).get? task.toNat with
      | none =>
        rw [hold] at h
        dsimp only at h
        rw [OrderedMap.get?_insert_self] at h
        cases h
        refine ⟨last, ⟨⟨List.mem_append_right _ List.mem_cons_self, htask⟩, ?_⟩, rfl⟩
        rintro other ⟨hmem, hother⟩
        rcases hsplit other hmem with hmem | rfl
        · obtain ⟨entry, hentry⟩ := newestTaskRecords_complete hmem hother
          cases hold.symm.trans hentry
        · exact le_rfl
      | some old =>
        obtain ⟨newest, hnewest, hrank⟩ := ih hsorted hold
        rw [hold] at h
        dsimp only at h
        by_cases hle : old.1 ≤ last.identity.authoritativeSequence
        · rw [if_pos hle, OrderedMap.get?_insert_self] at h
          cases h
          refine ⟨last, ⟨⟨List.mem_append_right _ List.mem_cons_self, htask⟩, ?_⟩, rfl⟩
          rintro other ⟨hmem, hother⟩
          rcases hsplit other hmem with hmem | rfl
          · refine (hnewest.2 other ⟨hmem, hother⟩).trans ?_
            have hid : old.2 < last.identity.recordId := by
              have hid : newest.identity.recordId = old.2 := congrArg (fun p : Nat ×ₗ String => (ofLex p).2) hrank
              exact hid ▸ hnew newest hnewest.1.1
            rw [hrank, rank, Prod.Lex.toLex_le_toLex]
            exact (lt_or_eq_of_le hle).imp_right fun heq => ⟨heq, hid.le⟩
          · exact le_rfl
        · rw [if_neg hle, hold] at h
          cases h
          refine ⟨newest, ⟨⟨List.mem_append_left _ hnewest.1.1, hnewest.1.2⟩, ?_⟩, hrank⟩
          rintro other ⟨hmem, hother⟩
          rcases hsplit other hmem with hmem | rfl
          · exact hnewest.2 other ⟨hmem, hother⟩
          · rw [hrank, rank, Prod.Lex.toLex_le_toLex]
            exact Or.inl (not_le.mp hle)
    · have hsame : (newestTaskRecord (newestTaskRecords evaluations) last).get? task.toNat =
          (newestTaskRecords evaluations).get? task.toNat := by
        cases hnumber : last.identity.taskNumber with
        | none =>
          unfold newestTaskRecord
          rw [hnumber]
        | some other =>
          rcases newestTaskRecord_or (newestTaskRecords evaluations) hnumber with hinsert | ⟨hsame, _⟩
          · have hne : task.toNat ≠ other.toNat := fun heq =>
              htask (UInt32.toNat.inj heq ▸ hnumber)
            rw [hinsert, OrderedMap.get?_insert_of_ne _ _ hne]
          · rw [hsame]
      rw [hsame] at h
      obtain ⟨newest, hnewest, hrank⟩ := ih hsorted h
      refine ⟨newest, ⟨⟨List.mem_append_left _ hnewest.1.1, hnewest.1.2⟩, ?_⟩, hrank⟩
      rintro other ⟨hmem, hother⟩
      rcases List.mem_append.mp hmem with hmem | hmem
      · exact hnewest.2 other ⟨hmem, hother⟩
      · cases List.mem_singleton.mp hmem
        exact absurd hother htask

/-- The current closures of a task. -/
def CurrentOf (graph : AuthoritativeClosureGraph) (task : UInt32) (evaluation : ClosureEvaluation) :
    Prop :=
  graph.TaskRecord task .current evaluation.identity.recordId evaluation

theorem pairwise_values (h : graph.OwnIds) : graph.values.Pairwise fun older newer =>
    older.identity.recordId < newer.identity.recordId := by
  have hsorted := List.pairwise_map.mp graph.evaluations.sorted
  refine List.pairwise_map.mpr (hsorted.imp_of_mem fun {older newer} hold hnew hlt => ?_)
  rwa [h older.1 older.2 (OrderedMap.mem_entries.mp hold),
    h newer.1 newer.2 (OrderedMap.mem_entries.mp hnew)]

/-- **A graph names the newest of the current closures** of a task. -/
theorem taskRecordIds_iff (h : graph.OwnIds) {task : UInt32} {id : String} :
    graph.taskRecordIds.get? task.toNat = some id ↔
      ∃ newest, Newest (graph.CurrentOf task) newest ∧ newest.identity.recordId = id := by
  have hmem : ∀ evaluation, (evaluation ∈ graph.values.filter fun evaluation =>
      evaluation.identity.kind = .taskClosure && evaluation.freshness = .current) ∧
        evaluation.identity.taskNumber = some task ↔ graph.CurrentOf task evaluation := by
    intro evaluation
    rw [List.mem_filter, mem_values, Bool.and_eq_true, decide_eq_true_eq, decide_eq_true_eq]
    constructor
    · rintro ⟨⟨⟨id, hget⟩, hkind, hfresh⟩, htask⟩
      exact ⟨(h id evaluation hget).symm ▸ hget, hkind, hfresh, htask⟩
    · rintro ⟨hget, hkind, hfresh, htask⟩
      exact ⟨⟨⟨_, hget⟩, hkind, hfresh⟩, htask⟩
  have hnamed : ∀ {id}, graph.taskRecordIds.get? task.toNat = some id →
      ∃ newest, Newest (graph.CurrentOf task) newest ∧ newest.identity.recordId = id := by
    intro id hget
    unfold taskRecordIds at hget
    rw [OrderedMap.get?_mapVal] at hget
    obtain ⟨entry, hentry, rfl⟩ := Option.map_eq_some_iff.mp hget
    obtain ⟨newest, hnewest, hrank⟩ :=
      newestTaskRecords_newest ((pairwise_values h).filter _) hentry
    exact ⟨newest, (Newest.congr hmem newest).mp hnewest, congrArg (fun p : Nat ×ₗ String => (ofLex p).2) hrank⟩
  refine ⟨hnamed, ?_⟩
  rintro ⟨newest, hnewest, rfl⟩
  obtain ⟨id, hid⟩ := taskRecordIds_complete
    ⟨newest, hnewest.1.get, hnewest.1.kind, hnewest.1.fresh, hnewest.1.number⟩
  obtain ⟨other, hother, rfl⟩ := hnamed hid
  rw [hid, hother.recordId_eq hnewest]

/-! ### Edges from stale closures -/

/-- A current closure settles a stale one: its number is larger, its plan is the same, and its
surface covers that of the stale one. -/
def Settles (newest stale : ClosureEvaluation) : Prop :=
  stale.identity.authoritativeSequence < newest.identity.authoritativeSequence ∧
    taskClosureHasSamePlanScope stale newest = true ∧
      taskClosureSurfaceIsSameOrBroader newest stale = true

theorem taskSupersessionEdge_stale (h : graph.OwnIds) {task : UInt32} {id : String}
    {stale : ClosureEvaluation} (hstale : graph.TaskRecord task .staleUnreviewed id stale) :
    (graph.taskSupersessionEdge graph.taskRecordIds stale).isSome = true ↔
      ∃ newest, Newest (graph.CurrentOf task) newest ∧ Settles newest stale := by
  unfold taskSupersessionEdge
  rw [hstale.number, Option.bind_eq_bind, Option.bind_some]
  cases hid : graph.taskRecordIds.get? task.toNat with
  | none =>
    refine iff_of_false nofun ?_
    rintro ⟨newest, hnewest, _⟩
    cases hid.symm.trans ((taskRecordIds_iff h).mpr ⟨newest, hnewest, rfl⟩)
  | some current =>
    obtain ⟨newest, hnewest, rfl⟩ := (taskRecordIds_iff h).mp hid
    have hne : newest.identity.recordId ≠ stale.identity.recordId := by
      intro heq
      have hget := hnewest.1.get
      rw [heq, h id stale hstale.get, hstale.get] at hget
      cases hget
      cases hstale.fresh.symm.trans hnewest.1.fresh
    have hother : ∀ other, Newest (graph.CurrentOf task) other → other = newest := by
      intro other hother
      have hget := hother.1.get
      rw [hother.recordId_eq hnewest] at hget
      exact Option.some.inj (hget.symm.trans hnewest.1.get)
    have hiff : (∃ newest, Newest (graph.CurrentOf task) newest ∧ Settles newest stale) ↔
        Settles newest stale := by
      constructor
      · rintro ⟨other, hnewer, hsettles⟩
        rwa [hother other hnewer] at hsettles
      · exact fun hsettles => ⟨newest, hnewest, hsettles⟩
    rw [hiff, Option.bind_eq_bind, Option.bind_some, if_neg hne, if_pos hstale.fresh,
      hnewest.1.get, Option.bind_eq_bind, Option.bind_some, Settles]
    split_ifs with hle hplan hsurface
    · exact iff_of_false nofun fun hsettles => absurd hsettles.1 (not_lt.mpr hle)
    · rw [Bool.not_eq_true'] at hplan
      exact iff_of_false nofun fun hsettles => by simp [hplan] at hsettles
    · rw [Bool.not_eq_true'] at hsurface
      exact iff_of_false nofun fun hsettles => by simp [hsurface] at hsettles
    · rw [Bool.not_eq_true', Bool.not_eq_false] at hplan hsurface
      exact iff_of_true rfl ⟨not_le.mp hle, hplan, hsurface⟩

theorem contains_foldl_absent (edges : List (String × String)) (before : OrderedMap String String)
    (id : String) :
    (edges.foldl (fun supersededBy edge =>
      if supersededBy.contains edge.1 then supersededBy else supersededBy.insert edge.1 edge.2)
        before).contains id = true ↔
      before.contains id = true ∨ id ∈ edges.map Prod.fst := by
  induction edges generalizing before with
  | nil => simp
  | cons edge edges ih =>
    rw [List.foldl_cons, ih, List.map_cons, List.mem_cons, ← or_assoc]
    refine or_congr_left ?_
    split_ifs with hcontains
    · exact (or_iff_left_of_imp fun heq => heq ▸ hcontains).symm
    · rw [OrderedMap.contains, OrderedMap.contains, OrderedMap.get?_insert]
      split_ifs with heq
      · exact iff_of_true rfl (Or.inr heq)
      · exact (or_iff_left heq).symm

/-- What the current records supersede already has an edge. -/
def EdgedSupersessions (graph : AuthoritativeClosureGraph) : Prop :=
  ∀ id evaluation, graph.evaluations.get? id = some evaluation → ∀ older,
    evaluation.supersedes = some older → graph.supersededBy.contains older = true

/-- **Which records have an edge** after a refresh. -/
theorem contains_refreshedEdges (h : graph.EdgedSupersessions) (id : String) :
    (graph.refreshedEdges graph.taskRecordIds).contains id = true ↔
      graph.supersededBy.contains id = true ∨
        id ∈ (graph.taskSupersessionEdges graph.taskRecordIds).map Prod.fst := by
  have hbefore := contains_foldl_absent (graph.taskSupersessionEdges graph.taskRecordIds)
    graph.supersededBy
  rw [← hbefore]
  unfold refreshedEdges
  refine List.foldlRecOn _ _ (motive := fun edges : OrderedMap String String =>
    edges.contains id = true ↔ _) Iff.rfl ?_
  intro edges ih evaluation hmem
  cases hsupersedes : evaluation.supersedes with
  | none => exact ih
  | some older =>
    obtain ⟨recordId, hget⟩ := mem_values.mp (List.mem_filter.mp hmem).1
    dsimp only
    rw [OrderedMap.contains, OrderedMap.get?_insert]
    split_ifs with heq
    · refine iff_of_true rfl ((hbefore id).mpr (Or.inl ?_))
      exact heq ▸ h recordId evaluation hget older hsupersedes
    · exact ih

theorem mem_taskSupersessionEdges (h : graph.OwnIds) {task : UInt32} {id : String}
    {stale : ClosureEvaluation} (hstale : graph.TaskRecord task .staleUnreviewed id stale) :
    id ∈ (graph.taskSupersessionEdges graph.taskRecordIds).map Prod.fst ↔
      ∃ newest, Newest (graph.CurrentOf task) newest ∧ Settles newest stale := by
  rw [← taskSupersessionEdge_stale h hstale, Option.isSome_iff_exists, List.mem_map]
  constructor
  · rintro ⟨edge, hedge, rfl⟩
    obtain ⟨evaluation, hvalue, hedge⟩ := List.mem_filterMap.mp hedge
    obtain ⟨_, _, _, hid⟩ := taskSupersessionEdge_eq_some hedge
    obtain ⟨recordId, hget⟩ := mem_values.mp (List.mem_filter.mp hvalue).1
    rw [h recordId evaluation hget] at hid
    rw [← hid] at hget
    exact ⟨edge, Option.some.inj (hget.symm.trans hstale.get) ▸ hedge⟩
  · rintro ⟨edge, hedge⟩
    obtain ⟨_, _, _, hid⟩ := taskSupersessionEdge_eq_some hedge
    refine ⟨edge, List.mem_filterMap.mpr ⟨stale, List.mem_filter.mpr ⟨?_, ?_⟩, hedge⟩, ?_⟩
    · exact mem_values.mpr ⟨id, hstale.get⟩
    · rw [hstale.kind, hstale.fresh]
      rfl
    · rw [hid, h id stale hstale.get]

/-! ### What the histories give -/

/-- An evaluation that a history gives is of one of its records. -/
theorem ingest_origin {evaluationOf : String → Json → Option ClosureEvaluation} {history : Object}
    {id : String} {evaluation : ClosureEvaluation}
    (h : (graph.ingest evaluationOf history).evaluations.get? id = some evaluation) :
    graph.evaluations.get? id = some evaluation ∨ ∃ key payload,
      history.get? key = some payload ∧ evaluationOf key payload = some evaluation := by
  rw [ingest_eq] at h
  refine List.foldlRecOn history.entries _ (motive := fun graph' : AuthoritativeClosureGraph =>
    graph'.evaluations.get? id = some evaluation → graph.evaluations.get? id = some evaluation ∨
      ∃ key payload, history.get? key = some payload ∧ evaluationOf key payload = some evaluation)
    Or.inl ?_ h
  intro graph' ih record hmem hget
  unfold ingestRecord at hget
  cases hread : evaluationOf record.1 record.2 with
  | none =>
    rw [hread] at hget
    exact ih hget
  | some read =>
    rw [hread] at hget
    dsimp only at hget
    rw [get?_upsertEvaluation] at hget
    split_ifs at hget
    · cases hget
      exact Or.inr ⟨record.1, record.2, OrderedMap.mem_entries.mp hmem, hread⟩
    · exact ih hget

/-- **The reading of a record** depends on what was read under its id, and on nothing else. -/
theorem ingest_local {graph' : AuthoritativeClosureGraph} {id : String}
    (h : graph.evaluations.get? id = graph'.evaluations.get? id)
    (evaluationOf : String → Json → Option ClosureEvaluation) (history : Object) :
    (graph.ingest evaluationOf history).evaluations.get? id =
      (graph'.ingest evaluationOf history).evaluations.get? id := by
  rw [ingest_eq, ingest_eq]
  induction history.entries generalizing graph graph' with
  | nil => exact h
  | cons record records ih =>
    refine ih ?_
    unfold ingestRecord
    cases evaluationOf record.1 record.2 with
    | none => exact h
    | some evaluation =>
      dsimp only
      rw [get?_upsertEvaluation, get?_upsertEvaluation, h]

/-- A history reads a record under an id. -/
def Reads (evaluationOf : String → Json → Option ClosureEvaluation) (history : Object)
    (id : String) : Prop :=
  ∃ key payload evaluation, history.get? key = some payload ∧
    evaluationOf key payload = some evaluation ∧ evaluation.identity.recordId = id

theorem ingest_of_not_reads {evaluationOf : String → Json → Option ClosureEvaluation}
    {history : Object} {id : String} (h : ¬ Reads evaluationOf history id) :
    (graph.ingest evaluationOf history).evaluations.get? id = graph.evaluations.get? id := by
  rw [ingest_eq]
  refine List.foldlRecOn history.entries _ (motive := fun graph' : AuthoritativeClosureGraph =>
    graph'.evaluations.get? id = graph.evaluations.get? id) rfl ?_
  intro graph' ih record hmem
  unfold ingestRecord
  cases hread : evaluationOf record.1 record.2 with
  | none => exact ih
  | some evaluation =>
    dsimp only
    rw [get?_upsertEvaluation, if_neg]
    · exact ih
    · rintro ⟨rfl, _⟩
      exact h ⟨record.1, record.2, evaluation, OrderedMap.mem_entries.mp hmem, hread, rfl⟩

/-- The edges to branch closures. -/
def branchEdges (records : List (String × Json)) (edges : OrderedMap String String) :
    OrderedMap String String :=
  records.foldl (fun edges record =>
    match branchClosureEvaluation record.1 record.2 with
    | none => edges
    | some evaluation =>
      (valueStringArray record.2 "superseded_branch_closure_ids").foldl
        (fun supersededBy supersededRecordId =>
          supersededBy.insert supersededRecordId evaluation.identity.recordId) edges) edges

theorem supersededBy_ingestBranchClosures : ∀ (records : List (String × Json))
    (graph : AuthoritativeClosureGraph),
    (records.foldl (fun graph record => graph.ingestBranchClosure record.1 record.2)
      graph).supersededBy = branchEdges records graph.supersededBy := by
  intro records
  induction records with
  | nil => exact fun _ => rfl
  | cons record records ih =>
    intro graph
    rw [List.foldl_cons, ih, branchEdges, branchEdges, List.foldl_cons]
    refine congrArg (fun edges => List.foldl _ edges records) ?_
    unfold ingestBranchClosure
    cases branchClosureEvaluation record.1 record.2 with
    | none => rfl
    | some evaluation => exact supersededBy_upsertEvaluation evaluation

theorem supersededBy_evaluated (snapshot : ClosureHistorySnapshot) (signals : ClosureGraphSignals) :
    (evaluated snapshot signals).supersededBy =
      branchEdges snapshot.branchClosureRecords.entries .empty := by
  unfold evaluated applySupersededTaskIds
  rw [supersededBy_applyLateStageStaleProjection]
  show (ingest _ _ _).supersededBy = _
  rw [supersededBy_ingest, supersededBy_ingest, supersededBy_ingest]
  refine (supersededBy_ingestBranchClosures _ _).trans ?_
  rw [supersededBy_ingest]
  rfl

theorem contains_foldl_insert {superseder : String} (ids : List String)
    (edges : OrderedMap String String) (id : String) :
    (ids.foldl (fun supersededBy supersededRecordId =>
      supersededBy.insert supersededRecordId superseder) edges).contains id = true ↔
        id ∈ ids ∨ edges.contains id = true := by
  induction ids generalizing edges with
  | nil => simp
  | cons first ids ih =>
    rw [List.foldl_cons, ih, OrderedMap.contains, OrderedMap.get?_insert, List.mem_cons]
    split_ifs with heq
    · exact iff_of_true (Or.inr rfl) (Or.inl (Or.inl heq))
    · rw [or_iff_right heq]
      rfl

theorem contains_branchEdges {key id : String} {payload : Json} {evaluation : ClosureEvaluation}
    (hread : branchClosureEvaluation key payload = some evaluation)
    (hid : id ∈ valueStringArray payload "superseded_branch_closure_ids") :
    ∀ {records : List (String × Json)} (edges : OrderedMap String String),
      (key, payload) ∈ records → (branchEdges records edges).contains id = true := by
  have hkept : ∀ (records : List (String × Json)) (edges : OrderedMap String String),
      edges.contains id = true → (branchEdges records edges).contains id = true := by
    intro records edges hedges
    refine List.foldlRecOn records _ (motive := fun edges : OrderedMap String String =>
      edges.contains id = true) hedges ?_
    intro edges ih record _
    cases branchClosureEvaluation record.1 record.2 with
    | none => exact ih
    | some other => exact (contains_foldl_insert _ _ _).mpr (Or.inr ih)
  intro records
  induction records with
  | nil => exact fun _ hmem => absurd hmem List.not_mem_nil
  | cons record records ih =>
    intro edges hmem
    rcases List.mem_cons.mp hmem with rfl | hmem
    · refine hkept records _ ?_
      dsimp only
      rw [hread]
      exact (contains_foldl_insert _ _ _).mpr (Or.inl hid)
    · exact ih _ hmem

/-- The histories of which no record supersedes another. -/
theorem supersedes_milestoneEvaluation {kind : ClosureKind}
    {binding : Json → ClosureDependencyBinding} {key : String} {payload : Json}
    {evaluation : ClosureEvaluation}
    (h : milestoneEvaluation kind binding key payload = some evaluation) :
    evaluation.supersedes = none ∧ evaluation.identity.kind = kind := by
  unfold milestoneEvaluation at h
  dsimp only at h
  split_ifs at h
  cases h
  exact ⟨rfl, rfl⟩

theorem supersedes_taskClosureEvaluation {key : String} {payload : Json}
    {evaluation : ClosureEvaluation} (h : taskClosureEvaluation key payload = some evaluation) :
    evaluation.supersedes = none ∧ evaluation.identity.kind = .taskClosure := by
  unfold taskClosureEvaluation at h
  cases htask : valueU32 payload "task" with
  | none =>
    rw [htask] at h
    cases h
  | some task =>
    rw [htask] at h
    dsimp only at h
    split_ifs at h
    cases h
    exact ⟨rfl, rfl⟩

theorem supersedes_branchClosureEvaluation {key : String} {payload : Json}
    {evaluation : ClosureEvaluation} (h : branchClosureEvaluation key payload = some evaluation) :
    evaluation.supersedes = (valueStringArray payload "superseded_branch_closure_ids").head? ∧
      evaluation.identity.kind = .branchClosure := by
  unfold branchClosureEvaluation at h
  dsimp only at h
  split_ifs at h
  cases h
  exact ⟨rfl, rfl⟩

theorem EdgedSupersessions.ingest (h : graph.EdgedSupersessions)
    (evaluationOf : String → Json → Option ClosureEvaluation) (history : Object)
    (hnone : ∀ key payload evaluation, evaluationOf key payload = some evaluation →
      evaluation.supersedes = none) : (graph.ingest evaluationOf history).EdgedSupersessions := by
  intro id evaluation hget older holder
  rw [supersededBy_ingest]
  rcases ingest_origin hget with hget | ⟨key, payload, _, hread⟩
  · exact h id evaluation hget older holder
  · cases (hnone key payload evaluation hread).symm.trans holder

theorem EdgedSupersessions.map {graph' : AuthoritativeClosureGraph} (h : graph.EdgedSupersessions)
    (hedges : graph'.supersededBy = graph.supersededBy)
    {f : String → ClosureEvaluation → ClosureEvaluation}
    (hf : ∀ id evaluation, (f id evaluation).supersedes = evaluation.supersedes)
    (hmap : ∀ id, graph'.evaluations.get? id = (graph.evaluations.get? id).map (f id)) :
    graph'.EdgedSupersessions := by
  intro id evaluation hget older holder
  rw [hmap] at hget
  obtain ⟨evaluation', hget', rfl⟩ := Option.map_eq_some_iff.mp hget
  rw [hf] at holder
  exact hedges ▸ h id evaluation' hget' older holder

theorem EdgedSupersessions.supersede (h : graph.EdgedSupersessions)
    (before : List ClosureFreshness) (recordIds : List String) :
    (graph.supersede before recordIds).EdgedSupersessions := by
  refine h.map rfl (fun id evaluation => ?_) (get?_supersede before graph recordIds)
  split_ifs <;> rfl

/-- **What a record of the histories supersedes has an edge.** -/
theorem edgedSupersessions_evaluated (snapshot : ClosureHistorySnapshot)
    (signals : ClosureGraphSignals) : (evaluated snapshot signals).EdgedSupersessions := by
  have hbranch : ((empty.ingest taskClosureEvaluation
      snapshot.taskClosureRecordHistory).ingestBranchClosureHistory snapshot.branchClosureRecords
        snapshot.supersededBranchClosureIds).EdgedSupersessions := by
    refine EdgedSupersessions.supersede ?_ _ _
    intro id evaluation hget older holder
    rw [evaluations_ingestBranchClosures _ _ _ rfl, ← ingest_eq] at hget
    rw [supersededBy_ingestBranchClosures]
    rcases ingest_origin hget with hget | ⟨key, payload, hrecord, hread⟩
    · -- a closure of a task supersedes nothing by itself
      rcases ingest_origin hget with hget | ⟨key, payload, _, hread⟩
      · cases hget
      · cases (supersedes_taskClosureEvaluation hread).1.symm.trans holder
    · refine contains_branchEdges hread ?_ _ (OrderedMap.mem_entries.mpr hrecord)
      rw [(supersedes_branchClosureEvaluation hread).1] at holder
      exact List.mem_of_mem_head? holder
  have hreadiness := hbranch.ingest releaseReadinessEvaluation
    snapshot.releaseReadinessRecordHistory fun _ _ _ h => (supersedes_milestoneEvaluation h).1
  have hreview := hreadiness.ingest finalReviewEvaluation snapshot.finalReviewRecordHistory
    fun _ _ _ h => (supersedes_milestoneEvaluation h).1
  have hqa := hreview.ingest browserQaEvaluation snapshot.browserQaRecordHistory
    fun _ _ _ h => (supersedes_milestoneEvaluation h).1
  refine (hqa.supersede [.current, .staleUnreviewed, .historical]
    snapshot.supersededTaskClosureIds).map
      (supersededBy_applyLateStageStaleProjection signals) (fun id evaluation => ?_)
        (get?_applyLateStageStaleProjection signals _)
  split_ifs <;> rfl

/-- **When a task has an unresolved stale closure**: no branch closure lists it, and the newest
current closure of the task, if there is one, does not settle it. -/
theorem unresolvedStale_iff (snapshot : ClosureHistorySnapshot) (signals : ClosureGraphSignals)
    (task : UInt32) :
    (fromSnapshot snapshot signals).UnresolvedStale task ↔
      ∃ id stale, (evaluated snapshot signals).TaskRecord task .staleUnreviewed id stale ∧
        (evaluated snapshot signals).supersededBy.contains id = false ∧
          ¬ ∃ newest, Newest ((evaluated snapshot signals).CurrentOf task) newest ∧
            Settles newest stale := by
  have hown := ownIds_evaluated snapshot signals
  refine exists_congr fun id => exists_congr fun stale => ?_
  have hrecord : (fromSnapshot snapshot signals).TaskRecord task .staleUnreviewed id stale ↔
      (evaluated snapshot signals).TaskRecord task .staleUnreviewed id stale :=
    ⟨fun h => ⟨h.get, h.kind, h.fresh, h.number⟩, fun h => ⟨h.get, h.kind, h.fresh, h.number⟩⟩
  rw [hrecord]
  refine and_congr_right fun hstale => ?_
  show ((evaluated snapshot signals).refreshedEdges _).contains id = false ↔ _
  rw [← Bool.not_eq_true, contains_refreshedEdges (edgedSupersessions_evaluated snapshot signals),
    mem_taskSupersessionEdges hown hstale, not_or, Bool.not_eq_true]

end AuthoritativeClosureGraph

end FeatureForge
