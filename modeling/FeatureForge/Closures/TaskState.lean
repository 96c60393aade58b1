import FeatureForge.Closures.Evaluations
import FeatureForge.Closures.TaskFiling

/-!
# Task closures of a state

The operations on task closures, on a state whose two maps are in step (`TaskState`): what is
current after each (`removeCurrentTaskClosureResults_ok`, `closeCurrentTask_ok`), and that
`currentTaskClosureResult` reads it (`currentTaskClosureResult_iff`).
-/

namespace FeatureForge

variable {run : ExecutionRun} {s s' : StateObject} {r : TaskClosureResultRecord}

structure TaskState (run : ExecutionRun) (s : StateObject) : Prop where
  runIdentity : s .runIdentity = some run.runIdentity
  closures : TaskClosures run (objectEntries (s .taskClosureRecordHistory))
    (objectEntries (s .currentTaskClosureRecords))

/-- The closure `id` of a task is current in a state. -/
def IsCurrentClosure (run : ExecutionRun) (s : StateObject) (task : UInt32) (id : String) : Prop :=
  CurrentClosure run (objectEntries (s .taskClosureRecordHistory)) task id

/-! ### Reading -/

/-- What the history holds of a filed record, and its reading. -/
theorem FiledAs.read {history : Object} {status : String} (h : FiledAs run history r status) :
    ∃ payload record, history.get? r.closureRecordId = some payload ∧
      jsonString (payload.get? "record_status") = some status ∧
      jsonU32 (payload.get? "task") = some r.task ∧
      currentTaskClosureRecordFromPayload r.task payload = some record ∧
      record.task = r.task ∧ record.closureRecordId = r.closureRecordId ∧
      record.effectiveReviewedSurfacePaths = r.effectiveReviewedSurfacePaths.map trim ∧
      record.sourcePlanPath = some run.plan.planRel ∧
      record.sourcePlanRevision = some run.plan.planRevision ∧
      record.executionRunId = some run.executionRunId := by
  obtain ⟨payload, n, hget, hmarked⟩ := h.filed
  obtain ⟨record, hread, htask, hid, hpaths, hpath, hrevision, hrun⟩ := hmarked.readTask h.issued
  refine ⟨payload, record, hget, ?_, ?_, hread, htask, hid, hpaths, ?_, ?_, ?_⟩
  · rw [member_recordStatus hmarked, jsonString_status h.known]
  · rw [member_task hmarked, jsonU32_u64]
  · rw [hpath]
    show jsonString (some (optionStr (jsonString (run.runIdentity.get? "source_plan_path")))) = _
    rw [run.sourcePlanPath]
    exact jsonString_str (trimmed_of_nonBlank run.sourcePlanPath)
  · rw [hrevision]
    show jsonU32 (some (optionU32 (jsonU32 (run.runIdentity.get? "source_plan_revision")))) = _
    rw [run.sourcePlanRevision]
    exact jsonU32_u64 _
  · rw [hrun, h.executionRunId]
    have hnamed := trimmed_of_nonBlank run.identified
    rw [nonBlank_of_trimmed hnamed]
    exact jsonString_str hnamed

theorem TaskState.exists_filed (hs : TaskState run s) {id : String} {payload : Json}
    (hmem : (id, payload) ∈ (objectEntries (s .taskClosureRecordHistory)).entries) :
    ∃ r status, r.closureRecordId = id ∧
      FiledAs run (objectEntries (s .taskClosureRecordHistory)) r status :=
  hs.closures.filed id payload (OrderedMap.mem_entries.mp hmem)

/-- What the history reads of a task is filed as current. -/
theorem TaskState.history_entry (hs : TaskState run s) {task : UInt32}
    {record : CurrentTaskClosureRecord}
    (h : (currentTaskClosureResultsFromHistory s).get? task.toNat = some record) :
    ∃ r payload, FiledAs run (objectEntries (s .taskClosureRecordHistory)) r "current" ∧
      r.task = task ∧ r.closureRecordId = record.closureRecordId ∧
      (objectEntries (s .taskClosureRecordHistory)).get? r.closureRecordId = some payload ∧
      currentTaskClosureRecordFromPayload r.task payload = some record := by
  have hmem := OrderedMap.mem_of_get?_ofList h
  obtain ⟨⟨id, payload⟩, hentry, hresult⟩ := List.mem_filterMap.mp hmem
  obtain ⟨r, status, rfl, hr⟩ := hs.exists_filed hentry
  obtain ⟨payload', record', hget, hstatus, htask, hread, _, hid, _⟩ := hr.read
  cases hget.symm.trans (OrderedMap.mem_entries.mp hentry)
  dsimp only at hresult
  rw [hstatus, htask, Option.bind_some, hread, Option.map_some] at hresult
  split_ifs at hresult with hcurrent
  cases hcurrent
  obtain ⟨htask, rfl⟩ := Prod.mk.inj (Option.some.inj hresult)
  exact ⟨r, payload, hr, UInt32.toNat.inj htask, hid.symm, hget, hread⟩

theorem TaskState.get?_history (hs : TaskState run s) {task : UInt32}
    {record : CurrentTaskClosureRecord}
    (h : (currentTaskClosureResultsFromHistory s).get? task.toNat = some record) :
    IsCurrentClosure run s task record.closureRecordId := by
  obtain ⟨r, _, hr, htask, hid, _⟩ := hs.history_entry h
  exact ⟨r, hr, htask, hid⟩

theorem IsCurrentClosure.exists_history {task : UInt32} {id : String}
    (h : IsCurrentClosure run s task id) :
    ∃ record, (currentTaskClosureResultsFromHistory s).get? task.toNat = some record := by
  obtain ⟨r, hr, rfl, rfl⟩ := h
  obtain ⟨payload, record, hget, hstatus, htask, hread, _⟩ := hr.read
  refine OrderedMap.exists_get?_ofList (v := record) (List.mem_filterMap.mpr
    ⟨(r.closureRecordId, payload), OrderedMap.mem_entries.mpr hget, ?_⟩)
  dsimp only
  rw [if_pos hstatus, htask, Option.bind_some, hread, Option.map_some]

theorem TaskState.rawClosureRecordId_iff (hs : TaskState run s) {task : UInt32} {id : String} :
    rawClosureRecordId s (taskScopeKey task) = some id ↔ IsCurrentClosure run s task id := by
  constructor
  · intro h
    obtain ⟨payload, hget, hread⟩ := Option.bind_eq_some_iff.mp h
    obtain ⟨task', id', hkey, hread', hcurrent⟩ := hs.closures.raw _ _ hget
    rw [taskScopeKey_injective hkey, Option.some.inj (hread.symm.trans hread')]
    exact hcurrent
  · intro h
    obtain ⟨payload, hget, hread⟩ := hs.closures.live task id h
    rw [rawClosureRecordId, hget, Option.bind_some, hread]

/-- **The state reads the current closure** of a task. -/
theorem TaskState.currentTaskClosureResult_iff (hs : TaskState run s) {task : UInt32}
    {id : String} :
    (currentTaskClosureResult s task).map CurrentTaskClosureRecord.closureRecordId = some id ↔
      IsCurrentClosure run s task id := by
  constructor
  · intro h
    obtain ⟨record, hresult, rfl⟩ := Option.map_eq_some_iff.mp h
    rcases Option.or_eq_some_iff.mp hresult with hhistory | ⟨_, hraw⟩
    · exact hs.get?_history hhistory
    · -- a record of the current map is also current in the history
      obtain ⟨payload, hget, hread⟩ := Option.bind_eq_some_iff.mp hraw
      refine hs.rawClosureRecordId_iff.mp ?_
      rw [rawClosureRecordId, hget, Option.bind_some]
      simp only [currentTaskClosureRecordFromPayload, Option.bind_eq_bind,
        Option.bind_eq_some_iff] at hread
      obtain ⟨_, _, closureId, hid, _, _, _, _, _, _, _, _, _, _, _, _, _, _, hrecord⟩ := hread
      cases hrecord
      exact hid
  · intro h
    obtain ⟨record, hhistory⟩ := h.exists_history
    rw [currentTaskClosureResult, hhistory, Option.some_or, Option.map_some,
      hs.closures.unique (hs.get?_history hhistory) h]

/-! ### Taking back -/

theorem takeBackTaskClosures_ok {scopeKeys closureIds : List String} {status : String}
    (h : takeBackTaskClosures scopeKeys closureIds status s = .ok s') :
    (∀ g, g ≠ .currentTaskClosureRecords → g ≠ .taskClosureRecordHistory → s' g = s g) ∧
      objectEntries (s' .currentTaskClosureRecords) =
        scopeKeys.foldl OrderedMap.erase (objectEntries (s .currentTaskClosureRecords)) ∧
      objectEntries (s' .taskClosureRecordHistory) =
        markAll status (objectEntries (s .taskClosureRecordHistory)) closureIds := by
  obtain ⟨records, hrecords, h⟩ := bind_ok h
  rw [recordsMut_ok hrecords] at h
  split_ifs at h with hnone
  · cases h
    refine ⟨fun g hcurrent _ => set_of_ne _ _ hcurrent, ?_, ?_⟩
    · rw [set_self, objectEntries_obj]
    · rw [set_of_ne _ _ (by decide), hnone]
      rfl
  · obtain ⟨history, hhistory, h⟩ := bind_ok h
    cases h
    refine ⟨fun g hcurrent hhistory => ?_, ?_, ?_⟩
    · rw [set_of_ne _ _ hhistory, set_of_ne _ _ hcurrent]
    · rw [set_of_ne _ _ (by decide), set_self, objectEntries_obj]
    · rw [set_self, objectEntries_obj, recordsMut_ok hhistory, set_of_ne _ _ (by decide)]
      rfl

/-- Only the two maps differ. -/
def SameBut (s s' : StateObject) : Prop :=
  ∀ g, g ≠ .currentTaskClosureRecords → g ≠ .taskClosureRecordHistory → s' g = s g

/-- The closures of some tasks have been taken back. -/
structure TakenBack (run : ExecutionRun) (gone : UInt32 → Prop) (s s' : StateObject) : Prop where
  state : TaskState run s'
  same : SameBut s s'
  current : ∀ task id, IsCurrentClosure run s' task id ↔
    IsCurrentClosure run s task id ∧ ¬ gone task
  refiled : ∀ r status, FiledAs run (objectEntries (s .taskClosureRecordHistory)) r status →
    ∃ status', FiledAs run (objectEntries (s' .taskClosureRecordHistory)) r status'
  allocated : ∀ r, Allocated run (objectEntries (s .taskClosureRecordHistory)) r →
    Allocated run (objectEntries (s' .taskClosureRecordHistory)) r

theorem TaskState.takeBack (hs : TaskState run s) {scopeKeys closureIds : List String}
    {status : String} (h : takeBackTaskClosures scopeKeys closureIds status s = .ok s')
    (hids : IdsUnder (objectEntries (s .currentTaskClosureRecords)) scopeKeys closureIds)
    (hstatus : status ≠ "current") (hknown : status ∈ closureStatuses) :
    TakenBack run (fun task => taskScopeKey task ∈ scopeKeys) s s' := by
  obtain ⟨hsame, hcurrent, hhistory⟩ := takeBackTaskClosures_ok h
  refine ⟨⟨?_, ?_⟩, hsame, fun task id => ?_, fun r status hr => ?_, fun r hr => ?_⟩
  · rw [hsame _ (by decide) (by decide), hs.runIdentity]
  · rw [hcurrent, hhistory]
    exact hs.closures.takeBack hids hstatus hknown
  · unfold IsCurrentClosure
    rw [hhistory]
    exact hs.closures.current_takeBack hids hstatus hknown
  · rw [hhistory]
    exact ⟨_, hr.markAll closureIds hknown⟩
  · rw [hhistory]
    exact hs.closures.allocated_markAll hknown hr

/-- **Taking back the closures of some tasks** leaves those of the others current. -/
theorem removeCurrentTaskClosureResults_ok (hs : TaskState run s) {tasks : List UInt32}
    {status : String}
    (h : removeCurrentTaskClosureResultsWithRecordStatus tasks status s = .ok s')
    (hstatus : status ≠ "current") (hknown : status ∈ closureStatuses) :
    TakenBack run (· ∈ tasks) s s' := by
  have hread : ∀ task id, (rawClosureRecordId s (taskScopeKey task)).or
      ((currentTaskClosureResult s task).map CurrentTaskClosureRecord.closureRecordId) = some id ↔
        IsCurrentClosure run s task id := fun task id => by
    rw [Option.or_eq_some_iff, hs.rawClosureRecordId_iff, hs.currentTaskClosureResult_iff]
    exact ⟨fun h => h.elim (fun h => h) And.right, Or.inl⟩
  have hids : IdsUnder (objectEntries (s .currentTaskClosureRecords)) (tasks.map taskScopeKey)
      (tasks.filterMap fun task => (rawClosureRecordId s (taskScopeKey task)).or
        ((currentTaskClosureResult s task).map CurrentTaskClosureRecord.closureRecordId)) := by
    intro id
    simp only [List.mem_filterMap, hread, List.mem_map, exists_exists_and_eq_and]
    refine exists_congr fun task => and_congr_right fun _ => ?_
    rw [← hs.rawClosureRecordId_iff, rawClosureRecordId, Option.bind_eq_some_iff]
  have htaken := hs.takeBack h hids hstatus hknown
  refine { htaken with current := fun task id => (htaken.current task id).trans ?_ }
  rw [List.mem_map_of_injective taskScopeKey_injective]

/-- Taking back closures by the keys they are current under. -/
theorem removeCurrentTaskClosureResultsByScopeKeys_ok (hs : TaskState run s)
    {scopeKeys : List String} {status : String}
    (h : removeCurrentTaskClosureResultsWithRecordStatusByScopeKeys scopeKeys status s = .ok s')
    (hstatus : status ≠ "current") (hknown : status ∈ closureStatuses) :
    TakenBack run (fun task => taskScopeKey task ∈ scopeKeys) s s' := by
  unfold removeCurrentTaskClosureResultsWithRecordStatusByScopeKeys at h
  split_ifs at h with hnone
  · cases h
    refine ⟨hs, fun _ _ _ => rfl, fun task id => ?_, fun _ status hr => ⟨status, hr⟩, fun _ h => h⟩
    rw [hnone]
    exact (and_iff_left List.not_mem_nil).symm
  · refine hs.takeBack h (fun id => ?_) hstatus hknown
    simp only [List.mem_filterMap, rawClosureRecordId, Option.bind_eq_some_iff]

/-! ### Recording -/

theorem clearTaskClosureNegativeResult_ok {task : UInt32}
    (h : clearTaskClosureNegativeResult task s = .ok s') :
    ∀ g, g ≠ .taskClosureNegativeResultRecords → g ≠ .taskClosureNegativeResultHistory →
      s' g = s g := by
  obtain ⟨records, _, h⟩ := bind_ok h
  intro g hrecords hhistory
  rw [(markPrevious_ok h).1 g hhistory, set_of_ne _ _ hrecords]

theorem recordTaskClosureResult_ok (h : recordTaskClosureResult r s = .ok s')
    (hrun : s .runIdentity = some run.runIdentity) :
    SameBut s s' ∧ ∃ sequence, objectEntries (s' .taskClosureRecordHistory) =
        fileTaskClosure run (objectEntries (s .taskClosureRecordHistory)) r sequence ∧
      objectEntries (s' .currentTaskClosureRecords) =
        (objectEntries (s .currentTaskClosureRecords)).insert (taskScopeKey r.task)
          (.obj (taskClosurePayload r (some run.runIdentity) sequence)) := by
  obtain ⟨records, hrecords, h⟩ := bind_ok h
  obtain ⟨history, hhistory, h⟩ := bind_ok h
  cases h
  refine ⟨fun g hcurrent hhistory => ?_,
    (objectEntries (s .taskClosureRecordHistory)).entries.length + 1, ?_, ?_⟩
  · rw [set_of_ne _ _ hhistory, set_of_ne _ _ hcurrent]
  · rw [set_self, objectEntries_obj, recordsMut_ok hhistory, set_of_ne _ _ (by decide), hrun]
    rfl
  · rw [set_of_ne _ _ (by decide), set_self, objectEntries_obj, recordsMut_ok hrecords, hrun]

/-! ### Superseding -/

/-- A closure supersedes the others of its task, and those that share a path with it. -/
def Supersedes (r r' : TaskClosureResultRecord) : Prop :=
  r'.closureRecordId ≠ r.closureRecordId ∧ (r'.task = r.task ∨ taskSurfacePathsOverlap
    (r'.effectiveReviewedSurfacePaths.map trim) r.effectiveReviewedSurfacePaths = true)

theorem TaskState.matches (hs : TaskState run s) {record : CurrentTaskClosureRecord}
    (hpath : record.sourcePlanPath = some run.plan.planRel)
    (hrevision : record.sourcePlanRevision = some run.plan.planRevision)
    (hrun : record.executionRunId = some run.executionRunId) :
    taskClosureRecordMatchesActivePlanAndRuntimeScope run.plan s record = true := by
  have hactive : executionRunIdOpt s = some run.executionRunId := by
    rw [executionRunIdOpt, hs.runIdentity]
    show (jsonString (run.runIdentity.get? "execution_run_id")).or _ = _
    rw [run.identified, Option.some_or]
  unfold taskClosureRecordMatchesActivePlanAndRuntimeScope
  rw [hactive, hpath, hrevision, hrun]
  simp

/-- What a closure supersedes, of the closures that are filed. -/
theorem TaskState.mem_superseded (hs : TaskState run s) {task : UInt32} {id : String} :
    (∃ record ∈ supersededTaskClosureRecords run.plan s r.task r.closureRecordId
      r.effectiveReviewedSurfacePaths, record.task = task ∧ record.closureRecordId = id) ↔
    ∃ r' status, FiledAs run (objectEntries (s .taskClosureRecordHistory)) r' status ∧
      Supersedes r r' ∧ r'.task = task ∧ r'.closureRecordId = id := by
  unfold supersededTaskClosureRecords taskClosureHistoryRecords
  simp only [List.mem_filter, List.mem_filterMap, Bool.and_eq_true, Bool.or_eq_true,
    decide_eq_true_eq]
  constructor
  · rintro ⟨record, ⟨⟨⟨id, payload⟩, hentry, hread⟩, ⟨hid, _⟩, hoverlap⟩, rfl, rfl⟩
    obtain ⟨r', status, rfl, hr'⟩ := hs.exists_filed hentry
    obtain ⟨payload', record', hget, _, htask, hrecord, hrtask, hrid, hpaths, _⟩ := hr'.read
    cases hget.symm.trans (OrderedMap.mem_entries.mp hentry)
    dsimp only at hread
    rw [htask, Option.bind_some, hrecord] at hread
    cases hread
    rw [hrid] at hid
    rw [hrtask, hpaths] at hoverlap
    exact ⟨r', status, hr', ⟨hid, hoverlap⟩, hrtask.symm, hrid.symm⟩
  · rintro ⟨r', status, hr', ⟨hid, hoverlap⟩, rfl, rfl⟩
    obtain ⟨payload, record, hget, _, htask, hrecord, hrtask, hrid, hpaths, hpath, hrevision, hrun⟩ :=
      hr'.read
    refine ⟨record, ⟨⟨(r'.closureRecordId, payload), OrderedMap.mem_entries.mpr hget, ?_⟩,
      ⟨?_, hs.matches hpath hrevision hrun⟩, ?_⟩, hrtask, hrid⟩
    · rw [htask, Option.bind_some, hrecord]
    · rwa [hrid]
    · rwa [hrtask, hpaths]

/-- A task that loses its closure to a record. -/
def Loses (run : ExecutionRun) (s : StateObject) (r : TaskClosureResultRecord) (task : UInt32) :
    Prop :=
  ∃ r' status, FiledAs run (objectEntries (s .taskClosureRecordHistory)) r' status ∧
    Supersedes r r' ∧ r'.task = task

/-- The fields of the closures of tasks. -/
def taskClosureFields : List Field :=
  [.currentTaskClosureRecords, .taskClosureRecordHistory, .taskClosureNegativeResultRecords,
   .taskClosureNegativeResultHistory, .supersededTaskClosureIds]

/-- **A task closed** has the closure recorded as its current one, and the tasks that lose
theirs to it have none. -/
theorem closeCurrentTask_ok (hs : TaskState run s) (hr : r.Issued)
    (hrun : r.executionRunId = some run.executionRunId)
    (hallocated : Allocated run (objectEntries (s .taskClosureRecordHistory)) r)
    (h : closeCurrentTask run.plan r s = .ok s') :
    TaskState run s' ∧ (∀ g, g ∉ taskClosureFields → s' g = s g) ∧
    (∀ task id, IsCurrentClosure run s' task id ↔ (task = r.task ∧ id = r.closureRecordId) ∨
      (IsCurrentClosure run s task id ∧ task ≠ r.task ∧ ¬ Loses run s r task)) ∧
    ∀ x, x ∈ supersededTaskClosureIds s' ↔ x ∈ supersededTaskClosureIds s ∨
      ∃ r' status, FiledAs run (objectEntries (s .taskClosureRecordHistory)) r' status ∧
        Supersedes r r' ∧ r'.closureRecordId = x := by
  obtain ⟨s₁, hremove, h⟩ := bind_ok h
  obtain ⟨s₂, hclear, h⟩ := bind_ok h
  obtain ⟨s₃, happend, h⟩ := bind_ok h
  have htaken := removeCurrentTaskClosureResults_ok hs hremove (by decide) (by decide)
  have hsame₂ := clearTaskClosureNegativeResult_ok hclear
  have hsame₃ := appendUniqueStringArray_ok happend
  have hcurrent₃ : ∀ g, g ≠ .taskClosureNegativeResultRecords →
      g ≠ .taskClosureNegativeResultHistory → g ≠ .supersededTaskClosureIds → s₃ g = s₁ g :=
    fun g hrecords hhistory hids => (hsame₃ g hids).trans (hsame₂ g hrecords hhistory)
  have hrun₃ : s₃ .runIdentity = some run.runIdentity := by
    rw [hcurrent₃ _ (by decide) (by decide) (by decide), htaken.state.runIdentity]
  obtain ⟨hsame, sequence, hhistory, hcurrent⟩ := recordTaskClosureResult_ok h hrun₃
  rw [hcurrent₃ _ (by decide) (by decide) (by decide)] at hhistory hcurrent
  have hloses : ∀ task, task ∈ (supersededTaskClosureRecords run.plan s r.task r.closureRecordId
      r.effectiveReviewedSurfacePaths).map CurrentTaskClosureRecord.task ↔ Loses run s r task := by
    intro task
    rw [List.mem_map]
    constructor
    · rintro ⟨record, hrecord, htask⟩
      obtain ⟨r', status, hr', hsup, htask', _⟩ :=
        hs.mem_superseded.mp ⟨record, hrecord, htask, rfl⟩
      exact ⟨r', status, hr', hsup, htask'⟩
    · rintro ⟨r', status, hr', hsup, htask⟩
      obtain ⟨record, hrecord, htask, _⟩ :=
        hs.mem_superseded.mpr ⟨r', status, hr', hsup, htask, rfl⟩
      exact ⟨record, hrecord, htask⟩
  have hcurrent₁ : ∀ task id, IsCurrentClosure run s₁ task id ↔
      IsCurrentClosure run s task id ∧ ¬ Loses run s r task := fun task id =>
    (htaken.current task id).trans (and_congr_right fun _ => not_congr (hloses task))
  -- another closure of the task would have been superseded
  have hfree : ∀ id, IsCurrentClosure run s₁ r.task id → id = r.closureRecordId := by
    intro id hid
    obtain ⟨⟨r', hr', htask, rfl⟩, hkept⟩ := (hcurrent₁ r.task id).mp hid
    by_contra hne
    exact hkept ⟨r', _, hr', ⟨hne, Or.inl htask⟩, htask⟩
  have hallocated₁ := htaken.allocated r hallocated
  refine ⟨⟨?_, ?_⟩, fun g hg => ?_, fun task id => ?_, fun x => ?_⟩
  · rw [hsame _ (by decide) (by decide), hrun₃]
  · rw [hhistory, hcurrent]
    exact htaken.state.closures.record hr hrun hallocated₁ hfree
  · simp only [taskClosureFields, List.mem_cons, List.not_mem_nil, or_false, not_or] at hg
    rw [hsame g hg.1 hg.2.1, hcurrent₃ g hg.2.2.1 hg.2.2.2.1 hg.2.2.2.2,
      htaken.same g hg.1 hg.2.1]
  · unfold IsCurrentClosure
    rw [hhistory, current_fileTaskClosure hr hrun hallocated₁ hfree]
    refine or_congr_right ?_
    rw [← IsCurrentClosure, hcurrent₁, and_assoc, and_comm (a := ¬ Loses run s r task)]
    rfl
  · have hids : stringArray (s₂ .supersededTaskClosureIds) = supersededTaskClosureIds s := by
      rw [hsame₂ _ (by decide) (by decide), htaken.same _ (by decide) (by decide)]
      rfl
    have hread : supersededTaskClosureIds s' = stringArray (s₃ .supersededTaskClosureIds) := by
      rw [supersededTaskClosureIds, hsame _ (by decide) (by decide)]
    rw [hread, appendUniqueStringArray_mem happend, hids]
    refine or_congr_right ?_
    constructor
    · rintro ⟨value, hvalue, rfl, hne⟩
      obtain ⟨record, hrecord, rfl⟩ := List.mem_map.mp hvalue
      obtain ⟨r', status, hr', hsup, _, hid⟩ := hs.mem_superseded.mp ⟨record, hrecord, rfl, rfl⟩
      refine ⟨r', status, hr', hsup, ?_⟩
      rw [← hid, hr'.issued.closureRecordId.1]
    · rintro ⟨r', status, hr', hsup, rfl⟩
      obtain ⟨record, hrecord, _, hid⟩ := hs.mem_superseded.mpr ⟨r', status, hr', hsup, rfl, rfl⟩
      exact ⟨_, List.mem_map.mpr ⟨record, hrecord, hid⟩, hr'.issued.closureRecordId⟩

end FeatureForge
