import FeatureForge.Closures.Records

/-!
# The two maps of task closures

For every task the current map names the one closure in the history that is current, if there
is one (`TaskClosures`).  Taking closures back keeps this (`TaskClosures.takeBack`), and so does
recording a closure where no other closure of its task is current (`TaskClosures.record`).
-/

namespace FeatureForge

/-- A run of a plan as the state identifies it. -/
structure ExecutionRun where
  plan : ActivePlan
  runIdentity : Json
  executionRunId : String
  sourcePlanPath : jsonString (runIdentity.get? "source_plan_path") = some plan.planRel
  sourcePlanRevision : jsonU32 (runIdentity.get? "source_plan_revision") = some plan.planRevision
  identified : jsonString (runIdentity.get? "execution_run_id") = some executionRunId

variable {run : ExecutionRun} {history current : Object} {r r' : TaskClosureResultRecord}
  {status status' : String}

/-- A record is filed in a history under its id, with a status. -/
structure FiledAs (run : ExecutionRun) (history : Object) (r : TaskClosureResultRecord)
    (status : String) : Prop where
  issued : r.Issued
  executionRunId : r.executionRunId = some run.executionRunId
  known : status ∈ closureStatuses
  filed : ∃ payload sequence, history.get? r.closureRecordId = some payload ∧
    Marked (taskClosurePayload r (some run.runIdentity) sequence) status payload

/-- The closure `id` of a task is filed as current. -/
def CurrentClosure (run : ExecutionRun) (history : Object) (task : UInt32) (id : String) : Prop :=
  ∃ r, FiledAs run history r "current" ∧ r.task = task ∧ r.closureRecordId = id

structure TaskClosures (run : ExecutionRun) (history current : Object) : Prop where
  filed : ∀ id payload, history.get? id = some payload →
    ∃ r status, r.closureRecordId = id ∧ FiledAs run history r status
  raw : ∀ key payload, current.get? key = some payload → ∃ task id, key = taskScopeKey task ∧
    jsonString (payload.get? "closure_record_id") = some id ∧ CurrentClosure run history task id
  live : ∀ task id, CurrentClosure run history task id → ∃ payload,
    current.get? (taskScopeKey task) = some payload ∧
      jsonString (payload.get? "closure_record_id") = some id

theorem taskScopeKey_injective : Function.Injective taskScopeKey := by
  intro task task' h
  have hdigits : decimal task = decimal task' := by
    have hlist := congrArg String.toList h
    rw [taskScopeKey, taskScopeKey, String.toList_append, String.toList_append, Nat.toList_repr,
      Nat.toList_repr] at hlist
    exact List.append_cancel_left hlist
  exact Option.some.inj
    ((parseU32_decimal task).symm.trans ((congrArg parseU32 hdigits).trans (parseU32_decimal task')))

theorem member_task {sequence : Nat} {payload : Json}
    (h : Marked (taskClosurePayload r (some run.runIdentity) sequence) status payload) :
    payload.get? "task" = some (.u64 r.task.toNat) := by
  rw [h.members _ (by decide) (by decide), taskClosurePayload_get? _ _ _ (by decide)]
  rfl

theorem member_recordStatus {sequence : Nat} {payload : Json}
    (h : Marked (taskClosurePayload r (some run.runIdentity) sequence) status payload) :
    payload.get? "record_status" = some (.str status) := by
  refine h.recordStatus (OrderedMap.contains_eq_true.mpr ⟨.str "current", ?_⟩)
  rw [taskClosurePayload_get? _ _ _ (by decide)]
  rfl

/-- The id of a filed record determines its task and its status. -/
theorem FiledAs.unique (h : FiledAs run history r status) (h' : FiledAs run history r' status')
    (hid : r.closureRecordId = r'.closureRecordId) : r.task = r'.task ∧ status = status' := by
  obtain ⟨payload, n, hget, hmarked⟩ := h.filed
  obtain ⟨payload', n', hget', hmarked'⟩ := h'.filed
  rw [hid, hget'] at hget
  cases hget
  constructor
  · have htask := (member_task hmarked).symm.trans (member_task hmarked')
    have hread := congrArg jsonU32 htask
    rw [jsonU32_u64, jsonU32_u64] at hread
    exact Option.some.inj hread
  · exact Json.str_injective (Option.some.inj
      (hmarked.closureStatus.symm.trans hmarked'.closureStatus))

namespace TaskClosures

/-- **A task has one current closure.** -/
theorem unique (h : TaskClosures run history current) {task : UInt32} {id id' : String}
    (hid : CurrentClosure run history task id) (hid' : CurrentClosure run history task id') :
    id = id' := by
  obtain ⟨payload, hget, hread⟩ := h.live task id hid
  obtain ⟨payload', hget', hread'⟩ := h.live task id' hid'
  cases hget.symm.trans hget'
  exact Option.some.inj (hread.symm.trans hread')

end TaskClosures

/-! ### Taking back -/

theorem FiledAs.markAll (h : FiledAs run history r status) (ids : List String)
    (hstatus : status' ∈ closureStatuses) :
    FiledAs run (markAll status' history ids) r
      (if r.closureRecordId ∈ ids then status' else status) := by
  obtain ⟨payload, n, hget, hmarked⟩ := h.filed
  obtain ⟨payload', hget', hmarked'⟩ :=
    hmarked.markAll status' ids hget (ownId_taskClosurePayload h.issued)
  refine ⟨h.issued, h.executionRunId, ?_, payload', n, hget', hmarked'⟩
  split_ifs
  · exact hstatus
  · exact h.known

theorem CurrentClosure.filed {task : UInt32} {id : String}
    (h : CurrentClosure run history task id) :
    ∃ r, r.closureRecordId = id ∧ FiledAs run history r "current" :=
  h.elim fun r h => ⟨r, h.2.2, h.1⟩

theorem get?_foldl_erase : ∀ (keys : List String) (m : Object) (key : String),
    (keys.foldl OrderedMap.erase m).get? key = if key ∈ keys then none else m.get? key := by
  intro keys
  induction keys with
  | nil => intro m key; rfl
  | cons erased keys ih =>
    intro m key
    rw [List.foldl_cons, ih, OrderedMap.get?_erase]
    simp only [List.mem_cons]
    split_ifs <;> simp_all

/-- The ids that are under some keys of the current map. -/
def IdsUnder (current : Object) (keys ids : List String) : Prop :=
  ∀ id, id ∈ ids ↔ ∃ key ∈ keys, ∃ payload, current.get? key = some payload ∧
    jsonString (payload.get? "closure_record_id") = some id

/-- The closures that are current after some have been taken back. -/
theorem TaskClosures.current_takeBack (h : TaskClosures run history current)
    {keys ids : List String} (hids : IdsUnder current keys ids) (hstatus : status ≠ "current")
    (hknown : status ∈ closureStatuses) {task : UInt32} {id : String} :
    CurrentClosure run (FeatureForge.markAll status history ids) task id ↔
      CurrentClosure run history task id ∧ taskScopeKey task ∉ keys := by
  constructor
  · rintro ⟨r, hr, rfl, rfl⟩
    obtain ⟨payload, _, hget, _⟩ := hr.filed
    have hsome : history.get? r.closureRecordId ≠ none := fun hnone => by
      rw [(get?_markAll_eq_none _ _ _).mpr hnone] at hget
      cases hget
    obtain ⟨payload₀, hget₀⟩ := Option.ne_none_iff_exists'.mp hsome
    obtain ⟨r₀, status₀, hid₀, hr₀⟩ := h.filed _ _ hget₀
    obtain ⟨htask, hst⟩ := (hr₀.markAll ids hknown).unique hr hid₀
    have hout : r₀.closureRecordId ∉ ids := fun hmem => by
      rw [if_pos hmem] at hst
      exact hstatus hst
    rw [if_neg hout] at hst
    have hcurrent : CurrentClosure run history r.task r.closureRecordId :=
      ⟨r₀, hst ▸ hr₀, htask, hid₀⟩
    refine ⟨hcurrent, fun hkey => hout ?_⟩
    obtain ⟨payload', hraw, hread⟩ := h.live _ _ hcurrent
    exact (hids _).mpr ⟨_, hkey, payload', hraw, hid₀ ▸ hread⟩
  · rintro ⟨⟨r, hr, rfl, rfl⟩, hkey⟩
    have hout : r.closureRecordId ∉ ids := fun hmem => by
      obtain ⟨key, hmem, payload, hget, hread⟩ := (hids _).mp hmem
      obtain ⟨task', id', rfl, hread', r', hr', rfl, rfl⟩ := h.raw _ _ hget
      have hid := Option.some.inj (hread'.symm.trans hread)
      rw [(hr'.unique hr hid).1] at hmem
      exact hkey hmem
    have hmarked := hr.markAll ids hknown
    rw [if_neg hout] at hmarked
    exact ⟨r, hmarked, rfl, rfl⟩

/-- **Taking closures back** keeps the two maps in step. -/
theorem TaskClosures.takeBack (h : TaskClosures run history current) {keys ids : List String}
    (hids : IdsUnder current keys ids) (hstatus : status ≠ "current")
    (hknown : status ∈ closureStatuses) :
    TaskClosures run (FeatureForge.markAll status history ids) (keys.foldl OrderedMap.erase current)
    where
  filed id payload hget := by
    have hsome : history.get? id ≠ none := fun hnone => by
      rw [(get?_markAll_eq_none _ _ _).mpr hnone] at hget
      cases hget
    obtain ⟨payload₀, hget₀⟩ := Option.ne_none_iff_exists'.mp hsome
    obtain ⟨r₀, status₀, hid₀, hr₀⟩ := h.filed _ _ hget₀
    exact ⟨r₀, _, hid₀, hr₀.markAll ids hknown⟩
  raw key payload hget := by
    rw [get?_foldl_erase] at hget
    split_ifs at hget with hkey
    obtain ⟨task, id, rfl, hread, hcurrent⟩ := h.raw key payload hget
    exact ⟨task, id, rfl, hread, (h.current_takeBack hids hstatus hknown).mpr ⟨hcurrent, hkey⟩⟩
  live task id hcurrent := by
    obtain ⟨hcurrent, hkey⟩ := (h.current_takeBack hids hstatus hknown).mp hcurrent
    obtain ⟨payload, hget, hread⟩ := h.live task id hcurrent
    refine ⟨payload, ?_, hread⟩
    rw [get?_foldl_erase, if_neg hkey, hget]

/-- The id of a record is new, or that of a closure of its own task. -/
def Allocated (run : ExecutionRun) (history : Object) (r : TaskClosureResultRecord) : Prop :=
  ∀ r' status, FiledAs run history r' status → r'.closureRecordId = r.closureRecordId →
    r'.task = r.task

/-- An id is allocated to the task of what is filed under it. -/
theorem allocated_of_get? (h : ∀ payload, history.get? r.closureRecordId = some payload →
    jsonU32 (payload.get? "task") = some r.task) : Allocated run history r := by
  intro r' status hr' hid
  obtain ⟨payload, _, hget, hmarked⟩ := hr'.filed
  have htask := h payload (hid ▸ hget)
  rw [member_task hmarked, jsonU32_u64] at htask
  exact Option.some.inj htask

theorem TaskClosures.allocated_markAll (h : TaskClosures run history current)
    (hknown : status ∈ closureStatuses) {ids : List String} (hr : Allocated run history r) :
    Allocated run (FeatureForge.markAll status history ids) r := by
  intro r' status' hr' hid
  obtain ⟨payload, _, hget, _⟩ := hr'.filed
  have hsome : history.get? r'.closureRecordId ≠ none := fun hnone => by
    rw [(get?_markAll_eq_none _ _ _).mpr hnone] at hget
    cases hget
  obtain ⟨payload₀, hget₀⟩ := Option.ne_none_iff_exists'.mp hsome
  obtain ⟨r₀, status₀, hid₀, hr₀⟩ := h.filed _ _ hget₀
  rw [← hr r₀ status₀ hr₀ (hid₀.trans hid)]
  exact ((hr₀.markAll ids hknown).unique hr' hid₀).1.symm

/-! ### Recording -/

section

variable {sequence : Nat}

/-- The history after a record has been filed. -/
def fileTaskClosure (run : ExecutionRun) (history : Object) (r : TaskClosureResultRecord)
    (sequence : Nat) : Object :=
  history.insert r.closureRecordId (.obj (taskClosurePayload r (some run.runIdentity) sequence))

theorem filedAs_self (hr : r.Issued) (hrun : r.executionRunId = some run.executionRunId) :
    FiledAs run (fileTaskClosure run history r sequence) r "current" :=
  ⟨hr, hrun, by decide, _, sequence, OrderedMap.get?_insert_self _ _ _, marked_taskClosurePayload⟩

theorem filedAs_of_ne (hne : r'.closureRecordId ≠ r.closureRecordId) :
    FiledAs run (fileTaskClosure run history r sequence) r' status ↔
      FiledAs run history r' status := by
  constructor <;> rintro ⟨hissued, hrun, hknown, payload, n, hget, hmarked⟩
  · rw [fileTaskClosure, OrderedMap.get?_insert_of_ne _ _ hne] at hget
    exact ⟨hissued, hrun, hknown, payload, n, hget, hmarked⟩
  · refine ⟨hissued, hrun, hknown, payload, n, ?_, hmarked⟩
    rw [fileTaskClosure, OrderedMap.get?_insert_of_ne _ _ hne, hget]

theorem current_fileTaskClosure (hr : r.Issued) (hrun : r.executionRunId = some run.executionRunId)
    (hallocated : Allocated run history r)
    (hfree : ∀ id, CurrentClosure run history r.task id → id = r.closureRecordId) {task : UInt32}
    {id : String} :
    CurrentClosure run (fileTaskClosure run history r sequence) task id ↔
      (task = r.task ∧ id = r.closureRecordId) ∨
        (CurrentClosure run history task id ∧ task ≠ r.task) := by
  constructor
  · rintro ⟨r', hr', rfl, rfl⟩
    by_cases hid : r'.closureRecordId = r.closureRecordId
    · exact Or.inl ⟨(hr'.unique (filedAs_self hr hrun) hid).1, hid⟩
    · have hold := (filedAs_of_ne hid).mp hr'
      exact Or.inr ⟨⟨r', hold, rfl, rfl⟩, fun htask => hid (hfree _ ⟨r', hold, htask, rfl⟩)⟩
  · rintro (⟨rfl, rfl⟩ | ⟨⟨r', hr', rfl, rfl⟩, hne⟩)
    · exact ⟨r, filedAs_self hr hrun, rfl, rfl⟩
    · have hid : r'.closureRecordId ≠ r.closureRecordId := fun hid =>
        hne (hallocated r' _ hr' hid)
      exact ⟨r', (filedAs_of_ne hid).mpr hr', rfl, rfl⟩

/-- **Recording a closure** keeps the two maps in step, where no other closure of its task is
current. -/
theorem TaskClosures.record (h : TaskClosures run history current) (hr : r.Issued)
    (hrun : r.executionRunId = some run.executionRunId) (hallocated : Allocated run history r)
    (hfree : ∀ id, CurrentClosure run history r.task id → id = r.closureRecordId) :
    TaskClosures run (fileTaskClosure run history r sequence) (current.insert (taskScopeKey r.task)
      (.obj (taskClosurePayload r (some run.runIdentity) sequence))) where
  filed id payload hget := by
    by_cases hid : id = r.closureRecordId
    · exact ⟨r, _, hid.symm, filedAs_self hr hrun⟩
    · rw [fileTaskClosure, OrderedMap.get?_insert_of_ne _ _ hid] at hget
      obtain ⟨r', status, rfl, hr'⟩ := h.filed id payload hget
      exact ⟨r', status, rfl, (filedAs_of_ne hid).mpr hr'⟩
  raw key payload hget := by
    by_cases hkey : key = taskScopeKey r.task
    · subst hkey
      rw [OrderedMap.get?_insert_self] at hget
      cases hget
      refine ⟨r.task, r.closureRecordId, rfl, ?_, r, filedAs_self hr hrun, rfl, rfl⟩
      rw [Json.get?_obj, taskClosurePayload_get? _ _ _ (by decide)]
      exact jsonString_str hr.closureRecordId
    · rw [OrderedMap.get?_insert_of_ne _ _ hkey] at hget
      obtain ⟨task, id, rfl, hread, hcurrent⟩ := h.raw key payload hget
      exact ⟨task, id, rfl, hread, (current_fileTaskClosure hr hrun hallocated hfree).mpr
        (Or.inr ⟨hcurrent, fun htask => hkey (congrArg taskScopeKey htask)⟩)⟩
  live task id hcurrent := by
    rcases (current_fileTaskClosure hr hrun hallocated hfree).mp hcurrent with
      ⟨rfl, rfl⟩ | ⟨hcurrent, hne⟩
    · refine ⟨_, OrderedMap.get?_insert_self _ _ _, ?_⟩
      rw [Json.get?_obj, taskClosurePayload_get? _ _ _ (by decide)]
      exact jsonString_str hr.closureRecordId
    · obtain ⟨payload, hget, hread⟩ := h.live task id hcurrent
      refine ⟨payload, ?_, hread⟩
      rw [OrderedMap.get?_insert_of_ne _ _ fun hkey => hne (taskScopeKey_injective hkey), hget]

end

end FeatureForge
