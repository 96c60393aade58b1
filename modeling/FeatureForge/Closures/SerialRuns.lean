import FeatureForge.Closures.OverlayRestore
import FeatureForge.Closures.Runs
import FeatureForge.Lib.Survivors
import Mathlib.Data.List.Pairwise

/-!
# Tasks closed in a row

Where tasks are closed one after another, each later than those before it, the current closures
are those that no later closure shares a path with (`SerialClosures.current`), and the two maps
read the same (`SerialClosures.raw_eq_history`).  So every task has a current closure exactly
when no two closures share a path (`SerialClosures.forall_current`).  A run that closes tasks in
this order (`SerialRun`) has such closures throughout (`serial_run_closures`).
-/

namespace FeatureForge

variable {run : ExecutionRun} {s s' : StateObject} {r r' : TaskClosureResultRecord}
  {closed : List TaskClosureResultRecord} {status status' : String}

/-- The later of two closures supersedes the earlier one, as that is read back. -/
def sharesSurface (earlier later : TaskClosureResultRecord) : Bool :=
  taskSurfacePathsOverlap (earlier.effectiveReviewedSurfacePaths.map trim)
    later.effectiveReviewedSurfacePaths

/-- The state after some tasks have been closed in a row. -/
structure SerialClosures (run : ExecutionRun) (closed : List TaskClosureResultRecord)
    (s : StateObject) : Prop where
  state : TaskState run s
  ascending : closed.Pairwise fun r r' => r.task < r'.task
  filed : ∀ r ∈ closed, ∃ status,
    FiledAs run (objectEntries (s .taskClosureRecordHistory)) r status
  listed : ∀ r status, FiledAs run (objectEntries (s .taskClosureRecordHistory)) r status →
    ∃ r' ∈ closed, r'.closureRecordId = r.closureRecordId
  current : ∀ task id, IsCurrentClosure run s task id ↔
    ∃ r ∈ survivors sharesSurface closed, r.task = task ∧ r.closureRecordId = id
  raw : ∀ key payload, (objectEntries (s .currentTaskClosureRecords)).get? key = some payload →
    ∃ r ∈ closed, ∃ n, key = taskScopeKey r.task ∧
      payload = .obj (taskClosurePayload r (some run.runIdentity) n)

/-! ### Reading the two maps -/

/-- A record is read from its members but for its number. -/
theorem currentTaskClosureRecordFromPayload_congr {task : UInt32} {payload payload' : Json}
    (h : ∀ key, key ≠ "record_sequence" → payload.get? key = payload'.get? key) :
    currentTaskClosureRecordFromPayload task payload =
      currentTaskClosureRecordFromPayload task payload' := by
  unfold currentTaskClosureRecordFromPayload
  rw [h "dispatch_id" (by decide), h "closure_record_id" (by decide),
    h "reviewed_state_id" (by decide), h "contract_identity" (by decide),
    h "effective_reviewed_surface_paths" (by decide), h "review_result" (by decide),
    h "review_summary_hash" (by decide), h "verification_result" (by decide),
    h "verification_summary_hash" (by decide), h "source_plan_path" (by decide),
    h "source_plan_revision" (by decide), h "execution_run_id" (by decide),
    h "semantic_reviewed_state_id" (by decide), h "closure_status" (by decide)]

theorem taskClosurePayload_sequence {runIdentity : Option Json} (m n : Nat) {key : String}
    (hkey : key ≠ "record_sequence") :
    (taskClosurePayload r runIdentity m).get? key =
      (taskClosurePayload r runIdentity n).get? key := by
  by_cases hsemantic : key = "semantic_reviewed_state_id"
  · rw [hsemantic, taskClosurePayload_semantic, taskClosurePayload_semantic]
  · rw [taskClosurePayload_get? _ _ _ hsemantic, taskClosurePayload_get? _ _ _ hsemantic]
    simp only [taskClosureMembers, OrderedMap.lookup, if_neg hkey]

/-- A record that is current reads as it was filed. -/
theorem Marked.read_current {m n : Nat} {task : UInt32} {payload : Json}
    (h : Marked (taskClosurePayload r (some run.runIdentity) m) "current" payload) :
    currentTaskClosureRecordFromPayload task payload = currentTaskClosureRecordFromPayload task
      (.obj (taskClosurePayload r (some run.runIdentity) n)) := by
  have hfiled : Marked (taskClosurePayload r (some run.runIdentity) n) "current"
      (.obj (taskClosurePayload r (some run.runIdentity) n)) := marked_taskClosurePayload
  refine currentTaskClosureRecordFromPayload_congr fun key hkey => ?_
  by_cases hrecord : key = "record_status"
  · rw [hrecord, member_recordStatus h, member_recordStatus hfiled]
  · by_cases hclosure : key = "closure_status"
    · rw [hclosure, h.closureStatus, hfiled.closureStatus]
    · rw [h.members key hrecord hclosure, hfiled.members key hrecord hclosure,
        taskClosurePayload_sequence m n hkey]

/-- Two records filed under one id have the same surface. -/
theorem FiledAs.surface_unique {history : Object} (h : FiledAs run history r status)
    (h' : FiledAs run history r' status') (hid : r.closureRecordId = r'.closureRecordId) :
    r.effectiveReviewedSurfacePaths.map trim = r'.effectiveReviewedSurfacePaths.map trim := by
  obtain ⟨payload, record, hget, _, _, hread, _, _, hpaths, _⟩ := h.read
  obtain ⟨payload', record', hget', _, _, hread', _, _, hpaths', _⟩ := h'.read
  rw [hid] at hget
  cases hget.symm.trans hget'
  rw [(h.unique h' hid).1, hread'] at hread
  cases hread
  rw [← hpaths, hpaths']

/-! ### Steps -/

theorem NoClosures.serialClosures (h : NoClosures run s) : SerialClosures run [] s where
  state := h.closureState.task
  ascending := .nil
  filed := nofun
  listed r status hr := by
    obtain ⟨payload, _, hget, _⟩ := hr.filed
    rw [h.taskClosureRecordHistory] at hget
    cases hget
  current task id := by
    constructor
    · intro hcurrent
      rw [IsCurrentClosure, h.taskClosureRecordHistory] at hcurrent
      exact absurd hcurrent not_currentClosure_empty
    · rintro ⟨_, hmem, _⟩
      cases hmem
  raw key payload hget := by
    rw [h.currentTaskClosureRecords] at hget
    cases hget

/-- Steps of other kinds leave the closures. -/
theorem SerialClosures.congr (hs : SerialClosures run closed s)
    (hsame : ∀ f ∈ closureFields, s' f = s f) : SerialClosures run closed s' := by
  have hhistory := hsame .taskClosureRecordHistory (by decide)
  have hcurrent := hsame .currentTaskClosureRecords (by decide)
  refine ⟨hs.state.congr (hsame _ (by decide)) hhistory hcurrent, hs.ascending, ?_, ?_, ?_, ?_⟩
  · rw [hhistory]
    exact hs.filed
  · rw [hhistory]
    exact hs.listed
  · unfold IsCurrentClosure
    rw [hhistory]
    exact hs.current
  · rw [hcurrent]
    exact hs.raw

/-- The two maps after a task has been closed. -/
theorem closeCurrentTask_maps (hs : TaskState run s)
    (h : closeCurrentTask run.plan r s = .ok s') :
    ∃ (keys ids : List String) (n : Nat), objectEntries (s' .currentTaskClosureRecords) =
        (keys.foldl OrderedMap.erase (objectEntries (s .currentTaskClosureRecords))).insert
          (taskScopeKey r.task) (.obj (taskClosurePayload r (some run.runIdentity) n)) ∧
      objectEntries (s' .taskClosureRecordHistory) = fileTaskClosure run
        (markAll "superseded" (objectEntries (s .taskClosureRecordHistory)) ids) r n := by
  obtain ⟨s₁, hremove, h⟩ := bind_ok h
  obtain ⟨s₂, hclear, h⟩ := bind_ok h
  obtain ⟨s₃, happend, h⟩ := bind_ok h
  obtain ⟨hsame₁, hcurrent₁, hhistory₁⟩ := takeBackTaskClosures_ok hremove
  have hsame₂ := clearTaskClosureNegativeResult_ok hclear
  have hsame₃ := appendUniqueStringArray_ok happend
  have hframe : ∀ g, g ≠ .taskClosureNegativeResultRecords →
      g ≠ .taskClosureNegativeResultHistory → g ≠ .supersededTaskClosureIds → s₃ g = s₁ g :=
    fun g hrecords hhistory hids => (hsame₃ g hids).trans (hsame₂ g hrecords hhistory)
  have hrun : s₃ .runIdentity = some run.runIdentity := by
    rw [hframe _ (by decide) (by decide) (by decide), hsame₁ _ (by decide) (by decide),
      hs.runIdentity]
  obtain ⟨_, n, hhistory, hcurrent⟩ := recordTaskClosureResult_ok h hrun
  rw [hframe _ (by decide) (by decide) (by decide), hcurrent₁] at hcurrent
  rw [hframe _ (by decide) (by decide) (by decide), hhistory₁] at hhistory
  exact ⟨_, _, n, hcurrent, hhistory⟩

theorem SerialClosures.task_injective (hs : SerialClosures run closed s) (hr : r ∈ closed)
    (hr' : r' ∈ closed) (htask : r.task = r'.task) : r = r' := by
  have hpair : closed.Pairwise fun r r' => r.task = r'.task → r = r' :=
    hs.ascending.imp fun hlt heq => absurd (heq ▸ hlt) (UInt32.lt_irrefl _)
  have hflip : closed.Pairwise (flip fun r r' => r.task = r'.task → r = r') :=
    hs.ascending.imp fun hlt heq => absurd (heq ▸ hlt) (UInt32.lt_irrefl _)
  exact hpair.forall_of_forall_of_flip (fun _ _ _ => rfl) hflip hr hr' htask

section

variable (hs : SerialClosures run closed s)
  (hallocated : Allocated run (objectEntries (s .taskClosureRecordHistory)) r)
  (hlater : ∀ r' ∈ closed, r'.task < r.task)

include hlater

theorem task_ne_of_later (hr' : r' ∈ closed) : r'.task ≠ r.task := fun heq =>
  absurd (heq ▸ hlater r' hr') (UInt32.lt_irrefl _)

include hs hallocated

theorem SerialClosures.id_ne (hr' : r' ∈ closed) : r'.closureRecordId ≠ r.closureRecordId := by
  intro hid
  obtain ⟨status, hfiled⟩ := hs.filed r' hr'
  exact task_ne_of_later hlater hr' (hallocated r' status hfiled hid)

/-- **Who loses a closure** in a row of closures: the tasks that share a path with it. -/
theorem SerialClosures.loses_iff {task : UInt32} :
    Loses run s r task ↔ ∃ r' ∈ closed, r'.task = task ∧ sharesSurface r' r = true := by
  constructor
  · rintro ⟨r₀, status, hr₀, ⟨_, hoverlap⟩, rfl⟩
    obtain ⟨r', hr', hid⟩ := hs.listed r₀ status hr₀
    obtain ⟨status', hfiled⟩ := hs.filed r' hr'
    have htask := (hfiled.unique hr₀ hid).1
    refine ⟨r', hr', htask, ?_⟩
    rw [sharesSurface, hfiled.surface_unique hr₀ hid]
    exact hoverlap.resolve_left fun heq => task_ne_of_later hlater hr' (htask.trans heq)
  · rintro ⟨r', hr', htask, hshares⟩
    obtain ⟨status, hfiled⟩ := hs.filed r' hr'
    exact ⟨r', status, hfiled, ⟨hs.id_ne hallocated hlater hr', Or.inr hshares⟩, htask⟩

theorem SerialClosures.current_close (hr : r.Issued)
    (hrun : r.executionRunId = some run.executionRunId)
    (h : closeCurrentTask run.plan r s = .ok s') (task : UInt32) (id : String) :
    IsCurrentClosure run s' task id ↔
      ∃ r' ∈ survivors sharesSurface (closed ++ [r]), r'.task = task ∧ r'.closureRecordId = id := by
  rw [(closeCurrentTask_ok hs.state hr hrun hallocated h).2.2.1 task id]
  constructor
  · rintro (⟨rfl, rfl⟩ | ⟨hcurrent, hne, hkept⟩)
    · exact ⟨r, mem_survivors_append.mpr (Or.inl rfl), rfl, rfl⟩
    · obtain ⟨r', hr', htask, hid⟩ := (hs.current task id).mp hcurrent
      refine ⟨r', mem_survivors_append.mpr (Or.inr ⟨hr', ?_⟩), htask, hid⟩
      refine Bool.eq_false_iff.mpr fun hshares => hkept ?_
      exact (hs.loses_iff hallocated hlater).mpr
        ⟨r', mem_of_mem_survivors hr', htask, hshares⟩
  · rintro ⟨r', hr', rfl, rfl⟩
    rcases mem_survivors_append.mp hr' with rfl | ⟨hr', hfree⟩
    · exact Or.inl ⟨rfl, rfl⟩
    · have hmem := mem_of_mem_survivors hr'
      refine Or.inr ⟨(hs.current _ _).mpr ⟨r', hr', rfl, rfl⟩, task_ne_of_later hlater hmem,
        fun hloses => ?_⟩
      obtain ⟨r₀, hr₀, htask, hshares⟩ := (hs.loses_iff hallocated hlater).mp hloses
      rw [hs.task_injective hr₀ hmem htask, hfree] at hshares
      cases hshares

/-- **A task closed in its turn.** -/
theorem SerialClosures.close (hr : r.Issued) (hrun : r.executionRunId = some run.executionRunId)
    (h : closeCurrentTask run.plan r s = .ok s') : SerialClosures run (closed ++ [r]) s' := by
  obtain ⟨keys, ids, n, hcurrent, hhistory⟩ := closeCurrentTask_maps hs.state h
  refine ⟨(closeCurrentTask_ok hs.state hr hrun hallocated h).1, ?_, fun r' hr' => ?_,
    fun r' status hr' => ?_, hs.current_close hallocated hlater hr hrun h,
    fun key payload hget => ?_⟩
  · refine List.pairwise_append.mpr ⟨hs.ascending, List.pairwise_singleton _ _, ?_⟩
    intro r' hr' r'' hr''
    rw [List.mem_singleton.mp hr'']
    exact hlater r' hr'
  · rw [hhistory]
    rcases List.mem_append.mp hr' with hr' | hr'
    · obtain ⟨status, hfiled⟩ := hs.filed r' hr'
      exact ⟨_, (filedAs_of_ne (hs.id_ne hallocated hlater hr')).mpr
        (hfiled.markAll ids (by decide))⟩
    · rw [List.mem_singleton.mp hr']
      exact ⟨_, filedAs_self hr hrun⟩
  · rw [hhistory] at hr'
    by_cases hid : r'.closureRecordId = r.closureRecordId
    · exact ⟨r, List.mem_append_right _ (List.mem_singleton_self r), hid.symm⟩
    · -- what is under another id was filed before
      obtain ⟨payload, _, hget, _⟩ := ((filedAs_of_ne hid).mp hr').filed
      have hsome : (objectEntries (s .taskClosureRecordHistory)).get? r'.closureRecordId ≠ none :=
        fun hnone => by
          rw [(get?_markAll_eq_none _ _ _).mpr hnone] at hget
          cases hget
      obtain ⟨payload₀, hget₀⟩ := Option.ne_none_iff_exists'.mp hsome
      obtain ⟨r₀, status₀, hid₀, hr₀⟩ := hs.state.closures.filed _ _ hget₀
      obtain ⟨r'', hr'', hid''⟩ := hs.listed r₀ status₀ hr₀
      exact ⟨r'', List.mem_append_left _ hr'', hid''.trans hid₀⟩
  · rw [hcurrent] at hget
    by_cases hkey : key = taskScopeKey r.task
    · subst hkey
      rw [OrderedMap.get?_insert_self] at hget
      exact ⟨r, List.mem_append_right _ (List.mem_singleton_self r), n, rfl,
        (Option.some.inj hget).symm⟩
    · rw [OrderedMap.get?_insert_of_ne _ _ hkey, get?_foldl_erase] at hget
      split_ifs at hget with herased
      obtain ⟨r', hr', n', hkey', hpayload⟩ := hs.raw key payload hget
      exact ⟨r', List.mem_append_left _ hr', n', hkey', hpayload⟩

end

/-! ### The state behind a row of closures -/

/-- The history reads a current record as it was filed. -/
theorem TaskState.history_read (hs : TaskState run s)
    (hr : FiledAs run (objectEntries (s .taskClosureRecordHistory)) r "current") (n : Nat) :
    (currentTaskClosureResultsFromHistory s).get? r.task.toNat =
      currentTaskClosureRecordFromPayload r.task
        (.obj (taskClosurePayload r (some run.runIdentity) n)) := by
  have hcurrent : IsCurrentClosure run s r.task r.closureRecordId := ⟨r, hr, rfl, rfl⟩
  obtain ⟨record, hrecord⟩ := hcurrent.exists_history
  obtain ⟨r₀, payload, hr₀, htask, _, hget, hread⟩ := hs.history_entry hrecord
  obtain ⟨payload', m, hget', hmarked⟩ := hr.filed
  have hid := hs.closures.unique ⟨r₀, hr₀, htask, rfl⟩ hcurrent
  rw [hid, hget'] at hget
  cases hget
  rw [hrecord, ← hread, htask, hmarked.read_current]

/-- **The two maps read the same** of a task. -/
theorem SerialClosures.raw_eq_history (hs : SerialClosures run closed s) (task : UInt32) :
    rawCurrentTaskClosureResult s task =
      (currentTaskClosureResultsFromHistory s).get? task.toNat := by
  cases hget : (objectEntries (s .currentTaskClosureRecords)).get? (taskScopeKey task) with
  | none =>
    rw [rawCurrentTaskClosureResult, hget, Option.bind_none]
    refine (Option.eq_none_iff_forall_ne_some.mpr fun record hrecord => ?_).symm
    obtain ⟨payload, hlive, _⟩ := hs.state.closures.live _ _ (hs.state.get?_history hrecord)
    rw [hget] at hlive
    cases hlive
  | some payload =>
    obtain ⟨r, hr, n, hkey, rfl⟩ := hs.raw _ _ hget
    cases taskScopeKey_injective hkey
    -- what the map names is filed as current
    obtain ⟨task', id, hkey', hread, r₀, hr₀, _, rfl⟩ := hs.state.closures.raw _ _ hget
    rw [Json.get?_obj, taskClosurePayload_get? _ _ _ (by decide)] at hread
    obtain ⟨status, hfiled⟩ := hs.filed r hr
    have hid : r.closureRecordId = r₀.closureRecordId :=
      Option.some.inj ((jsonString_str hfiled.issued.closureRecordId).symm.trans hread)
    rw [(hfiled.unique hr₀ hid).2] at hfiled
    rw [rawCurrentTaskClosureResult, hget, Option.bind_some, hs.state.history_read hfiled n]

theorem rawCurrentTaskClosureResults_get? (s : StateObject) (task : UInt32) :
    (rawCurrentTaskClosureResults s).get? task.toNat = rawCurrentTaskClosureResult s task := by
  rw [rawCurrentTaskClosureResults_eq, rawByTask_get?]
  rfl

/-- Nothing is to be restored from the history. -/
theorem SerialClosures.raw_results (hs : SerialClosures run closed s) :
    rawCurrentTaskClosureResults s = currentTaskClosureResultsFromHistory s := by
  refine OrderedMap.ext_get? fun key => Option.ext fun record => ⟨fun h => ?_, fun h => ?_⟩
  · rw [rawCurrentTaskClosureResults_eq] at h
    obtain ⟨task, rfl, hread⟩ := rawByTask_eq_some h
    rw [← hs.raw_eq_history, rawCurrentTaskClosureResult, hread]
  · obtain ⟨task, _, rfl, _⟩ := currentByTask_eq_some h
    rw [rawCurrentTaskClosureResults_get?, hs.raw_eq_history, h]

theorem SerialClosures.currentTaskClosureResult_eq (hs : SerialClosures run closed s)
    (task : UInt32) : currentTaskClosureResult s task = rawCurrentTaskClosureResult s task := by
  rw [currentTaskClosureResult, ← hs.raw_eq_history, Option.or_self]

/-- A task is listed as closed exactly when it has a current closure. -/
theorem SerialClosures.contains_iff (hs : SerialClosures run closed s) (task : UInt32) :
    (currentTaskClosureResults s).contains task.toNat = true ↔
      ∃ r ∈ survivors sharesSurface closed, r.task = task := by
  have hget : (currentTaskClosureResults s).get? task.toNat = currentTaskClosureResult s task := by
    rw [currentTaskClosureResults, OrderedMap.get?_foldl_insert _ _ _ (OrderedMap.nodup_keys _),
      rawCurrentTaskClosureResults_get?]
    rfl
  rw [OrderedMap.contains, hget]
  constructor
  · intro h
    obtain ⟨record, hrecord⟩ := Option.isSome_iff_exists.mp h
    have hid : (currentTaskClosureResult s task).map CurrentTaskClosureRecord.closureRecordId =
        some record.closureRecordId := by rw [hrecord, Option.map_some]
    obtain ⟨r, hr, htask, _⟩ := (hs.current _ _).mp (hs.state.currentTaskClosureResult_iff.mp hid)
    exact ⟨r, hr, htask⟩
  · rintro ⟨r, hr, rfl⟩
    have hcurrent := hs.state.currentTaskClosureResult_iff.mpr
      ((hs.current r.task r.closureRecordId).mpr ⟨r, hr, rfl, rfl⟩)
    obtain ⟨record, hrecord, _⟩ := Option.map_eq_some_iff.mp hcurrent
    rw [hrecord]
    rfl

/-- **Every task that was closed has a current closure** exactly when no two closures share a
path. -/
theorem SerialClosures.forall_current (hs : SerialClosures run closed s) :
    (∀ r ∈ closed, (currentTaskClosureResults s).contains r.task.toNat = true) ↔
      closed.Pairwise fun r r' => sharesSurface r r' = false := by
  have hnodup : closed.Nodup := hs.ascending.imp fun hlt heq =>
    absurd (heq ▸ hlt) (UInt32.lt_irrefl _)
  rw [← forall_mem_survivors hnodup]
  refine forall₂_congr fun r hr => (hs.contains_iff r.task).trans ⟨?_, fun h => ⟨r, h, rfl⟩⟩
  rintro ⟨r', hr', htask⟩
  rwa [hs.task_injective hr (mem_of_mem_survivors hr') htask.symm]

/-! ### Runs -/

/-- A run that closes tasks, each later than those before it, and otherwise leaves the closures
as they are. -/
inductive SerialRun (sha : Sha256Hex) (run : ExecutionRun) (start : StateObject) :
    List TaskClosureResultRecord → StateObject → Prop
  | start : SerialRun sha run start [] start
  | close {closed : List TaskClosureResultRecord} {s s' : StateObject} {currentLineage : String}
      {r : TaskClosureResultRecord} : SerialRun sha run start closed s →
      (ClosureOp.closeCurrentTask currentLineage r).Issued sha run s →
      (∀ r' ∈ closed, r'.task < r.task) →
      (ClosureOp.closeCurrentTask currentLineage r).apply sha run.plan s = some s' →
      SerialRun sha run start (closed ++ [r.under sha run.plan.planRel currentLineage]) s'
  | other {closed : List TaskClosureResultRecord} {s changed : StateObject} :
      SerialRun sha run start closed s → (ClosureOp.other changed).Issued sha run s →
      SerialRun sha run start closed changed

theorem SerialRun.serialClosures {sha : Sha256Hex} {start : StateObject}
    (hsha : ∀ t, Unspaced (sha t)) (hstart : NoClosures run start)
    (h : SerialRun sha run start closed s) : SerialClosures run closed s := by
  induction h with
  | start => exact hstart.serialClosures
  | close _ hissued hlater hclose ih =>
    obtain ⟨hworded, hrun, hallocated⟩ := hissued
    exact ih.close hallocated hlater (hworded.issued hsha _ _) hrun (ok_of_toOption hclose)
  | other _ hissued ih => exact ih.congr hissued

/-- **What is current after tasks have been closed in a row**: the closures that no later one
shares a path with; the current map and the history read the same of every task.  So each task
that was closed has a current closure exactly if no two of the closures share a path. -/
theorem serial_run_closures {sha : Sha256Hex} {start : StateObject}
    (hsha : ∀ t, Unspaced (sha t)) (hstart : NoClosures run start)
    (h : SerialRun sha run start closed s) :
    (∀ task, rawCurrentTaskClosureResult s task =
      (currentTaskClosureResultsFromHistory s).get? task.toNat) ∧
    (∀ task, (currentTaskClosureResults s).contains task.toNat = true ↔
      ∃ r ∈ survivors sharesSurface closed, r.task = task) ∧
    ((∀ r ∈ closed, (currentTaskClosureResults s).contains r.task.toNat = true) ↔
      closed.Pairwise fun r r' => sharesSurface r r' = false) := by
  have hclosures := h.serialClosures hsha hstart
  exact ⟨hclosures.raw_eq_history, hclosures.contains_iff, hclosures.forall_current⟩

/-- Two tasks that change one file are closed: the second has a current closure, and the first
has none. -/
theorem serial_run_closures_one_file :
    (currentTaskClosureResults secondClosed).contains 1 = false ∧
      (currentTaskClosureResults secondClosed).contains 2 = true := by
  have hfirst : SerialRun closureSha closureRun noneClosed _ firstClosed :=
    .close .start (issued_fileClosure (by decide)) (fun _ hr => absurd hr List.not_mem_nil)
      (apply_afterClosing (by decide))
  have hsecond : SerialRun closureSha closureRun noneClosed _ secondClosed :=
    .close hfirst (issued_fileClosure (by decide)) (by decide) (apply_afterClosing (by decide))
  have hcurrent := (serial_run_closures unspaced_closureSha noClosures_noneClosed hsecond).2.1
  constructor
  · rw [← Bool.not_eq_true]
    intro h
    obtain ⟨r, hr, htask⟩ := (hcurrent 1).mp h
    exact absurd htask ((show ∀ r ∈ survivors sharesSurface _, r.task ≠ 1 by decide) r hr)
  · exact (hcurrent 2).mpr ⟨_, List.mem_singleton_self _, rfl⟩

end FeatureForge
