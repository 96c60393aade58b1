import FeatureForge.Closures.OverlayRestore
import FeatureForge.Closures.Recordings
import FeatureForge.Closures.Runs

/-!
# What a closure overtakes

Closing a task drops the current closures of other tasks by the numbers of the tasks, and takes
these from the whole history.  So it drops the closure of a task exactly when the history has one
of that task, of the active plan and run, that shares a path with it (`closeCurrentTask_get?`).
-/

namespace FeatureForge

variable {plan : ActivePlan} {r : TaskClosureResultRecord} {s s' : StateObject}

/-- A closure of the active plan and run, under another id, shares a path with a new one. -/
def Overtaken (plan : ActivePlan) (s : StateObject) (r : TaskClosureResultRecord)
    (record : CurrentTaskClosureRecord) : Prop :=
  record.closureRecordId ≠ r.closureRecordId ∧
    taskClosureRecordMatchesActivePlanAndRuntimeScope plan s record = true ∧
    taskSurfacePathsOverlap record.effectiveReviewedSurfacePaths
      r.effectiveReviewedSurfacePaths = true

instance (record : CurrentTaskClosureRecord) : Decidable (Overtaken plan s r record) :=
  inferInstanceAs (Decidable (_ ∧ _))

theorem mem_supersededTaskClosureRecords {record : CurrentTaskClosureRecord}
    (htask : record.task ≠ r.task) :
    record ∈ supersededTaskClosureRecords plan s r.task r.closureRecordId
        r.effectiveReviewedSurfacePaths ↔
      record ∈ taskClosureHistoryRecords s ∧ Overtaken plan s r record := by
  rw [supersededTaskClosureRecords, List.mem_filter, Overtaken]
  simp [htask, and_assoc]

/-- The entry of another key stays where no closure of its task is overtaken. -/
theorem closeCurrentTask_get? (h : closeCurrentTask plan r s = .ok s') {key : String}
    (hkey : key ≠ taskScopeKey r.task) :
    (objectEntries (s' .currentTaskClosureRecords)).get? key =
      if key ∈ (supersededTaskClosureRecords plan s r.task r.closureRecordId
        r.effectiveReviewedSurfacePaths).map (fun record => taskScopeKey record.task) then none
      else (objectEntries (s .currentTaskClosureRecords)).get? key := by
  obtain ⟨_, payload, _, _, hcurrent⟩ := closeCurrentTask_files h
  rw [hcurrent, OrderedMap.get?_insert_of_ne _ _ hkey, get?_foldl_erase]

/-- **What closing a task removes**: the closure becomes the current one of its task, every other
current closure of the plan and the run that shares a path with it goes, and the current closure
of a task stays when no closure of that task, of the plan and the run, shares one. -/
theorem close_removes_overlapping (h : closeCurrentTask plan r s = .ok s') :
    (∃ n, (objectEntries (s' .currentTaskClosureRecords)).get? (taskScopeKey r.task) =
      some (.obj (taskClosurePayload r (s .runIdentity) n))) ∧
    (∀ (task : UInt32) record, task ≠ r.task → rawCurrentTaskClosureResult s task = some record →
      record ∈ taskClosureHistoryRecords s → Overtaken plan s r record →
        (objectEntries (s' .currentTaskClosureRecords)).get? (taskScopeKey task) = none) ∧
    ∀ key, key ≠ taskScopeKey r.task →
      (∀ record ∈ taskClosureHistoryRecords s, taskScopeKey record.task = key →
        ¬ Overtaken plan s r record) →
      (objectEntries (s' .currentTaskClosureRecords)).get? key =
        (objectEntries (s .currentTaskClosureRecords)).get? key := by
  refine ⟨?_, fun task record htask hraw hhistory hovertaken => ?_, fun key hkey hfree => ?_⟩
  · obtain ⟨_, payload, rfl, _, hcurrent⟩ := closeCurrentTask_files h
    rw [hcurrent, OrderedMap.get?_insert_self]
    exact ⟨_, rfl⟩
  · have hrecord : record.task = task := by
      obtain ⟨payload, _, hread⟩ := Option.bind_eq_some_iff.mp hraw
      exact (legible_of_payload hread).1
    have hkey : taskScopeKey task ≠ taskScopeKey r.task := fun heq =>
      htask (taskScopeKey_injective heq)
    rw [closeCurrentTask_get? h hkey, if_pos]
    refine List.mem_map.mpr ⟨record, ?_, congrArg taskScopeKey hrecord⟩
    exact (mem_supersededTaskClosureRecords (hrecord.symm ▸ htask)).mpr ⟨hhistory, hovertaken⟩
  · rw [closeCurrentTask_get? h hkey, if_neg]
    intro hmem
    obtain ⟨record, hrecord, rfl⟩ := List.mem_map.mp hmem
    have htask : record.task ≠ r.task := fun heq => hkey (congrArg taskScopeKey heq)
    obtain ⟨hhistory, hovertaken⟩ := (mem_supersededTaskClosureRecords htask).mp hrecord
    exact hfree record hhistory rfl hovertaken

/-! ### Closures that share no path -/

/-- A closure drops the current closures of other tasks that share a path with it, and no
others. -/
def DropsOverlapping (plan : ActivePlan) (r : TaskClosureResultRecord) (s : StateObject) : Prop :=
  ∀ s', closeCurrentTask plan r s = .ok s' → ∀ (task : UInt32) record, task ≠ r.task →
    rawCurrentTaskClosureResult s task = some record →
      ((objectEntries (s' .currentTaskClosureRecords)).get? (taskScopeKey task) = none ↔
        taskSurfacePathsOverlap record.effectiveReviewedSurfacePaths
          r.effectiveReviewedSurfacePaths = true)

/-- A closure of a task, of changes to one file. -/
def pathClosure (task : UInt32) (id path : String) : TaskClosureResultRecord :=
  { fileClosure task with closureRecordId := id, effectiveReviewedSurfacePaths := [path] }

/-- The state after a task is closed. -/
def closedWith (s : StateObject) (r : TaskClosureResultRecord) : StateObject :=
  (closeCurrentTask closurePlan r s).toOption.getD s

theorem closeCurrentTask_closedWith
    (h : (closeCurrentTask closurePlan r s).toOption.isSome = true) :
    closeCurrentTask closurePlan r s = .ok (closedWith s r) := by
  unfold closedWith
  cases hclose : closeCurrentTask closurePlan r s with
  | error _ =>
    rw [hclose] at h
    cases h
  | ok _ => rfl

def closedOnce : StateObject := closedWith noneClosed (pathClosure 1 "first" "src/a.rs")

def closedTwice : StateObject := closedWith closedOnce (pathClosure 1 "second" "src/b.rs")

def laterRunIdentity : Json := .record
  [("execution_run_id", .str "run-fedcba9876543210"),
   ("source_plan_path", .str "docs/featureforge/plans/plan.md"), ("source_plan_revision", .u64 1)]

/-- The state of a later run of the plan. -/
def laterRun : StateObject := closedOnce.set .runIdentity laterRunIdentity

theorem close_removes_overlapping_closedOnce :
    (objectEntries (closedWith closedOnce (pathClosure 2 "other" "src/a.rs")
      .currentTaskClosureRecords)).get? (taskScopeKey 1) = none := by
  have hclose : closeCurrentTask closurePlan (pathClosure 2 "other" "src/a.rs") closedOnce =
      .ok (closedWith closedOnce (pathClosure 2 "other" "src/a.rs")) :=
    closeCurrentTask_closedWith (by decide)
  obtain ⟨record, hraw, hhistory, hovertaken⟩ : ∃ record,
      rawCurrentTaskClosureResult closedOnce 1 = some record ∧
        record ∈ taskClosureHistoryRecords closedOnce ∧
          Overtaken closurePlan closedOnce (pathClosure 2 "other" "src/a.rs") record :=
    ⟨(rawCurrentTaskClosureResult closedOnce 1).get (by decide), by decide,
      by decide, by decide⟩
  exact (close_removes_overlapping hclose).2.1 1 record (by decide) hraw hhistory hovertaken

/-- The closure of another task in the later run. -/
def laterClosure : TaskClosureResultRecord :=
  { pathClosure 2 "other" "src/a.rs" with executionRunId := some "run-fedcba9876543210" }

theorem not_dropsOverlapping (task : UInt32) {record : CurrentTaskClosureRecord} {s' : StateObject}
    (hclose : closeCurrentTask plan r s = .ok s') (htask : task ≠ r.task)
    (hraw : rawCurrentTaskClosureResult s task = some record)
    (h : ¬ ((objectEntries (s' .currentTaskClosureRecords)).get? (taskScopeKey task) = none ↔
      taskSurfacePathsOverlap record.effectiveReviewedSurfacePaths
        r.effectiveReviewedSurfacePaths = true)) : ¬ DropsOverlapping plan r s :=
  fun hdrops => h (hdrops s' hclose task record htask hraw)

/-- A closure of a task that shares no path is dropped for an older one of the task that does, and
one of another run that shares a path is kept. -/
theorem not_drops_exactly_overlapping :
    ¬ DropsOverlapping closurePlan (pathClosure 2 "other" "src/a.rs") closedTwice ∧
      ¬ DropsOverlapping closurePlan laterClosure laterRun := by
  constructor
  · have hraw : rawCurrentTaskClosureResult closedTwice 1 =
        some ((rawCurrentTaskClosureResult closedTwice 1).get (by decide)) :=
      (Option.some_get _).symm
    exact not_dropsOverlapping 1 (closeCurrentTask_closedWith (by decide)) (by decide) hraw
      (by decide)
  · have hraw : rawCurrentTaskClosureResult laterRun 1 =
        some ((rawCurrentTaskClosureResult laterRun 1).get (by decide)) :=
      (Option.some_get _).symm
    exact not_dropsOverlapping 1 (closeCurrentTask_closedWith (by decide)) (by decide) hraw
      (by decide)

end FeatureForge
