import FeatureForge.Closures.Outcomes
import FeatureForge.Closures.StateGraph
import FeatureForge.Closures.Staleness

/-!
# What a closing does to stale closures

Closing a task marks some closures as superseded, lists some as superseded, and files the new
one; every other evaluation of the graph stays as it is (`taskRecord_closed`).  So a stale closure
of the task is resolved when the closing supersedes it, and else when the newest of the closures
that are current after it has a larger number, the same plan and a surface that covers it
(`stale_task_resolved_iff`).
-/

namespace FeatureForge

open AuthoritativeClosureGraph

variable {plan : ActivePlan} {r : TaskClosureResultRecord} {s s' : StateObject}

/-! ### Records under their own ids -/

/-- A record of the history of closures that marks and the graph find under its key alone. -/
structure OwnRecord (key : String) (payload : Json) : Prop where
  matched : ∀ id, recordEntryMatchesId key payload id = true ↔ id = key
  read : ∀ evaluation, taskClosureEvaluation key payload = some evaluation →
    evaluation.identity.recordId = key

def OwnRecords (history : Object) : Prop :=
  ∀ key payload, history.get? key = some payload → OwnRecord key payload

/-- A closure with another freshness, as the graph reads it. -/
def refreshed (freshness : ClosureFreshness) (evaluation : ClosureEvaluation) : ClosureEvaluation :=
  { evaluation with
    freshness := freshness, staleReasonCodes := staleReasonCodesForFreshness freshness }

theorem valueClosureFreshness_marked (record : Object) :
    valueClosureFreshness (.obj (markEntry "superseded" record)) = some .superseded := by
  have hread : valueString (.obj (markEntry "superseded" record)) "record_status" =
      some "superseded" := by
    rw [valueString, markEntry_recordStatus]
    exact jsonString_str (by decide)
  have hsuperseded : closureFreshnessFromStatus "superseded" = some .superseded := by decide
  unfold valueClosureFreshness
  rcases markEntry_closureStatus "superseded" record with hnone | hsome
  · have hclosure : valueString (.obj (markEntry "superseded" record)) "closure_status" = none := by
      rw [valueString, hnone]
      rfl
    rw [hclosure, Option.none_or, hread, Option.bind_some, hsuperseded]
  · have hclosure : valueString (.obj (markEntry "superseded" record)) "closure_status" =
        some "superseded" := by
      rw [valueString, hsome]
      exact jsonString_str (by decide)
    rw [hclosure, Option.some_or, Option.bind_some, hsuperseded]

/-- **A mark changes the freshness** of what the graph reads, and nothing else. -/
theorem taskClosureEvaluation_marked (key status : String) (record : Object) :
    taskClosureEvaluation key (.obj (markEntry status record)) =
      (taskClosureEvaluation key (.obj record)).map
        (refreshed ((valueClosureFreshness (.obj (markEntry status record))).getD .current)) := by
  have hmember : ∀ k, k ≠ "record_status" → k ≠ "closure_status" →
      (Json.obj (markEntry status record)).get? k = (Json.obj record).get? k := by
    intro k hrecord hclosure
    rw [Json.get?_obj, Json.get?_obj, markEntry_get?_of_ne _ _ hrecord hclosure]
  have hstring : ∀ k, k ≠ "record_status" → k ≠ "closure_status" →
      valueString (.obj (markEntry status record)) k = valueString (.obj record) k :=
    fun k hrecord hclosure => congrArg jsonString (hmember k hrecord hclosure)
  have hnumber : ∀ k, k ≠ "record_status" → k ≠ "closure_status" →
      valueU32 (.obj (markEntry status record)) k = valueU32 (.obj record) k := by
    intro k hrecord hclosure
    rw [valueU32, valueU32, hmember k hrecord hclosure]
  unfold taskClosureEvaluation
  rw [hnumber _ (by decide) (by decide), hstring _ (by decide) (by decide),
    hstring _ (by decide) (by decide)]
  cases valueU32 (.obj record) "task" with
  | none => rfl
  | some task =>
    dsimp only
    split_ifs
    · rfl
    · unfold closureEvaluation
      rw [hstring _ (by decide) (by decide), hnumber _ (by decide) (by decide),
        hstring _ (by decide) (by decide), valueU64, hmember _ (by decide) (by decide),
        valueStringArray, hmember _ (by decide) (by decide)]
      rfl

theorem OwnRecord.marked {key : String} {record : Object} (h : OwnRecord key (.obj record))
    (status : String) : OwnRecord key (.obj (markEntry status record)) where
  matched id := by
    rw [← h.matched id]
    unfold recordEntryMatchesId
    simp only [Json.get?_obj]
    rw [markEntry_get?_of_ne _ _ (by decide) (by decide),
      markEntry_get?_of_ne _ _ (by decide) (by decide),
      markEntry_get?_of_ne _ _ (by decide) (by decide)]
  read evaluation hread := by
    rw [taskClosureEvaluation_marked, Option.map_eq_some_iff] at hread
    obtain ⟨evaluation', hread, rfl⟩ := hread
    exact h.read evaluation' hread

section

variable {history : Object}

/-- A mark for an id is a mark of the record under it. -/
theorem OwnRecords.get?_mark (h : OwnRecords history) (id status key : String) :
    (markRecordStatus history id status).get? key = (history.get? key).map fun payload =>
      if key = id then (payload.asObject.map fun record => .obj (markEntry status record)).getD payload
      else payload := by
  rw [markRecordStatus, OrderedMap.get?_mapVal]
  cases hget : history.get? key with
  | none => rfl
  | some payload =>
    rw [Option.map_some, Option.map_some]
    by_cases hkey : key = id
    · rw [if_pos (((h key payload hget).matched id).mpr hkey.symm), if_pos hkey]
      cases payload.asObject <;> rfl
    · rw [if_neg fun hmatch => hkey (((h key payload hget).matched id).mp hmatch).symm, if_neg hkey]

theorem OwnRecords.mark (h : OwnRecords history) (id status : String) :
    OwnRecords (markRecordStatus history id status) := by
  intro key payload hget
  rw [h.get?_mark, Option.map_eq_some_iff] at hget
  obtain ⟨payload', hget, rfl⟩ := hget
  have hown := h key payload' hget
  split_ifs
  · cases hobject : payload'.asObject with
    | none => exact hown
    | some record =>
      rw [Json.asObject_eq_some.mp hobject] at hown
      exact hown.marked status
  · exact hown

theorem OwnRecords.markAll (h : OwnRecords history) (status : String) (ids : List String) :
    OwnRecords (markAll status history ids) :=
  List.foldlRecOn ids _ h fun _ h id _ => h.mark id status

/-- What the graph reads of the record under a key. -/
def readTask (history : Object) (key : String) : Option ClosureEvaluation :=
  (history.get? key).bind (taskClosureEvaluation key)

theorem OwnRecords.readTask_mark (h : OwnRecords history) (id key : String) :
    readTask (markRecordStatus history id "superseded") key = (readTask history key).map
      fun evaluation => if key = id then refreshed .superseded evaluation else evaluation := by
  unfold readTask
  rw [h.get?_mark]
  cases history.get? key with
  | none => rfl
  | some payload =>
    rw [Option.map_some, Option.bind_some, Option.bind_some]
    by_cases hkey : key = id
    · simp only [hkey, if_true]
      cases hobject : payload.asObject with
      | none =>
        -- what is not an object is not read
        have hread : taskClosureEvaluation id payload = none := by
          rw [taskClosureEvaluation, valueU32, Json.get?_of_asObject_none hobject]
          rfl
        rw [Option.map_none, Option.getD_none, hread]
        rfl
      | some record =>
        rw [Option.map_some, Option.getD_some, taskClosureEvaluation_marked,
          valueClosureFreshness_marked, Option.getD_some, Json.asObject_eq_some.mp hobject]
    · simp only [hkey, if_false, Option.map_id']

/-- **What marks leave the graph to read**: a superseded closure where they name one, and any
other as it was. -/
theorem OwnRecords.readTask_markAll (ids : List String) (h : OwnRecords history) (key : String) :
    readTask (FeatureForge.markAll "superseded" history ids) key = (readTask history key).map
      fun evaluation => if key ∈ ids then refreshed .superseded evaluation else evaluation := by
  induction ids generalizing history with
  | nil =>
    simp only [List.not_mem_nil, if_false, Option.map_id']
    rfl
  | cons id ids ih =>
    show readTask (FeatureForge.markAll "superseded" (markRecordStatus history id "superseded") ids)
      key = _
    rw [ih (h.mark id _), h.readTask_mark, Option.map_map]
    refine congrArg (fun f => (readTask history key).map f) (funext fun evaluation => ?_)
    rw [Function.comp_apply]
    by_cases hkey : key = id
    · rw [if_pos hkey, if_pos (List.mem_cons.mpr (Or.inl hkey))]
      split_ifs <;> rfl
    · rw [if_neg hkey]
      simp only [List.mem_cons, hkey, false_or]

end

/-! ### What a closing changes -/

/-- The ids of the closures that are taken back with some tasks. -/
def takenBackClosureIds (s : StateObject) (tasks : List UInt32) : List String :=
  tasks.filterMap fun task => (rawClosureRecordId s (taskScopeKey task)).or
    ((currentTaskClosureResult s task).map CurrentTaskClosureRecord.closureRecordId)

/-- The ids that a closing marks as superseded. -/
def markedByClosing (plan : ActivePlan) (r : TaskClosureResultRecord) (s : StateObject) :
    List String :=
  takenBackClosureIds s ((supersededTaskClosureRecords plan s r.task r.closureRecordId
    r.effectiveReviewedSurfacePaths).map CurrentTaskClosureRecord.task)

/-- The ids that a closing lists as superseded. -/
def listedByClosing (plan : ActivePlan) (r : TaskClosureResultRecord) (s : StateObject) :
    List String :=
  (supersededTaskClosureRecords plan s r.task r.closureRecordId
    r.effectiveReviewedSurfacePaths).map CurrentTaskClosureRecord.closureRecordId

def SupersededByClosing (plan : ActivePlan) (r : TaskClosureResultRecord) (s : StateObject)
    (id : String) : Prop :=
  id ∈ markedByClosing plan r s ∨ id ∈ listedByClosing plan r s

/-- The fields that a closing writes. -/
def closingFields : List Field :=
  [.currentTaskClosureRecords, .taskClosureRecordHistory, .taskClosureNegativeResultRecords,
    .taskClosureNegativeResultHistory, .supersededTaskClosureIds]

/-- What a closing files. -/
def filedByClosing (r : TaskClosureResultRecord) (s : StateObject) : Json :=
  .obj (taskClosurePayload r (s .runIdentity)
    ((objectEntries (s .taskClosureRecordHistory)).entries.length + 1))

theorem named_of_listed {id : String} (h : id ∈ listedByClosing plan r s) : Named id := by
  obtain ⟨record, hrecord, rfl⟩ := List.mem_map.mp h
  obtain ⟨⟨_, payload⟩, _, hread⟩ := List.mem_filterMap.mp (List.mem_filter.mp hrecord).1
  obtain ⟨task, _, hread⟩ := Option.bind_eq_some_iff.mp hread
  simp only [currentTaskClosureRecordFromPayload, Option.bind_eq_bind,
    Option.bind_eq_some_iff] at hread
  obtain ⟨_, _, closureId, hid, _, _, _, _, _, _, _, _, _, _, _, _, _, _, hrecord⟩ := hread
  cases hrecord
  exact trimmed_of_nonBlank hid

theorem not_listed_self : r.closureRecordId ∉ listedByClosing plan r s := by
  intro h
  obtain ⟨record, hrecord, hid⟩ := List.mem_map.mp h
  have hkept := (List.mem_filter.mp hrecord).2
  simp [hid] at hkept

/-- **What a closing leaves in a state.** -/
theorem closeCurrentTask_snapshot (h : closeCurrentTask plan r s = .ok s') :
    (∀ f, f ∉ closingFields → s' f = s f) ∧
      objectEntries (s' .taskClosureRecordHistory) = (markAll "superseded"
        (objectEntries (s .taskClosureRecordHistory)) (markedByClosing plan r s)).insert
          r.closureRecordId (filedByClosing r s) ∧
      ∀ id, id ∈ supersededTaskClosureIds s' ↔
        id ∈ supersededTaskClosureIds s ∨ id ∈ listedByClosing plan r s := by
  obtain ⟨s₁, hremove, h⟩ := bind_ok h
  obtain ⟨s₂, hclear, h⟩ := bind_ok h
  obtain ⟨s₃, happend, h⟩ := bind_ok h
  obtain ⟨hsame₁, _, hhistory₁⟩ := takeBackTaskClosures_ok hremove
  have hsame₂ := clearTaskClosureNegativeResult_ok hclear
  have hsame₃ := appendUniqueStringArray_ok happend
  obtain ⟨hsame, hhistory, _⟩ := recordTaskClosureResult_maps h
  have hframe : ∀ f, f ∉ closingFields → s₃ f = s f := by
    intro f hf
    unfold closingFields at hf
    simp only [List.mem_cons, List.not_mem_nil, or_false, not_or] at hf
    rw [hsame₃ f hf.2.2.2.2, hsame₂ f hf.2.2.1 hf.2.2.2.1, hsame₁ f hf.1 hf.2.1]
  refine ⟨fun f hf => ?_, ?_, fun id => ?_⟩
  · rw [← hframe f hf]
    unfold closingFields at hf
    simp only [List.mem_cons, List.not_mem_nil, or_false, not_or] at hf
    exact hsame f hf.1 hf.2.1
  · rw [hhistory, hframe .runIdentity (by decide), hsame₃ _ (by decide),
      hsame₂ _ (by decide) (by decide), hhistory₁, length_markAll]
    rfl
  · unfold supersededTaskClosureIds
    rw [hsame _ (by decide) (by decide), appendUniqueStringArray_mem happend,
      hsame₂ _ (by decide) (by decide), hsame₁ _ (by decide) (by decide)]
    refine or_congr_right ⟨?_, fun hid => ⟨id, hid, (named_of_listed hid).1, (named_of_listed hid).2⟩⟩
    rintro ⟨value, hvalue, htrim, _⟩
    rw [← htrim, (named_of_listed hvalue).1]
    exact hvalue

theorem ownRecord_filed (hr : Named r.closureRecordId) :
    OwnRecord r.closureRecordId (filedByClosing r s) where
  matched id := by
    unfold filedByClosing recordEntryMatchesId
    rw [Json.get?_obj, taskClosurePayload_get? _ _ _ (by decide)]
    show (r.closureRecordId == id || trim r.closureRecordId == id) = true ↔ id = r.closureRecordId
    rw [hr.1, Bool.or_self, beq_iff_eq]
    exact eq_comm
  read evaluation hread := by
    have hid : valueString (filedByClosing r s) "closure_record_id" = some r.closureRecordId := by
      rw [valueString, filedByClosing, Json.get?_obj, taskClosurePayload_get? _ _ _ (by decide)]
      exact jsonString_str hr
    unfold taskClosureEvaluation at hread
    rw [hid, Option.some_or, Option.getD_some] at hread
    cases htask : valueU32 (filedByClosing r s) "task" with
    | none =>
      rw [htask] at hread
      cases hread
    | some task =>
      rw [htask] at hread
      dsimp only at hread
      split_ifs at hread
      cases hread
      rfl

/-- **A closing keeps records under their own ids.** -/
theorem OwnRecords.close (h : OwnRecords (objectEntries (s .taskClosureRecordHistory)))
    (hr : Named r.closureRecordId) (hclose : closeCurrentTask plan r s = .ok s') :
    OwnRecords (objectEntries (s' .taskClosureRecordHistory)) := by
  obtain ⟨_, hhistory, _⟩ := closeCurrentTask_snapshot hclose
  intro key payload hget
  rw [hhistory, OrderedMap.get?_insert] at hget
  split_ifs at hget with hkey
  · cases hget
    exact hkey ▸ ownRecord_filed hr
  · exact h.markAll _ _ key payload hget

/-- Taking closures back keeps records under their own ids. -/
theorem OwnRecords.takeBack {scopeKeys closureIds : List String} {status : String}
    (h : OwnRecords (objectEntries (s .taskClosureRecordHistory)))
    (htake : takeBackTaskClosures scopeKeys closureIds status s = .ok s') :
    OwnRecords (objectEntries (s' .taskClosureRecordHistory)) := by
  rw [(takeBackTaskClosures_ok htake).2.2]
  exact h.markAll status closureIds

/-! ### The graph before and after a closing -/

/-- The four histories that are read after the closures of tasks. -/
def readOthers (s : StateObject) (graph : AuthoritativeClosureGraph) : AuthoritativeClosureGraph :=
  (((graph.ingestBranchClosureHistory (objectEntries (s .branchClosureRecords))
    (supersededBranchClosureIds s)).ingest releaseReadinessEvaluation
      (objectEntries (s .releaseReadinessRecordHistory))).ingest finalReviewEvaluation
        (objectEntries (s .finalReviewRecordHistory))).ingest browserQaEvaluation
          (objectEntries (s .browserQaRecordHistory))

/-- None of the four histories reads a record under an id. -/
structure ReadNowhereElse (s : StateObject) (id : String) : Prop where
  branch : ¬ Reads branchClosureEvaluation (objectEntries (s .branchClosureRecords)) id
  releaseReadiness : ¬ Reads releaseReadinessEvaluation
    (objectEntries (s .releaseReadinessRecordHistory)) id
  finalReview : ¬ Reads finalReviewEvaluation (objectEntries (s .finalReviewRecordHistory)) id
  browserQa : ¬ Reads browserQaEvaluation (objectEntries (s .browserQaRecordHistory)) id

theorem evaluatedState_noSignals (s : StateObject) : evaluatedState s noSignals =
    (readOthers s (empty.ingest taskClosureEvaluation
      (objectEntries (s .taskClosureRecordHistory)))).applySupersededTaskIds
        (supersededTaskClosureIds s) := rfl

/-- The fields of the four histories. -/
def otherHistoryFields : List Field :=
  [.branchClosureRecords, .supersededBranchClosureIds, .releaseReadinessRecordHistory,
    .finalReviewRecordHistory, .browserQaRecordHistory]

theorem readOthers_congr (h : ∀ f ∈ otherHistoryFields, s' f = s f) :
    readOthers s' = readOthers s := by
  funext graph
  unfold readOthers supersededBranchClosureIds
  rw [h .branchClosureRecords (by decide), h .supersededBranchClosureIds (by decide),
    h .releaseReadinessRecordHistory (by decide), h .finalReviewRecordHistory (by decide),
    h .browserQaRecordHistory (by decide)]

section

variable {graph graph' : AuthoritativeClosureGraph} {id : String}

theorem readOthers_local (h : graph.evaluations.get? id = graph'.evaluations.get? id) :
    (readOthers s graph).evaluations.get? id = (readOthers s graph').evaluations.get? id := by
  unfold readOthers
  refine ingest_local (ingest_local (ingest_local ?_ _ _) _ _) _ _
  unfold ingestBranchClosureHistory
  rw [get?_supersede, get?_supersede, evaluations_ingestBranchClosures _ graph graph rfl,
    evaluations_ingestBranchClosures _ graph' graph' rfl, ← ingest_eq, ← ingest_eq,
    ingest_local h]

theorem readOthers_of_nowhere (h : ReadNowhereElse s id) :
    (readOthers s graph).evaluations.get? id = (graph.evaluations.get? id).map fun evaluation =>
      if id ∈ supersededBranchClosureIds s ∧ evaluation.freshness ∈ [ClosureFreshness.current] then
        { evaluation with freshness := .superseded }
      else evaluation := by
  unfold readOthers
  rw [ingest_of_not_reads h.browserQa, ingest_of_not_reads h.finalReview,
    ingest_of_not_reads h.releaseReadiness]
  unfold ingestBranchClosureHistory
  rw [get?_supersede, evaluations_ingestBranchClosures _ graph graph rfl, ← ingest_eq,
    ingest_of_not_reads h.branch]

/-- What is read of the four histories is no closure of a task. -/
theorem readOthers_invariant {P : ClosureEvaluation → Prop}
    (hnew : ∀ evaluation, evaluation.identity.kind ≠ .taskClosure → P evaluation)
    (hsuperseded : ∀ evaluation, P evaluation → P { evaluation with freshness := .superseded })
    (h : ∀ evaluation, graph.evaluations.get? id = some evaluation → P evaluation) :
    ∀ evaluation, (readOthers s graph).evaluations.get? id = some evaluation → P evaluation := by
  have hmilestone : ∀ kind (binding : Json → ClosureDependencyBinding) key payload evaluation,
      kind ≠ .taskClosure →
      milestoneEvaluation kind binding key payload = some evaluation → P evaluation := by
    intro kind binding key payload evaluation hkind hread
    refine hnew evaluation ?_
    rw [(supersedes_milestoneEvaluation hread).2]
    exact hkind
  unfold readOthers
  refine ingest_invariant (fun _ _ _ => hmilestone _ _ _ _ _ (by decide)) ?_
  refine ingest_invariant (fun _ _ _ => hmilestone _ _ _ _ _ (by decide)) ?_
  refine ingest_invariant (fun _ _ _ => hmilestone _ _ _ _ _ (by decide)) ?_
  intro evaluation hget
  unfold ingestBranchClosureHistory at hget
  rw [get?_supersede, evaluations_ingestBranchClosures _ graph graph rfl, ← ingest_eq,
    Option.map_eq_some_iff] at hget
  obtain ⟨evaluation', hget, rfl⟩ := hget
  have hread : P evaluation' := by
    refine ingest_invariant (fun key payload evaluation hread => ?_) h evaluation' hget
    refine hnew evaluation ?_
    rw [(supersedes_branchClosureEvaluation hread).2]
    nofun
  split_ifs
  · exact hsuperseded evaluation' hread
  · exact hread

end

/-- What the graph reads of a closure as it is recorded. -/
def recordedEvaluation (r : TaskClosureResultRecord) (s : StateObject) : ClosureEvaluation :=
  closureEvaluation .taskClosure .task (some r.task) r.closureRecordId (filedByClosing r s) none
    ⟨[], valueStringArray (filedByClosing r s) "effective_reviewed_surface_paths"⟩

theorem recordedEvaluation_fresh : (recordedEvaluation r s).freshness = .current := by
  have hstatus : valueString (filedByClosing r s) "closure_status" = some "current" := by
    rw [valueString, filedByClosing, Json.get?_obj, taskClosurePayload_get? _ _ _ (by decide)]
    exact jsonString_str (by decide)
  show (valueClosureFreshness (filedByClosing r s)).getD .current = .current
  rw [valueClosureFreshness, hstatus, Option.some_or, Option.bind_some]
  decide

theorem recordedEvaluation_sequence :
    (recordedEvaluation r s).identity.authoritativeSequence =
      (objectEntries (s .taskClosureRecordHistory)).entries.length + 1 := by
  show (valueU64 (filedByClosing r s) "record_sequence").getD 0 = _
  rw [valueU64, filedByClosing, Json.get?_obj, taskClosurePayload_get? _ _ _ (by decide)]
  show ((Json.u64 _).asU64).getD 0 = _
  rw [Json.asU64_u64, Option.getD_some]

theorem taskClosureEvaluation_filed (hr : Named r.closureRecordId) (htask : r.task ≠ 0) :
    taskClosureEvaluation r.closureRecordId (filedByClosing r s) =
      some (recordedEvaluation r s) := by
  have hid : valueString (filedByClosing r s) "closure_record_id" = some r.closureRecordId := by
    rw [valueString, filedByClosing, Json.get?_obj, taskClosurePayload_get? _ _ _ (by decide)]
    exact jsonString_str hr
  have hnumber : valueU32 (filedByClosing r s) "task" = some r.task := by
    rw [valueU32, filedByClosing, Json.get?_obj, taskClosurePayload_get? _ _ _ (by decide)]
    show (jsonU32 (some (.u64 r.task.toNat))).filter _ = _
    rw [jsonU32_u64, Option.filter_some, if_pos]
    exact decide_eq_true (UInt32.pos_iff_ne_zero.mpr htask)
  unfold taskClosureEvaluation
  rw [hnumber, hid, Option.some_or, Option.getD_some]
  dsimp only
  rw [hr.1, if_neg hr.2]
  rfl

/-- What a closing relies on: the history has its records under their own ids, the id of the new
closure is no other task's, and no other history reads a record under it. -/
structure ClosureFiling (s : StateObject) (r : TaskClosureResultRecord) : Prop where
  own : OwnRecords (objectEntries (s .taskClosureRecordHistory))
  named : Named r.closureRecordId
  ofTask : ∀ evaluation, readTask (objectEntries (s .taskClosureRecordHistory)) r.closureRecordId =
    some evaluation → evaluation.identity.taskNumber = some r.task
  nowhereElse : ReadNowhereElse s r.closureRecordId

theorem readTask_ingest {history : Object} (h : OwnRecords history) (id : String) :
    (empty.ingest taskClosureEvaluation history).evaluations.get? id = readTask history id := by
  rw [get?_ingest (fun key payload evaluation hget hread => (h key payload hget).read evaluation hread)
    fun _ _ _ => rfl]
  exact Option.or_none

section

variable {id : String}

theorem readOthers_closed (h : closeCurrentTask plan r s = .ok s') : readOthers s' = readOthers s :=
  readOthers_congr fun f hf => (closeCurrentTask_snapshot h).1 f
    (by revert hf; cases f <;> decide)

theorem readTask_closed (hown : OwnRecords (objectEntries (s .taskClosureRecordHistory)))
    (h : closeCurrentTask plan r s = .ok s') (hid : id ≠ r.closureRecordId) :
    readTask (objectEntries (s' .taskClosureRecordHistory)) id =
      (readTask (objectEntries (s .taskClosureRecordHistory)) id).map fun evaluation =>
        if id ∈ markedByClosing plan r s then refreshed .superseded evaluation else evaluation := by
  rw [← hown.readTask_markAll, (closeCurrentTask_snapshot h).2.1, readTask,
    OrderedMap.get?_insert_of_ne _ _ hid]
  rfl

/-- **What a closing leaves alone** is evaluated as before. -/
theorem get?_closed_of_not_superseded (hfiling : ClosureFiling s r)
    (h : closeCurrentTask plan r s = .ok s') (hid : id ≠ r.closureRecordId)
    (hleft : ¬ SupersededByClosing plan r s id) :
    (evaluatedState s' noSignals).evaluations.get? id =
      (evaluatedState s noSignals).evaluations.get? id := by
  rw [SupersededByClosing, not_or] at hleft
  have hread : (readOthers s' (empty.ingest taskClosureEvaluation
      (objectEntries (s' .taskClosureRecordHistory)))).evaluations.get? id =
        (readOthers s (empty.ingest taskClosureEvaluation
          (objectEntries (s .taskClosureRecordHistory)))).evaluations.get? id := by
    rw [readOthers_closed h]
    refine readOthers_local ?_
    rw [readTask_ingest (hfiling.own.close hfiling.named h), readTask_ingest hfiling.own,
      readTask_closed hfiling.own h hid]
    simp only [hleft.1, if_false, Option.map_id']
  have hlisted : id ∈ supersededTaskClosureIds s' ↔ id ∈ supersededTaskClosureIds s :=
    ((closeCurrentTask_snapshot h).2.2 id).trans (or_iff_left hleft.2)
  rw [evaluatedState_noSignals, evaluatedState_noSignals, applySupersededTaskIds,
    applySupersededTaskIds, get?_supersede, get?_supersede, hread]
  simp only [hlisted]

/-- **What a closing supersedes** is superseded, or is no closure of a task. -/
theorem superseded_of_closed (hfiling : ClosureFiling s r)
    (h : closeCurrentTask plan r s = .ok s') (hid : id ≠ r.closureRecordId)
    (hsuperseded : SupersededByClosing plan r s id) {evaluation : ClosureEvaluation}
    (hget : (evaluatedState s' noSignals).evaluations.get? id = some evaluation)
    (hkind : evaluation.identity.kind = .taskClosure) : evaluation.freshness = .superseded := by
  rw [evaluatedState_noSignals, applySupersededTaskIds, get?_supersede,
    Option.map_eq_some_iff] at hget
  obtain ⟨read, hget, rfl⟩ := hget
  rcases hsuperseded with hmarked | hlisted
  · -- a mark is read with the history, and no later pass takes it back
    have hread : read.identity.kind = .taskClosure → read.freshness = .superseded := by
      refine readOthers_invariant (P := fun evaluation => evaluation.identity.kind = .taskClosure →
        evaluation.freshness = .superseded) (fun _ hnew hkind => absurd hkind hnew)
          (fun _ _ _ => rfl) ?_ read hget
      intro evaluation hget _
      rw [readTask_ingest (hfiling.own.close hfiling.named h), readTask_closed hfiling.own h hid,
        Option.map_eq_some_iff] at hget
      obtain ⟨before, _, rfl⟩ := hget
      rw [if_pos hmarked]
      rfl
    have hfresh : read.freshness = .superseded := by
      refine hread ?_
      split_ifs at hkind <;> exact hkind
    split_ifs
    · rfl
    · exact hfresh
  · have hmem : id ∈ supersededTaskClosureIds s' :=
      ((closeCurrentTask_snapshot h).2.2 id).mpr (Or.inr hlisted)
    split_ifs with hfresh
    · rfl
    · cases hread : read.freshness with
      | superseded => rfl
      | current => exact absurd ⟨hmem, by simp [hread]⟩ hfresh
      | staleUnreviewed => exact absurd ⟨hmem, by simp [hread]⟩ hfresh
      | historical => exact absurd ⟨hmem, by simp [hread]⟩ hfresh

theorem listed_of_not_listed {evaluation : ClosureEvaluation} (h : ¬ Listed s id) :
    listed s id evaluation = evaluation := by
  rw [Listed, not_or] at h
  rw [listed, supersededIn, if_neg fun hid => h.2 hid.1, supersededIn, if_neg fun hid => h.1 hid.1]

theorem freshness_listed {evaluation : ClosureEvaluation} (hfresh : evaluation.freshness = .current)
    (h : Listed s id) : (listed s id evaluation).freshness = .superseded := by
  have hbranch : (supersededIn (supersededBranchClosureIds s) [.current] id evaluation).freshness =
      if id ∈ supersededBranchClosureIds s then .superseded else .current := by
    rw [supersededIn, hfresh]
    simp only [List.mem_singleton, and_true]
    split_ifs
    · rfl
    · exact hfresh
  unfold listed
  rw [supersededIn, hbranch]
  split_ifs with hmem hids hids
  · rfl
  · exact hbranch.trans (if_pos hmem)
  · rfl
  · exact absurd ⟨h.resolve_left hmem, List.mem_cons_self⟩ hids

/-- **The new closure in the graph**: current, unless a list of the state names it. -/
theorem get?_closed_self (hfiling : ClosureFiling s r) (htask : r.task ≠ 0)
    (h : closeCurrentTask plan r s = .ok s') :
    (evaluatedState s' noSignals).evaluations.get? r.closureRecordId =
      some (listed s r.closureRecordId (recordedEvaluation r s)) := by
  obtain ⟨hsame, hhistory, hids⟩ := closeCurrentTask_snapshot h
  have hlisted : r.closureRecordId ∈ supersededTaskClosureIds s' ↔
      r.closureRecordId ∈ supersededTaskClosureIds s :=
    (hids _).trans (or_iff_left not_listed_self)
  have hread : readTask (objectEntries (s' .taskClosureRecordHistory)) r.closureRecordId =
      some (recordedEvaluation r s) := by
    rw [readTask, hhistory, OrderedMap.get?_insert_self, Option.bind_some,
      taskClosureEvaluation_filed hfiling.named htask]
  rw [evaluatedState_noSignals, applySupersededTaskIds, get?_supersede, readOthers_closed h,
    readOthers_of_nowhere hfiling.nowhereElse,
    readTask_ingest (hfiling.own.close hfiling.named h), hread]
  simp only [hlisted, Option.map_some]
  rfl

/-- **The closures of tasks after a closing** that are not superseded: those it leaves alone, and
the new one. -/
theorem taskRecord_closed (hfiling : ClosureFiling s r) (htask : r.task ≠ 0)
    (h : closeCurrentTask plan r s = .ok s') {task : UInt32} {freshness : ClosureFreshness}
    (hfresh : freshness ≠ .superseded) {evaluation : ClosureEvaluation} :
    (evaluatedState s' noSignals).TaskRecord task freshness id evaluation ↔
      (id ≠ r.closureRecordId ∧ ¬ SupersededByClosing plan r s id ∧
        (evaluatedState s noSignals).TaskRecord task freshness id evaluation) ∨
      (id = r.closureRecordId ∧ task = r.task ∧ freshness = .current ∧
        evaluation = recordedEvaluation r s ∧ ¬ Listed s r.closureRecordId) := by
  by_cases hid : id = r.closureRecordId
  · subst hid
    simp only [ne_eq, not_true_eq_false, false_and, true_and, false_or]
    have hget := get?_closed_self hfiling htask h
    constructor
    · intro hrecord
      have hevaluation := Option.some.inj (hget.symm.trans hrecord.get)
      have hnumber := hrecord.number
      by_cases hlisted : Listed s r.closureRecordId
      · have hsuperseded := freshness_listed (recordedEvaluation_fresh (r := r) (s := s)) hlisted
        rw [hevaluation, hrecord.fresh] at hsuperseded
        exact absurd hsuperseded hfresh
      · rw [listed_of_not_listed hlisted] at hevaluation
        subst hevaluation
        exact ⟨(Option.some.inj hnumber).symm, hrecord.fresh.symm.trans recordedEvaluation_fresh,
          rfl, hlisted⟩
    · rintro ⟨rfl, rfl, rfl, hlisted⟩
      exact ⟨hget.trans (congrArg some (listed_of_not_listed hlisted)), rfl,
        recordedEvaluation_fresh, rfl⟩
  · simp only [hid, ne_eq, not_false_eq_true, true_and, false_and, or_false]
    constructor
    · intro hrecord
      have hleft : ¬ SupersededByClosing plan r s id := fun hsuperseded =>
        hfresh (hrecord.fresh.symm.trans
          (superseded_of_closed hfiling h hid hsuperseded hrecord.get hrecord.kind))
      exact ⟨hleft, (get?_closed_of_not_superseded hfiling h hid hleft).symm.trans hrecord.get,
        hrecord.kind, hrecord.fresh, hrecord.number⟩
    · rintro ⟨hleft, hrecord⟩
      exact ⟨(get?_closed_of_not_superseded hfiling h hid hleft).trans hrecord.get,
        hrecord.kind, hrecord.fresh, hrecord.number⟩

end

/-- The graph reads no closure of a task 0. -/
theorem taskRecord_ne_zero {task : UInt32} {freshness : ClosureFreshness} {id : String}
    {evaluation : ClosureEvaluation}
    (h : (evaluatedState s noSignals).TaskRecord task freshness id evaluation) : task ≠ 0 := by
  have hget := h.get
  rw [evaluatedState_noSignals, applySupersededTaskIds, get?_supersede,
    Option.map_eq_some_iff] at hget
  obtain ⟨read, hget, rfl⟩ := hget
  have hread : read.identity.kind = .taskClosure → read.identity.taskNumber ≠ some 0 := by
    refine readOthers_invariant (P := fun evaluation => evaluation.identity.kind = .taskClosure →
      evaluation.identity.taskNumber ≠ some 0) (fun _ hnew hkind => absurd hkind hnew)
        (fun _ h => h) ?_ read hget
    intro evaluation hget _
    rcases ingest_origin hget with hget | ⟨key, payload, _, hread⟩
    · cases hget
    · unfold taskClosureEvaluation at hread
      cases htask : valueU32 payload "task" with
      | none =>
        rw [htask] at hread
        cases hread
      | some number =>
        rw [htask] at hread
        dsimp only at hread
        split_ifs at hread
        cases hread
        intro hzero
        cases hzero
        obtain ⟨_, hpos⟩ := Option.filter_eq_some_iff.mp htask
        exact absurd hpos (by decide)
  rintro rfl
  have hkind := h.kind
  have hnumber := h.number
  split_ifs at hkind hnumber
  · exact hread hkind hnumber
  · exact hread hkind hnumber

/-! ### Resolving -/

/-- The staleness of the task is resolved, and that of another task is as it was, unless the
closing supersedes a closure of it. -/
structure StalenessResolved (plan : ActivePlan) (r : TaskClosureResultRecord)
    (s s' : StateObject) : Prop where
  resolved : ¬ (fromState s' noSignals).UnresolvedStale r.task
  earliest : (fromState s' noSignals).earliestUnresolvedStaleTaskNumber ≠ some r.task
  others : ∀ task, task ≠ r.task →
    (∀ freshness id evaluation, (fromState s noSignals).TaskRecord task freshness id evaluation →
      ¬ SupersededByClosing plan r s id) →
    ((fromState s' noSignals).UnresolvedStale task ↔ (fromState s noSignals).UnresolvedStale task)

/-- The closures of the task that are current after a closing. -/
def LeftCurrent (plan : ActivePlan) (r : TaskClosureResultRecord) (s : StateObject)
    (evaluation : ClosureEvaluation) : Prop :=
  (evaluation.identity.recordId ≠ r.closureRecordId ∧
    ¬ SupersededByClosing plan r s evaluation.identity.recordId ∧
      (fromState s noSignals).CurrentOf r.task evaluation) ∨
  (evaluation = recordedEvaluation r s ∧ ¬ Listed s r.closureRecordId)

/-- The newest of the closures that are current after a closing settles each stale one that the
closing leaves, and that no branch closure lists. -/
def SettlesLeft (plan : ActivePlan) (r : TaskClosureResultRecord) (s : StateObject) : Prop :=
  ∀ id stale, id ≠ r.closureRecordId → ¬ SupersededByClosing plan r s id →
    (fromState s noSignals).TaskRecord r.task .staleUnreviewed id stale →
    (branchEdges (objectEntries (s .branchClosureRecords)).entries .empty).contains id = false →
      ∃ newest, Newest (LeftCurrent plan r s) newest ∧ Settles newest stale

section

variable {id : String}

theorem taskRecord_fromState {task : UInt32} {freshness : ClosureFreshness}
    {evaluation : ClosureEvaluation} :
    (fromState s noSignals).TaskRecord task freshness id evaluation ↔
      (evaluatedState s noSignals).TaskRecord task freshness id evaluation :=
  ⟨fun h => ⟨h.get, h.kind, h.fresh, h.number⟩, fun h => ⟨h.get, h.kind, h.fresh, h.number⟩⟩

theorem unresolvedStale_fromState (s : StateObject) (task : UInt32) :
    (fromState s noSignals).UnresolvedStale task ↔
      ∃ id stale, (evaluatedState s noSignals).TaskRecord task .staleUnreviewed id stale ∧
        (branchEdges (objectEntries (s .branchClosureRecords)).entries .empty).contains id = false ∧
          ¬ ∃ newest, Newest ((evaluatedState s noSignals).CurrentOf task) newest ∧
            Settles newest stale := by
  rw [fromState, unresolvedStale_iff, supersededBy_evaluated]
  rfl

theorem currentOf_closed (hfiling : ClosureFiling s r) (htask : r.task ≠ 0)
    (h : closeCurrentTask plan r s = .ok s') (evaluation : ClosureEvaluation) :
    (evaluatedState s' noSignals).CurrentOf r.task evaluation ↔ LeftCurrent plan r s evaluation := by
  unfold CurrentOf LeftCurrent
  rw [taskRecord_closed hfiling htask h (nofun : ClosureFreshness.current ≠ .superseded),
    ← taskRecord_fromState]
  refine or_congr_right ⟨fun hnew => hnew.2.2.2, ?_⟩
  rintro ⟨rfl, hlisted⟩
  exact ⟨rfl, rfl, rfl, rfl, hlisted⟩

theorem branchClosureRecords_closed (h : closeCurrentTask plan r s = .ok s') :
    s' .branchClosureRecords = s .branchClosureRecords :=
  (closeCurrentTask_snapshot h).1 _ (by decide)

/-- **The other tasks**: a closing leaves their staleness, unless it supersedes a closure. -/
theorem unresolvedStale_closed_other (hfiling : ClosureFiling s r) (hzero : r.task ≠ 0)
    (h : closeCurrentTask plan r s = .ok s') {task : UInt32} (htask : task ≠ r.task)
    (hleft : ∀ freshness id evaluation,
      (evaluatedState s noSignals).TaskRecord task freshness id evaluation →
        ¬ SupersededByClosing plan r s id) :
    (fromState s' noSignals).UnresolvedStale task ↔ (fromState s noSignals).UnresolvedStale task := by
  have hsame : ∀ {freshness id evaluation}, freshness ≠ ClosureFreshness.superseded →
      ((evaluatedState s' noSignals).TaskRecord task freshness id evaluation ↔
        (evaluatedState s noSignals).TaskRecord task freshness id evaluation) := by
    intro freshness id evaluation hfresh
    rw [taskRecord_closed hfiling hzero h hfresh]
    constructor
    · rintro (⟨_, _, hrecord⟩ | ⟨_, hnew, _⟩)
      · exact hrecord
      · exact absurd hnew htask
    · intro hrecord
      refine Or.inl ⟨?_, hleft _ _ _ hrecord, hrecord⟩
      -- the id of the new closure is no other task's
      rintro rfl
      have hget := hrecord.get
      rw [evaluatedState_noSignals, applySupersededTaskIds, get?_supersede,
        readOthers_of_nowhere hfiling.nowhereElse, readTask_ingest hfiling.own,
        Option.map_map, Option.map_eq_some_iff] at hget
      obtain ⟨read, hread, rfl⟩ := hget
      have hnumber := hrecord.number
      have hown := hfiling.ofTask read hread
      rw [Function.comp_apply] at hnumber
      split_ifs at hnumber <;>
        exact htask (Option.some.inj (hnumber.symm.trans hown))
  rw [unresolvedStale_fromState, unresolvedStale_fromState, branchClosureRecords_closed h]
  refine exists_congr fun id => exists_congr fun stale => ?_
  have hcurrent : ∀ evaluation, (evaluatedState s' noSignals).CurrentOf task evaluation ↔
      (evaluatedState s noSignals).CurrentOf task evaluation := fun evaluation => hsame (by decide)
  rw [hsame (by decide : ClosureFreshness.staleUnreviewed ≠ .superseded)]
  simp only [Newest.congr hcurrent]

/-- **When closing a task resolves its staleness**: exactly when the newest of the closures of the
task that are current after it settles each stale one that it leaves. -/
theorem stale_task_resolved_iff (hfiling : ClosureFiling s r)
    (hstale : ∃ id stale, (fromState s noSignals).TaskRecord r.task .staleUnreviewed id stale)
    (h : closeCurrentTask plan r s = .ok s') :
    StalenessResolved plan r s s' ↔ SettlesLeft plan r s := by
  obtain ⟨_, _, hrecord⟩ := hstale
  have hzero := taskRecord_ne_zero (taskRecord_fromState.mp hrecord)
  have hresolved : ¬ (fromState s' noSignals).UnresolvedStale r.task ↔ SettlesLeft plan r s := by
    rw [unresolvedStale_fromState, branchClosureRecords_closed h]
    unfold SettlesLeft
    simp only [taskRecord_closed hfiling hzero h (nofun : ClosureFreshness.staleUnreviewed ≠
      .superseded), Newest.congr (currentOf_closed hfiling hzero h), taskRecord_fromState]
    constructor
    · intro hnone id stale hid hleft hrecord hedge
      by_contra hsettles
      exact hnone ⟨id, stale, Or.inl ⟨hid, hleft, hrecord⟩, hedge, hsettles⟩
    · rintro hsettles ⟨id, stale, ⟨hid, hleft, hrecord⟩ | ⟨_, _, hfresh, _⟩, hedge, hnone⟩
      · exact hnone (hsettles id stale hid hleft hrecord hedge)
      · cases hfresh
  constructor
  · exact fun hall => hresolved.mp hall.resolved
  · intro hsettles
    refine ⟨hresolved.mpr hsettles, fun hearliest => ?_, fun task htask hleft => ?_⟩
    · exact hresolved.mpr hsettles (unresolvedStale_of_earliest hearliest)
    · exact unresolvedStale_closed_other hfiling hzero h htask fun freshness id evaluation hrecord =>
        hleft freshness id evaluation (taskRecord_fromState.mpr hrecord)

/-- The new closure has the plan of the stale ones of its task, and covers them. -/
def CoversStale (r : TaskClosureResultRecord) (s : StateObject) : Prop :=
  ∀ id stale, (fromState s noSignals).TaskRecord r.task .staleUnreviewed id stale →
    taskClosureHasSamePlanScope stale (recordedEvaluation r s) = true ∧
      taskClosureSurfaceIsSameOrBroader (recordedEvaluation r s) stale = true

/-- **A closure with a number of its own settles** what it covers: no list of the state names it,
and every other closure of the task that the closing leaves has a number that is taken. -/
theorem settlesLeft_of_numbers (hlisted : ¬ Listed s r.closureRecordId)
    (hnumbers : ∀ freshness id evaluation,
      (fromState s noSignals).TaskRecord r.task freshness id evaluation →
        ¬ SupersededByClosing plan r s id → evaluation.identity.authoritativeSequence ≤
          (objectEntries (s .taskClosureRecordHistory)).entries.length)
    (hcovers : CoversStale r s) : SettlesLeft plan r s := by
  intro id stale _ hleft hrecord _
  have hlater : ∀ freshness id evaluation,
      (fromState s noSignals).TaskRecord r.task freshness id evaluation →
        ¬ SupersededByClosing plan r s id → evaluation.identity.authoritativeSequence <
          (recordedEvaluation r s).identity.authoritativeSequence := by
    intro freshness id evaluation hrecord hleft
    rw [recordedEvaluation_sequence]
    exact Nat.lt_succ_of_le (hnumbers freshness id evaluation hrecord hleft)
  refine ⟨recordedEvaluation r s, ⟨Or.inr ⟨rfl, hlisted⟩, ?_⟩, hlater _ _ _ hrecord hleft,
    hcovers id stale hrecord⟩
  rintro other (⟨_, hother, hcurrent⟩ | ⟨rfl, _⟩)
  · exact Prod.Lex.toLex_le_toLex.mpr (Or.inl (hlater _ _ _ hcurrent hother))
  · exact le_rfl

end

/-! ### A later run -/

/-- The state of a later run, after the closure of the task was taken back in the earlier one. -/
def reenteredLater (s : StateObject) : StateObject :=
  ((clearCurrentTaskClosureResultsForExecutionReentry [1] s).toOption.getD s).set .runIdentity
    laterRunIdentity

def firstPathClosure : TaskClosureResultRecord :=
  pathClosure 1 "task-closure-9c6b9610496d9f0a" "src/a.rs"

/-- The closure of the task in the later run. -/
def laterPathClosure : TaskClosureResultRecord :=
  { pathClosure 1 "task-closure-e48e6e384a020caf" "src/a.rs" with
    executionRunId := some "run-fedcba9876543210" }

/-- The task was closed once, and then its closure taken back. -/
def staleOnce : StateObject := reenteredLater (closedWith noneClosed firstPathClosure)

/-- The task was closed twice under one id, and then its closure taken back. -/
def staleTwice : StateObject :=
  reenteredLater (closedWith (closedWith noneClosed firstPathClosure) firstPathClosure)

theorem ownRecords_closedWith (h : OwnRecords (objectEntries (s .taskClosureRecordHistory)))
    (hr : Named r.closureRecordId) :
    OwnRecords (objectEntries (closedWith s r .taskClosureRecordHistory)) := by
  unfold closedWith
  cases hclose : closeCurrentTask closurePlan r s with
  | error _ => exact h
  | ok s' => exact h.close hr hclose

theorem ownRecords_reenteredLater (h : OwnRecords (objectEntries (s .taskClosureRecordHistory))) :
    OwnRecords (objectEntries (reenteredLater s .taskClosureRecordHistory)) := by
  unfold reenteredLater
  rw [set_of_ne _ _ (by decide)]
  cases htake : clearCurrentTaskClosureResultsForExecutionReentry [1] s with
  | error _ => exact h
  | ok s' => exact h.takeBack htake

theorem ownRecords_noneClosed :
    OwnRecords (objectEntries (noneClosed .taskClosureRecordHistory)) := nofun

theorem named_firstPathClosure : Named firstPathClosure.closureRecordId := by decide

theorem closureFiling_laterPathClosure
    (hown : OwnRecords (objectEntries (s .taskClosureRecordHistory)))
    (hothers : ∀ f ∈ otherHistoryFields, s f = none)
    (hnew : (objectEntries (s .taskClosureRecordHistory)).get? laterPathClosure.closureRecordId =
      none) : ClosureFiling s laterPathClosure := by
  have hempty : ∀ f ∈ otherHistoryFields, ∀ (evaluationOf : String → Json → Option ClosureEvaluation)
      id, ¬ Reads evaluationOf (objectEntries (s f)) id := by
    rintro f hf evaluationOf id ⟨key, payload, _, hget, _⟩
    rw [hothers f hf] at hget
    cases hget
  refine ⟨hown, by decide, fun evaluation hread => ?_, ?_⟩
  · rw [readTask, hnew] at hread
    cases hread
  · exact ⟨hempty _ (by decide) _ _, hempty _ (by decide) _ _, hempty _ (by decide) _ _,
      hempty _ (by decide) _ _⟩

theorem coversStale_of_entries (h : ∀ entry ∈ (fromState s noSignals).evaluations.entries,
    taskClosureHasSamePlanScope entry.2 (recordedEvaluation r s) = true ∧
      taskClosureSurfaceIsSameOrBroader (recordedEvaluation r s) entry.2 = true) :
    CoversStale r s :=
  fun id stale hrecord => h (id, stale) (OrderedMap.mem_entries.mpr hrecord.get)

theorem exists_stale_of_earliest {task : UInt32}
    (h : (fromState s noSignals).earliestUnresolvedStaleTaskNumber = some task) :
    ∃ id stale, (fromState s noSignals).TaskRecord task .staleUnreviewed id stale := by
  obtain ⟨id, stale, hrecord, _⟩ := unresolvedStale_of_earliest h
  exact ⟨id, stale, hrecord⟩

theorem stale_task_resolved_staleOnce : StalenessResolved closurePlan laterPathClosure staleOnce
    (closedWith staleOnce laterPathClosure) := by
  have hfiling : ClosureFiling staleOnce laterPathClosure := by
    refine closureFiling_laterPathClosure ?_ (by decide) (by decide)
    exact ownRecords_reenteredLater (ownRecords_closedWith ownRecords_noneClosed
      named_firstPathClosure)
  have hnumbers : ∀ entry ∈ (fromState staleOnce noSignals).evaluations.entries,
      entry.2.identity.authoritativeSequence ≤
        (objectEntries (staleOnce .taskClosureRecordHistory)).entries.length := by decide
  refine (stale_task_resolved_iff hfiling (exists_stale_of_earliest (by decide))
    (closeCurrentTask_closedWith (by decide))).mpr ?_
  refine settlesLeft_of_numbers ?_ (fun freshness id evaluation hrecord _ =>
    hnumbers (id, evaluation) (OrderedMap.mem_entries.mpr hrecord.get))
      (coversStale_of_entries (by decide))
  rintro (hlisted | hlisted)
  · exact absurd hlisted (by decide)
  · exact absurd hlisted (by decide)

/-- A closure with the number of the stale one does not settle it. -/
theorem stale_task_unresolved_staleTwice : ¬ ∀ plan r s s', ClosureFiling s r →
    (∃ id stale, (fromState s noSignals).TaskRecord r.task .staleUnreviewed id stale) →
      CoversStale r s → closeCurrentTask plan r s = .ok s' → StalenessResolved plan r s s' := by
  intro hall
  have hfiling : ClosureFiling staleTwice laterPathClosure := by
    refine closureFiling_laterPathClosure ?_ (by decide) (by decide)
    exact ownRecords_reenteredLater (ownRecords_closedWith (ownRecords_closedWith
      ownRecords_noneClosed named_firstPathClosure) named_firstPathClosure)
  have hresolved := hall closurePlan laterPathClosure staleTwice
    (closedWith staleTwice laterPathClosure) hfiling (exists_stale_of_earliest (by decide))
    (coversStale_of_entries (by decide)) (closeCurrentTask_closedWith (by decide))
  exact hresolved.earliest (by decide)

end FeatureForge
