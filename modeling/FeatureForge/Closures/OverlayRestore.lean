import FeatureForge.Closures.TaskState

/-!
# Restoring the current records from their histories

The maps of current task closures and of negative results can be lost, and are restored from
the histories.  What is restored is read again as it stood in the history when the writer
writes all that the reader reads (`rawByTask_restored`).  `overlay_restore_converges_iff` says
when that is so: a closure without a status is given one, and a negative result loses the id of
its semantic reviewed state, so both are found to differ from the history again.
-/

namespace FeatureForge

deriving instance DecidableEq for TaskClosureNegativeResult

/-! ### The operations -/

/-- `current_task_closure_overlay_needs_restore`. -/
def currentTaskClosureOverlayNeedsRestore (s : StateObject) : Bool :=
  let recoverable := currentTaskClosureResultsFromHistory s
  if recoverable.isEmpty then false else rawCurrentTaskClosureResults s ≠ recoverable

/-- The members of the entry that a task closure is restored to. -/
def restoredTaskClosure (record : CurrentTaskClosureRecord) : List (String × Json) :=
  [ ("task", .u64 record.task.toNat),
    ("record_id", .str record.closureRecordId),
    ("record_status", .str "current"),
    ("closure_status", .str (record.closureStatus.getD "current")),
    ("source_plan_path", optionStr record.sourcePlanPath),
    ("source_plan_revision", optionU32 record.sourcePlanRevision),
    ("execution_run_id", optionStr record.executionRunId),
    ("dispatch_id", .str record.dispatchId),
    ("closure_record_id", .str record.closureRecordId),
    ("reviewed_state_id", .str record.reviewedStateId),
    ("semantic_reviewed_state_id", optionStr record.semanticReviewedStateId),
    ("contract_identity", .str record.contractIdentity),
    ("effective_reviewed_surface_paths", strArr record.effectiveReviewedSurfacePaths),
    ("review_result", .str record.reviewResult),
    ("review_summary_hash", .str record.reviewSummaryHash),
    ("verification_result", .str record.verificationResult),
    ("verification_summary_hash", .str record.verificationSummaryHash)]

/-- `restore_current_task_closure_records_from_history`; whether it restored anything. -/
def restoreCurrentTaskClosureRecordsFromHistory (s : StateObject) : Bool × StateObject :=
  let recoverable := currentTaskClosureResultsFromHistory s
  if recoverable.isEmpty || !currentTaskClosureOverlayNeedsRestore s then (false, s)
  else
    let restored := (objectEntries (s .currentTaskClosureRecords)).filter fun scopeKey _ =>
      (taskScopeKeyTaskNumber scopeKey).isNone
    (true, s.set .currentTaskClosureRecords (.obj (recoverable.entries.foldl
      (fun restored record =>
        restored.insert (taskScopeKey record.2.task) (.record (restoredTaskClosure record.2))) restored)))

/-- `raw_task_closure_negative_result`. -/
def rawTaskClosureNegativeResult (s : StateObject) (task : UInt32) :
    Option TaskClosureNegativeResult :=
  ((objectEntries (s .taskClosureNegativeResultRecords)).get? (taskScopeKey task)).bind
    taskClosureNegativeResultFromPayload

/-- `task_closure_negative_results_from_history`. -/
def taskClosureNegativeResultsFromHistory (s : StateObject) :
    OrderedMap Nat TaskClosureNegativeResult :=
  currentByTask (fun _ => taskClosureNegativeResultFromPayload)
    (objectEntries (s .taskClosureNegativeResultHistory))

/-- `task_closure_negative_result_overlay_needs_restore`. -/
def taskClosureNegativeResultOverlayNeedsRestore (s : StateObject) : Bool :=
  let recoverable := taskClosureNegativeResultsFromHistory s
  if recoverable.isEmpty then false
  else
    let raw : OrderedMap Nat TaskClosureNegativeResult :=
      .ofList ((objectEntries (s .taskClosureNegativeResultRecords)).entries.filterMap
        fun entry => (taskScopeKeyTaskNumber entry.1).bind fun task =>
          (rawTaskClosureNegativeResult s task).map fun record => (task.toNat, record))
    raw ≠ recoverable

/-- The members of the entry that a negative result is restored to. -/
def restoredNegativeResult (task : Nat) (record : TaskClosureNegativeResult) :
    List (String × Json) :=
  [ ("task", .u64 task),
    ("record_status", .str "current"),
    ("dispatch_id", .str record.dispatchId),
    ("closure_record_id", .null),
    ("reviewed_state_id", .str record.reviewedStateId),
    ("contract_identity", .str record.contractIdentity),
    ("review_result", .str record.reviewResult),
    ("review_summary_hash", .str record.reviewSummaryHash),
    ("verification_result", .str record.verificationResult),
    ("verification_summary_hash", optionStr record.verificationSummaryHash)]

/-- `restore_task_closure_negative_result_records_from_history`. -/
def restoreTaskClosureNegativeResultRecordsFromHistory (s : StateObject) : Bool × StateObject :=
  let recoverable := taskClosureNegativeResultsFromHistory s
  if recoverable.isEmpty || !taskClosureNegativeResultOverlayNeedsRestore s then (false, s)
  else
    (true, s.set .taskClosureNegativeResultRecords (.obj (recoverable.entries.foldl
      (fun restored record => restored.insert ("task-" ++ record.1.repr)
        (.record (restoredNegativeResult record.1 record.2))) .empty)))

/-! ### Maps by task -/

/-- The records of a map of current records, by the number of their task. -/
def rawByTask {α : Type} (read : UInt32 → Json → Option α) (current : Object) : OrderedMap Nat α :=
  .ofList (current.entries.filterMap fun entry =>
    (taskScopeKeyTaskNumber entry.1).bind fun task =>
      ((current.get? (taskScopeKey task)).bind (read task)).map fun record =>
        (task.toNat, record))

theorem taskScopeKeyTaskNumber_taskScopeKey (task : UInt32) :
    taskScopeKeyTaskNumber (taskScopeKey task) = some task := by
  have hrest : stripPrefix "task-".toList (taskScopeKey task).toList = some (decimal task) := by
    rw [taskScopeKey, String.toList_append, Nat.toList_repr]
    exact stripPrefix_append _ _
  have hdigits : ¬ ((decimal task = [] || !(decimal task).all Char.isDigit) = true) := by
    rw [Bool.or_eq_true, not_or, decide_eq_true_eq, Bool.not_eq_true', Bool.not_eq_false,
      List.all_eq_true]
    exact ⟨decimal_ne_nil task, isDigit_of_mem_decimal⟩
  rw [taskScopeKeyTaskNumber, hrest, Option.bind_some, if_neg hdigits, parseU32_decimal]

section

variable {α : Type} {read : UInt32 → Json → Option α}

theorem rawByTask_eq_some {current : Object} {key : Nat} {record : α}
    (h : (rawByTask read current).get? key = some record) : ∃ task : UInt32, key = task.toNat ∧
      (current.get? (taskScopeKey task)).bind (read task) = some record := by
  obtain ⟨entry, _, hentry⟩ := List.mem_filterMap.mp (OrderedMap.mem_of_get?_ofList h)
  obtain ⟨task, _, hentry⟩ := Option.bind_eq_some_iff.mp hentry
  obtain ⟨result, hresult, hpair⟩ := Option.map_eq_some_iff.mp hentry
  obtain ⟨rfl, rfl⟩ := Prod.mk.inj hpair
  exact ⟨task, rfl, hresult⟩

theorem rawByTask_get? (current : Object) (task : UInt32) :
    (rawByTask read current).get? task.toNat =
      (current.get? (taskScopeKey task)).bind (read task) := by
  refine Option.ext fun record => ⟨fun h => ?_, fun h => ?_⟩
  · obtain ⟨task', hkey, hresult⟩ := rawByTask_eq_some h
    rw [UInt32.toNat.inj hkey, hresult]
  · obtain ⟨payload, hget, _⟩ := Option.bind_eq_some_iff.mp h
    have hlisted : ∃ v, (rawByTask read current).get? task.toNat = some v := by
      refine OrderedMap.exists_get?_ofList (v := record) (List.mem_filterMap.mpr
        ⟨(taskScopeKey task, payload), OrderedMap.mem_entries.mpr hget, ?_⟩)
      dsimp only
      rw [taskScopeKeyTaskNumber_taskScopeKey, Option.bind_some, h, Option.map_some]
    obtain ⟨record', hrecord'⟩ := hlisted
    obtain ⟨task', hkey, hresult⟩ := rawByTask_eq_some hrecord'
    rw [← UInt32.toNat.inj hkey, h] at hresult
    cases hresult
    exact hrecord'

/-- A record of a history stands under the number of its task. -/
theorem currentByTask_eq_some {history : Object} {key : Nat} {record : α}
    (h : (currentByTask read history).get? key = some record) :
    ∃ (task : UInt32) (payload : Json), key = task.toNat ∧ read task payload = some record := by
  obtain ⟨⟨_, payload⟩, _, hentry⟩ := List.mem_filterMap.mp (OrderedMap.mem_of_get?_ofList h)
  dsimp only at hentry
  split_ifs at hentry
  obtain ⟨task, _, hentry⟩ := Option.bind_eq_some_iff.mp hentry
  obtain ⟨result, hresult, hpair⟩ := Option.map_eq_some_iff.mp hentry
  obtain ⟨rfl, rfl⟩ := Prod.mk.inj hpair
  exact ⟨task, payload, rfl, hresult⟩

/-! ### Reading what was restored -/

/-- The records of a history, written under the keys of their tasks. -/
def restoredRecords (write : Nat → α → Json) (kept : Object) (recoverable : OrderedMap Nat α) :
    Object :=
  recoverable.entries.foldl
    (fun restored record => restored.insert ("task-" ++ record.1.repr) (write record.1 record.2))
    kept

variable {write : Nat → α → Json} {kept history : Object}

theorem restoredKey_injective : Function.Injective fun task : Nat => "task-" ++ task.repr := by
  intro task task' h
  have hdigits := congrArg String.toList h
  dsimp only at hdigits
  rw [String.toList_append, String.toList_append, Nat.toList_repr, Nat.toList_repr] at hdigits
  rw [← Nat.ofDigitChars_ten_toDigits (n := task), List.append_cancel_left hdigits,
    Nat.ofDigitChars_ten_toDigits]

/-- What stands under the key of a task is what was written of it. -/
theorem get?_restoredRecords (task : Nat) (recoverable : OrderedMap Nat α)
    (hkept : kept.get? ("task-" ++ task.repr) = none) :
    (restoredRecords write kept recoverable).get? ("task-" ++ task.repr) =
      (recoverable.get? task).map (write task) := by
  have hfold : ∀ (records : List (Nat × α)) (m : Object), (records.map Prod.fst).Nodup →
      (records.foldl (fun restored record =>
        restored.insert ("task-" ++ record.1.repr) (write record.1 record.2)) m).get?
          ("task-" ++ task.repr) =
        ((OrderedMap.lookup task records).map (write task)).or (m.get? ("task-" ++ task.repr)) := by
    intro records
    induction records with
    | nil => intro m _; rfl
    | cons record records ih =>
      intro m hnodup
      rw [List.map_cons, List.nodup_cons] at hnodup
      rw [List.foldl_cons, ih _ hnodup.2, OrderedMap.lookup]
      by_cases htask : task = record.1
      · subst htask
        rw [OrderedMap.lookup_eq_none.mpr hnodup.1, if_pos rfl, OrderedMap.get?_insert_self]
        rfl
      · rw [if_neg htask, OrderedMap.get?_insert_of_ne _ _ fun h => htask (restoredKey_injective h)]
  rw [restoredRecords, hfold _ _ recoverable.nodup_keys, hkept, Option.or_none]
  rfl

/-- **What was restored reads as it stood in the history** exactly when the reader reads every
record back from what is written of it. -/
theorem rawByTask_restored (hkept : ∀ task : UInt32, kept.get? (taskScopeKey task) = none) :
    rawByTask read (restoredRecords write kept (currentByTask read history)) =
        currentByTask read history ↔
      ∀ (task : UInt32) record, (currentByTask read history).get? task.toNat = some record →
        read task (write task.toNat record) = some record := by
  have hget : ∀ task : UInt32,
      (rawByTask read (restoredRecords write kept (currentByTask read history))).get? task.toNat =
        ((currentByTask read history).get? task.toNat).bind fun record =>
          read task (write task.toNat record) := fun task => by
    rw [rawByTask_get?, taskScopeKey, get?_restoredRecords _ _ (hkept task), Option.bind_map]
    rfl
  constructor
  · intro h task record hrecord
    have hraw := hget task
    rw [h, hrecord, Option.bind_some] at hraw
    exact hraw.symm
  · intro h
    refine OrderedMap.ext_get? fun key => Option.ext fun record => ⟨fun hrecord => ?_, fun hrecord => ?_⟩
    · obtain ⟨task, rfl, _⟩ := rawByTask_eq_some hrecord
      rw [hget] at hrecord
      obtain ⟨record', hrecord', hread⟩ := Option.bind_eq_some_iff.mp hrecord
      rw [h task record' hrecord'] at hread
      cases hread
      exact hrecord'
    · obtain ⟨task, _, rfl, _⟩ := currentByTask_eq_some hrecord
      rw [hget, hrecord, Option.bind_some, h task record hrecord]

end

/-! ### Reading a record from its members -/

theorem jsonString_optionStr {text : Option String} (h : ∀ v, text = some v → Named v) :
    jsonString (some (optionStr text)) = text := by
  cases text with
  | none => rfl
  | some v => exact jsonString_str (h v rfl)

theorem jsonU32_optionU32 (v : Option UInt32) : jsonU32 (some (optionU32 v)) = v := by
  cases v with
  | none => rfl
  | some n => exact jsonU32_u64 n

theorem named_of_jsonStringArrayStrict {v : Option Json} {values : List String}
    (h : jsonStringArrayStrict v = some values) : ∀ x ∈ values, Named x := by
  obtain ⟨items, hitems, hread⟩ := Option.bind_eq_some_iff.mp h
  clear h hitems
  revert values
  induction items with
  | nil =>
    intro values h x hx
    cases h
    cases hx
  | cons item items ih =>
    intro values h x hx
    rw [List.mapM_cons] at h
    obtain ⟨text, htext, h⟩ := Option.bind_eq_some_iff.mp h
    obtain ⟨texts, htexts, h⟩ := Option.bind_eq_some_iff.mp h
    cases h
    rcases List.mem_cons.mp hx with rfl | hx
    · exact trimmed_of_nonBlank htext
    · exact ih htexts x hx

/-- A list of texts is written and read back. -/
theorem jsonStringArrayStrict_named {values : List String} (h : ∀ x ∈ values, Named x) :
    jsonStringArrayStrict (some (strArr values)) = some values := by
  have hblank : ∀ x ∈ values, trim x ≠ "" := fun x hx => by
    rw [(h x hx).1]
    exact (h x hx).2
  have htrim : ∀ x ∈ values, trim x = id x := fun x hx => (h x hx).1
  rw [jsonStringArrayStrict_strArr hblank, List.map_congr_left htrim, List.map_id]

theorem get?_record {members : List (String × Json)} (h : (members.map Prod.fst).Nodup)
    (key : String) : (Json.record members).get? key = OrderedMap.lookup key members := by
  rw [Json.record, Json.get?_obj, OrderedMap.get?_ofList _ h]

theorem nodup_restoredTaskClosure (record : CurrentTaskClosureRecord) :
    ((restoredTaskClosure record).map Prod.fst).Nodup := by
  show ["task", "record_id", "record_status", "closure_status", "source_plan_path",
    "source_plan_revision", "execution_run_id", "dispatch_id", "closure_record_id",
    "reviewed_state_id", "semantic_reviewed_state_id", "contract_identity",
    "effective_reviewed_surface_paths", "review_result", "review_summary_hash",
    "verification_result", "verification_summary_hash"].Nodup
  decide

/-- A record of which every text can be read back. -/
structure CurrentTaskClosureRecord.Legible (record : CurrentTaskClosureRecord) : Prop where
  dispatchId : Named record.dispatchId
  closureRecordId : Named record.closureRecordId
  sourcePlanPath : ∀ path, record.sourcePlanPath = some path → Named path
  executionRunId : ∀ runId, record.executionRunId = some runId → Named runId
  reviewedStateId : Named record.reviewedStateId
  semanticReviewedStateId : ∀ id, record.semanticReviewedStateId = some id → Named id
  contractIdentity : Named record.contractIdentity
  effectiveReviewedSurfacePaths : ∀ path ∈ record.effectiveReviewedSurfacePaths, Named path
  reviewResult : Named record.reviewResult
  reviewSummaryHash : Named record.reviewSummaryHash
  verificationResult : Named record.verificationResult
  verificationSummaryHash : Named record.verificationSummaryHash
  closureStatus : ∀ status, record.closureStatus = some status → Named status

theorem legible_of_payload {task : UInt32} {payload : Json} {record : CurrentTaskClosureRecord}
    (h : currentTaskClosureRecordFromPayload task payload = some record) :
    record.task = task ∧ record.Legible := by
  simp only [currentTaskClosureRecordFromPayload, Option.bind_eq_bind,
    Option.bind_eq_some_iff] at h
  obtain ⟨_, hdispatch, _, hclosure, _, hreviewed, _, hcontract, _, hpaths, _, hresult, _,
    hsummary, _, hverification, _, hhash, hrecord⟩ := h
  cases hrecord
  exact ⟨rfl, {
    dispatchId := trimmed_of_nonBlank hdispatch
    closureRecordId := trimmed_of_nonBlank hclosure
    sourcePlanPath := fun _ h => trimmed_of_nonBlank h
    executionRunId := fun _ h => trimmed_of_nonBlank h
    reviewedStateId := trimmed_of_nonBlank hreviewed
    semanticReviewedStateId := fun _ h => trimmed_of_nonBlank h
    contractIdentity := trimmed_of_nonBlank hcontract
    effectiveReviewedSurfacePaths := named_of_jsonStringArrayStrict hpaths
    reviewResult := trimmed_of_nonBlank hresult
    reviewSummaryHash := trimmed_of_nonBlank hsummary
    verificationResult := trimmed_of_nonBlank hverification
    verificationSummaryHash := trimmed_of_nonBlank hhash
    closureStatus := fun _ h => trimmed_of_nonBlank h }⟩

/-- **A task closure is read back** from what it is restored to, as one with a status. -/
theorem read_restoredTaskClosure {record : CurrentTaskClosureRecord} (h : record.Legible) :
    currentTaskClosureRecordFromPayload record.task (.record (restoredTaskClosure record)) =
      some { record with closureStatus := some (record.closureStatus.getD "current") } := by
  have hmember := get?_record (nodup_restoredTaskClosure record)
  have hstatus : Named (record.closureStatus.getD "current") := by
    cases hread : record.closureStatus with
    | none => decide
    | some status => exact h.closureStatus status hread
  have hdispatch : (Json.record (restoredTaskClosure record)).get? "dispatch_id" =
      some (.str record.dispatchId) := hmember _
  have hclosure : (Json.record (restoredTaskClosure record)).get? "closure_record_id" =
      some (.str record.closureRecordId) := hmember _
  have hreviewed : (Json.record (restoredTaskClosure record)).get? "reviewed_state_id" =
      some (.str record.reviewedStateId) := hmember _
  have hcontract : (Json.record (restoredTaskClosure record)).get? "contract_identity" =
      some (.str record.contractIdentity) := hmember _
  have hpaths : (Json.record (restoredTaskClosure record)).get?
      "effective_reviewed_surface_paths" =
      some (strArr record.effectiveReviewedSurfacePaths) := hmember _
  have hresult : (Json.record (restoredTaskClosure record)).get? "review_result" =
      some (.str record.reviewResult) := hmember _
  have hsummary : (Json.record (restoredTaskClosure record)).get? "review_summary_hash" =
      some (.str record.reviewSummaryHash) := hmember _
  have hverification : (Json.record (restoredTaskClosure record)).get? "verification_result" =
      some (.str record.verificationResult) := hmember _
  have hhash : (Json.record (restoredTaskClosure record)).get? "verification_summary_hash" =
      some (.str record.verificationSummaryHash) := hmember _
  have hpath : (Json.record (restoredTaskClosure record)).get? "source_plan_path" =
      some (optionStr record.sourcePlanPath) := hmember _
  have hrevision : (Json.record (restoredTaskClosure record)).get? "source_plan_revision" =
      some (optionU32 record.sourcePlanRevision) := hmember _
  have hrun : (Json.record (restoredTaskClosure record)).get? "execution_run_id" =
      some (optionStr record.executionRunId) := hmember _
  have hsemantic : (Json.record (restoredTaskClosure record)).get?
      "semantic_reviewed_state_id" =
      some (optionStr record.semanticReviewedStateId) := hmember _
  have hclosureStatus : (Json.record (restoredTaskClosure record)).get? "closure_status" =
      some (.str (record.closureStatus.getD "current")) := hmember _
  unfold currentTaskClosureRecordFromPayload
  rw [hdispatch, hclosure, hreviewed, hcontract, hpaths, hresult, hsummary, hverification, hhash,
    hpath, hrevision, hrun, hsemantic, hclosureStatus, jsonString_str h.dispatchId,
    jsonString_str h.closureRecordId, jsonString_str h.reviewedStateId,
    jsonString_str h.contractIdentity,
    jsonStringArrayStrict_named h.effectiveReviewedSurfacePaths,
    jsonString_str h.reviewResult, jsonString_str h.reviewSummaryHash,
    jsonString_str h.verificationResult, jsonString_str h.verificationSummaryHash,
    jsonString_optionStr h.sourcePlanPath, jsonU32_optionU32,
    jsonString_optionStr h.executionRunId, jsonString_optionStr h.semanticReviewedStateId,
    jsonString_str hstatus]
  rfl

/-- A negative result of which every text can be read back. -/
structure TaskClosureNegativeResult.Legible (record : TaskClosureNegativeResult) : Prop where
  dispatchId : Named record.dispatchId
  reviewedStateId : Named record.reviewedStateId
  contractIdentity : Named record.contractIdentity
  reviewResult : Named record.reviewResult
  reviewSummaryHash : Named record.reviewSummaryHash
  verificationResult : Named record.verificationResult
  verificationSummaryHash : ∀ hash, record.verificationSummaryHash = some hash → Named hash

theorem legible_of_negativePayload {payload : Json} {record : TaskClosureNegativeResult}
    (h : taskClosureNegativeResultFromPayload payload = some record) : record.Legible := by
  simp only [taskClosureNegativeResultFromPayload, Option.bind_eq_bind,
    Option.bind_eq_some_iff] at h
  obtain ⟨_, hdispatch, _, hreviewed, _, hcontract, _, hresult, _, hsummary, _, hverification,
    hrecord⟩ := h
  cases hrecord
  exact {
    dispatchId := trimmed_of_nonBlank hdispatch
    reviewedStateId := trimmed_of_nonBlank hreviewed
    contractIdentity := trimmed_of_nonBlank hcontract
    reviewResult := trimmed_of_nonBlank hresult
    reviewSummaryHash := trimmed_of_nonBlank hsummary
    verificationResult := trimmed_of_nonBlank hverification
    verificationSummaryHash := fun _ h => trimmed_of_nonBlank h }

theorem nodup_restoredNegativeResult (task : Nat) (record : TaskClosureNegativeResult) :
    ((restoredNegativeResult task record).map Prod.fst).Nodup := by
  show ["task", "record_status", "dispatch_id", "closure_record_id", "reviewed_state_id",
    "contract_identity", "review_result", "review_summary_hash", "verification_result",
    "verification_summary_hash"].Nodup
  decide

/-- **A negative result is read back** from what it is restored to, without the id of its
semantic reviewed state. -/
theorem read_restoredNegativeResult {record : TaskClosureNegativeResult} (h : record.Legible)
    (task : Nat) :
    taskClosureNegativeResultFromPayload (.record (restoredNegativeResult task record)) =
      some { record with semanticReviewedStateId := none } := by
  have hmember := get?_record (nodup_restoredNegativeResult task record)
  have hdispatch : (Json.record (restoredNegativeResult task record)).get? "dispatch_id" =
      some (.str record.dispatchId) := hmember _
  have hreviewed : (Json.record (restoredNegativeResult task record)).get? "reviewed_state_id" =
      some (.str record.reviewedStateId) := hmember _
  have hcontract : (Json.record (restoredNegativeResult task record)).get? "contract_identity" =
      some (.str record.contractIdentity) := hmember _
  have hresult : (Json.record (restoredNegativeResult task record)).get? "review_result" =
      some (.str record.reviewResult) := hmember _
  have hsummary : (Json.record (restoredNegativeResult task record)).get? "review_summary_hash" =
      some (.str record.reviewSummaryHash) := hmember _
  have hverification : (Json.record (restoredNegativeResult task record)).get?
      "verification_result" = some (.str record.verificationResult) := hmember _
  have hhash : (Json.record (restoredNegativeResult task record)).get?
      "verification_summary_hash" = some (optionStr record.verificationSummaryHash) := hmember _
  have hsemantic : (Json.record (restoredNegativeResult task record)).get?
      "semantic_reviewed_state_id" = none := hmember _
  unfold taskClosureNegativeResultFromPayload
  rw [hdispatch, hreviewed, hcontract, hresult, hsummary, hverification, hhash, hsemantic,
    jsonString_str h.dispatchId, jsonString_str h.reviewedStateId,
    jsonString_str h.contractIdentity, jsonString_str h.reviewResult,
    jsonString_str h.reviewSummaryHash, jsonString_str h.verificationResult,
    jsonString_optionStr h.verificationSummaryHash]
  rfl

/-! ### Convergence -/

/-- What a record says of a task. -/
structure OutcomeContents where
  reviewedStateId : String
  semanticReviewedStateId : Option String
  contractIdentity : String
  reviewResult : String
  reviewSummaryHash : String
  verificationResult : String
  verificationSummaryHash : Option String

def CurrentTaskClosureRecord.contents (record : CurrentTaskClosureRecord) : OutcomeContents where
  reviewedStateId := record.reviewedStateId
  semanticReviewedStateId := record.semanticReviewedStateId
  contractIdentity := record.contractIdentity
  reviewResult := record.reviewResult
  reviewSummaryHash := record.reviewSummaryHash
  verificationResult := record.verificationResult
  verificationSummaryHash := some record.verificationSummaryHash

def TaskClosureNegativeResult.contents (record : TaskClosureNegativeResult) : OutcomeContents where
  reviewedStateId := record.reviewedStateId
  semanticReviewedStateId := record.semanticReviewedStateId
  contractIdentity := record.contractIdentity
  reviewResult := record.reviewResult
  reviewSummaryHash := record.reviewSummaryHash
  verificationResult := record.verificationResult
  verificationSummaryHash := record.verificationSummaryHash

/-- A map of current records, its history, and the repair of the one from the other. -/
structure Overlay (α : Type) where
  history : StateObject → OrderedMap Nat α
  raw : StateObject → UInt32 → Option α
  needsRestore : StateObject → Bool
  restore : StateObject → Bool × StateObject
  contents : α → OutcomeContents

def taskClosureOverlay : Overlay CurrentTaskClosureRecord where
  history := currentTaskClosureResultsFromHistory
  raw := rawCurrentTaskClosureResult
  needsRestore := currentTaskClosureOverlayNeedsRestore
  restore := restoreCurrentTaskClosureRecordsFromHistory
  contents := CurrentTaskClosureRecord.contents

def negativeResultOverlay : Overlay TaskClosureNegativeResult where
  history := taskClosureNegativeResultsFromHistory
  raw := rawTaskClosureNegativeResult
  needsRestore := taskClosureNegativeResultOverlayNeedsRestore
  restore := restoreTaskClosureNegativeResultRecordsFromHistory
  contents := TaskClosureNegativeResult.contents

/-- A repair that restores something has nothing to repair afterwards, and every record of the
history is read from the map as it stood there. -/
def Overlay.Converges {α : Type} (overlay : Overlay α) (s : StateObject) : Prop :=
  ∀ s', overlay.restore s = (true, s') →
    overlay.needsRestore s' = false ∧ overlay.restore s' = (false, s') ∧
      ∀ (task : UInt32) record, (overlay.history s).get? task.toNat = some record →
        ∃ record', overlay.raw s' task = some record' ∧
          overlay.contents record' = overlay.contents record

/-- How an overlay reads and writes its map `f` and its history `g`; a record is rewritten when
it is restored and read again. -/
structure Overlay.Lawful {α : Type} (overlay : Overlay α) (read : UInt32 → Json → Option α)
    (write : Nat → α → Json) (rewrite : α → α) (kept : StateObject → Object) (f g : Field) :
    Prop where
  distinct : g ≠ f
  history s : overlay.history s = currentByTask read (objectEntries (s g))
  raw s task : overlay.raw s task =
    ((objectEntries (s f)).get? (taskScopeKey task)).bind (read task)
  needsRestore s : overlay.needsRestore s = true ↔
    overlay.history s ≠ .empty ∧ rawByTask read (objectEntries (s f)) ≠ overlay.history s
  restore s : overlay.restore s = if overlay.needsRestore s = true then
    (true, s.set f (.obj (restoredRecords write (kept s) (overlay.history s)))) else (false, s)
  keptNone s (task : UInt32) : (kept s).get? (taskScopeKey task) = none
  rewrites (task : UInt32) payload record : read task payload = some record →
    read task (write task.toNat record) = some (rewrite record)

section

variable {α : Type} {overlay : Overlay α} {read : UInt32 → Json → Option α}
  {write : Nat → α → Json} {rewrite : α → α} {kept : StateObject → Object} {f g : Field}
  {s s' : StateObject}

/-- What is restored reads as it stood exactly when no record is rewritten. -/
theorem Overlay.Lawful.restored_iff (h : overlay.Lawful read write rewrite kept f g) :
    rawByTask read (restoredRecords write (kept s) (overlay.history s)) = overlay.history s ↔
      ∀ (task : UInt32) record, (overlay.history s).get? task.toNat = some record →
        rewrite record = record := by
  rw [h.history, rawByTask_restored (h.keptNone s)]
  refine forall_congr' fun task => forall₂_congr fun record hrecord => ?_
  obtain ⟨task', payload, hkey, hread⟩ := currentByTask_eq_some hrecord
  rw [UInt32.toNat.inj hkey, h.rewrites task' payload record hread, Option.some.injEq]

theorem Overlay.Lawful.restore_of_ne (h : overlay.Lawful read write rewrite kept f g) (s : StateObject)
    {field : Field} (hfield : field ≠ f) : (overlay.restore s).2 field = s field := by
  rw [h.restore]
  split_ifs
  · exact set_of_ne _ _ hfield
  · rfl

/-- A restoration says whether it restored anything, and leaves the state if not. -/
theorem Overlay.Lawful.restore_fst (h : overlay.Lawful read write rewrite kept f g)
    (s : StateObject) : (overlay.restore s).1 = overlay.needsRestore s ∧
      (overlay.needsRestore s = false → (overlay.restore s).2 = s) := by
  rw [h.restore]
  by_cases hneeds : overlay.needsRestore s = true
  · rw [if_pos hneeds, hneeds]
    exact ⟨rfl, nofun⟩
  · rw [if_neg hneeds]
    exact ⟨(Bool.eq_false_iff.mpr hneeds).symm, fun _ => rfl⟩

/-- Whether there is anything to restore is said by the map and its history. -/
theorem Overlay.Lawful.needsRestore_congr (h : overlay.Lawful read write rewrite kept f g)
    (hmap : s' f = s f) (hhistory : s' g = s g) :
    overlay.needsRestore s' = overlay.needsRestore s := by
  rw [Bool.eq_iff_iff, h.needsRestore, h.needsRestore, h.history, h.history, hmap, hhistory]

/-- **Whether a repair has to be made again.** -/
theorem Overlay.Lawful.settled_iff (h : overlay.Lawful read write rewrite kept f g) :
    overlay.needsRestore (overlay.restore s).2 = false ↔ (overlay.needsRestore s = true →
      ∀ (task : UInt32) record, (overlay.history s).get? task.toNat = some record →
        rewrite record = record) := by
  rw [h.restore]
  by_cases hneeds : overlay.needsRestore s = true
  · have hhistory : ∀ v, overlay.history (s.set f v) = overlay.history s := fun v => by
      rw [h.history, h.history, set_of_ne _ _ h.distinct]
    rw [if_pos hneeds]
    dsimp only
    rw [← h.restored_iff, ← Bool.not_eq_true, h.needsRestore, hhistory, set_self,
      objectEntries_obj, not_and, not_not]
    exact ⟨fun himp hneeded => himp ((h.needsRestore s).mp hneeded).1, fun hread _ => hread hneeds⟩
  · rw [if_neg hneeds]
    exact iff_of_true (Bool.eq_false_iff.mpr hneeds) fun hneeded => absurd hneeded hneeds

/-- **An overlay converges** exactly when no record of its history is rewritten. -/
theorem Overlay.Lawful.converges_iff (h : overlay.Lawful read write rewrite kept f g) :
    overlay.Converges s ↔ (overlay.needsRestore s = true →
      ∀ (task : UInt32) record, (overlay.history s).get? task.toNat = some record →
        rewrite record = record) := by
  rw [← h.settled_iff]
  by_cases hneeds : overlay.needsRestore s = true
  · have hrestore := h.restore s
    rw [if_pos hneeds] at hrestore
    constructor
    · intro hconverges
      rw [hrestore]
      exact (hconverges _ hrestore).1
    · intro hdone s' hs'
      have hread := (h.restored_iff (s := s)).mpr (h.settled_iff.mp hdone hneeds)
      rw [hs'] at hdone
      dsimp only at hdone
      refine ⟨hdone, ?_, fun task record hrecord => ⟨record, ?_, rfl⟩⟩
      · rw [h.restore, hdone, if_neg Bool.false_ne_true]
      · rw [hrestore] at hs'
        obtain ⟨_, rfl⟩ := Prod.mk.inj hs'
        rw [h.raw, set_self, objectEntries_obj, ← rawByTask_get?, hread, hrecord]
  · have hrestore := h.restore s
    rw [if_neg hneeds] at hrestore
    refine iff_of_true (fun s' hs' => ?_) ?_
    · rw [hrestore] at hs'
      cases hs'
    · rw [hrestore]
      exact Bool.eq_false_iff.mpr hneeds

end

/-! ### The two overlays -/

theorem restored_taskClosures_eq (s : StateObject) (kept : Object) :
    (currentTaskClosureResultsFromHistory s).entries.foldl (fun restored record =>
        restored.insert (taskScopeKey record.2.task) (.record (restoredTaskClosure record.2)))
      kept = restoredRecords (fun _ record => .record (restoredTaskClosure record)) kept
        (currentTaskClosureResultsFromHistory s) := by
  refine List.foldl_ext _ _ _ fun restored record hrecord => ?_
  obtain ⟨task, payload, hkey, hread⟩ :=
    currentByTask_eq_some (OrderedMap.mem_entries.mp hrecord)
  rw [taskScopeKey, (legible_of_payload hread).1, hkey]

theorem rawCurrentTaskClosureResults_eq (s : StateObject) :
    rawCurrentTaskClosureResults s = rawByTask currentTaskClosureRecordFromPayload
      (objectEntries (s .currentTaskClosureRecords)) := by
  refine congrArg OrderedMap.ofList (List.filterMap_congr fun entry _ => ?_)
  refine Option.bind_congr fun task _ => Option.map_congr fun record hrecord => ?_
  obtain ⟨payload, _, hread⟩ := Option.bind_eq_some_iff.mp hrecord
  rw [(legible_of_payload hread).1]

/-- The two checks: whether anything is recoverable, and whether it is what the map says. -/
theorem needsRestore_iff {α : Type} [DecidableEq α] {recoverable raw : OrderedMap Nat α} :
    (if recoverable.isEmpty = true then false else decide (raw ≠ recoverable)) = true ↔
      recoverable ≠ .empty ∧ raw ≠ recoverable := by
  by_cases hempty : recoverable.isEmpty = true
  · rw [if_pos hempty]
    exact iff_of_false Bool.false_ne_true fun h => h.1 (OrderedMap.isEmpty_iff.mp hempty)
  · rw [if_neg hempty, decide_eq_true_eq]
    exact (and_iff_right fun h => hempty (OrderedMap.isEmpty_iff.mpr h)).symm

/-- A check that is refused where nothing is recoverable. -/
theorem restore_eq {α β : Type} {recoverable : OrderedMap Nat α} {needsRestore : Bool}
    (h : needsRestore = true → recoverable ≠ .empty) (kept restored : β) :
    (if (recoverable.isEmpty || !needsRestore) = true then kept else restored) =
      if needsRestore = true then restored else kept := by
  cases needsRestore with
  | false => rw [Bool.not_false, Bool.or_true, if_pos rfl, if_neg Bool.false_ne_true]
  | true =>
    have hempty : recoverable.isEmpty = false :=
      Bool.eq_false_iff.mpr fun hempty => h rfl (OrderedMap.isEmpty_iff.mp hempty)
    rw [hempty, Bool.not_true, Bool.or_false, if_neg Bool.false_ne_true, if_pos rfl]

theorem taskClosureOverlay_needsRestore (s : StateObject) :
    currentTaskClosureOverlayNeedsRestore s = true ↔
      currentTaskClosureResultsFromHistory s ≠ .empty ∧
        rawByTask currentTaskClosureRecordFromPayload
          (objectEntries (s .currentTaskClosureRecords)) ≠
            currentTaskClosureResultsFromHistory s := by
  rw [← rawCurrentTaskClosureResults_eq]
  exact needsRestore_iff

theorem negativeResultOverlay_needsRestore (s : StateObject) :
    taskClosureNegativeResultOverlayNeedsRestore s = true ↔
      taskClosureNegativeResultsFromHistory s ≠ .empty ∧
        rawByTask (fun _ => taskClosureNegativeResultFromPayload)
          (objectEntries (s .taskClosureNegativeResultRecords)) ≠
            taskClosureNegativeResultsFromHistory s :=
  needsRestore_iff

theorem taskClosureOverlay_lawful : taskClosureOverlay.Lawful currentTaskClosureRecordFromPayload
    (fun _ record => .record (restoredTaskClosure record))
    (fun record => { record with closureStatus := some (record.closureStatus.getD "current") })
    (fun s => (objectEntries (s .currentTaskClosureRecords)).filter fun scopeKey _ =>
      (taskScopeKeyTaskNumber scopeKey).isNone)
    .currentTaskClosureRecords .taskClosureRecordHistory where
  distinct := by decide
  history s := rfl
  raw s task := rfl
  needsRestore := taskClosureOverlay_needsRestore
  restore s := by
    show restoreCurrentTaskClosureRecordsFromHistory s = _
    rw [restoreCurrentTaskClosureRecordsFromHistory]
    dsimp only
    rw [restored_taskClosures_eq,
      restore_eq fun h => ((taskClosureOverlay_needsRestore s).mp h).1]
    rfl
  keptNone s task := by
    rw [OrderedMap.get?_filter, taskScopeKeyTaskNumber_taskScopeKey]
    exact Option.filter_eq_none_iff.mpr fun _ _ => Bool.false_ne_true
  rewrites task payload record h := by
    obtain ⟨rfl, hlegible⟩ := legible_of_payload h
    exact read_restoredTaskClosure hlegible

theorem negativeResultOverlay_lawful : negativeResultOverlay.Lawful
    (fun _ => taskClosureNegativeResultFromPayload)
    (fun task record => .record (restoredNegativeResult task record))
    (fun record => { record with semanticReviewedStateId := none })
    (fun _ => .empty) .taskClosureNegativeResultRecords .taskClosureNegativeResultHistory where
  distinct := by decide
  history s := rfl
  raw s task := rfl
  needsRestore := negativeResultOverlay_needsRestore
  restore s := by
    show restoreTaskClosureNegativeResultRecordsFromHistory s = _
    rw [restoreTaskClosureNegativeResultRecordsFromHistory,
      restore_eq fun h => ((negativeResultOverlay_needsRestore s).mp h).1]
    rfl
  keptNone s task := rfl
  rewrites task payload record h := read_restoredNegativeResult (legible_of_negativePayload h) _

/-- **When a repair of the current records converges**: that of the task closures when every
closure of the history has a status, and that of the negative results when none names a semantic
reviewed state. -/
theorem overlay_restore_converges_iff (s : StateObject) :
    (taskClosureOverlay.Converges s ↔
      (currentTaskClosureOverlayNeedsRestore s = true → ∀ (task : UInt32) record,
        (currentTaskClosureResultsFromHistory s).get? task.toNat = some record →
          record.closureStatus ≠ none)) ∧
    (negativeResultOverlay.Converges s ↔
      (taskClosureNegativeResultOverlayNeedsRestore s = true → ∀ (task : UInt32) record,
        (taskClosureNegativeResultsFromHistory s).get? task.toNat = some record →
          record.semanticReviewedStateId = none)) := by
  constructor
  · refine taskClosureOverlay_lawful.converges_iff.trans ?_
    refine imp_congr_right fun _ => forall_congr' fun task => forall₂_congr fun record _ => ?_
    obtain ⟨_, _, _, _, _, _, _, _, _, _, _, _, _, _, status⟩ := record
    cases status <;> simp
  · refine negativeResultOverlay_lawful.converges_iff.trans ?_
    refine imp_congr_right fun _ => forall_congr' fun task => forall₂_congr fun record _ => ?_
    obtain ⟨_, _, semantic, _, _, _, _, _⟩ := record
    simp [eq_comm]

/-- A closure from before closures had a status, and a negative result. -/
def beforeRestore : StateObject := fun f =>
  match f with
  | .taskClosureRecordHistory => some (.record [
    ("closure-1", .record [
      ("task", .u64 1), ("record_status", .str "current"), ("dispatch_id", .str "dispatch-1"),
      ("closure_record_id", .str "closure-1"), ("reviewed_state_id", .str "git_tree:1"),
      ("contract_identity", .str "contract-1"),
      ("effective_reviewed_surface_paths", strArr ["src/lib.rs"]),
      ("review_result", .str "pass"), ("review_summary_hash", .str "hash-1"),
      ("verification_result", .str "pass"), ("verification_summary_hash", .str "hash-2")])])
  | .taskClosureNegativeResultHistory => some (.record [
    ("task-2:dispatch-2", .record [
      ("task", .u64 2), ("record_status", .str "current"), ("dispatch_id", .str "dispatch-2"),
      ("reviewed_state_id", .str "git_tree:1"),
      ("semantic_reviewed_state_id", .str "semantic:1"),
      ("contract_identity", .str "contract-2"), ("review_result", .str "fail"),
      ("review_summary_hash", .str "hash-3"), ("verification_result", .str "not-run")])])
  | _ => none

theorem Overlay.not_converges {α : Type} {overlay : Overlay α} {s : StateObject}
    (hrestored : (overlay.restore s).1 = true)
    (hneeds : overlay.needsRestore (overlay.restore s).2 = true) : ¬ overlay.Converges s := by
  intro h
  have hdone := (h (overlay.restore s).2 (Prod.ext hrestored rfl)).1
  rw [hneeds] at hdone
  cases hdone

/-- Both repairs are asked for again. -/
theorem not_overlay_restore_converges :
    ¬ taskClosureOverlay.Converges beforeRestore ∧
      ¬ negativeResultOverlay.Converges beforeRestore :=
  ⟨Overlay.not_converges (by decide) (by decide),
    Overlay.not_converges (by decide) (by decide)⟩

end FeatureForge
