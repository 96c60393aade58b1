import FeatureForge.Closures.BranchClosures
import FeatureForge.Closures.Evaluations
import FeatureForge.Transitions.MilestoneRuns

/-!
# Records of closures in their histories

A record is filed once, under its own id, and from then on only its status changes
(`Marked`).  So it can be read back for as long as it stays in its history: a task closure by
`currentTaskClosureRecordFromPayload` (`Marked.readTask`), and both kinds of closures by the
graph (`Marked.taskClosureEvaluation`, `Marked.branchClosureEvaluation`).
-/

namespace FeatureForge

/-- The statuses that closures are given. -/
def closureStatuses : List String := ["current", "superseded", "stale_unreviewed", "historical"]

/-- A payload that has been given a status since it was filed. -/
structure Marked (filed : Object) (status : String) (payload : Json) : Prop where
  members : ∀ key, key ≠ "record_status" → key ≠ "closure_status" →
    payload.get? key = filed.get? key
  closureStatus : payload.get? "closure_status" = some (.str status)
  recordStatus : filed.contains "record_status" = true →
    payload.get? "record_status" = some (.str status)
  isObject : ∃ record : Object, payload = .obj record

/-- A payload that bears its own id only. -/
def OwnId (id : String) (filed : Object) : Prop :=
  ∀ id', recordEntryMatchesId id (.obj filed) id' = true ↔ id' = id

variable {filed : Object} {status status' id id' : String} {payload : Json}

theorem markEntry_get?_of_ne (status : String) (record : Object) {key : String}
    (hrecord : key ≠ "record_status") (hclosure : key ≠ "closure_status") :
    (markEntry status record).get? key = record.get? key := by
  rw [markEntry, setStatus, OrderedMap.get?_insert_of_ne _ _ hrecord]
  split_ifs
  · rw [setStatus, OrderedMap.get?_insert_of_ne _ _ hclosure]
  · rfl

theorem Marked.mark {record : Object} (h : Marked filed status (.obj record)) (status' : String) :
    Marked filed status' (.obj (markEntry status' record)) where
  members key hrecord hclosure := by
    rw [Json.get?_obj, markEntry_get?_of_ne _ _ hrecord hclosure, ← Json.get?_obj]
    exact h.members key hrecord hclosure
  closureStatus := by
    have hcontains : record.contains "closure_status" = true :=
      OrderedMap.contains_eq_true.mpr ⟨_, (Json.get?_obj record _).symm.trans h.closureStatus⟩
    rw [Json.get?_obj, markEntry, if_pos hcontains, setStatus, setStatus,
      OrderedMap.get?_insert_of_ne _ _ (by decide), OrderedMap.get?_insert_self]
  recordStatus _ := markEntry_recordStatus status' record
  isObject := ⟨_, rfl⟩

theorem Marked.matches (h : Marked filed status payload) :
    recordEntryMatchesId id payload id' = recordEntryMatchesId id (.obj filed) id' := by
  unfold recordEntryMatchesId
  rw [h.members _ (by decide) (by decide), h.members _ (by decide) (by decide),
    h.members _ (by decide) (by decide), Json.get?_obj, Json.get?_obj, Json.get?_obj]

/-- **A mark in a history** changes the entry with the id, and no other. -/
theorem Marked.markRecordStatus {history : Object} (hget : history.get? id = some payload)
    (h : Marked filed status payload) (hown : OwnId id filed) (markId markStatus : String) :
    ∃ payload', (markRecordStatus history markId markStatus).get? id = some payload' ∧
      Marked filed (if id = markId then markStatus else status) payload' := by
  rw [FeatureForge.markRecordStatus, OrderedMap.get?_mapVal, hget, Option.map_some]
  refine ⟨_, rfl, ?_⟩
  rw [h.matches]
  by_cases hid : id = markId
  · rw [if_pos ((hown markId).mpr hid.symm), if_pos hid]
    obtain ⟨record, rfl⟩ := h.isObject
    rw [Json.asObject_obj]
    exact h.mark markStatus
  · rw [if_neg fun hmatch => hid ((hown markId).mp hmatch).symm, if_neg hid]
    exact h

def markAll (status : String) (history : Object) (ids : List String) : Object :=
  ids.foldl (fun history id => markRecordStatus history id status) history

theorem Marked.markAll (h : Marked filed status payload) (markStatus : String)
    (ids : List String) {history : Object} (hget : history.get? id = some payload)
    (hown : OwnId id filed) :
    ∃ payload', (FeatureForge.markAll markStatus history ids).get? id = some payload' ∧
      Marked filed (if id ∈ ids then markStatus else status) payload' := by
  induction ids generalizing history payload status with
  | nil => exact ⟨payload, hget, h⟩
  | cons markId ids ih =>
    obtain ⟨payload', hget', h'⟩ := h.markRecordStatus hget hown markId markStatus
    obtain ⟨payload'', hget'', h''⟩ := ih h' hget'
    refine ⟨payload'', hget'', ?_⟩
    by_cases hids : id ∈ ids
    · rw [if_pos hids] at h''
      rwa [if_pos (List.mem_cons_of_mem _ hids)]
    · rw [if_neg hids] at h''
      by_cases hid : id = markId
      · rw [if_pos hid] at h''
        rwa [if_pos (List.mem_cons.mpr (Or.inl hid))]
      · rw [if_neg hid] at h''
        rwa [if_neg fun hmem => (List.mem_cons.mp hmem).elim hid hids]

theorem get?_markAll_eq_none (markStatus : String) : ∀ (ids : List String) (history : Object),
    (FeatureForge.markAll markStatus history ids).get? id = none ↔ history.get? id = none := by
  intro ids
  induction ids with
  | nil => exact fun history => Iff.rfl
  | cons markId ids ih =>
    intro history
    refine (ih _).trans ?_
    show (markRecordStatus history markId markStatus).get? id = none ↔ _
    rw [FeatureForge.markRecordStatus, OrderedMap.get?_mapVal, Option.map_eq_none_iff]

theorem length_markAll (status : String) (records : Object) (ids : List String) :
    (FeatureForge.markAll status records ids).entries.length = records.entries.length :=
  List.foldlRecOn ids _ (motive := fun m : Object => m.entries.length = records.entries.length) rfl
    fun _ ih _ _ => (OrderedMap.length_mapVal _ _).trans ih

theorem marked_eq_markAll (previous : Option String) (status : String) (m : Object) :
    marked previous status m = FeatureForge.markAll status m previous.toList := by
  cases previous <;> rfl

/-! ### Lists of ids -/

/-- The texts of a list of items. -/
theorem mem_stringArray_append (values : List String) (items : List Json) (x : String) :
    x ∈ stringArray (some (.arr (values.foldl (fun items value =>
      if trim value = "" ∨ .str (trim value) ∈ items then items
      else items ++ [.str (trim value)]) items))) ↔
      x ∈ stringArray (some (.arr items)) ∨ ∃ value ∈ values, trim value = x ∧ x ≠ "" := by
  induction values generalizing items with
  | nil => simp
  | cons value values ih =>
    have hone : x ∈ stringArray (some (.arr (if trim value = "" ∨ .str (trim value) ∈ items then
        items else items ++ [.str (trim value)]))) ↔
        x ∈ stringArray (some (.arr items)) ∨ (trim value = x ∧ x ≠ "") := by
      have hread : ∀ items x, x ∈ stringArray (some (.arr items)) ↔
          ∃ item ∈ items, nonBlank (Json.asStr item) = some x := fun items x => by
        rw [stringArray, Option.bind_some, Json.asArray_arr, Option.getD_some, List.mem_filterMap]
      rw [hread, hread]
      split_ifs with hkept
      · refine (or_iff_left_of_imp fun ⟨hx, hne⟩ => ?_).symm
        have hmem := hkept.resolve_left fun hblank => hne (hx.symm.trans hblank)
        refine ⟨_, hmem, ?_⟩
        rw [Json.asStr_str, nonBlank_of_trimmed ⟨trim_trim value, hx ▸ hne⟩, hx]
      · rw [not_or] at hkept
        simp only [List.mem_append, List.mem_singleton, or_and_right, exists_or, exists_eq_left,
          Json.asStr_str]
        rw [nonBlank_of_trimmed ⟨trim_trim value, hkept.1⟩, Option.some.injEq]
        exact or_congr_right ⟨fun hx => ⟨hx, hx ▸ hkept.1⟩, And.left⟩
    rw [List.foldl_cons, ih, hone, or_assoc, List.exists_mem_cons_iff]

theorem appendUniqueStringArray_mem {f : Field} {values : List String} {s s' : StateObject}
    (h : appendUniqueStringArray f values s = .ok s') (x : String) :
    x ∈ stringArray (s' f) ↔ x ∈ stringArray (s f) ∨ ∃ value ∈ values, trim value = x ∧ x ≠ "" := by
  unfold appendUniqueStringArray at h
  have harr : ∀ items, ((s f).getD (.arr [])).asArray = some items →
      stringArray (s f) = stringArray (some (.arr items)) := fun items hitems => by
    cases hf : s f with
    | none =>
      rw [hf, Option.getD_none, Json.asArray_arr] at hitems
      cases hitems
      rfl
    | some v =>
      rw [hf, Option.getD_some] at hitems
      rw [stringArray, stringArray, Option.bind_some, hitems, Option.bind_some, Json.asArray_arr]
  cases hitems : ((s f).getD (.arr [])).asArray with
  | none =>
    rw [hitems] at h
    cases h
  | some items =>
    rw [hitems] at h
    cases h
    rw [set_self, harr items hitems]
    exact mem_stringArray_append values items x

/-! ### Closures of tasks -/

theorem jsonString_of_text {v : String} (h : trim v ≠ "") :
    jsonString (some (.str v)) = some (trim v) := by
  show nonBlank (some v) = _
  rw [nonBlank, Option.map_some, Option.filter_some, if_pos (decide_eq_true h)]

theorem jsonU32_u64 (n : UInt32) : jsonU32 (some (.u64 n.toNat)) = some n := by
  show ((Json.u64 n.toNat).asU64).bind u32TryFrom = some n
  rw [Json.asU64_u64, Option.bind_some, u32TryFrom, if_pos n.toNat_lt, UInt32.ofNat_toNat]

theorem jsonStringArrayStrict_strArr {values : List String} (h : ∀ v ∈ values, trim v ≠ "") :
    jsonStringArrayStrict (some (strArr values)) = some (values.map trim) := by
  show (Json.arr (values.map .str)).asArray.bind _ = _
  rw [Json.asArray_arr, Option.bind_some]
  induction values with
  | nil => rfl
  | cons v values ih =>
    rw [List.forall_mem_cons] at h
    have hv : nonBlank (Json.str v).asStr = some (trim v) := jsonString_of_text h.1
    rw [List.map_cons, List.mapM_cons, hv, Option.bind_eq_bind, Option.bind_some, ih h.2]
    rfl

/-- The id and the texts of a task closure as the commands record it. -/
structure TaskClosureResultRecord.Issued (r : TaskClosureResultRecord) : Prop where
  closureRecordId : Named r.closureRecordId
  kind : startsWith "task-closure-".toList r.closureRecordId.toList = true
  dispatchId : trim r.dispatchId ≠ ""
  reviewedStateId : trim r.reviewedStateId ≠ ""
  contractIdentity : trim r.contractIdentity ≠ ""
  effectiveReviewedSurfacePaths : ∀ path ∈ r.effectiveReviewedSurfacePaths, trim path ≠ ""
  reviewResult : trim r.reviewResult ≠ ""
  reviewSummaryHash : trim r.reviewSummaryHash ≠ ""
  verificationResult : trim r.verificationResult ≠ ""
  verificationSummaryHash : trim r.verificationSummaryHash ≠ ""

theorem nodup_taskClosureMembers (r : TaskClosureResultRecord) (runIdentity : Option Json)
    (sequence : Nat) : ((taskClosureMembers r runIdentity sequence).map Prod.fst).Nodup := by
  show ["task", "record_id", "record_sequence", "record_status", "closure_status",
    "source_plan_path", "source_plan_revision", "execution_run_id", "dispatch_id",
    "closure_record_id", "reviewed_state_id", "contract_identity",
    "effective_reviewed_surface_paths", "review_result", "review_summary_hash",
    "verification_result", "verification_summary_hash"].Nodup
  decide

theorem taskClosurePayload_get? (r : TaskClosureResultRecord) (runIdentity : Option Json)
    (sequence : Nat) {key : String} (hkey : key ≠ "semantic_reviewed_state_id") :
    (taskClosurePayload r runIdentity sequence).get? key =
      OrderedMap.lookup key (taskClosureMembers r runIdentity sequence) := by
  rw [taskClosurePayload, insertPresent_get?_of_ne _ _ hkey,
    OrderedMap.get?_ofList _ (nodup_taskClosureMembers _ _ _)]

theorem taskClosurePayload_semantic (r : TaskClosureResultRecord) (runIdentity : Option Json)
    (sequence : Nat) : (taskClosurePayload r runIdentity sequence).get? "semantic_reviewed_state_id" =
      r.semanticReviewedStateId.map Json.str := by
  unfold taskClosurePayload
  cases r.semanticReviewedStateId with
  | none =>
    show (OrderedMap.ofList (taskClosureMembers r runIdentity sequence)).get? _ = none
    rw [OrderedMap.get?_ofList _ (nodup_taskClosureMembers _ _ _)]
    rfl
  | some semantic => exact OrderedMap.get?_insert_self _ _ _

section

variable {r : TaskClosureResultRecord} {runIdentity : Option Json} {sequence : Nat}

theorem ownId_taskClosurePayload (hr : r.Issued) :
    OwnId r.closureRecordId (taskClosurePayload r runIdentity sequence) := by
  intro id
  unfold recordEntryMatchesId
  rw [Json.get?_obj, taskClosurePayload_get? _ _ _ (by decide)]
  show (r.closureRecordId == id || trim r.closureRecordId == id) = true ↔ id = r.closureRecordId
  rw [hr.closureRecordId.1, Bool.or_self, beq_iff_eq]
  exact eq_comm

theorem marked_taskClosurePayload :
    Marked (taskClosurePayload r runIdentity sequence) "current"
      (.obj (taskClosurePayload r runIdentity sequence)) where
  members _ _ _ := Json.get?_obj _ _
  closureStatus := by
    rw [Json.get?_obj, taskClosurePayload_get? _ _ _ (by decide)]
    rfl
  recordStatus _ := by
    rw [Json.get?_obj, taskClosurePayload_get? _ _ _ (by decide)]
    rfl
  isObject := ⟨_, rfl⟩

/-- **A task closure is read back**, with the status it has. -/
theorem Marked.readTask (hr : r.Issued)
    (h : Marked (taskClosurePayload r runIdentity sequence) status payload) :
    ∃ record, currentTaskClosureRecordFromPayload r.task payload = some record ∧
      record.task = r.task ∧ record.closureRecordId = r.closureRecordId ∧
      record.effectiveReviewedSurfacePaths = r.effectiveReviewedSurfacePaths.map trim ∧
      record.sourcePlanPath = jsonString (some (optionStr
        (jsonString (jsonMember runIdentity "source_plan_path")))) ∧
      record.sourcePlanRevision = jsonU32 (some (optionU32
        (jsonU32 (jsonMember runIdentity "source_plan_revision")))) ∧
      record.executionRunId = jsonString (some (optionStr ((nonBlank r.executionRunId).or
        (jsonString (jsonMember runIdentity "execution_run_id"))))) := by
  have hmember : ∀ key, key ≠ "record_status" → key ≠ "closure_status" →
      key ≠ "semantic_reviewed_state_id" →
      payload.get? key = OrderedMap.lookup key (taskClosureMembers r runIdentity sequence) :=
    fun key hrecord hclosure hsemantic => by
      rw [h.members key hrecord hclosure, taskClosurePayload_get? _ _ _ hsemantic]
  have hdispatch : payload.get? "dispatch_id" = some (.str r.dispatchId) :=
    hmember _ (by decide) (by decide) (by decide)
  have hid : payload.get? "closure_record_id" = some (.str r.closureRecordId) :=
    hmember _ (by decide) (by decide) (by decide)
  have hreviewed : payload.get? "reviewed_state_id" = some (.str r.reviewedStateId) :=
    hmember _ (by decide) (by decide) (by decide)
  have hcontract : payload.get? "contract_identity" = some (.str r.contractIdentity) :=
    hmember _ (by decide) (by decide) (by decide)
  have hpaths : payload.get? "effective_reviewed_surface_paths" =
      some (strArr r.effectiveReviewedSurfacePaths) :=
    hmember _ (by decide) (by decide) (by decide)
  have hresult : payload.get? "review_result" = some (.str r.reviewResult) :=
    hmember _ (by decide) (by decide) (by decide)
  have hsummary : payload.get? "review_summary_hash" = some (.str r.reviewSummaryHash) :=
    hmember _ (by decide) (by decide) (by decide)
  have hverification : payload.get? "verification_result" = some (.str r.verificationResult) :=
    hmember _ (by decide) (by decide) (by decide)
  have hhash : payload.get? "verification_summary_hash" = some (.str r.verificationSummaryHash) :=
    hmember _ (by decide) (by decide) (by decide)
  unfold currentTaskClosureRecordFromPayload
  rw [hdispatch, hid, hreviewed, hcontract, hpaths, hresult, hsummary, hverification, hhash,
    jsonString_of_text hr.dispatchId, jsonString_str hr.closureRecordId,
    jsonString_of_text hr.reviewedStateId, jsonString_of_text hr.contractIdentity,
    jsonStringArrayStrict_strArr hr.effectiveReviewedSurfacePaths,
    jsonString_of_text hr.reviewResult, jsonString_of_text hr.reviewSummaryHash,
    jsonString_of_text hr.verificationResult, jsonString_of_text hr.verificationSummaryHash,
    hmember "source_plan_path" (by decide) (by decide) (by decide),
    hmember "source_plan_revision" (by decide) (by decide) (by decide),
    hmember "execution_run_id" (by decide) (by decide) (by decide)]
  exact ⟨_, rfl, rfl, rfl, rfl, rfl, rfl, rfl⟩

end

/-! ### Evaluations -/

theorem closureFreshnessFromStatus_of_known (h : status ∈ closureStatuses) :
    ∃ freshness, closureFreshnessFromStatus status = some freshness ∧
      (freshness = .current ↔ status = "current") := by
  unfold closureStatuses at h
  simp only [List.mem_cons, List.not_mem_nil, or_false] at h
  rcases h with rfl | rfl | rfl | rfl
  · exact ⟨.current, by decide, by decide⟩
  · exact ⟨.superseded, by decide, by decide⟩
  · exact ⟨.staleUnreviewed, by decide, by decide⟩
  · exact ⟨.historical, by decide, by decide⟩

theorem jsonString_status (h : status ∈ closureStatuses) :
    jsonString (some (.str status)) = some status := by
  refine jsonString_str ?_
  unfold closureStatuses at h
  simp only [List.mem_cons, List.not_mem_nil, or_false] at h
  rcases h with rfl | rfl | rfl | rfl <;> exact ⟨by decide, by decide⟩

/-- A payload is as fresh as its status says. -/
theorem Marked.freshness (h : Marked filed status payload) (hknown : status ∈ closureStatuses) :
    ∃ freshness, valueClosureFreshness payload = some freshness ∧
      (freshness = .current ↔ status = "current") := by
  obtain ⟨freshness, hfresh, hcurrent⟩ := closureFreshnessFromStatus_of_known hknown
  refine ⟨freshness, ?_, hcurrent⟩
  rw [valueClosureFreshness, valueString, h.closureStatus, jsonString_status hknown, Option.some_or,
    Option.bind_some, hfresh]

/-- **The graph reads a task closure**, save one of task 0. -/
theorem Marked.taskClosureEvaluation {r : TaskClosureResultRecord} {runIdentity : Option Json}
    {sequence : Nat} (hr : r.Issued)
    (h : Marked (taskClosurePayload r runIdentity sequence) status payload)
    (hknown : status ∈ closureStatuses) (key : String) :
    if r.task = 0 then FeatureForge.taskClosureEvaluation key payload = none
    else ∃ evaluation, FeatureForge.taskClosureEvaluation key payload = some evaluation ∧
      evaluation.identity.recordId = r.closureRecordId ∧
      evaluation.identity.kind = .taskClosure ∧ evaluation.identity.taskNumber = some r.task ∧
      evaluation.supersedes = none ∧ (evaluation.freshness = .current ↔ status = "current") := by
  obtain ⟨freshness, hfresh, hcurrent⟩ := h.freshness hknown
  have htask : valueU32 payload "task" = if r.task = 0 then none else some r.task := by
    have hmember : payload.get? "task" = some (.u64 r.task.toNat) := by
      rw [h.members _ (by decide) (by decide), taskClosurePayload_get? _ _ _ (by decide)]
      rfl
    have hread : jsonU32 (payload.get? "task") = some r.task := by
      rw [hmember, jsonU32_u64]
    rw [valueU32, hread, Option.filter_some]
    by_cases hzero : r.task = 0
    · rw [hzero, if_pos rfl]
      decide
    · rw [if_neg hzero, if_pos (decide_eq_true (UInt32.pos_iff_ne_zero.mpr hzero))]
  have hid : valueString payload "closure_record_id" = some r.closureRecordId := by
    rw [valueString, h.members _ (by decide) (by decide), taskClosurePayload_get? _ _ _ (by decide)]
    exact jsonString_str hr.closureRecordId
  unfold FeatureForge.taskClosureEvaluation
  rw [htask]
  split_ifs with hzero
  · rfl
  · dsimp only
    rw [hid, Option.some_or, Option.getD_some, hr.closureRecordId.1, if_neg hr.closureRecordId.2]
    refine ⟨_, rfl, rfl, rfl, rfl, rfl, ?_⟩
    show (valueClosureFreshness payload).getD .current = .current ↔ _
    rw [hfresh, Option.getD_some, hcurrent]

/-! ### Branch closures -/

/-- The ids of a branch closure as the commands record it. -/
structure BranchClosureResultRecord.Issued (r : BranchClosureResultRecord) : Prop where
  branchClosureId : Named r.branchClosureId
  kind : startsWith "branch-closure-".toList r.branchClosureId.toList = true
  closureStatus : r.closureStatus = "current"
  supersededBranchClosureIds : ∀ id ∈ r.supersededBranchClosureIds, Named id

def branchClosureMembers (r : BranchClosureResultRecord) (sequence : Nat) : List (String × Json) :=
  [("branch_closure_id", .str r.branchClosureId),
   ("source_plan_path", .str r.sourcePlanPath),
   ("source_plan_revision", .u64 r.sourcePlanRevision.toNat),
   ("repo_slug", .str r.repoSlug),
   ("branch_name", .str r.branchName),
   ("base_branch", .str r.baseBranch),
   ("reviewed_state_id", .str r.reviewedStateId),
   ("contract_identity", .str r.contractIdentity),
   ("effective_reviewed_branch_surface", .str r.effectiveReviewedBranchSurface),
   ("source_task_closure_ids", strArr r.sourceTaskClosureIds),
   ("provenance_basis", .str r.provenanceBasis),
   ("closure_status", .str r.closureStatus),
   ("superseded_branch_closure_ids", strArr r.supersededBranchClosureIds),
   ("record_sequence", .u64 sequence)]

section

variable {r : BranchClosureResultRecord} {sequence : Nat}

theorem branchClosurePayload_lookup (r : BranchClosureResultRecord) (sequence : Nat) {key : String}
    (hsemantic : key ≠ "semantic_reviewed_state_id")
    (hfingerprint : key ≠ "branch_closure_fingerprint") :
    (branchClosurePayload r sequence).get? key =
      OrderedMap.lookup key (branchClosureMembers r sequence) := by
  have hnodup : ((branchClosureMembers r sequence).map Prod.fst).Nodup := by
    show ["branch_closure_id", "source_plan_path", "source_plan_revision", "repo_slug",
      "branch_name", "base_branch", "reviewed_state_id", "contract_identity",
      "effective_reviewed_branch_surface", "source_task_closure_ids", "provenance_basis",
      "closure_status", "superseded_branch_closure_ids", "record_sequence"].Nodup
    decide
  rw [← OrderedMap.get?_ofList _ hnodup, branchClosurePayload,
    insertPresent_get?_of_ne _ _ hfingerprint, insertPresent_get?_of_ne _ _ hsemantic]
  rfl

theorem ownId_branchClosurePayload (hr : r.Issued) :
    OwnId r.branchClosureId (branchClosurePayload r sequence) := by
  intro id
  constructor
  · intro h
    by_contra hne
    rw [branchClosure_entry_matches r sequence hr.branchClosureId hne] at h
    cases h
  · rintro rfl
    rw [recordEntryMatchesId, beq_self_eq_true, Bool.true_or]

theorem marked_branchClosurePayload (hr : r.Issued) :
    Marked (branchClosurePayload r sequence) "current" (.obj (branchClosurePayload r sequence)) where
  members _ _ _ := Json.get?_obj _ _
  closureStatus := by
    rw [Json.get?_obj, branchClosurePayload_lookup _ _ (by decide) (by decide), ← hr.closureStatus]
    rfl
  recordStatus hcontains := by
    obtain ⟨v, hv⟩ := OrderedMap.contains_eq_true.mp hcontains
    rw [branchClosurePayload_lookup _ _ (by decide) (by decide)] at hv
    cases hv
  isObject := ⟨_, rfl⟩

theorem stringArray_strArr {values : List String} (h : ∀ v ∈ values, Named v) :
    stringArray (some (strArr values)) = values := by
  rw [stringArray, Option.bind_some, strArr, Json.asArray_arr, Option.getD_some, List.filterMap_map]
  refine (List.filterMap_congr (g := some) fun v hv => ?_).trans List.filterMap_some
  rw [Function.comp_apply, Json.asStr_str, nonBlank_of_trimmed (h v hv)]

/-- **The graph reads a branch closure.** -/
theorem Marked.branchClosureEvaluation (hr : r.Issued)
    (h : Marked (branchClosurePayload r sequence) status payload)
    (hknown : status ∈ closureStatuses) (key : String) :
    ∃ evaluation, FeatureForge.branchClosureEvaluation key payload = some evaluation ∧
      evaluation.identity.recordId = r.branchClosureId ∧
      evaluation.identity.kind = .branchClosure ∧ evaluation.identity.taskNumber = none ∧
      evaluation.supersedes = r.supersededBranchClosureIds.head? ∧
      (evaluation.freshness = .current ↔ status = "current") ∧
      valueStringArray payload "superseded_branch_closure_ids" = r.supersededBranchClosureIds := by
  obtain ⟨freshness, hfresh, hcurrent⟩ := h.freshness hknown
  have hid : valueString payload "branch_closure_id" = some r.branchClosureId := by
    rw [valueString, h.members _ (by decide) (by decide),
      branchClosurePayload_lookup _ _ (by decide) (by decide)]
    exact jsonString_str hr.branchClosureId
  have hsuperseded : valueStringArray payload "superseded_branch_closure_ids" =
      r.supersededBranchClosureIds := by
    rw [valueStringArray, h.members _ (by decide) (by decide),
      branchClosurePayload_lookup _ _ (by decide) (by decide)]
    exact stringArray_strArr hr.supersededBranchClosureIds
  unfold FeatureForge.branchClosureEvaluation
  rw [hid, Option.getD_some]
  dsimp only
  rw [hr.branchClosureId.1, if_neg hr.branchClosureId.2, hsuperseded]
  refine ⟨_, rfl, rfl, rfl, rfl, rfl, ?_, rfl⟩
  show (valueClosureFreshness payload).getD .current = .current ↔ _
  rw [hfresh, Option.getD_some, hcurrent]

end

end FeatureForge
