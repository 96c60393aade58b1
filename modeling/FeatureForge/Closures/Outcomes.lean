import FeatureForge.Closures.DispatchLineage
import FeatureForge.Closures.Overtaking

/-!
# The outcome of a task

A task has at most one current entry in each of its two histories as long as whatever is current
there is taken back before the next entry is filed: a negative result by a dispatch or a clearing,
a closure by the closing that supersedes it (`OutcomeState.apply`).  Then clearing and taking back
leave nothing to be read (`OutcomeState.cleared`, `OutcomeState.takenBack`).
-/

namespace FeatureForge

/-- An entry of a history that is current for a task. -/
def CurrentEntry (history : Object) (task : UInt32) (key : String) : Prop :=
  ∃ payload, history.get? key = some payload ∧ jsonU32 (payload.get? "task") = some task ∧
    jsonString (payload.get? "record_status") = some "current"

instance (history : Object) (task : UInt32) (key : String) :
    Decidable (CurrentEntry history task key) :=
  decidable_of_iff ((history.get? key).any fun payload =>
    decide (jsonU32 (payload.get? "task") = some task ∧
      jsonString (payload.get? "record_status") = some "current") = true) (by
    simp [CurrentEntry, Option.any_eq_true])

/-! ### Marks -/

/-- A mark leaves the members of a payload that are not its status. -/
theorem get?_markAll {status : String} : ∀ (ids : List String) {history : Object} {key : String}
    {payload : Json}, (markAll status history ids).get? key = some payload →
      ∃ payload₀, history.get? key = some payload₀ ∧ ∀ k, k ≠ "record_status" →
        k ≠ "closure_status" → payload.get? k = payload₀.get? k := by
  intro ids
  induction ids with
  | nil => exact fun h => ⟨_, h, fun _ _ _ => rfl⟩
  | cons id ids ih =>
    intro history key payload h
    have hrest : (markAll status (markRecordStatus history id status) ids).get? key =
        some payload := h
    obtain ⟨payload₁, hget, hmembers⟩ := ih hrest
    rw [markRecordStatus, OrderedMap.get?_mapVal, Option.map_eq_some_iff] at hget
    obtain ⟨payload₀, hget₀, rfl⟩ := hget
    refine ⟨payload₀, hget₀, fun k hrecord hclosure => (hmembers k hrecord hclosure).trans ?_⟩
    split_ifs
    · cases hobject : payload₀.asObject with
      | none => rfl
      | some record =>
        rw [Json.asObject_eq_some.mp hobject, Json.get?_obj, Json.get?_obj]
        exact markEntry_get?_of_ne status record hrecord hclosure
    · rfl

theorem CurrentEntry.of_mark {history : Object} {id status key : String} {task : UInt32}
    (hstatus : trim status ≠ "current")
    (h : CurrentEntry (markRecordStatus history id status) task key) :
    CurrentEntry history task key ∧ key ≠ id := by
  obtain ⟨payload, hget, htask, hcurrent⟩ := h
  rw [markRecordStatus, OrderedMap.get?_mapVal, Option.map_eq_some_iff] at hget
  obtain ⟨payload₀, hget₀, rfl⟩ := hget
  split_ifs at htask hcurrent with hmatches
  · cases hobject : payload₀.asObject with
    | none =>
      -- what is not an object has no status
      rw [hobject, Json.get?_of_asObject_none hobject] at hcurrent
      cases hcurrent
    | some record =>
      rw [hobject] at hcurrent
      have hmarked := markEntry_recordStatus status record
      rw [markEntry] at hmarked
      dsimp only at hcurrent
      rw [hmarked] at hcurrent
      have htrim : nonBlank (some status) = some "current" := hcurrent
      obtain ⟨hmem, _⟩ := Option.filter_eq_some_iff.mp htrim
      exact absurd (Option.some.inj hmem) hstatus
  · refine ⟨⟨payload₀, hget₀, htask, hcurrent⟩, fun heq => hmatches ?_⟩
    rw [heq, recordEntryMatchesId, beq_self_eq_true, Bool.true_or]

/-- **A mark** leaves no entry current that it was made for, and makes none current. -/
theorem CurrentEntry.of_markAll {status : String} (hstatus : trim status ≠ "current") :
    ∀ (ids : List String) {history : Object} {key : String} {task : UInt32},
      CurrentEntry (markAll status history ids) task key →
        CurrentEntry history task key ∧ key ∉ ids := by
  intro ids
  induction ids with
  | nil => exact fun h => ⟨h, List.not_mem_nil⟩
  | cons id ids ih =>
    intro history key task h
    have hrest : CurrentEntry (markAll status (markRecordStatus history id status) ids) task key :=
      h
    obtain ⟨hmarked, hids⟩ := ih hrest
    obtain ⟨hcurrent, hid⟩ := hmarked.of_mark hstatus
    exact ⟨hcurrent, List.not_mem_cons_of_ne_of_not_mem hid hids⟩

theorem currentEntry_insert {history : Object} {id key : String} {task task' : UInt32}
    {record : Object} (htask : jsonU32 (record.get? "task") = some task)
    (hcurrent : jsonString (record.get? "record_status") = some "current") :
    CurrentEntry (history.insert id (.obj record)) task' key ↔
      (key = id ∧ task' = task) ∨ (key ≠ id ∧ CurrentEntry history task' key) := by
  unfold CurrentEntry
  by_cases hkey : key = id
  · subst hkey
    rw [OrderedMap.get?_insert_self]
    simp only [Option.some.injEq, exists_eq_left', Json.get?_obj, htask, hcurrent, and_true,
      true_and, ne_eq, not_true_eq_false, false_and, or_false]
    exact eq_comm
  · rw [OrderedMap.get?_insert_of_ne _ _ hkey]
    simp [hkey]

/-- What is read of a task stands in the history as current. -/
theorem currentByTask_entry {α : Type} {read : UInt32 → Json → Option α} {history : Object}
    {task : UInt32} {record : α}
    (h : (currentByTask read history).get? task.toNat = some record) :
    ∃ key payload, history.get? key = some payload ∧ CurrentEntry history task key ∧
      read task payload = some record := by
  obtain ⟨⟨key, payload⟩, hmem, hentry⟩ := List.mem_filterMap.mp (OrderedMap.mem_of_get?_ofList h)
  dsimp only at hentry
  split_ifs at hentry with hcurrent
  obtain ⟨task', htask, hentry⟩ := Option.bind_eq_some_iff.mp hentry
  obtain ⟨result, hresult, hpair⟩ := Option.map_eq_some_iff.mp hentry
  obtain ⟨hkey, rfl⟩ := Prod.mk.inj hpair
  rw [UInt32.toNat.inj hkey] at htask hresult
  have hget := OrderedMap.mem_entries.mp hmem
  exact ⟨key, payload, hget, ⟨payload, hget, htask, hcurrent⟩, hresult⟩

/-! ### Negative results -/

/-- Negative results stand under the ids of their dispatches, one at most current for a task. -/
structure NegativeOutcomes (history : Object) : Prop where
  filed : ∀ key payload, history.get? key = some payload → ∃ (task : UInt32) (dispatchId : String),
    key = negativeResultId task dispatchId ∧ trim dispatchId = dispatchId ∧
      jsonU32 (payload.get? "task") = some task ∧
      payload.get? "dispatch_id" = some (.str dispatchId)
  unique : ∀ task key key', CurrentEntry history task key → CurrentEntry history task key' →
    key = key'

section

variable {history : Object} {status : String}

theorem NegativeOutcomes.markAll (h : NegativeOutcomes history) (hstatus : trim status ≠ "current")
    (ids : List String) : NegativeOutcomes (FeatureForge.markAll status history ids) where
  filed key payload hget := by
    obtain ⟨payload₀, hget₀, hmembers⟩ := get?_markAll ids hget
    obtain ⟨task, dispatchId, hkey, htrim, htask, hdispatch⟩ := h.filed key payload₀ hget₀
    refine ⟨task, dispatchId, hkey, htrim, ?_, ?_⟩
    · rw [hmembers _ (by decide) (by decide), htask]
    · rw [hmembers _ (by decide) (by decide), hdispatch]
  unique task key key' hkey hkey' :=
    h.unique task key key' (hkey.of_markAll hstatus ids).1 (hkey'.of_markAll hstatus ids).1

theorem negativeResultPayload_get? (r : TaskClosureNegativeResultRecord) (n : Nat) {key : String}
    (hkey : key ≠ "semantic_reviewed_state_id") :
    (negativeResultPayload r n).get? key =
      OrderedMap.lookup key (negativeResultMembers r n) := by
  have hnodup : ((negativeResultMembers r n).map Prod.fst).Nodup := by
    show ["task", "record_id", "record_sequence", "record_status", "dispatch_id",
      "closure_record_id", "reviewed_state_id", "contract_identity", "review_result",
      "review_summary_hash", "verification_result", "verification_summary_hash"].Nodup
    decide
  rw [negativeResultPayload, insertPresent_get?_of_ne _ _ hkey, OrderedMap.get?_ofList _ hnodup]

/-- **A negative result filed** where no other one of its task is current. -/
theorem NegativeOutcomes.file (h : NegativeOutcomes history) {r : TaskClosureNegativeResultRecord}
    (n : Nat) (htrim : trim r.dispatchId = r.dispatchId)
    (hfree : ∀ key, key ≠ negativeResultId r.task r.dispatchId →
      ¬ CurrentEntry history r.task key) :
    NegativeOutcomes (history.insert (negativeResultId r.task r.dispatchId)
      (.obj (negativeResultPayload r n))) := by
  have htask : (negativeResultPayload r n).get? "task" = some (.u64 r.task.toNat) :=
    negativeResultPayload_get? r n (by decide)
  have hdispatch : (negativeResultPayload r n).get? "dispatch_id" = some (.str r.dispatchId) :=
    negativeResultPayload_get? r n (by decide)
  have hstatus : (negativeResultPayload r n).get? "record_status" = some (.str "current") :=
    negativeResultPayload_get? r n (by decide)
  have hread : jsonU32 ((negativeResultPayload r n).get? "task") = some r.task := by
    rw [htask, jsonU32_u64]
  have hcurrent : jsonString ((negativeResultPayload r n).get? "record_status") =
      some "current" := by
    rw [hstatus]
    exact jsonString_str (by decide)
  refine ⟨fun key payload hget => ?_, fun task key key' hkey hkey' => ?_⟩
  · rw [OrderedMap.get?_insert] at hget
    split_ifs at hget with heq
    · cases hget
      exact ⟨r.task, r.dispatchId, heq, htrim, by rw [Json.get?_obj, hread],
        by rw [Json.get?_obj, hdispatch]⟩
    · exact h.filed key payload hget
  · rcases (currentEntry_insert hread hcurrent).mp hkey with ⟨heq, htask⟩ | ⟨hne, hold⟩ <;>
      rcases (currentEntry_insert hread hcurrent).mp hkey' with ⟨heq', htask'⟩ | ⟨hne', hold'⟩
    · rw [heq, heq']
    · exact absurd (htask ▸ hold') (hfree key' hne')
    · exact absurd (htask' ▸ hold) (hfree key hne)
    · exact h.unique task key key' hold hold'

end

theorem taskClosureNegativeResultFromPayload_congr {payload payload' : Json}
    (h : ∀ k, k ≠ "record_status" → k ≠ "closure_status" → payload.get? k = payload'.get? k) :
    taskClosureNegativeResultFromPayload payload =
      taskClosureNegativeResultFromPayload payload' := by
  unfold taskClosureNegativeResultFromPayload
  rw [h "dispatch_id" (by decide) (by decide), h "reviewed_state_id" (by decide) (by decide),
    h "contract_identity" (by decide) (by decide), h "review_result" (by decide) (by decide),
    h "review_summary_hash" (by decide) (by decide),
    h "verification_result" (by decide) (by decide),
    h "semantic_reviewed_state_id" (by decide) (by decide),
    h "verification_summary_hash" (by decide) (by decide)]

theorem dispatchId_of_negativePayload {payload : Json} {result : TaskClosureNegativeResult}
    (h : taskClosureNegativeResultFromPayload payload = some result) :
    jsonString (payload.get? "dispatch_id") = some result.dispatchId := by
  simp only [taskClosureNegativeResultFromPayload, Option.bind_eq_bind,
    Option.bind_eq_some_iff] at h
  obtain ⟨_, hdispatch, _, _, _, _, _, _, _, _, _, _, hresult⟩ := h
  cases hresult
  exact hdispatch

variable {s s' : StateObject}

/-- **A negative result that is cleared** is not read any more. -/
theorem NegativeOutcomes.cleared
    (h : NegativeOutcomes (objectEntries (s .taskClosureNegativeResultHistory))) {task : UInt32}
    (hclear : clearTaskClosureNegativeResult task s = .ok s') :
    taskClosureNegativeResult s' task = none := by
  obtain ⟨hhistory, hrecords⟩ := clearNegative_maps hclear
  rw [taskClosureNegativeResult, hrecords, OrderedMap.get?_erase_self, Option.bind_none,
    Option.or_none]
  refine Option.eq_none_iff_forall_ne_some.mpr fun result hresult => ?_
  obtain ⟨key, payload, hget, hcurrent, hread⟩ := currentByTask_entry hresult
  rw [hhistory] at hget hcurrent
  obtain ⟨hold, hkey⟩ := hcurrent.of_markAll (by decide)
  obtain ⟨payload₀, hget₀, hmembers⟩ := get?_markAll _ hget
  rw [taskClosureNegativeResultFromPayload_congr hmembers] at hread
  -- the entry was read before, and so it was the one that was marked
  have hlisted : ∃ result₀, (currentByTask (fun _ => taskClosureNegativeResultFromPayload)
      (objectEntries (s .taskClosureNegativeResultHistory))).get? task.toNat = some result₀ := by
    obtain ⟨payload₁, hget₁, htask₁, hstatus₁⟩ := hold
    cases hget₀.symm.trans hget₁
    refine OrderedMap.exists_get?_ofList (v := result) (List.mem_filterMap.mpr
      ⟨(key, payload₀), OrderedMap.mem_entries.mpr hget₀, ?_⟩)
    dsimp only
    rw [if_pos hstatus₁, htask₁, Option.bind_some, hread, Option.map_some]
  obtain ⟨result₀, hresult₀⟩ := hlisted
  obtain ⟨key₁, payload₁, hget₁, hcurrent₁, hread₁⟩ := currentByTask_entry hresult₀
  have hsame := h.unique task key key₁ hold hcurrent₁
  obtain ⟨task₁, dispatchId, hfiled, htrim, htask₁, hdispatch⟩ := h.filed key₁ payload₁ hget₁
  obtain ⟨payload₂, hget₂, htask₂, _⟩ := hcurrent₁
  cases hget₁.symm.trans hget₂
  have htask : task₁ = task := Option.some.inj (htask₁.symm.trans htask₂)
  have hid : dispatchId = result₀.dispatchId := by
    have hread₂ := dispatchId_of_negativePayload hread₁
    rw [hdispatch] at hread₂
    have hnamed : nonBlank (some dispatchId) = some result₀.dispatchId := hread₂
    obtain ⟨hmem, _⟩ := Option.filter_eq_some_iff.mp hnamed
    rw [Option.map_some, htrim] at hmem
    exact Option.some.inj hmem
  refine hkey (Option.mem_toList.mpr (Option.mem_def.mpr ?_))
  rw [taskClosureNegativeResult, hresult₀, Option.some_or, Option.map_some, hsame, hfiled, htask,
    hid]

/-! ### Closures -/

/-- One closure at most is current for a task, and the map of current records names it. -/
structure ClosureOutcomes (history current : Object) : Prop where
  unique : ∀ task key key', CurrentEntry history task key → CurrentEntry history task key' →
    key = key'
  live : ∀ task key, CurrentEntry history task key → ∃ payload,
    current.get? (taskScopeKey task) = some payload ∧
      jsonString (payload.get? "closure_record_id") = some key

/-- No entry of a task is current, and the map of current records names none. -/
structure NoOutcome (history current : Object) (task : UInt32) : Prop where
  history : ∀ key, ¬ CurrentEntry history task key
  current : current.get? (taskScopeKey task) = none

section

variable {history current : Object} {status : String} {scopeKeys ids : List String}

/-- **Taking closures back** by their keys, with the ids that are current under them. -/
theorem ClosureOutcomes.takeBack (h : ClosureOutcomes history current)
    (hstatus : trim status ≠ "current")
    (hids : ∀ task key, taskScopeKey task ∈ scopeKeys → CurrentEntry history task key → key ∈ ids) :
    ClosureOutcomes (FeatureForge.markAll status history ids)
        (scopeKeys.foldl OrderedMap.erase current) ∧
      ∀ task, taskScopeKey task ∈ scopeKeys → NoOutcome (FeatureForge.markAll status history ids)
        (scopeKeys.foldl OrderedMap.erase current) task := by
  have hgone : ∀ task, taskScopeKey task ∈ scopeKeys → ∀ key,
      ¬ CurrentEntry (FeatureForge.markAll status history ids) task key := by
    intro task hmem key hkey
    obtain ⟨hold, hout⟩ := hkey.of_markAll hstatus ids
    exact hout (hids task key hmem hold)
  refine ⟨⟨fun task key key' hkey hkey' => ?_, fun task key hkey => ?_⟩, fun task hmem => ?_⟩
  · exact h.unique task key key' (hkey.of_markAll hstatus ids).1 (hkey'.of_markAll hstatus ids).1
  · obtain ⟨payload, hget, hread⟩ := h.live task key (hkey.of_markAll hstatus ids).1
    refine ⟨payload, ?_, hread⟩
    rw [get?_foldl_erase, if_neg fun hmem => hgone task hmem key hkey, hget]
  · refine ⟨hgone task hmem, ?_⟩
    rw [get?_foldl_erase, if_pos hmem]

/-- **A closure filed** where no other one of its task is current. -/
theorem ClosureOutcomes.file (h : ClosureOutcomes history current) {r : TaskClosureResultRecord}
    {runIdentity : Option Json} (n : Nat) (hnamed : Named r.closureRecordId)
    (hfree : ∀ key, key ≠ r.closureRecordId → ¬ CurrentEntry history r.task key) :
    ClosureOutcomes (history.insert r.closureRecordId (.obj (taskClosurePayload r runIdentity n)))
      (current.insert (taskScopeKey r.task) (.obj (taskClosurePayload r runIdentity n))) := by
  have hread : jsonU32 ((taskClosurePayload r runIdentity n).get? "task") = some r.task := by
    rw [taskClosurePayload_get? _ _ _ (by decide)]
    exact jsonU32_u64 r.task
  have hcurrent : jsonString ((taskClosurePayload r runIdentity n).get? "record_status") =
      some "current" := by
    rw [taskClosurePayload_get? _ _ _ (by decide)]
    exact jsonString_str (by decide)
  have hid : jsonString ((taskClosurePayload r runIdentity n).get? "closure_record_id") =
      some r.closureRecordId := by
    rw [taskClosurePayload_get? _ _ _ (by decide)]
    exact jsonString_str hnamed
  refine ⟨fun task key key' hkey hkey' => ?_, fun task key hkey => ?_⟩
  · rcases (currentEntry_insert hread hcurrent).mp hkey with ⟨heq, htask⟩ | ⟨hne, hold⟩ <;>
      rcases (currentEntry_insert hread hcurrent).mp hkey' with ⟨heq', htask'⟩ | ⟨hne', hold'⟩
    · rw [heq, heq']
    · exact absurd (htask ▸ hold') (hfree key' hne')
    · exact absurd (htask' ▸ hold) (hfree key hne)
    · exact h.unique task key key' hold hold'
  · rcases (currentEntry_insert hread hcurrent).mp hkey with ⟨rfl, rfl⟩ | ⟨hne, hold⟩
    · exact ⟨_, OrderedMap.get?_insert_self _ _ _, by rw [Json.get?_obj, hid]⟩
    · by_cases htask : task = r.task
      · exact absurd (htask ▸ hold) (hfree key hne)
      · obtain ⟨payload, hget, hpayload⟩ := h.live task key hold
        refine ⟨payload, ?_, hpayload⟩
        rw [OrderedMap.get?_insert_of_ne _ _ fun heq => htask (taskScopeKey_injective heq), hget]

end

/-- What has no outcome is not read. -/
theorem NoOutcome.read {task : UInt32}
    (h : NoOutcome (objectEntries (s .taskClosureRecordHistory))
      (objectEntries (s .currentTaskClosureRecords)) task) :
    currentTaskClosureResult s task = none := by
  have hhistory : (currentTaskClosureResultsFromHistory s).get? task.toNat = none := by
    refine Option.eq_none_iff_forall_ne_some.mpr fun record hrecord => ?_
    obtain ⟨key, _, _, hcurrent, _⟩ := currentByTask_entry hrecord
    exact h.history key hcurrent
  rw [currentTaskClosureResult, hhistory, rawCurrentTaskClosureResult, h.current, Option.bind_none,
    Option.or_none]

/-! ### States -/

structure OutcomeState (s : StateObject) : Prop where
  negative : NegativeOutcomes (objectEntries (s .taskClosureNegativeResultHistory))
  closures : ClosureOutcomes (objectEntries (s .taskClosureRecordHistory))
    (objectEntries (s .currentTaskClosureRecords))

theorem OutcomeState.congr (h : OutcomeState s)
    (hnegative : s' .taskClosureNegativeResultHistory = s .taskClosureNegativeResultHistory)
    (hhistory : s' .taskClosureRecordHistory = s .taskClosureRecordHistory)
    (hcurrent : s' .currentTaskClosureRecords = s .currentTaskClosureRecords) :
    OutcomeState s' := by
  refine ⟨?_, ?_⟩
  · rw [hnegative]
    exact h.negative
  · rw [hhistory, hcurrent]
    exact h.closures

theorem OutcomeState.clear (h : OutcomeState s) {task : UInt32}
    (hclear : clearTaskClosureNegativeResult task s = .ok s') : OutcomeState s' := by
  have hsame := clearTaskClosureNegativeResult_ok hclear
  refine ⟨?_, ?_⟩
  · rw [(clearNegative_maps hclear).1]
    exact h.negative.markAll (by decide) _
  · rw [hsame _ (by decide) (by decide), hsame _ (by decide) (by decide)]
    exact h.closures

/-- **Taking closures back** leaves none of their tasks with an outcome. -/
theorem OutcomeState.takeBack (h : OutcomeState s) {scopeKeys ids : List String} {status : String}
    (hstatus : trim status ≠ "current")
    (hids : ∀ task key, taskScopeKey task ∈ scopeKeys →
      rawClosureRecordId s (taskScopeKey task) = some key → key ∈ ids)
    (hremove : takeBackTaskClosures scopeKeys ids status s = .ok s') :
    OutcomeState s' ∧ ∀ task, taskScopeKey task ∈ scopeKeys →
      NoOutcome (objectEntries (s' .taskClosureRecordHistory))
        (objectEntries (s' .currentTaskClosureRecords)) task := by
  obtain ⟨hsame, hcurrent, hhistory⟩ := takeBackTaskClosures_ok hremove
  have hlisted : ∀ task key, taskScopeKey task ∈ scopeKeys →
      CurrentEntry (objectEntries (s .taskClosureRecordHistory)) task key → key ∈ ids := by
    intro task key hmem hkey
    obtain ⟨payload, hget, hread⟩ := h.closures.live task key hkey
    refine hids task key hmem ?_
    rw [rawClosureRecordId, hget, Option.bind_some, hread]
  have htaken := h.closures.takeBack hstatus hlisted
  rw [hcurrent, hhistory]
  refine ⟨⟨?_, ?_⟩, htaken.2⟩
  · rw [hsame _ (by decide) (by decide)]
    exact h.negative
  · rw [hcurrent, hhistory]
    exact htaken.1

theorem OutcomeState.remove (h : OutcomeState s) {tasks : List UInt32} {status : String}
    (hstatus : trim status ≠ "current")
    (hremove : removeCurrentTaskClosureResultsWithRecordStatus tasks status s = .ok s') :
    OutcomeState s' ∧ ∀ task ∈ tasks,
      NoOutcome (objectEntries (s' .taskClosureRecordHistory))
        (objectEntries (s' .currentTaskClosureRecords)) task := by
  have hids : ∀ task key, taskScopeKey task ∈ tasks.map taskScopeKey →
      rawClosureRecordId s (taskScopeKey task) = some key →
        key ∈ tasks.filterMap fun task => (rawClosureRecordId s (taskScopeKey task)).or
          ((currentTaskClosureResult s task).map CurrentTaskClosureRecord.closureRecordId) := by
    intro task key hmem hread
    rw [List.mem_map_of_injective taskScopeKey_injective] at hmem
    refine List.mem_filterMap.mpr ⟨task, hmem, ?_⟩
    rw [hread, Option.some_or]
  obtain ⟨hstate, hgone⟩ := h.takeBack hstatus hids hremove
  exact ⟨hstate, fun task hmem => hgone task (List.mem_map_of_mem hmem)⟩

theorem OutcomeState.removeByScopeKeys (h : OutcomeState s) {scopeKeys : List String}
    {status : String} (hstatus : trim status ≠ "current")
    (hremove : removeCurrentTaskClosureResultsWithRecordStatusByScopeKeys scopeKeys status s =
      .ok s') :
    OutcomeState s' ∧ ∀ task, taskScopeKey task ∈ scopeKeys →
      NoOutcome (objectEntries (s' .taskClosureRecordHistory))
        (objectEntries (s' .currentTaskClosureRecords)) task := by
  unfold removeCurrentTaskClosureResultsWithRecordStatusByScopeKeys at hremove
  split_ifs at hremove with hnone
  · cases hremove
    refine ⟨h, fun task hmem => ?_⟩
    rw [hnone] at hmem
    exact absurd hmem List.not_mem_nil
  · exact h.takeBack hstatus (fun task key hmem hread =>
      List.mem_filterMap.mpr ⟨_, hmem, hread⟩) hremove

/-- A negative result is recorded for a dispatch without blanks around its id, while no other
negative result of the task is current. -/
def NegativeFree (r : TaskClosureNegativeResultRecord) (s : StateObject) : Prop :=
  trim r.dispatchId = r.dispatchId ∧ ∀ key, key ≠ negativeResultId r.task r.dispatchId →
    ¬ CurrentEntry (objectEntries (s .taskClosureNegativeResultHistory)) r.task key

/-- Where another closure of the task is current, the active plan and run have one of the task. -/
def ClosureFree (plan : ActivePlan) (r : TaskClosureResultRecord) (s : StateObject) : Prop :=
  Named r.closureRecordId ∧ ∀ key, key ≠ r.closureRecordId →
    CurrentEntry (objectEntries (s .taskClosureRecordHistory)) r.task key →
      ∃ record ∈ taskClosureHistoryRecords s, record.task = r.task ∧
        record.closureRecordId ≠ r.closureRecordId ∧
        taskClosureRecordMatchesActivePlanAndRuntimeScope plan s record = true

theorem OutcomeState.fileNegative (h : OutcomeState s) {r : TaskClosureNegativeResultRecord}
    (hfree : NegativeFree r s) (hrecord : recordTaskClosureNegativeResult r s = .ok s') :
    OutcomeState s' := by
  obtain ⟨hsame, hhistory, _⟩ := recordNegative_maps hrecord
  refine ⟨?_, ?_⟩
  · rw [hhistory]
    exact h.negative.file _ hfree.1 hfree.2
  · rw [hsame _ (by decide) (by decide), hsame _ (by decide) (by decide)]
    exact h.closures

/-- **A closing** leaves the other tasks whose closures it supersedes without an outcome. -/
theorem OutcomeState.close (h : OutcomeState s) {plan : ActivePlan} {r : TaskClosureResultRecord}
    (hfree : ClosureFree plan r s) (hclose : closeCurrentTask plan r s = .ok s') :
    OutcomeState s' ∧ ∀ record ∈ supersededTaskClosureRecords plan s r.task r.closureRecordId
      r.effectiveReviewedSurfacePaths, record.task ≠ r.task →
        NoOutcome (objectEntries (s' .taskClosureRecordHistory))
          (objectEntries (s' .currentTaskClosureRecords)) record.task := by
  obtain ⟨s₁, hremove, hclose⟩ := bind_ok hclose
  obtain ⟨s₂, hclear, hclose⟩ := bind_ok hclose
  obtain ⟨s₃, happend, hclose⟩ := bind_ok hclose
  obtain ⟨h₁, hgone⟩ := h.remove (by decide) hremove
  have hsame := appendUniqueStringArray_ok happend
  have h₃ : OutcomeState s₃ :=
    (h₁.clear hclear).congr (hsame _ (by decide)) (hsame _ (by decide)) (hsame _ (by decide))
  have hclearSame := clearTaskClosureNegativeResult_ok hclear
  have hhistory₃ : s₃ .taskClosureRecordHistory = s₁ .taskClosureRecordHistory := by
    rw [hsame _ (by decide), hclearSame _ (by decide) (by decide)]
  have hcurrent₃ : s₃ .currentTaskClosureRecords = s₁ .currentTaskClosureRecords := by
    rw [hsame _ (by decide), hclearSame _ (by decide) (by decide)]
  have hnone : ∀ key, key ≠ r.closureRecordId →
      ¬ CurrentEntry (objectEntries (s₃ .taskClosureRecordHistory)) r.task key := by
    intro key hne hkey
    rw [hhistory₃] at hkey
    -- what is current now was current before, and so the task was taken back
    have hold : CurrentEntry (objectEntries (s .taskClosureRecordHistory)) r.task key := by
      rw [(takeBackTaskClosures_ok hremove).2.2] at hkey
      exact (hkey.of_markAll (by decide) _).1
    obtain ⟨record, hrecord, htask, hid, hmatches⟩ := hfree.2 key hne hold
    refine (hgone r.task (List.mem_map.mpr ⟨record, ?_, htask⟩)).history key hkey
    rw [supersededTaskClosureRecords, List.mem_filter]
    simp [hrecord, htask, hid, hmatches]
  obtain ⟨hsame', hhistory, hcurrent⟩ := recordTaskClosureResult_maps hclose
  refine ⟨⟨?_, ?_⟩, fun record hrecord htask => ?_⟩
  · rw [hsame' _ (by decide) (by decide)]
    exact h₃.negative
  · rw [hhistory, hcurrent]
    exact h₃.closures.file _ hfree.1 hnone
  · have hout := hgone record.task (List.mem_map_of_mem hrecord)
    rw [hhistory, hcurrent, hhistory₃, hcurrent₃]
    have hread : jsonU32 ((taskClosurePayload r (s₃ .runIdentity)
        ((objectEntries (s₁ .taskClosureRecordHistory)).entries.length + 1)).get? "task") =
          some r.task := by
      rw [taskClosurePayload_get? _ _ _ (by decide)]
      exact jsonU32_u64 r.task
    refine ⟨fun key hkey => ?_, ?_⟩
    · obtain ⟨payload, hget, hpayload, hstatus⟩ := hkey
      rw [OrderedMap.get?_insert] at hget
      split_ifs at hget with heq
      · cases hget
        rw [Json.get?_obj, hread] at hpayload
        exact htask (Option.some.inj hpayload).symm
      · exact hout.history key ⟨payload, hget, hpayload, hstatus⟩
    · rw [OrderedMap.get?_insert_of_ne _ _ fun heq => htask (taskScopeKey_injective heq)]
      exact hout.current

/-! ### Runs -/

inductive OutcomeOp
  | dispatch (now : String) (input : TaskDispatchLineageUpsertInput)
  | negativeResult (r : TaskClosureNegativeResultRecord)
  | clearNegativeResult (task : UInt32)
  | closeCurrentTask (plan : ActivePlan) (r : TaskClosureResultRecord)
  | removeCurrentTaskClosureResults (tasks : List UInt32)
  | clearForExecutionReentry (tasks : List UInt32)
  | clearForStructuralRepair (tasks : List UInt32)
  | clearForStructuralRepairScopeKeys (scopeKeys : List String)
  /-- another run, or another revision of the plan -/
  | beginRun (runIdentity : Json)

def OutcomeOp.apply (sha : Sha256Hex) (s : StateObject) : OutcomeOp → Option StateObject
  | .dispatch now input => (upsertTaskDispatchLineage sha now input s).toOption
  | .negativeResult r => (recordTaskClosureNegativeResult r s).toOption
  | .clearNegativeResult task => (clearTaskClosureNegativeResult task s).toOption
  | .closeCurrentTask plan r => (FeatureForge.closeCurrentTask plan r s).toOption
  | .removeCurrentTaskClosureResults tasks =>
    (FeatureForge.removeCurrentTaskClosureResults tasks s).toOption
  | .clearForExecutionReentry tasks =>
    (clearCurrentTaskClosureResultsForExecutionReentry tasks s).toOption
  | .clearForStructuralRepair tasks =>
    (clearCurrentTaskClosureResultsForStructuralRepair tasks s).toOption
  | .clearForStructuralRepairScopeKeys scopeKeys =>
    (clearCurrentTaskClosureResultsForStructuralRepairScopeKeys scopeKeys s).toOption
  | .beginRun runIdentity => some (s.set .runIdentity runIdentity)

/-- A recording finds nothing current that it leaves so. -/
def OutcomeOp.Free (s : StateObject) : OutcomeOp → Prop
  | .negativeResult r => NegativeFree r s
  | .closeCurrentTask plan r => ClosureFree plan r s
  | _ => True

theorem OutcomeState.apply {sha : Sha256Hex} {op : OutcomeOp} (h : OutcomeState s)
    (hfree : op.Free s) (ha : op.apply sha s = some s') : OutcomeState s' := by
  cases op with
  | dispatch now input =>
    obtain ⟨t, hclear, hsame⟩ := upsertTaskDispatchLineage_ok (ok_of_toOption ha)
    exact (h.clear hclear).congr (hsame _ (by decide) (by decide))
      (hsame _ (by decide) (by decide)) (hsame _ (by decide) (by decide))
  | negativeResult r => exact h.fileNegative hfree (ok_of_toOption ha)
  | clearNegativeResult task => exact h.clear (ok_of_toOption ha)
  | closeCurrentTask plan r => exact (h.close hfree (ok_of_toOption ha)).1
  | removeCurrentTaskClosureResults tasks =>
    exact (h.remove (by decide) (ok_of_toOption ha)).1
  | clearForExecutionReentry tasks => exact (h.remove (by decide) (ok_of_toOption ha)).1
  | clearForStructuralRepair tasks => exact (h.remove (by decide) (ok_of_toOption ha)).1
  | clearForStructuralRepairScopeKeys scopeKeys =>
    exact (h.removeByScopeKeys (by decide) (ok_of_toOption ha)).1
  | beginRun runIdentity =>
    cases ha
    exact h.congr (set_of_ne _ _ (by decide)) (set_of_ne _ _ (by decide))
      (set_of_ne _ _ (by decide))

/-- No task has an outcome yet. -/
structure NoOutcomes (s : StateObject) : Prop where
  negativeHistory : objectEntries (s .taskClosureNegativeResultHistory) = .empty
  closureHistory : objectEntries (s .taskClosureRecordHistory) = .empty

theorem not_currentEntry_empty {task : UInt32} {key : String} :
    ¬ CurrentEntry .empty task key := by
  rintro ⟨_, hget, _⟩
  cases hget

theorem NoOutcomes.outcomeState (h : NoOutcomes s) : OutcomeState s := by
  refine ⟨?_, ?_⟩
  · rw [h.negativeHistory]
    exact ⟨nofun, fun _ _ _ hkey => absurd hkey not_currentEntry_empty⟩
  · rw [h.closureHistory]
    exact ⟨fun _ _ _ hkey => absurd hkey not_currentEntry_empty,
      fun _ _ hkey => absurd hkey not_currentEntry_empty⟩

/-- At most one negative result and one closure of a task is current in the histories. -/
def OneOutcome (s : StateObject) : Prop := ∀ task key key',
  (CurrentEntry (objectEntries (s .taskClosureNegativeResultHistory)) task key →
    CurrentEntry (objectEntries (s .taskClosureNegativeResultHistory)) task key' → key = key') ∧
  (CurrentEntry (objectEntries (s .taskClosureRecordHistory)) task key →
    CurrentEntry (objectEntries (s .taskClosureRecordHistory)) task key' → key = key')

/-- What is cleared or taken back is not read any more. -/
structure OutcomesGo (s : StateObject) : Prop where
  cleared : ∀ task s', clearTaskClosureNegativeResult task s = .ok s' →
    taskClosureNegativeResult s' task = none
  removed : ∀ tasks status s', trim status ≠ "current" →
    removeCurrentTaskClosureResultsWithRecordStatus tasks status s = .ok s' →
      ∀ task ∈ tasks, currentTaskClosureResult s' task = none
  removedByScopeKeys : ∀ scopeKeys status s', trim status ≠ "current" →
    removeCurrentTaskClosureResultsWithRecordStatusByScopeKeys scopeKeys status s = .ok s' →
      ∀ task, taskScopeKey task ∈ scopeKeys → currentTaskClosureResult s' task = none
  superseded : ∀ plan r s', ClosureFree plan r s → closeCurrentTask plan r s = .ok s' →
    ∀ record ∈ supersededTaskClosureRecords plan s r.task r.closureRecordId
      r.effectiveReviewedSurfacePaths, record.task ≠ r.task →
        currentTaskClosureResult s' record.task = none

theorem OutcomeState.oneOutcome (h : OutcomeState s) : OneOutcome s := fun task key key' =>
  ⟨h.negative.unique task key key', h.closures.unique task key key'⟩

theorem OutcomeState.outcomesGo (h : OutcomeState s) : OutcomesGo s where
  cleared _ _ hclear := h.negative.cleared hclear
  removed _ _ _ hstatus hremove task hmem := ((h.remove hstatus hremove).2 task hmem).read
  removedByScopeKeys _ _ _ hstatus hremove task hmem :=
    ((h.removeByScopeKeys hstatus hremove).2 task hmem).read
  superseded _ _ _ hfree hclose record hrecord htask :=
    ((h.close hfree hclose).2 record hrecord htask).read

/-- **Outcomes are unique** in every run of which each recording finds nothing current that it
leaves so; what is cleared or taken back goes. -/
theorem closure_outcomes_unique {sha : Sha256Hex} {start : StateObject} (hstart : NoOutcomes start)
    (h : Machine.Reaches (OutcomeOp.apply sha) (fun s op => op.Free s) start s) :
    OneOutcome s ∧ OutcomesGo s := by
  have hstate : OutcomeState s :=
    h.invariant hstart.outcomeState fun _ _ _ hs hfree ha => hs.apply hfree ha
  exact ⟨hstate.oneOutcome, hstate.outcomesGo⟩

/-! ### Two dispatches, and two runs -/

def negativeOf (dispatchId : String) : TaskClosureNegativeResultRecord where
  task := 1
  dispatchId := dispatchId
  reviewedStateId := "git_tree:one"
  semanticReviewedStateId := none
  contractIdentity := "task-contract"
  reviewResult := "fail"
  reviewSummaryHash := "hash"
  verificationResult := "not-run"
  verificationSummaryHash := ""

/-- The state after some steps. -/
def afterOutcomes (start : StateObject) (ops : List OutcomeOp) : StateObject :=
  (Machine.run (OutcomeOp.apply closureSha) start ops).getD start

def oneNegative : StateObject := afterOutcomes noneClosed [.negativeResult (negativeOf "first")]

def twoNegatives : StateObject := afterOutcomes noneClosed
  [.negativeResult (negativeOf "first"), .negativeResult (negativeOf "second")]

def twoClosures : StateObject := afterOutcomes noneClosed
  [.closeCurrentTask closurePlan (pathClosure 1 "first" "src/a.rs"), .beginRun laterRunIdentity,
   .closeCurrentTask closurePlan { pathClosure 1 "second" "src/a.rs" with
     executionRunId := some "run-fedcba9876543210" }]

theorem noOutcomes_noneClosed : NoOutcomes noneClosed := by
  refine ⟨?_, ?_⟩ <;> decide

theorem closure_outcomes_unique_oneNegative : OneOutcome oneNegative ∧ OutcomesGo oneNegative := by
  have hstep : OutcomeOp.apply closureSha noneClosed (.negativeResult (negativeOf "first")) =
      some oneNegative := rfl
  have hfree : (OutcomeOp.negativeResult (negativeOf "first")).Free noneClosed := by
    refine ⟨by decide, fun key _ => ?_⟩
    rw [noOutcomes_noneClosed.negativeHistory]
    exact not_currentEntry_empty
  exact closure_outcomes_unique noOutcomes_noneClosed (Machine.Reaches.refl.tail hfree hstep)

theorem reaches_afterOutcomes {start : StateObject} {ops : List OutcomeOp}
    (h : (Machine.run (OutcomeOp.apply closureSha) start ops).isSome = true) :
    Machine.Reaches (OutcomeOp.apply closureSha) Machine.Any start (afterOutcomes start ops) := by
  obtain ⟨s, hs⟩ := Option.isSome_iff_exists.mp h
  rw [afterOutcomes, hs]
  exact Machine.reaches_of_run hs

/-- Two dispatches of a task fail, and it is closed in two runs: both outcomes are current. -/
theorem not_closure_outcomes_unique :
    (Machine.Reaches (OutcomeOp.apply closureSha) Machine.Any noneClosed twoNegatives ∧
      ¬ OneOutcome twoNegatives) ∧
    (Machine.Reaches (OutcomeOp.apply closureSha) Machine.Any noneClosed twoClosures ∧
      ¬ OneOutcome twoClosures) := by
  refine ⟨⟨reaches_afterOutcomes (by decide), fun h => ?_⟩,
    ⟨reaches_afterOutcomes (by decide), fun h => ?_⟩⟩
  · have hsame := (h 1 (negativeResultId 1 "first") (negativeResultId 1 "second")).1
      (by decide) (by decide)
    exact absurd hsame (by decide)
  · have hsame := (h 1 "first" "second").2 (by decide) (by decide)
    exact absurd hsame (by decide)

end FeatureForge
