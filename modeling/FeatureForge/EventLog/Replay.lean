import FeatureForge.EventLog.Migration

/-!
# What is replayed

The facts of the replayed events all come from the legacy state: a field carries the
legacy value, or one of the records that stand in it (`Replays`).  And the transition
of a record's status is made right after the event of the record (`Anchor`).
`replayList_orderedReplay` says both of the events as they are made;
`mem_orderedReplay` and `recordEvent_of_mem` say which events there are.
-/

namespace FeatureForge

/-- The fields that hold records under their keys. -/
def recordFields : List Field :=
  [.currentTaskClosureRecords, .taskClosureRecordHistory, .taskClosureNegativeResultRecords,
   .taskClosureNegativeResultHistory, .branchClosureRecords, .releaseReadinessRecordHistory,
   .finalReviewRecordHistory, .browserQaRecordHistory, .strategyReviewDispatchLineage,
   .strategyReviewDispatchLineageHistory, .finalReviewDispatchLineageHistory]

theorem mem_recordMapDeltaFields {f : Field} :
    f ∈ recordMapDeltaFields ↔ f ∈ recordFields ∨ f = .finalReviewDispatchLineage := by
  have h : ∀ f ∈ Field.all, f ∈ recordMapDeltaFields ↔
      f ∈ recordFields ∨ f = .finalReviewDispatchLineage := by decide
  exact h f (Field.mem_all f)

/-- The legacy states a migration is for. -/
structure StateObject.Migratable (legacy : StateObject) : Prop where
  /-- Record maps are absent or hold objects under trimmed keys. -/
  records : ∀ f ∈ recordFields, legacy f = none ∨ ∃ m : Object, legacy f = some (.obj m) ∧
    ∀ k v, m.get? k = some v → (∃ entry : Object, v = .obj entry) ∧ trim k = k
  /-- Current closures have the status of current ones, or none. -/
  current : ∀ k entry,
    (objectEntries (legacy .currentTaskClosureRecords)).get? k = some entry →
      jsonString (entry.get? "record_status") = none ∨
        jsonString (entry.get? "record_status") = some "current"
  lineage : ∀ k, (objectEntries (legacy .finalReviewDispatchLineage)).get? k ≠ some .null
  /-- An open step noted as completed is one of the completed steps. -/
  openStep : ∀ task step,
    jsonString (jsonMember (legacy .currentOpenStepState) "note_state") = some "Completed" →
    jsonU32 (jsonMember (legacy .currentOpenStepState) "task") = some task →
    jsonU32 (jsonMember (legacy .currentOpenStepState) "step") = some step →
    (task, step) ∈ legacyCompletedStepEvents legacy

section

variable {legacy : StateObject}

/-- The records of a field. -/
abbrev legacyRecords (legacy : StateObject) (f : Field) : Object := objectEntries (legacy f)

/-! ### The facts of a replayed event -/

/-- Facts that say what the legacy state does. -/
def Replays (legacy : StateObject) (facts : Field → Option Json) : Prop :=
  ∀ f v, facts f = some v → legacy f = some v ∨ f ∈ recordFields ∧
    ∃ k entry, (legacyRecords legacy f).get? k = some entry ∧ v = singleRecordDelta k entry

theorem get_into {fields : List Field} {b : AuthoritativeFactBuilder} {f : Field} {v : Json}
    (h : (b.into fields).get f = some v) : b.get f = some v := by
  rw [AuthoritativeFactBuilder.into, Facts.get_ofGet] at h
  split_ifs at h
  exact h

theorem Replays.into {b : AuthoritativeFactBuilder} (h : Replays legacy b.get)
    (fields : List Field) : Replays legacy (b.into fields).get :=
  fun f v hv => h f v (get_into hv)

theorem replays_collect (fields : List Field) :
    Replays legacy (collectAuthoritativeFields legacy fields).get := by
  intro f v h
  rw [collectAuthoritativeFields, AuthoritativeFactBuilder.collect, Facts.get_ofGet] at h
  split_ifs at h
  exact Or.inl h

section

variable {f : Field} {k : String} {entry : Json} (hf : f ∈ recordFields)
  (hk : (legacyRecords legacy f).get? k = some entry)
include hf hk

theorem replays_entry : Replays legacy (migrationRecordEntryFields f k entry).get := by
  intro g v h
  rw [migrationRecordEntryFields, Facts.get_ofGet] at h
  split_ifs at h with _ hg
  cases h
  subst hg
  exact Or.inr ⟨hf, k, entry, hk, rfl⟩

theorem replays_milestone (current : Field) (bindings : List Field) (id : Option String) :
    Replays legacy (migrationMilestoneEntryFields f current bindings legacy k entry id).get := by
  have hentry := replays_entry hf hk
  rw [migrationMilestoneEntryFields]
  split_ifs
  · intro g v h
    rw [copyPresentFields, Facts.get_ofGet] at h
    split_ifs at h with _ hg
    · rcases Option.or_eq_some_iff.mp h with h | ⟨_, h⟩
      · exact Or.inl h
      · exact hentry g v h
    · exact hentry g v h
  · exact hentry

end

/-! ### The order of the events -/

/-- The event before a transition is that of the record the transition is about. -/
def Anchor (legacy : StateObject) (d : ExecutionEvent) : ExecutionEvent → Prop
  | .recordStatusTransition family id status _ =>
    ∀ recordId mapFields f, nonBlank id = some recordId →
      recordStatusMapFields family = some mapFields → f ∈ mapFields →
      skipsMapField family status f = false → f ∈ recordFields ∧
        ∃ facts k entry, d.facts = some facts ∧ facts f = some (singleRecordDelta k entry) ∧
          (legacyRecords legacy f).get? k = some entry ∧ recordEntryMatchesId k entry recordId = true
  | _ => True

/-- Replayed events: their facts come from the legacy state, and every transition comes
right after its anchor, with the same sequence number. -/
structure ReplayList (legacy : StateObject) (l : List (Nat × ExecutionEvent)) : Prop where
  replays : ∀ x ∈ l, ∀ facts, x.2.facts = some facts → Replays legacy facts
  follows : ∀ i x, l[i]? = some x → x.2.kind = .recordStatusTransition →
    ∃ j d, i = j + 1 ∧ l[j]? = some d ∧ d.1 = x.1 ∧ Anchor legacy d.2 x.2

theorem ReplayList.append {l l' : List (Nat × ExecutionEvent)} (h : ReplayList legacy l)
    (h' : ReplayList legacy l') : ReplayList legacy (l ++ l') where
  replays x hx := (List.mem_append.mp hx).elim (h.replays x) (h'.replays x)
  follows i x hx hk := by
    by_cases hi : i < l.length
    · rw [List.getElem?_append_left hi] at hx
      obtain ⟨j, d, hj, hd, hs⟩ := h.follows i x hx hk
      refine ⟨j, d, hj, ?_, hs⟩
      rw [List.getElem?_append_left (by omega)]
      exact hd
    · rw [List.getElem?_append_right (by omega)] at hx
      obtain ⟨j, d, hj, hd, hs⟩ := h'.follows _ x hx hk
      refine ⟨l.length + j, d, by omega, ?_, hs⟩
      rw [List.getElem?_append_right (by omega), Nat.add_sub_cancel_left]
      exact hd

theorem ReplayList.flatMap {α : Type} {g : α → List (Nat × ExecutionEvent)} :
    ∀ {as : List α}, (∀ a ∈ as, ReplayList legacy (g a)) → ReplayList legacy (as.flatMap g) := by
  intro as
  induction as with
  | nil =>
    intro _
    exact ⟨fun x hx => (by cases hx), fun i x hx => (by cases hx)⟩
  | cons a as ih =>
    intro h
    rw [List.flatMap_cons]
    exact (h a List.mem_cons_self).append (ih fun b hb => h b (List.mem_cons_of_mem _ hb))

/-- An event that carries facts, all from the legacy state. -/
def Carries (legacy : StateObject) (e : ExecutionEvent) : Prop :=
  ∃ facts, e.facts = some facts ∧ Replays legacy facts

theorem Carries.kind_ne {e : ExecutionEvent} (h : Carries legacy e) :
    e.kind ≠ .recordStatusTransition := by
  obtain ⟨facts, hfacts, _⟩ := h
  intro hk
  cases e with
  | recordStatusTransition family id status sequence => cases hfacts
  | _ => cases hk

theorem Carries.replays {e : ExecutionEvent} (h : Carries legacy e) {facts : Field → Option Json}
    (hf : e.facts = some facts) : Replays legacy facts := by
  obtain ⟨facts', hf', hr⟩ := h
  rw [hf] at hf'
  cases hf'
  exact hr

theorem replayList_of_carries {l : List (Nat × ExecutionEvent)}
    (h : ∀ x ∈ l, Carries legacy x.2) : ReplayList legacy l where
  replays x hx _ hf := (h x hx).replays hf
  follows _ x hx hk := absurd hk (h x (List.mem_of_getElem? hx)).kind_ne

theorem replayList_atZero {es : List ExecutionEvent} (h : ∀ e ∈ es, Carries legacy e) :
    ReplayList legacy (atZero es) := by
  refine replayList_of_carries fun x hx => ?_
  obtain ⟨e, he, rfl⟩ := List.mem_map.mp hx
  exact h e he

theorem replayList_pair {n : Nat} {d e : ExecutionEvent} (hd : Carries legacy d)
    (he : e.facts = none) (h : Anchor legacy d e) : ReplayList legacy [(n, d), (n, e)] where
  replays x hx facts hf := by
    rcases List.mem_cons.mp hx with rfl | hx
    · exact hd.replays hf
    · rw [List.mem_singleton.mp hx, he] at hf
      cases hf
  follows i x hx hk := by
    match i with
    | 0 =>
      cases hx
      exact absurd hk hd.kind_ne
    | 1 =>
      cases hx
      exact ⟨0, (n, d), rfl, rfl, rfl, h⟩
    | _ + 2 => cases hx

/-- Only the field a record comes from is touched by its transition. -/
theorem touched_eq {f : Field} {family : String} {defaultStatus : Option String} {entry : Json}
    (hfamily : (f = .currentTaskClosureRecords ∧ family = "task_closure_record" ∧
        recordStatusFromMigrationEntry entry defaultStatus = some "current") ∨
      (f = .taskClosureRecordHistory ∧ family = "task_closure_record") ∨
      recordStatusMapFields family = some [f])
    (hpromotes : promotesHistoricalCurrent f family
      (recordStatusFromMigrationEntry entry defaultStatus) = false)
    {mapFields : List Field} {g : Field} (hmap : recordStatusMapFields family = some mapFields)
    (hg : g ∈ mapFields)
    (hskip : skipsMapField family (recordStatusFromMigrationEntry entry defaultStatus) g = false) :
    g = f := by
  have htask : recordStatusMapFields "task_closure_record" =
      some [.currentTaskClosureRecords, .taskClosureRecordHistory] := by decide
  rcases hfamily with ⟨rfl, rfl, hstatus⟩ | ⟨rfl, rfl⟩ | hsingle
  · rw [htask] at hmap
    cases hmap
    rcases List.mem_cons.mp hg with rfl | hg
    · rfl
    · rw [List.mem_singleton.mp hg, hstatus] at hskip
      cases hskip
  · rw [htask] at hmap
    cases hmap
    rcases List.mem_cons.mp hg with rfl | hg
    · -- a status other than current skips the current closures
      have hne : recordStatusFromMigrationEntry entry defaultStatus ≠ some "current" := by
        intro hstatus
        rw [hstatus] at hpromotes
        cases hpromotes
      simp [skipsMapField, hne] at hskip
    · exact List.mem_singleton.mp hg
  · rw [hsingle] at hmap
    cases hmap
    exact List.mem_singleton.mp hg

theorem nonBlank_eq_some {s : Option String} {t : String} (h : nonBlank s = some t) :
    ∃ u, s = some u ∧ trim u = t ∧ t ≠ "" := by
  rw [nonBlank, Option.filter_eq_some_iff, Option.map_eq_some_iff] at h
  obtain ⟨⟨u, hu, hut⟩, hne⟩ := h
  exact ⟨u, hu, hut, of_decide_eq_true hne⟩

/-- The id of a record is that of its entry. -/
theorem recordEntryMatchesId_migration {k : String} {entry : Json} {recordId : String}
    (htrim : trim k = k) (h : nonBlank (recordIdFromMigrationEntry k entry) = some recordId) :
    recordEntryMatchesId k entry recordId = true := by
  obtain ⟨u, hu, hut, _⟩ := nonBlank_eq_some h
  rw [recordIdFromMigrationEntry] at hu
  rcases Option.or_eq_some_iff.mp hu with hid | ⟨_, hkey⟩
  · obtain ⟨w, hw, hwt, _⟩ := nonBlank_eq_some hid
    have hid : trim w = recordId := by rw [← hut, ← hwt, trim_trim]
    simp [recordEntryMatchesId, hw, hid]
  · obtain ⟨w, hw, hwt, _⟩ := nonBlank_eq_some hkey
    cases hw
    have hid : k = recordId := by rw [← hut, ← hwt, htrim, htrim]
    simp [recordEntryMatchesId, hid]

theorem replayList_collect (hl : legacy.Migratable) {f : Field} {family : String}
    {defaultStatus : Option String} {makeEvent : String → Json → ExecutionEvent}
    (hf : f ∈ recordFields)
    (hfamily : ∀ k entry, (legacyRecords legacy f).get? k = some entry →
      (f = .currentTaskClosureRecords ∧ family = "task_closure_record" ∧
        recordStatusFromMigrationEntry entry defaultStatus = some "current") ∨
      (f = .taskClosureRecordHistory ∧ family = "task_closure_record") ∨
      recordStatusMapFields family = some [f])
    (hmake : ∀ k entry, (legacyRecords legacy f).get? k = some entry →
      ∃ facts, (makeEvent k entry).facts = some facts ∧ Replays legacy facts ∧
        facts f = some (singleRecordDelta k entry)) :
    ReplayList legacy (collectHistoryReplayEvents legacy f family defaultStatus makeEvent) := by
  rw [collectHistoryReplayEvents]
  refine ReplayList.flatMap fun e he => ?_
  obtain ⟨k, entry⟩ := e
  have hk : (legacyRecords legacy f).get? k = some entry := OrderedMap.mem_entries.mp he
  obtain ⟨facts, hfacts, hreplays, hdelta⟩ := hmake k entry hk
  have hcarries : Carries legacy (makeEvent k entry) := ⟨facts, hfacts, hreplays⟩
  dsimp only
  split_ifs with hpromotes
  · exact replayList_of_carries fun x hx => by rw [List.mem_singleton.mp hx]; exact hcarries
  · refine replayList_pair hcarries rfl fun recordId mapFields g hid hmap hg hskip => ?_
    have hgf := touched_eq (hfamily k entry hk) (Bool.eq_false_iff.mpr hpromotes) hmap hg hskip
    subst hgf
    have htrim : trim k = k := by
      rcases hl.records g hf with hnone | ⟨m, hm, hm'⟩
      · rw [legacyRecords, hnone] at hk
        cases hk
      · rw [legacyRecords, hm, objectEntries_obj] at hk
        exact (hm' k entry hk).2
    exact ⟨hf, facts, k, entry, hfacts, hdelta, hk, recordEntryMatchesId_migration htrim hid⟩

/-! ### The whole replay -/

theorem get_into_of_mem {fields : List Field} {b : AuthoritativeFactBuilder} {f : Field}
    (hf : f ∈ fields) : (b.into fields).get f = b.get f := by
  rw [AuthoritativeFactBuilder.into, Facts.get_ofGet, if_pos hf]

theorem get_migrationRecordEntryFields {f : Field} (hf : f ∈ authoritativeFactFields) (k : String)
    (entry : Json) :
    (migrationRecordEntryFields f k entry).get f = some (singleRecordDelta k entry) := by
  rw [migrationRecordEntryFields, Facts.get_ofGet, if_pos hf, if_pos rfl]

theorem get_migrationMilestoneEntryFields {f : Field} (hf : f ∈ authoritativeFactFields)
    {bindings : List Field} (hb : f ∉ bindings) (current : Field) (k : String) (entry : Json)
    (id : Option String) :
    (migrationMilestoneEntryFields f current bindings legacy k entry id).get f =
      some (singleRecordDelta k entry) := by
  have hentry := get_migrationRecordEntryFields hf k entry
  rw [migrationMilestoneEntryFields]
  split_ifs
  · rw [copyPresentFields, Facts.get_ofGet, if_pos hf, if_neg hb]
    exact hentry
  · exact hentry

theorem carries_collect (fields slots : List Field) {e : ExecutionEvent}
    (h : e.facts = some ((collectAuthoritativeFields legacy fields).into slots).get) :
    Carries legacy e :=
  ⟨_, h, (replays_collect fields).into slots⟩

theorem replayList_if {c : Bool} {e : ExecutionEvent} (h : Carries legacy e) :
    ReplayList legacy (atZero (if c then [e] else [])) := by
  refine replayList_atZero fun e' he' => ?_
  split_ifs at he'
  · rw [List.mem_singleton.mp he']
    exact h
  · cases he'

theorem carries_of_mem_openStepReplay {e : ExecutionEvent} (he : e ∈ openStepReplay legacy) :
    Carries legacy e := by
  rw [openStepReplay] at he
  split_ifs at he
  all_goals first
    | (rw [List.mem_singleton.mp he]; exact carries_collect _ _ rfl)
    | cases he

theorem carries_of_mem_completedStepReplay {e : ExecutionEvent}
    (he : e ∈ completedStepReplay legacy) : Carries legacy e := by
  obtain ⟨s, _, rfl⟩ := List.mem_map.mp he
  refine ⟨_, rfl, fun f v h => ?_⟩
  rw [Facts.get_ofGet, ite_self] at h
  cases h

theorem facts_of_mem_dispatchReplay {e : ExecutionEvent} (he : e ∈ dispatchReplay legacy) :
    e.facts = some ((migrationDispatchStateFields legacy).into dispatchSlots).get := by
  rcases List.mem_append.mp he with he | he
  · rcases List.mem_append.mp he with he | he
    · obtain ⟨id, _, rfl⟩ := List.mem_map.mp he
      rfl
    · obtain ⟨id, _, rfl⟩ := List.mem_map.mp he
      rfl
  · rw [List.mem_singleton.mp he]
    rfl

theorem facts_repairReplay (legacy : StateObject) : (repairReplay legacy).facts =
    some ((migrationRepairStateFields legacy).into repairSlots).get := by
  rw [repairReplay]
  cases repairFollowUpRecordFromState legacy with
  | none => rfl
  | some record => rfl

theorem facts_strategyReplay (legacy : StateObject) : (strategyReplay legacy).facts =
    some ((migrationStrategyStateFields legacy).into strategySlots).get := by
  rw [strategyReplay]
  split_ifs
  · rfl
  · rfl

theorem carries_of_mem_tailReplay {e : ExecutionEvent} (he : e ∈ tailReplay legacy) :
    Carries legacy e := by
  rcases List.mem_append.mp he with he | he
  · rcases List.mem_append.mp he with he | he
    · exact carries_collect _ _ (facts_of_mem_dispatchReplay he)
    · rw [handoffReplay] at he
      split_ifs at he
      · rw [List.mem_singleton.mp he]
        exact carries_collect _ _ rfl
      · cases he
  · rcases List.mem_cons.mp he with rfl | he
    · exact carries_collect _ _ (facts_repairReplay legacy)
    · rw [List.mem_singleton.mp he]
      exact carries_collect _ _ (facts_strategyReplay legacy)

section

variable (hl : legacy.Migratable)
include hl

theorem replayList_currentTaskClosures :
    ReplayList legacy (collectHistoryReplayEvents legacy .currentTaskClosureRecords
      "task_closure_record" (some "current") (taskClosureReplay .currentTaskClosureRecords)) := by
  refine replayList_collect hl (by decide) (fun k entry hk => Or.inl ⟨rfl, rfl, ?_⟩)
    fun k entry hk => ⟨_, rfl, (replays_entry (by decide) hk).into _,
      (get_into_of_mem (by decide)).trans (get_migrationRecordEntryFields (by decide) k entry)⟩
  rw [recordStatusFromMigrationEntry]
  rcases hl.current k entry hk with h | h
  · rw [h, Option.none_or]
  · rw [h, Option.some_or]

theorem replayList_taskClosureHistory :
    ReplayList legacy (collectHistoryReplayEvents legacy .taskClosureRecordHistory
      "task_closure_record" none (taskClosureReplay .taskClosureRecordHistory)) :=
  replayList_collect hl (by decide) (fun k entry _ => Or.inr (Or.inl ⟨rfl, rfl⟩))
    fun k entry hk => ⟨_, rfl, (replays_entry (by decide) hk).into _,
      (get_into_of_mem (by decide)).trans (get_migrationRecordEntryFields (by decide) k entry)⟩

/-- The late-stage histories differ in their fields and bindings only. -/
theorem replayList_milestones {f current : Field} {bindings slots : List Field} {family : String}
    {makeEvent : String → Json → ExecutionEvent} {id : String → Json → Option String}
    (hf : f ∈ recordFields) (hfamily : recordStatusMapFields family = some [f])
    (hfact : f ∈ authoritativeFactFields) (hb : f ∉ bindings) (hs : f ∈ slots)
    (hmake : ∀ k entry, (makeEvent k entry).facts = some ((migrationMilestoneEntryFields f current
      bindings legacy k entry (id k entry)).into slots).get) :
    ReplayList legacy (collectHistoryReplayEvents legacy f family none makeEvent) :=
  replayList_collect hl hf (fun _ _ _ => Or.inr (Or.inr hfamily))
    fun k entry hk => ⟨_, hmake k entry, (replays_milestone hf hk current bindings _).into _,
      (get_into_of_mem hs).trans (get_migrationMilestoneEntryFields hfact hb current k entry _)⟩

/-- **The replay of a legacy state says what the state does, each record before the
transition of its status.** -/
theorem replayList_orderedReplay : ReplayList legacy (orderedReplay legacy) := by
  have hsteps : ReplayList legacy (atZero (openStepReplay legacy ++ completedStepReplay legacy)) :=
    replayList_atZero fun e he => (List.mem_append.mp he).elim carries_of_mem_openStepReplay
      carries_of_mem_completedStepReplay
  have hbranch : ReplayList legacy (collectHistoryReplayEvents legacy .branchClosureRecords
      "branch_closure_record" none (branchClosureReplay legacy)) :=
    replayList_milestones hl (by decide) (by decide) (by decide) (by decide)
      (by decide : _ ∈ branchClosureSlots) fun _ _ => rfl
  have hrelease : ReplayList legacy (collectHistoryReplayEvents legacy .releaseReadinessRecordHistory
      "release_readiness_record" none (releaseReadinessReplay legacy)) :=
    replayList_milestones hl (by decide) (by decide) (by decide) (by decide)
      (by decide : _ ∈ releaseReadinessSlots) fun _ _ => rfl
  have hreview : ReplayList legacy (collectHistoryReplayEvents legacy .finalReviewRecordHistory
      "final_review_record" none (finalReviewReplay legacy)) :=
    replayList_milestones hl (by decide) (by decide) (by decide) (by decide)
      (by decide : _ ∈ finalReviewSlots) fun _ _ => rfl
  have hqa : ReplayList legacy (collectHistoryReplayEvents legacy .browserQaRecordHistory
      "browser_qa_record" none (qaReplay legacy)) :=
    replayList_milestones hl (by decide) (by decide) (by decide) (by decide)
      (by decide : _ ∈ qaSlots) fun _ _ => rfl
  have hrecords : ReplayList legacy (recordReplay legacy) :=
    ((((((((((replayList_currentTaskClosures hl).append
      (replayList_taskClosureHistory hl)).append hbranch).append
      (replayList_if (carries_collect _ _ rfl))).append hrelease).append
      (replayList_if (carries_collect _ _ rfl))).append hreview).append
      (replayList_if (carries_collect _ _ rfl))).append hqa).append
      (replayList_if (carries_collect _ _ rfl))).append
      (replayList_atZero fun e => carries_of_mem_tailReplay)
  have hfirst : ReplayList legacy [(0, .preflightBootstrapRecorded
      ((migrationRunMetadataStateFields legacy).into _))] :=
    replayList_of_carries fun x hx => by
      rw [List.mem_singleton.mp hx]
      exact carries_collect _ _ rfl
  exact hfirst.append (hsteps.append hrecords)

end

/-! ### Which events there are -/

/-- The kinds that neither steps nor closures nor transitions have. -/
def plainKinds : List EventKind :=
  [.branchClosureRecorded, .releaseReadinessRecorded, .finalReviewRecorded, .qaRecorded,
   .dispatchRecorded, .repairFollowUpSet, .repairFollowUpCleared, .strategyCheckpointRecorded,
   .strategyCheckpointCleared]

/-- An event behind the steps. -/
structure RecordEvent (legacy : StateObject) (e : ExecutionEvent) : Prop where
  cases : e.kind ∈ plainKinds ∨
    (e.kind = .recordStatusTransition ∧ ∃ f ∈ recordFields, legacy f ≠ none) ∨
    (e.kind = .handoffRecorded ∧ handoffReplay legacy ≠ []) ∨
    ∃ f ∈ [Field.currentTaskClosureRecords, .taskClosureRecordHistory], ∃ k entry,
      (legacyRecords legacy f).get? k = some entry ∧ e = taskClosureReplay f k entry

theorem recordEvent_of_plain {e : ExecutionEvent} (k : EventKind) (he : e.kind = k)
    (hk : k ∈ plainKinds) : RecordEvent legacy e := ⟨Or.inl (by rw [he]; exact hk)⟩

theorem recordEvent_of_mem_collect {f : Field} {family : String} {defaultStatus : Option String}
    {makeEvent : String → Json → ExecutionEvent} (hf : f ∈ recordFields)
    (h : ∀ k entry, (legacyRecords legacy f).get? k = some entry →
      RecordEvent legacy (makeEvent k entry)) {x : Nat × ExecutionEvent}
    (hx : x ∈ collectHistoryReplayEvents legacy f family defaultStatus makeEvent) :
    RecordEvent legacy x.2 := by
  rw [collectHistoryReplayEvents] at hx
  obtain ⟨⟨k, entry⟩, he, hx⟩ := List.mem_flatMap.mp hx
  have hk := OrderedMap.mem_entries.mp he
  rcases List.mem_cons.mp hx with rfl | hx
  · exact h k entry hk
  · split_ifs at hx
    · cases hx
    · rw [List.mem_singleton.mp hx]
      refine ⟨Or.inr (Or.inl ⟨rfl, f, hf, fun hnone => ?_⟩)⟩
      rw [hnone] at hk
      cases hk

theorem recordEvent_of_mem_if {c : Bool} {e : ExecutionEvent} (h : RecordEvent legacy e)
    {x : Nat × ExecutionEvent} (hx : x ∈ atZero (if c then [e] else [])) :
    RecordEvent legacy x.2 := by
  obtain ⟨e', he', rfl⟩ := List.mem_map.mp hx
  split_ifs at he'
  · rw [List.mem_singleton.mp he']
    exact h
  · cases he'

theorem recordEvent_of_mem_tailReplay {e : ExecutionEvent} (he : e ∈ tailReplay legacy) :
    RecordEvent legacy e := by
  rcases List.mem_append.mp he with he | he
  · rcases List.mem_append.mp he with he | he
    · have hkind : e.kind = .dispatchRecorded := by
        rcases List.mem_append.mp he with he | he
        · rcases List.mem_append.mp he with he | he
          · obtain ⟨id, _, rfl⟩ := List.mem_map.mp he
            rfl
          · obtain ⟨id, _, rfl⟩ := List.mem_map.mp he
            rfl
        · rw [List.mem_singleton.mp he]
          rfl
      exact recordEvent_of_plain _ hkind (by decide)
    · have hne : handoffReplay legacy ≠ [] := List.ne_nil_of_mem he
      rw [handoffReplay] at he
      split_ifs at he
      · rw [List.mem_singleton.mp he]
        exact ⟨Or.inr (Or.inr (Or.inl ⟨rfl, hne⟩))⟩
      · cases he
  · rcases List.mem_cons.mp he with rfl | he
    · rw [repairReplay]
      cases repairFollowUpRecordFromState legacy with
      | none => exact recordEvent_of_plain .repairFollowUpCleared rfl (by decide)
      | some record => exact recordEvent_of_plain .repairFollowUpSet rfl (by decide)
    · rw [List.mem_singleton.mp he, strategyReplay]
      split_ifs
      · exact recordEvent_of_plain .strategyCheckpointRecorded rfl (by decide)
      · exact recordEvent_of_plain .strategyCheckpointCleared rfl (by decide)

theorem recordEvent_of_mem {x : Nat × ExecutionEvent} (hx : x ∈ recordReplay legacy) :
    RecordEvent legacy x.2 := by
  simp only [recordReplay, List.mem_append, or_assoc] at hx
  rcases hx with hx | hx | hx | hx | hx | hx | hx | hx | hx | hx | hx
  · exact recordEvent_of_mem_collect (by decide) (fun k entry hk =>
      ⟨Or.inr (Or.inr (Or.inr ⟨_, by decide, k, entry, hk, rfl⟩))⟩) hx
  · exact recordEvent_of_mem_collect (by decide) (fun k entry hk =>
      ⟨Or.inr (Or.inr (Or.inr ⟨_, by decide, k, entry, hk, rfl⟩))⟩) hx
  · exact recordEvent_of_mem_collect (by decide)
      (fun _ _ _ => recordEvent_of_plain .branchClosureRecorded rfl (by decide)) hx
  · exact recordEvent_of_mem_if (recordEvent_of_plain .branchClosureRecorded rfl (by decide)) hx
  · exact recordEvent_of_mem_collect (by decide)
      (fun _ _ _ => recordEvent_of_plain .releaseReadinessRecorded rfl (by decide)) hx
  · exact recordEvent_of_mem_if (recordEvent_of_plain .releaseReadinessRecorded rfl (by decide)) hx
  · exact recordEvent_of_mem_collect (by decide)
      (fun _ _ _ => recordEvent_of_plain .finalReviewRecorded rfl (by decide)) hx
  · exact recordEvent_of_mem_if (recordEvent_of_plain .finalReviewRecorded rfl (by decide)) hx
  · exact recordEvent_of_mem_collect (by decide)
      (fun _ _ _ => recordEvent_of_plain .qaRecorded rfl (by decide)) hx
  · exact recordEvent_of_mem_if (recordEvent_of_plain .qaRecorded rfl (by decide)) hx
  · obtain ⟨e, he, rfl⟩ := List.mem_map.mp hx
    exact recordEvent_of_mem_tailReplay he

/-- A replayed event: the metadata, a step, or one behind the steps. -/
theorem mem_orderedReplay {x : Nat × ExecutionEvent} : x ∈ orderedReplay legacy ↔
    x = (0, .preflightBootstrapRecorded ((migrationRunMetadataStateFields legacy).into _)) ∨
      (x.1 = 0 ∧ x.2 ∈ openStepReplay legacy ++ completedStepReplay legacy) ∨
      x ∈ recordReplay legacy := by
  rw [orderedReplay, List.mem_cons, List.mem_append, atZero, List.mem_map]
  refine or_congr_right (or_congr_left ⟨?_, ?_⟩)
  · rintro ⟨e, he, rfl⟩
    exact ⟨rfl, he⟩
  · rintro ⟨hx, he⟩
    exact ⟨x.2, he, Prod.ext hx.symm rfl⟩

end

end FeatureForge
