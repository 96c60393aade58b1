import FeatureForge.EventLog.Rebuilt
import FeatureForge.EventLog.Runs

/-!
# Migration parity

Every field of the projection is replayed by one of four events that every replay has
(`carried`), and so the replay, reduced, has the projection of the legacy state
(`parity_of_migratable`).

A migration may be refused all the same.  `migration_parity_iff` says when: where the
replay carries nothing, so that there is no reduced state, and where a current closure
does not name its id, so that the check for omitted closures, which then goes by the
key of the record, finds no event for it.
-/

namespace FeatureForge

/-! ### What every replay carries -/

/-- The fields of the four events that are always made. -/
def replayedFields : List Field :=
  runMetadataFields.filter (· ∈ runMetadataSlots) ++
    migrationDispatchFields.filter (· ∈ dispatchSlots) ++
    migrationRepairFields.filter (· ∈ repairSlots) ++
    strategyEventFields.filter (· ∈ strategySlots)

section

variable {legacy : StateObject}

theorem get_collect_into {fields slots : List Field} {f : Field}
    (hf : f ∈ fields.filter (· ∈ slots))
    (hfact : f ∈ authoritativeFactFields ∧ f ∈ authoritativeEventFields) :
    ((collectAuthoritativeFields legacy fields).into slots).get f = legacy f := by
  obtain ⟨hfield, hslot⟩ := List.mem_filter.mp hf
  rw [get_into_of_mem (of_decide_eq_true hslot), collectAuthoritativeFields,
    AuthoritativeFactBuilder.collect, Facts.get_ofGet, if_pos hfact.1, if_pos ⟨hfield, hfact.2⟩]

/-- **A replay carries the legacy value of each of these fields.** -/
theorem carried {f : Field} (hf : f ∈ replayedFields) :
    ∃ e ∈ migrationReplayEventsFromLegacyState legacy, ∃ facts, e.facts = some facts ∧
      facts f = legacy f := by
  have hfact : f ∈ authoritativeFactFields ∧ f ∈ authoritativeEventFields := by
    have h : ∀ f ∈ replayedFields, f ∈ authoritativeFactFields ∧ f ∈ authoritativeEventFields := by
      decide +kernel
    exact h f hf
  have htail : ∀ e ∈ tailReplay legacy, e ∈ migrationReplayEventsFromLegacyState legacy :=
    fun e he => mem_replayEvents.mpr ⟨0, mem_orderedReplay.mpr
      (Or.inr (Or.inr (List.mem_append_right _ (List.mem_map.mpr ⟨e, he, rfl⟩))))⟩
  simp only [replayedFields, List.mem_append, or_assoc] at hf
  rcases hf with hf | hf | hf | hf
  · exact ⟨_, mem_replayEvents.mpr ⟨0, mem_orderedReplay.mpr (Or.inl rfl)⟩, _, rfl,
      get_collect_into hf hfact⟩
  · have hmem : ExecutionEvent.dispatchRecorded none none
        ((migrationDispatchStateFields legacy).into dispatchSlots) ∈ dispatchReplay legacy := by
      simp [dispatchReplay]
    exact ⟨_, htail _ (List.mem_append_left _ (List.mem_append_left _ hmem)), _, rfl,
      get_collect_into hf hfact⟩
  · exact ⟨_, htail _ (List.mem_append_right _ List.mem_cons_self), _,
      facts_repairReplay legacy, get_collect_into hf hfact⟩
  · exact ⟨_, htail _ (List.mem_append_right _ (List.mem_cons_of_mem _ List.mem_cons_self)), _,
      facts_strategyReplay legacy, get_collect_into hf hfact⟩

/-! ### The projection -/

theorem migrationParityValue_of_ne {s : StateObject} {f : Field} (hf : f ≠ .eventCompletedSteps) :
    migrationParityValue s f = (effective s f).getD (migrationProjectionDefaultValue f) := by
  rw [migrationParityValue, if_neg hf]
  rfl

theorem effective_effective (legacy : StateObject) (f : Field) :
    (effective legacy f).filter (fun v => !v.isNull) = effective legacy f := by
  rw [effective, Option.filter_filter]
  simp only [Bool.and_self]

/-- A field of records has the projection of its records. -/
theorem migrationParityValue_records {s : StateObject} {f : Field} (hf : f ∈ recordFields)
    (h : s f = none ∨ ∃ m, s f = some (.obj m)) :
    migrationParityValue s f = .obj (objectEntries (s f)) := by
  have hdefault : ∀ f ∈ recordFields, f ≠ .eventCompletedSteps ∧
      migrationProjectionDefaultValue f = .obj .empty := by
    decide
  obtain ⟨hne, hdefault⟩ := hdefault f hf
  rw [migrationParityValue_of_ne hne, hdefault]
  rcases h with h | ⟨m, h⟩
  · rw [effective, h]
    rfl
  · rw [effective_of_ne h (Json.isNull_obj m), h, objectEntries_obj]
    rfl

/-- **A replay loses nothing of the projection and adds nothing to it.** -/
theorem parity_of_migratable (hl : legacy.Migratable) :
    migrationParityProjection (replayState (migrationReplayEventsFromLegacyState legacy)) =
      migrationParityProjection legacy := by
  have hrebuilt := rebuilt_replay hl (List.append_nil _).symm
  have hkeys : ∀ f ∈ migrationParityKeys, f ∈ replayedFields ∨ f = .eventCompletedSteps := by
    decide
  refine List.map_congr_left fun f hf => ?_
  rw [Prod.mk.injEq]
  refine ⟨rfl, ?_⟩
  by_cases hne : f = .eventCompletedSteps
  · subst hne
    have hentered := entered_replay hl (List.append_nil _).symm
    exact migrationParityValue_of_namedSteps
      (hentered.namedSteps fun p hp => observed_completed hp)
  · obtain ⟨e, he, facts, hfacts, hvalue⟩ := @carried legacy f ((hkeys f hf).resolve_right hne)
    by_cases hrec : f ∈ recordFields
    · -- the records are those of the legacy state, as each side is a part of the other
      rcases hl.records f hrec with hnone | ⟨m, hm, _⟩
      · rw [migrationParityValue_records hrec (hrebuilt.shape f hrec),
          migrationParityValue_records hrec (Or.inl hnone)]
        have hsub := hrebuilt.sub f hrec
        rw [legacyRecords, hnone] at hsub
        rw [hnone, hsub.antisymm (OrderedMap.sub_empty _)]
      · rw [migrationParityValue_records hrec (hrebuilt.shape f hrec),
          migrationParityValue_records hrec (Or.inr ⟨m, hm⟩)]
        have hhas := hrebuilt.has f hrec e he facts m hfacts (hvalue.trans hm)
        have hsub := hrebuilt.sub f hrec
        rw [legacyRecords, hm, objectEntries_obj] at hsub
        rw [hm, objectEntries_obj, hsub.antisymm hhas]
    · rw [migrationParityValue_of_ne hne, migrationParityValue_of_ne hne]
      have hsame : effective (replayState (migrationReplayEventsFromLegacyState legacy)) f =
          effective legacy f := by
        cases hleg : legacy f with
        | none =>
          have hnone : effective legacy f = none := by rw [effective, hleg, Option.filter_none]
          rw [effective, (hrebuilt.part f hrec hne).elim id (·.trans hnone), hnone,
            Option.filter_none]
        | some v =>
          have hsome : (facts f).isSome := by rw [hvalue, hleg]; rfl
          rw [effective, hrebuilt.whole f hrec hne e he facts hfacts hsome, effective_effective]
      rw [hsame]

/-! ### Which events apply -/

/-- Whether an event applies, which no state decides. -/
def applies (e : ExecutionEvent) : Bool := (applyTypedEventToState emptyState e).2

theorem applyTyped_applied (s : StateObject) (e : ExecutionEvent) :
    (applyTypedEventToState s e).2 = applies e := by
  cases e with
  | recordStatusTransition family id status sequence =>
    show (applyRecordStatusTransition s family id status sequence).2 =
      (applyRecordStatusTransition emptyState family id status sequence).2
    unfold applyRecordStatusTransition
    cases nonBlank id with
    | none => rfl
    | some recordId =>
      cases recordStatusMapFields family with
      | none => rfl
      | some mapFields => rfl
  | complete task step facts =>
    cases task with
    | none => rfl
    | some task =>
      cases step with
      | none => rfl
      | some step => rfl
  | reopen task step facts =>
    cases task with
    | none => rfl
    | some task =>
      cases step with
      | none => rfl
      | some step => rfl
  | _ => rfl

theorem reduceFrom_applied : ∀ (es : List ExecutionEvent) (target : StateObject × Bool),
    (reduceFrom target es).2 = (target.2 || es.any applies) := by
  intro es
  induction es with
  | nil => intro target; exact (Bool.or_false _).symm
  | cons e es ih =>
    intro target
    rw [reduceFrom_cons, ih, applyTyped_applied, List.any_cons, Bool.or_assoc]

theorem factsPresent_iff {e : ExecutionEvent} {facts : Field → Option Json}
    (h : e.facts = some facts) : factsPresent e facts = true ↔ ∃ f, facts f ≠ none := by
  constructor
  · intro hp
    obtain ⟨f, _, hf⟩ := List.any_eq_true.mp hp
    exact ⟨f, Option.isSome_iff_ne_none.mp hf⟩
  · rintro ⟨f, hf⟩
    by_contra hp
    exact hf (facts_eq_none_of_not_present h (Bool.eq_false_iff.mpr hp) f)

theorem applies_of_fact {e : ExecutionEvent} {facts : Field → Option Json}
    (h : e.facts = some facts) {f : Field} (hf : facts f ≠ none) : applies e = true := by
  have hp : factsPresent e facts = true := (factsPresent_iff h).mpr ⟨f, hf⟩
  cases e with
  | recordStatusTransition family id status sequence => cases h
  | migrationImported path => cases h
  | complete task step stepFacts =>
    cases h
    exact Bool.or_eq_true_iff.mpr (Or.inr hp)
  | reopen task step stepFacts =>
    cases h
    exact Bool.or_eq_true_iff.mpr (Or.inr hp)
  | _ =>
    cases h
    exact hp

/-- An event that enters no step applies by one of its facts. -/
theorem fact_of_applies {e : ExecutionEvent} {facts : Field → Option Json}
    (h : e.facts = some facts) (hc : e.kind ≠ .complete) (hr : e.kind ≠ .reopen)
    (ha : applies e = true) : ∃ f v, facts f = some v := by
  have hp : factsPresent e facts = true := by
    cases e with
    | recordStatusTransition family id status sequence => cases h
    | migrationImported path => cases h
    | complete task step stepFacts => exact absurd rfl hc
    | reopen task step stepFacts => exact absurd rfl hr
    | _ =>
      cases h
      exact ha
  obtain ⟨f, hf⟩ := (factsPresent_iff h).mp hp
  exact ⟨f, Option.ne_none_iff_exists'.mp hf⟩

/-- Something of the state is replayed: a field that every replay carries, the path or the
fingerprint of a handoff, or a completed step. -/
def StateObject.Stored (legacy : StateObject) : Prop :=
  (∃ f ∈ replayedFields, legacy f ≠ none) ∨ (jsonString (legacy .lastHandoffPath)).isSome ∨
    (jsonString (legacy .lastHandoffFingerprint)).isSome ∨ legacyCompletedStepEvents legacy ≠ []

theorem stored_of_replays {facts : Field → Option Json} (hr : Replays legacy facts) {f : Field}
    {v : Json} (hf : f ∈ replayedFields) (h : facts f = some v) : legacy.Stored := by
  refine Or.inl ⟨f, hf, fun hnone => ?_⟩
  rcases hr f v h with hv | ⟨_, k, entry, hk, _⟩
  · rw [hnone] at hv
    cases hv
  · rw [legacyRecords, hnone] at hk
    cases hk

theorem stored_of_handoff (h : handoffReplay legacy ≠ []) : legacy.Stored := by
  rw [handoffReplay] at h
  split_ifs at h with hhandoff
  · rw [Bool.or_eq_true_iff, Bool.or_eq_true_iff] at hhandoff
    rcases hhandoff with (hpath | hfingerprint) | hrequired
    · exact Or.inr (Or.inl hpath)
    · exact Or.inr (Or.inr (Or.inl hfingerprint))
    · exact Or.inl ⟨.handoffRequired, by decide, Option.isSome_iff_ne_none.mp hrequired⟩
  · exact absurd rfl h

/-- A replayed event that applies comes from something stored. -/
theorem stored_of_applies (hl : legacy.Migratable) {e : ExecutionEvent}
    (he : e ∈ migrationReplayEventsFromLegacyState legacy) (ha : applies e = true) :
    legacy.Stored := by
  obtain ⟨n, hn⟩ := mem_replayEvents.mp he
  have hreplays := (replayList_orderedReplay hl).replays _ hn
  have hslots : ∀ k ∈ EventKind.preflightBootstrapRecorded :: .taskClosureRecorded :: plainKinds,
      ∀ f ∈ ExecutionEvent.slots k, f ∈ replayedFields := by decide
  have hplain : ∀ {facts}, e.facts = some facts →
      e.kind ∈ EventKind.preflightBootstrapRecorded :: .taskClosureRecorded :: plainKinds →
      legacy.Stored := by
    intro facts hfacts hk
    have hstep : e.kind ≠ .complete ∧ e.kind ≠ .reopen := by
      have h : ∀ k ∈ EventKind.preflightBootstrapRecorded :: .taskClosureRecorded :: plainKinds,
          k ≠ .complete ∧ k ≠ .reopen := by decide
      exact h _ hk
    obtain ⟨f, v, hf⟩ := fact_of_applies hfacts hstep.1 hstep.2 ha
    exact stored_of_replays (hreplays facts hfacts)
      (hslots _ hk f (ExecutionEvent.get_of_facts hfacts hf)) hf
  rcases mem_orderedReplay.mp hn with hfirst | ⟨_, hstep⟩ | hrecord
  · cases hfirst
    exact hplain rfl List.mem_cons_self
  · rcases List.mem_append.mp hstep with hopen | hcompleted
    · refine Or.inl ⟨.currentOpenStepState, by decide, fun hnone => ?_⟩
      rw [openStepReplay, hnone] at hopen
      cases hopen
    · obtain ⟨p, hp, _⟩ := List.mem_map.mp hcompleted
      exact Or.inr (Or.inr (Or.inr (List.ne_nil_of_mem (List.mem_of_mem_filter hp))))
  · rcases (recordEvent_of_mem hrecord).cases with hk | ⟨_, f, hf, hstored⟩ | ⟨_, hhandoff⟩ |
      ⟨f, _, k, entry, _, rfl⟩
    · cases hfacts : e.facts with
      | some facts =>
        exact hplain hfacts (List.mem_cons_of_mem _ (List.mem_cons_of_mem _ hk))
      | none =>
        have hcarries : ∀ k ∈ plainKinds, k ≠ .recordStatusTransition ∧ k ≠ .migrationImported := by
          decide
        cases e with
        | recordStatusTransition family id status sequence => exact absurd rfl (hcarries _ hk).1
        | migrationImported path => exact absurd rfl (hcarries _ hk).2
        | _ => cases hfacts
    · have hrecords : ∀ f ∈ recordFields, f ∈ replayedFields := by decide
      exact Or.inl ⟨f, hrecords f hf, hstored⟩
    · exact stored_of_handoff hhandoff
    · exact hplain rfl (List.mem_cons_of_mem _ List.mem_cons_self)

theorem applies_of_stored (hl : legacy.Migratable) (h : legacy.Stored) :
    ∃ e ∈ migrationReplayEventsFromLegacyState legacy, applies e = true := by
  -- a handoff that is replayed carries its path and its fingerprint
  have hhandoff : ∀ f, f = .lastHandoffPath ∨ f = .lastHandoffFingerprint →
      (jsonString (legacy f)).isSome →
      ∃ e ∈ migrationReplayEventsFromLegacyState legacy, applies e = true := by
    intro f hf hsome
    have hmade : handoffReplay legacy =
        [.handoffRecorded ((migrationHandoffStateFields legacy).into _)] := by
      rw [handoffReplay, if_pos]
      rcases hf with rfl | rfl
      · rw [hsome, Bool.true_or, Bool.true_or]
      · rw [hsome, Bool.or_true, Bool.true_or]
    have hmem : ExecutionEvent.handoffRecorded ((migrationHandoffStateFields legacy).into _) ∈
        tailReplay legacy :=
      List.mem_append_left _ (List.mem_append_right _ (hmade ▸ List.mem_singleton_self _))
    have hfields : f ∈ handoffFields.filter (· ∈ handoffSlots) ∧
        f ∈ authoritativeFactFields ∧ f ∈ authoritativeEventFields := by
      rcases hf with rfl | rfl
      · decide
      · decide
    refine ⟨_, mem_replayEvents.mpr ⟨0, mem_orderedReplay.mpr (Or.inr (Or.inr
      (List.mem_append_right _ (List.mem_map.mpr ⟨_, hmem, rfl⟩))))⟩,
      @applies_of_fact _ _ rfl f ?_⟩
    intro hnone
    have hvalue := @get_collect_into legacy _ _ f hfields.1 hfields.2
    rw [hvalue.symm.trans hnone] at hsome
    cases hsome
  rcases h with ⟨f, hf, hstored⟩ | hpath | hfingerprint | hsteps
  · obtain ⟨e, he, facts, hfacts, hvalue⟩ := @carried legacy f hf
    exact ⟨e, he, applies_of_fact hfacts (hvalue ▸ hstored)⟩
  · exact hhandoff _ (Or.inl rfl) hpath
  · exact hhandoff _ (Or.inr rfl) hfingerprint
  · obtain ⟨p, hp⟩ := List.exists_mem_of_ne_nil _ hsteps
    obtain ⟨e, he, hep⟩ := List.mem_map.mp (observed_completed hp)
    refine ⟨e, he, ?_⟩
    cases e with
    | complete task step facts =>
      obtain ⟨rfl, rfl⟩ := observed_complete hep
      rfl
    | _ => cases hep

/-! ### Coverage -/

theorem transition_of_expected {state : StateObject} {f : Field} {family : String}
    {defaultStatus : Option String} (makeEvent : String → Json → ExecutionEvent)
    {x : RecordStatusTransitionExpectation}
    (h : x ∈ collectExpectedRecordStatusTransitions state f family defaultStatus) :
    ∃ n e, (n, e) ∈ collectHistoryReplayEvents state f family defaultStatus makeEvent ∧
      observedRecordStatusTransition e = some x := by
  rw [collectExpectedRecordStatusTransitions] at h
  obtain ⟨⟨k, entry⟩, he, hx⟩ := List.mem_flatMap.mp h
  dsimp only at hx
  split_ifs at hx with hpromotes
  · cases hx
  · have hmem : (recordSequenceOf entry, ExecutionEvent.recordStatusTransition family
        (recordIdFromMigrationEntry k entry) (recordStatusFromMigrationEntry entry defaultStatus)
        (some (UInt64.ofNat (recordSequenceOf entry)))) ∈
        collectHistoryReplayEvents state f family defaultStatus makeEvent := by
      refine List.mem_flatMap.mpr ⟨(k, entry), he, ?_⟩
      dsimp only
      rw [if_neg hpromotes]
      exact List.mem_cons_of_mem _ List.mem_cons_self
    exact ⟨_, _, hmem, congrArg some (List.mem_singleton.mp hx).symm⟩

/-- **No status transition is left out.** -/
theorem transitions_covered (legacy : StateObject) :
    expectedRecordStatusTransitionsFromLegacy legacy ⊆
      (migrationReplayEventsFromLegacyState legacy).filterMap observedRecordStatusTransition := by
  intro x hx
  have hreplay : ∃ n e, (n, e) ∈ recordReplay legacy ∧
      observedRecordStatusTransition e = some x := by
    simp only [expectedRecordStatusTransitionsFromLegacy, List.mem_append, or_assoc] at hx
    simp only [recordReplay, List.mem_append, or_assoc]
    rcases hx with hx | hx | hx | hx | hx | hx
    · obtain ⟨n, e, he, ho⟩ := transition_of_expected (taskClosureReplay .currentTaskClosureRecords) hx
      exact ⟨n, e, Or.inl he, ho⟩
    · obtain ⟨n, e, he, ho⟩ := transition_of_expected (taskClosureReplay .taskClosureRecordHistory) hx
      exact ⟨n, e, Or.inr (Or.inl he), ho⟩
    · obtain ⟨n, e, he, ho⟩ := transition_of_expected (branchClosureReplay legacy) hx
      exact ⟨n, e, by simp only [he, true_or, or_true], ho⟩
    · obtain ⟨n, e, he, ho⟩ := transition_of_expected (releaseReadinessReplay legacy) hx
      exact ⟨n, e, by simp only [he, true_or, or_true], ho⟩
    · obtain ⟨n, e, he, ho⟩ := transition_of_expected (finalReviewReplay legacy) hx
      exact ⟨n, e, by simp only [he, true_or, or_true], ho⟩
    · obtain ⟨n, e, he, ho⟩ := transition_of_expected (qaReplay legacy) hx
      exact ⟨n, e, by simp only [he, true_or, or_true], ho⟩
  obtain ⟨n, e, he, hobserved⟩ := hreplay
  exact List.mem_filterMap.mpr
    ⟨e, mem_replayEvents.mpr ⟨n, mem_orderedReplay.mpr (Or.inr (Or.inr he))⟩, hobserved⟩

theorem kind_of_mem_steps {e : ExecutionEvent}
    (h : e ∈ openStepReplay legacy ++ completedStepReplay legacy) :
    e.kind ∈ [EventKind.begin, .note, .complete, .reopen] := by
  rcases List.mem_append.mp h with h | h
  · simp only [openStepReplay] at h
    by_cases hopen : (jsonU32 (jsonMember (legacy .currentOpenStepState) "task")).isSome ||
        (jsonU32 (jsonMember (legacy .currentOpenStepState) "step")).isSome
    · rw [if_pos hopen, List.mem_singleton] at h
      subst h
      split_ifs
      · show EventKind.begin ∈ _
        decide
      · show EventKind.complete ∈ _
        decide
      · show EventKind.reopen ∈ _
        decide
      · show EventKind.note ∈ _
        decide
    · rw [if_neg hopen] at h
      cases h
  · obtain ⟨p, _, rfl⟩ := List.mem_map.mp h
    exact List.mem_cons_of_mem _ (List.mem_cons_of_mem _ List.mem_cons_self)

/-- The closures that are replayed are those of the two maps. -/
theorem observed_closures {x : TaskClosureReplayExpectation} :
    x ∈ (migrationReplayEventsFromLegacyState legacy).filterMap observedTaskClosureReplay ↔
      ∃ f ∈ [Field.currentTaskClosureRecords, .taskClosureRecordHistory], ∃ k entry,
        (legacyRecords legacy f).get? k = some entry ∧
        x = { task := jsonU32 (entry.get? "task"), closureRecordId := closureIdOfEntry entry } := by
  rw [List.mem_filterMap]
  constructor
  · rintro ⟨e, he, hx⟩
    obtain ⟨n, hn⟩ := mem_replayEvents.mp he
    have hkind : e.kind = .taskClosureRecorded := by
      cases e with
      | taskClosureRecorded task id facts => rfl
      | _ => cases hx
    rcases mem_orderedReplay.mp hn with hfirst | ⟨_, hstep⟩ | hrecord
    · cases hfirst
      cases hx
    · have hk := kind_of_mem_steps hstep
      rw [hkind] at hk
      exact absurd hk (by decide)
    · rcases (recordEvent_of_mem hrecord).cases with hk | ⟨hk, _⟩ | ⟨hk, _⟩ |
        ⟨f, hf, k, entry, hk, rfl⟩
      · rw [hkind] at hk
        exact absurd hk (by decide)
      · rw [hkind] at hk
        cases hk
      · rw [hkind] at hk
        cases hk
      · exact ⟨f, hf, k, entry, hk, (Option.some.inj hx).symm⟩
  · rintro ⟨f, hf, k, entry, hk, rfl⟩
    have hmem : (recordSequenceOf entry, taskClosureReplay f k entry) ∈ recordReplay legacy := by
      simp only [recordReplay, List.mem_append, or_assoc]
      have hentry := OrderedMap.mem_entries.mpr hk
      rcases List.mem_cons.mp hf with rfl | hf
      · exact Or.inl (List.mem_flatMap.mpr ⟨(k, entry), hentry, List.mem_cons_self⟩)
      · rw [List.mem_singleton.mp hf] at hentry ⊢
        exact Or.inr (Or.inl (List.mem_flatMap.mpr ⟨(k, entry), hentry, List.mem_cons_self⟩))
    exact ⟨_, mem_replayEvents.mpr ⟨_, mem_orderedReplay.mpr (Or.inr (Or.inr hmem))⟩, rfl⟩

/-- Every current closure names its id, unless its key is blank, or another closure of the
task names the key. -/
def StateObject.Named (legacy : StateObject) : Prop :=
  ∀ k entry, (legacyRecords legacy .currentTaskClosureRecords).get? k = some entry →
    (closureIdOfEntry entry).isSome ∨ nonBlank (some k) = none ∨
      ∃ f ∈ [Field.currentTaskClosureRecords, .taskClosureRecordHistory], ∃ k' entry',
        (legacyRecords legacy f).get? k' = some entry' ∧
        jsonU32 (entry'.get? "task") = jsonU32 (entry.get? "task") ∧
        closureIdOfEntry entry' = nonBlank (some k)

/-- **A current closure is left out where it does not name its id.** -/
theorem closures_covered_iff (legacy : StateObject) :
    expectedCurrentTaskClosureReplay legacy ⊆
      (migrationReplayEventsFromLegacyState legacy).filterMap observedTaskClosureReplay ↔
        legacy.Named := by
  constructor
  · intro h k entry hk
    obtain ⟨f, hf, k', entry', hk', heq⟩ := observed_closures.mp
      (h (List.mem_map.mpr ⟨(k, entry), OrderedMap.mem_entries.mpr hk, rfl⟩))
    rw [TaskClosureReplayExpectation.mk.injEq] at heq
    obtain ⟨htask, hid⟩ := heq
    cases hown : closureIdOfEntry entry with
    | some id => exact Or.inl rfl
    | none =>
      rw [hown, Option.none_or] at hid
      exact Or.inr (Or.inr ⟨f, hf, k', entry', hk', htask.symm, hid.symm⟩)
  · intro h x hx
    obtain ⟨⟨k, entry⟩, hentry, rfl⟩ := List.mem_map.mp hx
    have hk := OrderedMap.mem_entries.mp hentry
    rw [observed_closures]
    dsimp only
    cases hown : closureIdOfEntry entry with
    | some id =>
      exact ⟨_, List.mem_cons_self, k, entry, hk, by rw [hown, Option.some_or]⟩
    | none =>
      rcases h k entry hk with hsome | hblank | ⟨f, hf, k', entry', hk', htask, hid⟩
      · rw [hown] at hsome
        cases hsome
      · exact ⟨_, List.mem_cons_self, k, entry, hk, by rw [hown, hblank, Option.or_none]⟩
      · exact ⟨f, hf, k', entry', hk', by rw [htask, hid, Option.none_or]⟩

/-- **The coverage check** accepts the events of the replay where each current closure can be
found by its id. -/
theorem coverage_iff (legacy : StateObject) :
    validateMigrationReplayCoverage legacy (migrationReplayEventsFromLegacyState legacy) = .ok () ↔
      legacy.Named := by
  have hsteps : legacyCompletedStepEvents legacy ⊆
      (migrationReplayEventsFromLegacyState legacy).filterMap observedCompletedStepReplay := by
    intro p hp
    obtain ⟨e, he, hep⟩ := List.mem_map.mp (observed_completed hp)
    exact List.mem_filterMap.mpr ⟨e, he, hep⟩
  rw [validateMigrationReplayCoverage, if_neg (not_not_intro (transitions_covered legacy)),
    ← closures_covered_iff]
  by_cases hclosures : expectedCurrentTaskClosureReplay legacy ⊆
      (migrationReplayEventsFromLegacyState legacy).filterMap observedTaskClosureReplay
  · rw [if_neg (not_not_intro hclosures), if_neg (not_not_intro hsteps)]
    exact iff_of_true rfl hclosures
  · rw [if_pos hclosures]
    exact iff_of_false (fun h => by cases h) hclosures

/-! ### When a migration succeeds -/

/-- The staged log reduces to a state with the projection of the legacy state, and the
migration publishes it. -/
structure MigratesWithParity (sha : Sha256Hex) (i : MigrationInput) (legacy : StateObject) :
    Prop where
  parity : ∃ s, reduceEventsToState (stagedMigration sha i legacy) = some s ∧
    migrationParityProjection s = migrationParityProjection legacy
  published : migrateLegacyState sha i legacy = .ok (stagedMigration sha i legacy)

theorem reduce_stagedMigration (sha : Sha256Hex) (i : MigrationInput) (hl : legacy.Migratable)
    (hstored : legacy.Stored) : reduceEventsToState (stagedMigration sha i legacy) =
      some (replayState (migrationReplayEventsFromLegacyState legacy)) := by
  obtain ⟨e, he, ha⟩ := applies_of_stored hl hstored
  have happlied : (reduceFrom (emptyState, false)
      (migrationReplayEventsFromLegacyState legacy)).2 = true := by
    rw [reduceFrom_applied, Bool.false_or]
    exact List.any_eq_true.mpr ⟨e, he, ha⟩
  rw [reduceEventsToState_stagedMigration]
  exact if_pos happlied

theorem stored_of_reduce {sha : Sha256Hex} {i : MigrationInput} (hl : legacy.Migratable)
    {s : StateObject} (h : reduceEventsToState (stagedMigration sha i legacy) = some s) :
    legacy.Stored := by
  rw [reduceEventsToState_stagedMigration] at h
  have happlied : (reduceFrom (emptyState, false)
      (migrationReplayEventsFromLegacyState legacy)).2 = true := by
    by_contra hnot
    exact absurd (h.symm.trans (if_neg hnot)) (Option.some_ne_none s)
  rw [reduceFrom_applied, Bool.false_or] at happlied
  obtain ⟨e, he, ha⟩ := List.any_eq_true.mp happlied
  exact stored_of_applies hl he ha

theorem coverage_stagedMigration (sha : Sha256Hex) (i : MigrationInput) :
    validateMigrationReplayCoverage legacy ((stagedMigration sha i legacy).map (·.payload)) =
      .ok () ↔ legacy.Named := by
  rw [stagedMigration_payloads, ← coverage_iff legacy]
  rfl

/-- Where the projections agree, a migration fails at the coverage check or not at all. -/
theorem published_iff {sha : Sha256Hex} {i : MigrationInput} (hl : legacy.Migratable)
    {s : StateObject} (hs : reduceEventsToState (stagedMigration sha i legacy) = some s)
    (hparity : migrationParityProjection s = migrationParityProjection legacy) :
    migrateLegacyState sha i legacy = .ok (stagedMigration sha i legacy) ↔ legacy.Named := by
  have hcheck : validateMigrationParity legacy (stagedMigration sha i legacy) =
      validateMigrationReplayCoverage legacy
        ((stagedMigration sha i legacy).map (·.payload)) := by
    rw [validateMigrationParity, hs]
    exact if_neg (not_not_intro hparity.symm)
  rw [migrateLegacyState_eq_ok, hcheck, coverage_stagedMigration sha i]

end

/-- **A migration succeeds with parity just where something is stored and every current
closure can be found by its id.** -/
theorem migration_parity_iff (sha : Sha256Hex) (i : MigrationInput) {legacy : StateObject}
    (hl : legacy.Migratable) :
    MigratesWithParity sha i legacy ↔ legacy.Stored ∧ legacy.Named := by
  constructor
  · rintro ⟨⟨s, hs, hparity⟩, hpublished⟩
    exact ⟨stored_of_reduce hl hs, (published_iff hl hs hparity).mp hpublished⟩
  · rintro ⟨hstored, hnamed⟩
    have hs := reduce_stagedMigration sha i hl hstored
    have hparity := parity_of_migratable hl
    exact ⟨⟨_, hs, hparity⟩, (published_iff hl hs hparity).mpr hnamed⟩

namespace SampleLog

/-- A legacy state with one current closure. -/
def closedLegacy (entry : Object) : StateObject :=
  Function.update emptyState .currentTaskClosureRecords
    (some (.obj (OrderedMap.empty.insert "task-1" (.obj entry))))

theorem closedLegacy_get? {entry : Object} {k : String} {v : Json} :
    (legacyRecords (closedLegacy entry) .currentTaskClosureRecords).get? k = some v ↔
      k = "task-1" ∧ v = .obj entry := by
  rw [legacyRecords, closedLegacy, Function.update_self, objectEntries_obj, OrderedMap.get?_insert]
  split_ifs with hk
  · simp [hk, eq_comm]
  · simp [hk]

theorem closedLegacy_of_ne {entry : Object} {f : Field} (hf : f ≠ .currentTaskClosureRecords) :
    closedLegacy entry f = none :=
  Function.update_of_ne hf _ _

theorem migratable_closedLegacy {entry : Object} (h : entry.get? "record_status" = none) :
    (closedLegacy entry).Migratable where
  records f hf := by
    by_cases hne : f = .currentTaskClosureRecords
    · subst hne
      refine Or.inr ⟨_, Function.update_self _ _ _, fun k v hk => ?_⟩
      rw [OrderedMap.get?_insert] at hk
      split_ifs at hk with hkey
      · cases hk
        exact ⟨⟨entry, rfl⟩, by rw [hkey]; decide⟩
      · cases hk
    · exact Or.inl (closedLegacy_of_ne hne)
  current k v hk := by
    rw [(closedLegacy_get?.mp hk).2, Json.get?_obj, h]
    exact Or.inl rfl
  lineage k := by
    rw [closedLegacy_of_ne (by decide)]
    exact fun h => by cases h
  openStep task step hnote := by
    rw [closedLegacy_of_ne (by decide)] at hnote
    cases hnote

def namedClosure : Object :=
  (OrderedMap.empty.insert "task" (.u64 1)).insert "closure_record_id" (.str "task-1-closure")

/-- A closure that only its key names. -/
def unnamedClosure : Object := OrderedMap.empty.insert "task" (.u64 1)

theorem not_named_unnamedClosure : ¬ (closedLegacy unnamedClosure).Named := by
  have hid : closureIdOfEntry (.obj unnamedClosure) = none := by decide
  have hkey : nonBlank (some "task-1") = some "task-1" := by decide
  intro h
  rcases h _ _ (closedLegacy_get?.mpr ⟨rfl, rfl⟩) with hown | hblank | ⟨f, hf, k, v, hk, _, hother⟩
  · rw [hid] at hown
    cases hown
  · rw [hkey] at hblank
    cases hblank
  · rcases List.mem_cons.mp hf with rfl | hf
    · rw [(closedLegacy_get?.mp hk).2, hid, hkey] at hother
      cases hother
    · rw [List.mem_singleton.mp hf, legacyRecords, closedLegacy_of_ne (by decide)] at hk
      cases hk

end SampleLog

/-- **A migration accepts its own replay** just where every current closure can be found by its
id. -/
theorem own_replay_accepted_iff (legacy : StateObject) :
    validateMigrationReplayCoverage legacy (migrationReplayEventsFromLegacyState legacy) = .ok () ↔
      legacy.Named :=
  coverage_iff legacy

/-- Every map of records is absent, or an object of objects. -/
def StateObject.RecordMaps (legacy : StateObject) : Prop :=
  ∀ f ∈ recordFields, legacy f = none ∨ ∃ m : Object, legacy f = some (.obj m) ∧
    ∀ k v, m.get? k = some v → ∃ entry : Object, v = .obj entry

/-- The replay of a closure that only its key names is refused. -/
theorem not_own_replay_accepted :
    ¬ ∀ legacy : StateObject, legacy.RecordMaps →
      validateMigrationReplayCoverage legacy (migrationReplayEventsFromLegacyState legacy) =
        .ok () := by
  intro h
  have hl := @SampleLog.migratable_closedLegacy SampleLog.unnamedClosure (by decide)
  have hmaps : (SampleLog.closedLegacy SampleLog.unnamedClosure).RecordMaps := fun f hf =>
    (hl.records f hf).imp_right fun ⟨m, hm, hentry⟩ => ⟨m, hm, fun k v hk => (hentry k v hk).1⟩
  exact SampleLog.not_named_unnamedClosure ((coverage_iff _).mp (h _ hmaps))

/-- The migration of a closure that names its id. -/
theorem migration_parity_named_closure :
    (SampleLog.closedLegacy SampleLog.namedClosure).Migratable ∧
      MigratesWithParity SampleLog.sha SampleLog.migrationInput
        (SampleLog.closedLegacy SampleLog.namedClosure) := by
  have hl := @SampleLog.migratable_closedLegacy SampleLog.namedClosure (by decide)
  refine ⟨hl, (migration_parity_iff _ _ hl).mpr ⟨Or.inl ⟨.currentTaskClosureRecords,
    by decide, Option.some_ne_none _⟩, fun k v hk => Or.inl ?_⟩⟩
  rw [(SampleLog.closedLegacy_get?.mp hk).2]
  decide

/-- The migration of a closure that only its key names is refused. -/
theorem not_migration_parity :
    ¬ ∀ (sha : Sha256Hex) (i : MigrationInput) (legacy : StateObject), legacy.Migratable →
      MigratesWithParity sha i legacy := by
  intro h
  have hl := @SampleLog.migratable_closedLegacy SampleLog.unnamedClosure
    (by decide)
  obtain ⟨⟨s, hs, hparity⟩, hpublished⟩ := h SampleLog.sha SampleLog.migrationInput _ hl
  exact SampleLog.not_named_unnamedClosure ((published_iff hl hs hparity).mp hpublished)

end FeatureForge
