import FeatureForge.EventLog.Ledger
import FeatureForge.EventLog.Replay
import Mathlib.Data.List.Induction

/-!
# What a replay has rebuilt

The replay of a legacy state sorts its events by sequence number, and a transition
still comes after the event of its record (`anchored_of_split`).  So, by induction on
the events: what has been reduced so far is a part of the legacy state, and all of it
that has been replayed (`Rebuilt`, `rebuilt_replay`).  The same holds of the completed
steps (`entered_replay`): a step is reopened before any is completed.
-/

namespace FeatureForge

/-! ### The order by sequence numbers -/

instance : Std.Total replayLe where
  total a b := by
    unfold replayLe
    omega

instance : IsTrans _ replayLe where
  trans a b c := by
    unfold replayLe
    omega

/-- The replayed events with their sequence numbers and ordinals, in order. -/
def sortedReplay (legacy : StateObject) : List ((Nat × ExecutionEvent) × Nat) :=
  (orderedReplay legacy).zipIdx.insertionSort replayLe

section

variable {legacy : StateObject}

theorem mem_sortedReplay {x : (Nat × ExecutionEvent) × Nat} :
    x ∈ sortedReplay legacy ↔ (orderedReplay legacy)[x.2]? = some x.1 := by
  rw [sortedReplay, List.mem_insertionSort, List.mem_zipIdx_iff_getElem?]

theorem mem_replayEvents {e : ExecutionEvent} :
    e ∈ migrationReplayEventsFromLegacyState legacy ↔ ∃ n, (n, e) ∈ orderedReplay legacy := by
  constructor
  · intro h
    obtain ⟨x, hx, rfl⟩ := List.mem_map.mp h
    exact ⟨x.1.1, List.mem_of_getElem? (mem_sortedReplay.mp hx)⟩
  · rintro ⟨n, h⟩
    obtain ⟨i, hi⟩ := List.mem_iff_getElem?.mp h
    exact List.mem_map.mpr ⟨((n, e), i), mem_sortedReplay.mpr hi, rfl⟩

/-- A place in the replay is a place in its order. -/
theorem split_sortedReplay {pre post : List ExecutionEvent} {e : ExecutionEvent}
    (h : migrationReplayEventsFromLegacyState legacy = pre ++ e :: post) :
    ∃ before x after, sortedReplay legacy = before ++ x :: after ∧ x.1.2 = e ∧
      before.map (fun x => x.1.2) = pre := by
  obtain ⟨before, rest, hsorted, hbefore, hrest⟩ := List.map_eq_append_iff.mp h
  obtain ⟨x, after, rfl, hx, _⟩ := List.map_eq_cons_iff.mp hrest
  exact ⟨before, x, after, hsorted, hx, hbefore⟩

theorem le_of_split {before after : List ((Nat × ExecutionEvent) × Nat)}
    {x : (Nat × ExecutionEvent) × Nat} (h : sortedReplay legacy = before ++ x :: after) :
    (∀ y ∈ before, replayLe y x) ∧ ∀ y ∈ after, replayLe x y := by
  have hsorted : (sortedReplay legacy).Pairwise replayLe := List.pairwise_insertionSort _ _
  rw [h, List.pairwise_append, List.pairwise_cons] at hsorted
  exact ⟨fun y hy => hsorted.2.2 y hy x List.mem_cons_self, hsorted.2.1.1⟩

/-- A transition comes after its anchor. -/
theorem anchored_of_split (hl : legacy.Migratable) {pre post : List ExecutionEvent}
    {e : ExecutionEvent} (h : migrationReplayEventsFromLegacyState legacy = pre ++ e :: post)
    (hk : e.kind = .recordStatusTransition) : ∃ d ∈ pre, Anchor legacy d e := by
  obtain ⟨before, x, after, hsorted, rfl, rfl⟩ := split_sortedReplay h
  have hx : x ∈ sortedReplay legacy := by rw [hsorted]; simp
  obtain ⟨j, d, hj, hd, hseq, hanchor⟩ :=
    (replayList_orderedReplay hl).follows x.2 x.1 (mem_sortedReplay.mp hx) hk
  have hmem : (d, j) ∈ before ++ x :: after := hsorted ▸ mem_sortedReplay.mpr hd
  refine ⟨d.2, List.mem_map.mpr ⟨(d, j), ?_, rfl⟩, hanchor⟩
  rcases List.mem_append.mp hmem with hmem | hmem
  · exact hmem
  · -- it has the smaller ordinal, so it is not at the transition and not behind it
    have hle : replayLe x (d, j) := by
      rcases List.mem_cons.mp hmem with rfl | hmem
      · exact Or.inr ⟨rfl, le_rfl⟩
      · exact (le_of_split hsorted).2 _ hmem
    unfold replayLe at hle
    simp only [hseq, hj] at hle
    omega

/-! ### What has been reduced -/

/-- The value of a legacy field, null read as absent. -/
def effective (legacy : StateObject) (f : Field) : Option Json :=
  (legacy f).filter fun v => !v.isNull

theorem effective_of_ne {f : Field} {v : Json} (h : legacy f = some v) (hv : v.isNull = false) :
    effective legacy f = some v := by
  rw [effective, h, Option.filter_some, hv]
  rfl

/-- The state reduced from events of a replay. -/
structure Rebuilt (legacy : StateObject) (es : List ExecutionEvent) (s : StateObject) : Prop where
  part : ∀ f, f ∉ recordFields → f ≠ .eventCompletedSteps → s f = none ∨ s f = effective legacy f
  whole : ∀ f, f ∉ recordFields → f ≠ .eventCompletedSteps →
    ∀ e ∈ es, ∀ facts, e.facts = some facts → (facts f).isSome → s f = effective legacy f
  shape : ∀ f ∈ recordFields, s f = none ∨ ∃ m, s f = some (.obj m)
  sub : ∀ f ∈ recordFields, OrderedMap.Sub (objectEntries (s f)) (legacyRecords legacy f)
  has : ∀ f ∈ recordFields, ∀ e ∈ es, ∀ facts delta, e.facts = some facts →
    facts f = some (.obj delta) → OrderedMap.Sub delta (objectEntries (s f))

theorem rebuilt_empty (legacy : StateObject) : Rebuilt legacy [] emptyState where
  part _ _ _ := Or.inl rfl
  whole _ _ _ _ he := by cases he
  shape _ _ := Or.inl rfl
  sub _ _ := OrderedMap.sub_empty _
  has _ _ _ he := by cases he

theorem asObject_of_records (hl : legacy.Migratable) {f : Field} (hf : f ∈ recordFields)
    {k : String} {v : Json} (h : (legacyRecords legacy f).get? k = some v) :
    ∃ m : Object, v = .obj m := by
  rcases hl.records f hf with hnone | ⟨m, hm, hm'⟩
  · rw [legacyRecords, hnone] at h
    cases h
  · rw [legacyRecords, hm, objectEntries_obj] at h
    exact (hm' k v h).1

theorem isNull_of_records (hl : legacy.Migratable) {f : Field} (hf : f ∈ recordFields)
    (k : String) (v : Json) (h : (legacyRecords legacy f).get? k = some v) : v.isNull = false := by
  obtain ⟨m, rfl⟩ := asObject_of_records hl hf h
  exact Json.isNull_obj m

/-- A fact about records brings some of them. -/
theorem delta_of_replays (hl : legacy.Migratable) {facts : Field → Option Json}
    (hr : Replays legacy facts) {f : Field} (hf : f ∈ recordFields) {v : Json}
    (h : facts f = some v) :
    ∃ delta : Object, v = .obj delta ∧ OrderedMap.Sub delta (legacyRecords legacy f) := by
  rcases hr f v h with hv | ⟨_, k, entry, hk, rfl⟩
  · rcases hl.records f hf with hnone | ⟨m, hm, _⟩
    · rw [hnone] at hv
      cases hv
    · rw [hm] at hv
      cases hv
      refine ⟨m, rfl, ?_⟩
      rw [legacyRecords, hm, objectEntries_obj]
      exact OrderedMap.Sub.refl m
  · refine ⟨OrderedMap.empty.insert k entry, rfl, fun k' v' h' => ?_⟩
    rw [OrderedMap.get?_insert] at h'
    split_ifs at h' with hkk
    · rw [hkk, hk]
      exact h'
    · cases h'

theorem applyFact_delta {f : Field} (hf : f ∈ recordMapDeltaFields) (existing : Option Json)
    (delta : Object) : applyFact f existing (.obj delta) =
      some (.obj (OrderedMap.patch Json.isNull (objectEntries existing) delta)) := by
  rw [applyFact, Json.isNull_obj, if_neg Bool.false_ne_true, if_pos hf, applyRecordMapDelta,
    Json.asObject_obj]
  rfl

/-- The fact of a field that holds no records makes its value the legacy one. -/
theorem applyFact_whole (hl : legacy.Migratable) {f : Field} (hf : f ∉ recordFields)
    {existing : Option Json} (hex : existing = none ∨ existing = effective legacy f) {v : Json}
    (h : legacy f = some v) : applyFact f existing v = effective legacy f := by
  by_cases hnull : v.isNull = true
  · rw [applyFact, if_pos hnull, effective, h, Option.filter_some, hnull]
    rfl
  · have hv : v.isNull = false := Bool.eq_false_iff.mpr hnull
    rw [effective_of_ne h hv] at hex ⊢
    by_cases hmap : f ∈ recordMapDeltaFields
    · have hlineage : f = .finalReviewDispatchLineage :=
        (mem_recordMapDeltaFields.mp hmap).resolve_left hf
      cases hv' : v.asObject with
      | none =>
        rw [applyFact, if_neg hnull, if_pos hmap, applyRecordMapDelta, hv']
      | some m =>
        -- the lineage patched with itself, or with nothing there
        have hvm := Json.asObject_eq_some.mp hv'
        subst hvm
        have hclean : ∀ k w, m.get? k = some w → w.isNull = false := by
          intro k w hk
          rw [Bool.eq_false_iff]
          intro hw
          have hlin := hl.lineage k
          rw [← hlineage, h, objectEntries_obj, hk, Json.isNull_iff.mp hw] at hlin
          exact hlin rfl
        have hsub : OrderedMap.Sub (objectEntries existing) m := by
          rcases hex with rfl | rfl
          · exact OrderedMap.sub_empty m
          · rw [objectEntries_obj]
            exact OrderedMap.Sub.refl m
        have hpatch : OrderedMap.patch Json.isNull (objectEntries existing) m = m :=
          (OrderedMap.patch_sub hsub (OrderedMap.Sub.refl m)).antisymm
            (OrderedMap.sub_patch hclean (OrderedMap.Sub.refl m))
        rw [applyFact_delta hmap, hpatch]
    · rw [applyFact, if_neg hnull, if_neg hmap]

/-- **An event that replays the legacy state rebuilds more of it.** -/
theorem Rebuilt.apply_facts (hl : legacy.Migratable) {es : List ExecutionEvent} {s : StateObject}
    (h : Rebuilt legacy es s) {e : ExecutionEvent} {facts : Field → Option Json}
    (he : e.facts = some facts) (hr : Replays legacy facts) :
    Rebuilt legacy (es ++ [e]) (applyTypedEventToState s e).1 := by
  have happly : ∀ f, f ≠ .eventCompletedSteps →
      (applyTypedEventToState s e).1 f = applyAuthoritativeFields s facts f :=
    fun f hf => applyTyped_of_facts he s hf
  have hrecord : ∀ f ∈ recordFields, f ≠ .eventCompletedSteps := by decide
  -- a field that holds no records: as it was, or the legacy value
  have hwhole : ∀ f, f ∉ recordFields → f ≠ .eventCompletedSteps →
      (facts f = none ∧ (applyTypedEventToState s e).1 f = s f) ∨
        (applyTypedEventToState s e).1 f = effective legacy f := by
    intro f hf hne
    rw [happly f hne]
    cases hfact : facts f with
    | none => exact Or.inl ⟨rfl, applyAuthoritativeFields_of_none hfact⟩
    | some v =>
      right
      rw [applyAuthoritativeFields_of_some hfact]
      exact applyFact_whole hl hf (h.part f hf hne) ((hr f v hfact).resolve_right fun h => hf h.1)
  -- a field that holds records: as it was, or patched with some of them
  have hpatch : ∀ f ∈ recordFields,
      (facts f = none ∧ (applyTypedEventToState s e).1 f = s f) ∨
        ∃ delta : Object, facts f = some (.obj delta) ∧
          OrderedMap.Sub delta (legacyRecords legacy f) ∧
          (applyTypedEventToState s e).1 f =
            some (.obj (OrderedMap.patch Json.isNull (objectEntries (s f)) delta)) := by
    intro f hf
    rw [happly f (hrecord f hf)]
    cases hfact : facts f with
    | none => exact Or.inl ⟨rfl, applyAuthoritativeFields_of_none hfact⟩
    | some v =>
      obtain ⟨delta, rfl, hsub⟩ := delta_of_replays hl hr hf hfact
      refine Or.inr ⟨delta, rfl, hsub, ?_⟩
      rw [applyAuthoritativeFields_of_some hfact,
        applyFact_delta (mem_recordMapDeltaFields.mpr (Or.inl hf))]
  refine ⟨fun f hf hne => ?_, fun f hf hne d hd facts' hfacts' hsome => ?_, fun f hf => ?_,
    fun f hf => ?_, fun f hf d hd facts' delta' hfacts' hdelta' => ?_⟩
  · rcases hwhole f hf hne with ⟨_, hsame⟩ | hval
    · rw [hsame]
      exact h.part f hf hne
    · exact Or.inr hval
  · rcases hwhole f hf hne with ⟨hnone, hsame⟩ | hval
    · rw [hsame]
      rcases List.mem_append.mp hd with hd | hd
      · exact h.whole f hf hne d hd facts' hfacts' hsome
      · rw [List.mem_singleton.mp hd, he] at hfacts'
        cases hfacts'
        rw [hnone] at hsome
        cases hsome
    · exact hval
  · rcases hpatch f hf with ⟨_, hsame⟩ | ⟨delta, _, _, hval⟩
    · rw [hsame]
      exact h.shape f hf
    · exact Or.inr ⟨_, hval⟩
  · rcases hpatch f hf with ⟨_, hsame⟩ | ⟨delta, _, hsub, hval⟩
    · rw [hsame]
      exact h.sub f hf
    · rw [hval, objectEntries_obj]
      exact OrderedMap.patch_sub (h.sub f hf) hsub
  · have hclean := isNull_of_records hl hf
    rcases hpatch f hf with ⟨hnone, hsame⟩ | ⟨delta, hdelta, hsub, hval⟩
    · rw [hsame]
      rcases List.mem_append.mp hd with hd | hd
      · exact h.has f hf d hd facts' delta' hfacts' hdelta'
      · rw [List.mem_singleton.mp hd, he] at hfacts'
        cases hfacts'
        rw [hnone] at hdelta'
        cases hdelta'
    · rw [hval, objectEntries_obj]
      rcases List.mem_append.mp hd with hd | hd
      · exact (h.has f hf d hd facts' delta' hfacts' hdelta').trans
          (OrderedMap.le_patch hclean (h.sub f hf) hsub)
      · rw [List.mem_singleton.mp hd, he] at hfacts'
        cases hfacts'
        rw [hdelta] at hdelta'
        cases Json.obj_injective (Option.some.inj hdelta')
        exact OrderedMap.sub_patch hclean hsub

/-- A transition of a record that is there leaves the records as they are. -/
theorem recordStatusEntry_of_match {records : Object} {recordId : String} {status : Option String}
    {sequence : Option UInt64} (hobj : ∀ k v, records.get? k = some v → ∃ m : Object, v = .obj m)
    {k : String} {v : Json} (hk : records.get? k = some v)
    (hmatch : recordEntryMatchesId k v recordId = true) :
    recordStatusEntry records recordId status sequence = records := by
  rw [recordStatusEntry]
  cases hfind : records.entries.find? fun e => recordEntryMatchesId e.1 e.2 recordId with
  | none =>
    have := List.find?_eq_none.mp hfind (k, v) (OrderedMap.mem_entries.mpr hk)
    exact absurd hmatch this
  | some e =>
    obtain ⟨key, entry⟩ := e
    have hkey : records.get? key = some entry :=
      OrderedMap.mem_entries.mp (List.mem_of_find?_eq_some hfind)
    obtain ⟨m, rfl⟩ := hobj key entry hkey
    simp only [objectEntries_obj]
    exact OrderedMap.insert_get?_self hkey

/-- Touching fields whose records stay as they are only makes them objects. -/
theorem foldl_touched {recordId : String} {status : Option String} {sequence : Option UInt64} :
    ∀ (fs : List Field) (s : StateObject),
      (∀ f ∈ fs, recordStatusEntry (objectEntries (s f)) recordId status sequence =
        objectEntries (s f)) →
      ∀ g, (fs.foldl (fun target f => Function.update target f (some (.obj
        (recordStatusEntry (objectEntries (target f)) recordId status sequence)))) s) g = s g ∨
        g ∈ fs ∧ (fs.foldl (fun target f => Function.update target f (some (.obj
          (recordStatusEntry (objectEntries (target f)) recordId status sequence)))) s) g =
            some (.obj (objectEntries (s g))) := by
  intro fs
  induction fs with
  | nil => intro s _ g; exact Or.inl rfl
  | cons f fs ih =>
    intro s h g
    rw [List.foldl_cons, h f List.mem_cons_self]
    have hentries : ∀ g, objectEntries (Function.update s f (some (.obj (objectEntries (s f)))) g) =
        objectEntries (s g) := by
      intro g
      by_cases hg : g = f
      · rw [hg, Function.update_self, objectEntries_obj]
      · rw [Function.update_of_ne hg]
    have hstep := ih (Function.update s f (some (.obj (objectEntries (s f)))))
      (fun f' hf' => by rw [hentries]; exact h f' (List.mem_cons_of_mem _ hf')) g
    rw [hentries] at hstep
    rcases hstep with hstep | ⟨hmem, hstep⟩
    · by_cases hg : g = f
      · right
        rw [hstep, hg, Function.update_self]
        exact ⟨List.mem_cons_self, rfl⟩
      · left
        rw [hstep, Function.update_of_ne hg]
    · exact Or.inr ⟨List.mem_cons_of_mem _ hmem, hstep⟩

/-- **A transition behind its anchor rebuilds nothing and loses nothing.** -/
theorem Rebuilt.apply_transition (hl : legacy.Migratable) {es : List ExecutionEvent}
    {s : StateObject} (h : Rebuilt legacy es s) {family : String} {id status : Option String}
    {sequence : Option UInt64} {d : ExecutionEvent} (hd : d ∈ es)
    (ha : Anchor legacy d (.recordStatusTransition family id status sequence)) :
    Rebuilt legacy (es ++ [.recordStatusTransition family id status sequence])
      (applyTypedEventToState s (.recordStatusTransition family id status sequence)).1 := by
  have hsame : ∀ g, (applyTypedEventToState s
      (.recordStatusTransition family id status sequence)).1 g = s g ∨ g ∈ recordFields ∧
        (applyTypedEventToState s (.recordStatusTransition family id status sequence)).1 g =
          some (.obj (objectEntries (s g))) := by
    intro g
    show (applyRecordStatusTransition s family id status sequence).1 g = s g ∨ g ∈ recordFields ∧
      (applyRecordStatusTransition s family id status sequence).1 g =
        some (.obj (objectEntries (s g)))
    rw [applyRecordStatusTransition]
    cases hid : nonBlank id with
    | none => exact Or.inl rfl
    | some recordId =>
      cases hmap : recordStatusMapFields family with
      | none => exact Or.inl rfl
      | some mapFields =>
        have htouched : ∀ f ∈ mapFields.filter (fun f => !skipsMapField family status f),
            f ∈ recordFields ∧ recordStatusEntry (objectEntries (s f)) recordId status sequence =
              objectEntries (s f) := by
          intro f hf
          obtain ⟨hf, hskip⟩ := List.mem_filter.mp hf
          obtain ⟨hrec, facts, k, entry, hfacts, hdelta, hk, hmatch⟩ :=
            ha recordId mapFields f hid hmap hf (by simpa using hskip)
          have hthere : (objectEntries (s f)).get? k = some entry :=
            h.has f hrec d hd facts _ hfacts hdelta k entry (OrderedMap.get?_insert_self _ _ _)
          exact ⟨hrec, recordStatusEntry_of_match
            (fun k v hv => asObject_of_records hl hrec (h.sub f hrec k v hv)) hthere hmatch⟩
        rcases foldl_touched _ s (fun f hf => (htouched f hf).2) g with hg | ⟨hmem, hg⟩
        · exact Or.inl hg
        · exact Or.inr ⟨(htouched g hmem).1, hg⟩
  have hentries : ∀ g, objectEntries ((applyTypedEventToState s
      (.recordStatusTransition family id status sequence)).1 g) = objectEntries (s g) := by
    intro g
    rcases hsame g with hg | ⟨_, hg⟩
    · rw [hg]
    · rw [hg, objectEntries_obj]
  have hnot : ∀ g, g ∉ recordFields → (applyTypedEventToState s
      (.recordStatusTransition family id status sequence)).1 g = s g :=
    fun g hg => (hsame g).resolve_right fun hr => hg hr.1
  have hold : ∀ e ∈ es ++ [ExecutionEvent.recordStatusTransition family id status sequence],
      ∀ facts, e.facts = some facts → e ∈ es := by
    intro e he facts hfacts
    rcases List.mem_append.mp he with he | he
    · exact he
    · rw [List.mem_singleton.mp he] at hfacts
      cases hfacts
  refine ⟨fun f hf hne => ?_, fun f hf hne e he facts hfacts hsome => ?_, fun f hf => ?_,
    fun f hf => ?_, fun f hf e he facts delta hfacts hdelta => ?_⟩
  · rw [hnot f hf]
    exact h.part f hf hne
  · rw [hnot f hf]
    exact h.whole f hf hne e (hold e he facts hfacts) facts hfacts hsome
  · rcases hsame f with hg | ⟨_, hg⟩
    · rw [hg]
      exact h.shape f hf
    · exact Or.inr ⟨_, hg⟩
  · rw [hentries]
    exact h.sub f hf
  · rw [hentries]
    exact h.has f hf e (hold e he facts hfacts) facts delta hfacts hdelta

/-- What a list of events reduces to. -/
def replayState (es : List ExecutionEvent) : StateObject := (reduceFrom (emptyState, false) es).1

theorem replayState_concat (es : List ExecutionEvent) (e : ExecutionEvent) :
    replayState (es ++ [e]) = (applyTypedEventToState (replayState es) e).1 := by
  rw [replayState, reduceFrom_append]
  rfl

/-- **Every beginning of the replay has rebuilt what it has replayed.** -/
theorem rebuilt_replay (hl : legacy.Migratable) {es post : List ExecutionEvent}
    (h : migrationReplayEventsFromLegacyState legacy = es ++ post) :
    Rebuilt legacy es (replayState es) := by
  induction es using List.reverseRecOn generalizing post with
  | nil => exact rebuilt_empty legacy
  | append_singleton es e ih =>
    rw [List.append_assoc] at h
    have hes := ih h
    have hmem : e ∈ migrationReplayEventsFromLegacyState legacy := by rw [h]; simp
    obtain ⟨n, hn⟩ := mem_replayEvents.mp hmem
    rw [replayState_concat]
    cases hfacts : e.facts with
    | some facts =>
      exact hes.apply_facts hl hfacts ((replayList_orderedReplay hl).replays _ hn facts hfacts)
    | none =>
      cases e with
      | recordStatusTransition family id status sequence =>
        obtain ⟨d, hd, ha⟩ := anchored_of_split hl h rfl
        exact hes.apply_transition hl hd ha
      | migrationImported path =>
        have hnot : ∀ d ∈ es ++ [ExecutionEvent.migrationImported path], ∀ facts,
            d.facts = some facts → d ∈ es := by
          intro d hd facts hf
          rcases List.mem_append.mp hd with hd | hd
          · exact hd
          · rw [List.mem_singleton.mp hd] at hf
            cases hf
        exact ⟨hes.part, fun f hf hne d hd facts hfd =>
            hes.whole f hf hne d (hnot d hd facts hfd) facts hfd, hes.shape, hes.sub,
          fun f hf d hd facts delta hfd => hes.has f hf d (hnot d hd facts hfd) facts delta hfd⟩
      | _ => cases hfacts

/-! ### The completed steps -/

theorem recordEvent_kind {e : ExecutionEvent} (h : RecordEvent legacy e) :
    e.kind ≠ .complete ∧ e.kind ≠ .reopen := by
  rcases h.cases with hk | ⟨hk, _⟩ | ⟨hk, _⟩ | ⟨f, _, k, entry, _, rfl⟩
  · have hplain : ∀ k ∈ plainKinds, k ≠ .complete ∧ k ≠ .reopen := by decide
    exact hplain _ hk
  · rw [hk]
    exact ⟨by decide, by decide⟩
  · rw [hk]
    exact ⟨by decide, by decide⟩
  · exact ⟨fun hk => (by cases hk), fun hk => (by cases hk)⟩

theorem kind_of_observed {e : ExecutionEvent} {p : UInt32 × UInt32}
    (h : observedCompletedStepReplay e = some p) : e.kind = .complete := by
  cases e with
  | complete task step facts => rfl
  | _ => cases h

theorem observed_complete {task step : Option UInt32} {facts : Facts stepSlots}
    {p : UInt32 × UInt32} (h : observedCompletedStepReplay (.complete task step facts) = some p) :
    task = some p.1 ∧ step = some p.2 := by
  cases task with
  | none => cases h
  | some task =>
    cases step with
    | none => cases h
    | some step =>
      cases h
      exact ⟨rfl, rfl⟩

theorem openStepReplay_eq (legacy : StateObject) :
    openStepReplay legacy = [] ∨ ∃ e, openStepReplay legacy = [e] := by
  rw [openStepReplay]
  split_ifs
  all_goals first
    | exact Or.inl rfl
    | exact Or.inr ⟨_, rfl⟩

/-- An open step is replayed as completed where it is noted so. -/
theorem openStepReplay_complete {p : UInt32 × UInt32} :
    (∃ e ∈ openStepReplay legacy, observedCompletedStepReplay e = some p) ↔
      jsonString (jsonMember (legacy .currentOpenStepState) "note_state") = some "Completed" ∧
        jsonU32 (jsonMember (legacy .currentOpenStepState) "task") = some p.1 ∧
        jsonU32 (jsonMember (legacy .currentOpenStepState) "step") = some p.2 := by
  constructor
  · rintro ⟨e, he, hp⟩
    simp only [openStepReplay] at he
    by_cases hopen : (jsonU32 (jsonMember (legacy .currentOpenStepState) "task")).isSome ||
        (jsonU32 (jsonMember (legacy .currentOpenStepState) "step")).isSome
    · rw [if_pos hopen, List.mem_singleton] at he
      subst he
      split_ifs at hp with hactive hcompleted
      · cases hp
      · obtain ⟨htask, hstep⟩ := observed_complete hp
        exact ⟨hcompleted, htask, hstep⟩
      · cases hp
      · cases hp
    · rw [if_neg hopen] at he
      cases he
  · rintro ⟨hnote, htask, hstep⟩
    refine ⟨.complete (some p.1) (some p.2) ((migrationStepStateFields legacy).into stepSlots),
      ?_, rfl⟩
    rw [openStepReplay, htask, hstep, hnote]
    simp

theorem observedCompletedStepReplay_complete (p : UInt32 × UInt32) :
    observedCompletedStepReplay (.complete (some p.1) (some p.2) (.ofGet _ fun _ => none)) =
      some p := rfl

/-- **Every completed step is replayed**, by its own event or by that of the open step. -/
theorem observed_completed {p : UInt32 × UInt32} (hp : p ∈ legacyCompletedStepEvents legacy) :
    some p ∈ (migrationReplayEventsFromLegacyState legacy).map observedCompletedStepReplay := by
  rw [List.mem_map]
  by_cases hopen : jsonString (jsonMember (legacy .currentOpenStepState) "note_state") =
      some "Completed" ∧ jsonU32 (jsonMember (legacy .currentOpenStepState) "task") = some p.1 ∧
      jsonU32 (jsonMember (legacy .currentOpenStepState) "step") = some p.2
  · obtain ⟨e, he, hep⟩ := openStepReplay_complete.mpr hopen
    exact ⟨e, mem_replayEvents.mpr ⟨0, mem_orderedReplay.mpr
      (Or.inr (Or.inl ⟨rfl, List.mem_append_left _ he⟩))⟩, hep⟩
  · refine ⟨_, mem_replayEvents.mpr ⟨0, mem_orderedReplay.mpr (Or.inr (Or.inl ⟨rfl,
      List.mem_append_right _ (List.mem_map.mpr ⟨p, List.mem_filter.mpr ⟨hp, ?_⟩, rfl⟩)⟩))⟩,
      observedCompletedStepReplay_complete p⟩
    rw [Bool.not_eq_true', Bool.eq_false_iff]
    intro hisOpen
    simp only [Bool.and_eq_true, decide_eq_true_eq] at hisOpen
    obtain ⟨⟨htask, hstep⟩, hnote⟩ := hisOpen
    exact hopen ⟨hnote, htask.symm, hstep.symm⟩

/-- The completed steps are replayed, and no others. -/
theorem observed_replay (hl : legacy.Migratable) {p : UInt32 × UInt32} :
    some p ∈ (migrationReplayEventsFromLegacyState legacy).map observedCompletedStepReplay ↔
      p ∈ legacyCompletedStepEvents legacy := by
  refine ⟨fun h => ?_, observed_completed⟩
  obtain ⟨e, he, hp⟩ := List.mem_map.mp h
  obtain ⟨n, hn⟩ := mem_replayEvents.mp he
  rcases mem_orderedReplay.mp hn with hfirst | ⟨_, hstep⟩ | hrecord
  · cases hfirst
    cases hp
  · rcases List.mem_append.mp hstep with hstep | hstep
    · obtain ⟨hnote, htask, hstep⟩ := openStepReplay_complete.mp ⟨e, hstep, hp⟩
      exact hl.openStep p.1 p.2 hnote htask hstep
    · obtain ⟨q, hq, rfl⟩ := List.mem_map.mp hstep
      rw [observedCompletedStepReplay_complete] at hp
      cases hp
      exact List.mem_of_mem_filter hq
  · exact absurd (kind_of_observed hp) (recordEvent_kind (recordEvent_of_mem hrecord)).1

/-- A step is reopened right behind the run metadata. -/
theorem index_of_reopen {i : Nat} {x : Nat × ExecutionEvent}
    (h : (orderedReplay legacy)[i]? = some x) (hk : x.2.kind = .reopen) :
    i = 1 ∧ openStepReplay legacy = [x.2] := by
  have hlater : x ∉ atZero (completedStepReplay legacy) ++ recordReplay legacy := by
    intro hx
    rcases List.mem_append.mp hx with hx | hx
    · obtain ⟨e, he, rfl⟩ := List.mem_map.mp hx
      obtain ⟨p, _, rfl⟩ := List.mem_map.mp he
      cases hk
    · exact (recordEvent_kind (recordEvent_of_mem hx)).2 hk
  rw [orderedReplay, atZero, List.map_append, List.append_assoc] at h
  rcases openStepReplay_eq legacy with hopen | ⟨e, hopen⟩
  · cases i with
    | zero =>
      cases h
      cases hk
    | succ i =>
      rw [hopen, List.getElem?_cons_succ] at h
      exact absurd (List.mem_of_getElem? h) hlater
  · rcases i with _ | _ | i
    · cases h
      cases hk
    · rw [hopen] at h
      cases h
      exact ⟨rfl, hopen⟩
    · rw [hopen, List.getElem?_cons_succ, List.map_singleton, List.singleton_append,
        List.getElem?_cons_succ] at h
      exact absurd (List.mem_of_getElem? h) hlater

/-- No step is completed before one is reopened. -/
theorem not_observed_of_reopen {pre post : List ExecutionEvent} {e : ExecutionEvent}
    (h : migrationReplayEventsFromLegacyState legacy = pre ++ e :: post)
    (hk : e.kind = .reopen) : ∀ d ∈ pre, observedCompletedStepReplay d = none := by
  obtain ⟨before, x, after, hsorted, rfl, rfl⟩ := split_sortedReplay h
  intro d hd
  obtain ⟨y, hy, rfl⟩ := List.mem_map.mp hd
  have hx : x ∈ sortedReplay legacy := by rw [hsorted]; simp
  have hys : y ∈ sortedReplay legacy := by rw [hsorted]; simp [hy]
  rw [mem_sortedReplay] at hx hys
  obtain ⟨hindex, hopen⟩ := index_of_reopen hx hk
  have hzero : x.1.1 = 0 := by
    rw [hindex, orderedReplay, hopen] at hx
    exact (congrArg Prod.fst (Option.some.inj hx)).symm
  have hle := (le_of_split hsorted).1 y hy
  -- only the run metadata and the reopened step itself come no later
  have hy2 : y.2 ≤ 1 := by
    unfold replayLe at hle
    omega
  rw [orderedReplay, hopen] at hys
  obtain ⟨y, i⟩ := y
  obtain rfl | rfl : i = 0 ∨ i = 1 := by omega
  · cases hys
    rfl
  · cases hys
    cases hobserved : observedCompletedStepReplay x.1.2 with
    | none => rfl
    | some p =>
      have := kind_of_observed hobserved
      rw [hk] at this
      cases this

/-- **Every beginning of the replay has entered the steps it completes.** -/
theorem entered_replay (hl : legacy.Migratable) {es post : List ExecutionEvent}
    (h : migrationReplayEventsFromLegacyState legacy = es ++ post) :
    Entered (legacyCompletedStepEvents legacy) es (replayState es) := by
  induction es using List.reverseRecOn generalizing post with
  | nil => exact entered_empty _
  | append_singleton es e ih =>
    rw [List.append_assoc] at h
    rw [replayState_concat]
    refine (ih h).apply (fun p hp => ?_) (not_observed_of_reopen h)
    rw [← observed_replay hl, h]
    exact List.mem_map.mpr ⟨e, by simp, hp⟩

end

end FeatureForge
