import FeatureForge.Closures.Edges
import FeatureForge.Closures.Records
import Mathlib.Data.List.Nodup

/-!
# Branch closures of a state

Every branch closure is filed once, under a new id and with the next sequence, so what it lists
as superseded is older than it (`BranchRecords.older`).  The one that the state is bound to is
current, and no list names it (`BranchRecords.record`, `BranchRecords.clear`).
-/

namespace FeatureForge

/-! ### New ids -/

theorem occurrenceId_injective (base : String) : Function.Injective (occurrenceId base) := by
  intro m n h
  have hdigits : m.repr.toList = n.repr.toList := by
    have hlist := congrArg String.toList h
    unfold occurrenceId at hlist
    rw [String.toList_append, String.toList_append (t := n.repr)] at hlist
    exact List.append_cancel_left hlist
  rw [Nat.toList_repr, Nat.toList_repr] at hdigits
  rw [← Nat.ofDigitChars_ten_toDigits (n := m), hdigits, Nat.ofDigitChars_ten_toDigits]

/-- The search passes the ids that are taken. -/
theorem firstFreeId_cases (records : Object) (base : String) : ∀ n occurrence,
    records.get? (firstFreeId records base n occurrence) = none ∨
      ∀ k ≤ n, records.contains (occurrenceId base (occurrence + k)) = true := by
  intro n
  induction n with
  | zero =>
    intro occurrence
    rw [firstFreeId]
    cases hget : records.get? (occurrenceId base occurrence) with
    | none => exact Or.inl rfl
    | some v =>
      refine Or.inr fun k hk => ?_
      rw [Nat.le_zero.mp hk, Nat.add_zero]
      exact OrderedMap.contains_eq_true.mpr ⟨v, hget⟩
  | succ n ih =>
    intro occurrence
    rw [firstFreeId]
    split_ifs with htaken
    · refine (ih (occurrence + 1)).imp_right fun h k hk => ?_
      cases k with
      | zero => exact htaken
      | succ k =>
        rw [← Nat.add_assoc, Nat.add_right_comm]
        exact h k (Nat.le_of_succ_le_succ hk)
    · left
      exact Option.not_isSome_iff_eq_none.mp htaken

/-- **The next available id** is new. -/
theorem get?_nextAvailableHistoryRecordId (records : Object) (base : String) :
    records.get? (nextAvailableHistoryRecordId records base none) = none := by
  unfold nextAvailableHistoryRecordId
  by_cases hbase : records.contains base = true
  · rw [hbase, Bool.not_true, Bool.false_or, if_neg (by nofun)]
    refine (firstFreeId_cases records base records.entries.length 2).resolve_right fun h => ?_
    -- more ids than there are entries would be taken
    let ids := (List.range (records.entries.length + 1)).map fun k => occurrenceId base (2 + k)
    have hnodup : ids.Nodup := by
      refine List.Nodup.map (fun m n hmn => ?_) List.nodup_range
      exact Nat.add_left_cancel (occurrenceId_injective base hmn)
    have hkeys : ids ⊆ records.entries.map Prod.fst := by
      intro id hid
      obtain ⟨k, hk, rfl⟩ := List.mem_map.mp hid
      obtain ⟨v, hv⟩ := OrderedMap.contains_eq_true.mp
        (h k (Nat.le_of_lt_succ (List.mem_range.mp hk)))
      exact List.mem_map.mpr ⟨_, OrderedMap.mem_entries.mpr hv, rfl⟩
    have hle := (List.subperm_of_subset hnodup hkeys).length_le
    rw [List.length_map, List.length_map, List.length_range] at hle
    omega
  · rw [Bool.eq_false_iff.mpr hbase, Bool.not_false, Bool.true_or, if_pos rfl]
    exact Option.not_isSome_iff_eq_none.mp hbase

/-! ### Branch closures in their records -/

/-- The sequence of a branch closure. -/
def branchSequence (records : Object) (id : String) : Nat :=
  ((records.get? id).bind fun payload => valueU64 payload "record_sequence").getD 0

/-- A branch closure is filed under its id, with a status. -/
structure BranchFiled (records : Object) (r : BranchClosureResultRecord) (status : String) :
    Prop where
  issued : r.Issued
  known : status ∈ closureStatuses
  filed : ∃ payload sequence, records.get? r.branchClosureId = some payload ∧
    Marked (branchClosurePayload r sequence) status payload

structure BranchRecords (records : Object) (bound : Option String) (superseded : List String) :
    Prop where
  filed : ∀ id payload, records.get? id = some payload →
    ∃ r status, r.branchClosureId = id ∧ BranchFiled records r status
  numbered : ∀ id, branchSequence records id ≤ records.entries.length
  older : ∀ r status, BranchFiled records r status → ∀ id ∈ r.supersededBranchClosureIds,
    records.get? id ≠ none ∧ bound ≠ some id ∧
      branchSequence records id < branchSequence records r.branchClosureId
  superseded : ∀ id ∈ superseded, records.get? id ≠ none ∧ bound ≠ some id
  bound : ∀ id, bound = some id → ∃ r, r.branchClosureId = id ∧ BranchFiled records r "current"

variable {records : Object} {bound : Option String} {superseded : List String}
  {r r' : BranchClosureResultRecord} {status status' : String}

theorem Marked.recordSequence {sequence : Nat} {payload : Json}
    (h : Marked (branchClosurePayload r sequence) status payload) :
    valueU64 payload "record_sequence" = some sequence := by
  rw [valueU64, h.members _ (by decide) (by decide),
    branchClosurePayload_lookup _ _ (by decide) (by decide)]
  rfl

/-- The payload under an id determines the status and the list. -/
theorem BranchFiled.unique (h : BranchFiled records r status) (h' : BranchFiled records r' status')
    (hid : r.branchClosureId = r'.branchClosureId) :
    r.supersededBranchClosureIds = r'.supersededBranchClosureIds ∧ status = status' := by
  obtain ⟨payload, n, hget, hmarked⟩ := h.filed
  obtain ⟨payload', n', hget', hmarked'⟩ := h'.filed
  rw [hid, hget'] at hget
  cases hget
  obtain ⟨_, _, _, _, _, _, _, hlist⟩ := hmarked.branchClosureEvaluation h.issued h.known ""
  obtain ⟨_, _, _, _, _, _, _, hlist'⟩ := hmarked'.branchClosureEvaluation h'.issued h'.known ""
  exact ⟨hlist.symm.trans hlist', Json.str_injective (Option.some.inj
    (hmarked.closureStatus.symm.trans hmarked'.closureStatus))⟩

/-! ### Marking -/

theorem BranchFiled.markAll (h : BranchFiled records r status) (ids : List String)
    (hknown : status' ∈ closureStatuses) :
    BranchFiled (markAll status' records ids) r
      (if r.branchClosureId ∈ ids then status' else status) := by
  obtain ⟨payload, n, hget, hmarked⟩ := h.filed
  obtain ⟨payload', hget', hmarked'⟩ :=
    hmarked.markAll status' ids hget (ownId_branchClosurePayload h.issued)
  refine ⟨h.issued, ?_, payload', n, hget', hmarked'⟩
  split_ifs
  · exact hknown
  · exact h.known

/-- What a mark does to a filed branch closure. -/
theorem BranchRecords.exists_markAll (h : BranchRecords records bound superseded)
    (ids : List String) (hknown : status' ∈ closureStatuses) {id : String} {payload : Json}
    (hget : (markAll status' records ids).get? id = some payload) :
    ∃ r status, r.branchClosureId = id ∧ BranchFiled records r status ∧
      BranchFiled (markAll status' records ids) r (if id ∈ ids then status' else status) := by
  have hsome : records.get? id ≠ none := fun hnone => by
    rw [(get?_markAll_eq_none _ _ _).mpr hnone] at hget
    cases hget
  obtain ⟨payload₀, hget₀⟩ := Option.ne_none_iff_exists'.mp hsome
  obtain ⟨r, status, rfl, hr⟩ := h.filed _ _ hget₀
  exact ⟨r, status, rfl, hr, hr.markAll ids hknown⟩

theorem BranchRecords.sequence_markAll (h : BranchRecords records bound superseded)
    (ids : List String) (status' : String) (id : String) :
    branchSequence (markAll status' records ids) id = branchSequence records id := by
  unfold branchSequence
  cases hget : records.get? id with
  | none => rw [(get?_markAll_eq_none _ _ _).mpr hget]
  | some payload =>
    obtain ⟨r, status, rfl, hr⟩ := h.filed _ _ hget
    obtain ⟨payload', n, hget', hmarked⟩ := hr.filed
    cases hget.symm.trans hget'
    obtain ⟨marked', hget', hmarked'⟩ :=
      hmarked.markAll status' ids hget (ownId_branchClosurePayload hr.issued)
    rw [hget', Option.bind_some, Option.bind_some, hmarked.recordSequence, hmarked'.recordSequence]

/-- **The bound branch closure marked** and no longer bound. -/
theorem BranchRecords.clear (h : BranchRecords records bound superseded)
    (hknown : status ∈ closureStatuses) :
    BranchRecords (marked bound status records) none superseded := by
  rw [marked_eq_markAll]
  refine ⟨fun id payload hget => ?_, fun id => ?_, fun r status' hr id hid => ?_,
    fun id hid => ?_, nofun⟩
  · obtain ⟨r, status', hid, _, hr⟩ := h.exists_markAll _ hknown hget
    exact ⟨r, _, hid, hr⟩
  · rw [h.sequence_markAll, length_markAll]
    exact h.numbered id
  · obtain ⟨payload, _, hget, _⟩ := hr.filed
    obtain ⟨r₀, status₀, hid₀, hr₀, hr₀'⟩ := h.exists_markAll _ hknown hget
    rw [(hr.unique hr₀' hid₀.symm).1] at hid
    obtain ⟨hsome, _, hlt⟩ := h.older r₀ status₀ hr₀ id hid
    rw [h.sequence_markAll, h.sequence_markAll, ← hid₀]
    exact ⟨fun hnone => hsome ((get?_markAll_eq_none _ _ _).mp hnone), nofun, hlt⟩
  · exact ⟨fun hnone => (h.superseded id hid).1 ((get?_markAll_eq_none _ _ _).mp hnone), nofun⟩

/-! ### Recording -/

theorem branchSequence_insert_of_ne {id id' : String} (payload : Json) (h : id' ≠ id) :
    branchSequence (records.insert id payload) id' = branchSequence records id' := by
  rw [branchSequence, OrderedMap.get?_insert_of_ne _ _ h, branchSequence]

theorem branchFiled_insert_of_ne {id : String} (payload : Json) (h : r.branchClosureId ≠ id) :
    BranchFiled (records.insert id payload) r status ↔ BranchFiled records r status := by
  constructor <;> rintro ⟨hissued, hknown, payload', n, hget, hmarked⟩
  · rw [OrderedMap.get?_insert_of_ne _ _ h] at hget
    exact ⟨hissued, hknown, payload', n, hget, hmarked⟩
  · refine ⟨hissued, hknown, payload', n, ?_, hmarked⟩
    rw [OrderedMap.get?_insert_of_ne _ _ h, hget]

/-- **A branch closure filed** under a new id supersedes older ones only. -/
theorem BranchRecords.file (h : BranchRecords records none superseded) (hr : r.Issued)
    (hnew : records.get? r.branchClosureId = none)
    (hlist : ∀ id ∈ r.supersededBranchClosureIds, records.get? id ≠ none)
    {superseded' : List String} (hsuperseded : ∀ id ∈ superseded', id ∈ superseded ∨
      id ∈ r.supersededBranchClosureIds) :
    BranchRecords (records.insert r.branchClosureId
        (.obj (branchClosurePayload r (records.entries.length + 1))))
      (some r.branchClosureId) superseded' := by
  have hself : BranchFiled (records.insert r.branchClosureId
      (.obj (branchClosurePayload r (records.entries.length + 1)))) r "current" :=
    ⟨hr, by decide, _, _, OrderedMap.get?_insert_self _ _ _, marked_branchClosurePayload hr⟩
  have hsequence : branchSequence (records.insert r.branchClosureId
      (.obj (branchClosurePayload r (records.entries.length + 1)))) r.branchClosureId =
        records.entries.length + 1 := by
    rw [branchSequence, OrderedMap.get?_insert_self, Option.bind_some,
      (marked_branchClosurePayload hr).recordSequence, Option.getD_some]
  have hold : ∀ id, records.get? id ≠ none → id ≠ r.branchClosureId ∧
      (records.insert r.branchClosureId
        (.obj (branchClosurePayload r (records.entries.length + 1)))).get? id ≠ none ∧
      some r.branchClosureId ≠ some id := by
    intro id hsome
    have hne : id ≠ r.branchClosureId := fun heq => hsome (heq ▸ hnew)
    refine ⟨hne, ?_, fun heq => hne (Option.some.inj heq).symm⟩
    rwa [OrderedMap.get?_insert_of_ne _ _ hne]
  refine ⟨fun id payload hget => ?_, fun id => ?_, fun r' status' hr' id hid => ?_,
    fun id hid => ?_, fun id hid => ⟨r, Option.some.inj hid, hself⟩⟩
  · by_cases hid : id = r.branchClosureId
    · exact ⟨r, _, hid.symm, hself⟩
    · rw [OrderedMap.get?_insert_of_ne _ _ hid] at hget
      obtain ⟨r', status', rfl, hr'⟩ := h.filed id payload hget
      exact ⟨r', status', rfl, (branchFiled_insert_of_ne _ hid).mpr hr'⟩
  · rw [OrderedMap.length_insert hnew]
    by_cases hid : id = r.branchClosureId
    · rw [hid, hsequence]
    · rw [branchSequence_insert_of_ne _ hid]
      exact (h.numbered id).trans (Nat.le_succ _)
  · by_cases hself' : r'.branchClosureId = r.branchClosureId
    · rw [(hr'.unique hself hself').1] at hid
      obtain ⟨hne, hsome, hbound⟩ := hold id (hlist id hid)
      refine ⟨hsome, hbound, ?_⟩
      rw [hself', hsequence, branchSequence_insert_of_ne _ hne]
      exact Nat.lt_succ_of_le (h.numbered id)
    · have hr₀ := (branchFiled_insert_of_ne _ hself').mp hr'
      obtain ⟨hsome, _, hlt⟩ := h.older r' status' hr₀ id hid
      obtain ⟨hne, hsome, hbound⟩ := hold id hsome
      refine ⟨hsome, hbound, ?_⟩
      rwa [branchSequence_insert_of_ne _ hne, branchSequence_insert_of_ne _ hself']
  · have hsome : records.get? id ≠ none := by
      rcases hsuperseded id hid with hid | hid
      · exact (h.superseded id hid).1
      · exact hlist id hid
    exact (hold id hsome).2

/-! ### On a state -/

/-- The fields that a recording or a clear of a branch closure writes. -/
def branchClosureFields : List Field :=
  [.branchClosureRecords, .harnessPhase, .supersededBranchClosureIds, .currentBranchClosureId,
   .currentBranchClosureReviewedStateId, .currentBranchClosureContractIdentity,
   .finalReviewDispatchLineageHistory, .releaseReadinessRecordHistory, .finalReviewRecordHistory,
   .browserQaRecordHistory, .finalReviewDispatchLineage, .finishReviewGatePassBranchClosureId,
   .reviewStateRepairFollowUp] ++ releaseReadinessBindings ++ finalReviewBindings ++ qaBindings

structure BranchState (s : StateObject) : Prop where
  records : BranchRecords (objectEntries (s .branchClosureRecords))
    (jsonString (s .currentBranchClosureId)) (supersededBranchClosureIds s)
  releaseReadiness : NoMilestone .releaseReadinessRecordHistory .currentReleaseReadinessRecordId s
  finalReview : NoMilestone .finalReviewRecordHistory .currentFinalReviewRecordId s
  qa : NoMilestone .browserQaRecordHistory .currentQaRecordId s

section

variable {sha : Sha256Hex} {now : String} {s s' : StateObject}

theorem NoMilestone.fallen {status : String} {f current : Field} (h : NoMilestone f current s)
    (hfallen : Fallen status f current s s') : NoMilestone f current s' := by
  refine ⟨?_, hfallen.id⟩
  rw [hfallen.history, h.1, h.2]
  rfl

theorem marks_frame {releaseReadiness finalReview qa : Option String} {s₁ s₂ : StateObject}
    (h₁ : markPrevious .releaseReadinessRecordHistory releaseReadiness "historical" s = .ok s₁)
    (h₂ : markPrevious .finalReviewRecordHistory finalReview "historical" s₁ = .ok s₂)
    (h₃ : markPrevious .browserQaRecordHistory qa "historical" s₂ = .ok s') {g : Field}
    (hg : g ∉ [Field.releaseReadinessRecordHistory, .finalReviewRecordHistory,
      .browserQaRecordHistory]) : s' g = s g := by
  simp only [List.mem_cons, List.not_mem_nil, or_false, not_or] at hg
  exact (markPrevious_downstream h₁ h₂ h₃).1 g hg.1 hg.2.1 hg.2.2

theorem setCurrentBranchClosureId_frame {id reviewed contract : String}
    (h : setCurrentBranchClosureId sha now id reviewed contract s = .ok s') {g : Field}
    (hg : g = .supersededBranchClosureIds ∨ g ∉ branchClosureFields) : s' g = s g := by
  obtain ⟨t, harchive, h⟩ := bind_ok h
  obtain ⟨u, hbranch, h⟩ := bind_ok h
  obtain ⟨s₁, h₁, h⟩ := bind_ok h
  obtain ⟨s₂, h₂, h₃⟩ := bind_ok h
  have hne : ∀ f ∈ branchClosureFields, f ≠ .supersededBranchClosureIds → g ≠ f := by
    rintro f hf hsuperseded rfl
    exact hg.elim hsuperseded fun hg => hg hf
  rw [marks_frame h₁ h₂ h₃ fun hmem => hne g (List.Subset.trans (by decide) (List.Subset.refl _) hmem)
      (by rintro rfl; exact absurd hmem (by decide)) rfl,
    (markPrevious_if_ok hbranch).1 g (hne _ (by decide) (by decide)),
    setNulls_of_not_mem _ fun hmem => hne g (List.Subset.trans (by decide) (List.Subset.refl _) hmem)
      (by rintro rfl; exact absurd hmem (by decide)) rfl,
    set_of_ne _ _ (hne _ (by decide) (by decide)), set_of_ne _ _ (hne _ (by decide) (by decide)),
    set_of_ne _ _ (hne _ (by decide) (by decide)),
    archive_if_ok harchive g (hne _ (by decide) (by decide))]

/-- **A branch closure recorded** for a state: what is filed, what is bound, what is listed. -/
theorem recordCurrentBranchClosure_filed (hr : r.Issued)
    (hbound : jsonString (s .currentBranchClosureId) ≠ some r.branchClosureId)
    (h : recordCurrentBranchClosure sha now r s = .ok s') :
    (∀ g, g ∉ branchClosureFields → s' g = s g) ∧
      s' .currentBranchClosureId = some (.str r.branchClosureId) ∧
      objectEntries (s' .branchClosureRecords) =
        (marked (jsonString (s .currentBranchClosureId)) "superseded"
          (objectEntries (s .branchClosureRecords))).insert r.branchClosureId
            (.obj (branchClosurePayload r
              ((objectEntries (s .branchClosureRecords)).entries.length + 1))) ∧
      ∀ id ∈ supersededBranchClosureIds s', id ∈ supersededBranchClosureIds s ∨
        id ∈ r.supersededBranchClosureIds := by
  obtain ⟨hid, hrecords⟩ := recordCurrentBranchClosure_records hr.branchClosureId h
  rw [if_neg hbound] at hrecords
  obtain ⟨t, hrecord, h⟩ := bind_ok h
  obtain ⟨ht, _⟩ := recordBranchClosure_ok hrecord
  obtain ⟨u, happend, h⟩ := bind_ok h
  refine ⟨fun g hg => ?_, hid, hrecords, fun id hmem => ?_⟩
  · have hne : ∀ f ∈ branchClosureFields, g ≠ f := fun f hf heq => hg (heq ▸ hf)
    rw [setCurrentBranchClosureId_frame h (Or.inr hg),
      appendUniqueStringArray_ok happend g (hne _ (by decide)),
      ht g (hne _ (by decide)) (hne _ (by decide))]
  · rw [supersededBranchClosureIds, setCurrentBranchClosureId_frame h (Or.inl rfl),
      appendUniqueStringArray_mem happend, ht _ (by decide) (by decide)] at hmem
    refine hmem.imp_right ?_
    rintro ⟨value, hvalue, rfl, _⟩
    rwa [(hr.supersededBranchClosureIds value hvalue).1]

/-- **Recording a branch closure** under a new id keeps the records of a state. -/
theorem BranchState.record (hs : BranchState s) (hr : r.Issued)
    (hnew : (objectEntries (s .branchClosureRecords)).get? r.branchClosureId = none)
    (hlist : ∀ id ∈ r.supersededBranchClosureIds,
      (objectEntries (s .branchClosureRecords)).get? id ≠ none)
    (h : recordCurrentBranchClosure sha now r s = .ok s') : BranchState s' := by
  have hbound : jsonString (s .currentBranchClosureId) ≠ some r.branchClosureId := by
    intro hbound
    obtain ⟨r₀, hid, hr₀⟩ := hs.records.bound _ hbound
    obtain ⟨payload, _, hget, _⟩ := hr₀.filed
    rw [hid, hnew] at hget
    cases hget
  obtain ⟨_, hid, hrecords, hsuperseded⟩ := recordCurrentBranchClosure_filed hr hbound h
  obtain ⟨hfell, _⟩ := recordCurrentBranchClosure_ok hr.branchClosureId h
  have hcleared : BranchRecords (marked (jsonString (s .currentBranchClosureId)) "superseded"
      (objectEntries (s .branchClosureRecords))) none (supersededBranchClosureIds s) :=
    hs.records.clear (by decide)
  refine ⟨?_, hs.releaseReadiness.fallen hfell.releaseReadiness,
    hs.finalReview.fallen hfell.finalReview, hs.qa.fallen hfell.qa⟩
  have hlength : (marked (jsonString (s .currentBranchClosureId)) "superseded"
      (objectEntries (s .branchClosureRecords))).entries.length =
        (objectEntries (s .branchClosureRecords)).entries.length := by
    rw [marked_eq_markAll, length_markAll]
  rw [hrecords, hid, jsonString_str hr.branchClosureId, ← hlength]
  have hmarked : ∀ id, (objectEntries (s .branchClosureRecords)).get? id = none ↔
      (marked (jsonString (s .currentBranchClosureId)) "superseded"
        (objectEntries (s .branchClosureRecords))).get? id = none := fun id => by
    rw [marked_eq_markAll]
    exact (get?_markAll_eq_none _ _ _).symm
  exact hcleared.file hr ((hmarked _).mp hnew)
    (fun id hid => fun hnone => hlist id hid ((hmarked id).mpr hnone)) hsuperseded

theorem clearCurrentBranchClosureForStructuralRepair_frame
    (h : clearCurrentBranchClosureForStructuralRepair sha now s = .ok s') {g : Field}
    (hg : g = .supersededBranchClosureIds ∨ g ∉ branchClosureFields) : s' g = s g := by
  unfold clearCurrentBranchClosureForStructuralRepair at h
  dsimp only at h
  split_ifs at h with hnothing
  · cases h
    rfl
  · obtain ⟨t, harchive, h⟩ := bind_ok h
    obtain ⟨u, hbranch, h⟩ := bind_ok h
    obtain ⟨s₁, h₁, h⟩ := bind_ok h
    obtain ⟨s₂, h₂, h₃⟩ := bind_ok h
    have hne : ∀ f ∈ branchClosureFields, f ≠ .supersededBranchClosureIds → g ≠ f := by
      rintro f hf hsuperseded rfl
      exact hg.elim hsuperseded fun hg => hg hf
    rw [marks_frame h₁ h₂ h₃ fun hmem => hne g (List.Subset.trans (by decide) (List.Subset.refl _)
        hmem) (by rintro rfl; exact absurd hmem (by decide)) rfl,
      (markPrevious_ok hbranch).1 g (hne _ (by decide) (by decide)),
      setNulls_of_not_mem _ fun hmem => hne g (List.Subset.trans (by decide) (List.Subset.refl _)
        hmem) (by rintro rfl; exact absurd hmem (by decide)) rfl,
      archive_ok harchive g (hne _ (by decide) (by decide))]

/-- **Clearing the branch closure** keeps the records of a state. -/
theorem BranchState.clear (hs : BranchState s)
    (h : clearCurrentBranchClosureForStructuralRepair sha now s = .ok s') : BranchState s' := by
  have hsuperseded : supersededBranchClosureIds s' = supersededBranchClosureIds s := by
    rw [supersededBranchClosureIds, clearCurrentBranchClosureForStructuralRepair_frame h
      (Or.inl rfl), supersededBranchClosureIds]
  rcases clearCurrentBranchClosureForStructuralRepair_ok h with rfl | ⟨hfell, hbranch⟩
  · exact hs
  · refine ⟨?_, hs.releaseReadiness.fallen hfell.releaseReadiness,
      hs.finalReview.fallen hfell.finalReview, hs.qa.fallen hfell.qa⟩
    rw [hbranch.history, hbranch.id, hsuperseded]
    exact hs.records.clear (by decide)

/-! ### The command -/

theorem startsWith_deterministicRecordId (sha : Sha256Hex) (kind : String) (parts : List String) :
    startsWith (kind ++ "-").toList (deterministicRecordId sha kind parts).toList = true :=
  startsWith_iff.mpr ⟨_, String.toList_append.symm⟩

/-- The next available id continues the id it is looked for. -/
theorem startsWith_nextAvailableHistoryRecordId (records : Object) (base : String)
    (active : Option String) :
    startsWith base.toList (nextAvailableHistoryRecordId records base active).toList = true := by
  have hoccurrence : ∀ occurrence, base.toList <+: (occurrenceId base occurrence).toList := by
    intro occurrence
    unfold occurrenceId
    rw [String.toList_append, String.toList_append, List.append_assoc]
    exact List.prefix_append _ _
  have hfree : ∀ n occurrence,
      base.toList <+: (firstFreeId records base n occurrence).toList := by
    intro n
    induction n with
    | zero => exact hoccurrence
    | succ n ih =>
      intro occurrence
      rw [firstFreeId]
      split_ifs
      · exact ih _
      · exact hoccurrence _
  rw [startsWith_iff]
  unfold nextAvailableHistoryRecordId
  split_ifs
  · exact List.prefix_rfl
  · exact hfree _ _

/-- What a branch closure recorded supersedes is filed already. -/
theorem mem_supersededByRecording (hs : BranchState s) {context : RecordingContext} {id x : String}
    (h : x ∈ supersededByRecording s id (repairFollowUpBranchClosureTarget context s)) :
    (objectEntries (s .branchClosureRecords)).get? x ≠ none := by
  have hprevious : ∀ x ∈ ((jsonString (s .currentBranchClosureId)).filter
      fun previous => previous ≠ id).toList,
        (objectEntries (s .branchClosureRecords)).get? x ≠ none := by
    intro x hx
    obtain ⟨hbound, _⟩ := Option.filter_eq_some_iff.mp (Option.mem_toList.mp hx)
    obtain ⟨r, rfl, hr⟩ := hs.records.bound x hbound
    obtain ⟨payload, _, hget, _⟩ := hr.filed
    rw [hget]
    nofun
  unfold supersededByRecording at h
  cases htarget : repairFollowUpBranchClosureTarget context s with
  | none =>
    rw [htarget] at h
    exact hprevious x h
  | some target =>
    rw [htarget] at h
    dsimp only at h
    split_ifs at h
    · exact hprevious x h
    · rcases List.mem_append.mp h with h | h
      · exact hprevious x h
      · -- the target of a repair is one of the records
        cases List.mem_singleton.mp h
        have hread := (Option.filter_eq_some_iff.mp htarget).2
        intro hnone
        rw [branchClosureRecordForRepairFollowUp, branchClosureRecordWithStatus, hnone] at hread
        cases hread

/-- What the command records. -/
theorem recordBranchClosureForCommand_eq_some {recording : BranchRecording} {id : String}
    (h : recordBranchClosureForCommand sha now recording s = .ok (some (id, s'))) :
    ∃ assessment reviewed, branchClosureRerecordingAssessment recording s = .ok assessment ∧
      reviewedStateToRecord recording assessment
        (repairFollowUpBranchClosureTarget recording.context s).isSome = reviewed ∧
      (recording.changedPaths ≠ [] → assessment.supported = true) ∧
      (reviewed.sourceTaskClosureIds = [] →
        reviewed.provenanceBasis = lateStageSurfaceExemptionBasis) ∧
      nextAvailableHistoryRecordId (objectEntries (s .branchClosureRecords))
        (deterministicBranchClosureRecordId sha recording.context reviewed) none = id ∧
      recordCurrentBranchClosure sha now (branchClosureResultRecord recording reviewed id
        (supersededByRecording s id (repairFollowUpBranchClosureTarget recording.context s))) s =
          .ok s' := by
  unfold recordBranchClosureForCommand at h
  by_cases hearly : recording.answeredEarly = true
  · rw [if_pos hearly] at h
    cases h
  rw [if_neg hearly] at h
  obtain ⟨assessment, hassessment, h⟩ := bind_ok h
  dsimp only at h
  split_ifs at h with hready hempty
  · cases h
  · cases h
  · obtain ⟨recorded, hrecord, h⟩ := bind_ok h
    cases h
    refine ⟨assessment, _, hassessment, rfl, fun hdrifts => ?_, fun hsources => ?_, rfl, hrecord⟩
    · by_contra hunsupported
      refine hready ?_
      rw [Bool.not_eq_true] at hunsupported
      rw [decide_eq_true hdrifts, hunsupported]
      exact Bool.or_true _
    · by_contra hbasis
      exact hempty ⟨hsources, hbasis⟩

theorem named_branchClosureId (hsha : ∀ t, Unspaced (sha t)) (records : Object)
    (context : RecordingContext) (reviewed : BranchReviewedState) :
    Named (nextAvailableHistoryRecordId records
      (deterministicBranchClosureRecordId sha context reviewed) none) :=
  named_nextAvailableHistoryRecordId hsha (by decide) (by decide) _ _ _

/-- **The command records under a new id**, and what it lists is filed. -/
theorem recordBranchClosureForCommand_ok (hsha : ∀ t, Unspaced (sha t)) (hs : BranchState s)
    {recording : BranchRecording} {id : String}
    (h : recordBranchClosureForCommand sha now recording s = .ok (some (id, s'))) :
    BranchState s' ∧ (∀ g, g ∉ branchClosureFields → s' g = s g) := by
  obtain ⟨_, reviewed, _, _, _, _, rfl, hrecord⟩ := recordBranchClosureForCommand_eq_some h
  have hkind : startsWith "branch-closure-".toList
      (deterministicBranchClosureRecordId sha recording.context reviewed).toList = true :=
    startsWith_deterministicRecordId sha "branch-closure" _
  have hnext := startsWith_nextAvailableHistoryRecordId
    (objectEntries (s .branchClosureRecords))
    (deterministicBranchClosureRecordId sha recording.context reviewed) none
  have hnew := get?_nextAvailableHistoryRecordId (objectEntries (s .branchClosureRecords))
    (deterministicBranchClosureRecordId sha recording.context reviewed)
  have hnamed := named_branchClosureId hsha (objectEntries (s .branchClosureRecords))
    recording.context reviewed
  generalize nextAvailableHistoryRecordId _ _ _ = id at hrecord hnew hnamed hnext
  rw [startsWith_iff] at hkind hnext
  have hlist : ∀ x ∈ supersededByRecording s id
      (repairFollowUpBranchClosureTarget recording.context s),
        (objectEntries (s .branchClosureRecords)).get? x ≠ none :=
    fun x hx => mem_supersededByRecording hs hx
  have hissued : (branchClosureResultRecord recording reviewed id (supersededByRecording s id
      (repairFollowUpBranchClosureTarget recording.context s))).Issued := by
    refine ⟨hnamed, startsWith_iff.mpr (hkind.trans hnext), rfl, fun x hx => ?_⟩
    obtain ⟨payload, hget⟩ := Option.ne_none_iff_exists'.mp (hlist x hx)
    obtain ⟨r, _, rfl, hr⟩ := hs.records.filed _ _ hget
    exact hr.issued.branchClosureId
  have hbound : jsonString (s .currentBranchClosureId) ≠ some id := by
    intro hbound
    obtain ⟨r, rfl, hr⟩ := hs.records.bound id hbound
    obtain ⟨payload, _, hget, _⟩ := hr.filed
    rw [hnew] at hget
    cases hget
  exact ⟨hs.record hissued hnew hlist hrecord,
    (recordCurrentBranchClosure_filed hissued hbound hrecord).1⟩

end

end FeatureForge
