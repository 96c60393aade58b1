import FeatureForge.Lib.Machine
import FeatureForge.Transitions.Currency

/-!
# Runs of milestone recordings

What each recording does to the four histories and their current ids is a list of
`Filed`, `Fallen` and kept milestones, and of dropped bindings.  The invariant of a run
is that all four histories are registers (`Milestones`); `milestone_currency` reads the
claim about its states off it, and about its steps off the recordings.

The digest has no white space, and the id of a branch closure is neither blank nor
padded: it is the next available id over a digest (`named_nextAvailableHistoryRecordId`).
-/

namespace FeatureForge

/-! ### Ids are read back -/

/-- A text that trimming keeps. -/
def Named (id : String) : Prop := trim id = id ∧ id ≠ ""

instance (id : String) : Decidable (Named id) :=
  inferInstanceAs (Decidable (trim id = id ∧ id ≠ ""))

theorem jsonString_str {id : String} (h : Named id) : jsonString (some (.str id)) = some id := by
  show nonBlank (some id) = some id
  rw [nonBlank, Option.map_some, h.1, Option.filter_some, if_pos (decide_eq_true h.2)]

def Unspaced (s : String) : Prop := ∀ c ∈ s.toList, isWhitespace c = false

instance (s : String) : Decidable (Unspaced s) := List.decidableBAll _ s.toList

theorem Unspaced.append {s t : String} (hs : Unspaced s) (ht : Unspaced t) : Unspaced (s ++ t) := by
  intro c hc
  rw [String.toList_append, List.mem_append] at hc
  exact hc.elim (hs c) (ht c)

theorem Unspaced.trim {s : String} (h : Unspaced s) : trim s = s := by
  rw [FeatureForge.trim, trimChars_of_ends (fun c hc => h c (List.mem_of_mem_head? hc))
    (fun c hc => h c (List.mem_of_mem_getLast? hc)), String.ofList_toList]

theorem unspaced_repr (n : Nat) : Unspaced n.repr := by
  intro c hc
  rw [Nat.toList_repr] at hc
  exact isWhitespace_of_isDigit (Nat.isDigit_of_mem_toDigits (by decide) (by decide) hc)

theorem unspaced_deterministicRecordId {sha : Sha256Hex} (hsha : ∀ t, Unspaced (sha t))
    {kind : String} (hk : Unspaced kind) (parts : List String) :
    Unspaced (deterministicRecordId sha kind parts) := by
  refine (hk.append (by decide)).append ?_
  intro c hc
  rw [String.toList_ofList] at hc
  exact hsha _ c (List.mem_of_mem_take hc)

theorem append_ne_empty {s t : String} (h : s ≠ "") : s ++ t ≠ "" := fun hst =>
  h (String.toList_injective (List.append_eq_nil_iff.mp
    ((String.toList_append).symm.trans (congrArg String.toList hst))).1)

theorem deterministicRecordId_ne_empty (sha : Sha256Hex) {kind : String} (hk : kind ≠ "")
    (parts : List String) : deterministicRecordId sha kind parts ≠ "" :=
  append_ne_empty (append_ne_empty hk)

theorem named_deterministicRecordId {sha : Sha256Hex} (hsha : ∀ t, Unspaced (sha t))
    {kind : String} (hk : Unspaced kind) (hne : kind ≠ "") (parts : List String) :
    Named (deterministicRecordId sha kind parts) :=
  ⟨(unspaced_deterministicRecordId hsha hk parts).trim, deterministicRecordId_ne_empty sha hne parts⟩

theorem unspaced_firstFreeId (records : Object) {base : String} (hb : Unspaced base) :
    ∀ n occurrence, Unspaced (firstFreeId records base n occurrence) := by
  have hid : ∀ occurrence, Unspaced (occurrenceId base occurrence) := fun occurrence =>
    (hb.append (by decide)).append (unspaced_repr occurrence)
  intro n
  induction n with
  | zero => exact hid
  | succ n ih =>
    intro occurrence
    rw [firstFreeId]
    split_ifs
    · exact ih _
    · exact hid _

theorem firstFreeId_ne_empty (records : Object) {base : String} (hb : base ≠ "") :
    ∀ n occurrence, firstFreeId records base n occurrence ≠ "" := by
  have hid : ∀ occurrence, occurrenceId base occurrence ≠ "" := fun occurrence =>
    append_ne_empty (append_ne_empty hb)
  intro n
  induction n with
  | zero => exact hid
  | succ n ih =>
    intro occurrence
    rw [firstFreeId]
    split_ifs
    · exact ih _
    · exact hid _

/-- **The next available id** over a digest is read back as it is. -/
theorem named_nextAvailableHistoryRecordId {sha : Sha256Hex} (hsha : ∀ t, Unspaced (sha t))
    {kind : String} (hk : Unspaced kind) (hne : kind ≠ "") (parts : List String) (records : Object)
    (active : Option String) :
    Named (nextAvailableHistoryRecordId records (deterministicRecordId sha kind parts) active) := by
  have hb := named_deterministicRecordId hsha hk hne parts
  have hu := unspaced_deterministicRecordId hsha hk parts
  rw [nextAvailableHistoryRecordId]
  split_ifs
  · exact hb
  · exact ⟨(unspaced_firstFreeId records hu _ _).trim, firstFreeId_ne_empty records hb.2 _ _⟩

/-! ### What one recording does -/

/-- The three histories below the branch closure, marked one after the other. -/
theorem markPrevious_downstream {releaseReadiness finalReview qa : Option String}
    {s s₁ s₂ s' : StateObject}
    (h₁ : markPrevious .releaseReadinessRecordHistory releaseReadiness "historical" s = .ok s₁)
    (h₂ : markPrevious .finalReviewRecordHistory finalReview "historical" s₁ = .ok s₂)
    (h₃ : markPrevious .browserQaRecordHistory qa "historical" s₂ = .ok s') :
    (∀ g, g ≠ .releaseReadinessRecordHistory → g ≠ .finalReviewRecordHistory →
      g ≠ .browserQaRecordHistory → s' g = s g) ∧
    objectEntries (s' .releaseReadinessRecordHistory) =
      marked releaseReadiness "historical" (objectEntries (s .releaseReadinessRecordHistory)) ∧
    objectEntries (s' .finalReviewRecordHistory) =
      marked finalReview "historical" (objectEntries (s .finalReviewRecordHistory)) ∧
    objectEntries (s' .browserQaRecordHistory) =
      marked qa "historical" (objectEntries (s .browserQaRecordHistory)) := by
  obtain ⟨hf₁, he₁⟩ := markPrevious_ok h₁
  obtain ⟨hf₂, he₂⟩ := markPrevious_ok h₂
  obtain ⟨hf₃, he₃⟩ := markPrevious_ok h₃
  refine ⟨fun g hrr hfr hqa => ?_, ?_, ?_, ?_⟩
  · rw [hf₃ g hqa, hf₂ g hfr, hf₁ g hrr]
  · rw [hf₃ _ (by decide), hf₂ _ (by decide), he₁]
  · rw [hf₃ _ (by decide), he₂, hf₁ _ (by decide)]
  · rw [he₃, hf₂ _ (by decide), hf₁ _ (by decide)]

/-- A binding that no longer binds. -/
def Dropped (s : StateObject) (f : Field) : Prop := s f = some .null

theorem jsonString_null : jsonString (some .null) = none := rfl

/-- The milestones below a branch closure have fallen, and their bindings with them. -/
structure BranchFell (s s' : StateObject) : Prop where
  releaseReadiness : Fallen "historical" .releaseReadinessRecordHistory
    .currentReleaseReadinessRecordId s s'
  finalReview : Fallen "historical" .finalReviewRecordHistory .currentFinalReviewRecordId s s'
  qa : Fallen "historical" .browserQaRecordHistory .currentQaRecordId s s'
  dropped : ∀ f ∈ releaseReadinessBindings ++ finalReviewBindings ++ qaBindings ++
    [.finalReviewDispatchLineage], Dropped s' f

theorem Fallen.of_eq {status : String} {f current : Field} {s t s' : StateObject}
    (h : Fallen status f current t s') (hf : objectEntries (t f) = objectEntries (s f))
    (hc : jsonString (t current) = jsonString (s current)) : Fallen status f current s s' where
  history := by rw [h.history, hf, hc]
  id := h.id

theorem BranchFell.of_marks {s t s₁ s₂ s' : StateObject}
    (hnull : ∀ f ∈ releaseReadinessBindings ++ finalReviewBindings ++ qaBindings ++
      [.finalReviewDispatchLineage], Dropped t f)
    (hhist : ∀ f ∈ [Field.releaseReadinessRecordHistory, .finalReviewRecordHistory,
      .browserQaRecordHistory], t f = s f)
    (h₁ : markPrevious .releaseReadinessRecordHistory
      (jsonString (s .currentReleaseReadinessRecordId)) "historical" t = .ok s₁)
    (h₂ : markPrevious .finalReviewRecordHistory (jsonString (s .currentFinalReviewRecordId))
      "historical" s₁ = .ok s₂)
    (h₃ : markPrevious .browserQaRecordHistory (jsonString (s .currentQaRecordId))
      "historical" s₂ = .ok s') : BranchFell s s' := by
  obtain ⟨hframe, hrr, hfr, hqa⟩ := markPrevious_downstream h₁ h₂ h₃
  have hdropped : ∀ f ∈ releaseReadinessBindings ++ finalReviewBindings ++ qaBindings ++
      [.finalReviewDispatchLineage], Dropped s' f := by
    intro f hf
    have hne : f ≠ .releaseReadinessRecordHistory ∧ f ≠ .finalReviewRecordHistory ∧
        f ≠ .browserQaRecordHistory := by
      refine ⟨?_, ?_, ?_⟩ <;> rintro rfl <;> exact absurd hf (by decide)
    show s' f = some .null
    rw [hframe f hne.1 hne.2.1 hne.2.2, hnull f hf]
  have hid : ∀ f ∈ releaseReadinessBindings ++ finalReviewBindings ++ qaBindings ++
      [.finalReviewDispatchLineage], jsonString (s' f) = none := fun f hf => by
    rw [hdropped f hf, jsonString_null]
  exact
    { releaseReadiness := ⟨by rw [hrr, hhist _ (by decide)], hid _ (by decide)⟩
      finalReview := ⟨by rw [hfr, hhist _ (by decide)], hid _ (by decide)⟩
      qa := ⟨by rw [hqa, hhist _ (by decide)], hid _ (by decide)⟩
      dropped := hdropped }

theorem setCurrentBranchClosureId_ok {sha : Sha256Hex} {now id reviewed contract : String}
    {s s' : StateObject} (h : setCurrentBranchClosureId sha now id reviewed contract s = .ok s') :
    BranchFell s s' ∧ s' .currentBranchClosureId = some (.str id) ∧
      objectEntries (s' .branchClosureRecords) =
        if (jsonString (s .currentBranchClosureId)).any fun previous => previous != id then
          marked (jsonString (s .currentBranchClosureId)) "superseded"
            (objectEntries (s .branchClosureRecords))
        else objectEntries (s .branchClosureRecords) := by
  obtain ⟨t, harchive, h⟩ := bind_ok h
  have ht := archive_if_ok harchive
  obtain ⟨u, hbranch, h⟩ := bind_ok h
  obtain ⟨hu, hmarked⟩ := markPrevious_if_ok hbranch
  obtain ⟨s₁, h₁, h⟩ := bind_ok h
  obtain ⟨s₂, h₂, h₃⟩ := bind_ok h
  obtain ⟨hframe, -⟩ := markPrevious_downstream h₁ h₂ h₃
  refine ⟨BranchFell.of_marks (t := u) ?_ ?_ h₁ h₂ h₃, ?_, ?_⟩
  · intro f hf
    have hne : f ≠ .branchClosureRecords := by
      rintro rfl
      exact absurd hf (by decide)
    show u f = some .null
    rw [hu f hne]
    exact setNulls_of_mem _ (List.Subset.trans (by decide) (List.Subset.refl _) hf)
  · intro f hf
    simp only [List.mem_cons, List.not_mem_nil, or_false] at hf
    rcases hf with rfl | rfl | rfl <;>
      simp (disch := decide) only [hu, setNulls_of_not_mem, set_of_ne, ht]
  · rw [hframe _ (by decide) (by decide) (by decide)]
    simp (disch := decide) only [hu, setNulls_of_not_mem, set_of_ne, set_self]
  · rw [hframe _ (by decide) (by decide) (by decide), hmarked]
    simp (disch := decide) only [setNulls_of_not_mem, set_of_ne, ht]

theorem insert_mark (m : Object) {k id status : String} {record : Object}
    (h : recordEntryMatchesId k (.obj record) id = false) :
    markRecordStatus (m.insert k (.obj record)) id status =
      (markRecordStatus m id status).insert k (.obj record) := by
  refine OrderedMap.ext_get? fun k' => ?_
  rw [markRecordStatus, markRecordStatus, OrderedMap.get?_mapVal, OrderedMap.get?_insert,
    OrderedMap.get?_insert, OrderedMap.get?_mapVal]
  by_cases hk : k' = k
  · rw [if_pos hk, if_pos hk, Option.map_some, hk, h]
    rfl
  · rw [if_neg hk, if_neg hk]

theorem branchClosurePayload_get? (r : BranchClosureResultRecord) (n : Nat) {k : String}
    (hk : k = "record_id" ∨ k = "closure_record_id" ∨ k = "branch_closure_id") :
    (branchClosurePayload r n).get? k =
      if k = "branch_closure_id" then some (.str r.branchClosureId) else none := by
  rw [branchClosurePayload, insertPresent_get?_of_ne _ _ (by rcases hk with rfl | rfl | rfl <;> decide),
    insertPresent_get?_of_ne _ _ (by rcases hk with rfl | rfl | rfl <;> decide)]
  rcases hk with rfl | rfl | rfl <;> simp [OrderedMap.ofList, OrderedMap.get?_insert]

/-- The entry of a branch closure bears its own id only. -/
theorem branchClosure_entry_matches (r : BranchClosureResultRecord) (n : Nat)
    (hr : Named r.branchClosureId) {id : String} (hne : id ≠ r.branchClosureId) :
    recordEntryMatchesId r.branchClosureId (.obj (branchClosurePayload r n)) id = false := by
  rw [recordEntryMatchesId, Json.get?_obj, Json.get?_obj, Json.get?_obj,
    branchClosurePayload_get? r n (Or.inl rfl), branchClosurePayload_get? r n (Or.inr (Or.inl rfl)),
    branchClosurePayload_get? r n (Or.inr (Or.inr rfl))]
  show (r.branchClosureId == id || (trim r.branchClosureId == id)) = false
  rw [hr.1, Bool.or_self]
  exact beq_eq_false_iff_ne.mpr hne.symm

theorem recordBranchClosure_ok {r : BranchClosureResultRecord} {s s' : StateObject}
    (h : recordBranchClosure r s = .ok s') :
    (∀ g, g ≠ .branchClosureRecords → g ≠ .harnessPhase → s' g = s g) ∧
      objectEntries (s' .branchClosureRecords) =
        (objectEntries (s .branchClosureRecords)).insert r.branchClosureId
          (.obj (branchClosurePayload r
            ((objectEntries (s .branchClosureRecords)).entries.length + 1))) := by
  obtain ⟨m, hm, h⟩ := bind_ok h
  cases h
  refine ⟨fun g hrecords hphase => ?_, ?_⟩
  · rw [set_of_ne _ _ hphase, set_of_ne _ _ hrecords]
  · rw [set_of_ne _ _ (by decide), set_self, objectEntries_obj, recordsMut_ok hm]

/-- The branch closures after one has been recorded. -/
theorem recordCurrentBranchClosure_records {sha : Sha256Hex} {now : String}
    {r : BranchClosureResultRecord} (hr : Named r.branchClosureId) {s s' : StateObject}
    (h : recordCurrentBranchClosure sha now r s = .ok s') :
    s' .currentBranchClosureId = some (.str r.branchClosureId) ∧
      objectEntries (s' .branchClosureRecords) =
        (if jsonString (s .currentBranchClosureId) = some r.branchClosureId then
          objectEntries (s .branchClosureRecords)
        else marked (jsonString (s .currentBranchClosureId)) "superseded"
          (objectEntries (s .branchClosureRecords))).insert r.branchClosureId
            (.obj (branchClosurePayload r
              ((objectEntries (s .branchClosureRecords)).entries.length + 1))) := by
  obtain ⟨t, hrecord, h⟩ := bind_ok h
  obtain ⟨ht, hfiled⟩ := recordBranchClosure_ok hrecord
  obtain ⟨u, happend, h⟩ := bind_ok h
  have hu := appendUniqueStringArray_ok happend
  obtain ⟨_, hid, hmarked⟩ := setCurrentBranchClosureId_ok h
  refine ⟨hid, ?_⟩
  rw [hmarked, hu .currentBranchClosureId (by decide),
    ht .currentBranchClosureId (by decide) (by decide), hu _ (by decide), hfiled]
  cases hprevious : jsonString (s .currentBranchClosureId) with
  | none =>
    rw [Option.any_none, if_neg Bool.false_ne_true, if_neg fun h => Option.some_ne_none _ h.symm]
    rfl
  | some previous =>
    rw [Option.any_some]
    by_cases hne : previous = r.branchClosureId
    · rw [if_neg (by simp [hne]), if_pos (congrArg some hne)]
    · rw [if_pos (by simpa using hne), if_neg fun h => hne (Option.some.inj h)]
      exact insert_mark _ (branchClosure_entry_matches r _ hr hne)

/-- **A branch closure recorded** supersedes the one before it, and the milestones below
it fall. -/
theorem recordCurrentBranchClosure_ok {sha : Sha256Hex} {now : String}
    {r : BranchClosureResultRecord} (hr : Named r.branchClosureId) {s s' : StateObject}
    (h : recordCurrentBranchClosure sha now r s = .ok s') :
    BranchFell s s' ∧ Filed "superseded" .branchClosureRecords .currentBranchClosureId s s' := by
  obtain ⟨hid, hrecords⟩ := recordCurrentBranchClosure_records hr h
  obtain ⟨t, hrecord, h⟩ := bind_ok h
  obtain ⟨ht, -⟩ := recordBranchClosure_ok hrecord
  obtain ⟨u, happend, h⟩ := bind_ok h
  have hu := appendUniqueStringArray_ok happend
  obtain ⟨hfell, -, -⟩ := setCurrentBranchClosureId_ok h
  have hsame : ∀ g, g ≠ .branchClosureRecords → g ≠ .harnessPhase →
      g ≠ .supersededBranchClosureIds → u g = s g := fun g hrecords hphase hsuperseded => by
    rw [hu g hsuperseded, ht g hrecords hphase]
  constructor
  · exact
      { releaseReadiness := hfell.releaseReadiness.of_eq
          (by rw [hsame _ (by decide) (by decide) (by decide)])
          (by rw [hsame _ (by decide) (by decide) (by decide)])
        finalReview := hfell.finalReview.of_eq
          (by rw [hsame _ (by decide) (by decide) (by decide)])
          (by rw [hsame _ (by decide) (by decide) (by decide)])
        qa := hfell.qa.of_eq
          (by rw [hsame _ (by decide) (by decide) (by decide)])
          (by rw [hsame _ (by decide) (by decide) (by decide)])
        dropped := hfell.dropped }
  · refine ⟨r.branchClosureId, _, ?_, hrecords⟩
    rw [hid, jsonString_str hr]

/-- **The structural repair** clears the branch closure and the milestones below it. -/
theorem clearCurrentBranchClosureForStructuralRepair_ok {sha : Sha256Hex} {now : String}
    {s s' : StateObject} (h : clearCurrentBranchClosureForStructuralRepair sha now s = .ok s') :
    s' = s ∨ BranchFell s s' ∧
      Fallen "historical" .branchClosureRecords .currentBranchClosureId s s' := by
  unfold clearCurrentBranchClosureForStructuralRepair at h
  dsimp only at h
  split_ifs at h with hnothing
  · cases h
    exact Or.inl rfl
  · right
    obtain ⟨t, harchive, h⟩ := bind_ok h
    have ht := archive_ok harchive
    obtain ⟨u, hbranch, h⟩ := bind_ok h
    obtain ⟨hu, hmarked⟩ := markPrevious_ok hbranch
    obtain ⟨s₁, h₁, h⟩ := bind_ok h
    obtain ⟨s₂, h₂, h₃⟩ := bind_ok h
    obtain ⟨hframe, -⟩ := markPrevious_downstream h₁ h₂ h₃
    refine ⟨BranchFell.of_marks (t := u) ?_ ?_ h₁ h₂ h₃, ?_, ?_⟩
    · intro f hf
      have hne : f ≠ .branchClosureRecords := by
        rintro rfl
        exact absurd hf (by decide)
      show u f = some .null
      rw [hu f hne]
      exact setNulls_of_mem _ (List.Subset.trans (by decide) (List.Subset.refl _) hf)
    · intro f hf
      simp only [List.mem_cons, List.not_mem_nil, or_false] at hf
      rcases hf with rfl | rfl | rfl <;>
        simp (disch := decide) only [hu, setNulls_of_not_mem, ht]
    · rw [hframe _ (by decide) (by decide) (by decide), hmarked]
      simp (disch := decide) only [setNulls_of_not_mem, ht]
    · rw [hframe _ (by decide) (by decide) (by decide)]
      simp (disch := decide) only [hu, setNulls_of_mem, jsonString_null]

theorem fileRecord_history (f : Field) (history : Object) (previous : Option String)
    (recordId : String) (payload : Object) (s : StateObject) :
    objectEntries (fileRecord f history previous recordId payload s f) =
      (if previous = some recordId then history else marked previous "historical" history).insert
        recordId (.obj payload) := by
  unfold fileRecord
  rw [set_self, objectEntries_obj]
  cases previous with
  | none => rw [if_neg fun h => Option.some_ne_none _ h.symm]; rfl
  | some previous =>
    by_cases hp : previous = recordId
    · rw [if_pos (congrArg some hp)]
      simp only [hp, if_true]
    · rw [if_neg fun h => hp (Option.some.inj h)]
      simp only [hp, if_false]
      rfl

theorem fileRecord_of_ne {f g : Field} (history : Object) (previous : Option String)
    (recordId : String) (payload : Object) (s : StateObject) (h : g ≠ f) :
    fileRecord f history previous recordId payload s g = s g := set_of_ne s _ h

/-- A milestone as it was. -/
structure Kept (f current : Field) (s s' : StateObject) : Prop where
  history : s' f = s f
  id : s' current = s current

/-- The milestones below a release readiness have fallen. -/
structure ReleaseReadinessFell (s s' : StateObject) : Prop where
  finalReview : Fallen "historical" .finalReviewRecordHistory .currentFinalReviewRecordId s s'
  qa : Fallen "historical" .browserQaRecordHistory .currentQaRecordId s s'
  dropped : ∀ f ∈ finalReviewBindings ++ qaBindings ++ [.finalReviewDispatchLineage], Dropped s' f

/-- **A release readiness recorded** retires the one before it; the milestones below it
fall where it is another one. -/
theorem recordReleaseReadinessResult_ok {sha : Sha256Hex} (hsha : ∀ t, Unspaced (sha t))
    {now : String} {r : ReleaseReadinessResultRecord} {s s' : StateObject}
    (h : recordReleaseReadinessResult sha now r s = .ok s') :
    Kept .branchClosureRecords .currentBranchClosureId s s' ∧
      Filed "historical" .releaseReadinessRecordHistory .currentReleaseReadinessRecordId s s' ∧
      (jsonString (s' .currentReleaseReadinessRecordId) =
            jsonString (s .currentReleaseReadinessRecordId) ∧
          Kept .finalReviewRecordHistory .currentFinalReviewRecordId s s' ∧
          Kept .browserQaRecordHistory .currentQaRecordId s s' ∨
        ReleaseReadinessFell s s') := by
  obtain ⟨m, hm, h⟩ := bind_ok h
  obtain ⟨t, harchive, h⟩ := bind_ok h
  have ht := archive_if_ok harchive
  have hm := recordsMut_ok hm
  dsimp only at h
  have hid := jsonString_str (named_nextAvailableHistoryRecordId hsha
    (by decide : Unspaced "release-readiness") (by decide)
    [r.branchClosureId, r.reviewedStateId, r.sourcePlanPath, r.sourcePlanRevision.toNat.repr,
      r.repoSlug, r.branchName, r.baseBranch, r.result, r.summaryHash, r.generatedByIdentity,
      r.releaseDocsFingerprint.getD "none"] m (jsonString (s .currentReleaseReadinessRecordId)))
  generalize nextAvailableHistoryRecordId m _ _ = recordId at *
  generalize releaseReadinessPayload r recordId (m.entries.length + 1) = payload at *
  by_cases hchanged : jsonString (s .currentReleaseReadinessRecordId) = some recordId
  · rw [if_neg (by simpa using hchanged)] at h
    cases h
    refine ⟨⟨?_, ?_⟩, ⟨recordId, payload, ?_, ?_⟩, Or.inl ⟨?_, ⟨?_, ?_⟩, ⟨?_, ?_⟩⟩⟩
    all_goals
      simp (disch := decide) only [set_of_ne, set_self, ht, fileRecord_of_ne, fileRecord_history,
        hid, hchanged, hm]
  · rw [if_pos (by simpa using hchanged)] at h
    obtain ⟨u, hmark, h⟩ := bind_ok h
    obtain ⟨hu, hfinalReview⟩ := markPrevious_ok hmark
    obtain ⟨hs', hqa⟩ := markPrevious_ok h
    have hdropped : ∀ f ∈ finalReviewBindings ++ qaBindings ++ [.finalReviewDispatchLineage],
        Dropped s' f := by
      intro f hf
      show s' f = some .null
      rw [hs' f (by rintro rfl; exact absurd hf (by decide)),
        hu f (by rintro rfl; exact absurd hf (by decide)), setNulls_of_mem _ hf]
    refine ⟨⟨?_, ?_⟩, ⟨recordId, payload, ?_, ?_⟩, Or.inr ⟨⟨?_, ?_⟩, ⟨?_, ?_⟩, hdropped⟩⟩
    · simp (disch := decide) only [hs', hu, setNulls_of_not_mem, set_of_ne, ht, fileRecord_of_ne]
    · simp (disch := decide) only [hs', hu, setNulls_of_not_mem, set_of_ne, ht, fileRecord_of_ne]
    · simp (disch := decide) only [hs', hu, setNulls_of_not_mem, set_of_ne, set_self, hid]
    · simp (disch := decide) only [hs', hu, setNulls_of_not_mem, set_of_ne, ht, fileRecord_history,
        hm]
    · rw [hs' _ (by decide), hfinalReview]
      simp (disch := decide) only [setNulls_of_not_mem, set_of_ne, ht, fileRecord_of_ne]
    · rw [hdropped _ (by decide), jsonString_null]
    · rw [hqa]
      simp (disch := decide) only [hu, setNulls_of_not_mem, set_of_ne, ht, fileRecord_of_ne]
    · rw [hdropped _ (by decide), jsonString_null]

/-- The milestone below a final review has fallen; its state is gone, or afresh that no
quality assurance is required. -/
structure FinalReviewFell (s s' : StateObject) : Prop where
  qa : Fallen "historical" .browserQaRecordHistory .currentQaRecordId s s'
  dropped : ∀ f ∈ qaBindings, f ≠ .browserQaState → Dropped s' f
  state : Dropped s' .browserQaState ∨ s' .browserQaState = some (.str "not_required")

/-- **A final review recorded** retires the one before it; the quality assurance below it
falls where it is another one. -/
theorem recordFinalReviewResult_ok {sha : Sha256Hex} (hsha : ∀ t, Unspaced (sha t))
    {r : FinalReviewMilestoneRecord} {s s' : StateObject}
    (h : recordFinalReviewResult sha r s = .ok s') :
    Kept .branchClosureRecords .currentBranchClosureId s s' ∧
      Kept .releaseReadinessRecordHistory .currentReleaseReadinessRecordId s s' ∧
      Filed "historical" .finalReviewRecordHistory .currentFinalReviewRecordId s s' ∧
      (jsonString (s' .currentFinalReviewRecordId) = jsonString (s .currentFinalReviewRecordId) ∧
          Kept .browserQaRecordHistory .currentQaRecordId s s' ∨
        FinalReviewFell s s') := by
  obtain ⟨m, hm, h⟩ := bind_ok h
  have hm := recordsMut_ok hm
  dsimp only at h
  have hid := jsonString_str (named_deterministicRecordId hsha
    (by decide : Unspaced "final-review") (by decide)
    [r.branchClosureId, r.releaseReadinessRecordId, r.dispatchId, r.reviewerSource, r.reviewerId,
      r.result, r.summaryHash, r.finalReviewFingerprint.getD "none", boolPart r.deviationsRequired,
      boolPart r.browserQaRequired, r.sourcePlanPath, r.sourcePlanRevision.toNat.repr, r.repoSlug,
      r.branchName, r.baseBranch, r.reviewedStateId])
  generalize deterministicRecordId sha _ _ = recordId at *
  generalize finalReviewPayload r recordId (m.entries.length + 1) = payload at *
  -- what is set where the result and the plan for quality assurance call for it
  have hphase : ∀ (u : StateObject) (phase : Json) (g : Field), g ≠ .harnessPhase →
      (if r.result = "pass" then u.set .harnessPhase phase else u) g = u g := by
    intro u phase g hg
    split_ifs
    · exact set_of_ne u _ hg
    · rfl
  have hrequired : ∀ (u : StateObject) (g : Field), g ≠ .browserQaState →
      g ≠ .lastBrowserQaArtifactFingerprint →
      (if r.browserQaRequired = some false then
        (u.set .browserQaState (.str "not_required")).set .lastBrowserQaArtifactFingerprint .null
        else u) g = u g := by
    intro u g hstate hfingerprint
    split_ifs
    · rw [set_of_ne _ _ hfingerprint, set_of_ne _ _ hstate]
    · rfl
  by_cases hchanged : jsonString (s .currentFinalReviewRecordId) = some recordId
  · rw [if_neg (by simpa using hchanged)] at h
    cases h
    refine ⟨⟨?_, ?_⟩, ⟨?_, ?_⟩, ⟨recordId, payload, ?_, ?_⟩, Or.inl ⟨?_, ⟨?_, ?_⟩⟩⟩
    all_goals
      simp (disch := decide) only [hrequired, hphase, set_of_ne, set_self, fileRecord_of_ne,
        fileRecord_history, hid, hchanged, hm]
  · rw [if_pos (by simpa using hchanged)] at h
    obtain ⟨hs', hqa⟩ := markPrevious_ok h
    have hstate : ∀ (u : StateObject) (g : Field), g ≠ .browserQaState →
        (if r.browserQaRequired = some false then u else u.set .browserQaState .null) g = u g := by
      intro u g hg
      split_ifs
      · rfl
      · exact set_of_ne u _ hg
    have hdropped : ∀ f ∈ qaBindings, f ≠ .browserQaState → Dropped s' f := by
      intro f hf hne
      show s' f = some .null
      rw [hs' f (by rintro rfl; exact absurd hf (by decide)), hstate _ _ hne]
      refine setNulls_of_mem _ ?_
      have hcases : f ∈ qaBindings.erase .browserQaState := (List.mem_erase_of_ne hne).mpr hf
      exact List.Subset.trans (by decide) (List.Subset.refl _) hcases
    refine ⟨⟨?_, ?_⟩, ⟨?_, ?_⟩, ⟨recordId, payload, ?_, ?_⟩, Or.inr ⟨⟨?_, ?_⟩, hdropped, ?_⟩⟩
    iterate 4
      · simp (disch := decide) only [hs', hstate, setNulls_of_not_mem, hrequired, hphase, set_of_ne,
          fileRecord_of_ne]
    · simp (disch := decide) only [hs', hstate, setNulls_of_not_mem, hrequired, hphase, set_of_ne,
        set_self, hid]
    · simp (disch := decide) only [hs', hstate, setNulls_of_not_mem, hrequired, hphase, set_of_ne,
        fileRecord_history, hm]
    · rw [hqa]
      simp (disch := decide) only [hstate, setNulls_of_not_mem, hrequired, hphase, set_of_ne,
        fileRecord_of_ne]
    · rw [hdropped _ (by decide) (by decide), jsonString_null]
    · show s' .browserQaState = some .null ∨ _
      rw [hs' _ (by decide)]
      by_cases hqaRequired : r.browserQaRequired = some false
      · simp (disch := decide) only [if_pos hqaRequired, setNulls_of_not_mem, set_of_ne, set_self]
        exact Or.inr trivial
      · rw [if_neg hqaRequired, set_self]
        exact Or.inl rfl

/-- **A browser quality assurance recorded** retires the one before it. -/
theorem recordBrowserQaResult_ok {sha : Sha256Hex} (hsha : ∀ t, Unspaced (sha t))
    {r : BrowserQaResultRecord} {s s' : StateObject} (h : recordBrowserQaResult sha r s = .ok s') :
    Kept .branchClosureRecords .currentBranchClosureId s s' ∧
      Kept .releaseReadinessRecordHistory .currentReleaseReadinessRecordId s s' ∧
      Kept .finalReviewRecordHistory .currentFinalReviewRecordId s s' ∧
      Filed "historical" .browserQaRecordHistory .currentQaRecordId s s' := by
  obtain ⟨m, hm, h⟩ := bind_ok h
  have hm := recordsMut_ok hm
  dsimp only at h
  have hid := jsonString_str (named_deterministicRecordId hsha
    (by decide : Unspaced "browser-qa") (by decide)
    [r.branchClosureId, r.finalReviewRecordId, r.sourcePlanPath, r.sourcePlanRevision.toNat.repr,
      r.repoSlug, r.branchName, r.baseBranch, r.reviewedStateId, r.result, r.summaryHash,
      r.generatedByIdentity, r.sourceTestPlanFingerprint.getD "none",
      r.browserQaFingerprint.getD "none"])
  generalize deterministicRecordId sha _ _ = recordId at *
  generalize browserQaPayload r recordId (m.entries.length + 1) = payload at *
  have hphase : ∀ (u : StateObject) (phase : Json) (g : Field), g ≠ .harnessPhase →
      (if r.result = "pass" then u.set .harnessPhase phase else u) g = u g := by
    intro u phase g hg
    split_ifs
    · exact set_of_ne u _ hg
    · rfl
  cases h
  refine ⟨⟨?_, ?_⟩, ⟨?_, ?_⟩, ⟨?_, ?_⟩, ⟨recordId, payload, ?_, ?_⟩⟩
  all_goals
    simp (disch := decide) only [hphase, set_of_ne, set_self, fileRecord_of_ne, fileRecord_history,
      hid, hm]

/-! ### Runs -/

/-- The four histories are registers of their current ids. -/
structure Milestones (s : StateObject) : Prop where
  branchClosure : Milestone IsSuperseded .branchClosureRecords .currentBranchClosureId s
  releaseReadiness : Milestone IsHistorical .releaseReadinessRecordHistory
    .currentReleaseReadinessRecordId s
  finalReview : Milestone IsHistorical .finalReviewRecordHistory .currentFinalReviewRecordId s
  qa : Milestone IsHistorical .browserQaRecordHistory .currentQaRecordId s

/-- A recording or a clear, each with the time it is done at where it reads the clock. -/
inductive MilestoneOp
  | branchClosure (now : String) (r : BranchClosureResultRecord)
  | releaseReadiness (now : String) (r : ReleaseReadinessResultRecord)
  | finalReview (r : FinalReviewMilestoneRecord)
  | browserQa (r : BrowserQaResultRecord)
  | structuralRepair (now : String)

def MilestoneOp.apply (sha : Sha256Hex) (s : StateObject) : MilestoneOp → Option StateObject
  | branchClosure now r => (recordCurrentBranchClosure sha now r s).toOption
  | releaseReadiness now r => (recordReleaseReadinessResult sha now r s).toOption
  | finalReview r => (recordFinalReviewResult sha r s).toOption
  | browserQa r => (recordBrowserQaResult sha r s).toOption
  | structuralRepair now => (clearCurrentBranchClosureForStructuralRepair sha now s).toOption

/-- A branch closure bears an id that is read back as it is. -/
def MilestoneOp.Issued : MilestoneOp → Prop
  | branchClosure _ r => Named r.branchClosureId
  | _ => True

variable {sha : Sha256Hex} {s s' : StateObject}

theorem ok_of_toOption {α : Type} {x : Except JsonFailure α} {a : α} (h : x.toOption = some a) :
    x = .ok a := by
  cases x with
  | error failure => cases h
  | ok b => exact congrArg _ (Option.some.inj h)

theorem retiredBy_historical : RetiredBy "historical" IsHistorical := historical_markEntry

theorem retiredBy_superseded {status : String} (h : status ≠ "current") :
    RetiredBy status IsSuperseded := superseded_markEntry h

theorem Milestone.of_kept {retired : Json → Prop} {f current : Field}
    (h : Milestone retired f current s) (hk : Kept f current s s') :
    Milestone retired f current s' :=
  h.kept (congrArg objectEntries hk.history) (congrArg jsonString hk.id)

/-- **A step** keeps the registers. -/
theorem Milestones.apply (hsha : ∀ t, Unspaced (sha t)) {op : MilestoneOp} (h : Milestones s)
    (hi : op.Issued) (ha : op.apply sha s = some s') : Milestones s' := by
  have hbranchFell : BranchFell s s' →
      Milestone IsHistorical .releaseReadinessRecordHistory .currentReleaseReadinessRecordId s' ∧
      Milestone IsHistorical .finalReviewRecordHistory .currentFinalReviewRecordId s' ∧
      Milestone IsHistorical .browserQaRecordHistory .currentQaRecordId s' := fun hf =>
    ⟨(h.releaseReadiness.fallen retiredBy_historical hf.releaseReadiness).1,
      (h.finalReview.fallen retiredBy_historical hf.finalReview).1,
      (h.qa.fallen retiredBy_historical hf.qa).1⟩
  cases op with
  | branchClosure now r =>
    obtain ⟨hfell, hfiled⟩ := recordCurrentBranchClosure_ok hi (ok_of_toOption ha)
    obtain ⟨hrr, hfr, hqa⟩ := hbranchFell hfell
    exact ⟨h.branchClosure.filed (retiredBy_superseded (by decide)) hfiled, hrr, hfr, hqa⟩
  | releaseReadiness now r =>
    obtain ⟨hbranch, hfiled, hdown⟩ := recordReleaseReadinessResult_ok hsha (ok_of_toOption ha)
    refine ⟨h.branchClosure.of_kept hbranch, h.releaseReadiness.filed retiredBy_historical hfiled,
      ?_, ?_⟩
    · rcases hdown with ⟨_, hfr, _⟩ | hfell
      · exact h.finalReview.of_kept hfr
      · exact (h.finalReview.fallen retiredBy_historical hfell.finalReview).1
    · rcases hdown with ⟨_, _, hqa⟩ | hfell
      · exact h.qa.of_kept hqa
      · exact (h.qa.fallen retiredBy_historical hfell.qa).1
  | finalReview r =>
    obtain ⟨hbranch, hrr, hfiled, hdown⟩ := recordFinalReviewResult_ok hsha (ok_of_toOption ha)
    refine ⟨h.branchClosure.of_kept hbranch, h.releaseReadiness.of_kept hrr,
      h.finalReview.filed retiredBy_historical hfiled, ?_⟩
    rcases hdown with ⟨_, hqa⟩ | hfell
    · exact h.qa.of_kept hqa
    · exact (h.qa.fallen retiredBy_historical hfell.qa).1
  | browserQa r =>
    obtain ⟨hbranch, hrr, hfr, hfiled⟩ := recordBrowserQaResult_ok hsha (ok_of_toOption ha)
    exact ⟨h.branchClosure.of_kept hbranch, h.releaseReadiness.of_kept hrr,
      h.finalReview.of_kept hfr, h.qa.filed retiredBy_historical hfiled⟩
  | structuralRepair now =>
    rcases clearCurrentBranchClosureForStructuralRepair_ok (ok_of_toOption ha) with rfl | ⟨hfell, hf⟩
    · exact h
    · obtain ⟨hrr, hfr, hqa⟩ := hbranchFell hfell
      exact ⟨(h.branchClosure.fallen (retiredBy_superseded (by decide)) hf).1, hrr, hfr, hqa⟩

/-- A history has at most one current entry, and it is the one the current id names. -/
structure OneCurrent (f current : Field) (s : StateObject) : Prop where
  unique : ∀ k k' v v', (objectEntries (s f)).get? k = some v →
    (objectEntries (s f)).get? k' = some v' → IsCurrent v → IsCurrent v' → k = k'
  named : ∀ k v, (objectEntries (s f)).get? k = some v → IsCurrent v →
    jsonString (s current) = some k

theorem Milestone.oneCurrent {retired : Json → Prop} {f current : Field}
    (hr : ∀ v, retired v → IsSuperseded v) (h : Milestone retired f current s) :
    OneCurrent f current s where
  unique _ _ v v' hv hv' hc hc' :=
    (h.register.unique hv hv' (fun hret => hr v hret hc) fun hret => hr v' hret hc').1
  named k v hv hc := (h.register k v hv).resolve_left fun hret => hr v hret hc

/-- Every entry of a history is historical. -/
def AllHistorical (f : Field) (s : StateObject) : Prop :=
  ∀ k v, (objectEntries (s f)).get? k = some v → IsHistorical v

theorem Milestone.allHistorical {f current : Field} (h : Milestone IsHistorical f current s)
    (hf : Fallen "historical" f current s s') : AllHistorical f s' := by
  intro k v hv
  refine ((h.fallen retiredBy_historical hf).2 k v hv).resolve_right fun hc => ?_
  cases hc

/-- What falls with a branch closure, a release readiness and a final review. -/
structure DownstreamFell (s s' : StateObject) : Prop where
  branchClosure : jsonString (s' .currentBranchClosureId) ≠ jsonString (s .currentBranchClosureId) →
    AllHistorical .releaseReadinessRecordHistory s' ∧ AllHistorical .finalReviewRecordHistory s' ∧
      AllHistorical .browserQaRecordHistory s' ∧
      ∀ f ∈ releaseReadinessBindings ++ finalReviewBindings ++ qaBindings ++
        [.finalReviewDispatchLineage], Dropped s' f
  releaseReadiness : jsonString (s' .currentReleaseReadinessRecordId) ≠
      jsonString (s .currentReleaseReadinessRecordId) →
    AllHistorical .finalReviewRecordHistory s' ∧ AllHistorical .browserQaRecordHistory s' ∧
      ∀ f ∈ finalReviewBindings ++ qaBindings ++ [.finalReviewDispatchLineage], Dropped s' f
  finalReview : jsonString (s' .currentFinalReviewRecordId) ≠
      jsonString (s .currentFinalReviewRecordId) →
    AllHistorical .browserQaRecordHistory s' ∧
      (∀ f ∈ qaBindings, f ≠ .browserQaState → Dropped s' f) ∧
      (Dropped s' .browserQaState ∨ s' .browserQaState = some (.str "not_required"))

theorem Milestones.downstreamFell_of_branchFell (h : Milestones s) (hf : BranchFell s s') :
    DownstreamFell s s' := by
  have hrr := h.releaseReadiness.allHistorical hf.releaseReadiness
  have hfr := h.finalReview.allHistorical hf.finalReview
  have hqa := h.qa.allHistorical hf.qa
  refine ⟨fun _ => ⟨hrr, hfr, hqa, hf.dropped⟩, fun _ => ⟨hfr, hqa, fun f hmem => ?_⟩,
    fun _ => ⟨hqa, fun f hmem _ => ?_, Or.inl (hf.dropped _ (by decide))⟩⟩
  · exact hf.dropped f (List.Subset.trans (by decide) (List.Subset.refl _) hmem)
  · exact hf.dropped f (List.Subset.trans (by decide) (List.Subset.refl _) hmem)

theorem Milestones.downstreamFell_of_releaseReadinessFell (h : Milestones s)
    (hb : Kept .branchClosureRecords .currentBranchClosureId s s')
    (hf : ReleaseReadinessFell s s') : DownstreamFell s s' := by
  have hfr := h.finalReview.allHistorical hf.finalReview
  have hqa := h.qa.allHistorical hf.qa
  refine ⟨fun hne => absurd (congrArg jsonString hb.id) hne, fun _ => ⟨hfr, hqa, hf.dropped⟩,
    fun _ => ⟨hqa, fun f hmem _ => ?_, Or.inl (hf.dropped _ (by decide))⟩⟩
  exact hf.dropped f (List.Subset.trans (by decide) (List.Subset.refl _) hmem)

theorem Milestones.downstreamFell (hsha : ∀ t, Unspaced (sha t)) {op : MilestoneOp}
    (h : Milestones s) (hi : op.Issued) (ha : op.apply sha s = some s') : DownstreamFell s s' := by
  cases op with
  | branchClosure now r =>
    exact h.downstreamFell_of_branchFell (recordCurrentBranchClosure_ok hi (ok_of_toOption ha)).1
  | releaseReadiness now r =>
    obtain ⟨hbranch, _, hdown⟩ := recordReleaseReadinessResult_ok hsha (ok_of_toOption ha)
    rcases hdown with ⟨hid, hfr, _⟩ | hfell
    · exact ⟨fun hne => absurd (congrArg jsonString hbranch.id) hne, fun hne => absurd hid hne,
        fun hne => absurd (congrArg jsonString hfr.id) hne⟩
    · exact h.downstreamFell_of_releaseReadinessFell hbranch hfell
  | finalReview r =>
    obtain ⟨hbranch, hrr, _, hdown⟩ := recordFinalReviewResult_ok hsha (ok_of_toOption ha)
    refine ⟨fun hne => absurd (congrArg jsonString hbranch.id) hne,
      fun hne => absurd (congrArg jsonString hrr.id) hne, fun hne => ?_⟩
    rcases hdown with ⟨hid, _⟩ | hfell
    · exact absurd hid hne
    · exact ⟨h.qa.allHistorical hfell.qa, hfell.dropped, hfell.state⟩
  | browserQa r =>
    obtain ⟨hbranch, hrr, hfr, _⟩ := recordBrowserQaResult_ok hsha (ok_of_toOption ha)
    exact ⟨fun hne => absurd (congrArg jsonString hbranch.id) hne,
      fun hne => absurd (congrArg jsonString hrr.id) hne,
      fun hne => absurd (congrArg jsonString hfr.id) hne⟩
  | structuralRepair now =>
    rcases clearCurrentBranchClosureForStructuralRepair_ok (ok_of_toOption ha) with rfl | ⟨hfell, _⟩
    · exact ⟨fun hne => absurd rfl hne, fun hne => absurd rfl hne, fun hne => absurd rfl hne⟩
    · exact h.downstreamFell_of_branchFell hfell

/-- A history that is absent or empty, and no current id. -/
def NoMilestone (f current : Field) (s : StateObject) : Prop :=
  objectEntries (s f) = .empty ∧ jsonString (s current) = none

theorem NoMilestone.milestone {retired : Json → Prop} {f current : Field}
    (h : NoMilestone f current s) : Milestone retired f current s where
  objects := by rw [h.1]; exact objects_empty
  register := by rw [h.1]; exact register_empty retired _

/-- A state without milestones. -/
structure NoMilestones (s : StateObject) : Prop where
  branchClosure : NoMilestone .branchClosureRecords .currentBranchClosureId s
  releaseReadiness : NoMilestone .releaseReadinessRecordHistory .currentReleaseReadinessRecordId s
  finalReview : NoMilestone .finalReviewRecordHistory .currentFinalReviewRecordId s
  qa : NoMilestone .browserQaRecordHistory .currentQaRecordId s

/-- The runs of recordings and clears. -/
def MilestoneRun (sha : Sha256Hex) (start s : StateObject) : Prop :=
  Machine.Reaches (fun s op => MilestoneOp.apply sha s op) (fun _ op => op.Issued) start s

theorem MilestoneRun.start (sha : Sha256Hex) (s : StateObject) : MilestoneRun sha s s :=
  Machine.Reaches.refl

theorem MilestoneRun.step {start : StateObject} (h : MilestoneRun sha start s) {op : MilestoneOp}
    (hi : op.Issued) (ha : op.apply sha s = some s') : MilestoneRun sha start s' :=
  Machine.Reaches.tail h hi ha

theorem MilestoneRun.milestones (hsha : ∀ t, Unspaced (sha t)) {start : StateObject}
    (hstart : NoMilestones start) (h : MilestoneRun sha start s) : Milestones s :=
  h.invariant
    ⟨hstart.branchClosure.milestone, hstart.releaseReadiness.milestone,
      hstart.finalReview.milestone, hstart.qa.milestone⟩
    fun _ _ _ hu hi ha => hu.apply hsha hi ha

/-- **Milestone currency.**  After every run from a state without milestones each history
has at most one current entry, the one its current id names; and where a step changes a
milestone, the bindings below it are dropped and the histories below it historical. -/
theorem milestone_currency (hsha : ∀ t, Unspaced (sha t)) {start : StateObject}
    (hstart : NoMilestones start) (h : MilestoneRun sha start s) :
    OneCurrent .branchClosureRecords .currentBranchClosureId s ∧
      OneCurrent .releaseReadinessRecordHistory .currentReleaseReadinessRecordId s ∧
      OneCurrent .finalReviewRecordHistory .currentFinalReviewRecordId s ∧
      OneCurrent .browserQaRecordHistory .currentQaRecordId s ∧
      ∀ (op : MilestoneOp) (s' : StateObject), op.Issued → op.apply sha s = some s' →
        DownstreamFell s s' := by
  have hm := h.milestones hsha hstart
  exact ⟨hm.branchClosure.oneCurrent fun _ hret => hret,
    hm.releaseReadiness.oneCurrent fun _ hret => hret.superseded,
    hm.finalReview.oneCurrent fun _ hret => hret.superseded,
    hm.qa.oneCurrent fun _ hret => hret.superseded,
    fun op s' hi ha => hm.downstreamFell hsha hi ha⟩

/-! ### A run -/

def milestoneSha : Sha256Hex := fun _ => "0123456789abcdef"

theorem unspaced_milestoneSha : ∀ t, Unspaced (milestoneSha t) := fun _ => by
  show Unspaced "0123456789abcdef"
  decide

def firstBranchClosure : BranchClosureResultRecord where
  branchClosureId := "branch-closure-0123456789abcdef"
  sourcePlanPath := "docs/featureforge/plans/plan.md"
  sourcePlanRevision := 1
  repoSlug := "repo"
  branchName := "feature"
  baseBranch := "main"
  reviewedStateId := "git_tree:one"
  semanticReviewedStateId := none
  contractIdentity := "contract"
  effectiveReviewedBranchSurface := "repo_tracked_content"
  sourceTaskClosureIds := []
  provenanceBasis := "task_closure_lineage"
  closureStatus := "current"
  supersededBranchClosureIds := []
  branchClosureFingerprint := none

def firstReleaseReadiness : ReleaseReadinessResultRecord where
  branchClosureId := "branch-closure-0123456789abcdef"
  sourcePlanPath := "docs/featureforge/plans/plan.md"
  sourcePlanRevision := 1
  repoSlug := "repo"
  branchName := "feature"
  baseBranch := "main"
  reviewedStateId := "git_tree:one"
  semanticReviewedStateId := none
  result := "ready"
  releaseDocsFingerprint := none
  summary := "ready"
  summaryHash := "hash"
  generatedByIdentity := "featureforge"

theorem issued_firstBranchClosure : (MilestoneOp.branchClosure "0" firstBranchClosure).Issued := by
  show Named "branch-closure-0123456789abcdef"
  constructor <;> decide

theorem noMilestones_emptyState : NoMilestones emptyState := by
  refine ⟨⟨rfl, rfl⟩, ⟨rfl, rfl⟩, ⟨rfl, rfl⟩, ⟨rfl, rfl⟩⟩

theorem milestone_currency_first_release : ∃ s, MilestoneRun milestoneSha emptyState s ∧
    jsonString (s .currentReleaseReadinessRecordId) = some "release-readiness-0123456789abcdef" ∧
    OneCurrent .releaseReadinessRecordHistory .currentReleaseReadinessRecordId s := by
  have hbranch : ((MilestoneOp.branchClosure "0" firstBranchClosure).apply milestoneSha
      emptyState).isSome = true := by decide
  obtain ⟨s, hs⟩ := Option.isSome_iff_exists.mp hbranch
  have hrelease : (((MilestoneOp.branchClosure "0" firstBranchClosure).apply milestoneSha
      emptyState).bind fun s => ((MilestoneOp.releaseReadiness "0" firstReleaseReadiness).apply
        milestoneSha s).bind fun s => jsonString (s .currentReleaseReadinessRecordId)) =
        some "release-readiness-0123456789abcdef" := by decide
  rw [hs, Option.bind_some] at hrelease
  obtain ⟨s', hs', hid⟩ := Option.bind_eq_some_iff.mp hrelease
  have hready : (MilestoneOp.releaseReadiness "0" firstReleaseReadiness).Issued := trivial
  have hrun : MilestoneRun milestoneSha emptyState s' :=
    ((MilestoneRun.start _ _).step issued_firstBranchClosure hs).step hready hs'
  exact ⟨s', hrun, hid,
    (milestone_currency unspaced_milestoneSha noMilestones_emptyState hrun).2.1⟩

end FeatureForge
