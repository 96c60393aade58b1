import FeatureForge.Closures.Recordings

/-!
# The numbers of the records

Every recording numbers its record with one more than the history holds, also where the record
takes the place of one with its id.  What a recording does to the numbers is said once for each
recorder (`FilesNext`); all else that it does leaves them (`KeepsNumbers`).  So the numbers are
distinct, and the latest record has the greatest, as long as no record of another id has a
number above the count of its history (`RecordsInOrder.apply`).
-/

namespace FeatureForge

/-- The histories whose records are numbered. -/
def recordHistories : List Field :=
  [.taskClosureRecordHistory, .taskClosureNegativeResultHistory, .branchClosureRecords,
   .releaseReadinessRecordHistory, .finalReviewRecordHistory, .browserQaRecordHistory]

def recordSequence (record : Json) : Option Nat :=
  (record.get? "record_sequence").bind Json.asU64

/-- The number of a record in a history. -/
def numberOf (history : Object) (id : String) : Option Nat :=
  (history.get? id).bind recordSequence

/-! ### What leaves the numbers -/

/-- The same records, with the same numbers. -/
structure SameNumbers (history history' : Object) : Prop where
  length : history'.entries.length = history.entries.length
  contains id : history'.contains id = history.contains id
  number id : numberOf history' id = numberOf history id

theorem SameNumbers.refl (history : Object) : SameNumbers history history :=
  ⟨rfl, fun _ => rfl, fun _ => rfl⟩

theorem SameNumbers.trans {a b c : Object} (h : SameNumbers a b) (h' : SameNumbers b c) :
    SameNumbers a c :=
  ⟨h'.length.trans h.length, fun id => (h'.contains id).trans (h.contains id),
    fun id => (h'.number id).trans (h.number id)⟩

theorem sameNumbers_markRecordStatus (history : Object) (id status : String) :
    SameNumbers history (markRecordStatus history id status) := by
  refine ⟨OrderedMap.length_mapVal _ _, fun key => ?_, fun key => ?_⟩
  · rw [markRecordStatus, OrderedMap.contains, OrderedMap.get?_mapVal, Option.isSome_map]
    rfl
  · rw [markRecordStatus, numberOf, numberOf, OrderedMap.get?_mapVal]
    cases history.get? key with
    | none => rfl
    | some record =>
      rw [Option.map_some, Option.bind_some, Option.bind_some]
      split_ifs
      · cases hobject : record.asObject with
        | none => rfl
        | some members =>
          rw [Json.asObject_eq_some.mp hobject, recordSequence, recordSequence, Json.get?_obj,
            setStatus, OrderedMap.get?_insert_of_ne _ _ (by decide), Json.get?_obj]
          split_ifs
          · rw [setStatus, OrderedMap.get?_insert_of_ne _ _ (by decide)]
          · rfl
      · rfl

theorem sameNumbers_markAll (history : Object) (status : String) (ids : List String) :
    SameNumbers history (markAll status history ids) :=
  List.foldlRecOn ids _ (motive := SameNumbers history) (.refl history) fun _ ih id _ =>
    ih.trans (sameNumbers_markRecordStatus _ id status)

/-- Nothing is recorded. -/
def KeepsNumbers (s s' : StateObject) : Prop :=
  ∀ f ∈ recordHistories, SameNumbers (objectEntries (s f)) (objectEntries (s' f))

namespace KeepsNumbers

variable {s t s' : StateObject}

theorem refl (s : StateObject) : KeepsNumbers s s := fun _ _ => .refl _

theorem trans (h : KeepsNumbers s t) (h' : KeepsNumbers t s') : KeepsNumbers s s' :=
  fun f hf => (h f hf).trans (h' f hf)

theorem of_eq (h : ∀ f ∈ recordHistories, s' f = s f) : KeepsNumbers s s' := fun f hf => by
  rw [h f hf]
  exact .refl _

theorem set {f : Field} {v : Json} (h : KeepsNumbers s t) (hf : f ∉ recordHistories) :
    KeepsNumbers s (t.set f v) :=
  h.trans (of_eq fun _ hg => set_of_ne t v fun heq => hf (heq ▸ hg))

theorem setNulls {fields : List Field} (h : KeepsNumbers s t)
    (hfields : ∀ f ∈ recordHistories, f ∉ fields) : KeepsNumbers s (t.setNulls fields) :=
  h.trans (of_eq fun f hf => setNulls_of_not_mem t (hfields f hf))

theorem ite {c : Prop} [Decidable c] (h : KeepsNumbers s t) (h' : KeepsNumbers s s') :
    KeepsNumbers s (if c then t else s') := by
  split_ifs
  · exact h
  · exact h'

theorem marked {f : Field} {ids : List String} {status : String}
    (hsame : ∀ g, g ≠ f → s' g = s g)
    (hmarked : objectEntries (s' f) = markAll status (objectEntries (s f)) ids) :
    KeepsNumbers s s' := by
  intro g _
  by_cases hg : g = f
  · rw [hg, hmarked]
    exact sameNumbers_markAll _ _ _
  · rw [hsame g hg]
    exact .refl _

theorem markPrevious {f : Field} {previous : Option String} {status : String}
    (h : FeatureForge.markPrevious f previous status s = .ok s') : KeepsNumbers s s' := by
  obtain ⟨hsame, hmarked⟩ := markPrevious_ok h
  rw [marked_eq_markAll] at hmarked
  exact marked hsame hmarked

theorem markPrevious_if {f : Field} {previous : Option String} {status : String} {c : Bool}
    (h : (if c then FeatureForge.markPrevious f previous status s else .ok s) = .ok s') :
    KeepsNumbers s s' := by
  cases c with
  | true => exact markPrevious h
  | false =>
    cases h
    exact refl s

theorem archive_if {sha : Sha256Hex} {now status : String} {c : Bool}
    (h : (if c then archiveFinalReviewDispatchLineageRecord sha now status s else .ok s) = .ok s') :
    KeepsNumbers s s' :=
  of_eq fun f hf => archive_if_ok h f fun heq => absurd (heq ▸ hf) (by decide)

theorem append {f : Field} {values : List String}
    (h : appendUniqueStringArray f values s = .ok s') (hf : f ∉ recordHistories) :
    KeepsNumbers s s' :=
  of_eq fun g hg => appendUniqueStringArray_ok h g fun heq => hf (heq ▸ hg)

theorem takeBack {scopeKeys closureIds : List String} {status : String}
    (h : takeBackTaskClosures scopeKeys closureIds status s = .ok s') : KeepsNumbers s s' := by
  obtain ⟨hsame, _, hmarked⟩ := takeBackTaskClosures_ok h
  intro f hf
  by_cases hhistory : f = .taskClosureRecordHistory
  · rw [hhistory, hmarked]
    exact sameNumbers_markAll _ _ _
  · rw [hsame f (fun heq => absurd (heq ▸ hf) (by decide)) hhistory]
    exact .refl _

theorem clearNegative {task : UInt32} (h : clearTaskClosureNegativeResult task s = .ok s') :
    KeepsNumbers s s' := by
  obtain ⟨hmarked, _⟩ := clearNegative_maps h
  intro f hf
  by_cases hhistory : f = .taskClosureNegativeResultHistory
  · rw [hhistory, hmarked]
    exact sameNumbers_markAll _ _ _
  · rw [clearTaskClosureNegativeResult_ok h f (fun heq => absurd (heq ▸ hf) (by decide)) hhistory]
    exact .refl _

end KeepsNumbers

/-! ### What a recording numbers -/

/-- One record is filed in a history, with the next number. -/
structure FilesNext (f : Field) (id : String) (s s' : StateObject) : Prop where
  others : ∀ g ∈ recordHistories, g ≠ f → SameNumbers (objectEntries (s g)) (objectEntries (s' g))
  filed : ∃ (history : Object) (record : Object), SameNumbers (objectEntries (s f)) history ∧
    record.get? "record_sequence" = some (.u64 ((objectEntries (s f)).entries.length + 1)) ∧
    SameNumbers (history.insert id (.obj record)) (objectEntries (s' f))

section

variable {f : Field} {id : String} {s t s' : StateObject}

theorem FilesNext.after (h : FilesNext f id t s') (h' : KeepsNumbers s t) (hf : f ∈ recordHistories) :
    FilesNext f id s s' := by
  obtain ⟨history, record, hhistory, hsequence, hfiled⟩ := h.filed
  rw [(h' f hf).length] at hsequence
  exact ⟨fun g hg hne => (h' g hg).trans (h.others g hg hne),
    history, record, (h' f hf).trans hhistory, hsequence, hfiled⟩

theorem FilesNext.before (h : FilesNext f id s t) (h' : KeepsNumbers t s') (hf : f ∈ recordHistories) :
    FilesNext f id s s' := by
  obtain ⟨history, record, hhistory, hsequence, hfiled⟩ := h.filed
  exact ⟨fun g hg hne => (h.others g hg hne).trans (h' g hg),
    history, record, hhistory, hsequence, hfiled.trans (h' f hf)⟩

theorem FilesNext.number (h : FilesNext f id s s') (id' : String) :
    numberOf (objectEntries (s' f)) id' = if id' = id then
      some ((objectEntries (s f)).entries.length + 1) else numberOf (objectEntries (s f)) id' := by
  obtain ⟨history, record, hhistory, hsequence, hfiled⟩ := h.filed
  rw [hfiled.number, ← hhistory.number, numberOf, OrderedMap.get?_insert]
  split_ifs
  · rw [Option.bind_some, recordSequence, Json.get?_obj, hsequence]
    rfl
  · rfl

theorem FilesNext.contains (h : FilesNext f id s s') (id' : String) :
    (objectEntries (s' f)).contains id' =
      (decide (id' = id) || (objectEntries (s f)).contains id') := by
  obtain ⟨history, record, hhistory, _, hfiled⟩ := h.filed
  rw [hfiled.contains, ← hhistory.contains, OrderedMap.contains, OrderedMap.contains,
    OrderedMap.get?_insert]
  by_cases hid : id' = id
  · rw [if_pos hid, decide_eq_true hid]
    rfl
  · rw [if_neg hid, decide_eq_false hid, Bool.false_or]

/-- A record put in its history, after marks there. -/
theorem FilesNext.of_insert {history record : Object}
    (hothers : ∀ g ∈ recordHistories, g ≠ f → s' g = s g)
    (hhistory : SameNumbers (objectEntries (s f)) history)
    (hsequence : record.get? "record_sequence" =
      some (.u64 ((objectEntries (s f)).entries.length + 1)))
    (hfiled : objectEntries (s' f) = history.insert id (.obj record)) : FilesNext f id s s' := by
  refine ⟨fun g hg hne => ?_, history, record, hhistory, hsequence, ?_⟩
  · rw [hothers g hg hne]
    exact .refl _
  · rw [hfiled]
    exact .refl _

theorem filesNext_fileRecord {previous : Option String} {payload : Object}
    (hsequence : payload.get? "record_sequence" =
      some (.u64 ((objectEntries (s f)).entries.length + 1))) :
    FilesNext f id s (fileRecord f (objectEntries (s f)) previous id payload s) := by
  refine .of_insert (fun g _ hne => fileRecord_of_ne _ _ _ _ s hne) ?_ hsequence
    (fileRecord_history f _ previous id payload s)
  split_ifs
  · exact .refl _
  · rw [marked_eq_markAll]
    exact sameNumbers_markAll _ _ _

end

/-! ### The recordings -/

/-- A recording, with the time it is done at where it reads the clock. -/
inductive RecordingOp
  | taskClosure (r : TaskClosureResultRecord) (supersededTasks : List UInt32)
      (supersededIds : List String)
  | negativeResult (r : TaskClosureNegativeResultRecord)
  | branchClosure (now : String) (r : BranchClosureResultRecord)
  | releaseReadiness (now : String) (r : ReleaseReadinessResultRecord)
  | finalReview (r : FinalReviewMilestoneRecord)
  | browserQa (r : BrowserQaResultRecord)

def RecordingOp.apply (sha : Sha256Hex) (s : StateObject) : RecordingOp → Option StateObject
  | taskClosure r tasks ids => (recordCurrentTaskClosure r tasks ids s).toOption
  | negativeResult r => (recordTaskClosureNegativeResult r s).toOption
  | branchClosure now r => (recordCurrentBranchClosure sha now r s).toOption
  | releaseReadiness now r => (recordReleaseReadinessResult sha now r s).toOption
  | finalReview r => (recordFinalReviewResult sha r s).toOption
  | browserQa r => (recordBrowserQaResult sha r s).toOption

def RecordingOp.history : RecordingOp → Field
  | taskClosure .. => .taskClosureRecordHistory
  | negativeResult _ => .taskClosureNegativeResultHistory
  | branchClosure .. => .branchClosureRecords
  | releaseReadiness .. => .releaseReadinessRecordHistory
  | finalReview _ => .finalReviewRecordHistory
  | browserQa _ => .browserQaRecordHistory

/-- The id that a recording files its record under. -/
def RecordingOp.recordId (sha : Sha256Hex) (s : StateObject) : RecordingOp → String
  | taskClosure r _ _ => r.closureRecordId
  | negativeResult r => negativeResultId r.task r.dispatchId
  | branchClosure _ r => r.branchClosureId
  | releaseReadiness _ r => nextAvailableHistoryRecordId
      (objectEntries (s .releaseReadinessRecordHistory))
      (deterministicRecordId sha "release-readiness"
        [r.branchClosureId, r.reviewedStateId, r.sourcePlanPath, r.sourcePlanRevision.toNat.repr,
         r.repoSlug, r.branchName, r.baseBranch, r.result, r.summaryHash, r.generatedByIdentity,
         r.releaseDocsFingerprint.getD "none"])
      (jsonString (s .currentReleaseReadinessRecordId))
  | finalReview r => deterministicRecordId sha "final-review"
      [r.branchClosureId, r.releaseReadinessRecordId, r.dispatchId, r.reviewerSource, r.reviewerId,
       r.result, r.summaryHash, r.finalReviewFingerprint.getD "none",
       boolPart r.deviationsRequired, boolPart r.browserQaRequired, r.sourcePlanPath,
       r.sourcePlanRevision.toNat.repr, r.repoSlug, r.branchName, r.baseBranch, r.reviewedStateId]
  | browserQa r => deterministicRecordId sha "browser-qa"
      [r.branchClosureId, r.finalReviewRecordId, r.sourcePlanPath, r.sourcePlanRevision.toNat.repr,
       r.repoSlug, r.branchName, r.baseBranch, r.reviewedStateId, r.result, r.summaryHash,
       r.generatedByIdentity, r.sourceTestPlanFingerprint.getD "none",
       r.browserQaFingerprint.getD "none"]

theorem RecordingOp.history_mem (op : RecordingOp) : op.history ∈ recordHistories := by
  cases op <;> simp [RecordingOp.history, recordHistories]

section

variable {sha : Sha256Hex} {s s' : StateObject}

theorem sequence_taskClosurePayload (r : TaskClosureResultRecord) (runIdentity : Option Json)
    (n : Nat) : (taskClosurePayload r runIdentity n).get? "record_sequence" = some (.u64 n) := by
  rw [taskClosurePayload_get? _ _ _ (by decide)]
  rfl

theorem sequence_negativeResultPayload (r : TaskClosureNegativeResultRecord) (n : Nat) :
    (negativeResultPayload r n).get? "record_sequence" = some (.u64 n) := by
  rw [negativeResultPayload, insertPresent_get?_of_ne _ _ (by decide)]
  simp [negativeResultMembers, OrderedMap.ofList, OrderedMap.get?_insert]

theorem sequence_branchClosurePayload (r : BranchClosureResultRecord) (n : Nat) :
    (branchClosurePayload r n).get? "record_sequence" = some (.u64 n) := by
  rw [branchClosurePayload, insertPresent_get?_of_ne _ _ (by decide),
    insertPresent_get?_of_ne _ _ (by decide)]
  simp [OrderedMap.ofList]

theorem sequence_releaseReadinessPayload (r : ReleaseReadinessResultRecord) (id : String)
    (n : Nat) : (releaseReadinessPayload r id n).get? "record_sequence" = some (.u64 n) := by
  simp [releaseReadinessPayload, OrderedMap.ofList, OrderedMap.get?_insert]

theorem sequence_finalReviewPayload (r : FinalReviewMilestoneRecord) (id : String) (n : Nat) :
    (finalReviewPayload r id n).get? "record_sequence" = some (.u64 n) := by
  simp [finalReviewPayload, OrderedMap.ofList, OrderedMap.get?_insert]

theorem sequence_browserQaPayload (r : BrowserQaResultRecord) (id : String) (n : Nat) :
    (browserQaPayload r id n).get? "record_sequence" = some (.u64 n) := by
  simp [browserQaPayload, OrderedMap.ofList, OrderedMap.get?_insert]

theorem filesNext_taskClosure {r : TaskClosureResultRecord} {tasks : List UInt32}
    {ids : List String} (h : recordCurrentTaskClosure r tasks ids s = .ok s') :
    FilesNext .taskClosureRecordHistory r.closureRecordId s s' := by
  obtain ⟨s₁, hremove, h⟩ := bind_ok h
  obtain ⟨s₂, hclear, h⟩ := bind_ok h
  obtain ⟨s₃, happend, h⟩ := bind_ok h
  have hkeeps : KeepsNumbers s s₃ := ((KeepsNumbers.takeBack hremove).trans
    (.clearNegative hclear)).trans (.append happend (by decide))
  obtain ⟨hsame, hfiled, _⟩ := recordTaskClosureResult_maps h
  refine FilesNext.after (.of_insert (fun g hg hne => ?_) (.refl _)
    (sequence_taskClosurePayload _ _ _) hfiled) hkeeps (by decide)
  exact hsame g (fun heq => absurd (heq ▸ hg) (by decide)) hne

theorem filesNext_negativeResult {r : TaskClosureNegativeResultRecord}
    (h : recordTaskClosureNegativeResult r s = .ok s') :
    FilesNext .taskClosureNegativeResultHistory (negativeResultId r.task r.dispatchId) s s' := by
  obtain ⟨hsame, hfiled, _⟩ := recordNegative_maps h
  refine .of_insert (fun g hg hne => ?_) (.refl _) (sequence_negativeResultPayload _ _) hfiled
  exact hsame g (fun heq => absurd (heq ▸ hg) (by decide)) hne

theorem keepsNumbers_setCurrentBranchClosureId {now id reviewed contract : String}
    (h : setCurrentBranchClosureId sha now id reviewed contract s = .ok s') :
    KeepsNumbers s s' := by
  obtain ⟨s₁, harchive, h⟩ := bind_ok h
  obtain ⟨s₂, hmark₂, h⟩ := bind_ok h
  obtain ⟨s₃, hmark₃, h⟩ := bind_ok h
  obtain ⟨s₄, hmark₄, h⟩ := bind_ok h
  refine (KeepsNumbers.archive_if harchive).trans (.trans ?_ (((KeepsNumbers.markPrevious_if hmark₂).trans
    (.markPrevious hmark₃)).trans ((KeepsNumbers.markPrevious hmark₄).trans (.markPrevious h))))
  exact ((((KeepsNumbers.refl s₁).set (by decide)).set (by decide)).set (by decide)).setNulls
    (by decide)

theorem filesNext_branchClosure {now : String} {r : BranchClosureResultRecord}
    (h : recordCurrentBranchClosure sha now r s = .ok s') :
    FilesNext .branchClosureRecords r.branchClosureId s s' := by
  obtain ⟨s₁, hrecord, h⟩ := bind_ok h
  obtain ⟨s₂, happend, h⟩ := bind_ok h
  obtain ⟨hsame, hfiled⟩ := recordBranchClosure_ok hrecord
  refine FilesNext.before (.of_insert (fun g hg hne => ?_) (.refl _)
    (sequence_branchClosurePayload _ _) hfiled) ((KeepsNumbers.append happend (by decide)).trans
      (keepsNumbers_setCurrentBranchClosureId h)) (by decide)
  exact hsame g hne fun heq => absurd (heq ▸ hg) (by decide)

theorem filesNext_releaseReadiness {now : String} {r : ReleaseReadinessResultRecord}
    (h : recordReleaseReadinessResult sha now r s = .ok s') :
    FilesNext .releaseReadinessRecordHistory
      ((RecordingOp.releaseReadiness now r).recordId sha s) s s' := by
  obtain ⟨history, hhistory, h⟩ := bind_ok h
  obtain ⟨s₁, harchive, h⟩ := bind_ok h
  rw [recordsMut_ok hhistory] at harchive h
  show FilesNext _ (nextAvailableHistoryRecordId _ _ _) s s'
  dsimp only at harchive h
  generalize nextAvailableHistoryRecordId _ _ _ = recordId at harchive h ⊢
  refine FilesNext.before (filesNext_fileRecord (sequence_releaseReadinessPayload r _ _))
    ((KeepsNumbers.archive_if harchive).trans ?_) (by decide)
  have hset : ∀ phase docs, KeepsNumbers s₁ ((((((s₁.set .currentReleaseReadinessResult
      (.str r.result)).set .currentReleaseReadinessSummaryHash (.str r.summaryHash)).set
      .currentReleaseReadinessRecordId (.str recordId)).set .releaseDocsState
      (.str "fresh")).set .harnessPhase phase).set .lastReleaseDocsArtifactFingerprint docs) :=
    fun _ _ => ((((((KeepsNumbers.refl s₁).set (by decide)).set (by decide)).set (by decide)).set
      (by decide)).set (by decide)).set (by decide)
  by_cases hchanged : (jsonString (s .currentReleaseReadinessRecordId) != some recordId) = true
  · rw [if_pos hchanged] at h
    obtain ⟨s₂, hmark, h⟩ := bind_ok h
    exact (((hset _ _).setNulls (by decide)).trans (.markPrevious hmark)).trans (.markPrevious h)
  · rw [if_neg hchanged] at h
    cases h
    exact hset _ _

theorem filesNext_finalReview {r : FinalReviewMilestoneRecord}
    (h : recordFinalReviewResult sha r s = .ok s') :
    FilesNext .finalReviewRecordHistory ((RecordingOp.finalReview r).recordId sha s) s s' := by
  obtain ⟨history, hhistory, h⟩ := bind_ok h
  rw [recordsMut_ok hhistory] at h
  show FilesNext _ (deterministicRecordId _ _ _) s s'
  dsimp only at h
  generalize deterministicRecordId _ _ _ = recordId at h ⊢
  have hfiled : FilesNext .finalReviewRecordHistory recordId s (fileRecord
      .finalReviewRecordHistory (objectEntries (s .finalReviewRecordHistory))
      (jsonString (s .currentFinalReviewRecordId)) recordId (finalReviewPayload r recordId
        ((objectEntries (s .finalReviewRecordHistory)).entries.length + 1)) s) :=
    filesNext_fileRecord (sequence_finalReviewPayload r _ _)
  refine hfiled.before ?_ (by decide)
  generalize fileRecord .finalReviewRecordHistory _ _ _ _ _ = s₁ at h ⊢
  have hbound : KeepsNumbers s₁ ((((((((s₁.set .currentFinalReviewBranchClosureId
      (.str r.branchClosureId)).set .currentFinalReviewDispatchId (.str r.dispatchId)).set
      .currentFinalReviewReviewerSource (.str r.reviewerSource)).set
      .currentFinalReviewReviewerId (.str r.reviewerId)).set
      .currentFinalReviewResult (.str r.result)).set
      .currentFinalReviewSummaryHash (.str r.summaryHash)).set
      .currentFinalReviewRecordId (.str recordId)).set .finalReviewState (.str "fresh")) :=
    ((((((((KeepsNumbers.refl s₁).set (by decide)).set (by decide)).set (by decide)).set
      (by decide)).set (by decide)).set (by decide)).set (by decide)).set (by decide)
  have hset : ∀ {u : StateObject} {phase fingerprint : Json}, KeepsNumbers s₁ u → KeepsNumbers s₁
      (if r.browserQaRequired = some false then
        ((((if r.result = "pass" then u.set .harnessPhase phase else u).set
          .lastFinalReviewArtifactFingerprint fingerprint).set .browserQaState
            (.str "not_required")).set .lastBrowserQaArtifactFingerprint .null)
      else (if r.result = "pass" then u.set .harnessPhase phase else u).set
        .lastFinalReviewArtifactFingerprint fingerprint) := fun {u phase fingerprint} hu => by
    have hphase : KeepsNumbers s₁ ((if r.result = "pass" then u.set .harnessPhase phase
        else u).set .lastFinalReviewArtifactFingerprint fingerprint) :=
      .set (.ite (hu.set (by decide)) hu) (by decide)
    exact .ite ((hphase.set (by decide)).set (by decide)) hphase
  by_cases hchanged : (jsonString (s .currentFinalReviewRecordId) != some recordId) = true
  · rw [if_pos hchanged] at h
    refine KeepsNumbers.trans ?_ (.markPrevious h)
    exact .ite ((hset hbound).setNulls (by decide))
      (((hset hbound).setNulls (by decide)).set (by decide))
  · rw [if_neg hchanged] at h
    cases h
    exact hset hbound

theorem filesNext_browserQa {r : BrowserQaResultRecord}
    (h : recordBrowserQaResult sha r s = .ok s') :
    FilesNext .browserQaRecordHistory ((RecordingOp.browserQa r).recordId sha s) s s' := by
  obtain ⟨history, hhistory, h⟩ := bind_ok h
  rw [recordsMut_ok hhistory] at h
  show FilesNext _ (deterministicRecordId _ _ _) s s'
  dsimp only at h
  generalize deterministicRecordId _ _ _ = recordId at h ⊢
  have hfiled : FilesNext .browserQaRecordHistory recordId s (fileRecord .browserQaRecordHistory
      (objectEntries (s .browserQaRecordHistory)) (jsonString (s .currentQaRecordId)) recordId
      (browserQaPayload r recordId
        ((objectEntries (s .browserQaRecordHistory)).entries.length + 1)) s) :=
    filesNext_fileRecord (sequence_browserQaPayload r _ _)
  refine hfiled.before ?_ (by decide)
  generalize fileRecord .browserQaRecordHistory _ _ _ _ _ = s₁ at h
  have hbound : KeepsNumbers s₁ (((((s₁.set .currentQaBranchClosureId (.str r.branchClosureId)).set
      .currentQaResult (.str r.result)).set .currentQaSummaryHash (.str r.summaryHash)).set
      .currentQaRecordId (.str recordId)).set .browserQaState (.str "fresh")) :=
    (((((KeepsNumbers.refl s₁).set (by decide)).set (by decide)).set (by decide)).set
      (by decide)).set (by decide)
  cases h
  exact .set (.ite (hbound.set (by decide)) hbound) (by decide)

theorem RecordingOp.filesNext {op : RecordingOp} (h : op.apply sha s = some s') :
    FilesNext op.history (op.recordId sha s) s s' := by
  cases op with
  | taskClosure r tasks ids => exact filesNext_taskClosure (ok_of_toOption h)
  | negativeResult r => exact filesNext_negativeResult (ok_of_toOption h)
  | branchClosure now r => exact filesNext_branchClosure (ok_of_toOption h)
  | releaseReadiness now r => exact filesNext_releaseReadiness (ok_of_toOption h)
  | finalReview r => exact filesNext_finalReview (ok_of_toOption h)
  | browserQa r => exact filesNext_browserQa (ok_of_toOption h)

end

/-! ### Runs -/

/-- A state, and the id under which each history was recorded to last. -/
structure RecordedState where
  state : StateObject
  latest : Field → Option String

def RecordedState.step (sha : Sha256Hex) (s : RecordedState) (op : RecordingOp) :
    Option RecordedState :=
  (op.apply sha s.state).map fun state =>
    ⟨state, Function.update s.latest op.history (some (op.recordId sha s.state))⟩

/-- The numbers of a history are distinct, and the record of an id has the greatest. -/
structure InOrder (history : Object) (latest : Option String) : Prop where
  numbered : ∀ id, history.contains id = true → (numberOf history id).isSome = true
  distinct : ∀ id id' n, numberOf history id = some n → numberOf history id' = some n → id = id'
  greatest : ∀ id, latest = some id → ∃ n, numberOf history id = some n ∧
    ∀ id' n', numberOf history id' = some n' → n' ≤ n

/-- **In every history** the numbers of the records are in the order of recording. -/
def RecordsInOrder (s : RecordedState) : Prop :=
  ∀ f ∈ recordHistories, InOrder (objectEntries (s.state f)) (s.latest f)

/-- No record of another id has a number above the count of the history. -/
def NumberFree (sha : Sha256Hex) (s : RecordedState) (op : RecordingOp) : Prop :=
  ∀ record ∈ (objectEntries (s.state op.history)).entries, record.1 ≠ op.recordId sha s.state →
    ∀ n, recordSequence record.2 = some n → n ≤ (objectEntries (s.state op.history)).entries.length

instance (sha : Sha256Hex) (s : RecordedState) (op : RecordingOp) :
    Decidable (NumberFree sha s op) :=
  inferInstanceAs (Decidable (∀ record ∈ (objectEntries (s.state op.history)).entries,
    record.1 ≠ op.recordId sha s.state → ∀ n ∈ recordSequence record.2,
      n ≤ (objectEntries (s.state op.history)).entries.length))

section

variable {sha : Sha256Hex} {s s' : RecordedState} {op : RecordingOp}

theorem InOrder.congr {history history' : Object} {latest : Option String}
    (h : InOrder history latest) (hsame : SameNumbers history history') :
    InOrder history' latest where
  numbered id hid := by
    rw [hsame.number]
    exact h.numbered id ((hsame.contains id).symm.trans hid)
  distinct id id' n hid hid' := by
    rw [hsame.number] at hid hid'
    exact h.distinct id id' n hid hid'
  greatest id hid := by
    obtain ⟨n, hn, hmax⟩ := h.greatest id hid
    refine ⟨n, (hsame.number id).trans hn, fun id' n' hn' => hmax id' n' ?_⟩
    rw [← hsame.number, hn']

/-- **A recording keeps the order** where the next number is free. -/
theorem RecordsInOrder.apply (h : RecordsInOrder s) (hfree : NumberFree sha s op)
    (hstep : s.step sha op = some s') : RecordsInOrder s' := by
  obtain ⟨state, happly, rfl⟩ := Option.map_eq_some_iff.mp hstep
  have hfiled := RecordingOp.filesNext happly
  intro f hf
  by_cases hhistory : f = op.history
  · rw [hhistory]
    have horder := h op.history op.history_mem
    have hbelow : ∀ id n, id ≠ op.recordId sha s.state →
        numberOf (objectEntries (s.state op.history)) id = some n →
          n ≤ (objectEntries (s.state op.history)).entries.length := by
      intro id n hid hn
      obtain ⟨record, hget, hsequence⟩ := Option.bind_eq_some_iff.mp hn
      exact hfree (id, record) (OrderedMap.mem_entries.mpr hget) hid n hsequence
    refine ⟨fun id hid => ?_, fun id id' n hn hn' => ?_, fun id hid => ?_⟩
    · rw [hfiled.number]
      split_ifs with heq
      · rfl
      · rw [hfiled.contains, decide_eq_false heq, Bool.false_or] at hid
        exact horder.numbered id hid
    · rw [hfiled.number] at hn hn'
      split_ifs at hn hn' with heq heq' heq'
      · rw [heq, heq']
      · have hle := hbelow id' n heq' hn'
        cases hn
        omega
      · have hle := hbelow id n heq hn
        cases hn'
        omega
      · exact horder.distinct id id' n hn hn'
    · dsimp only at hid
      rw [Function.update_self] at hid
      cases hid
      refine ⟨_, by rw [hfiled.number, if_pos rfl], fun id' n' hn' => ?_⟩
      rw [hfiled.number] at hn'
      split_ifs at hn' with heq
      · cases hn'
        exact le_refl _
      · exact (hbelow id' n' heq hn').trans (Nat.le_succ _)
  · dsimp only
    rw [Function.update_of_ne hhistory]
    exact (h f hf).congr (hfiled.others f hf hhistory)

end

end FeatureForge
