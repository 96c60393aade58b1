import FeatureForge.LateStage.Bindings
import FeatureForge.Lib.Except

/-!
# What restoring a milestone does

`settleMilestone` on a milestone that the bindings do not name clears its id and nothing else.  On
one that they name it writes the record out, and reports that it did, each time it is run; only
when the record and the branch closure do not both have, or both lack, a semantic reviewed state
does it leave the fields as they are.
-/

namespace FeatureForge

variable {m : LateStageMilestone} {s s' : StateObject}

/-! ### Reading a record -/

/-- What a payload says of a record that is read from it. -/
structure RecordRead (m : LateStageMilestone) (payload : Json) (record : LateStageRecord) : Prop where
  recordStatus : jsonString (payload.get? "record_status") = some record.recordStatus
  branchClosureId : jsonString (payload.get? "branch_closure_id") = some record.branchClosureId
  reviewedStateId : jsonString (payload.get? "reviewed_state_id") = some record.reviewedStateId
  semantic : jsonString (payload.get? "semantic_reviewed_state_id") = record.semanticReviewedStateId
  result : jsonString (payload.get? "result") = some record.result
  summaryHash : jsonString (payload.get? "summary_hash") = some record.summaryHash
  predecessor : ∀ key previous, m.predecessor = some (key, previous) →
    jsonString (payload.get? key) = record.predecessorRecordId
  required : ∀ key ∈ m.requiredMembers, ∃ text, jsonString (payload.get? key) = some text

theorem recordRead {payload : Json} {record : LateStageRecord}
    (h : lateStageRecordFromPayload m payload = some record) : RecordRead m payload record := by
  unfold lateStageRecordFromPayload at h
  obtain ⟨recordStatus, hstatus, h⟩ := Option.bind_eq_some_iff.mp h
  obtain ⟨branchClosureId, hbranch, h⟩ := Option.bind_eq_some_iff.mp h
  obtain ⟨_, _, h⟩ := Option.bind_eq_some_iff.mp h
  obtain ⟨_, _, h⟩ := Option.bind_eq_some_iff.mp h
  obtain ⟨_, _, h⟩ := Option.bind_eq_some_iff.mp h
  obtain ⟨_, _, h⟩ := Option.bind_eq_some_iff.mp h
  obtain ⟨_, _, h⟩ := Option.bind_eq_some_iff.mp h
  obtain ⟨reviewedStateId, hreviewed, h⟩ := Option.bind_eq_some_iff.mp h
  obtain ⟨result, hresult, h⟩ := Option.bind_eq_some_iff.mp h
  obtain ⟨summaryHash, hsummary, h⟩ := Option.bind_eq_some_iff.mp h
  obtain ⟨_, hguard, h⟩ := Option.bind_eq_some_iff.mp h
  cases h
  refine ⟨hstatus, hbranch, hreviewed, rfl, hresult, hsummary, ?_, ?_⟩
  · intro key previous hprevious
    rw [hprevious]
    rfl
  · intro key hkey
    unfold guard at hguard
    split_ifs at hguard with hall
    exact Option.isSome_iff_exists.mp (List.all_eq_true.mp hall key hkey)

/-! ### Writing it out -/

/-- The fields that the restoration of a milestone may write. -/
def LateStageMilestone.touchedFields : LateStageMilestone → List Field
  | .releaseReadiness => releaseReadinessBindings
  | .finalReview => finalReviewBindings ++ [.browserQaState, .lastBrowserQaArtifactFingerprint]
  | .browserQa => qaBindings

/-- The record stands in the fields of the milestone, as it is read. -/
structure RecordShown (m : LateStageMilestone) (s : StateObject) (record : LateStageRecord) :
    Prop where
  result : jsonString (s m.resultField) = some record.result
  summaryHash : jsonString (s m.summaryHashField) = some record.summaryHash
  branchClosureId : ∀ field, m.branchClosureIdField = some field →
    jsonString (s field) = some record.branchClosureId

/-- The fields that a record is shown in, besides its id. -/
def LateStageMilestone.scalarFields (m : LateStageMilestone) : List Field :=
  [m.resultField, m.summaryHashField] ++ m.branchClosureIdField.toList

theorem RecordShown.congr {record : LateStageRecord} (h : RecordShown m s record)
    (hsame : ∀ f ∈ m.scalarFields, s' f = s f) : RecordShown m s' record := by
  unfold LateStageMilestone.scalarFields at hsame
  refine ⟨?_, ?_, fun field hfield => ?_⟩
  · rw [hsame _ (by simp)]
    exact h.result
  · rw [hsame _ (by simp)]
    exact h.summaryHash
  · rw [hsame _ (by simp [hfield])]
    exact h.branchClosureId field hfield

/-- The texts of a payload that are written out, where it has them. -/
def writtenTexts (m : LateStageMilestone) (payload : Json) : List (Field × String) :=
  m.writtenMembers.map fun member =>
    (member.2, (jsonString (payload.get? member.1)).getD "")

theorem mapM_requiredMember {payload : Json} (members : List (String × Field))
    (h : ∀ member ∈ members, ∃ text, jsonString (payload.get? member.1) = some text) :
    (members.mapM fun member => do
      let text ← requiredMember m payload member.1
      (.ok (member.2, text) : Except JsonFailure (Field × String))) =
        .ok (members.map fun member => (member.2, (jsonString (payload.get? member.1)).getD "")) := by
  refine mapM_eq_ok.mpr (List.forall₂_map_right_iff.mpr (List.forall₂_same.mpr ?_))
  intro member hmem
  obtain ⟨text, htext⟩ := h member hmem
  unfold requiredMember
  rw [htext]
  rfl

theorem RecordRead.written {payload : Json} {record : LateStageRecord}
    (h : RecordRead m payload record) : ∀ member ∈ m.writtenMembers,
      ∃ text, jsonString (payload.get? member.1) = some text := by
  have hrequired := h.required
  cases m <;>
    simp only [LateStageMilestone.requiredMembers, LateStageMilestone.writtenMembers,
      List.forall_mem_cons, List.not_mem_nil, false_implies, implies_true, and_true]
      at hrequired ⊢
  · exact ⟨⟨_, h.result⟩, _, h.summaryHash⟩
  · exact ⟨hrequired.1, hrequired.2.1, hrequired.2.2.1, ⟨_, h.result⟩, _, h.summaryHash⟩
  · exact ⟨⟨_, h.result⟩, _, h.summaryHash⟩

theorem jsonString_str_read {v : Option Json} {text : String} (h : jsonString v = some text) :
    jsonString (some (.str text)) = some text :=
  jsonString_str (trimmed_of_nonBlank h)

/-- **A record that is written out is shown**, and other fields are left. -/
theorem writeOverlayFields_shown {payload : Json} {record : LateStageRecord} {recordId : String}
    (h : RecordRead m payload record) (hid : Named recordId) :
    RecordShown m (writeOverlayFields m recordId record.branchClosureId payload
      (writtenTexts m payload) s) record ∧
    jsonString (writeOverlayFields m recordId record.branchClosureId payload
      (writtenTexts m payload) s m.recordIdField) = some recordId ∧
    ∀ f ∉ m.touchedFields, writeOverlayFields m recordId record.branchClosureId payload
      (writtenTexts m payload) s f = s f := by
  have hbranch := jsonString_str_read h.branchClosureId
  have hresult := jsonString_str_read h.result
  have hsummary := jsonString_str_read h.summaryHash
  have hrecordId := jsonString_str hid
  refine ⟨⟨?_, ?_, fun field hfield => ?_⟩, ?_, fun f hf => ?_⟩
  · cases m <;> simp (disch := decide) only [writeOverlayFields, writtenTexts,
      LateStageMilestone.writtenMembers, LateStageMilestone.branchClosureIdField,
      LateStageMilestone.recordIdField, LateStageMilestone.stateField,
      LateStageMilestone.fingerprintField, LateStageMilestone.resultField, List.map_cons,
      List.map_nil, List.foldl_cons, List.foldl_nil, set_of_ne, set_self, h.result,
      Option.getD_some, hresult]
  · cases m <;> simp (disch := decide) only [writeOverlayFields, writtenTexts,
      LateStageMilestone.writtenMembers, LateStageMilestone.branchClosureIdField,
      LateStageMilestone.recordIdField, LateStageMilestone.stateField,
      LateStageMilestone.fingerprintField, LateStageMilestone.summaryHashField, List.map_cons,
      List.map_nil, List.foldl_cons, List.foldl_nil, set_of_ne, set_self, h.summaryHash,
      Option.getD_some, hsummary]
  · cases m with
    | releaseReadiness => cases hfield
    | finalReview | browserQa =>
      cases hfield
      simp (disch := decide) only [writeOverlayFields, writtenTexts,
        LateStageMilestone.writtenMembers, LateStageMilestone.branchClosureIdField,
        LateStageMilestone.recordIdField, LateStageMilestone.stateField,
        LateStageMilestone.fingerprintField, List.map_cons, List.map_nil, List.foldl_cons,
        List.foldl_nil, set_of_ne, set_self, hbranch]
  · cases m <;> simp (disch := decide) only [writeOverlayFields,
      LateStageMilestone.recordIdField, LateStageMilestone.stateField,
      LateStageMilestone.fingerprintField, set_of_ne, set_self, hrecordId]
  · cases m <;>
      simp only [LateStageMilestone.touchedFields, releaseReadinessBindings, finalReviewBindings,
        qaBindings, List.cons_append, List.nil_append, List.mem_cons, List.not_mem_nil, or_false,
        not_or] at hf <;>
      simp only [writeOverlayFields, writtenTexts, LateStageMilestone.writtenMembers,
        LateStageMilestone.branchClosureIdField, LateStageMilestone.recordIdField,
        LateStageMilestone.stateField, LateStageMilestone.fingerprintField, List.map_cons,
        List.map_nil, List.foldl_cons, List.foldl_nil, set_apply, hf, if_false]

/-! ### Restoring -/

/-- The record `id` of a milestone is the bound one, current, of the bound branch closure, and
made over the record that the state is bound to before it. -/
structure RecordBound (m : LateStageMilestone) (s : StateObject)
    (identity : CurrentBranchClosureIdentity) (id : String) (record : LateStageRecord) : Prop where
  read : lateStageRecordById m s id = some record
  bound : jsonString (s m.recordIdField) = some id
  recordStatus : record.recordStatus = "current"
  branch : boundCurrentBranchClosureIdentity s = some identity
  branchClosureId : record.branchClosureId = identity.branchClosureId
  predecessor : ∀ key previous, m.predecessor = some (key, previous) → ∃ previousId,
    jsonString (s previous.recordIdField) = some previousId ∧
      record.predecessorRecordId = some previousId

theorem boundIdentity_id {identity : CurrentBranchClosureIdentity}
    (h : boundCurrentBranchClosureIdentity s = some identity) :
    jsonString (s .currentBranchClosureId) = some identity.branchClosureId := by
  obtain ⟨branchClosureId, hid, h⟩ := Option.bind_eq_some_iff.mp h
  obtain ⟨_, _, rfl⟩ := Option.map_eq_some_iff.mp h
  exact hid

theorem lateStageRecordMatches_iff (identity : CurrentBranchClosureIdentity)
    (semantic : Option String) :
    lateStageRecordMatchesCurrentBranchIdentity identity semantic = true ↔
      identity.semanticReviewedStateId = semantic := by
  unfold lateStageRecordMatchesCurrentBranchIdentity
  cases identity.semanticReviewedStateId <;> cases semantic <;> simp

section

variable {identity : CurrentBranchClosureIdentity} {id : String} {record : LateStageRecord}

/-- **A bound record is written out** if it has the semantic id of the branch closure, and else
passed over. -/
theorem RecordBound.restoreOverlayFields (h : RecordBound m s identity id record) :
    ∃ payload, RecordRead m payload record ∧ FeatureForge.restoreOverlayFields m s = .ok
      (if identity.semanticReviewedStateId = record.semanticReviewedStateId then
        (some payload, writeOverlayFields m id record.branchClosureId payload
          (writtenTexts m payload) s)
      else (none, s)) := by
  obtain ⟨payload, hpayload, hread⟩ := Option.bind_eq_some_iff.mp h.read
  have hget : (objectEntries (s m.historyField)).get? id = some payload := by
    rw [recordPayloadById, nonBlank_of_trimmed (trimmed_of_nonBlank h.bound)] at hpayload
    exact hpayload
  have hrecord := recordRead hread
  refine ⟨payload, hrecord, ?_⟩
  have hentry : currentRecordEntry s m = some (id, payload) := by
    rw [currentRecordEntry, h.bound, Option.bind_some, hget, Option.bind_some,
      hrecord.recordStatus, h.recordStatus, if_pos rfl]
  have hbranch : requiredMember m payload "branch_closure_id" = .ok record.branchClosureId := by
    rw [requiredMember, hrecord.branchClosureId]
  have hreviewed : requiredMember m payload "reviewed_state_id" = .ok record.reviewedStateId := by
    rw [requiredMember, hrecord.reviewedStateId]
  have hrecoverable : recoverableCurrentBranchClosureIdentity s = some identity := by
    rw [recoverableCurrentBranchClosureIdentity, h.branch]
  have hover : overBoundPredecessor m payload s = true := by
    unfold overBoundPredecessor
    cases hprevious : m.predecessor with
    | none => rfl
    | some previous =>
      obtain ⟨previousId, hbound, hpredecessor⟩ := h.predecessor _ _ hprevious
      dsimp only
      rw [hbound, hrecord.predecessor _ _ hprevious, hpredecessor]
      exact decide_eq_true rfl
  unfold FeatureForge.restoreOverlayFields
  rw [hentry]
  refine bind_eq_ok.mpr ⟨_, hbranch, bind_eq_ok.mpr ⟨_, hreviewed, ?_⟩⟩
  rw [hrecoverable, hrecord.semantic]
  dsimp only
  by_cases hsemantic : identity.semanticReviewedStateId = record.semanticReviewedStateId
  · have hmatches := (lateStageRecordMatches_iff identity record.semanticReviewedStateId).mpr
      hsemantic
    have hcurrent : ((jsonString (s .currentBranchClosureId)).any (· ≠ record.branchClosureId)) =
        false := by
      rw [boundIdentity_id h.branch, Option.any_some, h.branchClosureId]
      exact decide_eq_false fun hne => hne rfl
    have hpassed : ¬ (identity.branchClosureId ≠ record.branchClosureId ∨
        lateStageRecordMatchesCurrentBranchIdentity identity record.semanticReviewedStateId =
          false) := by
      rintro (hne | hne)
      · exact hne h.branchClosureId.symm
      · rw [hmatches] at hne
        cases hne
    rw [if_neg hpassed, hcurrent, if_neg Bool.false_ne_true, hover, if_neg nofun, if_pos hsemantic,
      mapM_requiredMember _ hrecord.written]
    rfl
  · have hmatches : lateStageRecordMatchesCurrentBranchIdentity identity
        record.semanticReviewedStateId = false := by
      rw [← Bool.not_eq_true, lateStageRecordMatches_iff]
      exact hsemantic
    rw [if_pos (Or.inr hmatches), if_neg hsemantic]

theorem recordIdField_touched (m : LateStageMilestone) : m.recordIdField ∈ m.touchedFields := by
  cases m <;> decide

theorem markBrowserQaNotRequired_of_ne (payload : Json) (s : StateObject) {f : Field}
    (hstate : f ≠ .browserQaState) (hfingerprint : f ≠ .lastBrowserQaArtifactFingerprint) :
    markBrowserQaNotRequired payload s f = s f := by
  unfold markBrowserQaNotRequired
  split_ifs
  · rw [set_of_ne _ _ hfingerprint, set_of_ne _ _ hstate]
  · rfl

/-- **The restoration of a bound record**: it says that it restored it, whether or not the fields
had it before, unless the record is passed over. -/
theorem RecordBound.restore (h : RecordBound m s identity id record) :
    ∃ s', m.restore s =
        .ok (decide (identity.semanticReviewedStateId = record.semanticReviewedStateId), s') ∧
      (identity.semanticReviewedStateId ≠ record.semanticReviewedStateId → s' = s) ∧
      (identity.semanticReviewedStateId = record.semanticReviewedStateId →
        RecordShown m s' record ∧ jsonString (s' m.recordIdField) = some id) ∧
      ∀ f ∉ m.touchedFields, s' f = s f := by
  obtain ⟨payload, hread, hrestore⟩ := h.restoreOverlayFields
  have hwritten := writeOverlayFields_shown (s := s) hread (trimmed_of_nonBlank h.bound)
  by_cases hsemantic : identity.semanticReviewedStateId = record.semanticReviewedStateId
  · rw [if_pos hsemantic] at hrestore
    rw [decide_eq_true hsemantic]
    obtain ⟨hshown, hid, hframe⟩ := hwritten
    cases m with
    | releaseReadiness | browserQa =>
      refine ⟨_, ?_, fun hne => absurd hsemantic hne, fun _ => ⟨hshown, hid⟩, hframe⟩
      show (FeatureForge.restoreOverlayFields _ s >>= _) = _
      rw [hrestore]
      rfl
    | finalReview =>
      refine ⟨markBrowserQaNotRequired payload (writeOverlayFields .finalReview id
        record.branchClosureId payload (writtenTexts .finalReview payload) s), ?_,
        fun hne => absurd hsemantic hne, fun _ => ⟨hshown.congr fun f hf => ?_, ?_⟩,
        fun f hf => ?_⟩
      · show (FeatureForge.restoreOverlayFields _ s >>= _) = _
        rw [hrestore]
        rfl
      · have hqa : f ≠ .browserQaState ∧ f ≠ .lastBrowserQaArtifactFingerprint := by
          revert hf
          cases f <;> decide
        exact markBrowserQaNotRequired_of_ne _ _ hqa.1 hqa.2
      · rw [markBrowserQaNotRequired_of_ne _ _ (by decide) (by decide)]
        exact hid
      · have hqa : f ≠ .browserQaState ∧ f ≠ .lastBrowserQaArtifactFingerprint := by
          revert hf
          cases f <;> decide
        rw [markBrowserQaNotRequired_of_ne _ _ hqa.1 hqa.2]
        exact hframe f hf
  · rw [if_neg hsemantic] at hrestore
    rw [decide_eq_false hsemantic]
    refine ⟨s, ?_, fun _ => rfl, fun heq => absurd heq hsemantic, fun _ _ => rfl⟩
    cases m with
    | releaseReadiness | browserQa | finalReview =>
      show (FeatureForge.restoreOverlayFields _ s >>= _) = _
      rw [hrestore]
      rfl

end

end FeatureForge
