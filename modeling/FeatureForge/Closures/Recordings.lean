import FeatureForge.Closures.TaskState

/-!
# Recordings of the outcomes of tasks

What a closure, a negative result, and the clearing of one do to the maps of current records and
to the histories, whatever the state is (`closeCurrentTask_maps`, `recordNegative_maps`,
`clearNegative_maps`).
-/

namespace FeatureForge

structure TaskClosureNegativeResultRecord where
  task : UInt32
  dispatchId : String
  reviewedStateId : String
  semanticReviewedStateId : Option String
  contractIdentity : String
  reviewResult : String
  reviewSummaryHash : String
  verificationResult : String
  verificationSummaryHash : String

/-- The id of a negative result in its history. -/
def negativeResultId (task : UInt32) (dispatchId : String) : String :=
  taskScopeKey task ++ ":" ++ dispatchId

def negativeResultMembers (r : TaskClosureNegativeResultRecord) (sequence : Nat) :
    List (String × Json) :=
  [("task", .u64 r.task.toNat),
   ("record_id", .str (negativeResultId r.task r.dispatchId)),
   ("record_sequence", .u64 sequence),
   ("record_status", .str "current"),
   ("dispatch_id", .str r.dispatchId),
   ("closure_record_id", .null),
   ("reviewed_state_id", .str r.reviewedStateId),
   ("contract_identity", .str r.contractIdentity),
   ("review_result", .str r.reviewResult),
   ("review_summary_hash", .str r.reviewSummaryHash),
   ("verification_result", .str r.verificationResult),
   ("verification_summary_hash", .str r.verificationSummaryHash)]

def negativeResultPayload (r : TaskClosureNegativeResultRecord) (sequence : Nat) : Object :=
  insertPresent (OrderedMap.ofList (negativeResultMembers r sequence))
    "semantic_reviewed_state_id" r.semanticReviewedStateId

/-- `record_task_closure_negative_result`. -/
def recordTaskClosureNegativeResult (r : TaskClosureNegativeResultRecord) (s : StateObject) :
    Except JsonFailure StateObject := do
  let payload : Json := .obj (negativeResultPayload r
    ((objectEntries (s .taskClosureNegativeResultHistory)).entries.length + 1))
  let records ← recordsMut .taskClosureNegativeResultRecords s
  let s := s.set .taskClosureNegativeResultRecords
    (.obj (records.insert (taskScopeKey r.task) payload))
  let history ← recordsMut .taskClosureNegativeResultHistory s
  .ok (s.set .taskClosureNegativeResultHistory
    (.obj (history.insert (negativeResultId r.task r.dispatchId) payload)))

variable {s s' : StateObject}

/-- What a recording files, in the map of current records and in the history. -/
theorem recordTaskClosureResult_maps {r : TaskClosureResultRecord}
    (h : recordTaskClosureResult r s = .ok s') :
    SameBut s s' ∧
      objectEntries (s' .taskClosureRecordHistory) =
        (objectEntries (s .taskClosureRecordHistory)).insert r.closureRecordId
          (.obj (taskClosurePayload r (s .runIdentity)
            ((objectEntries (s .taskClosureRecordHistory)).entries.length + 1))) ∧
      objectEntries (s' .currentTaskClosureRecords) =
        (objectEntries (s .currentTaskClosureRecords)).insert (taskScopeKey r.task)
          (.obj (taskClosurePayload r (s .runIdentity)
            ((objectEntries (s .taskClosureRecordHistory)).entries.length + 1))) := by
  obtain ⟨records, hrecords, h⟩ := bind_ok h
  obtain ⟨history, hhistory, h⟩ := bind_ok h
  cases h
  refine ⟨fun g hcurrent hhistory => ?_, ?_, ?_⟩
  · rw [set_of_ne _ _ hhistory, set_of_ne _ _ hcurrent]
  · rw [set_self, objectEntries_obj, recordsMut_ok hhistory, set_of_ne _ _ (by decide)]
  · rw [set_of_ne _ _ (by decide), set_self, objectEntries_obj, recordsMut_ok hrecords]

theorem recordNegative_maps {r : TaskClosureNegativeResultRecord}
    (h : recordTaskClosureNegativeResult r s = .ok s') :
    (∀ g, g ≠ .taskClosureNegativeResultRecords → g ≠ .taskClosureNegativeResultHistory →
      s' g = s g) ∧
      objectEntries (s' .taskClosureNegativeResultHistory) =
        (objectEntries (s .taskClosureNegativeResultHistory)).insert
          (negativeResultId r.task r.dispatchId) (.obj (negativeResultPayload r
            ((objectEntries (s .taskClosureNegativeResultHistory)).entries.length + 1))) ∧
      objectEntries (s' .taskClosureNegativeResultRecords) =
        (objectEntries (s .taskClosureNegativeResultRecords)).insert (taskScopeKey r.task)
          (.obj (negativeResultPayload r
            ((objectEntries (s .taskClosureNegativeResultHistory)).entries.length + 1))) := by
  obtain ⟨records, hrecords, h⟩ := bind_ok h
  obtain ⟨history, hhistory, h⟩ := bind_ok h
  cases h
  refine ⟨fun g hcurrent hhistory => ?_, ?_, ?_⟩
  · rw [set_of_ne _ _ hhistory, set_of_ne _ _ hcurrent]
  · rw [set_self, objectEntries_obj, recordsMut_ok hhistory, set_of_ne _ _ (by decide)]
  · rw [set_of_ne _ _ (by decide), set_self, objectEntries_obj, recordsMut_ok hrecords]

theorem clearNegative_maps {task : UInt32} (h : clearTaskClosureNegativeResult task s = .ok s') :
    objectEntries (s' .taskClosureNegativeResultHistory) =
        markAll "historical" (objectEntries (s .taskClosureNegativeResultHistory))
          ((taskClosureNegativeResult s task).map fun result =>
            negativeResultId task result.dispatchId).toList ∧
      objectEntries (s' .taskClosureNegativeResultRecords) =
        (objectEntries (s .taskClosureNegativeResultRecords)).erase (taskScopeKey task) := by
  obtain ⟨records, hrecords, h⟩ := bind_ok h
  obtain ⟨hsame, hmarked⟩ := markPrevious_ok h
  constructor
  · rw [hmarked, set_of_ne _ _ (by decide), marked_eq_markAll]
    rfl
  · rw [hsame _ (by decide), set_self, objectEntries_obj, recordsMut_ok hrecords]

/-- **What closing a task files**, whatever the state is: the tasks it supersedes lose their
current closures, and the closure is filed with the next number. -/
theorem closeCurrentTask_files {plan : ActivePlan} {r : TaskClosureResultRecord}
    (h : closeCurrentTask plan r s = .ok s') :
    ∃ ids : List String, ∃ payload,
      payload = .obj (taskClosurePayload r (s .runIdentity)
        ((objectEntries (s .taskClosureRecordHistory)).entries.length + 1)) ∧
      objectEntries (s' .taskClosureRecordHistory) = (markAll "superseded"
        (objectEntries (s .taskClosureRecordHistory)) ids).insert r.closureRecordId payload ∧
      objectEntries (s' .currentTaskClosureRecords) =
        (((supersededTaskClosureRecords plan s r.task r.closureRecordId
          r.effectiveReviewedSurfacePaths).map fun record => taskScopeKey record.task).foldl
            OrderedMap.erase (objectEntries (s .currentTaskClosureRecords))).insert
          (taskScopeKey r.task) payload := by
  obtain ⟨s₁, hremove, h⟩ := bind_ok h
  obtain ⟨s₂, hclear, h⟩ := bind_ok h
  obtain ⟨s₃, happend, h⟩ := bind_ok h
  obtain ⟨hsame₁, hcurrent₁, hhistory₁⟩ := takeBackTaskClosures_ok hremove
  have hsame₂ := clearTaskClosureNegativeResult_ok hclear
  have hsame₃ := appendUniqueStringArray_ok happend
  have hframe : ∀ g, g ≠ .taskClosureNegativeResultRecords →
      g ≠ .taskClosureNegativeResultHistory → g ≠ .supersededTaskClosureIds → s₃ g = s₁ g :=
    fun g hrecords hhistory hids => (hsame₃ g hids).trans (hsame₂ g hrecords hhistory)
  obtain ⟨_, hhistory, hcurrent⟩ := recordTaskClosureResult_maps h
  have hrun : s₃ .runIdentity = s .runIdentity := by
    rw [hframe _ (by decide) (by decide) (by decide), hsame₁ _ (by decide) (by decide)]
  rw [hframe _ (by decide) (by decide) (by decide), hrun, hhistory₁, length_markAll] at hhistory
  rw [hframe _ (by decide) (by decide) (by decide),
    hframe .taskClosureRecordHistory (by decide) (by decide) (by decide), hrun, hhistory₁,
    length_markAll, hcurrent₁, List.map_map] at hcurrent
  exact ⟨_, _, rfl, hhistory, hcurrent⟩

end FeatureForge
