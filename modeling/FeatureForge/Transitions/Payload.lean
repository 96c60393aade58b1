import FeatureForge.EventLog.Chain
import FeatureForge.EventLog.Delta

/-!
# The payload of a transition state

`AuthoritativeTransitionState` changes the reduced state in memory before a command
persists it.  Here are the pieces its recordings share: the record maps, which are made
objects where they are absent and refused where they are something else
(`recordsMut`), the status of a record (`markRecordStatus`), and the ids of new records
(`deterministicRecordId`, `nextAvailableHistoryRecordId`).
-/

namespace FeatureForge

/-- `root.insert`. -/
def StateObject.set (s : StateObject) (f : Field) (v : Json) : StateObject :=
  Function.update s f (some v)

def StateObject.setNulls (s : StateObject) (fields : List Field) : StateObject :=
  fields.foldl (fun s f => s.set f .null) s

section

variable (s : StateObject)

theorem set_apply (f : Field) (v : Json) (g : Field) :
    s.set f v g = if g = f then some v else s g := Function.update_apply s f (some v) g

theorem set_self (f : Field) (v : Json) : s.set f v f = some v := by rw [set_apply, if_pos rfl]

theorem set_of_ne {f g : Field} (v : Json) (h : g ≠ f) : s.set f v g = s g := by
  rw [set_apply, if_neg h]

theorem setNulls_apply : ∀ (fields : List Field) (s : StateObject) (g : Field),
    s.setNulls fields g = if g ∈ fields then some .null else s g := by
  intro fields
  induction fields with
  | nil => intro s g; rfl
  | cons f fields ih =>
    intro s g
    show (s.set f .null).setNulls fields g = _
    rw [ih, set_apply]
    by_cases hg : g ∈ fields
    · rw [if_pos hg, if_pos (List.mem_cons_of_mem _ hg)]
    · rw [if_neg hg]
      by_cases hf : g = f
      · rw [if_pos hf, if_pos (List.mem_cons.mpr (Or.inl hf))]
      · rw [if_neg hf, if_neg fun h => (List.mem_cons.mp h).elim hf hg]

theorem setNulls_of_mem {fields : List Field} {g : Field} (h : g ∈ fields) :
    s.setNulls fields g = some .null := by
  rw [setNulls_apply, if_pos h]

theorem setNulls_of_not_mem {fields : List Field} {g : Field} (h : g ∉ fields) :
    s.setNulls fields g = s g := by
  rw [setNulls_apply, if_neg h]

end

/-- A text or null. -/
def optionStr (v : Option String) : Json := (v.map Json.str).getD .null

def strArr (values : List String) : Json := .arr (values.map .str)

def mustBeObject (f : Field) : JsonFailure where
  errorClass := .malformedExecutionState
  message := "Authoritative harness " ++ f.name ++ " must be a JSON object."

/-- The entries of a map that is absent or an object; the accessors `.._mut` differ in
the field only. -/
def recordsMut (f : Field) (s : StateObject) : Except JsonFailure Object :=
  match s f with
  | none => .ok .empty
  | some v =>
    match v.asObject with
    | some m => .ok m
    | none => .error (mustBeObject f)

def setStatus (key status : String) (record : Object) : Object := record.insert key (.str status)

/-- `mark_record_status`: of every entry with the id that is an object. -/
def markRecordStatus (records : Object) (recordId status : String) : Object :=
  records.mapVal fun entryKey record =>
    if recordEntryMatchesId entryKey record recordId then
      match record.asObject with
      | some record =>
        .obj (setStatus "record_status" status
          (if record.contains "closure_status" then setStatus "closure_status" status record
            else record))
      | none => record
    else record

/-- Marks a record of a field, if there is an id to mark it by. -/
def markPrevious (f : Field) (previous : Option String) (status : String) (s : StateObject) :
    Except JsonFailure StateObject :=
  match previous with
  | none => .ok s
  | some recordId => do
    let records ← recordsMut f s
    .ok (s.set f (.obj (markRecordStatus records recordId status)))

/-! ### Ids of records -/

/-- `deterministic_record_id`. -/
def deterministicRecordId (sha : Sha256Hex) (kind : String) (parts : List String) : String :=
  let digest := sha (kind.toList ++ parts.flatMap fun part => '\n' :: part.toList)
  kind ++ "-" ++ String.ofList (digest.toList.take 16)

def occurrenceId (baseRecordId : String) (occurrence : Nat) : String :=
  baseRecordId ++ "-" ++ occurrence.repr

/-- The search for a free id from an occurrence on; among `n` ids one is free where
fewer than `n` records are there. -/
def firstFreeId (records : Object) (baseRecordId : String) : Nat → Nat → String
  | 0, occurrence => occurrenceId baseRecordId occurrence
  | n + 1, occurrence =>
    let candidate := occurrenceId baseRecordId occurrence
    if records.contains candidate then firstFreeId records baseRecordId n (occurrence + 1)
    else candidate

/-- `next_available_history_record_id`. -/
def nextAvailableHistoryRecordId (records : Object) (baseRecordId : String)
    (activeRecordId : Option String) : String :=
  if !records.contains baseRecordId || activeRecordId = some baseRecordId then baseRecordId
  else firstFreeId records baseRecordId records.entries.length 2

/-! ### The dispatch lineage of the final review -/

def recordSequenceFromDispatchRecord (record : Json) : Option Nat :=
  ((record.get? "record_sequence").bind Json.asU64).filter (0 < ·)

/-- `next_dispatch_record_sequence`, saturating. -/
def nextDispatchRecordSequence (records : Object) : Nat :=
  min (((records.entries.filterMap fun e => recordSequenceFromDispatchRecord e.2).max?.getD 0) + 1)
    (2 ^ 64 - 1)

/-- A member in place only where there is none. -/
def insertAbsent (m : Object) (key : String) (v : Json) : Object :=
  if m.contains key then m else m.insert key v

/-- `archive_final_review_dispatch_lineage_record`, at the time `now`. -/
def archiveFinalReviewDispatchLineageRecord (sha : Sha256Hex) (now status : String)
    (s : StateObject) : Except JsonFailure StateObject :=
  match (s .finalReviewDispatchLineage).bind Json.asObject with
  | none => .ok s
  | some current =>
    let dispatchId := jsonString (current.get? "dispatch_id")
    let branchClosureId := jsonString (current.get? "branch_closure_id")
    let recordId := (jsonString (current.get? "record_id")).or (dispatchId.map fun dispatchId =>
      deterministicRecordId sha "final-review-dispatch" [branchClosureId.getD "none", dispatchId])
    match recordId with
    | none => .ok s
    | some recordId => do
      let history ← recordsMut .finalReviewDispatchLineageHistory s
      let sequence := (((history.get? recordId).bind recordSequenceFromDispatchRecord).or
        (recordSequenceFromDispatchRecord (.obj current))).getD (nextDispatchRecordSequence history)
      let archived := setStatus "status_updated_at" now (setStatus "status" status
        (setStatus "record_status" status (((current.insert "record_id" (.str recordId))).insert
          "record_sequence" (.u64 sequence))))
      let archived := if (jsonString (archived.get? "recorded_at")).isNone then
        archived.insert "recorded_at" (.str now) else archived
      let archived := insertAbsent archived "dispatch_provenance" (.record
        [("scope_type", .str "final_review"),
         ("scope_key", .str (branchClosureId.getD "unknown"))])
      .ok (s.set .finalReviewDispatchLineageHistory (.obj (history.insert recordId (.obj archived))))

/-- `append_unique_string_array`. -/
def appendUniqueStringArray (f : Field) (values : List String) (s : StateObject) :
    Except JsonFailure StateObject :=
  match ((s f).getD (.arr [])).asArray with
  | none => .error {
      errorClass := .executionStateNotReady
      message := "Authoritative harness " ++ f.name ++ " must be a JSON array." }
  | some items =>
    .ok (s.set f (.arr (values.foldl (fun items value =>
      let trimmed := trim value
      if trimmed = "" ∨ .str trimmed ∈ items then items else items ++ [.str trimmed]) items)))

end FeatureForge
