import FeatureForge.Diagnostics
import FeatureForge.EventLog.Reduce
import FeatureForge.Routing.PublicCommand

/-!
# From a command to its event

`event_from_command_authoritative_delta`: a command hands over its name and the
state it has changed, and the event that is appended says which fields differ from
the state reduced so far.  The name of the command, and for two names the fields
that differ, decide the kind; the kind decides which fields the event has slots
for.

`facts_eventFromCommand` is the one fact the rest uses of this function: the event
carries the differing fields of its slots and no others.
-/

namespace FeatureForge

/-! ### Reading the state -/

/-- `json_string`: the text at a key, blanks around it dropped, unless it is blank. -/
def jsonString (v : Option Json) : Option String := nonBlank (v.bind Json.asStr)

/-- `u32::try_from`. -/
def u32TryFrom (n : Nat) : Option UInt32 := if n < 2 ^ 32 then some (UInt32.ofNat n) else none

/-- `json_u32`. -/
def jsonU32 (v : Option Json) : Option UInt32 := (v.bind Json.asU64).bind u32TryFrom

def jsonMember (v : Option Json) (key : String) : Option Json := v.bind (·.get? key)

def repairFollowUpRecordFromState (state : StateObject) : Option RepairFollowUpRecord :=
  (state .reviewStateRepairFollowUpRecord).bind RepairFollowUpRecord.fromValue

def dispatchScopeFromState (state : StateObject) : Option String :=
  if (jsonString (state .currentFinalReviewDispatchId)).isSome then some "final_review"
  else if (jsonString (state .currentTaskReviewDispatchId)).isSome then some "task"
  else none

def currentDispatchIdFromState (state : StateObject) : Option String :=
  (jsonString (state .currentTaskReviewDispatchId)).or
    (jsonString (state .currentFinalReviewDispatchId))

def currentTaskClosureEntries (state : StateObject) : List Json :=
  (objectEntries (state .currentTaskClosureRecords)).entries.map Prod.snd

def newestCurrentTaskFromState (state : StateObject) : Option UInt32 :=
  (((currentTaskClosureEntries state).filterMap fun entry =>
    jsonU32 (entry.get? "task")).map UInt32.toNat).max?.map UInt32.ofNat

def newestCurrentTaskClosureIdFromState (state : StateObject) : Option String :=
  ((currentTaskClosureEntries state).filterMap fun entry =>
    jsonString (entry.get? "closure_record_id")).getLast?

/-! ### What differs -/

/-- `changed_record_map_entries`. -/
def changedRecordMapEntries (before after : Option Json) : Json :=
  .obj (OrderedMap.diff .null (objectEntries before) (objectEntries after))

/-- `changed_authoritative_field_value`, on the two values of the field. -/
def changedAuthoritativeFieldValue (before after : StateObject) (f : Field) : Option Json :=
  if before f = after f then none
  else if f ∈ recordMapDeltaFields then some (changedRecordMapEntries (before f) (after f))
  else some ((after f).getD .null)

def collectChangedAuthoritativeFields (before after : StateObject) (fields : List Field) :
    AuthoritativeFactBuilder :=
  .collect fields (changedAuthoritativeFieldValue before after)

def eventFieldsChanged (before after : StateObject) (fields : List Field) : Bool :=
  fields.any fun f => (changedAuthoritativeFieldValue before after f).isSome

def dispatchStateChanged (before after : StateObject) : Bool :=
  eventFieldsChanged before after dispatchPrimaryEventFields

def repairFollowUpTargetsBranchClosure (state : StateObject) : Bool :=
  (repairFollowUpRecordFromState state).any fun record => record.targetScope == .branchClosure

def branchClosureRepairFollowUpChanged (before after : StateObject) : Bool :=
  eventFieldsChanged before after branchClosureRepairEventFields &&
    (repairFollowUpTargetsBranchClosure before || repairFollowUpTargetsBranchClosure after)

def branchClosureStateChanged (before after : StateObject) : Bool :=
  eventFieldsChanged before after branchClosurePrimaryEventFields ||
    branchClosureRepairFollowUpChanged before after

def releaseReadinessStateChanged (before after : StateObject) : Bool :=
  eventFieldsChanged before after releaseReadinessPrimaryEventFields

def finalReviewStateChanged (before after : StateObject) : Bool :=
  eventFieldsChanged before after finalReviewPrimaryEventFields

def qaStateChanged (before after : StateObject) : Bool :=
  eventFieldsChanged before after qaPrimaryEventFields

/-! ### The event -/

def branchClosureEvent (before after : StateObject) : ExecutionEvent :=
  .branchClosureRecorded (jsonString (after .currentBranchClosureId))
    ((collectChangedAuthoritativeFields before after branchClosureEventFields).into _)

def releaseReadinessEvent (before after : StateObject) : ExecutionEvent :=
  .releaseReadinessRecorded (jsonString (after .currentReleaseReadinessRecordId))
    ((collectChangedAuthoritativeFields before after releaseReadinessEventFields).into _)

def finalReviewEvent (before after : StateObject) : ExecutionEvent :=
  .finalReviewRecorded (jsonString (after .currentFinalReviewRecordId))
    (jsonString (after .currentFinalReviewDispatchId))
    ((collectChangedAuthoritativeFields before after finalReviewEventFields).into _)

def qaEvent (before after : StateObject) : ExecutionEvent :=
  .qaRecorded (jsonString (after .currentQaRecordId))
    ((collectChangedAuthoritativeFields before after qaEventFields).into _)

def dispatchEvent (before after : StateObject) : ExecutionEvent :=
  .dispatchRecorded (dispatchScopeFromState after) (currentDispatchIdFromState after)
    ((collectChangedAuthoritativeFields before after dispatchEventFields).into _)

def taskClosureEvent (before after : StateObject) : ExecutionEvent :=
  .taskClosureRecorded (newestCurrentTaskFromState after)
    (newestCurrentTaskClosureIdFromState after)
    ((collectChangedAuthoritativeFields before after taskClosureEventFields).into _)

def repairEvent (before after : StateObject) : ExecutionEvent :=
  let facts := (collectChangedAuthoritativeFields before after repairEventFields).into _
  match repairFollowUpRecordFromState after with
  | some record => .repairFollowUpSet (some record) facts
  | none => .repairFollowUpCleared facts

def strategyEvent (before after : StateObject) : ExecutionEvent :=
  let kind := jsonString (after .strategyCheckpointKind)
  let fingerprint := jsonString (after .lastStrategyCheckpointFingerprint)
  let facts := (collectChangedAuthoritativeFields before after strategyEventFields).into _
  if fingerprint.isSome || kind.isSome then .strategyCheckpointRecorded kind fingerprint facts
  else .strategyCheckpointCleared facts

/-- The first of the late-stage states that changed names the event. -/
def advanceLateStageEvent (before after : StateObject) : ExecutionEvent :=
  if branchClosureStateChanged before after then branchClosureEvent before after
  else if releaseReadinessStateChanged before after then releaseReadinessEvent before after
  else if finalReviewStateChanged before after then finalReviewEvent before after
  else if qaStateChanged before after then qaEvent before after
  else if dispatchStateChanged before after then dispatchEvent before after
  else strategyEvent before after

/-- The task, respectively the step, of the open step: from the hint, else from the
new state, else, where a step is completed, from the old one. -/
def openStepNumber (key : String) (isComplete : Bool) (before after : StateObject)
    (hint : Option UInt32) : Option UInt32 :=
  (hint.or (jsonU32 (jsonMember (after .currentOpenStepState) key))).or
    (if isComplete then jsonU32 (jsonMember (before .currentOpenStepState) key) else none)

def unmappedCommand (command : String) : JsonFailure where
  errorClass := .partialAuthoritativeMutation
  message := "Event-log append for command \x60" ++ command ++
    "\x60 is blocked until it is mapped to an explicit typed execution event."

/-- `event_from_command_authoritative_delta`. -/
def eventFromCommandAuthoritativeDelta (command : String) (before after : StateObject)
    (stepHint : Option (UInt32 × UInt32)) : Except JsonFailure ExecutionEvent :=
  let command := trim command
  let publicKind := PublicCommandKind.fromPublicMutationToken command
  let isComplete := publicKind == some .complete
  let task := openStepNumber "task" isComplete before after (stepHint.map Prod.fst)
  let step := openStepNumber "step" isComplete before after (stepHint.map Prod.snd)
  let stepState := (collectChangedAuthoritativeFields before after stepEventFields).into _
  let runMetadata := (collectChangedAuthoritativeFields before after runMetadataFields).into _
  match publicKind with
  | some .begin => .ok (.begin task step stepState)
  | some .complete => .ok (.complete task step stepState)
  | some .reopen => .ok (.reopen task step stepState)
  | some .transfer =>
    .ok (.transfer (jsonString (after .currentTransferScope))
      (jsonString (after .currentTransferTo))
      ((collectChangedAuthoritativeFields before after transferEventFields).into _))
  | _ =>
    if command = "note" then
      .ok (.note task step (jsonString (jsonMember (after .currentOpenStepState) "note_state"))
        stepState)
    else if command = "record_review_dispatch" then .ok (dispatchEvent before after)
    else if command = "close_current_task" then
      if dispatchStateChanged before after then .ok (dispatchEvent before after)
      else .ok (taskClosureEvent before after)
    else if command = "record_branch_closure" then .ok (branchClosureEvent before after)
    else if command = "record_release_readiness" then .ok (releaseReadinessEvent before after)
    else if command = "record_final_review" then .ok (finalReviewEvent before after)
    else if command = "record_qa" then .ok (qaEvent before after)
    else if command = "advance_late_stage" then .ok (advanceLateStageEvent before after)
    else if command = "repair_review_state" then .ok (repairEvent before after)
    else if command = "gate_review" then .ok (strategyEvent before after)
    else if command = "authoritative_state_persist" then
      .ok (.preflightBootstrapRecorded runMetadata)
    else if command = "worktree_lease_index_update" then
      .ok (.worktreeLeaseIndexUpdated runMetadata)
    else if command = "preflight_bootstrap" then .ok (.preflightBootstrapRecorded runMetadata)
    else if command = "record_contract" then .ok (.contractRecorded runMetadata)
    else if command = "record_evaluation" then .ok (.evaluationRecorded runMetadata)
    else if command = "record_handoff" then
      .ok (.handoffRecorded
        ((collectChangedAuthoritativeFields before after handoffFields).into _))
    else .error (unmappedCommand command)

/-! ### What the event carries -/

/-- The differing fields among `slots`. -/
def changedIn (slots : List Field) (before after : StateObject) (f : Field) : Option Json :=
  if f ∈ slots then changedAuthoritativeFieldValue before after f else none

theorem get_into_collect {before after : StateObject} {fields slots : List Field}
    (h : ∀ f ∈ slots, f ∈ fields ∧ f ∈ authoritativeFactFields ∧ f ∈ authoritativeEventFields) :
    ((collectChangedAuthoritativeFields before after fields).into slots).get =
      changedIn slots before after := by
  funext f
  rw [AuthoritativeFactBuilder.into, Facts.get_ofGet, changedIn, collectChangedAuthoritativeFields,
    AuthoritativeFactBuilder.collect, Facts.get_ofGet]
  by_cases hf : f ∈ slots
  · obtain ⟨h₁, h₂, h₃⟩ := h f hf
    rw [if_pos hf, if_pos hf, if_pos h₂, if_pos ⟨h₁, h₃⟩]
  · rw [if_neg hf, if_neg hf]

theorem get_into_factSlots (before after : StateObject) (fields : List Field) :
    ((collectChangedAuthoritativeFields before after fields).into (factSlots fields)).get =
      changedIn (factSlots fields) before after := by
  refine get_into_collect fun f hf => ?_
  obtain ⟨hfield, hslot⟩ := List.mem_filter.mp hf
  have hslot : f ∈ authoritativeFactFields := of_decide_eq_true hslot
  exact ⟨hfield, hslot, mem_authoritativeEventFields_of_fact hslot⟩

theorem get_into_repairSlots (before after : StateObject) :
    ((collectChangedAuthoritativeFields before after repairEventFields).into repairSlots).get =
      changedIn repairSlots before after := by
  refine get_into_collect fun f hf => ?_
  obtain ⟨hfield, hslot⟩ := List.mem_filter.mp ((mem_repairSlots f).mp hf)
  have hslot : f ∈ authoritativeFactFields := of_decide_eq_true hslot
  exact ⟨hfield, hslot, mem_authoritativeEventFields_of_fact hslot⟩

/-- An event that carries the differing fields of its slots. -/
def CarriesDelta (before after : StateObject) (e : ExecutionEvent) : Prop :=
  e.facts = some (changedIn (ExecutionEvent.slots e.kind) before after)

section

variable (before after : StateObject)

theorem carriesDelta_branchClosureEvent :
    CarriesDelta before after (branchClosureEvent before after) :=
  congrArg some (get_into_factSlots before after _)

theorem carriesDelta_releaseReadinessEvent :
    CarriesDelta before after (releaseReadinessEvent before after) :=
  congrArg some (get_into_factSlots before after _)

theorem carriesDelta_finalReviewEvent : CarriesDelta before after (finalReviewEvent before after) :=
  congrArg some (get_into_factSlots before after _)

theorem carriesDelta_qaEvent : CarriesDelta before after (qaEvent before after) :=
  congrArg some (get_into_factSlots before after _)

theorem carriesDelta_dispatchEvent : CarriesDelta before after (dispatchEvent before after) :=
  congrArg some (get_into_factSlots before after _)

theorem carriesDelta_taskClosureEvent : CarriesDelta before after (taskClosureEvent before after) :=
  congrArg some (get_into_factSlots before after _)

theorem carriesDelta_repairEvent : CarriesDelta before after (repairEvent before after) := by
  rw [repairEvent]
  cases repairFollowUpRecordFromState after with
  | none => exact congrArg some (get_into_repairSlots before after)
  | some record => exact congrArg some (get_into_repairSlots before after)

theorem carriesDelta_strategyEvent : CarriesDelta before after (strategyEvent before after) := by
  rw [strategyEvent]
  split_ifs
  · exact congrArg some (get_into_factSlots before after _)
  · exact congrArg some (get_into_factSlots before after _)

theorem carriesDelta_advanceLateStageEvent :
    CarriesDelta before after (advanceLateStageEvent before after) := by
  rw [advanceLateStageEvent]
  split_ifs
  · exact carriesDelta_branchClosureEvent before after
  · exact carriesDelta_releaseReadinessEvent before after
  · exact carriesDelta_finalReviewEvent before after
  · exact carriesDelta_qaEvent before after
  · exact carriesDelta_dispatchEvent before after
  · exact carriesDelta_strategyEvent before after

end

theorem of_ite_ok {c : Prop} [Decidable c] {a b : Except JsonFailure ExecutionEvent}
    {e : ExecutionEvent} {P : Prop} (h : (if c then a else b) = .ok e) (ha : a = .ok e → P)
    (hb : b = .ok e → P) : P := by
  by_cases hc : c
  · exact ha ((if_pos hc).symm.trans h)
  · exact hb ((if_neg hc).symm.trans h)

/-- **The event of a command carries the differing fields of its slots.** -/
theorem facts_eventFromCommand {command : String} {before after : StateObject}
    {stepHint : Option (UInt32 × UInt32)} {e : ExecutionEvent}
    (h : eventFromCommandAuthoritativeDelta command before after stepHint = .ok e) :
    CarriesDelta before after e := by
  have hfields : ∀ (fields : List Field) {e' : ExecutionEvent},
      ExecutionEvent.slots e'.kind = factSlots fields →
      e'.facts = some ((collectChangedAuthoritativeFields before after fields).into
        (factSlots fields)).get → Except.ok (ε := JsonFailure) e' = .ok e →
      CarriesDelta before after e := by
    intro fields e' hk hf he
    cases he
    rw [CarriesDelta, hk, hf, get_into_factSlots]
  rw [eventFromCommandAuthoritativeDelta] at h
  split at h
  · exact hfields stepEventFields rfl rfl h
  · exact hfields stepEventFields rfl rfl h
  · exact hfields stepEventFields rfl rfl h
  · exact hfields transferEventFields rfl rfl h
  · refine of_ite_ok h (fun h => hfields stepEventFields rfl rfl h) fun h => ?_
    refine of_ite_ok h (fun h => ?_) fun h => ?_
    · cases h; exact carriesDelta_dispatchEvent before after
    refine of_ite_ok h (fun h => of_ite_ok h (fun h => ?_) fun h => ?_) fun h => ?_
    · cases h; exact carriesDelta_dispatchEvent before after
    · cases h; exact carriesDelta_taskClosureEvent before after
    refine of_ite_ok h (fun h => ?_) fun h => ?_
    · cases h; exact carriesDelta_branchClosureEvent before after
    refine of_ite_ok h (fun h => ?_) fun h => ?_
    · cases h; exact carriesDelta_releaseReadinessEvent before after
    refine of_ite_ok h (fun h => ?_) fun h => ?_
    · cases h; exact carriesDelta_finalReviewEvent before after
    refine of_ite_ok h (fun h => ?_) fun h => ?_
    · cases h; exact carriesDelta_qaEvent before after
    refine of_ite_ok h (fun h => ?_) fun h => ?_
    · cases h; exact carriesDelta_advanceLateStageEvent before after
    refine of_ite_ok h (fun h => ?_) fun h => ?_
    · cases h; exact carriesDelta_repairEvent before after
    refine of_ite_ok h (fun h => ?_) fun h => ?_
    · cases h; exact carriesDelta_strategyEvent before after
    refine of_ite_ok h (fun h => hfields runMetadataFields rfl rfl h) fun h => ?_
    refine of_ite_ok h (fun h => hfields runMetadataFields rfl rfl h) fun h => ?_
    refine of_ite_ok h (fun h => hfields runMetadataFields rfl rfl h) fun h => ?_
    refine of_ite_ok h (fun h => hfields runMetadataFields rfl rfl h) fun h => ?_
    refine of_ite_ok h (fun h => hfields runMetadataFields rfl rfl h) fun h => ?_
    refine of_ite_ok h (fun h => hfields handoffFields rfl rfl h) fun h => ?_
    cases h

/-! ### What an event carries over -/

/-- The value of a field with null read as absent, and an empty record map too. -/
def fieldValue (f : Field) (v : Option Json) : Option Json :=
  if v = some .null then none
  else if f ∈ recordMapDeltaFields ∧ v = some (.obj .empty) then none
  else v

/-- No entry of a record map is null. -/
def mapShaped (v : Option Json) : Prop :=
  v = none ∨ v = some .null ∨ ∃ m : Object, v = some (.obj m) ∧ ∀ k, m.get? k ≠ some .null

theorem objectEntries_of_asObject_none {v : Json} (h : v.asObject = none) :
    objectEntries (some v) = .empty := by
  rw [objectEntries, Option.bind_some, h, Option.getD_none]

@[simp] theorem objectEntries_obj (m : Object) : objectEntries (some (.obj m)) = m := by
  rw [objectEntries, Option.bind_some, Json.asObject_obj, Option.getD_some]

@[simp] theorem objectEntries_none : objectEntries none = .empty := rfl

@[simp] theorem fieldValue_none (f : Field) : fieldValue f none = none := by
  simp [fieldValue]

@[simp] theorem fieldValue_null (f : Field) : fieldValue f (some .null) = none := if_pos rfl

theorem fieldValue_empty {f : Field} (hf : f ∈ recordMapDeltaFields) :
    fieldValue f (some (.obj .empty)) = none := by
  rw [fieldValue, if_neg (by simp), if_pos ⟨hf, rfl⟩]

theorem fieldValue_of_ne (f : Field) {v : Json} (hnull : v ≠ .null) (h : v ≠ .obj .empty) :
    fieldValue f (some v) = some v := by
  rw [fieldValue, if_neg fun hv => hnull (Option.some.inj hv),
    if_neg fun hv => h (Option.some.inj hv.2)]

theorem fieldValue_obj_of_ne (f : Field) {m : Object} (h : m ≠ .empty) :
    fieldValue f (some (.obj m)) = some (.obj m) :=
  fieldValue_of_ne f (Json.obj_ne_null m) fun hm => h (Json.obj_injective hm)

def withoutNulls (m : Object) : Object := m.filter fun _ v => !v.isNull

theorem withoutNulls_eq_self {m : Object} (h : ∀ k, m.get? k ≠ some .null) :
    withoutNulls m = m := by
  refine OrderedMap.ext_get? fun k => ?_
  rw [withoutNulls, OrderedMap.get?_filter]
  cases hk : m.get? k with
  | none => rfl
  | some w =>
    have hw : w.isNull = false := by
      rw [Bool.eq_false_iff]
      exact fun hw => h k (hk.trans (congrArg some (Json.isNull_iff.mp hw)))
    simp [hw]

theorem get?_withoutNulls_of_null {m : Object} {k : String} (h : m.get? k = some .null) :
    (withoutNulls m).get? k = none := by
  rw [withoutNulls, OrderedMap.get?_filter, h]
  rfl

/-- The entries of a value that are not null make up the value exactly where the value
is a record map. -/
theorem fieldValue_withoutNulls {f : Field} (hmap : f ∈ recordMapDeltaFields) (v : Option Json) :
    fieldValue f (some (.obj (withoutNulls (objectEntries v)))) = fieldValue f v ↔
      mapShaped v := by
  have hempty : fieldValue f (some (.obj (withoutNulls .empty))) = none := fieldValue_empty hmap
  cases v with
  | none => exact iff_of_true (hempty.trans (fieldValue_none f).symm) (Or.inl rfl)
  | some v =>
    cases hv : v.asObject with
    | none =>
      rw [objectEntries_of_asObject_none hv, hempty]
      by_cases hnull : v = .null
      · rw [hnull]
        exact iff_of_true (fieldValue_null f).symm (Or.inr (Or.inl rfl))
      · have hobj : ∀ m, v ≠ .obj m := by
          rintro m rfl
          rw [Json.asObject_obj] at hv
          cases hv
        rw [fieldValue_of_ne f hnull (hobj _)]
        refine iff_of_false (fun h => by cases h) ?_
        rintro (h | h | ⟨m, h, _⟩)
        · cases h
        · exact hnull (Option.some.inj h)
        · exact hobj m (Option.some.inj h)
    | some m =>
      rw [Json.asObject_eq_some.mp hv, objectEntries_obj]
      by_cases hm : ∀ k, m.get? k ≠ some .null
      · rw [withoutNulls_eq_self hm]
        exact iff_of_true rfl (Or.inr (Or.inr ⟨m, rfl, hm⟩))
      · have hshape : ¬ mapShaped (some (.obj m)) := by
          rintro (h | h | ⟨m', h, hm'⟩)
          · cases h
          · exact Json.obj_ne_null m (Option.some.inj h)
          · exact hm (Json.obj_injective (Option.some.inj h) ▸ hm')
        refine iff_of_false (fun heq => ?_) hshape
        -- the entry under a null key is in the value and not among its other entries
        obtain ⟨k, hk⟩ : ∃ k, m.get? k = some .null := by simpa using hm
        have hne : m ≠ .empty := by
          rintro rfl
          cases hk
        have hlost := get?_withoutNulls_of_null hk
        rw [fieldValue_obj_of_ne f hne] at heq
        by_cases hw : withoutNulls m = .empty
        · rw [hw, fieldValue_empty hmap] at heq
          cases heq
        · rw [fieldValue_obj_of_ne f hw] at heq
          rw [Json.obj_injective (Option.some.inj heq), hk] at hlost
          cases hlost

/-- What the delta of a record map makes of the value it was computed from. -/
theorem applyRecordMapDelta_changed (before after : Option Json) :
    applyRecordMapDelta before (changedRecordMapEntries before after) =
      .obj (OrderedMap.patch Json.isNull (objectEntries before)
        (OrderedMap.diff .null (objectEntries before) (objectEntries after))) := by
  rw [applyRecordMapDelta, changedRecordMapEntries, Json.asObject_obj]
  rfl

/-- The entries that are not null are carried over. -/
theorem patch_diff_null {b : Object} (a : Object) (hb : ∀ k, b.get? k ≠ some .null) :
    OrderedMap.patch Json.isNull b (OrderedMap.diff .null b a) = withoutNulls a := by
  refine OrderedMap.ext_get? fun k => ?_
  rw [OrderedMap.get?_patch_diff Json.isNull .null rfl, withoutNulls, OrderedMap.get?_filter]
  cases ha : a.get? k with
  | none => rfl
  | some v =>
    rw [Option.filter_some, Option.filter_some]
    by_cases hv : v.isNull = true
    · have hne : b.get? k ≠ some v := by rw [Json.isNull_iff.mp hv]; exact hb k
      simp [hne, hv]
    · simp [hv]

/-- **A fact carries a differing field over**, unless the field is for a record map and
the new value is none. -/
theorem applyFact_changed {before after : StateObject} (hc : before.Clean) {f : Field} {fact : Json}
    (h : changedAuthoritativeFieldValue before after f = some fact) :
    fieldValue f (applyFact f (before f) fact) = fieldValue f (after f) ↔
      (f ∈ recordMapDeltaFields → mapShaped (after f)) := by
  rw [changedAuthoritativeFieldValue] at h
  split_ifs at h with heq hmap
  · -- a record map: the entries that are not null reach the state
    have hfact : fact = changedRecordMapEntries (before f) (after f) := (Option.some.inj h).symm
    have hnn : fact.isNull = false := by rw [hfact, changedRecordMapEntries, Json.isNull_obj]
    rw [applyFact, hnn, if_neg Bool.false_ne_true, if_pos hmap, hfact,
      applyRecordMapDelta_changed, patch_diff_null _ (hc.objectEntries hmap),
      fieldValue_withoutNulls hmap]
    exact ⟨fun hs _ => hs, fun hs => hs hmap⟩
  · -- any other field: the new value, and null for none
    have hfact : fact = (after f).getD .null := (Option.some.inj h).symm
    refine iff_of_true ?_ fun hf => absurd hf hmap
    rw [applyFact, if_neg hmap, hfact]
    cases ha : after f with
    | none => rw [Option.getD_none, if_pos Json.isNull_null]
    | some v =>
      rw [Option.getD_some]
      split_ifs with hv
      · rw [Json.isNull_iff.mp hv, fieldValue_null, fieldValue_none]
      · rfl

/-- A field that differs is carried by an event with a slot for it. -/
def Carried (slots : List Field) (before after : StateObject) (f : Field) : Prop :=
  if f ∈ slots then before f = after f ∨ (f ∈ recordMapDeltaFields → mapShaped (after f))
  else fieldValue f (before f) = fieldValue f (after f)

/-- **Applied to the old state, the event of a command gives the new value** of exactly
the fields that it carries. -/
theorem fieldValue_applyTyped {before after : StateObject} (hc : before.Clean) {e : ExecutionEvent}
    (he : CarriesDelta before after e) {f : Field} (hf : f ∈ authoritativeFactFields) :
    fieldValue f ((applyTypedEventToState before e).1 f) = fieldValue f (after f) ↔
      Carried (ExecutionEvent.slots e.kind) before after f := by
  have hne : f ≠ .eventCompletedSteps := by
    rintro rfl
    exact absurd hf (by decide)
  rw [applyTyped_of_facts he before hne, Carried]
  by_cases hs : f ∈ ExecutionEvent.slots e.kind
  · rw [if_pos hs]
    have hget : changedIn (ExecutionEvent.slots e.kind) before after f =
        changedAuthoritativeFieldValue before after f := if_pos hs
    cases hch : changedAuthoritativeFieldValue before after f with
    | none =>
      have heq : before f = after f := by
        rw [changedAuthoritativeFieldValue] at hch
        split_ifs at hch with heq
        exact heq
      rw [applyAuthoritativeFields_of_none (hget.trans hch), heq]
      exact iff_of_true rfl (Or.inl rfl)
    | some fact =>
      have hdiff : before f ≠ after f := by
        intro heq
        rw [changedAuthoritativeFieldValue, if_pos heq] at hch
        cases hch
      rw [applyAuthoritativeFields_of_some (hget.trans hch), applyFact_changed hc hch]
      exact ⟨Or.inr, fun h => h.resolve_left hdiff⟩
  · rw [if_neg hs, applyAuthoritativeFields_of_none]
    exact if_neg hs

end FeatureForge
