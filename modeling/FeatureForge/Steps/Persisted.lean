import FeatureForge.Steps.Effects

/-!
# What of a command is persisted

A command changes the state and hands it over; what reaches the log is the event that is made from
it (`eventFromCommandAuthoritativeDelta`).  The payload of every step command is the state it was
given with its own fields set and some side fields (`changesOnly_*`), and the event carries the
open step and, but for `transfer`, the attempts (`value_of_slot`).
-/

namespace FeatureForge

/-! ### Values -/

section

variable {before after : StateObject} {e : ExecutionEvent} {f : Field}

/-- **A field that an event has a slot for comes through**, null read as absent. -/
theorem value_of_slot (hclean : before.Clean) (he : CarriesDelta before after e)
    (hslot : f ∈ ExecutionEvent.slots e.kind) (hplain : f ∉ recordMapDeltaFields)
    (hne : f ≠ .eventCompletedSteps) :
    (applyTypedEventToState before e).1 f = (after f).filter fun v => !v.isNull := by
  have hcarried : changedIn (ExecutionEvent.slots e.kind) before after f =
      changedAuthoritativeFieldValue before after f := if_pos hslot
  rw [applyTyped_of_facts he before hne]
  by_cases heq : before f = after f
  · have hnone : changedIn (ExecutionEvent.slots e.kind) before after f = none := by
      rw [hcarried, changedAuthoritativeFieldValue, if_pos heq]
    rw [applyAuthoritativeFields_of_none hnone, ← heq]
    cases hvalue : before f with
    | none => rfl
    | some v =>
      have hnull : v.isNull = false := Bool.eq_false_iff.mpr fun h =>
        hclean.field f (hvalue.trans (congrArg some (Json.isNull_iff.mp h)))
      rw [Option.filter_some, hnull]
      rfl
  · have hsome : changedIn (ExecutionEvent.slots e.kind) before after f =
        some ((after f).getD .null) := by
      rw [hcarried, changedAuthoritativeFieldValue, if_neg heq, if_neg hplain]
    rw [applyAuthoritativeFields_of_some hsome, applyFact, if_neg hplain]
    cases after f with
    | none => rfl
    | some v =>
      rw [Option.getD_some, Option.filter_some]
      cases v.isNull <;> rfl

/-- A field without a slot stays. -/
theorem value_of_no_slot (he : CarriesDelta before after e)
    (hslot : f ∉ ExecutionEvent.slots e.kind) (hne : f ≠ .eventCompletedSteps) :
    (applyTypedEventToState before e).1 f = before f := by
  rw [applyTyped_of_facts he before hne, applyAuthoritativeFields_of_none (if_neg hslot)]

/-- A field that the command has not changed stays. -/
theorem value_of_same (he : CarriesDelta before after e) (heq : before f = after f)
    (hne : f ≠ .eventCompletedSteps) : (applyTypedEventToState before e).1 f = before f := by
  have hnone : changedIn (ExecutionEvent.slots e.kind) before after f = none := by
    rw [changedIn, changedAuthoritativeFieldValue, if_pos heq]
    split_ifs
    · rfl
    · rfl
  rw [applyTyped_of_facts he before hne, applyAuthoritativeFields_of_none hnone]

/-- An open step that a command names. -/
theorem opened_applied (hclean : before.Clean) (he : CarriesDelta before after e)
    (hslot : .currentOpenStepState ∈ ExecutionEvent.slots e.kind) {openStep : Option OpenStep}
    (hopened : after.Opened openStep) : (applyTypedEventToState before e).1.Opened openStep := by
  have hvalue := value_of_slot hclean he hslot (by decide) (by decide)
  constructor
  · intro hnone
    left
    rw [hvalue]
    rcases hopened.noOpen hnone with h | h
    · rw [h]
      rfl
    · rw [h]
      rfl
  · intro o ho
    have hopen := hopened.openStep o ho
    have hnull : (OpenStepStateRecord.codec.toValue o.record).isNull = false :=
      Bool.eq_false_iff.mpr fun h =>
        OpenStepStateRecord.codec.toValue_ne_null o.record (Json.isNull_iff.mp h)
    refine ⟨?_, hopen.normal⟩
    rw [hvalue, hopen.value, Option.filter_some, hnull]
    rfl

/-- Attempts that a command records. -/
theorem attempts_applied (hclean : before.Clean) (he : CarriesDelta before after e)
    (hslot : .executionEvidenceAttempts ∈ ExecutionEvent.slots e.kind)
    {attempts : List EvidenceAttempt}
    (hvalue : after .executionEvidenceAttempts = some (attemptsCodec.toValue attempts)) :
    (applyTypedEventToState before e).1 .executionEvidenceAttempts =
      some (attemptsCodec.toValue attempts) := by
  have hnull : (attemptsCodec.toValue attempts).isNull = false := Bool.eq_false_iff.mpr fun h =>
    attemptsCodec.toValue_ne_null attempts (Json.isNull_iff.mp h)
  rw [value_of_slot hclean he hslot (by decide) (by decide), hvalue, Option.filter_some, hnull]
  rfl

end

/-! ### Events -/

/-- The event of a step command that is neither `complete` nor `reopen`. -/
structure OpensOnly (e : ExecutionEvent) : Prop where
  slot : .currentOpenStepState ∈ ExecutionEvent.slots e.kind
  noClosures : ∀ f ∈ taskRecordFields, f ∉ ExecutionEvent.slots e.kind
  notComplete : e.kind ≠ .complete
  notReopen : e.kind ≠ .reopen

theorem opensOnly_of_kind {e : ExecutionEvent} {k : EventKind} (hkind : e.kind = k)
    (hk : k ∈ [EventKind.begin, .note, .transfer]) : OpensOnly e := by
  have hall : ∀ k ∈ [EventKind.begin, .note, .transfer],
      Field.currentOpenStepState ∈ ExecutionEvent.slots k ∧
        (∀ f ∈ taskRecordFields, f ∉ ExecutionEvent.slots k) ∧ k ≠ .complete ∧
        k ≠ .reopen := by decide
  subst hkind
  obtain ⟨hslot, hclosures, hcomplete, hreopen⟩ := hall _ hk
  exact ⟨hslot, hclosures, hcomplete, hreopen⟩

section

variable {before after : StateObject} {hint : Option StepKey} {e : ExecutionEvent}

theorem event_begin
    (h : eventFromCommandAuthoritativeDelta "begin" before after hint = .ok e) : OpensOnly e := by
  have hkind : PublicCommandKind.fromPublicMutationToken (trim "begin") = some .begin := by decide
  rw [eventFromCommandAuthoritativeDelta, hkind] at h
  exact opensOnly_of_kind (k := .begin) (Except.ok.inj h ▸ rfl) (by decide)

theorem event_transfer
    (h : eventFromCommandAuthoritativeDelta "transfer" before after hint = .ok e) :
    OpensOnly e := by
  have hkind : PublicCommandKind.fromPublicMutationToken (trim "transfer") = some .transfer := by
    decide
  rw [eventFromCommandAuthoritativeDelta, hkind] at h
  exact opensOnly_of_kind (k := .transfer) (Except.ok.inj h ▸ rfl) (by decide)

theorem event_note
    (h : eventFromCommandAuthoritativeDelta "note" before after hint = .ok e) : OpensOnly e := by
  have hkind : PublicCommandKind.fromPublicMutationToken (trim "note") = none := by decide
  have htrim : trim "note" = "note" := by decide
  rw [eventFromCommandAuthoritativeDelta, hkind] at h
  simp only [htrim, if_true] at h
  exact opensOnly_of_kind (k := .note) (Except.ok.inj h ▸ rfl) (by decide)

theorem event_complete {key : StepKey}
    (h : eventFromCommandAuthoritativeDelta "complete" before after (some key) = .ok e) :
    ∃ facts, e = .complete (some key.1) (some key.2) facts := by
  have hkind : PublicCommandKind.fromPublicMutationToken (trim "complete") = some .complete := by
    decide
  rw [eventFromCommandAuthoritativeDelta, hkind] at h
  exact ⟨_, (Except.ok.inj h).symm⟩

/-- The number of an open step is read from its record. -/
theorem jsonU32_openStep (record : OpenStepStateRecord) {k : String} {n : UInt32}
    (h : Members.member record.toMembers k = some (ValueCodec.u32.encode n)) :
    jsonU32 (jsonMember (some (OpenStepStateRecord.codec.toValue record)) k) = some n := by
  have hkeys : (record.toMembers.map Prod.fst).Nodup := by
    rw [record.keys_toMembers]
    decide
  have hget : (OpenStepStateRecord.codec.toValue record).get? k = some (.u64 n.toNat) := by
    refine (Members.get?_toJson_obj hkeys k).trans ?_
    rw [h]
    rfl
  rw [jsonMember, Option.bind_some, hget, jsonU32_toNat]

/-- A reopening names the step that the command has opened. -/
theorem event_reopen {record : OpenStepStateRecord}
    (hvalue : after .currentOpenStepState = some (OpenStepStateRecord.codec.toValue record))
    (h : eventFromCommandAuthoritativeDelta "reopen" before after none = .ok e) :
    ∃ facts, e = .reopen (some record.task) (some record.step) facts := by
  have hkind : PublicCommandKind.fromPublicMutationToken (trim "reopen") = some .reopen := by
    decide
  have htask : openStepNumber "task" false before after none = some record.task := by
    rw [openStepNumber, hvalue, jsonU32_openStep record rfl]
    rfl
  have hstep : openStepNumber "step" false before after none = some record.step := by
    rw [openStepNumber, hvalue, jsonU32_openStep record rfl]
    rfl
  rw [eventFromCommandAuthoritativeDelta, hkind] at h
  have hevent : e = .reopen (openStepNumber "task" false before after none)
      (openStepNumber "step" false before after none)
      ((collectChangedAuthoritativeFields before after stepEventFields).into stepSlots) :=
    (Except.ok.inj h).symm
  rw [htask, hstep] at hevent
  exact ⟨_, hevent⟩

end

end FeatureForge
