import FeatureForge.Evidence.AttemptValues
import FeatureForge.Evidence.Readable
import FeatureForge.Lib.Except
import FeatureForge.Plans.StepState
import FeatureForge.Transitions.Payload

/-!
# The open step

The state names one step that is open: being worked on, blocked or interrupted
(`current_open_step_state`).  A record of it is normalized before it is written and again when it
is read; what has been written is read back as it is (`currentOpenStepStateChecked_of_recorded`).
-/

namespace FeatureForge

/-! ### Failures of the step commands -/

/-- The classes that the step commands add to those of the state. -/
inductive StepFailureClass where
  | blockedOnPlanPivot
  | contractMismatch
  | invalidExecutionMode
  | invalidStepTransition
  | staleMutation
  | state (failureClass : FailureClass)
  deriving DecidableEq

/-- `JsonFailure`, of a step command. -/
structure StepFailure where
  errorClass : StepFailureClass
  message : String
  deriving DecidableEq

def StepFailure.ofState (failure : JsonFailure) : StepFailure :=
  ⟨.state failure.errorClass, failure.message⟩

/-- A result of the state's own functions. -/
def liftState {α : Type} (result : Except JsonFailure α) : Except StepFailure α :=
  result.mapError StepFailure.ofState

theorem liftState_eq_ok {α : Type} {result : Except JsonFailure α} {a : α} :
    liftState result = .ok a ↔ result = .ok a := mapError_eq_ok

def StepFailure.invalidTransition (message : String) : StepFailure :=
  ⟨.invalidStepTransition, message⟩

def StepFailure.malformed (message : String) : StepFailure :=
  ⟨.state .malformedExecutionState, message⟩

/-! ### Summaries -/

/-- `truncate_summary`. -/
def truncateSummary (summary : List Char) : List Char :=
  if summary.length ≤ 120 then summary else summary.take 117 ++ "...".toList

/-! ### The record -/

structure OpenStepStateRecord where
  task : UInt32
  step : UInt32
  noteState : List Char
  noteSummary : List Char
  executionMode : Option (List Char)
  repoRoot : Option (List Char)
  sourcePlanPath : List Char
  sourcePlanRevision : UInt32
  authoritativeSequence : UInt64
  deriving DecidableEq

namespace OpenStepStateRecord

open Members

def key (record : OpenStepStateRecord) : StepKey := (record.task, record.step)

def fieldNames : List String :=
  ["task", "step", "note_state", "note_summary", "execution_mode", "repo_root",
   "source_plan_path", "source_plan_revision", "authoritative_sequence"]

def toMembers (record : OpenStepStateRecord) : Members :=
  [("task", ValueCodec.u32.encode record.task),
   ("step", ValueCodec.u32.encode record.step),
   ("note_state", ValueCodec.text.encode record.noteState),
   ("note_summary", ValueCodec.text.encode record.noteSummary),
   ("execution_mode", EvidenceAttempt.textOrNull record.executionMode),
   ("repo_root", EvidenceAttempt.textOrNull record.repoRoot),
   ("source_plan_path", ValueCodec.text.encode record.sourcePlanPath),
   ("source_plan_revision", ValueCodec.u32.encode record.sourcePlanRevision),
   ("authoritative_sequence", ValueCodec.u64.encode record.authoritativeSequence)]

def fromMembers (ms : Members) : Option OpenStepStateRecord :=
  if noDuplicates fieldNames ms then do
    let task ← getRequired ms "task" ValueCodec.u32.toCodec
    let step ← getRequired ms "step" ValueCodec.u32.toCodec
    let noteState ← getRequired ms "note_state" ValueCodec.text.toCodec
    let noteSummary ← getRequired ms "note_summary" ValueCodec.text.toCodec
    let executionMode ← getOptional ms "execution_mode" ValueCodec.text.toCodec
    let repoRoot ← getOptional ms "repo_root" ValueCodec.text.toCodec
    let sourcePlanPath ← getRequired ms "source_plan_path" ValueCodec.text.toCodec
    let sourcePlanRevision ← getRequired ms "source_plan_revision" ValueCodec.u32.toCodec
    let authoritativeSequence ← getRequired ms "authoritative_sequence" ValueCodec.u64.toCodec
    some {
      task, step, noteState, noteSummary, executionMode, repoRoot, sourcePlanPath,
      sourcePlanRevision, authoritativeSequence }
  else none

theorem keys_toMembers (record : OpenStepStateRecord) :
    record.toMembers.map Prod.fst = fieldNames := rfl

def codec : ValueCodec OpenStepStateRecord :=
  .struct fieldNames toMembers fromMembers
    (fun record => by rw [keys_toMembers]; decide)
    fun record ms h => by
      have htext : ∀ {k : String} {v : List Char},
          member record.toMembers k = some (ValueCodec.text.encode v) →
          getRequired ms k ValueCodec.text.toCodec = some v := h.required
      have hoption : ∀ {k : String} {v : Option (List Char)},
          member record.toMembers k = some (EvidenceAttempt.textOrNull v) →
          getOptional ms k ValueCodec.text.toCodec = some v := h.optional
      rw [fromMembers, if_pos h.once, h.required (c := .u32) (b := record.task) rfl,
        h.required (c := .u32) (b := record.step) rfl, htext (v := record.noteState) rfl,
        htext (v := record.noteSummary) rfl, hoption (v := record.executionMode) rfl,
        hoption (v := record.repoRoot) rfl, htext (v := record.sourcePlanPath) rfl,
        h.required (c := .u32) (b := record.sourcePlanRevision) rfl,
        h.required (c := .u64) (b := record.authoritativeSequence) rfl]
      rfl

end OpenStepStateRecord

/-- The state that a note names, blanks around it dropped. -/
def readNoteState (noteState : List Char) : Option NoteState :=
  [NoteState.active, .blocked, .interrupted].find? fun state =>
    trimChars noteState = state.asStr

theorem readNoteState_asStr (state : NoteState) : readNoteState state.asStr = some state := by
  cases state <;> decide

def malformedOpenStep (statePath reason : String) : StepFailure :=
  .malformed ("Authoritative harness current_open_step_state is malformed in " ++ statePath ++ ": "
    ++ reason)

/-- `normalize_open_step_state_record`. -/
def normalizeOpenStepStateRecord (statePath : String) (record : OpenStepStateRecord) :
    Except StepFailure OpenStepStateRecord :=
  if record.task = 0 ∨ record.step = 0 then
    .error (malformedOpenStep statePath "task and step must be positive integers.")
  else
    match readNoteState record.noteState with
    | none => .error (malformedOpenStep statePath
        "note_state must be Active, Blocked, or Interrupted.")
    | some noteState =>
      let noteSummary := normalizeWhitespace record.noteSummary
      if noteSummary = [] then
        .error (malformedOpenStep statePath "note_summary may not be blank.")
      else if 120 < noteSummary.length then
        .error (malformedOpenStep statePath "note_summary may not exceed 120 characters.")
      else if trimChars record.sourcePlanPath = [] then
        .error (malformedOpenStep statePath "source_plan_path may not be blank.")
      else .ok { record with noteState := noteState.asStr, noteSummary := noteSummary }

/-- What a normalized record is like. -/
structure NormalOpenStep (record : OpenStepStateRecord) (noteState : NoteState) : Prop where
  task : record.task ≠ 0
  step : record.step ≠ 0
  noteState : record.noteState = noteState.asStr
  noteSummary : spaced true record.noteSummary = true
  length : record.noteSummary.length ≤ 120
  sourcePlanPath : trimChars record.sourcePlanPath ≠ []

/-- **What normalizing does**, where it does not fail. -/
theorem normalizeOpenStepStateRecord_ok {statePath : String}
    {record normal : OpenStepStateRecord}
    (h : normalizeOpenStepStateRecord statePath record = .ok normal) :
    ∃ noteState, readNoteState record.noteState = some noteState ∧
      normal = { record with
        noteState := noteState.asStr
        noteSummary := normalizeWhitespace record.noteSummary } ∧
      NormalOpenStep normal noteState := by
  have hnumbers : ¬ (record.task = 0 ∨ record.step = 0) := by
    intro hzero
    rw [normalizeOpenStepStateRecord, if_pos hzero] at h
    cases h
  rw [normalizeOpenStepStateRecord, if_neg hnumbers] at h
  cases hstate : readNoteState record.noteState with
  | none => rw [hstate] at h; cases h
  | some noteState =>
    simp only [hstate] at h
    split_ifs at h with hblank hlong hpath
    have hnormal := (Except.ok.inj h).symm
    refine ⟨noteState, rfl, hnormal, ?_⟩
    subst hnormal
    exact {
      task := fun htask => hnumbers (Or.inl htask)
      step := fun hstep => hnumbers (Or.inr hstep)
      noteState := rfl
      noteSummary := spaced_respace _ hblank
      length := by
        show (normalizeWhitespace record.noteSummary).length ≤ 120
        omega
      sourcePlanPath := hpath }

/-- **A normalized record is left as it is.** -/
theorem NormalOpenStep.normalize {record : OpenStepStateRecord} {noteState : NoteState}
    (h : NormalOpenStep record noteState) (statePath : String) :
    normalizeOpenStepStateRecord statePath record = .ok record := by
  have hnumbers : ¬ (record.task = 0 ∨ record.step = 0) := fun hor => hor.elim h.task h.step
  have hsummary := normalizeWhitespace_of_spaced h.noteSummary
  have hlength : ¬ 120 < record.noteSummary.length := by
    have := h.length
    omega
  rw [normalizeOpenStepStateRecord, if_neg hnumbers, h.noteState, readNoteState_asStr]
  simp only [hsummary, if_neg (ne_nil_of_spaced h.noteSummary), if_neg hlength,
    if_neg h.sourcePlanPath]
  rw [← h.noteState]

/-! ### In the state -/

section

variable (statePath : String)

/-- `current_open_step_state_checked`. -/
def currentOpenStepStateChecked (s : StateObject) :
    Except StepFailure (Option OpenStepStateRecord) :=
  match s .currentOpenStepState with
  | none => .ok none
  | some payload =>
    if payload.isNull then .ok none
    else
      match OpenStepStateRecord.codec.fromValue payload with
      | none => .error (malformedOpenStep statePath "")
      | some record => (normalizeOpenStepStateRecord statePath record).map some

/-- `record_open_step_state`. -/
def recordOpenStepState (record : OpenStepStateRecord) (s : StateObject) :
    Except StepFailure StateObject := do
  let record ← normalizeOpenStepStateRecord statePath record
  .ok (s.set .currentOpenStepState (OpenStepStateRecord.codec.toValue record))

/-- `clear_open_step_state`. -/
def clearOpenStepState (s : StateObject) : StateObject :=
  if (s .currentOpenStepState).isSome then s.set .currentOpenStepState .null else s

end

/-- The state names no open step. -/
def NoOpenStep (s : StateObject) : Prop :=
  s .currentOpenStepState = none ∨ s .currentOpenStepState = some .null

/-- The state names the open step of a record, in a state of its note. -/
structure HasOpenStep (s : StateObject) (record : OpenStepStateRecord) (noteState : NoteState) :
    Prop where
  value : s .currentOpenStepState = some (OpenStepStateRecord.codec.toValue record)
  normal : NormalOpenStep record noteState

theorem recordOpenStepState_ok {statePath : String} {record : OpenStepStateRecord}
    {s s' : StateObject} (h : recordOpenStepState statePath record s = .ok s') :
    ∃ normal, normalizeOpenStepStateRecord statePath record = .ok normal ∧
      s' = s.set .currentOpenStepState (OpenStepStateRecord.codec.toValue normal) := by
  obtain ⟨normal, hnormal, h⟩ := bind_eq_ok.mp h
  exact ⟨normal, hnormal, (Except.ok.inj h).symm⟩

theorem NoOpenStep.checked {s : StateObject} (h : NoOpenStep s) (statePath : String) :
    currentOpenStepStateChecked statePath s = .ok none := by
  rw [currentOpenStepStateChecked]
  rcases h with h | h
  · rw [h]
  · rw [h]
    rfl

/-- **The open step is read back as it was recorded.** -/
theorem HasOpenStep.checked {s : StateObject} {record : OpenStepStateRecord}
    {noteState : NoteState} (h : HasOpenStep s record noteState) (statePath : String) :
    currentOpenStepStateChecked statePath s = .ok (some record) := by
  have hnull : ¬ (OpenStepStateRecord.codec.toValue record).isNull = true := fun hnull =>
    OpenStepStateRecord.codec.toValue_ne_null record (Json.isNull_iff.mp hnull)
  rw [currentOpenStepStateChecked, h.value]
  simp only [if_neg hnull, ValueCodec.fromValue_toValue, h.normal.normalize]
  rfl

theorem clearOpenStepState_noOpenStep (s : StateObject) : NoOpenStep (clearOpenStepState s) := by
  rw [clearOpenStepState]
  split_ifs with h
  · exact Or.inr (set_self s _ _)
  · exact Or.inl (Option.not_isSome_iff_eq_none.mp h)

end FeatureForge
