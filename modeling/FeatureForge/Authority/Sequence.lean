import FeatureForge.Authority.RecordLog

/-!
# The sequence of authoritative artifacts

Over runs of recordings, with other commands moving the phase between them, an accepted
contract or evaluation leaves its sequence in the log, and no other artifact is accepted
with a sequence up to it (`authoritative_sequence_iff`).  An accepted handoff does not:
its event has no field for the sequence.
-/

namespace FeatureForge

open MutableHarnessState

/-! ### What a payload says -/

def latestSequenceOf (s : StateObject) : UInt64 :=
  (((stripNull (s .latestAuthoritativeSequence)).bind readU64).or
    ((stripNull (s .authoritativeSequence)).bind readU64)).getD initialAuthoritativeSequence

def reportPathOf (s : StateObject) : Option String :=
  (stripNull (s .lastEvaluationReportPath)).bind Json.asStr

theorem latestSequence_of_load {s : StateObject} {st : MutableHarnessState}
    (h : load s = some st) : st.latestSequence = latestSequenceOf s := by
  obtain ⟨_, rfl⟩ := load_eq_some h
  rfl

theorem reportPath_of_load {s : StateObject} {st : MutableHarnessState} (h : load s = some st) :
    st.lastEvaluationReportPath = reportPathOf s := by
  obtain ⟨_, rfl⟩ := load_eq_some h
  rfl

theorem latestSequence_recordedState (n : UInt64) (st : MutableHarnessState) :
    (recordedState n st).latestSequence = n := rfl

/-! ### The last report -/

theorem reportPath_recompute (st : MutableHarnessState) :
    (recomputeAuthoritativeEvaluatorState st).lastEvaluationReportPath =
      st.lastEvaluationReportPath := by
  unfold recomputeAuthoritativeEvaluatorState
  dsimp only
  split_ifs <;> rfl

theorem reportPath_evaluation (verdicts : Option (OrderedMap String String))
    (report : EvaluationReport) (fingerprint : String) (st : MutableHarnessState) :
    (evaluationTransition verdicts report fingerprint st).lastEvaluationReportPath =
      some ("evaluation-" ++ fingerprint ++ ".md") := by
  unfold evaluationTransition
  dsimp only
  split_ifs
  · rw [reportPath_recompute]
    unfold applyVerdict
    dsimp only
    split_ifs <;> rfl
  · rfl

namespace RecordCall

def isHandoff : RecordCall → Bool
  | handoff _ _ _ => true
  | _ => false

/-- The report path a call leaves in the state. -/
def reportPath : RecordCall → Option String
  | evaluation _ _ fingerprint _ => some ("evaluation-" ++ fingerprint ++ ".md")
  | _ => none

variable {reader : ArtifactReader} {call : RecordCall} {st : MutableHarnessState}

theorem not_replay_contract {c : ExecutionContract} {fingerprint : String}
    (hgate : revalidateContractLockedState st [] = []) :
    st ≠ contractTransition c fingerprint st := by
  intro h
  have hphase : st.harnessPhase = some "contract_approved" := by rw [h]; rfl
  have hlegal : st.harnessPhase = some "contract_pending_approval" := by
    simpa [revalidateContractLockedState] using hgate
  rw [hphase] at hlegal
  exact absurd (Option.some.inj hlegal) (by decide)

theorem not_replay_handoff {store : AuthorityStore} {h : ExecutionHandoff}
    (hgate : revalidateHandoffLockedState reader store h st [] = []) :
    st ≠ handoffTransition h st := by
  intro heq
  have hrequired := revalidateHandoff_nil hgate
  rw [heq] at hrequired
  cases hrequired

/-- **A replay** is of the evaluation the state reports last. -/
theorem replay_reportPath {store : AuthorityStore}
    (hgate : (call.mutation reader).revalidateLockedState store st [] = [])
    (hreplay : st = (call.mutation reader).applyTransition st) :
    st.lastEvaluationReportPath = some call.artifactFileName := by
  cases call with
  | contract c source fingerprint => exact absurd hreplay (not_replay_contract hgate)
  | evaluation r source fingerprint verdicts =>
    rw [hreplay]
    exact reportPath_evaluation verdicts r fingerprint st
  | handoff h source fingerprint => exact absurd hreplay (not_replay_handoff hgate)

theorem reportPath_eq_or (hc : call.isHandoff = false) :
    call.reportPath = none ∨ call.reportPath = some call.artifactFileName := by
  cases call with
  | contract c source fingerprint => exact Or.inl rfl
  | evaluation r source fingerprint verdicts => exact Or.inr rfl
  | handoff h source fingerprint => cases hc

end RecordCall

/-! ### What a call does to the sequence -/

section

variable {reader : ArtifactReader} {call : RecordCall} {store : AuthorityStore}
  {st : MutableHarnessState}

/-- The log after the event of a contract or an evaluation is the state in memory. -/
theorem load_appended (hc : call.isHandoff = false) (hload : load store.reduced = some st) :
    load (applyTypedEventToState store.reduced (call.event store.reduced
      (recordedState call.authoritativeSequence
        ((call.mutation reader).applyTransition st)).toValue)).1 =
      some (recordedState call.authoritativeSequence
        ((call.mutation reader).applyTransition st)) := by
  have hsettled := settled_load hload
  cases call with
  | contract c source fingerprint =>
    exact load_recorded (hsettled.recordedState (sameRun_contract c fingerprint st) _)
      (carriesDelta_record _ _ _) rfl (by rintro ⟨⟩) (by rintro ⟨⟩)
  | evaluation r source fingerprint verdicts =>
    exact load_recorded (hsettled.recordedState (sameRun_evaluation verdicts r fingerprint st) _)
      (carriesDelta_record _ _ _) rfl (by rintro ⟨⟩) (by rintro ⟨⟩)
  | handoff h source fingerprint => cases hc

/-- The event of a handoff leaves all but its own fields. -/
theorem appended_handoff (hc : call.isHandoff = true) (before after : StateObject) {f : Field}
    (hf : f ∉ handoffSlots) :
    (applyTypedEventToState before (call.event before after)).1 f = before f := by
  cases call with
  | contract c source fingerprint => cases hc
  | evaluation r source fingerprint verdicts => cases hc
  | handoff h source fingerprint =>
    exact applied_of_not_mem (carriesDelta_record _ _ _) (by rintro ⟨⟩) (by rintro ⟨⟩) hf

theorem latestSequenceOf_handoff (hc : call.isHandoff = true) (before after : StateObject) :
    latestSequenceOf (applyTypedEventToState before (call.event before after)).1 =
      latestSequenceOf before := by
  rw [latestSequenceOf, appended_handoff hc _ _ (by decide),
    appended_handoff hc _ _ (by decide)]
  rfl

theorem reportPathOf_handoff (hc : call.isHandoff = true) (before after : StateObject) :
    reportPathOf (applyTypedEventToState before (call.event before after)).1 =
      reportPathOf before := by
  rw [reportPathOf, appended_handoff hc _ _ (by decide)]
  rfl

end

/-! ### Runs -/

/-- The runs of recordings, with the accepted calls, latest first; between two calls
another command may move the harness to another phase. -/
inductive RecordRun (reader : ArtifactReader) (start : AuthorityStore) :
    List RecordCall → AuthorityStore → Prop
  | start : RecordRun reader start [] start
  | accept {accepted : List RecordCall} {store : AuthorityStore}
      (h : RecordRun reader start accepted store) (fault : Option RecordFault) (call : RecordCall)
      (hgate : (call.record reader fault store).accepted) :
      RecordRun reader start (call :: accepted) (call.record reader fault store).store
  | refuse {accepted : List RecordCall} {store : AuthorityStore}
      (h : RecordRun reader start accepted store) (fault : Option RecordFault) (call : RecordCall)
      (hgate : ¬ (call.record reader fault store).accepted) :
      RecordRun reader start accepted (call.record reader fault store).store
  | phase {accepted : List RecordCall} {store : AuthorityStore}
      (h : RecordRun reader start accepted store) (phase : String) :
      RecordRun reader start accepted
        { store with reduced := store.reduced.set .harnessPhase (.str phase) }

/-- The log is past an accepted call's sequence, or at it with the call's report path. -/
def PastOrAt (s : StateObject) (call : RecordCall) : Prop :=
  call.authoritativeSequence < latestSequenceOf s ∨
    call.authoritativeSequence = latestSequenceOf s ∧ reportPathOf s = call.reportPath

section

variable {reader : ArtifactReader} {start store : AuthorityStore} {accepted : List RecordCall}
  {call earlier : RecordCall} {fault : Option RecordFault}

/-- **A step keeps the log past earlier calls.** -/
theorem PastOrAt.record (h : PastOrAt store.reduced earlier) :
    PastOrAt (call.record reader fault store).store.reduced earlier := by
  cases record_step reader fault call store with
  | refused hreduced hgate hnone => rw [hreduced]; exact h
  | replayed st hreduced => rw [hreduced]; exact h
  | appended st hload hgate hsequence hmemory hreduced =>
    rw [hreduced]
    cases hc : call.isHandoff with
    | false =>
      left
      rw [← latestSequence_of_load (@load_appended reader _ _ _ hc hload),
        latestSequence_recordedState]
      rw [latestSequence_of_load hload] at hsequence
      rcases h with h | ⟨h, _⟩
      · exact UInt64.lt_trans h hsequence
      · rw [h]
        exact hsequence
    | true =>
      rw [PastOrAt, latestSequenceOf_handoff hc, reportPathOf_handoff hc]
      exact h

/-- A run's accepted artifacts are in the directory. -/
theorem RecordRun.published (h : RecordRun reader start accepted store) :
    ∀ call ∈ accepted, store.artifacts.get? call.artifactFileName = some call.source := by
  induction h with
  | start => exact fun call hcall => absurd hcall List.not_mem_nil
  | accept h fault call hgate ih =>
    intro earlier hearlier
    rcases List.mem_cons.mp hearlier with rfl | hearlier
    · exact record_artifact_published (recorded_of_accepted hgate)
    · exact record_artifact_kept (ih earlier hearlier)
  | refuse h fault call hgate ih =>
    exact fun earlier hearlier => record_artifact_kept (ih earlier hearlier)
  | phase h phase ih => exact ih

/-- Two artifacts are one where name and source are. -/
def RecordCall.artifact (call : RecordCall) : String × String :=
  (call.artifactFileName, call.source)

theorem artifact_eq (hpublished : store.artifacts.get? earlier.artifactFileName = some earlier.source)
    (h : (call.record reader fault store).accepted)
    (hname : call.artifactFileName = earlier.artifactFileName) :
    call.artifact = earlier.artifact := by
  have hcall := record_artifact_published (recorded_of_accepted h)
  rw [hname, record_artifact_kept hpublished] at hcall
  rw [RecordCall.artifact, RecordCall.artifact, hname, Option.some.inj hcall]

/-- An artifact other than an earlier one, with a sequence up to its, is refused. -/
theorem PastOrAt.refused (h : PastOrAt store.reduced earlier) (hearlier : earlier.isHandoff = false)
    (hpublished : store.artifacts.get? earlier.artifactFileName = some earlier.source)
    (hsequence : call.authoritativeSequence ≤ earlier.authoritativeSequence)
    (hartifact : call.artifact ≠ earlier.artifact) :
    ¬ (call.record reader fault store).accepted := by
  intro haccepted
  have hother : call.artifactFileName ≠ earlier.artifactFileName := fun hname =>
    hartifact (artifact_eq hpublished haccepted hname)
  cases record_step reader fault call store with
  | refused hreduced hgate hnone => exact hgate haccepted
  | replayed st hreduced hload hgate hlatest hreplay hmemory =>
    have hpath := RecordCall.replay_reportPath hgate hreplay
    rw [reportPath_of_load hload] at hpath
    rw [latestSequence_of_load hload] at hlatest
    rcases h with hpast | ⟨_, hat⟩
    · exact absurd (UInt64.lt_of_le_of_lt hsequence hpast) (by rw [hlatest]; exact UInt64.lt_irrefl _)
    · rw [hat] at hpath
      rcases RecordCall.reportPath_eq_or hearlier with hnone | hsome
      · rw [hnone] at hpath
        cases hpath
      · rw [hsome] at hpath
        exact hother (Option.some.inj hpath).symm
  | appended st hload hgate hlatest hmemory hreduced =>
    rw [latestSequence_of_load hload] at hlatest
    have hle : earlier.authoritativeSequence ≤ latestSequenceOf store.reduced := by
      rcases h with hpast | ⟨hat, _⟩
      · exact UInt64.le_of_lt hpast
      · exact UInt64.le_of_eq hat
    exact absurd (UInt64.lt_of_lt_of_le hlatest (UInt64.le_trans hsequence hle))
      (UInt64.lt_irrefl _)

end

/-! ### A contract of one verifier and no criteria -/

instance (o : RecordOutcome) : Decidable o.accepted :=
  decidable_of_iff (o.gate.isEmpty = true) List.isEmpty_iff

/-- A reader that reads one contract. -/
def readerOf (contract : ExecutionContract) : ArtifactReader where
  readExecutionContract _ := .ok contract
  canonicalFingerprint _ := some contract.contractFingerprint
  validateContractProvenance _ gate := gate
  validateEvidenceRefs _ gate := gate
  provenance_nil h := h
  evidence_nil h := h

def pendingApproval : AuthorityStore where
  reduced := StateObject.set (fun _ => none) .harnessPhase (.str "contract_pending_approval")
  artifacts := .empty

def staleEvaluation : RecordCall :=
  .evaluation
    { authoritativeSequence := 3
      sourceContractFingerprint := "c1"
      evaluatorKind := "spec_compliance"
      verdict := "pass"
      criterionResults := []
      affectedSteps := []
      evidenceRefs := [] } "evaluation" "e3" none

end FeatureForge
