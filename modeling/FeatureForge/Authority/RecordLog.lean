import FeatureForge.Authority.RecordGates
import FeatureForge.EventLog.Ledger

/-!
# What a recording leaves in the log

The event of a recording carries the fields of its kind.  For a contract and for an
evaluation these are the run metadata, and what is loaded from the log afterwards is the
state the call computed in memory (`load_recorded`).  A call is refused, or replays the
artifact recorded last, or appends its event (`record_step`), and an artifact that was
published stays (`record_artifact_kept`).
-/

namespace FeatureForge

open MutableHarnessState

/-! ### The event -/

section

variable {before after : StateObject} {e : ExecutionEvent} {f : Field}

theorem applied_of_not_mem (he : CarriesDelta before after e) (hc : e.kind ≠ .complete)
    (hr : e.kind ≠ .reopen) (hf : f ∉ ExecutionEvent.slots e.kind) :
    (applyTypedEventToState before e).1 f = before f := by
  rw [applyTyped_of_plain he hc hr, applyAuthoritativeFields_of_none]
  exact if_neg hf

theorem stripNull_applied_of_mem (he : CarriesDelta before after e) (hc : e.kind ≠ .complete)
    (hr : e.kind ≠ .reopen) (hf : f ∈ ExecutionEvent.slots e.kind)
    (hmap : f ∉ recordMapDeltaFields) :
    stripNull ((applyTypedEventToState before e).1 f) = stripNull (after f) := by
  rw [applyTyped_of_plain he hc hr]
  have hget : changedIn (ExecutionEvent.slots e.kind) before after f =
      changedAuthoritativeFieldValue before after f := if_pos hf
  by_cases heq : before f = after f
  · rw [applyAuthoritativeFields_of_none, heq]
    rw [hget, changedAuthoritativeFieldValue, if_pos heq]
  · have hfact : changedAuthoritativeFieldValue before after f = some ((after f).getD .null) := by
      rw [changedAuthoritativeFieldValue, if_neg heq, if_neg hmap]
    rw [applyAuthoritativeFields_of_some (hget.trans hfact), applyFact, if_neg hmap]
    cases ha : after f with
    | none => rfl
    | some v =>
      rw [Option.getD_some]
      split_ifs with hv
      · rw [Json.isNull_iff.mp hv]
        rfl
      · rfl

end

theorem eventFromCommand_contract (before after : StateObject) :
    eventFromCommandAuthoritativeDelta "record_contract" before after none =
      .ok (.contractRecorded
        ((collectChangedAuthoritativeFields before after runMetadataFields).into _)) := by
  have htrim : trim "record_contract" = "record_contract" := by decide
  have hkind : PublicCommandKind.fromPublicMutationToken "record_contract" = none := by
    decide
  simp [eventFromCommandAuthoritativeDelta, htrim, hkind]

theorem eventFromCommand_evaluation (before after : StateObject) :
    eventFromCommandAuthoritativeDelta "record_evaluation" before after none =
      .ok (.evaluationRecorded
        ((collectChangedAuthoritativeFields before after runMetadataFields).into _)) := by
  have htrim : trim "record_evaluation" = "record_evaluation" := by decide
  have hkind : PublicCommandKind.fromPublicMutationToken "record_evaluation" = none := by
    decide
  simp [eventFromCommandAuthoritativeDelta, htrim, hkind]

theorem eventFromCommand_handoff (before after : StateObject) :
    eventFromCommandAuthoritativeDelta "record_handoff" before after none =
      .ok (.handoffRecorded
        ((collectChangedAuthoritativeFields before after handoffFields).into _)) := by
  have htrim : trim "record_handoff" = "record_handoff" := by decide
  have hkind : PublicCommandKind.fromPublicMutationToken "record_handoff" = none := by
    decide
  simp [eventFromCommandAuthoritativeDelta, htrim, hkind]

/-- The event of a recording, over the state it computed. -/
def RecordCall.event (call : RecordCall) (before after : StateObject) : ExecutionEvent :=
  match call with
  | .contract _ _ _ => .contractRecorded
      ((collectChangedAuthoritativeFields before after runMetadataFields).into _)
  | .evaluation _ _ _ _ => .evaluationRecorded
      ((collectChangedAuthoritativeFields before after runMetadataFields).into _)
  | .handoff _ _ _ => .handoffRecorded
      ((collectChangedAuthoritativeFields before after handoffFields).into _)

theorem eventFromCommand_record (reader : ArtifactReader) (call : RecordCall)
    (before after : StateObject) :
    eventFromCommandAuthoritativeDelta (call.mutation reader).command before after none =
      .ok (call.event before after) := by
  cases call with
  | contract c source fingerprint => exact eventFromCommand_contract before after
  | evaluation r source fingerprint verdicts => exact eventFromCommand_evaluation before after
  | handoff h source fingerprint => exact eventFromCommand_handoff before after

theorem carriesDelta_record (call : RecordCall) (before after : StateObject) :
    CarriesDelta before after (call.event before after) := by
  cases call with
  | contract c source fingerprint => exact congrArg some (get_into_factSlots before after _)
  | evaluation r source fingerprint verdicts =>
    exact congrArg some (get_into_factSlots before after _)
  | handoff h source fingerprint => exact congrArg some (get_into_factSlots before after _)

/-! ### What is loaded from it -/

/-- A state over a reduced one: its defaults are filled in, and but for the dependency
index its other members are those of the reduced state. -/
structure Settled (before : StateObject) (st : MutableHarnessState) : Prop where
  schemaVersion : st.schemaVersion ≠ 0
  harnessPhase : st.harnessPhase.isSome
  aggregateEvaluationState : st.aggregateEvaluationState.isSome
  strategyState : st.strategyState.isSome
  strategyCheckpointKind : st.strategyCheckpointKind.isSome
  strategyCheckpoints : st.extra.get .strategyCheckpoints =
    some ((stripNull (before .strategyCheckpoints)).getD (.arr []))
  extra : ∀ f, f ∉ harnessStateFields → f ≠ .dependencyIndexState → f ≠ .strategyCheckpoints →
    st.extra.get f = stripNull (before f)

theorem load_eq_some {s : StateObject} {st : MutableHarnessState} (h : load s = some st) :
    fromMembers s.strip = some (ofMembers s.strip) ∧
      st = (ofMembers s.strip).normalizeDefaults := by
  obtain ⟨raw, hraw, rfl⟩ := Option.map_eq_some_iff.mp h
  rw [fromMembers] at hraw
  split_ifs at hraw with hall
  cases hraw
  exact ⟨by rw [fromMembers, if_pos hall], rfl⟩

theorem extra_ofMembers (s : StateObject) {f : Field} (hf : f ∉ harnessStateFields) :
    (ofMembers s.strip).extra.get f = stripNull (s f) := by
  show (if f ∈ harnessStateFields then none else stripNull (stripNull (s f))) = _
  rw [if_neg hf, stripNull_idem]

theorem get_withStrategyCheckpoints (m : ExtraMembers) (f : Field) :
    (withStrategyCheckpoints m).get f =
      if f = .strategyCheckpoints then some ((m.get .strategyCheckpoints).getD (.arr []))
      else m.get f := by
  unfold withStrategyCheckpoints
  split_ifs with hsome hf hf
  · obtain ⟨v, hv⟩ := Option.isSome_iff_exists.mp hsome
    rw [hf, hv, Option.getD_some]
  · rfl
  · have hnone : m.get .strategyCheckpoints = none := by simpa using hsome
    rw [hf, hnone]
    exact set_self m.get .strategyCheckpoints (.arr [])
  · exact set_of_ne m.get _ hf

theorem settled_load {s : StateObject} {st : MutableHarnessState} (h : load s = some st) :
    Settled s st := by
  obtain ⟨_, rfl⟩ := load_eq_some h
  constructor
  · show (if (ofMembers s.strip).schemaVersion = 0 then 1
      else (ofMembers s.strip).schemaVersion) ≠ 0
    split_ifs with h0
    · decide
    · exact h0
  · rfl
  · rfl
  · rfl
  · rfl
  · show (withStrategyCheckpoints _).get _ = _
    rw [get_withStrategyCheckpoints, if_pos rfl, extra_ofMembers s (by decide)]
  · intro f hf _ hne
    show (withStrategyCheckpoints _).get f = _
    rw [get_withStrategyCheckpoints, if_neg hne, extra_ofMembers s hf]

/-- The strategy checkpoints as the reduced state has them. -/
def withoutDefaults (before : StateObject) (m : ExtraMembers) : ExtraMembers where
  get f := if f = .strategyCheckpoints then stripNull (before f) else m.get f
  untyped f hf := by
    have hne : f ≠ .strategyCheckpoints := by
      rintro rfl
      exact absurd hf (by decide)
    rw [if_neg hne, m.untyped f hf]
  plain f := by
    split_ifs
    · exact stripNull_ne_null _
    · exact m.plain f

theorem withoutDefaults_get (before : StateObject) (m : ExtraMembers) (f : Field) :
    (withoutDefaults before m).get f =
      if f = .strategyCheckpoints then stripNull (before f) else m.get f := rfl

theorem withoutDefaults_self (before : StateObject) (m : ExtraMembers) :
    (withoutDefaults before m).get .strategyCheckpoints =
      stripNull (before .strategyCheckpoints) := by
  rw [withoutDefaults_get, if_pos rfl]

theorem withoutDefaults_of_ne (before : StateObject) (m : ExtraMembers) {f : Field}
    (hf : f ≠ .strategyCheckpoints) : (withoutDefaults before m).get f = m.get f := by
  rw [withoutDefaults_get, if_neg hf]

theorem Settled.normalizeDefaults_withoutDefaults {before : StateObject} {st : MutableHarnessState}
    (h : Settled before st) :
    normalizeDefaults { st with extra := withoutDefaults before st.extra } = st := by
  have hextra : withStrategyCheckpoints (withoutDefaults before st.extra) = st.extra := by
    refine ExtraMembers.ext_get (funext fun f => ?_)
    rw [get_withStrategyCheckpoints]
    split_ifs with hf
    · rw [hf, h.strategyCheckpoints, withoutDefaults_self]
    · exact withoutDefaults_of_ne before _ hf
  have hget : ∀ {o : Option String} (d : String), o.isSome → some (o.getD d) = o := by
    intro o d ho
    obtain ⟨v, rfl⟩ := Option.isSome_iff_exists.mp ho
    rfl
  rw [normalizeDefaults]
  simp only [if_neg h.schemaVersion, hget _ h.harnessPhase, hget _ h.aggregateEvaluationState,
    hget _ h.strategyState, hget _ h.strategyCheckpointKind, hextra]

/-- **What a contract or an evaluation computes in memory is what is loaded from the log
afterwards.** -/
theorem load_recorded {before : StateObject} {st : MutableHarnessState} (h : Settled before st)
    {e : ExecutionEvent} (he : CarriesDelta before st.toValue e)
    (hslots : ExecutionEvent.slots e.kind = runMetadataSlots) (hc : e.kind ≠ .complete)
    (hr : e.kind ≠ .reopen) : load (applyTypedEventToState before e).1 = some st := by
  have hstrip : (applyTypedEventToState before e).1.strip =
      (({ st with extra := withoutDefaults before st.extra } : MutableHarnessState).toValue).strip := by
    funext f
    show stripNull _ = stripNull _
    by_cases hf : f ∈ runMetadataSlots
    · have hmap : f ∉ recordMapDeltaFields := by
        have : ∀ f ∈ runMetadataSlots, f ∉ recordMapDeltaFields := by decide
        exact this f hf
      rw [stripNull_applied_of_mem he hc hr (hslots ▸ hf) hmap]
      by_cases htyped : f ∈ harnessStateFields
      · cases f <;> first
          | rfl
          | exact absurd htyped (by decide)
      · rw [toValue_of_untyped _ htyped, toValue_of_untyped _ htyped]
        have hne : f ≠ .strategyCheckpoints := by
          rintro rfl
          exact absurd hf (by decide)
        exact congrArg stripNull (withoutDefaults_of_ne before _ hne).symm
    · have htyped : f ∉ harnessStateFields := by
        intro hmem
        have : ∀ f ∈ harnessStateFields, f ∈ runMetadataSlots := by decide
        exact hf (this f hmem)
      rw [applied_of_not_mem he hc hr (hslots ▸ hf), toValue_of_untyped _ htyped]
      by_cases hsc : f = .strategyCheckpoints
      · rw [hsc]
        show _ = stripNull ((withoutDefaults before st.extra).get _)
        rw [withoutDefaults_self, stripNull_idem]
      · have hdep : f ≠ .dependencyIndexState := by
          rintro rfl
          exact hf (by decide)
        show _ = stripNull ((withoutDefaults before st.extra).get f)
        rw [withoutDefaults_of_ne before _ hsc, h.extra f htyped hdep hsc, stripNull_idem]
  rw [load, hstrip, fromMembers_toValue, Option.map_some, h.normalizeDefaults_withoutDefaults]

/-! ### The transitions keep a state settled -/

/-- What the transitions of contracts and evaluations leave alone. -/
structure SameRun (st st' : MutableHarnessState) : Prop where
  schemaVersion : st'.schemaVersion = st.schemaVersion
  harnessPhase : st.harnessPhase.isSome → st'.harnessPhase.isSome
  aggregateEvaluationState :
    st.aggregateEvaluationState.isSome → st'.aggregateEvaluationState.isSome
  strategyState : st'.strategyState = st.strategyState
  strategyCheckpointKind : st'.strategyCheckpointKind = st.strategyCheckpointKind
  extra : st'.extra = st.extra

theorem SameRun.trans {st st' st'' : MutableHarnessState} (h : SameRun st st')
    (h' : SameRun st' st'') : SameRun st st'' where
  schemaVersion := h'.schemaVersion.trans h.schemaVersion
  harnessPhase hp := h'.harnessPhase (h.harnessPhase hp)
  aggregateEvaluationState ha := h'.aggregateEvaluationState (h.aggregateEvaluationState ha)
  strategyState := h'.strategyState.trans h.strategyState
  strategyCheckpointKind := h'.strategyCheckpointKind.trans h.strategyCheckpointKind
  extra := h'.extra.trans h.extra

theorem sameRun_recompute (st : MutableHarnessState) :
    SameRun st (recomputeAuthoritativeEvaluatorState st) := by
  unfold recomputeAuthoritativeEvaluatorState
  dsimp only
  split_ifs <;> exact ⟨rfl, fun _ => rfl, fun _ => rfl, rfl, rfl, rfl⟩

theorem sameRun_bootstrap (verdicts : Option (OrderedMap String String))
    (st : MutableHarnessState) :
    SameRun st (bootstrapVerdictBucketsFromLegacyState verdicts st) := by
  unfold bootstrapVerdictBucketsFromLegacyState
  cases verdicts with
  | some verdicts => dsimp only; split_ifs <;> exact ⟨rfl, fun h => h, fun h => h, rfl, rfl, rfl⟩
  | none => dsimp only; split_ifs <;> exact ⟨rfl, fun h => h, fun h => h, rfl, rfl, rfl⟩

theorem sameRun_applyVerdict (report : EvaluationReport) (st : MutableHarnessState) :
    SameRun st (applyVerdict report st) := by
  unfold applyVerdict
  dsimp only
  split_ifs <;> exact ⟨rfl, fun h => h, fun h => h, rfl, rfl, rfl⟩

theorem sameRun_evaluation (verdicts : Option (OrderedMap String String))
    (report : EvaluationReport) (fingerprint : String) (st : MutableHarnessState) :
    SameRun st (evaluationTransition verdicts report fingerprint st) := by
  have hsupersede : SameRun st (supersedeReport report fingerprint
      (bootstrapVerdictBucketsFromLegacyState verdicts st)) :=
    (sameRun_bootstrap verdicts st).trans ⟨rfl, fun h => h, fun h => h, rfl, rfl, rfl⟩
  unfold evaluationTransition
  dsimp only
  split_ifs
  · exact (hsupersede.trans (sameRun_applyVerdict report _)).trans (sameRun_recompute _)
  · exact hsupersede

theorem sameRun_contract (contract : ExecutionContract) (fingerprint : String)
    (st : MutableHarnessState) : SameRun st (contractTransition contract fingerprint st) :=
  ⟨rfl, fun _ => rfl, fun _ => rfl, rfl, rfl, rfl⟩

/-- The state of an accepted call in memory. -/
def recordedState (sequence : UInt64) (st : MutableHarnessState) : MutableHarnessState :=
  (st.setLatestSequence sequence).setDependencyIndexStateHealthy

theorem Settled.recordedState {before : StateObject} {st st' : MutableHarnessState}
    (h : Settled before st) (hs : SameRun st st') (sequence : UInt64) :
    Settled before (recordedState sequence st') where
  schemaVersion := by
    show st'.schemaVersion ≠ 0
    rw [hs.schemaVersion]
    exact h.schemaVersion
  harnessPhase := hs.harnessPhase h.harnessPhase
  aggregateEvaluationState := hs.aggregateEvaluationState h.aggregateEvaluationState
  strategyState := by
    show st'.strategyState.isSome
    rw [hs.strategyState]
    exact h.strategyState
  strategyCheckpointKind := by
    show st'.strategyCheckpointKind.isSome
    rw [hs.strategyCheckpointKind]
    exact h.strategyCheckpointKind
  strategyCheckpoints := by
    show st'.extra.get.set .dependencyIndexState (.str "healthy") .strategyCheckpoints = _
    rw [set_of_ne _ _ (by decide), hs.extra]
    exact h.strategyCheckpoints
  extra f hf hdep hsc := by
    show st'.extra.get.set .dependencyIndexState (.str "healthy") f = _
    rw [set_of_ne _ _ hdep, hs.extra]
    exact h.extra f hf hdep hsc

/-! ### One call -/

/-- What a call can do: leave the log as it is, having been refused or being a replay of
the artifact recorded last, or append its event. -/
inductive RecordStep (reader : ArtifactReader) (call : RecordCall) (store : AuthorityStore)
    (o : RecordOutcome) : Prop
  | refused (hreduced : o.store.reduced = store.reduced) (hgate : o.gate ≠ [])
      (hmemory : o.memory = none)
  | replayed (st : MutableHarnessState) (hreduced : o.store.reduced = store.reduced)
      (hload : load store.reduced = some st)
      (hgate : (call.mutation reader).revalidateLockedState store st [] = [])
      (hsequence : call.authoritativeSequence = st.latestSequence)
      (hreplay : st = (call.mutation reader).applyTransition st) (hmemory : o.memory = some st)
  | appended (st : MutableHarnessState) (hload : load store.reduced = some st)
      (hgate : (call.mutation reader).revalidateLockedState store st [] = [])
      (hsequence : st.latestSequence < call.authoritativeSequence)
      (hmemory : o.memory = some (recordedState call.authoritativeSequence
        ((call.mutation reader).applyTransition st)))
      (hreduced : o.store.reduced = (applyTypedEventToState store.reduced
        (call.event store.reduced (recordedState call.authoritativeSequence
          ((call.mutation reader).applyTransition st)).toValue)).1)

theorem refused_step {reader : ArtifactReader} {call : RecordCall} {store : AuthorityStore}
    {gate : GateState} (h : gate ≠ []) : RecordStep reader call store (refused store gate) :=
  .refused rfl h rfl

theorem partialMutation_ne_nil (code message : String) : partialMutation code message ≠ [] :=
  GateState.fail_ne_nil _ _ _ _

theorem replay_step {reader : ArtifactReader} {fault : Option RecordFault} {call : RecordCall}
    {store : AuthorityStore} {st : MutableHarnessState} (targetExists : Bool)
    (hload : load store.reduced = some st)
    (hgate : (call.mutation reader).revalidateLockedState store st [] = [])
    (hsequence : call.authoritativeSequence = st.latestSequence) :
    RecordStep reader call store
      (replayAuthoritativeMutation fault (call.mutation reader) targetExists st store) := by
  unfold replayAuthoritativeMutation
  by_cases hreplay : st = (call.mutation reader).applyTransition st
  · rw [if_pos hreplay]
    cases targetExists <;> rcases fault with _ | (_ | _ | _ | _ | _ | _ | _ | _ | _) <;> first
      | exact .replayed st rfl hload hgate hsequence hreplay rfl
      | exact .refused rfl (partialMutation_ne_nil _ _) rfl
  · rw [if_neg hreplay]
    exact refused_step (GateState.fail_ne_nil _ _ _ _)

theorem publish_step {reader : ArtifactReader} {fault : Option RecordFault} {call : RecordCall}
    {store : AuthorityStore} {st : MutableHarnessState} (targetExists : Bool)
    (hload : load store.reduced = some st)
    (hgate : (call.mutation reader).revalidateLockedState store st [] = [])
    (hsequence : st.latestSequence < call.authoritativeSequence) :
    RecordStep reader call store
      (publishAuthoritativeMutation fault (call.mutation reader) targetExists st store) := by
  have hrecorded : ∀ (published : OrderedMap String String) (gate : GateState),
      RecordStep reader call store
        { publishAuthoritativeMutation.recorded (call.mutation reader) store
            (recordedState call.authoritativeSequence
              ((call.mutation reader).applyTransition st)) published with
          gate := gate } := by
    intro published gate
    unfold publishAuthoritativeMutation.recorded
    rw [eventFromCommand_record]
    exact .appended st hload hgate hsequence rfl rfl
  have hok : ∀ (published : OrderedMap String String),
      RecordStep reader call store
        (publishAuthoritativeMutation.recorded (call.mutation reader) store
          (recordedState call.authoritativeSequence
            ((call.mutation reader).applyTransition st)) published) := by
    intro published
    unfold publishAuthoritativeMutation.recorded
    rw [eventFromCommand_record]
    exact .appended st hload hgate hsequence rfl rfl
  unfold publishAuthoritativeMutation
  have hsame : (call.mutation reader).authoritativeSequence = call.authoritativeSequence := by
    cases call <;> rfl
  rw [hsame]
  cases fault with
  | none => exact hok _
  | some fault =>
    cases fault with
    | publish message =>
      cases targetExists with
      | true => exact hok _
      | false => exact refused_step (partialMutation_ne_nil _ _)
    | dependencyIndex message => exact refused_step (partialMutation_ne_nil _ _)
    | observability message => exact refused_step (partialMutation_ne_nil _ _)
    | append message => exact refused_step (partialMutation_ne_nil _ _)
    | statePublish message => exact hrecorded _ _
    | lockConflict => exact hok _
    | lockIo message => exact hok _
    | stateUnreadable message => exact hok _
    | targetUnreadable message => exact hok _

theorem target_step {reader : ArtifactReader} {fault : Option RecordFault} {call : RecordCall}
    {store : AuthorityStore} {st : MutableHarnessState} (hload : load store.reduced = some st)
    (hgate : (call.mutation reader).revalidateLockedState store st [] = [])
    (hsequence : st.latestSequence ≤ call.authoritativeSequence) :
    RecordStep reader call store (recordAtTarget fault (call.mutation reader) st store) := by
  have hsame : (call.mutation reader).authoritativeSequence = call.authoritativeSequence := by
    cases call <;> rfl
  have htarget : ∀ fault : Option RecordFault, RecordStep reader call store
      (let existing := store.artifacts.get? (call.mutation reader).artifactFileName
        if existing.any fun existing => existing != (call.mutation reader).source then
          refused store (GateState.fail [] .idempotencyConflict "idempotency_conflict"
            "Authoritative artifact replay conflicts with an existing recorded artifact.")
        else if (call.mutation reader).authoritativeSequence = st.latestSequence then
          replayAuthoritativeMutation fault (call.mutation reader) existing.isSome st store
        else publishAuthoritativeMutation fault (call.mutation reader) existing.isSome st store) := by
    intro fault
    dsimp only
    split_ifs with hconflict heq
    · exact refused_step (GateState.fail_ne_nil _ _ _ _)
    · exact replay_step _ hload hgate (hsame.symm.trans heq)
    · refine publish_step _ hload hgate (UInt64.lt_of_le_of_ne hsequence fun h => heq ?_)
      rw [hsame, h]
  unfold recordAtTarget
  rcases fault with _ | (_ | _ | _ | _ | _ | _ | _ | _ | _) <;> first
    | exact refused_step (GateState.fail_ne_nil _ _ _ _)
    | exact htarget _

/-- **Every call is one of the three steps.** -/
theorem record_step (reader : ArtifactReader) (fault : Option RecordFault) (call : RecordCall)
    (store : AuthorityStore) : RecordStep reader call store (call.record reader fault store) := by
  have hsame : (call.mutation reader).authoritativeSequence = call.authoritativeSequence := by
    cases call <;> rfl
  cases hload : load store.reduced with
  | none =>
    unfold RecordCall.record recordAuthoritativeMutation
    rw [hload]
    rcases fault with _ | (_ | _ | _ | _ | _ | _ | _ | _ | _) <;>
      exact refused_step (GateState.fail_ne_nil _ _ _ _)
  | some st =>
    have hstart : RecordStep reader call store
        (if (call.mutation reader).revalidateLockedState store st [] ≠ [] then
          refused store ((call.mutation reader).revalidateLockedState store st [])
        else if (call.mutation reader).authoritativeSequence < st.latestSequence then
          refused store (staleSequence (call.mutation reader).authoritativeSequence
            st.latestSequence)
        else recordAtTarget fault (call.mutation reader) st store) := by
      by_cases hgate : (call.mutation reader).revalidateLockedState store st [] = []
      · rw [if_neg (not_not.mpr hgate), hsame]
        by_cases hstale : call.authoritativeSequence < st.latestSequence
        · rw [if_pos hstale]
          exact refused_step (GateState.fail_ne_nil _ _ _ _)
        · rw [if_neg hstale]
          exact target_step hload hgate (UInt64.not_lt.mp hstale)
      · rw [if_pos hgate]
        exact refused_step hgate
    unfold RecordCall.record recordAuthoritativeMutation
    rw [hload]
    rcases fault with _ | (_ | _ | _ | _ | _ | _ | _ | _ | _) <;> first
      | exact refused_step (GateState.fail_ne_nil _ _ _ _)
      | exact hstart

/-! ### The artifacts directory -/

def RecordCall.source : RecordCall → String
  | .contract _ source _ => source
  | .evaluation _ source _ _ => source
  | .handoff _ source _ => source

/-- What a call does to the artifacts: nothing where it is refused, or its own is there
afterwards and no other had its name. -/
inductive Published (name source : String) (store : AuthorityStore) (o : RecordOutcome) : Prop
  | kept (hartifacts : o.store.artifacts = store.artifacts) (hmemory : o.memory = none)
  | inserted (hfree : ∀ other, store.artifacts.get? name = some other → other = source)
      (hartifacts : o.store.artifacts = store.artifacts.insert name source)

theorem published_of_existing {name source : String} {store : AuthorityStore} {o : RecordOutcome}
    (hfree : ∀ other, store.artifacts.get? name = some other → other = source)
    (hartifacts : o.store.artifacts = if (store.artifacts.get? name).isSome then store.artifacts
      else store.artifacts.insert name source) : Published name source store o := by
  refine .inserted hfree (hartifacts.trans ?_)
  split_ifs with hsome
  · obtain ⟨other, hother⟩ := Option.isSome_iff_exists.mp hsome
    rw [OrderedMap.insert_get?_self ((hfree other hother) ▸ hother)]
  · rfl

theorem published_refused (name source : String) (store : AuthorityStore) (gate : GateState) :
    Published name source store (refused store gate) := .kept rfl rfl

section

variable {reader : ArtifactReader} {fault : Option RecordFault} {m : RecordMutation}
  {call : RecordCall} {store : AuthorityStore} {st : MutableHarnessState}

theorem published_replay
    (hfree : ∀ other, store.artifacts.get? m.artifactFileName = some other → other = m.source) :
    Published m.artifactFileName m.source store (replayAuthoritativeMutation fault m
      (store.artifacts.get? m.artifactFileName).isSome st store) := by
  unfold replayAuthoritativeMutation
  by_cases hreplay : st = m.applyTransition st
  · rw [if_pos hreplay]
    rcases fault with _ | fault
    · exact published_of_existing hfree rfl
    · cases fault with
      | publish message =>
        dsimp only
        by_cases hexists : (store.artifacts.get? m.artifactFileName).isSome
        · rw [if_pos hexists]
          exact published_of_existing hfree (by rw [if_pos hexists])
        · rw [if_neg hexists]
          exact published_refused _ _ _ _
      | _ => exact published_of_existing hfree rfl
  · rw [if_neg hreplay]
    exact published_refused _ _ _ _

theorem Published.withGate {name source : String} {o : RecordOutcome} {gate : GateState}
    (h : Published name source store o) :
    Published name source store { o with gate := gate } := by
  cases h with
  | kept hartifacts hmemory => exact .kept hartifacts hmemory
  | inserted hfree hartifacts => exact .inserted hfree hartifacts

theorem published_recorded
    (hfree : ∀ other, store.artifacts.get? m.artifactFileName = some other → other = m.source) :
    Published m.artifactFileName m.source store
      (publishAuthoritativeMutation.recorded m store st
        (if (store.artifacts.get? m.artifactFileName).isSome then store.artifacts
          else store.artifacts.insert m.artifactFileName m.source)) := by
  unfold publishAuthoritativeMutation.recorded
  split
  · exact published_refused _ _ _ _
  · exact published_of_existing hfree rfl

theorem published_publish
    (hfree : ∀ other, store.artifacts.get? m.artifactFileName = some other → other = m.source) :
    Published m.artifactFileName m.source store (publishAuthoritativeMutation fault m
      (store.artifacts.get? m.artifactFileName).isSome st store) := by
  have hok := @published_recorded m store (((m.applyTransition st).setLatestSequence
    m.authoritativeSequence).setDependencyIndexStateHealthy) hfree
  unfold publishAuthoritativeMutation
  rcases fault with _ | fault
  · exact hok
  · cases fault with
    | publish message =>
      dsimp only
      by_cases hexists : (store.artifacts.get? m.artifactFileName).isSome
      · rw [if_pos hexists]
        exact hok
      · rw [if_neg hexists]
        exact published_refused _ _ _ _
    | dependencyIndex message => exact published_refused _ _ _ _
    | observability message => exact published_refused _ _ _ _
    | append message => exact published_refused _ _ _ _
    | statePublish message => exact hok.withGate
    | lockConflict => exact hok
    | lockIo message => exact hok
    | stateUnreadable message => exact hok
    | targetUnreadable message => exact hok

theorem published_target : Published m.artifactFileName m.source store
    (recordAtTarget fault m st store) := by
  unfold recordAtTarget
  split
  · exact published_refused _ _ _ _
  · dsimp only
    split_ifs with hconflict
    · exact published_refused _ _ _ _
    all_goals
      have hfree : ∀ other, store.artifacts.get? m.artifactFileName = some other →
          other = m.source := by
        intro other hother
        rw [hother, Option.any_some] at hconflict
        simpa using hconflict
    · exact published_replay hfree
    · exact published_publish hfree

theorem published_record : Published call.artifactFileName call.source store
    (call.record reader fault store) := by
  have hname : (call.mutation reader).artifactFileName = call.artifactFileName := by
    cases call <;> rfl
  have hsource : (call.mutation reader).source = call.source := by cases call <;> rfl
  unfold RecordCall.record recordAuthoritativeMutation
  split
  · exact published_refused _ _ _ _
  · exact published_refused _ _ _ _
  · exact published_refused _ _ _ _
  · split
    · exact published_refused _ _ _ _
    · dsimp only
      split_ifs with hgate
      · exact published_refused _ _ _ _
      · exact published_refused _ _ _ _
      · rw [← hname, ← hsource]
        exact published_target

/-- **A published artifact stays.** -/
theorem record_artifact_kept {name source : String}
    (h : store.artifacts.get? name = some source) :
    (call.record reader fault store).store.artifacts.get? name = some source := by
  cases @published_record reader fault call store with
  | kept hartifacts hmemory => rw [hartifacts, h]
  | inserted hfree hartifacts =>
    rw [hartifacts, OrderedMap.get?_insert]
    split_ifs with hname
    · rw [hfree source (hname ▸ h)]
    · exact h

/-- A call is recorded where it computed the state; it is accepted where the state was
published as well. -/
def RecordOutcome.recorded (o : RecordOutcome) : Prop := o.memory.isSome

theorem recorded_of_accepted (h : (call.record reader fault store).accepted) :
    (call.record reader fault store).recorded := by
  cases record_step reader fault call store with
  | refused hreduced hgate hmemory => exact absurd h hgate
  | replayed st hreduced hload hgate hsequence hreplay hmemory =>
    rw [RecordOutcome.recorded, hmemory]
    rfl
  | appended st hload hgate hsequence hmemory hreduced =>
    rw [RecordOutcome.recorded, hmemory]
    rfl

theorem record_artifact_published (h : (call.record reader fault store).recorded) :
    (call.record reader fault store).store.artifacts.get? call.artifactFileName =
      some call.source := by
  cases @published_record reader fault call store with
  | kept hartifacts hmemory =>
    rw [RecordOutcome.recorded, hmemory] at h
    cases h
  | inserted hfree hartifacts => rw [hartifacts, OrderedMap.get?_insert_self]

end

end FeatureForge
