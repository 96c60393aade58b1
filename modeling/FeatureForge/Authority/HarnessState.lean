import FeatureForge.EventLog.Delta
import FeatureForge.Transitions.Payload

/-!
# The harness state of the artifact recorders

`MutableHarnessState`: the reduced authoritative state as `authority.rs` reads it, with
a typed member for each field it works on and the rest kept as they are.  Nulls at the
top are dropped before it is read (`strip_top_level_null_fields`) and written where a
member is `None`.  `load_of_strip_eq` is the round trip: a state object that agrees, up
to such nulls, with what a harness state writes is read back as that state.

Snapshots of the run identity and of the worktree leases are kept as the trees they are.
-/

namespace FeatureForge

/-! ### Nulls at the top -/

/-- `strip_top_level_null_fields`, on one field. -/
def stripNull (v : Option Json) : Option Json := v.filter fun v => !v.isNull

def StateObject.strip (s : StateObject) : StateObject := fun f => stripNull (s f)

@[simp] theorem stripNull_none : stripNull none = none := rfl

@[simp] theorem stripNull_null : stripNull (some .null) = none := rfl

theorem stripNull_of_ne {v : Json} (h : v ≠ .null) : stripNull (some v) = some v := by
  rw [stripNull, Option.filter_some, if_pos]
  rw [Bool.not_eq_true', Bool.eq_false_iff]
  exact fun hv => h (Json.isNull_iff.mp hv)

theorem stripNull_ne_null (v : Option Json) : stripNull v ≠ some .null := by
  intro h
  rw [stripNull, Option.filter_eq_some_iff] at h
  exact absurd h.2 (by decide)

theorem stripNull_idem (v : Option Json) : stripNull (stripNull v) = stripNull v := by
  cases hv : stripNull v with
  | none => rfl
  | some w =>
    refine stripNull_of_ne ?_
    rintro rfl
    exact stripNull_ne_null v hv

/-! ### Members -/

def u64TryFrom (n : Nat) : Option UInt64 := if n < 2 ^ 64 then some (UInt64.ofNat n) else none

def readU64 (v : Json) : Option UInt64 := v.asU64.bind u64TryFrom

def readU32 (v : Json) : Option UInt32 := v.asU64.bind u32TryFrom

def readStrings (v : Json) : Option (List String) := v.asArray.bind fun vs => vs.mapM Json.asStr

/-- `None` is written as null. -/
def writeOption {α : Type} (write : α → Json) (v : Option α) : Json := (v.map write).getD .null

theorem readU64_u64 (n : UInt64) : readU64 (.u64 n.toNat) = some n := by
  rw [readU64, Json.asU64_u64, Option.bind_some, u64TryFrom, if_pos n.toNat_lt, UInt64.ofNat_toNat]

theorem readU32_u64 (n : UInt32) : readU32 (.u64 n.toNat) = some n := by
  rw [readU32, Json.asU64_u64, Option.bind_some, u32TryFrom, if_pos n.toNat_lt, UInt32.ofNat_toNat]

theorem readStrings_strArr (values : List String) : readStrings (strArr values) = some values := by
  rw [readStrings, strArr, Json.asArray_arr, Option.bind_some]
  induction values with
  | nil => rfl
  | cons value values ih => simp [List.mapM_cons, ih]

theorem u64_ne_null (n : Nat) : Json.u64 n ≠ .null := fun h => by
  have := congrArg Json.asU64 h
  cases this

theorem bool_ne_null (b : Bool) : Json.bool b ≠ .null := fun h => by
  have := congrArg Json.asBool h
  cases this

theorem strArr_ne_null (values : List String) : strArr values ≠ .null := fun h => by
  have := congrArg Json.isNull h
  cases this

theorem stripNull_writeOption {α : Type} {write : α → Json} (hnull : ∀ a, write a ≠ .null)
    (a : Option α) : stripNull (some (writeOption write a)) = a.map write := by
  cases a with
  | none => rfl
  | some a => exact stripNull_of_ne (hnull a)

/-- A tree that is not null. -/
abbrev Tree : Type := { v : Json // v ≠ .null }

def readTree (v : Option Json) : Option Tree :=
  v.bind fun v => if hv : v ≠ .null then some ⟨v, hv⟩ else none

def writeTree (v : Option Tree) : Json := writeOption Subtype.val v

theorem readTree_writeTree (v : Option Tree) : readTree (stripNull (some (writeTree v))) = v := by
  cases v with
  | none => rfl
  | some v =>
    obtain ⟨v, hv⟩ := v
    show readTree (stripNull (some v)) = _
    rw [stripNull_of_ne hv]
    exact dif_pos hv

/-! ### The state -/

/-- The fields `MutableHarnessState` has a member for. -/
def harnessStateFields : List Field :=
  [.schemaVersion, .harnessPhase, .latestAuthoritativeSequence, .authoritativeSequence,
   .runIdentity, .chunkId, .activeContractPath, .activeContractFingerprint,
   .activeWorktreeLeaseFingerprints, .activeWorktreeLeaseBindings, .releasedWorktreeLeaseRecords,
   .requiredEvaluatorKinds, .completedEvaluatorKinds, .pendingEvaluatorKinds,
   .nonPassingEvaluatorKinds, .failedEvaluatorKinds, .blockedEvaluatorKinds,
   .aggregateEvaluationState, .lastEvaluationReportPath, .lastEvaluationReportFingerprint,
   .lastEvaluationEvaluatorKind, .lastEvaluationVerdict, .currentChunkRetryCount,
   .currentChunkRetryBudget, .currentChunkPivotThreshold, .handoffRequired, .openFailedCriteria,
   .strategyState, .lastStrategyCheckpointFingerprint, .strategyCheckpointKind,
   .strategyResetRequired]

/-- The other members, none of them null. -/
structure ExtraMembers where
  get : StateObject
  untyped : ∀ f ∈ harnessStateFields, get f = none
  plain : ∀ f, get f ≠ some .null

namespace ExtraMembers

theorem ext_get {m m' : ExtraMembers} (h : m.get = m'.get) : m = m' := by
  cases m
  cases m'
  cases h
  rfl

instance : DecidableEq ExtraMembers := fun m m' =>
  decidable_of_iff (m.get = m'.get) ⟨ext_get, fun h => h ▸ rfl⟩

def ofState (s : StateObject) : ExtraMembers where
  get f := if f ∈ harnessStateFields then none else stripNull (s f)
  untyped f hf := if_pos hf
  plain f := by
    split_ifs
    · exact fun h => by cases h
    · exact stripNull_ne_null _

/-- `insert`, of a member without a field. -/
def insert (m : ExtraMembers) (f : Field) (v : Json) (hf : f ∉ harnessStateFields)
    (hv : v ≠ .null) : ExtraMembers where
  get := m.get.set f v
  untyped g hg := by
    have hne : g ≠ f := by
      rintro rfl
      exact hf hg
    rw [set_of_ne _ _ hne, m.untyped g hg]
  plain g := by
    by_cases hg : g = f
    · rw [hg, set_self]
      exact fun h => hv (Option.some.inj h)
    · rw [set_of_ne _ _ hg]
      exact m.plain g

end ExtraMembers

structure MutableHarnessState where
  schemaVersion : UInt64
  harnessPhase : Option String
  latestAuthoritativeSequence : Option UInt64
  authoritativeSequence : Option UInt64
  runIdentity : Option Tree
  chunkId : Option String
  activeContractPath : Option String
  activeContractFingerprint : Option String
  activeWorktreeLeaseFingerprints : Option Tree
  activeWorktreeLeaseBindings : Option Tree
  releasedWorktreeLeaseRecords : Option Tree
  requiredEvaluatorKinds : List String
  completedEvaluatorKinds : List String
  pendingEvaluatorKinds : List String
  nonPassingEvaluatorKinds : List String
  failedEvaluatorKinds : List String
  blockedEvaluatorKinds : List String
  aggregateEvaluationState : Option String
  lastEvaluationReportPath : Option String
  lastEvaluationReportFingerprint : Option String
  lastEvaluationEvaluatorKind : Option String
  lastEvaluationVerdict : Option String
  currentChunkRetryCount : UInt32
  currentChunkRetryBudget : UInt32
  currentChunkPivotThreshold : UInt32
  handoffRequired : Bool
  openFailedCriteria : List String
  strategyState : Option String
  lastStrategyCheckpointFingerprint : Option String
  strategyCheckpointKind : Option String
  strategyResetRequired : Bool
  extra : ExtraMembers
  deriving DecidableEq

namespace MutableHarnessState

/-- Whether a member is of the type its field has. -/
def readable (f : Field) (v : Json) : Bool :=
  if f ∈ [.schemaVersion, .latestAuthoritativeSequence, .authoritativeSequence] then
    (readU64 v).isSome
  else if f ∈ [.currentChunkRetryCount, .currentChunkRetryBudget, .currentChunkPivotThreshold] then
    (readU32 v).isSome
  else if f ∈ [.handoffRequired, .strategyResetRequired] then v.asBool.isSome
  else if f ∈ [.requiredEvaluatorKinds, .completedEvaluatorKinds, .pendingEvaluatorKinds,
      .nonPassingEvaluatorKinds, .failedEvaluatorKinds, .blockedEvaluatorKinds,
      .openFailedCriteria] then (readStrings v).isSome
  else if f ∈ [.harnessPhase, .chunkId, .activeContractPath, .activeContractFingerprint,
      .aggregateEvaluationState, .lastEvaluationReportPath, .lastEvaluationReportFingerprint,
      .lastEvaluationEvaluatorKind, .lastEvaluationVerdict, .strategyState,
      .lastStrategyCheckpointFingerprint, .strategyCheckpointKind] then v.asStr.isSome
  else true

/-- The state of members that can be read: a missing one is the default. -/
def ofMembers (s : StateObject) : MutableHarnessState where
  schemaVersion := ((s .schemaVersion).bind readU64).getD 0
  harnessPhase := (s .harnessPhase).bind Json.asStr
  latestAuthoritativeSequence := (s .latestAuthoritativeSequence).bind readU64
  authoritativeSequence := (s .authoritativeSequence).bind readU64
  runIdentity := readTree (s .runIdentity)
  chunkId := (s .chunkId).bind Json.asStr
  activeContractPath := (s .activeContractPath).bind Json.asStr
  activeContractFingerprint := (s .activeContractFingerprint).bind Json.asStr
  activeWorktreeLeaseFingerprints := readTree (s .activeWorktreeLeaseFingerprints)
  activeWorktreeLeaseBindings := readTree (s .activeWorktreeLeaseBindings)
  releasedWorktreeLeaseRecords := readTree (s .releasedWorktreeLeaseRecords)
  requiredEvaluatorKinds := ((s .requiredEvaluatorKinds).bind readStrings).getD []
  completedEvaluatorKinds := ((s .completedEvaluatorKinds).bind readStrings).getD []
  pendingEvaluatorKinds := ((s .pendingEvaluatorKinds).bind readStrings).getD []
  nonPassingEvaluatorKinds := ((s .nonPassingEvaluatorKinds).bind readStrings).getD []
  failedEvaluatorKinds := ((s .failedEvaluatorKinds).bind readStrings).getD []
  blockedEvaluatorKinds := ((s .blockedEvaluatorKinds).bind readStrings).getD []
  aggregateEvaluationState := (s .aggregateEvaluationState).bind Json.asStr
  lastEvaluationReportPath := (s .lastEvaluationReportPath).bind Json.asStr
  lastEvaluationReportFingerprint := (s .lastEvaluationReportFingerprint).bind Json.asStr
  lastEvaluationEvaluatorKind := (s .lastEvaluationEvaluatorKind).bind Json.asStr
  lastEvaluationVerdict := (s .lastEvaluationVerdict).bind Json.asStr
  currentChunkRetryCount := ((s .currentChunkRetryCount).bind readU32).getD 0
  currentChunkRetryBudget := ((s .currentChunkRetryBudget).bind readU32).getD 0
  currentChunkPivotThreshold := ((s .currentChunkPivotThreshold).bind readU32).getD 0
  handoffRequired := ((s .handoffRequired).bind Json.asBool).getD false
  openFailedCriteria := ((s .openFailedCriteria).bind readStrings).getD []
  strategyState := (s .strategyState).bind Json.asStr
  lastStrategyCheckpointFingerprint := (s .lastStrategyCheckpointFingerprint).bind Json.asStr
  strategyCheckpointKind := (s .strategyCheckpointKind).bind Json.asStr
  strategyResetRequired := ((s .strategyResetRequired).bind Json.asBool).getD false
  extra := .ofState s

/-- `Deserialize`, on members none of which is null. -/
def fromMembers (s : StateObject) : Option MutableHarnessState :=
  if harnessStateFields.all fun f => (s f).all (readable f) then some (ofMembers s) else none

/-- `Serialize`. -/
def toValue (st : MutableHarnessState) : StateObject
  | .schemaVersion => some (.u64 st.schemaVersion.toNat)
  | .harnessPhase => some (optionStr st.harnessPhase)
  | .latestAuthoritativeSequence =>
    some (writeOption (fun n => .u64 n.toNat) st.latestAuthoritativeSequence)
  | .authoritativeSequence => some (writeOption (fun n => .u64 n.toNat) st.authoritativeSequence)
  | .runIdentity => some (writeTree st.runIdentity)
  | .chunkId => some (optionStr st.chunkId)
  | .activeContractPath => some (optionStr st.activeContractPath)
  | .activeContractFingerprint => some (optionStr st.activeContractFingerprint)
  | .activeWorktreeLeaseFingerprints => some (writeTree st.activeWorktreeLeaseFingerprints)
  | .activeWorktreeLeaseBindings => some (writeTree st.activeWorktreeLeaseBindings)
  | .releasedWorktreeLeaseRecords => some (writeTree st.releasedWorktreeLeaseRecords)
  | .requiredEvaluatorKinds => some (strArr st.requiredEvaluatorKinds)
  | .completedEvaluatorKinds => some (strArr st.completedEvaluatorKinds)
  | .pendingEvaluatorKinds => some (strArr st.pendingEvaluatorKinds)
  | .nonPassingEvaluatorKinds => some (strArr st.nonPassingEvaluatorKinds)
  | .failedEvaluatorKinds => some (strArr st.failedEvaluatorKinds)
  | .blockedEvaluatorKinds => some (strArr st.blockedEvaluatorKinds)
  | .aggregateEvaluationState => some (optionStr st.aggregateEvaluationState)
  | .lastEvaluationReportPath => some (optionStr st.lastEvaluationReportPath)
  | .lastEvaluationReportFingerprint => some (optionStr st.lastEvaluationReportFingerprint)
  | .lastEvaluationEvaluatorKind => some (optionStr st.lastEvaluationEvaluatorKind)
  | .lastEvaluationVerdict => some (optionStr st.lastEvaluationVerdict)
  | .currentChunkRetryCount => some (.u64 st.currentChunkRetryCount.toNat)
  | .currentChunkRetryBudget => some (.u64 st.currentChunkRetryBudget.toNat)
  | .currentChunkPivotThreshold => some (.u64 st.currentChunkPivotThreshold.toNat)
  | .handoffRequired => some (.bool st.handoffRequired)
  | .openFailedCriteria => some (strArr st.openFailedCriteria)
  | .strategyState => some (optionStr st.strategyState)
  | .lastStrategyCheckpointFingerprint => some (optionStr st.lastStrategyCheckpointFingerprint)
  | .strategyCheckpointKind => some (optionStr st.strategyCheckpointKind)
  | .strategyResetRequired => some (.bool st.strategyResetRequired)
  | f => st.extra.get f

def initialAuthoritativeSequence : UInt64 := 0

def latestSequence (st : MutableHarnessState) : UInt64 :=
  (st.latestAuthoritativeSequence.or st.authoritativeSequence).getD initialAuthoritativeSequence

def setLatestSequence (st : MutableHarnessState) (value : UInt64) : MutableHarnessState :=
  { st with
    latestAuthoritativeSequence := some value
    authoritativeSequence := some value }

/-- `entry(..).or_insert_with`, of the strategy checkpoints. -/
def withStrategyCheckpoints (m : ExtraMembers) : ExtraMembers :=
  if (m.get .strategyCheckpoints).isSome then m
  else m.insert .strategyCheckpoints (.arr []) (by decide) (by decide)

def normalizeDefaults (st : MutableHarnessState) : MutableHarnessState :=
  { st with
    schemaVersion := if st.schemaVersion = 0 then 1 else st.schemaVersion
    harnessPhase := some (st.harnessPhase.getD "implementation_handoff")
    aggregateEvaluationState := some (st.aggregateEvaluationState.getD "pending")
    strategyState := some (st.strategyState.getD "checkpoint_missing")
    strategyCheckpointKind := some (st.strategyCheckpointKind.getD "none")
    extra := withStrategyCheckpoints st.extra }

/-- `load_mutable_harness_state_from_event_authority`, of a reduced state. -/
def load (s : StateObject) : Option MutableHarnessState :=
  (fromMembers s.strip).map normalizeDefaults

def setDependencyIndexStateHealthy (st : MutableHarnessState) : MutableHarnessState :=
  { st with
    extra := st.extra.insert .dependencyIndexState (.str "healthy") (by decide) (by decide) }

/-! ### The round trip -/

theorem toValue_of_untyped (st : MutableHarnessState) {f : Field} (hf : f ∉ harnessStateFields) :
    st.toValue f = st.extra.get f := by
  cases f <;> first
    | rfl
    | exact absurd (by decide) hf

theorem ofState_toValue (st : MutableHarnessState) :
    ExtraMembers.ofState st.toValue.strip = st.extra := by
  refine ExtraMembers.ext_get (funext fun f => ?_)
  show (if f ∈ harnessStateFields then none else stripNull (stripNull (st.toValue f))) = _
  by_cases hf : f ∈ harnessStateFields
  · rw [if_pos hf, st.extra.untyped f hf]
  · rw [if_neg hf, stripNull_idem, toValue_of_untyped st hf]
    cases hv : st.extra.get f with
    | none => rfl
    | some v =>
      refine stripNull_of_ne ?_
      rintro rfl
      exact st.extra.plain f hv

/-- What is written where a field may be `None` can be read. -/
theorem all_writeOption {α : Type} {write : α → Json} (hnull : ∀ a, write a ≠ .null) {p : Json → Bool}
    (hp : ∀ a, p (write a) = true) (o : Option α) :
    (stripNull (some (writeOption write o))).all p = true := by
  rw [stripNull_writeOption hnull]
  cases o with
  | none => rfl
  | some a => exact hp a

theorem readable_toValue (st : MutableHarnessState) :
    (harnessStateFields.all fun f => (st.toValue.strip f).all (readable f)) = true := by
  have hstr : ∀ (f : Field) (o : Option String), (∀ v : String, readable f (.str v) = true) →
      (stripNull (some (optionStr o))).all (readable f) = true := fun f o hf =>
    all_writeOption Json.str_ne_null hf o
  have hsequence : ∀ (f : Field) (o : Option UInt64),
      (∀ n : UInt64, readable f (.u64 n.toNat) = true) →
      (stripNull (some (writeOption (fun n : UInt64 => .u64 n.toNat) o))).all (readable f) =
        true := fun f o hf => all_writeOption (fun _ => u64_ne_null _) hf o
  have htree : ∀ (f : Field) (o : Option Tree), (∀ v : Tree, readable f v.1 = true) →
      (stripNull (some (writeTree o))).all (readable f) = true := fun f o hf =>
    all_writeOption Subtype.prop hf o
  simp only [harnessStateFields, List.all_cons, List.all_nil, StateObject.strip, toValue,
    stripNull_of_ne (u64_ne_null _), stripNull_of_ne (bool_ne_null _),
    stripNull_of_ne (strArr_ne_null _), Option.all_some]
  simp [hstr, hsequence, htree, readable, readU64_u64, readU32_u64, readStrings_strArr]

theorem ofMembers_toValue (st : MutableHarnessState) : ofMembers st.toValue.strip = st := by
  have hstr : ∀ o : Option String, (stripNull (some (optionStr o))).bind Json.asStr = o := by
    intro o
    rw [show optionStr o = writeOption Json.str o from rfl,
      stripNull_writeOption Json.str_ne_null]
    cases o <;> rfl
  have hsequence : ∀ o : Option UInt64,
      (stripNull (some (writeOption (fun n : UInt64 => .u64 n.toNat) o))).bind readU64 = o := by
    intro o
    rw [stripNull_writeOption fun _ => u64_ne_null _]
    cases o with
    | none => rfl
    | some n => exact readU64_u64 n
  have hextra := ofState_toValue st
  simp only [ofMembers, StateObject.strip, toValue, stripNull_of_ne (u64_ne_null _),
    stripNull_of_ne (bool_ne_null _), stripNull_of_ne (strArr_ne_null _), hstr, hsequence,
    readTree_writeTree, Option.bind_some, readU64_u64, readU32_u64, readStrings_strArr,
    Json.asBool_bool, Option.getD_some] at hextra ⊢
  rw [hextra]

/-- **What a harness state writes is read back.** -/
theorem fromMembers_toValue (st : MutableHarnessState) :
    fromMembers st.toValue.strip = some st := by
  rw [fromMembers, if_pos (readable_toValue st), ofMembers_toValue]

/-- The phase is read for itself. -/
theorem fromMembers_set_harnessPhase {s : StateObject} {st : MutableHarnessState}
    (h : fromMembers s = some st) (phase : String) :
    fromMembers (s.set .harnessPhase (.str phase)) =
      some { st with harnessPhase := some phase } := by
  rw [fromMembers] at h
  split_ifs at h with hall
  cases h
  have hself : s.set .harnessPhase (.str phase) .harnessPhase = some (.str phase) :=
    set_self s _ _
  have hne : ∀ f, f ≠ .harnessPhase → s.set .harnessPhase (.str phase) f = s f := fun f hf =>
    set_of_ne s _ hf
  have hextra : ExtraMembers.ofState (s.set .harnessPhase (.str phase)) = .ofState s := by
    refine ExtraMembers.ext_get (funext fun f => ?_)
    show (if f ∈ harnessStateFields then none else _) = if f ∈ harnessStateFields then none else _
    by_cases hf : f ∈ harnessStateFields
    · rw [if_pos hf, if_pos hf]
    · rw [if_neg hf, if_neg hf, hne f (by rintro rfl; exact hf (by decide))]
  rw [fromMembers, if_pos]
  · rw [ofMembers, hextra, hself]
    simp (disch := decide) only [hne]
    rfl
  · rw [List.all_eq_true] at hall ⊢
    intro f hf
    by_cases hphase : f = .harnessPhase
    · rw [hphase, hself]
      rfl
    · rw [hne f hphase]
      exact hall f hf

end MutableHarnessState

end FeatureForge
