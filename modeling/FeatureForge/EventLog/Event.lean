import FeatureForge.EventLog.Fields
import FeatureForge.EventLog.FollowUp

/-!
# Typed events

The payload of a log entry: one constructor for each kind of event, with the
facts it carries.  `Facts fields` is a fact payload struct, an optional value for
each of its slots; `none` is a fact that is absent, `some Json.null` one that is
explicitly null.  That it has no other slot is a field of the structure, so the
payload of an event holds nothing its kind does not allow (`factAllowed_of_get`).

Below that is the written form: `ExecutionEvent.toMembers` is the tagged object
`serde` writes and `ExecutionEvent.fromMembers` reads it back, refusing unknown
facts and keeping null apart from absent.  `ExecutionEvent.fromMembers_toMembers`
is the round trip.
-/

namespace FeatureForge

/-- Optional facts in the slots `fields` and nowhere else. -/
structure Facts (fields : List Field) where
  get : Field → Option Json
  support : ∀ f, f ∉ fields → get f = none

namespace Facts

variable {fields : List Field}

@[ext] theorem ext {a b : Facts fields} (h : ∀ f, a.get f = b.get f) : a = b := by
  obtain ⟨f, hf⟩ := a
  obtain ⟨g, hg⟩ := b
  cases funext h
  rfl

theorem mem_of_get {a : Facts fields} {f : Field} {v : Json} (h : a.get f = some v) :
    f ∈ fields := by
  by_contra hf
  rw [a.support f hf] at h
  cases h

/-- The facts of `get` that have a slot; the others are dropped. -/
def ofGet (fields : List Field) (get : Field → Option Json) : Facts fields where
  get f := if f ∈ fields then get f else none
  support _ h := if_neg h

@[simp] theorem get_ofGet (get : Field → Option Json) (f : Field) :
    (ofGet fields get).get f = if f ∈ fields then get f else none := rfl

def populatedFieldNames (a : Facts fields) : List Field := fields.filter fun f => (a.get f).isSome

/-! ### The written form -/

def toMembers (a : Facts fields) : Members :=
  fields.filterMap fun f => (a.get f).map fun v => (f.name, v.raw)

/-- `deny_unknown_fields`: a member that names no slot is an error. -/
def fromMembers (fields : List Field) (ms : Members) : Option (Facts fields) :=
  if (ms.map Prod.fst).Nodup ∧ ∀ k ∈ ms.map Prod.fst, k ∈ fields.map Field.name then
    some (ofGet fields fun f => (ms.member f.name).map RawJson.toJson)
  else none

theorem keys_toMembers (get : Field → Option Json) : ∀ fs : List Field,
    ((fs.filterMap fun f => (get f).map fun v => (f.name, v.raw)).map Prod.fst).Sublist
      (fs.map Field.name) := by
  intro fs
  induction fs with
  | nil => exact .slnil
  | cons f fs ih =>
    cases h : get f with
    | none =>
      rw [List.filterMap_cons_none (by rw [h]; rfl)]
      exact ih.cons _
    | some v =>
      rw [List.filterMap_cons_some (b := (f.name, v.raw)) (by rw [h]; rfl)]
      exact ih.cons_cons _

theorem member_toMembers (get : Field → Option Json) {f : Field} : ∀ {fs : List Field},
    fs.Nodup → f ∈ fs →
      Members.member (fs.filterMap fun f => (get f).map fun v => (f.name, v.raw)) f.name
        = (get f).map Json.raw := by
  intro fs
  induction fs with
  | nil => intro _ h; cases h
  | cons g gs ih =>
    intro hn hf
    rw [List.nodup_cons] at hn
    cases hg : get g with
    | none =>
      rw [List.filterMap_cons_none (by rw [hg]; rfl)]
      rcases List.mem_cons.mp hf with rfl | hf
      · have : f.name ∉ (gs.filterMap fun f => (get f).map fun v => (f.name, v.raw)).map
            Prod.fst := fun h => by
          obtain ⟨g, hmem, he⟩ := List.mem_map.mp ((keys_toMembers get gs).subset h)
          cases Field.name_injective he
          exact hn.1 hmem
        rw [hg]
        exact OrderedMap.lookup_eq_none.mpr this
      · exact ih hn.2 hf
    | some v =>
      rw [List.filterMap_cons_some (b := (g.name, v.raw)) (by rw [hg]; rfl), Members.member_cons]
      rcases List.mem_cons.mp hf with rfl | hf
      · rw [if_pos rfl, hg]; rfl
      · have hne : f ≠ g := fun he => hn.1 (he ▸ hf)
        rw [if_neg (fun he => hne (Field.name_injective he))]
        exact ih hn.2 hf

/-- **Facts read back as they were written**, null and absent kept apart. -/
theorem fromMembers_toMembers (hn : fields.Nodup) (a : Facts fields) :
    fromMembers fields a.toMembers = some a := by
  have hkeys := keys_toMembers a.get fields
  rw [fromMembers, if_pos ⟨(hn.map Field.name_injective).sublist hkeys,
    fun k hk => hkeys.subset hk⟩]
  refine congrArg some (ext fun f => ?_)
  by_cases hf : f ∈ fields
  · rw [get_ofGet, if_pos hf, toMembers, member_toMembers a.get hn hf, Option.map_map]
    cases a.get f with
    | none => rfl
    | some v => exact congrArg some (RawJson.toJson_raw v)
  · rw [get_ofGet, if_neg hf, a.support f hf]

def codec (fields : List Field) (hn : fields.Nodup) : Codec (Facts fields) where
  encode a := .obj a.toMembers
  decode
    | .obj ms => fromMembers fields ms
    | _ => none
  decode_encode := fromMembers_toMembers hn
  encode_ne_null _ := RawJson.noConfusion

end Facts

/-- `AuthoritativeFactBuilder`: facts in every slot any payload has. -/
abbrev AuthoritativeFactBuilder : Type := Facts authoritativeFactFields

namespace AuthoritativeFactBuilder

/-- The builder filled from `fields`, a name without a slot being dropped. -/
def collect (fields : List Field) (value : Field → Option Json) : AuthoritativeFactBuilder :=
  .ofGet _ fun f => if f ∈ fields ∧ f ∈ authoritativeEventFields then value f else none

/-- The payload takes the slots it has. -/
def into (fields : List Field) (b : AuthoritativeFactBuilder) : Facts fields :=
  .ofGet _ b.get

end AuthoritativeFactBuilder

/-- The kind of an event, the tag of its payload. -/
inductive EventKind where
  | migrationImported
  | begin
  | note
  | complete
  | reopen
  | transfer
  | dispatchRecorded
  | taskClosureRecorded
  | branchClosureRecorded
  | releaseReadinessRecorded
  | finalReviewRecorded
  | qaRecorded
  | repairFollowUpSet
  | repairFollowUpCleared
  | strategyCheckpointRecorded
  | strategyCheckpointCleared
  | preflightBootstrapRecorded
  | contractRecorded
  | evaluationRecorded
  | handoffRecorded
  | worktreeLeaseIndexUpdated
  | recordStatusTransition
  deriving DecidableEq

/-- One typed event. -/
inductive ExecutionEvent where
  | migrationImported (legacyStateBackupPath : String)
  | begin (task step : Option UInt32) (facts : Facts stepSlots)
  | note (task step : Option UInt32) (noteState : Option String) (facts : Facts stepSlots)
  | complete (task step : Option UInt32) (facts : Facts stepSlots)
  | reopen (task step : Option UInt32) (facts : Facts stepSlots)
  | transfer (scope assignee : Option String) (facts : Facts transferSlots)
  | dispatchRecorded (scope dispatchId : Option String) (facts : Facts dispatchSlots)
  | taskClosureRecorded (task : Option UInt32) (closureRecordId : Option String)
      (facts : Facts taskClosureSlots)
  | branchClosureRecorded (branchClosureId : Option String) (facts : Facts branchClosureSlots)
  | releaseReadinessRecorded (releaseReadinessRecordId : Option String)
      (facts : Facts releaseReadinessSlots)
  | finalReviewRecorded (finalReviewRecordId dispatchId : Option String)
      (facts : Facts finalReviewSlots)
  | qaRecorded (qaRecordId : Option String) (facts : Facts qaSlots)
  | repairFollowUpSet (record : Option RepairFollowUpRecord) (facts : Facts repairSlots)
  | repairFollowUpCleared (facts : Facts repairSlots)
  | strategyCheckpointRecorded (checkpointKind checkpointFingerprint : Option String)
      (facts : Facts strategySlots)
  | strategyCheckpointCleared (facts : Facts strategySlots)
  | preflightBootstrapRecorded (facts : Facts runMetadataSlots)
  | contractRecorded (facts : Facts runMetadataSlots)
  | evaluationRecorded (facts : Facts runMetadataSlots)
  | handoffRecorded (facts : Facts handoffSlots)
  | worktreeLeaseIndexUpdated (facts : Facts runMetadataSlots)
  | recordStatusTransition (recordFamily : String) (recordId recordStatus : Option String)
      (recordSequence : Option UInt64)

namespace EventKind

def all : List EventKind :=
  [.migrationImported, .begin, .note, .complete, .reopen, .transfer, .dispatchRecorded,
   .taskClosureRecorded, .branchClosureRecorded, .releaseReadinessRecorded, .finalReviewRecorded,
   .qaRecorded, .repairFollowUpSet, .repairFollowUpCleared, .strategyCheckpointRecorded,
   .strategyCheckpointCleared, .preflightBootstrapRecorded, .contractRecorded, .evaluationRecorded,
   .handoffRecorded, .worktreeLeaseIndexUpdated, .recordStatusTransition]

theorem mem_all (k : EventKind) : k ∈ all := by cases k <;> decide

/-- `kind_name`. -/
def name : EventKind → String
  | .migrationImported => "migration_imported"
  | .begin => "begin"
  | .note => "note"
  | .complete => "complete"
  | .reopen => "reopen"
  | .transfer => "transfer"
  | .dispatchRecorded => "dispatch_recorded"
  | .taskClosureRecorded => "task_closure_recorded"
  | .branchClosureRecorded => "branch_closure_recorded"
  | .releaseReadinessRecorded => "release_readiness_recorded"
  | .finalReviewRecorded => "final_review_recorded"
  | .qaRecorded => "qa_recorded"
  | .repairFollowUpSet => "repair_follow_up_set"
  | .repairFollowUpCleared => "repair_follow_up_cleared"
  | .strategyCheckpointRecorded => "strategy_checkpoint_recorded"
  | .strategyCheckpointCleared => "strategy_checkpoint_cleared"
  | .preflightBootstrapRecorded => "preflight_bootstrap_recorded"
  | .contractRecorded => "contract_recorded"
  | .evaluationRecorded => "evaluation_recorded"
  | .handoffRecorded => "handoff_recorded"
  | .worktreeLeaseIndexUpdated => "worktree_lease_index_updated"
  | .recordStatusTransition => "record_status_transition"

theorem name_injective : Function.Injective name := fun a b h =>
  List.inj_on_of_nodup_map (l := all) (by simp [all, name]) (mem_all a) (mem_all b) h

def codec : Codec EventKind := Codec.tag name all mem_all name_injective

end EventKind

/-! ### The fact payload structs -/

def stepFacts : Codec (Facts stepSlots) := Facts.codec _ (by decide)
def transferFacts : Codec (Facts transferSlots) := Facts.codec _ (by decide)
def dispatchFacts : Codec (Facts dispatchSlots) := Facts.codec _ (by decide)
def taskClosureFacts : Codec (Facts taskClosureSlots) := Facts.codec _ (by decide)
def branchClosureFacts : Codec (Facts branchClosureSlots) := Facts.codec _ (by decide)
def releaseReadinessFacts : Codec (Facts releaseReadinessSlots) := Facts.codec _ (by decide)
def finalReviewFacts : Codec (Facts finalReviewSlots) := Facts.codec _ (by decide)
def qaFacts : Codec (Facts qaSlots) := Facts.codec _ (by decide)
def repairFacts : Codec (Facts repairSlots) := Facts.codec _ (by decide)
def strategyFacts : Codec (Facts strategySlots) := Facts.codec _ (by decide)
def runMetadataFacts : Codec (Facts runMetadataSlots) := Facts.codec _ (by decide)
def handoffFacts : Codec (Facts handoffSlots) := Facts.codec _ (by decide)

namespace ExecutionEvent

open Members

def kind : ExecutionEvent → EventKind
  | .migrationImported _ => .migrationImported
  | .begin _ _ _ => .begin
  | .note _ _ _ _ => .note
  | .complete _ _ _ => .complete
  | .reopen _ _ _ => .reopen
  | .transfer _ _ _ => .transfer
  | .dispatchRecorded _ _ _ => .dispatchRecorded
  | .taskClosureRecorded _ _ _ => .taskClosureRecorded
  | .branchClosureRecorded _ _ => .branchClosureRecorded
  | .releaseReadinessRecorded _ _ => .releaseReadinessRecorded
  | .finalReviewRecorded _ _ _ => .finalReviewRecorded
  | .qaRecorded _ _ => .qaRecorded
  | .repairFollowUpSet _ _ => .repairFollowUpSet
  | .repairFollowUpCleared _ => .repairFollowUpCleared
  | .strategyCheckpointRecorded _ _ _ => .strategyCheckpointRecorded
  | .strategyCheckpointCleared _ => .strategyCheckpointCleared
  | .preflightBootstrapRecorded _ => .preflightBootstrapRecorded
  | .contractRecorded _ => .contractRecorded
  | .evaluationRecorded _ => .evaluationRecorded
  | .handoffRecorded _ => .handoffRecorded
  | .worktreeLeaseIndexUpdated _ => .worktreeLeaseIndexUpdated
  | .recordStatusTransition _ _ _ _ => .recordStatusTransition

/-- The facts of an event that carries any. -/
def facts : ExecutionEvent → Option (Field → Option Json)
  | .migrationImported _ => none
  | .begin _ _ facts => some facts.get
  | .note _ _ _ facts => some facts.get
  | .complete _ _ facts => some facts.get
  | .reopen _ _ facts => some facts.get
  | .transfer _ _ facts => some facts.get
  | .dispatchRecorded _ _ facts => some facts.get
  | .taskClosureRecorded _ _ facts => some facts.get
  | .branchClosureRecorded _ facts => some facts.get
  | .releaseReadinessRecorded _ facts => some facts.get
  | .finalReviewRecorded _ _ facts => some facts.get
  | .qaRecorded _ facts => some facts.get
  | .repairFollowUpSet _ facts => some facts.get
  | .repairFollowUpCleared facts => some facts.get
  | .strategyCheckpointRecorded _ _ facts => some facts.get
  | .strategyCheckpointCleared facts => some facts.get
  | .preflightBootstrapRecorded facts => some facts.get
  | .contractRecorded facts => some facts.get
  | .evaluationRecorded facts => some facts.get
  | .handoffRecorded facts => some facts.get
  | .worktreeLeaseIndexUpdated facts => some facts.get
  | .recordStatusTransition _ _ _ _ => none

/-- The slots an event of this kind has for facts. -/
def slots : EventKind → List Field
  | .migrationImported => []
  | .begin => stepSlots
  | .note => stepSlots
  | .complete => stepSlots
  | .reopen => stepSlots
  | .transfer => transferSlots
  | .dispatchRecorded => dispatchSlots
  | .taskClosureRecorded => taskClosureSlots
  | .branchClosureRecorded => branchClosureSlots
  | .releaseReadinessRecorded => releaseReadinessSlots
  | .finalReviewRecorded => finalReviewSlots
  | .qaRecorded => qaSlots
  | .repairFollowUpSet => repairSlots
  | .repairFollowUpCleared => repairSlots
  | .strategyCheckpointRecorded => strategySlots
  | .strategyCheckpointCleared => strategySlots
  | .preflightBootstrapRecorded => runMetadataSlots
  | .contractRecorded => runMetadataSlots
  | .evaluationRecorded => runMetadataSlots
  | .handoffRecorded => handoffSlots
  | .worktreeLeaseIndexUpdated => runMetadataSlots
  | .recordStatusTransition => []

/-- The field list an event of this kind is checked against. -/
def allowedFields : EventKind → List Field
  | .migrationImported => []
  | .begin => stepEventFields
  | .note => stepEventFields
  | .complete => stepEventFields
  | .reopen => stepEventFields
  | .transfer => transferEventFields
  | .dispatchRecorded => dispatchEventFields
  | .taskClosureRecorded => taskClosureEventFields
  | .branchClosureRecorded => branchClosureEventFields
  | .releaseReadinessRecorded => releaseReadinessEventFields
  | .finalReviewRecorded => finalReviewEventFields
  | .qaRecorded => qaEventFields
  | .repairFollowUpSet => repairEventFields
  | .repairFollowUpCleared => repairEventFields
  | .strategyCheckpointRecorded => strategyEventFields
  | .strategyCheckpointCleared => strategyEventFields
  | .preflightBootstrapRecorded => runMetadataFields
  | .contractRecorded => runMetadataFields
  | .evaluationRecorded => runMetadataFields
  | .handoffRecorded => handoffFields
  | .worktreeLeaseIndexUpdated => runMetadataFields
  | .recordStatusTransition => []

/-- `event_fact_field_allowed`. -/
def factFieldAllowed (e : ExecutionEvent) (f : Field) : Bool :=
  f ∈ authoritativeEventFields && f ∈ allowedFields e.kind

theorem get_of_facts {e : ExecutionEvent} {get : Field → Option Json} (h : e.facts = some get)
    {f : Field} {v : Json} (hv : get f = some v) : f ∈ slots e.kind := by
  cases e <;> first
    | (cases Option.some.inj h; exact Facts.mem_of_get hv)
    | cases h

/-- **A payload holds no field its kind does not allow.** -/
theorem factFieldAllowed_of_get {e : ExecutionEvent} {get : Field → Option Json}
    (h : e.facts = some get) {f : Field} {v : Json} (hv : get f = some v) :
    e.factFieldAllowed f = true := by
  have hslots : ∀ k ∈ EventKind.all, ∀ f ∈ slots k,
      f ∈ authoritativeEventFields ∧ f ∈ allowedFields k := by decide
  have := hslots e.kind (EventKind.mem_all _) f (get_of_facts h hv)
  simp [factFieldAllowed, this]

/-! ### The written form -/

/-- The payload as its members, the tag first. -/
def toMembers : ExecutionEvent → Members
  | .migrationImported legacyStateBackupPath =>
    required "kind" EventKind.codec .migrationImported
      ++ required "legacy_state_backup_path" Codec.str legacyStateBackupPath
  | .begin task step facts =>
    required "kind" EventKind.codec .begin
      ++ (nullable "task" Codec.u32 task
      ++ (nullable "step" Codec.u32 step
      ++ required "facts" stepFacts facts))
  | .note task step noteState facts =>
    required "kind" EventKind.codec .note
      ++ (nullable "task" Codec.u32 task
      ++ (nullable "step" Codec.u32 step
      ++ (nullable "note_state" Codec.str noteState
      ++ required "facts" stepFacts facts)))
  | .complete task step facts =>
    required "kind" EventKind.codec .complete
      ++ (nullable "task" Codec.u32 task
      ++ (nullable "step" Codec.u32 step
      ++ required "facts" stepFacts facts))
  | .reopen task step facts =>
    required "kind" EventKind.codec .reopen
      ++ (nullable "task" Codec.u32 task
      ++ (nullable "step" Codec.u32 step
      ++ required "facts" stepFacts facts))
  | .transfer scope assignee facts =>
    required "kind" EventKind.codec .transfer
      ++ (nullable "scope" Codec.str scope
      ++ (nullable "assignee" Codec.str assignee
      ++ required "facts" transferFacts facts))
  | .dispatchRecorded scope dispatchId facts =>
    required "kind" EventKind.codec .dispatchRecorded
      ++ (nullable "scope" Codec.str scope
      ++ (nullable "dispatch_id" Codec.str dispatchId
      ++ required "facts" dispatchFacts facts))
  | .taskClosureRecorded task closureRecordId facts =>
    required "kind" EventKind.codec .taskClosureRecorded
      ++ (nullable "task" Codec.u32 task
      ++ (nullable "closure_record_id" Codec.str closureRecordId
      ++ required "facts" taskClosureFacts facts))
  | .branchClosureRecorded branchClosureId facts =>
    required "kind" EventKind.codec .branchClosureRecorded
      ++ (nullable "branch_closure_id" Codec.str branchClosureId
      ++ required "facts" branchClosureFacts facts)
  | .releaseReadinessRecorded releaseReadinessRecordId facts =>
    required "kind" EventKind.codec .releaseReadinessRecorded
      ++ (nullable "release_readiness_record_id" Codec.str releaseReadinessRecordId
      ++ required "facts" releaseReadinessFacts facts)
  | .finalReviewRecorded finalReviewRecordId dispatchId facts =>
    required "kind" EventKind.codec .finalReviewRecorded
      ++ (nullable "final_review_record_id" Codec.str finalReviewRecordId
      ++ (nullable "dispatch_id" Codec.str dispatchId
      ++ required "facts" finalReviewFacts facts))
  | .qaRecorded qaRecordId facts =>
    required "kind" EventKind.codec .qaRecorded
      ++ (nullable "qa_record_id" Codec.str qaRecordId
      ++ required "facts" qaFacts facts)
  | .repairFollowUpSet record facts =>
    required "kind" EventKind.codec .repairFollowUpSet
      ++ (skipNone "record" RepairFollowUpRecord.codec record
      ++ required "facts" repairFacts facts)
  | .repairFollowUpCleared facts =>
    required "kind" EventKind.codec .repairFollowUpCleared
      ++ required "facts" repairFacts facts
  | .strategyCheckpointRecorded checkpointKind checkpointFingerprint facts =>
    required "kind" EventKind.codec .strategyCheckpointRecorded
      ++ (nullable "checkpoint_kind" Codec.str checkpointKind
      ++ (nullable "checkpoint_fingerprint" Codec.str checkpointFingerprint
      ++ required "facts" strategyFacts facts))
  | .strategyCheckpointCleared facts =>
    required "kind" EventKind.codec .strategyCheckpointCleared
      ++ required "facts" strategyFacts facts
  | .preflightBootstrapRecorded facts =>
    required "kind" EventKind.codec .preflightBootstrapRecorded
      ++ required "facts" runMetadataFacts facts
  | .contractRecorded facts =>
    required "kind" EventKind.codec .contractRecorded
      ++ required "facts" runMetadataFacts facts
  | .evaluationRecorded facts =>
    required "kind" EventKind.codec .evaluationRecorded
      ++ required "facts" runMetadataFacts facts
  | .handoffRecorded facts =>
    required "kind" EventKind.codec .handoffRecorded
      ++ required "facts" handoffFacts facts
  | .worktreeLeaseIndexUpdated facts =>
    required "kind" EventKind.codec .worktreeLeaseIndexUpdated
      ++ required "facts" runMetadataFacts facts
  | .recordStatusTransition recordFamily recordId recordStatus recordSequence =>
    required "kind" EventKind.codec .recordStatusTransition
      ++ (required "record_family" Codec.str recordFamily
      ++ (skipNone "record_id" Codec.str recordId
      ++ (skipNone "record_status" Codec.str recordStatus
      ++ skipNone "record_sequence" Codec.u64 recordSequence)))

/-- The members of a payload of the given kind read back. -/
def fromMembersOf (ms : Members) : EventKind → Option ExecutionEvent
  | .migrationImported =>
    if noDuplicates ["kind", "legacy_state_backup_path"] ms then do
      let legacyStateBackupPath ← getRequired ms "legacy_state_backup_path" Codec.str
      some (.migrationImported legacyStateBackupPath)
    else none
  | .begin =>
    if noDuplicates ["kind", "task", "step", "facts"] ms then do
      let task ← getOptional ms "task" Codec.u32
      let step ← getOptional ms "step" Codec.u32
      let facts ← getRequired ms "facts" stepFacts
      some (.begin task step facts)
    else none
  | .note =>
    if noDuplicates ["kind", "task", "step", "note_state", "facts"] ms then do
      let task ← getOptional ms "task" Codec.u32
      let step ← getOptional ms "step" Codec.u32
      let noteState ← getOptional ms "note_state" Codec.str
      let facts ← getRequired ms "facts" stepFacts
      some (.note task step noteState facts)
    else none
  | .complete =>
    if noDuplicates ["kind", "task", "step", "facts"] ms then do
      let task ← getOptional ms "task" Codec.u32
      let step ← getOptional ms "step" Codec.u32
      let facts ← getRequired ms "facts" stepFacts
      some (.complete task step facts)
    else none
  | .reopen =>
    if noDuplicates ["kind", "task", "step", "facts"] ms then do
      let task ← getOptional ms "task" Codec.u32
      let step ← getOptional ms "step" Codec.u32
      let facts ← getRequired ms "facts" stepFacts
      some (.reopen task step facts)
    else none
  | .transfer =>
    if noDuplicates ["kind", "scope", "assignee", "facts"] ms then do
      let scope ← getOptional ms "scope" Codec.str
      let assignee ← getOptional ms "assignee" Codec.str
      let facts ← getRequired ms "facts" transferFacts
      some (.transfer scope assignee facts)
    else none
  | .dispatchRecorded =>
    if noDuplicates ["kind", "scope", "dispatch_id", "facts"] ms then do
      let scope ← getOptional ms "scope" Codec.str
      let dispatchId ← getOptional ms "dispatch_id" Codec.str
      let facts ← getRequired ms "facts" dispatchFacts
      some (.dispatchRecorded scope dispatchId facts)
    else none
  | .taskClosureRecorded =>
    if noDuplicates ["kind", "task", "closure_record_id", "facts"] ms then do
      let task ← getOptional ms "task" Codec.u32
      let closureRecordId ← getOptional ms "closure_record_id" Codec.str
      let facts ← getRequired ms "facts" taskClosureFacts
      some (.taskClosureRecorded task closureRecordId facts)
    else none
  | .branchClosureRecorded =>
    if noDuplicates ["kind", "branch_closure_id", "facts"] ms then do
      let branchClosureId ← getOptional ms "branch_closure_id" Codec.str
      let facts ← getRequired ms "facts" branchClosureFacts
      some (.branchClosureRecorded branchClosureId facts)
    else none
  | .releaseReadinessRecorded =>
    if noDuplicates ["kind", "release_readiness_record_id", "facts"] ms then do
      let releaseReadinessRecordId ← getOptional ms "release_readiness_record_id" Codec.str
      let facts ← getRequired ms "facts" releaseReadinessFacts
      some (.releaseReadinessRecorded releaseReadinessRecordId facts)
    else none
  | .finalReviewRecorded =>
    if noDuplicates ["kind", "final_review_record_id", "dispatch_id", "facts"] ms then do
      let finalReviewRecordId ← getOptional ms "final_review_record_id" Codec.str
      let dispatchId ← getOptional ms "dispatch_id" Codec.str
      let facts ← getRequired ms "facts" finalReviewFacts
      some (.finalReviewRecorded finalReviewRecordId dispatchId facts)
    else none
  | .qaRecorded =>
    if noDuplicates ["kind", "qa_record_id", "facts"] ms then do
      let qaRecordId ← getOptional ms "qa_record_id" Codec.str
      let facts ← getRequired ms "facts" qaFacts
      some (.qaRecorded qaRecordId facts)
    else none
  | .repairFollowUpSet =>
    if noDuplicates ["kind", "record", "facts"] ms then do
      let record ← getOptional ms "record" RepairFollowUpRecord.codec
      let facts ← getRequired ms "facts" repairFacts
      some (.repairFollowUpSet record facts)
    else none
  | .repairFollowUpCleared =>
    if noDuplicates ["kind", "facts"] ms then do
      let facts ← getRequired ms "facts" repairFacts
      some (.repairFollowUpCleared facts)
    else none
  | .strategyCheckpointRecorded =>
    if noDuplicates ["kind", "checkpoint_kind", "checkpoint_fingerprint", "facts"] ms then do
      let checkpointKind ← getOptional ms "checkpoint_kind" Codec.str
      let checkpointFingerprint ← getOptional ms "checkpoint_fingerprint" Codec.str
      let facts ← getRequired ms "facts" strategyFacts
      some (.strategyCheckpointRecorded checkpointKind checkpointFingerprint facts)
    else none
  | .strategyCheckpointCleared =>
    if noDuplicates ["kind", "facts"] ms then do
      let facts ← getRequired ms "facts" strategyFacts
      some (.strategyCheckpointCleared facts)
    else none
  | .preflightBootstrapRecorded =>
    if noDuplicates ["kind", "facts"] ms then do
      let facts ← getRequired ms "facts" runMetadataFacts
      some (.preflightBootstrapRecorded facts)
    else none
  | .contractRecorded =>
    if noDuplicates ["kind", "facts"] ms then do
      let facts ← getRequired ms "facts" runMetadataFacts
      some (.contractRecorded facts)
    else none
  | .evaluationRecorded =>
    if noDuplicates ["kind", "facts"] ms then do
      let facts ← getRequired ms "facts" runMetadataFacts
      some (.evaluationRecorded facts)
    else none
  | .handoffRecorded =>
    if noDuplicates ["kind", "facts"] ms then do
      let facts ← getRequired ms "facts" handoffFacts
      some (.handoffRecorded facts)
    else none
  | .worktreeLeaseIndexUpdated =>
    if noDuplicates ["kind", "facts"] ms then do
      let facts ← getRequired ms "facts" runMetadataFacts
      some (.worktreeLeaseIndexUpdated facts)
    else none
  | .recordStatusTransition =>
    if noDuplicates ["kind", "record_family", "record_id", "record_status", "record_sequence"]
        ms then do
      let recordFamily ← getRequired ms "record_family" Codec.str
      let recordId ← getOptional ms "record_id" Codec.str
      let recordStatus ← getOptional ms "record_status" Codec.str
      let recordSequence ← getOptional ms "record_sequence" Codec.u64
      some (.recordStatusTransition recordFamily recordId recordStatus recordSequence)
    else none

/-- The members of a payload read back, by its tag. -/
def fromMembers (ms : Members) : Option ExecutionEvent :=
  (getRequired ms "kind" EventKind.codec).bind (fromMembersOf ms)

theorem getRequired_kind (e : ExecutionEvent) :
    getRequired e.toMembers "kind" EventKind.codec = some e.kind := by
  cases e <;> exact getRequired_required _ _ _ _

theorem noDuplicates_toMembers (known : List String) (e : ExecutionEvent) :
    noDuplicates known e.toMembers = true := by
  cases e with
  | repairFollowUpSet record facts =>
    have hkeys : (["kind", "record", "facts"] : List String).Nodup := by simp
    refine noDuplicates_of_sublist ?_ hkeys
    simp only [toMembers, required, List.map_append, List.map_cons, List.singleton_append]
    exact .cons_cons _ ((keys_skipNone_sublist _ _ record).append (.refl ["facts"]))
  | recordStatusTransition recordFamily recordId recordStatus recordSequence =>
    have hkeys : (["kind", "record_family", "record_id", "record_status",
      "record_sequence"] : List String).Nodup := by simp
    refine noDuplicates_of_sublist ?_ hkeys
    simp only [toMembers, required, List.map_append, List.map_cons, List.singleton_append]
    refine .cons_cons _ (.cons_cons _ ?_)
    exact (keys_skipNone_sublist _ _ recordId).append
      ((keys_skipNone_sublist _ _ recordStatus).append (keys_skipNone_sublist _ _ recordSequence))
  | _ => exact noDuplicates_of_sublist (.refl _) (by simp [toMembers, required, nullable])

theorem fromMembersOf_toMembers (e : ExecutionEvent) :
    fromMembersOf e.toMembers e.kind = some e := by
  have hdup := fun known => noDuplicates_toMembers known e
  cases e <;> simp only [kind, fromMembersOf, hdup, if_true]
  all_goals simp only [toMembers, getRequired_required, getRequired_required_last,
    getRequired_append, getOptional_nullable, getOptional_skipNone, getOptional_skipNone_last,
    getOptional_append, member_append, member_required, member_nullable, member_skipNone,
    String.reduceEq, if_false, Option.or_none, Option.bind_eq_bind, Option.bind_some]


/-- **An event reads back as it was written.** -/
theorem fromMembers_toMembers (e : ExecutionEvent) : fromMembers e.toMembers = some e := by
  rw [fromMembers, getRequired_kind, Option.bind_some, fromMembersOf_toMembers]

def codec : Codec ExecutionEvent where
  encode e := .obj e.toMembers
  decode
    | .obj ms => fromMembers ms
    | _ => none
  decode_encode := fromMembers_toMembers
  encode_ne_null _ := RawJson.noConfusion

end ExecutionEvent

end FeatureForge
