import FeatureForge.EventLog.Event

/-!
# Event envelopes

`ExecutionEventEnvelope` is one entry of the log: a typed event with its place in
the chain.  `ExecutionEventEnvelope.toMembers` is the entry as it stands on a
line of the file, the optional fields left out when they are `None`;
`hashShapeMembers` is the object that is hashed, every field but the hash itself,
the optional ones as `null` when they are `None`.

`fromMembers_toMembers` is the round trip of an entry, and
`hashShapeMembers_injective` says the hashed object determines the entry up to
its hash: no field is left out of it.
-/

namespace FeatureForge

open Members

structure BranchContext where
  repoSlug : String
  branchName : String
  safeBranch : String
  deriving DecidableEq

namespace BranchContext

def toMembers (b : BranchContext) : Members :=
  required "repo_slug" Codec.str b.repoSlug
    ++ (required "branch_name" Codec.str b.branchName
    ++ required "safe_branch" Codec.str b.safeBranch)

def fromMembers (ms : Members) : Option BranchContext :=
  if noDuplicates ["repo_slug", "branch_name", "safe_branch"] ms then do
    let repoSlug ← getRequired ms "repo_slug" Codec.str
    let branchName ← getRequired ms "branch_name" Codec.str
    let safeBranch ← getRequired ms "safe_branch" Codec.str
    some { repoSlug, branchName, safeBranch }
  else none

theorem fromMembers_toMembers (b : BranchContext) : fromMembers b.toMembers = some b := by
  have hdup : noDuplicates ["repo_slug", "branch_name", "safe_branch"] b.toMembers = true :=
    noDuplicates_of_sublist (.refl _) (by simp [toMembers, required])
  rw [fromMembers, if_pos hdup]
  simp only [toMembers, getRequired_required, getRequired_required_last, getRequired_append,
    member_required, String.reduceEq, if_false, Option.bind_eq_bind, Option.bind_some]

def codec : Codec BranchContext where
  encode b := .obj b.toMembers
  decode
    | .obj ms => fromMembers ms
    | _ => none
  decode_encode := fromMembers_toMembers
  encode_ne_null _ := RawJson.noConfusion

end BranchContext

/-- One entry of the event log. -/
structure ExecutionEventEnvelope where
  schemaVersion : UInt32
  eventId : String
  sequence : UInt64
  timestamp : String
  command : String
  planPath : Option String
  planRevision : Option UInt32
  executionRunId : Option String
  branchContext : BranchContext
  previousEventHash : Option String
  eventHash : String
  payload : ExecutionEvent

namespace ExecutionEventEnvelope

def fieldNames : List String :=
  ["schema_version", "event_id", "sequence", "timestamp", "command", "plan_path",
   "plan_revision", "execution_run_id", "branch_context", "previous_event_hash", "event_hash",
   "payload"]

/-- The entry as it is written to the log file. -/
def toMembers (e : ExecutionEventEnvelope) : Members :=
  required "schema_version" Codec.u32 e.schemaVersion
    ++ (required "event_id" Codec.str e.eventId
    ++ (required "sequence" Codec.u64 e.sequence
    ++ (required "timestamp" Codec.str e.timestamp
    ++ (required "command" Codec.str e.command
    ++ (skipNone "plan_path" Codec.str e.planPath
    ++ (skipNone "plan_revision" Codec.u32 e.planRevision
    ++ (skipNone "execution_run_id" Codec.str e.executionRunId
    ++ (required "branch_context" BranchContext.codec e.branchContext
    ++ (skipNone "previous_event_hash" Codec.str e.previousEventHash
    ++ (required "event_hash" Codec.str e.eventHash
    ++ required "payload" ExecutionEvent.codec e.payload))))))))))

def fromMembers (ms : Members) : Option ExecutionEventEnvelope :=
  if noDuplicates fieldNames ms then do
    let schemaVersion ← getRequired ms "schema_version" Codec.u32
    let eventId ← getRequired ms "event_id" Codec.str
    let sequence ← getRequired ms "sequence" Codec.u64
    let timestamp ← getRequired ms "timestamp" Codec.str
    let command ← getRequired ms "command" Codec.str
    let planPath ← getOptional ms "plan_path" Codec.str
    let planRevision ← getOptional ms "plan_revision" Codec.u32
    let executionRunId ← getOptional ms "execution_run_id" Codec.str
    let branchContext ← getRequired ms "branch_context" BranchContext.codec
    let previousEventHash ← getOptional ms "previous_event_hash" Codec.str
    let eventHash ← getRequired ms "event_hash" Codec.str
    let payload ← getRequired ms "payload" ExecutionEvent.codec
    some {
      schemaVersion, eventId, sequence, timestamp, command, planPath, planRevision,
      executionRunId, branchContext, previousEventHash, eventHash, payload }
  else none

theorem keys_toMembers (e : ExecutionEventEnvelope) :
    (e.toMembers.map Prod.fst).Sublist fieldNames := by
  simp only [toMembers, required, List.map_append, List.map_cons, List.map_nil, fieldNames,
    List.singleton_append]
  refine .cons_cons _ (.cons_cons _ (.cons_cons _ (.cons_cons _ (.cons_cons _ ?_))))
  refine (keys_skipNone_sublist _ _ _).append ((keys_skipNone_sublist _ _ _).append
    ((keys_skipNone_sublist _ _ _).append (.cons_cons _ ?_)))
  exact (keys_skipNone_sublist _ _ _).append (.refl _)

/-- **An entry reads back as it was written.** -/
theorem fromMembers_toMembers (e : ExecutionEventEnvelope) :
    fromMembers e.toMembers = some e := by
  have hdup : noDuplicates fieldNames e.toMembers = true :=
    noDuplicates_of_sublist e.keys_toMembers (by simp [fieldNames])
  rw [fromMembers, if_pos hdup]
  simp only [toMembers, getRequired_required, getRequired_required_last, getRequired_append,
    getOptional_skipNone, getOptional_append, member_append, member_required, member_skipNone,
    String.reduceEq, if_false, Option.or_none, Option.bind_eq_bind, Option.bind_some]

def codec : Codec ExecutionEventEnvelope where
  encode e := .obj e.toMembers
  decode
    | .obj ms => fromMembers ms
    | _ => none
  decode_encode := fromMembers_toMembers
  encode_ne_null _ := RawJson.noConfusion

/-- `EventHashShape`: what the hash of an entry is taken of. -/
def hashShapeMembers (e : ExecutionEventEnvelope) : Members :=
  required "schema_version" Codec.u32 e.schemaVersion
    ++ (required "event_id" Codec.str e.eventId
    ++ (required "sequence" Codec.u64 e.sequence
    ++ (required "timestamp" Codec.str e.timestamp
    ++ (required "command" Codec.str e.command
    ++ (nullable "plan_path" Codec.str e.planPath
    ++ (nullable "plan_revision" Codec.u32 e.planRevision
    ++ (nullable "execution_run_id" Codec.str e.executionRunId
    ++ (required "branch_context" BranchContext.codec e.branchContext
    ++ (nullable "previous_event_hash" Codec.str e.previousEventHash
    ++ required "payload" ExecutionEvent.codec e.payload)))))))))

def hashShape (e : ExecutionEventEnvelope) : RawJson := .obj e.hashShapeMembers

theorem nullable_inj {α : Type} {c : Codec α} {o p : Option α}
    (h : (o.map c.encode).getD .null = (p.map c.encode).getD .null) : o = p := by
  have := congrArg (fun r => decodeOptional c (some r)) h
  rw [decodeOptional_getD, decodeOptional_getD] at this
  exact Option.some.inj this

/-- **The hashed object determines the entry up to its hash.** -/
theorem hashShape_injective {e f : ExecutionEventEnvelope} (h : e.hashShape = f.hashShape) :
    { e with eventHash := f.eventHash } = f := by
  have hm : e.hashShapeMembers = f.hashShapeMembers := RawJson.obj.inj h
  simp only [hashShapeMembers, required, nullable, List.singleton_append, List.cons.injEq,
    Prod.mk.injEq, true_and, and_true] at hm
  obtain ⟨h₁, h₂, h₃, h₄, h₅, h₆, h₇, h₈, h₉, h₁₀, h₁₁⟩ := hm
  obtain ⟨a₁, a₂, a₃, a₄, a₅, a₆, a₇, a₈, a₉, a₁₀, a₁₁, a₁₂⟩ := e
  obtain ⟨b₁, b₂, b₃, b₄, b₅, b₆, b₇, b₈, b₉, b₁₀, b₁₁, b₁₂⟩ := f
  cases Codec.u32.encode_injective h₁
  cases Codec.str.encode_injective h₂
  cases Codec.u64.encode_injective h₃
  cases Codec.str.encode_injective h₄
  cases Codec.str.encode_injective h₅
  cases nullable_inj h₆
  cases nullable_inj h₇
  cases nullable_inj h₈
  cases BranchContext.codec.encode_injective h₉
  cases nullable_inj h₁₀
  cases ExecutionEvent.codec.encode_injective h₁₁
  rfl

end ExecutionEventEnvelope

end FeatureForge
