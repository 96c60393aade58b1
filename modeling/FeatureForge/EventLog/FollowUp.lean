import FeatureForge.Lib.Serde
import FeatureForge.Lib.Text

/-!
# Repair follow-up records

`follow_up.rs`: the record a repair leaves behind to say which command has to
come next, its kinds and target scopes with their persisted tokens, and the form
in which it is stored (`skip_serializing_if` on every optional field).
-/

namespace FeatureForge

inductive RepairFollowUpKind where
  | recordBranchClosure
  | advanceLateStage
  | recordFinalReview
  | recordQa
  | closeTask
  | repairReviewState
  | executionReentry
  | requestExternalReview
  | waitForExternalReviewResult
  | runVerification
  | resolveReleaseBlocker
  | recordHandoff
  | gateReview
  | gateFinish
  deriving DecidableEq

inductive RepairTargetScope where
  | taskClosure
  | branchClosure
  | releaseReadiness
  | finalReview
  | qa
  | executionStep
  deriving DecidableEq

namespace RepairFollowUpKind

def all : List RepairFollowUpKind :=
  [.recordBranchClosure, .advanceLateStage, .recordFinalReview, .recordQa, .closeTask,
   .repairReviewState, .executionReentry, .requestExternalReview, .waitForExternalReviewResult,
   .runVerification, .resolveReleaseBlocker, .recordHandoff, .gateReview, .gateFinish]

theorem mem_all (k : RepairFollowUpKind) : k ∈ all := by cases k <;> decide

/-- The variant's name in snake case, as `serde` writes it. -/
def serdeName : RepairFollowUpKind → String
  | .recordBranchClosure => "record_branch_closure"
  | .advanceLateStage => "advance_late_stage"
  | .recordFinalReview => "record_final_review"
  | .recordQa => "record_qa"
  | .closeTask => "close_task"
  | .repairReviewState => "repair_review_state"
  | .executionReentry => "execution_reentry"
  | .requestExternalReview => "request_external_review"
  | .waitForExternalReviewResult => "wait_for_external_review_result"
  | .runVerification => "run_verification"
  | .resolveReleaseBlocker => "resolve_release_blocker"
  | .recordHandoff => "record_handoff"
  | .gateReview => "gate_review"
  | .gateFinish => "gate_finish"

theorem serdeName_injective : Function.Injective serdeName := fun a b h =>
  List.inj_on_of_nodup_map (l := all) (by simp [all, serdeName]) (mem_all a) (mem_all b) h

def persistedToken : RepairFollowUpKind → String
  | .recordBranchClosure => "record_branch_closure"
  | .advanceLateStage => "advance_late_stage"
  | .recordFinalReview => "record_final_review"
  | .recordQa => "record_qa"
  | .closeTask => "record_task_closure"
  | .repairReviewState => "repair_review_state"
  | .executionReentry => "execution_reentry"
  | .requestExternalReview => "request_external_review"
  | .waitForExternalReviewResult => "wait_for_external_review_result"
  | .runVerification => "run_verification"
  | .resolveReleaseBlocker => "resolve_release_blocker"
  | .recordHandoff => "record_handoff"
  | .gateReview => "gate_review"
  | .gateFinish => "gate_finish"

def publicToken : RepairFollowUpKind → String
  | .recordBranchClosure => "advance_late_stage"
  | .advanceLateStage => "advance_late_stage"
  | .closeTask => "close_current_task"
  | other => other.persistedToken

def targetScope : RepairFollowUpKind → RepairTargetScope
  | .recordBranchClosure | .advanceLateStage | .resolveReleaseBlocker => .branchClosure
  | .recordFinalReview | .requestExternalReview | .waitForExternalReviewResult | .gateReview
  | .gateFinish => .finalReview
  | .recordQa | .runVerification => .qa
  | .closeTask => .taskClosure
  | .repairReviewState | .executionReentry | .recordHandoff => .executionStep

def fromPersistedToken (token : String) : Option RepairFollowUpKind :=
  let token := trim token
  if token = "record_branch_closure" ∨ token = "branch_closure" then some .recordBranchClosure
  else if token = "advance_late_stage" then some .advanceLateStage
  else if token = "record_task_closure" ∨ token = "close_current_task" then some .closeTask
  else if token = "execution_reentry" then some .executionReentry
  else if token = "repair_review_state" ∨ token = "record_pivot" then some .repairReviewState
  else if token = "request_external_review" then some .requestExternalReview
  else if token = "wait_for_external_review_result" then some .waitForExternalReviewResult
  else if token = "run_verification" then some .runVerification
  else if token = "resolve_release_blocker" then some .resolveReleaseBlocker
  else if token = "record_handoff" then some .recordHandoff
  else if token = "gate_review" then some .gateReview
  else if token = "gate_finish" then some .gateFinish
  else none

def codec : Codec RepairFollowUpKind := Codec.tag serdeName all mem_all serdeName_injective

end RepairFollowUpKind

namespace RepairTargetScope

def all : List RepairTargetScope :=
  [.taskClosure, .branchClosure, .releaseReadiness, .finalReview, .qa, .executionStep]

theorem mem_all (k : RepairTargetScope) : k ∈ all := by cases k <;> decide

def serdeName : RepairTargetScope → String
  | .taskClosure => "task_closure"
  | .branchClosure => "branch_closure"
  | .releaseReadiness => "release_readiness"
  | .finalReview => "final_review"
  | .qa => "qa"
  | .executionStep => "execution_step"

theorem serdeName_injective : Function.Injective serdeName := fun a b h =>
  List.inj_on_of_nodup_map (l := all) (by simp [all, serdeName]) (mem_all a) (mem_all b) h

def codec : Codec RepairTargetScope := Codec.tag serdeName all mem_all serdeName_injective

end RepairTargetScope

structure RepairFollowUpRecord where
  kind : RepairFollowUpKind
  targetScope : RepairTargetScope
  targetTask : Option UInt32
  targetStep : Option UInt32
  targetRecordId : Option String
  semanticWorkspaceStateId : Option String
  sourceRouteDecisionHash : Option String
  createdSequence : UInt64
  createdAt : Option String
  expiresOnPlanFingerprintChange : Bool
  deriving DecidableEq

namespace RepairFollowUpRecord

open Members

def fieldNames : List String :=
  ["kind", "target_scope", "target_task", "target_step", "target_record_id",
   "semantic_workspace_state_id", "source_route_decision_hash", "created_sequence", "created_at",
   "expires_on_plan_fingerprint_change"]

def toMembers (r : RepairFollowUpRecord) : Members :=
  required "kind" RepairFollowUpKind.codec r.kind
    ++ (required "target_scope" RepairTargetScope.codec r.targetScope
    ++ (skipNone "target_task" Codec.u32 r.targetTask
    ++ (skipNone "target_step" Codec.u32 r.targetStep
    ++ (skipNone "target_record_id" Codec.str r.targetRecordId
    ++ (skipNone "semantic_workspace_state_id" Codec.str r.semanticWorkspaceStateId
    ++ (skipNone "source_route_decision_hash" Codec.str r.sourceRouteDecisionHash
    ++ (required "created_sequence" Codec.u64 r.createdSequence
    ++ (skipNone "created_at" Codec.str r.createdAt
    ++ required "expires_on_plan_fingerprint_change" Codec.bool
        r.expiresOnPlanFingerprintChange))))))))

def fromMembers (ms : Members) : Option RepairFollowUpRecord :=
  if noDuplicates fieldNames ms then do
    let kind ← getRequired ms "kind" RepairFollowUpKind.codec
    let targetScope ← getRequired ms "target_scope" RepairTargetScope.codec
    let targetTask ← getOptional ms "target_task" Codec.u32
    let targetStep ← getOptional ms "target_step" Codec.u32
    let targetRecordId ← getOptional ms "target_record_id" Codec.str
    let semanticWorkspaceStateId ← getOptional ms "semantic_workspace_state_id" Codec.str
    let sourceRouteDecisionHash ← getOptional ms "source_route_decision_hash" Codec.str
    let createdSequence ← getRequired ms "created_sequence" Codec.u64
    let createdAt ← getOptional ms "created_at" Codec.str
    let expiresOnPlanFingerprintChange ←
      getRequired ms "expires_on_plan_fingerprint_change" Codec.bool
    some {
      kind, targetScope, targetTask, targetStep, targetRecordId, semanticWorkspaceStateId,
      sourceRouteDecisionHash, createdSequence, createdAt, expiresOnPlanFingerprintChange }
  else none

theorem keys_toMembers (r : RepairFollowUpRecord) :
    (r.toMembers.map Prod.fst).Sublist fieldNames := by
  simp only [toMembers, required, List.map_append, List.map_cons, List.map_nil, fieldNames,
    List.singleton_append]
  refine .cons_cons _ (.cons_cons _ ?_)
  refine (keys_skipNone_sublist _ _ _).append ((keys_skipNone_sublist _ _ _).append
    ((keys_skipNone_sublist _ _ _).append ((keys_skipNone_sublist _ _ _).append
      ((keys_skipNone_sublist _ _ _).append (.cons_cons _ ?_)))))
  exact (keys_skipNone_sublist _ _ _).append (.cons_cons _ .slnil)

/-- **A record reads back as it was written.** -/
theorem fromMembers_toMembers (r : RepairFollowUpRecord) : fromMembers r.toMembers = some r := by
  have hdup : noDuplicates fieldNames r.toMembers = true :=
    noDuplicates_of_sublist r.keys_toMembers (by simp [fieldNames])
  rw [fromMembers, if_pos hdup]
  simp only [toMembers, getRequired_required, getRequired_required_last, getRequired_append,
    getOptional_skipNone, getOptional_append, member_append, member_required, member_skipNone,
    String.reduceEq, if_false, Option.or_none, Option.bind_eq_bind, Option.bind_some]

def codec : Codec RepairFollowUpRecord where
  encode r := .obj r.toMembers
  decode
    | .obj ms => fromMembers ms
    | _ => none
  decode_encode := fromMembers_toMembers
  encode_ne_null _ := RawJson.noConfusion

/-- `serde_json::from_value`. -/
def fromValue (v : Json) : Option RepairFollowUpRecord := codec.decode v.raw

end RepairFollowUpRecord

end FeatureForge
