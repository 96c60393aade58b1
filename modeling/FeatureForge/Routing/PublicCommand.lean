import FeatureForge.Lib.Words
import Mathlib.Data.List.Basic

/-!
# Public commands

The commands that a route may recommend, their kinds and names, and the mutation that a command
asks for (`PublicCommand.toMutationRequest`).
-/

namespace FeatureForge

/-! ### Kinds -/

inductive PublicCommandKind
  | workflowOperator
  | status
  | repairReviewState
  | closeCurrentTask
  | advanceLateStage
  | begin
  | complete
  | reopen
  | transfer
  | materializeProjectionsStateDirOnly
  deriving DecidableEq

namespace PublicCommandKind

/-- `as_str`. -/
def asStr : PublicCommandKind → String
  | workflowOperator => "workflow_operator"
  | status => "status"
  | repairReviewState => "repair_review_state"
  | closeCurrentTask => "close_current_task"
  | advanceLateStage => "advance_late_stage"
  | begin => "begin"
  | complete => "complete"
  | reopen => "reopen"
  | transfer => "transfer"
  | materializeProjectionsStateDirOnly => "materialize_projections_state_dir_only"

/-- `public_mutation_name`. -/
def publicMutationName : PublicCommandKind → Option String
  | begin => some "begin"
  | complete => some "complete"
  | reopen => some "reopen"
  | transfer => some "transfer"
  | closeCurrentTask => some "close-current-task"
  | repairReviewState => some "repair-review-state"
  | advanceLateStage => some "advance-late-stage"
  | workflowOperator | status | materializeProjectionsStateDirOnly => none

/-- `is_execution_mutation`. -/
def isExecutionMutation : PublicCommandKind → Bool
  | begin | complete | reopen => true
  | _ => false

/-- `execution_mutation_name`. -/
def executionMutationName (kind : PublicCommandKind) : Option String :=
  if kind.isExecutionMutation then kind.publicMutationName else none

/-- `matches_public_mutation_token`. -/
def matchesPublicMutationToken (kind : PublicCommandKind) (token : String) : Bool :=
  kind.publicMutationName = some token

/-- `PUBLIC_MUTATION_COMMAND_KINDS`. -/
def publicMutationCommandKinds : List PublicCommandKind :=
  [begin, complete, reopen, transfer, closeCurrentTask, repairReviewState, advanceLateStage]

/-- `from_public_mutation_token`. -/
def fromPublicMutationToken (token : String) : Option PublicCommandKind :=
  publicMutationCommandKinds.find? fun kind => kind.matchesPublicMutationToken token

/-- `from_execution_mutation_name`. -/
def fromExecutionMutationName (commandKind : String) : Option PublicCommandKind :=
  if commandKind = "begin" then some begin
  else if commandKind = "complete" then some complete
  else if commandKind = "reopen" then some reopen
  else none

end PublicCommandKind

inductive PublicAdvanceLateStageMode
  | basic
  | releaseReadiness
  | finalReviewDispatch
  | qa
  | finalReview
  | finishReview
  | finishCompletion
  deriving DecidableEq

inductive PublicTransferMode
  | repairStep
  | workflowHandoff
  deriving DecidableEq

/-! ### Template tokens -/

/-- `is_known_template_token`. -/
def isKnownTemplateToken (value : List Char) : Bool :=
  ["<approved-plan-path>", "<claim>", "<summary>", "<owner>", "<reason>", "<path>", "<source>",
    "<id>", "pass|fail", "pass|fail|not-run", "ready|blocked", "task|branch",
    "[when verification ran]"].any fun token => token.toList = value

/-- `public_argv_part_is_template_token`. -/
def publicArgvPartIsTemplateToken (part : String) : Bool :=
  let trimmed := trimChars part.toList
  isKnownTemplateToken trimmed ||
    (splitOnce ['='] trimmed).any fun cut => isKnownTemplateToken (trimChars cut.2)

/-- `matches_optional_verification_phrase`, at the start of some parts. -/
def matchesOptionalVerificationPhrase : List String → Bool
  | first :: second :: third :: _ => (first = "[when" || first = "when") &&
      second = "verification" && (third = "ran]" || third = "ran")
  | _ => false

/-- `public_argv_has_template_tokens`. -/
def publicArgvHasTemplateTokens (argv : List String) : Bool :=
  argv.any publicArgvPartIsTemplateToken || argv.tails.any matchesOptionalVerificationPhrase

/-- `concrete_optional_value`. -/
def concreteOptionalValue (value : Option String) : Option String :=
  ((value.map trim).filter fun value => value ≠ "").filter fun value =>
    !publicArgvPartIsTemplateToken value

/-- `decode_rot13_ascii`. -/
def decodeRot13Ascii (encoded : String) : String :=
  String.ofList (encoded.toList.map fun c =>
    if ('a' ≤ c && c ≤ 'm') || ('A' ≤ c && c ≤ 'M') then Char.ofNat (c.toNat + 13)
    else if ('n' ≤ c && c ≤ 'z') || ('N' ≤ c && c ≤ 'Z') then Char.ofNat (c.toNat - 13)
    else c)

example : decodeRot13Ascii "tngr-erivrj" = "gate-review" := by decide

/-- `hidden_command_tokens`. -/
def hiddenCommandTokens : List String :=
  ["erpbeq-cvibg", "erpbeq-erivrj-qvfcngpu", "erpbeq-oenapu-pybfher", "erpbeq-eryrnfr-ernqvarff",
    "erpbeq-svany-erivrj", "erpbeq-dn", "tngr-erivrj", "tngr-svavfu", "erohvyq-rivqrapr",
    "erpbapvyr-erivrj-fgngr", "cyna rkrphgvba vagreany", "cyna rkrphgvba cersyvtug",
    "cyna rkrphgvba erpbzzraq", "jbexsybj erpbzzraq", "jbexsybj cersyvtug", "--qvfcngpu-vq",
    "--oenapu-pybfher-vq"].map decodeRot13Ascii

/-- `command_invokes_hidden_lane`. -/
def commandInvokesHiddenLane (command : String) : Bool :=
  hiddenCommandTokens.any fun token => containsText token.toList command.toList

/-! ### Requests -/

structure PublicMutationRequest where
  kind : PublicCommandKind
  task : Option UInt32 := none
  step : Option UInt32 := none
  expectExecutionFingerprint : Option String := none
  transferMode : Option PublicTransferMode := none
  transferScope : Option String := none
  advanceLateStageMode : Option PublicAdvanceLateStageMode := none
  deriving DecidableEq

namespace PublicMutationRequest

def repairReviewState : PublicMutationRequest where
  kind := .repairReviewState

def begin (task step : UInt32) (fingerprint : Option String) : PublicMutationRequest where
  kind := .begin
  task := some task
  step := some step
  expectExecutionFingerprint := fingerprint

def complete (task step : UInt32) (fingerprint : Option String) : PublicMutationRequest where
  kind := .complete
  task := some task
  step := some step
  expectExecutionFingerprint := fingerprint

def reopen (task step : UInt32) (fingerprint : Option String) : PublicMutationRequest where
  kind := .reopen
  task := some task
  step := some step
  expectExecutionFingerprint := fingerprint

def transferRepairStep (task step : UInt32) (fingerprint : Option String) :
    PublicMutationRequest where
  kind := .transfer
  task := some task
  step := some step
  expectExecutionFingerprint := fingerprint
  transferMode := some .repairStep

def transferHandoff (scope : Option String) : PublicMutationRequest where
  kind := .transfer
  transferMode := some .workflowHandoff
  transferScope := scope

def closeCurrentTask (task : Option UInt32) : PublicMutationRequest where
  kind := .closeCurrentTask
  task := task

def advanceLateStage (mode : PublicAdvanceLateStageMode) : PublicMutationRequest where
  kind := .advanceLateStage
  advanceLateStageMode := some mode

/-- `public_command_name`. -/
def publicCommandName (request : PublicMutationRequest) : Option String :=
  request.kind.publicMutationName

/-- `execution_command_kind`. -/
def executionCommandKind (request : PublicMutationRequest) : Option String :=
  request.kind.executionMutationName

end PublicMutationRequest

/-! ### Commands -/

inductive PublicCommand
  | workflowOperator (plan : String) (externalReviewResultReady json : Bool)
  | status (plan : String)
  | repairReviewState (plan : String)
  | begin (plan : String) (task step : UInt32) (executionMode fingerprint : Option String)
  | complete (plan : String) (task step : UInt32) (source fingerprint : Option String)
  | reopen (plan : String) (task step : UInt32) (source reason fingerprint : Option String)
  | transferRepairStep (plan : String) (task step : UInt32) (fingerprint : Option String)
  | transferHandoff (plan scope : String)
  | closeCurrentTask (plan : String) (task : Option UInt32) (resultInputsRequired : Bool)
  | advanceLateStage (plan : String) (mode : PublicAdvanceLateStageMode)
  | materializeProjectionsStateDirOnly (plan : String) (scope : Option String)
  deriving DecidableEq

namespace PublicCommand

def kind : PublicCommand → PublicCommandKind
  | workflowOperator .. => .workflowOperator
  | status .. => .status
  | repairReviewState .. => .repairReviewState
  | begin .. => .begin
  | complete .. => .complete
  | reopen .. => .reopen
  | transferRepairStep .. | transferHandoff .. => .transfer
  | closeCurrentTask .. => .closeCurrentTask
  | advanceLateStage .. => .advanceLateStage
  | materializeProjectionsStateDirOnly .. => .materializeProjectionsStateDirOnly

/-- `to_mutation_request`. -/
def toMutationRequest : PublicCommand → Option PublicMutationRequest
  | repairReviewState _ => some .repairReviewState
  | begin _ task step _ fingerprint => some (.begin task step fingerprint)
  | complete _ task step _ fingerprint => some (.complete task step fingerprint)
  | reopen _ task step _ _ fingerprint => some (.reopen task step fingerprint)
  | transferRepairStep _ task step fingerprint => some (.transferRepairStep task step fingerprint)
  | transferHandoff _ scope => some (.transferHandoff (concreteOptionalValue (some scope)))
  | closeCurrentTask _ task _ => some (.closeCurrentTask task)
  | advanceLateStage _ mode => some (.advanceLateStage mode)
  | workflowOperator .. | status .. | materializeProjectionsStateDirOnly .. => none

/-- `public_advance_late_stage_mode_from_command`. -/
def advanceLateStageMode : PublicCommand → Option PublicAdvanceLateStageMode
  | advanceLateStage _ mode => some mode
  | _ => none

end PublicCommand

end FeatureForge
