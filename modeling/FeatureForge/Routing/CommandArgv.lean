import FeatureForge.Lib.FlagPairs
import FeatureForge.Routing.CommandTemplate

/-!
# Command lines

The command line of a public command (`PublicCommand.toBaseArgv`), the inputs that it still
asks for and its template, and what is read back from a command line: the value of a flag, and
the execution target (`executionTargetFromPublicArgv`).
-/

namespace FeatureForge

/-! ### Writing -/

/-- `u32::to_string`. -/
def decimalString (n : UInt32) : String := String.ofList (decimal n)

namespace PublicCommand

end PublicCommand

/-! ### Inputs -/

def inputText (name : String) : PublicCommandInputRequirement := ⟨name, .text, [], false, none⟩

def inputTextWhen (name requiredWhen : String) : PublicCommandInputRequirement :=
  { inputText name with requiredWhen := some requiredWhen }

def inputEnum (name : String) (values : List String) : PublicCommandInputRequirement :=
  ⟨name, .enum, values, false, none⟩

def inputExecutionSource (name : String) : PublicCommandInputRequirement :=
  inputEnum name ["featureforge:executing-plans", "featureforge:subagent-driven-development"]

def inputExistingPath (name : String) : PublicCommandInputRequirement :=
  ⟨name, .path, [], true, none⟩

def inputExistingPathWhen (name requiredWhen : String) : PublicCommandInputRequirement :=
  { inputExistingPath name with requiredWhen := some requiredWhen }

def closeCurrentTaskResultInputs : List PublicCommandInputRequirement :=
  [inputEnum "review_result" ["pass", "fail"],
    inputExistingPath "review_summary_file",
    inputEnum "verification_result" ["pass", "fail", "not-run"],
    inputExistingPathWhen "verification_summary_file" "verification_result!=not-run"]

/-- The input, where the field is not concrete. -/
def askedFor (field : Option String) (input : PublicCommandInputRequirement) :
    List PublicCommandInputRequirement :=
  if concreteOptionalValue field = none then [input] else []

namespace PublicCommand

/-- `required_inputs`. -/
def requiredInputs : PublicCommand → List PublicCommandInputRequirement
  | begin _ _ _ _ fingerprint => askedFor fingerprint (inputText "expect_execution_fingerprint")
  | complete _ _ _ source fingerprint =>
    askedFor source (inputExecutionSource "source") ++
      [inputText "claim",
        inputEnum "verification_mode" ["manual_summary", "command_result"],
        inputTextWhen "manual_verify_summary" "verification_mode=manual_summary",
        inputTextWhen "verify_command" "verification_mode=command_result",
        inputTextWhen "verify_result" "verification_mode=command_result"] ++
      askedFor fingerprint (inputText "expect_execution_fingerprint")
  | reopen _ _ _ source reason fingerprint =>
    askedFor source (inputExecutionSource "source") ++ askedFor reason (inputText "reason") ++
      askedFor fingerprint (inputText "expect_execution_fingerprint")
  | transferRepairStep _ _ _ fingerprint =>
    [inputExecutionSource "source", inputText "reason"] ++
      askedFor fingerprint (inputText "expect_execution_fingerprint")
  | transferHandoff _ scope =>
    askedFor (some scope) (inputEnum "scope" ["task", "branch"]) ++
      [inputText "owner", inputText "reason"]
  | closeCurrentTask _ none _ => [inputText "task"]
  | closeCurrentTask _ (some _) resultInputsRequired =>
    if resultInputsRequired then closeCurrentTaskResultInputs else []
  | advanceLateStage _ .releaseReadiness =>
    [inputEnum "result" ["ready", "blocked"], inputExistingPath "summary_file"]
  | advanceLateStage _ .qa =>
    [inputEnum "result" ["pass", "fail"], inputExistingPath "summary_file"]
  | advanceLateStage _ .finalReview =>
    [inputEnum "reviewer_source"
        ["fresh-context-subagent", "cross-model", "human-independent-reviewer"],
      inputText "reviewer_id", inputEnum "result" ["pass", "fail"],
      inputExistingPath "summary_file"]
  | advanceLateStage _ .basic | advanceLateStage _ .finalReviewDispatch
  | advanceLateStage _ .finishReview | advanceLateStage _ .finishCompletion
  | workflowOperator .. | status .. | repairReviewState ..
  | materializeProjectionsStateDirOnly .. => []

end PublicCommand

/-- `public_command_input_binding`: the flag of an input; `none` for the virtual one. -/
def inputFlags : List (String × Option String) :=
  [("verification_mode", none), ("task", some "--task"), ("source", some "--source"),
    ("reason", some "--reason"),
    ("expect_execution_fingerprint", some "--expect-execution-fingerprint"),
    ("claim", some "--claim"), ("manual_verify_summary", some "--manual-verify-summary"),
    ("verify_command", some "--verify-command"), ("verify_result", some "--verify-result"),
    ("scope", some "--scope"), ("owner", some "--to"), ("review_result", some "--review-result"),
    ("review_summary_file", some "--review-summary-file"),
    ("verification_result", some "--verification-result"),
    ("verification_summary_file", some "--verification-summary-file"),
    ("result", some "--result"), ("summary_file", some "--summary-file"),
    ("reviewer_source", some "--reviewer-source"), ("reviewer_id", some "--reviewer-id")]

def publicCommandInputBinding (name : String) : Option PublicCommandInputBinding :=
  (inputFlags.lookup name).map fun flag =>
    match flag with
    | none => ⟨.virtual, none⟩
    | some flag => ⟨.flag, some flag⟩

/-- `public_command_template_input`; `none` where it panics. -/
def publicCommandTemplateInput (input : PublicCommandInputRequirement) :
    Option PublicCommandTemplateInput :=
  (publicCommandInputBinding input.name).map fun binding =>
    { name := input.name, kind := input.kind, binding, values := input.values
      mustExist := input.mustExist, requiredWhen := input.requiredWhen
      shellEscapeByCaller := false }

/-- `value_is_template_placeholder`. -/
def valueIsTemplatePlaceholder (value : List Char) : Bool :=
  value = [] ||
    ["pass|fail", "pass|fail|not-run", "ready|blocked", "task|branch"].any (·.toList = value) ||
    (value.head? = some '<' && value.getLast? = some '>') ||
    containsText "[when verification ran]".toList value

def valueIsConcrete (value : String) : Bool := !valueIsTemplatePlaceholder (trimChars value.toList)

/-- `execution_mutation_name_from_public_argv_prefix`, with the arguments behind it. -/
def executionMutationName : List String → Option (String × List String)
  | "featureforge" :: "plan" :: "execution" :: commandKind :: args => some (commandKind, args)
  | _ => none

end FeatureForge
