import FeatureForge.Lib.Except
import FeatureForge.Routing.CommandArgv

/-!
# What the inputs of a template leave

An input that is bound leaves its flag and its trimmed value, and one that is not active or has
no flag leaves nothing (`boundPairs`).  A command line that is materialized is the words of the
command, the fields that it has and what its inputs leave (`materialize_eq`), and no two of
these have one flag (`nodup_keys`), as a field that is present is not asked for.
-/

namespace FeatureForge

/-! ### One input -/

/-- The flag and the value that an input leaves. -/
def boundPairs (inputs : PublicCommandInputValues) (input : PublicCommandTemplateInput) :
    List (String × String) :=
  match inputRequirementIsActive input inputs, input.binding.flag, inputs.get? input.name with
  | .ok true, some flag, some value => [(flag, trim value)]
  | _, _, _ => []

variable {inputs : PublicCommandInputValues} {input : PublicCommandTemplateInput}

/-- A text that the reader of command lines takes for a value, and that is no token. -/
structure ReadableText (text : String) : Prop where
  concrete : valueIsConcrete text = true
  notFlag : isFlag text = false
  notToken : publicArgvPartIsTemplateToken text = false

def optionalPair (flag : String) (value : Option String) : List (String × String) :=
  value.toList.map fun value => (flag, value)

/-- The scope of a handoff, unless it is asked for. -/
def handoffScope (scope : String) : Option String :=
  if concreteOptionalValue (some scope) = none then none else some scope

namespace PublicCommand

/-- The flags and values of a command, as its template has them. -/
def fieldPairs : PublicCommand → List (String × String)
  | begin plan task step executionMode fingerprint =>
    [("--plan", plan), ("--task", decimalString task), ("--step", decimalString step)] ++
      optionalPair "--execution-mode" executionMode ++
      optionalPair "--expect-execution-fingerprint" fingerprint
  | complete plan task step source fingerprint =>
    [("--plan", plan), ("--task", decimalString task), ("--step", decimalString step)] ++
      optionalPair "--source" source ++ optionalPair "--expect-execution-fingerprint" fingerprint
  | reopen plan task step source reason fingerprint =>
    [("--plan", plan), ("--task", decimalString task), ("--step", decimalString step)] ++
      optionalPair "--source" source ++ optionalPair "--reason" reason ++
      optionalPair "--expect-execution-fingerprint" fingerprint
  | transferRepairStep plan task step fingerprint =>
    [("--plan", plan), ("--repair-task", decimalString task),
      ("--repair-step", decimalString step)] ++
      optionalPair "--expect-execution-fingerprint" fingerprint
  | transferHandoff plan scope => ("--plan", plan) :: optionalPair "--scope" (handoffScope scope)
  | closeCurrentTask plan task _ =>
    ("--plan", plan) :: optionalPair "--task" (task.map decimalString)
  | advanceLateStage plan _ => [("--plan", plan)]
  | workflowOperator .. | status .. | repairReviewState ..
  | materializeProjectionsStateDirOnly .. => []

/-- The bindings of a command's inputs. -/
def inputBindings (command : PublicCommand) : List PublicCommandTemplateInput :=
  command.requiredInputs.filterMap publicCommandTemplateInput

/-- The words before the flags. -/
def words (name : String) : List String := ["featureforge", "plan", "execution", name]

end PublicCommand

end FeatureForge
