import FeatureForge.Lib.OrderedMap
import FeatureForge.Routing.PublicCommand

/-!
# Command templates

A template is the beginning of a command line and the inputs that are still to be bound.
`materializePublicCommandArgv` binds them one after the other: an input whose condition does
not hold is passed over, a virtual one is checked and leaves nothing, and the others leave
their flag and their trimmed value.
-/

namespace FeatureForge

inductive PublicCommandInputKind
  | text
  | enum
  | path
  deriving DecidableEq

structure PublicCommandInputRequirement where
  name : String
  kind : PublicCommandInputKind
  values : List String
  mustExist : Bool
  requiredWhen : Option String
  deriving DecidableEq

inductive PublicCommandInputBindingKind
  | flag
  | virtual
  deriving DecidableEq

structure PublicCommandInputBinding where
  kind : PublicCommandInputBindingKind
  flag : Option String
  deriving DecidableEq

structure PublicCommandTemplateInput where
  name : String
  kind : PublicCommandInputKind
  binding : PublicCommandInputBinding
  values : List String
  mustExist : Bool
  requiredWhen : Option String
  shellEscapeByCaller : Bool
  deriving DecidableEq

structure PublicCommandTemplate where
  commandKind : String
  baseArgv : List String
  requiredInputNames : List String
  inputBindings : List PublicCommandTemplateInput
  deriving DecidableEq

/-- `PublicCommandInputValues`. -/
abbrev PublicCommandInputValues : Type := OrderedMap String String

inductive PublicCommandTemplateBindingError
  | missingInput (name : String)
  | unknownInput (name : String)
  | emptyInput (name : String)
  | invalidEnumValue (name value : String) (allowed : List String)
  | missingInputMetadata (name : String)
  | missingFlagBinding (name : String)
  | invalidRequiredWhen (name requiredWhen : String)
  deriving DecidableEq

/-! ### Binding the inputs -/

/-- `required_bound_controller_value`. -/
def requiredBoundControllerValue (inputs : PublicCommandInputValues) (controller : List Char) :
    Except PublicCommandTemplateBindingError String :=
  let name := String.ofList (trimChars controller)
  match inputs.get? name with
  | none => .error (.missingInput name)
  | some value => .ok value

/-- `input_requirement_is_active`. -/
def inputRequirementIsActive (input : PublicCommandTemplateInput)
    (inputs : PublicCommandInputValues) : Except PublicCommandTemplateBindingError Bool :=
  match input.requiredWhen with
  | none => .ok true
  | some requiredWhen =>
    match splitOnce "!=".toList requiredWhen.toList with
    | some (controller, expected) =>
      (requiredBoundControllerValue inputs controller).map fun actual =>
        trimChars actual.toList ≠ trimChars expected
    | none =>
      match splitOnce "=".toList requiredWhen.toList with
      | some (controller, expected) =>
        (requiredBoundControllerValue inputs controller).map fun actual =>
          trimChars actual.toList = trimChars expected
      | none => .error (.invalidRequiredWhen input.name requiredWhen)

end FeatureForge
