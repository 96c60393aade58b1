import FeatureForge.Lib.Except
import FeatureForge.Plans.PlanDocument

/-!
# Spec documents

`parse_spec_source`: the headers of a spec and its requirement index.  The index begins at its
heading and ends at the next one; fenced lines are passed over wherever they stand.
-/

namespace FeatureForge

structure Requirement where
  id : List Char
  kind : List Char
  text : List Char
  deriving DecidableEq

structure SpecDocument where
  path : List Char
  workflowState : List Char
  specRevision : UInt32
  lastReviewedBy : List Char
  requirements : List Requirement
  source : List Char

end FeatureForge
