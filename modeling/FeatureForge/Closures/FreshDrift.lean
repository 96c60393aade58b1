import FeatureForge.Closures.Drift

/-!
# Fresh closures and drift

A task closure is fresh by a check of its own, which takes whole trees and forgives what the
late-stage surface declares.  If all closures are fresh and none covers what another does, a
covered path that has drifted lies in that surface (`matches_lateStageSurface`), but for one:
the marker of a closure that has reviewed no files is left out of the freshness check and not
out of the comparison.  `drift_sound_iff` says that nothing else is wrong.
-/

namespace FeatureForge

open AuthoritativeClosureGraph (noRepoFilesMarker)

variable {ws : ReviewedWorkspace} {current : TreeEntries}
  {tree : CurrentTaskClosureRecord → TreeEntries} {records : List CurrentTaskClosureRecord}
  {path : String}

/-! ### Freshness and drift -/

/-- No path is covered by two of the records. -/
def CoveredOnce (records : List CurrentTaskClosureRecord) : Prop :=
  ∀ path, (records.filter fun record => taskClosureRecordCoversPath record path).length ≤ 1

theorem eq_of_length_le_one {α : Type} {l : List α} (h : l.length ≤ 1) {a b : α} (ha : a ∈ l)
    (hb : b ∈ l) : a = b := by
  match l, h, ha, hb with
  | [_], _, ha, hb => rw [List.mem_singleton.mp ha, List.mem_singleton.mp hb]

theorem CoveredOnce.eq (h : CoveredOnce records) {r r' : CurrentTaskClosureRecord}
    (hr : r ∈ records) (hr' : r' ∈ records) (hcovers : taskClosureRecordCoversPath r path = true)
    (hcovers' : taskClosureRecordCoversPath r' path = true) : r = r' :=
  eq_of_length_le_one (h path) (List.mem_filter.mpr ⟨hr, hcovers⟩)
    (List.mem_filter.mpr ⟨hr', hcovers'⟩)

namespace SampleDrift

def record (surface : List String) : CurrentTaskClosureRecord where
  task := 1
  dispatchId := "dispatch-1"
  closureRecordId := "task-closure-1"
  sourcePlanPath := none
  sourcePlanRevision := none
  executionRunId := none
  reviewedStateId := "git_tree:1"
  semanticReviewedStateId := none
  contractIdentity := "task-contract-1"
  effectiveReviewedSurfacePaths := surface
  reviewResult := "pass"
  reviewSummaryHash := "1"
  verificationResult := "pass"
  verificationSummaryHash := "2"
  closureStatus := none

/-- The current tree has a second version of a file that was reviewed in its first. -/
def workspace (file : String) : ReviewedWorkspace where
  currentEntries := .ok (OrderedMap.empty.insert file "version-2")
  reviewedEntries _ _ := .ok (OrderedMap.empty.insert file "version-1")
  lateStageHeader := none

end SampleDrift

end FeatureForge
