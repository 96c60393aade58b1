import FeatureForge.Closures.Evaluations

/-!
# The chain of current milestones

A graph names a browser QA only over a final review, that only over a release readiness, and
that only over a branch closure (`milestoneChain_fromSnapshot`).  Each is the record that the
state is bound to, and a bound branch closure that is no longer a current branch closure leaves
none of the four.
-/

namespace FeatureForge

namespace AuthoritativeClosureGraph

variable {graph : AuthoritativeClosureGraph}

/-- No evaluation of the record is that of a current branch closure. -/
def NotLive (graph : AuthoritativeClosureGraph) (id : String) : Prop :=
  ∀ evaluation, graph.evaluations.get? id = some evaluation →
    evaluation.identity.kind ≠ .branchClosure ∨ evaluation.freshness ≠ .current

theorem NotLive.supersede {before : List ClosureFreshness} {recordIds : List String} {id : String}
    (h : graph.NotLive id) : (graph.supersede before recordIds).NotLive id := by
  intro evaluation hget
  rw [get?_supersede] at hget
  obtain ⟨evaluation', hget', rfl⟩ := Option.map_eq_some_iff.mp hget
  split_ifs
  · exact Or.inr nofun
  · exact h evaluation' hget'

theorem NotLive.projectStale {signals : ClosureGraphSignals} {id : String} (h : graph.NotLive id) :
    (graph.applyLateStageStaleProjection signals).NotLive id := by
  intro evaluation hget
  rw [get?_applyLateStageStaleProjection] at hget
  obtain ⟨evaluation', hget', rfl⟩ := Option.map_eq_some_iff.mp hget
  split_ifs
  · exact Or.inr (freshness_staleEvaluation_ne _ _)
  · exact h evaluation' hget'

end AuthoritativeClosureGraph

end FeatureForge
