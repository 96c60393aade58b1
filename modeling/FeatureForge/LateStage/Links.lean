import FeatureForge.LateStage.Restored
import FeatureForge.Closures.MilestoneChain

/-!
# Which records the bindings name

The bindings name a milestone if the state is bound to it, the graph names it over the milestone
before it, and it is admitted over the record that the bindings name of that one
(`recordId_iff`).  Whether a record is so linked does not read the id that the state is bound to,
so a state that is bound to what its bindings name keeps them (`recordId_settled`).
-/

namespace FeatureForge

open AuthoritativeClosureGraph

variable {m : LateStageMilestone} {s s' : StateObject} {branchClosureId reviewedStateId id : String}

def LateStageMilestone.closureKind : LateStageMilestone → ClosureKind
  | releaseReadiness => .releaseReadiness
  | finalReview => .finalReview
  | browserQa => .browserQa

/-! ### The graph that the bindings read -/

/-- The graph that the bindings read, before its indexes are refreshed. -/
def bindingsGraph (s : StateObject) (branchClosureId : String) : AuthoritativeClosureGraph :=
  evaluated (closureHistorySnapshot s)
    (closureGraphSignalsFromState s (some branchClosureId) false false [])

/-- The branch closure that this graph names. -/
def bindingsBranch (s : StateObject) (branchClosureId : String) : Option String :=
  (bindingsGraph s branchClosureId).boundCurrentRecordId (jsonString (s .currentBranchClosureId))
    .branchClosure

/-- A record that the graph names over `previous` if the state is bound to it, and that is then
admitted. -/
def Linked (s : StateObject) (branchClosureId reviewedStateId : String) (m : LateStageMilestone)
    (previous : Option String) (id : String) : Prop :=
  ∃ current record, branchClosureRecord s branchClosureId = some current ∧
    (bindingsGraph s branchClosureId).boundCurrentMilestoneRecordId (some id) m.closureKind
      (bindingsBranch s branchClosureId) previous = some id ∧
    lateStageRecordById m s id = some record ∧
    milestoneAdmitted m branchClosureId reviewedStateId current previous record = true

theorem boundCurrentMilestoneRecordId_iff {graph : AuthoritativeClosureGraph}
    {bound : Option String} {kind : ClosureKind} {branch required : Option String} :
    graph.boundCurrentMilestoneRecordId bound kind branch required = some id ↔
      nonBlank bound = some id ∧
        graph.boundCurrentMilestoneRecordId (some id) kind branch required = some id := by
  cases hbound : nonBlank bound with
  | none =>
    unfold boundCurrentMilestoneRecordId
    rw [hbound]
    exact iff_of_false nofun fun h => nomatch h.1
  | some recordId =>
    have hself := nonBlank_of_trimmed (trimmed_of_nonBlank hbound)
    have hsame : graph.boundCurrentMilestoneRecordId bound kind branch required =
        graph.boundCurrentMilestoneRecordId (some recordId) kind branch required := by
      unfold boundCurrentMilestoneRecordId
      rw [hbound, hself]
    rw [hsame]
    constructor
    · intro h
      have hnamed := h
      unfold boundCurrentMilestoneRecordId at hnamed
      rw [hself, Option.bind_some] at hnamed
      obtain ⟨_, _, hnamed⟩ := Option.bind_eq_some_iff.mp hnamed
      obtain ⟨_, _, hnamed⟩ := Option.bind_eq_some_iff.mp hnamed
      have heq : recordId = id := by
        split_ifs at hnamed
        cases required with
        | none => exact Option.some.inj hnamed
        | some required =>
          dsimp only at hnamed
          split_ifs at hnamed
          exact Option.some.inj hnamed
      exact ⟨congrArg some heq, heq ▸ h⟩
    · rintro ⟨heq, h⟩
      cases heq
      exact h

theorem namedMilestone_iff {current : BranchClosureRecord} {recordId previous : Option String} :
    (namedMilestone m s branchClosureId reviewedStateId current recordId previous).map Prod.fst =
        some id ↔
      recordId = some id ∧ ∃ record, lateStageRecordById m s id = some record ∧
        milestoneAdmitted m branchClosureId reviewedStateId current previous record = true := by
  unfold namedMilestone
  cases recordId with
  | none => exact iff_of_false nofun fun h => nomatch h.1
  | some recordId =>
    rw [Option.bind_some, Option.map_map, Option.map_eq_some_iff]
    constructor
    · rintro ⟨record, hrecord, rfl⟩
      obtain ⟨hread, hadmitted⟩ := Option.filter_eq_some_iff.mp hrecord
      exact ⟨rfl, record, hread, hadmitted⟩
    · rintro ⟨heq, record, hread, hadmitted⟩
      cases heq
      exact ⟨record, Option.filter_eq_some_iff.mpr ⟨hread, hadmitted⟩, rfl⟩

/-! ### What is named -/

/-- The record that the bindings name of the milestone before one. -/
def CurrentLateStageBranchBindings.previousRecordId (bindings : CurrentLateStageBranchBindings)
    (m : LateStageMilestone) : Option String :=
  m.predecessor.bind fun previous => bindings.recordId previous.2

theorem previous_of_admitted {current : BranchClosureRecord} {previous : Option String}
    {record : LateStageRecord} {before : String × LateStageMilestone}
    (hbefore : m.predecessor = some before)
    (h : milestoneAdmitted m branchClosureId reviewedStateId current previous record = true) :
    ∃ previousId, previous = some previousId ∧ record.predecessorRecordId = some previousId := by
  simp only [milestoneAdmitted, hbefore, Option.isNone_some, Bool.false_or, Bool.and_eq_true,
    decide_eq_true_eq] at h
  obtain ⟨previousId, hprevious⟩ := Option.isSome_iff_exists.mp h.1.2.1
  exact ⟨previousId, hprevious, h.1.2.2.trans hprevious⟩

/-- **What the bindings name** of a milestone. -/
theorem recordId_iff (hbranch : Named branchClosureId) (hreviewed : Named reviewedStateId) :
    (currentLateStageBranchBindings s (some branchClosureId) (some reviewedStateId)).recordId m =
        some id ↔
      jsonString (s m.recordIdField) = some id ∧ Linked s branchClosureId reviewedStateId m
        ((currentLateStageBranchBindings s (some branchClosureId)
          (some reviewedStateId)).previousRecordId m) id := by
  have hbound : nonBlank (jsonString (s m.recordIdField)) = jsonString (s m.recordIdField) := by
    cases h : jsonString (s m.recordIdField) with
    | none => rfl
    | some v => exact nonBlank_of_trimmed (trimmed_of_nonBlank h)
  unfold currentLateStageBranchBindings
  rw [nonBlank_of_trimmed hbranch, nonBlank_of_trimmed hreviewed]
  dsimp only
  cases hcurrent : branchClosureRecord s branchClosureId with
  | none =>
    refine iff_of_false ?_ ?_
    · cases m <;> nofun
    · rintro ⟨_, current, _, hread, _⟩
      rw [hcurrent] at hread
      cases hread
  | some current =>
    dsimp only
    have hlinked : ∀ previous, Linked s branchClosureId reviewedStateId m previous id ↔
        (bindingsGraph s branchClosureId).boundCurrentMilestoneRecordId (some id) m.closureKind
          (bindingsBranch s branchClosureId) previous = some id ∧
        ∃ record, lateStageRecordById m s id = some record ∧
          milestoneAdmitted m branchClosureId reviewedStateId current previous record = true := by
      intro previous
      unfold Linked
      rw [hcurrent]
      constructor
      · rintro ⟨_, record, heq, hgraph, hrest⟩
        cases heq
        exact ⟨hgraph, record, hrest⟩
      · rintro ⟨hgraph, record, hrest⟩
        exact ⟨current, record, rfl, hgraph, hrest⟩
    rw [hlinked, ← and_assoc, ← hbound, ← boundCurrentMilestoneRecordId_iff]
    cases m with
    | releaseReadiness => exact namedMilestone_iff
    | finalReview =>
      refine namedMilestone_iff.trans (and_congr_left ?_)
      rintro ⟨record, _, hadmitted⟩
      obtain ⟨release, hrelease, _⟩ := previous_of_admitted rfl hadmitted
      have hgraph := (namedMilestone_iff.mp hrelease).1
      show Option.bind _ _ = _ ↔ boundCurrentMilestoneRecordId _ _ _ _ (Option.map _ _) = _
      rw [hrelease]
      exact iff_of_eq (congrArg (Option.bind · _ = some id) hgraph)
    | browserQa =>
      refine namedMilestone_iff.trans (and_congr_left ?_)
      rintro ⟨record, _, hadmitted⟩
      obtain ⟨review, hreview, _⟩ := previous_of_admitted rfl hadmitted
      have hgraph := (namedMilestone_iff.mp hreview).1
      show Option.bind _ _ = _ ↔ boundCurrentMilestoneRecordId _ _ _ _ (Option.map _ _) = _
      rw [hreview]
      exact iff_of_eq (congrArg (Option.bind · _ = some id) hgraph)

theorem recordId_bound {identity : Option CurrentBranchClosureIdentity}
    (h : (currentLateStageBranchBindings s (identity.map CurrentBranchClosureIdentity.branchClosureId)
      (identity.map CurrentBranchClosureIdentity.reviewedStateId)).recordId m = some id) :
    ∃ current, identity = some current := by
  cases identity with
  | none =>
    have hnone : (currentLateStageBranchBindings s none none).recordId m = none := by
      cases m <;> rfl
    exact nomatch hnone.symm.trans h
  | some current => exact ⟨current, rfl⟩

/-! ### Bindings of two states -/

/-- The fields that say what the bindings name, besides the ids that the state is bound to. -/
def bindingSources : List Field :=
  [.branchClosureRecords, .taskClosureRecordHistory, .releaseReadinessRecordHistory,
    .finalReviewRecordHistory, .browserQaRecordHistory, .supersededTaskClosureIds,
    .supersededBranchClosureIds]

/-- Two states with the same records, bound to the same branch closure. -/
structure SameRecords (s s' : StateObject) : Prop where
  sources : ∀ f ∈ bindingSources, s' f = s f
  currentBranchClosureId : jsonString (s' .currentBranchClosureId) =
    jsonString (s .currentBranchClosureId)

section

variable (h : SameRecords s s')
include h

theorem SameRecords.symm : SameRecords s' s where
  sources f hf := (h.sources f hf).symm
  currentBranchClosureId := h.currentBranchClosureId.symm

theorem SameRecords.branchClosureRecord (id : String) :
    FeatureForge.branchClosureRecord s' id = FeatureForge.branchClosureRecord s id := by
  unfold FeatureForge.branchClosureRecord branchClosureRecordWithStatus
  rw [h.sources .branchClosureRecords (by decide)]

theorem SameRecords.boundIdentity :
    boundCurrentBranchClosureIdentity s' = boundCurrentBranchClosureIdentity s := by
  unfold boundCurrentBranchClosureIdentity
  simp only [h.currentBranchClosureId, h.branchClosureRecord]

theorem SameRecords.lateStageRecordById (m : LateStageMilestone) (id : String) :
    FeatureForge.lateStageRecordById m s' id = FeatureForge.lateStageRecordById m s id := by
  unfold FeatureForge.lateStageRecordById recordPayloadById
  rw [h.sources m.historyField (by cases m <;> decide)]

theorem SameRecords.bindingsGraph (id : String) :
    FeatureForge.bindingsGraph s' id = FeatureForge.bindingsGraph s id := by
  have hquiet : ∀ s graph, applyLateStageStaleProjection
      (closureGraphSignalsFromState s (some id) false false []) graph = graph := fun _ _ => rfl
  unfold FeatureForge.bindingsGraph evaluated
  simp only [hquiet, closureHistorySnapshot, supersededTaskClosureIds, supersededBranchClosureIds]
  rw [h.sources .taskClosureRecordHistory (by decide), h.sources .branchClosureRecords (by decide),
    h.sources .releaseReadinessRecordHistory (by decide),
    h.sources .finalReviewRecordHistory (by decide),
    h.sources .browserQaRecordHistory (by decide), h.sources .supersededTaskClosureIds (by decide),
    h.sources .supersededBranchClosureIds (by decide)]

theorem SameRecords.linked {previous : Option String} :
    Linked s' branchClosureId reviewedStateId m previous id ↔
      Linked s branchClosureId reviewedStateId m previous id := by
  unfold Linked bindingsBranch
  rw [h.branchClosureRecord, h.bindingsGraph, h.currentBranchClosureId, h.lateStageRecordById]

/-- **A state that is bound to what the bindings name keeps its bindings.** -/
theorem recordId_settled {identity : Option CurrentBranchClosureIdentity}
    (hnamed : ∀ current, identity = some current →
      Named current.branchClosureId ∧ Named current.reviewedStateId)
    (hids : (∀ m : LateStageMilestone, jsonString (s' m.recordIdField) =
        jsonString (s m.recordIdField)) ∨ ∀ m : LateStageMilestone, jsonString (s' m.recordIdField) =
      (currentLateStageBranchBindings s (identity.map CurrentBranchClosureIdentity.branchClosureId)
        (identity.map CurrentBranchClosureIdentity.reviewedStateId)).recordId m) :
    ∀ m, (currentLateStageBranchBindings s' (identity.map CurrentBranchClosureIdentity.branchClosureId)
        (identity.map CurrentBranchClosureIdentity.reviewedStateId)).recordId m =
      (currentLateStageBranchBindings s (identity.map CurrentBranchClosureIdentity.branchClosureId)
        (identity.map CurrentBranchClosureIdentity.reviewedStateId)).recordId m := by
  cases identity with
  | none =>
    intro m
    cases m <;> rfl
  | some current =>
    obtain ⟨hbranch, hreviewed⟩ := hnamed current rfl
    have hstep : ∀ m, (currentLateStageBranchBindings s' (some current.branchClosureId)
          (some current.reviewedStateId)).previousRecordId m =
        (currentLateStageBranchBindings s (some current.branchClosureId)
          (some current.reviewedStateId)).previousRecordId m →
        (currentLateStageBranchBindings s' (some current.branchClosureId)
          (some current.reviewedStateId)).recordId m =
        (currentLateStageBranchBindings s (some current.branchClosureId)
          (some current.reviewedStateId)).recordId m := by
      intro m hprevious
      refine Option.ext fun id => ?_
      rw [recordId_iff hbranch hreviewed, hprevious, h.linked]
      rcases hids with hids | hids
      · rw [hids, recordId_iff hbranch hreviewed]
      · rw [hids]
        exact and_iff_left_of_imp fun hid => ((recordId_iff hbranch hreviewed).mp hid).2
    -- one link after the other, from the release readiness on
    have hrelease := hstep .releaseReadiness rfl
    have hreview := hstep .finalReview hrelease
    intro m
    cases m with
    | releaseReadiness => exact hrelease
    | finalReview => exact hreview
    | browserQa => exact hstep .browserQa hreview

end

end FeatureForge
