import Mathlib.Data.List.Dedup
import FeatureForge.Contracts.PlanFidelity

/-!
# The plan-fidelity gate

The loop over the artifacts collects the reports of those that are bound to the plan and the
spec, whatever stands between them (`collectReviews_current`).  A report of one lets the
implementation begin exactly where the artifact passes every check (`allows_reviewReport`).
So the gate opens where an artifact is bound and all that are bound pass, and neither the
order of the artifacts nor those that are stale, unreadable or unrelated matter
(`plan_fidelity_gate_iff`).
-/

namespace FeatureForge

/-- The artifact passes every check of the review. -/
structure PassesReview (spec : SpecDocument) (artifact : PlanFidelityReviewArtifact) : Prop where
  approved : spec.workflowState = "CEO Approved".toList ∧
    spec.lastReviewedBy = "plan-ceo-review".toList
  provenance : artifact.reviewStage = planFidelityReviewStage ∧
    artifact.reviewerSource ∈ planFidelityReviewerSourceOptions ∧
    trimChars artifact.reviewerId ≠ []
  stages : ∀ stage ∈ planFidelityDistinctStages, stage ∈ artifact.distinctFromStages
  surfaces : SameTexts artifact.verifiedSurfaces planFidelityRequiredSurfaces
  requirements : SameTexts artifact.verifiedRequirementIds (spec.requirements.map (·.id))
  verdict : artifact.reviewVerdict = "pass".toList

variable {sha : Sha256Hex} {spec : SpecDocument} {plan : PlanDocument}
  {artifact : PlanFidelityReviewArtifact}

/-! ### One artifact -/

theorem reviewCheck_eq_nil {passes : Prop} [Decidable passes] {code message : String} :
    reviewCheck passes code message = [] ↔ passes := by
  unfold reviewCheck
  split_ifs with h <;> simp [h]

theorem reviewDiagnostics_eq_nil : reviewDiagnostics artifact spec = [] ↔
    PassesReview spec artifact := by
  simp only [reviewDiagnostics, List.append_eq_nil_iff, reviewCheck_eq_nil]
  constructor
  · rintro ⟨⟨⟨⟨⟨happroved, hprovenance⟩, hstages⟩, hsurfaces⟩, hrequirements⟩, hverdict⟩
    exact ⟨happroved, hprovenance, hstages, hsurfaces, hrequirements, hverdict⟩
  · intro h
    exact ⟨⟨⟨⟨⟨h.approved, h.provenance⟩, h.stages⟩, h.surfaces⟩, h.requirements⟩, h.verdict⟩

theorem state_reviewReport_eq_pass : (reviewReport artifact spec).state = .pass ↔
    PassesReview spec artifact := by
  rw [← reviewDiagnostics_eq_nil]
  simp only [reviewReport]
  cases reviewDiagnostics artifact spec with
  | nil => simp
  | cons diagnostic diagnostics =>
    simp only [List.map_cons, List.isEmpty_cons, Bool.false_eq_true, if_false]
    split_ifs <;> simp

/-- **A report of a bound artifact opens the gate** exactly where the artifact passes. -/
theorem allows_reviewReport : planFidelityAllowsImplementation (reviewReport artifact spec) = true ↔
    PassesReview spec artifact := by
  rw [planFidelityAllowsImplementation, Bool.and_eq_true, Bool.and_eq_true, decide_eq_true_iff,
    state_reviewReport_eq_pass]
  refine ⟨fun h => h.1.1, fun h => ⟨⟨h, ?_⟩, ?_⟩⟩
  · show ((reviewDiagnostics artifact spec).map (·.code)).isEmpty = true
    rw [reviewDiagnostics_eq_nil.mpr h]
    rfl
  · have hsurface : ∀ surface ∈ planFidelityRequiredSurfaces,
        surface ∈ artifact.verifiedSurfaces := h.surfaces.2
    rw [planFidelityRequiredSurfaces, List.forall_mem_cons, List.forall_mem_cons,
      List.forall_mem_cons, List.forall_mem_cons, List.forall_mem_cons] at hsurface
    obtain ⟨hindex, htopology, hcontract, hdeterminism, hreference, -⟩ := hsurface
    rw [PlanFidelityReviewReport.verifiedSurfacesAreComplete, Bool.and_eq_true, Bool.and_eq_true,
      Bool.and_eq_true, Bool.and_eq_true]
    exact ⟨⟨⟨⟨decide_eq_true ⟨hindex, h.requirements⟩, decide_eq_true htopology⟩,
      decide_eq_true hcontract⟩, decide_eq_true hdeterminism⟩, decide_eq_true hreference⟩

theorem not_allows_of_state {report : PlanFidelityReviewReport} (h : report.state ≠ .pass) :
    planFidelityAllowsImplementation report = false := by
  simp [planFidelityAllowsImplementation, h]

theorem allows_attach (report : PlanFidelityReviewReport) :
    planFidelityAllowsImplementation
        (attachRequiredPlanFidelityArtifactTemplate sha report spec plan) =
      planFidelityAllowsImplementation report := by
  unfold attachRequiredPlanFidelityArtifactTemplate
  split_ifs <;> rfl

/-! ### What the loop collects -/

/-- What a candidate is read as, if it is bound to the plan and the spec. -/
def boundArtifact (sha : Sha256Hex) (spec : SpecDocument) (plan : PlanDocument)
    (candidate : ReviewCandidate) : Option PlanFidelityReviewArtifact :=
  match parsePlanFidelityReviewArtifact candidate.path candidate.content with
  | .error _ => none
  | .ok artifact => if BoundTo sha plan spec artifact then some artifact else none

theorem boundArtifact_eq_some {candidate : ReviewCandidate} :
    boundArtifact sha spec plan candidate = some artifact ↔
      parsePlanFidelityReviewArtifact candidate.path candidate.content = .ok artifact ∧
        BoundTo sha plan spec artifact := by
  unfold boundArtifact
  cases parsePlanFidelityReviewArtifact candidate.path candidate.content with
  | error error => simp
  | ok read =>
    simp only [Option.ite_none_right_eq_some, Option.some.injEq, Except.ok.injEq]
    constructor
    · rintro ⟨hbound, rfl⟩
      exact ⟨rfl, hbound⟩
    · rintro ⟨rfl, hbound⟩
      exact ⟨hbound, rfl⟩

/-- The reports on the bound artifacts. -/
def currentReports (sha : Sha256Hex) (spec : SpecDocument) (plan : PlanDocument)
    (candidates : List ReviewCandidate) : List PlanFidelityReviewReport :=
  (candidates.filterMap (boundArtifact sha spec plan)).map fun artifact => reviewReport artifact spec

theorem state_reviewReport (artifact : PlanFidelityReviewArtifact) (spec : SpecDocument) :
    (reviewReport artifact spec).state = .pass ∨ (reviewReport artifact spec).state = .fail ∨
      (reviewReport artifact spec).state = .invalid := by
  simp only [reviewReport]
  split_ifs <;> simp

theorem collectReview_current (collected : CollectedReviews) (candidate : ReviewCandidate) :
    (collectReview sha spec plan collected candidate).currentReports =
      collected.currentReports ++ currentReports sha spec plan [candidate] := by
  unfold collectReview currentReports boundArtifact
  cases hread : parsePlanFidelityReviewArtifact candidate.path candidate.content with
  | error error => simp [hread]
  | ok artifact =>
    by_cases hbound : BoundTo sha plan spec artifact
    · have heval : evaluateParsedPlanFidelityReviewArtifact sha artifact plan spec =
          reviewReport artifact spec := if_pos hbound
      simp only [hread, heval, if_pos hbound, List.filterMap_cons, List.filterMap_nil,
        List.map_cons, List.map_nil]
      rcases state_reviewReport artifact spec with h | h | h <;> simp only [h]
    · have heval : evaluateParsedPlanFidelityReviewArtifact sha artifact plan spec =
          stalePlanFidelityReview artifact.path := if_neg hbound
      simp [hread, heval, if_neg hbound, stalePlanFidelityReview,
        PlanFidelityReviewReport.unverified]

/-- **The loop collects the reports of the bound artifacts**, in their order. -/
theorem collectReviews_current (candidates : List ReviewCandidate) :
    (collectReviews sha spec plan candidates).currentReports =
      currentReports sha spec plan candidates := by
  have hloop : ∀ (candidates : List ReviewCandidate) (collected : CollectedReviews),
      (candidates.foldl (collectReview sha spec plan) collected).currentReports =
        collected.currentReports ++ currentReports sha spec plan candidates := by
    intro candidates
    induction candidates with
    | nil => intro collected; simp [currentReports]
    | cons candidate candidates ih =>
      intro collected
      rw [List.foldl_cons, ih, collectReview_current, List.append_assoc]
      simp only [currentReports, List.filterMap_cons, List.filterMap_nil]
      cases boundArtifact sha spec plan candidate <;> rfl
  exact hloop candidates _

/-- No candidate kept beside the current reports passes. -/
structure CollectedReviews.Closed (collected : CollectedReviews) : Prop where
  stale : ∀ report ∈ collected.staleCandidate, report.state ≠ .pass
  invalid : ∀ report ∈ collected.invalidCandidate, report.state ≠ .pass

theorem getD_closed {kept : Option PlanFidelityReviewReport} {report : PlanFidelityReviewReport}
    (hkept : ∀ report ∈ kept, report.state ≠ .pass) (hreport : report.state ≠ .pass) :
    ∀ r ∈ some (kept.getD report), r.state ≠ .pass := by
  intro r hr
  obtain rfl := Option.mem_some_iff.mp hr
  cases kept with
  | none => exact hreport
  | some first => exact hkept first rfl

theorem collectReview_closed {collected : CollectedReviews} (h : collected.Closed)
    (candidate : ReviewCandidate) :
    (collectReview sha spec plan collected candidate).Closed := by
  unfold collectReview
  split
  · exact ⟨h.stale, getD_closed h.invalid (by simp [invalidPlanFidelityReview,
      PlanFidelityReviewReport.unverified])⟩
  · rename_i artifact _
    dsimp only
    split
    any_goals
      split_ifs
      · exact ⟨h.stale, h.invalid⟩
      · exact ⟨getD_closed h.stale (by simp [stalePlanFidelityReview,
          PlanFidelityReviewReport.unverified]), h.invalid⟩
    · rename_i hstate
      exact ⟨getD_closed h.stale (by simp [hstate]), h.invalid⟩
    · rename_i hstate
      exact ⟨h.stale, getD_closed h.invalid (by simp [hstate])⟩

theorem collectReviews_closed (candidates : List ReviewCandidate) :
    (collectReviews sha spec plan candidates).Closed := by
  refine List.foldlRecOn (motive := fun collected : CollectedReviews => collected.Closed)
    candidates _ ⟨by simp, by simp⟩ ?_
  intro collected h candidate _
  exact collectReview_closed h candidate

/-! ### The gate -/

theorem length_dedup_le_one {α : Type} [DecidableEq α] {states : List α} :
    states.dedup.length ≤ 1 ↔ ∀ a ∈ states, ∀ b ∈ states, a = b := by
  constructor
  · intro h a ha b hb
    rw [← List.mem_dedup] at ha hb
    match states.dedup, h, ha, hb with
    | [x], _, ha, hb => rw [List.mem_singleton.mp ha, List.mem_singleton.mp hb]
  · intro h
    cases states with
    | nil => exact Nat.zero_le _
    | cons x states =>
      have hsub : (x :: states).dedup ⊆ [x] := by
        intro a ha
        exact List.mem_singleton.mpr (h a (List.mem_dedup.mp ha) x List.mem_cons_self)
      exact (List.subperm_of_subset (List.nodup_dedup _) hsub).length_le

/-- The report that is selected opens the gate where there are current reports and all pass. -/
theorem allows_selectReport {collected : CollectedReviews} (h : collected.Closed)
    (hcurrent : ∀ report ∈ collected.currentReports,
      planFidelityAllowsImplementation report = true ↔ report.state = .pass) :
    planFidelityAllowsImplementation (selectReport collected) = true ↔
      collected.currentReports ≠ [] ∧
        ∀ report ∈ collected.currentReports, planFidelityAllowsImplementation report = true := by
  have hpass : ∀ {report}, planFidelityAllowsImplementation report = true →
      report.state = .pass := by
    intro report hallows
    by_contra hstate
    rw [not_allows_of_state hstate] at hallows
    cases hallows
  unfold selectReport
  split_ifs with hconflict
  · refine iff_of_false (by decide) ?_
    rintro ⟨-, hall⟩
    refine absurd hconflict (Nat.not_lt.mpr (length_dedup_le_one.mpr ?_))
    intro a ha b hb
    obtain ⟨left, hleft, rfl⟩ := List.mem_map.mp ha
    obtain ⟨right, hright, rfl⟩ := List.mem_map.mp hb
    rw [hpass (hall left hleft), hpass (hall right hright)]
  · have hsame := length_dedup_le_one.mp (Nat.not_lt.mp hconflict)
    cases hreports : collected.currentReports with
    | nil =>
      refine iff_of_false (fun hallows => ?_) fun hall => hall.1 rfl
      have hstate := hpass hallows
      cases hstale : collected.staleCandidate with
      | some report =>
        rw [hstale] at hstate
        exact h.stale report hstale hstate
      | none =>
        cases hinvalid : collected.invalidCandidate with
        | some report =>
          rw [hstale, hinvalid] at hstate
          exact h.invalid report hinvalid hstate
        | none =>
          rw [hstale, hinvalid] at hstate
          cases hstate
    | cons report reports =>
      rw [hreports] at hcurrent hsame
      refine ⟨fun hallows => ⟨List.cons_ne_nil _ _, fun other hother => ?_⟩,
        fun hall => hall.2 report List.mem_cons_self⟩
      rw [hcurrent other hother, ← hpass hallows]
      exact hsame _ (List.mem_map_of_mem hother) _ (List.mem_map_of_mem List.mem_cons_self)

theorem allows_evaluate (candidates : List ReviewCandidate) :
    planFidelityAllowsImplementation (evaluatePlanFidelityReview sha spec plan candidates) =
        true ↔
      (∃ artifact, artifact ∈ candidates.filterMap (boundArtifact sha spec plan)) ∧
        ∀ artifact ∈ candidates.filterMap (boundArtifact sha spec plan),
          PassesReview spec artifact := by
  have hcurrent := @collectReviews_current sha spec plan candidates
  rw [evaluatePlanFidelityReview, allows_attach,
    allows_selectReport (collectReviews_closed candidates), hcurrent, currentReports, ne_eq,
    List.map_eq_nil_iff, List.forall_mem_map]
  · simp only [allows_reviewReport]
    refine and_congr_left fun _ => ?_
    exact ⟨List.exists_mem_of_ne_nil _, fun ⟨artifact, h⟩ => List.ne_nil_of_mem h⟩
  · rw [hcurrent, currentReports, List.forall_mem_map]
    intro artifact _
    rw [allows_reviewReport, state_reviewReport_eq_pass]

/-- **The gate opens where an artifact is bound to the plan and the spec and all that are bound
pass**, and it looks at no other artifacts and at no order. -/
theorem plan_fidelity_gate_iff (sha : Sha256Hex) (spec : SpecDocument) (plan : PlanDocument)
    (candidates : List ReviewCandidate) :
    (planFidelityAllowsImplementation (evaluatePlanFidelityReview sha spec plan candidates) =
          true ↔
        (∃ candidate ∈ candidates, ∃ artifact,
          parsePlanFidelityReviewArtifact candidate.path candidate.content = .ok artifact ∧
            BoundTo sha plan spec artifact) ∧
        ∀ candidate ∈ candidates, ∀ artifact,
          parsePlanFidelityReviewArtifact candidate.path candidate.content = .ok artifact →
            BoundTo sha plan spec artifact → PassesReview spec artifact) ∧
    ∀ others : List ReviewCandidate,
      (∀ artifact, BoundTo sha plan spec artifact →
        ((∃ candidate ∈ candidates,
            parsePlanFidelityReviewArtifact candidate.path candidate.content = .ok artifact) ↔
          ∃ candidate ∈ others,
            parsePlanFidelityReviewArtifact candidate.path candidate.content = .ok artifact)) →
      planFidelityAllowsImplementation (evaluatePlanFidelityReview sha spec plan others) =
        planFidelityAllowsImplementation (evaluatePlanFidelityReview sha spec plan candidates) := by
  have hmem : ∀ (list : List ReviewCandidate) (artifact : PlanFidelityReviewArtifact),
      artifact ∈ list.filterMap (boundArtifact sha spec plan) ↔
        BoundTo sha plan spec artifact ∧ ∃ candidate ∈ list,
          parsePlanFidelityReviewArtifact candidate.path candidate.content = .ok artifact := by
    intro list artifact
    simp only [List.mem_filterMap, boundArtifact_eq_some]
    constructor
    · rintro ⟨candidate, hcandidate, hread, hbound⟩
      exact ⟨hbound, candidate, hcandidate, hread⟩
    · rintro ⟨hbound, candidate, hcandidate, hread⟩
      exact ⟨candidate, hcandidate, hread, hbound⟩
  constructor
  · rw [allows_evaluate]
    simp only [hmem]
    constructor
    · rintro ⟨⟨artifact, hbound, candidate, hcandidate, hread⟩, hall⟩
      exact ⟨⟨candidate, hcandidate, artifact, hread, hbound⟩,
        fun candidate hcandidate artifact hread hbound =>
          hall artifact ⟨hbound, candidate, hcandidate, hread⟩⟩
    · rintro ⟨⟨candidate, hcandidate, artifact, hread, hbound⟩, hall⟩
      exact ⟨⟨artifact, hbound, candidate, hcandidate, hread⟩,
        fun artifact ⟨hbound, candidate, hcandidate, hread⟩ =>
          hall candidate hcandidate artifact hread hbound⟩
  · intro others hsame
    have heq : ∀ artifact, artifact ∈ others.filterMap (boundArtifact sha spec plan) ↔
        artifact ∈ candidates.filterMap (boundArtifact sha spec plan) := by
      intro artifact
      rw [hmem, hmem]
      exact and_congr_right fun hbound => (hsame artifact hbound).symm
    rw [Bool.eq_iff_iff, allows_evaluate, allows_evaluate]
    simp only [heq]

end FeatureForge
