import FeatureForge.Authority.Records

/-!
# What a passed gate says

A check that finds nothing adds nothing to the gate, so where the gate of a recording is
empty at the end each of its checks has passed.  Read off from there: which contract is
active (`ActiveContract`), that a report is about the criteria its evaluator owns in it,
all of them (`ReportSound`), and that a handoff is required (`revalidateHandoff_nil`).
-/

namespace FeatureForge

section

variable {reader : ArtifactReader} {store : AuthorityStore} {st : MutableHarnessState}
  {gate : GateState}

/-- The contract that is active: the one read from the path in the state. -/
structure ActiveContract (reader : ArtifactReader) (store : AuthorityStore)
    (st : MutableHarnessState) (fingerprint : String) (contract : ExecutionContract) : Prop where
  path_eq : nonBlank st.activeContractPath = some ("contract-" ++ fingerprint ++ ".md")
  fingerprint_eq : nonBlank st.activeContractFingerprint = some fingerprint
  read : ∃ source, store.artifacts.get? ("contract-" ++ fingerprint ++ ".md") = some source ∧
    reader.readExecutionContract source = .ok contract

theorem requireActiveContractState_nil
    (h : (requireActiveContractState reader store st gate).1 = []) : gate = [] ∧
    ∃ fingerprint contract, ActiveContract reader store st fingerprint contract ∧
      requireActiveContractState reader store st gate =
        (reader.validateContractProvenance contract gate, some (fingerprint, contract)) := by
  unfold requireActiveContractState at h ⊢
  cases hpath : nonBlank st.activeContractPath with
  | none =>
    simp only [hpath] at h
    exact absurd h (GateState.fail_ne_nil _ _ _ _)
  | some path =>
    cases hfingerprint : nonBlank st.activeContractFingerprint with
    | none =>
      simp only [hpath, hfingerprint] at h
      exact absurd h (GateState.fail_ne_nil _ _ _ _)
    | some fingerprint =>
      simp only [hpath, hfingerprint] at h ⊢
      by_cases hseparator : containsSeparator path = true
      · rw [if_pos hseparator] at h
        exact absurd h (GateState.fail_ne_nil _ _ _ _)
      · rw [if_neg hseparator] at h ⊢
        by_cases hname : path ≠ "contract-" ++ fingerprint ++ ".md"
        · rw [if_pos hname] at h
          exact absurd h (GateState.fail_ne_nil _ _ _ _)
        · rw [if_neg hname] at h ⊢
          cases hsource : store.artifacts.get? path with
          | none =>
            simp only [hsource] at h
            exact absurd h (GateState.fail_ne_nil _ _ _ _)
          | some source =>
            simp only [hsource] at h ⊢
            cases hread : reader.readExecutionContract source with
            | error message =>
              simp only [hread] at h
              exact absurd h (GateState.fail_ne_nil _ _ _ _)
            | ok contract =>
              simp only [hread] at h ⊢
              cases hcanonical : reader.canonicalFingerprint source with
              | none =>
                simp only [hcanonical] at h
                exact absurd h (GateState.fail_ne_nil _ _ _ _)
              | some canonical =>
                simp only [hcanonical] at h ⊢
                split_ifs at h ⊢ with hdeclared hactive
                · exact absurd h (GateState.fail_ne_nil _ _ _ _)
                · exact absurd h (GateState.fail_ne_nil _ _ _ _)
                · refine ⟨reader.provenance_nil h, fingerprint, contract, ⟨?_, hfingerprint, source,
                    ?_, hread⟩, ?_⟩
                  · rw [hpath, not_not.mp hname]
                  · rw [← not_not.mp hname, hsource]
                  · rw [not_not.mp hactive]

theorem validateCriterionResult_nil {report : EvaluationReport} {contract : ExecutionContract}
    {result : CriterionResult} (h : validateCriterionResult report contract result gate = []) :
    gate = [] ∧ ∃ criterion, (contractCriteria contract).get? result.criterionId = some criterion ∧
      report.evaluatorKind ∈ criterion.verifierTypes := by
  unfold validateCriterionResult at h
  cases hcriterion : (contractCriteria contract).get? result.criterionId with
  | none =>
    simp only [hcriterion] at h
    exact absurd h (GateState.fail_ne_nil _ _ _ _)
  | some criterion =>
    simp only [hcriterion, GateState.failIf_eq_nil, Bool.not_eq_false', List.contains_iff_mem] at h
    obtain ⟨⟨⟨⟨⟨⟨⟨hgate, _⟩, howner⟩, _⟩, _⟩, _⟩, _⟩, _⟩ := h
    exact ⟨hgate, criterion, rfl, howner⟩

theorem validateEvidenceRequirement_nil {report : EvaluationReport}
    {requirement : EvidenceRequirement}
    (h : validateEvidenceRequirement report requirement gate = []) : gate = [] := by
  unfold validateEvidenceRequirement at h
  simp only [GateState.failIf_eq_nil] at h
  exact h.1.1

/-- What a report that passes says of its criteria. -/
structure ReportSound (report : EvaluationReport) (contract : ExecutionContract) : Prop where
  owned : ∀ id ∈ report.reportedCriteria, ∃ criterion,
    (contractCriteria contract).get? id = some criterion ∧
      report.evaluatorKind ∈ criterion.verifierTypes
  complete : ∀ criterion ∈ contract.criteria, report.evaluatorKind ∈ criterion.verifierTypes →
    criterion.criterionId ∈ report.reportedCriteria
  pass : report.verdict = "pass" → report.failingCriteria = []

theorem subset_eq_true {xs ys : List String} : subset xs ys = true ↔ xs ⊆ ys := by
  rw [subset, List.all_eq_true]
  exact forall₂_congr fun x _ => List.contains_iff_mem

theorem validateEvaluatorSemantics_nil {report : EvaluationReport} {contract : ExecutionContract}
    (h : validateEvaluatorSemantics reader report contract gate = []) :
    gate = [] ∧ ReportSound report contract := by
  unfold validateEvaluatorSemantics at h
  obtain ⟨h, -⟩ := GateState.foldl_eq_nil (fun _ _ => validateEvidenceRequirement_nil) h
  obtain ⟨h, -⟩ := (GateState.failIf_eq_nil _ _ _ _ _).mp h
  have h := reader.evidence_nil h
  obtain ⟨h, -⟩ := (GateState.failIf_eq_nil _ _ _ _ _).mp h
  obtain ⟨h, hpass⟩ := (GateState.failIf_eq_nil _ _ _ _ _).mp h
  obtain ⟨h, -⟩ := (GateState.failIf_eq_nil _ _ _ _ _).mp h
  obtain ⟨h, hcomplete⟩ := (GateState.failIf_eq_nil _ _ _ _ _).mp h
  obtain ⟨hgate, hresults⟩ :=
    GateState.foldl_eq_nil (fun _ _ h => (validateCriterionResult_nil h).1) h
  refine ⟨hgate, ⟨fun id hid => ?_, fun criterion hcriterion howner => ?_, fun hverdict => ?_⟩⟩
  · obtain ⟨result, hresult, rfl⟩ := List.mem_map.mp hid
    exact (validateCriterionResult_nil (hresults result hresult)).2
  · rw [Bool.not_eq_false', subset_eq_true] at hcomplete
    refine hcomplete (List.mem_map.mpr ⟨criterion, List.mem_filter.mpr ⟨hcriterion, ?_⟩, rfl⟩)
    exact List.contains_iff_mem.mpr howner
  · rw [hverdict, beq_self_eq_true, Bool.true_and, List.any_eq_false] at hpass
    rw [EvaluationReport.failingCriteria, List.map_eq_nil_iff, List.filter_eq_nil_iff]
    exact hpass

theorem revalidateEvaluation_nil {report : EvaluationReport}
    (h : revalidateEvaluationLockedState reader store report st [] = [])
    (hsequence : st.latestSequence ≤ report.authoritativeSequence) :
    ∃ fingerprint contract, ActiveContract reader store st fingerprint contract ∧
      report.evaluatorKind ∈ st.requiredEvaluatorKinds ∧ ReportSound report contract := by
  unfold revalidateEvaluationLockedState at h
  dsimp only at h
  generalize GateState.failIf [] _ _ _ _ = gate at h
  rcases hactive : requireActiveContractState reader store st gate with ⟨gate', none | ⟨fp, c⟩⟩
  · rw [hactive] at h
    obtain ⟨_, fingerprint, contract, _, heq⟩ :=
      requireActiveContractState_nil (by rw [hactive]; exact h)
    rw [hactive] at heq
    cases heq
  · rw [hactive] at h
    dsimp only at h
    rw [if_neg (UInt64.not_lt.mpr hsequence)] at h
    obtain ⟨h, hsound⟩ := validateEvaluatorSemantics_nil h
    obtain ⟨h, hrequired⟩ := (GateState.failIf_eq_nil _ _ _ _ _).mp h
    obtain ⟨h, -⟩ := (GateState.failIf_eq_nil _ _ _ _ _).mp h
    obtain ⟨_, fingerprint, contract, hread, heq⟩ :=
      requireActiveContractState_nil (by rw [hactive]; exact h)
    rw [hactive] at heq
    cases heq
    exact ⟨fp, c, hread, by simpa using hrequired, hsound⟩

theorem validateHandoffSemantics_nil {handoff : ExecutionHandoff} {contract : ExecutionContract}
    {criteria : List String} (h : validateHandoffSemantics handoff contract criteria gate = []) :
    gate = [] := by
  unfold validateHandoffSemantics at h
  simp only [GateState.failIf_eq_nil] at h
  exact h.1.1.1.1.1.1.1

theorem revalidateHandoff_nil {handoff : ExecutionHandoff}
    (h : revalidateHandoffLockedState reader store handoff st [] = []) :
    st.handoffRequired = true := by
  unfold revalidateHandoffLockedState at h
  dsimp only at h
  have hstart : ∀ gate : GateState, GateState.failIf gate (!st.handoffRequired)
      .missingRequiredHandoff "handoff_not_required"
      "Authoritative harness state does not currently require a handoff artifact." = [] →
      st.handoffRequired = true := fun gate hg => by
    simpa using ((GateState.failIf_eq_nil _ _ _ _ _).mp hg).2
  rcases hactive : requireActiveContractState reader store st (GateState.failIf _ _ _ _ _) with
    ⟨gate', none | ⟨fp, c⟩⟩
  · rw [hactive] at h
    exact hstart _ (requireActiveContractState_nil (by rw [hactive]; exact h)).1
  · rw [hactive] at h
    dsimp only at h
    have hgate' : gate' = [] := by
      split_ifs at h
      · exact ((GateState.failIf_eq_nil _ _ _ _ _).mp h).1
      · exact ((GateState.failIf_eq_nil _ _ _ _ _).mp (validateHandoffSemantics_nil h)).1
    exact hstart _ (requireActiveContractState_nil (by rw [hactive]; exact hgate')).1

end

end FeatureForge
