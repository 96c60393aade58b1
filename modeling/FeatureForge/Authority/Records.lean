import FeatureForge.Authority.HarnessState

/-!
# Recording contracts, evaluations and handoffs

`record_authoritative_mutation` and its three callers.  An artifact is checked against the
harness state loaded from the event log, published in the artifacts directory under a name
its fingerprint makes, and the changed state goes to the log as one event.  A call is
accepted where its gate has no diagnostic.

`ArtifactReader` is the parser of contracts with the checks that look at the repository,
which are only ever used to refuse an artifact.
-/

namespace FeatureForge

/-! ### Artifacts -/

structure ContractCriterion where
  criterionId : String
  requirementIds : List String
  coveredSteps : List String
  verifierTypes : List String
  deriving DecidableEq

structure EvidenceRequirement where
  evidenceRequirementId : String
  kind : String
  requirementIds : List String
  coveredSteps : List String
  satisfactionRule : String
  deriving DecidableEq

/-- A contract as its parser accepts it: it declares verifiers, and one of them for each
criterion. -/
structure ExecutionContract where
  authoritativeSequence : UInt64
  coveredSteps : List String
  criteria : List ContractCriterion
  verifiers : List String
  evidenceRequirements : List EvidenceRequirement
  retryBudget : UInt32
  pivotThreshold : UInt32
  contractFingerprint : String
  verifiers_ne_nil : verifiers ≠ []
  owned : ∀ criterion ∈ criteria, ∃ kind ∈ verifiers, criterion.verifierTypes = [kind]
  deriving DecidableEq

structure CriterionResult where
  criterionId : String
  status : String
  requirementIds : List String
  coveredSteps : List String
  evidenceRefs : List String
  deriving DecidableEq

structure EvaluationEvidenceRef where
  evidenceRefId : String
  kind : String
  requirementIds : List String
  coveredSteps : List String
  evidenceRequirementIds : List String
  deriving DecidableEq

structure EvaluationReport where
  authoritativeSequence : UInt64
  sourceContractFingerprint : String
  evaluatorKind : String
  verdict : String
  criterionResults : List CriterionResult
  affectedSteps : List String
  evidenceRefs : List EvaluationEvidenceRef
  deriving DecidableEq

structure ExecutionHandoff where
  authoritativeSequence : UInt64
  sourceContractFingerprint : String
  harnessPhase : String
  satisfiedCriteria : List String
  openCriteria : List String
  openFindings : List String
  deriving DecidableEq

/-- The parser of contracts, the digest of a source less its fingerprint header, and what
the checks of provenance and of evidence references find. -/
structure ArtifactReader where
  readExecutionContract : String → Except String ExecutionContract
  canonicalFingerprint : String → Option String
  validateContractProvenance : ExecutionContract → GateState → GateState
  validateEvidenceRefs : EvaluationReport → GateState → GateState
  provenance_nil : ∀ {contract gate}, validateContractProvenance contract gate = [] → gate = []
  evidence_nil : ∀ {report gate}, validateEvidenceRefs report gate = [] → gate = []

/-- The event log, by the state it reduces to, and the artifacts directory. -/
structure AuthorityStore where
  reduced : StateObject
  artifacts : OrderedMap String String

/-! ### The active contract -/

def containsSeparator (path : String) : Bool := path.toList.any fun c => c = '/' || c = '\\'

def missingContract (gate : GateState) (message : String) : GateState :=
  gate.fail .nonAuthoritativeArtifact "active_contract_missing" message

/-- `require_active_contract_state`: the fingerprint and the contract, and the gate. -/
def requireActiveContractState (reader : ArtifactReader) (store : AuthorityStore)
    (st : MutableHarnessState) (gate : GateState) :
    GateState × Option (String × ExecutionContract) :=
  match nonBlank st.activeContractPath, nonBlank st.activeContractFingerprint with
  | none, _ =>
    (missingContract gate "Authoritative harness state is missing active_contract_path.", none)
  | some _, none =>
    (missingContract gate "Authoritative harness state is missing active_contract_fingerprint.",
      none)
  | some contractPath, some contractFingerprint =>
    if containsSeparator contractPath then
      (missingContract gate ("Authoritative harness state active_contract_path must reference an " ++
        "authoritative artifact file name."), none)
    else if contractPath ≠ "contract-" ++ contractFingerprint ++ ".md" then
      (gate.fail .nonAuthoritativeArtifact "active_contract_fingerprint_mismatch"
        ("Authoritative harness state active_contract_path does not match the active contract " ++
          "fingerprint-derived authoritative artifact path."), none)
    else match store.artifacts.get? contractPath with
      | none =>
        (missingContract gate ("Active authoritative contract path does not exist: " ++
          contractPath), none)
      | some source =>
        match reader.readExecutionContract source with
        | .error message =>
          (missingContract gate ("Active authoritative contract " ++ contractPath ++
            " is malformed: " ++ message), none)
        | .ok contract =>
          match reader.canonicalFingerprint source with
          | none =>
            (gate.fail .artifactIntegrityMismatch "active_contract_fingerprint_mismatch"
              ("Could not recompute canonical active contract fingerprint because " ++
                "\x60Contract Fingerprint\x60 is missing or malformed."), none)
          | some canonical =>
            if canonical ≠ contract.contractFingerprint then
              (gate.fail .artifactIntegrityMismatch "active_contract_fingerprint_mismatch"
                ("Declared active contract fingerprint does not match canonical " ++
                  "content-derived fingerprint."), none)
            else if contractFingerprint ≠ canonical then
              (gate.fail .nonAuthoritativeArtifact "active_contract_fingerprint_mismatch"
                ("Authoritative harness state active_contract_fingerprint does not match active " ++
                  "contract content at active_contract_path."), none)
            else
              (reader.validateContractProvenance contract gate, some (canonical, contract))

/-! ### The checks of a report -/

/-- The criteria of a contract by id, a later one in place of an earlier. -/
def contractCriteria (contract : ExecutionContract) : OrderedMap String ContractCriterion :=
  .ofList (contract.criteria.map fun criterion => (criterion.criterionId, criterion))

def isNonPassing (status : String) : Bool := status = "fail" || status = "blocked"

def subset (xs ys : List String) : Bool := xs.all fun x => ys.contains x

/-- The checks of one criterion result against its criterion. -/
def validateCriterionResult (report : EvaluationReport) (contract : ExecutionContract)
    (result : CriterionResult) (gate : GateState) : GateState :=
  let gate := gate.failIf (!(["pass", "fail", "blocked"].contains result.status)) .evaluationMismatch
    "evaluation_criterion_status_illegal"
    "Evaluation criterion status must be pass, fail, or blocked."
  match (contractCriteria contract).get? result.criterionId with
  | none => gate.fail .evaluationMismatch "evaluation_unknown_criterion_id"
      ("Evaluation report includes a criterion_id that is not declared in the active contract " ++
        "criteria.")
  | some criterion =>
    let gate := gate.failIf (!criterion.verifierTypes.contains report.evaluatorKind)
      .evaluationMismatch "evaluation_criterion_evaluator_mismatch"
      ("Evaluation report includes criterion results that are not owned by this evaluator kind " ++
        "in the active contract.")
    let gate := gate.failIf (!subset result.requirementIds criterion.requirementIds)
      .evaluationMismatch "evaluation_requirement_mapping_invalid"
      ("Criterion result requirement_ids are not a subset of the active contract criterion " ++
        "requirement mappings.")
    let gate := gate.failIf (!subset result.coveredSteps criterion.coveredSteps)
      .evaluationMismatch "evaluation_covered_step_mapping_invalid"
      ("Criterion result covered_steps are not a subset of the active contract criterion " ++
        "covered steps.")
    let gate := gate.failIf (isNonPassing result.status &&
        (result.requirementIds.isEmpty || result.coveredSteps.isEmpty))
      .evaluationMismatch "evaluation_non_passing_scope_incomplete"
      "Failing or blocked criterion results must include requirement_ids and covered_steps."
    let gate := gate.failIf (isNonPassing result.status &&
        !subset result.coveredSteps report.affectedSteps)
      .evaluationMismatch "evaluation_non_passing_affected_steps_missing"
      ("Failing or blocked criterion_results covered_steps must be represented in " ++
        "affected_steps.")
    gate.failIf (!subset result.evidenceRefs (report.evidenceRefs.map (·.evidenceRefId)))
      .evaluationMismatch "evaluation_criterion_evidence_ref_missing"
      ("Criterion result references an evidence ref id that is not present in evidence_refs[].")

/-- The rule of an evidence requirement, over the references that serve it; none for a rule
it has not. -/
def satisfiesRule (requirement : EvidenceRequirement) (refs : List EvaluationEvidenceRef) :
    Option Bool :=
  let steps := requirement.coveredSteps.all fun step =>
    refs.any fun ref => ref.coveredSteps.contains step
  if requirement.satisfactionRule = "all_of" then
    some (if requirement.requirementIds.isEmpty && requirement.coveredSteps.isEmpty then
        !refs.isEmpty
      else (requirement.requirementIds.all fun id =>
        refs.any fun ref => ref.requirementIds.contains id) && steps)
  else if requirement.satisfactionRule = "any_of" then
    some ((refs.any fun ref => requirement.requirementIds.isEmpty ||
        ref.requirementIds.any requirement.requirementIds.contains) &&
      refs.any fun ref => requirement.coveredSteps.isEmpty ||
        ref.coveredSteps.any requirement.coveredSteps.contains)
  else if requirement.satisfactionRule = "per_step" then
    some (if requirement.coveredSteps.isEmpty then !refs.isEmpty else steps)
  else none

def validateEvidenceRequirement (report : EvaluationReport) (requirement : EvidenceRequirement)
    (gate : GateState) : GateState :=
  let refs := report.evidenceRefs.filter fun ref => ref.kind == requirement.kind &&
    ref.evidenceRequirementIds.contains requirement.evidenceRequirementId
  let satisfies := satisfiesRule requirement refs
  let gate := gate.failIf satisfies.isNone .evaluationMismatch "invalid_evidence_satisfaction_rule"
    "Active contract uses an unsupported evidence satisfaction_rule."
  gate.failIf (satisfies != some true) .evaluationMismatch "missing_required_evidence"
    ("Required evidence requirement \x60" ++ requirement.evidenceRequirementId ++
      "\x60 is unsatisfied by evaluation evidence refs.")

/-- `validate_evaluator_semantics`. -/
def validateEvaluatorSemantics (reader : ArtifactReader) (report : EvaluationReport)
    (contract : ExecutionContract) (gate : GateState) : GateState :=
  let gate := report.criterionResults.foldl (fun gate result =>
    validateCriterionResult report contract result gate) gate
  let required := (contract.criteria.filter fun criterion =>
    criterion.verifierTypes.contains report.evaluatorKind).map (·.criterionId)
  let gate := gate.failIf (!subset required (report.criterionResults.map (·.criterionId)))
    .evaluationMismatch "evaluation_missing_criterion_result"
    ("Evaluation report is missing a criterion result required by the active contract and " ++
      "evaluator kind.")
  let gate := gate.failIf (!subset report.affectedSteps contract.coveredSteps) .evaluationMismatch
    "evaluation_affected_step_out_of_scope"
    "Evaluation report affected_steps contains steps outside the active contract coverage scope."
  let gate := gate.failIf (report.verdict == "pass" &&
      report.criterionResults.any fun result => result.status != "pass")
    .evaluationMismatch "evaluation_pass_contains_non_passing_criteria"
    ("Evaluation verdict is pass but criterion_results still include fail or blocked statuses.")
  let gate := gate.failIf (isNonPassing report.verdict &&
      report.criterionResults.all fun result => result.status == "pass")
    .evaluationMismatch "evaluation_non_pass_verdict_all_pass_criteria"
    "Evaluation verdict is fail or blocked but every criterion_result status is pass."
  let gate := reader.validateEvidenceRefs report gate
  let gate := gate.failIf (!subset (report.evidenceRefs.flatMap (·.evidenceRequirementIds))
      (contract.evidenceRequirements.map (·.evidenceRequirementId)))
    .evaluationMismatch "evaluation_unknown_evidence_requirement"
    "Evaluation evidence ref references an unknown contract evidence requirement id."
  contract.evidenceRequirements.foldl (fun gate requirement =>
    validateEvidenceRequirement report requirement gate) gate

/-! ### The checks of a handoff -/

/-- `validate_handoff_semantics`. -/
def validateHandoffSemantics (handoff : ExecutionHandoff) (contract : ExecutionContract)
    (authoritativeOpenFailedCriteria : List String) (gate : GateState) : GateState :=
  let known := contract.criteria.map (·.criterionId)
  let gate := gate.failIf (handoff.harnessPhase != "handoff_required") .missingRequiredHandoff
    "handoff_phase_mismatch"
    ("Execution handoff must declare harness_phase handoff_required while satisfying handoff " ++
      "gate policy.")
  let gate := gate.failIf (!subset handoff.openCriteria known) .missingRequiredHandoff
    "handoff_unknown_open_criterion"
    ("Execution handoff open_criteria references a criterion that is not in the active contract.")
  let gate := gate.failIf (!subset handoff.satisfiedCriteria known) .missingRequiredHandoff
    "handoff_unknown_satisfied_criterion"
    ("Execution handoff satisfied_criteria references a criterion that is not in the active " ++
      "contract.")
  let gate := gate.failIf (handoff.openCriteria.any handoff.satisfiedCriteria.contains)
    .missingRequiredHandoff "handoff_criteria_overlap"
    "Execution handoff may not mark the same criterion as both open and satisfied."
  let gate := gate.failIf (!subset authoritativeOpenFailedCriteria handoff.openCriteria)
    .missingRequiredHandoff "handoff_unresolved_criteria_missing"
    ("Execution handoff omitted unresolved criteria that remain open in authoritative state.")
  let gate := gate.failIf (!subset handoff.openCriteria authoritativeOpenFailedCriteria)
    .missingRequiredHandoff "handoff_unresolved_criteria_superset"
    ("Execution handoff open_criteria contains unresolved criteria that are not open in " ++
      "authoritative state.")
  gate.failIf (!authoritativeOpenFailedCriteria.isEmpty && handoff.openFindings.isEmpty)
    .missingRequiredHandoff "handoff_unresolved_criteria_missing_findings"
    ("Execution handoff must include open findings when unresolved criteria remain open.")

/-! ### Under the lock -/

/-- `revalidate_contract_locked_state`. -/
def revalidateContractLockedState (st : MutableHarnessState) (gate : GateState) : GateState :=
  gate.failIf (st.harnessPhase != some "contract_pending_approval") .illegalHarnessPhase
    "contract_illegal_phase"
    ("Execution contract approval and recording are only legal while the authoritative harness " ++
      "phase is contract_pending_approval.")

/-- `revalidate_evaluation_locked_state`. -/
def revalidateEvaluationLockedState (reader : ArtifactReader) (store : AuthorityStore)
    (report : EvaluationReport) (st : MutableHarnessState) (gate : GateState) : GateState :=
  let gate := gate.failIf (!(st.harnessPhase.any fun phase =>
      ["executing", "evaluating", "repairing"].contains phase))
    .illegalHarnessPhase "evaluation_illegal_phase"
    ("Evaluation artifacts are only legal while the harness phase is executing, evaluating, or " ++
      "repairing.")
  match requireActiveContractState reader store st gate with
  | (gate, none) => gate
  | (gate, some (fingerprint, contract)) =>
    let gate := gate.failIf (report.sourceContractFingerprint != fingerprint)
      .dependencyIndexMismatch "evaluation_contract_fingerprint_mismatch"
      ("Evaluation report depends on a contract fingerprint that is not the active " ++
        "authoritative contract.")
    let gate := gate.failIf (!st.requiredEvaluatorKinds.contains report.evaluatorKind)
      .evaluationMismatch "evaluator_kind_not_required"
      ("Evaluation report evaluator_kind is not required by the active authoritative harness " ++
        "contract state.")
    if report.authoritativeSequence < st.latestSequence then gate
    else validateEvaluatorSemantics reader report contract gate

/-- `revalidate_handoff_locked_state`. -/
def revalidateHandoffLockedState (reader : ArtifactReader) (store : AuthorityStore)
    (handoff : ExecutionHandoff) (st : MutableHarnessState) (gate : GateState) : GateState :=
  let gate := gate.failIf (st.harnessPhase != some "handoff_required") .illegalHarnessPhase
    "handoff_illegal_phase"
    ("Execution handoff artifacts are only legal while the authoritative harness phase is " ++
      "handoff_required.")
  let gate := gate.failIf (!st.handoffRequired) .missingRequiredHandoff "handoff_not_required"
    "Authoritative harness state does not currently require a handoff artifact."
  match requireActiveContractState reader store st gate with
  | (gate, none) => gate
  | (gate, some (fingerprint, contract)) =>
    let gate := gate.failIf (handoff.sourceContractFingerprint != fingerprint)
      .dependencyIndexMismatch "handoff_contract_fingerprint_mismatch"
      ("Execution handoff depends on a contract fingerprint that is not the active " ++
        "authoritative contract.")
    if handoff.authoritativeSequence < st.latestSequence then gate
    else validateHandoffSemantics handoff contract st.openFailedCriteria gate

/-! ### The transitions -/

/-- `push_unique`. -/
def pushUnique (values : List String) (value : String) : List String :=
  if values.contains value then values else values ++ [value]

/-- `remove_value`. -/
def removeValue (values : List String) (value : String) : List String :=
  values.filter fun existing => existing != value

/-- `bootstrap_verdict_buckets_from_legacy_state`, with the latest verdicts that the
artifacts tell, if they do. -/
def bootstrapVerdictBucketsFromLegacyState (latestVerdicts : Option (OrderedMap String String))
    (st : MutableHarnessState) : MutableHarnessState :=
  if !st.failedEvaluatorKinds.isEmpty || !st.blockedEvaluatorKinds.isEmpty ||
      st.nonPassingEvaluatorKinds.isEmpty then st
  else
    let legacyNonPassing := st.nonPassingEvaluatorKinds
    match latestVerdicts with
    | some verdicts =>
      { st with
        failedEvaluatorKinds := (legacyNonPassing.filter fun kind =>
          verdicts.get? kind = some "fail").foldl pushUnique []
        blockedEvaluatorKinds := (legacyNonPassing.filter fun kind =>
          verdicts.get? kind = some "blocked").foldl pushUnique [] }
    | none =>
      if st.handoffRequired || st.harnessPhase = some "handoff_required" ||
          st.aggregateEvaluationState = some "blocked" then
        { st with blockedEvaluatorKinds := legacyNonPassing.foldl pushUnique [] }
      else { st with failedEvaluatorKinds := legacyNonPassing.foldl pushUnique [] }

/-- The evaluators that have not passed: of the required ones those that failed or are
blocked, then the others that did. -/
def recomputedNonPassing (st : MutableHarnessState) : List String :=
  (st.failedEvaluatorKinds ++ st.blockedEvaluatorKinds).foldl pushUnique
    (st.requiredEvaluatorKinds.filter fun kind =>
      st.failedEvaluatorKinds.contains kind || st.blockedEvaluatorKinds.contains kind)

/-- `recompute_authoritative_evaluator_state`. -/
def recomputeAuthoritativeEvaluatorState (st : MutableHarnessState) : MutableHarnessState :=
  let st := { st with nonPassingEvaluatorKinds := recomputedNonPassing st }
  if !st.blockedEvaluatorKinds.isEmpty then
    { st with
      harnessPhase := some "handoff_required"
      handoffRequired := true
      aggregateEvaluationState := some "blocked" }
  else if !st.failedEvaluatorKinds.isEmpty then
    { st with
      harnessPhase := some
        (if 0 < st.currentChunkPivotThreshold &&
            st.currentChunkPivotThreshold ≤ st.currentChunkRetryCount then "pivot_required"
          else "repairing")
      handoffRequired := false
      aggregateEvaluationState := some "fail" }
  else if st.pendingEvaluatorKinds.isEmpty then
    { st with
      handoffRequired := false
      harnessPhase := some "executing"
      aggregateEvaluationState := some "pass"
      openFailedCriteria := [] }
  else
    { st with
      handoffRequired := false
      harnessPhase := some "executing"
      aggregateEvaluationState := some "pending" }

/-- The transition of `record_authoritative_contract`. -/
def contractTransition (contract : ExecutionContract) (contractFingerprint : String)
    (st : MutableHarnessState) : MutableHarnessState :=
  { st with
    harnessPhase := some "contract_approved"
    activeContractPath := some ("contract-" ++ contractFingerprint ++ ".md")
    activeContractFingerprint := some contractFingerprint
    requiredEvaluatorKinds := contract.verifiers
    completedEvaluatorKinds := []
    pendingEvaluatorKinds := contract.verifiers
    nonPassingEvaluatorKinds := []
    failedEvaluatorKinds := []
    blockedEvaluatorKinds := []
    aggregateEvaluationState := some "pending"
    lastEvaluationReportPath := none
    lastEvaluationReportFingerprint := none
    lastEvaluationEvaluatorKind := none
    lastEvaluationVerdict := none
    currentChunkRetryCount := 0
    currentChunkRetryBudget := contract.retryBudget
    currentChunkPivotThreshold := contract.pivotThreshold
    handoffRequired := false
    openFailedCriteria := [] }

def EvaluationReport.reportedCriteria (report : EvaluationReport) : List String :=
  report.criterionResults.map (·.criterionId)

def EvaluationReport.failingCriteria (report : EvaluationReport) : List String :=
  (report.criterionResults.filter fun result => result.status != "pass").map (·.criterionId)

/-- `saturating_add(1)`. -/
def saturatingSucc32 (n : UInt32) : UInt32 := if n = 4294967295 then n else n + 1

/-- The evaluator leaves every bucket, and its criteria the open ones. -/
def supersedeReport (report : EvaluationReport) (reportFingerprint : String)
    (st : MutableHarnessState) : MutableHarnessState :=
  { st with
    pendingEvaluatorKinds := removeValue st.pendingEvaluatorKinds report.evaluatorKind
    completedEvaluatorKinds := pushUnique st.completedEvaluatorKinds report.evaluatorKind
    failedEvaluatorKinds := removeValue st.failedEvaluatorKinds report.evaluatorKind
    blockedEvaluatorKinds := removeValue st.blockedEvaluatorKinds report.evaluatorKind
    openFailedCriteria := report.reportedCriteria.foldl removeValue st.openFailedCriteria
    lastEvaluationReportPath := some ("evaluation-" ++ reportFingerprint ++ ".md")
    lastEvaluationReportFingerprint := some reportFingerprint
    lastEvaluationEvaluatorKind := some report.evaluatorKind
    lastEvaluationVerdict := some report.verdict }

/-- The evaluator's bucket for its verdict, with the criteria that failed. -/
def applyVerdict (report : EvaluationReport) (st : MutableHarnessState) : MutableHarnessState :=
  let opened := report.failingCriteria.foldl pushUnique st.openFailedCriteria
  if report.verdict = "fail" then
    { st with
      failedEvaluatorKinds := pushUnique st.failedEvaluatorKinds report.evaluatorKind
      currentChunkRetryCount :=
        if st.latestSequence < report.authoritativeSequence then
          saturatingSucc32 st.currentChunkRetryCount
        else st.currentChunkRetryCount
      openFailedCriteria := opened }
  else if report.verdict = "blocked" then
    { st with
      blockedEvaluatorKinds := pushUnique st.blockedEvaluatorKinds report.evaluatorKind
      openFailedCriteria := opened }
  else st

def legalVerdicts : List String := ["pass", "fail", "blocked"]

/-- The transition of `record_authoritative_evaluation`; a verdict other than the three
changes no bucket. -/
def evaluationTransition (latestVerdicts : Option (OrderedMap String String))
    (report : EvaluationReport) (reportFingerprint : String) (st : MutableHarnessState) :
    MutableHarnessState :=
  let st := supersedeReport report reportFingerprint
    (bootstrapVerdictBucketsFromLegacyState latestVerdicts st)
  if report.verdict ∈ legalVerdicts then
    recomputeAuthoritativeEvaluatorState (applyVerdict report st)
  else st

/-- The transition of `record_authoritative_handoff`. -/
def handoffTransition (handoff : ExecutionHandoff) (st : MutableHarnessState) :
    MutableHarnessState :=
  { st with
    harnessPhase := some "executing"
    handoffRequired := false
    openFailedCriteria := handoff.openCriteria }

/-! ### The recording -/

/-- The first step outside the program that fails in a call, with what it says. -/
inductive RecordFault where
  | lockConflict
  | lockIo (message : String)
  | stateUnreadable (message : String)
  | targetUnreadable (message : String)
  | publish (message : String)
  | dependencyIndex (message : String)
  | observability (message : String)
  | append (message : String)
  | statePublish (message : String)
  deriving DecidableEq

/-- A call's gate, the store after it, and the state it computed in memory, if it came so
far. -/
structure RecordOutcome where
  gate : GateState
  store : AuthorityStore
  memory : Option MutableHarnessState

def RecordOutcome.accepted (o : RecordOutcome) : Prop := o.gate = []

def refused (store : AuthorityStore) (gate : GateState) : RecordOutcome := ⟨gate, store, none⟩

def partialMutation (code message : String) : GateState :=
  GateState.fail [] .partialAuthoritativeMutation code message

/-- What a call publishes, and what it does to the state. -/
structure RecordMutation where
  command : String
  source : String
  artifactFileName : String
  authoritativeSequence : UInt64
  revalidateLockedState : AuthorityStore → MutableHarnessState → GateState → GateState
  applyTransition : MutableHarnessState → MutableHarnessState

/-- The replay of the artifact recorded last: nothing but the files is written. -/
def replayAuthoritativeMutation (fault : Option RecordFault) (m : RecordMutation)
    (targetExists : Bool) (st : MutableHarnessState) (store : AuthorityStore) : RecordOutcome :=
  if st = m.applyTransition st then
    let published := { store with
      artifacts := if targetExists then store.artifacts
        else store.artifacts.insert m.artifactFileName m.source }
    match fault with
    | some (.publish message) =>
      if targetExists then ⟨[], published, some st⟩
      else refused store (partialMutation "authoritative_publish_failed"
        ("Could not publish authoritative artifact " ++ m.artifactFileName ++ ": " ++ message))
    | some (.dependencyIndex message) =>
      refused published (partialMutation "dependency_index_publish_failed" message)
    | _ => ⟨[], published, some st⟩
  else refused store (GateState.fail [] .authoritativeOrderingMismatch
    "authoritative_sequence_replay_mismatch"
    ("Authoritative replay sequence matches the latest sequence but the authoritative state " ++
      "transition does not match the replay artifact."))

/-- A new artifact: published, then the event appended; the artifact goes again where the
event is not. -/
def publishAuthoritativeMutation (fault : Option RecordFault) (m : RecordMutation)
    (targetExists : Bool) (st : MutableHarnessState) (store : AuthorityStore) : RecordOutcome :=
  let st := ((m.applyTransition st).setLatestSequence
    m.authoritativeSequence).setDependencyIndexStateHealthy
  let published := if targetExists then store.artifacts
    else store.artifacts.insert m.artifactFileName m.source
  match fault with
  | some (.publish message) =>
    if targetExists then recorded st published
    else refused store (partialMutation "authoritative_publish_failed"
      ("Could not publish authoritative artifact " ++ m.artifactFileName ++ ": " ++ message))
  | some (.dependencyIndex message) =>
    refused store (partialMutation "dependency_index_publish_failed" message)
  | some (.observability message) =>
    refused store (partialMutation "observability_publish_failed" message)
  | some (.append message) =>
    refused store (partialMutation "authoritative_event_log_append_failed" message)
  | some (.statePublish message) =>
    { recorded st published with
      gate := partialMutation "authoritative_state_publish_failed"
        ("Could not publish authoritative harness state: " ++ message) }
  | _ => recorded st published
where
  recorded (st : MutableHarnessState) (published : OrderedMap String String) : RecordOutcome :=
    match eventFromCommandAuthoritativeDelta m.command store.reduced st.toValue none with
    | .error failure =>
      refused store (partialMutation "authoritative_event_log_append_failed" failure.message)
    | .ok event =>
      ⟨[], ⟨(applyTypedEventToState store.reduced event).1, published⟩, some st⟩

def staleSequence (sequence latest : UInt64) : GateState :=
  GateState.fail [] .authoritativeOrderingMismatch "authoritative_sequence_stale"
    ("Candidate authoritative sequence " ++ sequence.toNat.repr ++
      " is older than latest authoritative sequence " ++ latest.toNat.repr ++ ".")

/-- A call at its target: refused where another artifact stands there. -/
def recordAtTarget (fault : Option RecordFault) (m : RecordMutation) (st : MutableHarnessState)
    (store : AuthorityStore) : RecordOutcome :=
  match fault with
  | some (.targetUnreadable message) =>
    refused store (partialMutation "authoritative_target_unreadable"
      ("Could not read prior authoritative artifact " ++ m.artifactFileName ++ ": " ++ message))
  | _ =>
    let existing := store.artifacts.get? m.artifactFileName
    if existing.any fun existing => existing != m.source then
      refused store (GateState.fail [] .idempotencyConflict "idempotency_conflict"
        "Authoritative artifact replay conflicts with an existing recorded artifact.")
    else if m.authoritativeSequence = st.latestSequence then
      replayAuthoritativeMutation fault m existing.isSome st store
    else publishAuthoritativeMutation fault m existing.isSome st store

/-- `record_authoritative_mutation`. -/
def recordAuthoritativeMutation (fault : Option RecordFault) (m : RecordMutation)
    (store : AuthorityStore) : RecordOutcome :=
  match fault with
  | some .lockConflict => refused store (GateState.fail [] .concurrentWriterConflict
      "concurrent_writer_conflict"
      "Another runtime writer currently holds authoritative mutation authority.")
  | some (.lockIo message) =>
    refused store (partialMutation "write_authority_unavailable" message)
  | some (.stateUnreadable message) => refused store (missingContract [] message)
  | _ =>
    match MutableHarnessState.load store.reduced with
    | none => refused store (missingContract [] "Reduced authoritative state is malformed.")
    | some st =>
      let gate := m.revalidateLockedState store st []
      if gate ≠ [] then refused store gate
      else if m.authoritativeSequence < st.latestSequence then
        refused store (staleSequence m.authoritativeSequence st.latestSequence)
      else recordAtTarget fault m st store

/-- The three recordings, with their artifacts as they were read. -/
inductive RecordCall where
  | contract (contract : ExecutionContract) (source contractFingerprint : String)
  | evaluation (report : EvaluationReport) (source reportFingerprint : String)
    (latestVerdicts : Option (OrderedMap String String))
  | handoff (handoff : ExecutionHandoff) (source handoffFingerprint : String)

namespace RecordCall

def authoritativeSequence : RecordCall → UInt64
  | contract c _ _ => c.authoritativeSequence
  | evaluation r _ _ _ => r.authoritativeSequence
  | handoff h _ _ => h.authoritativeSequence

def artifactFileName : RecordCall → String
  | contract _ _ fingerprint => "contract-" ++ fingerprint ++ ".md"
  | evaluation _ _ fingerprint _ => "evaluation-" ++ fingerprint ++ ".md"
  | handoff _ _ fingerprint => "handoff-" ++ fingerprint ++ ".md"

/-- `record_authoritative_contract`, `record_authoritative_evaluation` and
`record_authoritative_handoff`. -/
def mutation (reader : ArtifactReader) (call : RecordCall) : RecordMutation :=
  match call with
  | contract c source fingerprint =>
    { command := "record_contract"
      source := source
      artifactFileName := call.artifactFileName
      authoritativeSequence := call.authoritativeSequence
      revalidateLockedState := fun _ => revalidateContractLockedState
      applyTransition := contractTransition c fingerprint }
  | evaluation r source fingerprint latestVerdicts =>
    { command := "record_evaluation"
      source := source
      artifactFileName := call.artifactFileName
      authoritativeSequence := call.authoritativeSequence
      revalidateLockedState := fun store => revalidateEvaluationLockedState reader store r
      applyTransition := evaluationTransition latestVerdicts r fingerprint }
  | handoff h source _ =>
    { command := "record_handoff"
      source := source
      artifactFileName := call.artifactFileName
      authoritativeSequence := call.authoritativeSequence
      revalidateLockedState := fun store => revalidateHandoffLockedState reader store h
      applyTransition := handoffTransition h }

def record (reader : ArtifactReader) (fault : Option RecordFault) (call : RecordCall)
    (store : AuthorityStore) : RecordOutcome :=
  recordAuthoritativeMutation fault (call.mutation reader) store

end RecordCall

end FeatureForge
