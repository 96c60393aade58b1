import FeatureForge.Contracts.FidelityArtifact
import FeatureForge.Contracts.Strategy
import FeatureForge.Evidence.Attempts

/-!
# The plan-fidelity review

`evaluate_plan_fidelity_review` folds over the review artifacts it finds and keeps the first
stale and the first invalid one, and a report for every artifact that is bound to the plan and
the spec.  Of these it returns the first, unless they disagree.  A report that does not pass
carries the template of the artifact that is asked for.
-/

namespace FeatureForge

def planFidelityReviewStage : List Char := "featureforge:plan-fidelity-review".toList

def planFidelityRequiredSurfaces : List (List Char) :=
  ["requirement_index".toList, "execution_topology".toList, "task_contract".toList,
    "task_determinism".toList, "spec_reference_fidelity".toList]

def planFidelityDistinctStages : List (List Char) :=
  ["featureforge:writing-plans".toList, "featureforge:plan-eng-review".toList]

def planFidelityReviewerSourceOptions : List (List Char) := ["fresh-context-subagent".toList]

def planFidelityReviewVerdictOptions : List (List Char) := ["pass".toList, "fail".toList]

/-- The state of a report. -/
inductive ReviewState
  | pass
  | fail
  | invalid
  | stale
  | missing
  deriving DecidableEq

structure PlanFidelityReviewArtifactTemplate where
  artifactPath : List Char
  content : List Char
  reviewStage : List Char
  reviewVerdictOptions : List (List Char)
  reviewedPlanPath : List Char
  reviewedPlanRevision : UInt32
  reviewedPlanFingerprint : String
  reviewedSpecPath : List Char
  reviewedSpecRevision : UInt32
  reviewedSpecFingerprint : String
  reviewerSourceOptions : List (List Char)
  reviewerIdPlaceholder : List Char
  requiredDistinctFromStages : List (List Char)
  requiredVerifiedSurfaces : List (List Char)
  requiredRequirementIds : List (List Char)
  summaryPlaceholder : List Char

structure PlanFidelityReviewReport where
  state : ReviewState
  reviewArtifactPath : List Char
  reviewerStage : List Char
  provenanceSource : List Char
  verifiedRequirementIndex : Bool
  verifiedExecutionTopology : Bool
  verifiedTaskContract : Bool
  verifiedTaskDeterminism : Bool
  verifiedSpecReferenceFidelity : Bool
  reasonCodes : List String
  diagnostics : List ContractDiagnostic
  requiredArtifactTemplate : Option PlanFidelityReviewArtifactTemplate

namespace PlanFidelityReviewReport

/-- A report with one diagnostic and nothing verified. -/
def unverified (state : ReviewState) (reviewArtifactPath : List Char)
    (diagnostic : ContractDiagnostic) : PlanFidelityReviewReport where
  state
  reviewArtifactPath
  reviewerStage := []
  provenanceSource := []
  verifiedRequirementIndex := false
  verifiedExecutionTopology := false
  verifiedTaskContract := false
  verifiedTaskDeterminism := false
  verifiedSpecReferenceFidelity := false
  reasonCodes := [diagnostic.code]
  diagnostics := [diagnostic]
  requiredArtifactTemplate := none

def verifiedSurfacesAreComplete (report : PlanFidelityReviewReport) : Bool :=
  report.verifiedRequirementIndex && report.verifiedExecutionTopology &&
    report.verifiedTaskContract && report.verifiedTaskDeterminism &&
    report.verifiedSpecReferenceFidelity

end PlanFidelityReviewReport

def planFidelityAllowsImplementation (gate : PlanFidelityReviewReport) : Bool :=
  gate.state = .pass && gate.reasonCodes.isEmpty && gate.verifiedSurfacesAreComplete

def missingPlanFidelityReview : PlanFidelityReviewReport :=
  .unverified .missing [] ⟨"missing_plan_fidelity_review_artifact",
    "Plan-fidelity review artifact is missing for the current plan."⟩

def stalePlanFidelityReview (reviewArtifactPath : List Char) : PlanFidelityReviewReport :=
  .unverified .stale reviewArtifactPath ⟨"stale_plan_fidelity_review_artifact",
    "Plan-fidelity review artifact does not match the current approved spec and plan revision."⟩

def invalidPlanFidelityReview (reviewArtifactPath : List Char) (code message : String) :
    PlanFidelityReviewReport :=
  .unverified .invalid reviewArtifactPath ⟨code, message⟩

/-! ### The required template -/

/-- `Path::file_name`, for the path of a plan. -/
def fileName (path : List Char) : Option (List Char) :=
  match (pathParts path).getLast? with
  | none => none
  | some name => if name = ['.', '.'] then none else some name

/-- `Path::file_stem` of a file name: what stands before its last dot, unless that is the
first character. -/
def fileStem (name : List Char) : List Char :=
  match (name.reverse.dropWhile (· ≠ '.')).reverse.dropLast with
  | [] => name
  | stem => stem

def planFidelityPlanStem (planPath : List Char) : List Char :=
  match fileName planPath with
  | none => "plan".toList
  | some name => fileStem name

def defaultPlanFidelityReviewArtifactPath (plan : PlanDocument) : List Char :=
  ".featureforge/reviews/".toList ++ (planFidelityPlanStem plan.path ++ "-plan-fidelity.md".toList)

/-- The parts of a list, with commas between them. -/
def joinCommas (parts : List (List Char)) : List Char := List.intercalate ", ".toList parts

/-- The headers of a review artifact, with a verdict and a reviewer put in. -/
def artifactHeaders (sha : Sha256Hex) (spec : SpecDocument) (plan : PlanDocument)
    (verdict reviewer : List Char) : List (String × List Char) :=
  [("Review Stage", planFidelityReviewStage),
    ("Review Verdict", verdict),
    ("Reviewed Plan", ticked plan.path),
    ("Reviewed Plan Revision", decimal plan.planRevision),
    ("Reviewed Plan Fingerprint", (planFidelityReviewedPlanFingerprint sha plan).toList),
    ("Reviewed Spec", ticked spec.path),
    ("Reviewed Spec Revision", decimal spec.specRevision),
    ("Reviewed Spec Fingerprint", (sha spec.source).toList),
    ("Reviewer Source", "fresh-context-subagent".toList),
    ("Reviewer ID", reviewer),
    ("Distinct From Stages", joinCommas planFidelityDistinctStages),
    ("Verified Surfaces", joinCommas planFidelityRequiredSurfaces),
    ("Verified Requirement IDs", joinCommas (spec.requirements.map (·.id)))]

def headerLine (header : String × List Char) : List Char := scalarMarker header.1 ++ header.2

/-- The text of a review artifact, with a verdict, a reviewer and a summary put in. -/
def reviewArtifactContent (sha : Sha256Hex) (spec : SpecDocument) (plan : PlanDocument)
    (verdict reviewer summary : List Char) : List Char :=
  joinLines
    (reviewSummaryHeading :: [] ::
      (artifactHeaders sha spec plan verdict reviewer).map headerLine ++
      [[], "## Findings Summary".toList, [], summary, []])

def buildPlanFidelityReviewArtifactTemplate (sha : Sha256Hex) (spec : SpecDocument)
    (plan : PlanDocument) (artifactPath : List Char) : PlanFidelityReviewArtifactTemplate where
  artifactPath
  content := reviewArtifactContent sha spec plan "<review-verdict-pass-or-fail>".toList
    "<reviewer-id>".toList "<review-summary>".toList
  reviewStage := planFidelityReviewStage
  reviewVerdictOptions := planFidelityReviewVerdictOptions
  reviewedPlanPath := plan.path
  reviewedPlanRevision := plan.planRevision
  reviewedPlanFingerprint := planFidelityReviewedPlanFingerprint sha plan
  reviewedSpecPath := spec.path
  reviewedSpecRevision := spec.specRevision
  reviewedSpecFingerprint := sha spec.source
  reviewerSourceOptions := planFidelityReviewerSourceOptions
  reviewerIdPlaceholder := "<reviewer-id>".toList
  requiredDistinctFromStages := planFidelityDistinctStages
  requiredVerifiedSurfaces := planFidelityRequiredSurfaces
  requiredRequirementIds := spec.requirements.map (·.id)
  summaryPlaceholder := "<review-summary>".toList

def attachRequiredPlanFidelityArtifactTemplate (sha : Sha256Hex)
    (report : PlanFidelityReviewReport) (spec : SpecDocument) (plan : PlanDocument) :
    PlanFidelityReviewReport :=
  if report.state = .pass then report
  else
    let artifactPath :=
      if trimChars report.reviewArtifactPath = [] then defaultPlanFidelityReviewArtifactPath plan
      else report.reviewArtifactPath
    { report with
      requiredArtifactTemplate :=
        some (buildPlanFidelityReviewArtifactTemplate sha spec plan artifactPath) }

/-! ### One artifact -/

/-- The artifact is bound to the plan and the spec, by path, revision and fingerprint. -/
def BoundTo (sha : Sha256Hex) (plan : PlanDocument) (spec : SpecDocument)
    (artifact : PlanFidelityReviewArtifact) : Prop :=
  artifact.reviewedPlanPath = plan.path ∧
  artifact.reviewedPlanRevision = plan.planRevision ∧
  artifact.reviewedPlanFingerprint ∈ planFidelityAcceptedPlanFingerprints sha plan ∧
  artifact.reviewedSpecPath = spec.path ∧
  artifact.reviewedSpecRevision = spec.specRevision ∧
  artifact.reviewedSpecFingerprint = sha spec.source

instance (sha : Sha256Hex) (plan : PlanDocument) (spec : SpecDocument)
    (artifact : PlanFidelityReviewArtifact) : Decidable (BoundTo sha plan spec artifact) :=
  inferInstanceAs (Decidable (_ ∧ _))

/-- Two lists of texts are one set. -/
def SameTexts (left right : List (List Char)) : Prop :=
  (∀ text ∈ left, text ∈ right) ∧ ∀ text ∈ right, text ∈ left

instance (left right : List (List Char)) : Decidable (SameTexts left right) :=
  inferInstanceAs (Decidable (_ ∧ _))

/-- The diagnostic, where the check fails. -/
def reviewCheck (passes : Prop) [Decidable passes] (code message : String) :
    List ContractDiagnostic :=
  if passes then [] else [⟨code, message⟩]

local instance lawfulBEqOfReviewTexts : LawfulBEq (List Char) := inferInstance

def reviewDiagnostics (artifact : PlanFidelityReviewArtifact) (spec : SpecDocument) :
    List ContractDiagnostic :=
  reviewCheck (spec.workflowState = "CEO Approved".toList ∧
      spec.lastReviewedBy = "plan-ceo-review".toList)
    "plan_fidelity_source_spec_not_ceo_approved"
    "Plan-fidelity review requires a workflow-valid CEO-approved source spec reviewed by plan-ceo-review." ++
  reviewCheck (artifact.reviewStage = planFidelityReviewStage ∧
      artifact.reviewerSource ∈ planFidelityReviewerSourceOptions ∧
      trimChars artifact.reviewerId ≠ [])
    "plan_fidelity_reviewer_provenance_invalid"
    "Plan-fidelity review artifact reviewer provenance is malformed or not independent." ++
  reviewCheck (∀ stage ∈ planFidelityDistinctStages, stage ∈ artifact.distinctFromStages)
    "plan_fidelity_reviewer_provenance_invalid"
    "Plan-fidelity review artifact must declare distinction from writing-plans and plan-eng-review." ++
  reviewCheck (SameTexts artifact.verifiedSurfaces planFidelityRequiredSurfaces)
    "plan_fidelity_review_missing_required_surface"
    "Plan-fidelity review artifact must use the exact required verified-surface set." ++
  reviewCheck (SameTexts artifact.verifiedRequirementIds (spec.requirements.map (·.id)))
    "plan_fidelity_review_requirement_ids_mismatch"
    "Plan-fidelity review artifact must enumerate the exact Requirement Index ids it verified." ++
  reviewCheck (artifact.reviewVerdict = "pass".toList)
    "plan_fidelity_review_artifact_not_pass"
    "Plan-fidelity review artifact is not in pass state."

/-- The report on an artifact that is bound to the plan and the spec. -/
def reviewReport (artifact : PlanFidelityReviewArtifact) (spec : SpecDocument) :
    PlanFidelityReviewReport :=
  let diagnostics := reviewDiagnostics artifact spec
  let reasonCodes := diagnostics.map (·.code)
  { state :=
      if reasonCodes.isEmpty then .pass
      else if artifact.reviewVerdict ≠ "pass".toList ∧
          reasonCodes = ["plan_fidelity_review_artifact_not_pass"] then .fail
      else .invalid
    reviewArtifactPath := artifact.path
    reviewerStage := artifact.reviewStage
    provenanceSource := artifact.reviewerSource
    verifiedRequirementIndex := decide ("requirement_index".toList ∈ artifact.verifiedSurfaces ∧
      SameTexts artifact.verifiedRequirementIds (spec.requirements.map (·.id)))
    verifiedExecutionTopology := decide ("execution_topology".toList ∈ artifact.verifiedSurfaces)
    verifiedTaskContract := decide ("task_contract".toList ∈ artifact.verifiedSurfaces)
    verifiedTaskDeterminism := decide ("task_determinism".toList ∈ artifact.verifiedSurfaces)
    verifiedSpecReferenceFidelity :=
      decide ("spec_reference_fidelity".toList ∈ artifact.verifiedSurfaces)
    reasonCodes
    diagnostics
    requiredArtifactTemplate := none }

def evaluateParsedPlanFidelityReviewArtifact (sha : Sha256Hex)
    (artifact : PlanFidelityReviewArtifact) (plan : PlanDocument) (spec : SpecDocument) :
    PlanFidelityReviewReport :=
  if BoundTo sha plan spec artifact then reviewReport artifact spec
  else stalePlanFidelityReview artifact.path

/-! ### All artifacts -/

/-- A file that may be a review artifact: its path, and what was read there. -/
structure ReviewCandidate where
  path : List Char
  content : Except DiagnosticError (List Char)

/-- What the loop over the candidates keeps. -/
structure CollectedReviews where
  staleCandidate : Option PlanFidelityReviewReport
  invalidCandidate : Option PlanFidelityReviewReport
  currentReports : List PlanFidelityReviewReport

def collectReview (sha : Sha256Hex) (spec : SpecDocument) (plan : PlanDocument)
    (collected : CollectedReviews) (candidate : ReviewCandidate) : CollectedReviews :=
  match parsePlanFidelityReviewArtifact candidate.path candidate.content with
  | .error error =>
    { collected with invalidCandidate := some (collected.invalidCandidate.getD
        (invalidPlanFidelityReview candidate.path "plan_fidelity_review_artifact_invalid"
          ("Plan-fidelity review artifact is invalid: " ++ error.message))) }
  | .ok artifact =>
    let report := evaluateParsedPlanFidelityReviewArtifact sha artifact plan spec
    match report.state with
    | .pass | .fail | .invalid =>
      if BoundTo sha plan spec artifact then
        { collected with currentReports := collected.currentReports ++ [report] }
      else
        { collected with staleCandidate := some (collected.staleCandidate.getD
            (stalePlanFidelityReview artifact.path)) }
    | .stale =>
      { collected with staleCandidate := some (collected.staleCandidate.getD report) }
    | .missing =>
      { collected with invalidCandidate := some (collected.invalidCandidate.getD report) }

def collectReviews (sha : Sha256Hex) (spec : SpecDocument) (plan : PlanDocument)
    (candidates : List ReviewCandidate) : CollectedReviews :=
  candidates.foldl (collectReview sha spec plan) ⟨none, none, []⟩

def ambiguousPlanFidelityReview : PlanFidelityReviewReport :=
  invalidPlanFidelityReview [] "ambiguous_plan_fidelity_review_artifact"
    "Multiple current plan-fidelity review artifacts bind to this plan fingerprint with conflicting verdicts."

/-- The report the gate is decided on. -/
def selectReport (collected : CollectedReviews) : PlanFidelityReviewReport :=
  if (collected.currentReports.map (·.state)).dedup.length > 1 then ambiguousPlanFidelityReview
  else match collected.currentReports with
    | report :: _ => report
    | [] => (collected.staleCandidate.or collected.invalidCandidate).getD missingPlanFidelityReview

/-- `evaluate_plan_fidelity_review`, of the candidates found. -/
def evaluatePlanFidelityReview (sha : Sha256Hex) (spec : SpecDocument) (plan : PlanDocument)
    (candidates : List ReviewCandidate) : PlanFidelityReviewReport :=
  attachRequiredPlanFidelityArtifactTemplate sha
    (selectReport (collectReviews sha spec plan candidates)) spec plan

end FeatureForge
