import FeatureForge.Contracts.SpecDocument
import FeatureForge.EventLog.Chain
import FeatureForge.Lib.Except

/-!
# Plan-fidelity review artifacts

A review artifact names a plan and a spec by path, revision and fingerprint, and says what was
reviewed and with which verdict.  `parse_plan_fidelity_review_artifact` reads one from its
headers.  The plan's fingerprint is taken of its source with any of the workflow states a
reviewed plan goes through (`planFidelityAcceptedPlanFingerprints`).
-/

namespace FeatureForge

structure PlanFidelityReviewArtifact where
  path : List Char
  reviewStage : List Char
  reviewVerdict : List Char
  reviewedPlanPath : List Char
  reviewedPlanRevision : UInt32
  reviewedPlanFingerprint : String
  reviewedSpecPath : List Char
  reviewedSpecRevision : UInt32
  reviewedSpecFingerprint : String
  reviewerSource : List Char
  reviewerId : List Char
  distinctFromStages : List (List Char)
  verifiedSurfaces : List (List Char)
  verifiedRequirementIds : List (List Char)
  deriving DecidableEq

/-! ### Reading an artifact -/

def parseHeaderValue (source : List Char) (header : String) : Except DiagnosticError (List Char) :=
  match scalarField (lines source) header with
  | none => .error ⟨"Missing or malformed " ++ header ++ " header."⟩
  | some value => .ok value

def parseReviewedPath (source : List Char) (header : String) :
    Except DiagnosticError (List Char) := do
  let value ← parseHeaderValue source header
  match normalizeRepoRelativePath (trimMatches '\x60' value) with
  | none => .error ⟨"Plan-fidelity review artifact must keep " ++ header ++ " repo-relative."⟩
  | some path => .ok path

def parseReviewedRevision (source : List Char) (header : String) :
    Except DiagnosticError UInt32 := do
  let value ← parseHeaderValue source header
  match parseU32 value with
  | none => .error ⟨"Plan-fidelity review artifact is missing a numeric " ++ header ++ "."⟩
  | some revision => .ok revision

/-- The parts of a list with commas that are not blank. -/
def commaParts (value : List Char) : List (List Char) :=
  ((value.splitOn ',').map trimChars).filter fun part => part ≠ []

def reviewSummaryHeading : List Char := "## Plan Fidelity Review Summary".toList

/-- `parse_plan_fidelity_review_artifact`, of what was read at the path. -/
def parsePlanFidelityReviewArtifact (artifactPath : List Char)
    (content : Except DiagnosticError (List Char)) :
    Except DiagnosticError PlanFidelityReviewArtifact := do
  let source ← content
  if containsText reviewSummaryHeading source then do
    let reviewedPlanPath ← parseReviewedPath source "Reviewed Plan"
    let reviewedPlanRevision ← parseReviewedRevision source "Reviewed Plan Revision"
    let reviewedPlanFingerprint ← parseHeaderValue source "Reviewed Plan Fingerprint"
    let reviewedSpecPath ← parseReviewedPath source "Reviewed Spec"
    let reviewedSpecRevision ← parseReviewedRevision source "Reviewed Spec Revision"
    let reviewedSpecFingerprint ← parseHeaderValue source "Reviewed Spec Fingerprint"
    let distinctFromStages ← parseHeaderValue source "Distinct From Stages"
    let verifiedSurfaces ← parseHeaderValue source "Verified Surfaces"
    let verifiedRequirementIds ← parseHeaderValue source "Verified Requirement IDs"
    let reviewStage ← parseHeaderValue source "Review Stage"
    let reviewVerdict ← parseHeaderValue source "Review Verdict"
    let reviewerSource ← parseHeaderValue source "Reviewer Source"
    let reviewerId ← parseHeaderValue source "Reviewer ID"
    .ok
      { path := artifactPath, reviewStage, reviewVerdict, reviewedPlanPath, reviewedPlanRevision
        reviewedPlanFingerprint := String.ofList reviewedPlanFingerprint
        reviewedSpecPath, reviewedSpecRevision
        reviewedSpecFingerprint := String.ofList reviewedSpecFingerprint
        reviewerSource, reviewerId
        distinctFromStages := commaParts distinctFromStages
        verifiedSurfaces := commaParts verifiedSurfaces
        verifiedRequirementIds := commaParts verifiedRequirementIds }
  else .error ⟨"Plan-fidelity review artifact is missing the \x60## Plan Fidelity Review Summary\x60 block."⟩

/-! ### Fingerprints -/

def workflowStateHeader (workflowState : List Char) : List Char :=
  "**Workflow State:** ".toList ++ workflowState

/-- The lines of a text, each with what ends it. -/
def splitInclusive : List Char → List (List Char)
  | [] => []
  | c :: rest =>
    if c = '\n' then ['\n'] :: splitInclusive rest
    else match splitInclusive rest with
      | [] => [[c]]
      | segment :: segments => (c :: segment) :: segments

/-- A line and what ends it. -/
def lineEnding (segment : List Char) : List Char × List Char :=
  if segment.getLast? = some '\n' then
    if segment.dropLast.getLast? = some '\r' then (segment.dropLast.dropLast, ['\r', '\n'])
    else (segment.dropLast, ['\n'])
  else (segment, [])

/-- The first line that is the header becomes the other one. -/
def replaceHeader (current normalized : List Char) : List (List Char) → List (List Char)
  | [] => []
  | segment :: segments =>
    if (lineEnding segment).1 = current then (normalized ++ (lineEnding segment).2) :: segments
    else segment :: replaceHeader current normalized segments

def planSourceWithWorkflowState (plan : PlanDocument) (workflowState : List Char) : List Char :=
  (replaceHeader (workflowStateHeader plan.workflowState) (workflowStateHeader workflowState)
    (splitInclusive plan.source)).flatten

def planReviewerPlanEngReview : List Char := "plan-eng-review".toList

def planFidelityReviewedPlanSource (plan : PlanDocument) : List Char :=
  if plan.lastReviewedBy = planReviewerPlanEngReview then
    planSourceWithWorkflowState plan planWorkflowStateEngineeringApproved
  else plan.source

def planFidelityReviewedPlanFingerprint (sha : Sha256Hex) (plan : PlanDocument) : String :=
  sha (planFidelityReviewedPlanSource plan)

def planFidelityAcceptedPlanFingerprints (sha : Sha256Hex) (plan : PlanDocument) : List String :=
  if plan.lastReviewedBy = planReviewerPlanEngReview then
    [sha plan.source, sha (planSourceWithWorkflowState plan planWorkflowStateDraft),
      sha (planSourceWithWorkflowState plan planWorkflowStateEngineeringApproved)]
  else [sha plan.source]

end FeatureForge
