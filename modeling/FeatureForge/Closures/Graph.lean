import FeatureForge.EventLog.Delta

/-!
# The graph of closures

`AuthoritativeClosureGraph::from_snapshot`: the records of five histories, read one history
after the other into one map of evaluations, what supersedes what, and which record is
current: for each task the newest one that is, and for the branch and the three milestones
the record that the state is bound to, if it still is what it is bound as.
-/

namespace FeatureForge

inductive ClosureScope where
  | task
  | branch
  | milestone
  deriving DecidableEq

inductive ClosureKind where
  | taskClosure
  | branchClosure
  | releaseReadiness
  | finalReview
  | browserQa
  deriving DecidableEq

inductive ClosureFreshness where
  | current
  | superseded
  | staleUnreviewed
  | historical
  deriving DecidableEq

structure ClosureIdentity where
  recordId : String
  kind : ClosureKind
  scope : ClosureScope
  taskNumber : Option UInt32
  planPath : String
  planFingerprint : String
  repoHeadSha : Option String
  trackedTreeFingerprint : Option String
  authoritativeSequence : Nat
  deriving DecidableEq

structure ClosureDependencyBinding where
  dependsOnRecordIds : List String
  sourceArtifactFingerprints : List String
  deriving DecidableEq

structure ClosureEvaluation where
  identity : ClosureIdentity
  freshness : ClosureFreshness
  supersedes : Option String
  staleReasonCodes : List String
  dependencyBinding : ClosureDependencyBinding
  deriving DecidableEq

structure ClosureGraphSignals where
  currentBranchClosureId : Option String
  overlayCurrentBranchClosureId : Option String
  finishReviewGatePassBranchClosureId : Option String
  currentReleaseReadinessBranchClosureId : Option String
  currentFinalReviewBranchClosureId : Option String
  currentQaBranchClosureId : Option String
  lateStageStaleUnreviewed : Bool
  missingCurrentClosureStaleProvenance : Bool
  staleReasonCodes : List String

structure ClosureHistorySnapshot where
  taskClosureRecordHistory : Object
  branchClosureRecords : Object
  releaseReadinessRecordHistory : Object
  finalReviewRecordHistory : Object
  browserQaRecordHistory : Object
  currentBranchClosureId : Option String
  currentReleaseReadinessRecordId : Option String
  currentFinalReviewRecordId : Option String
  currentQaRecordId : Option String
  supersededTaskClosureIds : List String
  supersededBranchClosureIds : List String

structure AuthoritativeClosureGraph where
  evaluations : OrderedMap String ClosureEvaluation
  supersededBy : OrderedMap String String
  staleProjectionOnlyRecordIds : List String
  /-- by the number of the task -/
  currentTaskRecordIds : OrderedMap Nat String
  currentBranchRecordId : Option String
  currentReleaseReadinessRecordId : Option String
  currentFinalReviewRecordId : Option String
  currentBrowserQaRecordId : Option String

/-! ### Payloads -/

def valueString (payload : Json) (key : String) : Option String := jsonString (payload.get? key)

def valueU64 (payload : Json) (key : String) : Option Nat := (payload.get? key).bind Json.asU64

def valueU32 (payload : Json) (key : String) : Option UInt32 :=
  (jsonU32 (payload.get? key)).filter fun value => 0 < value

/-- The texts of an array, blanks around them dropped, that are not blank. -/
def stringArray (v : Option Json) : List String :=
  ((v.bind Json.asArray).getD []).filterMap fun entry => nonBlank entry.asStr

def valueStringArray (payload : Json) (key : String) : List String := stringArray (payload.get? key)

def closureFreshnessFromStatus (status : String) : Option ClosureFreshness :=
  if status = "current" then some .current
  else if status = "superseded" then some .superseded
  else if status = "stale_unreviewed" then some .staleUnreviewed
  else if status = "historical" then some .historical
  else none

def valueClosureFreshness (payload : Json) : Option ClosureFreshness :=
  ((valueString payload "closure_status").or (valueString payload "record_status")).bind
    closureFreshnessFromStatus

def staleReasonCodesForFreshness (freshness : ClosureFreshness) : List String :=
  if freshness = .staleUnreviewed then ["record_status_stale_unreviewed"] else []

def appendUnique (values : List String) (value : String) : List String :=
  if value ∈ values then values else values ++ [value]

/-! ### Evaluations -/

/-- What the five histories read alike of a record. -/
def closureEvaluation (kind : ClosureKind) (scope : ClosureScope) (taskNumber : Option UInt32)
    (recordId : String) (payload : Json) (supersedes : Option String)
    (dependencyBinding : ClosureDependencyBinding) : ClosureEvaluation :=
  let freshness := (valueClosureFreshness payload).getD .current
  { identity :=
      { recordId := recordId
        kind := kind
        scope := scope
        taskNumber := taskNumber
        planPath := (valueString payload "source_plan_path").getD ""
        planFingerprint :=
          ((valueU32 payload "source_plan_revision").map fun value => value.toNat.repr).getD ""
        repoHeadSha := none
        trackedTreeFingerprint := valueString payload "reviewed_state_id"
        authoritativeSequence := (valueU64 payload "record_sequence").getD 0 }
    freshness := freshness
    supersedes := supersedes
    staleReasonCodes := staleReasonCodesForFreshness freshness
    dependencyBinding := dependencyBinding }

/-- The loop body of `ingest_task_closure_history`. -/
def taskClosureEvaluation (historyKey : String) (payload : Json) : Option ClosureEvaluation :=
  match valueU32 payload "task" with
  | none => none
  | some taskNumber =>
    let recordId := ((valueString payload "closure_record_id").or
      (valueString payload "record_id")).getD historyKey
    if trim recordId = "" then none
    else some (closureEvaluation .taskClosure .task (some taskNumber) recordId payload none
      ⟨[], valueStringArray payload "effective_reviewed_surface_paths"⟩)

/-- The loop body of `ingest_branch_closure_history`, without its edges. -/
def branchClosureEvaluation (historyKey : String) (payload : Json) : Option ClosureEvaluation :=
  let recordId := (valueString payload "branch_closure_id").getD historyKey
  if trim recordId = "" then none
  else some (closureEvaluation .branchClosure .branch none recordId payload
    (valueStringArray payload "superseded_branch_closure_ids").head?
    ⟨valueStringArray payload "source_task_closure_ids",
      (valueString payload "effective_reviewed_branch_surface").toList⟩)

/-- The loop bodies for the three milestones. -/
def milestoneEvaluation (kind : ClosureKind) (binding : Json → ClosureDependencyBinding)
    (historyKey : String) (payload : Json) : Option ClosureEvaluation :=
  let recordId := (valueString payload "record_id").getD historyKey
  if trim recordId = "" then none
  else some (closureEvaluation kind .milestone none recordId payload none (binding payload))

/-- A milestone is of a branch closure, and a later one also of the milestone before it. -/
def milestoneDependencies (payload : Json) (requiredKey : String) : List String :=
  match valueString payload requiredKey with
  | none => (valueString payload "branch_closure_id").toList
  | some required => appendUnique (valueString payload "branch_closure_id").toList required

def releaseReadinessEvaluation : String → Json → Option ClosureEvaluation :=
  milestoneEvaluation .releaseReadiness fun payload =>
    ⟨(valueString payload "branch_closure_id").toList,
      (valueString payload "release_docs_fingerprint").toList⟩

def finalReviewEvaluation : String → Json → Option ClosureEvaluation :=
  milestoneEvaluation .finalReview fun payload =>
    ⟨milestoneDependencies payload "release_readiness_record_id",
      (valueString payload "final_review_fingerprint").toList⟩

def browserQaEvaluation : String → Json → Option ClosureEvaluation :=
  milestoneEvaluation .browserQa fun payload =>
    ⟨milestoneDependencies payload "final_review_record_id",
      (valueString payload "browser_qa_fingerprint").toList ++
        (valueString payload "source_test_plan_fingerprint").toList⟩

namespace AuthoritativeClosureGraph

def empty : AuthoritativeClosureGraph := ⟨.empty, .empty, [], .empty, none, none, none, none⟩

def upsertEvaluation (graph : AuthoritativeClosureGraph) (evaluation : ClosureEvaluation) :
    AuthoritativeClosureGraph :=
  let keepExisting := (graph.evaluations.get? evaluation.identity.recordId).any fun existing =>
    evaluation.identity.authoritativeSequence < existing.identity.authoritativeSequence
  if keepExisting then graph
  else { graph with
    evaluations := graph.evaluations.insert evaluation.identity.recordId evaluation }

/-- The ingests of the histories without edges. -/
def ingest (evaluationOf : String → Json → Option ClosureEvaluation) (history : Object)
    (graph : AuthoritativeClosureGraph) : AuthoritativeClosureGraph :=
  history.entries.foldl (fun graph record =>
    match evaluationOf record.1 record.2 with
    | none => graph
    | some evaluation => graph.upsertEvaluation evaluation) graph

/-- The evaluations of some records that are as fresh as `before` says are superseded. -/
def supersede (before : List ClosureFreshness) (graph : AuthoritativeClosureGraph)
    (recordIds : List String) : AuthoritativeClosureGraph :=
  { graph with
    evaluations := recordIds.foldl (fun evaluations recordId =>
      match evaluations.get? recordId with
      | none => evaluations
      | some evaluation =>
        if evaluation.freshness ∈ before then
          evaluations.insert recordId { evaluation with freshness := .superseded }
        else evaluations) graph.evaluations }

def ingestBranchClosure (graph : AuthoritativeClosureGraph) (historyKey : String)
    (payload : Json) : AuthoritativeClosureGraph :=
  match branchClosureEvaluation historyKey payload with
  | none => graph
  | some evaluation =>
    let explicitSuperseded := valueStringArray payload "superseded_branch_closure_ids"
    { graph with
      supersededBy := explicitSuperseded.foldl (fun supersededBy supersededRecordId =>
        supersededBy.insert supersededRecordId evaluation.identity.recordId)
          graph.supersededBy }.upsertEvaluation evaluation

def ingestBranchClosureHistory (records : Object) (supersededBranchClosureIds : List String)
    (graph : AuthoritativeClosureGraph) : AuthoritativeClosureGraph :=
  supersede [.current]
    (records.entries.foldl (fun graph record => graph.ingestBranchClosure record.1 record.2) graph)
    supersededBranchClosureIds

def applySupersededTaskIds (graph : AuthoritativeClosureGraph)
    (supersededTaskClosureIds : List String) : AuthoritativeClosureGraph :=
  graph.supersede [.current, .staleUnreviewed, .historical] supersededTaskClosureIds

/-! ### Stale projection -/

/-- `reason_code_indicates_stale_unreviewed`. -/
def reasonCodeIndicatesStaleUnreviewed (reasonCode : String) : Bool :=
  ["review_artifact_worktree_dirty", "post_review_repo_write_detected", "files_proven_drifted",
    "prior_task_current_closure_stale"].contains reasonCode

/-- `late_stage_candidate_closure_ids_from_signals`, a `BTreeSet` in its order. -/
def lateStageCandidateClosureIds (signals : ClosureGraphSignals) : List String :=
  (OrderedMap.ofList ((([signals.currentBranchClosureId, signals.overlayCurrentBranchClosureId,
    signals.finishReviewGatePassBranchClosureId, signals.currentReleaseReadinessBranchClosureId,
    signals.currentFinalReviewBranchClosureId, signals.currentQaBranchClosureId].filterMap
      nonBlank).map fun closureId => (closureId, ())))).entries.map Prod.fst

/-- What a stale projection makes of an evaluation. -/
def staleEvaluation (reasonCodes : List String) (evaluation : ClosureEvaluation) :
    ClosureEvaluation :=
  { evaluation with
    freshness :=
      if evaluation.freshness = .current ∨ evaluation.freshness = .superseded then .staleUnreviewed
      else evaluation.freshness
    staleReasonCodes := reasonCodes.foldl appendUnique evaluation.staleReasonCodes }

def projectStale (reasonCodes : List String) (graph : AuthoritativeClosureGraph)
    (recordId : String) : AuthoritativeClosureGraph :=
  match graph.evaluations.get? recordId with
  | some evaluation => { graph with
      evaluations := graph.evaluations.insert recordId (staleEvaluation reasonCodes evaluation) }
  | none => { graph with
      staleProjectionOnlyRecordIds := appendUnique graph.staleProjectionOnlyRecordIds recordId }

/-- The signals call for a stale projection. -/
def projectsStale (signals : ClosureGraphSignals) : Bool :=
  (signals.lateStageStaleUnreviewed || signals.missingCurrentClosureStaleProvenance) &&
    signals.staleReasonCodes.any reasonCodeIndicatesStaleUnreviewed

def applyLateStageStaleProjection (signals : ClosureGraphSignals)
    (graph : AuthoritativeClosureGraph) : AuthoritativeClosureGraph :=
  if projectsStale signals then
    (lateStageCandidateClosureIds signals).foldl (projectStale signals.staleReasonCodes) graph
  else graph

/-! ### Surfaces -/

def noRepoFilesMarker : String := "__featureforge__/no-repo-files"

/-- The loop `while let Some(stripped) = path.strip_prefix("./")`. -/
def stripDotSlashes : List Char → List Char
  | '.' :: '/' :: path => stripDotSlashes path
  | path => path

def normalizedTaskSurfacePaths (paths : List String) : List String :=
  (OrderedMap.ofList (((paths.map fun path => String.ofList (stripDotSlashes
    ((trim path).toList.map fun c => if c = '\\' then '/' else c))).filter fun path =>
      path ≠ "" && path ≠ noRepoFilesMarker).map fun path => (path, ()))).entries.map Prod.fst

def pathCovers (canonicalPath candidatePath : String) : Bool :=
  canonicalPath = candidatePath || (canonicalPath.toList ++ ['/']).isPrefixOf candidatePath.toList

def taskClosureSurfaceIsSameOrBroader (current older : ClosureEvaluation) : Bool :=
  let currentSurface :=
    normalizedTaskSurfacePaths current.dependencyBinding.sourceArtifactFingerprints
  let olderSurface := normalizedTaskSurfacePaths older.dependencyBinding.sourceArtifactFingerprints
  if olderSurface = [] then true
  else if currentSurface = [] then false
  else olderSurface.all fun path => currentSurface.any fun candidate => pathCovers candidate path

def taskClosureHasSamePlanScope (older current : ClosureEvaluation) : Bool :=
  older.identity.planPath = current.identity.planPath &&
    older.identity.planFingerprint = current.identity.planFingerprint

/-! ### Current records -/

/-- The newest of the current closures of each task, the last one of those with one
sequence. -/
def newestTaskRecords (evaluations : List ClosureEvaluation) : OrderedMap Nat (Nat × String) :=
  evaluations.foldl (fun current evaluation =>
    match evaluation.identity.taskNumber with
    | none => current
    | some taskNumber =>
      let newest := (evaluation.identity.authoritativeSequence, evaluation.identity.recordId)
      match current.get? taskNumber.toNat with
      | none => current.insert taskNumber.toNat newest
      | some entry =>
        if entry.1 ≤ newest.1 then current.insert taskNumber.toNat newest else current) .empty

def values (graph : AuthoritativeClosureGraph) : List ClosureEvaluation :=
  graph.evaluations.entries.map Prod.snd

def taskRecordIds (graph : AuthoritativeClosureGraph) : OrderedMap Nat String :=
  (newestTaskRecords (graph.values.filter fun evaluation =>
    evaluation.identity.kind = .taskClosure && evaluation.freshness = .current)).mapVal
      fun _ entry => entry.2

def boundCurrentRecordId (graph : AuthoritativeClosureGraph) (boundRecordId : Option String)
    (kind : ClosureKind) : Option String :=
  (nonBlank boundRecordId).bind fun boundRecordId =>
    (graph.evaluations.get? boundRecordId).bind fun evaluation =>
      if evaluation.identity.kind ≠ kind ∨ evaluation.freshness ≠ .current then none
      else some boundRecordId

def boundCurrentMilestoneRecordId (graph : AuthoritativeClosureGraph)
    (boundRecordId : Option String) (kind : ClosureKind) (branchClosureId : Option String)
    (requiredDependencyId : Option String) : Option String :=
  (nonBlank boundRecordId).bind fun boundRecordId =>
    (nonBlank branchClosureId).bind fun branchClosureId =>
      (graph.evaluations.get? boundRecordId).bind fun evaluation =>
        if evaluation.identity.kind ≠ kind ∨ evaluation.freshness ≠ .current then none
        else if evaluation.dependencyBinding.dependsOnRecordIds.head? ≠ some branchClosureId then
          none
        else match requiredDependencyId with
          | none => some boundRecordId
          | some required =>
            if required ∈ evaluation.dependencyBinding.dependsOnRecordIds then some boundRecordId
            else none

/-- The edge from a task closure that is not current to the one that is. -/
def taskSupersessionEdge (graph : AuthoritativeClosureGraph)
    (taskRecordIds : OrderedMap Nat String) (evaluation : ClosureEvaluation) :
    Option (String × String) := do
  let taskNumber ← evaluation.identity.taskNumber
  let currentRecordId ← taskRecordIds.get? taskNumber.toNat
  if currentRecordId = evaluation.identity.recordId then none
  else if evaluation.freshness = .staleUnreviewed then do
    let currentEvaluation ← graph.evaluations.get? currentRecordId
    if currentEvaluation.identity.authoritativeSequence ≤
        evaluation.identity.authoritativeSequence then none
    else if !taskClosureHasSamePlanScope evaluation currentEvaluation then none
    else if !taskClosureSurfaceIsSameOrBroader currentEvaluation evaluation then none
    else some (evaluation.identity.recordId, currentRecordId)
  else some (evaluation.identity.recordId, currentRecordId)

def taskSupersessionEdges (graph : AuthoritativeClosureGraph)
    (taskRecordIds : OrderedMap Nat String) : List (String × String) :=
  (graph.values.filter fun evaluation => evaluation.identity.kind = .taskClosure &&
    (evaluation.freshness = .superseded || evaluation.freshness = .historical ||
      evaluation.freshness = .staleUnreviewed)).filterMap
    (graph.taskSupersessionEdge taskRecordIds)

/-- The edges after a refresh: those of tasks where there is none yet, and in place of any
other those of the current records. -/
def refreshedEdges (graph : AuthoritativeClosureGraph) (taskRecordIds : OrderedMap Nat String) :
    OrderedMap String String :=
  (graph.values.filter fun evaluation => evaluation.freshness = .current).foldl
    (fun supersededBy evaluation =>
      match evaluation.supersedes with
      | none => supersededBy
      | some supersededRecordId =>
        supersededBy.insert supersededRecordId evaluation.identity.recordId)
    ((graph.taskSupersessionEdges taskRecordIds).foldl (fun supersededBy edge =>
      if supersededBy.contains edge.1 then supersededBy else supersededBy.insert edge.1 edge.2)
      graph.supersededBy)

/-- `refresh_current_indexes`, on what the snapshot is bound to. -/
def refreshCurrentIndexes (snapshot : ClosureHistorySnapshot) (graph : AuthoritativeClosureGraph) :
    AuthoritativeClosureGraph :=
  let branch := graph.boundCurrentRecordId snapshot.currentBranchClosureId .branchClosure
  let releaseReadiness := graph.boundCurrentMilestoneRecordId
    snapshot.currentReleaseReadinessRecordId .releaseReadiness branch none
  let finalReview := releaseReadiness.bind fun releaseRecordId =>
    graph.boundCurrentMilestoneRecordId snapshot.currentFinalReviewRecordId .finalReview branch
      (some releaseRecordId)
  let browserQa := finalReview.bind fun finalReviewRecordId =>
    graph.boundCurrentMilestoneRecordId snapshot.currentQaRecordId .browserQa branch
      (some finalReviewRecordId)
  { graph with
    currentTaskRecordIds := graph.taskRecordIds
    currentBranchRecordId := branch
    currentReleaseReadinessRecordId := releaseReadiness
    currentFinalReviewRecordId := finalReview
    currentBrowserQaRecordId := browserQa
    supersededBy := graph.refreshedEdges graph.taskRecordIds }

/-- The graph before its indexes are refreshed. -/
def evaluated (snapshot : ClosureHistorySnapshot) (signals : ClosureGraphSignals) :
    AuthoritativeClosureGraph :=
  let graph := empty.ingest taskClosureEvaluation snapshot.taskClosureRecordHistory
  let graph := graph.ingestBranchClosureHistory snapshot.branchClosureRecords
    snapshot.supersededBranchClosureIds
  let graph := graph.ingest releaseReadinessEvaluation snapshot.releaseReadinessRecordHistory
  let graph := graph.ingest finalReviewEvaluation snapshot.finalReviewRecordHistory
  let graph := graph.ingest browserQaEvaluation snapshot.browserQaRecordHistory
  (graph.applySupersededTaskIds snapshot.supersededTaskClosureIds).applyLateStageStaleProjection
    signals

def fromSnapshot (snapshot : ClosureHistorySnapshot) (signals : ClosureGraphSignals) :
    AuthoritativeClosureGraph :=
  (evaluated snapshot signals).refreshCurrentIndexes snapshot

/-! ### Reading the graph -/

def currentTaskClosure (graph : AuthoritativeClosureGraph) (task : UInt32) :
    Option ClosureEvaluation :=
  (graph.currentTaskRecordIds.get? task.toNat).bind graph.evaluations.get?

def currentBranchClosure (graph : AuthoritativeClosureGraph) : Option ClosureEvaluation :=
  graph.currentBranchRecordId.bind graph.evaluations.get?

def staleUnreviewedEvaluations (graph : AuthoritativeClosureGraph) : List ClosureEvaluation :=
  (graph.evaluations.entries.filter fun entry =>
    entry.2.freshness = .staleUnreviewed && !graph.supersededBy.contains entry.1).map Prod.snd

end AuthoritativeClosureGraph

end FeatureForge
