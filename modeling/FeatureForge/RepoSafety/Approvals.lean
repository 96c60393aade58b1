import FeatureForge.Diagnostics
import FeatureForge.Paths.BranchKey
import FeatureForge.Paths.RepoPath

/-!
# Approvals of writes to protected branches

`RepoSafetyRuntime`: `approve` files a record of the scope that a write may have, and
`check` lets a write through where the record of its stage and task is for its scope.  The
paths and the targets of a scope reach the record as one text, whose digest is compared.

A record lies under the slug of its repository, in the directory of the user and the
branch, in a file named by the digest of its stage and task.  `ApprovalStore` holds these
files; what is no readable record is no file of it.
-/

namespace FeatureForge

/-- `RepoSafetyWriteTargetArg`. -/
inductive WriteTargetArg where
  | specArtifactWrite
  | planArtifactWrite
  | approvalHeaderWrite
  | executionTaskSlice
  | releaseDocWrite
  | repoFileWrite
  | gitCommit
  | gitMerge
  | gitPush
  | gitWorktreeCleanup
  | branchFinish
  deriving DecidableEq

def WriteTargetArg.asStr : WriteTargetArg → List Char
  | .specArtifactWrite => "spec-artifact-write".toList
  | .planArtifactWrite => "plan-artifact-write".toList
  | .approvalHeaderWrite => "approval-header-write".toList
  | .executionTaskSlice => "execution-task-slice".toList
  | .releaseDocWrite => "release-doc-write".toList
  | .repoFileWrite => "repo-file-write".toList
  | .gitCommit => "git-commit".toList
  | .gitMerge => "git-merge".toList
  | .gitPush => "git-push".toList
  | .gitWorktreeCleanup => "git-worktree-cleanup".toList
  | .branchFinish => "branch-finish".toList

def writeTargetAllowlist : List (List Char) :=
  ["spec-artifact-write".toList, "plan-artifact-write".toList, "approval-header-write".toList,
    "execution-task-slice".toList, "release-doc-write".toList, "repo-file-write".toList,
    "git-commit".toList, "git-merge".toList, "git-push".toList, "git-worktree-cleanup".toList,
    "branch-finish".toList]

inductive RepoSafetyIntent where
  | read
  | write
  deriving DecidableEq

def RepoSafetyIntent.asStr : RepoSafetyIntent → String
  | .read => "read"
  | .write => "write"

structure RepoSafetyCheckArgs where
  intent : RepoSafetyIntent
  stage : List Char
  taskId : Option (List Char)
  paths : List (List Char)
  writeTargets : List WriteTargetArg

structure RepoSafetyApproveArgs where
  stage : List Char
  taskId : Option (List Char)
  reason : List Char
  paths : List (List Char)
  writeTargets : List WriteTargetArg

structure ApprovalRecord where
  repoRoot : List Char
  branch : List Char
  stage : List Char
  taskId : List Char
  paths : List (List Char)
  writeTargets : List (List Char)
  approvalFingerprint : String
  approvalReason : List Char
  protectedBy : String
  approvedAt : String

/-- Where a record lies: the directory of the user and the branch, and the file. -/
structure ApprovalFile where
  userBranch : List Char
  fileName : List Char
  deriving DecidableEq

structure Scope where
  stage : List Char
  taskId : List Char
  paths : List (List Char)
  writeTargets : List (List Char)
  approvalFingerprint : String
  canonicalApprovalPath : ApprovalFile

structure RepoSafetyResult where
  outcome : String
  intent : String
  branch : List Char
  isProtected : Bool
  protectedBy : String
  taskId : List Char
  approvalFingerprint : String
  approvalPath : ApprovalFile
  failureClass : String
  reason : String
  suggestedNextSkill : String

/-- The runtime of a discovered repository, whose root is a canonical path. -/
structure RepoSafetyRuntime where
  repoRoot : List Char
  branchName : List Char
  repoSlug : String
  safeBranch : List Char
  userName : List Char
  isProtected : Bool
  protectedBy : String
  /-- `canonicalize_repo_root_string` -/
  canonicalize : List Char → List Char
  root_ne_nil : repoRoot ≠ []
  root_canonical : canonicalize repoRoot = repoRoot

/-- The records by the slugs of their repositories. -/
abbrev ApprovalStore : Type := OrderedMap String (ApprovalFile → Option ApprovalRecord)

/-! ### Scopes -/

def invalidInput (message : String) : JsonFailure := ⟨.invalidCommandInput, message⟩

/-- A `BTreeSet` of texts, in its order. -/
def btreeSet (xs : List (List Char)) : List (List Char) :=
  ((OrderedMap.ofList (xs.map fun x => (String.ofList x, ()))).entries.map Prod.fst).map
    String.toList

def normalizePaths (rawPaths : List (List Char)) : Except JsonFailure (List (List Char)) := do
  let paths ← rawPaths.mapM fun path =>
    match normalizeRepoRelativePath path with
    | some path => .ok path
    | none => .error (invalidInput
        "Paths must be normalized repo-relative paths inside the repo root.")
  .ok (btreeSet paths)

local instance lawfulBEqOfTargets : LawfulBEq (List Char) := inferInstance

def normalizeWriteTargets (rawWriteTargets : List (List Char)) :
    Except JsonFailure (List (List Char)) := do
  let targets ← rawWriteTargets.mapM fun target =>
    if target ∈ writeTargetAllowlist then .ok target
    else .error ⟨.invalidWriteTarget, "Unsupported write target: " ++ String.ofList target⟩
  .ok (btreeSet targets)

/-- The text whose digest makes the task id of a scope. -/
def scopeText (stage : List Char) (paths writeTargets : List (List Char)) : List Char :=
  stage ++ (paths.flatMap fun path => '\n' :: path) ++ "\n--targets--\n".toList ++
    writeTargets.flatMap fun target => target ++ ['\n']

def shortHash (sha : Sha256Hex) (text : List Char) : List Char := (sha text).toList.take 16

def deriveTaskId (sha : Sha256Hex) (stage : List Char) (rawTaskId : Option (List Char))
    (paths writeTargets : List (List Char)) : Except JsonFailure (List Char) :=
  match rawTaskId with
  | some rawTaskId =>
    if normalizeIdentifierToken rawTaskId = [] then
      .error (invalidInput "Task id may not be blank after normalization.")
    else .ok (normalizeIdentifierToken rawTaskId)
  | none =>
    if normalizeIdentifierToken stage = [] then
      .error (invalidInput "Stage may not be blank after normalization.")
    else .ok (normalizeIdentifierToken stage ++
      '-' :: shortHash sha (scopeText stage paths writeTargets))

/-- The text whose digest is the fingerprint of an approval. -/
def fingerprintText (repoRoot branchName stage taskId : List Char)
    (paths writeTargets : List (List Char)) : List Char :=
  repoRoot ++ '\n' :: (branchName ++ '\n' :: (stage ++ '\n' :: (taskId ++ '\n' ::
    ("--paths--\n".toList ++ (joinLines paths ++
      ("\n--targets--\n".toList ++ joinLines writeTargets))))))

/-- `compute_fingerprint_for_repo_root`. -/
def computeFingerprintForRepoRoot (sha : Sha256Hex) (repoRoot branchName stage taskId : List Char)
    (paths writeTargets : List (List Char)) : String :=
  sha (fingerprintText repoRoot branchName stage taskId paths writeTargets)

/-- The text whose digest names the file of a record. -/
def taskText (stage taskId : List Char) : List Char := stage ++ '\n' :: taskId

namespace RepoSafetyRuntime

variable (sha : Sha256Hex) (runtime : RepoSafetyRuntime)

def prepareScope (stage : List Char) (rawTaskId : Option (List Char))
    (rawPaths rawWriteTargets : List (List Char)) : Except JsonFailure Scope :=
  if stage = [] then .error (invalidInput "Repo safety requires --stage.")
  else do
    let paths ← normalizePaths rawPaths
    let writeTargets ← normalizeWriteTargets rawWriteTargets
    let taskId ← deriveTaskId sha stage rawTaskId paths writeTargets
    .ok { stage := stage, taskId := taskId, paths := paths, writeTargets := writeTargets,
          approvalFingerprint := computeFingerprintForRepoRoot sha runtime.repoRoot
            runtime.branchName stage taskId paths writeTargets,
          canonicalApprovalPath :=
            ⟨runtime.userName ++ '-' :: runtime.safeBranch,
              shortHash sha (taskText stage taskId) ++ ".json".toList⟩ }

/-- `stored_repo_root_matches_current`; a path that is canonical is absolute. -/
def storedRepoRootMatchesCurrent (storedRepoRoot : List Char) : Bool :=
  if storedRepoRoot = [] then false
  else if storedRepoRoot = runtime.canonicalize runtime.repoRoot then true
  else startsWith ['/'] storedRepoRoot &&
    decide (runtime.canonicalize storedRepoRoot = runtime.canonicalize runtime.repoRoot)

def recordMatchesScope (record : ApprovalRecord) (scope : Scope) : Bool :=
  runtime.storedRepoRootMatchesCurrent record.repoRoot &&
    decide (record.branch = runtime.branchName) && decide (record.stage = scope.stage) &&
    decide (record.taskId = scope.taskId)

def recordFingerprintMatchesScope (record : ApprovalRecord) (scope : Scope) : Bool :=
  decide (record.approvalFingerprint = scope.approvalFingerprint) ||
    decide (record.approvalFingerprint = computeFingerprintForRepoRoot sha record.repoRoot
      runtime.branchName scope.stage scope.taskId scope.paths scope.writeTargets)

/-! ### Records -/

def approvalAt (store : ApprovalStore) (slug : String) (file : ApprovalFile) :
    Option ApprovalRecord :=
  (store.get? slug).bind fun files => files file

/-- `read_legacy_approval`: the first record of another slug that is for the scope. -/
def readLegacyApproval (store : ApprovalStore) (scope : Scope) : Option ApprovalRecord :=
  (store.entries.filter fun slugDir => slugDir.1 ≠ runtime.repoSlug).findSome? fun slugDir =>
    (slugDir.2 scope.canonicalApprovalPath).filter fun record =>
      runtime.recordMatchesScope record scope &&
        runtime.recordFingerprintMatchesScope sha record scope

def readApproval (store : ApprovalStore) (scope : Scope) : Option ApprovalRecord :=
  (approvalAt store runtime.repoSlug scope.canonicalApprovalPath).or
    (runtime.readLegacyApproval sha store scope)

def writeApprovalRecord (store : ApprovalStore) (file : ApprovalFile) (record : ApprovalRecord) :
    ApprovalStore :=
  store.insert runtime.repoSlug
    (Function.update ((store.get? runtime.repoSlug).getD fun _ => none) file (some record))

def result (outcome : String) (intent : RepoSafetyIntent) (scope : Scope)
    (failureClass reason suggestedNextSkill : String) : RepoSafetyResult where
  outcome := outcome
  intent := intent.asStr
  branch := runtime.branchName
  isProtected := runtime.isProtected
  protectedBy := runtime.protectedBy
  taskId := scope.taskId
  approvalFingerprint := scope.approvalFingerprint
  approvalPath := scope.canonicalApprovalPath
  failureClass := failureClass
  reason := reason
  suggestedNextSkill := suggestedNextSkill

/-- What `check` says of a write to a protected branch. -/
def checkApproval (intent : RepoSafetyIntent) (store : ApprovalStore) (scope : Scope) :
    RepoSafetyResult :=
  match runtime.readApproval sha store scope with
  | none => runtime.result "blocked" intent scope "ProtectedBranchDetected"
      "protected_branch_requires_approval" "featureforge:using-git-worktrees"
  | some record =>
    if !runtime.recordMatchesScope record scope then
      runtime.result "blocked" intent scope "ApprovalScopeMismatch" "approval_scope_mismatch"
        "featureforge:using-git-worktrees"
    else if !runtime.recordFingerprintMatchesScope sha record scope then
      runtime.result "blocked" intent scope "ApprovalFingerprintMismatch"
        "approval_fingerprint_mismatch" "featureforge:using-git-worktrees"
    else runtime.result "allowed" intent scope "" "approval_matched" ""

def check (store : ApprovalStore) (args : RepoSafetyCheckArgs) :
    Except JsonFailure RepoSafetyResult := do
  let scope ← runtime.prepareScope sha args.stage args.taskId args.paths
    (args.writeTargets.map WriteTargetArg.asStr)
  if args.intent = .read then .ok (runtime.result "allowed" args.intent scope "" "read_allowed" "")
  else if !runtime.isProtected then
    .ok (runtime.result "allowed" args.intent scope "" "branch_not_protected" "")
  else .ok (runtime.checkApproval sha args.intent store scope)

def maxReasonLength : Nat := 240

def normalizeReason (rawReason : List Char) : Except JsonFailure (List Char) :=
  let normalized := normalizeWhitespace rawReason
  if normalized = [] ∨ maxReasonLength < (String.ofList normalized).utf8ByteSize then
    .error (invalidInput ("Approval reasons may not be blank after whitespace normalization " ++
      "and must stay within the length limit."))
  else .ok normalized

def approvalRecord (scope : Scope) (approvalReason : List Char) : ApprovalRecord where
  repoRoot := runtime.repoRoot
  branch := runtime.branchName
  stage := scope.stage
  taskId := scope.taskId
  paths := scope.paths
  writeTargets := scope.writeTargets
  approvalFingerprint := scope.approvalFingerprint
  approvalReason := approvalReason
  protectedBy := runtime.protectedBy
  approvedAt := "1970-01-01T00:00:00Z"

def approve (store : ApprovalStore) (args : RepoSafetyApproveArgs) :
    Except JsonFailure (RepoSafetyResult × ApprovalStore) := do
  let scope ← runtime.prepareScope sha args.stage args.taskId args.paths
    (args.writeTargets.map WriteTargetArg.asStr)
  let approvalReason ← normalizeReason args.reason
  .ok (runtime.result "allowed" .write scope "" "approval_recorded" "",
    runtime.writeApprovalRecord store scope.canonicalApprovalPath
      (runtime.approvalRecord scope approvalReason))

/-! ### Runs -/

/-- A call of the runtime. -/
inductive Call where
  | check (args : RepoSafetyCheckArgs)
  | approve (args : RepoSafetyApproveArgs)

/-- The records after a call; one that fails leaves them alone. -/
def call (store : ApprovalStore) : Call → ApprovalStore
  | .check _ => store
  | .approve args =>
    match runtime.approve sha store args with
    | .ok (_, store) => store
    | .error _ => store

/-- The records after some calls, from none. -/
def run (calls : List Call) : ApprovalStore := calls.foldl (runtime.call sha) .empty

end RepoSafetyRuntime

end FeatureForge
