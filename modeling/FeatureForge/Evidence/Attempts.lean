import FeatureForge.Diagnostics
import FeatureForge.Paths.RepoPath
import FeatureForge.Plans.TaskContract

/-!
# Execution evidence

`EvidenceAttempt`, one attempt at a step, with the text of its evidence: how
`render_evidence_projection_source` writes it, and how `parse_evidence_attempts` reads it
back line by line (`EvidenceReader`).  The loops of the parser over the bullets of a block
step back by a line at its end; the reader keeps the block it is in instead, and a line that
does not go on with the block is read as a line of the attempt.
-/

namespace FeatureForge

/-! ### Attempts -/

structure FileProof where
  path : List Char
  proof : List Char
  deriving DecidableEq

structure EvidenceAttempt where
  taskNumber : UInt32
  stepNumber : UInt32
  attemptNumber : UInt32
  status : List Char
  recordedAt : List Char
  executionSource : List Char
  claim : List Char
  files : List (List Char)
  fileProofs : List FileProof
  verifyCommand : Option (List Char)
  verificationSummary : List Char
  invalidationReason : List Char
  packetFingerprint : Option (List Char)
  headSha : Option (List Char)
  baseSha : Option (List Char)
  sourceContractPath : Option (List Char)
  sourceContractFingerprint : Option (List Char)
  sourceEvaluationReportFingerprint : Option (List Char)
  evaluatorVerdict : Option (List Char)
  failingCriterionIds : List (List Char)
  sourceHandoffFingerprint : Option (List Char)
  repoStateBaselineHeadSha : Option (List Char)
  repoStateBaselineWorktreeFingerprint : Option (List Char)
  deriving DecidableEq

def EvidenceAttempt.key (attempt : EvidenceAttempt) : StepKey :=
  (attempt.taskNumber, attempt.stepNumber)

/-! ### The text -/

def optionLine (label : String) (v : Option (List Char)) : List (List Char) :=
  v.toList.map fun v => label.toList ++ v

/-- A value in backticks. -/
def ticked (v : List Char) : List Char := '`' :: v ++ ['`']

def unknown : List Char := "unknown".toList

/-- The lines of one attempt. -/
def attemptLines (attempt : EvidenceAttempt) : List (List Char) :=
  ["#### Attempt ".toList ++ decimal attempt.attemptNumber,
    "**Status:** ".toList ++ attempt.status,
    "**Recorded At:** ".toList ++ attempt.recordedAt,
    "**Execution Source:** ".toList ++ attempt.executionSource,
    "**Task Number:** ".toList ++ decimal attempt.taskNumber,
    "**Step Number:** ".toList ++ decimal attempt.stepNumber,
    "**Packet Fingerprint:** ".toList ++ attempt.packetFingerprint.getD unknown,
    "**Head SHA:** ".toList ++ attempt.headSha.getD unknown] ++
  optionLine "**Base SHA:** " attempt.baseSha ++
  ["**Claim:** ".toList ++ attempt.claim] ++
  optionLine "**Source Contract Path:** " attempt.sourceContractPath ++
  optionLine "**Source Contract Fingerprint:** "
    (attempt.sourceContractFingerprint.map ticked) ++
  optionLine "**Source Evaluation Report Fingerprint:** "
    (attempt.sourceEvaluationReportFingerprint.map ticked) ++
  optionLine "**Evaluator Verdict:** " attempt.evaluatorVerdict ++
  (if attempt.failingCriterionIds.isEmpty then []
    else "**Failing Criterion IDs:**".toList ::
      attempt.failingCriterionIds.map fun id => "- ".toList ++ ticked id) ++
  optionLine "**Source Handoff Fingerprint:** "
    (attempt.sourceHandoffFingerprint.map ticked) ++
  optionLine "**Repo State Baseline Head SHA:** " attempt.repoStateBaselineHeadSha ++
  optionLine "**Repo State Baseline Worktree Fingerprint:** "
    attempt.repoStateBaselineWorktreeFingerprint ++
  "**Files Proven:**".toList ::
    attempt.fileProofs.map (fun proof => "- ".toList ++ (proof.path ++ (" | ".toList ++ proof.proof))) ++
  optionLine "**Verify Command:** " attempt.verifyCommand ++
  ["**Verification Summary:** ".toList ++ attempt.verificationSummary,
    "**Invalidation Reason:** ".toList ++ attempt.invalidationReason]

/-- The attempts at one step, with an empty line between two. -/
def attemptsLines : List EvidenceAttempt → List (List Char)
  | [] => []
  | [attempt] => attemptLines attempt
  | attempt :: attempts => attemptLines attempt ++ [] :: attemptsLines attempts

/-- The attempts at a step of a list. -/
def attemptsAt (attempts : List EvidenceAttempt) (step : StepKey) : List EvidenceAttempt :=
  attempts.filter fun attempt => attempt.key = step

/-- The section of a step, if it has attempts. -/
def stepLines (attempts : List EvidenceAttempt) (step : StepKey) : List (List Char) :=
  if (attemptsAt attempts step).isEmpty then []
  else [] :: ("### Task ".toList ++ (decimal step.1 ++ (" Step ".toList ++ decimal step.2))) ::
    attemptsLines (attemptsAt attempts step)

/-- What the header of the evidence names. -/
structure EvidenceProjectionInput where
  planRel : List Char
  planRevision : UInt32
  planFingerprint : List Char
  sourceSpecPath : List Char
  sourceSpecRevision : UInt32
  sourceSpecFingerprint : List Char

/-- `Path::file_stem`, or `plan` for a path without a name. -/
def topic (planRel : List Char) : List Char :=
  match ((planRel.splitOnP (· == '/')).filter fun part => part ≠ [] && part ≠ ['.']).getLast? with
  | none => "plan".toList
  | some name =>
    if name = ['.', '.'] then "plan".toList
    else
      let stem := (name.reverse.dropWhile (· ≠ '.')).tail.reverse
      if stem = [] then name else stem

def headerLines (input : EvidenceProjectionInput) : List (List Char) :=
  ["# Execution Evidence: ".toList ++ topic input.planRel,
    [],
    "**Plan Path:** ".toList ++ input.planRel,
    "**Plan Revision:** ".toList ++ decimal input.planRevision,
    "**Plan Fingerprint:** ".toList ++ input.planFingerprint,
    "**Source Spec Path:** ".toList ++ input.sourceSpecPath,
    "**Source Spec Revision:** ".toList ++ decimal input.sourceSpecRevision,
    "**Source Spec Fingerprint:** ".toList ++ input.sourceSpecFingerprint,
    [],
    "## Step Evidence".toList]

def evidenceLines (input : EvidenceProjectionInput) (steps : List StepKey)
    (attempts : List EvidenceAttempt) : List (List Char) :=
  headerLines input ++ steps.flatMap (stepLines attempts)

/-- `render_evidence_projection_source`. -/
def renderEvidenceProjectionSource (input : EvidenceProjectionInput) (steps : List StepKey)
    (attempts : List EvidenceAttempt) : List Char :=
  joinLines (evidenceLines input steps attempts) ++ ['\n']

/-! ### Scalars -/

/-- `parse_optional_evidence_scalar`. -/
def parseOptionalEvidenceScalar (value : List Char) : Option (List Char) :=
  let trimmed := trimChars (trimMatches '`' (trimChars (normalizeWhitespace value)))
  if trimmed = [] then none else some trimmed

/-- `parse_command_verification_summary`. -/
def parseCommandVerificationSummary (summary : List Char) : Option (List Char) := do
  let suffix ← stripPrefix ['`'] (normalizeWhitespace summary)
  let (command, _) ← splitOnce "` -> ".toList suffix
  let command := normalizeWhitespace command
  if command = [] then none else some command

/-- `normalize_persisted_file_path`; `none` for its errors. -/
def normalizePersistedFilePath (path : List Char) : Option (List Char) :=
  let trimmed := trimChars path
  if trimmed = [] then none else normalizeRepoRelativePath trimmed

/-! ### Reading -/

inductive EvidenceFormat where
  | empty
  | legacy
  | v2
  deriving DecidableEq

def malformedEvidence (message : String) : JsonFailure := ⟨.malformedExecutionState, message⟩

/-- The block of lines the reader is in, within an attempt. -/
inductive EvidenceBlock where
  | fields
  | failingCriterionIds
  | filesProven
  | files
  | verification
  deriving DecidableEq

structure EvidenceReader where
  attempts : List EvidenceAttempt
  /-- The number the next attempt at a step must have. -/
  nextAttempt : StepKey → UInt32
  currentTask : Option UInt32
  currentStep : Option UInt32
  /-- The attempt being read. -/
  draft : Option (EvidenceBlock × EvidenceAttempt)

def EvidenceAttempt.blank (taskNumber stepNumber attemptNumber : UInt32) : EvidenceAttempt where
  taskNumber := taskNumber
  stepNumber := stepNumber
  attemptNumber := attemptNumber
  status := []
  recordedAt := []
  executionSource := []
  claim := []
  files := []
  fileProofs := []
  verifyCommand := none
  verificationSummary := []
  invalidationReason := []
  packetFingerprint := none
  headSha := none
  baseSha := none
  sourceContractPath := none
  sourceContractFingerprint := none
  sourceEvaluationReportFingerprint := none
  evaluatorVerdict := none
  failingCriterionIds := []
  sourceHandoffFingerprint := none
  repoStateBaselineHeadSha := none
  repoStateBaselineWorktreeFingerprint := none

/-- `**Verify Command:**`: a command that is blank without its backticks is read with them. -/
def readVerifyCommand (value : List Char) : Option (List Char) :=
  (parseOptionalEvidenceScalar value).or
    (if normalizeWhitespace value = [] then none else some (normalizeWhitespace value))

/-- The labels of an attempt's lines, with what their values are read into.  No two of them
agree on the text they share, so their order does not matter. -/
def evidenceFields : List (String × (List Char → EvidenceAttempt → EvidenceAttempt)) :=
  [("**Status:** ", fun v a => { a with status := normalizeWhitespace v }),
   ("**Recorded At:** ", fun v a => { a with recordedAt := v }),
   ("**Execution Source:** ", fun v a => { a with executionSource := normalizeWhitespace v }),
   ("**Packet Fingerprint:** ", fun v a =>
     { a with packetFingerprint := some (normalizeWhitespace v) }),
   ("**Head SHA:** ", fun v a => { a with headSha := some (normalizeWhitespace v) }),
   ("**Base SHA:** ", fun v a => { a with baseSha := some (normalizeWhitespace v) }),
   ("**Claim:** ", fun v a => { a with claim := normalizeWhitespace v }),
   ("**Source Contract Path:** ", fun v a =>
     { a with sourceContractPath := parseOptionalEvidenceScalar v }),
   ("**Source Contract Fingerprint:** ", fun v a =>
     { a with sourceContractFingerprint := parseOptionalEvidenceScalar v }),
   ("**Source Evaluation Report Fingerprint:** ", fun v a =>
     { a with sourceEvaluationReportFingerprint := parseOptionalEvidenceScalar v }),
   ("**Evaluator Verdict:** ", fun v a =>
     { a with evaluatorVerdict := parseOptionalEvidenceScalar v }),
   ("**Source Handoff Fingerprint:** ", fun v a =>
     { a with sourceHandoffFingerprint := parseOptionalEvidenceScalar v }),
   ("**Repo State Baseline Head SHA:** ", fun v a =>
     { a with repoStateBaselineHeadSha := parseOptionalEvidenceScalar v }),
   ("**Repo State Baseline Worktree Fingerprint:** ", fun v a =>
     { a with repoStateBaselineWorktreeFingerprint := parseOptionalEvidenceScalar v }),
   ("**Verify Command:** ", fun v a => { a with verifyCommand := readVerifyCommand v }),
   ("**Verification Summary:** ", fun v a =>
     { a with verificationSummary := normalizeWhitespace v }),
   ("**Invalidation Reason:** ", fun v a =>
     { a with invalidationReason := normalizeWhitespace v })]

/-- The lines that begin a block. -/
def evidenceBlocks : List (String × EvidenceBlock) :=
  [("**Failing Criterion IDs:**", .failingCriterionIds), ("**Files Proven:**", .filesProven),
   ("**Files:**", .files), ("**Verification:**", .verification)]

/-- A line of an attempt that is in no block. -/
def readFieldLine (line : List Char) (draft : EvidenceAttempt) : EvidenceBlock × EvidenceAttempt :=
  match evidenceFields.findSome? fun field =>
      (stripPrefix field.1.toList line).map fun v => field.2 v draft with
  | some draft => (.fields, draft)
  | none =>
    (((evidenceBlocks.find? fun block => line = block.1.toList).map (·.2)).getD .fields, draft)

/-- A bullet of a proven file, without the dash. -/
def readFileProof (entry : List Char) : Except JsonFailure FileProof :=
  match splitOnce " | ".toList entry with
  | none => .error (malformedEvidence
      "Execution evidence Files Proven bullets must include a proof suffix.")
  | some (path, proof) =>
    match normalizePersistedFilePath path with
    | none => .error (malformedEvidence
        "Execution evidence Files Proven bullets must use canonical repo-relative paths.")
    | some path => .ok ⟨path, proof⟩

/-- A bullet of a file in the older format. -/
def readFile (entry : List Char) : Except JsonFailure FileProof :=
  match normalizePersistedFilePath entry with
  | none => .error (malformedEvidence
      "Execution evidence Files bullets must use canonical repo-relative paths.")
  | some path => .ok ⟨path, "sha256:unknown".toList⟩

def EvidenceAttempt.addProof (attempt : EvidenceAttempt) (proof : FileProof) : EvidenceAttempt :=
  { attempt with
    files := attempt.files ++ [proof.path]
    fileProofs := attempt.fileProofs ++ [proof] }

/-- The checks of an attempt that has been read. -/
def finishAttempt (draft : EvidenceAttempt) : Except JsonFailure EvidenceAttempt :=
  if draft.status ≠ "Completed".toList ∧ draft.status ≠ "Invalidated".toList then
    .error (malformedEvidence "Execution evidence status must be Completed or Invalidated.")
  else if trimChars draft.recordedAt = [] then
    .error (malformedEvidence "Execution evidence recorded-at timestamps may not be blank.")
  else if draft.executionSource = [] then
    .error (malformedEvidence "Execution evidence source may not be blank.")
  else if draft.executionSource ≠ "featureforge:executing-plans".toList ∧
      draft.executionSource ≠ "featureforge:subagent-driven-development".toList then
    .error (malformedEvidence
      "Execution evidence source must be one of the supported execution modes.")
  else if draft.claim = [] then
    .error (malformedEvidence
      "Execution evidence claims may not be blank after whitespace normalization.")
  else if draft.files = [] then
    .error (malformedEvidence
      "Execution evidence must include at least one repo-relative file entry.")
  else if draft.verificationSummary = [] then
    .error (malformedEvidence
      ("Execution evidence verification summaries may not be blank after whitespace " ++
        "normalization."))
  else if draft.invalidationReason = [] then
    .error (malformedEvidence
      "Execution evidence invalidation reasons may not be blank after whitespace normalization.")
  else if draft.status = "Invalidated".toList ∧ draft.invalidationReason = "N/A".toList then
    .error (malformedEvidence
      "Invalidated execution evidence must carry a real invalidation reason.")
  else .ok { draft with
    verifyCommand := draft.verifyCommand.or
      (parseCommandVerificationSummary draft.verificationSummary) }

namespace EvidenceReader

def start : EvidenceReader where
  attempts := []
  nextAttempt _ := 1
  currentTask := none
  currentStep := none
  draft := none

/-- The end of the attempt being read. -/
def finish (r : EvidenceReader) : Except JsonFailure EvidenceReader :=
  match r.draft with
  | none => .ok r
  | some (_, draft) => do
    let attempt ← finishAttempt draft
    .ok { r with attempts := r.attempts ++ [attempt], draft := none }

def isHeading (line : List Char) : Bool :=
  startsWith "#### Attempt ".toList line || startsWith "### Task ".toList line

/-- A line outside of an attempt. -/
def readHeading (line : List Char) (r : EvidenceReader) : Except JsonFailure EvidenceReader :=
  match stripPrefix "### Task ".toList line with
  | some rest =>
    match splitOnce " Step ".toList rest with
    | none => .error (malformedEvidence "Execution evidence step heading is malformed.")
    | some (task, step) =>
      .ok { r with currentTask := parseU32 task, currentStep := parseU32 step }
  | none =>
    match stripPrefix "#### Attempt ".toList line with
    | none => .ok r
    | some rest =>
      match r.currentTask, r.currentStep with
      | some taskNumber, some stepNumber =>
        match parseU32 rest with
        | none => .error (malformedEvidence "Execution evidence attempt number is malformed.")
        | some attemptNumber =>
          let expected := r.nextAttempt (taskNumber, stepNumber)
          if attemptNumber ≠ expected then
            .error (malformedEvidence ("Execution evidence attempts must start at 1 and " ++
              "increase sequentially per step."))
          else .ok { r with
            nextAttempt := Function.update r.nextAttempt (taskNumber, stepNumber) (expected + 1)
            draft := some (.fields, .blank taskNumber stepNumber attemptNumber) }
      | _, _ => .error (malformedEvidence
          "Execution evidence attempt is missing its step heading.")

/-- A line that does not go on with the block of an attempt. -/
def readAttemptLine (line : List Char) (draft : EvidenceAttempt) (r : EvidenceReader) :
    Except JsonFailure EvidenceReader :=
  if isHeading line then do
    let r ← r.finish
    r.readHeading line
  else .ok { r with draft := some (readFieldLine line draft) }

/-- A line under the failing criteria. -/
def readCriterionLine (line : List Char) (draft : EvidenceAttempt) (r : EvidenceReader) :
    Except JsonFailure EvidenceReader :=
  let criterionLine := trimChars line
  if criterionLine = [] ∨ criterionLine = "[]".toList then .ok r
  else match stripPrefix "- ".toList criterionLine with
    | none => r.readAttemptLine line draft
    | some value => .ok { r with draft := some (.failingCriterionIds, { draft with
        failingCriterionIds := draft.failingCriterionIds ++
          (parseOptionalEvidenceScalar value).toList }) }

/-- A line under the files of a block. -/
def readProofLine (block : EvidenceBlock) (read : List Char → Except JsonFailure FileProof)
    (line : List Char) (draft : EvidenceAttempt) (r : EvidenceReader) :
    Except JsonFailure EvidenceReader :=
  match stripPrefix "- ".toList line with
  | none => r.readAttemptLine line draft
  | some entry => do
    let proof ← read entry
    .ok { r with draft := some (block, draft.addProof proof) }

def readLine (r : EvidenceReader) (line : List Char) : Except JsonFailure EvidenceReader :=
  match r.draft with
  | none => r.readHeading line
  | some (.fields, draft) => r.readAttemptLine line draft
  | some (.failingCriterionIds, draft) => r.readCriterionLine line draft
  | some (.filesProven, draft) => r.readProofLine .filesProven readFileProof line draft
  | some (.files, draft) => r.readProofLine .files readFile line draft
  | some (.verification, draft) =>
    .ok { r with draft := some (.fields, match stripPrefix "- ".toList line with
      | some value => { draft with verificationSummary := normalizeWhitespace value }
      | none => draft) }

def readLines (r : EvidenceReader) (ls : List (List Char)) : Except JsonFailure EvidenceReader :=
  ls.foldlM readLine r

end EvidenceReader

/-- `parse_evidence_attempts`. -/
def parseEvidenceAttempts (source : List Char) (format : EvidenceFormat) :
    Except JsonFailure (List EvidenceAttempt) := do
  let r ← EvidenceReader.start.readLines (lines source)
  let r ← r.finish
  if format = .v2 ∧ r.attempts = [] ∧ containsText "### Task ".toList source then
    .error (malformedEvidence "Execution evidence v2 attempts could not be parsed.")
  else .ok r.attempts

end FeatureForge
