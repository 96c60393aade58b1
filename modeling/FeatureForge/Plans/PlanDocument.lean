import FeatureForge.Lib.OrderedMap
import FeatureForge.Diagnostics
import FeatureForge.Paths.RepoPath
import FeatureForge.Plans.TaskContract

/-!
# Plan documents

`parse_plan_source`: the headers of a plan, its requirement coverage matrix, and its tasks
with their coverage, contract fields, files and steps.
-/

namespace FeatureForge

structure PlanStep where
  number : UInt32
  text : List Char
  deriving DecidableEq

structure TaskFileEntry where
  action : List Char
  path : List Char
  deriving DecidableEq

structure PlanTask where
  number : UInt32
  title : List Char
  specCoverage : List (List Char)
  goal : List Char
  context : List (List Char)
  constraints : List (List Char)
  doneWhen : List (List Char)
  files : List TaskFileEntry
  steps : List PlanStep
  deriving DecidableEq

structure PlanDocument where
  path : List Char
  workflowState : List Char
  planRevision : UInt32
  executionMode : List Char
  sourceSpecPath : List Char
  sourceSpecRevision : UInt32
  lastReviewedBy : List Char
  qaRequirement : Option (List Char)
  coverageMatrix : OrderedMap String (List UInt32)
  tasks : List PlanTask
  source : List Char

/-- `DiagnosticError`, of the class `InstructionParseFailed`. -/
structure DiagnosticError where
  message : String
  deriving DecidableEq

def missingHeader (header : String) : DiagnosticError :=
  ⟨"Missing or malformed " ++ header ++ "."⟩

def malformedHeader (header : String) : DiagnosticError :=
  ⟨header ++ " header is missing or malformed."⟩

/-! ### Headers -/

def parseRequiredHeader (source : List Char) (header : String) :
    Except DiagnosticError (List Char) :=
  match scalarField (lines source) header with
  | none => .error (missingHeader header)
  | some value => .ok value

def parseRevisionHeader (source : List Char) (header : String) : Except DiagnosticError UInt32 := do
  let value ← parseRequiredHeader source header
  match parseU32 value with
  | none => .error (missingHeader header)
  | some revision => .ok revision

def planWorkflowStateDraft : List Char := "Draft".toList

def planWorkflowStateEngineeringApproved : List Char := "Engineering Approved".toList

def validatePlanWorkflowState (workflowState : List Char) : Except DiagnosticError Unit :=
  if workflowState = planWorkflowStateDraft ∨
      workflowState = planWorkflowStateEngineeringApproved then .ok ()
  else .error (malformedHeader "Workflow State")

def supportedExecutionModes : List (List Char) :=
  ["none".toList, "featureforge:executing-plans".toList,
    "featureforge:subagent-driven-development".toList]

def validatePlanExecutionMode (executionMode : List Char) : Except DiagnosticError Unit :=
  if executionMode ∈ supportedExecutionModes then .ok ()
  else .error (malformedHeader "Execution Mode")

def planLastReviewerIsValidForState (workflowState lastReviewedBy : List Char) : Bool :=
  (workflowState = planWorkflowStateDraft && (lastReviewedBy = "writing-plans".toList ||
      lastReviewedBy = "plan-eng-review".toList)) ||
    (workflowState = planWorkflowStateEngineeringApproved &&
      lastReviewedBy = "plan-eng-review".toList)

def validatePlanLastReviewerForState (workflowState lastReviewedBy : List Char) :
    Except DiagnosticError Unit :=
  if planLastReviewerIsValidForState workflowState lastReviewedBy then .ok ()
  else .error (malformedHeader "Last Reviewed By")

def normalizePlanQaRequirement (value : List Char) : Option (List Char) :=
  ["required".toList, "not-required".toList].find? fun allowed =>
    asciiLowercase (trimChars value) = allowed

def parseSourceSpecPath (source : List Char) : Except DiagnosticError (List Char) := do
  let value ← parseRequiredHeader source "Source Spec"
  match normalizeRepoRelativePath (trimMatches '`' value) with
  | none => .error (missingHeader "Source Spec")
  | some path => .ok path

/-! ### Coverage matrix -/

def matrixHeading : List Char := "## Requirement Coverage Matrix".toList

def parseCoverageTasks (taskList : List Char) : Except DiagnosticError (List UInt32) :=
  (splitText ", Task ".toList (trimStartMatches "Task ".toList taskList)).mapM fun task =>
    match parseU32 task with
    | none => .error ⟨"Malformed coverage task number: " ++ String.ofList task⟩
    | some number => .ok number

/-- A line of the matrix: nothing, or a requirement with its tasks. -/
def parseCoverageLine (line : List Char) : Except DiagnosticError (Option (String × List UInt32)) :=
  match stripPrefix "- ".toList (trimChars line) with
  | none => .ok none
  | some rest =>
    match splitOnce " -> ".toList rest with
    | none => .error ⟨"Malformed coverage matrix entry: " ++ String.ofList (trimChars line)⟩
    | some (requirementId, taskList) =>
      (parseCoverageTasks taskList).map fun tasks => some (String.ofList requirementId, tasks)

/-- The loop of `parse_coverage_matrix`; the flag tells whether the matrix has begun. -/
def readCoverageMatrix : Bool → List (List Char) → OrderedMap String (List UInt32) →
    Except DiagnosticError (OrderedMap String (List UInt32))
  | _, [], coverage => .ok coverage
  | inMatrix, line :: rest, coverage =>
    if line = matrixHeading then readCoverageMatrix true rest coverage
    else if inMatrix then
      if startsWith "## ".toList line then .ok coverage
      else do
        match ← parseCoverageLine line with
        | none => readCoverageMatrix true rest coverage
        | some (requirementId, tasks) =>
          readCoverageMatrix true rest (coverage.insert requirementId tasks)
    else readCoverageMatrix false rest coverage

def parseCoverageMatrix (source : List Char) :
    Except DiagnosticError (OrderedMap String (List UInt32)) :=
  readCoverageMatrix false (lines source) .empty

/-! ### Tasks -/

def parseCsvField (ls : List (List Char)) (field : String) :
    Except DiagnosticError (List (List Char)) :=
  match scalarField ls field with
  | none => .error (missingHeader field)
  | some value => .ok ((splitText ", ".toList value).filter fun value => value ≠ [])

/-- `strip_file_reference_suffix`: line numbers behind colons and dashes are cut off. -/
def stripFileReferenceSuffix (input : List Char) : List Char :=
  go input.length input
where
  go : Nat → List Char → List Char
    | 0, value => value
    | fuel + 1, value =>
      let stem := (value.reverse.dropWhile Char.isDigit).reverse
      if stem.length = value.length then value
      else match stem.getLast? with
        | none => value
        | some separator =>
          if separator ≠ ':' ∧ separator ≠ '-' then value else go fuel stem.dropLast

def normalizeRepoRelativeFileReference (input : List Char) : Option (List Char) :=
  normalizeRepoRelativePath (stripFileReferenceSuffix input)

def isPlanStepPrefix (line : List Char) : Bool :=
  match stripPrefix "- [".toList line with
  | none => false
  | some [] => false
  | some (mark :: rest) => (mark = 'x' || mark = ' ') && startsWith "] **Step ".toList rest

def malformedFilesEntry (trimmed : List Char) : DiagnosticError :=
  ⟨"Malformed files block entry: " ++ String.ofList trimmed⟩

/-- A line of a Files block that is not blank. -/
def parseFileEntry (trimmed : List Char) : Except DiagnosticError TaskFileEntry :=
  match stripPrefix "- ".toList trimmed with
  | none => .error (malformedFilesEntry trimmed)
  | some rest =>
    match splitOnce ": ".toList rest with
    | none => .error (malformedFilesEntry trimmed)
    | some (action, path) =>
      if action ∉ ["Create".toList, "Modify".toList, "Delete".toList, "Test".toList] then
        .error (malformedFilesEntry trimmed)
      else if path.head? ≠ some '`' ∨ path.getLast? ≠ some '`' then
        .error (malformedFilesEntry trimmed)
      else match normalizeRepoRelativeFileReference (trimMatches '`' path) with
        | none => .error (malformedFilesEntry trimmed)
        | some path => .ok ⟨action, path⟩

/-- The loop of `parse_file_entries`; the flag tells whether the block has begun. -/
def readFileEntries : Bool → List (List Char) → Except DiagnosticError (List TaskFileEntry)
  | _, [] => .ok []
  | collecting, line :: rest =>
    if line = blockMarker "Files" then readFileEntries true rest
    else if collecting then
      if isPlanStepPrefix (trimChars line) then .ok []
      else if trimChars line = [] then readFileEntries true rest
      else do
        let entry ← parseFileEntry (trimChars line)
        (readFileEntries true rest).map (entry :: ·)
    else readFileEntries false rest

def parseFileEntries (ls : List (List Char)) : Except DiagnosticError (List TaskFileEntry) := do
  let files ← readFileEntries false ls
  if files = [] then .error ⟨"Task is missing a parseable Files block."⟩ else .ok files

def contractError (error : TaskContractParseError) : DiagnosticError := ⟨error.message⟩

def parsePlanStepLine (line : List Char) : Except DiagnosticError (Option PlanStep) :=
  match parseTaskStepLine line with
  | .error error => .error (contractError error)
  | .ok step => .ok (step.map fun step => ⟨step.number, step.text⟩)

def parseSteps (ls : List (List Char)) : Except DiagnosticError (List PlanStep) := do
  let steps ← ls.mapM fun line => parsePlanStepLine (trimChars line)
  .ok (steps.filterMap id)

def parseTaskChunk (chunk : List Char) : Except DiagnosticError PlanTask :=
  match lines chunk with
  | [] => .error (missingHeader "Task heading")
  | heading :: block =>
    match stripPrefix "## Task ".toList heading with
    | none => .error (missingHeader "Task heading")
    | some heading =>
      match splitOnce ": ".toList heading with
      | none => .error (missingHeader "Task heading")
      | some (number, title) => do
        let specCoverage ← parseCsvField block "Spec Coverage"
        match parseU32 number with
        | none => .error (missingHeader "Task number")
        | some taskNumber => do
          let fields ← (parseTaskContractFields taskNumber block).mapError contractError
          let files ← parseFileEntries block
          let steps ← parseSteps block
          .ok { number := taskNumber, title := title, specCoverage := specCoverage,
                goal := fields.goal, context := fields.context,
                constraints := fields.constraints, doneWhen := fields.doneWhen,
                files := files, steps := steps }

def parseTasks (source : List Char) : Except DiagnosticError (List PlanTask) := do
  let blocks ← (splitCanonicalTaskBlocks source).mapError contractError
  blocks.mapM fun block => parseTaskChunk block.source

def parsePlanSource (path source : List Char) : Except DiagnosticError PlanDocument := do
  let workflowState ← parseRequiredHeader source "Workflow State"
  validatePlanWorkflowState workflowState
  let planRevision ← parseRevisionHeader source "Plan Revision"
  let executionMode ← parseRequiredHeader source "Execution Mode"
  validatePlanExecutionMode executionMode
  let sourceSpecPath ← parseSourceSpecPath source
  let sourceSpecRevision ← parseRevisionHeader source "Source Spec Revision"
  let lastReviewedBy ← parseRequiredHeader source "Last Reviewed By"
  validatePlanLastReviewerForState workflowState lastReviewedBy
  let coverageMatrix ← parseCoverageMatrix source
  let tasks ← parseTasks source
  .ok { path := path, workflowState := workflowState, planRevision := planRevision,
        executionMode := executionMode, sourceSpecPath := sourceSpecPath,
        sourceSpecRevision := sourceSpecRevision, lastReviewedBy := lastReviewedBy,
        qaRequirement := (scalarField (lines source) "QA Requirement").bind
          normalizePlanQaRequirement,
        coverageMatrix := coverageMatrix, tasks := tasks, source := source }

end FeatureForge
