import Mathlib.Algebra.GroupWithZero.Nat
import FeatureForge.Paths.BranchKey
import FeatureForge.Lib.Words

/-!
# The contract of a task

The readers of the lines of a task: its heading, its fields, its steps, the notes that the
runtime puts under a step, and the check of the whole body
(`validate_task_body_structure`).  The loops are folds over the lines; what a loop keeps
between two lines is a structure (`TaskSplitter`, `KnownStepScan`, `TaskBodyScan`).
-/

namespace FeatureForge

/-- A task and a step of it. -/
abbrev StepKey : Type := UInt32 × UInt32

structure TaskContractFields where
  goal : List Char
  context : List (List Char)
  constraints : List (List Char)
  doneWhen : List (List Char)
  deriving DecidableEq

structure TaskContractParseError where
  errorClass : String
  message : String
  deriving DecidableEq

structure CanonicalTaskBlock where
  number : UInt32
  source : List Char

structure TaskStepLine where
  number : UInt32
  text : List Char
  deriving DecidableEq

def fence : List Char := "```".toList

/-! ### Step lines -/

def malformedStepEntry (trimmed : List Char) : TaskContractParseError :=
  ⟨"MalformedTaskStructure", "Malformed step entry: " ++ String.ofList trimmed⟩

/-- `parse_task_step_projection_line`: the mark and the step of a line that has one. -/
def parseTaskStepProjectionLine (line : List Char) :
    Except TaskContractParseError (Option (Bool × TaskStepLine)) :=
  match stripPrefix "- [".toList (trimStart line) with
  | none => .ok none
  | some [] => .ok none
  | some (mark :: rest) =>
    if mark ≠ 'x' ∧ mark ≠ ' ' then .ok none
    else match stripPrefix "] **Step ".toList rest with
      | none => .ok none
      | some rest =>
        match splitOnce ": ".toList rest with
        | none => .error (malformedStepEntry (trimStart line))
        | some (number, text) =>
          match parseU32 number with
          | none => .error (malformedStepEntry (trimStart line))
          | some number =>
            .ok (some (mark = 'x', ⟨number, trimEndMatches "**".toList (trimEnd text)⟩))

def parseTaskStepLine (line : List Char) : Except TaskContractParseError (Option TaskStepLine) :=
  (parseTaskStepProjectionLine line).map (Option.map Prod.snd)

/-- `parse_step_line` of the execution context: a malformed entry is no step. -/
def parseStepLine (line : List Char) : Option (Bool × TaskStepLine) :=
  match parseTaskStepProjectionLine line with
  | .ok step => step
  | .error _ => none

/-! ### Runtime notes -/

/-- The bytes of white space before a line. -/
def indent (line : List Char) : Nat :=
  ((line.takeWhile isWhitespace).map Char.utf8Size).sum

def isRuntimeExecutionNoteProjectionStart (line : List Char) : Bool :=
  startsWith "**Execution Note:** Active - ".toList (trimStart line) ||
    startsWith "**Execution Note:** Blocked - ".toList (trimStart line) ||
    startsWith "**Execution Note:** Interrupted - ".toList (trimStart line)

def isRuntimeExecutionNoteProjectionBoundary (line : List Char) : Bool :=
  startsWith "## ".toList (trimStart line) ||
    startsWith "**Spec Coverage:**".toList (trimStart line) ||
    startsWith "**Goal:**".toList (trimStart line) ||
    startsWith "**Context:**".toList (trimStart line) ||
    startsWith "**Constraints:**".toList (trimStart line) ||
    startsWith "**Done when:**".toList (trimStart line) ||
    startsWith "**Files:**".toList (trimStart line) ||
    (parseStepLine line).isSome

/-- `RuntimeExecutionNoteProjectionBlock`: how far the note is indented. -/
structure RuntimeExecutionNoteProjectionBlock where
  noteIndent : Nat
  deriving DecidableEq

namespace RuntimeExecutionNoteProjectionBlock

def start (line : List Char) : Option RuntimeExecutionNoteProjectionBlock :=
  if isRuntimeExecutionNoteProjectionStart line then some ⟨indent line⟩ else none

def continues (block : RuntimeExecutionNoteProjectionBlock) (line : List Char) : Bool :=
  if trimChars line = [] || isRuntimeExecutionNoteProjectionStart line then true
  else if isRuntimeExecutionNoteProjectionBoundary line then false
  else block.noteIndent < indent line

end RuntimeExecutionNoteProjectionBlock

/-! ### Task blocks -/

def malformedTaskHeading : TaskContractParseError :=
  ⟨"MalformedTaskStructure", "Task headings must use canonical '## Task N:' form."⟩

def parseCanonicalTaskHeadingNumber (line : List Char) : Except TaskContractParseError UInt32 :=
  match stripPrefix "## Task ".toList line with
  | none => .error malformedTaskHeading
  | some heading =>
    match splitOnce ": ".toList heading with
    | none => .error malformedTaskHeading
    | some (number, _) =>
      match parseU32 number with
      | none => .error malformedTaskHeading
      | some number => .ok number

/-- What `split_canonical_task_blocks` keeps: the tasks before, and the lines of the one it
is in. -/
structure TaskSplitter where
  tasks : List CanonicalTaskBlock
  seenNumbers : List UInt32
  block : Option (UInt32 × List (List Char))

namespace TaskSplitter

def start : TaskSplitter := ⟨[], [], none⟩

/-- The end of the task that is being read. -/
def close (s : TaskSplitter) : TaskSplitter :=
  match s.block with
  | none => s
  | some (number, block) =>
    { s with tasks := s.tasks ++ [⟨number, joinLines block⟩], block := none }

/-- A line outside of a task. -/
def readOutside (s : TaskSplitter) (line : List Char) :
    Except TaskContractParseError TaskSplitter :=
  if startsWith "## Task ".toList line then do
    let number ← parseCanonicalTaskHeadingNumber line
    if s.seenNumbers.contains number then
      .error ⟨"MalformedTaskStructure", "Task numbers must be unique within the plan."⟩
    else .ok { s with seenNumbers := number :: s.seenNumbers, block := some (number, [line]) }
  else .ok s

def readLine (s : TaskSplitter) (line : List Char) : Except TaskContractParseError TaskSplitter :=
  if startsWith "### Task ".toList line then .error malformedTaskHeading
  else match s.block with
    | none => s.readOutside line
    | some (number, block) =>
      if startsWith "## ".toList line then s.close.readOutside line
      else .ok { s with block := some (number, block ++ [line]) }

end TaskSplitter

def splitCanonicalTaskBlocks (source : List Char) :
    Except TaskContractParseError (List CanonicalTaskBlock) := do
  let s ← (lines source).foldlM TaskSplitter.readLine .start
  .ok s.close.tasks

/-! ### Fields -/

def isLegacyTaskField (line : List Char) : Bool :=
  startsWith "**Task Outcome:**".toList (trimStart line) ||
    startsWith "**Plan Constraints:**".toList (trimStart line) ||
    startsWith "**Open Questions:**".toList (trimStart line)

def taskFieldOrder : List String :=
  ["Spec Coverage", "Goal", "Context", "Constraints", "Done when", "Files"]

/-- `**Goal:**` -/
def blockMarker (field : String) : List Char := "**".toList ++ (field.toList ++ ":**".toList)

/-- `**Goal:** `, with the blank. -/
def scalarMarker (field : String) : List Char := "**".toList ++ (field.toList ++ ":** ".toList)

def taskFieldPositions (ls : List (List Char)) (field : String) : List Nat :=
  (ls.zipIdx.filter fun line =>
    line.1 = blockMarker field || startsWith (scalarMarker field) line.1).map Prod.snd

def taskPrefix (taskNumber : UInt32) : String := "Task " ++ toString taskNumber

/-- The fields of a task stand once each and in order; `previous` is the last one that has
been found. -/
def enforceTaskFieldOrder (taskNumber : UInt32) (ls : List (List Char)) :
    Except TaskContractParseError Unit := do
  let _ ← taskFieldOrder.foldlM (fun (previous : Option (String × Nat)) field =>
    match taskFieldPositions ls field with
    | [] => .ok previous
    | [position] =>
      match previous with
      | some (previousField, previousPosition) =>
        if position ≤ previousPosition then
          .error ⟨"TaskFieldOrder", taskPrefix taskNumber ++ " field `" ++ field ++
            "` must appear after `" ++ previousField ++ "`."⟩
        else .ok (some (field, position))
      | none => .ok (some (field, position))
    | _ => .error ⟨"DuplicateTaskField",
        taskPrefix taskNumber ++ " contains duplicate `" ++ field ++ "` fields."⟩) none
  .ok ()

def missingField (taskNumber : UInt32) (field errorClass : String) : TaskContractParseError :=
  ⟨errorClass, taskPrefix taskNumber ++ " is missing " ++ field ++ "."⟩

/-- The value of the first line of a field. -/
def scalarField (ls : List (List Char)) (field : String) : Option (List Char) :=
  ls.findSome? (stripPrefix (scalarMarker field))

def parseScalarField (taskNumber : UInt32) (ls : List (List Char)) (field errorClass : String) :
    Except TaskContractParseError (List Char) :=
  match scalarField ls field with
  | none => .error (missingField taskNumber field errorClass)
  | some value => .ok value

/-- `parse_bullets_after_field`; the flag tells whether the field has begun. -/
def parseBulletsAfterField (taskNumber : UInt32) (field : String) :
    Bool → List (List Char) → Except TaskContractParseError (List (List Char))
  | _, [] => .ok []
  | collecting, line :: rest =>
    if line = blockMarker field then parseBulletsAfterField taskNumber field true rest
    else if collecting then
      if startsWith "**".toList line then .ok []
      else if trimChars line = [] then parseBulletsAfterField taskNumber field true rest
      else match stripPrefix "- ".toList (trimChars line) with
        | some value => (parseBulletsAfterField taskNumber field true rest).map (value :: ·)
        | none => .error ⟨"MalformedTaskContractField", taskPrefix taskNumber ++ " `" ++ field ++
            "` entries must be bullets; found `" ++ String.ofList (trimChars line) ++ "`."⟩
    else parseBulletsAfterField taskNumber field false rest

def parseRequiredBulletField (taskNumber : UInt32) (ls : List (List Char))
    (field errorClass : String) : Except TaskContractParseError (List (List Char)) :=
  if ls.contains (blockMarker field) then parseBulletsAfterField taskNumber field false ls
  else .error (missingField taskNumber field errorClass)

/-! ### The body of a task -/

inductive TaskBodySection where
  | none
  | context
  | constraints
  | doneWhen
  | files
  | steps
  deriving DecidableEq

def unparsedTaskBodyLine (taskNumber : UInt32) (line : List Char) : TaskContractParseError :=
  ⟨"MalformedTaskStructure", taskPrefix taskNumber ++ " contains unparsed task body line `" ++
    String.ofList line ++ "`."⟩

def isTaskBodyCommentMarker (line : List Char) : Bool :=
  startsWith "<!--".toList line && "-->".toList.isSuffixOf line

def isScalarTaskFieldLine (line : List Char) : Bool :=
  line = blockMarker "Spec Coverage" || startsWith (scalarMarker "Spec Coverage") line ||
    line = blockMarker "Goal" || startsWith (scalarMarker "Goal") line

/-- The lines that begin a section of the body. -/
def taskBodySections : List (String × TaskBodySection) :=
  [("Context", .context), ("Constraints", .constraints), ("Done when", .doneWhen),
    ("Files", .files)]

/-- What `validate_task_body_structure` keeps. -/
structure TaskBodyScan where
  bodySection : TaskBodySection
  filesSeen : Bool
  sawStep : Bool
  inFencedStepDetail : Bool
  note : Option RuntimeExecutionNoteProjectionBlock
  stepNumbers : List UInt32

namespace TaskBodyScan

def start : TaskBodyScan := ⟨.none, false, false, false, none, []⟩

/-- A line that is no step. -/
def readFieldLine (taskNumber : UInt32) (s : TaskBodyScan) (trimmed : List Char) :
    Except TaskContractParseError TaskBodyScan :=
  if s.sawStep then .error (unparsedTaskBodyLine taskNumber trimmed)
  else if isScalarTaskFieldLine trimmed then .ok { s with bodySection := .none }
  else match taskBodySections.find? fun marker => trimmed = blockMarker marker.1 with
    | some marker => .ok { s with
        bodySection := marker.2
        filesSeen := s.filesSeen || marker.2 = .files }
    | none =>
      match s.bodySection with
      | .files => .ok s
      | .context | .constraints | .doneWhen =>
        if startsWith "- ".toList trimmed then .ok s
        else .error (unparsedTaskBodyLine taskNumber trimmed)
      | .none | .steps => .error (unparsedTaskBodyLine taskNumber trimmed)

/-- A line outside of notes. -/
def readOutsideNote (taskNumber : UInt32) (s : TaskBodyScan) (line : List Char) :
    Except TaskContractParseError TaskBodyScan :=
  let trimmed := trimChars line
  if s.inFencedStepDetail then
    .ok { s with inFencedStepDetail := !startsWith fence trimmed }
  else if s.sawStep && startsWith fence trimmed then .ok { s with inFencedStepDetail := true }
  else if isTaskBodyCommentMarker trimmed then .ok s
  else match if s.sawStep then RuntimeExecutionNoteProjectionBlock.start line else none with
    | some note => .ok { s with note := some note }
    | none => do
      match ← parseTaskStepLine trimmed with
      | some step =>
        if !s.filesSeen then
          .error ⟨"MalformedTaskStructure",
            taskPrefix taskNumber ++ " steps must appear after a Files block."⟩
        else if s.stepNumbers.contains step.number then
          .error ⟨"MalformedTaskStructure", taskPrefix taskNumber ++ " has duplicate Step " ++
            toString step.number ++ "."⟩
        else .ok { s with
          stepNumbers := step.number :: s.stepNumbers, sawStep := true, bodySection := .steps }
      | none => s.readFieldLine taskNumber trimmed

def readLine (taskNumber : UInt32) (s : TaskBodyScan) (line : List Char) :
    Except TaskContractParseError TaskBodyScan :=
  if trimChars line = [] then .ok s
  else match s.note with
    | none => s.readOutsideNote taskNumber line
    | some note =>
      if note.continues line then .ok s
      else readOutsideNote taskNumber { s with note := none } line

end TaskBodyScan

def validateTaskBodyStructure (taskNumber : UInt32) (ls : List (List Char)) :
    Except TaskContractParseError Unit := do
  let s ← ls.foldlM (TaskBodyScan.readLine taskNumber) .start
  if s.inFencedStepDetail then
    .error ⟨"MalformedTaskStructure",
      taskPrefix taskNumber ++ " has an unterminated step detail fence."⟩
  else .ok ()

def parseTaskContractFields (taskNumber : UInt32) (ls : List (List Char)) :
    Except TaskContractParseError TaskContractFields :=
  if ls.any isLegacyTaskField then
    .error ⟨"LegacyTaskField", taskPrefix taskNumber ++ " uses legacy approved-task fields; " ++
      "use Goal, Context, Constraints, and Done when."⟩
  else do
    enforceTaskFieldOrder taskNumber ls
    let goal ← parseScalarField taskNumber ls "Goal" "TaskMissingGoal"
    let context ← parseRequiredBulletField taskNumber ls "Context" "TaskMissingContext"
    let constraints ←
      parseRequiredBulletField taskNumber ls "Constraints" "TaskMissingConstraints"
    let doneWhen ← parseRequiredBulletField taskNumber ls "Done when" "TaskMissingDoneWhen"
    validateTaskBodyStructure taskNumber ls
    .ok ⟨goal, context, constraints, doneWhen⟩

/-! ### Known steps -/

/-- The steps that the runtime knows, with their texts. -/
abbrev KnownSteps : Type := StepKey → Option (List Char)

/-- What `collect_known_task_steps` keeps. -/
structure KnownStepScan where
  known : KnownSteps
  filesSeen : Bool
  sawStep : Bool
  inFencedStepDetail : Bool

namespace KnownStepScan

def readLine (taskNumber : UInt32) (s : KnownStepScan) (line : List Char) : KnownStepScan :=
  let trimmed := trimChars line
  if s.inFencedStepDetail then { s with inFencedStepDetail := !startsWith fence trimmed }
  else if s.sawStep && startsWith fence trimmed then { s with inFencedStepDetail := true }
  else if trimmed = blockMarker "Files" then { s with filesSeen := true }
  else match if s.filesSeen then parseStepLine line else none with
    | some (_, step) => { s with
        known := Function.update s.known (taskNumber, step.number) (some step.text)
        sawStep := true }
    | none => s

end KnownStepScan

def collectKnownTaskSteps (taskNumber : UInt32) (ls : List (List Char)) (known : KnownSteps) :
    KnownSteps :=
  (ls.foldl (KnownStepScan.readLine taskNumber) ⟨known, false, false, false⟩).known

/-- The steps of the tasks whose contract can be read. -/
def collectKnownSteps (blocks : List CanonicalTaskBlock) : KnownSteps :=
  blocks.foldl (fun known block =>
    let ls := lines block.source
    if ls.length < 2 then known
    else match parseTaskContractFields block.number ls.tail with
      | .error _ => known
      | .ok _ => collectKnownTaskSteps block.number ls.tail known) fun _ => none

def knownRuntimeStepProjectionLines (planSource : List Char) : KnownSteps :=
  match splitCanonicalTaskBlocks planSource with
  | .error _ => fun _ => none
  | .ok blocks => collectKnownSteps blocks

end FeatureForge
