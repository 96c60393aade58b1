import FeatureForge.Plans.PlanDocument

/-!
# The state of a plan's steps

`parse_step_state`: which steps of a plan are checked, and the note under each, read from
the lines of the whole plan.  A line that begins with `## Task ` says which task comes next;
no other heading ends a task.
-/

namespace FeatureForge

inductive NoteState where
  | active
  | blocked
  | interrupted
  deriving DecidableEq

def NoteState.asStr : NoteState → List Char
  | .active => "Active".toList
  | .blocked => "Blocked".toList
  | .interrupted => "Interrupted".toList

structure PlanStepState where
  taskNumber : UInt32
  stepNumber : UInt32
  title : List Char
  checked : Bool
  noteState : Option NoteState
  noteSummary : List Char
  deriving DecidableEq

def parseNoteLine (line : List Char) : Option (NoteState × List Char) := do
  let rest ← stripPrefix "**Execution Note:** ".toList (trimStart line)
  let (state, summary) ← splitOnce " - ".toList rest
  let noteState ← [NoteState.active, .blocked, .interrupted].find? fun noteState =>
    state = noteState.asStr
  some (noteState, normalizeWhitespace summary)

/-- The note under a step, from the lines behind it. -/
def readStepNote (rest : List (List Char)) :
    Except JsonFailure (Option NoteState × List Char) :=
  match rest.dropWhile fun line => line = [] with
  | [] => .ok (none, [])
  | line :: rest =>
    match parseNoteLine line with
    | none => .ok (none, [])
    | some (noteState, summary) =>
      if summary = [] then .error ⟨.malformedExecutionState,
        "Execution note summaries may not be blank after whitespace normalization."⟩
      else if 120 < summary.length then .error ⟨.malformedExecutionState,
        "Execution note summaries may not exceed 120 characters."⟩
      else if ((rest.dropWhile fun line => line = []).head?.bind parseNoteLine).isSome then
        .error ⟨.malformedExecutionState, "Plan may have at most one execution note per step."⟩
      else .ok (some noteState, summary)

/-- The task that a heading names. -/
def headingTask (rest : List Char) : Option UInt32 :=
  parseU32 (rest.takeWhile fun c => c ≠ ':')

/-- The loop of `parse_step_state`. -/
def readStepStates (titles : StepKey → Option (List Char)) :
    Option UInt32 → List (List Char) → Except JsonFailure (List PlanStepState)
  | _, [] => .ok []
  | currentTask, line :: rest =>
    match stripPrefix "## Task ".toList line with
    | some heading => readStepStates titles (headingTask heading) rest
    | none =>
      match parseStepLine line with
      | none => readStepStates titles currentTask rest
      | some (checked, step) =>
        match currentTask with
        | none => .error ⟨.planNotExecutionReady,
            "Plan step headings must live within a task section."⟩
        | some task => do
          let (noteState, summary) ← readStepNote rest
          let states ← readStepStates titles currentTask rest
          .ok ({ taskNumber := task, stepNumber := step.number,
                 title := (titles (task, step.number)).getD step.text, checked := checked,
                 noteState := noteState, noteSummary := summary } :: states)

/-- The titles of the steps of a plan, the last one where a step comes twice. -/
def stepTitles (tasks : List PlanTask) : StepKey → Option (List Char) :=
  (tasks.flatMap fun task => task.steps.map fun step => ((task.number, step.number), step.text)).foldl
    (fun titles step => Function.update titles step.1 (some step.2)) fun _ => none

def parseStepState (source : List Char) (planDocument : PlanDocument) :
    Except JsonFailure (List PlanStepState) :=
  readStepStates (stepTitles planDocument.tasks) none (lines source)

end FeatureForge
