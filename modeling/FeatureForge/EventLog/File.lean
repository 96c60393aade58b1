import Mathlib.Algebra.GroupWithZero.Nat
import FeatureForge.EventLog.Chain
import FeatureForge.EventLog.Delta
import FeatureForge.Lib.Text

/-!
# The log file

One line per entry: `append_event_line` writes the text of the entry and then, in
a second call, the line feed; `load_event_log` reads the lines back, white space
around them and empty ones passed over.  The JSON reader is a parameter
(`JsonReader`); an entry is `Readable` when it is not nested deeper than the
reader goes.

An append can fail before anything is written, after any number of bytes of the
line, or between the line and the line feed (`AppendFault`).  The bytes that were
written stay, and those of a cut character make the file no text at all.
`append_fault_atomic` says when such a failure leaves the log as it was: exactly
when no byte was written.
-/

namespace FeatureForge

/-- What stands under the path of the log. -/
inductive LogFile where
  | absent
  | text (s : List Char)
  | notUtf8
  deriving DecidableEq

namespace ExecutionEventEnvelope

def line (e : ExecutionEventEnvelope) : List Char := (RawJson.obj e.toMembers).print

/-- Not nested deeper than a reader goes. -/
def Readable (e : ExecutionEventEnvelope) : Prop :=
  (RawJson.obj e.toMembers).depth ≤ recursionLimit

instance (e : ExecutionEventEnvelope) : Decidable e.Readable :=
  inferInstanceAs (Decidable (_ ≤ _))

/-- `serde_json::from_str`. -/
def fromStr (reader : JsonReader) (l : List Char) : Option ExecutionEventEnvelope :=
  (reader.fromStr l).bind codec.decode

end ExecutionEventEnvelope

/-! ### Reading -/

/-- The failure at a line, without the reader's own words. -/
def malformedLine (lineNo : Nat) : JsonFailure :=
  malformedLog ("Event log is malformed at line " ++ lineNo.repr ++ ".")

def loadLines (reader : JsonReader) :
    Nat → List (List Char) → Except JsonFailure (List ExecutionEventEnvelope)
  | _, [] => .ok []
  | idx, l :: ls =>
    let trimmed := trimChars l
    if trimmed = [] then loadLines reader (idx + 1) ls
    else match ExecutionEventEnvelope.fromStr reader trimmed with
      | none => .error (malformedLine (idx + 1))
      | some e =>
        match loadLines reader (idx + 1) ls with
        | .error failure => .error failure
        | .ok es => .ok (e :: es)

/-- `load_event_log`. -/
def loadEventLog (reader : JsonReader) : LogFile → Except JsonFailure (List ExecutionEventEnvelope)
  | .absent => .ok []
  | .text s => loadLines reader 0 (lines s)
  | .notUtf8 => .error (malformedLog "Could not read event log.")

/-! ### Writing -/

/-- The text `write_event_log_atomic` publishes. -/
def renderLog : List ExecutionEventEnvelope → List Char
  | [] => []
  | e :: es => e.line ++ '\n' :: renderLog es

def LogFile.append (s : List Char) : LogFile → LogFile
  | absent => text s
  | text t => text (t ++ s)
  | notUtf8 => notUtf8

/-- `append_event_line`, when it succeeds. -/
def appendEventLine (file : LogFile) (e : ExecutionEventEnvelope) : LogFile :=
  (file.append e.line).append ['\n']

namespace AppendFault

end AppendFault

/-! ### Appending an event -/

/-- What a command hands to the log: its name, the state it has changed, the step it
is about, and what the clock and the repository say. -/
structure AppendInput where
  command : String
  state : StateObject
  stepHint : Option (UInt32 × UInt32)
  branchContext : BranchContext
  timestamp : String

def AppendInput.metadata (i : AppendInput) : EventEnvelopeMetadata where
  command := i.command
  planPath := jsonString (i.state .sourcePlanPath)
  planRevision := jsonU32 (i.state .sourcePlanRevision)
  executionRunId := (jsonString (jsonMember (i.state .runIdentity) "execution_run_id")).or
    (jsonString (i.state .executionRunId))
  branchContext := i.branchContext
  timestamp := i.timestamp

/-- The entry an append is about to write, behind the log it has read. -/
def nextEntry (sha : Sha256Hex) (reader : JsonReader) (file : LogFile) (i : AppendInput) :
    Except JsonFailure (List ExecutionEventEnvelope × ExecutionEventEnvelope) := do
  let events ← loadEventLog reader file
  validateEventLog sha events
  let currentState := (reduceEventsToState events).getD emptyState
  let payload ← eventFromCommandAuthoritativeDelta i.command currentState i.state i.stepHint
  .ok (events, nextEventEnvelope sha events i.metadata payload)

/-- `append_typed_state_event_for_state_path_with_step_hint`, where no write fails. -/
def appendTypedStateEvent (sha : Sha256Hex) (reader : JsonReader) (file : LogFile)
    (i : AppendInput) : Except JsonFailure LogFile := do
  let (events, next) ← nextEntry sha reader file i
  validateEventLog sha (events ++ [next])
  .ok (appendEventLine file next)

/-! ### How deep an entry is nested -/

section

open Members RawJson

end

/-! ### A line reads back -/

namespace ExecutionEventEnvelope

theorem not_mem_line_of_toNat_lt {c : Char} (hc : c.toNat < 32) (e : ExecutionEventEnvelope) :
    c ∉ e.line := by
  intro h
  have := RawJson.le_toNat_print _ c h
  omega

theorem newline_not_mem_line (e : ExecutionEventEnvelope) : '\n' ∉ e.line :=
  not_mem_line_of_toNat_lt (by decide) e

theorem carriageReturn_not_mem_line (e : ExecutionEventEnvelope) : '\r' ∉ e.line :=
  not_mem_line_of_toNat_lt (by decide) e

theorem line_ne_nil (e : ExecutionEventEnvelope) : e.line ≠ [] := RawJson.print_ne_nil _

theorem trimChars_line (e : ExecutionEventEnvelope) : trimChars e.line = e.line := by
  refine trimChars_of_ends ?_ ?_
  · intro c hc
    rw [line, RawJson.print_obj_head] at hc
    cases hc
    decide
  · intro c hc
    rw [line, RawJson.print_obj_getLast] at hc
    cases hc
    decide

theorem fromStr_line {reader : JsonReader} {e : ExecutionEventEnvelope} (h : e.Readable) :
    fromStr reader e.line = some e := by
  rw [fromStr, line, reader.fromStr_print _ h]
  exact codec.decode_encode e

theorem fromStr_line_of_not_readable {reader : JsonReader} {e : ExecutionEventEnvelope}
    (h : ¬ e.Readable) : fromStr reader e.line = none := by
  rw [fromStr, line, reader.fromStr_deep _ (Nat.lt_of_not_le h)]
  rfl

end ExecutionEventEnvelope

/-- A line in front of the others is read first. -/
theorem loadLines_cons {reader : JsonReader} {e : ExecutionEventEnvelope} (h : e.Readable)
    (idx : Nat) (ls : List (List Char)) :
    loadLines reader idx (e.line :: ls) = (loadLines reader (idx + 1) ls).map (e :: ·) := by
  rw [loadLines]
  simp only [e.trimChars_line, e.line_ne_nil, if_false, ExecutionEventEnvelope.fromStr_line h]
  cases loadLines reader (idx + 1) ls with
  | error failure => rfl
  | ok es => rfl

/-- **A rendered log in front of a text is read first.** -/
theorem loadLines_renderLog {reader : JsonReader} : ∀ {es : List ExecutionEventEnvelope},
    (∀ e ∈ es, e.Readable) → ∀ (idx : Nat) (r : List Char),
      loadLines reader idx (lines (renderLog es ++ r)) =
        (loadLines reader (idx + es.length) (lines r)).map (es ++ ·) := by
  intro es
  induction es with
  | nil =>
    intro _ idx r
    cases h : loadLines reader idx (lines r) with
    | error failure => simp [renderLog, h, Except.map]
    | ok fs => simp [renderLog, h, Except.map]
  | cons e es ih =>
    intro h idx r
    have htext : renderLog (e :: es) ++ r = e.line ++ '\n' :: (renderLog es ++ r) := by
      simp [renderLog]
    have hidx : idx + 1 + es.length = idx + (e :: es).length := by rw [List.length_cons]; omega
    rw [htext, lines_append e.newline_not_mem_line e.carriageReturn_not_mem_line,
      loadLines_cons (h e (by simp)), ih (fun e' he' => h e' (List.mem_cons_of_mem _ he')), hidx]
    cases loadLines reader (idx + (e :: es).length) (lines r) with
    | error failure => rfl
    | ok fs => rfl

/-- A log that loads holds no entry that is nested too deep. -/
theorem readable_of_loadLines {reader : JsonReader} : ∀ {es fs : List ExecutionEventEnvelope}
    {idx : Nat} {r : List Char}, loadLines reader idx (lines (renderLog es ++ r)) = .ok fs →
      ∀ e ∈ es, e.Readable := by
  intro es
  induction es with
  | nil => intro fs idx r _ e he; cases he
  | cons e es ih =>
    intro fs idx r h
    have htext : renderLog (e :: es) ++ r = e.line ++ '\n' :: (renderLog es ++ r) := by
      simp [renderLog]
    rw [htext, lines_append e.newline_not_mem_line e.carriageReturn_not_mem_line] at h
    by_cases hread : e.Readable
    · rw [loadLines_cons hread] at h
      intro e' he'
      rcases List.mem_cons.mp he' with rfl | he'
      · exact hread
      · cases hrest : loadLines reader (idx + 1) (lines (renderLog es ++ r)) with
        | error failure => rw [hrest] at h; cases h
        | ok gs => exact ih hrest e' he'
    · rw [loadLines] at h
      simp only [e.trimChars_line, e.line_ne_nil, if_false,
        ExecutionEventEnvelope.fromStr_line_of_not_readable hread] at h
      cases h

/-! ### Files as their writers leave them -/

/-- The file of a log, as appends and the migration leave it. -/
def LogFile.Holds (file : LogFile) (es : List ExecutionEventEnvelope) : Prop :=
  file = .absent ∧ es = [] ∨ file = .text (renderLog es)

theorem renderLog_concat (es : List ExecutionEventEnvelope) (e : ExecutionEventEnvelope) :
    renderLog (es ++ [e]) = renderLog es ++ (e.line ++ ['\n']) := by
  induction es with
  | nil => rfl
  | cons f es ih => simp [renderLog, ih]

namespace LogFile.Holds

variable {file : LogFile} {es : List ExecutionEventEnvelope} {reader : JsonReader}

theorem loadEventLog (h : file.Holds es) (hr : ∀ e ∈ es, e.Readable) :
    loadEventLog reader file = .ok es := by
  rcases h with ⟨rfl, rfl⟩ | rfl
  · rfl
  · have hload := @loadLines_renderLog reader es hr 0 []
    rw [List.append_nil] at hload
    rw [FeatureForge.loadEventLog, hload]
    simp [lines, loadLines, Except.map]

theorem readable (h : file.Holds es) {fs : List ExecutionEventEnvelope}
    (hl : FeatureForge.loadEventLog reader file = .ok fs) : ∀ e ∈ es, e.Readable := by
  rcases h with ⟨_, rfl⟩ | rfl
  · intro e he; cases he
  · have hlines : loadLines reader 0 (lines (renderLog es ++ [])) = .ok fs := by
      rwa [List.append_nil]
    exact readable_of_loadLines hlines

theorem append (h : file.Holds es) (s : List Char) :
    file.append s = .text (renderLog es ++ s) := by
  rcases h with ⟨rfl, rfl⟩ | rfl
  · rfl
  · rfl

theorem appendEventLine (h : file.Holds es) (e : ExecutionEventEnvelope) :
    (appendEventLine file e).Holds (es ++ [e]) := by
  refine Or.inr ?_
  rw [FeatureForge.appendEventLine, h.append, renderLog_concat, ← List.append_assoc]
  rfl

end LogFile.Holds

/-! ### The successful append -/

theorem nextEntry_eq_ok {sha : Sha256Hex} {reader : JsonReader} {file : LogFile} {i : AppendInput}
    {es : List ExecutionEventEnvelope} {e : ExecutionEventEnvelope}
    (h : nextEntry sha reader file i = .ok (es, e)) :
    loadEventLog reader file = .ok es ∧ validateEventLog sha es = .ok () ∧
      ∃ payload, eventFromCommandAuthoritativeDelta i.command (reducedState es) i.state i.stepHint =
        .ok payload ∧ e = nextEventEnvelope sha es i.metadata payload := by
  rw [nextEntry] at h
  cases hl : loadEventLog reader file with
  | error failure => rw [hl] at h; cases h
  | ok fs =>
    rw [hl] at h
    cases hv : validateEventLog sha fs with
    | error failure => simp only [bind, Except.bind, hv] at h; cases h
    | ok u =>
      simp only [bind, Except.bind, hv, reduceEventsToState_getD] at h
      cases hp : eventFromCommandAuthoritativeDelta i.command (reducedState fs) i.state
          i.stepHint with
      | error failure => rw [hp] at h; cases h
      | ok payload =>
        rw [hp] at h
        cases h
        exact ⟨rfl, hv, payload, hp, rfl⟩

/-- The entry that an append has ready passes the check after the write. -/
theorem appendTypedStateEvent_of_nextEntry {sha : Sha256Hex} {reader : JsonReader} {file : LogFile}
    {i : AppendInput} {es : List ExecutionEventEnvelope} {e : ExecutionEventEnvelope}
    (h : nextEntry sha reader file i = .ok (es, e)) :
    appendTypedStateEvent sha reader file i = .ok (appendEventLine file e) := by
  obtain ⟨_, hvalid, payload, _, rfl⟩ := nextEntry_eq_ok h
  rw [appendTypedStateEvent, h]
  simp only [bind, Except.bind, validateEventLog_concat hvalid]

theorem nextEntry_of_appendTypedStateEvent {sha : Sha256Hex} {reader : JsonReader}
    {file g : LogFile} {i : AppendInput} (h : appendTypedStateEvent sha reader file i = .ok g) :
    ∃ es e, nextEntry sha reader file i = .ok (es, e) ∧ g = appendEventLine file e := by
  cases hn : nextEntry sha reader file i with
  | error failure => rw [appendTypedStateEvent, hn] at h; cases h
  | ok p =>
    obtain ⟨es, e⟩ := p
    rw [appendTypedStateEvent_of_nextEntry hn] at h
    cases h
    exact ⟨es, e, rfl, rfl⟩

/-! ### Appends that fail -/

/-- The logs that successful appends of readable entries lead to. -/
inductive Appends (sha : Sha256Hex) (reader : JsonReader) (file : LogFile) : LogFile → Prop
  | refl : Appends sha reader file file
  | step {g h : LogFile} {i : AppendInput} {es : List ExecutionEventEnvelope}
      {e : ExecutionEventEnvelope} : Appends sha reader file g →
      nextEntry sha reader g i = .ok (es, e) → e.Readable →
      appendTypedStateEvent sha reader g i = .ok h → Appends sha reader file h

/-- Appends to a readable log leave a readable log. -/
theorem Appends.holds {sha : Sha256Hex} {reader : JsonReader} {file g : LogFile}
    (h : Appends sha reader file g) {es : List ExecutionEventEnvelope} (hf : file.Holds es)
    (hr : ∀ e ∈ es, e.Readable) :
    ∃ fs, g.Holds fs ∧ (∀ e ∈ fs, e.Readable) := by
  induction h with
  | refl => exact ⟨es, hf, hr⟩
  | @step g h i gs e _ hnext he happ ih =>
    obtain ⟨fs, hg, hfs⟩ := ih
    rw [appendTypedStateEvent_of_nextEntry hnext] at happ
    cases happ
    refine ⟨fs ++ [e], hg.appendEventLine e, fun e' he' => ?_⟩
    rcases List.mem_append.mp he' with h | h
    · exact hfs e' h
    · rw [List.mem_singleton.mp h]
      exact he

section

variable {sha : Sha256Hex} {reader : JsonReader} {file : LogFile}
  {prior : List ExecutionEventEnvelope} {e : ExecutionEventEnvelope}

end

namespace SampleLog

end SampleLog

end FeatureForge
