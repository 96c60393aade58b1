import FeatureForge.Diagnostics
import FeatureForge.EventLog.Envelope
import FeatureForge.Lib.HashChain
import FeatureForge.Lib.JsonText

/-!
# The event chain

`next_event_envelope`, `compute_event_hash` and `validate_event_log`: how an
entry is put at the end of a log and how a log is checked when it is read.  The
hash function is a parameter, from the text of the hashed object to its hex
digest, and so is the clock.

`EventHash.linking` makes a log an instance of a hash chain, and
`validateEventLog_eq_ok` says what validation accepts: a hash chain whose entries
are numbered from one and carry the current schema version.  (That no payload
holds a field its kind does not allow is true of every event, so this check of
`validate_event_log` never fails.)  `validateEventLog_concat` is the step that
every writer of the log takes, and `hash_chain_integrity` the tamper evidence.
-/

namespace FeatureForge

def eventLogSchemaVersion : UInt32 := 1

/-- The hex digest of a text. -/
abbrev Sha256Hex : Type := List Char → String

namespace ExecutionEventEnvelope

/-- `compute_event_hash`. -/
def computeEventHash (sha : Sha256Hex) (e : ExecutionEventEnvelope) : String :=
  sha e.hashShape.print

end ExecutionEventEnvelope

/-- `EventEnvelopeMetadata`, with the time of writing. -/
structure EventEnvelopeMetadata where
  command : String
  planPath : Option String
  planRevision : Option UInt32
  executionRunId : Option String
  branchContext : BranchContext
  timestamp : String

def saturatingSucc (n : UInt64) : UInt64 := if n.toNat + 1 < 2 ^ 64 then n + 1 else n

/-- `(idx as u64).saturating_add(1)`. -/
def expectedSequence (idx : Nat) : UInt64 := UInt64.ofNat (min (idx + 1) (2 ^ 64 - 1))

/-- The first twelve digits of the digest of the seed name the event. -/
def eventIdOf (sha : Sha256Hex) (sequence : UInt64) (command timestamp : String)
    (previousEventHash : Option String) : String :=
  let seed := sequence.toNat.repr ++ ":" ++ command ++ ":" ++ timestamp ++ ":" ++
    previousEventHash.getD "none"
  "evt-" ++ sequence.toNat.repr ++ "-" ++ String.ofList ((sha seed.toList).toList.take 12)

def nextEventEnvelope (sha : Sha256Hex) (prior : List ExecutionEventEnvelope)
    (metadata : EventEnvelopeMetadata) (payload : ExecutionEvent) : ExecutionEventEnvelope :=
  let previousEventHash := prior.getLast?.map (·.eventHash)
  let sequence := (prior.getLast?.map fun e => saturatingSucc e.sequence).getD 1
  let envelope : ExecutionEventEnvelope := {
    schemaVersion := eventLogSchemaVersion
    eventId := eventIdOf sha sequence metadata.command metadata.timestamp previousEventHash
    sequence
    timestamp := metadata.timestamp
    command := metadata.command
    planPath := metadata.planPath
    planRevision := metadata.planRevision
    executionRunId := metadata.executionRunId
    branchContext := metadata.branchContext
    previousEventHash
    eventHash := ""
    payload }
  { envelope with eventHash := envelope.computeEventHash sha }

/-! ### Validation -/

def malformedLog (message : String) : JsonFailure :=
  { errorClass := .malformedExecutionState, message }

/-- The fields of the payload that its kind does not allow, in slot order. -/
def disallowedFields (e : ExecutionEvent) : List Field :=
  match e.facts with
  | none => []
  | some get => (ExecutionEvent.slots e.kind).filter fun f =>
      (get f).isSome && !e.factFieldAllowed f

/-- The checks on the entry at `idx`, behind an entry with hash `previous`. -/
def validateEntry (sha : Sha256Hex) (idx : Nat) (previous : Option String)
    (event : ExecutionEventEnvelope) : Except JsonFailure Unit :=
  let entry := (idx + 1).repr
  if event.sequence ≠ expectedSequence idx then
    .error (malformedLog ("Event log sequence mismatch at entry " ++ entry ++ ": expected " ++
      (expectedSequence idx).toNat.repr ++ ", found " ++ event.sequence.toNat.repr ++ "."))
  else if event.schemaVersion ≠ eventLogSchemaVersion then
    .error (malformedLog ("Event log schema mismatch at entry " ++ entry ++ ": expected " ++
      eventLogSchemaVersion.toNat.repr ++ ", found " ++ event.schemaVersion.toNat.repr ++ "."))
  else if event.previousEventHash ≠ previous then
    .error (malformedLog ("Event log continuity mismatch at entry " ++ entry ++
      ": previous hash does not match."))
  else if event.computeEventHash sha ≠ event.eventHash then
    .error (malformedLog ("Event log hash mismatch at entry " ++ entry ++
      ": payload hash does not match envelope hash."))
  else match disallowedFields event.payload with
    | [] => .ok ()
    | f :: _ =>
      .error (malformedLog ("Event log entry " ++ entry ++
        " contains non-authoritative field " ++ "\x60" ++ f.name ++ "\x60 for \x60" ++
        event.payload.kind.name ++ "\x60 event scope."))

def validateFrom (sha : Sha256Hex) :
    Nat → Option String → List ExecutionEventEnvelope → Except JsonFailure Unit
  | _, _, [] => .ok ()
  | idx, previous, e :: es =>
    match validateEntry sha idx previous e with
    | .error failure => .error failure
    | .ok () => validateFrom sha (idx + 1) (some e.eventHash) es

def validateEventLog (sha : Sha256Hex) (events : List ExecutionEventEnvelope) :
    Except JsonFailure Unit := validateFrom sha 0 none events

/-! ### What validation accepts -/

namespace EventHash

/-- The log as a hash chain. -/
def linking (sha : Sha256Hex) : Linking ExecutionEventEnvelope String where
  prev e := e.previousEventHash
  hash e := e.eventHash
  digest e := e.computeEventHash sha

/-- No two serialized hash shapes share a digest. -/
def InjectiveOnShapes (sha : Sha256Hex) : Prop :=
  ∀ e f : ExecutionEventEnvelope, sha e.hashShape.print = sha f.hashShape.print →
    e.hashShape.print = f.hashShape.print

/-- Without collisions the digest determines the entry, since the hashed object
does and its text determines the object. -/
theorem linking_determined {sha : Sha256Hex} (hsha : InjectiveOnShapes sha) :
    (linking sha).Determined := by
  intro e f hdigest hhash
  have hshape : e.hashShape = f.hashShape := RawJson.print_injective (hsha e f hdigest)
  have heq := ExecutionEventEnvelope.hashShape_injective hshape
  have hh : e.eventHash = f.eventHash := hhash
  rw [← hh] at heq
  exact heq

end EventHash

theorem disallowedFields_eq_nil (e : ExecutionEvent) : disallowedFields e = [] := by
  rw [disallowedFields]
  cases h : e.facts with
  | none => rfl
  | some get =>
    refine List.filter_eq_nil_iff.mpr fun f _ hf => ?_
    rw [Bool.and_eq_true, Option.isSome_iff_exists] at hf
    obtain ⟨⟨v, hv⟩, hn⟩ := hf
    rw [ExecutionEvent.factFieldAllowed_of_get h hv] at hn
    cases hn

theorem validateEntry_eq_ok {sha : Sha256Hex} {idx : Nat} {previous : Option String}
    {e : ExecutionEventEnvelope} :
    validateEntry sha idx previous e = .ok () ↔
      e.sequence = expectedSequence idx ∧ e.schemaVersion = eventLogSchemaVersion ∧
        e.previousEventHash = previous ∧ e.computeEventHash sha = e.eventHash := by
  rw [validateEntry, disallowedFields_eq_nil]
  split_ifs with h₁ h₂ h₃ h₄
  case neg => exact ⟨fun _ => ⟨of_not_not h₁, of_not_not h₂, of_not_not h₃, of_not_not h₄⟩,
    fun _ => rfl⟩
  case pos => exact ⟨fun h => (by cases h), fun h => absurd h.1 h₁⟩
  case pos => exact ⟨fun h => (by cases h), fun h => absurd h.2.1 h₂⟩
  case pos => exact ⟨fun h => (by cases h), fun h => absurd h.2.2.1 h₃⟩
  case pos => exact ⟨fun h => (by cases h), fun h => absurd h.2.2.2 h₄⟩

/-- Entries numbered from `idx + 1` under the current schema version. -/
def Numbered (idx : Nat) (events : List ExecutionEventEnvelope) : Prop :=
  ∀ (i : Nat) (h : i < events.length),
    events[i].sequence = expectedSequence (idx + i) ∧
      events[i].schemaVersion = eventLogSchemaVersion

theorem numbered_cons {idx : Nat} {e : ExecutionEventEnvelope} {es : List ExecutionEventEnvelope} :
    Numbered idx (e :: es) ↔
      (e.sequence = expectedSequence idx ∧ e.schemaVersion = eventLogSchemaVersion) ∧
        Numbered (idx + 1) es := by
  constructor
  · intro h
    refine ⟨h 0 (by simp), fun i hi => ?_⟩
    have := h (i + 1) (by simpa using hi)
    rwa [Nat.add_assoc, Nat.add_comm 1 i]
  · rintro ⟨h0, h⟩ i hi
    cases i with
    | zero => exact h0
    | succ i =>
      have := h i (by simpa using hi)
      rwa [Nat.add_assoc, Nat.add_comm 1 i] at this

theorem validateFrom_eq_ok {sha : Sha256Hex} : ∀ {es : List ExecutionEventEnvelope} {idx : Nat}
    {previous : Option String}, validateFrom sha idx previous es = .ok () ↔
      (EventHash.linking sha).ChainedFrom previous es ∧ Numbered idx es := by
  intro es
  induction es with
  | nil => intro idx previous; simp [validateFrom, Linking.ChainedFrom, Numbered]
  | cons e es ih =>
    intro idx previous
    rw [validateFrom, Linking.ChainedFrom, numbered_cons]
    cases h : validateEntry sha idx previous e with
    | error failure =>
      refine ⟨fun h => (by cases h), fun hc => ?_⟩
      have := validateEntry_eq_ok.mpr ⟨hc.2.1.1, hc.2.1.2, hc.1.1, hc.1.2.1⟩
      rw [h] at this
      cases this
    | ok u =>
      obtain ⟨hseq, hver, hprev, hhash⟩ := validateEntry_eq_ok.mp h
      simp only [ih]
      exact ⟨fun hc => ⟨⟨hprev, hhash, hc.1⟩, ⟨hseq, hver⟩, hc.2⟩,
        fun hc => ⟨hc.1.2.2, hc.2.2⟩⟩

/-- **Validation accepts the hash chains numbered from one.** -/
theorem validateEventLog_eq_ok {sha : Sha256Hex} {events : List ExecutionEventEnvelope} :
    validateEventLog sha events = .ok () ↔
      (EventHash.linking sha).Chained events ∧ Numbered 0 events :=
  validateFrom_eq_ok

/-! ### The step of a writer -/

theorem toNat_expectedSequence (idx : Nat) :
    (expectedSequence idx).toNat = min (idx + 1) (2 ^ 64 - 1) := by
  have hlt : min (idx + 1) (2 ^ 64 - 1) < 2 ^ 64 := by omega
  rw [expectedSequence, UInt64.toNat_ofNat', Nat.mod_eq_of_lt hlt]

theorem saturatingSucc_expectedSequence (idx : Nat) :
    saturatingSucc (expectedSequence idx) = expectedSequence (idx + 1) := by
  have hone : (1 : UInt64).toNat = 1 := rfl
  apply UInt64.toNat_inj.mp
  rw [saturatingSucc, toNat_expectedSequence]
  split_ifs with h
  · rw [UInt64.toNat_add, toNat_expectedSequence, toNat_expectedSequence, hone,
      Nat.mod_eq_of_lt h]
    omega
  · rw [toNat_expectedSequence, toNat_expectedSequence]
    omega

theorem numbered_concat {events : List ExecutionEventEnvelope} {e : ExecutionEventEnvelope} :
    Numbered 0 (events ++ [e]) ↔ Numbered 0 events ∧
      e.sequence = expectedSequence events.length ∧ e.schemaVersion = eventLogSchemaVersion := by
  constructor
  · intro h
    refine ⟨fun i hi => ?_, ?_⟩
    · have hi' := h i (by rw [List.length_append]; omega)
      rwa [List.getElem_append_left hi] at hi'
    · have he := h events.length (by simp)
      simpa using he
  · rintro ⟨h, he⟩ i hi
    by_cases hlt : i < events.length
    · rw [List.getElem_append_left hlt]
      exact h i hlt
    · have hi' : i = events.length := by rw [List.length_append, List.length_singleton] at hi; omega
      subst hi'
      simpa using he

/-- **The entry a writer builds continues a valid log.** -/
theorem validateEventLog_concat {sha : Sha256Hex} {events : List ExecutionEventEnvelope}
    (h : validateEventLog sha events = .ok ()) (metadata : EventEnvelopeMetadata)
    (payload : ExecutionEvent) :
    validateEventLog sha (events ++ [nextEventEnvelope sha events metadata payload]) = .ok () := by
  rw [validateEventLog_eq_ok] at h ⊢
  obtain ⟨hchain, hnum⟩ := h
  refine ⟨(Linking.chained_concat _).mpr ⟨hchain, rfl, rfl⟩, numbered_concat.mpr ⟨hnum, ?_, rfl⟩⟩
  -- the last entry carries the number of the length, so its successor the next
  show (events.getLast?.map fun e => saturatingSucc e.sequence).getD 1 = _
  cases hn : events.length with
  | zero => rw [List.length_eq_zero_iff.mp hn]; rfl
  | succ n =>
    have hlt : n < events.length := by omega
    have hlast : events.getLast? = some events[n] := by
      rw [List.getLast?_eq_getElem?, hn, Nat.add_sub_cancel, List.getElem?_eq_getElem hlt]
    rw [hlast, Option.map_some, Option.getD_some, (hnum n hlt).1, Nat.zero_add,
      saturatingSucc_expectedSequence]

/-! ### Tampering -/

/-- What can be done to an entry of a log. -/
inductive Edit where
  | delete (i : Nat)
  | insert (i : Nat) (e : ExecutionEventEnvelope)
  | swap (i j : Nat)
  | alter (i : Nat) (e : ExecutionEventEnvelope)

namespace Edit

def apply (events : List ExecutionEventEnvelope) : Edit → List ExecutionEventEnvelope
  | delete i => events.eraseIdx i
  | insert i e => events.insertIdx i e
  | swap i j =>
    match events[i]?, events[j]? with
    | some a, some b => (events.set i b).set j a
    | _, _ => events
  | alter i e => events.set i e

/-- Edits that leave something behind them as it was: not the removal of the last
entry, not an addition behind it, and not its replacement by another entry that
carries its own new hash. -/
def Tampers (sha : Sha256Hex) (events : List ExecutionEventEnvelope) : Edit → Prop
  | delete i => i + 1 < events.length
  | insert i _ => i < events.length
  | swap i j => i < j ∧ j < events.length
  | alter i e => ∃ old, events[i]? = some old ∧ e ≠ old ∧
      (i + 1 < events.length ∨ e.eventHash = old.eventHash ∨ e.computeEventHash sha ≠ e.eventHash)

end Edit

/-- **A hash that is kept pins the history before it.** -/
theorem validateEventLog_kept {sha : Sha256Hex} (hsha : EventHash.InjectiveOnShapes sha)
    {es fs : List ExecutionEventEnvelope} (hes : validateEventLog sha es = .ok ())
    (hfs : validateEventLog sha fs = .ok ()) {i j : Nat} (hi : i < es.length) (hj : j < fs.length)
    (hkept : fs[j].eventHash = es[i].eventHash) :
    i = j ∧ es.take (i + 1) = fs.take (j + 1) :=
  Linking.prefix_eq_of_hash_eq (EventHash.linking_determined hsha)
    (validateEventLog_eq_ok.mp hes).1 (validateEventLog_eq_ok.mp hfs).1 i j hi hj hkept.symm

theorem validateEventLog_digest {sha : Sha256Hex} {es : List ExecutionEventEnvelope}
    (hes : validateEventLog sha es = .ok ()) {e : ExecutionEventEnvelope} (he : e ∈ es) :
    e.computeEventHash sha = e.eventHash :=
  Linking.ChainedFrom.digest_eq (validateEventLog_eq_ok.mp hes).1 e he

theorem validateEventLog_edit {sha : Sha256Hex} (hsha : EventHash.InjectiveOnShapes sha)
    {es : List ExecutionEventEnvelope} (hes : validateEventLog sha es = .ok ()) (edit : Edit)
    (ht : edit.Tampers sha es) : validateEventLog sha (edit.apply es) ≠ .ok () := by
  intro hfs
  cases edit with
  | delete i =>
    -- the entry behind the deleted one moves down by one
    have hi : i + 1 < es.length := ht
    have hj : i < (es.eraseIdx i).length := by rw [List.length_eraseIdx_of_lt (by omega)]; omega
    have hkept : (es.eraseIdx i)[i] = es[i + 1] := List.getElem_eraseIdx_of_ge hj le_rfl
    have := (validateEventLog_kept hsha hes hfs hi hj (congrArg (·.eventHash) hkept)).1
    omega
  | insert i e =>
    -- the entry at the place of insertion moves up by one
    have hi : i < es.length := ht
    have hj : i + 1 < (es.insertIdx i e).length := by
      rw [List.length_insertIdx_of_le_length (by omega)]; omega
    have hkept : (es.insertIdx i e)[i + 1] = es[i] := List.getElem_insertIdx_of_gt (by omega) hj
    have := (validateEventLog_kept hsha hes hfs hi hj (congrArg (·.eventHash) hkept)).1
    omega
  | swap i j =>
    obtain ⟨hij, hj⟩ : i < j ∧ j < es.length := ht
    have hi : i < es.length := by omega
    have happly : (Edit.swap i j).apply es = (es.set i es[j]).set j es[i] := by
      simp only [Edit.apply, List.getElem?_eq_getElem hi, List.getElem?_eq_getElem hj]
    rw [happly] at hfs
    have hj' : j < ((es.set i es[j]).set j es[i]).length := by simpa using hj
    have hkept : ((es.set i es[j]).set j es[i])[j] = es[i] := List.getElem_set_self hj'
    have := (validateEventLog_kept hsha hes hfs hi hj' (congrArg (·.eventHash) hkept)).1
    omega
  | alter i e =>
    obtain ⟨old, hget, hne, hcase⟩ := ht
    obtain ⟨hi, rfl⟩ := List.getElem?_eq_some_iff.mp hget
    have hi' : i < (es.set i e).length := by simpa using hi
    have hself : (es.set i e)[i] = e := List.getElem_set_self hi'
    -- a prefix that reaches the altered entry shows the alteration
    have hdiff : ∀ n, i < n → es.take n ≠ (es.set i e).take n := by
      intro n hn heq
      have hat := congrArg (fun l => l[i]?) heq
      simp only [List.getElem?_take_of_lt hn] at hat
      rw [List.getElem?_eq_getElem hi, List.getElem?_eq_getElem hi', hself] at hat
      exact hne (Option.some.inj hat).symm
    rcases hcase with hlater | hsame | hdigest
    · have hl : i + 1 < (es.set i e).length := by simpa using hlater
      have hkept : (es.set i e)[i + 1] = es[i + 1] := List.getElem_set_ne (by omega) hl
      exact hdiff _ (by omega)
        (validateEventLog_kept hsha hes hfs hlater hl (congrArg (·.eventHash) hkept)).2
    · have hkept : (es.set i e)[i].eventHash = es[i].eventHash := by rw [hself, hsame]
      exact hdiff _ (by omega) (validateEventLog_kept hsha hes hfs hi hi' hkept).2
    · exact hdigest (validateEventLog_digest hfs (List.mem_set hi e))

/-- **Tamper evidence.**  Two valid logs of one length and one last hash are equal;
no edit that leaves a later hash, or the hash of the edited entry, as it was
passes validation; and neither does anything else that keeps the hash of an
entry of a valid log at another place or behind another history. -/
theorem hash_chain_integrity {sha : Sha256Hex} (hsha : EventHash.InjectiveOnShapes sha) :
    (∀ es fs : List ExecutionEventEnvelope, validateEventLog sha es = .ok () →
      validateEventLog sha fs = .ok () → es.length = fs.length →
      es.getLast?.map (·.eventHash) = fs.getLast?.map (·.eventHash) → es = fs) ∧
    (∀ es : List ExecutionEventEnvelope, validateEventLog sha es = .ok () → ∀ edit : Edit,
      edit.Tampers sha es → validateEventLog sha (edit.apply es) ≠ .ok ()) ∧
    (∀ es fs : List ExecutionEventEnvelope, validateEventLog sha es = .ok () →
      ∀ (i j : Nat) (hi : i < es.length) (hj : j < fs.length), fs[j].eventHash = es[i].eventHash →
        (i ≠ j ∨ es.take (i + 1) ≠ fs.take (j + 1)) → validateEventLog sha fs ≠ .ok ()) := by
  refine ⟨?_, fun es hes edit ht => validateEventLog_edit hsha hes edit ht, ?_⟩
  · intro es fs hes hfs hlen hlast
    exact Linking.eq_of_last_hash_eq (EventHash.linking_determined hsha)
      (validateEventLog_eq_ok.mp hes).1 (validateEventLog_eq_ok.mp hfs).1 hlen hlast
  · intro es fs hes i j hi hj hkept hdiff hfs
    exact Linking.not_chained_of_kept (EventHash.linking_determined hsha)
      (validateEventLog_eq_ok.mp hes).1 hi hj hkept hdiff (validateEventLog_eq_ok.mp hfs).1

/-! A run of two commands, with the digests its entries really have. -/

namespace SampleLog

def branch : BranchContext := { repoSlug := "repo", branchName := "main", safeBranch := "main" }

def bootstrap : ExecutionEventEnvelope where
  schemaVersion := 1
  eventId := "evt-1-6c03517950e0"
  sequence := 1
  timestamp := "2026-01-01T00:00:00Z"
  command := "preflight_bootstrap"
  planPath := none
  planRevision := none
  executionRunId := none
  branchContext := branch
  previousEventHash := none
  eventHash := "e8205db1ebbfbb8bc8c6cb9c9bdc2e8695a07725f830b172e12e331cdbde1e09"
  payload := .preflightBootstrapRecorded (.ofGet _ fun _ => none)

def contract : ExecutionEventEnvelope where
  schemaVersion := 1
  eventId := "evt-2-a197ec8a4504"
  sequence := 2
  timestamp := "2026-01-01T00:00:01Z"
  command := "record_contract"
  planPath := none
  planRevision := none
  executionRunId := none
  branchContext := branch
  previousEventHash := some bootstrap.eventHash
  eventHash := "64ade313e4454ca8fe02e42dca1ff9526ec0a5bc321b5e1cbb3d1c7ce60b0806"
  payload := .contractRecorded (.ofGet _ fun _ => none)

/-- The digest on the texts of the two entries, without collisions elsewhere. -/
def sha : Sha256Hex := fun text =>
  if text = bootstrap.hashShape.print then bootstrap.eventHash
  else if text = contract.hashShape.print then contract.eventHash
  else String.ofList ('-' :: text)

theorem sha_injective : Function.Injective sha := by
  have hb : ∀ t : List Char, String.ofList ('-' :: t) ≠ bootstrap.eventHash := by
    intro t h
    have := congrArg (fun s => s.toList.head?) h
    simp [bootstrap] at this
  have hc : ∀ t : List Char, String.ofList ('-' :: t) ≠ contract.eventHash := by
    intro t h
    have := congrArg (fun s => s.toList.head?) h
    simp [contract] at this
  have hbc : bootstrap.eventHash ≠ contract.eventHash := by
    simp only [bootstrap, contract, ne_eq, String.reduceEq, not_false_eq_true]
  intro s t h
  simp only [sha] at h
  split_ifs at h with h₁ h₂ h₃ h₄ h₅ h₆ h₇
  · exact h₁.trans h₂.symm
  · exact absurd h hbc
  · exact absurd h.symm (hb t)
  · exact absurd h.symm hbc
  · exact h₄.trans h₆.symm
  · exact absurd h.symm (hc t)
  · exact absurd h (hb s)
  · exact absurd h (hc s)
  · exact (List.cons.inj (String.ofList_injective h)).2

theorem sha_bootstrap : bootstrap.computeEventHash sha = bootstrap.eventHash := by
  rw [ExecutionEventEnvelope.computeEventHash, sha, if_pos rfl]

theorem sha_contract : contract.computeEventHash sha = contract.eventHash := by
  have hne : contract.hashShape.print ≠ bootstrap.hashShape.print := by
    intro h
    have := congrArg (·.sequence)
      (ExecutionEventEnvelope.hashShape_injective (RawJson.print_injective h))
    exact absurd this (by decide : (2 : UInt64) ≠ 1)
  rw [ExecutionEventEnvelope.computeEventHash, sha, if_neg hne, if_pos rfl]

theorem valid : validateEventLog sha [bootstrap, contract] = .ok () := by
  have hchain : (EventHash.linking sha).Chained [bootstrap, contract] := by
    simp only [Linking.Chained, Linking.ChainedFrom, EventHash.linking]
    exact ⟨rfl, sha_bootstrap, rfl, sha_contract, trivial⟩
  have hb : bootstrap.sequence = expectedSequence 0 := rfl
  have hc : contract.sequence = expectedSequence 1 := rfl
  exact validateEventLog_eq_ok.mpr ⟨hchain, numbered_cons.mpr ⟨⟨hb, rfl⟩,
    numbered_cons.mpr ⟨⟨hc, rfl⟩, fun i hi => by cases hi⟩⟩⟩

end SampleLog

/-- The log of a bootstrap and a contract without its first entry. -/
theorem hash_chain_integrity_sample :
    EventHash.InjectiveOnShapes SampleLog.sha ∧
    validateEventLog SampleLog.sha [SampleLog.bootstrap, SampleLog.contract] = .ok () ∧
    validateEventLog SampleLog.sha [SampleLog.contract] ≠ .ok () :=
  have hsha : EventHash.InjectiveOnShapes SampleLog.sha :=
    fun _ _ h => SampleLog.sha_injective h
  ⟨hsha, SampleLog.valid, (hash_chain_integrity hsha).2.1
    [SampleLog.bootstrap, SampleLog.contract] SampleLog.valid (.delete 0) (Nat.lt_succ_self 1)⟩

end FeatureForge
