import FeatureForge.Evidence.Attempts

/-!
# Reading the lines of evidence

What the reader makes of the lines that the renderer writes.  A line that begins with the
label of a field goes to that field and to no other, whatever its value
(`readFieldLine_field`), because no two labels agree on the text they share.  The lines of an
attempt take the reader from a draft to a draft (`Takes`), and come together line after line
(`Takes.append`); `rereadDraft` is what the whole of them makes of the attempt.
-/

namespace FeatureForge

open EvidenceReader

/-! ### One line -/

theorem findSome?_only {α β : Type} {f : α → Option β} {xs : List α} (i : Fin xs.length) {b : β}
    (hi : f (xs.get i) = some b) (hother : ∀ j, j ≠ i → f (xs.get j) = none) :
    xs.findSome? f = some b := by
  rw [List.findSome?_eq_some_iff]
  refine ⟨xs.take i, xs.get i, xs.drop (i + 1), by simp, hi, ?_⟩
  intro a ha
  obtain ⟨j, hj, rfl⟩ := List.mem_take_iff_getElem.mp ha
  have hlt : j < i.val := by omega
  exact hother ⟨j, by omega⟩ (by intro h; rw [← h] at hlt; simp at hlt)

theorem evidenceFields_clash : ∀ i j : Fin evidenceFields.length, j ≠ i →
    clashes (evidenceFields.get j).1.toList (evidenceFields.get i).1.toList = true := by
  decide

theorem readFieldLine_field (i : Fin evidenceFields.length) (v : List Char)
    (draft : EvidenceAttempt) :
    readFieldLine ((evidenceFields.get i).1.toList ++ v) draft =
      (.fields, (evidenceFields.get i).2 v draft) := by
  unfold readFieldLine
  rw [findSome?_only i]
  · rw [stripPrefix_append]
    rfl
  · intro j hj
    rw [stripPrefix_of_clash (evidenceFields_clash i j hj)]
    rfl

/-- A line that no label and no block is the beginning of is not read. -/
theorem readFieldLine_unread {line : List Char}
    (hfields : ∀ field ∈ evidenceFields, stripPrefix field.1.toList line = none)
    (hblocks : ∀ block ∈ evidenceBlocks, line ≠ block.1.toList) (draft : EvidenceAttempt) :
    readFieldLine line draft = (.fields, draft) := by
  unfold readFieldLine
  have hfind : evidenceFields.findSome? (fun field =>
      (stripPrefix field.1.toList line).map fun v => field.2 v draft) = none := by
    rw [List.findSome?_eq_none_iff]
    intro field hfield
    rw [hfields field hfield]
    rfl
  have hblock : evidenceBlocks.find? (fun block => line = block.1.toList) = none := by
    rw [List.find?_eq_none]
    intro block hblock
    simpa using hblocks block hblock
  rw [hfind, hblock]
  rfl

theorem readFieldLine_unread_label {label : String}
    (hfields : ∀ i : Fin evidenceFields.length,
      clashes (evidenceFields.get i).1.toList label.toList = true)
    (hblocks : ∀ i : Fin evidenceBlocks.length,
      clashes (evidenceBlocks.get i).1.toList label.toList = true)
    (v : List Char) (draft : EvidenceAttempt) :
    readFieldLine (label.toList ++ v) draft = (.fields, draft) := by
  refine readFieldLine_unread ?_ ?_ draft
  · intro field hfield
    obtain ⟨i, rfl⟩ := List.get_of_mem hfield
    exact stripPrefix_of_clash (hfields i) v
  · intro block hblock heq
    obtain ⟨i, rfl⟩ := List.get_of_mem hblock
    have hclash := stripPrefix_of_clash (hblocks i) v
    rw [heq, stripPrefix_self] at hclash
    cases hclash

/-- The line that begins a block. -/
theorem readFieldLine_block {line : List Char} {block : EvidenceBlock}
    (hfields : ∀ i : Fin evidenceFields.length,
      stripPrefix (evidenceFields.get i).1.toList line = none)
    (hblock : ((evidenceBlocks.find? fun block => line = block.1.toList).map (·.2)) = some block)
    (draft : EvidenceAttempt) : readFieldLine line draft = (block, draft) := by
  unfold readFieldLine
  have hfind : evidenceFields.findSome? (fun field =>
      (stripPrefix field.1.toList line).map fun v => field.2 v draft) = none := by
    rw [List.findSome?_eq_none_iff]
    intro field hfield
    obtain ⟨i, rfl⟩ := List.get_of_mem hfield
    rw [hfields i]
    rfl
  rw [hfind, hblock]
  rfl

namespace EvidenceReader

theorem stripPrefix_dash {c : Char} (hc : c ≠ '-') (rest : List Char) :
    stripPrefix "- ".toList (c :: rest) = none := by
  show (if '-' = c then stripPrefix [' '] rest else none) = none
  exact if_neg (Ne.symm hc)

/-- **A line that is no bullet** is a line of the attempt, whatever block the reader is in. -/
theorem readLine_of_head {r : EvidenceReader} {block : EvidenceBlock} {draft : EvidenceAttempt}
    (hdraft : r.draft = some (block, draft)) (hopen : block ≠ .verification) {c : Char}
    (hblank : isWhitespace c = false) (hdash : c ≠ '-') (hbracket : c ≠ '[') (rest : List Char) :
    r.readLine (c :: rest) = r.readAttemptLine (c :: rest) draft := by
  rw [readLine, hdraft]
  cases block with
  | fields => rfl
  | failingCriterionIds =>
    show r.readCriterionLine (c :: rest) draft = _
    unfold readCriterionLine
    dsimp only
    rw [trimChars_cons hblank, if_neg, stripPrefix_dash hdash]
    rintro (h | h)
    · cases h
    · exact hbracket (List.cons.inj h).1
  | filesProven =>
    show r.readProofLine .filesProven readFileProof (c :: rest) draft = _
    rw [readProofLine, stripPrefix_dash hdash]
  | files =>
    show r.readProofLine .files readFile (c :: rest) draft = _
    rw [readProofLine, stripPrefix_dash hdash]
  | verification => exact absurd rfl hopen

theorem isHeading_of_ne {c : Char} (hc : c ≠ '#') (rest : List Char) :
    isHeading (c :: rest) = false := by
  have hclash : ∀ p : List Char, p.head? = some '#' → startsWith p (c :: rest) = false := by
    intro p hp
    obtain ⟨q, rfl⟩ := List.head?_eq_some_iff.mp hp
    rw [← Bool.not_eq_true, startsWith_iff]
    rintro ⟨t, ht⟩
    exact hc (List.cons.inj ht).1.symm
  rw [isHeading, hclash _ (by decide), hclash _ (by decide)]
  rfl

/-- A line in stars in an attempt. -/
theorem readLine_starred {r : EvidenceReader} {block : EvidenceBlock} {draft : EvidenceAttempt}
    (hdraft : r.draft = some (block, draft)) (hopen : block ≠ .verification)
    {line : List Char} (hline : line.head? = some '*') :
    r.readLine line = .ok { r with draft := some (readFieldLine line draft) } := by
  obtain ⟨rest, rfl⟩ := List.head?_eq_some_iff.mp hline
  rw [readLine_of_head hdraft hopen (by decide) (by decide) (by decide), readAttemptLine,
    isHeading_of_ne (by decide), if_neg Bool.false_ne_true]

/-! ### The lines of an attempt -/

/-- The lines take the reader from a draft to a draft. -/
def Takes (ls : List (List Char)) (f : EvidenceAttempt → Except JsonFailure EvidenceAttempt) :
    Prop :=
  ∀ (r : EvidenceReader) (block : EvidenceBlock) (draft : EvidenceAttempt),
    r.draft = some (block, draft) → block ≠ .verification →
      ∃ block', block' ≠ .verification ∧ r.readLines ls =
        (f draft).map fun draft' => { r with draft := some (block', draft') }

theorem readLines_append (r : EvidenceReader) (ls ls' : List (List Char)) :
    r.readLines (ls ++ ls') = r.readLines ls >>= fun r => r.readLines ls' := by
  rw [readLines, List.foldlM_append]
  rfl

theorem readLines_cons (r : EvidenceReader) (line : List Char) (ls : List (List Char)) :
    r.readLines (line :: ls) = r.readLine line >>= fun r => r.readLines ls := by
  rw [readLines, List.foldlM_cons]
  rfl

theorem readLines_single (r : EvidenceReader) (line : List Char) :
    r.readLines [line] = r.readLine line := by
  rw [readLines_cons]
  cases r.readLine line <;> rfl

namespace Takes

variable {ls ls' : List (List Char)} {f g : EvidenceAttempt → Except JsonFailure EvidenceAttempt}

theorem nil : Takes [] .ok := by
  intro r block draft hdraft hopen
  refine ⟨block, hopen, ?_⟩
  show Except.ok r = Except.ok { r with draft := some (block, draft) }
  rw [← hdraft]

theorem append (h : Takes ls f) (h' : Takes ls' g) : Takes (ls ++ ls') fun d => f d >>= g := by
  intro r block draft hdraft hopen
  obtain ⟨block₁, hopen₁, hread⟩ := h r block draft hdraft hopen
  rw [readLines_append, hread]
  show ∃ block', _ ∧ _ = Except.map _ (f draft >>= g)
  cases f draft with
  | error e => exact ⟨block₁, hopen₁, rfl⟩
  | ok draft₁ => exact h' { r with draft := some (block₁, draft₁) } block₁ draft₁ rfl hopen₁

theorem congr (h : Takes ls f) (hfg : ∀ d, f d = g d) : Takes ls g := by
  have : f = g := funext hfg
  rwa [← this]

/-- A line in stars. -/
theorem starred {line : List Char} {next : EvidenceAttempt → EvidenceAttempt}
    {block : EvidenceBlock} (hline : line.head? = some '*') (hopen : block ≠ .verification)
    (hread : ∀ draft, readFieldLine line draft = (block, next draft)) :
    Takes [line] fun d => .ok (next d) := by
  intro r block₀ draft hdraft hopen₀
  refine ⟨block, hopen, ?_⟩
  rw [readLines_single, readLine_starred hdraft hopen₀ hline, hread]
  rfl

theorem evidenceFields_head : ∀ i : Fin evidenceFields.length,
    (evidenceFields.get i).1.toList.head? = some '*' := by
  decide

/-- **The line of a field.** -/
theorem field (i : Fin evidenceFields.length) (v : List Char) :
    Takes [(evidenceFields.get i).1.toList ++ v] fun d => .ok ((evidenceFields.get i).2 v d) := by
  refine starred ?_ (by decide) (readFieldLine_field i v)
  rw [List.head?_append, evidenceFields_head i]
  rfl

/-- The line of a field that may be missing, with how the field is read, got and set. -/
theorem option (i : Fin evidenceFields.length) (v : Option (List Char))
    (read : List Char → Option (List Char)) (get : EvidenceAttempt → Option (List Char))
    (set : Option (List Char) → EvidenceAttempt → EvidenceAttempt)
    (hset : ∀ v d, (evidenceFields.get i).2 v d = set (read v) d) (hget : ∀ d, set (get d) d = d) :
    Takes (optionLine (evidenceFields.get i).1 v) fun d => .ok (set (v.elim (get d) read) d) := by
  cases v with
  | none =>
    simp only [Option.elim_none, hget]
    exact nil
  | some v =>
    simp only [Option.elim_some, ← hset]
    exact field i v

theorem criterion {r : EvidenceReader} {draft : EvidenceAttempt}
    (hdraft : r.draft = some (.failingCriterionIds, draft)) (id : List Char) :
    r.readLine ("- ".toList ++ ticked id) = .ok { r with
      draft := some (.failingCriterionIds, { draft with
        failingCriterionIds := draft.failingCriterionIds ++
          (parseOptionalEvidenceScalar (ticked id)).toList }) } := by
  have htrim : trimChars ("- ".toList ++ ticked id) = "- ".toList ++ ticked id := by
    refine trimChars_of_ends ?_ ?_
    · rintro c ⟨⟩
      decide
    · intro c hc
      have hlast : ("- ".toList ++ ticked id).getLast? = some '`' := by
        rw [ticked, ← List.append_assoc, List.getLast?_concat]
      rw [hlast] at hc
      cases hc
      decide
  rw [readLine, hdraft]
  show r.readCriterionLine _ draft = _
  unfold readCriterionLine
  dsimp only
  rw [htrim, if_neg, stripPrefix_append]
  rintro (h | h)
  · cases h
  · cases (List.cons.inj h).1

/-- The failing criteria, without their heading. -/
theorem criteria (ids : List (List Char)) : ∀ {r : EvidenceReader} {draft : EvidenceAttempt},
    r.draft = some (.failingCriterionIds, draft) →
      r.readLines (ids.map fun id => "- ".toList ++ ticked id) = .ok { r with
        draft := some (.failingCriterionIds, { draft with
          failingCriterionIds := draft.failingCriterionIds ++
            (ids.flatMap fun id => (parseOptionalEvidenceScalar (ticked id)).toList) }) } := by
  induction ids with
  | nil =>
    intro r draft hdraft
    show Except.ok r = _
    rw [List.flatMap_nil, List.append_nil, ← hdraft]
  | cons id ids ih =>
    intro r draft hdraft
    rw [List.map_cons, readLines_cons, criterion hdraft id]
    show EvidenceReader.readLines _ _ = _
    rw [ih rfl, List.flatMap_cons, List.append_assoc]

theorem failingCriteria (ids : List (List Char)) :
    Takes (if ids.isEmpty then [] else "**Failing Criterion IDs:**".toList ::
        ids.map fun id => "- ".toList ++ ticked id)
      fun d => .ok { d with failingCriterionIds := d.failingCriterionIds ++
        (ids.flatMap fun id => (parseOptionalEvidenceScalar (ticked id)).toList) } := by
  cases ids with
  | nil =>
    rw [if_pos List.isEmpty_nil]
    intro r block draft hdraft hopen
    refine ⟨block, hopen, ?_⟩
    show Except.ok r = Except.ok { r with draft := some (block, { draft with
      failingCriterionIds := draft.failingCriterionIds ++ [] }) }
    rw [List.append_nil, ← hdraft]
  | cons id ids =>
    rw [if_neg (by simp)]
    intro r block draft hdraft hopen
    refine ⟨.failingCriterionIds, by decide, ?_⟩
    rw [readLines_cons, readLine_starred hdraft hopen rfl,
      @readFieldLine_block _ .failingCriterionIds (by decide) (by decide)]
    exact criteria (id :: ids) rfl

/-- A bullet of a proven file is read at its first separator. -/
def rereadProof (proof : FileProof) : Except JsonFailure FileProof :=
  readFileProof (proof.path ++ (" | ".toList ++ proof.proof))

theorem proofs (ps : List FileProof) : ∀ {r : EvidenceReader} {draft : EvidenceAttempt},
    r.draft = some (.filesProven, draft) →
      r.readLines (ps.map fun proof =>
          "- ".toList ++ (proof.path ++ (" | ".toList ++ proof.proof))) =
        (ps.mapM rereadProof).map fun qs => { r with
          draft := some (.filesProven, { draft with
            files := draft.files ++ qs.map FileProof.path
            fileProofs := draft.fileProofs ++ qs }) } := by
  induction ps with
  | nil =>
    intro r draft hdraft
    show Except.ok r = Except.ok { r with draft := some (.filesProven, { draft with
      files := draft.files ++ [], fileProofs := draft.fileProofs ++ [] }) }
    rw [List.append_nil, List.append_nil, ← hdraft]
  | cons p ps ih =>
    intro r draft hdraft
    have hline : r.readLine ("- ".toList ++ (p.path ++ (" | ".toList ++ p.proof))) =
        (rereadProof p).map fun q =>
          { r with draft := some (.filesProven, draft.addProof q) } := by
      rw [readLine, hdraft]
      show r.readProofLine .filesProven readFileProof _ draft = _
      rw [readProofLine, stripPrefix_append]
      show (rereadProof p >>= _) = _
      cases rereadProof p <;> rfl
    rw [List.map_cons, readLines_cons, hline, List.mapM_cons]
    cases rereadProof p with
    | error e => rfl
    | ok q =>
      show EvidenceReader.readLines _ _ = _
      rw [ih rfl]
      show _ = Except.map _ ((ps.mapM rereadProof) >>= _)
      cases ps.mapM rereadProof with
      | error e => rfl
      | ok qs =>
        show Except.ok _ = Except.ok _
        simp [EvidenceAttempt.addProof]

theorem filesProven (ps : List FileProof) :
    Takes ("**Files Proven:**".toList :: ps.map fun proof =>
        "- ".toList ++ (proof.path ++ (" | ".toList ++ proof.proof)))
      fun d => (ps.mapM rereadProof).map fun qs => { d with
        files := d.files ++ qs.map FileProof.path
        fileProofs := d.fileProofs ++ qs } := by
  intro r block draft hdraft hopen
  refine ⟨.filesProven, by decide, ?_⟩
  rw [readLines_cons, readLine_starred hdraft hopen rfl,
    @readFieldLine_block _ .filesProven (by decide) (by decide)]
  show EvidenceReader.readLines _ _ = _
  rw [proofs ps rfl]
  cases ps.mapM rereadProof <;> rfl

/-- A line whose value is given by the heading. -/
theorem unread {label : String} (hhead : label.toList.head? = some '*')
    (hfields : ∀ i : Fin evidenceFields.length,
      clashes (evidenceFields.get i).1.toList label.toList = true)
    (hblocks : ∀ i : Fin evidenceBlocks.length,
      clashes (evidenceBlocks.get i).1.toList label.toList = true)
    (v : List Char) : Takes [label.toList ++ v] .ok := by
  refine starred ?_ (by decide) (readFieldLine_unread_label hfields hblocks v)
  rw [List.head?_append, hhead]
  rfl

/-- An empty line. -/
theorem blank : Takes [[]] .ok := by
  intro r block draft hdraft hopen
  have hunread : readFieldLine [] draft = (.fields, draft) :=
    readFieldLine_unread (by decide) (by decide) draft
  have hattempt : r.readAttemptLine [] draft = .ok { r with draft := some (.fields, draft) } := by
    rw [readAttemptLine, if_neg (by decide), hunread]
  rw [readLines_single, readLine, hdraft]
  cases block with
  | fields => exact ⟨.fields, by decide, hattempt⟩
  | failingCriterionIds =>
    refine ⟨.failingCriterionIds, by decide, ?_⟩
    show Except.ok r = Except.ok { r with draft := some (.failingCriterionIds, draft) }
    rw [← hdraft]
  | filesProven => exact ⟨.fields, by decide, hattempt⟩
  | files => exact ⟨.fields, by decide, hattempt⟩
  | verification => exact absurd rfl hopen

end Takes

/-! ### A whole attempt -/

/-- What the lines of an attempt make of a draft. -/
def rereadDraft (attempt draft : EvidenceAttempt) : Except JsonFailure EvidenceAttempt :=
  (attempt.fileProofs.mapM Takes.rereadProof).map fun proofs => { draft with
    status := normalizeWhitespace attempt.status
    recordedAt := attempt.recordedAt
    executionSource := normalizeWhitespace attempt.executionSource
    claim := normalizeWhitespace attempt.claim
    files := draft.files ++ proofs.map FileProof.path
    fileProofs := draft.fileProofs ++ proofs
    verifyCommand := attempt.verifyCommand.elim draft.verifyCommand readVerifyCommand
    verificationSummary := normalizeWhitespace attempt.verificationSummary
    invalidationReason := normalizeWhitespace attempt.invalidationReason
    packetFingerprint := some (normalizeWhitespace (attempt.packetFingerprint.getD unknown))
    headSha := some (normalizeWhitespace (attempt.headSha.getD unknown))
    baseSha := attempt.baseSha.elim draft.baseSha (fun v => some (normalizeWhitespace v))
    sourceContractPath :=
      attempt.sourceContractPath.elim draft.sourceContractPath parseOptionalEvidenceScalar
    sourceContractFingerprint :=
      (attempt.sourceContractFingerprint.map ticked).elim draft.sourceContractFingerprint
        parseOptionalEvidenceScalar
    sourceEvaluationReportFingerprint :=
      (attempt.sourceEvaluationReportFingerprint.map ticked).elim
        draft.sourceEvaluationReportFingerprint parseOptionalEvidenceScalar
    evaluatorVerdict :=
      attempt.evaluatorVerdict.elim draft.evaluatorVerdict parseOptionalEvidenceScalar
    failingCriterionIds := draft.failingCriterionIds ++
      (attempt.failingCriterionIds.flatMap fun id =>
        (parseOptionalEvidenceScalar (ticked id)).toList)
    sourceHandoffFingerprint :=
      (attempt.sourceHandoffFingerprint.map ticked).elim draft.sourceHandoffFingerprint
        parseOptionalEvidenceScalar
    repoStateBaselineHeadSha :=
      attempt.repoStateBaselineHeadSha.elim draft.repoStateBaselineHeadSha
        parseOptionalEvidenceScalar
    repoStateBaselineWorktreeFingerprint :=
      attempt.repoStateBaselineWorktreeFingerprint.elim
        draft.repoStateBaselineWorktreeFingerprint parseOptionalEvidenceScalar }

/-- The lines of an attempt under its heading. -/
def attemptBody (attempt : EvidenceAttempt) : List (List Char) :=
  ["**Status:** ".toList ++ attempt.status,
    "**Recorded At:** ".toList ++ attempt.recordedAt,
    "**Execution Source:** ".toList ++ attempt.executionSource,
    "**Task Number:** ".toList ++ decimal attempt.taskNumber,
    "**Step Number:** ".toList ++ decimal attempt.stepNumber,
    "**Packet Fingerprint:** ".toList ++ attempt.packetFingerprint.getD unknown,
    "**Head SHA:** ".toList ++ attempt.headSha.getD unknown] ++
  optionLine "**Base SHA:** " attempt.baseSha ++
  ["**Claim:** ".toList ++ attempt.claim] ++
  optionLine "**Source Contract Path:** " attempt.sourceContractPath ++
  optionLine "**Source Contract Fingerprint:** "
    (attempt.sourceContractFingerprint.map ticked) ++
  optionLine "**Source Evaluation Report Fingerprint:** "
    (attempt.sourceEvaluationReportFingerprint.map ticked) ++
  optionLine "**Evaluator Verdict:** " attempt.evaluatorVerdict ++
  (if attempt.failingCriterionIds.isEmpty then []
    else "**Failing Criterion IDs:**".toList ::
      attempt.failingCriterionIds.map fun id => "- ".toList ++ ticked id) ++
  optionLine "**Source Handoff Fingerprint:** "
    (attempt.sourceHandoffFingerprint.map ticked) ++
  optionLine "**Repo State Baseline Head SHA:** " attempt.repoStateBaselineHeadSha ++
  optionLine "**Repo State Baseline Worktree Fingerprint:** "
    attempt.repoStateBaselineWorktreeFingerprint ++
  "**Files Proven:**".toList ::
    attempt.fileProofs.map (fun proof => "- ".toList ++ (proof.path ++ (" | ".toList ++ proof.proof))) ++
  optionLine "**Verify Command:** " attempt.verifyCommand ++
  ["**Verification Summary:** ".toList ++ attempt.verificationSummary,
    "**Invalidation Reason:** ".toList ++ attempt.invalidationReason]

theorem attemptLines_eq (attempt : EvidenceAttempt) : attemptLines attempt =
    ("#### Attempt ".toList ++ decimal attempt.attemptNumber) :: attemptBody attempt := rfl

namespace Takes

section

variable (attempt : EvidenceAttempt)

/-- The lines of an attempt that every attempt begins with. -/
theorem heads : Takes
    ["**Status:** ".toList ++ attempt.status,
      "**Recorded At:** ".toList ++ attempt.recordedAt,
      "**Execution Source:** ".toList ++ attempt.executionSource,
      "**Task Number:** ".toList ++ decimal attempt.taskNumber,
      "**Step Number:** ".toList ++ decimal attempt.stepNumber,
      "**Packet Fingerprint:** ".toList ++ attempt.packetFingerprint.getD unknown,
      "**Head SHA:** ".toList ++ attempt.headSha.getD unknown]
    fun d => .ok { d with
      status := normalizeWhitespace attempt.status
      recordedAt := attempt.recordedAt
      executionSource := normalizeWhitespace attempt.executionSource
      packetFingerprint := some (normalizeWhitespace (attempt.packetFingerprint.getD unknown))
      headSha := some (normalizeWhitespace (attempt.headSha.getD unknown)) } := by
  have htask : Takes ["**Task Number:** ".toList ++ decimal attempt.taskNumber] .ok :=
    unread (by decide) (by decide) (by decide) _
  have hstep : Takes ["**Step Number:** ".toList ++ decimal attempt.stepNumber] .ok :=
    unread (by decide) (by decide) (by decide) _
  have hheads := (field ⟨0, by decide⟩ attempt.status).append <|
    (field ⟨1, by decide⟩ attempt.recordedAt).append <|
    (field ⟨2, by decide⟩ attempt.executionSource).append <| htask.append <| hstep.append <|
    (field ⟨3, by decide⟩ (attempt.packetFingerprint.getD unknown)).append
      (field ⟨4, by decide⟩ (attempt.headSha.getD unknown))
  exact hheads

/-- The lines of an attempt that name where it comes from. -/
theorem sources : Takes
    (optionLine "**Base SHA:** " attempt.baseSha ++
      ["**Claim:** ".toList ++ attempt.claim] ++
      optionLine "**Source Contract Path:** " attempt.sourceContractPath ++
      optionLine "**Source Contract Fingerprint:** "
        (attempt.sourceContractFingerprint.map ticked) ++
      optionLine "**Source Evaluation Report Fingerprint:** "
        (attempt.sourceEvaluationReportFingerprint.map ticked))
    fun d => .ok { d with
      baseSha := attempt.baseSha.elim d.baseSha (fun v => some (normalizeWhitespace v))
      claim := normalizeWhitespace attempt.claim
      sourceContractPath :=
        attempt.sourceContractPath.elim d.sourceContractPath parseOptionalEvidenceScalar
      sourceContractFingerprint :=
        (attempt.sourceContractFingerprint.map ticked).elim d.sourceContractFingerprint
          parseOptionalEvidenceScalar
      sourceEvaluationReportFingerprint :=
        (attempt.sourceEvaluationReportFingerprint.map ticked).elim
          d.sourceEvaluationReportFingerprint parseOptionalEvidenceScalar } := by
  have hbase := option ⟨5, by decide⟩ attempt.baseSha (fun v => some (normalizeWhitespace v))
    EvidenceAttempt.baseSha (fun v d => { d with baseSha := v })
    (fun _ _ => rfl) fun _ => rfl
  have hpath := option ⟨7, by decide⟩ attempt.sourceContractPath parseOptionalEvidenceScalar
    EvidenceAttempt.sourceContractPath (fun v d => { d with sourceContractPath := v })
    (fun _ _ => rfl) fun _ => rfl
  have hcontract := option ⟨8, by decide⟩ (attempt.sourceContractFingerprint.map ticked) parseOptionalEvidenceScalar
    EvidenceAttempt.sourceContractFingerprint (fun v d => { d with sourceContractFingerprint := v })
    (fun _ _ => rfl) fun _ => rfl
  have hreport := option ⟨9, by decide⟩ (attempt.sourceEvaluationReportFingerprint.map ticked) parseOptionalEvidenceScalar
    EvidenceAttempt.sourceEvaluationReportFingerprint (fun v d => { d with sourceEvaluationReportFingerprint := v })
    (fun _ _ => rfl) fun _ => rfl
  exact (((hbase.append (field ⟨6, by decide⟩ attempt.claim)).append hpath).append
    hcontract).append hreport

/-- The lines of an attempt that name what it was evaluated by. -/
theorem evaluations : Takes
    (optionLine "**Evaluator Verdict:** " attempt.evaluatorVerdict ++
      (if attempt.failingCriterionIds.isEmpty then []
        else "**Failing Criterion IDs:**".toList ::
          attempt.failingCriterionIds.map fun id => "- ".toList ++ ticked id) ++
      optionLine "**Source Handoff Fingerprint:** "
        (attempt.sourceHandoffFingerprint.map ticked) ++
      optionLine "**Repo State Baseline Head SHA:** " attempt.repoStateBaselineHeadSha ++
      optionLine "**Repo State Baseline Worktree Fingerprint:** "
        attempt.repoStateBaselineWorktreeFingerprint)
    fun d => .ok { d with
      evaluatorVerdict :=
        attempt.evaluatorVerdict.elim d.evaluatorVerdict parseOptionalEvidenceScalar
      failingCriterionIds := d.failingCriterionIds ++
        (attempt.failingCriterionIds.flatMap fun id =>
          (parseOptionalEvidenceScalar (ticked id)).toList)
      sourceHandoffFingerprint :=
        (attempt.sourceHandoffFingerprint.map ticked).elim d.sourceHandoffFingerprint
          parseOptionalEvidenceScalar
      repoStateBaselineHeadSha :=
        attempt.repoStateBaselineHeadSha.elim d.repoStateBaselineHeadSha
          parseOptionalEvidenceScalar
      repoStateBaselineWorktreeFingerprint :=
        attempt.repoStateBaselineWorktreeFingerprint.elim
          d.repoStateBaselineWorktreeFingerprint parseOptionalEvidenceScalar } := by
  have hverdict := option ⟨10, by decide⟩ attempt.evaluatorVerdict parseOptionalEvidenceScalar
    EvidenceAttempt.evaluatorVerdict (fun v d => { d with evaluatorVerdict := v })
    (fun _ _ => rfl) fun _ => rfl
  have hhandoff := option ⟨11, by decide⟩ (attempt.sourceHandoffFingerprint.map ticked) parseOptionalEvidenceScalar
    EvidenceAttempt.sourceHandoffFingerprint (fun v d => { d with sourceHandoffFingerprint := v })
    (fun _ _ => rfl) fun _ => rfl
  have hbaseline := option ⟨12, by decide⟩ attempt.repoStateBaselineHeadSha parseOptionalEvidenceScalar
    EvidenceAttempt.repoStateBaselineHeadSha (fun v d => { d with repoStateBaselineHeadSha := v })
    (fun _ _ => rfl) fun _ => rfl
  have hworktree := option ⟨13, by decide⟩ attempt.repoStateBaselineWorktreeFingerprint parseOptionalEvidenceScalar
    EvidenceAttempt.repoStateBaselineWorktreeFingerprint (fun v d => { d with repoStateBaselineWorktreeFingerprint := v })
    (fun _ _ => rfl) fun _ => rfl
  exact (((hverdict.append (failingCriteria attempt.failingCriterionIds)).append
    hhandoff).append hbaseline).append hworktree

/-- The lines of an attempt under its files. -/
theorem tails : Takes
    (optionLine "**Verify Command:** " attempt.verifyCommand ++
      ["**Verification Summary:** ".toList ++ attempt.verificationSummary,
        "**Invalidation Reason:** ".toList ++ attempt.invalidationReason])
    fun d => .ok { d with
      verifyCommand := attempt.verifyCommand.elim d.verifyCommand readVerifyCommand
      verificationSummary := normalizeWhitespace attempt.verificationSummary
      invalidationReason := normalizeWhitespace attempt.invalidationReason } := by
  have hverify := option ⟨14, by decide⟩ attempt.verifyCommand readVerifyCommand
    EvidenceAttempt.verifyCommand (fun v d => { d with verifyCommand := v })
    (fun _ _ => rfl) fun _ => rfl
  exact hverify.append ((field ⟨15, by decide⟩ attempt.verificationSummary).append
    (field ⟨16, by decide⟩ attempt.invalidationReason))

/-- **The lines of an attempt** take a draft to what is read back of it. -/
theorem body : Takes (attemptBody attempt) (rereadDraft attempt) := by
  have hbody := (((heads attempt).append (sources attempt)).append (evaluations attempt)).append
    ((filesProven attempt.fileProofs).append (tails attempt))
  unfold attemptBody
  simp only [List.append_assoc] at hbody ⊢
  refine hbody.congr ?_
  intro draft
  unfold rereadDraft
  show ((attempt.fileProofs.mapM rereadProof).map _ >>= _) = _
  cases attempt.fileProofs.mapM rereadProof <;> rfl

end

end Takes

end EvidenceReader

end FeatureForge
