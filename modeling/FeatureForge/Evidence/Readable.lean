import FeatureForge.Lib.Except
import FeatureForge.Evidence.Reading

/-!
# Attempts that are read back as they were

`reread` is what the reader makes of an attempt by itself: the draft of its lines, checked.
`Recorded` is what `complete`, `reopen` and `transfer` make sure of in the attempts they
record.  Of these, exactly the `Readable` ones are read back as they were: the separator of
a proof must not be met within its path, a command must not be in backticks, a reason must
not be the one that stands for no reason, and what the provenance names must be words.
-/

namespace FeatureForge

open EvidenceReader

/-! ### Lists that a function leaves as they are -/

theorem flatMap_toList_eq_self {α : Type} {f : α → Option α} : ∀ {xs : List α},
    (xs.flatMap fun x => (f x).toList) = xs ↔ ∀ x ∈ xs, f x = some x := by
  have hlength : ∀ xs : List α, (xs.flatMap fun x => (f x).toList).length ≤ xs.length := by
    intro xs
    induction xs with
    | nil => exact Nat.le_refl 0
    | cons x xs ih =>
      rw [List.flatMap_cons, List.length_append, List.length_cons]
      have : (f x).toList.length ≤ 1 := by cases f x <;> simp
      omega
  intro xs
  induction xs with
  | nil => exact iff_of_true rfl (by simp)
  | cons x xs ih =>
    rw [List.flatMap_cons, List.forall_mem_cons, ← ih]
    constructor
    · intro h
      cases hx : f x with
      | none =>
        rw [hx, Option.toList_none, List.nil_append] at h
        have := hlength xs
        rw [h, List.length_cons] at this
        omega
      | some y =>
        rw [hx, Option.toList_some, List.singleton_append] at h
        obtain ⟨hy, hrest⟩ := List.cons.inj h
        exact ⟨by rw [hy], hrest⟩
    · rintro ⟨hx, hxs⟩
      rw [hx, hxs]
      rfl

theorem elim_eq_self {α : Type} {f : α → Option α} {v : Option α} :
    v.elim none f = v ↔ ∀ x ∈ v, f x = some x := by
  cases v with
  | none => simp
  | some x => simp

theorem elim_map_eq_self {α : Type} {f : α → Option α} {g : α → α} {v : Option α} :
    (v.map g).elim none f = v ↔ ∀ x ∈ v, f (g x) = some x := by
  cases v with
  | none => simp
  | some x => simp

/-! ### Values between backticks -/

theorem trimMatches_cons (c : Char) (s : List Char) :
    trimMatches c (c :: s) = trimMatches c s := by
  rw [trimMatches, trimStartChar, List.dropWhile_cons_of_pos (by simp)]
  rfl

theorem trimMatches_concat (c : Char) (s : List Char) :
    trimMatches c (s ++ [c]) = trimMatches c s := by
  unfold trimMatches trimStartChar
  rw [List.dropWhile_append]
  split_ifs with hs
  · rw [List.isEmpty_iff.mp hs, List.dropWhile_cons_of_pos (by simp)]
    rfl
  · unfold trimEndChar
    rw [List.reverse_append, List.reverse_singleton, List.singleton_append,
      List.dropWhile_cons_of_pos (by simp)]

theorem length_trimMatches_le (c : Char) (s : List Char) :
    (trimMatches c s).length ≤ s.length := by
  unfold trimMatches trimEndChar trimStartChar
  rw [List.length_reverse]
  refine (List.dropWhile_suffix _).length_le.trans ?_
  rw [List.length_reverse]
  exact (List.dropWhile_suffix _).length_le

theorem infix_trimMatches (c : Char) (s : List Char) : trimMatches c s <:+: s := by
  unfold trimMatches trimEndChar trimStartChar
  refine List.IsInfix.trans ?_ (List.dropWhile_suffix (p := (· == c))).isInfix
  rw [← List.reverse_infix, List.reverse_reverse]
  exact (List.dropWhile_suffix _).isInfix

/-- No backtick at either end. -/
def unticked (v : List Char) : Prop := v.head? ≠ some '`' ∧ v.getLast? ≠ some '`'

theorem trimMatches_of_unticked {v : List Char} (h : unticked v) : trimMatches '`' v = v := by
  have hdrop : ∀ s : List Char, s.head? ≠ some '`' → s.dropWhile (· == '`') = s := by
    intro s hs
    cases s with
    | nil => rfl
    | cons c s =>
      rw [List.dropWhile_cons_of_neg]
      simpa using hs
  unfold trimMatches trimEndChar trimStartChar
  rw [hdrop v h.1, hdrop v.reverse (by rw [List.head?_reverse]; exact h.2), List.reverse_reverse]

/-- **What is left as it is between the ends** has no backticks there. -/
theorem trim_trimMatches_eq_self {v : List Char} (hv : trimChars v = v) :
    trimChars (trimMatches '`' v) = v ↔ unticked v := by
  constructor
  · intro h
    have hle : v.length ≤ (trimMatches '`' v).length := by
      calc v.length = (trimChars (trimMatches '`' v)).length := by rw [h]
        _ ≤ (trimMatches '`' v).length := length_trimChars_le _
    constructor
    · intro hhead
      obtain ⟨w, rfl⟩ := List.head?_eq_some_iff.mp hhead
      rw [trimMatches_cons, List.length_cons] at hle
      have := length_trimMatches_le '`' w
      omega
    · intro hlast
      obtain ⟨w, rfl⟩ := List.getLast?_eq_some_iff.mp hlast
      rw [trimMatches_concat, List.length_append, List.length_singleton] at hle
      have := length_trimMatches_le '`' w
      omega
  · intro h
    rw [trimMatches_of_unticked h, hv]

/-- A value of words without a backtick at either end. -/
def Plain (v : List Char) : Prop := spaced true v = true ∧ unticked v

theorem ne_nil_of_spaced {v : List Char} (h : spaced true v = true) : v ≠ [] := by
  rintro rfl
  cases h

theorem normalizeWhitespace_of_spaced {v : List Char} (h : spaced true v = true) :
    normalizeWhitespace v = v := respace_eq_self.mpr (Or.inr h)

/-- Scalars come out spaced. -/
theorem spaced_of_scalar {value v : List Char} (h : parseOptionalEvidenceScalar value = some v) :
    spaced true v = true := by
  unfold parseOptionalEvidenceScalar at h
  dsimp only at h
  split_ifs at h with hne
  have hv := Option.some.inj h
  have hinfix : v <:+: respace value := by
    rw [← hv]
    exact (infix_trimChars _).trans ((infix_trimMatches _ _).trans (infix_trimChars _))
  have hrespace : respace value ≠ [] := by
    intro hnil
    rw [hnil, List.infix_nil] at hinfix
    exact hne (hv.trans hinfix)
  refine spaced_of_infix (spaced_respace value hrespace) hinfix (by rw [← hv]; exact hne) ?_ ?_
  · rw [← hv]
    exact trimChars_head _
  · rw [← hv]
    exact trimChars_last _

theorem scalar_of_spaced {v : List Char} (h : spaced true v = true) :
    parseOptionalEvidenceScalar v = some v ↔ unticked v := by
  rw [← trim_trimMatches_eq_self (trimChars_of_spaced h)]
  have hnormal := normalizeWhitespace_of_spaced h
  unfold parseOptionalEvidenceScalar
  dsimp only
  rw [hnormal, trimChars_of_spaced h]
  split_ifs with hne
  · rw [hne]
    exact iff_of_false (by simp) (Ne.symm (ne_nil_of_spaced h))
  · exact Option.some_inj

/-- **The values that are read back.** -/
theorem scalar_eq_self {v : List Char} : parseOptionalEvidenceScalar v = some v ↔ Plain v := by
  constructor
  · intro h
    have hspaced := spaced_of_scalar h
    exact ⟨hspaced, (scalar_of_spaced hspaced).mp h⟩
  · exact fun h => (scalar_of_spaced h.1).mpr h.2

theorem spaced_ticked {v : List Char} (h : spaced true v = true) : spaced true (ticked v) = true := by
  rw [ticked, List.cons_append, spaced, if_neg (by decide), spaced_append (spaced_false_of_true h)]
  decide

/-- In backticks, too. -/
theorem scalar_ticked_eq_self {v : List Char} :
    parseOptionalEvidenceScalar (ticked v) = some v ↔ Plain v := by
  have hiff : spaced true v = true →
      (parseOptionalEvidenceScalar (ticked v) = some v ↔ unticked v) := by
    intro h
    rw [← trim_trimMatches_eq_self (trimChars_of_spaced h)]
    have hticked := spaced_ticked h
    have hnormal := normalizeWhitespace_of_spaced hticked
    have htrim : trimMatches '`' (ticked v) = trimMatches '`' v := by
      rw [ticked, List.cons_append, trimMatches_cons, trimMatches_concat]
    unfold parseOptionalEvidenceScalar
    dsimp only
    rw [hnormal, trimChars_of_spaced hticked, htrim]
    split_ifs with hne
    · rw [hne]
      exact iff_of_false (by simp) (Ne.symm (ne_nil_of_spaced h))
    · exact Option.some_inj
  constructor
  · intro h
    have hspaced := spaced_of_scalar h
    exact ⟨hspaced, (hiff hspaced).mp h⟩
  · exact fun h => (hiff h.1).mpr h.2

theorem readVerifyCommand_eq_self {command : List Char} (h : spaced true command = true) :
    readVerifyCommand command = some command ↔
      unticked command ∨ parseOptionalEvidenceScalar command = none := by
  rw [readVerifyCommand, normalizeWhitespace_of_spaced h, if_neg (ne_nil_of_spaced h), ← scalar_of_spaced h]
  cases parseOptionalEvidenceScalar command with
  | none => simp
  | some v => simp

theorem readVerifyCommand_ne_none {command : List Char} (h : spaced true command = true) :
    readVerifyCommand command ≠ none := by
  rw [readVerifyCommand, normalizeWhitespace_of_spaced h, if_neg (ne_nil_of_spaced h)]
  cases parseOptionalEvidenceScalar command <;> simp

/-! ### Proven files -/

theorem rereadProof_eq_self {p : FileProof} (h : normalizeRepoRelativePath p.path = some p.path) :
    Takes.rereadProof p = .ok p ↔
      trimChars p.path = p.path ∧ containsText " | ".toList (p.path ++ " |".toList) = false := by
  have hsplit : splitOnce " | ".toList (p.path ++ (" | ".toList ++ p.proof)) =
      some (p.path, p.proof) ↔ containsText " | ".toList (p.path ++ " |".toList) = false :=
    splitOnce_append_iff (by decide)
  rw [← hsplit]
  unfold Takes.rereadProof readFileProof
  constructor
  · intro hread
    cases hcut : splitOnce " | ".toList (p.path ++ (" | ".toList ++ p.proof)) with
    | none => rw [hcut] at hread; cases hread
    | some cut =>
      obtain ⟨path, proof⟩ := cut
      rw [hcut] at hread
      dsimp only at hread
      cases hpath : normalizePersistedFilePath path with
      | none => rw [hpath] at hread; cases hread
      | some path' =>
        rw [hpath] at hread
        cases p with
        | mk p q =>
          cases hread
          -- the proof is what comes after the separator, so the path is what comes before it
          have happend := eq_of_splitOnce hcut
          dsimp only at happend hcut h ⊢
          have hsame : path = path' := (List.append_cancel_right happend).symm
          subst hsame
          refine ⟨?_, rfl⟩
          unfold normalizePersistedFilePath at hpath
          dsimp only at hpath
          split_ifs at hpath
          have hlength := length_normalizeRepoRelativePath hpath
          exact (infix_trimChars path).eq_of_length_le hlength
  · rintro ⟨htrim, hcut⟩
    rw [hcut]
    dsimp only
    rw [normalizePersistedFilePath, htrim, if_neg (normalizeRepoRelativePath_ne_nil h), h]

/-! ### Recorded attempts -/

/-- What `complete`, `reopen` and `transfer` make sure of in the attempts they record. -/
structure Recorded (attempt : EvidenceAttempt) : Prop where
  status : attempt.status = "Completed".toList ∨ attempt.status = "Invalidated".toList
  recordedAt : trimChars attempt.recordedAt ≠ []
  recordedAt_line : '\n' ∉ attempt.recordedAt ∧ '\r' ∉ attempt.recordedAt
  executionSource : attempt.executionSource = "featureforge:executing-plans".toList ∨
    attempt.executionSource = "featureforge:subagent-driven-development".toList
  claim : spaced true attempt.claim = true
  reason : spaced true attempt.invalidationReason = true
  proofs : attempt.fileProofs ≠ []
  files : attempt.files = attempt.fileProofs.map FileProof.path
  path : ∀ p ∈ attempt.fileProofs, normalizeRepoRelativePath p.path = some p.path
  proof : ∀ p ∈ attempt.fileProofs, '\n' ∉ p.proof ∧ '\r' ∉ p.proof
  summary : spaced true attempt.verificationSummary = true
  /-- The summary of a command is the command in backticks and its result. -/
  verified : match attempt.verifyCommand with
    | some command => spaced true command = true ∧
      ∃ result, attempt.verificationSummary = ticked command ++ (" -> ".toList ++ result)
    | none => ∃ summary,
      attempt.verificationSummary = "Manual inspection only: ".toList ++ summary
  packet : ∃ v, attempt.packetFingerprint = some v ∧ spaced true v = true
  head : ∃ v, attempt.headSha = some v ∧ spaced true v = true
  base : ∃ v, attempt.baseSha = some v ∧ spaced true v = true

/-- What an attempt names of the artifacts it comes from. -/
def EvidenceAttempt.provenance (attempt : EvidenceAttempt) : List (List Char) :=
  attempt.sourceContractPath.toList ++ attempt.sourceContractFingerprint.toList ++
    attempt.sourceEvaluationReportFingerprint.toList ++ attempt.evaluatorVerdict.toList ++
    attempt.failingCriterionIds ++ attempt.sourceHandoffFingerprint.toList ++
    attempt.repoStateBaselineHeadSha.toList ++
    attempt.repoStateBaselineWorktreeFingerprint.toList

/-- The recorded attempts that are read back as they were. -/
structure Readable (attempt : EvidenceAttempt) : Prop where
  path : ∀ p ∈ attempt.fileProofs, trimChars p.path = p.path ∧ '\n' ∉ p.path ∧
    containsText " | ".toList (p.path ++ " |".toList) = false
  command : ∀ command ∈ attempt.verifyCommand,
    unticked command ∨ parseOptionalEvidenceScalar command = none
  reason : attempt.status = "Invalidated".toList → attempt.invalidationReason ≠ "N/A".toList
  provenance : ∀ v ∈ attempt.provenance, Plain v

/-- What can be said of every attempt that is read. -/
structure Clean (attempt : EvidenceAttempt) : Prop where
  path : ∀ p ∈ attempt.fileProofs, '\n' ∉ p.path
  provenance : ∀ v ∈ attempt.provenance, spaced true v = true

theorem Readable.clean {attempt : EvidenceAttempt} (h : Readable attempt) : Clean attempt :=
  ⟨fun p hp => (h.path p hp).2.1, fun v hv => (h.provenance v hv).1⟩

/-- What the lines of an attempt are read as. -/
def reread (attempt : EvidenceAttempt) : Except JsonFailure EvidenceAttempt :=
  rereadDraft attempt
    (.blank attempt.taskNumber attempt.stepNumber attempt.attemptNumber) >>= finishAttempt

theorem finishAttempt_eq_ok {draft attempt : EvidenceAttempt}
    (h : finishAttempt draft = .ok attempt) :
    (draft.status = "Invalidated".toList → draft.invalidationReason ≠ "N/A".toList) ∧
      attempt = { draft with
        verifyCommand := draft.verifyCommand.or
          (parseCommandVerificationSummary draft.verificationSummary) } := by
  unfold finishAttempt at h
  split_ifs at h with h₁ h₂ h₃ h₄ h₅ h₆ h₇ h₈ h₉
  refine ⟨?_, (Except.ok.inj h).symm⟩
  intro hstatus hreason
  exact h₉ ⟨hstatus, hreason⟩

namespace Recorded

variable {attempt : EvidenceAttempt}

theorem normal_status (h : Recorded attempt) :
    normalizeWhitespace attempt.status = attempt.status := by
  rcases h.status with hs | hs <;> rw [hs] <;> decide

theorem normal_executionSource (h : Recorded attempt) :
    normalizeWhitespace attempt.executionSource = attempt.executionSource := by
  rcases h.executionSource with hs | hs <;> rw [hs] <;> decide

theorem summary_command (h : Recorded attempt) : attempt.verifyCommand.or
    (parseCommandVerificationSummary attempt.verificationSummary) = attempt.verifyCommand := by
  have hverified := h.verified
  cases hcommand : attempt.verifyCommand with
  | some command => rfl
  | none =>
    rw [hcommand] at hverified
    obtain ⟨summary, hsummary⟩ := hverified
    have hnormal := normalizeWhitespace_of_spaced h.summary
    have hhead : stripPrefix ['`'] attempt.verificationSummary = none := by
      rw [hsummary]
      exact stripPrefix_of_clash (by decide) summary
    rw [parseCommandVerificationSummary, hnormal, hhead]
    rfl

/-- A recorded attempt passes the checks of the reader, but for a reason that stands for
none. -/
theorem finish (h : Recorded attempt)
    (hreason : attempt.status = "Invalidated".toList →
      attempt.invalidationReason ≠ "N/A".toList) :
    finishAttempt attempt = .ok attempt := by
  have hfiles : attempt.files ≠ [] := by
    rw [h.files]
    simpa using h.proofs
  have hsource : attempt.executionSource ≠ [] := by
    rcases h.executionSource with hs | hs <;> rw [hs] <;> decide
  unfold finishAttempt
  rw [if_neg (fun hs => h.status.elim hs.1 hs.2), if_neg h.recordedAt, if_neg hsource,
    if_neg (fun hs => h.executionSource.elim hs.1 hs.2), if_neg (ne_nil_of_spaced h.claim),
    if_neg hfiles, if_neg (ne_nil_of_spaced h.summary), if_neg (ne_nil_of_spaced h.reason),
    if_neg (fun hs => hreason hs.1 hs.2), h.summary_command]

theorem reread_of_readable (h : Recorded attempt) (hreadable : Readable attempt) :
    reread attempt = .ok attempt := by
  have hproofs : attempt.fileProofs.mapM Takes.rereadProof = .ok attempt.fileProofs := by
    rw [mapM_eq_self]
    intro p hp
    have hpath := hreadable.path p hp
    exact (rereadProof_eq_self (h.path p hp)).mpr ⟨hpath.1, hpath.2.2⟩
  have hcommand : attempt.verifyCommand.elim none readVerifyCommand = attempt.verifyCommand := by
    rw [elim_eq_self]
    intro command hmem
    have hverified := h.verified
    rw [Option.mem_def.mp hmem] at hverified
    exact (readVerifyCommand_eq_self hverified.1).mpr (hreadable.command command hmem)
  have hscalar : ∀ {v : Option (List Char)}, (∀ x ∈ v, x ∈ attempt.provenance) →
      v.elim none parseOptionalEvidenceScalar = v := by
    intro v hv
    rw [elim_eq_self]
    exact fun x hx => scalar_eq_self.mpr (hreadable.provenance x (hv x hx))
  have hticked : ∀ {v : Option (List Char)}, (∀ x ∈ v, x ∈ attempt.provenance) →
      (v.map ticked).elim none parseOptionalEvidenceScalar = v := by
    intro v hv
    rw [elim_map_eq_self]
    exact fun x hx => scalar_ticked_eq_self.mpr (hreadable.provenance x (hv x hx))
  have hcriteria : (attempt.failingCriterionIds.flatMap fun id =>
      (parseOptionalEvidenceScalar (ticked id)).toList) = attempt.failingCriterionIds := by
    rw [@flatMap_toList_eq_self _ fun id => parseOptionalEvidenceScalar (ticked id)]
    intro id hid
    exact scalar_ticked_eq_self.mpr
      (hreadable.provenance id (by simp [EvidenceAttempt.provenance, hid]))
  obtain ⟨packet, hpacket, hpacketSpaced⟩ := h.packet
  obtain ⟨head, hhead, hheadSpaced⟩ := h.head
  obtain ⟨base, hbase, hbaseSpaced⟩ := h.base
  have hbaseElim : attempt.baseSha.elim none (fun v => some (normalizeWhitespace v)) =
      attempt.baseSha := by
    rw [hbase, Option.elim_some, normalizeWhitespace_of_spaced hbaseSpaced]
  have hpacketGet : some (normalizeWhitespace (attempt.packetFingerprint.getD unknown)) =
      attempt.packetFingerprint := by
    rw [hpacket, Option.getD_some, normalizeWhitespace_of_spaced hpacketSpaced]
  have hheadGet : some (normalizeWhitespace (attempt.headSha.getD unknown)) =
      attempt.headSha := by
    rw [hhead, Option.getD_some, normalizeWhitespace_of_spaced hheadSpaced]
  have hpath := @hscalar attempt.sourceContractPath
    fun x hx => by simp [EvidenceAttempt.provenance, Option.mem_def.mp hx]
  have hcontract := @hticked attempt.sourceContractFingerprint
    fun x hx => by simp [EvidenceAttempt.provenance, Option.mem_def.mp hx]
  have hreport := @hticked attempt.sourceEvaluationReportFingerprint
    fun x hx => by simp [EvidenceAttempt.provenance, Option.mem_def.mp hx]
  have hverdict := @hscalar attempt.evaluatorVerdict
    fun x hx => by simp [EvidenceAttempt.provenance, Option.mem_def.mp hx]
  have hhandoff := @hticked attempt.sourceHandoffFingerprint
    fun x hx => by simp [EvidenceAttempt.provenance, Option.mem_def.mp hx]
  have hbaseline := @hscalar attempt.repoStateBaselineHeadSha
    fun x hx => by simp [EvidenceAttempt.provenance, Option.mem_def.mp hx]
  have hworktree := @hscalar attempt.repoStateBaselineWorktreeFingerprint
    fun x hx => by simp [EvidenceAttempt.provenance, Option.mem_def.mp hx]
  have hdraft : rereadDraft attempt (.blank attempt.taskNumber attempt.stepNumber
      attempt.attemptNumber) = .ok attempt := by
    unfold rereadDraft
    rw [hproofs]
    show Except.ok _ = Except.ok attempt
    simp only [EvidenceAttempt.blank, List.nil_append, h.normal_status, h.normal_executionSource,
      normalizeWhitespace_of_spaced h.claim, normalizeWhitespace_of_spaced h.summary,
      normalizeWhitespace_of_spaced h.reason, ← h.files, hcommand, hcriteria,
      hbaseElim, hpacketGet, hheadGet, hpath, hcontract, hreport, hverdict, hhandoff, hbaseline,
      hworktree]
  rw [reread, hdraft]
  exact h.finish hreadable.reason

theorem readable_of_reread (h : Recorded attempt) (hclean : Clean attempt)
    (hreread : reread attempt = .ok attempt) : Readable attempt := by
  unfold reread rereadDraft at hreread
  cases hproofs : attempt.fileProofs.mapM Takes.rereadProof with
  | error e => rw [hproofs] at hreread; cases hreread
  | ok proofs =>
    rw [hproofs] at hreread
    obtain ⟨hreason, heq⟩ := finishAttempt_eq_ok hreread
    have hsame : attempt.fileProofs = proofs := congrArg EvidenceAttempt.fileProofs heq
    rw [← hsame, mapM_eq_self] at hproofs
    have hscalar : ∀ {v : Option (List Char)}, v = v.elim none parseOptionalEvidenceScalar →
        ∀ x ∈ v, Plain x :=
      fun hv x hx => scalar_eq_self.mp (elim_eq_self.mp hv.symm x hx)
    have hticked : ∀ {v : Option (List Char)},
        v = (v.map ticked).elim none parseOptionalEvidenceScalar → ∀ x ∈ v, Plain x := by
      exact fun hv x hx => scalar_ticked_eq_self.mp (elim_map_eq_self.mp hv.symm x hx)
    constructor
    · intro p hp
      have hpath := (rereadProof_eq_self (h.path p hp)).mp (hproofs p hp)
      exact ⟨hpath.1, hclean.path p hp, hpath.2⟩
    · have hcommand := congrArg EvidenceAttempt.verifyCommand heq
      intro command hmem
      have hverified := h.verified
      rw [Option.mem_def.mp hmem] at hverified
      rw [Option.mem_def.mp hmem] at hcommand
      dsimp only at hcommand
      rw [Option.elim_some] at hcommand
      rw [← readVerifyCommand_eq_self hverified.1]
      cases hread : readVerifyCommand command with
      | none => exact absurd hread (readVerifyCommand_ne_none hverified.1)
      | some c =>
        rw [hread, Option.some_or] at hcommand
        exact hcommand.symm
    · intro hstatus hna
      refine hreason ?_ ?_
      · exact h.normal_status.trans hstatus
      · show normalizeWhitespace attempt.invalidationReason = _
        rw [normalizeWhitespace_of_spaced h.reason, hna]
    · have hpath := hscalar (congrArg EvidenceAttempt.sourceContractPath heq)
      have hcontract := hticked (congrArg EvidenceAttempt.sourceContractFingerprint heq)
      have hreport := hticked (congrArg EvidenceAttempt.sourceEvaluationReportFingerprint heq)
      have hverdict := hscalar (congrArg EvidenceAttempt.evaluatorVerdict heq)
      have hcriteria := congrArg EvidenceAttempt.failingCriterionIds heq
      have hhandoff := hticked (congrArg EvidenceAttempt.sourceHandoffFingerprint heq)
      have hbaseline := hscalar (congrArg EvidenceAttempt.repoStateBaselineHeadSha heq)
      have hworktree :=
        hscalar (congrArg EvidenceAttempt.repoStateBaselineWorktreeFingerprint heq)
      intro v hv
      simp only [EvidenceAttempt.provenance, List.mem_append, Option.mem_toList] at hv
      rcases hv with ((((((hv | hv) | hv) | hv) | hv) | hv) | hv) | hv
      · exact hpath v hv
      · exact hcontract v hv
      · exact hreport v hv
      · exact hverdict v hv
      · exact scalar_ticked_eq_self.mp (flatMap_toList_eq_self.mp hcriteria.symm v hv)
      · exact hhandoff v hv
      · exact hbaseline v hv
      · exact hworktree v hv

end Recorded

end FeatureForge
