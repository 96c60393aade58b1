import FeatureForge.Evidence.Readable

/-!
# What is read of any text

Whatever the text, an attempt that is read is `Clean`: what it names of other artifacts are
words, and no path of it has a line feed.  Each line that is read keeps this
(`AllClean.readLine`), so it holds of every attempt that is read (`clean_of_mem_parse`).
-/

namespace FeatureForge

namespace EvidenceReader

theorem clean_readFieldLine {draft : EvidenceAttempt} (h : Clean draft) (line : List Char) :
    Clean (readFieldLine line draft).2 := by
  have hprovenance : ∀ {next : EvidenceAttempt}, next.fileProofs = draft.fileProofs →
      (∀ v ∈ next.provenance, v ∈ draft.provenance ∨ ∃ value,
        parseOptionalEvidenceScalar value = some v) → Clean next := by
    intro next hproofs hnext
    refine ⟨by rw [hproofs]; exact h.path, ?_⟩
    intro v hv
    rcases hnext v hv with hv | ⟨value, hv⟩
    · exact h.provenance v hv
    · exact spaced_of_scalar hv
  have hfield : ∀ field ∈ evidenceFields, ∀ v, Clean (field.2 v draft) := by
    simp only [evidenceFields, List.forall_mem_cons, List.not_mem_nil, false_implies, implies_true,
      and_true]
    refine ⟨?_, ?_, ?_, ?_, ?_, ?_, ?_, ?_, ?_, ?_, ?_, ?_, ?_, ?_, ?_, ?_, ?_⟩ <;>
      exact fun v => hprovenance rfl (by
        simp only [EvidenceAttempt.provenance, List.mem_append, Option.mem_toList]
        grind)
  unfold readFieldLine
  cases hfind : evidenceFields.findSome? fun field =>
      (stripPrefix field.1.toList line).map fun v => field.2 v draft with
  | none => exact h
  | some next =>
    obtain ⟨field, hmem, hnext⟩ := List.exists_of_findSome?_eq_some hfind
    obtain ⟨v, _, rfl⟩ := Option.map_eq_some_iff.mp hnext
    exact hfield field hmem v

theorem not_mem_normalizePersistedFilePath {path path' : List Char} (hpath : '\n' ∉ path)
    (h : normalizePersistedFilePath path = some path') : '\n' ∉ path' := by
  unfold normalizePersistedFilePath at h
  dsimp only at h
  split_ifs at h
  refine not_mem_normalizeRepoRelativePath h ?_ (by decide)
  exact fun hmem => hpath ((infix_trimChars path).subset hmem)

theorem not_mem_readFileProof {entry : List Char} {proof : FileProof} (hentry : '\n' ∉ entry)
    (h : readFileProof entry = .ok proof) : '\n' ∉ proof.path := by
  unfold readFileProof at h
  cases hcut : splitOnce " | ".toList entry with
  | none => rw [hcut] at h; cases h
  | some cut =>
    obtain ⟨path, rest⟩ := cut
    rw [hcut] at h
    dsimp only at h
    cases hpath : normalizePersistedFilePath path with
    | none => rw [hpath] at h; cases h
    | some path' =>
      rw [hpath] at h
      cases h
      refine not_mem_normalizePersistedFilePath ?_ hpath
      rw [eq_of_splitOnce hcut, List.mem_append, not_or] at hentry
      exact hentry.1

theorem not_mem_readFile {entry : List Char} {proof : FileProof} (hentry : '\n' ∉ entry)
    (h : readFile entry = .ok proof) : '\n' ∉ proof.path := by
  unfold readFile at h
  cases hpath : normalizePersistedFilePath entry with
  | none => rw [hpath] at h; cases h
  | some path =>
    rw [hpath] at h
    cases h
    exact not_mem_normalizePersistedFilePath hentry hpath

/-- What has been read is clean. -/
def AllClean (r : EvidenceReader) : Prop :=
  (∀ attempt ∈ r.attempts, Clean attempt) ∧
    ∀ block draft, r.draft = some (block, draft) → Clean draft

namespace AllClean

variable {r r' : EvidenceReader} {draft : EvidenceAttempt} {line : List Char}

theorem draft_set (h : AllClean r) (block : EvidenceBlock) (hdraft : Clean draft) :
    AllClean { r with draft := some (block, draft) } := by
  refine ⟨h.1, ?_⟩
  rintro block' draft' ⟨⟩
  exact hdraft

theorem finish (h : AllClean r) (hfinish : r.finish = .ok r') : AllClean r' := by
  unfold EvidenceReader.finish at hfinish
  cases hdraft : r.draft with
  | none =>
    rw [hdraft] at hfinish
    cases hfinish
    exact h
  | some last =>
    obtain ⟨block, draft⟩ := last
    rw [hdraft] at hfinish
    cases hattempt : finishAttempt draft with
    | error e =>
      have hfinish : (finishAttempt draft >>= _) = Except.ok r' := hfinish
      rw [hattempt] at hfinish
      cases hfinish
    | ok attempt =>
      have hfinish : (finishAttempt draft >>= _) = Except.ok r' := hfinish
      rw [hattempt] at hfinish
      cases hfinish
      refine ⟨?_, by rintro block draft ⟨⟩⟩
      have hdraftClean := h.2 block draft hdraft
      intro a ha
      rcases List.mem_append.mp ha with ha | ha
      · exact h.1 a ha
      · rw [List.mem_singleton.mp ha, (finishAttempt_eq_ok hattempt).2]
        exact ⟨hdraftClean.path, hdraftClean.provenance⟩

theorem readHeading (h : AllClean r) (hread : r.readHeading line = .ok r') : AllClean r' := by
  unfold EvidenceReader.readHeading at hread
  split at hread
  · split at hread
    · cases hread
    · cases hread
      exact h
  · split at hread
    · cases hread
      exact h
    · split at hread
      · split at hread
        · cases hread
        · dsimp only at hread
          split_ifs at hread
          cases hread
          refine ⟨h.1, ?_⟩
          rintro block draft ⟨⟩
          exact ⟨nofun, nofun⟩
      · cases hread

theorem readAttemptLine (h : AllClean r) (hdraft : Clean draft)
    (hread : r.readAttemptLine line draft = .ok r') : AllClean r' := by
  unfold EvidenceReader.readAttemptLine at hread
  split_ifs at hread with hheading
  · cases hfinish : r.finish with
    | error e => rw [hfinish] at hread; cases hread
    | ok r₁ =>
      rw [hfinish] at hread
      exact (h.finish hfinish).readHeading hread
  · cases hread
    exact h.draft_set _ (clean_readFieldLine hdraft line)

theorem readProofLine (h : AllClean r) (hdraft : Clean draft) {block : EvidenceBlock}
    {read : List Char → Except JsonFailure FileProof}
    (hpath : ∀ entry proof, '\n' ∉ entry → read entry = .ok proof → '\n' ∉ proof.path)
    (hline : '\n' ∉ line) (hread : r.readProofLine block read line draft = .ok r') :
    AllClean r' := by
  unfold EvidenceReader.readProofLine at hread
  cases hentry : stripPrefix "- ".toList line with
  | none =>
    rw [hentry] at hread
    exact h.readAttemptLine hdraft hread
  | some entry =>
    rw [hentry] at hread
    have hread : (read entry >>= _) = Except.ok r' := hread
    cases hproof : read entry with
    | error e => rw [hproof] at hread; cases hread
    | ok proof =>
      rw [hproof] at hread
      cases hread
      refine h.draft_set _ ⟨?_, hdraft.provenance⟩
      intro p hp
      rcases List.mem_append.mp hp with hp | hp
      · exact hdraft.path p hp
      · rw [List.mem_singleton.mp hp]
        refine hpath entry proof ?_ hproof
        rw [eq_of_stripPrefix hentry, List.mem_append, not_or] at hline
        exact hline.2

theorem readCriterionLine (h : AllClean r) (hdraft : Clean draft)
    (hread : r.readCriterionLine line draft = .ok r') : AllClean r' := by
  unfold EvidenceReader.readCriterionLine at hread
  dsimp only at hread
  split_ifs at hread with hblank
  · cases hread
    exact h
  · split at hread
    · exact h.readAttemptLine hdraft hread
    · next value _ =>
      cases hread
      refine h.draft_set _ ⟨hdraft.path, ?_⟩
      intro v hv
      have hmem : v ∈ draft.provenance ∨ v ∈ (parseOptionalEvidenceScalar value).toList := by
        simp only [EvidenceAttempt.provenance, List.mem_append] at hv ⊢
        grind
      rcases hmem with hmem | hmem
      · exact hdraft.provenance v hmem
      · exact spaced_of_scalar (Option.mem_toList.mp hmem)

/-- **What is read of a line is clean.** -/
theorem readLine (h : AllClean r) (hline : '\n' ∉ line) (hread : r.readLine line = .ok r') :
    AllClean r' := by
  unfold EvidenceReader.readLine at hread
  cases hr : r.draft with
  | none =>
    rw [hr] at hread
    exact h.readHeading hread
  | some last =>
    obtain ⟨block, draft⟩ := last
    have hdraft := h.2 block draft hr
    rw [hr] at hread
    cases block with
    | fields => exact h.readAttemptLine hdraft hread
    | failingCriterionIds => exact h.readCriterionLine hdraft hread
    | filesProven =>
      exact h.readProofLine hdraft (fun _ _ => not_mem_readFileProof) hline hread
    | files => exact h.readProofLine hdraft (fun _ _ => not_mem_readFile) hline hread
    | verification =>
      cases hread
      refine h.draft_set _ ?_
      split
      · exact ⟨hdraft.path, hdraft.provenance⟩
      · exact hdraft

theorem readLines {ls : List (List Char)} (hls : ∀ line ∈ ls, '\n' ∉ line) :
    ∀ {r : EvidenceReader}, AllClean r → r.readLines ls = .ok r' → AllClean r' := by
  induction ls with
  | nil =>
    intro r h hread
    cases hread
    exact h
  | cons line ls ih =>
    intro r h hread
    rw [readLines_cons] at hread
    cases hline : r.readLine line with
    | error e => rw [hline] at hread; cases hread
    | ok r₁ =>
      rw [hline] at hread
      exact ih (fun l hl => hls l (List.mem_cons_of_mem _ hl))
        (h.readLine (hls line List.mem_cons_self) hline) hread

end AllClean

end EvidenceReader

/-- **Every attempt that is read is clean**, whatever the text. -/
theorem clean_of_mem_parse {source : List Char} {format : EvidenceFormat}
    {attempts : List EvidenceAttempt} (h : parseEvidenceAttempts source format = .ok attempts) :
    ∀ attempt ∈ attempts, Clean attempt := by
  unfold parseEvidenceAttempts at h
  cases hread : EvidenceReader.start.readLines (lines source) with
  | error e => rw [hread] at h; cases h
  | ok r =>
    rw [hread] at h
    have h : (r.finish >>= _) = Except.ok attempts := h
    cases hfinish : r.finish with
    | error e => rw [hfinish] at h; cases h
    | ok r' =>
      rw [hfinish] at h
      have hclean : r'.AllClean := EvidenceReader.AllClean.finish
        (EvidenceReader.AllClean.readLines (fun _ => not_mem_of_mem_lines)
          ⟨by simp [EvidenceReader.start], by simp [EvidenceReader.start]⟩ hread) hfinish
      have h : (if _ then _ else _) = Except.ok attempts := h
      split_ifs at h
      cases h
      exact hclean.1

end FeatureForge
