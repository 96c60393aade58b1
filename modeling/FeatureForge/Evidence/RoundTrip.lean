import FeatureForge.Evidence.Clean
import FeatureForge.Evidence.Sections

/-!
# The round trip of evidence

The text of evidence is the header, and for each step its heading and its attempts.  Where
its lines are lines, it is read as its attempts, each as it is by itself
(`parseEvidenceAttempts_render`).  From this follows when the text of recorded attempts is
read as the attempts it was written from (`evidence_round_trip_iff`): what is read is clean,
so a text that is read back has no line ends within its lines.
-/

namespace FeatureForge

/-! ### Lines without line ends -/

/-- A text without line ends. -/
def tame (v : List Char) : Prop := '\n' ∉ v ∧ '\r' ∉ v

instance (v : List Char) : Decidable (tame v) := inferInstanceAs (Decidable (_ ∧ _))

theorem tame_append {v w : List Char} (hv : tame v) (hw : tame w) : tame (v ++ w) := by
  unfold tame
  rw [List.mem_append, List.mem_append, not_or, not_or]
  exact ⟨⟨hv.1, hw.1⟩, hv.2, hw.2⟩

theorem tame_of_spaced {v : List Char} (h : spaced true v = true) : tame v :=
  ⟨not_mem_of_spaced h (by decide) (by decide), not_mem_of_spaced h (by decide) (by decide)⟩

theorem tame_decimal (n : UInt32) : tame (decimal n) :=
  ⟨not_mem_decimal (by decide) n, not_mem_decimal (by decide) n⟩

theorem singleLine_of_tame {v : List Char} (h : tame v) : singleLine v :=
  ⟨h.1, fun hlast => h.2 (List.mem_of_getLast? hlast)⟩

theorem singleLine_label {label v : List Char} (hlabel : tame label) (hv : tame v) :
    singleLine (label ++ v) := singleLine_of_tame (tame_append hlabel hv)

theorem singleLine_optionLine {label : String} {v : Option (List Char)}
    (hlabel : tame label.toList) (hv : ∀ x ∈ v, tame x) :
    ∀ line ∈ optionLine label v, singleLine line := by
  intro line hline
  obtain ⟨x, hx, rfl⟩ := List.mem_map.mp hline
  exact singleLine_label hlabel (hv x (Option.mem_toList.mp hx))

theorem tame_ticked {v : List Char} (h : tame v) : tame (ticked v) :=
  tame_append (@tame_append ['`'] v (by decide) h) (by decide)

/-- **The lines of a recorded attempt are lines**, where nothing it names has a line end. -/
theorem singleLine_attemptLines {attempt : EvidenceAttempt} (h : Recorded attempt)
    (hclean : Clean attempt) : ∀ line ∈ attemptLines attempt, singleLine line := by
  have hprovenance : ∀ {v : Option (List Char)}, (∀ x ∈ v, x ∈ attempt.provenance) →
      ∀ x ∈ v, tame x := fun hv x hx => tame_of_spaced (hclean.provenance x (hv x hx))
  have hticked : ∀ {v : Option (List Char)}, (∀ x ∈ v, x ∈ attempt.provenance) →
      ∀ x ∈ v.map ticked, tame x := by
    intro v hv x hx
    obtain ⟨y, hy, rfl⟩ := Option.map_eq_some_iff.mp hx
    exact tame_ticked (hprovenance hv y hy)
  have hstatus : tame attempt.status := by
    rcases h.status with hs | hs <;> rw [hs] <;> decide
  have hsource : tame attempt.executionSource := by
    rcases h.executionSource with hs | hs <;> rw [hs] <;> decide
  have hcommand : ∀ command ∈ attempt.verifyCommand, tame command := by
    intro command hcommand
    have hverified := h.verified
    rw [Option.mem_def.mp hcommand] at hverified
    exact tame_of_spaced hverified.1
  obtain ⟨packet, hpacket, hpacketSpaced⟩ := h.packet
  obtain ⟨head, hhead, hheadSpaced⟩ := h.head
  obtain ⟨base, hbase, hbaseSpaced⟩ := h.base
  unfold attemptLines
  simp only [List.forall_mem_append, List.forall_mem_cons, List.not_mem_nil, false_implies,
    implies_true, and_true]
  have hlabel : ∀ {label : String} {v : List Char}, tame label.toList → tame v →
      singleLine (label.toList ++ v) := singleLine_label
  have hunknown : tame unknown := by decide
  refine ⟨⟨⟨⟨⟨⟨⟨⟨⟨⟨⟨⟨⟨?heads, ?base⟩, ?claim⟩, ?path⟩, ?contract⟩, ?report⟩, ?verdict⟩, ?criteria⟩,
    ?handoff⟩, ?baseline⟩, ?worktree⟩, ?proven, ?proofs⟩, ?verify⟩, ?summary, ?reason⟩
  case heads =>
    exact ⟨hlabel (by decide) (tame_decimal _), hlabel (by decide) hstatus,
      hlabel (by decide) h.recordedAt_line, hlabel (by decide) hsource,
      hlabel (by decide) (tame_decimal _), hlabel (by decide) (tame_decimal _),
      hlabel (by decide) (by rw [hpacket]; exact tame_of_spaced hpacketSpaced),
      hlabel (by decide) (by rw [hhead]; exact tame_of_spaced hheadSpaced)⟩
  case base =>
    refine singleLine_optionLine (by decide) ?_
    rw [hbase]
    rintro x ⟨⟩
    exact tame_of_spaced hbaseSpaced
  case claim => exact hlabel (by decide) (tame_of_spaced h.claim)
  case path =>
    exact singleLine_optionLine (by decide)
      (hprovenance fun x hx => by simp [EvidenceAttempt.provenance, Option.mem_def.mp hx])
  case contract =>
    exact singleLine_optionLine (by decide)
      (hticked fun x hx => by simp [EvidenceAttempt.provenance, Option.mem_def.mp hx])
  case report =>
    exact singleLine_optionLine (by decide)
      (hticked fun x hx => by simp [EvidenceAttempt.provenance, Option.mem_def.mp hx])
  case verdict =>
    exact singleLine_optionLine (by decide)
      (hprovenance fun x hx => by simp [EvidenceAttempt.provenance, Option.mem_def.mp hx])
  case criteria =>
    split_ifs
    · exact fun x hx => absurd hx List.not_mem_nil
    · rw [List.forall_mem_cons]
      refine ⟨singleLine_of_tame (by decide), ?_⟩
      intro x hx
      obtain ⟨id, hid, rfl⟩ := List.mem_map.mp hx
      exact hlabel (by decide) (tame_ticked (tame_of_spaced
        (hclean.provenance id (by simp [EvidenceAttempt.provenance, hid]))))
  case handoff =>
    exact singleLine_optionLine (by decide)
      (hticked fun x hx => by simp [EvidenceAttempt.provenance, Option.mem_def.mp hx])
  case baseline =>
    exact singleLine_optionLine (by decide)
      (hprovenance fun x hx => by simp [EvidenceAttempt.provenance, Option.mem_def.mp hx])
  case worktree =>
    exact singleLine_optionLine (by decide)
      (hprovenance fun x hx => by simp [EvidenceAttempt.provenance, Option.mem_def.mp hx])
  case proven => exact singleLine_of_tame (by decide)
  case proofs =>
    intro x hx
    obtain ⟨p, hp, rfl⟩ := List.mem_map.mp hx
    have hproof := singleLine_label (by decide : tame " | ".toList) (h.proof p hp)
    constructor
    · rw [List.mem_append, List.mem_append, not_or, not_or]
      exact ⟨by decide, hclean.path p hp, hproof.1⟩
    · -- the line ends as its proof does
      have hne : " | ".toList ++ p.proof ≠ [] := by
        intro hnil
        exact absurd (List.append_eq_nil_iff.mp hnil).1 (by decide)
      rw [← List.append_assoc, List.getLast?_append_of_ne_nil _ hne]
      exact hproof.2
  case verify => exact singleLine_optionLine (by decide) hcommand
  case summary => exact hlabel (by decide) (tame_of_spaced h.summary)
  case reason => exact hlabel (by decide) (tame_of_spaced h.reason)

/-! ### The text of evidence -/

/-- The header of the evidence. -/
def headerText (input : EvidenceProjectionInput) : List Char :=
  joinLines (headerLines input) ++ ['\n']

theorem stripPrefix_of_not_startsWith : ∀ {p s : List Char}, startsWith p s = false →
    stripPrefix p s = none := by
  intro p s h
  cases hcut : stripPrefix p s with
  | none => rfl
  | some v =>
    rw [eq_of_stripPrefix hcut, ← Bool.not_eq_true, startsWith_iff] at h
    exact absurd (List.prefix_append _ _) h

theorem readHeading_of_not_heading (r : EvidenceReader) {line : List Char}
    (h : EvidenceReader.isHeading line = false) : r.readHeading line = .ok r := by
  rw [EvidenceReader.isHeading, Bool.or_eq_false_iff] at h
  rw [EvidenceReader.readHeading, stripPrefix_of_not_startsWith h.2]
  dsimp only
  rw [stripPrefix_of_not_startsWith h.1]

/-- Lines before the first heading are not read. -/
theorem readLines_of_not_heading {r : EvidenceReader} (hdraft : r.draft = none) :
    ∀ {ls : List (List Char)}, (∀ line ∈ ls, EvidenceReader.isHeading line = false) →
      r.readLines ls = .ok r := by
  intro ls
  induction ls with
  | nil => intro _; rfl
  | cons line ls ih =>
    intro h
    rw [List.forall_mem_cons] at h
    rw [EvidenceReader.readLines_cons, EvidenceReader.readLine_of_none hdraft,
      readHeading_of_not_heading r h.1]
    exact ih h.2

section

variable {input : EvidenceProjectionInput} {steps : List StepKey} {attempts : List EvidenceAttempt}

theorem render_nil (input : EvidenceProjectionInput) (steps : List StepKey) :
    renderEvidenceProjectionSource input steps [] = headerText input := by
  have hsteps : steps.flatMap (stepLines []) = [] := by
    rw [List.flatMap_eq_nil_iff]
    exact fun step _ => EvidenceReader.stepLines_of_nil rfl
  rw [renderEvidenceProjectionSource, evidenceLines, hsteps, List.append_nil]
  rfl

/-- The lines of the text are the ones that were put together. -/
theorem lines_render (hsingle : ∀ line ∈ steps.flatMap (stepLines attempts), singleLine line) :
    lines (renderEvidenceProjectionSource input steps attempts) =
      lines (headerText input) ++ steps.flatMap (stepLines attempts) := by
  have hbody : (steps.flatMap (stepLines attempts)).flatMap (fun l => lines (l ++ ['\n'])) =
      steps.flatMap (stepLines attempts) := by
    have hmap := List.flatMap_congr fun line hline => lines_of_singleLine (hsingle line hline)
    rw [hmap, List.flatMap_singleton']
  rw [renderEvidenceProjectionSource, evidenceLines, lines_joinLines (by simp [headerLines]),
    List.flatMap_append, hbody, headerText, lines_joinLines (by simp [headerLines])]

/-- **The text of evidence is read as its attempts**, each as it is by itself. -/
theorem parseEvidenceAttempts_render (hsteps : steps.Nodup)
    (hseq : ∀ step ∈ steps, EvidenceReader.Sequential 1 (attemptsAt attempts step))
    (hheader : ∀ line ∈ lines (headerText input), EvidenceReader.isHeading line = false)
    (hsingle : ∀ line ∈ steps.flatMap (stepLines attempts), singleLine line)
    (hne : steps.flatMap (attemptsAt attempts) ≠ []) (format : EvidenceFormat) :
    parseEvidenceAttempts (renderEvidenceProjectionSource input steps attempts) format =
      (steps.flatMap (attemptsAt attempts)).mapM reread := by
  have hread : EvidenceReader.start.readLines
      (lines (renderEvidenceProjectionSource input steps attempts)) >>= EvidenceReader.finish =
        EvidenceReader.settle (steps.flatMap (stepLines attempts)) .start := by
    rw [lines_render hsingle, EvidenceReader.readLines_append,
      readLines_of_not_heading rfl hheader]
    rfl
  have hsettle := @EvidenceReader.settle_stepsLines attempts steps hsteps .start rfl hseq
  have hparse : parseEvidenceAttempts (renderEvidenceProjectionSource input steps attempts) format =
      (EvidenceReader.start.readLines
        (lines (renderEvidenceProjectionSource input steps attempts)) >>=
          EvidenceReader.finish) >>= fun r =>
        if format = .v2 ∧ r.attempts = [] ∧ containsText "### Task ".toList
            (renderEvidenceProjectionSource input steps attempts) then
          .error (malformedEvidence "Execution evidence v2 attempts could not be parsed.")
        else .ok r.attempts := by
    unfold parseEvidenceAttempts
    cases EvidenceReader.start.readLines
      (lines (renderEvidenceProjectionSource input steps attempts)) <;> rfl
  rw [hparse, hread]
  cases hr : EvidenceReader.settle (steps.flatMap (stepLines attempts)) .start with
  | error e =>
    rw [hr] at hsettle
    cases hmap : (steps.flatMap (attemptsAt attempts)).mapM reread with
    | error e' =>
      rw [hmap] at hsettle
      cases hsettle
      rfl
    | ok parsed => rw [hmap] at hsettle; cases hsettle
  | ok r =>
    rw [hr] at hsettle
    cases hmap : (steps.flatMap (attemptsAt attempts)).mapM reread with
    | error e' => rw [hmap] at hsettle; cases hsettle
    | ok parsed =>
      rw [hmap] at hsettle
      have hparsed : r.attempts = [] ++ parsed := Except.ok.inj hsettle
      rw [List.nil_append] at hparsed
      have hparsedNe : r.attempts ≠ [] := hparsed ▸ mapM_ne_nil hne hmap
      show (if _ then _ else _) = _
      rw [if_neg (fun h => hparsedNe h.2.1), hparsed]

theorem attemptsAt_grouped (hsteps : steps.Nodup) {step : StepKey} (hstep : step ∈ steps) :
    attemptsAt (steps.flatMap (attemptsAt attempts)) step = attemptsAt attempts step := by
  have hsame : attemptsAt (attemptsAt attempts step) step = attemptsAt attempts step :=
    List.filter_filter.trans (by simp [attemptsAt])
  have hother : ∀ other, other ≠ step → attemptsAt (attemptsAt attempts other) step = [] := by
    intro other hne
    rw [attemptsAt, List.filter_eq_nil_iff]
    intro attempt hmem heq
    have hkey : attempt.key = other := of_decide_eq_true (List.mem_filter.mp hmem).2
    exact hne (hkey.symm.trans (of_decide_eq_true heq))
  induction steps with
  | nil => exact absurd hstep List.not_mem_nil
  | cons first steps ih =>
    rw [List.nodup_cons] at hsteps
    rw [List.flatMap_cons, attemptsAt, List.filter_append]
    rcases List.mem_cons.mp hstep with rfl | hstep
    · have hrest : (steps.flatMap (attemptsAt attempts)).filter
          (fun attempt => attempt.key = step) = [] := by
        rw [List.filter_eq_nil_iff]
        intro attempt hmem heq
        obtain ⟨other, hmemStep, hmemAttempt⟩ := List.mem_flatMap.mp hmem
        have hkey : attempt.key = other := of_decide_eq_true (List.mem_filter.mp hmemAttempt).2
        have hkey' : attempt.key = step := of_decide_eq_true heq
        rw [hkey] at hkey'
        exact hsteps.1 (hkey' ▸ hmemStep)
      rw [hrest, List.append_nil]
      exact hsame
    · have hne : first ≠ step := fun heq => hsteps.1 (heq ▸ hstep)
      have hfirst := hother first hne
      have hrest := ih hsteps.2 hstep
      rw [attemptsAt] at hfirst hrest
      rw [hfirst, hrest, List.nil_append]

/-- The text depends only on the attempts at each step. -/
theorem render_grouped (hsteps : steps.Nodup) :
    renderEvidenceProjectionSource input steps (steps.flatMap (attemptsAt attempts)) =
      renderEvidenceProjectionSource input steps attempts := by
  have hlines : steps.flatMap (stepLines (steps.flatMap (attemptsAt attempts))) =
      steps.flatMap (stepLines attempts) := by
    refine List.flatMap_congr fun step hstep => ?_
    rw [stepLines, stepLines, attemptsAt_grouped hsteps hstep]
  rw [renderEvidenceProjectionSource, evidenceLines, hlines]
  rfl

theorem mem_grouped (hkeys : ∀ attempt ∈ attempts, attempt.key ∈ steps)
    {attempt : EvidenceAttempt} :
    attempt ∈ steps.flatMap (attemptsAt attempts) ↔ attempt ∈ attempts := by
  constructor
  · intro h
    obtain ⟨step, _, hmem⟩ := List.mem_flatMap.mp h
    exact (List.mem_filter.mp hmem).1
  · intro h
    exact List.mem_flatMap.mpr
      ⟨attempt.key, hkeys attempt h, List.mem_filter.mpr ⟨h, decide_eq_true rfl⟩⟩

theorem singleLine_stepsLines (hrecorded : ∀ attempt ∈ attempts, Recorded attempt)
    (hclean : ∀ attempt ∈ attempts, Clean attempt) :
    ∀ line ∈ steps.flatMap (stepLines attempts), singleLine line := by
  have hattempts : ∀ as : List EvidenceAttempt, (∀ attempt ∈ as, attempt ∈ attempts) →
      ∀ line ∈ attemptsLines as, singleLine line := by
    intro as
    induction as with
    | nil => exact fun _ line hline => absurd hline List.not_mem_nil
    | cons attempt as ih =>
      intro hmem
      rw [List.forall_mem_cons] at hmem
      have hfirst := singleLine_attemptLines (hrecorded attempt hmem.1) (hclean attempt hmem.1)
      cases as with
      | nil => exact hfirst
      | cons attempt' as =>
        show ∀ line ∈ attemptLines attempt ++ [] :: attemptsLines (attempt' :: as), singleLine line
        rw [List.forall_mem_append, List.forall_mem_cons]
        exact ⟨hfirst, singleLine_of_tame (by decide), ih hmem.2⟩
  intro line hline
  obtain ⟨step, _, hline⟩ := List.mem_flatMap.mp hline
  by_cases h : attemptsAt attempts step = []
  · rw [EvidenceReader.stepLines_of_nil h] at hline
    exact absurd hline List.not_mem_nil
  · rw [EvidenceReader.stepLines_of_ne h, List.singleton_append, List.singleton_append] at hline
    rcases List.mem_cons.mp hline with rfl | hline
    · exact singleLine_of_tame (by decide)
    · rcases List.mem_cons.mp hline with rfl | hline
      · exact singleLine_label (by decide) (tame_append (tame_decimal _)
          (tame_append (by decide) (tame_decimal _)))
      · exact hattempts _ (fun a ha => (List.mem_filter.mp ha).1) line hline

/-- A header without attempts under it. -/
theorem parse_headerText
    (hheader : ∀ line ∈ lines (headerText input), EvidenceReader.isHeading line = false)
    (format : EvidenceFormat) : parseEvidenceAttempts (headerText input) format =
      if format = .v2 ∧ containsText "### Task ".toList (headerText input) = true then
        .error (malformedEvidence "Execution evidence v2 attempts could not be parsed.")
      else .ok [] := by
  have hread : EvidenceReader.start.readLines (lines (headerText input)) =
      .ok EvidenceReader.start := readLines_of_not_heading rfl hheader
  unfold parseEvidenceAttempts
  rw [hread]
  by_cases h : format = .v2 ∧ containsText "### Task ".toList (headerText input) = true
  · rw [if_pos h]
    exact if_pos ⟨h.1, rfl, h.2⟩
  · rw [if_neg h]
    exact if_neg fun hc => h ⟨hc.1, hc.2.2⟩

/-- **The round trip of evidence**: the text of recorded attempts is read as the attempts it
was written from, step after step, exactly where each of them is readable. -/
theorem evidence_round_trip_iff (hsteps : steps.Nodup)
    (hkeys : ∀ attempt ∈ attempts, attempt.key ∈ steps)
    (hrecorded : ∀ attempt ∈ attempts, Recorded attempt)
    (hseq : ∀ step ∈ steps, EvidenceReader.Sequential 1 (attemptsAt attempts step))
    (hheader : ∀ line ∈ lines (headerText input), EvidenceReader.isHeading line = false)
    (format : EvidenceFormat) :
    (∃ parsed,
      parseEvidenceAttempts (renderEvidenceProjectionSource input steps attempts) format =
        .ok parsed ∧
      parsed = steps.flatMap (attemptsAt attempts) ∧
      renderEvidenceProjectionSource input steps parsed =
        renderEvidenceProjectionSource input steps attempts) ↔
    (∀ attempt ∈ attempts, Readable attempt) ∧
      (attempts = [] → format = .v2 → containsText "### Task ".toList (headerText input) = false)
    := by
  by_cases hnil : attempts = []
  · subst hnil
    have hgrouped : steps.flatMap (attemptsAt []) = [] := by
      rw [List.flatMap_eq_nil_iff]
      exact fun _ _ => rfl
    have hrender := render_nil input steps
    rw [hgrouped, hrender, parse_headerText hheader]
    by_cases h : format = .v2 ∧ containsText "### Task ".toList (headerText input) = true
    · rw [if_pos h]
      refine iff_of_false ?_ ?_
      · rintro ⟨parsed, hparsed, _⟩
        cases hparsed
      · intro hclear
        rw [hclear.2 rfl h.1] at h
        cases h.2
    · rw [if_neg h]
      refine iff_of_true ⟨[], rfl, rfl, hrender⟩ ⟨nofun, ?_⟩
      intro _ hformat
      exact Bool.not_eq_true _ ▸ fun hc => h ⟨hformat, hc⟩
  · have hne : steps.flatMap (attemptsAt attempts) ≠ [] := by
      obtain ⟨attempt, rest, rfl⟩ := List.exists_cons_of_ne_nil hnil
      exact List.ne_nil_of_mem ((mem_grouped hkeys).mpr List.mem_cons_self)
    constructor
    · rintro ⟨parsed, hparse, rfl, _⟩
      have hclean : ∀ attempt ∈ attempts, Clean attempt := fun attempt hmem =>
        clean_of_mem_parse hparse attempt ((mem_grouped hkeys).mpr hmem)
      have hsingle := @singleLine_stepsLines steps attempts hrecorded hclean
      rw [parseEvidenceAttempts_render hsteps hseq hheader hsingle hne, mapM_eq_self] at hparse
      refine ⟨?_, fun h => absurd h hnil⟩
      intro attempt hmem
      exact (hrecorded attempt hmem).readable_of_reread (hclean attempt hmem)
        (hparse attempt ((mem_grouped hkeys).mpr hmem))
    · rintro ⟨hreadable, _⟩
      have hclean : ∀ attempt ∈ attempts, Clean attempt := fun attempt hmem =>
        (hreadable attempt hmem).clean
      have hsingle := @singleLine_stepsLines steps attempts hrecorded hclean
      refine ⟨_, ?_, rfl, render_grouped hsteps⟩
      rw [parseEvidenceAttempts_render hsteps hseq hheader hsingle hne, mapM_eq_self]
      intro attempt hmem
      have hmem := (mem_grouped hkeys).mp hmem
      exact (hrecorded attempt hmem).reread_of_readable (hreadable attempt hmem)

end

/-- An attempt verified by a command. -/
def attemptWithCommand (command : String) : EvidenceAttempt where
  taskNumber := 1
  stepNumber := 1
  attemptNumber := 1
  status := "Completed".toList
  recordedAt := "2026-01-01T00:00:00Z".toList
  executionSource := "featureforge:executing-plans".toList
  claim := "Added the parser.".toList
  files := ["src/parser.rs".toList]
  fileProofs := [⟨"src/parser.rs".toList, "sha256:00".toList⟩]
  verifyCommand := some command.toList
  verificationSummary := ticked command.toList ++ " -> passed".toList
  invalidationReason := "N/A".toList
  packetFingerprint := some "00".toList
  headSha := some "01".toList
  baseSha := some "01".toList
  sourceContractPath := none
  sourceContractFingerprint := none
  sourceEvaluationReportFingerprint := none
  evaluatorVerdict := none
  failingCriterionIds := []
  sourceHandoffFingerprint := none
  repoStateBaselineHeadSha := none
  repoStateBaselineWorktreeFingerprint := none

theorem recorded_attemptWithCommand {command : String}
    (hcommand : spaced true command.toList = true)
    (hsummary : spaced true (ticked command.toList ++ " -> passed".toList) = true) :
    Recorded (attemptWithCommand command) where
  status := Or.inl rfl
  recordedAt := by
    show trimChars "2026-01-01T00:00:00Z".toList ≠ []
    decide
  recordedAt_line := by
    show tame "2026-01-01T00:00:00Z".toList
    decide
  executionSource := Or.inl rfl
  claim := by
    show spaced true "Added the parser.".toList = true
    decide
  reason := by
    show spaced true "N/A".toList = true
    decide
  proofs := List.cons_ne_nil _ _
  files := rfl
  path := by
    show ∀ p ∈ [FileProof.mk "src/parser.rs".toList "sha256:00".toList],
      normalizeRepoRelativePath p.path = some p.path
    decide
  proof := by
    show ∀ p ∈ [FileProof.mk "src/parser.rs".toList "sha256:00".toList], tame p.proof
    decide
  summary := hsummary
  verified := ⟨hcommand, "passed".toList, congrArg (ticked command.toList ++ ·)
    (by decide : " -> passed".toList = " -> ".toList ++ "passed".toList)⟩
  packet := ⟨_, rfl, by decide⟩
  head := ⟨_, rfl, by decide⟩
  base := ⟨_, rfl, by decide⟩

def evidenceInput : EvidenceProjectionInput where
  planRel := "docs/featureforge/plans/parser.md".toList
  planRevision := 1
  planFingerprint := "02".toList
  sourceSpecPath := "docs/featureforge/specs/parser.md".toList
  sourceSpecRevision := 1
  sourceSpecFingerprint := "03".toList

theorem evidence_round_trip_cargo_test :
    (∃ parsed, parseEvidenceAttempts (renderEvidenceProjectionSource evidenceInput [(1, 1)]
        [attemptWithCommand "cargo test"]) .v2 = .ok parsed ∧
      parsed = [(1, 1)].flatMap (attemptsAt [attemptWithCommand "cargo test"]) ∧
      renderEvidenceProjectionSource evidenceInput [(1, 1)] parsed =
        renderEvidenceProjectionSource evidenceInput [(1, 1)] [attemptWithCommand "cargo test"]) ↔
    (∀ attempt ∈ [attemptWithCommand "cargo test"], Readable attempt) ∧
      ([attemptWithCommand "cargo test"] = [] → EvidenceFormat.v2 = .v2 →
        containsText "### Task ".toList (headerText evidenceInput) = false) := by
  refine evidence_round_trip_iff (by decide) ?_ ?_ ?_ (by decide) .v2
  · rw [List.forall_mem_singleton]
    exact List.mem_singleton.mpr rfl
  · rw [List.forall_mem_singleton]
    exact recorded_attemptWithCommand (by decide) (by decide)
  · rw [List.forall_mem_singleton]
    have hat : attemptsAt [attemptWithCommand "cargo test"] (1, 1) =
        [attemptWithCommand "cargo test"] := rfl
    rw [hat]
    exact ⟨rfl, trivial⟩

/-- A command that ends with a backtick is read without it. -/
theorem evidence_loses_backtick :
    Recorded (attemptWithCommand "cargo test \x60smoke\x60") ∧
    ¬ ∃ parsed, parseEvidenceAttempts (renderEvidenceProjectionSource evidenceInput [(1, 1)]
        [attemptWithCommand "cargo test \x60smoke\x60"]) .v2 = .ok parsed ∧
      parsed = [(1, 1)].flatMap (attemptsAt [attemptWithCommand "cargo test \x60smoke\x60"]) := by
  refine ⟨recorded_attemptWithCommand (by decide) (by decide), ?_⟩
  rintro ⟨parsed, hparse, rfl⟩
  have hread : ((parseEvidenceAttempts (renderEvidenceProjectionSource evidenceInput [(1, 1)]
      [attemptWithCommand "cargo test \x60smoke\x60"]) .v2).toOption.map fun parsed =>
        parsed.map EvidenceAttempt.verifyCommand) =
      some [some "cargo test \x60smoke".toList] := by
    decide
  rw [hparse] at hread
  revert hread
  decide

end FeatureForge
