import FeatureForge.Evidence.Readable

/-!
# The parts of evidence

A heading ends the attempt before it, so a part of the text that begins with one can be read
by itself (`Section`), and parts are read one after the other (`Section.settle_append`).  The
sections of the steps are read as the list of `reread`, step after step
(`settle_stepsLines`).
-/

namespace FeatureForge

namespace EvidenceReader

/-- Lines, read to the end of the attempt they are in. -/
def settle (ls : List (List Char)) (r : EvidenceReader) : Except JsonFailure EvidenceReader :=
  r.readLines ls >>= finish

/-- The reader is at no line that is read for the block alone. -/
def Open (r : EvidenceReader) : Prop :=
  ∀ block draft, r.draft = some (block, draft) → block ≠ .verification

/-- Lines that can be read by themselves: what comes before them ends there. -/
def Section (ls : List (List Char)) : Prop :=
  ∀ r : EvidenceReader, r.Open →
    (∀ r', r.readLines ls = .ok r' → r'.Open) ∧ settle ls r = r.finish >>= settle ls

theorem open_of_none {r : EvidenceReader} (h : r.draft = none) : r.Open := by
  intro block draft hdraft
  rw [h] at hdraft
  cases hdraft

theorem finish_of_none {r : EvidenceReader} (h : r.draft = none) : r.finish = .ok r := by
  rw [finish, h]

theorem finish_of_some {r : EvidenceReader} {block : EvidenceBlock} {draft : EvidenceAttempt}
    (h : r.draft = some (block, draft)) : r.finish = (finishAttempt draft).map fun attempt =>
      { r with attempts := r.attempts ++ [attempt], draft := none } := by
  rw [finish, h]
  show (finishAttempt draft >>= _) = _
  cases finishAttempt draft <;> rfl

theorem draft_of_finish {r r' : EvidenceReader} (h : r.finish = .ok r') : r'.draft = none := by
  cases hdraft : r.draft with
  | none =>
    rw [finish_of_none hdraft] at h
    cases h
    exact hdraft
  | some last =>
    rw [finish_of_some hdraft] at h
    cases hattempt : finishAttempt last.2 with
    | error e => rw [hattempt] at h; cases h
    | ok attempt =>
      rw [hattempt] at h
      cases h
      rfl

theorem draft_of_settle {ls : List (List Char)} {r r' : EvidenceReader}
    (h : settle ls r = .ok r') : r'.draft = none := by
  unfold settle at h
  cases hread : r.readLines ls with
  | error e => rw [hread] at h; cases h
  | ok r₁ =>
    rw [hread] at h
    exact draft_of_finish h

theorem readLine_of_none {r : EvidenceReader} (h : r.draft = none) (line : List Char) :
    r.readLine line = r.readHeading line := by
  rw [readLine, h]

theorem readLine_heading {r : EvidenceReader} (hopen : r.Open) {line : List Char}
    (hhead : line.head? = some '#') (hheading : isHeading line = true) :
    r.readLine line = r.finish >>= readHeading line := by
  cases hdraft : r.draft with
  | none =>
    rw [finish_of_none hdraft, readLine_of_none hdraft]
    rfl
  | some last =>
    obtain ⟨block, draft⟩ := last
    obtain ⟨rest, rfl⟩ := List.head?_eq_some_iff.mp hhead
    rw [readLine_of_head hdraft (hopen block draft hdraft) (by decide) (by decide) (by decide),
      readAttemptLine, if_pos hheading]

namespace Section

variable {ls ls' : List (List Char)}

/-- The first part is read, then the other from where it ends. -/
theorem settle_append {r : EvidenceReader} (hopen : r.Open) (h : Section ls)
    (h' : Section ls') : settle (ls ++ ls') r = settle ls r >>= settle ls' := by
  unfold settle
  rw [readLines_append]
  cases hread : r.readLines ls with
  | error e => rfl
  | ok r₁ => exact (h' r₁ ((h r hopen).1 r₁ hread)).2

theorem append (h : Section ls) (h' : Section ls') : Section (ls ++ ls') := by
  intro r hopen
  constructor
  · intro r' hread
    rw [readLines_append] at hread
    cases hread₁ : r.readLines ls with
    | error e => rw [hread₁] at hread; cases hread
    | ok r₁ =>
      rw [hread₁] at hread
      exact (h' r₁ ((h r hopen).1 r₁ hread₁)).1 r' hread
  · rw [settle_append hopen h h', (h r hopen).2]
    cases hfinish : r.finish with
    | error e => rfl
    | ok r₁ => exact (settle_append (open_of_none (draft_of_finish hfinish)) h h').symm

/-- What begins with a heading. -/
theorem of_heading {line : List Char} (hhead : line.head? = some '#')
    (hheading : isHeading line = true)
    (hopen : ∀ r r' : EvidenceReader, r.draft = none →
      r.readLines (line :: ls) = .ok r' → r'.Open) :
    Section (line :: ls) := by
  have hread : ∀ r : EvidenceReader, r.Open → r.readLines (line :: ls) =
      r.finish >>= fun r => r.readLines (line :: ls) := by
    intro r hr
    rw [readLines_cons, readLine_heading hr hhead hheading]
    cases hfinish : r.finish with
    | error e => rfl
    | ok r₁ =>
      have hdraft := draft_of_finish hfinish
      show _ = r₁.readLines _
      rw [readLines_cons, readLine_of_none hdraft]
      rfl
  intro r hr
  constructor
  · intro r' h
    rw [hread r hr] at h
    cases hfinish : r.finish with
    | error e => rw [hfinish] at h; cases h
    | ok r₁ =>
      rw [hfinish] at h
      exact hopen r₁ r' (draft_of_finish hfinish) h
  · unfold settle
    rw [hread r hr]
    cases r.finish <;> rfl

theorem nil : Section [] := by
  intro r hr
  constructor
  · rintro r' ⟨⟩
    exact hr
  · show r.finish = r.finish >>= finish
    cases hfinish : r.finish with
    | error e => rfl
    | ok r₁ => exact (finish_of_none (draft_of_finish hfinish)).symm

theorem readLines_blank {r : EvidenceReader} (hdraft : r.draft = none) :
    r.readLines [[]] = .ok r := by
  rw [readLines_single, readLine_of_none hdraft]
  rfl

theorem settle_blank {r : EvidenceReader} (hdraft : r.draft = none) : settle [[]] r = .ok r := by
  rw [settle, readLines_blank hdraft]
  exact finish_of_none hdraft

/-- An empty line. -/
theorem blank : Section [[]] := by
  intro r hr
  cases hdraft : r.draft with
  | none =>
    rw [readLines_blank hdraft, finish_of_none hdraft]
    refine ⟨?_, rfl⟩
    rintro r' ⟨⟩
    exact hr
  | some last =>
    obtain ⟨block, draft⟩ := last
    obtain ⟨block', hblock', hread⟩ := Takes.blank r block draft hdraft (hr block draft hdraft)
    have hread : r.readLines [[]] = .ok { r with draft := some (block', draft) } := hread
    constructor
    · rw [hread]
      rintro r' ⟨⟩ block₁ draft₁ ⟨⟩
      exact hblock'
    · have hsame : finish { r with draft := some (block', draft) } = r.finish := by
        rw [finish_of_some hdraft]
        exact finish_of_some rfl
      have hsettle : settle [[]] r = r.finish := by
        rw [settle, hread]
        exact hsame
      rw [hsettle]
      cases hfinish : r.finish with
      | error e => rfl
      | ok r₁ => exact (settle_blank (draft_of_finish hfinish)).symm

end Section

/-! ### Headings and attempts -/

/-- The heading of a step. -/
def stepHeading (step : StepKey) : List Char :=
  "### Task ".toList ++ (decimal step.1 ++ (" Step ".toList ++ decimal step.2))

theorem readHeading_step (r : EvidenceReader) (step : StepKey) :
    r.readHeading (stepHeading step) =
      .ok { r with currentTask := some step.1, currentStep := some step.2 } := by
  have hcut : splitOnce " Step ".toList (decimal step.1 ++ (" Step ".toList ++ decimal step.2)) =
      some (decimal step.1, decimal step.2) := splitOnce_of_not_mem (not_mem_decimal (by decide) _)
  unfold readHeading stepHeading
  rw [stripPrefix_append]
  dsimp only
  rw [hcut]
  dsimp only
  rw [parseU32_decimal, parseU32_decimal]

theorem readHeading_attempt {r : EvidenceReader} {step : StepKey} {number : UInt32}
    (htask : r.currentTask = some step.1) (hstep : r.currentStep = some step.2)
    (hnext : r.nextAttempt step = number) :
    r.readHeading ("#### Attempt ".toList ++ decimal number) = .ok { r with
      nextAttempt := Function.update r.nextAttempt step (number + 1)
      draft := some (.fields, .blank step.1 step.2 number) } := by
  unfold readHeading
  rw [stripPrefix_of_clash (by decide), stripPrefix_append, htask, hstep]
  dsimp only
  rw [parseU32_decimal]
  dsimp only
  rw [hnext, if_neg (not_not.mpr rfl)]

theorem draft_of_readHeading {r r' : EvidenceReader} {rest : List Char}
    (h : r.readHeading ("#### Attempt ".toList ++ rest) = .ok r') :
    ∃ draft, r'.draft = some (.fields, draft) := by
  unfold readHeading at h
  rw [stripPrefix_of_clash (by decide), stripPrefix_append] at h
  dsimp only at h
  split at h
  · split at h
    · cases h
    · split_ifs at h
      cases h
      exact ⟨_, rfl⟩
  · cases h

theorem isHeading_of_startsWith {p rest : List Char}
    (hp : p = "#### Attempt ".toList ∨ p = "### Task ".toList) :
    isHeading (p ++ rest) = true ∧ (p ++ rest).head? = some '#' := by
  have hstart : startsWith p (p ++ rest) = true := startsWith_iff.mpr (List.prefix_append _ _)
  have hhead : p.head? = some '#' := by
    rcases hp with rfl | rfl <;> decide
  rw [isHeading, Bool.or_eq_true, List.head?_append, hhead]
  refine ⟨?_, rfl⟩
  rcases hp with rfl | rfl
  · exact Or.inl hstart
  · exact Or.inr hstart

theorem section_stepHeading (step : StepKey) : Section [stepHeading step] := by
  have hheading := @isHeading_of_startsWith _
    (decimal step.1 ++ (" Step ".toList ++ decimal step.2)) (Or.inr rfl)
  refine Section.of_heading hheading.2 hheading.1 ?_
  intro r r' hdraft hread
  rw [readLines_single, readLine_of_none hdraft, readHeading_step] at hread
  cases hread
  exact open_of_none hdraft

theorem settle_stepHeading {r : EvidenceReader} (hdraft : r.draft = none) (step : StepKey) :
    settle [stepHeading step] r =
      .ok { r with currentTask := some step.1, currentStep := some step.2 } := by
  rw [settle, readLines_single, readLine_of_none hdraft, readHeading_step]
  exact finish_of_none hdraft

theorem readLines_attemptLines {r r' : EvidenceReader} (attempt : EvidenceAttempt)
    (hread : r.readHeading ("#### Attempt ".toList ++ decimal attempt.attemptNumber) = .ok r')
    (hdraft : r.draft = none) {draft : EvidenceAttempt}
    (hdraft' : r'.draft = some (.fields, draft)) :
    ∃ block, block ≠ .verification ∧ r.readLines (attemptLines attempt) =
      (rereadDraft attempt draft).map fun draft' =>
        { r' with draft := some (block, draft') } := by
  obtain ⟨block, hblock, hbody⟩ := Takes.body attempt r' .fields draft hdraft' (by decide)
  refine ⟨block, hblock, ?_⟩
  rw [attemptLines_eq, readLines_cons, readLine_of_none hdraft, hread]
  exact hbody

theorem section_attemptLines (attempt : EvidenceAttempt) : Section (attemptLines attempt) := by
  have hheading := @isHeading_of_startsWith _ (decimal attempt.attemptNumber) (Or.inl rfl)
  rw [attemptLines_eq]
  refine Section.of_heading hheading.2 hheading.1 ?_
  intro r r' hdraft hread
  cases hstart : r.readHeading ("#### Attempt ".toList ++ decimal attempt.attemptNumber) with
  | error e =>
    rw [readLines_cons, readLine_of_none hdraft, hstart] at hread
    cases hread
  | ok r₁ =>
    obtain ⟨draft, hdraft₁⟩ := draft_of_readHeading hstart
    obtain ⟨block, hblock, hlines⟩ := readLines_attemptLines attempt hstart hdraft hdraft₁
    rw [← attemptLines_eq, hlines] at hread
    cases hbody : rereadDraft attempt draft with
    | error e => rw [hbody] at hread; cases hread
    | ok draft' =>
      rw [hbody] at hread
      cases hread
      rintro block' draft'' ⟨⟩
      exact hblock

theorem settle_attemptLines {r : EvidenceReader} (hdraft : r.draft = none)
    {attempt : EvidenceAttempt} (htask : r.currentTask = some attempt.taskNumber)
    (hstep : r.currentStep = some attempt.stepNumber)
    (hnext : r.nextAttempt attempt.key = attempt.attemptNumber) :
    settle (attemptLines attempt) r = (reread attempt).map fun attempt' => { r with
      attempts := r.attempts ++ [attempt']
      nextAttempt :=
        Function.update r.nextAttempt attempt.key (attempt.attemptNumber + 1) } := by
  have hheading := @readHeading_attempt r attempt.key attempt.attemptNumber htask hstep hnext
  obtain ⟨block, _, hread⟩ := readLines_attemptLines attempt hheading hdraft rfl
  rw [settle, hread]
  show _ = (rereadDraft attempt (.blank attempt.key.1 attempt.key.2 attempt.attemptNumber) >>=
    finishAttempt).map _
  cases rereadDraft attempt (.blank attempt.key.1 attempt.key.2 attempt.attemptNumber) with
  | error e => rfl
  | ok draft =>
    show finish { r with
      nextAttempt := Function.update r.nextAttempt attempt.key (attempt.attemptNumber + 1)
      draft := some (block, draft) } = (finishAttempt draft).map _
    rw [finish_of_some rfl, ← hdraft]

/-! ### The attempts at a step, and the steps -/

/-- Attempts with the numbers from one on. -/
def Sequential : UInt32 → List EvidenceAttempt → Prop
  | _, [] => True
  | number, attempt :: attempts =>
    attempt.attemptNumber = number ∧ Sequential (number + 1) attempts

theorem section_attemptsLines : ∀ attempts : List EvidenceAttempt,
    Section (attemptsLines attempts) := by
  intro attempts
  induction attempts with
  | nil => exact Section.nil
  | cons attempt attempts ih =>
    cases attempts with
    | nil => exact section_attemptLines attempt
    | cons attempt' attempts =>
      exact (section_attemptLines attempt).append (Section.blank.append ih)

/-- The number after some attempts. -/
def afterAttempts (number : UInt32) (attempts : List EvidenceAttempt) : UInt32 :=
  attempts.foldl (fun number _ => number + 1) number

theorem settle_attemptsLines {step : StepKey} : ∀ {attempts : List EvidenceAttempt}
    {r : EvidenceReader}, r.draft = none → r.currentTask = some step.1 →
    r.currentStep = some step.2 → (∀ attempt ∈ attempts, attempt.key = step) →
    Sequential (r.nextAttempt step) attempts →
    settle (attemptsLines attempts) r = (attempts.mapM reread).map fun attempts' => { r with
      attempts := r.attempts ++ attempts'
      nextAttempt :=
        Function.update r.nextAttempt step (afterAttempts (r.nextAttempt step) attempts) } := by
  intro attempts
  induction attempts with
  | nil =>
    intro r hdraft _ _ _ _
    show r.finish = Except.ok { r with
      attempts := r.attempts ++ []
      nextAttempt := Function.update r.nextAttempt step (r.nextAttempt step) }
    rw [finish_of_none hdraft, List.append_nil, Function.update_eq_self]
  | cons attempt attempts ih =>
    intro r hdraft htask hstep hkeys hseq
    have hkey : attempt.key = step := hkeys attempt List.mem_cons_self
    subst hkey
    have hattempt := settle_attemptLines hdraft htask hstep hseq.1.symm
    -- what is left after the first attempt
    have hrest : settle (attemptsLines (attempt :: attempts)) r =
        settle (attemptLines attempt) r >>= settle (attemptsLines attempts) := by
      cases attempts with
      | nil =>
        show settle (attemptLines attempt) r = _
        cases hsettle : settle (attemptLines attempt) r with
        | error e => rfl
        | ok r₁ => exact (finish_of_none (draft_of_settle hsettle)).symm
      | cons attempt' attempts =>
        show settle (attemptLines attempt ++ ([[]] ++ attemptsLines (attempt' :: attempts))) r = _
        rw [Section.settle_append (open_of_none hdraft) (section_attemptLines attempt)
          (Section.blank.append (section_attemptsLines _))]
        cases hsettle : settle (attemptLines attempt) r with
        | error e => rfl
        | ok r₁ =>
          have hdraft₁ := draft_of_settle hsettle
          show settle ([[]] ++ attemptsLines (attempt' :: attempts)) r₁ = settle _ r₁
          rw [Section.settle_append (open_of_none hdraft₁) Section.blank
            (section_attemptsLines _), Section.settle_blank hdraft₁]
          rfl
    rw [hrest, hattempt, List.mapM_cons]
    cases reread attempt with
    | error e => rfl
    | ok attempt' =>
      have hsame : attempt.attemptNumber = r.nextAttempt attempt.key := hseq.1
      have hnext := @ih { r with
        attempts := r.attempts ++ [attempt']
        nextAttempt := Function.update r.nextAttempt attempt.key (attempt.attemptNumber + 1) }
        hdraft htask hstep (fun a ha => hkeys a (List.mem_cons_of_mem _ ha)) (by
          show Sequential (Function.update r.nextAttempt attempt.key
            (attempt.attemptNumber + 1) attempt.key) attempts
          rw [Function.update_self, hsame]
          exact hseq.2)
      show settle (attemptsLines attempts) { r with
        attempts := r.attempts ++ [attempt']
        nextAttempt := Function.update r.nextAttempt attempt.key (attempt.attemptNumber + 1) } =
          Except.map _ (attempts.mapM reread >>= _)
      rw [hnext]
      cases attempts.mapM reread with
      | error e => rfl
      | ok attempts' =>
        show Except.ok { r with
          attempts := r.attempts ++ [attempt'] ++ attempts'
          nextAttempt := Function.update (Function.update r.nextAttempt attempt.key _) attempt.key
            (afterAttempts (Function.update r.nextAttempt attempt.key _ attempt.key) attempts) } =
          Except.ok { r with
            attempts := r.attempts ++ attempt' :: attempts'
            nextAttempt := Function.update r.nextAttempt attempt.key
              (afterAttempts (r.nextAttempt attempt.key + 1) attempts) }
        rw [Function.update_idem, Function.update_self, hsame, List.append_assoc,
          List.singleton_append]

theorem stepLines_of_ne {attempts : List EvidenceAttempt} {step : StepKey}
    (h : attemptsAt attempts step ≠ []) : stepLines attempts step =
      [[]] ++ ([stepHeading step] ++ attemptsLines (attemptsAt attempts step)) :=
  if_neg (by simpa using h)

theorem stepLines_of_nil {attempts : List EvidenceAttempt} {step : StepKey}
    (h : attemptsAt attempts step = []) : stepLines attempts step = [] :=
  if_pos (by simpa using h)

theorem section_stepLines (attempts : List EvidenceAttempt) (step : StepKey) :
    Section (stepLines attempts step) := by
  by_cases h : attemptsAt attempts step = []
  · rw [stepLines_of_nil h]
    exact Section.nil
  · rw [stepLines_of_ne h]
    exact Section.blank.append ((section_stepHeading step).append (section_attemptsLines _))

/-- **The section of a step** is read as its attempts. -/
theorem settle_stepLines {attempts : List EvidenceAttempt} {step : StepKey} {r : EvidenceReader}
    (hdraft : r.draft = none) (hseq : Sequential (r.nextAttempt step) (attemptsAt attempts step)) :
    ∃ task step' next, (∀ other, other ≠ step → next other = r.nextAttempt other) ∧
      settle (stepLines attempts step) r =
        ((attemptsAt attempts step).mapM reread).map fun attempts' =>
          { attempts := r.attempts ++ attempts', nextAttempt := next, currentTask := task,
            currentStep := step', draft := none } := by
  by_cases h : attemptsAt attempts step = []
  · refine ⟨r.currentTask, r.currentStep, r.nextAttempt, fun _ _ => rfl, ?_⟩
    rw [stepLines_of_nil h, h, ← hdraft]
    show r.finish = Except.ok { r with attempts := r.attempts ++ [] }
    rw [finish_of_none hdraft, List.append_nil]
  · refine ⟨some step.1, some step.2, Function.update r.nextAttempt step
      (afterAttempts (r.nextAttempt step) (attemptsAt attempts step)),
      fun other hother => Function.update_of_ne hother _ _, ?_⟩
    rw [stepLines_of_ne h, Section.settle_append (open_of_none hdraft) Section.blank
      ((section_stepHeading step).append (section_attemptsLines _)), Section.settle_blank hdraft]
    show settle ([stepHeading step] ++ attemptsLines _) r = _
    rw [Section.settle_append (open_of_none hdraft) (section_stepHeading step)
      (section_attemptsLines _), settle_stepHeading hdraft]
    have hkeys : ∀ attempt ∈ attemptsAt attempts step, attempt.key = step := by
      intro attempt hmem
      exact of_decide_eq_true (List.mem_filter.mp hmem).2
    have hsettle := @settle_attemptsLines step (attemptsAt attempts step)
      { r with currentTask := some step.1, currentStep := some step.2 } hdraft rfl rfl hkeys hseq
    rw [← hdraft]
    exact hsettle

theorem section_stepsLines (attempts : List EvidenceAttempt) : ∀ steps : List StepKey,
    Section (steps.flatMap (stepLines attempts)) := by
  intro steps
  induction steps with
  | nil => exact Section.nil
  | cons step steps ih =>
    rw [List.flatMap_cons]
    exact (section_stepLines attempts step).append ih

/-- **The sections of the steps** are read as their attempts, step after step. -/
theorem settle_stepsLines {attempts : List EvidenceAttempt} : ∀ {steps : List StepKey},
    steps.Nodup → ∀ {r : EvidenceReader}, r.draft = none →
    (∀ step ∈ steps, Sequential (r.nextAttempt step) (attemptsAt attempts step)) →
    (settle (steps.flatMap (stepLines attempts)) r).map EvidenceReader.attempts =
      ((steps.flatMap (attemptsAt attempts)).mapM reread).map (r.attempts ++ ·) := by
  intro steps
  induction steps with
  | nil =>
    intro _ r hdraft _
    show (r.finish).map _ = Except.ok (r.attempts ++ [])
    rw [finish_of_none hdraft, List.append_nil]
    rfl
  | cons step steps ih =>
    intro hnodup r hdraft hseq
    rw [List.nodup_cons] at hnodup
    obtain ⟨task, step', next, hnext, hsettle⟩ :=
      settle_stepLines hdraft (hseq step List.mem_cons_self)
    rw [List.flatMap_cons, List.flatMap_cons, Section.settle_append (open_of_none hdraft)
      (section_stepLines attempts step) (section_stepsLines attempts steps), hsettle,
      List.mapM_append]
    cases (attemptsAt attempts step).mapM reread with
    | error e => rfl
    | ok attempts' =>
      have hrest := @ih hnodup.2 ⟨r.attempts ++ attempts', next, task, step', none⟩ rfl (by
        intro other hother
        have hne : other ≠ step := fun heq => hnodup.1 (heq ▸ hother)
        show Sequential (next other) (attemptsAt attempts other)
        rw [hnext other hne]
        exact hseq other (List.mem_cons_of_mem _ hother))
      refine hrest.trans ?_
      show _ = Except.map _ ((steps.flatMap (attemptsAt attempts)).mapM reread >>= _)
      cases (steps.flatMap (attemptsAt attempts)).mapM reread with
      | error e => rfl
      | ok attempts'' => exact congrArg Except.ok (List.append_assoc _ _ _)

end EvidenceReader

end FeatureForge
