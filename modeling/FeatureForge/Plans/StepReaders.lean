import FeatureForge.Plans.StepLines
import FeatureForge.Plans.StepState

/-!
# The readers of a plan's steps

Three readers say what the steps of a plan are: `PlanDocument.tasks`, `parse_step_state` and
`known_runtime_step_projection_lines`.  The first takes every step line of a task, the
second every step line of the plan, and the third the step lines of a task outside of
fences.  So they agree exactly where the step lines of the plan stand in its tasks and
outside of fences, no two of one task with one number, and with notes that can be read
(`step_readers_agree_iff`).
-/

namespace FeatureForge

/-! ### Known steps -/

/-- The steps outside of fences, as `collect_known_task_steps` reads fences; the flags tell
whether a step has been seen, and whether a fence is open. -/
def unfencedSteps : Bool → Bool → List (List Char) → List TaskStepLine
  | _, _, [] => []
  | sawStep, true, line :: ls => unfencedSteps sawStep (!startsWith fence (trimChars line)) ls
  | sawStep, false, line :: ls =>
    if sawStep && startsWith fence (trimChars line) then unfencedSteps true true ls
    else match parseStepLine line with
      | some (_, step) => step :: unfencedSteps true false ls
      | none => unfencedSteps sawStep false ls

/-- The lines in fences. -/
def fencedLines : Bool → Bool → List (List Char) → List (List Char)
  | _, _, [] => []
  | sawStep, true, line :: ls =>
    if startsWith fence (trimChars line) then fencedLines sawStep false ls
    else line :: fencedLines sawStep true ls
  | sawStep, false, line :: ls =>
    if sawStep && startsWith fence (trimChars line) then fencedLines true true ls
    else fencedLines (sawStep || (parseStepLine line).isSome) false ls

/-- The known steps with some more steps of a task. -/
def learn (task : UInt32) (steps : List TaskStepLine) (known : KnownSteps) : KnownSteps :=
  steps.foldl (fun known step => Function.update known (task, step.number) (some step.text)) known

theorem isSome_learn {task : UInt32} {key : StepKey} : ∀ {steps : List TaskStepLine}
    {known : KnownSteps}, (learn task steps known key).isSome ↔
      (known key).isSome ∨ ∃ step ∈ steps, key = (task, step.number) := by
  intro steps
  induction steps with
  | nil => intro known; simp [learn]
  | cons step steps ih =>
    intro known
    show (learn task steps (Function.update known (task, step.number) (some step.text)) key).isSome ↔ _
    rw [ih, List.exists_mem_cons_iff]
    by_cases hkey : key = (task, step.number)
    · subst hkey
      rw [Function.update_self]
      simp
    · rw [Function.update_of_ne hkey]
      simp [hkey]

/-- A line that begins with anything but a dash is no step. -/
theorem parseStepLine_of_head {line : List Char} {c : Char}
    (h : (trimChars line).head? = some c) (hc : c ≠ '-') : parseStepLine line = none := by
  refine parseStepLine_of_trim ?_
  unfold parseTaskStepProjectionLine
  rw [trimStart_trimChars]
  cases hline : trimChars line with
  | nil => rw [hline] at h; cases h
  | cons d rest =>
    rw [hline] at h
    cases h
    have hnone : stripPrefix "- [".toList (c :: rest) = none := by
      show (if '-' = c then _ else none) = none
      exact if_neg (Ne.symm hc)
    rw [hnone]

theorem parseStepLine_of_fence {line : List Char} (h : startsWith fence (trimChars line) = true) :
    parseStepLine line = none := by
  obtain ⟨v, hv⟩ := startsWith_iff.mp h
  refine parseStepLine_of_head (c := '\x60') ?_ (by decide)
  rw [← hv]
  rfl

theorem stepsOfLines_cons_none {line : List Char} (h : parseStepLine line = none)
    (ls : List (List Char)) : stepsOfLines (line :: ls) = stepsOfLines ls := by
  rw [stepsOfLines, List.filterMap_cons_none (by rw [h]; rfl), stepsOfLines]

theorem stepsOfLines_cons_some {line : List Char} {step : Bool × TaskStepLine}
    (h : parseStepLine line = some step) (ls : List (List Char)) :
    stepsOfLines (line :: ls) = step.2 :: stepsOfLines ls := by
  rw [stepsOfLines, List.filterMap_cons_some (by rw [h]; rfl), stepsOfLines]

theorem stepsOfLines_append (ls ls' : List (List Char)) :
    stepsOfLines (ls ++ ls') = stepsOfLines ls ++ stepsOfLines ls' :=
  List.filterMap_append

theorem unfencedSteps_sublist : ∀ {ls : List (List Char)} {sawStep inFence : Bool},
    (unfencedSteps sawStep inFence ls).Sublist (stepsOfLines ls) := by
  intro ls
  induction ls with
  | nil => intro sawStep inFence; exact List.Sublist.slnil
  | cons line ls ih =>
    intro sawStep inFence
    have hcons : (stepsOfLines ls).Sublist (stepsOfLines (line :: ls)) :=
      (List.sublist_cons_self line ls).filterMap _
    cases inFence with
    | true => exact ih.trans hcons
    | false =>
      rw [unfencedSteps]
      split_ifs with hopen
      · exact ih.trans hcons
      · cases hstep : parseStepLine line with
        | none => exact ih.trans hcons
        | some step =>
          rw [stepsOfLines_cons_some hstep]
          exact ih.cons_cons step.2

/-- The steps of some lines are those outside of fences and those in them. -/
theorem length_unfencedSteps : ∀ {ls : List (List Char)} {sawStep inFence : Bool},
    (stepsOfLines ls).length = (unfencedSteps sawStep inFence ls).length +
      (stepsOfLines (fencedLines sawStep inFence ls)).length := by
  intro ls
  induction ls with
  | nil => intro sawStep inFence; rfl
  | cons line ls ih =>
    intro sawStep inFence
    cases inFence with
    | true =>
      rw [unfencedSteps, fencedLines]
      cases hfence : startsWith fence (trimChars line) with
      | true =>
        rw [if_pos rfl, stepsOfLines_cons_none (parseStepLine_of_fence hfence)]
        exact ih
      | false =>
        have hsum := @ih sawStep true
        rw [if_neg Bool.false_ne_true]
        cases hstep : parseStepLine line with
        | none =>
          rw [stepsOfLines_cons_none hstep, stepsOfLines_cons_none hstep]
          exact hsum
        | some step =>
          rw [stepsOfLines_cons_some hstep, stepsOfLines_cons_some hstep, List.length_cons,
            List.length_cons, hsum]
          rfl
    | false =>
      rw [unfencedSteps, fencedLines]
      by_cases hopen : (sawStep && startsWith fence (trimChars line)) = true
      · have hfence := (Bool.and_eq_true_iff.mp hopen).2
        rw [if_pos hopen, if_pos hopen, stepsOfLines_cons_none (parseStepLine_of_fence hfence)]
        exact ih
      · rw [if_neg hopen, if_neg hopen]
        cases hstep : parseStepLine line with
        | none =>
          rw [stepsOfLines_cons_none hstep, Option.isSome_none, Bool.or_false]
          exact ih
        | some step =>
          have hsum := @ih true false
          rw [stepsOfLines_cons_some hstep, List.length_cons, List.length_cons, hsum,
            Option.isSome_some, Bool.or_true]
          omega

/-- **All steps are outside of fences** where none is in one. -/
theorem unfencedSteps_eq_iff {ls : List (List Char)} {sawStep inFence : Bool} :
    unfencedSteps sawStep inFence ls = stepsOfLines ls ↔
      stepsOfLines (fencedLines sawStep inFence ls) = [] := by
  have hsum := @length_unfencedSteps ls sawStep inFence
  constructor
  · intro heq
    rw [heq] at hsum
    exact List.eq_nil_of_length_eq_zero (by omega)
  · intro hnil
    rw [hnil] at hsum
    exact unfencedSteps_sublist.eq_of_length hsum.symm

theorem unfencedSteps_congr {line line' : List Char} {ls ls' : List (List Char)}
    (htrim : trimChars line = trimChars line') (hstep : parseStepLine line = parseStepLine line')
    (h : ∀ {sawStep inFence : Bool},
      unfencedSteps sawStep inFence ls = unfencedSteps sawStep inFence ls')
    {sawStep inFence : Bool} :
    unfencedSteps sawStep inFence (line :: ls) = unfencedSteps sawStep inFence (line' :: ls') := by
  cases inFence with
  | true => rw [unfencedSteps, unfencedSteps, htrim, h]
  | false => rw [unfencedSteps, unfencedSteps, htrim, hstep, h, h, h]

theorem unfencedSteps_relines : ∀ {ls : List (List Char)}, (∀ line ∈ relines ls, Legible line) →
    ∀ {sawStep inFence : Bool},
      unfencedSteps sawStep inFence (relines ls) = unfencedSteps sawStep inFence ls := by
  intro ls
  induction ls with
  | nil => intro _ sawStep inFence; rfl
  | cons line ls ih =>
    intro h sawStep inFence
    cases ls with
    | nil =>
      rw [relines]
      split_ifs with hline
      · subst hline
        cases inFence with
        | true => rfl
        | false =>
          have hopen : ¬(sawStep && startsWith fence (trimChars [])) = true := by
            rw [show startsWith fence (trimChars []) = false by decide, Bool.and_false]
            exact Bool.false_ne_true
          rw [unfencedSteps, unfencedSteps, if_neg hopen, parseStepLine_nil]
          rfl
      · rfl
    | cons line' ls =>
      have hlegible := legible_of_relines h line List.mem_cons_self
      rw [relines, List.forall_mem_cons] at h
      rw [relines]
      refine unfencedSteps_congr (trimChars_stripCarriageReturn line) ?_ (ih h.2)
      rw [← h.1.parseStepLine_trim, trimChars_stripCarriageReturn, hlegible.parseStepLine_trim]

namespace KnownStepScan

/-- Once the Files block has been seen, the steps outside of fences are learned. -/
theorem foldl_of_filesSeen (task : UInt32) : ∀ {ls : List (List Char)} {s : KnownStepScan},
    s.filesSeen = true → (ls.foldl (readLine task) s).known =
      learn task (unfencedSteps s.sawStep s.inFencedStepDetail ls) s.known := by
  intro ls
  induction ls with
  | nil => intro s _; rfl
  | cons line ls ih =>
    intro s hfiles
    obtain ⟨known, filesSeen, sawStep, inFence⟩ := s
    dsimp only at hfiles
    subst hfiles
    rw [List.foldl_cons]
    cases inFence with
    | true => exact @ih ⟨known, true, sawStep, !startsWith fence (trimChars line)⟩ rfl
    | false =>
      by_cases hopen : (sawStep && startsWith fence (trimChars line)) = true
      · have hread : readLine task ⟨known, true, sawStep, false⟩ line =
            ⟨known, true, sawStep, true⟩ := if_pos hopen
        obtain ⟨hsaw, _⟩ := Bool.and_eq_true_iff.mp hopen
        rw [hread, @ih ⟨known, true, sawStep, true⟩ rfl, unfencedSteps, if_pos hopen, hsaw]
      · rw [unfencedSteps, if_neg hopen]
        by_cases hmarker : trimChars line = blockMarker "Files"
        · have hread : readLine task ⟨known, true, sawStep, false⟩ line =
              ⟨known, true, sawStep, false⟩ := (if_neg hopen).trans (if_pos hmarker)
          have hhead : (trimChars line).head? = some '*' := by
            rw [hmarker]
            decide
          rw [hread, @ih ⟨known, true, sawStep, false⟩ rfl,
            parseStepLine_of_head hhead (by decide)]
        · cases hstep : parseStepLine line with
          | none =>
            have hread : readLine task ⟨known, true, sawStep, false⟩ line =
                ⟨known, true, sawStep, false⟩ := by
              refine (if_neg hopen).trans ((if_neg hmarker).trans ?_)
              rw [if_pos rfl, hstep]
            rw [hread, @ih ⟨known, true, sawStep, false⟩ rfl]
          | some step =>
            have hread : readLine task ⟨known, true, sawStep, false⟩ line =
                ⟨Function.update known (task, step.2.number) (some step.2.text), true, true,
                  false⟩ := by
              refine (if_neg hopen).trans ((if_neg hmarker).trans ?_)
              rw [if_pos rfl, hstep]
            rw [hread]
            exact @ih ⟨_, true, true, false⟩ rfl

end KnownStepScan

namespace TaskBodyScan

/-- The check of a body before its first step; the flag tells whether the Files block has been
seen. -/
def beforeSteps (filesSeen : Bool) (bodySection : TaskBodySection) : TaskBodyScan :=
  ⟨bodySection, filesSeen, false, false, none, []⟩

/-- A line that is no step tells whether it begins the Files block. -/
theorem readFieldLine_beforeSteps {task : UInt32} {bodySection : TaskBodySection}
    {s' : TaskBodyScan} {line : List Char}
    (hread : (beforeSteps false bodySection).readFieldLine task line = .ok s') :
    ∃ bodySection', s' = beforeSteps (decide (line = blockMarker "Files")) bodySection' := by
  unfold readFieldLine at hread
  rw [beforeSteps, if_neg Bool.false_ne_true] at hread
  by_cases hscalar : isScalarTaskFieldLine line = true
  · rw [if_pos hscalar] at hread
    cases hread
    have hline : line ≠ blockMarker "Files" := by
      rintro rfl
      exact absurd hscalar (by decide)
    rw [decide_eq_false hline]
    exact ⟨.none, rfl⟩
  · rw [if_neg hscalar] at hread
    cases hfind : taskBodySections.find? fun marker => line = blockMarker marker.1 with
    | some marker =>
      rw [hfind] at hread
      cases hread
      have hline : line = blockMarker marker.1 := by
        have := List.find?_some hfind
        simpa using this
      have hmem := List.mem_of_find?_eq_some hfind
      refine ⟨marker.2, ?_⟩
      show beforeSteps (decide (marker.2 = .files)) marker.2 = _
      have hfiles : ∀ marker ∈ taskBodySections,
          decide (marker.2 = .files) = decide (blockMarker marker.1 = blockMarker "Files") := by
        decide
      rw [hline, hfiles marker hmem]
    | none =>
      rw [hfind] at hread
      have hline : line ≠ blockMarker "Files" := by
        have := List.find?_eq_none.mp hfind ("Files", .files) (by decide)
        simpa using this
      rw [decide_eq_false hline]
      refine ⟨bodySection, ?_⟩
      cases bodySection with
      | none | steps => cases hread
      | files => exact (Except.ok.inj hread).symm
      | context | constraints | doneWhen =>
        dsimp only at hread
        split_ifs at hread
        exact (Except.ok.inj hread).symm

theorem readLine_beforeSteps {task : UInt32} {bodySection : TaskBodySection}
    {s' : TaskBodyScan} {line : List Char}
    (hread : (beforeSteps false bodySection).readLine task line = .ok s') :
    parseStepLine line = none ∧ ∃ bodySection',
      s' = beforeSteps (decide (trimChars line = blockMarker "Files")) bodySection' := by
  unfold readLine at hread
  by_cases hblank : trimChars line = []
  · rw [if_pos hblank] at hread
    cases hread
    refine ⟨parseStepLine_of_trim ?_, bodySection, ?_⟩
    · rw [hblank]
      decide
    · rw [hblank, decide_eq_false (by decide)]
  · rw [if_neg hblank] at hread
    change (beforeSteps false bodySection).readOutsideNote task line = .ok s' at hread
    unfold readOutsideNote beforeSteps at hread
    dsimp only at hread
    rw [if_neg Bool.false_ne_true, Bool.false_and, if_neg Bool.false_ne_true] at hread
    by_cases hcomment : isTaskBodyCommentMarker (trimChars line) = true
    · rw [if_pos hcomment] at hread
      cases hread
      have hhead : (trimChars line).head? = some '<' := by
        unfold isTaskBodyCommentMarker at hcomment
        obtain ⟨v, hv⟩ := startsWith_iff.mp (Bool.and_eq_true_iff.mp hcomment).1
        rw [← hv]
        rfl
      refine ⟨parseStepLine_of_head hhead (by decide), bodySection, ?_⟩
      rw [decide_eq_false]
      · rfl
      · intro hmarker
        rw [hmarker] at hhead
        exact absurd hhead (by decide)
    · rw [if_neg hcomment, if_neg Bool.false_ne_true] at hread
      obtain ⟨step, hstep, hread⟩ := bind_eq_ok.mp hread
      cases step with
      | some step => cases hread
      | none =>
        refine ⟨?_, readFieldLine_beforeSteps hread⟩
        exact Option.map_eq_none_iff.mp (parseTaskStepLine_eq_ok hstep).1

end TaskBodyScan

/-- **The known steps of a task** are its steps outside of fences. -/
theorem collectKnownTaskSteps_eq {task : UInt32} {ls : List (List Char)}
    {fields : TaskContractFields} (h : parseTaskContractFields task ls = .ok fields)
    (known : KnownSteps) :
    collectKnownTaskSteps task ls known = learn task (unfencedSteps false false ls) known := by
  have hvalid : ∃ s, ls.foldlM (TaskBodyScan.readLine task) .start = .ok s := by
    unfold parseTaskContractFields at h
    split_ifs at h
    obtain ⟨_, _, h⟩ := bind_eq_ok.mp h
    obtain ⟨_, _, h⟩ := bind_eq_ok.mp h
    obtain ⟨_, _, h⟩ := bind_eq_ok.mp h
    obtain ⟨_, _, h⟩ := bind_eq_ok.mp h
    obtain ⟨_, _, h⟩ := bind_eq_ok.mp h
    obtain ⟨_, hvalid, _⟩ := bind_eq_ok.mp h
    obtain ⟨s, hs, _⟩ := bind_eq_ok.mp hvalid
    exact ⟨s, hs⟩
  clear h
  obtain ⟨s, hs⟩ := hvalid
  rw [collectKnownTaskSteps]
  change ls.foldlM (TaskBodyScan.readLine task) (.beforeSteps false .none) = .ok s at hs
  generalize TaskBodySection.none = bodySection at hs
  induction ls generalizing bodySection with
  | nil => rfl
  | cons line ls ih =>
    rw [List.foldlM_cons] at hs
    obtain ⟨s₁, hline, hs⟩ := bind_eq_ok.mp hs
    obtain ⟨hnone, bodySection', rfl⟩ := TaskBodyScan.readLine_beforeSteps hline
    have hunfenced : unfencedSteps false false (line :: ls) = unfencedSteps false false ls := by
      rw [unfencedSteps, Bool.false_and, if_neg Bool.false_ne_true, hnone]
    rw [List.foldl_cons, hunfenced]
    by_cases hmarker : trimChars line = blockMarker "Files"
    · have hread : KnownStepScan.readLine task ⟨known, false, false, false⟩ line =
          ⟨known, true, false, false⟩ := if_pos hmarker
      rw [hread]
      exact KnownStepScan.foldl_of_filesSeen task rfl
    · have hread : KnownStepScan.readLine task ⟨known, false, false, false⟩ line =
          ⟨known, false, false, false⟩ := if_neg hmarker
      rw [decide_eq_false hmarker] at hs
      rw [hread]
      exact ih bodySection' hs

/-- **The steps that the runtime knows** are the steps of the tasks outside of fences. -/
theorem isSome_knownOf {ts : List TaskSection} {key : StepKey} : (knownOf ts key).isSome ↔
    ∃ t ∈ ts, ∃ step ∈ unfencedSteps false false t.body, key = (t.number, step.number) := by
  have hfold : ∀ (ts : List TaskSection) (known : KnownSteps),
      (ts.foldl (fun known t => collectKnownTaskSteps t.number t.block known) known key).isSome ↔
        (known key).isSome ∨
          ∃ t ∈ ts, ∃ step ∈ unfencedSteps false false t.body, key = (t.number, step.number) := by
    intro ts
    induction ts with
    | nil => intro known; simp
    | cons t ts ih =>
      intro known
      obtain ⟨fields, hfields⟩ := t.fields_eq
      rw [List.foldl_cons, ih, collectKnownTaskSteps_eq hfields, isSome_learn,
        TaskSection.block, unfencedSteps_relines t.legible_block, List.exists_mem_cons_iff,
        or_assoc]
  rw [knownOf, hfold]
  simp

end FeatureForge
