import FeatureForge.Plans.StepReaders
import FeatureForge.Plans.StepState

/-!
# What the readers of a plan's steps agree on

The steps of a plan's document are the step lines of its tasks.  `parse_step_state` takes
every step line of the plan and gives it to the task whose heading came last, and reads the
note under it; `known_runtime_step_projection_lines` leaves out the step lines in fences.
So the three agree exactly where the step lines of the plan stand in its tasks and outside
of fences, no two of one task with one number, and the notes under them can be read
(`step_readers_agree_iff`).
-/

namespace FeatureForge

/-! ### Notes -/

/-- The note under a step has a summary of one to a hundred and twenty characters, and no
second note under it. -/
def NoteReadable (rest : List (List Char)) : Prop :=
  match rest.dropWhile fun line => line = [] with
  | [] => True
  | line :: rest => ∀ noteState summary, parseNoteLine line = some (noteState, summary) →
      summary ≠ [] ∧ summary.length ≤ 120 ∧
        ((rest.dropWhile fun line => line = []).head?.bind parseNoteLine) = none

/-- The note under each step line is readable. -/
def NotesReadable : List (List Char) → Prop
  | [] => True
  | line :: rest =>
    ((parseStepLine line).isSome = true → NoteReadable rest) ∧ NotesReadable rest

theorem readStepNote_eq_ok {rest : List (List Char)} :
    (∃ note, readStepNote rest = .ok note) ↔ NoteReadable rest := by
  unfold readStepNote NoteReadable
  cases hrest : rest.dropWhile fun line => line = [] with
  | nil => exact iff_of_true ⟨_, rfl⟩ trivial
  | cons line rest =>
    dsimp only
    cases hnote : parseNoteLine line with
    | none => exact iff_of_true ⟨_, rfl⟩ nofun
    | some note =>
      obtain ⟨noteState, summary⟩ := note
      dsimp only
      constructor
      · rintro ⟨note, h⟩ _ _ ⟨⟩
        split_ifs at h with hblank hlong hsecond
        rw [Bool.not_eq_true, Option.isSome_eq_false_iff, Option.isNone_iff_eq_none] at hsecond
        exact ⟨hblank, Nat.le_of_not_lt hlong, hsecond⟩
      · intro h
        obtain ⟨hblank, hlong, hsecond⟩ := h noteState summary rfl
        rw [if_neg hblank, if_neg (Nat.not_lt.mpr hlong), hsecond]
        exact ⟨_, rfl⟩

instance (rest : List (List Char)) : Decidable (NoteReadable rest) :=
  decidable_of_iff ((readStepNote rest).toOption.isSome = true) (by
    rw [← readStepNote_eq_ok]
    cases readStepNote rest with
    | error e => exact iff_of_false nofun nofun
    | ok note => exact iff_of_true rfl ⟨note, rfl⟩)

instance decidableNotesReadable : ∀ ls : List (List Char), Decidable (NotesReadable ls)
  | [] => .isTrue trivial
  | line :: rest =>
    have := decidableNotesReadable rest
    inferInstanceAs (Decidable (((parseStepLine line).isSome = true → NoteReadable rest) ∧
      NotesReadable rest))

/-! ### Located steps -/

/-- The step lines of a plan, each with the task that the last heading before it names. -/
def locatedSteps : Option UInt32 → List (List Char) → List (Option UInt32 × TaskStepLine)
  | _, [] => []
  | currentTask, line :: ls =>
    match stripPrefix "## Task ".toList line with
    | some heading => locatedSteps (headingTask heading) ls
    | none =>
      match parseStepLine line with
      | none => locatedSteps currentTask ls
      | some (_, step) => (currentTask, step) :: locatedSteps currentTask ls

/-- A step, and its title. -/
abbrev TitledStep : Type := StepKey × List Char

def PlanStepState.titled (state : PlanStepState) : TitledStep :=
  ((state.taskNumber, state.stepNumber), state.title)

def titledStep (titles : StepKey → Option (List Char)) :
    Option UInt32 × TaskStepLine → Option TitledStep
  | (none, _) => none
  | (some task, step) =>
    some ((task, step.number), (titles (task, step.number)).getD step.text)

theorem parseStepLine_of_heading {line : List Char} (h : startsWith "## ".toList line = true) :
    parseStepLine line = none := by
  obtain ⟨v, rfl⟩ := startsWith_iff.mp h
  obtain ⟨⟨w, hw⟩, hne⟩ := @trimChars_of_head '#' ("# ".toList ++ v) (by decide)
  refine @parseStepLine_of_head _ '#' ?_ (by decide)
  change (trimChars ('#' :: ("# ".toList ++ v))).head? = some '#'
  have hhead := congrArg List.head? hw
  rw [List.head?_append_of_ne_nil _ hne] at hhead
  exact hhead

theorem startsWith_heading {line rest : List Char}
    (h : stripPrefix "## Task ".toList line = some rest) :
    startsWith "## ".toList line = true := by
  refine startsWith_of_isTaskHeading ?_
  rw [isTaskHeading, startsWith_iff]
  exact ⟨rest, (eq_of_stripPrefix h).symm⟩

/-- **What `parse_step_state` reads** are the located steps, if each is in a task and has a
readable note. -/
theorem readStepStates_eq_ok {titles : StepKey → Option (List Char)} :
    ∀ {ls : List (List Char)} {currentTask : Option UInt32} {steps : List TitledStep},
    (∃ states, readStepStates titles currentTask ls = .ok states ∧
      states.map PlanStepState.titled = steps) ↔
    NotesReadable ls ∧ (locatedSteps currentTask ls).map (titledStep titles) = steps.map some := by
  intro ls
  induction ls with
  | nil =>
    intro currentTask steps
    constructor
    · rintro ⟨states, h, rfl⟩
      cases h
      exact ⟨trivial, rfl⟩
    · rintro ⟨_, h⟩
      exact ⟨[], rfl, (List.map_eq_nil_iff.mp h.symm).symm⟩
  | cons line ls ih =>
    intro currentTask steps
    rw [readStepStates, locatedSteps, NotesReadable]
    cases hheading : stripPrefix "## Task ".toList line with
    | some heading =>
      rw [parseStepLine_of_heading (startsWith_heading hheading)]
      dsimp only
      rw [ih, Option.isSome_none]
      simp
    | none =>
      dsimp only
      cases hstep : parseStepLine line with
      | none =>
        dsimp only
        rw [ih, Option.isSome_none]
        simp
      | some step =>
        obtain ⟨checked, step⟩ := step
        dsimp only
        rw [Option.isSome_some]
        cases currentTask with
        | none =>
          refine iff_of_false nofun ?_
          rintro ⟨_, h⟩
          cases steps with
          | nil => cases h
          | cons step' steps => cases (List.cons.inj h).1
        | some task =>
          constructor
          · rintro ⟨states, h, rfl⟩
            obtain ⟨note, hnote, h⟩ := bind_eq_ok.mp h
            obtain ⟨states', hstates, h⟩ := bind_eq_ok.mp h
            cases h
            obtain ⟨hnotes, hsteps⟩ := ih.mp ⟨states', hstates, rfl⟩
            refine ⟨⟨fun _ => readStepNote_eq_ok.mp ⟨note, hnote⟩, hnotes⟩, ?_⟩
            rw [List.map_cons, List.map_cons, List.map_cons, hsteps]
            rfl
          · rintro ⟨⟨hnote, hnotes⟩, h⟩
            obtain ⟨note, hnote⟩ := readStepNote_eq_ok.mpr (hnote rfl)
            cases steps with
            | nil => cases h
            | cons titled steps =>
              obtain ⟨htitled, hsteps⟩ := List.cons.inj h
              obtain ⟨states, hstates, rfl⟩ := ih.mpr ⟨hnotes, hsteps⟩
              rw [hnote]
              refine ⟨_, bind_eq_ok.mpr ⟨note, rfl, bind_eq_ok.mpr ⟨states, hstates, rfl⟩⟩, ?_⟩
              rw [List.map_cons, ← Option.some.inj htitled]
              rfl

/-! ### Located steps by section -/

/-- The task after a heading. -/
def sectionTask (currentTask : Option UInt32) (heading : List Char) : Option UInt32 :=
  match stripPrefix "## Task ".toList heading with
  | some rest => headingTask rest
  | none => currentTask

/-- The step lines of some sections. -/
def locatedIn : Option UInt32 → List (List Char × List (List Char)) →
    List (Option UInt32 × TaskStepLine)
  | _, [] => []
  | currentTask, sec :: secs =>
    (stepsOfLines sec.2).map (sectionTask currentTask sec.1, ·) ++
      locatedIn (sectionTask currentTask sec.1) secs

theorem locatedSteps_eq : ∀ {ls : List (List Char)} {currentTask : Option UInt32},
    locatedSteps currentTask ls =
      (stepsOfLines (sections ls).1).map (currentTask, ·) ++ locatedIn currentTask (sections ls).2 := by
  intro ls
  induction ls with
  | nil => intro currentTask; rfl
  | cons line ls ih =>
    intro currentTask
    rw [locatedSteps]
    cases hline : startsWith "## ".toList line with
    | true =>
      rw [sections_cons_heading hline, parseStepLine_of_heading hline]
      show _ = [] ++ ((stepsOfLines (sections ls).1).map (sectionTask currentTask line, ·) ++
        locatedIn (sectionTask currentTask line) (sections ls).2)
      rw [List.nil_append, ← ih, sectionTask]
      cases stripPrefix "## Task ".toList line <;> rfl
    | false =>
      rw [sections_cons_line hline]
      cases hheading : stripPrefix "## Task ".toList line with
      | some heading =>
        rw [startsWith_heading hheading] at hline
        cases hline
      | none =>
        dsimp only
        cases hstep : parseStepLine line with
        | none => rw [stepsOfLines_cons_none hstep, ih]
        | some step =>
          rw [stepsOfLines_cons_some hstep, ih]
          rfl

/-- The lines that are in no task. -/
def strayLines (ls : List (List Char)) : List (List Char) :=
  (sections ls).1 ++
    ((sections ls).2.filter fun sec => !isTaskHeading sec.1).flatMap Prod.snd

/-- The steps of the tasks, each with the number of its task. -/
def taskStepsOf (secs : List (List Char × List (List Char))) :
    List (Option UInt32 × TaskStepLine) :=
  secs.flatMap fun sec => (stepsOfLines sec.2).map (sectionTask none sec.1, ·)

theorem sectionTask_of_task {heading : List Char} (h : isTaskHeading heading = true)
    (currentTask : Option UInt32) : sectionTask currentTask heading = sectionTask none heading := by
  obtain ⟨v, rfl⟩ := startsWith_iff.mp h
  rw [sectionTask, sectionTask, stripPrefix_append]

theorem length_locatedIn : ∀ {secs : List (List Char × List (List Char))}
    {currentTask : Option UInt32}, (locatedIn currentTask secs).length =
      (taskStepsOf (secs.filter fun sec => isTaskHeading sec.1)).length +
        (stepsOfLines ((secs.filter fun sec => !isTaskHeading sec.1).flatMap Prod.snd)).length := by
  intro secs
  induction secs with
  | nil => intro currentTask; rfl
  | cons sec secs ih =>
    intro currentTask
    rw [locatedIn, List.length_append, List.length_map, ih]
    cases htask : isTaskHeading sec.1 with
    | true =>
      rw [@List.filter_cons_of_pos _ (fun sec => isTaskHeading sec.1) sec secs htask,
        List.filter_cons_of_neg (by rw [htask]; exact Bool.false_ne_true), taskStepsOf, taskStepsOf,
        List.flatMap_cons, List.length_append, List.length_map]
      omega
    | false =>
      rw [List.filter_cons_of_neg (by rw [htask]; exact Bool.false_ne_true),
        List.filter_cons_of_pos (by rw [htask]; rfl), List.flatMap_cons, stepsOfLines_append,
        List.length_append]
      omega

theorem length_locatedSteps (ls : List (List Char)) (currentTask : Option UInt32) :
    (locatedSteps currentTask ls).length =
      (taskStepsOf (taskSections ls)).length + (stepsOfLines (strayLines ls)).length := by
  rw [locatedSteps_eq, List.length_append, List.length_map, length_locatedIn, strayLines,
    stepsOfLines_append, List.length_append, taskSections]
  omega

/-- Without stray steps the located steps are those of the tasks. -/
theorem locatedIn_eq : ∀ {secs : List (List Char × List (List Char))}
    {currentTask : Option UInt32},
    stepsOfLines ((secs.filter fun sec => !isTaskHeading sec.1).flatMap Prod.snd) = [] →
    locatedIn currentTask secs = taskStepsOf (secs.filter fun sec => isTaskHeading sec.1) := by
  intro secs
  induction secs with
  | nil => intro currentTask _; rfl
  | cons sec secs ih =>
    intro currentTask h
    rw [locatedIn]
    cases htask : isTaskHeading sec.1 with
    | true =>
      rw [List.filter_cons_of_neg (by rw [htask]; exact Bool.false_ne_true)] at h
      rw [@List.filter_cons_of_pos _ (fun sec => isTaskHeading sec.1) sec secs htask, ih h,
        sectionTask_of_task htask]
      rfl
    | false =>
      rw [List.filter_cons_of_pos (by rw [htask]; rfl), List.flatMap_cons, stepsOfLines_append,
        List.append_eq_nil_iff] at h
      rw [List.filter_cons_of_neg (by rw [htask]; exact Bool.false_ne_true), h.1, ih h.2]
      rfl

theorem locatedSteps_of_no_stray {ls : List (List Char)} (h : stepsOfLines (strayLines ls) = [])
    (currentTask : Option UInt32) :
    locatedSteps currentTask ls = taskStepsOf (taskSections ls) := by
  rw [strayLines, stepsOfLines_append, List.append_eq_nil_iff] at h
  rw [locatedSteps_eq, h.1, locatedIn_eq h.2]
  rfl

/-! ### The steps of a document -/

theorem TaskSection.sectionTask_eq (t : TaskSection) :
    sectionTask none t.heading = some t.number := by
  obtain ⟨title, number, heq, _, hnumber⟩ := headingOf_of_number t.number_eq
  have hcolon : ∀ c ∈ number, (decide (c ≠ ':')) = true := by
    intro c hc
    rw [decide_eq_true_iff]
    rintro rfl
    rcases isDigit_of_parseU32 hnumber ':' hc with h | h
    · exact absurd h (by decide)
    · exact absurd h (by decide)
  rw [sectionTask, heq, stripPrefix_append]
  show parseU32 ((number ++ (": ".toList ++ title)).takeWhile fun c => decide (c ≠ ':')) = _
  rw [List.takeWhile_append_of_pos hcolon]
  have hstop : (": ".toList ++ title).takeWhile (fun c => decide (c ≠ ':')) = [] := rfl
  rw [hstop, List.append_nil]
  exact hnumber

/-- The steps of the tasks of a plan. -/
def planSteps (tasks : List PlanTask) : List TitledStep :=
  tasks.flatMap fun task =>
    task.steps.map fun step => ((task.number, step.number), step.text)

theorem planSteps_eq (ts : List TaskSection) : planSteps (ts.map TaskSection.task) =
    ts.flatMap fun t => (stepsOfLines t.body).map fun step => ((t.number, step.number), step.text) := by
  rw [planSteps, List.flatMap_map]
  refine congrArg (fun f => ts.flatMap f) (funext fun t => ?_)
  rw [t.steps_eq, List.map_map]
  rfl

theorem taskStepsOf_eq (ts : List TaskSection) :
    taskStepsOf (ts.map fun t => (t.heading, t.body)) =
      ts.flatMap fun t => (stepsOfLines t.body).map (some t.number, ·) := by
  rw [taskStepsOf, List.flatMap_map]
  refine congrArg (fun f => ts.flatMap f) (funext fun t => ?_)
  rw [t.sectionTask_eq]

theorem length_taskStepsOf (ts : List TaskSection) :
    (taskStepsOf (ts.map fun t => (t.heading, t.body))).length =
      (planSteps (ts.map TaskSection.task)).length := by
  rw [taskStepsOf_eq, planSteps_eq, List.length_flatMap, List.length_flatMap]
  simp

/-- Updates of different keys are all found. -/
theorem foldl_update_of_nodup {α β : Type} [DecidableEq α] : ∀ {entries : List (α × β)}
    {f : α → Option β}, (entries.map Prod.fst).Nodup → ∀ entry ∈ entries,
    entries.foldl (fun (f : α → Option β) entry => Function.update f entry.1 (some entry.2)) f
      entry.1 =
      some entry.2 := by
  intro entries
  induction entries using List.reverseRecOn with
  | nil => intro f _ entry hentry; exact absurd hentry List.not_mem_nil
  | append_singleton entries last ih =>
    intro f hnodup entry hentry
    rw [List.map_append, List.nodup_append] at hnodup
    rw [List.foldl_append, List.foldl_cons, List.foldl_nil]
    rcases List.mem_append.mp hentry with hentry | hentry
    · have hne : entry.1 ≠ last.1 :=
        hnodup.2.2 entry.1 (List.mem_map_of_mem hentry) last.1 (by simp)
      rw [Function.update_of_ne hne]
      exact ih hnodup.1 entry hentry
    · rw [List.mem_singleton.mp hentry, Function.update_self]

/-- The titles of the located steps are their own where no step comes twice. -/
theorem map_titledStep (ts : List TaskSection)
    (hnodup : ((planSteps (ts.map TaskSection.task)).map Prod.fst).Nodup) :
    (taskStepsOf (ts.map fun t => (t.heading, t.body))).map
        (titledStep (stepTitles (ts.map TaskSection.task))) =
      (planSteps (ts.map TaskSection.task)).map some := by
  have htitle := @foldl_update_of_nodup StepKey (List Char) _
    (planSteps (ts.map TaskSection.task)) (fun _ => none) hnodup
  rw [taskStepsOf_eq, List.map_flatMap]
  conv_rhs => rw [planSteps_eq, List.map_flatMap]
  refine List.flatMap_congr fun t ht => ?_
  rw [List.map_map, List.map_map]
  refine List.map_congr_left fun step hstep => ?_
  have hmem : ((t.number, step.number), step.text) ∈ planSteps (ts.map TaskSection.task) := by
    rw [planSteps_eq]
    exact List.mem_flatMap.mpr ⟨t, ht, List.mem_map.mpr ⟨step, hstep, rfl⟩⟩
  have htitles : stepTitles (ts.map TaskSection.task) (t.number, step.number) = some step.text :=
    htitle _ hmem
  show some ((t.number, step.number), _) = some ((t.number, step.number), step.text)
  rw [htitles]
  rfl

theorem mem_planSteps {ts : List TaskSection} {key : StepKey} :
    key ∈ (planSteps (ts.map TaskSection.task)).map Prod.fst ↔
      ∃ t ∈ ts, ∃ step ∈ stepsOfLines t.body, key = (t.number, step.number) := by
  rw [planSteps_eq, List.map_flatMap, List.mem_flatMap]
  refine exists_congr fun t => and_congr_right fun _ => ?_
  rw [List.map_map, List.mem_map]
  exact exists_congr fun step => and_congr_right fun _ => eq_comm

/-- Steps come once where they come once in each task. -/
theorem nodup_planSteps {ts : List TaskSection} (hts : (ts.map TaskSection.number).Nodup) :
    ((planSteps (ts.map TaskSection.task)).map Prod.fst).Nodup ↔
      ∀ t ∈ ts, ((stepsOfLines t.body).map TaskStepLine.number).Nodup := by
  have hkeys : ∀ t : TaskSection, ((stepsOfLines t.body).map
      fun step => ((t.number, step.number), step.text)).map Prod.fst =
        ((stepsOfLines t.body).map TaskStepLine.number).map (Prod.mk t.number) := by
    intro t
    rw [List.map_map, List.map_map]
    rfl
  have hdisjoint : ts.Pairwise (Function.onFun List.Disjoint fun t =>
      ((stepsOfLines t.body).map TaskStepLine.number).map (Prod.mk t.number)) := by
    refine (List.pairwise_map.mp hts).imp ?_
    intro t t' hne key hkey hkey'
    obtain ⟨n, _, rfl⟩ := List.mem_map.mp hkey
    obtain ⟨n', _, heq⟩ := List.mem_map.mp hkey'
    exact hne (congrArg Prod.fst heq).symm
  rw [planSteps_eq, List.map_flatMap]
  simp only [hkeys]
  rw [List.nodup_flatMap]
  refine ⟨fun h t ht => (h.1 t ht).of_map _, fun h => ⟨fun t ht => ?_, hdisjoint⟩⟩
  exact (h t ht).map (Prod.mk_right_injective t.number)

/-- A task's steps are all known where all of them are outside of fences. -/
theorem unfencedSteps_eq_of_subset {ls : List (List Char)}
    (hnodup : ((stepsOfLines ls).map TaskStepLine.number).Nodup)
    (h : ∀ step ∈ stepsOfLines ls, ∃ step' ∈ unfencedSteps false false ls,
      step.number = step'.number) :
    unfencedSteps false false ls = stepsOfLines ls := by
  have hsubset : (stepsOfLines ls).map TaskStepLine.number ⊆
      (unfencedSteps false false ls).map TaskStepLine.number := by
    intro n hn
    obtain ⟨step, hstep, rfl⟩ := List.mem_map.mp hn
    obtain ⟨step', hstep', heq⟩ := h step hstep
    exact List.mem_map.mpr ⟨step', hstep', heq.symm⟩
  have hle := (List.subperm_of_subset hnodup hsubset).length_le
  rw [List.length_map, List.length_map] at hle
  exact unfencedSteps_sublist.eq_of_length_le hle

/-! ### The agreement -/

/-- The readers of the steps of a plan agree, and no step comes twice. -/
structure StepReadersAgree (source : List Char) (doc : PlanDocument) : Prop where
  states : ∃ states, parseStepState source doc = .ok states ∧
    states.map PlanStepState.titled = planSteps doc.tasks
  known : ∀ key, (knownRuntimeStepProjectionLines source key).isSome ↔
    key ∈ (planSteps doc.tasks).map Prod.fst
  distinct : ((planSteps doc.tasks).map Prod.fst).Nodup

/-- The step lines of a plan stand in its tasks, outside of fences, once each, with notes
that can be read. -/
structure StepsPlain (ls : List (List Char)) : Prop where
  located : stepsOfLines (strayLines ls) = []
  unfenced : ∀ sec ∈ taskSections ls, stepsOfLines (fencedLines false false sec.2) = []
  distinct : ∀ sec ∈ taskSections ls, ((stepsOfLines sec.2).map TaskStepLine.number).Nodup
  notes : NotesReadable ls

/-- A step line in no task would be a step of `parse_step_state` alone. -/
theorem StepReadersAgree.located {path source : List Char} {doc : PlanDocument}
    (hagree : StepReadersAgree source doc) (h : parsePlanSource path source = .ok doc) :
    stepsOfLines (strayLines (lines source)) = [] := by
  obtain ⟨ts, hsections, htasks, _, _⟩ := parsePlanSource_sections h
  obtain ⟨_, hsteps⟩ := readStepStates_eq_ok.mp hagree.states
  have hlength := congrArg List.length hsteps
  rw [List.length_map, List.length_map, length_locatedSteps, hsections, length_taskStepsOf,
    htasks] at hlength
  exact List.eq_nil_of_length_eq_zero (by omega)

/-- **The readers of an accepted plan's steps agree exactly where its steps are plain.** -/
theorem step_readers_agree_iff {path source : List Char} {doc : PlanDocument}
    (h : parsePlanSource path source = .ok doc) :
    StepReadersAgree source doc ↔ StepsPlain (lines source) := by
  obtain ⟨ts, hsections, htasks, hnumbers, hknown⟩ := parsePlanSource_sections h
  have hinj : ∀ t ∈ ts, ∀ t' ∈ ts, t.number = t'.number → t = t' :=
    fun t ht t' ht' heq => List.inj_on_of_nodup_map hnumbers ht ht' heq
  constructor
  · intro hagree
    have hdistinct := hagree.distinct
    have hknown' := hagree.known
    rw [htasks] at hdistinct hknown'
    rw [nodup_planSteps hnumbers] at hdistinct
    refine ⟨hagree.located h, ?_, ?_, (readStepStates_eq_ok.mp hagree.states).1⟩
    · rw [hsections, List.forall_mem_map]
      intro t ht
      rw [← unfencedSteps_eq_iff]
      refine unfencedSteps_eq_of_subset (hdistinct t ht) ?_
      intro step hstep
      have hmem := mem_planSteps.mpr ⟨t, ht, step, hstep, rfl⟩
      rw [← hknown', hknown, isSome_knownOf] at hmem
      obtain ⟨t', ht', step', hstep', heq⟩ := hmem
      obtain rfl := hinj t ht t' ht' (congrArg Prod.fst heq)
      exact ⟨step', hstep', congrArg Prod.snd heq⟩
    · rw [hsections, List.forall_mem_map]
      exact hdistinct
  · intro hplain
    have hdistinct := hplain.distinct
    have hunfenced := hplain.unfenced
    rw [hsections, List.forall_mem_map] at hdistinct hunfenced
    have hnodup := (nodup_planSteps hnumbers).mpr hdistinct
    refine ⟨?_, ?_, htasks ▸ hnodup⟩
    · refine readStepStates_eq_ok.mpr ⟨hplain.notes, ?_⟩
      rw [locatedSteps_of_no_stray hplain.located, hsections, htasks]
      exact map_titledStep ts hnodup
    · intro key
      rw [hknown, isSome_knownOf, htasks, mem_planSteps]
      refine exists_congr fun t => and_congr_right fun ht => ?_
      rw [unfencedSteps_eq_iff.mpr (hunfenced t ht)]

/-! ### Two plans -/

theorem parsePlanSource_of_isOk {path source : List Char}
    (h : (parsePlanSource path source).isOk = true) :
    ∃ doc, parsePlanSource path source = .ok doc := by
  cases hparse : parsePlanSource path source with
  | ok doc => exact ⟨doc, rfl⟩
  | error e => rw [hparse] at h; cases h

def plainPlanPath : List Char := "docs/featureforge/plans/note.md".toList

/-- A plan of one task. -/
def plainPlan : List Char := joinLines (List.map String.toList
  ["# Note", "", "**Workflow State:** Engineering Approved", "**Plan Revision:** 1",
    "**Execution Mode:** none", "**Source Spec:** \x60docs/featureforge/specs/note.md\x60",
    "**Source Spec Revision:** 1", "**Last Reviewed By:** plan-eng-review", "",
    "## Requirement Coverage Matrix", "", "- REQ-1 -> Task 1", "", "## Task 1: Note", "",
    "**Spec Coverage:** REQ-1", "**Goal:** Write the note", "", "**Context:**", "- none", "",
    "**Constraints:**", "- none", "", "**Done when:**", "- it is there", "", "**Files:**",
    "- Create: \x60note.md\x60", "", "- [ ] **Step 1: Write**", ""])

/-- The plan with an appendix that shows what a step looks like. -/
def appendixPlan : List Char :=
  plainPlan ++ "\n## Appendix\n\n- [ ] **Step 2: Show**\n".toList

theorem step_readers_agree_plain :
    ∃ doc, parsePlanSource plainPlanPath plainPlan = .ok doc ∧ StepReadersAgree plainPlan doc := by
  obtain ⟨doc, hdoc⟩ := parsePlanSource_of_isOk
    (show (parsePlanSource plainPlanPath plainPlan).isOk = true by decide)
  refine ⟨doc, hdoc, (step_readers_agree_iff hdoc).mpr ⟨?_, ?_, ?_, ?_⟩⟩
  · decide
  · decide
  · decide
  · decide

/-- A step in an appendix is a step of `parse_step_state` alone. -/
theorem step_readers_disagree_appendix :
    ∃ doc, parsePlanSource plainPlanPath appendixPlan = .ok doc ∧
      ¬StepReadersAgree appendixPlan doc := by
  obtain ⟨doc, hdoc⟩ := parsePlanSource_of_isOk
    (show (parsePlanSource plainPlanPath appendixPlan).isOk = true by decide)
  refine ⟨doc, hdoc, fun hagree => ?_⟩
  have hstray := hagree.located hdoc
  revert hstray
  decide

end FeatureForge
