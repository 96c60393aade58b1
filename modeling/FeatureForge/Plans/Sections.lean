import FeatureForge.Lib.Except
import FeatureForge.Plans.PlanDocument

/-!
# The sections of a plan

A plan is the lines before its first heading, and sections of a heading and the lines under
it (`sections`).  The blocks that `split_canonical_task_blocks` cuts a plan into are its
sections under a task heading (`splitCanonicalTaskBlocks_eq_ok`), so what is read of an
accepted plan is read section by section (`parsePlanSource_sections`).
-/

namespace FeatureForge

/-- The lines before the first heading, and each heading with the lines under it. -/
def sections : List (List Char) → List (List Char) × List (List Char × List (List Char))
  | [] => ([], [])
  | line :: ls =>
    if startsWith "## ".toList line then ([], (line, (sections ls).1) :: (sections ls).2)
    else (line :: (sections ls).1, (sections ls).2)

def isTaskHeading (line : List Char) : Bool := startsWith "## Task ".toList line

/-- The sections of tasks. -/
def taskSections (ls : List (List Char)) : List (List Char × List (List Char)) :=
  (sections ls).2.filter fun sec => isTaskHeading sec.1

theorem startsWith_of_isTaskHeading {line : List Char} (h : isTaskHeading line = true) :
    startsWith "## ".toList line = true := by
  rw [isTaskHeading, startsWith_iff] at h
  rw [startsWith_iff]
  exact List.IsPrefix.trans ⟨"Task ".toList, by decide⟩ h

theorem sections_cons_heading {line : List Char} (h : startsWith "## ".toList line = true)
    (ls : List (List Char)) :
    sections (line :: ls) = ([], (line, (sections ls).1) :: (sections ls).2) := by
  rw [sections, if_pos h]

theorem sections_cons_line {line : List Char} (h : startsWith "## ".toList line = false)
    (ls : List (List Char)) :
    sections (line :: ls) = (line :: (sections ls).1, (sections ls).2) := by
  rw [sections, if_neg (by rw [h]; exact Bool.false_ne_true)]

theorem taskSections_cons_task {line : List Char} (h : isTaskHeading line = true)
    (ls : List (List Char)) :
    taskSections (line :: ls) = (line, (sections ls).1) :: taskSections ls := by
  rw [taskSections, sections_cons_heading (startsWith_of_isTaskHeading h)]
  exact List.filter_cons_of_pos h

theorem taskSections_cons_other {line : List Char} (h : isTaskHeading line = false)
    (ls : List (List Char)) : taskSections (line :: ls) = taskSections ls := by
  cases hheading : startsWith "## ".toList line with
  | true =>
    rw [taskSections, sections_cons_heading hheading]
    exact List.filter_cons_of_neg (by rw [h]; exact Bool.false_ne_true)
  | false => rw [taskSections, sections_cons_line hheading, taskSections]

/-- No heading is among the lines under one. -/
theorem not_heading_of_mem_sections {ls : List (List Char)} :
    (∀ line ∈ (sections ls).1, startsWith "## ".toList line = false) ∧
      ∀ sec ∈ (sections ls).2, startsWith "## ".toList sec.1 = true ∧
        ∀ line ∈ sec.2, startsWith "## ".toList line = false := by
  induction ls with
  | nil => exact ⟨nofun, nofun⟩
  | cons line ls ih =>
    cases h : startsWith "## ".toList line with
    | true =>
      rw [sections_cons_heading h]
      refine ⟨nofun, ?_⟩
      rw [List.forall_mem_cons]
      exact ⟨⟨h, ih.1⟩, ih.2⟩
    | false =>
      rw [sections_cons_line h]
      rw [List.forall_mem_cons]
      exact ⟨⟨h, ih.1⟩, ih.2⟩

/-- The lines of the sections are the lines. -/
theorem sections_join (ls : List (List Char)) :
    (sections ls).1 ++ (sections ls).2.flatMap (fun sec => sec.1 :: sec.2) = ls := by
  induction ls with
  | nil => rfl
  | cons line ls ih =>
    cases h : startsWith "## ".toList line with
    | true =>
      rw [sections_cons_heading h, List.nil_append, List.flatMap_cons, List.cons_append]
      exact congrArg (line :: ·) ih
    | false =>
      rw [sections_cons_line h, List.cons_append]
      exact congrArg (line :: ·) ih

/-! ### Task blocks -/

/-- The block of a section. -/
def IsBlockOf (sec : List Char × List (List Char)) (block : CanonicalTaskBlock) : Prop :=
  parseCanonicalTaskHeadingNumber sec.1 = .ok block.number ∧
    block.source = joinLines (sec.1 :: sec.2)

namespace TaskSplitter

/-- The splitter with more lines in the block it is in. -/
def extend (s : TaskSplitter) (ls : List (List Char)) : TaskSplitter :=
  { s with block := s.block.map fun block => (block.1, block.2 ++ ls) }

theorem extend_nil (s : TaskSplitter) : s.extend [] = s := by
  obtain ⟨tasks, seen, block⟩ := s
  cases block <;> simp [extend]

theorem extend_of_none {s : TaskSplitter} (h : s.block = none) (ls : List (List Char)) :
    s.extend ls = s := by
  rw [extend, h, Option.map_none, ← h]

theorem close_of_none {s : TaskSplitter} (h : s.block = none) : s.close = s := by
  rw [close, h]

theorem block_close (s : TaskSplitter) : s.close.block = none := by
  unfold close
  split
  · next h => exact h
  · rfl

theorem seenNumbers_close (s : TaskSplitter) : s.close.seenNumbers = s.seenNumbers := by
  unfold close
  split <;> rfl

/-- A heading ends the block before it. -/
theorem readLine_heading {s : TaskSplitter} {line : List Char}
    (h : startsWith "## ".toList line = true) : s.readLine line = s.close.readOutside line := by
  have hno : startsWith "### Task ".toList line = false := by
    obtain ⟨v, rfl⟩ := startsWith_iff.mp h
    exact startsWith_of_clash (by decide) v
  rw [readLine, if_neg (by rw [hno]; exact Bool.false_ne_true)]
  cases hblock : s.block with
  | none => rw [close_of_none hblock]
  | some block => exact if_pos h

/-- Any other line goes to the block that the splitter is in. -/
theorem readLine_line {s s' : TaskSplitter} {line : List Char}
    (h : startsWith "## ".toList line = false) (hread : s.readLine line = .ok s') :
    s' = s.extend [line] := by
  unfold readLine at hread
  cases hmalformed : startsWith "### Task ".toList line with
  | true =>
    rw [hmalformed] at hread
    cases hread
  | false =>
    rw [hmalformed, if_neg Bool.false_ne_true] at hread
    cases hblock : s.block with
    | none =>
      rw [hblock] at hread
      have hno : startsWith "## Task ".toList line = false := by
        rw [← Bool.not_eq_true]
        intro htask
        rw [startsWith_of_isTaskHeading htask] at h
        cases h
      dsimp only at hread
      rw [readOutside, hno, if_neg Bool.false_ne_true] at hread
      cases hread
      exact (extend_of_none hblock _).symm
    | some block =>
      rw [hblock] at hread
      dsimp only at hread
      rw [h, if_neg Bool.false_ne_true] at hread
      cases hread
      rw [extend, hblock, Option.map_some]

theorem extend_extend (s : TaskSplitter) (ls ls' : List (List Char)) :
    (s.extend ls).extend ls' = s.extend (ls ++ ls') := by
  unfold extend
  cases s.block <;> simp

/-- **What is split off some lines** are the sections of their tasks, behind the rest of the
block that the splitter is in. -/
theorem foldlM_readLine : ∀ {ls : List (List Char)} {s s' : TaskSplitter},
    ls.foldlM readLine s = .ok s' → ∃ blocks : List CanonicalTaskBlock,
      s'.close.tasks = (s.extend (sections ls).1).close.tasks ++ blocks ∧
      List.Forall₂ IsBlockOf (taskSections ls) blocks ∧
      (blocks.map CanonicalTaskBlock.number).Nodup ∧
      ∀ block ∈ blocks, block.number ∉ s.seenNumbers := by
  intro ls
  induction ls with
  | nil =>
    intro s s' h
    cases h
    refine ⟨[], ?_, List.Forall₂.nil, List.nodup_nil, nofun⟩
    show s.close.tasks = (s.extend []).close.tasks ++ []
    rw [extend_nil, List.append_nil]
  | cons line ls ih =>
    intro s s' h
    rw [List.foldlM_cons] at h
    obtain ⟨s₁, hline, h⟩ := bind_eq_ok.mp h
    obtain ⟨blocks, htasks, hblocks, hnodup, hseen⟩ := ih h
    cases hheading : startsWith "## ".toList line with
    | true =>
      rw [readLine_heading hheading, readOutside] at hline
      have hsections := sections_cons_heading hheading ls
      split_ifs at hline with htask
      · obtain ⟨number, hnumber, hline⟩ := bind_eq_ok.mp hline
        split_ifs at hline with hcontains
        cases hline
        refine ⟨⟨number, joinLines (line :: (sections ls).1)⟩ :: blocks, ?_, ?_, ?_, ?_⟩
        · rw [htasks, hsections, extend_nil]
          simp [extend, close]
        · rw [taskSections_cons_task htask]
          exact List.Forall₂.cons ⟨hnumber, rfl⟩ hblocks
        · rw [List.map_cons, List.nodup_cons]
          refine ⟨?_, hnodup⟩
          intro hmem
          obtain ⟨block, hblock, heq⟩ := List.mem_map.mp hmem
          exact hseen block hblock (heq ▸ List.mem_cons_self)
        · rw [List.forall_mem_cons]
          constructor
          · rw [← seenNumbers_close]
            simpa using hcontains
          · intro block hblock hmem
            refine hseen block hblock (List.mem_cons_of_mem _ ?_)
            rw [seenNumbers_close]
            exact hmem
      · cases hline
        refine ⟨blocks, ?_, ?_, hnodup, ?_⟩
        · rw [htasks, hsections, extend_nil, extend_of_none (block_close s),
            close_of_none (block_close s)]
        · rw [taskSections_cons_other (Bool.eq_false_iff.mpr htask)]
          exact hblocks
        · rw [← seenNumbers_close]
          exact hseen
    | false =>
      have hno : isTaskHeading line = false := by
        rw [← Bool.not_eq_true]
        intro htask
        rw [startsWith_of_isTaskHeading htask] at hheading
        cases hheading
      rw [readLine_line hheading hline] at htasks hseen
      rw [taskSections_cons_other hno, sections_cons_line hheading]
      refine ⟨blocks, ?_, hblocks, hnodup, hseen⟩
      rw [htasks, extend_extend, List.singleton_append]

end TaskSplitter

/-- **The blocks of a plan** are its sections under a task heading, each task once. -/
theorem splitCanonicalTaskBlocks_eq_ok {source : List Char} {blocks : List CanonicalTaskBlock}
    (h : splitCanonicalTaskBlocks source = .ok blocks) :
    List.Forall₂ IsBlockOf (taskSections (lines source)) blocks ∧
      (blocks.map CanonicalTaskBlock.number).Nodup := by
  obtain ⟨s, hs, h⟩ := bind_eq_ok.mp h
  obtain ⟨blocks', htasks, hblocks, hnodup, _⟩ := TaskSplitter.foldlM_readLine hs
  have hsame : s.close.tasks = blocks := Except.ok.inj h
  have hstart : s.close.tasks = blocks' := by
    rw [htasks, TaskSplitter.extend_of_none rfl, TaskSplitter.close_of_none rfl]
    exact List.nil_append _
  rw [← hsame, hstart]
  exact ⟨hblocks, hnodup⟩

/-! ### What is read of a task -/

theorem isDigit_of_parseU32 {s : List Char} {n : UInt32} (h : parseU32 s = some n) :
    ∀ c ∈ s, c.isDigit = true ∨ c = '+' := by
  obtain ⟨value, hvalue, _⟩ := Option.map_eq_some_iff.mp h
  unfold parseUnsigned at hvalue
  dsimp only at hvalue
  split_ifs at hvalue with hdigits
  have hall := List.all_eq_true.mp hdigits.2.1
  intro c hc
  split at hall
  · rcases List.mem_cons.mp hc with rfl | hc
    · exact Or.inr rfl
    · exact Or.inl (hall c hc)
  · exact Or.inl (hall c hc)

theorem splitOnce_not_mem {p s a b : List Char} (hp : p ≠ []) (h : splitOnce p s = some (a, b)) :
    s = a ++ (p ++ b) ∧ containsText p (a ++ p.dropLast) = false := by
  have heq := eq_of_splitOnce h
  rw [heq] at h
  exact ⟨heq, (splitOnce_append_iff hp).mp h⟩

/-- A heading of the task of a number. -/
def HeadingOf (heading : List Char) (n : UInt32) (title : List Char) : Prop :=
  ∃ number, heading = "## Task ".toList ++ (number ++ (": ".toList ++ title)) ∧
    containsText ": ".toList (number ++ ":".toList) = false ∧ parseU32 number = some n

theorem HeadingOf.unique {heading title title' : List Char} {n n' : UInt32}
    (h : HeadingOf heading n title) (h' : HeadingOf heading n' title') :
    n = n' ∧ title = title' := by
  obtain ⟨number, heq, hcontains, hnumber⟩ := h
  obtain ⟨number', heq', hcontains', hnumber'⟩ := h'
  have hcut : splitOnce ": ".toList (number ++ (": ".toList ++ title)) = some (number, title) :=
    (splitOnce_append_iff (by decide)).mpr hcontains
  have hcut' : splitOnce ": ".toList (number' ++ (": ".toList ++ title')) =
      some (number', title') := (splitOnce_append_iff (by decide)).mpr hcontains'
  rw [heq] at heq'
  rw [List.append_cancel_left heq', hcut'] at hcut
  cases hcut
  rw [hnumber] at hnumber'
  exact ⟨Option.some.inj hnumber', rfl⟩

theorem HeadingOf.strip {heading title : List Char} {n : UInt32} (h : HeadingOf heading n title) :
    ∃ title', HeadingOf (stripCarriageReturn heading) n title' := by
  obtain ⟨number, rfl, hcontains, hnumber⟩ := h
  have hne : ": ".toList ++ title ≠ [] := by
    intro hnil
    exact absurd (List.append_eq_nil_iff.mp hnil).1 (by decide)
  have hne' : number ++ (": ".toList ++ title) ≠ [] := List.append_ne_nil_of_right_ne_nil _ hne
  rw [stripCarriageReturn_append hne', stripCarriageReturn_append hne]
  by_cases htitle : title = []
  · refine ⟨[], number, ?_, hcontains, hnumber⟩
    rw [htitle, List.append_nil]
    congr 2
  · exact ⟨stripCarriageReturn title, number, by rw [stripCarriageReturn_append htitle],
      hcontains, hnumber⟩

theorem headingOf_of_number {heading : List Char} {n : UInt32}
    (h : parseCanonicalTaskHeadingNumber heading = .ok n) : ∃ title, HeadingOf heading n title := by
  unfold parseCanonicalTaskHeadingNumber at h
  cases hheading : stripPrefix "## Task ".toList heading with
  | none => rw [hheading] at h; cases h
  | some rest =>
    rw [hheading] at h
    dsimp only at h
    cases hcut : splitOnce ": ".toList rest with
    | none => rw [hcut] at h; cases h
    | some cut =>
      obtain ⟨number, title⟩ := cut
      rw [hcut] at h
      dsimp only at h
      cases hnumber : parseU32 number with
      | none => rw [hnumber] at h; cases h
      | some n' =>
        rw [hnumber] at h
        cases h
        obtain ⟨heq, hcontains⟩ := splitOnce_not_mem (by decide) hcut
        exact ⟨title, number, by rw [eq_of_stripPrefix hheading, heq], hcontains, hnumber⟩

/-- **What is read of the block of a task.** -/
structure IsTaskOf (heading : List Char) (block : List (List Char)) (task : PlanTask) : Prop where
  heading : HeadingOf heading task.number task.title
  specCoverage : parseCsvField block "Spec Coverage" = .ok task.specCoverage
  fields : parseTaskContractFields task.number block =
    .ok ⟨task.goal, task.context, task.constraints, task.doneWhen⟩
  files : parseFileEntries block = .ok task.files
  steps : parseSteps block = .ok task.steps

theorem parseTaskChunk_eq_ok {chunk : List Char} {task : PlanTask}
    (h : parseTaskChunk chunk = .ok task) :
    ∃ heading block, lines chunk = heading :: block ∧ IsTaskOf heading block task := by
  unfold parseTaskChunk at h
  cases hlines : lines chunk with
  | nil => rw [hlines] at h; cases h
  | cons heading block =>
    rw [hlines] at h
    dsimp only at h
    cases hheading : stripPrefix "## Task ".toList heading with
    | none => rw [hheading] at h; cases h
    | some rest =>
      rw [hheading] at h
      dsimp only at h
      cases hcut : splitOnce ": ".toList rest with
      | none => rw [hcut] at h; cases h
      | some cut =>
        obtain ⟨number, title⟩ := cut
        rw [hcut] at h
        obtain ⟨specCoverage, hcoverage, h⟩ := bind_eq_ok.mp h
        cases hnumber : parseU32 number with
        | none => rw [hnumber] at h; cases h
        | some taskNumber =>
          rw [hnumber] at h
          obtain ⟨fields, hfields, h⟩ := bind_eq_ok.mp h
          obtain ⟨files, hfiles, h⟩ := bind_eq_ok.mp h
          obtain ⟨steps, hsteps, h⟩ := bind_eq_ok.mp h
          cases h
          obtain ⟨heq, hcontains⟩ := splitOnce_not_mem (by decide) hcut
          refine ⟨heading, block, rfl, ⟨number, ?_, hcontains, hnumber⟩, hcoverage,
            mapError_eq_ok.mp hfields, hfiles, hsteps⟩
          rw [eq_of_stripPrefix hheading, heq]

theorem parsePlanSource_eq_ok {path source : List Char} {doc : PlanDocument}
    (h : parsePlanSource path source = .ok doc) :
    parseCoverageMatrix source = .ok doc.coverageMatrix ∧ parseTasks source = .ok doc.tasks := by
  unfold parsePlanSource at h
  obtain ⟨_, _, h⟩ := bind_eq_ok.mp h
  obtain ⟨_, _, h⟩ := bind_eq_ok.mp h
  obtain ⟨_, _, h⟩ := bind_eq_ok.mp h
  obtain ⟨_, _, h⟩ := bind_eq_ok.mp h
  obtain ⟨_, _, h⟩ := bind_eq_ok.mp h
  obtain ⟨_, _, h⟩ := bind_eq_ok.mp h
  obtain ⟨_, _, h⟩ := bind_eq_ok.mp h
  obtain ⟨_, _, h⟩ := bind_eq_ok.mp h
  obtain ⟨_, _, h⟩ := bind_eq_ok.mp h
  obtain ⟨matrix, hmatrix, h⟩ := bind_eq_ok.mp h
  obtain ⟨tasks, htasks, h⟩ := bind_eq_ok.mp h
  cases h
  exact ⟨hmatrix, htasks⟩

/-! ### Accepted plans -/

/-- A section of a task, with what is read of it. -/
structure TaskSection where
  heading : List Char
  body : List (List Char)
  task : PlanTask
  number_eq : parseCanonicalTaskHeadingNumber heading = .ok task.number
  read : ∃ heading', (heading' = heading ∨ heading' = stripCarriageReturn heading) ∧
    IsTaskOf heading' (relines body) task

namespace TaskSection

/-- The lines under the heading, as the readers of the task get them. -/
def block (section' : TaskSection) : List (List Char) := relines section'.body

def number (section' : TaskSection) : UInt32 := section'.task.number

theorem isTaskOf (section' : TaskSection) :
    ∃ heading, IsTaskOf heading section'.block section'.task := by
  obtain ⟨heading, _, h⟩ := section'.read
  exact ⟨heading, h⟩

theorem fields_eq (section' : TaskSection) :
    ∃ fields, parseTaskContractFields section'.number section'.block = .ok fields := by
  obtain ⟨heading, h⟩ := section'.isTaskOf
  exact ⟨_, h.fields⟩

end TaskSection

theorem ne_nil_of_isTaskHeading {line : List Char} (h : isTaskHeading line = true) : line ≠ [] := by
  rintro rfl
  revert h
  decide

theorem forall₂_taskSections {secs : List (List Char × List (List Char))}
    {blocks : List CanonicalTaskBlock} (hblocks : List.Forall₂ IsBlockOf secs blocks)
    (hsecs : ∀ sec ∈ secs, isTaskHeading sec.1 = true ∧ ∀ line ∈ sec.1 :: sec.2, '\n' ∉ line) :
    ∀ {tasks : List PlanTask},
    List.Forall₂ (fun (block : CanonicalTaskBlock) task => parseTaskChunk block.source = .ok task)
      blocks tasks →
    ∃ ts : List TaskSection, secs = ts.map (fun t => (t.heading, t.body)) ∧
      tasks = ts.map TaskSection.task ∧
      blocks = ts.map fun t => ⟨t.number, joinLines (t.heading :: t.body)⟩ := by
  induction hblocks with
  | nil =>
    intro tasks htasks
    cases htasks
    exact ⟨[], rfl, rfl, rfl⟩
  | @cons sec block secs blocks hblock _ ih =>
    intro tasks htasks
    rw [List.forall_mem_cons] at hsecs
    obtain ⟨task, tasks, htask, hrest, rfl⟩ := List.forall₂_cons_left_iff.mp htasks
    obtain ⟨ts, hts, rfl, rfl⟩ := ih hsecs.2 hrest
    obtain ⟨heading, body, hlines, hread⟩ := parseTaskChunk_eq_ok htask
    obtain ⟨hnumber, hsource⟩ := hblock
    rw [hsource, lines_joinLines_eq_relines hsecs.1.2] at hlines
    obtain ⟨heading', hheading', hrelines⟩ :=
      relines_cons (ne_nil_of_isTaskHeading hsecs.1.1) sec.2
    rw [hrelines] at hlines
    obtain ⟨rfl, rfl⟩ := List.cons.inj hlines
    have hsame : block.number = task.number := by
      obtain ⟨title, htitle⟩ := headingOf_of_number hnumber
      rcases hheading' with rfl | rfl
      · exact (htitle.unique hread.heading).1
      · obtain ⟨title', htitle'⟩ := htitle.strip
        exact (htitle'.unique hread.heading).1
    obtain ⟨number, source⟩ := block
    dsimp only at hsame hsource
    subst hsame hsource
    refine ⟨⟨sec.1, sec.2, task, hnumber, heading', hheading', hread⟩ :: ts, ?_, rfl, rfl⟩
    rw [List.map_cons, ← hts]

/-- The steps that the runtime knows of some sections. -/
def knownOf (ts : List TaskSection) : KnownSteps :=
  ts.foldl (fun known t => collectKnownTaskSteps t.number t.block known) fun _ => none

/-- **An accepted plan is the sections of its tasks.** -/
theorem parsePlanSource_sections {path source : List Char} {doc : PlanDocument}
    (h : parsePlanSource path source = .ok doc) :
    ∃ ts : List TaskSection,
      taskSections (lines source) = ts.map (fun t => (t.heading, t.body)) ∧
      doc.tasks = ts.map TaskSection.task ∧
      (ts.map TaskSection.number).Nodup ∧
      knownRuntimeStepProjectionLines source = knownOf ts := by
  obtain ⟨_, htasks⟩ := parsePlanSource_eq_ok h
  obtain ⟨blocks, hblocks, htasks⟩ := bind_eq_ok.mp htasks
  have hsplit := mapError_eq_ok.mp hblocks
  obtain ⟨hsections, hnodup⟩ := splitCanonicalTaskBlocks_eq_ok hsplit
  have hlines : ∀ sec ∈ taskSections (lines source), isTaskHeading sec.1 = true ∧
      ∀ line ∈ sec.1 :: sec.2, '\n' ∉ line := by
    intro sec hsec
    obtain ⟨hmem, htask⟩ := List.mem_filter.mp hsec
    refine ⟨htask, fun line hline => @not_mem_of_mem_lines source line ?_⟩
    rw [← sections_join (lines source)]
    exact List.mem_append_right _ (List.mem_flatMap.mpr ⟨sec, hmem, hline⟩)
  obtain ⟨ts, hts, htask, hblock⟩ :=
    forall₂_taskSections hsections hlines (mapM_eq_ok.mp htasks)
  refine ⟨ts, hts, htask, ?_, ?_⟩
  · rw [hblock, List.map_map] at hnodup
    exact hnodup
  · rw [knownRuntimeStepProjectionLines, hsplit, hblock]
    show collectKnownSteps (ts.map _) = _
    rw [collectKnownSteps, List.foldl_map, knownOf]
    rw [hts, List.forall_mem_map] at hlines
    refine List.foldl_ext _ _ _ fun known t ht => ?_
    obtain ⟨heading', _, hrelines⟩ := relines_cons (ne_nil_of_isTaskHeading (hlines t ht).1) t.body
    obtain ⟨fields, hfields⟩ := t.fields_eq
    rw [lines_joinLines_eq_relines (hlines t ht).2, hrelines]
    dsimp only [List.tail_cons]
    rw [TaskSection.block] at hfields
    cases hbody : relines t.body with
    | nil =>
      rw [if_pos (by simp), TaskSection.block, hbody]
      rfl
    | cons line ls =>
      rw [hbody] at hfields
      rw [if_neg (by simp), hfields, TaskSection.block, hbody]

end FeatureForge
