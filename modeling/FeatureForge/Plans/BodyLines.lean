import FeatureForge.Plans.StepLines

/-!
# What the lines of a task are

The check of a task body (`validate_task_body_structure`) takes each line for one thing: a field
line, an entry of a section, a step, a comment, or a line of a step's fenced detail or of a note
(`TaskBodyScan.kindOf`).  It looks at lines without the white space around them; the readers of
the fields look at the lines as they are.
-/

namespace FeatureForge

/-- What the check of a body takes a line for. -/
inductive TaskBodyLineKind
  | blank
  | comment
  | fenced
  | note
  | step
  | field (name : String)
  | entry (bodySection : TaskBodySection)
  deriving DecidableEq

/-- The field that a line begins, without the white space around it. -/
def taskBodyField (trimmed : List Char) : Option String :=
  match ["Spec Coverage", "Goal"].find? fun field =>
      trimmed = blockMarker field || startsWith (scalarMarker field) trimmed with
  | some field => some field
  | none => (taskBodySections.find? fun marker => trimmed = blockMarker marker.1).map Prod.fst

/-- The section that a field begins. -/
def sectionOfField (field : String) : TaskBodySection :=
  ((taskBodySections.find? fun marker => marker.1 = field).map Prod.snd).getD .none

namespace TaskBodyScan

def kindOutsideNote (s : TaskBodyScan) (line : List Char) : TaskBodyLineKind :=
  let trimmed := trimChars line
  if s.inFencedStepDetail || (s.sawStep && startsWith fence trimmed) then .fenced
  else if isTaskBodyCommentMarker trimmed then .comment
  else if s.sawStep && isRuntimeExecutionNoteProjectionStart line then .note
  else if (parseStepLine trimmed).isSome then .step
  else match taskBodyField trimmed with
    | some field => .field field
    | none => .entry s.bodySection

def kindOf (s : TaskBodyScan) (line : List Char) : TaskBodyLineKind :=
  if trimChars line = [] then .blank
  else match s.note with
    | none => s.kindOutsideNote line
    | some note => if note.continues line then .note
      else kindOutsideNote { s with note := none } line

end TaskBodyScan

/-- The lines that the check comes to, each with what it takes it for. -/
def bodyLines (taskNumber : UInt32) :
    TaskBodyScan → List (List Char) → List (List Char × TaskBodyLineKind)
  | _, [] => []
  | s, line :: ls => (line, s.kindOf line) ::
    match s.readLine taskNumber line with
    | .ok s' => bodyLines taskNumber s' ls
    | .error _ => []

/-- The lines of one kind. -/
def linesOf (kind : TaskBodyLineKind) (read : List (List Char × TaskBodyLineKind)) :
    List (List Char) :=
  (read.filter fun line => line.2 = kind).map Prod.fst

theorem linesOf_append (kind : TaskBodyLineKind)
    (read read' : List (List Char × TaskBodyLineKind)) :
    linesOf kind (read ++ read') = linesOf kind read ++ linesOf kind read' := by
  rw [linesOf, linesOf, linesOf, List.filter_append, List.map_append]

theorem linesOf_cons_self (kind : TaskBodyLineKind) (line : List Char)
    (read : List (List Char × TaskBodyLineKind)) :
    linesOf kind ((line, kind) :: read) = line :: linesOf kind read := by
  rw [linesOf, List.filter_cons_of_pos (by simp), List.map_cons, linesOf]

theorem linesOf_cons_of_ne {kind kind' : TaskBodyLineKind} (h : kind' ≠ kind) (line : List Char)
    (read : List (List Char × TaskBodyLineKind)) :
    linesOf kind ((line, kind') :: read) = linesOf kind read := by
  rw [linesOf, List.filter_cons_of_neg (by simpa using h), linesOf]

theorem mem_linesOf {kind : TaskBodyLineKind} {read : List (List Char × TaskBodyLineKind)}
    {line : List Char} : line ∈ linesOf kind read ↔ (line, kind) ∈ read := by
  simp [linesOf]

/-! ### One line -/

/-- A fence or a note is open only under a step. -/
structure TaskBodyScan.Settled (s : TaskBodyScan) : Prop where
  fence : s.inFencedStepDetail = true → s.sawStep = true
  note : s.note.isSome = true → s.sawStep = true

/-- The lines that belong to no section leave the section. -/
def SameSection (s s' : TaskBodyScan) : Prop :=
  s'.bodySection = s.bodySection ∧ s'.sawStep = s.sawStep ∧ s'.filesSeen = s.filesSeen

/-- What the check of a line comes to, by what it takes the line for. -/
def KindRead (s : TaskBodyScan) (line : List Char) (s' : TaskBodyScan) : TaskBodyLineKind → Prop
  | .blank => trimChars line = [] ∧ SameSection s s'
  | .comment => isTaskBodyCommentMarker (trimChars line) = true ∧ SameSection s s'
  | .fenced | .note => s.sawStep = true ∧ SameSection s s'
  | .step => s.filesSeen = true ∧ s'.sawStep = true ∧
      ∃ step, parseTaskStepLine (trimChars line) = .ok (some step)
  | .field field => s.sawStep = false ∧ taskBodyField (trimChars line) = some field ∧
      s'.bodySection = sectionOfField field ∧ s'.sawStep = false ∧
        s'.filesSeen = (s.filesSeen || decide (field = "Files"))
  | .entry bodySection => s.sawStep = false ∧ s.bodySection = bodySection ∧ SameSection s s' ∧
      (bodySection = .files ∨ (bodySection ≠ .none ∧ bodySection ≠ .steps ∧
        startsWith "- ".toList (trimChars line) = true)) ∧
      parseTaskStepLine (trimChars line) = .ok none

variable {n : UInt32} {s s' : TaskBodyScan} {line : List Char}

/-- A field that begins no section is a scalar. -/
theorem isScalarTaskFieldLine_eq (trimmed : List Char) :
    isScalarTaskFieldLine trimmed = (["Spec Coverage", "Goal"].find? fun field =>
      trimmed = blockMarker field || startsWith (scalarMarker field) trimmed).isSome := by
  rw [isScalarTaskFieldLine, List.find?_cons, List.find?_cons, List.find?_nil]
  cases hcoverage : (decide (trimmed = blockMarker "Spec Coverage") ||
    startsWith (scalarMarker "Spec Coverage") trimmed) with
  | true => simp
  | false =>
    cases hgoal : (decide (trimmed = blockMarker "Goal") ||
      startsWith (scalarMarker "Goal") trimmed) with
    | true => simp [hgoal]
    | false => simp [hgoal]

theorem readFieldLine_ok (hno : parseTaskStepLine (trimChars line) = .ok none)
    (h : s.readFieldLine n (trimChars line) = .ok s') :
    s.sawStep = false ∧ s'.note = s.note ∧ s'.inFencedStepDetail = s.inFencedStepDetail ∧
      KindRead s line s' (match taskBodyField (trimChars line) with
        | some field => .field field
        | none => .entry s.bodySection) := by
  unfold TaskBodyScan.readFieldLine at h
  cases hstep : s.sawStep with
  | true => rw [hstep] at h; cases h
  | false =>
    rw [hstep, if_neg Bool.false_ne_true, isScalarTaskFieldLine_eq] at h
    unfold taskBodyField
    cases hscalar : ["Spec Coverage", "Goal"].find? fun field =>
        trimChars line = blockMarker field || startsWith (scalarMarker field) (trimChars line) with
    | some field =>
      rw [hscalar, Option.isSome_some, if_pos rfl] at h
      cases h
      have hfield : field ∈ ["Spec Coverage", "Goal"] := List.mem_of_find?_eq_some hscalar
      refine ⟨rfl, rfl, rfl, hstep, ?_, ?_, rfl, ?_⟩
      · rw [taskBodyField, hscalar]
      all_goals
        rcases List.mem_pair.mp hfield with rfl | rfl <;> simp [sectionOfField, taskBodySections]
    | none =>
      rw [hscalar, Option.isSome_none, if_neg Bool.false_ne_true] at h
      dsimp only
      cases hmarker : taskBodySections.find? fun marker =>
          trimChars line = blockMarker marker.1 with
      | some marker =>
        rw [hmarker] at h
        cases h
        have hmem : marker ∈ taskBodySections := List.mem_of_find?_eq_some hmarker
        refine ⟨rfl, rfl, rfl, hstep, ?_, ?_, rfl, ?_⟩
        · rw [taskBodyField, hscalar]
          dsimp only
          rw [hmarker]
          rfl
        all_goals
          simp only [taskBodySections, List.mem_cons, List.not_mem_nil, or_false] at hmem
          rcases hmem with rfl | rfl | rfl | rfl <;> simp [sectionOfField, taskBodySections]
      | none =>
        rw [hmarker] at h
        dsimp only [Option.map_none] at h ⊢
        cases hsection : s.bodySection with
        | none => rw [hsection] at h; cases h
        | steps => rw [hsection] at h; cases h
        | files =>
          rw [hsection] at h
          cases h
          exact ⟨rfl, rfl, rfl, hstep, hsection, ⟨rfl, rfl, rfl⟩, Or.inl rfl, hno⟩
        | context | constraints | doneWhen =>
          rw [hsection] at h
          dsimp only at h
          split_ifs at h with hbullet
          cases h
          exact ⟨rfl, rfl, rfl, hstep, hsection, ⟨rfl, rfl, rfl⟩,
            Or.inr ⟨nofun, nofun, hbullet⟩, hno⟩

theorem readOutsideNote_ok (hs : s.Settled) (hnote : s.note = none)
    (h : s.readOutsideNote n line = .ok s') :
    s'.Settled ∧ KindRead s line s' (s.kindOutsideNote line) := by
  unfold TaskBodyScan.readOutsideNote at h
  unfold TaskBodyScan.kindOutsideNote
  dsimp only at h ⊢
  cases hfenced : s.inFencedStepDetail with
  | true =>
    rw [hfenced, if_pos rfl] at h
    cases h
    rw [Bool.true_or, if_pos rfl]
    exact ⟨⟨fun _ => hs.fence hfenced, hs.note⟩, hs.fence hfenced, rfl, rfl, rfl⟩
  | false =>
    rw [hfenced, if_neg Bool.false_ne_true] at h
    rw [Bool.false_or]
    cases hopen : s.sawStep && startsWith fence (trimChars line) with
    | true =>
      rw [hopen, if_pos rfl] at h
      cases h
      rw [if_pos rfl]
      have hstep := Bool.and_elim_left hopen
      exact ⟨⟨fun _ => hstep, hs.note⟩, hstep, rfl, rfl, rfl⟩
    | false =>
      rw [hopen, if_neg Bool.false_ne_true] at h
      rw [if_neg Bool.false_ne_true]
      by_cases hcomment : isTaskBodyCommentMarker (trimChars line) = true
      · rw [if_pos hcomment] at h ⊢
        cases h
        exact ⟨hs, hcomment, rfl, rfl, rfl⟩
      · rw [if_neg hcomment] at h ⊢
        cases hstart : s.sawStep && isRuntimeExecutionNoteProjectionStart line with
        | true =>
          rw [if_pos (Bool.and_elim_left hstart), RuntimeExecutionNoteProjectionBlock.start,
            if_pos (Bool.and_elim_right hstart)] at h
          cases h
          rw [if_pos rfl]
          have hstep := Bool.and_elim_left hstart
          exact ⟨⟨fun _ => hstep, fun _ => hstep⟩, hstep, rfl, rfl, rfl⟩
        | false =>
          have hnone : (if s.sawStep = true then RuntimeExecutionNoteProjectionBlock.start line
              else none) = none := by
            rw [RuntimeExecutionNoteProjectionBlock.start]
            split_ifs with hstep hnote
            · rw [hstep, hnote] at hstart
              cases hstart
            · rfl
            · rfl
          rw [hnone] at h
          rw [if_neg Bool.false_ne_true]
          obtain ⟨read, hread, h⟩ := bind_eq_ok.mp h
          have hparse : (parseStepLine (trimChars line)).map Prod.snd = read :=
            (parseTaskStepLine_eq_ok hread).2
          cases read with
          | some step =>
            dsimp only at h
            have hsome : (parseStepLine (trimChars line)).isSome = true := by
              rw [← Option.isSome_map, hparse]
              rfl
            rw [if_pos hsome]
            split_ifs at h with hfiles hdup
            cases h
            refine ⟨⟨fun _ => rfl, fun _ => rfl⟩, ?_, rfl, step, hread⟩
            simpa using hfiles
          | none =>
            dsimp only at h
            have hsome : ¬ (parseStepLine (trimChars line)).isSome = true := by
              rw [← Option.isSome_map, hparse]
              exact Bool.false_ne_true
            rw [if_neg hsome]
            obtain ⟨hstep, hnote', hfence', hkind⟩ := readFieldLine_ok hread h
            refine ⟨⟨fun hopen' => ?_, fun hopen' => ?_⟩, hkind⟩
            · rw [hfence', hfenced] at hopen'
              cases hopen'
            · rw [hnote', hnote] at hopen'
              cases hopen'

/-- **The check of a line** comes to what it takes the line for. -/
theorem readLine_ok (hs : s.Settled) (h : s.readLine n line = .ok s') :
    s'.Settled ∧ KindRead s line s' (s.kindOf line) := by
  unfold TaskBodyScan.readLine at h
  unfold TaskBodyScan.kindOf
  by_cases hblank : trimChars line = []
  · rw [if_pos hblank] at h ⊢
    cases h
    exact ⟨hs, hblank, rfl, rfl, rfl⟩
  · rw [if_neg hblank] at h ⊢
    cases hnote : s.note with
    | none =>
      rw [hnote] at h
      exact readOutsideNote_ok hs hnote h
    | some note =>
      rw [hnote] at h
      dsimp only at h ⊢
      split_ifs at h ⊢ with hcontinues
      · cases h
        exact ⟨hs, hs.note (by rw [hnote]; rfl), rfl, rfl, rfl⟩
      · have hsettled : TaskBodyScan.Settled { s with note := none } := ⟨hs.fence, nofun⟩
        obtain ⟨hs', hkind⟩ := readOutsideNote_ok hsettled rfl h
        refine ⟨hs', ?_⟩
        -- the note that ends is not looked at
        generalize TaskBodyScan.kindOutsideNote { s with note := none } line = kind at hkind ⊢
        cases kind <;> exact hkind

theorem settled_start : TaskBodyScan.start.Settled := ⟨nofun, nofun⟩

/-! ### All lines -/

theorem bodyLines_cons (h : s.readLine n line = .ok s') (ls : List (List Char)) :
    bodyLines n s (line :: ls) = (line, s.kindOf line) :: bodyLines n s' ls := by
  rw [bodyLines, h]

/-- A body that is checked through. -/
theorem foldlM_cons {ls : List (List Char)} {r : TaskBodyScan}
    (h : (line :: ls).foldlM (TaskBodyScan.readLine n) s = .ok r) :
    ∃ s', s.readLine n line = .ok s' ∧ ls.foldlM (TaskBodyScan.readLine n) s' = .ok r := by
  rw [List.foldlM_cons] at h
  exact bind_eq_ok.mp h

/-- Each line is taken for something. -/
theorem bodyLines_map_fst : ∀ {ls : List (List Char)} {s r : TaskBodyScan},
    ls.foldlM (TaskBodyScan.readLine n) s = .ok r → (bodyLines n s ls).map Prod.fst = ls := by
  intro ls
  induction ls with
  | nil => exact fun _ => rfl
  | cons line ls ih =>
    intro s r h
    obtain ⟨s', hline, hrest⟩ := foldlM_cons h
    rw [bodyLines_cons hline, List.map_cons, ih hrest]

/-- After a step nothing but steps, comments and details is left. -/
theorem linesOf_after_step {kind : TaskBodyLineKind}
    (hkind : (∃ field, kind = .field field) ∨ ∃ bodySection, kind = .entry bodySection) :
    ∀ {ls : List (List Char)} {s r : TaskBodyScan}, s.Settled → s.sawStep = true →
      ls.foldlM (TaskBodyScan.readLine n) s = .ok r → linesOf kind (bodyLines n s ls) = [] := by
  intro ls
  induction ls with
  | nil => exact fun _ _ _ => rfl
  | cons line ls ih =>
    intro s r hs hstep h
    obtain ⟨s', hline, hrest⟩ := foldlM_cons h
    obtain ⟨hs', hread⟩ := readLine_ok hs hline
    rw [bodyLines_cons hline]
    have hne : s.kindOf line ≠ kind := by
      rintro heq
      rw [heq] at hread
      rcases hkind with ⟨field, rfl⟩ | ⟨bodySection, rfl⟩
      · exact absurd (hread.1.symm.trans hstep) Bool.false_ne_true
      · exact absurd (hread.1.symm.trans hstep) Bool.false_ne_true
    rw [linesOf_cons_of_ne hne]
    refine ih hs' ?_ hrest
    cases hk : s.kindOf line with
    | blank | comment | fenced | note =>
      rw [hk] at hread
      exact hread.2.2.1.trans hstep
    | step =>
      rw [hk] at hread
      exact hread.2.1
    | field field =>
      rw [hk] at hread
      exact absurd (hread.1.symm.trans hstep) Bool.false_ne_true
    | entry bodySection =>
      rw [hk] at hread
      exact absurd (hread.1.symm.trans hstep) Bool.false_ne_true

end FeatureForge
