import FeatureForge.Plans.BodyLines

/-!
# The lines that a task keeps

A task keeps the lines of its body if the readers of its fields read what the check of the body
takes for their lines (`KeptLines`).  The readers look for a field line as it stands and the check
without the white space around it, and this is all that can make a difference
(`lines_kept_iff`): a field line that is indented opens a section for the check alone.
-/

namespace FeatureForge

/-- A line that is written as a field line. -/
def IsFieldLine (field : String) (line : List Char) : Prop :=
  line = blockMarker field ∨ startsWith (scalarMarker field) line = true

instance (field : String) (line : List Char) : Decidable (IsFieldLine field line) :=
  inferInstanceAs (Decidable (_ ∨ _))

/-! ### The order of the fields -/

/-- One field of `enforce_task_field_order`. -/
def enforceField (n : UInt32) (ls : List (List Char)) (previous : Option (String × Nat))
    (field : String) : Except TaskContractParseError (Option (String × Nat)) :=
  match taskFieldPositions ls field with
  | [] => .ok previous
  | [position] =>
    match previous with
    | some (previousField, previousPosition) =>
      if position ≤ previousPosition then
        .error ⟨"TaskFieldOrder", taskPrefix n ++ " field `" ++ field ++
          "` must appear after `" ++ previousField ++ "`."⟩
      else .ok (some (field, position))
    | none => .ok (some (field, position))
  | _ => .error ⟨"DuplicateTaskField",
      taskPrefix n ++ " contains duplicate `" ++ field ++ "` fields."⟩

variable {n : UInt32} {ls : List (List Char)}

theorem enforceField_ok {previous next : Option (String × Nat)} {field : String}
    (h : enforceField n ls previous field = .ok next) :
    (taskFieldPositions ls field = [] ∧ next = previous) ∨
      ∃ position, taskFieldPositions ls field = [position] ∧ next = some (field, position) ∧
        ∀ entry ∈ previous, entry.2 < position := by
  unfold enforceField at h
  split at h
  · next hnil =>
    cases h
    exact Or.inl ⟨hnil, rfl⟩
  · next position hposition =>
    split at h
    · split_ifs at h with hle
      cases h
      refine Or.inr ⟨position, hposition, rfl, fun entry hentry => ?_⟩
      cases hentry
      exact Nat.lt_of_not_le hle
    · cases h
      exact Or.inr ⟨position, hposition, rfl, nofun⟩
  · cases h

/-- **The fields stand once each and in their order.** -/
theorem foldlM_enforceField : ∀ {fields : List String} {previous last : Option (String × Nat)},
    fields.foldlM (enforceField n ls) previous = .ok last →
      (∀ field ∈ fields, (taskFieldPositions ls field).length ≤ 1 ∧
        ∀ entry ∈ previous, ∀ position ∈ taskFieldPositions ls field, entry.2 < position) ∧
      fields.Pairwise fun field field' => ∀ position ∈ taskFieldPositions ls field,
        ∀ position' ∈ taskFieldPositions ls field', position < position' := by
  intro fields
  induction fields with
  | nil => exact fun _ => ⟨nofun, .nil⟩
  | cons field fields ih =>
    intro previous last h
    rw [List.foldlM_cons] at h
    obtain ⟨next, hfield, hrest⟩ := bind_eq_ok.mp h
    obtain ⟨hall, hpairs⟩ := ih hrest
    rw [List.forall_mem_cons, List.pairwise_cons]
    rcases enforceField_ok hfield with ⟨hnil, rfl⟩ | ⟨position, hposition, rfl, hbefore⟩
    · rw [hnil]
      exact ⟨⟨⟨Nat.zero_le _, fun _ _ => nofun⟩, hall⟩, fun _ _ => nofun, hpairs⟩
    · rw [hposition]
      refine ⟨⟨⟨Nat.le_refl _, fun entry hentry position' hmem => ?_⟩,
        fun field' hfield' => ⟨(hall field' hfield').1, fun entry hentry position' hmem => ?_⟩⟩,
        fun field' hfield' position' hmem position'' hmem' => ?_, hpairs⟩
      · rw [List.mem_singleton.mp hmem]
        exact hbefore entry hentry
      · exact (hbefore entry hentry).trans ((hall field' hfield').2 _ rfl position' hmem)
      · rw [List.mem_singleton.mp hmem]
        exact (hall field' hfield').2 _ rfl position'' hmem'

theorem mem_taskFieldPositions {field : String} {pre post : List (List Char)} {line : List Char}
    (h : IsFieldLine field line) :
    pre.length ∈ taskFieldPositions (pre ++ line :: post) field := by
  refine List.mem_map.mpr ⟨(line, pre.length), List.mem_filter.mpr ⟨?_, ?_⟩, rfl⟩
  · rw [List.mem_zipIdx_iff_getElem?]
    simp
  · simpa [IsFieldLine] using h

theorem length_taskFieldPositions (ls : List (List Char)) (field : String) :
    (taskFieldPositions ls field).length =
      (ls.filter fun line => IsFieldLine field line).length := by
  have hmap : (ls.zipIdx.filter fun entry => decide (IsFieldLine field entry.1)).map Prod.fst =
      ls.filter fun line => IsFieldLine field line := by
    conv_rhs => rw [← List.zipIdx_map_fst 0 ls, List.filter_map]
    rfl
  rw [← hmap, List.length_map, taskFieldPositions, List.length_map]
  refine congrArg List.length (List.filter_congr fun entry _ => Bool.eq_iff_iff.mpr ?_)
  rw [Bool.or_eq_true, decide_eq_true_iff, decide_eq_true_iff, IsFieldLine]

/-- What the order of the fields says of the lines. -/
structure FieldsInOrder (ls : List (List Char)) : Prop where
  unique : ∀ field ∈ taskFieldOrder, ∀ pre line post, ls = pre ++ line :: post →
    IsFieldLine field line → ∀ line' ∈ pre ++ post, ¬ IsFieldLine field line'
  filesLast : ∀ field ∈ taskFieldOrder, field ≠ "Files" → ∀ pre line post,
    ls = pre ++ line :: post → IsFieldLine field line →
      ∀ line' ∈ pre, ¬ IsFieldLine "Files" line'

theorem fieldsInOrder (h : enforceTaskFieldOrder n ls = .ok ()) : FieldsInOrder ls := by
  obtain ⟨last, hfold, _⟩ := bind_eq_ok.mp h
  have hfold' : taskFieldOrder.foldlM (enforceField n ls) none = .ok last := hfold
  obtain ⟨hall, hpairs⟩ := foldlM_enforceField hfold'
  refine ⟨fun field hfield pre line post hls hline line' hmem hline' => ?_,
    fun field hfield hfiles pre line post hls hline line' hmem hline' => ?_⟩
  · have hlength := (hall field hfield).1
    rw [length_taskFieldPositions, hls, List.filter_append,
      List.filter_cons_of_pos (by simpa using hline)] at hlength
    have hpos : 0 < (pre.filter fun line => IsFieldLine field line).length +
        (post.filter fun line => IsFieldLine field line).length := by
      rw [← List.length_append, ← List.filter_append]
      exact List.length_pos_of_mem (List.mem_filter.mpr ⟨hmem, by simpa using hline'⟩)
    rw [List.length_append, List.length_cons] at hlength
    omega
  · obtain ⟨pre', post', rfl⟩ := List.append_of_mem hmem
    have hbefore : ∀ position ∈ taskFieldPositions ls field,
        ∀ position' ∈ taskFieldPositions ls "Files", position < position' := by
      have hlast : ∀ field ∈ ["Spec Coverage", "Goal", "Context", "Constraints", "Done when"],
          ∀ position ∈ taskFieldPositions ls field,
            ∀ position' ∈ taskFieldPositions ls "Files", position < position' :=
        fun field hmem' =>
          (List.pairwise_append.mp (hpairs : List.Pairwise _ (["Spec Coverage", "Goal", "Context",
            "Constraints", "Done when"] ++ ["Files"]))).2.2 field hmem' "Files"
              (List.mem_singleton.mpr rfl)
      refine hlast field ?_
      simp only [taskFieldOrder, List.mem_cons, List.not_mem_nil, or_false] at hfield ⊢
      tauto
    have hposition := hbefore (pre' ++ line' :: post').length (hls ▸ mem_taskFieldPositions hline)
      pre'.length (by
        rw [hls, List.append_assoc, List.cons_append]
        exact mem_taskFieldPositions hline')
    rw [List.length_append, List.length_cons] at hposition
    omega

/-! ### What is kept -/

/-- A field whose one line is read as it stands, or which stands in the detail of a step. -/
def KeptScalar (field : String) (read : List (List Char × TaskBodyLineKind))
    (value : List Char → Prop) : Prop :=
  linesOf (.field field) read = [] ∨
    ∃ line, linesOf (.field field) read = [line] ∧ value line

/-- A field whose entries are the entries under its one line; without that line there are none. -/
def KeptEntries {α : Type} (field : String) (bodySection : TaskBodySection)
    (read : List (List Char × TaskBodyLineKind)) (value : List Char → Option α)
    (values : List α) : Prop :=
  (linesOf (.field field) read = [] ∧ linesOf (.entry bodySection) read = []) ∨
    (linesOf (.field field) read = [blockMarker field] ∧
      (linesOf (.entry bodySection) read).map value = values.map some)

def bulletValue (line : List Char) : Option (List Char) := stripPrefix "- ".toList (trimChars line)

def fileValue (line : List Char) : Option TaskFileEntry :=
  (parseFileEntry (trimChars line)).toOption

/-- The parsed task keeps the lines that the check of its body lets pass. -/
structure KeptLines (block : List (List Char)) (task : PlanTask) : Prop where
  named : (bodyLines task.number .start block).map Prod.fst = block
  coverage : KeptScalar "Spec Coverage" (bodyLines task.number .start block) fun line =>
    parseCsvField [line] "Spec Coverage" = .ok task.specCoverage
  goal : KeptScalar "Goal" (bodyLines task.number .start block) fun line =>
    scalarField [line] "Goal" = some task.goal
  context : KeptEntries "Context" .context (bodyLines task.number .start block) bulletValue
    task.context
  constraints : KeptEntries "Constraints" .constraints (bodyLines task.number .start block)
    bulletValue task.constraints
  doneWhen : KeptEntries "Done when" .doneWhen (bodyLines task.number .start block) bulletValue
    task.doneWhen
  files : KeptEntries "Files" .files (bodyLines task.number .start block) fileValue task.files
  steps : ((linesOf .step (bodyLines task.number .start block)).map fun line =>
    parsePlanStepLine (trimChars line)).Sublist (task.steps.map fun step => .ok (some step))

/-- Each line that the check takes for a field line is written as one. -/
def FieldsAsWritten (read : List (List Char × TaskBodyLineKind)) : Prop :=
  ∀ line field, (line, .field field) ∈ read → IsFieldLine field line

/-! ### Sections -/

/-- A field and the section it begins. -/
structure SectionField (field : String) (bodySection : TaskBodySection) : Prop where
  mem : field ∈ taskFieldOrder
  begins : sectionOfField field = bodySection
  only : ∀ field' ∈ taskFieldOrder, sectionOfField field' = bodySection → field' = field
  ne_none : bodySection ≠ .none
  ne_steps : bodySection ≠ .steps

theorem sectionField_of_mem (marker : String × TaskBodySection) (h : marker ∈ taskBodySections) :
    SectionField marker.1 marker.2 := by
  simp only [taskBodySections, List.mem_cons, List.not_mem_nil, or_false] at h
  rcases h with rfl | rfl | rfl | rfl <;>
    exact ⟨by decide, by decide, by decide, by decide, by decide⟩

theorem mem_taskFieldOrder_of_taskBodyField {line : List Char} {field : String}
    (h : taskBodyField line = some field) : field ∈ taskFieldOrder := by
  unfold taskBodyField at h
  split at h
  · next field' hfind =>
    cases h
    have hmem := List.mem_of_find?_eq_some hfind
    rcases List.mem_pair.mp hmem with rfl | rfl <;> decide
  · obtain ⟨marker, hfind, rfl⟩ := Option.map_eq_some_iff.mp h
    exact (sectionField_of_mem _ (List.mem_of_find?_eq_some hfind)).mem

section

variable {field : String} {bodySection : TaskBodySection}

/-- **Without a line of its field** a section has no entries. -/
theorem no_entries (hf : SectionField field bodySection) :
    ∀ {ls : List (List Char)} {s r : TaskBodyScan}, s.Settled → s.bodySection ≠ bodySection →
      ls.foldlM (TaskBodyScan.readLine n) s = .ok r →
        linesOf (.field field) (bodyLines n s ls) = [] →
          linesOf (.entry bodySection) (bodyLines n s ls) = [] := by
  intro ls
  induction ls with
  | nil => exact fun _ _ _ _ => rfl
  | cons line ls ih =>
    intro s r hs hne h hnone
    obtain ⟨s', hline, hrest⟩ := foldlM_cons h
    obtain ⟨hs', hread⟩ := readLine_ok hs hline
    rw [bodyLines_cons hline] at hnone ⊢
    have hfield : s.kindOf line ≠ .field field := by
      intro heq
      rw [heq, linesOf_cons_self] at hnone
      cases hnone
    have hentry : s.kindOf line ≠ .entry bodySection := by
      intro heq
      rw [heq] at hread
      exact hne hread.2.1
    rw [linesOf_cons_of_ne hfield] at hnone
    rw [linesOf_cons_of_ne hentry]
    cases hk : s.kindOf line with
    | blank | comment | fenced | note =>
      rw [hk] at hread
      exact ih hs' (hread.2.1 ▸ hne) hrest hnone
    | step =>
      rw [hk] at hread
      exact linesOf_after_step (Or.inr ⟨_, rfl⟩) hs' hread.2.1 hrest
    | field field' =>
      rw [hk] at hread
      refine ih hs' (fun heq => ?_) hrest hnone
      rw [hread.2.2.1] at heq
      exact hfield (by rw [hk, hf.only field' (mem_taskFieldOrder_of_taskBodyField hread.2.1) heq])
    | entry bodySection' =>
      rw [hk] at hread
      exact ih hs' (hread.2.2.1.1 ▸ hne) hrest hnone

/-! ### Bullets -/

theorem startsWith_stars_blockMarker (field : String) :
    startsWith "**".toList (blockMarker field) = true := by
  rw [startsWith_iff]
  exact List.prefix_append _ _

theorem startsWith_stars_of_scalar {line : List Char}
    (h : startsWith (scalarMarker field) line = true) : startsWith "**".toList line = true := by
  rw [startsWith_iff] at h ⊢
  exact List.IsPrefix.trans (List.prefix_append _ _) h

theorem IsFieldLine.stars {line : List Char} (h : IsFieldLine field line) :
    startsWith "**".toList line = true := by
  rcases h with rfl | h
  · exact startsWith_stars_blockMarker field
  · exact startsWith_stars_of_scalar h

theorem taskBodyField_stars {line : List Char} (h : taskBodyField line = some field) :
    startsWith "**".toList line = true := by
  unfold taskBodyField at h
  split at h
  · next field' hfind =>
    have hfield := List.find?_some hfind
    rw [Bool.or_eq_true, decide_eq_true_eq] at hfield
    exact IsFieldLine.stars hfield
  · obtain ⟨marker, hfind, rfl⟩ := Option.map_eq_some_iff.mp h
    have hmarker := List.find?_some hfind
    rw [decide_eq_true_eq] at hmarker
    rw [hmarker]
    exact startsWith_stars_blockMarker _

theorem trimChars_stars {line : List Char} (h : startsWith "**".toList line = true) :
    startsWith "**".toList (trimChars line) = true := by
  obtain ⟨rest, rfl⟩ := startsWith_iff.mp h
  show startsWith _ (trimChars ('*' :: '*' :: rest)) = true
  rw [trimChars_cons (by decide), trimEnd_cons (by decide)]
  rw [startsWith_iff]
  exact ⟨_, rfl⟩

/-- Two beginnings that differ. -/
theorem not_startsWith_both {p q line : List Char} (hclash : clashes p q = true)
    (hp : startsWith p line = true) (hq : startsWith q line = true) : False := by
  obtain ⟨rest, rfl⟩ := startsWith_iff.mp hq
  rw [startsWith_of_clash hclash] at hp
  cases hp

theorem startsWith_of_comment {line : List Char} (h : isTaskBodyCommentMarker line = true) :
    startsWith "<!--".toList line = true := Bool.and_elim_left h

/-- **The bullets of a section** are those that follow its field line. -/
theorem collect_bullets (hf : SectionField field bodySection) (hfiles : bodySection ≠ .files) :
    ∀ {ls : List (List Char)} {s r : TaskBodyScan} {values : List (List Char)}, s.Settled →
      s.sawStep = false → s.filesSeen = false → s.bodySection = bodySection →
        ls.foldlM (TaskBodyScan.readLine n) s = .ok r → FieldsAsWritten (bodyLines n s ls) →
          (∀ line ∈ ls, ¬ IsFieldLine field line) →
            parseBulletsAfterField n field true ls = .ok values →
              (linesOf (.entry bodySection) (bodyLines n s ls)).map bulletValue =
                values.map some := by
  intro ls
  induction ls with
  | nil =>
    intro s r values _ _ _ _ _ _ _ hparse
    cases hparse
    rfl
  | cons line ls ih =>
    intro s r values hs hstep hseen hsection h hwritten hunique hparse
    obtain ⟨s', hline, hrest⟩ := foldlM_cons h
    obtain ⟨hs', hread⟩ := readLine_ok hs hline
    rw [bodyLines_cons hline] at hwritten ⊢
    have hwritten' : FieldsAsWritten (bodyLines n s' ls) := fun line' field' hmem =>
      hwritten line' field' (List.mem_cons_of_mem _ hmem)
    have hunique' : ∀ line ∈ ls, ¬ IsFieldLine field line := fun line' hmem =>
      hunique line' (List.mem_cons_of_mem _ hmem)
    have hne : line ≠ blockMarker field := fun heq =>
      hunique line List.mem_cons_self (Or.inl heq)
    rw [parseBulletsAfterField, if_neg hne, if_pos rfl] at hparse
    by_cases hstars : startsWith "**".toList line = true
    · -- the next field line ends the bullets
      rw [if_pos hstars] at hparse
      cases hparse
      have htrim := trimChars_stars hstars
      cases hk : s.kindOf line with
      | blank =>
        rw [hk] at hread
        rw [hread.1] at htrim
        cases htrim
      | comment =>
        rw [hk] at hread
        exact (not_startsWith_both (by decide) (startsWith_of_comment hread.1) htrim).elim
      | fenced | note =>
        rw [hk] at hread
        exact absurd (hstep.symm.trans hread.1) Bool.false_ne_true
      | step =>
        rw [hk] at hread
        exact absurd (hseen.symm.trans hread.1) Bool.false_ne_true
      | field field' =>
        rw [hk] at hread
        rw [linesOf_cons_of_ne (by nofun)]
        have hfield' := mem_taskFieldOrder_of_taskBodyField hread.2.1
        have hother : field' ≠ field := by
          rintro rfl
          exact hunique line List.mem_cons_self (hwritten line field' (by rw [hk]; simp))
        have hnone : linesOf (.field field) (bodyLines n s' ls) = [] := by
          refine List.eq_nil_iff_forall_not_mem.mpr fun line' hmem => ?_
          have hmem' := mem_linesOf.mp hmem
          have hin : line' ∈ (bodyLines n s' ls).map Prod.fst := List.mem_map_of_mem hmem'
          rw [bodyLines_map_fst hrest] at hin
          exact hunique' line' hin (hwritten' line' field hmem')
        rw [no_entries hf hs' (fun heq => hother (hf.only field' hfield' ?_)) hrest hnone]
        · rfl
        · rw [← hread.2.2.1, heq]
      | entry bodySection' =>
        rw [hk] at hread
        obtain ⟨_, hsame, _, hbullet, _⟩ := hread
        rw [hsection] at hsame
        rcases hbullet with hbullet | ⟨_, _, hbullet⟩
        · exact absurd (hsame.trans hbullet) hfiles
        · exact (not_startsWith_both (by decide) hbullet htrim).elim
    · rw [if_neg hstars] at hparse
      by_cases hblank : trimChars line = []
      · rw [if_pos hblank] at hparse
        have hk : s.kindOf line = .blank := by rw [TaskBodyScan.kindOf, if_pos hblank]
        rw [hk] at hread ⊢
        rw [linesOf_cons_of_ne (by nofun)]
        obtain ⟨_, hsec, hst, hfs⟩ := hread
        exact ih hs' (hst.trans hstep) (hfs.trans hseen) (hsec.trans hsection) hrest hwritten'
          hunique' hparse
      · rw [if_neg hblank] at hparse
        cases hvalue : stripPrefix "- ".toList (trimChars line) with
        | none => rw [hvalue] at hparse; cases hparse
        | some value =>
          rw [hvalue] at hparse
          obtain ⟨values', hvalues, rfl⟩ := map_eq_ok.mp hparse
          have hbullet : startsWith "- ".toList (trimChars line) = true := by
            rw [startsWith_iff, eq_of_stripPrefix hvalue]
            exact List.prefix_append _ _
          have hk : s.kindOf line = .entry bodySection := by
            cases hk : s.kindOf line with
            | blank =>
              rw [hk] at hread
              exact absurd hread.1 hblank
            | comment =>
              rw [hk] at hread
              exact (not_startsWith_both (by decide) (startsWith_of_comment hread.1)
                hbullet).elim
            | fenced | note =>
              rw [hk] at hread
              exact absurd (hstep.symm.trans hread.1) Bool.false_ne_true
            | step =>
              rw [hk] at hread
              exact absurd (hseen.symm.trans hread.1) Bool.false_ne_true
            | field field' =>
              rw [hk] at hread
              exact (not_startsWith_both (by decide) (taskBodyField_stars hread.2.1)
                hbullet).elim
            | entry bodySection' =>
              rw [hk] at hread
              rw [← hread.2.1, hsection]
          rw [hk] at hread ⊢
          obtain ⟨_, _, ⟨hsec, hst, hfs⟩, _⟩ := hread
          rw [linesOf_cons_self, List.map_cons, List.map_cons, bulletValue, hvalue,
            ih hs' (hst.trans hstep) (hfs.trans hseen) (hsec.trans hsection) hrest hwritten'
              hunique' hvalues]

end

/-! ### Files -/

/-- A line that is a step or none is one as its beginning says. -/
theorem isPlanStepPrefix_of_read {line : List Char} {step : Option TaskStepLine}
    (h : parseTaskStepLine (trimChars line) = .ok step) :
    isPlanStepPrefix (trimChars line) = step.isSome := by
  obtain ⟨read, hread, rfl⟩ := map_eq_ok.mp h
  unfold parseTaskStepProjectionLine at hread
  unfold isPlanStepPrefix
  rw [trimStart_trimChars] at hread
  cases hdash : stripPrefix "- [".toList (trimChars line) with
  | none =>
    rw [hdash] at hread
    cases hread
    rfl
  | some rest =>
  rw [hdash] at hread
  cases rest with
  | nil =>
    cases hread
    rfl
  | cons mark rest =>
    dsimp only at hread ⊢
    split_ifs at hread with hmark
    · cases hread
      simp [hmark.1, hmark.2]
    · have hmark' : (decide (mark = 'x') || decide (mark = ' ')) = true := by
        rw [Bool.or_eq_true, decide_eq_true_iff, decide_eq_true_iff]
        tauto
      rw [hmark', Bool.true_and, Bool.eq_iff_iff, startsWith_iff]
      split at hread
      · next hstep =>
        cases hread
        refine iff_of_false (fun hprefix => ?_) Bool.false_ne_true
        obtain ⟨rest', rfl⟩ := hprefix
        rw [stripPrefix_append] at hstep
        cases hstep
      · next rest' hstep =>
        have hprefix : "] **Step ".toList <+: rest := ⟨rest', (eq_of_stripPrefix hstep).symm⟩
        split at hread
        · cases hread
        · split at hread
          · cases hread
          · cases hread
            exact iff_of_true hprefix rfl

theorem parseFileEntry_ok {trimmed : List Char} {entry : TaskFileEntry}
    (h : parseFileEntry trimmed = .ok entry) : startsWith "- ".toList trimmed = true := by
  unfold parseFileEntry at h
  split at h
  · cases h
  · next rest hrest =>
    rw [startsWith_iff, eq_of_stripPrefix hrest]
    exact List.prefix_append _ _

/-- **The entries of the files** are those that follow their field line. -/
theorem collect_files : ∀ {ls : List (List Char)} {s r : TaskBodyScan}
    {entries : List TaskFileEntry}, s.Settled → s.sawStep = false → s.bodySection = .files →
      ls.foldlM (TaskBodyScan.readLine n) s = .ok r →
        (∀ line ∈ ls, ¬ IsFieldLine "Files" line) → readFileEntries true ls = .ok entries →
          (linesOf (.entry .files) (bodyLines n s ls)).map fileValue = entries.map some := by
  intro ls
  induction ls with
  | nil =>
    intro s r entries _ _ _ _ _ hparse
    cases hparse
    rfl
  | cons line ls ih =>
    intro s r entries hs hstep hsection h hunique hparse
    obtain ⟨s', hline, hrest⟩ := foldlM_cons h
    obtain ⟨hs', hread⟩ := readLine_ok hs hline
    rw [bodyLines_cons hline]
    have hunique' : ∀ line ∈ ls, ¬ IsFieldLine "Files" line := fun line' hmem =>
      hunique line' (List.mem_cons_of_mem _ hmem)
    have hne : line ≠ blockMarker "Files" := fun heq =>
      hunique line List.mem_cons_self (Or.inl heq)
    rw [readFileEntries, if_neg hne, if_pos rfl] at hparse
    by_cases hsteps : isPlanStepPrefix (trimChars line) = true
    · -- the first step ends the files
      rw [if_pos hsteps] at hparse
      cases hparse
      have hdash : startsWith "- [".toList (trimChars line) = true := by
        unfold isPlanStepPrefix at hsteps
        cases hstrip : stripPrefix "- [".toList (trimChars line) with
        | none => rw [hstrip] at hsteps; cases hsteps
        | some rest =>
          rw [startsWith_iff, eq_of_stripPrefix hstrip]
          exact List.prefix_append _ _
      cases hk : s.kindOf line with
      | blank =>
        rw [hk] at hread
        rw [hread.1] at hdash
        cases hdash
      | comment =>
        rw [hk] at hread
        exact (not_startsWith_both (by decide) (startsWith_of_comment hread.1) hdash).elim
      | fenced | note =>
        rw [hk] at hread
        exact absurd (hstep.symm.trans hread.1) Bool.false_ne_true
      | step =>
        rw [hk] at hread
        rw [linesOf_cons_of_ne (by nofun), linesOf_after_step (Or.inr ⟨_, rfl⟩) hs' hread.2.1 hrest]
        rfl
      | field field =>
        rw [hk] at hread
        exact (not_startsWith_both (by decide) (taskBodyField_stars hread.2.1) hdash).elim
      | entry bodySection =>
        rw [hk] at hread
        rw [isPlanStepPrefix_of_read hread.2.2.2.2] at hsteps
        cases hsteps
    · rw [if_neg hsteps] at hparse
      by_cases hblank : trimChars line = []
      · rw [if_pos hblank] at hparse
        have hk : s.kindOf line = .blank := by rw [TaskBodyScan.kindOf, if_pos hblank]
        rw [hk] at hread ⊢
        rw [linesOf_cons_of_ne (by nofun)]
        obtain ⟨_, hsec, hst, _⟩ := hread
        exact ih hs' (hst.trans hstep) (hsec.trans hsection) hrest hunique' hparse
      · rw [if_neg hblank] at hparse
        obtain ⟨entry, hentry, hparse⟩ := bind_eq_ok.mp hparse
        obtain ⟨entries', hentries, rfl⟩ := map_eq_ok.mp hparse
        have hbullet := parseFileEntry_ok hentry
        have hk : s.kindOf line = .entry .files := by
          cases hk : s.kindOf line with
          | blank =>
            rw [hk] at hread
            exact absurd hread.1 hblank
          | comment =>
            rw [hk] at hread
            exact (not_startsWith_both (by decide) (startsWith_of_comment hread.1)
              hbullet).elim
          | fenced | note =>
            rw [hk] at hread
            exact absurd (hstep.symm.trans hread.1) Bool.false_ne_true
          | step =>
            rw [hk] at hread
            obtain ⟨_, _, step, hparsed⟩ := hread
            exact absurd (isPlanStepPrefix_of_read hparsed) hsteps
          | field field =>
            rw [hk] at hread
            exact (not_startsWith_both (by decide) (taskBodyField_stars hread.2.1)
              hbullet).elim
          | entry bodySection =>
            rw [hk] at hread
            rw [← hread.2.1, hsection]
        rw [hk] at hread ⊢
        obtain ⟨_, _, ⟨hsec, hst, _⟩, _⟩ := hread
        rw [linesOf_cons_self, List.map_cons, List.map_cons, fileValue, hentry,
          ih hs' (hst.trans hstep) (hsec.trans hsection) hrest hunique' hentries]
        rfl

/-! ### A whole body -/

/-- The run of a body up to a line that is taken for something, and on from it. -/
theorem bodyLines_split {kind : TaskBodyLineKind} {line : List Char} :
    ∀ {ls : List (List Char)} {s r : TaskBodyScan}, s.Settled →
      ls.foldlM (TaskBodyScan.readLine n) s = .ok r → (line, kind) ∈ bodyLines n s ls →
        ∃ pre post s₁ s₂, ls = pre ++ line :: post ∧
          pre.foldlM (TaskBodyScan.readLine n) s = .ok s₁ ∧ KindRead s₁ line s₂ kind ∧
            s₂.Settled ∧ post.foldlM (TaskBodyScan.readLine n) s₂ = .ok r ∧
              bodyLines n s ls = bodyLines n s pre ++ (line, kind) :: bodyLines n s₂ post := by
  intro ls
  induction ls with
  | nil => exact fun _ _ hmem => absurd hmem List.not_mem_nil
  | cons line' ls ih =>
    intro s r hs h hmem
    obtain ⟨s', hline, hrest⟩ := foldlM_cons h
    obtain ⟨hs', hread⟩ := readLine_ok hs hline
    rw [bodyLines_cons hline] at hmem ⊢
    rcases List.mem_cons.mp hmem with heq | hmem
    · obtain ⟨rfl, rfl⟩ := Prod.mk.inj heq
      exact ⟨[], ls, s, s', rfl, rfl, hread, hs', hrest, rfl⟩
    · obtain ⟨pre, post, s₁, s₂, rfl, hpre, hkind, hs₂, hpost, hsplit⟩ := ih hs' hrest hmem
      refine ⟨line' :: pre, post, s₁, s₂, rfl, ?_, hkind, hs₂, hpost, ?_⟩
      · rw [List.foldlM_cons, hline]
        exact hpre
      · rw [hsplit, bodyLines_cons hline]
        rfl

theorem filesSeen_of_run : ∀ {ls : List (List Char)} {s r : TaskBodyScan}, s.Settled →
    s.filesSeen = false → ls.foldlM (TaskBodyScan.readLine n) s = .ok r →
      linesOf (.field "Files") (bodyLines n s ls) = [] → r.filesSeen = false := by
  intro ls
  induction ls with
  | nil =>
    intro s r _ hseen h _
    cases h
    exact hseen
  | cons line ls ih =>
    intro s r hs hseen h hnone
    obtain ⟨s', hline, hrest⟩ := foldlM_cons h
    obtain ⟨hs', hread⟩ := readLine_ok hs hline
    rw [bodyLines_cons hline] at hnone
    have hfield : s.kindOf line ≠ .field "Files" := by
      intro heq
      rw [heq, linesOf_cons_self] at hnone
      cases hnone
    rw [linesOf_cons_of_ne hfield] at hnone
    refine ih hs' ?_ hrest hnone
    cases hk : s.kindOf line with
    | blank | comment | fenced | note =>
      rw [hk] at hread
      exact hread.2.2.2.trans hseen
    | step =>
      rw [hk] at hread
      exact absurd (hseen.symm.trans hread.1) Bool.false_ne_true
    | field field =>
      rw [hk] at hread hfield
      rw [hread.2.2.2.2, hseen, Bool.false_or]
      exact decide_eq_false fun heq => hfield (heq ▸ rfl)
    | entry bodySection =>
      rw [hk] at hread
      exact hread.2.2.1.2.2.trans hseen

/-- No line of a part without field lines is taken for one. -/
theorem linesOf_field_eq_nil {field : String} {s r : TaskBodyScan}
    (h : ls.foldlM (TaskBodyScan.readLine n) s = .ok r)
    (hwritten : FieldsAsWritten (bodyLines n s ls)) (hno : ∀ line ∈ ls, ¬ IsFieldLine field line) :
    linesOf (.field field) (bodyLines n s ls) = [] := by
  refine List.eq_nil_iff_forall_not_mem.mpr fun line hmem => ?_
  have hmem' := mem_linesOf.mp hmem
  have hin : line ∈ (bodyLines n s ls).map Prod.fst := List.mem_map_of_mem hmem'
  rw [bodyLines_map_fst h] at hin
  exact hno line hin (hwritten line field hmem')

/-- A field line of a body, with what stands before and behind it. -/
structure FieldAt (n : UInt32) (ls : List (List Char)) (field : String) (line : List Char)
    (pre post : List (List Char)) (s₁ s₂ r : TaskBodyScan) : Prop where
  eq : ls = pre ++ line :: post
  before : pre.foldlM (TaskBodyScan.readLine n) .start = .ok s₁
  read : KindRead s₁ line s₂ (.field field)
  settled : s₂.Settled
  behind : post.foldlM (TaskBodyScan.readLine n) s₂ = .ok r
  lines : bodyLines n .start ls =
    bodyLines n .start pre ++ (line, .field field) :: bodyLines n s₂ post
  written : FieldsAsWritten (bodyLines n s₂ post)
  none_before : ∀ line' ∈ pre, ¬ IsFieldLine field line'
  none_behind : ∀ line' ∈ post, ¬ IsFieldLine field line'
  only : linesOf (.field field) (bodyLines n .start ls) = [line]

section

variable {field : String} {r : TaskBodyScan}

/-- A field has no line in the body, or one. -/
theorem fieldAt (hrun : ls.foldlM (TaskBodyScan.readLine n) .start = .ok r)
    (horder : FieldsInOrder ls) (hwritten : FieldsAsWritten (bodyLines n .start ls))
    (hfield : field ∈ taskFieldOrder) :
    linesOf (.field field) (bodyLines n .start ls) = [] ∨
      ∃ line pre post s₁ s₂, IsFieldLine field line ∧ FieldAt n ls field line pre post s₁ s₂ r := by
  by_cases hnone : linesOf (.field field) (bodyLines n .start ls) = []
  · exact Or.inl hnone
  · obtain ⟨line, hmem⟩ := List.exists_mem_of_ne_nil _ hnone
    have hmem' := mem_linesOf.mp hmem
    obtain ⟨pre, post, s₁, s₂, heq, hpre, hread, hs₂, hpost, hsplit⟩ :=
      bodyLines_split settled_start hrun hmem'
    have hline := hwritten line field hmem'
    have hunique := horder.unique field hfield pre line post heq hline
    have hbefore : ∀ line' ∈ pre, ¬ IsFieldLine field line' := fun line' h =>
      hunique line' (List.mem_append_left _ h)
    have hbehind : ∀ line' ∈ post, ¬ IsFieldLine field line' := fun line' h =>
      hunique line' (List.mem_append_right _ h)
    have hwritten₁ : FieldsAsWritten (bodyLines n .start pre) := fun line' field' h =>
      hwritten line' field' (hsplit ▸ List.mem_append_left _ h)
    have hwritten₂ : FieldsAsWritten (bodyLines n s₂ post) := fun line' field' h =>
      hwritten line' field' (hsplit ▸ List.mem_append_right _ (List.mem_cons_of_mem _ h))
    refine Or.inr ⟨line, pre, post, s₁, s₂, hline, heq, hpre, hread, hs₂, hpost, hsplit, hwritten₂,
      hbefore, hbehind, ?_⟩
    rw [hsplit, linesOf_append, linesOf_cons_self, linesOf_field_eq_nil hpre hwritten₁ hbefore,
      linesOf_field_eq_nil hpost hwritten₂ hbehind, List.nil_append]

/-- The one line of a field is the line that is written as one. -/
theorem FieldAt.eq_line {line line' : List Char} {pre post : List (List Char)}
    {s₁ s₂ : TaskBodyScan} (h : FieldAt n ls field line pre post s₁ s₂ r) (hmem : line' ∈ ls)
    (hline : IsFieldLine field line') : line' = line := by
  rw [h.eq, List.mem_append, List.mem_cons] at hmem
  rcases hmem with hmem | rfl | hmem
  · exact absurd hline (h.none_before line' hmem)
  · rfl
  · exact absurd hline (h.none_behind line' hmem)

theorem scalarField_some {value : List Char} (h : scalarField ls field = some value) :
    ∃ line ∈ ls, stripPrefix (scalarMarker field) line = some value :=
  List.exists_of_findSome?_eq_some h

theorem isFieldLine_of_strip {line value : List Char}
    (h : stripPrefix (scalarMarker field) line = some value) : IsFieldLine field line := by
  refine Or.inr ?_
  rw [startsWith_iff, eq_of_stripPrefix h]
  exact List.prefix_append _ _

/-- A scalar that is read is that of its line. -/
theorem kept_scalar (hrun : ls.foldlM (TaskBodyScan.readLine n) .start = .ok r)
    (horder : FieldsInOrder ls) (hwritten : FieldsAsWritten (bodyLines n .start ls))
    (hfield : field ∈ taskFieldOrder) {value : List Char}
    (hvalue : scalarField ls field = some value) :
    KeptScalar field (bodyLines n .start ls) fun line => scalarField [line] field = some value := by
  rcases fieldAt hrun horder hwritten hfield with hnone | ⟨line, pre, post, s₁, s₂, _, hat⟩
  · exact Or.inl hnone
  · obtain ⟨line', hmem, hstrip⟩ := scalarField_some hvalue
    obtain rfl := hat.eq_line hmem (isFieldLine_of_strip hstrip)
    refine Or.inr ⟨line', hat.only, ?_⟩
    show scalarField [line'] field = some value
    rw [scalarField, List.findSome?_cons, hstrip]

/-- The entries that are read are those under the line of their field. -/
theorem kept_entries {α : Type} {bodySection : TaskBodySection} {value : List Char → Option α}
    {values : List α} (hf : SectionField field bodySection)
    (hrun : ls.foldlM (TaskBodyScan.readLine n) .start = .ok r) (horder : FieldsInOrder ls)
    (hwritten : FieldsAsWritten (bodyLines n .start ls)) (hmarker : blockMarker field ∈ ls)
    (hcollect : ∀ pre post s₁ s₂, FieldAt n ls field (blockMarker field) pre post s₁ s₂ r →
      (field ≠ "Files" → s₂.filesSeen = false) →
        (linesOf (.entry bodySection) (bodyLines n s₂ post)).map value = values.map some) :
    KeptEntries field bodySection (bodyLines n .start ls) value values := by
  rcases fieldAt hrun horder hwritten hf.mem with hnone | ⟨line, pre, post, s₁, s₂, hline, hat⟩
  · exact Or.inl ⟨hnone, no_entries hf settled_start hf.ne_none.symm hrun hnone⟩
  · obtain rfl := hat.eq_line hmarker (Or.inl rfl)
    have hwritten₁ : FieldsAsWritten (bodyLines n .start pre) := fun line' field' h =>
      hwritten line' field' (hat.lines ▸ List.mem_append_left _ h)
    have hseen : field ≠ "Files" → s₂.filesSeen = false := by
      intro hfiles
      have hno := horder.filesLast field hf.mem hfiles pre _ post hat.eq hline
      have hbefore := filesSeen_of_run settled_start rfl hat.before
        (linesOf_field_eq_nil hat.before hwritten₁ hno)
      rw [hat.read.2.2.2.2, hbefore, Bool.false_or]
      exact decide_eq_false hfiles
    have hfirst := no_entries hf settled_start hf.ne_none.symm hat.before
      (linesOf_field_eq_nil hat.before hwritten₁ hat.none_before)
    refine Or.inr ⟨hat.only, ?_⟩
    rw [hat.lines, linesOf_append, hfirst, List.nil_append, linesOf_cons_of_ne (by nofun)]
    exact hcollect pre post s₁ s₂ hat hseen

end

/-! ### An accepted task -/

theorem parseBulletsAfterField_skip {field : String} : ∀ {pre post : List (List Char)},
    blockMarker field ∉ pre →
      parseBulletsAfterField n field false (pre ++ blockMarker field :: post) =
        parseBulletsAfterField n field true post := by
  intro pre
  induction pre with
  | nil =>
    intro post _
    rw [List.nil_append, parseBulletsAfterField, if_pos rfl]
  | cons line pre ih =>
    intro post h
    obtain ⟨hne, hrest⟩ := List.ne_and_not_mem_of_not_mem_cons h
    rw [List.cons_append, parseBulletsAfterField, if_neg hne.symm, if_neg Bool.false_ne_true,
      ih hrest]

theorem readFileEntries_skip : ∀ {pre post : List (List Char)}, blockMarker "Files" ∉ pre →
    readFileEntries false (pre ++ blockMarker "Files" :: post) = readFileEntries true post := by
  intro pre
  induction pre with
  | nil =>
    intro post _
    rw [List.nil_append, readFileEntries, if_pos rfl]
  | cons line pre ih =>
    intro post h
    obtain ⟨hne, hrest⟩ := List.ne_and_not_mem_of_not_mem_cons h
    rw [List.cons_append, readFileEntries, if_neg hne.symm, if_neg Bool.false_ne_true, ih hrest]

/-- Files are only read behind their field line. -/
theorem mem_of_readFileEntries {entries : List TaskFileEntry} (hne : entries ≠ []) :
    ∀ {ls : List (List Char)}, readFileEntries false ls = .ok entries →
      blockMarker "Files" ∈ ls := by
  intro ls
  induction ls with
  | nil =>
    intro h
    cases h
    exact absurd rfl hne
  | cons line ls ih =>
    intro h
    by_cases hline : line = blockMarker "Files"
    · exact hline ▸ List.mem_cons_self
    · rw [readFileEntries, if_neg hline, if_neg Bool.false_ne_true] at h
      exact List.mem_cons_of_mem _ (ih h)

theorem parseRequiredBulletField_ok {field errorClass : String} {values : List (List Char)}
    (h : parseRequiredBulletField n ls field errorClass = .ok values) :
    blockMarker field ∈ ls ∧ parseBulletsAfterField n field false ls = .ok values := by
  unfold parseRequiredBulletField at h
  split_ifs at h with hmem
  exact ⟨List.contains_iff_mem.mp hmem, h⟩

/-- A reading of the contract, reader by reader. -/
structure ContractRead (n : UInt32) (ls : List (List Char)) (fields : TaskContractFields) :
    Prop where
  order : enforceTaskFieldOrder n ls = .ok ()
  goal : scalarField ls "Goal" = some fields.goal
  context : parseRequiredBulletField n ls "Context" "TaskMissingContext" = .ok fields.context
  constraints : parseRequiredBulletField n ls "Constraints" "TaskMissingConstraints" =
    .ok fields.constraints
  doneWhen : parseRequiredBulletField n ls "Done when" "TaskMissingDoneWhen" = .ok fields.doneWhen
  body : ∃ r, ls.foldlM (TaskBodyScan.readLine n) .start = .ok r

theorem contractRead {fields : TaskContractFields}
    (h : parseTaskContractFields n ls = .ok fields) : ContractRead n ls fields := by
  unfold parseTaskContractFields at h
  split_ifs at h with hlegacy
  obtain ⟨_, horder, h⟩ := bind_eq_ok.mp h
  obtain ⟨goal, hgoal, h⟩ := bind_eq_ok.mp h
  obtain ⟨context, hcontext, h⟩ := bind_eq_ok.mp h
  obtain ⟨constraints, hconstraints, h⟩ := bind_eq_ok.mp h
  obtain ⟨doneWhen, hdoneWhen, h⟩ := bind_eq_ok.mp h
  obtain ⟨_, hbody, h⟩ := bind_eq_ok.mp h
  cases h
  refine ⟨horder, ?_, hcontext, hconstraints, hdoneWhen, ?_⟩
  · unfold parseScalarField at hgoal
    split at hgoal
    · cases hgoal
    · next value hvalue =>
      cases hgoal
      exact hvalue
  · obtain ⟨r, hr, _⟩ := bind_eq_ok.mp hbody
    exact ⟨r, hr⟩

theorem parseCsvField_ok {field : String} {values : List (List Char)}
    (h : parseCsvField ls field = .ok values) :
    ∃ value, scalarField ls field = some value ∧ ∀ ls', scalarField ls' field = some value →
      parseCsvField ls' field = .ok values := by
  unfold parseCsvField at h
  split at h
  · cases h
  · next value hvalue =>
    refine ⟨value, hvalue, fun ls' hls' => ?_⟩
    rw [parseCsvField, hls']
    exact h

/-- A section of bullets is kept. -/
theorem kept_bullets {field errorClass : String} {bodySection : TaskBodySection}
    {values : List (List Char)} {r : TaskBodyScan} (hf : SectionField field bodySection)
    (hfiles : bodySection ≠ .files)
    (hrun : ls.foldlM (TaskBodyScan.readLine n) .start = .ok r) (horder : FieldsInOrder ls)
    (hwritten : FieldsAsWritten (bodyLines n .start ls))
    (h : parseRequiredBulletField n ls field errorClass = .ok values) :
    KeptEntries field bodySection (bodyLines n .start ls) bulletValue values := by
  obtain ⟨hmarker, hparse⟩ := parseRequiredBulletField_ok h
  refine kept_entries hf hrun horder hwritten hmarker fun pre post s₁ s₂ hat hseen => ?_
  have hne : field ≠ "Files" := by
    rintro rfl
    exact hfiles (hf.begins.symm.trans (by decide))
  rw [hat.eq, parseBulletsAfterField_skip fun hmem =>
    hat.none_before _ hmem (Or.inl rfl)] at hparse
  exact collect_bullets hf hfiles hat.settled hat.read.2.2.2.1 (hseen hne)
    (hat.read.2.2.1.trans hf.begins) hat.behind hat.written hat.none_behind hparse

/-- The steps are the step lines of the body and of what is fenced in it. -/
theorem kept_steps {steps : List PlanStep} {r : TaskBodyScan}
    (hrun : ls.foldlM (TaskBodyScan.readLine n) .start = .ok r)
    (h : parseSteps ls = .ok steps) :
    ((linesOf .step (bodyLines n .start ls)).map fun line =>
      parsePlanStepLine (trimChars line)).Sublist (steps.map fun step => .ok (some step)) := by
  obtain ⟨read, hread, hsteps⟩ := bind_eq_ok.mp h
  cases hsteps
  have hmap : ls.map (fun line => parsePlanStepLine (trimChars line)) = read.map .ok := by
    have hforall := mapM_eq_ok.mp hread
    clear hread hrun h
    induction hforall with
    | nil => rfl
    | cons hline _ ih => rw [List.map_cons, List.map_cons, hline, ih]
  have hsub : (linesOf .step (bodyLines n .start ls)).Sublist ls := by
    conv_rhs => rw [← bodyLines_map_fst hrun]
    exact List.Sublist.map _ List.filter_sublist
  obtain ⟨read', hread', heq⟩ := List.sublist_map_iff.mp (hmap ▸ hsub.map fun line =>
    parsePlanStepLine (trimChars line))
  have hsome : ∀ step ∈ read', step.isSome = true := by
    intro step hmem
    have hin : (.ok step : Except DiagnosticError (Option PlanStep)) ∈ read'.map .ok :=
      List.mem_map_of_mem hmem
    rw [← heq] at hin
    obtain ⟨line, hline, hparse⟩ := List.mem_map.mp hin
    obtain ⟨_, _, _, _, _, _, hkind, _⟩ := bodyLines_split settled_start hrun (mem_linesOf.mp hline)
    obtain ⟨_, _, step', hstep'⟩ := hkind
    rw [parsePlanStepLine, hstep'] at hparse
    cases hparse
    rfl
  have hvalues : read' = (read'.filterMap id).map some := by
    clear hread' heq
    induction read' with
    | nil => rfl
    | cons step read' ih =>
      obtain ⟨value, rfl⟩ := Option.isSome_iff_exists.mp (hsome step List.mem_cons_self)
      exact congrArg (some value :: ·) (ih fun step' hmem =>
        hsome step' (List.mem_cons_of_mem _ hmem))
  rw [heq, hvalues, List.map_map]
  exact (hread'.filterMap id).map _

/-- **A task keeps the lines of its body** if and only if each line that the check takes for a
field line is written as one. -/
theorem lines_kept_iff {chunk : List Char} {task : PlanTask} (h : parseTaskChunk chunk = .ok task) :
    KeptLines (lines chunk).tail task ↔
      FieldsAsWritten (bodyLines task.number .start (lines chunk).tail) := by
  obtain ⟨heading, block, hlines, htask⟩ := parseTaskChunk_eq_ok h
  rw [hlines, List.tail_cons]
  have hread := contractRead htask.fields
  obtain ⟨r, hrun⟩ := hread.body
  have horder := fieldsInOrder hread.order
  constructor
  · intro hkept line field hmem
    obtain ⟨_, _, _, _, _, _, hkind, _⟩ := bodyLines_split settled_start hrun hmem
    have hfield := mem_taskFieldOrder_of_taskBodyField hkind.2.1
    have hscalar : ∀ {value : List Char → Prop}, KeptScalar field
        (bodyLines task.number .start block) value → value line := by
      rintro value (hnone | ⟨line', hline', hvalue⟩)
      · exact absurd (mem_linesOf.mpr hmem) (hnone ▸ List.not_mem_nil)
      · have hin : line ∈ [line'] := hline' ▸ mem_linesOf.mpr hmem
        rw [List.mem_singleton.mp hin]
        exact hvalue
    have hentries : ∀ {α : Type} {bodySection : TaskBodySection} {value : List Char → Option α}
        {values : List α}, KeptEntries field bodySection (bodyLines task.number .start block) value
          values → IsFieldLine field line := by
      rintro α bodySection value values (⟨hnone, _⟩ | ⟨hline', _⟩)
      · exact absurd (mem_linesOf.mpr hmem) (hnone ▸ List.not_mem_nil)
      · have hin : line ∈ [blockMarker field] := hline' ▸ mem_linesOf.mpr hmem
        exact Or.inl (List.mem_singleton.mp hin)
    have hscalarLine : ∀ {value : List Char}, scalarField [line] field = some value →
        IsFieldLine field line := by
      intro value hvalue
      obtain ⟨line', hline', hstrip⟩ := scalarField_some hvalue
      exact List.mem_singleton.mp hline' ▸ isFieldLine_of_strip hstrip
    simp only [taskFieldOrder, List.mem_cons, List.not_mem_nil, or_false] at hfield
    rcases hfield with rfl | rfl | rfl | rfl | rfl | rfl
    · obtain ⟨value, hvalue, _⟩ := parseCsvField_ok (hscalar hkept.coverage)
      exact hscalarLine hvalue
    · exact hscalarLine (hscalar hkept.goal)
    · exact hentries hkept.context
    · exact hentries hkept.constraints
    · exact hentries hkept.doneWhen
    · exact hentries hkept.files
  · intro hwritten
    obtain ⟨value, hvalue, hcsv⟩ := parseCsvField_ok htask.specCoverage
    obtain ⟨files, hfiles, hnil⟩ := bind_eq_ok.mp htask.files
    split_ifs at hnil with hempty
    cases hnil
    refine ⟨bodyLines_map_fst hrun, ?_, kept_scalar hrun horder hwritten (by decide)
      hread.goal, kept_bullets ?_ nofun hrun horder hwritten hread.context,
      kept_bullets ?_ nofun hrun horder hwritten hread.constraints,
      kept_bullets ?_ nofun hrun horder hwritten hread.doneWhen, ?_, kept_steps hrun htask.steps⟩
    · rcases kept_scalar hrun horder hwritten (by decide) hvalue with
        hnone | ⟨line, hline, hscalar⟩
      · exact Or.inl hnone
      · exact Or.inr ⟨line, hline, hcsv _ hscalar⟩
    · exact sectionField_of_mem ("Context", .context) (by decide)
    · exact sectionField_of_mem ("Constraints", .constraints) (by decide)
    · exact sectionField_of_mem ("Done when", .doneWhen) (by decide)
    · have hf : SectionField "Files" .files :=
        sectionField_of_mem ("Files", .files) (by decide)
      refine kept_entries hf hrun horder hwritten (mem_of_readFileEntries hempty hfiles)
        fun pre post s₁ s₂ hat _ => ?_
      rw [hat.eq, readFileEntries_skip fun hmem =>
        hat.none_before _ hmem (Or.inl rfl)] at hfiles
      exact collect_files hat.settled hat.read.2.2.2.1 (hat.read.2.2.1.trans hf.begins) hat.behind
        hat.none_behind hfiles

/-! ### An indented field line -/

/-- A line is written as the field line that it is taken for. -/
def writtenAs : List Char × TaskBodyLineKind → Bool
  | (line, .field field) => IsFieldLine field line
  | _ => true

instance (read : List (List Char × TaskBodyLineKind)) : Decidable (FieldsAsWritten read) :=
  decidable_of_iff (∀ entry ∈ read, writtenAs entry = true)
    ⟨fun h line field hmem => of_decide_eq_true (h _ hmem), fun h entry hmem => by
      obtain ⟨line, kind⟩ := entry
      cases kind with
      | field field => exact decide_eq_true (h line field hmem)
      | _ => rfl⟩

/-- A task with some lines between its goal and its context. -/
def taskWith (between : List String) : List Char := joinLines (List.map String.toList
  (["## Task 1: Keep the lines", "**Spec Coverage:** REQ-001", "**Goal:** Keep each line."] ++
    between ++ ["**Context:**", "- The body is checked.", "**Constraints:**",
    "- No line is dropped.", "**Done when:**", "- Each line is kept.", "**Files:**",
    "- Modify: \x60src/a.rs\x60", "- [ ] **Step 1: Read the lines**"]))

/-- What is parsed of it, with no lines there or with the lines below. -/
def parsedTask : PlanTask where
  number := 1
  title := "Keep the lines".toList
  specCoverage := ["REQ-001".toList]
  goal := "Keep each line.".toList
  context := ["The body is checked.".toList]
  constraints := ["No line is dropped.".toList]
  doneWhen := ["Each line is kept.".toList]
  files := [⟨"Modify".toList, "src/a.rs".toList⟩]
  steps := [⟨1, "Read the lines".toList⟩]

theorem lines_kept_plain : KeptLines (lines (taskWith [])).tail parsedTask ↔
    FieldsAsWritten (bodyLines 1 .start (lines (taskWith [])).tail) := by
  have hparse : parseTaskChunk (taskWith []) = .ok parsedTask := by decide
  exact lines_kept_iff hparse

/-- A bullet under an indented field line passes the check, and is not in the task. -/
theorem lines_not_kept_indented :
    parseTaskChunk (taskWith [" **Context:**", "- Drop no bullet."]) = .ok parsedTask ∧
      ("- Drop no bullet.".toList, .entry .context) ∈ bodyLines 1 .start
        (lines (taskWith [" **Context:**", "- Drop no bullet."])).tail ∧
      ¬ KeptLines (lines (taskWith [" **Context:**", "- Drop no bullet."])).tail
        parsedTask := by
  refine ⟨by decide, by decide, fun h => ?_⟩
  rcases h.context with ⟨hnone, _⟩ | ⟨hone, _⟩
  · exact absurd hnone (by decide)
  · exact absurd hone (by decide)

end FeatureForge
