import Mathlib.Data.List.Induction
import FeatureForge.Plans.Sections

/-!
# The step lines of an accepted plan

The readers of a plan trim a line before they look for a step in it, at both ends or at its
start alone.  In a plan that is accepted this makes no difference (`parseStepLine_of_trim`),
so the steps of a task are its step lines (`TaskSection.steps_eq`).
-/

namespace FeatureForge

theorem trimStart_eq (l : List Char) :
    ∃ w : List Char, trimStart l = trimChars l ++ w ∧ ∀ c ∈ w, isWhitespace c = true := by
  refine ⟨((trimStart l).reverse.takeWhile isWhitespace).reverse, ?_, ?_⟩
  · show trimStart l = ((trimStart l).reverse.dropWhile isWhitespace).reverse ++ _
    rw [← List.reverse_append, List.takeWhile_append_dropWhile, List.reverse_reverse]
  · intro c hc
    exact List.mem_takeWhile_imp (List.mem_reverse.mp hc)

theorem trimStart_trimChars (l : List Char) : trimStart (trimChars l) = trimChars l := by
  cases h : trimChars l with
  | nil => rfl
  | cons c s =>
    have hc : isWhitespace c = false := trimChars_head l c (by rw [h]; rfl)
    rw [trimStart, List.dropWhile_cons_of_neg (by rw [hc]; exact Bool.false_ne_true)]

theorem trimEnd_append {w : List Char} (hw : ∀ c ∈ w, isWhitespace c = true) (s : List Char) :
    trimEnd (s ++ w) = trimEnd s := by
  induction w using List.reverseRecOn with
  | nil => rw [List.append_nil]
  | append_singleton w c ih =>
    rw [← List.append_assoc, trimEnd_concat (hw c (by simp)),
      ih fun d hd => hw d (List.mem_append_left _ hd)]

theorem stripPrefix_append_right {p s v : List Char} (h : stripPrefix p s = some v)
    (w : List Char) : stripPrefix p (s ++ w) = some (v ++ w) := by
  rw [eq_of_stripPrefix h, List.append_assoc, stripPrefix_append]

/-- A prefix that is not in a text, but in what the text is the beginning of. -/
theorem stripPrefix_append_none {p s w v : List Char} (h : stripPrefix p s = none)
    (h' : stripPrefix p (s ++ w) = some v) : ∃ u, u ≠ [] ∧ p = s ++ u ∧ w = u ++ v := by
  have heq := eq_of_stripPrefix h'
  rcases List.append_eq_append_iff.mp heq with ⟨u, hp, hw⟩ | ⟨u, hs, hv⟩
  · refine ⟨u, ?_, hp, hw⟩
    rintro rfl
    rw [hp, List.append_nil, stripPrefix_self] at h
    cases h
  · rw [hs, stripPrefix_append] at h
    cases h

theorem splitOnce_eq_none {c : Char} {p s : List Char} (h : c ∉ s) : splitOnce (c :: p) s = none := by
  cases hcut : splitOnce (c :: p) s with
  | none => rfl
  | some cut =>
    refine absurd ?_ h
    rw [eq_of_splitOnce hcut]
    exact List.mem_append_right _ List.mem_cons_self

theorem splitOnce_append_right {p s a b : List Char} (hp : p ≠ [])
    (h : splitOnce p s = some (a, b)) (w : List Char) :
    splitOnce p (s ++ w) = some (a, b ++ w) := by
  obtain ⟨rfl, hcontains⟩ := splitOnce_not_mem hp h
  rw [List.append_assoc, List.append_assoc]
  exact (splitOnce_append_iff hp).mpr hcontains

/-! ### Steps without their white space -/

theorem parseStepLine_eq_some {line : List Char} {step : Bool × TaskStepLine} :
    parseStepLine line = some step ↔ parseTaskStepProjectionLine line = .ok (some step) := by
  unfold parseStepLine
  cases parseTaskStepProjectionLine line with
  | error e => exact iff_of_false nofun nofun
  | ok step' => exact ⟨fun h => congrArg _ h, fun h => Except.ok.inj h⟩

/-- **A line is the step that is read of it without the white space at its ends.** -/
theorem parseStepLine_of_trim {line : List Char} {step : Option (Bool × TaskStepLine)}
    (h : parseTaskStepProjectionLine (trimChars line) = .ok step) : parseStepLine line = step := by
  obtain ⟨w, hline, hw⟩ := trimStart_eq line
  unfold parseTaskStepProjectionLine at h
  unfold parseStepLine parseTaskStepProjectionLine
  rw [hline]
  rw [trimStart_trimChars] at h
  cases hdash : stripPrefix "- [".toList (trimChars line) with
  | none =>
    rw [hdash] at h
    cases h
    cases hdash' : stripPrefix "- [".toList (trimChars line ++ w) with
    | none => rfl
    | some v =>
      -- the bracket would be white space
      obtain ⟨u, hu, hp, rfl⟩ := stripPrefix_append_none hdash hdash'
      have hlast : u.getLast? = some '[' := by
        have := congrArg List.getLast? hp
        rw [List.getLast?_append_of_ne_nil _ hu] at this
        rw [← this]
        decide
      have hblank := hw '[' (List.mem_append_left _ (List.mem_of_getLast? hlast))
      exact absurd hblank (by decide)
  | some rest =>
    rw [hdash] at h
    rw [stripPrefix_append_right hdash w]
    cases rest with
    | nil =>
      cases h
      cases w with
      | nil => rfl
      | cons mark w =>
        dsimp only [List.nil_append]
        split_ifs with hmark
        · rfl
        · cases hstep : stripPrefix "] **Step ".toList w with
          | none => rfl
          | some v =>
            rw [eq_of_stripPrefix hstep] at hw
            have hblank := hw ']' (List.mem_cons_of_mem _ (List.mem_append_left _
              (by decide)))
            exact absurd hblank (by decide)
    | cons mark rest =>
      dsimp only [List.cons_append] at h ⊢
      split_ifs at h ⊢ with hmark
      · cases h
        rfl
      · cases hstep : stripPrefix "] **Step ".toList rest with
        | none =>
          rw [hstep] at h
          cases h
          cases hstep' : stripPrefix "] **Step ".toList (rest ++ w) with
          | none => rfl
          | some v =>
            obtain ⟨u, _, _, rfl⟩ := stripPrefix_append_none hstep hstep'
            have hcolon : ':' ∉ v := by
              intro hmem
              exact absurd (hw ':' (List.mem_append_right _ hmem)) (by decide)
            have hcut : splitOnce ": ".toList v = none := splitOnce_eq_none hcolon
            dsimp only
            rw [hcut]
        | some rest' =>
          rw [hstep] at h
          rw [stripPrefix_append_right hstep w]
          dsimp only at h ⊢
          cases hcut : splitOnce ": ".toList rest' with
          | none => rw [hcut] at h; cases h
          | some cut =>
            obtain ⟨number, text⟩ := cut
            rw [hcut] at h
            rw [splitOnce_append_right (by decide) hcut w]
            dsimp only at h ⊢
            cases hnumber : parseU32 number with
            | none => rw [hnumber] at h; cases h
            | some n =>
              rw [hnumber] at h
              cases h
              dsimp only
              rw [trimEnd_append hw]

theorem parseTaskStepLine_eq_ok {line : List Char} {step : Option TaskStepLine}
    (h : parseTaskStepLine (trimChars line) = .ok step) :
    (parseStepLine line).map Prod.snd = step ∧
      (parseStepLine (trimChars line)).map Prod.snd = step := by
  obtain ⟨step', hstep, rfl⟩ := map_eq_ok.mp h
  have htrim : parseTaskStepProjectionLine (trimChars (trimChars line)) = .ok step' := by
    rw [trimChars_idem]
    exact hstep
  rw [parseStepLine_of_trim hstep, parseStepLine_of_trim htrim]
  exact ⟨rfl, rfl⟩

/-- A line in which a step is read, or none. -/
def Legible (line : List Char) : Prop :=
  ∃ step, parseTaskStepProjectionLine (trimChars line) = .ok step

theorem Legible.parseStepLine_trim {line : List Char} (h : Legible line) :
    parseStepLine (trimChars line) = parseStepLine line := by
  obtain ⟨step, hstep⟩ := h
  have htrim : parseTaskStepProjectionLine (trimChars (trimChars line)) = .ok step := by
    rw [trimChars_idem]
    exact hstep
  rw [parseStepLine_of_trim hstep, parseStepLine_of_trim htrim]

theorem parseStepLine_nil : parseStepLine [] = none := by
  decide

/-- The steps of some lines. -/
def stepsOfLines (ls : List (List Char)) : List TaskStepLine :=
  ls.filterMap fun line => (parseStepLine line).map Prod.snd

theorem parseSteps_eq_ok {ls : List (List Char)} {steps : List PlanStep}
    (h : parseSteps ls = .ok steps) : (∀ line ∈ ls, Legible line) ∧
      steps = (stepsOfLines ls).map fun step => ⟨step.number, step.text⟩ := by
  obtain ⟨read, hread, hsteps⟩ := bind_eq_ok.mp h
  clear h
  cases hsteps
  replace hread := mapM_eq_ok.mp hread
  induction hread with
  | nil => exact ⟨nofun, rfl⟩
  | @cons line step ls read hline _ ih =>
    rw [List.forall_mem_cons]
    unfold parsePlanStepLine at hline
    cases hstep : parseTaskStepLine (trimChars line) with
    | error e => rw [hstep] at hline; cases hline
    | ok step' =>
      rw [hstep] at hline
      cases hline
      obtain ⟨step, hlegible, _⟩ := map_eq_ok.mp hstep
      refine ⟨⟨⟨step, hlegible⟩, ih.1⟩, ?_⟩
      rw [List.filterMap_cons, ih.2, stepsOfLines, stepsOfLines, List.filterMap_cons,
        (parseTaskStepLine_eq_ok hstep).1]
      cases step' <;> rfl

/-! ### Lines cut again -/

theorem mem_relines : ∀ {ls : List (List Char)} {line : List Char}, line ∈ ls →
    line = [] ∨ ∃ line' ∈ relines ls, trimChars line' = trimChars line := by
  intro ls
  induction ls with
  | nil => intro line hline; exact absurd hline List.not_mem_nil
  | cons l ls ih =>
    intro line hline
    cases ls with
    | nil =>
      rw [List.mem_singleton] at hline
      rw [relines]
      split_ifs with hl
      · exact Or.inl (hline.trans hl)
      · exact Or.inr ⟨l, List.mem_singleton.mpr rfl, by rw [hline]⟩
    | cons l' ls =>
      rw [relines]
      rcases List.mem_cons.mp hline with rfl | hline
      · exact Or.inr ⟨_, List.mem_cons_self, trimChars_stripCarriageReturn line⟩
      · rcases ih hline with hnil | ⟨line', hmem, heq⟩
        · exact Or.inl hnil
        · exact Or.inr ⟨line', List.mem_cons_of_mem _ hmem, heq⟩

theorem legible_of_relines {ls : List (List Char)} (h : ∀ line ∈ relines ls, Legible line) :
    ∀ line ∈ ls, Legible line := by
  intro line hline
  rcases mem_relines hline with rfl | ⟨line', hmem, heq⟩
  · exact ⟨none, by decide⟩
  · obtain ⟨step, hstep⟩ := h line' hmem
    exact ⟨step, heq ▸ hstep⟩

theorem stepsOfLines_relines {ls : List (List Char)} (h : ∀ line ∈ relines ls, Legible line) :
    stepsOfLines (relines ls) = stepsOfLines ls := by
  have htrim : ∀ ls : List (List Char), (∀ line ∈ ls, Legible line) → stepsOfLines ls =
      ls.filterMap fun line => (parseStepLine (trimChars line)).map Prod.snd := by
    intro ls hls
    refine List.filterMap_congr fun line hline => ?_
    rw [(hls line hline).parseStepLine_trim]
  rw [htrim _ h, htrim _ (legible_of_relines h)]
  refine filterMap_relines ?_ ?_ ls
  · decide
  · intro l
    rw [trimChars_stripCarriageReturn]

namespace TaskSection

variable (t : TaskSection)

theorem legible_block : ∀ line ∈ t.block, Legible line := by
  obtain ⟨heading, h⟩ := t.isTaskOf
  exact (parseSteps_eq_ok h.steps).1

theorem legible_body : ∀ line ∈ t.body, Legible line := legible_of_relines t.legible_block

/-- **The steps of a task are its step lines.** -/
theorem steps_eq :
    t.task.steps = (stepsOfLines t.body).map fun step => ⟨step.number, step.text⟩ := by
  obtain ⟨heading, h⟩ := t.isTaskOf
  rw [(parseSteps_eq_ok h.steps).2, ← stepsOfLines_relines t.legible_block]
  rfl

end TaskSection

end FeatureForge
