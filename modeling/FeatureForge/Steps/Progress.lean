import FeatureForge.Steps.Commands
import Mathlib.Data.Finset.Insert
import Mathlib.Data.Finset.Erase

/-!
# The progress of a plan

What the step commands are for, without the state that it is kept in: some steps of a plan are
completed, at most one is open, and there are the attempts at the steps.  `StepMove` is what a
command does to that, and `StepPlan.Allows` which moves there are.

In every history of moves (`StepPlan.History`) the open step is not completed, and a step is
completed just where the last attempt at it is (`StepPlan.History.sound`).
-/

namespace FeatureForge

/-- A plan that can be executed: its steps are read, it names a mode that there is or none, and
in the latter case it has no marks. -/
structure StepPlan extends ApprovedPlan where
  parsed : List PlanStepState
  parses : parseStepState document.source document = .ok parsed
  mode : document.executionMode ∈ supportedExecutionModes
  clean : document.executionMode = noExecutionMode →
    (parsed.any fun step => step.checked || step.noteState.isSome) = false
  path : normalizeWhitespace planRel = planRel

def StepPlan.Planned (plan : StepPlan) (key : StepKey) : Prop := (stepAt plan.parsed key).isSome

structure OpenStep where
  record : OpenStepStateRecord
  noteState : NoteState
  deriving DecidableEq

structure Progress where
  completed : Finset StepKey
  openStep : Option OpenStep
  attempts : List EvidenceAttempt

def Progress.start : Progress := ⟨∅, none, []⟩

/-- What is done to the steps of a plan. -/
inductive StepMove where
  | began (record : OpenStepStateRecord)
  | noted (step : OpenStep)
  | completed (attempt : EvidenceAttempt)
  | reopened (record : OpenStepStateRecord) (now reason : List Char)
  | transferred (record : OpenStepStateRecord)
  | dropped

def Progress.after (p : Progress) : StepMove → Progress
  | .began record => { p with openStep := some ⟨record, .active⟩ }
  | .noted step => { p with openStep := some step }
  | .completed attempt =>
    { completed := insert attempt.key p.completed
      openStep := none
      attempts := p.attempts ++ [attempt] }
  | .reopened record now reason =>
    { completed := p.completed.erase record.key
      openStep := some ⟨record, .interrupted⟩
      attempts := invalidateLatestCompletedAttempt now reason record.key p.attempts }
  | .transferred record => { p with openStep := some ⟨record, .interrupted⟩ }
  | .dropped => { p with openStep := none }

/-! ### The moves that there are -/

/-- A plan can go on in a mode. -/
structure StepPlan.InMode (plan : StepPlan) (mode : List Char) (attempts : List EvidenceAttempt) :
    Prop where
  known : mode ∈ executionModes
  header : plan.document.executionMode = noExecutionMode ∨ plan.document.executionMode = mode
  attempts : ∀ attempt ∈ attempts, attempt.executionSource = mode

/-- An open step of a plan, in a mode. -/
structure StepPlan.Opens (plan : StepPlan) (mode : List Char) (step : OpenStep) : Prop where
  normal : NormalOpenStep step.record step.noteState
  planRel : step.record.sourcePlanPath = plan.planRel
  planRevision : step.record.sourcePlanRevision = plan.document.planRevision
  planned : plan.Planned step.record.key
  mode : step.record.executionMode = some mode

/-- The step being worked on. -/
def Progress.Active (p : Progress) (record : OpenStepStateRecord) : Prop :=
  p.openStep = some ⟨record, .active⟩

/-- **The moves there are.**  A step is noted, completed or parked only while it is worked on, and
work begins on a step that is not completed. -/
inductive StepPlan.Allows (plan : StepPlan) (p : Progress) : StepMove → Prop where
  | began {mode record} : plan.InMode mode p.attempts → plan.Opens mode ⟨record, .active⟩ →
      record.key ∉ p.completed → plan.Allows p (.began record)
  | noted {mode active step} : p.Active active → plan.InMode mode p.attempts →
      plan.Opens mode step → step.record.key = active.key → step.noteState ≠ .active →
      plan.Allows p (.noted step)
  | completed {active attempt} : p.Active active → attempt.key = active.key →
      active.executionMode = some attempt.executionSource →
      attempt.status = "Completed".toList →
      attempt.attemptNumber = nextAttemptNumber p.attempts attempt.key →
      plan.Allows p (.completed attempt)
  | reopened {mode record} {now reason : List Char} : plan.InMode mode p.attempts →
      plan.Opens mode ⟨record, .interrupted⟩ → plan.Allows p (.reopened record now reason)
  | transferred {mode active record} : p.Active active → plan.InMode mode p.attempts →
      plan.Opens mode ⟨record, .interrupted⟩ → record.key = active.key →
      plan.Allows p (.transferred record)
  | dropped : plan.Allows p .dropped

/-- A history of moves, and the progress that it has made. -/
inductive StepPlan.History (plan : StepPlan) : List StepMove → Progress → Prop where
  | start : plan.History [] .start
  | move {moves p m} : plan.History moves p → plan.Allows p m →
      plan.History (moves ++ [m]) (p.after m)

/-! ### The attempts at a step -/

def AllInvalidated (attempts : List EvidenceAttempt) : Prop :=
  ∀ attempt ∈ attempts, attempt.status = "Invalidated".toList

/-- The attempts at a step end in one that completed it. -/
def EndsCompleted (attempts : List EvidenceAttempt) : Prop :=
  ∃ earlier last, attempts = earlier ++ [last] ∧ last.status = "Completed".toList ∧
    AllInvalidated earlier

/-- Attempts are numbered from one, while there are numbers. -/
def CountedUp (attempts : List EvidenceAttempt) : Prop :=
  attempts.length < 2 ^ 32 →
    attempts.map (fun attempt => attempt.attemptNumber.toNat) = List.range' 1 attempts.length

/-- The attempts at a step that is completed, or is not. -/
structure Tally (done : Prop) (attempts : List EvidenceAttempt) : Prop where
  numbered : CountedUp attempts
  completed : done → EndsCompleted attempts
  notCompleted : ¬ done → AllInvalidated attempts

theorem max?_range'_one (n : Nat) : (List.range' 1 n).max?.getD 0 = n := by
  cases n with
  | zero => rfl
  | succ n =>
    have hmax : (List.range' 1 (n + 1)).max? = some (n + 1) := by
      rw [List.max?_eq_some_iff]
      constructor
      · rw [List.mem_range'_1]
        omega
      · intro b hb
        rw [List.mem_range'_1] at hb
        omega
    rw [hmax, Option.getD_some]

theorem CountedUp.concat {attempts : List EvidenceAttempt} {attempt : EvidenceAttempt}
    (h : CountedUp attempts) (hnumber : attempt.attemptNumber = UInt32.ofNat
      ((attempts.map fun attempt => attempt.attemptNumber.toNat).max?.getD 0) + 1) :
    CountedUp (attempts ++ [attempt]) := by
  intro hlength
  rw [List.length_append, List.length_singleton] at hlength ⊢
  have hprior := h (by omega)
  have hnat : attempt.attemptNumber.toNat = attempts.length + 1 := by
    have hcount : (UInt32.ofNat attempts.length).toNat = attempts.length :=
      UInt32.toNat_ofNat_of_lt (show attempts.length < 2 ^ 32 by omega)
    rw [hnumber, hprior, max?_range'_one, UInt32.toNat_add, hcount]
    exact Nat.mod_eq_of_lt hlength
  rw [List.map_append, hprior, List.map_singleton, hnat, List.range'_concat]
  simp [Nat.add_comm]

theorem AllInvalidated.ends {attempts : List EvidenceAttempt} {attempt : EvidenceAttempt}
    (h : AllInvalidated attempts) (hstatus : attempt.status = "Completed".toList) :
    EndsCompleted (attempts ++ [attempt]) :=
  ⟨attempts, attempt, rfl, hstatus, h⟩

/-! ### Invalidating -/

section

variable {now reason : List Char} {key : StepKey} {attempts : List EvidenceAttempt}

theorem key_of_completes {attempt : EvidenceAttempt} (h : attempt.completes key = true) :
    attempt.key = key := by
  rw [EvidenceAttempt.completes, Bool.and_eq_true] at h
  exact of_decide_eq_true h.1

theorem invalidate_attemptsAt_of_ne {key' : StepKey} (h : key' ≠ key) :
    attemptsAt (invalidateLatestCompletedAttempt now reason key attempts) key' =
      attemptsAt attempts key' := by
  have hother : ∀ attempt, EvidenceAttempt.completes key attempt = true →
      decide (attempt.key = key') = false := fun attempt ha =>
    decide_eq_false fun hkey' => h (hkey'.symm.trans (key_of_completes ha))
  rw [attemptsAt, invalidateLatestCompletedAttempt, List.filter_reverse,
    filter_setFirst_of_false hother (f := EvidenceAttempt.invalidate now reason) fun _ => rfl,
    ← List.filter_reverse, List.reverse_reverse, attemptsAt]

theorem invalidate_attemptsAt_self :
    attemptsAt (invalidateLatestCompletedAttempt now reason key attempts) key =
      invalidateLatestCompletedAttempt now reason key (attemptsAt attempts key) := by
  have hsame : ∀ attempt, EvidenceAttempt.completes key attempt = true →
      decide (attempt.key = key) = true := fun attempt ha => decide_eq_true (key_of_completes ha)
  rw [attemptsAt, invalidateLatestCompletedAttempt, List.filter_reverse,
    filter_setFirst hsame (f := EvidenceAttempt.invalidate now reason) fun _ => rfl,
    List.filter_reverse, invalidateLatestCompletedAttempt, attemptsAt]

/-- What invalidating does not write stays, of every attempt. -/
theorem map_invalidate {β : Type} {g : EvidenceAttempt → β}
    (hg : ∀ attempt, g (EvidenceAttempt.invalidate now reason attempt) = g attempt) :
    (invalidateLatestCompletedAttempt now reason key attempts).map g = attempts.map g := by
  rw [invalidateLatestCompletedAttempt, List.map_reverse, map_setFirst hg, List.map_reverse,
    List.reverse_reverse]

theorem AllInvalidated.invalidate (h : AllInvalidated attempts) :
    invalidateLatestCompletedAttempt now reason key attempts = attempts := by
  have hnone : ∀ attempt ∈ attempts.reverse, EvidenceAttempt.completes key attempt = false := by
    intro attempt ha
    rw [EvidenceAttempt.completes, h attempt (List.mem_reverse.mp ha)]
    exact Bool.and_eq_false_iff.mpr (Or.inr (by decide))
  rw [invalidateLatestCompletedAttempt, setFirst_of_forall hnone, List.reverse_reverse]

theorem EndsCompleted.invalidate (h : EndsCompleted attempts)
    (hkeys : ∀ attempt ∈ attempts, attempt.key = key) :
    AllInvalidated (invalidateLatestCompletedAttempt now reason key attempts) := by
  obtain ⟨earlier, last, rfl, hstatus, hearlier⟩ := h
  have hlast : last.completes key = true := by
    have hkey := hkeys last (List.mem_append_right _ (List.mem_singleton_self last))
    rw [EvidenceAttempt.completes, hkey, hstatus]
    simp
  rw [invalidateLatestCompletedAttempt, List.reverse_append, List.reverse_singleton,
    List.singleton_append, setFirst_cons_of_pos hlast, List.reverse_cons, List.reverse_reverse]
  intro a ha
  rcases List.mem_append.mp ha with ha | ha
  · exact hearlier a ha
  · rw [List.mem_singleton.mp ha]
    rfl

theorem CountedUp.invalidate (h : CountedUp attempts) :
    CountedUp (invalidateLatestCompletedAttempt now reason key attempts) := by
  have hmap := @map_invalidate now reason key attempts _ (fun a => a.attemptNumber.toNat)
    fun _ => rfl
  have hlength : (invalidateLatestCompletedAttempt now reason key attempts).length =
      attempts.length := by
    simpa using congrArg List.length hmap
  intro hbound
  rw [hlength] at hbound ⊢
  exact hmap.trans (h hbound)

end

/-! ### What holds in every history -/

/-- Progress that a plan can have made. -/
structure StepPlan.Sound (plan : StepPlan) (p : Progress) : Prop where
  completed : ∀ key ∈ p.completed, plan.Planned key
  attempts : ∀ attempt ∈ p.attempts, plan.Planned attempt.key
  openStep : ∀ step, p.openStep = some step → step.record.key ∉ p.completed
  mode : ∃ mode, plan.InMode mode p.attempts ∧ ∀ step, p.openStep = some step →
    plan.Opens mode step
  tally : ∀ key, Tally (key ∈ p.completed) (attemptsAt p.attempts key)

theorem StepPlan.inMode_nil (plan : StepPlan) : ∃ mode, plan.InMode mode [] := by
  have hnil : ∀ mode : List Char, ∀ attempt ∈ ([] : List EvidenceAttempt),
      attempt.executionSource = mode := fun _ _ h => absurd h List.not_mem_nil
  rcases List.mem_cons.mp plan.mode with h | h
  · exact ⟨"featureforge:executing-plans".toList, by decide, Or.inl h, hnil _⟩
  · exact ⟨plan.document.executionMode, h, Or.inr rfl, hnil _⟩

theorem StepPlan.sound_start (plan : StepPlan) : plan.Sound .start where
  completed key h := absurd h (Finset.notMem_empty key)
  attempts _ h := absurd h List.not_mem_nil
  openStep _ h := by cases h
  mode := by
    obtain ⟨mode, hmode⟩ := plan.inMode_nil
    exact ⟨mode, hmode, fun _ h => by cases h⟩
  tally key := {
    numbered := fun _ => rfl
    completed := fun h => absurd h (Finset.notMem_empty key)
    notCompleted := fun _ _ h => absurd h List.not_mem_nil }

namespace StepPlan.Sound

variable {plan : StepPlan} {p : Progress}

/-- The open step is another one, or is in another state. -/
theorem opened (h : plan.Sound p) {mode : List Char} {step : OpenStep}
    (hmode : plan.InMode mode p.attempts) (hopens : plan.Opens mode step)
    (hcompleted : step.record.key ∉ p.completed) :
    plan.Sound { p with openStep := some step } where
  completed := h.completed
  attempts := h.attempts
  openStep := by
    rintro _ ⟨⟩
    exact hcompleted
  mode := ⟨mode, hmode, by rintro _ ⟨⟩; exact hopens⟩
  tally := h.tally

theorem completed' (h : plan.Sound p) {active : OpenStepStateRecord} {attempt : EvidenceAttempt}
    (hactive : p.Active active) (hkey : attempt.key = active.key)
    (hsource : active.executionMode = some attempt.executionSource)
    (hstatus : attempt.status = "Completed".toList)
    (hnumber : attempt.attemptNumber = nextAttemptNumber p.attempts attempt.key) :
    plan.Sound (p.after (.completed attempt)) := by
  obtain ⟨mode, hmode, hopens⟩ := h.mode
  have hopen := hopens _ hactive
  have hnew : attempt.key ∉ p.completed := hkey ▸ h.openStep _ hactive
  have hmode_eq : attempt.executionSource = mode := by
    have := hopen.mode
    rw [hsource] at this
    exact Option.some.inj this
  refine ⟨?_, ?_, fun _ h => (by cases h), ?_, ?_⟩
  · intro key hkey'
    rcases Finset.mem_insert.mp hkey' with rfl | hkey'
    · exact hkey ▸ hopen.planned
    · exact h.completed key hkey'
  · intro a ha
    rcases List.mem_append.mp ha with ha | ha
    · exact h.attempts a ha
    · rw [List.mem_singleton.mp ha, hkey]
      exact hopen.planned
  · refine ⟨mode, ⟨hmode.known, hmode.header, fun a ha => ?_⟩, fun _ h => (by cases h)⟩
    rcases List.mem_append.mp ha with ha | ha
    · exact hmode.attempts a ha
    · rw [List.mem_singleton.mp ha, hmode_eq]
  · intro key
    show Tally (key ∈ insert attempt.key p.completed) (attemptsAt (p.attempts ++ [attempt]) key)
    have hat := h.tally key
    by_cases heq : attempt.key = key
    · subst heq
      have hattempts : attemptsAt (p.attempts ++ [attempt]) attempt.key =
          attemptsAt p.attempts attempt.key ++ [attempt] := by
        rw [attemptsAt, List.filter_append, List.filter_singleton, decide_eq_true rfl]
        rfl
      rw [hattempts]
      exact {
        numbered := hat.numbered.concat hnumber
        completed := fun _ => (hat.notCompleted hnew).ends hstatus
        notCompleted := fun hnot => absurd (Finset.mem_insert_self _ _) hnot }
    · have hattempts : attemptsAt (p.attempts ++ [attempt]) key = attemptsAt p.attempts key := by
        rw [attemptsAt, List.filter_append, List.filter_singleton, decide_eq_false heq]
        exact List.append_nil _
      have hmem : key ∈ insert attempt.key p.completed ↔ key ∈ p.completed := by
        rw [Finset.mem_insert, or_iff_right fun h => heq h.symm]
      rw [hattempts, hmem]
      exact hat

theorem reopened (h : plan.Sound p) {mode : List Char} {record : OpenStepStateRecord}
    {now reason : List Char} (hmode : plan.InMode mode p.attempts)
    (hopens : plan.Opens mode ⟨record, .interrupted⟩) :
    plan.Sound (p.after (.reopened record now reason)) := by
  have hmap : ∀ {β : Type} {g : EvidenceAttempt → β} {P : β → Prop},
      (∀ attempt, g (EvidenceAttempt.invalidate now reason attempt) = g attempt) →
      (∀ a ∈ p.attempts, P (g a)) →
      ∀ a ∈ invalidateLatestCompletedAttempt now reason record.key p.attempts, P (g a) := by
    intro β g P hg hall a ha
    have hmem := List.mem_map_of_mem (f := g) ha
    rw [map_invalidate hg] at hmem
    obtain ⟨b, hb, hba⟩ := List.mem_map.mp hmem
    exact hba ▸ hall b hb
  refine ⟨fun key hkey => h.completed key (Finset.mem_of_mem_erase hkey), ?_, ?_, ?_, ?_⟩
  · exact hmap (fun _ => rfl) h.attempts
  · rintro _ ⟨⟩
    exact Finset.notMem_erase _ _
  · refine ⟨mode, ⟨hmode.known, hmode.header, ?_⟩, by rintro _ ⟨⟩; exact hopens⟩
    exact hmap (P := fun source => source = mode) (fun _ => rfl) hmode.attempts
  · intro key
    show Tally (key ∈ p.completed.erase record.key)
      (attemptsAt (invalidateLatestCompletedAttempt now reason record.key p.attempts) key)
    have hat := h.tally key
    by_cases heq : key = record.key
    · subst heq
      rw [invalidate_attemptsAt_self]
      refine ⟨hat.numbered.invalidate, fun hin => absurd hin (Finset.notMem_erase _ _), fun _ => ?_⟩
      by_cases hin : record.key ∈ p.completed
      · refine (hat.completed hin).invalidate fun a ha => ?_
        exact of_decide_eq_true (List.mem_filter.mp ha).2
      · rw [(hat.notCompleted hin).invalidate]
        exact hat.notCompleted hin
    · have hmem : key ∈ p.completed.erase record.key ↔ key ∈ p.completed :=
        Finset.mem_erase.trans (and_iff_right heq)
      rw [invalidate_attemptsAt_of_ne heq, hmem]
      exact hat

theorem dropped (h : plan.Sound p) : plan.Sound { p with openStep := none } where
  completed := h.completed
  attempts := h.attempts
  openStep _ h := by cases h
  mode := by
    obtain ⟨mode, hmode, _⟩ := h.mode
    exact ⟨mode, hmode, fun _ h => by cases h⟩
  tally := h.tally

/-- **A move keeps the progress sound.** -/
theorem after (h : plan.Sound p) {m : StepMove} (hm : plan.Allows p m) : plan.Sound (p.after m) := by
  cases hm with
  | began hmode hopens hnew => exact h.opened hmode hopens hnew
  | noted hactive hmode hopens hkey _ =>
    refine h.opened hmode hopens ?_
    rw [hkey]
    exact h.openStep _ hactive
  | completed hactive hkey hsource hstatus hnumber =>
    exact h.completed' hactive hkey hsource hstatus hnumber
  | reopened hmode hopens => exact h.reopened hmode hopens
  | transferred hactive hmode hopens hkey =>
    refine h.opened hmode hopens ?_
    rw [hkey]
    exact h.openStep _ hactive
  | dropped => exact h.dropped

end StepPlan.Sound

/-- **In every history the progress is sound.** -/
theorem StepPlan.History.sound {plan : StepPlan} {moves : List StepMove} {p : Progress}
    (h : plan.History moves p) : plan.Sound p := by
  induction h with
  | start => exact plan.sound_start
  | move _ hm ih => exact ih.after hm

end FeatureForge
