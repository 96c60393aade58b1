import FeatureForge.Steps.Progress

/-!
# The state laid over a plan

A state keeps the progress of a plan (`StateObject.Keeps`): the completed steps in the ledger, the
open step and the attempts each in their field.  A context that is loaded from such a state shows
it (`Shows`): which step of the plan is checked and which one has a note, the attempts, and the
mode.  The one thing that is not shown is an open step of another workspace.
-/

namespace FeatureForge

/-! ### The ledger -/

/-- The ledger names the steps of a set. -/
def LedgerOf (completed : Finset StepKey) (ledger : Object) : Prop :=
  ∀ k v, ledger.get? k = some v ↔ ∃ key ∈ completed, k = completedStepKey key.1 key.2 ∧
    v = completedStepEntry key.1 key.2

theorem ledgerOf_empty : LedgerOf ∅ .empty := by
  intro k v
  simp

/-- A ledger names one set of steps. -/
theorem LedgerOf.unique {completed completed' : Finset StepKey} {ledger : Object}
    (h : LedgerOf completed ledger) (h' : LedgerOf completed' ledger) : completed = completed' := by
  have hsub : ∀ {c c' : Finset StepKey}, LedgerOf c ledger → LedgerOf c' ledger → c ⊆ c' := by
    intro c c' hc hc' key hkey
    obtain ⟨key', hmem, heq, _⟩ := (hc' _ _).mp ((hc _ _).mpr ⟨key, hkey, rfl, rfl⟩)
    obtain ⟨htask, hstep⟩ := completedStepKey_inj.mp heq
    exact (Prod.ext htask hstep : key = key') ▸ hmem
  exact Finset.Subset.antisymm (hsub h h') (hsub h' h)

theorem LedgerOf.insert {completed : Finset StepKey} {ledger : Object}
    (h : LedgerOf completed ledger) (key : StepKey) :
    LedgerOf (insert key completed)
      (ledger.insert (completedStepKey key.1 key.2) (completedStepEntry key.1 key.2)) := by
  intro k v
  rw [OrderedMap.get?_insert]
  by_cases hk : k = completedStepKey key.1 key.2
  · rw [if_pos hk]
    constructor
    · rintro ⟨⟩
      exact ⟨key, Finset.mem_insert_self _ _, hk, rfl⟩
    · rintro ⟨key', _, hk', rfl⟩
      obtain ⟨htask, hstep⟩ := completedStepKey_inj.mp (hk.symm.trans hk')
      rw [htask, hstep]
  · rw [if_neg hk, h k v]
    constructor
    · rintro ⟨key', hmem, hkv⟩
      exact ⟨key', Finset.mem_insert_of_mem hmem, hkv⟩
    · rintro ⟨key', hmem, hk', hv⟩
      rcases Finset.mem_insert.mp hmem with rfl | hmem
      · exact absurd hk' hk
      · exact ⟨key', hmem, hk', hv⟩

theorem LedgerOf.erase {completed : Finset StepKey} {ledger : Object}
    (h : LedgerOf completed ledger) (key : StepKey) :
    LedgerOf (completed.erase key) (ledger.erase (completedStepKey key.1 key.2)) := by
  intro k v
  rw [OrderedMap.get?_erase]
  by_cases hk : k = completedStepKey key.1 key.2
  · rw [if_pos hk]
    refine iff_of_false (fun h => by cases h) ?_
    rintro ⟨key', hmem, hk', _⟩
    obtain ⟨htask, hstep⟩ := completedStepKey_inj.mp (hk.symm.trans hk')
    exact (Finset.mem_erase.mp hmem).1 (Prod.ext htask.symm hstep.symm)
  · rw [if_neg hk, h k v]
    constructor
    · rintro ⟨key', hmem, hk', hv⟩
      exact ⟨key', Finset.mem_erase.mpr ⟨fun heq => hk (heq ▸ hk'), hmem⟩, hk', hv⟩
    · rintro ⟨key', hmem, hkv⟩
      exact ⟨key', Finset.mem_of_mem_erase hmem, hkv⟩

theorem jsonU32_toNat (n : UInt32) : jsonU32 (some (.u64 n.toNat)) = some n := by
  rw [jsonU32, Option.bind_some, Json.asU64_u64, Option.bind_some, u32TryFrom_toNat]

theorem completedStepNumber_task (task step : UInt32) :
    completedStepNumber (completedStepEntry task step) "task" = .ok task := by
  have hget : (completedStepEntry task step).get? "task" = some (.u64 task.toNat) := by
    rw [completedStepEntry, Json.record, Json.get?_obj]
    simp [OrderedMap.ofList, OrderedMap.get?_insert]
  rw [completedStepNumber, hget, jsonU32_toNat]

theorem completedStepNumber_step (task step : UInt32) :
    completedStepNumber (completedStepEntry task step) "step" = .ok step := by
  have hget : (completedStepEntry task step).get? "step" = some (.u64 step.toNat) := by
    rw [completedStepEntry, Json.record, Json.get?_obj]
    simp [OrderedMap.ofList]
  rw [completedStepNumber, hget, jsonU32_toNat]

/-- **The ledger is read.** -/
theorem LedgerOf.parse {completed : Finset StepKey} {ledger : Object}
    (h : LedgerOf completed ledger) :
    ∃ keys, parseAuthoritativeCompletedSteps ledger = .ok keys ∧
      ∀ key, key ∈ keys ↔ key ∈ completed := by
  have hentry : ∀ entry ∈ ledger.entries, ∃ key ∈ completed,
      entry = (completedStepKey key.1 key.2, completedStepEntry key.1 key.2) := by
    rintro ⟨k, v⟩ hmem
    obtain ⟨key, hkey, rfl, rfl⟩ := (h k v).mp (OrderedMap.mem_entries.mp hmem)
    exact ⟨key, hkey, rfl⟩
  have hread : ∀ key : StepKey, (do
      let task ← completedStepNumber (completedStepEntry key.1 key.2) "task"
      let step ← completedStepNumber (completedStepEntry key.1 key.2) "step"
      Except.ok (ε := StepFailure) (task, step)) = .ok key := by
    intro key
    rw [completedStepNumber_task, completedStepNumber_step]
    rfl
  have hnamed : ∀ entry ∈ ledger.entries,
      ∃ key ∈ completed, legacyCompletedStepFromEntry entry.1 entry.2 = some key := by
    intro entry hmem
    obtain ⟨key, hkey, rfl⟩ := hentry entry hmem
    exact ⟨key, hkey, legacyCompletedStepFromEntry_entry _ _ _⟩
  refine ⟨ledger.entries.map fun entry =>
    (legacyCompletedStepFromEntry entry.1 entry.2).getD (0, 0), ?_, fun key => ?_⟩
  · rw [parseAuthoritativeCompletedSteps, mapM_eq_ok, List.forall₂_map_right_iff,
      List.forall₂_same]
    intro entry hmem
    obtain ⟨key, _, rfl⟩ := hentry entry hmem
    rw [legacyCompletedStepFromEntry_entry, Option.getD_some]
    exact hread key
  · rw [List.mem_map]
    constructor
    · rintro ⟨entry, hmem, rfl⟩
      obtain ⟨key, hkey, hname⟩ := hnamed entry hmem
      rw [hname]
      exact hkey
    · intro hkey
      refine ⟨_, OrderedMap.mem_entries.mpr ((h _ _).mpr ⟨key, hkey, rfl, rfl⟩), ?_⟩
      rw [legacyCompletedStepFromEntry_entry, Option.getD_some]

/-! ### Changing steps -/

section

variable {steps : List PlanStepState}

theorem stepAt_setStep {change : PlanStepState → PlanStepState}
    (hchange : ∀ step, (change step).key = step.key) (key key' : StepKey) :
    stepAt (setStep key change steps) key' =
      if key' = key then (stepAt steps key).map change else stepAt steps key' :=
  find?_setFirst hchange key key' steps

theorem stepAt_map {change : PlanStepState → PlanStepState}
    (hchange : ∀ step, (change step).key = step.key) (key : StepKey) :
    stepAt (steps.map change) key = (stepAt steps key).map change :=
  find?_map_key hchange key steps

theorem key_of_stepAt {key : StepKey} {step : PlanStepState} (h : stepAt steps key = some step) :
    step.key = key := by
  simpa using List.find?_some h

/-- **The completed steps are checked**, where the plan has them. -/
theorem foldlM_checkCompletedStep : ∀ {keys : List StepKey} {steps : List PlanStepState},
    (∀ key ∈ keys, (stepAt steps key).isSome) →
    ∃ steps', keys.foldlM checkCompletedStep steps = .ok steps' ∧
      (∀ key, stepAt steps' key =
        if key ∈ keys then (stepAt steps key).map (PlanStepState.check true)
        else stepAt steps key) ∧
      steps'.map PlanStepState.noteState = steps.map PlanStepState.noteState := by
  intro keys
  induction keys with
  | nil => exact fun {steps} _ => ⟨steps, rfl, fun key => by simp, rfl⟩
  | cons key keys ih =>
    intro steps h
    have hcheck : checkCompletedStep steps key =
        .ok (setStep key (PlanStepState.check true) steps) :=
      if_pos (h key List.mem_cons_self)
    have hat := @stepAt_setStep steps (PlanStepState.check true) fun _ => rfl
    have hrest : ∀ key' ∈ keys,
        (stepAt (setStep key (PlanStepState.check true) steps) key').isSome := by
      intro key' hkey'
      have hold := h key' (List.mem_cons_of_mem _ hkey')
      rw [hat]
      split_ifs with heq
      · rw [Option.isSome_map]
        exact heq ▸ hold
      · exact hold
    have hkept : (setStep key (PlanStepState.check true) steps).map PlanStepState.noteState =
        steps.map PlanStepState.noteState :=
      map_setFirst (f := PlanStepState.check true) (fun _ => rfl) steps
    obtain ⟨steps', hfold, hat', hnotes⟩ := ih hrest
    refine ⟨steps', ?_, fun key' => ?_, hnotes.trans hkept⟩
    · rw [List.foldlM_cons, hcheck]
      exact hfold
    · rw [hat', hat]
      by_cases heq : key' = key
      · subst heq
        cases stepAt steps key' with
        | none => simp
        | some step => simp [PlanStepState.check]
      · simp only [List.mem_cons, heq, false_or, if_false]

end

/-! ### The marks -/

/-- What is marked on the steps of a plan. -/
structure Marks where
  closed : List UInt32
  completed : Finset StepKey
  shown : Option OpenStep

/-- Whether a step counts as done. -/
def Marks.Done (m : Marks) (key : StepKey) : Prop := key.1 ∈ m.closed ∨ key ∈ m.completed

instance (m : Marks) (key : StepKey) : Decidable (m.Done key) := inferInstanceAs (Decidable (_ ∨ _))

/-- A step with its mark, done or not. -/
def Marks.ticked (m : Marks) (step : PlanStepState) : PlanStepState :=
  step.clearNote.check (decide (m.Done step.key))

/-- A step with its mark and its note. -/
def Marks.mark (m : Marks) (step : PlanStepState) : PlanStepState :=
  m.shown.elim (m.ticked step) fun o =>
    if o.record.key = step.key then (step.check false).note o.noteState o.record.noteSummary
    else m.ticked step

theorem Marks.mark_of_ne (m : Marks) {step : PlanStepState}
    (h : ∀ o, m.shown = some o → o.record.key ≠ step.key) : m.mark step = m.ticked step := by
  rw [mark]
  cases hshown : m.shown with
  | none => rfl
  | some o => rw [Option.elim_some, if_neg (h o hshown)]

theorem Marks.mark_of_open (m : Marks) {step : PlanStepState} {o : OpenStep}
    (hshown : m.shown = some o) (hkey : o.record.key = step.key) :
    m.mark step = (step.check false).note o.noteState o.record.noteSummary := by
  rw [mark, hshown, Option.elim_some, if_pos hkey]

theorem Marks.checked_ticked (m : Marks) (step : PlanStepState) :
    (m.ticked step).checked = decide (m.Done step.key) := rfl

/-- The steps of a plan are shown with their marks, and no other step has a note. -/
structure MarkedSteps (m : Marks) (parsed steps : List PlanStepState) : Prop where
  stepAt : ∀ key, stepAt steps key = (stepAt parsed key).map m.mark
  noted : ∀ step ∈ steps, ∀ noteState, step.noteState = some noteState →
    ∃ o, m.shown = some o ∧ step.key = o.record.key ∧ o.noteState = noteState

theorem closed_overlay (s : StateObject) (steps : List PlanStepState) :
    (overlayTaskClosureCompletedSteps s steps).map PlanStepState.noteState =
      steps.map PlanStepState.noteState := by
  rw [overlayTaskClosureCompletedSteps, List.map_map]
  refine List.map_congr_left fun step _ => ?_
  rw [Function.comp_apply]
  split_ifs
  · rfl
  · rfl

theorem stepAt_closed (s : StateObject) (steps : List PlanStepState) (key : StepKey) :
    stepAt (overlayTaskClosureCompletedSteps s steps) key = (stepAt steps key).map fun step =>
      if step.taskNumber ∈ closedTasks s then step.check true else step := by
  refine stepAt_map (fun step => ?_) key
  split_ifs
  · rfl
  · rfl

/-- Closures and completed steps are marked, notes are not yet. -/
structure TickedSteps (m : Marks) (parsed steps : List PlanStepState) : Prop where
  stepAt : ∀ key, stepAt steps key = (stepAt parsed key).map m.ticked
  noNote : ∀ step ∈ steps, step.noteState = none

theorem ticked_overlay {m : Marks} {s : StateObject} {parsed : List PlanStepState}
    (hclosed : m.closed = closedTasks s) {keys : List StepKey}
    (hkeys : ∀ key, key ∈ keys ↔ key ∈ m.completed)
    (hplanned : ∀ key ∈ keys, (stepAt parsed key).isSome) :
    ∃ steps, keys.foldlM checkCompletedStep
        (overlayTaskClosureCompletedSteps s (unmarkedSteps parsed)) = .ok steps ∧
      TickedSteps m parsed steps := by
  have hunmarked : ∀ key, stepAt (unmarkedSteps parsed) key =
      (stepAt parsed key).map fun step => step.clearNote.check false := stepAt_map fun _ => rfl
  have hsome : ∀ key ∈ keys,
      (stepAt (overlayTaskClosureCompletedSteps s (unmarkedSteps parsed)) key).isSome := by
    intro key hkey
    rw [stepAt_closed, hunmarked, Option.isSome_map, Option.isSome_map]
    exact hplanned key hkey
  obtain ⟨steps, hfold, hat, hnotes⟩ := foldlM_checkCompletedStep hsome
  refine ⟨steps, hfold, fun key => ?_, fun step hstep => ?_⟩
  · rw [hat, stepAt_closed, hunmarked]
    cases hparsed : stepAt parsed key with
    | none => simp
    | some step =>
      have hkey := key_of_stepAt hparsed
      have htask : step.taskNumber = key.1 := congrArg Prod.fst hkey
      have hdone : m.Done step.key ↔ step.taskNumber ∈ closedTasks s ∨ key ∈ keys := by
        rw [Marks.Done, hclosed, hkey, htask, hkeys]
      by_cases htask : step.taskNumber ∈ closedTasks s
      · by_cases hmem : key ∈ keys
        · simp [Marks.ticked, hdone, htask, hmem, PlanStepState.check, PlanStepState.clearNote]
        · simp [Marks.ticked, hdone, htask, hmem, PlanStepState.check, PlanStepState.clearNote]
      · by_cases hmem : key ∈ keys
        · simp [Marks.ticked, hdone, htask, hmem, PlanStepState.check, PlanStepState.clearNote]
        · simp [Marks.ticked, hdone, htask, hmem, PlanStepState.check, PlanStepState.clearNote]
  · have hnote := List.mem_map_of_mem (f := PlanStepState.noteState) hstep
    rw [hnotes, closed_overlay, unmarkedSteps, List.map_map] at hnote
    obtain ⟨_, _, hnone⟩ := List.mem_map.mp hnote
    exact hnone.symm

theorem TickedSteps.marked {m : Marks} {parsed steps : List PlanStepState} (h : TickedSteps m parsed steps)
    (hshown : m.shown = none) : MarkedSteps m parsed steps where
  stepAt key := by
    have hmark : m.mark = m.ticked := by
      funext step
      exact m.mark_of_ne fun o ho => by
        rw [hshown] at ho
        cases ho
    rw [h.stepAt, hmark]
  noted step hstep noteState hnote := by
    rw [h.noNote step hstep] at hnote
    cases hnote

theorem TickedSteps.open {m : Marks} {parsed steps : List PlanStepState} (h : TickedSteps m parsed steps)
    {o : OpenStep} (hshown : m.shown = some o) :
    MarkedSteps m parsed (setStep o.record.key
      (fun step => (step.check false).note o.noteState o.record.noteSummary)
      (steps.map PlanStepState.clearNote)) where
  stepAt key := by
    have hopened : ∀ step : PlanStepState, PlanStepState.key ((step.check false).note o.noteState
      o.record.noteSummary) = step.key := fun _ => rfl
    have hcleared : ∀ step : PlanStepState, step.clearNote.key = step.key := fun _ => rfl
    rw [stepAt_setStep hopened, stepAt_map hcleared, stepAt_map hcleared, h.stepAt, h.stepAt]
    by_cases hkey : key = o.record.key
    · subst hkey
      rw [if_pos rfl]
      cases hparsed : FeatureForge.stepAt parsed o.record.key with
      | none => rfl
      | some step =>
        have hmark := m.mark_of_open hshown (key_of_stepAt hparsed).symm
        simp only [Option.map_some, hmark]
        rfl
    · rw [if_neg hkey]
      cases hparsed : FeatureForge.stepAt parsed key with
      | none => rfl
      | some step =>
        have hne : o.record.key ≠ step.key := by
          rw [key_of_stepAt hparsed]
          exact fun heq => hkey heq.symm
        have hmark : m.mark step = m.ticked step := m.mark_of_ne fun o' ho' => by
          rw [hshown] at ho'
          exact Option.some.inj ho' ▸ hne
        simp only [Option.map_some, hmark]
        rfl
  noted step hstep noteState hnote := by
    rcases mem_setFirst hstep with hstep | ⟨cleared, hfind, rfl⟩
    · obtain ⟨_, _, rfl⟩ := List.mem_map.mp hstep
      cases hnote
    · have hkey : cleared.key = o.record.key := by simpa using List.find?_some hfind
      exact ⟨o, hshown, hkey, Option.some.inj hnote⟩

end FeatureForge
