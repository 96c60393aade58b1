import Mathlib.Data.List.Infix
import FeatureForge.Closures.OverlayRestore
import FeatureForge.Strategy.Checkpoints

/-!
# Review cycles

A task is counted a cycle by a review dispatch to it, and by a reopening that no dispatch to it
announced.  `CycleAccount` is that account: the count of each task, the credit of the dispatch that
is not answered yet, and whether the strategy is broken off.  The recorders keep it
(`Accounts.reopen`, `Accounts.dispatch`), and over a run the account is what the calls say
(`Tallied`): the count of a task is its counted cycles modulo three, each third one a break.
-/

namespace FeatureForge

/-! ### The account -/

/-- Counts of tasks, the credit of a dispatch (to a task, or to none), and the break. -/
structure CycleAccount where
  counts : UInt32 → Nat
  credit : Option (Option UInt32)
  breaking : Bool

namespace CycleAccount

/-- The count after another cycle: the third starts anew. -/
def nextCount (n : Nat) : Nat := if 3 ≤ n + 1 then 0 else n + 1

def countCycle (a : CycleAccount) (task : UInt32) (credit : Option (Option UInt32)) :
    CycleAccount where
  counts := Function.update a.counts task (nextCount (a.counts task))
  credit := credit
  breaking := 3 ≤ a.counts task + 1

/-- A reopening answers the dispatch to its task, or counts. -/
def reopen (a : CycleAccount) (task : UInt32) : CycleAccount :=
  if a.credit = some (some task) then
    if a.breaking || 3 ≤ a.counts task then
      { counts := Function.update a.counts task 0, credit := none, breaking := true }
    else { a with credit := none, breaking := false }
  else a.countCycle task none

theorem reopen_of_credit {a : CycleAccount} {task : UInt32} (h : a.credit = some (some task)) :
    a.reopen task =
      { counts := if a.breaking || 3 ≤ a.counts task then Function.update a.counts task 0
          else a.counts
        credit := none
        breaking := a.breaking || 3 ≤ a.counts task } := by
  rw [reopen, if_pos h]
  cases a.breaking || decide (3 ≤ a.counts task) <;> rfl

/-- A dispatch counts its task, if it has one. -/
def dispatch (a : CycleAccount) : Option UInt32 → CycleAccount
  | some task => a.countCycle task (some (some task))
  | none => { a with credit := some none, breaking := false }

/-- The initial checkpoint ends a break. -/
def initial (a : CycleAccount) (recorded : Bool) : CycleAccount :=
  { a with breaking := a.breaking && recorded }

def credits (a : CycleAccount) : Object :=
  match a.credit with
  | none => .empty
  | some target => OrderedMap.empty.insert (dispatchCreditKey target) (.u64 1)

end CycleAccount

/-! ### Checkpoints -/

/-- A checkpoint is logged, and the state says what it is of. -/
structure Checkpointed (checkpointKind : String) (cycleState : StrategyCheckpointCycleState)
    (s s' : StateObject) : Prop where
  logged : ∃ checkpoints checkpoint, strategyCheckpointsMut s = .ok checkpoints ∧
    strategyCheckpointsMut s' = .ok (checkpoints ++ [checkpoint]) ∧
      checkpoint.get? "checkpoint_kind" = some (.str checkpointKind)
  kind : s' .strategyCheckpointKind = some (.str checkpointKind)
  state : s' .strategyState =
    some (.str (if cycleState.isCycleBreak then "cycle_breaking" else "ready"))
  task : s' .strategyCycleBreakTask = some (optionU32 cycleState.cycleBreakBinding.1)
  counts : s' .strategyCycleCounts = s .strategyCycleCounts
  credits : s' .strategyReviewDispatchCredits = s .strategyReviewDispatchCredits

variable {sha : Sha256Hex} {context : StrategyContext} {s s' : StateObject}

theorem checkpointMembers_kind (context : StrategyContext) (runId : Option String)
    (kind rationale fingerprint : String) (triggers : List String) :
    (Json.record (checkpointMembers context runId kind triggers rationale fingerprint)).get?
      "checkpoint_kind" = some (.str kind) := by
  have hnodup : ((checkpointMembers context runId kind triggers rationale fingerprint).map
      Prod.fst).Nodup := by
    show ["source_plan_path", "source_plan_revision", "execution_run_id", "trigger_fingerprints",
      "checkpoint_kind", "selected_topology", "lane_decomposition", "lane_owner_map",
      "worktree_plan", "subagent_dispatch_plan", "acceptance_requirements", "review_requirements",
      "rationale", "generated_at", "fingerprint"].Nodup
    decide
  rw [Json.record, Json.get?_obj, OrderedMap.get?_ofList _ hnodup]
  rfl

theorem recordStrategyCheckpoint_spec {checkpoints : List Json} (sha : Sha256Hex)
    (context : StrategyContext) (kind rationale : String)
    (triggers : List String) (cycleState : StrategyCheckpointCycleState)
    (hlog : strategyCheckpointsMut s = .ok checkpoints) :
    ∃ s', recordStrategyCheckpoint sha context kind triggers rationale cycleState s = .ok s' ∧
      Checkpointed kind cycleState s s' := by
  unfold recordStrategyCheckpoint
  rw [hlog]
  have hkind := checkpointMembers_kind context (executionRunIdOpt s) kind rationale
    (sha (checkpointText context (executionRunIdOpt s) kind triggers rationale).toList) triggers
  refine ⟨_, rfl, ⟨⟨checkpoints, _, hlog, ?_, hkind⟩, ?_, ?_, ?_, ?_, ?_⟩⟩
  · unfold strategyCheckpointsMut
    rw [set_of_ne _ _ (by decide), set_of_ne _ _ (by decide), set_of_ne _ _ (by decide),
      set_of_ne _ _ (by decide), set_of_ne _ _ (by decide), set_of_ne _ _ (by decide),
      set_of_ne _ _ (by decide), set_self, Option.getD_some, Json.asArray_arr]
  · rw [set_of_ne _ _ (by decide), set_of_ne _ _ (by decide), set_of_ne _ _ (by decide),
      set_of_ne _ _ (by decide), set_of_ne _ _ (by decide), set_self]
  · rw [set_of_ne _ _ (by decide), set_of_ne _ _ (by decide), set_of_ne _ _ (by decide),
      set_of_ne _ _ (by decide), set_of_ne _ _ (by decide), set_of_ne _ _ (by decide), set_self]
  · rw [set_of_ne _ _ (by decide), set_of_ne _ _ (by decide), set_self]
  · simp [set_apply]
  · simp [set_apply]

theorem Checkpointed.cycleBreaking {kind : String} {cycleState : StrategyCheckpointCycleState}
    (h : Checkpointed kind cycleState s s') :
    cycleBreaking s' = (decide (kind = "cycle_break") || cycleState.isCycleBreak) := by
  unfold FeatureForge.cycleBreaking
  rw [h.kind, h.state, Option.bind_some, Option.bind_some, Json.asStr_str, Json.asStr_str]
  cases cycleState.isCycleBreak <;> simp

/-- A break of a task is the last checkpoint of the log, past all that was there. -/
structure RecordsCycleBreak (s s' : StateObject) (task : UInt32) : Prop where
  logged : ∃ checkpoints earlier checkpoint, strategyCheckpointsMut s = .ok checkpoints ∧
    checkpoints <+: earlier ∧ strategyCheckpointsMut s' = .ok (earlier ++ [checkpoint]) ∧
      checkpoint.get? "checkpoint_kind" = some (.str "cycle_break")
  kind : s' .strategyCheckpointKind = some (.str "cycle_break")
  state : s' .strategyState = some (.str "cycle_breaking")
  task : s' .strategyCycleBreakTask = some (.u64 task.toNat)

/-- Between two states the log has only grown. -/
def LogGrows (s s' : StateObject) : Prop := ∃ checkpoints later,
  strategyCheckpointsMut s = .ok checkpoints ∧ strategyCheckpointsMut s' = .ok later ∧
    checkpoints <+: later

theorem strategyCheckpointsMut_congr (h : s' .strategyCheckpoints = s .strategyCheckpoints) :
    strategyCheckpointsMut s' = strategyCheckpointsMut s := by
  rw [strategyCheckpointsMut, strategyCheckpointsMut, h]

theorem LogGrows.trans {t : StateObject} (h : LogGrows s t) (h' : LogGrows t s') :
    LogGrows s s' := by
  obtain ⟨checkpoints, later, hlog, hlater, hprefix⟩ := h
  obtain ⟨checkpoints', later', hlog', hlater', hprefix'⟩ := h'
  obtain rfl := Except.ok.inj (hlater.symm.trans hlog')
  exact ⟨checkpoints, later', hlog, hlater', hprefix.trans hprefix'⟩

theorem Checkpointed.logGrows {kind : String} {cycleState : StrategyCheckpointCycleState}
    (h : Checkpointed kind cycleState s s') : LogGrows s s' := by
  obtain ⟨checkpoints, checkpoint, hlog, hlater, _⟩ := h.logged
  exact ⟨checkpoints, _, hlog, hlater, List.prefix_append _ _⟩

theorem RecordsCycleBreak.after {t : StateObject} {task : UInt32} (h : RecordsCycleBreak t s' task)
    (hgrows : LogGrows s t) : RecordsCycleBreak s s' task := by
  obtain ⟨later, earlier, checkpoint, hlater, hearlier, hlog, hkind⟩ := h.logged
  obtain ⟨checkpoints, later', hstart, hlater', hprefix⟩ := hgrows
  obtain rfl := Except.ok.inj (hlater'.symm.trans hlater)
  exact ⟨⟨checkpoints, earlier, checkpoint, hstart, hprefix.trans hearlier, hlog, hkind⟩, h.kind,
    h.state, h.task⟩

/-- What comes after a break and leaves its fields leaves the break. -/
theorem RecordsCycleBreak.congr {t : StateObject} {task : UInt32} (h : RecordsCycleBreak s t task)
    (hlog : s' .strategyCheckpoints = t .strategyCheckpoints)
    (hkind : s' .strategyCheckpointKind = t .strategyCheckpointKind)
    (hstate : s' .strategyState = t .strategyState)
    (htask : s' .strategyCycleBreakTask = t .strategyCycleBreakTask) :
    RecordsCycleBreak s s' task where
  logged := by
    rw [strategyCheckpointsMut_congr hlog]
    exact h.logged
  kind := hkind.trans h.kind
  state := hstate.trans h.state
  task := htask.trans h.task

/-! ### The state keeps the account -/

/-- The state holds the account `a`, in maps and a log that are well formed. -/
structure Accounts (s : StateObject) (a : CycleAccount) : Prop where
  counts : ∃ cycleCounts, recordsMut .strategyCycleCounts s = .ok cycleCounts ∧
    ∀ task, taskCycleCountOf cycleCounts task = a.counts task
  credits : recordsMut .strategyReviewDispatchCredits s = .ok a.credits
  breaking : cycleBreaking s = a.breaking
  log : ∃ checkpoints, strategyCheckpointsMut s = .ok checkpoints

theorem recordsMut_set (s : StateObject) (f : Field) (m : Object) :
    recordsMut f (s.set f (.obj m)) = .ok m := by
  rw [recordsMut, set_self]
  dsimp only
  rw [Json.asObject_obj]

theorem recordsMut_congr {f : Field} (h : s' f = s f) : recordsMut f s' = recordsMut f s := by
  rw [recordsMut, recordsMut, h]

theorem cycleBreaking_congr (hkind : s' .strategyCheckpointKind = s .strategyCheckpointKind)
    (hstate : s' .strategyState = s .strategyState) : cycleBreaking s' = cycleBreaking s := by
  rw [cycleBreaking, cycleBreaking, hkind, hstate]

theorem dispatchCreditKey_injective : Function.Injective dispatchCreditKey := by
  have hunbound : ∀ task, taskScopeKey task ≠ "unbound" := by
    intro task heq
    have hnumber := taskScopeKeyTaskNumber_taskScopeKey task
    rw [heq] at hnumber
    have hnone : taskScopeKeyTaskNumber "unbound" = none := by decide
    rw [hnone] at hnumber
    cases hnumber
  intro target target' h
  cases target with
  | none =>
    cases target' with
    | none => rfl
    | some task => exact absurd h.symm (hunbound task)
  | some task =>
    cases target' with
    | none => exact absurd h (hunbound task)
    | some task' => exact congrArg some (taskScopeKey_injective h)

theorem taskCycleCountOf_insert (cycleCounts : Object) (task task' : UInt32) (n : Nat) :
    taskCycleCountOf (cycleCounts.insert (taskScopeKey task) (.u64 n)) task' =
      if task' = task then n else taskCycleCountOf cycleCounts task' := by
  unfold taskCycleCountOf
  by_cases htask : task' = task
  · rw [htask, if_pos rfl, OrderedMap.get?_insert_self, Option.bind_some, Json.asU64_u64,
      Option.getD_some]
  · rw [if_neg htask, OrderedMap.get?_insert_of_ne _ _ fun heq =>
      htask (taskScopeKey_injective heq)]

namespace Accounts

variable {a : CycleAccount}

theorem of_checkpointed {kind : String} {cycleState : StrategyCheckpointCycleState}
    (h : Accounts s a) (hc : Checkpointed kind cycleState s s')
    (hkind : kind = "cycle_break" ↔ cycleState.isCycleBreak = true) :
    Accounts s' { a with breaking := cycleState.isCycleBreak } where
  counts := by
    rw [recordsMut_congr hc.counts]
    exact h.counts
  credits := (recordsMut_congr hc.credits).trans h.credits
  breaking := by
    rw [hc.cycleBreaking, Bool.decide_congr hkind]
    simp
  log := by
    obtain ⟨_, _, _, hlog, _⟩ := hc.logged
    exact ⟨_, hlog⟩

/-- A count is written. -/
theorem setCount (h : Accounts s a) (task : UInt32) (n : Nat) :
    ∃ s', setTaskCycleCount task n s = .ok s' ∧
      Accounts s' { a with counts := Function.update a.counts task n } ∧
        ∀ g, g ≠ .strategyCycleCounts → s' g = s g := by
  obtain ⟨cycleCounts, hcounts, hvalues⟩ := h.counts
  unfold setTaskCycleCount
  rw [hcounts]
  refine ⟨_, rfl, ⟨⟨_, recordsMut_set _ _ _, fun task' => ?_⟩, ?_, ?_, ?_⟩,
    fun g hg => set_of_ne _ _ hg⟩
  · rw [taskCycleCountOf_insert, hvalues]
    exact (Function.update_apply ..).symm
  · rw [recordsMut_congr (set_of_ne _ _ (by decide))]
    exact h.credits
  · rw [cycleBreaking_congr (set_of_ne _ _ (by decide)) (set_of_ne _ _ (by decide))]
    exact h.breaking
  · rw [strategyCheckpointsMut_congr (set_of_ne _ _ (by decide))]
    exact h.log

theorem setCredits (h : Accounts s a) (credit : Option (Option UInt32)) :
    Accounts (s.set .strategyReviewDispatchCredits
      (.obj ({ a with credit } : CycleAccount).credits)) { a with credit } where
  counts := by
    rw [recordsMut_congr (set_of_ne _ _ (by decide))]
    exact h.counts
  credits := recordsMut_set _ _ _
  breaking := by
    rw [cycleBreaking_congr (set_of_ne _ _ (by decide)) (set_of_ne _ _ (by decide))]
    exact h.breaking
  log := by
    rw [strategyCheckpointsMut_congr (set_of_ne _ _ (by decide))]
    exact h.log

/-- The fields that the account is read of. -/
def fields : List Field := [.strategyCycleCounts, .strategyReviewDispatchCredits,
  .strategyCheckpointKind, .strategyState, .strategyCheckpoints]

theorem congr (h : Accounts s a) (hsame : ∀ f ∈ fields, s' f = s f) : Accounts s' a where
  counts := by
    rw [recordsMut_congr (hsame _ (by decide))]
    exact h.counts
  credits := (recordsMut_congr (hsame _ (by decide))).trans h.credits
  breaking := by
    rw [cycleBreaking_congr (hsame _ (by decide)) (hsame _ (by decide))]
    exact h.breaking
  log := by
    rw [strategyCheckpointsMut_congr (hsame _ (by decide))]
    exact h.log

theorem logGrows_of_eq (h : Accounts s a)
    (hsame : s' .strategyCheckpoints = s .strategyCheckpoints) : LogGrows s s' := by
  obtain ⟨checkpoints, hlog⟩ := h.log
  exact ⟨checkpoints, checkpoints, hlog, (strategyCheckpointsMut_congr hsame).trans hlog,
    List.prefix_rfl⟩

/-! ### The recorders -/

theorem ensureInitial (h : Accounts s a) (sha : Sha256Hex) (context : StrategyContext) :
    ∃ s' recorded, ensureInitialDispatchStrategyCheckpoint sha context s = .ok s' ∧
      Accounts s' (a.initial recorded) ∧ LogGrows s s' := by
  unfold ensureInitialDispatchStrategyCheckpoint
  by_cases hrecorded : (lastStrategyCheckpointFingerprint s).isSome
  · rw [if_pos hrecorded]
    refine ⟨s, true, rfl, ?_, h.logGrows_of_eq rfl⟩
    rw [CycleAccount.initial, Bool.and_true]
    exact h
  · rw [if_neg hrecorded]
    obtain ⟨checkpoints, hlog⟩ := h.log
    obtain ⟨s', hrecord, hc⟩ := recordStrategyCheckpoint_spec sha context
      "initial_dispatch"
      "Runtime recorded the initial dispatch strategy checkpoint before repo-writing execution."
      [] .ready hlog
    refine ⟨s', false, hrecord, ?_, hc.logGrows⟩
    rw [CycleAccount.initial, Bool.and_false]
    exact h.of_checkpointed hc (by decide)

/-- **The checkpoint of a cycle**: a break takes the count of the task back. -/
theorem recordCountedCycle (h : Accounts s a) (sha : Sha256Hex) (context : StrategyContext)
    (cycleBreak : Bool) (task step : UInt32) (trigger breakRationale rationale : String) :
    ∃ s', FeatureForge.recordCountedCycle sha context cycleBreak (some (task, step)) trigger
        breakRationale rationale s = .ok s' ∧
      Accounts s' { a with
        counts := if cycleBreak then Function.update a.counts task 0 else a.counts
        breaking := cycleBreak } ∧
      LogGrows s s' ∧ (cycleBreak = true → RecordsCycleBreak s s' task) := by
  obtain ⟨checkpoints, hlog⟩ := h.log
  unfold FeatureForge.recordCountedCycle
  cases cycleBreak with
  | false =>
    obtain ⟨s', hrecord, hc⟩ := recordStrategyCheckpoint_spec sha context
      "review_remediation" rationale [trigger] .ready hlog
    exact ⟨s', hrecord, h.of_checkpointed hc (by decide), hc.logGrows, nofun⟩
  | true =>
    obtain ⟨t, hrecord, hc⟩ := recordStrategyCheckpoint_spec sha context
      "cycle_break" breakRationale [trigger] (.cycleBreak (some (task, some step))) hlog
    have ht := h.of_checkpointed hc (iff_of_true rfl rfl)
    obtain ⟨s', hset, hs', hsame⟩ := ht.setCount task 0
    have hbreak : RecordsCycleBreak s t task := by
      obtain ⟨checkpoints', checkpoint, hlog', hlater, hkind⟩ := hc.logged
      exact ⟨⟨checkpoints', checkpoints', checkpoint, hlog', List.prefix_rfl, hlater, hkind⟩,
        hc.kind, hc.state, hc.task⟩
    refine ⟨s', ?_, hs', hc.logGrows.trans (ht.logGrows_of_eq (hsame _ (by decide))), fun _ =>
      hbreak.congr (hsame _ (by decide)) (hsame _ (by decide)) (hsame _ (by decide))
        (hsame _ (by decide))⟩
    rw [if_pos rfl]
    simp only [Option.map_some, hrecord]
    exact hset

/-- A count goes up by one. -/
theorem increment (h : Accounts s a) (task : UInt32) :
    ∃ s', incrementTaskCycleCount task s = .ok (min (a.counts task + 1) (2 ^ 64 - 1), s') ∧
      Accounts s' { a with
        counts := Function.update a.counts task (min (a.counts task + 1) (2 ^ 64 - 1)) } ∧
        ∀ g, g ≠ .strategyCycleCounts → s' g = s g := by
  obtain ⟨cycleCounts, hcounts, hvalues⟩ := h.counts
  obtain ⟨s', hset, hs', hsame⟩ := h.setCount task (min (a.counts task + 1) (2 ^ 64 - 1))
  refine ⟨s', ?_, hs', hsame⟩
  unfold setTaskCycleCount at hset
  unfold incrementTaskCycleCount
  rw [hcounts] at hset ⊢
  cases hset
  rw [← hvalues task]
  rfl

theorem current (h : Accounts s a) (task : UInt32) :
    ∃ s', currentTaskCycleCount task s = .ok (a.counts task, s') ∧ Accounts s' a ∧
      ∀ g, g ≠ .strategyCycleCounts → s' g = s g := by
  obtain ⟨cycleCounts, hcounts, hvalues⟩ := h.counts
  unfold currentTaskCycleCount
  rw [hcounts]
  refine ⟨s.set .strategyCycleCounts (.obj cycleCounts), ?_, ⟨⟨cycleCounts, recordsMut_set _ _ _,
    hvalues⟩, ?_, ?_, ?_⟩, fun g hg => set_of_ne _ _ hg⟩
  · rw [← hvalues task]
    rfl
  · rw [recordsMut_congr (set_of_ne _ _ (by decide))]
    exact h.credits
  · rw [cycleBreaking_congr (set_of_ne _ _ (by decide)) (set_of_ne _ _ (by decide))]
    exact h.breaking
  · rw [strategyCheckpointsMut_congr (set_of_ne _ _ (by decide))]
    exact h.log

theorem credits_contains (target : Option UInt32) :
    a.credits.contains (dispatchCreditKey target) = decide (a.credit = some target) := by
  rw [OrderedMap.contains, CycleAccount.credits]
  cases hcredit : a.credit with
  | none => rfl
  | some target' =>
    dsimp only
    by_cases htarget : target' = target
    · rw [htarget, OrderedMap.get?_insert_self]
      simp
    · rw [OrderedMap.get?_insert_of_ne _ _ fun heq =>
        htarget (dispatchCreditKey_injective heq).symm]
      simp [htarget]

/-- A credit is consumed if it is there. -/
theorem consume (h : Accounts s a) (target : Option UInt32) :
    ∃ s', consumeDispatchCredit target s = .ok (decide (a.credit = some target), s') ∧
      Accounts s' { a with credit := if a.credit = some target then none else a.credit } ∧
        ∀ g, g ≠ .strategyReviewDispatchCredits → s' g = s g := by
  unfold consumeDispatchCredit
  rw [h.credits]
  by_cases hcredit : a.credit = some target
  · have herase : a.credits.erase (dispatchCreditKey target) =
        ({ a with credit := none } : CycleAccount).credits := by
      refine OrderedMap.ext_get? fun key => ?_
      rw [CycleAccount.credits, CycleAccount.credits, hcredit]
      dsimp only
      by_cases hkey : key = dispatchCreditKey target
      · rw [hkey, OrderedMap.get?_erase_self, OrderedMap.get?_empty]
      · rw [OrderedMap.get?_erase_of_ne _ hkey, OrderedMap.get?_insert_of_ne _ _ hkey]
    rw [if_pos hcredit, decide_eq_true hcredit]
    refine ⟨_, ?_, h.setCredits none, fun g hg => set_of_ne _ _ hg⟩
    show (if a.credits.contains (dispatchCreditKey target) = true then _ else _) = _
    rw [credits_contains, decide_eq_true hcredit, if_pos rfl, herase]
  · rw [if_neg hcredit, decide_eq_false hcredit]
    refine ⟨_, ?_, h.setCredits a.credit, fun g hg => set_of_ne _ _ hg⟩
    show (if a.credits.contains (dispatchCreditKey target) = true then _ else _) = _
    rw [credits_contains, decide_eq_false hcredit, if_neg Bool.false_ne_true]

/-- The credits of the other tasks are dropped. -/
theorem clearTasks (h : Accounts s a) :
    ∃ s', clearTaskDispatchCredits s = .ok s' ∧
      Accounts s' { a with credit := a.credit.filter Option.isNone } ∧
        ∀ g, g ≠ .strategyReviewDispatchCredits → s' g = s g := by
  have hnone : taskScopeKeyTaskNumber "unbound" = none := by decide
  have hfilter : (a.credits.filter fun key _ => (taskScopeKeyTaskNumber key).isNone) =
      ({ a with credit := a.credit.filter Option.isNone } : CycleAccount).credits := by
    refine OrderedMap.ext_get? fun key => ?_
    rw [OrderedMap.get?_filter, CycleAccount.credits, CycleAccount.credits]
    dsimp only
    cases hcredit : a.credit with
    | none => rfl
    | some target =>
      cases target with
      | none =>
        dsimp only [Option.filter, Option.isNone, dispatchCreditKey]
        by_cases hkey : key = "unbound"
        · rw [hkey, OrderedMap.get?_insert_self, hnone]
          rfl
        · rw [if_pos rfl, OrderedMap.get?_insert_of_ne _ _ hkey]
          rfl
      | some task =>
        dsimp only [Option.filter, Option.isNone, dispatchCreditKey]
        by_cases hkey : key = taskScopeKey task
        · rw [hkey, OrderedMap.get?_insert_self, taskScopeKeyTaskNumber_taskScopeKey]
          rfl
        · rw [OrderedMap.get?_insert_of_ne _ _ hkey]
          rfl
  unfold clearTaskDispatchCredits
  rw [h.credits]
  refine ⟨_, rfl, ?_, fun g hg => set_of_ne _ _ hg⟩
  rw [hfilter]
  exact h.setCredits _

theorem clear (h : Accounts s a) :
    ∃ s', clearDispatchCredits s = .ok s' ∧ Accounts s' { a with credit := none } ∧
      ∀ g, g ≠ .strategyReviewDispatchCredits → s' g = s g := by
  unfold clearDispatchCredits
  rw [h.credits]
  exact ⟨_, rfl, h.setCredits none, fun g hg => set_of_ne _ _ hg⟩

/-- A credit is given where there is none. -/
theorem credit (h : Accounts s { a with credit := none }) (target : Option UInt32) :
    ∃ s', incrementDispatchCredit target s = .ok (1, s') ∧
      Accounts s' { a with credit := some target } ∧
        ∀ g, g ≠ .strategyReviewDispatchCredits → s' g = s g := by
  unfold incrementDispatchCredit
  rw [h.credits]
  exact ⟨_, rfl, h.setCredits (some target), fun g hg => set_of_ne _ _ hg⟩

theorem break_iff (n : Nat) : (3 ≤ min (n + 1) (2 ^ 64 - 1)) ↔ 3 ≤ n + 1 := by omega

/-- The count of a cycle and its checkpoint: the third cycle is a break, and counts anew. -/
theorem counted (sha : Sha256Hex) (context : StrategyContext)
    (task step : UInt32) (trigger breakRationale rationale : String) {t : StateObject}
    {b : CycleAccount} (hb : b.counts = Function.update a.counts task
      (min (a.counts task + 1) (2 ^ 64 - 1))) (ht : Accounts t b) :
    ∃ s', FeatureForge.recordCountedCycle sha context
        (3 ≤ min (a.counts task + 1) (2 ^ 64 - 1)) (some (task, step)) trigger breakRationale
        rationale t = .ok s' ∧
      Accounts s' (a.countCycle task b.credit) ∧ LogGrows t s' ∧
        (3 ≤ a.counts task + 1 → RecordsCycleBreak t s' task) := by
  obtain ⟨s', hrecord, hs', hgrows, hbreak⟩ := ht.recordCountedCycle sha context
    (3 ≤ min (a.counts task + 1) (2 ^ 64 - 1)) task step trigger breakRationale rationale
  refine ⟨s', hrecord, ?_, hgrows, fun hthird =>
    hbreak (decide_eq_true ((break_iff _).mpr hthird))⟩
  have heq : ({ b with
      counts := if decide (3 ≤ min (a.counts task + 1) (2 ^ 64 - 1)) then
        Function.update b.counts task 0 else b.counts
      breaking := decide (3 ≤ min (a.counts task + 1) (2 ^ 64 - 1)) } : CycleAccount) =
        a.countCycle task b.credit := by
    rw [CycleAccount.countCycle, CycleAccount.nextCount, hb, decide_eq_decide.mpr (break_iff _)]
    by_cases hthird : 3 ≤ a.counts task + 1
    · rw [decide_eq_true hthird, if_pos rfl, if_pos hthird, Function.update_idem]
    · have hmin : min (a.counts task + 1) (2 ^ 64 - 1) = a.counts task + 1 := by omega
      rw [decide_eq_false hthird, if_neg Bool.false_ne_true, if_neg hthird, hmin]
  exact heq ▸ hs'

/-- **A review dispatch** counts its task, and is credited. -/
theorem dispatch (h : Accounts s a) (sha : Sha256Hex) (context : StrategyContext)
    (cycleTarget : Option (UInt32 × UInt32)) :
    ∃ s' recorded, recordReviewDispatchCycle sha context cycleTarget s = .ok s' ∧
      Accounts s' ((a.initial recorded).dispatch (cycleTarget.map Prod.fst)) ∧ LogGrows s s' ∧
        ∀ task, cycleTarget.map Prod.fst = some task → 3 ≤ a.counts task + 1 →
          RecordsCycleBreak s s' task := by
  obtain ⟨s₁, recorded, hinitial, h₁, hgrows₁⟩ := h.ensureInitial sha context
  obtain ⟨s₂, hclear, h₂, hsame₂⟩ := h₁.clear
  have hgrows₂ := hgrows₁.trans (h₁.logGrows_of_eq (hsame₂ _ (by decide)))
  unfold recordReviewDispatchCycle
  cases cycleTarget with
  | none =>
    obtain ⟨s₃, hcredit, h₃, hsame₃⟩ := Accounts.credit (a := a.initial recorded) h₂ none
    have hgrows₃ := hgrows₂.trans (h₂.logGrows_of_eq (hsame₃ _ (by decide)))
    obtain ⟨checkpoints, hlog⟩ := h₃.log
    obtain ⟨s', hrecord, hc⟩ := recordStrategyCheckpoint_spec sha context
      "review_remediation"
      "Runtime recorded reviewer dispatch cycle tracking for completed-plan review pending reopen task binding."
      ["task-unbound:step-unbound:pending-review-dispatch-" ++ (1).repr] .ready hlog
    refine ⟨s', recorded, ?_, h₃.of_checkpointed hc (by decide),
      hgrows₃.trans hc.logGrows, nofun⟩
    rw [hinitial]
    show (clearDispatchCredits s₁ >>= _) = _
    rw [hclear]
    show (incrementDispatchCredit none s₂ >>= _) = _
    rw [hcredit]
    exact hrecord
  | some target =>
    obtain ⟨task, step⟩ := target
    obtain ⟨s₃, hcount, h₃, hsame₃⟩ := h₂.increment task
    have hgrows₃ := hgrows₂.trans (h₂.logGrows_of_eq (hsame₃ _ (by decide)))
    obtain ⟨s₄, hcredit, h₄, hsame₄⟩ := Accounts.credit (a := { a.initial recorded with
      counts := Function.update a.counts task (min (a.counts task + 1) (2 ^ 64 - 1)) }) h₃
        (some task)
    have hgrows₄ := hgrows₃.trans (h₃.logGrows_of_eq (hsame₄ _ (by decide)))
    obtain ⟨s', hrecord, h', hgrows, hbreak⟩ := counted (a := a.initial recorded) sha context
      task step (cycleTrigger task step (min (a.counts task + 1) (2 ^ 64 - 1)) ":review-dispatch")
      churnRationale ("Runtime recorded reviewer dispatch cycle tracking for task " ++
        task.toNat.repr ++ " step " ++ step.toNat.repr ++ ".") rfl h₄
    refine ⟨s', recorded, ?_, h', hgrows₄.trans hgrows, fun task' htask hthird => ?_⟩
    · rw [hinitial]
      show (clearDispatchCredits s₁ >>= _) = _
      rw [hclear]
      show (incrementTaskCycleCount task s₂ >>= _) = _
      rw [hcount]
      show (incrementDispatchCredit (some task) s₃ >>= _) = _
      rw [hcredit]
      exact hrecord
    · obtain rfl := Option.some.inj htask
      exact (hbreak hthird).after hgrows₄

/-- **A reopening** answers the dispatch to its task, or counts it. -/
theorem reopen (h : Accounts s a) (sha : Sha256Hex) (context : StrategyContext)
    (task step : UInt32) (reason : String) :
    ∃ s' recorded, recordReopenStrategyCheckpoint sha context task step reason s = .ok s' ∧
      Accounts s' ((a.initial recorded).reopen task) ∧ LogGrows s s' ∧
        (a.credit ≠ some (some task) → 3 ≤ a.counts task + 1 → RecordsCycleBreak s s' task) := by
  obtain ⟨s₁, recorded, hinitial, h₁, hgrows₁⟩ := h.ensureInitial sha context
  obtain ⟨s₂, hconsume, h₂, hsame₂⟩ := h₁.consume (some task)
  have hgrows₂ := hgrows₁.trans (h₁.logGrows_of_eq (hsame₂ _ (by decide)))
  unfold recordReopenStrategyCheckpoint
  by_cases hcredit : a.credit = some (some task)
  · have hcredit' : (a.initial recorded).credit = some (some task) := hcredit
    rw [if_pos hcredit'] at h₂
    rw [decide_eq_true hcredit'] at hconsume
    obtain ⟨s₃, hcurrent, h₃, hsame₃⟩ := h₂.current task
    have hgrows₃ := hgrows₂.trans (h₂.logGrows_of_eq (hsame₃ _ (by decide)))
    obtain ⟨s', hrecord, h', hgrows, _⟩ := h₃.recordCountedCycle sha context
      (cycleBreaking s₃ || 3 ≤ a.counts task) task step
      (cycleTrigger task step (if a.counts task = 0 then 1 else a.counts task)
        ":reopen-after-review-dispatch")
      "Runtime preserved cycle-break strategy while reopening remediation after a bound review dispatch."
      reason
    refine ⟨s', recorded, ?_, ?_, hgrows₃.trans hgrows, fun hne => absurd hcredit hne⟩
    · rw [hinitial]
      show (consumeDispatchCredit (some task) s₁ >>= _) = _
      rw [hconsume]
      show (currentTaskCycleCount task s₂ >>= _) = _
      rw [hcurrent]
      exact hrecord
    · rw [CycleAccount.reopen_of_credit hcredit']
      rw [h₃.breaking] at h'
      exact h'
  · have hcredit' : (a.initial recorded).credit ≠ some (some task) := hcredit
    rw [if_neg hcredit'] at h₂
    rw [decide_eq_false hcredit'] at hconsume
    obtain ⟨s₃, hclear, h₃, hsame₃⟩ := h₂.clearTasks
    have hgrows₃ := hgrows₂.trans (h₂.logGrows_of_eq (hsame₃ _ (by decide)))
    obtain ⟨s₄, hbound, h₄, hsame₄⟩ := h₃.consume none
    have hgrows₄ := hgrows₃.trans (h₃.logGrows_of_eq (hsame₄ _ (by decide)))
    obtain ⟨s₅, hcount, h₅, hsame₅⟩ := h₄.increment task
    have hgrows₅ := hgrows₄.trans (h₄.logGrows_of_eq (hsame₅ _ (by decide)))
    have hnone : ∀ credit : Option (Option UInt32), (if credit.filter Option.isNone = some none
        then none else credit.filter Option.isNone) = none := by
      rintro (_ | _ | _) <;> rfl
    dsimp only at h₅
    rw [hnone] at h₅
    obtain ⟨s', hrecord, h', hgrows, hbreak⟩ := counted (a := a.initial recorded) sha context
      task step (cycleTrigger task step (min (a.counts task + 1) (2 ^ 64 - 1))
        (if decide ((a.initial recorded).credit.filter Option.isNone = some none) then
          ":bound-from-unbound-review-dispatch" else "")) churnRationale reason rfl h₅
    refine ⟨s', recorded, ?_, ?_, hgrows₅.trans hgrows, fun _ hthird =>
      (hbreak hthird).after hgrows₅⟩
    · rw [hinitial]
      show (consumeDispatchCredit (some task) s₁ >>= _) = _
      rw [hconsume]
      show (clearTaskDispatchCredits s₂ >>= _) = _
      rw [hclear]
      show (consumeDispatchCredit none s₃ >>= _) = _
      rw [hbound]
      show (incrementTaskCycleCount task s₄ >>= _) = _
      rw [hcount]
      exact hrecord
    · rw [CycleAccount.reopen, if_neg hcredit']
      exact h'

end Accounts

/-! ### Calls -/

inductive StrategyCall
  /-- the checkpoint of the runtime itself -/
  | initialDispatch (context : StrategyContext)
  | reopen (context : StrategyContext) (task step : UInt32) (reason : String)
  | reviewDispatch (context : StrategyContext) (cycleTarget : Option (UInt32 × UInt32))

def StrategyCall.apply (sha : Sha256Hex) (s : StateObject) : StrategyCall → Option StateObject
  | .initialDispatch context => (ensureInitialDispatchStrategyCheckpoint sha context s).toOption
  | .reopen context task step reason =>
    (recordReopenStrategyCheckpoint sha context task step reason s).toOption
  | .reviewDispatch context cycleTarget =>
    (recordReviewDispatchStrategyCheckpoint sha context cycleTarget s).toOption

/-- The dispatch that no reopening has answered, of the calls from the latest on. -/
def pendingDispatch : List StrategyCall → Option (Option UInt32)
  | [] => none
  | .initialDispatch _ :: calls => pendingDispatch calls
  | .reopen .. :: _ => none
  | .reviewDispatch _ cycleTarget :: _ => some (cycleTarget.map Prod.fst)

/-- A call after others counts a cycle of the task: a dispatch to it, and a reopening of it
unless that answers a dispatch to it. -/
def StrategyCall.Counts (task : UInt32) (earlier : List StrategyCall) : StrategyCall → Prop
  | .initialDispatch _ => False
  | .reopen _ reopened _ _ => reopened = task ∧ pendingDispatch earlier ≠ some (some task)
  | .reviewDispatch _ cycleTarget => cycleTarget.map Prod.fst = some task

instance (task : UInt32) (earlier : List StrategyCall) :
    (call : StrategyCall) → Decidable (call.Counts task earlier)
  | .initialDispatch _ => inferInstanceAs (Decidable False)
  | .reopen _ reopened _ _ => inferInstanceAs (Decidable (reopened = task ∧ _ ≠ _))
  | .reviewDispatch _ _ => inferInstanceAs (Decidable (_ = some task))

def countedCycles (task : UInt32) : List StrategyCall → Nat
  | [] => 0
  | call :: calls => countedCycles task calls + if call.Counts task calls then 1 else 0

/-- The account is what the calls say. -/
structure Tallied (calls : List StrategyCall) (a : CycleAccount) : Prop where
  counts : ∀ task, a.counts task = countedCycles task calls % 3
  credit : a.credit = pendingDispatch calls
  /-- a dispatch that breaks has taken the count back -/
  broken : ∀ task, a.credit = some (some task) → a.breaking = true → a.counts task = 0

namespace Tallied

variable {calls : List StrategyCall} {a : CycleAccount}

theorem initial (h : Tallied calls a) (recorded : Bool) : Tallied calls (a.initial recorded) where
  counts := h.counts
  credit := h.credit
  broken task hcredit hbreaking := h.broken task hcredit (Bool.and_elim_left hbreaking)

theorem nextCount_mod (n : Nat) : CycleAccount.nextCount (n % 3) = (n + 1) % 3 := by
  unfold CycleAccount.nextCount
  split <;> omega

/-- A call that counts one task. -/
theorem countCycle (h : Tallied calls a) {call : StrategyCall} {task : UInt32}
    (hcounts : ∀ task', call.Counts task' calls ↔ task' = task) (credit : Option (Option UInt32))
    (task' : UInt32) :
    (a.countCycle task credit).counts task' = countedCycles task' (call :: calls) % 3 := by
  rw [countedCycles, CycleAccount.countCycle]
  dsimp only
  by_cases htask : task' = task
  · rw [htask, Function.update_self, if_pos ((hcounts task).mpr rfl), h.counts, nextCount_mod]
  · rw [Function.update_of_ne htask, if_neg (mt (hcounts task').mp htask), h.counts, Nat.add_zero]

theorem dispatch (h : Tallied calls a) (context : StrategyContext)
    (cycleTarget : Option (UInt32 × UInt32)) :
    Tallied (.reviewDispatch context cycleTarget :: calls)
      (a.dispatch (cycleTarget.map Prod.fst)) := by
  cases cycleTarget with
  | none => exact ⟨h.counts, rfl, nofun⟩
  | some target =>
    refine ⟨h.countCycle (fun task' => ?_) _, rfl, fun task htask hbreaking => ?_⟩
    · exact ⟨fun heq => (Option.some.inj heq).symm, fun heq => congrArg some heq.symm⟩
    · obtain rfl : target.1 = task := Option.some.inj (Option.some.inj htask)
      show Function.update a.counts target.1 _ target.1 = 0
      rw [Function.update_self, CycleAccount.nextCount, if_pos (of_decide_eq_true hbreaking)]

theorem reopen (h : Tallied calls a) (context : StrategyContext) (task step : UInt32)
    (reason : String) :
    Tallied (.reopen context task step reason :: calls) (a.reopen task) := by
  by_cases hcredit : a.credit = some (some task)
  · have hnot : ∀ task', ¬ (StrategyCall.reopen context task step reason).Counts task' calls := by
      rintro task' ⟨rfl, hne⟩
      exact hne (h.credit ▸ hcredit)
    have hsame : ∀ task', countedCycles task'
        (.reopen context task step reason :: calls) = countedCycles task' calls := by
      intro task'
      rw [countedCycles, if_neg (hnot task'), Nat.add_zero]
    have hbelow : ¬ 3 ≤ a.counts task := by
      rw [h.counts]
      omega
    rw [CycleAccount.reopen_of_credit hcredit]
    refine ⟨fun task' => ?_, rfl, nofun⟩
    rw [hsame, ← h.counts, decide_eq_false hbelow, Bool.or_false]
    cases hbreaking : a.breaking with
    | false => rfl
    | true =>
      rw [if_pos rfl]
      show Function.update a.counts task 0 task' = _
      rw [← h.broken task hcredit hbreaking, Function.update_eq_self]
  · have hcounts : ∀ task', (StrategyCall.reopen context task step reason).Counts task' calls ↔
        task' = task := by
      refine fun task' => ⟨fun hcounts => hcounts.1.symm, ?_⟩
      rintro rfl
      exact ⟨rfl, h.credit ▸ hcredit⟩
    rw [CycleAccount.reopen, if_neg hcredit]
    exact ⟨h.countCycle hcounts _, rfl, nofun⟩

/-- The count that makes three is a break. -/
theorem third (h : Tallied calls a) {call : StrategyCall} {task : UInt32}
    (hcounts : call.Counts task calls) (hthird : 3 ∣ countedCycles task (call :: calls)) :
    3 ≤ a.counts task + 1 := by
  rw [countedCycles, if_pos hcounts] at hthird
  rw [h.counts]
  omega

end Tallied

/-! ### Runs -/

/-- What the lineage of a dispatch writes is not of the strategy. -/
theorem recordReviewDispatchLineage_ok {cycleTarget : Option (UInt32 × UInt32)}
    (h : recordReviewDispatchLineage sha context cycleTarget s = .ok s') :
    ∀ g ∈ .strategyCycleBreakTask :: Accounts.fields, s' g = s g := by
  unfold recordReviewDispatchLineage at h
  split at h
  · split at h
    · split at h
      · cases h
        exact fun _ _ => rfl
      · obtain ⟨trackedTree, _, h⟩ := bind_ok h
        obtain ⟨semanticTree, _, h⟩ := bind_ok h
        obtain ⟨t, hclear, hsame⟩ := upsertTaskDispatchLineage_ok h
        intro g hg
        have hne : ∀ f, f ∉ .strategyCycleBreakTask :: Accounts.fields → g ≠ f := by
          rintro f hf rfl
          exact hf hg
        rw [hsame g (hne _ (by decide)) (hne _ (by decide)),
          clearTaskClosureNegativeResult_ok hclear g (hne _ (by decide)) (hne _ (by decide))]
    · split at h
      · cases h
      · obtain ⟨t, harchive, h⟩ := bind_ok h
        obtain ⟨history, _, h⟩ := bind_ok h
        cases h
        intro g hg
        have hne : ∀ f, f ∉ .strategyCycleBreakTask :: Accounts.fields → g ≠ f := by
          rintro f hf rfl
          exact hf hg
        rw [set_of_ne _ _ (hne _ (by decide)), set_of_ne _ _ (hne _ (by decide)),
          set_of_ne _ _ (hne _ (by decide)), archive_ok harchive g (hne _ (by decide))]
  · cases h
    exact fun _ _ => rfl

/-- **A call** keeps the account, and a call that makes three counted cycles is a break. -/
theorem StrategyCall.apply_ok {call : StrategyCall} {calls : List StrategyCall} {a : CycleAccount}
    (h : Accounts s a) (htally : Tallied calls a) (hcall : call.apply sha s = some s') :
    (∃ a', Accounts s' a' ∧ Tallied (call :: calls) a') ∧
      ∀ task, call.Counts task calls → 3 ∣ countedCycles task (call :: calls) →
        RecordsCycleBreak s s' task := by
  cases call with
  | initialDispatch context =>
    obtain ⟨t, recorded, hrecord, ht, _⟩ := h.ensureInitial sha context
    obtain rfl := Except.ok.inj (hrecord.symm.trans (ok_of_toOption hcall))
    have hinitial := htally.initial recorded
    exact ⟨⟨_, ht, ⟨hinitial.counts, hinitial.credit, hinitial.broken⟩⟩,
      fun _ hcounts => hcounts.elim⟩
  | reopen context task step reason =>
    obtain ⟨t, recorded, hrecord, ht, _, hbreak⟩ := h.reopen sha context task step reason
    obtain rfl := Except.ok.inj (hrecord.symm.trans (ok_of_toOption hcall))
    refine ⟨⟨_, ht, (htally.initial recorded).reopen context task step reason⟩, ?_⟩
    rintro task' ⟨rfl, hpending⟩ hthird
    have hcounts : (StrategyCall.reopen context task step reason).Counts task calls :=
      ⟨rfl, hpending⟩
    exact hbreak (htally.credit ▸ hpending) (htally.third hcounts hthird)
  | reviewDispatch context cycleTarget =>
    obtain ⟨t, recorded, hrecord, ht, _, hbreak⟩ := h.dispatch sha context cycleTarget
    obtain ⟨t', hrecord', hlineage⟩ := bind_ok (ok_of_toOption hcall)
    obtain rfl := Except.ok.inj (hrecord.symm.trans hrecord')
    have hsame := recordReviewDispatchLineage_ok hlineage
    refine ⟨⟨_, ht.congr fun f hf => hsame f (List.mem_cons_of_mem _ hf),
      (htally.initial recorded).dispatch context cycleTarget⟩, fun task hcounts hthird => ?_⟩
    exact (hbreak task hcounts (htally.third hcounts hthird)).congr (hsame _ (by decide))
      (hsame _ (by decide)) (hsame _ (by decide)) (hsame _ (by decide))

/-- A call, and the calls so far from the latest on. -/
def recordCall (sha : Sha256Hex) (run : StateObject × List StrategyCall) (call : StrategyCall) :
    Option (StateObject × List StrategyCall) :=
  (call.apply sha run.1).map fun s => (s, call :: run.2)

/-- The calls of a dispatch and of the reopening of a task that answers it. -/
inductive AnsweredDispatch (task : UInt32) : List StrategyCall → Prop
  | dispatch (context : StrategyContext) {cycleTarget : Option (UInt32 × UInt32)}
      (htarget : ∀ target ∈ cycleTarget, target.1 = task) (initials : List StrategyContext)
      (context' : StrategyContext) (step : UInt32) (reason : String) :
    AnsweredDispatch task (.reviewDispatch context cycleTarget ::
      initials.map .initialDispatch ++ [.reopen context' task step reason])

/-- A state and the calls that led to it have one account. -/
def Accounted (run : StateObject × List StrategyCall) : Prop :=
  ∃ a, Accounts run.1 a ∧ Tallied run.2 a

theorem accounted_step {run run' : StateObject × List StrategyCall} {call : StrategyCall}
    (h : Accounted run) (hcall : recordCall sha run call = some run') : Accounted run' := by
  obtain ⟨a, haccounts, htally⟩ := h
  obtain ⟨s', happly, rfl⟩ := Option.map_eq_some_iff.mp hcall
  exact (StrategyCall.apply_ok haccounts htally happly).1

theorem Accounted.run {ops : List StrategyCall} : ∀ {s : StateObject} {calls : List StrategyCall},
    Accounted (s, calls) → Machine.run (StrategyCall.apply sha) s ops = some s' →
      Accounted (s', ops.reverse ++ calls) := by
  induction ops with
  | nil =>
    intro s calls h hrun
    cases hrun
    exact h
  | cons call ops ih =>
    intro s calls h hrun
    obtain ⟨t, hcall, hrest⟩ := Option.bind_eq_some_iff.mp hrun
    have hstep : recordCall sha (s, calls) call = some (t, call :: calls) := by
      rw [recordCall, hcall, Option.map_some]
    rw [List.reverse_cons, List.append_assoc]
    exact ih (accounted_step h hstep) hrest

theorem pendingDispatch_initials (contexts : List StrategyContext) (calls : List StrategyCall) :
    pendingDispatch (contexts.map .initialDispatch ++ calls) = pendingDispatch calls := by
  induction contexts with
  | nil => rfl
  | cons context contexts ih => exact ih

theorem countedCycles_initials (task : UInt32) (contexts : List StrategyContext)
    (calls : List StrategyCall) :
    countedCycles task (contexts.map .initialDispatch ++ calls) = countedCycles task calls := by
  induction contexts with
  | nil => rfl
  | cons context contexts ih => exact ih

/-- A dispatch and the reopening that answers it count one cycle. -/
theorem AnsweredDispatch.count {task : UInt32} {answered : List StrategyCall}
    (h : AnsweredDispatch task answered) (task' : UInt32) (calls : List StrategyCall) :
    countedCycles task' (answered.reverse ++ calls) =
      countedCycles task' calls + if task' = task then 1 else 0 := by
  obtain ⟨context, htarget, initials, context', step, reason⟩ := h
  rename_i cycleTarget
  have hreverse : (StrategyCall.reviewDispatch context cycleTarget ::
      initials.map .initialDispatch ++ [StrategyCall.reopen context' task step reason]).reverse ++
        calls =
        StrategyCall.reopen context' task step reason ::
          (initials.reverse.map .initialDispatch ++
            (.reviewDispatch context cycleTarget :: calls)) := by
    simp
  rw [hreverse, countedCycles, countedCycles_initials, countedCycles]
  have hreopen : (StrategyCall.reopen context' task step reason).Counts task'
      (initials.reverse.map .initialDispatch ++ (.reviewDispatch context cycleTarget :: calls)) ↔
        task = task' ∧ cycleTarget.map Prod.fst ≠ some task' := by
    show (task = task' ∧ pendingDispatch _ ≠ _) ↔ _
    rw [pendingDispatch_initials]
    simp [pendingDispatch]
  have hdispatch : (StrategyCall.reviewDispatch context cycleTarget).Counts task' calls ↔
      cycleTarget.map Prod.fst = some task' := Iff.rfl
  simp only [hreopen, hdispatch]
  cases cycleTarget with
  | none => simp [eq_comm]
  | some target =>
    obtain rfl : target.1 = task := htarget target rfl
    by_cases htask : task' = target.1
    · simp [htask]
    · simp [htask, Ne.symm htask]

end FeatureForge
