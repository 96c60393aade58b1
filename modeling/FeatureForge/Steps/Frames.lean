import FeatureForge.Closures.TaskState
import FeatureForge.Lib.Except
import FeatureForge.LateStage.Restored
import FeatureForge.Strategy.Checkpoints

/-!
# What the transition functions leave alone

A step command calls functions of the strategy, of the task closures and of the late stages on
the state.  `ChangesOnly` says that such a function writes the fields of a list at most; the
lists here are the ones of the strategy (`strategyFields`), of the task closures and of the
milestones.  `hydrateMissingReviewProjectionSummaryFields` is what every load does to the state
before a command sees it.
-/

namespace FeatureForge

/-- No field outside the list differs. -/
def ChangesOnly (fields : List Field) (s s' : StateObject) : Prop := ∀ f ∉ fields, s' f = s f

namespace ChangesOnly

variable {fields : List Field} {s t s' : StateObject}

theorem refl (s : StateObject) : ChangesOnly fields s s := fun _ _ => rfl

theorem trans (h : ChangesOnly fields s t) (h' : ChangesOnly fields t s') :
    ChangesOnly fields s s' := fun f hf => (h' f hf).trans (h f hf)

theorem mono {more : List Field} (h : ChangesOnly fields s s') (hsub : ∀ f ∈ fields, f ∈ more) :
    ChangesOnly more s s' := fun f hf => h f fun hmem => hf (hsub f hmem)

theorem set (h : ChangesOnly fields s t) {f : Field} (hf : f ∈ fields) (v : Json) :
    ChangesOnly fields s (t.set f v) := by
  intro g hg
  have hne : g ≠ f := fun heq => hg (heq ▸ hf)
  exact (set_of_ne t v hne).trans (h g hg)

theorem setNulls (h : ChangesOnly fields s t) {nulls : List Field}
    (hsub : ∀ f ∈ nulls, f ∈ fields) : ChangesOnly fields s (t.setNulls nulls) := fun g hg =>
  (setNulls_of_not_mem t fun hmem => hg (hsub g hmem)).trans (h g hg)

theorem foldl_set {α : Type} (field : α → Field) (value : α → Json) : ∀ {xs : List α}
    {s t : StateObject}, ChangesOnly fields s t → (∀ x ∈ xs, field x ∈ fields) →
    ChangesOnly fields s (xs.foldl (fun s x => s.set (field x) (value x)) t) := by
  intro xs
  induction xs with
  | nil => intro s t h _; exact h
  | cons x xs ih =>
    intro s t h hxs
    exact ih (h.set (hxs x List.mem_cons_self) _) fun y hy => hxs y (List.mem_cons_of_mem _ hy)

theorem ite {c : Prop} [Decidable c] (h : ChangesOnly fields s t) (h' : ChangesOnly fields s s') :
    ChangesOnly fields s (if c then t else s') := by
  split_ifs
  · exact h
  · exact h'

end ChangesOnly

variable {s s' : StateObject}

/-! ### The strategy -/

/-- The fields of the strategy. -/
def strategyFields : List Field :=
  [.strategyCheckpoints, .strategyState, .strategyCheckpointKind,
   .lastStrategyCheckpointFingerprint, .strategyResetRequired, .strategyCycleBreakTask,
   .strategyCycleBreakStep, .strategyCycleBreakCheckpointFingerprint, .strategyCycleCounts,
   .strategyReviewDispatchCredits]

section

variable {sha : Sha256Hex} {context : StrategyContext}

theorem changesOnly_recordStrategyCheckpoint {kind rationale : String} {triggers : List String}
    {cycleState : StrategyCheckpointCycleState}
    (h : recordStrategyCheckpoint sha context kind triggers rationale cycleState s = .ok s') :
    ChangesOnly strategyFields s s' := by
  obtain ⟨checkpoints, _, h⟩ := bind_eq_ok.mp h
  obtain rfl := Except.ok.inj h
  exact ((((((((ChangesOnly.refl s).set (by decide) _).set (by decide) _).set (by decide) _).set
    (by decide) _).set (by decide) _).set (by decide) _).set (by decide) _).set (by decide) _

theorem changesOnly_ensureInitialDispatch
    (h : ensureInitialDispatchStrategyCheckpoint sha context s = .ok s') :
    ChangesOnly strategyFields s s' := by
  rw [ensureInitialDispatchStrategyCheckpoint] at h
  split_ifs at h
  · obtain rfl := Except.ok.inj h
    exact .refl s
  · exact changesOnly_recordStrategyCheckpoint h

theorem changesOnly_consumeDispatchCredit {target : Option UInt32} {consumed : Bool}
    (h : consumeDispatchCredit target s = .ok (consumed, s')) :
    ChangesOnly strategyFields s s' := by
  obtain ⟨credits, _, h⟩ := bind_eq_ok.mp h
  split_ifs at h
  all_goals
    obtain ⟨-, rfl⟩ := Prod.mk.inj (Except.ok.inj h)
    exact (ChangesOnly.refl s).set (by decide) _

theorem changesOnly_currentTaskCycleCount {task : UInt32} {count : Nat}
    (h : currentTaskCycleCount task s = .ok (count, s')) : ChangesOnly strategyFields s s' := by
  obtain ⟨counts, _, h⟩ := bind_eq_ok.mp h
  obtain ⟨-, rfl⟩ := Prod.mk.inj (Except.ok.inj h)
  exact (ChangesOnly.refl s).set (by decide) _

theorem changesOnly_incrementTaskCycleCount {task : UInt32} {count : Nat}
    (h : incrementTaskCycleCount task s = .ok (count, s')) : ChangesOnly strategyFields s s' := by
  obtain ⟨counts, _, h⟩ := bind_eq_ok.mp h
  obtain ⟨-, rfl⟩ := Prod.mk.inj (Except.ok.inj h)
  exact (ChangesOnly.refl s).set (by decide) _

theorem changesOnly_setTaskCycleCount {task : UInt32} {value : Nat}
    (h : setTaskCycleCount task value s = .ok s') : ChangesOnly strategyFields s s' := by
  obtain ⟨counts, _, h⟩ := bind_eq_ok.mp h
  obtain rfl := Except.ok.inj h
  exact (ChangesOnly.refl s).set (by decide) _

theorem changesOnly_clearTaskDispatchCredits (h : clearTaskDispatchCredits s = .ok s') :
    ChangesOnly strategyFields s s' := by
  obtain ⟨credits, _, h⟩ := bind_eq_ok.mp h
  obtain rfl := Except.ok.inj h
  exact (ChangesOnly.refl s).set (by decide) _

theorem changesOnly_recordCountedCycle {cycleBreak : Bool} {binding : Option (UInt32 × UInt32)}
    {trigger breakRationale rationale : String}
    (h : recordCountedCycle sha context cycleBreak binding trigger breakRationale rationale s =
      .ok s') : ChangesOnly strategyFields s s' := by
  rw [recordCountedCycle] at h
  split_ifs at h
  · obtain ⟨s₁, hcheckpoint, h⟩ := bind_eq_ok.mp h
    refine (changesOnly_recordStrategyCheckpoint hcheckpoint).trans ?_
    cases binding with
    | none =>
      obtain rfl := Except.ok.inj h
      exact .refl s₁
    | some step => exact changesOnly_setTaskCycleCount h
  · exact changesOnly_recordStrategyCheckpoint h

/-- **A reopening checkpoint** writes the strategy only. -/
theorem changesOnly_recordReopenStrategyCheckpoint {task step : UInt32} {reason : String}
    (h : recordReopenStrategyCheckpoint sha context task step reason s = .ok s') :
    ChangesOnly strategyFields s s' := by
  obtain ⟨s₁, hensure, h⟩ := bind_eq_ok.mp h
  obtain ⟨⟨credited, s₂⟩, hconsume, h⟩ := bind_eq_ok.mp h
  refine ((changesOnly_ensureInitialDispatch hensure).trans
    (changesOnly_consumeDispatchCredit hconsume)).trans ?_
  cases credited with
  | true =>
    obtain ⟨⟨count, s₃⟩, hcount, h⟩ := bind_eq_ok.mp h
    exact (changesOnly_currentTaskCycleCount hcount).trans (changesOnly_recordCountedCycle h)
  | false =>
    obtain ⟨s₃, hclear, h⟩ := bind_eq_ok.mp h
    obtain ⟨⟨bound, s₄⟩, hunbound, h⟩ := bind_eq_ok.mp h
    obtain ⟨⟨count, s₅⟩, hcount, h⟩ := bind_eq_ok.mp h
    exact (((changesOnly_clearTaskDispatchCredits hclear).trans
      (changesOnly_consumeDispatchCredit hunbound)).trans
      (changesOnly_incrementTaskCycleCount hcount)).trans (changesOnly_recordCountedCycle h)

end

/-! ### The task closures -/

/-- The fields of the task closures. -/
def taskRecordFields : List Field := [.currentTaskClosureRecords, .taskClosureRecordHistory]

theorem changesOnly_takeBackTaskClosures {scopeKeys closureIds : List String} {status : String}
    (h : takeBackTaskClosures scopeKeys closureIds status s = .ok s') :
    ChangesOnly taskRecordFields s s' := fun f hf =>
  (takeBackTaskClosures_ok h).1 f (fun heq => hf (heq ▸ by decide)) fun heq =>
    hf (heq ▸ by decide)

/-! ### The late stages -/

theorem changesOnly_writeOverlayFields {m : LateStageMilestone} {recordId branchClosureId : String}
    {payload : Json} {texts : List (Field × String)}
    (htexts : ∀ text ∈ texts, text.1 ∈ m.writtenMembers.map Prod.snd) :
    ChangesOnly m.touchedFields s
      (writeOverlayFields m recordId branchClosureId payload texts s) := by
  have hwritten : ∀ f ∈ m.writtenMembers.map Prod.snd, f ∈ m.touchedFields := by
    cases m <;> decide
  have hbound : ChangesOnly m.touchedFields s (m.branchClosureIdField.elim s fun field =>
      s.set field (.str branchClosureId)) := by
    cases m with
    | releaseReadiness => exact .refl s
    | finalReview | browserQa => exact (ChangesOnly.refl s).set (by decide) _
  have hfolded := hbound.foldl_set (fun text : Field × String => text.1) (fun text => .str text.2)
    fun text (htext : text ∈ texts) => hwritten _ (htexts text htext)
  have hmembers : m.recordIdField ∈ m.touchedFields ∧ m.stateField ∈ m.touchedFields ∧
      m.fingerprintField.1 ∈ m.touchedFields := by
    cases m <;> decide
  have hset := ((hfolded.set hmembers.1 (.str recordId)).set hmembers.2.1 (.str "fresh")).set
    hmembers.2.2 (optionStr (jsonString (payload.get? m.fingerprintField.2)))
  cases m <;> exact hset

theorem changesOnly_restoreOverlayFields {m : LateStageMilestone} {restored : Option Json}
    (h : restoreOverlayFields m s = .ok (restored, s')) : ChangesOnly m.touchedFields s s' := by
  have hsame : ∀ {r : Option Json}, (Except.ok (none, s) : Except JsonFailure _) =
      .ok (r, s') → ChangesOnly m.touchedFields s s' := by
    intro r h
    obtain ⟨-, rfl⟩ := Prod.mk.inj (Except.ok.inj h)
    exact .refl s
  rw [restoreOverlayFields] at h
  cases hentry : currentRecordEntry s m with
  | none => rw [hentry] at h; exact hsame h
  | some entry =>
    rw [hentry] at h
    obtain ⟨branchClosureId, _, h⟩ := bind_eq_ok.mp h
    obtain ⟨_, _, h⟩ := bind_eq_ok.mp h
    cases hidentity : recoverableCurrentBranchClosureIdentity s with
    | none => rw [hidentity] at h; exact hsame h
    | some identity =>
      rw [hidentity] at h
      dsimp only at h
      split_ifs at h
      · exact hsame h
      · exact hsame h
      · exact hsame h
      · obtain ⟨texts, htexts, h⟩ := bind_eq_ok.mp h
        obtain ⟨-, rfl⟩ := Prod.mk.inj (Except.ok.inj h)
        refine changesOnly_writeOverlayFields fun text htext => ?_
        obtain ⟨member, hmember, htext⟩ := mem_of_mapM_eq_ok htexts htext
        obtain ⟨_, _, htext⟩ := bind_eq_ok.mp htext
        obtain rfl := Except.ok.inj htext
        exact List.mem_map_of_mem hmember

/-- **A restoration writes the fields of its milestone only.** -/
theorem changesOnly_restore {m : LateStageMilestone} {restored : Bool}
    (h : m.restore s = .ok (restored, s')) : ChangesOnly m.touchedFields s s' := by
  cases m with
  | releaseReadiness | browserQa =>
    obtain ⟨⟨_, s₁⟩, hrestore, h⟩ := bind_eq_ok.mp h
    obtain ⟨-, rfl⟩ := Prod.mk.inj (Except.ok.inj h)
    exact changesOnly_restoreOverlayFields hrestore
  | finalReview =>
    obtain ⟨⟨payload, s₁⟩, hrestore, h⟩ := bind_eq_ok.mp h
    obtain ⟨-, rfl⟩ := Prod.mk.inj (Except.ok.inj h)
    refine (changesOnly_restoreOverlayFields hrestore).trans ?_
    cases payload with
    | none => exact .refl s₁
    | some payload =>
      exact .ite (((ChangesOnly.refl s₁).set (by decide) _).set (by decide) _) (.refl s₁)

/-! ### Loading -/

def LateStageMilestone.all : List LateStageMilestone := [.releaseReadiness, .finalReview, .browserQa]

/-- A summary state is put in place where it is missing, with null for the artifact. -/
def fillProjectionSummary (s : StateObject) : StateObject :=
  let defaultState :=
    if (boundCurrentBranchClosureIdentity s).isSome then "missing" else "not_required"
  let states := (LateStageMilestone.all.filter fun m => (jsonString (s m.stateField)).isNone)
  let fingerprints :=
    LateStageMilestone.all.filter fun m => (jsonString (s m.fingerprintField.1)).isNone
  fingerprints.foldl (fun s m => s.set m.fingerprintField.1 .null)
    (states.foldl (fun s m => s.set m.stateField (.str defaultState)) s)

/-- `hydrate_missing_review_projection_summary_fields`. -/
def hydrateMissingReviewProjectionSummaryFields (s : StateObject) :
    Except JsonFailure StateObject :=
  LateStageMilestone.all.foldlM (fun t m =>
    if (jsonString (s m.stateField)).isNone ∨ jsonString (t m.stateField) = some "fresh" then
      (m.restore t).map Prod.snd
    else .ok t) (fillProjectionSummary s)

/-- The fields of the three milestones. -/
def summaryFields : List Field := LateStageMilestone.all.flatMap LateStageMilestone.touchedFields

theorem touched_summaryFields (m : LateStageMilestone) : ∀ f ∈ m.touchedFields, f ∈ summaryFields := by
  cases m <;> decide

theorem changesOnly_fillProjectionSummary (s : StateObject) :
    ChangesOnly summaryFields s (fillProjectionSummary s) := by
  have hstate : ∀ m : LateStageMilestone, m.stateField ∈ summaryFields := by
    intro m
    cases m <;> decide
  have hfingerprint : ∀ m : LateStageMilestone, m.fingerprintField.1 ∈ summaryFields := by
    intro m
    cases m <;> decide
  exact ((ChangesOnly.refl s).foldl_set _ _ fun m _ => hstate m).foldl_set _ _
    fun m _ => hfingerprint m

/-- **Loading writes the summaries of the late stages only.** -/
theorem changesOnly_hydrate (h : hydrateMissingReviewProjectionSummaryFields s = .ok s') :
    ChangesOnly summaryFields s s' := by
  refine (changesOnly_fillProjectionSummary s).trans ?_
  rw [hydrateMissingReviewProjectionSummaryFields] at h
  generalize fillProjectionSummary s = t at h ⊢
  generalize LateStageMilestone.all = ms at h
  induction ms generalizing t with
  | nil =>
    obtain rfl := Except.ok.inj h
    exact .refl t
  | cons m ms ih =>
    rw [List.foldlM_cons] at h
    obtain ⟨t₁, hstep, h⟩ := bind_eq_ok.mp h
    refine ChangesOnly.trans ?_ (ih t₁ h)
    split_ifs at hstep
    · obtain ⟨⟨restored, t₂⟩, hrestore, rfl⟩ := map_eq_ok.mp hstep
      exact (changesOnly_restore hrestore).mono (touched_summaryFields m)
    · obtain rfl := Except.ok.inj hstep
      exact .refl t

end FeatureForge
