import FeatureForge.LateStage.Repair

/-!
# When a repair settles

A repair always returns (`exists_repaired`), and binds each milestone to what the bindings name.
`repair_settled_iff` says when nothing is left to do afterwards.  A milestone that the bindings
drop keeps its result and its summary, as the setters of the ids clear nothing else.  One that
they name and that is written out is reported by every repair, as the restorations do not compare
what they write with what stands there.
-/

namespace FeatureForge

variable {s s' : StateObject} {actions : List String}
  {accepts : BranchClosureRecord → List CurrentTaskClosureRecord → Bool}

/-! ### A repair -/

/-- A repair of the state has nothing to report. -/
structure RepairQuiet (accepts : BranchClosureRecord → List CurrentTaskClosureRecord → Bool)
    (s : StateObject) : Prop where
  closures : currentTaskClosureOverlayNeedsRestore s = false
  negatives : taskClosureNegativeResultOverlayNeedsRestore s = false
  branch : ∀ current, validatedIdentity accepts s = some current → BranchShown current s
  milestones : ∀ m : LateStageMilestone,
    jsonString (s m.recordIdField) = (repairBindings accepts s).recordId m ∧
      ¬ Rewrites (validatedIdentity accepts s) s m ((repairBindings accepts s).recordId m)

/-- What a repair makes of a state, and when it reports nothing. -/
structure Repaired (accepts : BranchClosureRecord → List CurrentTaskClosureRecord → Bool)
    (s s' : StateObject) (actions : List String) : Prop where
  same : SameRecords s s'
  records : RecordsRestored s s'
  branch : BranchRestored (validatedIdentity accepts s) s s'
  stands : ∀ m, MilestoneStands (validatedIdentity accepts s) s s' m
    ((repairBindings accepts s).recordId m)
  quiet : actions = [] ↔ RepairQuiet accepts s
  unchanged : actions = [] → s' = s

theorem preparedFields_touched (m : LateStageMilestone) :
    ∀ f ∈ Field.taskClosureNegativeResultHistory :: preparedFields, f ∉ m.touchedFields := by
  cases m <;> decide

/-- **A repair returns**, and this is what it returns. -/
theorem exists_repaired (accepts : BranchClosureRecord → List CurrentTaskClosureRecord → Bool)
    (s : StateObject) : ∃ actions s', restoreReviewStateProjectionOverlays accepts s =
      .ok (actions, s') ∧ Repaired accepts s s' actions := by
  have hprepared := prepared accepts s
  have hrun : ∀ release review qa s₁ s₂ s₃,
      settleMilestone .releaseReadiness (identityBindings (validatedIdentity accepts s)
        (preparedState accepts s)).currentReleaseReadinessRecordId (preparedState accepts s) =
          .ok (release, s₁) →
      settleMilestone .finalReview (identityBindings (validatedIdentity accepts s)
        (preparedState accepts s)).currentFinalReviewRecordId s₁ = .ok (review, s₂) →
      settleMilestone .browserQa (identityBindings (validatedIdentity accepts s)
        (preparedState accepts s)).currentQaRecordId s₂ = .ok (qa, s₃) →
      restoreReviewStateProjectionOverlays accepts s =
        .ok (preparedActions accepts s ++ (release ++ review ++ qa), s₃) := by
    intro release review qa s₁ s₂ s₃ hrelease hreview hqa
    show (settleMilestone .releaseReadiness (identityBindings (validatedIdentity accepts s)
      (preparedState accepts s)).currentReleaseReadinessRecordId (preparedState accepts s) >>= _) = _
    rw [hrelease]
    show (settleMilestone .finalReview (identityBindings (validatedIdentity accepts s)
      (preparedState accepts s)).currentFinalReviewRecordId s₁ >>= _) = _
    rw [hreview]
    show (settleMilestone .browserQa (identityBindings (validatedIdentity accepts s)
      (preparedState accepts s)).currentQaRecordId s₂ >>= _) = _
    rw [hqa]
    show Except.ok (preparedActions accepts s ++ release ++ review ++ qa, s₃) = _
    rw [List.append_assoc, List.append_assoc, List.append_assoc]
  generalize preparedActions accepts s = before at *
  generalize preparedState accepts s = t at *
  have hnames : ∀ m, (identityBindings (validatedIdentity accepts s) t).recordId m =
      (repairBindings accepts s).recordId m :=
    recordId_settled hprepared.same (fun current h => by
      obtain ⟨hbranch, hreviewed, _⟩ := boundIdentity_named (validated_bound h)
      exact ⟨hbranch, hreviewed⟩) (Or.inl fun m => congrArg jsonString
        (hprepared.own m _ List.mem_cons_self))
  have hbound : ∀ current, validatedIdentity accepts s = some current →
      boundCurrentBranchClosureIdentity t = some current :=
    fun current h => hprepared.same.boundIdentity.trans (validated_bound h)
  obtain ⟨release, review, qa, s₁, s₂, s₃, hrelease, hreview, hqa, hsettled⟩ :=
    exists_settleMilestones hbound
  have hframe : ∀ f ∈ Field.taskClosureNegativeResultHistory :: preparedFields, s₃ f = t f :=
    fun f hf => hsettled.frame f fun m => preparedFields_touched m f hf
  have hoverlay : ∀ f ∈ branchOverlayFields, s₃ f = t f := fun f hf => by
    refine hframe f ?_
    revert hf
    cases f <;> decide
  refine ⟨_, s₃, hrun release review qa s₁ s₂ s₃ hrelease hreview hqa, ?_⟩
  exact
    { same := hprepared.same.trans
        ⟨fun f hf => hsettled.frame f fun m => bindingSources_touched m f hf,
          congrArg jsonString (hframe _ (by decide))⟩
      records :=
        { closures := (hframe _ (by decide)).trans hprepared.records.closures
          negatives := (hframe _ (by decide)).trans hprepared.records.negatives
          negativeHistory := (hframe _ (by decide)).trans hprepared.records.negativeHistory }
      branch :=
        { shown := fun current h => (hprepared.branch.shown current h).congr hoverlay
          kept := fun hnone f hf => (hoverlay f hf).trans (hprepared.branch.kept hnone f hf) }
      stands := fun m => by
        rw [← hnames m]
        exact (hsettled.stands m).within hprepared.same (hprepared.own m) fun _ _ => rfl
      quiet := by
        rw [List.append_eq_nil_iff, hprepared.quiet, hsettled.quiet]
        simp only [hnames, hprepared.same.rewrites, hprepared.own _ _ List.mem_cons_self]
        exact ⟨fun h => ⟨h.1.1, h.1.2.1, h.1.2.2, h.2⟩,
          fun h => ⟨⟨h.closures, h.negatives, h.branch⟩, h.milestones⟩⟩
      unchanged := fun h => by
        obtain ⟨hbefore, hstages⟩ := List.append_eq_nil_iff.mp h
        rw [hsettled.unchanged hstages, hprepared.unchanged hbefore] }

/-! ### Settling -/

/-- The field is null or absent. -/
def Unset (s : StateObject) (f : Field) : Prop := s f = none ∨ s f = some .null

instance (s : StateObject) (f : Field) : Decidable (Unset s f) :=
  inferInstanceAs (Decidable (_ ∨ _))

/-- The scalar overlay of a milestone is that of the record that is named, and unset if there is
none. -/
def MilestoneShown (s : StateObject) (m : LateStageMilestone) : Option String → Prop
  | none => ∀ f ∈ m.ownFields, Unset s f
  | some id => ∃ record, lateStageRecordById m s id = some record ∧
      jsonString (s m.recordIdField) = some id ∧ RecordShown m s record

/-- The overlay is that of the bindings, and a repair reports nothing and leaves the state. -/
structure RepairSettled (accepts : BranchClosureRecord → List CurrentTaskClosureRecord → Bool)
    (s : StateObject) : Prop where
  milestones : ∀ m, MilestoneShown s m ((repairBindings accepts s).recordId m)
  fixpoint : restoreReviewStateProjectionOverlays accepts s = .ok ([], s)

/-- The current task closures that a second repair validates the branch closure with, where the
first one restored them for good. -/
def settledTaskClosures (s : StateObject) : OrderedMap Nat CurrentTaskClosureRecord :=
  if currentTaskClosureOverlayNeedsRestore s then currentTaskClosureResultsFromHistory s
  else currentTaskClosureResults s

/-- The identity of the branch closure that a second repair validates. -/
def revalidatedIdentity (accepts : BranchClosureRecord → List CurrentTaskClosureRecord → Bool)
    (s : StateObject) : Option CurrentBranchClosureIdentity :=
  validatedCurrentBranchClosureIdentity accepts (settledTaskClosures s) s

/-- What a repair leaves of a milestone is settled: no record is named and nothing of one stands
in its fields, or the record that is named stands there already, is still named with the restored
task closures, and is passed over. -/
def MilestoneSettles (accepts : BranchClosureRecord → List CurrentTaskClosureRecord → Bool)
    (s : StateObject) (m : LateStageMilestone) : Option String → Prop
  | none => (jsonString (s m.recordIdField) = none → Unset s m.recordIdField) ∧
      ∀ f ∈ m.scalarFields, Unset s f
  | some id => ∃ current record, revalidatedIdentity accepts s = some current ∧
      lateStageRecordById m s id = some record ∧
      current.semanticReviewedStateId ≠ record.semanticReviewedStateId ∧ RecordShown m s record

/-- When a repair of the state settles it. -/
structure RepairSettles (accepts : BranchClosureRecord → List CurrentTaskClosureRecord → Bool)
    (s : StateObject) : Prop where
  closures : currentTaskClosureOverlayNeedsRestore s = true → ∀ (task : UInt32) record,
    (currentTaskClosureResultsFromHistory s).get? task.toNat = some record →
      record.closureStatus ≠ none
  negatives : taskClosureNegativeResultOverlayNeedsRestore s = true → ∀ (task : UInt32) record,
    (taskClosureNegativeResultsFromHistory s).get? task.toNat = some record →
      record.semanticReviewedStateId = none
  branch : validatedIdentity accepts s = none → ∀ current,
    revalidatedIdentity accepts s = some current → BranchShown current s
  milestones : ∀ m, MilestoneSettles accepts s m ((repairBindings accepts s).recordId m)

theorem taskClosureOverlay_settled_iff :
    currentTaskClosureOverlayNeedsRestore (restoreCurrentTaskClosureRecordsFromHistory s).2 =
        false ↔
      (currentTaskClosureOverlayNeedsRestore s = true → ∀ (task : UInt32) record,
        (currentTaskClosureResultsFromHistory s).get? task.toNat = some record →
          record.closureStatus ≠ none) := by
  refine taskClosureOverlay_lawful.settled_iff.trans ?_
  refine imp_congr_right fun _ => forall_congr' fun task => forall₂_congr fun record _ => ?_
  obtain ⟨_, _, _, _, _, _, _, _, _, _, _, _, _, _, status⟩ := record
  cases status <;> simp

theorem negativeResultOverlay_settled_iff :
    taskClosureNegativeResultOverlayNeedsRestore
        (restoreTaskClosureNegativeResultRecordsFromHistory s).2 = false ↔
      (taskClosureNegativeResultOverlayNeedsRestore s = true → ∀ (task : UInt32) record,
        (taskClosureNegativeResultsFromHistory s).get? task.toNat = some record →
          record.semanticReviewedStateId = none) := by
  refine negativeResultOverlay_lawful.settled_iff.trans ?_
  refine imp_congr_right fun _ => forall_congr' fun task => forall₂_congr fun record _ => ?_
  obtain ⟨_, _, semantic, _, _, _, _, _⟩ := record
  simp [eq_comm]

/-- What stands in the restored maps has to be restored again exactly when it is rewritten. -/
theorem recordsRestored_iff (hsame : SameRecords s s') (h : RecordsRestored s s') :
    (currentTaskClosureOverlayNeedsRestore s' = false ↔
      (currentTaskClosureOverlayNeedsRestore s = true → ∀ (task : UInt32) record,
        (currentTaskClosureResultsFromHistory s).get? task.toNat = some record →
          record.closureStatus ≠ none)) ∧
    (taskClosureNegativeResultOverlayNeedsRestore s' = false ↔
      (taskClosureNegativeResultOverlayNeedsRestore s = true → ∀ (task : UInt32) record,
        (taskClosureNegativeResultsFromHistory s).get? task.toNat = some record →
          record.semanticReviewedStateId = none)) := by
  have hframe : ∀ f, f ≠ .currentTaskClosureRecords →
      (restoreCurrentTaskClosureRecordsFromHistory s).2 f = s f :=
    fun f hf => taskClosureOverlay_lawful.restore_of_ne s hf
  constructor
  · rw [← taskClosureOverlay_settled_iff]
    refine Eq.congr_left (taskClosureOverlay_lawful.needsRestore_congr h.closures ?_)
    rw [hframe _ (by decide)]
    exact hsame.sources .taskClosureRecordHistory (by decide)
  · generalize hs₁ : (restoreCurrentTaskClosureRecordsFromHistory s).2 = s₁ at *
    have hneeded : taskClosureNegativeResultOverlayNeedsRestore s₁ =
        taskClosureNegativeResultOverlayNeedsRestore s :=
      negativeResultOverlay_lawful.needsRestore_congr (hframe _ (by decide)) (hframe _ (by decide))
    have hhistory : taskClosureNegativeResultsFromHistory s₁ =
        taskClosureNegativeResultsFromHistory s := by
      unfold taskClosureNegativeResultsFromHistory
      rw [hframe _ (by decide)]
    rw [← hneeded, ← hhistory, ← negativeResultOverlay_settled_iff]
    refine Eq.congr_left (negativeResultOverlay_lawful.needsRestore_congr ?_ ?_)
    · rw [h.negatives, hs₁]
    · rw [h.negativeHistory, ← hframe _ (by decide)]
      exact (negativeResultOverlay_lawful.restore_of_ne s₁ (by decide)).symm

/-- The current task closures of a state that is restored for good. -/
theorem currentTaskClosureResults_settled (hsame : SameRecords s s') (h : RecordsRestored s s')
    (hdone : currentTaskClosureOverlayNeedsRestore s' = false) :
    currentTaskClosureResults s' = settledTaskClosures s := by
  have hhistory : currentTaskClosureResultsFromHistory s' =
      currentTaskClosureResultsFromHistory s := by
    unfold currentTaskClosureResultsFromHistory
    rw [hsame.sources .taskClosureRecordHistory (by decide)]
  unfold settledTaskClosures
  by_cases hneeds : currentTaskClosureOverlayNeedsRestore s = true
  · rw [if_pos hneeds]
    have hraw : rawCurrentTaskClosureResults s' = currentTaskClosureResultsFromHistory s' := by
      by_contra hne
      have hneeds' := (taskClosureOverlay_needsRestore s').mpr
        ⟨hhistory ▸ ((taskClosureOverlay_needsRestore s).mp hneeds).1,
          rawCurrentTaskClosureResults_eq s' ▸ hne⟩
      rw [hdone] at hneeds'
      cases hneeds'
    refine OrderedMap.ext_get? fun task => ?_
    rw [currentTaskClosureResults, hraw, hhistory,
      OrderedMap.get?_foldl_insert _ _ _ (OrderedMap.nodup_keys _)]
    exact Option.or_self
  · have hkept := (taskClosureOverlay_lawful.restore_fst s).2 (Bool.eq_false_iff.mpr hneeds)
    have hmap : s' .currentTaskClosureRecords = s .currentTaskClosureRecords :=
      h.closures.trans (congrFun hkept _)
    rw [if_neg hneeds, currentTaskClosureResults, currentTaskClosureResults, hhistory,
      rawCurrentTaskClosureResults_eq, rawCurrentTaskClosureResults_eq, hmap]

/-- A state has one bound branch closure, so a repair that validates one validates that. -/
theorem validatedIdentity_eq {current current' : CurrentBranchClosureIdentity}
    (h : validatedIdentity accepts s = some current)
    (h' : revalidatedIdentity accepts s = some current') : current = current' :=
  Option.some.inj ((validated_bound h).symm.trans (validated_bound h'))

section

variable (hrepaired : Repaired accepts s s' actions)
  (hrevalidated : validatedIdentity accepts s' = revalidatedIdentity accepts s)
include hrepaired hrevalidated

/-- A record that is named has the semantic id of the branch closure in both states. -/
theorem Repaired.rewrites_iff {m : LateStageMilestone} {current : CurrentBranchClosureIdentity}
    {id : String} {record : LateStageRecord} (hcurrent : revalidatedIdentity accepts s = some current)
    (hnamed : (repairBindings accepts s).recordId m = some id)
    (hread : lateStageRecordById m s id = some record) :
    (Rewrites (validatedIdentity accepts s) s m (some id) ↔
      current.semanticReviewedStateId = record.semanticReviewedStateId) ∧
    (Rewrites (validatedIdentity accepts s') s' m (some id) ↔
      current.semanticReviewedStateId = record.semanticReviewedStateId) := by
  obtain ⟨current', hcurrent'⟩ := recordId_bound hnamed
  obtain rfl := validatedIdentity_eq hcurrent' hcurrent
  rw [hrepaired.same.rewrites, hrevalidated, hcurrent, hcurrent', and_self]
  constructor
  · rintro ⟨_, _, record', hidentity, hid, hread', hsemantic⟩
    cases hidentity
    cases hid
    cases hread.symm.trans hread'
    exact hsemantic
  · exact fun hsemantic => ⟨current', id, record, rfl, rfl, hread, hsemantic⟩

/-- **A milestone that stays as it is bound** settled. -/
theorem Repaired.settles {m : LateStageMilestone}
    (hshown : MilestoneShown s' m ((repairBindings accepts s').recordId m))
    (hquiet : jsonString (s' m.recordIdField) = (repairBindings accepts s').recordId m ∧
      ¬ Rewrites (validatedIdentity accepts s') s' m ((repairBindings accepts s').recordId m)) :
    MilestoneSettles accepts s m ((repairBindings accepts s).recordId m) := by
  have hstands := hrepaired.stands m
  have hnames : (repairBindings accepts s').recordId m = (repairBindings accepts s).recordId m :=
    hquiet.1.symm.trans hstands.id
  cases hnamed : (repairBindings accepts s).recordId m with
  | none =>
    rw [hnamed] at hnames hstands
    rw [hnames] at hshown
    obtain ⟨hkept, hcleared⟩ := hstands.unnamed rfl
    refine ⟨fun hid => ?_, fun f hf => ?_⟩
    · have hunset := hshown _ List.mem_cons_self
      rw [if_pos hid] at hcleared
      unfold Unset at hunset ⊢
      rwa [hcleared] at hunset
    · have hunset := hshown f (List.mem_cons_of_mem _ hf)
      unfold Unset at hunset ⊢
      rwa [hkept f hf] at hunset
  | some id =>
    rw [hnamed] at hnames hstands
    obtain ⟨current, hcurrent⟩ := recordId_bound hnames
    rw [hnames] at hshown hquiet
    obtain ⟨record, hread, _, hrecordShown⟩ := hshown
    rw [hrepaired.same.lateStageRecordById] at hread
    rw [hrevalidated] at hcurrent
    obtain ⟨hrewrites, hrewrites'⟩ := hrepaired.rewrites_iff hrevalidated hcurrent hnamed hread
    have hsemantic := fun heq => hquiet.2 (hrewrites'.mpr heq)
    refine ⟨current, record, hcurrent, hread, hsemantic, hrecordShown.congr fun f hf => ?_⟩
    exact (hstands.passedOver (nofun : some id ≠ none) (fun h => hsemantic (hrewrites.mp h)) f
      hf).symm

/-- The bindings of a state that settles are what it is bound to. -/
theorem Repaired.recordId_eq (m : LateStageMilestone) (hsettles : MilestoneSettles accepts s m
      ((repairBindings accepts s).recordId m)) :
    (repairBindings accepts s').recordId m = (repairBindings accepts s).recordId m := by
  cases hnamed : (repairBindings accepts s).recordId m with
  | some id =>
    rw [hnamed] at hsettles
    obtain ⟨current, _, hcurrent, _⟩ := hsettles
    obtain ⟨current', hcurrent'⟩ := recordId_bound hnamed
    obtain rfl := validatedIdentity_eq hcurrent' hcurrent
    have hsameIdentity : validatedIdentity accepts s' = validatedIdentity accepts s := by
      rw [hrevalidated, hcurrent, hcurrent']
    have hsettled := recordId_settled hrepaired.same (fun current h => by
      obtain ⟨hbranch, hreviewed, _⟩ := boundIdentity_named (validated_bound h)
      exact ⟨hbranch, hreviewed⟩) (Or.inr fun m => (hrepaired.stands m).id) m
    rw [← hnamed, repairBindings, hsameIdentity]
    exact hsettled
  | none =>
    refine Option.eq_none_iff_forall_ne_some.mpr fun id hid => ?_
    obtain ⟨current, hcurrent⟩ := recordId_bound hid
    obtain ⟨hbranch, hreviewed, _⟩ := boundIdentity_named (validated_bound hcurrent)
    rw [repairBindings, hcurrent] at hid
    have hbound := ((recordId_iff hbranch hreviewed).mp hid).1
    rw [(hrepaired.stands m).id, hnamed] at hbound
    cases hbound

/-- **A milestone that settles stays as it is bound.** -/
theorem Repaired.shown {m : LateStageMilestone} (hsettles : MilestoneSettles accepts s m
      ((repairBindings accepts s).recordId m)) :
    MilestoneShown s' m ((repairBindings accepts s').recordId m) ∧
      jsonString (s' m.recordIdField) = (repairBindings accepts s').recordId m ∧
      ¬ Rewrites (validatedIdentity accepts s') s' m ((repairBindings accepts s').recordId m) := by
  have hstands := hrepaired.stands m
  rw [hrepaired.recordId_eq hrevalidated m hsettles]
  cases hnamed : (repairBindings accepts s).recordId m with
  | none =>
    rw [hnamed] at hstands hsettles
    obtain ⟨hkept, hcleared⟩ := hstands.unnamed rfl
    refine ⟨fun f hf => ?_, hstands.id, fun ⟨_, _, _, _, hid, _⟩ => nomatch hid⟩
    unfold Unset
    rcases List.mem_cons.mp hf with rfl | hf
    · rw [hcleared]
      by_cases hid : jsonString (s m.recordIdField) = none
      · rw [if_pos hid]
        exact hsettles.1 hid
      · rw [if_neg hid]
        exact Or.inr rfl
    · rw [hkept f hf]
      exact hsettles.2 f hf
  | some id =>
    rw [hnamed] at hstands hsettles
    obtain ⟨current, record, hcurrent, hread, hsemantic, hrecordShown⟩ := hsettles
    obtain ⟨hrewrites, hrewrites'⟩ := hrepaired.rewrites_iff hrevalidated hcurrent hnamed hread
    refine ⟨⟨record, ?_, hstands.id, hrecordShown.congr fun f hf => ?_⟩, hstands.id,
      fun h => hsemantic (hrewrites'.mp h)⟩
    · rw [hrepaired.same.lateStageRecordById, hread]
    · exact hstands.passedOver (nofun : some id ≠ none) (fun h => hsemantic (hrewrites.mp h)) f hf

end

/-- **When a repair settles a state.** -/
theorem repair_settled_iff
    (h : restoreReviewStateProjectionOverlays accepts s = .ok (actions, s')) :
    RepairSettled accepts s' ↔ RepairSettles accepts s := by
  obtain ⟨_, _, hrun, hrepaired⟩ := exists_repaired accepts s
  cases h.symm.trans hrun
  obtain ⟨again, s'', hagain, hrepeated⟩ := exists_repaired accepts s'
  have hfixpoint : restoreReviewStateProjectionOverlays accepts s' = .ok ([], s') ↔
      RepairQuiet accepts s' := by
    rw [← hrepeated.quiet, hagain]
    constructor
    · intro heq
      cases heq
      rfl
    · intro hnil
      rw [hnil, hrepeated.unchanged hnil]
  obtain ⟨hclosures, hnegatives⟩ := recordsRestored_iff hrepaired.same hrepaired.records
  have hrevalidated : currentTaskClosureOverlayNeedsRestore s' = false →
      validatedIdentity accepts s' = revalidatedIdentity accepts s := fun hdone => by
    rw [validatedIdentity, revalidatedIdentity,
      currentTaskClosureResults_settled hrepaired.same hrepaired.records hdone,
      hrepaired.same.validated]
  constructor
  · rintro ⟨hshown, hsame⟩
    have hquiet := hfixpoint.mp hsame
    have hidentity := hrevalidated hquiet.closures
    exact
      { closures := hclosures.mp hquiet.closures
        negatives := hnegatives.mp hquiet.negatives
        branch := fun hnone current hcurrent => by
          rw [← hidentity] at hcurrent
          exact (hquiet.branch current hcurrent).congr fun f hf =>
            (hrepaired.branch.kept hnone f hf).symm
        milestones := fun m => hrepaired.settles hidentity (hshown m) (hquiet.milestones m) }
  · intro hsettles
    have hdone := hclosures.mpr hsettles.closures
    have hidentity := hrevalidated hdone
    have hstays := fun m => hrepaired.shown hidentity (hsettles.milestones m)
    refine ⟨fun m => (hstays m).1, hfixpoint.mpr ?_⟩
    exact
      { closures := hdone
        negatives := hnegatives.mpr hsettles.negatives
        branch := fun current hcurrent => by
          rw [hidentity] at hcurrent
          cases hvalidated : validatedIdentity accepts s with
          | none =>
            exact (hsettles.branch hvalidated current hcurrent).congr
              (hrepaired.branch.kept hvalidated)
          | some current' =>
            obtain rfl := validatedIdentity_eq hvalidated hcurrent
            exact hrepaired.branch.shown _ hvalidated
        milestones := fun m => (hstays m).2 }

/-! ### Two states -/

/-- A release readiness that is bound but lost from its history, and nothing else. -/
def lostReadiness : StateObject := fun f =>
  match f with
  | .currentReleaseReadinessRecordId => some (.str "release-readiness-1")
  | _ => none

/-- Once it is unbound, nothing is left to do. -/
theorem repair_settled_lostReadiness : RepairSettled (fun _ _ => true)
    (lostReadiness.set .currentReleaseReadinessRecordId .null) := by
  have hnamed : ∀ m, (repairBindings (fun _ _ => true) lostReadiness).recordId m = none := by
    intro m
    cases m <;> rfl
  have hrun : restoreReviewStateProjectionOverlays (fun _ _ => true) lostReadiness =
      .ok (["restored_current_release_readiness_overlay"],
        lostReadiness.set .currentReleaseReadinessRecordId .null) := rfl
  refine (repair_settled_iff hrun).mpr ?_
  exact
    { closures := fun h => absurd h (by decide)
      negatives := fun h => absurd h (by decide)
      branch := fun _ _ h => nomatch h
      milestones := fun m => by
        rw [hnamed m]
        cases m <;> exact ⟨by decide, by decide⟩ }

/-- A branch closure and a release readiness over it, both current, bound and shown. -/
def boundReadiness : StateObject := fun f =>
  match f with
  | .branchClosureRecords => some (.record [
    ("branch-closure-1", .record [
      ("branch_closure_id", .str "branch-closure-1"), ("closure_status", .str "current"),
      ("source_plan_path", .str "docs/plan.md"), ("source_plan_revision", .u64 1),
      ("repo_slug", .str "repo"), ("branch_name", .str "feature"), ("base_branch", .str "main"),
      ("effective_reviewed_branch_surface", .str "late_stage_surface_only:docs/release.md"),
      ("provenance_basis", .str "task_closure_lineage_plus_late_stage_surface_exemption"),
      ("source_task_closure_ids", strArr []), ("superseded_branch_closure_ids", strArr []),
      ("reviewed_state_id", .str "git_tree:1"),
      ("semantic_reviewed_state_id", .str "semantic:1"),
      ("contract_identity", .str "contract-1")])])
  | .releaseReadinessRecordHistory => some (.record [
    ("release-readiness-1", .record [
      ("record_id", .str "release-readiness-1"), ("record_status", .str "current"),
      ("branch_closure_id", .str "branch-closure-1"), ("source_plan_path", .str "docs/plan.md"),
      ("source_plan_revision", .u64 1), ("repo_slug", .str "repo"),
      ("branch_name", .str "feature"), ("base_branch", .str "main"),
      ("reviewed_state_id", .str "git_tree:1"),
      ("semantic_reviewed_state_id", .str "semantic:1"), ("result", .str "ready"),
      ("summary", .str "ready"), ("summary_hash", .str "hash-1"),
      ("generated_by_identity", .str "featureforge"),
      ("release_docs_fingerprint", .str "fingerprint-1")])])
  | .currentBranchClosureId => some (.str "branch-closure-1")
  | .currentBranchClosureReviewedStateId => some (.str "git_tree:1")
  | .currentBranchClosureContractIdentity => some (.str "contract-1")
  | .currentReleaseReadinessRecordId => some (.str "release-readiness-1")
  | .currentReleaseReadinessResult => some (.str "ready")
  | .currentReleaseReadinessSummaryHash => some (.str "hash-1")
  | .releaseDocsState => some (.str "fresh")
  | .lastReleaseDocsArtifactFingerprint => some (.str "fingerprint-1")
  | _ => none

theorem restoredAgain_boundReadiness :
    (restoreReviewStateProjectionOverlays (fun _ _ => true) boundReadiness >>= fun repaired =>
      restoreReviewStateProjectionOverlays (fun _ _ => true) repaired.2).map Prod.fst =
        .ok ["restored_current_release_readiness_overlay"] := by
  decide

/-- A repair of it is reported, and reported again. -/
theorem not_repair_settled_boundReadiness : ¬ ∀ actions s',
    restoreReviewStateProjectionOverlays (fun _ _ => true) boundReadiness = .ok (actions, s') →
      RepairSettled (fun _ _ => true) s' := by
  intro h
  obtain ⟨actions, s', hrun, _⟩ := exists_repaired (fun _ _ => true) boundReadiness
  have hagain := restoredAgain_boundReadiness
  rw [hrun] at hagain
  have hnothing : (restoreReviewStateProjectionOverlays (fun _ _ => true) s').map Prod.fst =
      .ok ["restored_current_release_readiness_overlay"] := hagain
  rw [(h actions s' hrun).fixpoint] at hnothing
  cases hnothing

end FeatureForge
