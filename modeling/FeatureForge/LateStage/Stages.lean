import FeatureForge.LateStage.Links

/-!
# The stages of a repair

A milestone is settled on the record that the bindings name (`settleMilestone_settled`): the state
is bound to it afterwards, and its fields are written if the record has the semantic id of the
branch closure.  A stage reports nothing only if it leaves the state as it is, but one that writes
a record reports it also where the fields had it already.
-/

namespace FeatureForge

variable {m : LateStageMilestone} {s s' : StateObject}
  {identity : Option CurrentBranchClosureIdentity} {named : Option String} {actions : List String}

/-- The record that is named has the semantic id of the branch closure, and is written out. -/
def Rewrites (identity : Option CurrentBranchClosureIdentity) (s : StateObject)
    (m : LateStageMilestone) (named : Option String) : Prop :=
  ∃ current id record, identity = some current ∧ named = some id ∧
    lateStageRecordById m s id = some record ∧
    current.semanticReviewedStateId = record.semanticReviewedStateId

/-- How a milestone stands after a repair. -/
structure MilestoneStands (identity : Option CurrentBranchClosureIdentity) (s s' : StateObject)
    (m : LateStageMilestone) (named : Option String) : Prop where
  id : jsonString (s' m.recordIdField) = named
  /-- where no record is named, the id is cleared and nothing else -/
  unnamed : named = none → (∀ f ∈ m.scalarFields, s' f = s f) ∧ s' m.recordIdField =
    if jsonString (s m.recordIdField) = none then s m.recordIdField else some .null
  written : Rewrites identity s m named → ∀ id record, named = some id →
    lateStageRecordById m s id = some record → RecordShown m s' record
  passedOver : named ≠ none → ¬ Rewrites identity s m named → ∀ f ∈ m.scalarFields, s' f = s f

/-- What a stage does with its milestone, and what it reports. -/
structure MilestoneSettled (identity : Option CurrentBranchClosureIdentity) (s s' : StateObject)
    (m : LateStageMilestone) (named : Option String) (actions : List String) : Prop
    extends MilestoneStands identity s s' m named where
  frame : ∀ f ∉ m.touchedFields, s' f = s f
  quiet : actions = [] ↔ jsonString (s m.recordIdField) = named ∧ ¬ Rewrites identity s m named
  unchanged : actions = [] → s' = s

theorem recordIdField_not_scalar (m : LateStageMilestone) : m.recordIdField ∉ m.scalarFields := by
  cases m <;> decide

theorem settleMilestone_none (m : LateStageMilestone) (s : StateObject)
    (identity : Option CurrentBranchClosureIdentity) :
    ∃ actions s', settleMilestone m none s = .ok (actions, s') ∧
      MilestoneSettled identity s s' m none actions := by
  have hrewrites : ¬ Rewrites identity s m none := fun ⟨_, _, _, _, hnamed, _⟩ => nomatch hnamed
  by_cases hid : jsonString (s m.recordIdField) = none
  · refine ⟨[], s, ?_, ?_⟩
    · unfold settleMilestone
      simp only [hid]
      rfl
    · exact
        { id := hid
          frame := fun _ _ => rfl
          unnamed := fun _ => ⟨fun _ _ => rfl, (if_pos hid).symm⟩
          written := fun h => absurd h hrewrites
          passedOver := fun _ _ _ _ => rfl
          quiet := iff_of_true rfl ⟨hid, hrewrites⟩
          unchanged := fun _ => rfl }
  · refine ⟨[m.restoredAction], s.set m.recordIdField .null, ?_, ?_⟩
    · unfold settleMilestone
      simp only [ne_eq, hid, not_false_eq_true, if_true]
      rfl
    · refine
        { id := by rw [set_self]; rfl
          frame := fun f hf => set_of_ne _ _ fun heq => hf (heq ▸ recordIdField_touched m)
          unnamed := fun _ => ⟨fun f hf => set_of_ne _ _ fun heq => ?_, by rw [set_self, if_neg hid]⟩
          written := fun h => absurd h hrewrites
          passedOver := fun h => absurd rfl h
          quiet := iff_of_false (List.cons_ne_nil _ _) fun h => hid h.1
          unchanged := fun h => absurd h (List.cons_ne_nil _ _) }
      exact recordIdField_not_scalar m (heq ▸ hf)

theorem RecordBound.settleMilestone {current : CurrentBranchClosureIdentity} {id : String}
    {record : LateStageRecord} (h : RecordBound m s current id record) :
    ∃ actions s', FeatureForge.settleMilestone m (some id) s = .ok (actions, s') ∧
      MilestoneSettled (some current) s s' m (some id) actions := by
  obtain ⟨s', hrestore, hpassed, hwritten, hframe⟩ := h.restore
  have hrewrites : Rewrites (some current) s m (some id) ↔
      current.semanticReviewedStateId = record.semanticReviewedStateId := by
    constructor
    · rintro ⟨_, _, record', hcurrent, hid, hread, hsemantic⟩
      cases hcurrent
      cases hid
      cases h.read.symm.trans hread
      exact hsemantic
    · exact fun hsemantic => ⟨current, id, record, rfl, rfl, h.read, hsemantic⟩
  refine ⟨if current.semanticReviewedStateId = record.semanticReviewedStateId then
    [m.restoredAction] else [], s', ?_, ?_⟩
  · unfold FeatureForge.settleMilestone
    simp only [h.bound, ne_eq, not_true_eq_false, if_false, Option.isSome_some, if_true, false_or]
    show (m.restore s >>= _) = _
    rw [hrestore]
    exact congrArg (fun actions => Except.ok (actions, s'))
      (if_congr decide_eq_true_iff rfl rfl)
  · by_cases hsemantic : current.semanticReviewedStateId = record.semanticReviewedStateId
    · rw [if_pos hsemantic]
      exact
        { id := (hwritten hsemantic).2
          frame := hframe
          unnamed := nofun
          written := fun _ id' record' hid hread => by
            cases hid
            cases h.read.symm.trans hread
            exact (hwritten hsemantic).1
          passedOver := fun _ hnot => absurd (hrewrites.mpr hsemantic) hnot
          quiet := iff_of_false (List.cons_ne_nil _ _) fun hq => hq.2 (hrewrites.mpr hsemantic)
          unchanged := fun hq => absurd hq (List.cons_ne_nil _ _) }
    · rw [if_neg hsemantic]
      obtain rfl := hpassed hsemantic
      exact
        { id := h.bound
          frame := fun _ _ => rfl
          unnamed := nofun
          written := fun hrewritten => absurd (hrewrites.mp hrewritten) hsemantic
          passedOver := fun _ _ _ _ => rfl
          quiet := iff_of_true rfl ⟨h.bound, fun hrewritten => hsemantic (hrewrites.mp hrewritten)⟩
          unchanged := fun _ => rfl }

/-! ### The stages in order -/

/-- The fields that say how a milestone stands. -/
def LateStageMilestone.ownFields (m : LateStageMilestone) : List Field :=
  m.recordIdField :: m.scalarFields

theorem ownFields_touched {m m' : LateStageMilestone} (h : m ≠ m') :
    ∀ f ∈ m.ownFields, f ∉ m'.touchedFields := by
  cases m <;> cases m' <;> first | exact absurd rfl h | decide

theorem bindingSources_touched (m : LateStageMilestone) :
    ∀ f ∈ bindingSources, f ∉ m.touchedFields := by
  cases m <;> decide

theorem SameRecords.of_frame (h : ∀ f ∉ m.touchedFields, s' f = s f) : SameRecords s s' where
  sources f hf := h f (bindingSources_touched m f hf)
  currentBranchClosureId := by rw [h .currentBranchClosureId (by cases m <;> decide)]

theorem SameRecords.trans {s'' : StateObject} (h : SameRecords s s') (h' : SameRecords s' s'') :
    SameRecords s s'' where
  sources f hf := (h'.sources f hf).trans (h.sources f hf)
  currentBranchClosureId := h'.currentBranchClosureId.trans h.currentBranchClosureId

theorem SameRecords.rewrites (h : SameRecords s s') :
    Rewrites identity s' m named ↔ Rewrites identity s m named := by
  unfold Rewrites
  simp only [h.lateStageRecordById]

/-- A stage says how its milestone stands in the end, as no other stage touches its fields. -/
theorem MilestoneStands.within {t t' : StateObject} (h : MilestoneStands identity t t' m named)
    (hrecords : SameRecords s t) (hbefore : ∀ f ∈ m.ownFields, t f = s f)
    (hafter : ∀ f ∈ m.ownFields, s' f = t' f) : MilestoneStands identity s s' m named := by
  have hid : m.recordIdField ∈ m.ownFields := List.mem_cons_self
  have hscalar : ∀ f ∈ m.scalarFields, f ∈ m.ownFields := fun f hf => List.mem_cons_of_mem _ hf
  constructor
  · rw [hafter _ hid]
    exact h.id
  · intro hnamed
    obtain ⟨hkept, hcleared⟩ := h.unnamed hnamed
    refine ⟨fun f hf => ?_, ?_⟩
    · rw [hafter f (hscalar f hf), hkept f hf, hbefore f (hscalar f hf)]
    · rw [hafter _ hid, hcleared, hbefore _ hid]
  · intro hrewrites id record hnamed hread
    rw [← hrecords.lateStageRecordById] at hread
    refine (h.written (hrecords.rewrites.mpr hrewrites) id record hnamed hread).congr fun f hf => ?_
    exact hafter f (hscalar f hf)
  · intro hnamed hrewrites f hf
    rw [hafter f (hscalar f hf), h.passedOver hnamed (fun hr => hrewrites (hrecords.rewrites.mp hr))
      f hf, hbefore f (hscalar f hf)]

theorem boundIdentity_named {current : CurrentBranchClosureIdentity}
    (h : boundCurrentBranchClosureIdentity s = some current) :
    Named current.branchClosureId ∧ Named current.reviewedStateId ∧
      Named current.contractIdentity := by
  obtain ⟨branchClosureId, hid, h⟩ := Option.bind_eq_some_iff.mp h
  obtain ⟨record, hrecord, rfl⟩ := Option.map_eq_some_iff.mp h
  obtain ⟨payload, _, hread⟩ := Option.bind_eq_some_iff.mp hrecord
  unfold branchClosureRecordFromPayload at hread
  obtain ⟨_, _, hread⟩ := Option.bind_eq_some_iff.mp hread
  obtain ⟨_, _, hread⟩ := Option.bind_eq_some_iff.mp hread
  obtain ⟨_, _, hread⟩ := Option.bind_eq_some_iff.mp hread
  obtain ⟨_, _, hread⟩ := Option.bind_eq_some_iff.mp hread
  obtain ⟨_, _, hread⟩ := Option.bind_eq_some_iff.mp hread
  obtain ⟨_, _, hread⟩ := Option.bind_eq_some_iff.mp hread
  obtain ⟨_, _, hread⟩ := Option.bind_eq_some_iff.mp hread
  obtain ⟨_, _, hread⟩ := Option.bind_eq_some_iff.mp hread
  obtain ⟨_, _, hread⟩ := Option.bind_eq_some_iff.mp hread
  obtain ⟨_, _, hread⟩ := Option.bind_eq_some_iff.mp hread
  obtain ⟨_, _, hread⟩ := Option.bind_eq_some_iff.mp hread
  obtain ⟨_, _, hread⟩ := Option.bind_eq_some_iff.mp hread
  obtain ⟨_, _, hread⟩ := Option.bind_eq_some_iff.mp hread
  obtain ⟨_, _, hread⟩ := Option.bind_eq_some_iff.mp hread
  obtain ⟨_, hreviewed, hread⟩ := Option.bind_eq_some_iff.mp hread
  obtain ⟨_, hcontract, hread⟩ := Option.bind_eq_some_iff.mp hread
  cases hread
  exact ⟨trimmed_of_nonBlank hid, trimmed_of_nonBlank hreviewed, trimmed_of_nonBlank hcontract⟩

/-- The bindings of a state under the identity of its branch closure. -/
def identityBindings (identity : Option CurrentBranchClosureIdentity) (s : StateObject) :
    CurrentLateStageBranchBindings :=
  currentLateStageBranchBindings s (identity.map CurrentBranchClosureIdentity.branchClosureId)
    (identity.map CurrentBranchClosureIdentity.reviewedStateId)

section

variable (hidentity : ∀ current, identity = some current →
  boundCurrentBranchClosureIdentity s = some current)
include hidentity

/-- A record that the bindings name is one that its stage finds bound. -/
theorem recordBound_of_named {t : StateObject} {id : String} (hrecords : SameRecords s t)
    (hid : jsonString (t m.recordIdField) = jsonString (s m.recordIdField))
    (hprevious : ∀ key previous, m.predecessor = some (key, previous) →
      jsonString (t previous.recordIdField) = (identityBindings identity s).recordId previous)
    (hnamed : (identityBindings identity s).recordId m = some id) :
    ∃ current record, identity = some current ∧ RecordBound m t current id record := by
  obtain ⟨current, rfl⟩ := recordId_bound hnamed
  have hcurrent := hidentity current rfl
  obtain ⟨hbranch, hreviewed, _⟩ := boundIdentity_named hcurrent
  obtain ⟨hbound, branch, record, _, _, hread, hadmitted⟩ :=
    (recordId_iff hbranch hreviewed).mp hnamed
  have hadmits := hadmitted
  simp only [milestoneAdmitted, Bool.and_eq_true, decide_eq_true_eq] at hadmits
  refine ⟨current, record, rfl, ?_⟩
  exact
    { read := (hrecords.lateStageRecordById m id).trans hread
      bound := hid.trans hbound
      recordStatus := hadmits.1.1.1
      branch := hrecords.boundIdentity.trans hcurrent
      branchClosureId := hadmits.1.1.2
      predecessor := fun key previous hpredecessor => by
        obtain ⟨previousId, hpreviousId, hover⟩ := previous_of_admitted hpredecessor hadmitted
        refine ⟨previousId, ?_, hover⟩
        rw [hprevious key previous hpredecessor]
        rw [CurrentLateStageBranchBindings.previousRecordId, hpredecessor] at hpreviousId
        exact hpreviousId }

theorem exists_settleMilestone {t : StateObject} (hrecords : SameRecords s t)
    (hid : jsonString (t m.recordIdField) = jsonString (s m.recordIdField))
    (hprevious : ∀ key previous, m.predecessor = some (key, previous) →
      jsonString (t previous.recordIdField) = (identityBindings identity s).recordId previous) :
    ∃ actions t', settleMilestone m ((identityBindings identity s).recordId m) t =
        .ok (actions, t') ∧
      MilestoneSettled identity t t' m ((identityBindings identity s).recordId m) actions := by
  cases hnamed : (identityBindings identity s).recordId m with
  | none => exact settleMilestone_none m t identity
  | some id =>
    obtain ⟨current, record, rfl, hbound⟩ :=
      recordBound_of_named hidentity hrecords hid hprevious hnamed
    exact hbound.settleMilestone

end

/-- How the three milestones stand after their stages, and what the stages report. -/
structure MilestonesSettled (identity : Option CurrentBranchClosureIdentity) (s s' : StateObject)
    (actions : List String) : Prop where
  stands : ∀ m, MilestoneStands identity s s' m ((identityBindings identity s).recordId m)
  frame : ∀ f, (∀ m : LateStageMilestone, f ∉ m.touchedFields) → s' f = s f
  quiet : actions = [] ↔ ∀ m : LateStageMilestone,
    jsonString (s m.recordIdField) = (identityBindings identity s).recordId m ∧
      ¬ Rewrites identity s m ((identityBindings identity s).recordId m)
  unchanged : actions = [] → s' = s

/-- **The stages settle the milestones.** -/
theorem exists_settleMilestones (hidentity : ∀ current, identity = some current →
    boundCurrentBranchClosureIdentity s = some current) :
    ∃ release review qa s₁ s₂ s₃,
      settleMilestone .releaseReadiness
        (identityBindings identity s).currentReleaseReadinessRecordId s = .ok (release, s₁) ∧
      settleMilestone .finalReview
        (identityBindings identity s).currentFinalReviewRecordId s₁ = .ok (review, s₂) ∧
      settleMilestone .browserQa (identityBindings identity s).currentQaRecordId s₂ =
        .ok (qa, s₃) ∧
      MilestonesSettled identity s s₃ (release ++ review ++ qa) := by
  have hframe : ∀ {m : LateStageMilestone} {t t' : StateObject},
      (∀ f ∉ m.touchedFields, t' f = t f) → ∀ m' ≠ m, ∀ f ∈ m'.ownFields, t' f = t f :=
    fun h m' hne f hf => h f (ownFields_touched hne f hf)
  have hown : ∀ {m : LateStageMilestone}, m.recordIdField ∈ m.ownFields := List.mem_cons_self
  obtain ⟨release, s₁, hrelease, h₁⟩ := exists_settleMilestone (m := .releaseReadiness) hidentity
    ⟨fun _ _ => rfl, rfl⟩ rfl nofun
  have hrecords₁ := SameRecords.of_frame h₁.frame
  have hid₂ : jsonString (s₁ LateStageMilestone.finalReview.recordIdField) =
      jsonString (s LateStageMilestone.finalReview.recordIdField) :=
    congrArg jsonString (hframe h₁.frame _ (by decide) _ hown)
  obtain ⟨review, s₂, hreview, h₂⟩ := exists_settleMilestone (m := .finalReview) hidentity hrecords₁
    hid₂ (by
      rintro _ _ ⟨⟩
      exact h₁.id)
  have hrecords₂ := hrecords₁.trans (SameRecords.of_frame h₂.frame)
  have hid₃ : jsonString (s₂ LateStageMilestone.browserQa.recordIdField) =
      jsonString (s LateStageMilestone.browserQa.recordIdField) :=
    congrArg jsonString ((hframe h₂.frame _ (by decide) _ hown).trans
      (hframe h₁.frame _ (by decide) _ hown))
  obtain ⟨qa, s₃, hqa, h₃⟩ := exists_settleMilestone (m := .browserQa) hidentity hrecords₂ hid₃ (by
    rintro _ _ ⟨⟩
    exact h₂.id)
  refine ⟨release, review, qa, s₁, s₂, s₃, hrelease, hreview, hqa, ?_, ?_, ?_, ?_⟩
  · intro m
    cases m with
    | releaseReadiness =>
      refine h₁.within ⟨fun _ _ => rfl, rfl⟩ (fun _ _ => rfl) fun f hf => ?_
      rw [hframe h₃.frame _ (by decide) f hf, hframe h₂.frame _ (by decide) f hf]
    | finalReview =>
      exact h₂.within hrecords₁ (hframe h₁.frame _ (by decide)) (hframe h₃.frame _ (by decide))
    | browserQa =>
      refine h₃.within hrecords₂ (fun f hf => ?_) fun _ _ => rfl
      rw [hframe h₂.frame _ (by decide) f hf, hframe h₁.frame _ (by decide) f hf]
  · intro f hf
    rw [h₃.frame f (hf _), h₂.frame f (hf _), h₁.frame f (hf _)]
  · rw [List.append_eq_nil_iff, List.append_eq_nil_iff, h₁.quiet, h₂.quiet, h₃.quiet,
      hrecords₁.rewrites, hrecords₂.rewrites, hid₂, hid₃]
    constructor
    · rintro ⟨⟨hrelease, hreview⟩, hqa⟩ m
      cases m with
      | releaseReadiness => exact hrelease
      | finalReview => exact hreview
      | browserQa => exact hqa
    · exact fun h => ⟨⟨h .releaseReadiness, h .finalReview⟩, h .browserQa⟩
  · intro hquiet
    obtain ⟨hearlier, hqaNil⟩ := List.append_eq_nil_iff.mp hquiet
    obtain ⟨hreleaseNil, hreviewNil⟩ := List.append_eq_nil_iff.mp hearlier
    rw [h₃.unchanged hqaNil, h₂.unchanged hreviewNil, h₁.unchanged hreleaseNil]

end FeatureForge
