import FeatureForge.Lib.Register
import FeatureForge.Transitions.Milestones

/-!
# Which milestone is current

Every history of milestones is a `Register`: its entries are retired, save the one that
the current id of the milestone names.  A recording files its record where the one
before it has been marked, and the recordings upstream of a milestone, like the clear of
a structural repair, mark the current record and drop its bindings
(`milestones_apply`).  From there `milestone_currency`, over every run.
-/

namespace FeatureForge

/-! ### Reading a changed payload -/

theorem bind_ok {α β : Type} {x : Except JsonFailure α} {g : α → Except JsonFailure β} {b : β}
    (h : (x >>= g) = .ok b) : ∃ a, x = .ok a ∧ g a = .ok b := by
  cases x with
  | error failure => cases h
  | ok a => exact ⟨a, rfl, h⟩

theorem recordsMut_ok {f : Field} {s : StateObject} {m : Object} (h : recordsMut f s = .ok m) :
    m = objectEntries (s f) := by
  unfold recordsMut at h
  cases hf : s f with
  | none =>
    rw [hf] at h
    cases h
    rfl
  | some v =>
    rw [hf] at h
    cases hv : v.asObject with
    | none =>
      simp only [hv] at h
      cases h
    | some m' =>
      simp only [hv] at h
      cases h
      rw [Json.asObject_eq_some.mp hv, objectEntries_obj]

/-- The records after those of an id, if there is one, have been marked. -/
def marked (previous : Option String) (status : String) (m : Object) : Object :=
  previous.elim m fun id => markRecordStatus m id status

theorem markPrevious_ok {f : Field} {previous : Option String} {status : String}
    {s s' : StateObject} (h : markPrevious f previous status s = .ok s') :
    (∀ g, g ≠ f → s' g = s g) ∧
      objectEntries (s' f) = marked previous status (objectEntries (s f)) := by
  unfold markPrevious at h
  cases previous with
  | none =>
    cases h
    exact ⟨fun _ _ => rfl, rfl⟩
  | some id =>
    obtain ⟨m, hm, h⟩ := bind_ok h
    cases h
    refine ⟨fun g hg => ?_, ?_⟩
    · rw [set_of_ne _ _ hg]
    · rw [set_self, objectEntries_obj, recordsMut_ok hm]
      rfl

theorem markPrevious_if_ok {f : Field} {previous : Option String} {status : String} {c : Bool}
    {s s' : StateObject}
    (h : (if c then markPrevious f previous status s else .ok s) = .ok s') :
    (∀ g, g ≠ f → s' g = s g) ∧
      objectEntries (s' f) =
        if c then marked previous status (objectEntries (s f)) else objectEntries (s f) := by
  cases c with
  | true => exact markPrevious_ok h
  | false =>
    cases h
    exact ⟨fun _ _ => rfl, rfl⟩

theorem archive_ok {sha : Sha256Hex} {now status : String} {s s' : StateObject}
    (h : archiveFinalReviewDispatchLineageRecord sha now status s = .ok s') :
    ∀ g, g ≠ .finalReviewDispatchLineageHistory → s' g = s g := by
  unfold archiveFinalReviewDispatchLineageRecord at h
  intro g hg
  cases hlineage : (s .finalReviewDispatchLineage).bind Json.asObject with
  | none =>
    simp only [hlineage] at h
    cases h
    rfl
  | some current =>
    simp only [hlineage] at h
    split at h
    · cases h
      rfl
    · obtain ⟨m, _, h⟩ := bind_ok h
      cases h
      rw [set_of_ne _ _ hg]

theorem archive_if_ok {sha : Sha256Hex} {now status : String} {c : Bool} {s s' : StateObject}
    (h : (if c then archiveFinalReviewDispatchLineageRecord sha now status s else .ok s) = .ok s') :
    ∀ g, g ≠ .finalReviewDispatchLineageHistory → s' g = s g := by
  cases c with
  | true => exact archive_ok h
  | false =>
    cases h
    exact fun _ _ => rfl

theorem appendUniqueStringArray_ok {f : Field} {values : List String} {s s' : StateObject}
    (h : appendUniqueStringArray f values s = .ok s') : ∀ g, g ≠ f → s' g = s g := by
  unfold appendUniqueStringArray at h
  intro g hg
  cases hitems : ((s f).getD (.arr [])).asArray with
  | none =>
    simp only [hitems] at h
    cases h
  | some items =>
    simp only [hitems] at h
    cases h
    rw [set_of_ne _ _ hg]

/-! ### Status -/

/-- A record with current status. -/
def IsCurrent (v : Json) : Prop :=
  v.get? "record_status" = some (.str "current") ∨ v.get? "closure_status" = some (.str "current")

/-- A record that is no longer current. -/
def IsSuperseded (v : Json) : Prop := ¬ IsCurrent v

def IsHistorical (v : Json) : Prop :=
  v.get? "record_status" = some (.str "historical") ∧
    v.get? "closure_status" ≠ some (.str "current")

theorem IsHistorical.superseded {v : Json} (h : IsHistorical v) : IsSuperseded v := by
  rintro (hc | hc)
  · rw [h.1] at hc
    exact absurd (Json.str_injective (Option.some.inj hc)) (by decide)
  · exact h.2 hc

/-- An entry after it has been marked. -/
def markEntry (status : String) (record : Object) : Object :=
  setStatus "record_status" status
    (if record.contains "closure_status" then setStatus "closure_status" status record else record)

theorem markEntry_recordStatus (status : String) (record : Object) :
    (Json.obj (markEntry status record)).get? "record_status" = some (.str status) := by
  rw [Json.get?_obj, markEntry, setStatus, OrderedMap.get?_insert_self]

theorem markEntry_closureStatus (status : String) (record : Object) :
    (Json.obj (markEntry status record)).get? "closure_status" = none ∨
      (Json.obj (markEntry status record)).get? "closure_status" = some (.str status) := by
  rw [Json.get?_obj, markEntry, setStatus, OrderedMap.get?_insert_of_ne _ _ (by decide)]
  split_ifs with hc
  · right
    rw [setStatus, OrderedMap.get?_insert_self]
  · left
    cases hget : record.get? "closure_status" with
    | none => rfl
    | some v => exact absurd (OrderedMap.contains_eq_true.mpr ⟨v, hget⟩) hc

theorem superseded_markEntry {status : String} (h : status ≠ "current") (record : Object) :
    IsSuperseded (.obj (markEntry status record)) := by
  rintro (hc | hc)
  · rw [markEntry_recordStatus] at hc
    exact h (Json.str_injective (Option.some.inj hc))
  · rcases markEntry_closureStatus status record with hnone | hsome
    · rw [hnone] at hc
      cases hc
    · rw [hsome] at hc
      exact h (Json.str_injective (Option.some.inj hc))

theorem historical_markEntry (record : Object) :
    IsHistorical (.obj (markEntry "historical" record)) := by
  refine ⟨markEntry_recordStatus _ _, fun hc => ?_⟩
  rcases markEntry_closureStatus "historical" record with hnone | hsome
  · rw [hnone] at hc
    cases hc
  · rw [hsome] at hc
    exact absurd (Json.str_injective (Option.some.inj hc)) (by decide)

/-! ### Histories -/

/-- The entries of a history are objects. -/
def Objects (m : Object) : Prop := ∀ k v, m.get? k = some v → ∃ record : Object, v = .obj record

theorem objects_empty : Objects OrderedMap.empty := fun _ _ h => by cases h

theorem Objects.insert {m : Object} (h : Objects m) (k : String) (record : Object) :
    Objects (m.insert k (.obj record)) := by
  intro k' v hv
  rw [OrderedMap.get?_insert] at hv
  split_ifs at hv
  · cases hv
    exact ⟨record, rfl⟩
  · exact h k' v hv

theorem markRecordStatus_get? {m : Object} (h : Objects m) (id status k : String) :
    ∀ v, m.get? k = some v → ∃ record : Object, v = .obj record ∧
      (markRecordStatus m id status).get? k =
        some (if recordEntryMatchesId k v id then .obj (markEntry status record) else v) := by
  intro v hv
  obtain ⟨record, rfl⟩ := h k v hv
  refine ⟨record, rfl, ?_⟩
  rw [markRecordStatus, OrderedMap.get?_mapVal, hv, Option.map_some]
  split_ifs with hm
  · simp only [Json.asObject_obj]
    rfl
  · rfl

theorem Objects.mark {m : Object} (h : Objects m) (id status : String) :
    Objects (markRecordStatus m id status) := by
  intro k v' hv'
  rw [markRecordStatus, OrderedMap.get?_mapVal, Option.map_eq_some_iff] at hv'
  obtain ⟨v, hv, rfl⟩ := hv'
  obtain ⟨record, rfl⟩ := h k v hv
  split_ifs
  · simp only [Json.asObject_obj]
    exact ⟨_, rfl⟩
  · exact ⟨record, rfl⟩

/-- What being retired needs of a mark. -/
def RetiredBy (status : String) (retired : Json → Prop) : Prop :=
  ∀ record, retired (.obj (markEntry status record))

/-- **Marking the current record retires all.** -/
theorem Register.mark {retired : Json → Prop} {m : Object} {previous : Option String}
    (h : Register retired m previous) (ho : Objects m) {status : String}
    (hr : RetiredBy status retired) : Register retired (marked previous status m) none := by
  cases previous with
  | none => exact h
  | some id =>
    rw [FeatureForge.marked, Option.elim_some, markRecordStatus]
    refine Register.retire h (fun k v hv hret => ?_) fun v hv => ?_
    · obtain ⟨record, rfl⟩ := ho k v hv
      split_ifs
      · rw [Json.asObject_obj]
        exact hr record
      · exact hret
    · obtain ⟨record, rfl⟩ := ho id v hv
      rw [recordEntryMatchesId, beq_self_eq_true, Bool.true_or, if_pos rfl, Json.asObject_obj]
      exact hr record

theorem Objects.marked {m : Object} (h : Objects m) (previous : Option String) (status : String) :
    Objects (marked previous status m) := by
  cases previous with
  | none => exact h
  | some id => exact h.mark id status

/-- A history whose entries are retired, save the one the current id names. -/
structure Milestone (retired : Json → Prop) (f current : Field) (s : StateObject) : Prop where
  objects : Objects (objectEntries (s f))
  register : Register retired (objectEntries (s f)) (jsonString (s current))

section

variable {retired : Json → Prop} {f current : Field} {s s' : StateObject}

theorem Milestone.kept (h : Milestone retired f current s)
    (hf : objectEntries (s' f) = objectEntries (s f))
    (hc : jsonString (s' current) = jsonString (s current)) : Milestone retired f current s' where
  objects := by rw [hf]; exact h.objects
  register := by rw [hf, hc]; exact h.register

/-- The current record marked, and its id dropped. -/
structure Fallen (status : String) (f current : Field) (s s' : StateObject) : Prop where
  history : objectEntries (s' f) = marked (jsonString (s current)) status (objectEntries (s f))
  id : jsonString (s' current) = none

theorem Milestone.fallen (h : Milestone retired f current s) {status : String}
    (hr : RetiredBy status retired) (hf : Fallen status f current s s') :
    Milestone retired f current s' ∧ Register retired (objectEntries (s' f)) none := by
  have hreg : Register retired (objectEntries (s' f)) none := by
    rw [hf.history]
    exact h.register.mark h.objects hr
  refine ⟨⟨?_, ?_⟩, hreg⟩
  · rw [hf.history]
    exact h.objects.marked _ _
  · rw [hf.id]
    exact hreg

/-- A record filed, the one before it marked if it is another one. -/
structure Filed (status : String) (f current : Field) (s s' : StateObject) : Prop where
  filed : ∃ recordId record, jsonString (s' current) = some recordId ∧
    objectEntries (s' f) =
      (if jsonString (s current) = some recordId then objectEntries (s f)
        else marked (jsonString (s current)) status (objectEntries (s f))).insert recordId
          (.obj record)

theorem Milestone.filed (h : Milestone retired f current s) {status : String}
    (hr : RetiredBy status retired) (hf : Filed status f current s s') :
    Milestone retired f current s' := by
  obtain ⟨recordId, record, hid, hhist⟩ := hf.filed
  by_cases hsame : jsonString (s current) = some recordId
  · rw [if_pos hsame] at hhist
    refine ⟨?_, ?_⟩
    · rw [hhist]
      exact h.objects.insert _ _
    · rw [hhist, hid]
      exact h.register.insert (Or.inr hsame) _
  · rw [if_neg hsame] at hhist
    refine ⟨?_, ?_⟩
    · rw [hhist]
      exact (h.objects.marked _ _).insert _ _
    · rw [hhist, hid]
      exact (h.register.mark h.objects hr).insert (Or.inl rfl) _

end

end FeatureForge
