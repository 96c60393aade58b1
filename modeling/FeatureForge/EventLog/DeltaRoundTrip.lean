import FeatureForge.EventLog.Delta

/-!
# Deltas of state objects

The facts that `collect_changed_authoritative_fields` takes from two states, as
objects with any members, and what `apply_authoritative_fields` makes of them.  The
members that are not authoritative fields have no facts; on the fields the two
functions are those of the reducer (`stateOf_applyFields`).

A member that is null reads as absent, and so does an empty record map
(`memberValue`).  Up to that the facts lead from the first state to the second at the
members they were collected for, and nowhere else (`delta_round_trip`).
-/

namespace FeatureForge

/-- The fields of an object. -/
def stateOf (o : Object) : StateObject := fun f => o.get? f.name

/-- `record_map_delta_field`. -/
def recordMapDeltaField (key : String) : Bool := (recordMapDeltaFields.map Field.name).contains key

/-- `authoritative_event_field_allowed`. -/
def authoritativeEventFieldAllowed (key : String) : Bool :=
  (authoritativeEventFields.map Field.name).contains key

/-- `set_field_value` has a slot for the key. -/
def factSlot (key : String) : Bool := (authoritativeFactFields.map Field.name).contains key

/-- `changed_authoritative_field_value`. -/
def changedFieldValue (before after : Object) (key : String) : Option Json :=
  if before.get? key = after.get? key then none
  else if recordMapDeltaField key then
    some (changedRecordMapEntries (before.get? key) (after.get? key))
  else some ((after.get? key).getD .null)

/-- `collect_changed_authoritative_fields`: the facts that have a slot. -/
def collectChangedFields (before after : Object) (fields : List String) : Object :=
  .ofList ((fields.filter fun key => authoritativeEventFieldAllowed key && factSlot key).filterMap
    fun key => (changedFieldValue before after key).map (key, ·))

/-- What a fact does to its member. -/
def applyField (target : Object) (key : String) (value : Json) : Object :=
  if value.isNull then target.erase key
  else if recordMapDeltaField key then
    target.insert key (applyRecordMapDelta (target.get? key) value)
  else target.insert key value

/-- `apply_authoritative_fields`. -/
def applyFields (target facts : Object) : Object :=
  facts.entries.foldl (fun target fact => applyField target fact.1 fact.2) target

/-! ### Member by member -/

/-- What a fact makes of the value of its member. -/
def memberFact (key : String) (existing : Option Json) (fact : Json) : Option Json :=
  if fact.isNull then none
  else if recordMapDeltaField key then some (applyRecordMapDelta existing fact)
  else some fact

theorem get?_applyField (target : Object) (key key' : String) (value : Json) :
    (applyField target key value).get? key' =
      if key' = key then memberFact key (target.get? key) value else target.get? key' := by
  unfold applyField memberFact
  split_ifs with hnull hkey hmap hkey
  · rw [hkey, OrderedMap.get?_erase_self]
  · exact OrderedMap.get?_erase_of_ne _ hkey
  · rw [hkey, OrderedMap.get?_insert_self]
  · exact OrderedMap.get?_insert_of_ne _ _ hkey
  · rw [‹key' = key›, OrderedMap.get?_insert_self]
  · exact OrderedMap.get?_insert_of_ne _ _ ‹¬key' = key›

/-- **A state after some facts, member by member.** -/
theorem get?_applyFields (target facts : Object) (key : String) :
    (applyFields target facts).get? key =
      match facts.get? key with
      | none => target.get? key
      | some fact => memberFact key (target.get? key) fact := by
  have hfold : ∀ (es : List (String × Json)) (target : Object), (es.map Prod.fst).Nodup →
      (es.foldl (fun target fact => applyField target fact.1 fact.2) target).get? key =
        match OrderedMap.lookup key es with
        | none => target.get? key
        | some fact => memberFact key (target.get? key) fact := by
    intro es
    induction es with
    | nil => intro target _; rfl
    | cons e es ih =>
      obtain ⟨key', value⟩ := e
      intro target hnodup
      rw [List.map_cons, List.nodup_cons] at hnodup
      rw [List.foldl_cons, ih _ hnodup.2, get?_applyField, OrderedMap.lookup]
      by_cases hkey : key = key'
      · subst hkey
        rw [OrderedMap.lookup_eq_none.mpr hnodup.1, if_pos rfl, if_pos rfl]
      · rw [if_neg hkey, if_neg hkey]
  exact hfold facts.entries target facts.nodup_keys

theorem authoritativeEventFieldAllowed_of_slot {key : String} (h : factSlot key = true) :
    authoritativeEventFieldAllowed key = true := by
  rw [factSlot, List.contains_iff_mem] at h
  obtain ⟨f, hf, rfl⟩ := List.mem_map.mp h
  rw [authoritativeEventFieldAllowed, List.contains_iff_mem]
  exact List.mem_map_of_mem (mem_authoritativeEventFields_of_fact hf)

/-- The facts of two states, member by member. -/
theorem get?_collectChangedFields (before after : Object) (fields : List String) (key : String) :
    (collectChangedFields before after fields).get? key =
      if key ∈ fields ∧ factSlot key = true then changedFieldValue before after key else none := by
  rw [collectChangedFields, OrderedMap.get?_ofList_filterMap]
  refine if_congr ?_ rfl rfl
  rw [List.mem_filter, Bool.and_eq_true]
  exact and_congr_right fun _ =>
    ⟨And.right, fun h => ⟨authoritativeEventFieldAllowed_of_slot h, h⟩⟩

/-! ### The fields -/

theorem recordMapDeltaField_name (f : Field) :
    recordMapDeltaField f.name = true ↔ f ∈ recordMapDeltaFields := by
  rw [recordMapDeltaField, List.contains_iff_mem]
  exact List.mem_map_of_injective Field.name_injective

/-- **On the fields** facts are applied as the reducer applies them. -/
theorem stateOf_applyFields (target facts : Object) :
    stateOf (applyFields target facts) =
      applyAuthoritativeFields (stateOf target) (stateOf facts) := by
  funext f
  rw [stateOf, get?_applyFields, applyAuthoritativeFields]
  show _ = match facts.get? f.name with
    | none => target.get? f.name
    | some fact => applyFact f (target.get? f.name) fact
  cases facts.get? f.name with
  | none => rfl
  | some fact =>
    show memberFact f.name (target.get? f.name) fact = applyFact f (target.get? f.name) fact
    unfold memberFact applyFact
    rw [if_congr (recordMapDeltaField_name f) rfl rfl]

/-- On the fields the facts are those of the command's event. -/
theorem stateOf_collectChangedFields (before after : Object) (fields : List Field) :
    stateOf (collectChangedFields before after (fields.map Field.name)) =
      (collectChangedAuthoritativeFields (stateOf before) (stateOf after) fields).get := by
  funext f
  have hslot : factSlot f.name = true ↔ f ∈ authoritativeFactFields := by
    rw [factSlot, List.contains_iff_mem]
    exact List.mem_map_of_injective Field.name_injective
  have hvalue : changedFieldValue before after f.name =
      changedAuthoritativeFieldValue (stateOf before) (stateOf after) f := by
    unfold changedFieldValue changedAuthoritativeFieldValue stateOf
    rw [if_congr (recordMapDeltaField_name f) rfl rfl]
  have hkey : (f.name ∈ fields.map Field.name ∧ factSlot f.name = true) ↔
      f ∈ fields ∧ f ∈ authoritativeFactFields :=
    and_congr (List.mem_map_of_injective Field.name_injective) hslot
  rw [stateOf, get?_collectChangedFields, collectChangedAuthoritativeFields,
    AuthoritativeFactBuilder.collect, Facts.get_ofGet, hvalue, if_congr hkey rfl rfl]
  by_cases hf : f ∈ authoritativeFactFields
  · have hevent := mem_authoritativeEventFields_of_fact hf
    simp [hf, hevent]
  · simp [hf]

/-! ### Round trip -/

/-- A member with null read as absent, and an empty record map too. -/
def memberValue (key : String) (v : Option Json) : Option Json :=
  if v = some .null then none
  else if recordMapDeltaField key = true ∧ v = some (.obj .empty) then none
  else v

@[simp] theorem memberValue_none (key : String) : memberValue key none = none := by
  simp [memberValue]

@[simp] theorem memberValue_null (key : String) : memberValue key (some .null) = none := if_pos rfl

/-- Each record map of a state is absent, or an object without null entries. -/
def RecordMapsShaped (o : Object) : Prop :=
  ∀ key v, recordMapDeltaField key = true → o.get? key = some v →
    ∃ m : Object, v = .obj m ∧ ∀ k, m.get? k ≠ some .null

theorem RecordMapsShaped.objectEntries {o : Object} (h : RecordMapsShaped o) {key : String}
    (hmap : recordMapDeltaField key = true) (k : String) :
    (objectEntries (o.get? key)).get? k ≠ some .null := by
  cases hv : o.get? key with
  | none => exact nofun
  | some v =>
    obtain ⟨m, rfl, hm⟩ := h key v hmap hv
    rw [objectEntries_obj]
    exact hm k

/-- A record map is the object of its entries. -/
theorem RecordMapsShaped.memberValue_eq {o : Object} (h : RecordMapsShaped o) {key : String}
    (hmap : recordMapDeltaField key = true) :
    memberValue key (some (.obj (FeatureForge.objectEntries (o.get? key)))) =
      memberValue key (o.get? key) := by
  cases hv : o.get? key with
  | none =>
    rw [objectEntries_none, memberValue, if_neg (by simp), if_pos ⟨hmap, rfl⟩,
      memberValue_none]
  | some v =>
    obtain ⟨m, rfl, _⟩ := h key v hmap hv
    rw [objectEntries_obj]

/-- **The facts of two states lead from the first to the second** at the members that they
were collected for and have a slot for, and leave the other members alone. -/
theorem delta_round_trip {before after : Object} (hbefore : RecordMapsShaped before)
    (hafter : RecordMapsShaped after) (fields : List String) (key : String) :
    (key ∈ fields ∧ factSlot key = true →
      memberValue key
          ((applyFields before (collectChangedFields before after fields)).get? key) =
        memberValue key (after.get? key)) ∧
    (¬(key ∈ fields ∧ factSlot key = true) →
      (applyFields before (collectChangedFields before after fields)).get? key =
        before.get? key) := by
  rw [get?_applyFields, get?_collectChangedFields]
  constructor
  · intro hkey
    rw [if_pos hkey]
    cases hfact : changedFieldValue before after key with
    | none =>
      have heq : before.get? key = after.get? key := by
        unfold changedFieldValue at hfact
        split_ifs at hfact with heq
        exact heq
      rw [heq]
    | some fact =>
      unfold changedFieldValue at hfact
      dsimp only
      split_ifs at hfact with heq hmap
      · -- a record map: the entries of the new state reach the old one
        cases hfact
        rw [memberFact, changedRecordMapEntries, Json.isNull_obj, if_neg Bool.false_ne_true,
          if_pos hmap, ← changedRecordMapEntries, applyRecordMapDelta_changed,
          patch_diff_null _ (hbefore.objectEntries hmap),
          withoutNulls_eq_self (hafter.objectEntries hmap)]
        exact hafter.memberValue_eq hmap
      · cases hfact
        rw [memberFact, if_neg hmap]
        cases hv : after.get? key with
        | none => rw [Option.getD_none, if_pos Json.isNull_null]
        | some v =>
          rw [Option.getD_some]
          split_ifs with hnull
          · rw [Json.isNull_iff.mp hnull, memberValue_none, memberValue_null]
          · rfl
  · intro hkey
    rw [if_neg hkey]

/-- The last record of a map is removed. -/
theorem delta_round_trip_last_record :
    memberValue "branch_closure_records"
      ((applyFields (.ofList [("branch_closure_records", .record [("branch-1", .record [])])])
        (collectChangedFields
          (.ofList [("branch_closure_records", .record [("branch-1", .record [])])])
          .empty ["branch_closure_records"])).get? "branch_closure_records") = none := by
  refine ((delta_round_trip ?_ ?_ ["branch_closure_records"] "branch_closure_records").1
    (by decide)).trans (memberValue_none _)
  · intro key v _ hv
    rw [OrderedMap.ofList, List.foldl_cons, List.foldl_nil, OrderedMap.get?_insert] at hv
    split_ifs at hv
    · refine ⟨.ofList [("branch-1", .record [])], (Option.some.inj hv).symm, fun k hk => ?_⟩
      rw [OrderedMap.ofList, List.foldl_cons, List.foldl_nil, OrderedMap.get?_insert] at hk
      split_ifs at hk
      · exact Json.obj_ne_null _ (Option.some.inj hk)
      · cases hk
    · cases hv
  · exact fun key v _ hv => by cases hv

/-- A late-stage summary has no slot: it is on the lists of fields, and no fact carries it. -/
theorem not_delta_round_trip :
    ¬∀ (before after : Object) (fields : List String) (key : String), RecordMapsShaped before →
      RecordMapsShaped after → key ∈ fields →
      memberValue key
          ((applyFields before (collectChangedFields before after fields)).get? key) =
        memberValue key (after.get? key) := by
  intro h
  have hafter : RecordMapsShaped (.ofList [("release_docs_state", .str "fresh")]) := by
    intro key v hmap hv
    rw [OrderedMap.ofList, List.foldl_cons, List.foldl_nil, OrderedMap.get?_insert] at hv
    split_ifs at hv with hkey
    · rw [hkey] at hmap
      exact absurd hmap (by decide)
    · cases hv
  have hnone := h .empty _ ["release_docs_state"] "release_docs_state"
    (fun key v _ hv => by cases hv) hafter List.mem_cons_self
  rw [get?_applyFields, get?_collectChangedFields, if_neg (by decide)] at hnone
  exact absurd hnone (by decide)

end FeatureForge
