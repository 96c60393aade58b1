import FeatureForge.EventLog.Envelope
import FeatureForge.Lib.MapDelta

/-!
# Reducing a log to the state

`reduce_events_to_state` and what it calls: the facts of an event replace, remove
or, for the record maps, patch the fields they are about
(`applyAuthoritativeFields`); a completed or reopened step is entered into or
taken out of `event_completed_steps`; and a status transition adds a record where
its family has none of that id.

`get_applyTyped_of_facts` says field by field what an event with facts does, and
`reduceFrom_append` that a log is reduced entry by entry, which is what every
argument about appending uses.
-/

namespace FeatureForge

/-- `apply_record_map_delta`. -/
def applyRecordMapDelta (existing : Option Json) (delta : Json) : Json :=
  match delta.asObject with
  | none => delta
  | some entries =>
    .obj (OrderedMap.patch Json.isNull ((existing.bind Json.asObject).getD .empty) entries)

/-- What a fact makes of the value of its field. -/
def applyFact (f : Field) (existing : Option Json) (fact : Json) : Option Json :=
  if fact.isNull then none
  else if f ∈ recordMapDeltaFields then some (applyRecordMapDelta existing fact)
  else some fact

def applyAuthoritativeFields (target : StateObject) (facts : Field → Option Json) : StateObject :=
  fun f => match facts f with
    | none => target f
    | some fact => applyFact f (target f) fact

def completedStepKey (task step : UInt32) : String :=
  task.toNat.repr ++ "." ++ step.toNat.repr

def completedStepEntry (task step : UInt32) : Json :=
  .record [("task", .u64 task.toNat), ("step", .u64 step.toNat)]

/-- The entries of a member that is made an object where it is not one. -/
def objectEntries (v : Option Json) : Object := (v.bind Json.asObject).getD .empty

/-- `apply_completed_step_event`; the flag says whether it applied. -/
def applyCompletedStepEvent (target : StateObject) (task step : Option UInt32)
    (completed : Bool) : StateObject × Bool :=
  match task, step with
  | some task, some step =>
    let completedMap := objectEntries (target .eventCompletedSteps)
    let key := completedStepKey task step
    let completedMap :=
      if completed then completedMap.insert key (completedStepEntry task step)
      else completedMap.erase key
    (Function.update target .eventCompletedSteps (some (.obj completedMap)), true)
  | _, _ => (target, false)

/-! ### Status transitions -/

def recordStatusMapFields (recordFamily : String) : Option (List Field) :=
  if recordFamily = "task_closure_record" then
    some [.currentTaskClosureRecords, .taskClosureRecordHistory]
  else if recordFamily = "branch_closure_record" then some [.branchClosureRecords]
  else if recordFamily = "release_readiness_record" then some [.releaseReadinessRecordHistory]
  else if recordFamily = "final_review_record" then some [.finalReviewRecordHistory]
  else if recordFamily = "browser_qa_record" ∨ recordFamily = "qa_record" then
    some [.browserQaRecordHistory]
  else none

/-- The id is the key, or the first of the three id members there is. -/
def recordEntryMatchesId (entryKey : String) (entry : Json) (recordId : String) : Bool :=
  entryKey == recordId ||
    (((entry.get? "record_id").or ((entry.get? "closure_record_id").or
      (entry.get? "branch_closure_id"))).bind Json.asStr).any fun candidate =>
        trim candidate == recordId

/-- A present text that is not blank, without the blanks around it. -/
def nonBlank (s : Option String) : Option String := (s.map trim).filter fun t => t ≠ ""

/-- The records of one map after a transition: an entry with the id stays as it is,
as an object, and otherwise a new one names the id, the status and the sequence. -/
def recordStatusEntry (records : Object) (recordId : String) (recordStatus : Option String)
    (recordSequence : Option UInt64) : Object :=
  match records.entries.find? fun e => recordEntryMatchesId e.1 e.2 recordId with
  | some (key, entry) => records.insert key (.obj (objectEntries (some entry)))
  | none =>
    let entry : Object := OrderedMap.empty.insert "record_id" (.str recordId)
    let entry := match nonBlank recordStatus with
      | some status => entry.insert "record_status" (.str status)
      | none => entry
    let entry := match recordSequence with
      | some sequence => entry.insert "record_sequence" (.u64 sequence.toNat)
      | none => entry
    records.insert recordId (.obj entry)

/-- Task closures are kept in two maps, the current ones and the history. -/
def skipsMapField (recordFamily : String) (recordStatus : Option String) (f : Field) : Bool :=
  recordFamily == "task_closure_record" &&
    ((f == .currentTaskClosureRecords && recordStatus != some "current") ||
      (f == .taskClosureRecordHistory && recordStatus == some "current"))

def applyRecordStatusTransition (target : StateObject) (recordFamily : String)
    (recordId recordStatus : Option String) (recordSequence : Option UInt64) :
    StateObject × Bool :=
  match nonBlank recordId, recordStatusMapFields recordFamily with
  | some recordId, some mapFields =>
    let touched := mapFields.filter fun f => !skipsMapField recordFamily recordStatus f
    (touched.foldl (fun target f =>
      Function.update target f (some (.obj
        (recordStatusEntry (objectEntries (target f)) recordId recordStatus recordSequence))))
      target, !touched.isEmpty)
  | _, _ => (target, false)

/-! ### Events -/

/-- Whether any fact is populated. -/
def factsPresent (e : ExecutionEvent) (facts : Field → Option Json) : Bool :=
  (ExecutionEvent.slots e.kind).any fun f => (facts f).isSome

/-- `apply_typed_event_to_state`; the flag says whether the event applied. -/
def applyTypedEventToState (target : StateObject) (event : ExecutionEvent) :
    StateObject × Bool :=
  match event, event.facts with
  | .recordStatusTransition family id status sequence, _ =>
    applyRecordStatusTransition target family id status sequence
  | .complete task step _, some facts =>
    let (completed, applied) :=
      applyCompletedStepEvent (applyAuthoritativeFields target facts) task step true
    (completed, applied || factsPresent event facts)
  | .reopen task step _, some facts =>
    let (completed, applied) :=
      applyCompletedStepEvent (applyAuthoritativeFields target facts) task step false
    (completed, applied || factsPresent event facts)
  | event, some facts => (applyAuthoritativeFields target facts, factsPresent event facts)
  | _, none => (target, false)

/-- The fold of `reduce_events_to_state`, with the flag of whether any event applied. -/
def reduceFrom (target : StateObject × Bool) (events : List ExecutionEvent) :
    StateObject × Bool :=
  events.foldl (fun reduced event =>
    let (state, applied) := applyTypedEventToState reduced.1 event
    (state, reduced.2 || applied)) target

def emptyState : StateObject := fun _ => none

/-- `reduce_events_to_state`: no state where no event applied. -/
def reduceEventsToState (events : List ExecutionEventEnvelope) : Option StateObject :=
  let reduced := reduceFrom (emptyState, false) (events.map (·.payload))
  if reduced.2 then some reduced.1 else none

/-! ### One event -/

theorem applyAuthoritativeFields_of_none {target : StateObject} {facts : Field → Option Json}
    {f : Field} (h : facts f = none) : applyAuthoritativeFields target facts f = target f := by
  rw [applyAuthoritativeFields, h]

theorem applyAuthoritativeFields_of_some {target : StateObject} {facts : Field → Option Json}
    {f : Field} {fact : Json} (h : facts f = some fact) :
    applyAuthoritativeFields target facts f = applyFact f (target f) fact := by
  rw [applyAuthoritativeFields, h]

theorem applyCompletedStepEvent_of_ne (target : StateObject) (task step : Option UInt32)
    (completed : Bool) {f : Field} (hf : f ≠ .eventCompletedSteps) :
    (applyCompletedStepEvent target task step completed).1 f = target f := by
  cases task with
  | none => rfl
  | some task =>
    cases step with
    | none => rfl
    | some step => exact Function.update_of_ne hf _ _

/-- **An event with facts acts field by field.** -/
theorem applyTyped_of_facts {e : ExecutionEvent} {facts : Field → Option Json}
    (h : e.facts = some facts) (target : StateObject) {f : Field}
    (hf : f ≠ .eventCompletedSteps) :
    (applyTypedEventToState target e).1 f = applyAuthoritativeFields target facts f := by
  cases e with
  | complete task step stepFacts =>
    cases h
    exact applyCompletedStepEvent_of_ne _ task step true hf
  | reopen task step stepFacts =>
    cases h
    exact applyCompletedStepEvent_of_ne _ task step false hf
  | migrationImported path => cases h
  | recordStatusTransition family id status sequence => cases h
  | _ => cases h; rfl

/-- The facts of an event are in its slots. -/
theorem facts_eq_none_of_not_mem {e : ExecutionEvent} {facts : Field → Option Json}
    (h : e.facts = some facts) {f : Field} (hf : f ∉ ExecutionEvent.slots e.kind) :
    facts f = none := by
  cases hv : facts f with
  | none => rfl
  | some v => exact absurd (ExecutionEvent.get_of_facts h hv) hf

theorem facts_eq_none_of_not_present {e : ExecutionEvent} {facts : Field → Option Json}
    (h : e.facts = some facts) (hp : factsPresent e facts = false) (f : Field) :
    facts f = none := by
  by_cases hf : f ∈ ExecutionEvent.slots e.kind
  · have := List.any_eq_false.mp hp f hf
    simpa using this
  · exact facts_eq_none_of_not_mem h hf

theorem applyAuthoritativeFields_of_not_present {e : ExecutionEvent}
    {facts : Field → Option Json} (h : e.facts = some facts) (hp : factsPresent e facts = false)
    (target : StateObject) : applyAuthoritativeFields target facts = target :=
  funext fun f => applyAuthoritativeFields_of_none (facts_eq_none_of_not_present h hp f)

theorem applyCompletedStepEvent_of_not_applied {target : StateObject} {task step : Option UInt32}
    {completed : Bool} (h : (applyCompletedStepEvent target task step completed).2 = false) :
    (applyCompletedStepEvent target task step completed).1 = target := by
  cases task with
  | none => rfl
  | some task =>
    cases step with
    | none => rfl
    | some step => cases h

theorem applyRecordStatusTransition_of_not_applied {target : StateObject} {family : String}
    {id status : Option String} {sequence : Option UInt64}
    (h : (applyRecordStatusTransition target family id status sequence).2 = false) :
    (applyRecordStatusTransition target family id status sequence).1 = target := by
  rw [applyRecordStatusTransition] at h ⊢
  cases hid : nonBlank id with
  | none => rfl
  | some recordId =>
    cases hfam : recordStatusMapFields family with
    | none => rfl
    | some mapFields =>
      simp only [hid, hfam, Bool.not_eq_false', List.isEmpty_iff] at h
      simp only [h, List.foldl_nil]

/-- An event that does not apply leaves the state alone. -/
theorem applyTyped_of_not_applied {target : StateObject} {e : ExecutionEvent}
    (h : (applyTypedEventToState target e).2 = false) :
    (applyTypedEventToState target e).1 = target := by
  cases e with
  | migrationImported path => rfl
  | recordStatusTransition family id status sequence =>
    exact applyRecordStatusTransition_of_not_applied h
  | complete task step stepFacts =>
    obtain ⟨hc, hp⟩ := Bool.or_eq_false_iff.mp h
    have hfacts := applyAuthoritativeFields_of_not_present (e := .complete task step stepFacts)
      rfl hp target
    exact (applyCompletedStepEvent_of_not_applied hc).trans hfacts
  | reopen task step stepFacts =>
    obtain ⟨hc, hp⟩ := Bool.or_eq_false_iff.mp h
    have hfacts := applyAuthoritativeFields_of_not_present (e := .reopen task step stepFacts)
      rfl hp target
    exact (applyCompletedStepEvent_of_not_applied hc).trans hfacts
  | _ => exact applyAuthoritativeFields_of_not_present rfl h target

/-! ### Runs -/

theorem reduceFrom_append (target : StateObject × Bool) (es fs : List ExecutionEvent) :
    reduceFrom target (es ++ fs) = reduceFrom (reduceFrom target es) fs :=
  List.foldl_append

theorem reduceFrom_cons (target : StateObject × Bool) (e : ExecutionEvent)
    (es : List ExecutionEvent) :
    reduceFrom target (e :: es) = reduceFrom ((applyTypedEventToState target.1 e).1,
      target.2 || (applyTypedEventToState target.1 e).2) es :=
  rfl

/-- The flag stays down only while the state is as it was. -/
theorem reduceFrom_of_not_applied : ∀ {es : List ExecutionEvent} {target : StateObject × Bool},
    (reduceFrom target es).2 = false → (reduceFrom target es).1 = target.1 ∧ target.2 = false := by
  intro es
  induction es with
  | nil => intro target h; exact ⟨rfl, h⟩
  | cons e es ih =>
    intro target h
    rw [reduceFrom_cons] at h ⊢
    obtain ⟨hstate, hflag⟩ := ih h
    obtain ⟨hflag, happly⟩ := Bool.or_eq_false_iff.mp hflag
    exact ⟨hstate.trans (applyTyped_of_not_applied happly), hflag⟩

/-- The state a log stands for, the empty one where no event applied. -/
def reducedState (events : List ExecutionEventEnvelope) : StateObject :=
  (reduceFrom (emptyState, false) (events.map (·.payload))).1

/-- `reduce_events_to_state(..).unwrap_or(Value::Null)`, which has no fields. -/
theorem reduceEventsToState_getD (events : List ExecutionEventEnvelope) :
    (reduceEventsToState events).getD emptyState = reducedState events := by
  rw [reduceEventsToState, reducedState]
  cases h : (reduceFrom (emptyState, false) (events.map (·.payload))).2 with
  | true => simp only [if_true, Option.getD_some]
  | false =>
    simp only [Bool.false_eq_true, if_false, Option.getD_none]
    exact (reduceFrom_of_not_applied h).1.symm

@[simp] theorem reducedState_nil : reducedState [] = emptyState := rfl

theorem reducedState_concat (events : List ExecutionEventEnvelope) (e : ExecutionEventEnvelope) :
    reducedState (events ++ [e]) = (applyTypedEventToState (reducedState events) e.payload).1 := by
  rw [reducedState, List.map_append, reduceFrom_append]
  rfl

/-! ### Reduced states store no null -/

/-- No null is stored at a field, nor under a key of a record map. -/
structure StateObject.Clean (s : StateObject) : Prop where
  field : ∀ f, s f ≠ some .null
  record : ∀ f ∈ recordMapDeltaFields, ∀ m : Object, s f = some (.obj m) →
    ∀ k, m.get? k ≠ some .null

theorem clean_emptyState : StateObject.Clean emptyState where
  field _ h := by cases h
  record _ _ _ h := by cases h

/-- The value of one field after a fact, null nowhere. -/
theorem applyFact_clean {f : Field} {existing : Option Json} {fact : Json}
    (hrecord : f ∈ recordMapDeltaFields → ∀ m : Object, existing = some (.obj m) →
      ∀ k, m.get? k ≠ some .null) :
    applyFact f existing fact ≠ some .null ∧ (f ∈ recordMapDeltaFields → ∀ m : Object,
      applyFact f existing fact = some (.obj m) → ∀ k, m.get? k ≠ some .null) := by
  rw [applyFact]
  split_ifs with hnull hmap
  · exact ⟨fun h => (by cases h), fun _ _ h => (by cases h)⟩
  · cases hd : fact.asObject with
    | none =>
      simp only [applyRecordMapDelta, hd]
      refine ⟨fun h => hnull (Json.isNull_iff.mpr (Option.some.inj h)), fun _ m h => ?_⟩
      rw [Option.some.inj h, Json.asObject_obj] at hd
      cases hd
    | some entries =>
      simp only [applyRecordMapDelta, hd, ne_eq, Option.some.injEq, Json.obj_ne_null,
        not_false_eq_true, Json.obj_inj, true_and]
      rintro - m rfl k hk
      rw [OrderedMap.get?_patch] at hk
      cases he : entries.get? k with
      | none =>
        simp only [he] at hk
        cases hx : existing.bind Json.asObject with
        | none => rw [hx] at hk; cases hk
        | some old =>
          rw [hx] at hk
          obtain ⟨v, hv, hvo⟩ := Option.bind_eq_some_iff.mp hx
          rw [Json.asObject_eq_some.mp hvo] at hv
          exact hrecord hmap old hv k hk
      | some v =>
        simp only [he] at hk
        split_ifs at hk with hv
        exact hv (Json.isNull_iff.mpr (Option.some.inj hk))
  · refine ⟨fun h => hnull (Json.isNull_iff.mpr (Option.some.inj h)), fun h => absurd h hmap⟩

theorem StateObject.Clean.applyAuthoritativeFields {s : StateObject} (h : s.Clean)
    (facts : Field → Option Json) : (applyAuthoritativeFields s facts).Clean := by
  have hstep : ∀ f, FeatureForge.applyAuthoritativeFields s facts f = s f ∨
      ∃ fact, FeatureForge.applyAuthoritativeFields s facts f = applyFact f (s f) fact := by
    intro f
    cases hf : facts f with
    | none => exact Or.inl (applyAuthoritativeFields_of_none hf)
    | some fact => exact Or.inr ⟨fact, applyAuthoritativeFields_of_some hf⟩
  constructor
  · intro f
    rcases hstep f with hf | ⟨fact, hf⟩
    · rw [hf]; exact h.field f
    · rw [hf]; exact (applyFact_clean (h.record f)).1
  · intro f hmap m hm
    rcases hstep f with hf | ⟨fact, hf⟩
    · exact h.record f hmap m (hf ▸ hm)
    · exact (applyFact_clean (h.record f)).2 hmap m (hf ▸ hm)

/-- Storing an object whose entries are not null. -/
theorem StateObject.Clean.update_obj {s : StateObject} (h : s.Clean) (f : Field) (m : Object)
    (hm : f ∈ recordMapDeltaFields → ∀ k, m.get? k ≠ some .null) :
    StateObject.Clean (Function.update s f (some (.obj m))) := by
  constructor
  · intro g
    by_cases hg : g = f
    · subst hg; rw [Function.update_self]; simp
    · rw [Function.update_of_ne hg]; exact h.field g
  · intro g hmap m' hm'
    by_cases hg : g = f
    · subst hg
      rw [Function.update_self] at hm'
      rw [← Json.obj_injective (Option.some.inj hm')]
      exact hm hmap
    · rw [Function.update_of_ne hg] at hm'
      exact h.record g hmap m' hm'

theorem StateObject.Clean.objectEntries {s : StateObject} (h : s.Clean) {f : Field}
    (hmap : f ∈ recordMapDeltaFields) (k : String) : (objectEntries (s f)).get? k ≠ some .null := by
  rw [FeatureForge.objectEntries]
  cases hb : (s f).bind Json.asObject with
  | none => intro hk; cases hk
  | some m =>
    obtain ⟨v, hv, hvo⟩ := Option.bind_eq_some_iff.mp hb
    rw [Json.asObject_eq_some.mp hvo] at hv
    exact h.record f hmap m hv k

theorem StateObject.Clean.applyCompletedStepEvent {s : StateObject} (h : s.Clean)
    (task step : Option UInt32) (completed : Bool) :
    (applyCompletedStepEvent s task step completed).1.Clean := by
  cases task with
  | none => exact h
  | some task =>
    cases step with
    | none => exact h
    | some step => exact h.update_obj _ _ fun hmap => absurd hmap (by decide)

theorem recordStatusEntry_clean {records : Object} {id : String} {status : Option String}
    {sequence : Option UInt64} (h : ∀ k, records.get? k ≠ some .null) (k : String) :
    (recordStatusEntry records id status sequence).get? k ≠ some .null := by
  have hinsert : ∀ (key : String) (m : Object),
      (records.insert key (.obj m)).get? k ≠ some .null := by
    intro key m
    rw [OrderedMap.get?_insert]
    split_ifs
    · simp
    · exact h k
  rw [recordStatusEntry]
  split
  · exact hinsert _ _
  · exact hinsert _ _

theorem StateObject.Clean.applyRecordStatusTransition {s : StateObject} (h : s.Clean)
    (family : String) (id status : Option String) (sequence : Option UInt64) :
    (applyRecordStatusTransition s family id status sequence).1.Clean := by
  have hfold : ∀ (recordId : String) (fs : List Field) (s : StateObject), s.Clean →
      StateObject.Clean (fs.foldl (fun target f => Function.update target f (some (.obj
        (recordStatusEntry (FeatureForge.objectEntries (target f)) recordId status sequence)))) s) := by
    intro recordId fs
    induction fs with
    | nil => intro s hs; exact hs
    | cons f fs ih =>
      intro s hs
      exact ih _ (hs.update_obj f _ fun hmap => recordStatusEntry_clean (hs.objectEntries hmap))
  rw [FeatureForge.applyRecordStatusTransition]
  split
  · exact hfold _ _ _ h
  · exact h

theorem StateObject.Clean.applyTyped {s : StateObject} (h : s.Clean) (e : ExecutionEvent) :
    (applyTypedEventToState s e).1.Clean := by
  cases e with
  | migrationImported path => exact h
  | recordStatusTransition family id status sequence =>
    exact h.applyRecordStatusTransition family id status sequence
  | complete task step facts =>
    exact (h.applyAuthoritativeFields _).applyCompletedStepEvent task step true
  | reopen task step facts =>
    exact (h.applyAuthoritativeFields _).applyCompletedStepEvent task step false
  | _ => exact h.applyAuthoritativeFields _

theorem clean_reduceFrom : ∀ (es : List ExecutionEvent) (target : StateObject × Bool),
    target.1.Clean → (reduceFrom target es).1.Clean := by
  intro es
  induction es with
  | nil => intro target h; exact h
  | cons e es ih => intro target h; exact ih _ (h.applyTyped e)

/-- **A reduced state stores no null.** -/
theorem clean_reducedState (events : List ExecutionEventEnvelope) : (reducedState events).Clean :=
  clean_reduceFrom _ _ clean_emptyState

end FeatureForge
