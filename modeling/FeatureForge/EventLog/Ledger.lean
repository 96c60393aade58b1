import FeatureForge.EventLog.Migration
import Mathlib.Data.List.Dedup
import Mathlib.Data.List.Induction

/-!
# The ledger of completed steps

`event_completed_steps` is the one field that no fact is about: `complete` events enter
their step under the key `task.step`, `reopen` events take it out, and no other event
touches it (`completedSteps_applyTyped`).

`Entered` says which steps a list of events has entered, and `Entered.namedSteps` that
the ledger then names the steps of the state they come from.
-/

namespace FeatureForge

/-! ### Keys and entries -/

theorem toDigits_injective {m n : Nat} (h : Nat.toDigits 10 m = Nat.toDigits 10 n) : m = n := by
  rw [← @Nat.ofDigitChars_ten_toDigits m, ← @Nat.ofDigitChars_ten_toDigits n, h]

theorem dot_not_mem_repr (n : Nat) : '.' ∉ n.repr.toList := by
  intro h
  rw [Nat.toList_repr] at h
  have := Nat.isDigit_of_mem_toDigits (by decide) (by decide) h
  exact absurd this (by decide)

/-- **Different steps have different keys.** -/
theorem completedStepKey_inj {task step task' step' : UInt32} :
    completedStepKey task step = completedStepKey task' step' ↔ task = task' ∧ step = step' := by
  constructor
  · intro h
    have hlist := congrArg String.toList h
    simp only [completedStepKey, String.toList_append, List.append_assoc] at hlist
    have hdot : ".".toList = ['.'] := by decide
    rw [hdot, List.singleton_append, List.singleton_append,
      List.append_cons_inj_of_notMem (dot_not_mem_repr _) (dot_not_mem_repr _)] at hlist
    obtain ⟨htask, _, hstep⟩ := hlist
    rw [Nat.toList_repr, Nat.toList_repr] at htask hstep
    exact ⟨UInt32.toNat_inj.mp (toDigits_injective htask),
      UInt32.toNat_inj.mp (toDigits_injective hstep)⟩
  · rintro ⟨rfl, rfl⟩
    rfl

theorem u32TryFrom_toNat (n : UInt32) : u32TryFrom n.toNat = some n := by
  rw [u32TryFrom, if_pos n.toNat_lt, UInt32.ofNat_toNat]

/-- An entry names its step. -/
theorem legacyCompletedStepFromEntry_entry (k : String) (task step : UInt32) :
    legacyCompletedStepFromEntry k (completedStepEntry task step) = some (task, step) := by
  have htask : (completedStepEntry task step).get? "task" = some (.u64 task.toNat) := by
    rw [completedStepEntry, Json.record, Json.get?_obj]
    simp [OrderedMap.ofList, OrderedMap.get?_insert]
  have hstep : (completedStepEntry task step).get? "step" = some (.u64 step.toNat) := by
    rw [completedStepEntry, Json.record, Json.get?_obj]
    simp [OrderedMap.ofList]
  have hread : ∀ n : UInt32, jsonU32 (some (.u64 n.toNat)) = some n := by
    intro n
    rw [jsonU32, Option.bind_some, Json.asU64_u64, Option.bind_some, u32TryFrom_toNat]
  rw [legacyCompletedStepFromEntry, htask, hstep, hread, hread]

/-! ### What an event does to the ledger -/

/-- The completed steps of a state. -/
abbrev completedSteps (s : StateObject) : Object := objectEntries (s .eventCompletedSteps)

def ledgerAfter (e : ExecutionEvent) (steps : Object) : Object :=
  match e with
  | .complete (some task) (some step) _ =>
    steps.insert (completedStepKey task step) (completedStepEntry task step)
  | .reopen (some task) (some step) _ => steps.erase (completedStepKey task step)
  | _ => steps

theorem eventCompletedSteps_not_mem_slots (k : EventKind) :
    Field.eventCompletedSteps ∉ ExecutionEvent.slots k := by
  have h : ∀ k ∈ EventKind.all, Field.eventCompletedSteps ∉ ExecutionEvent.slots k := by
    decide
  exact h k (EventKind.mem_all k)

theorem applyFacts_eventCompletedSteps (s : StateObject) {e : ExecutionEvent}
    {facts : Field → Option Json} (h : e.facts = some facts) :
    applyAuthoritativeFields s facts .eventCompletedSteps = s .eventCompletedSteps :=
  applyAuthoritativeFields_of_none
    (facts_eq_none_of_not_mem h (eventCompletedSteps_not_mem_slots e.kind))

theorem applyTransition_of_not_mem (s : StateObject) (family : String)
    (id status : Option String) (sequence : Option UInt64) {f : Field}
    (hf : f ∉ recordMapDeltaFields) :
    (applyRecordStatusTransition s family id status sequence).1 f = s f := by
  have hfields : ∀ mapFields, recordStatusMapFields family = some mapFields →
      ∀ g ∈ mapFields, g ∈ recordMapDeltaFields := by
    intro mapFields h
    rw [recordStatusMapFields] at h
    split_ifs at h
    all_goals
      cases h
      decide
  have hfold : ∀ (recordId : String) (gs : List Field) (s : StateObject),
      (∀ g ∈ gs, g ∈ recordMapDeltaFields) →
      (gs.foldl (fun target g => Function.update target g (some (.obj
        (recordStatusEntry (objectEntries (target g)) recordId status sequence)))) s) f = s f := by
    intro recordId gs
    induction gs with
    | nil => intro s _; rfl
    | cons g gs ih =>
      intro s hgs
      have hne : f ≠ g := fun h => hf (h ▸ hgs g List.mem_cons_self)
      rw [List.foldl_cons, ih _ fun g' hg' => hgs g' (List.mem_cons_of_mem _ hg'),
        Function.update_of_ne hne]
  rw [applyRecordStatusTransition]
  cases hid : nonBlank id with
  | none => rfl
  | some recordId =>
    cases hmap : recordStatusMapFields family with
    | none => rfl
    | some mapFields =>
      exact hfold recordId _ s fun g hg => hfields mapFields hmap g (List.mem_of_mem_filter hg)

theorem applyTyped_of_plain {e : ExecutionEvent} {facts : Field → Option Json}
    (h : e.facts = some facts) (hc : e.kind ≠ .complete) (hr : e.kind ≠ .reopen)
    (s : StateObject) : (applyTypedEventToState s e).1 = applyAuthoritativeFields s facts := by
  cases e with
  | migrationImported path => cases h
  | recordStatusTransition family id status sequence => cases h
  | complete task step facts => exact absurd rfl hc
  | reopen task step facts => exact absurd rfl hr
  | _ => cases h; rfl

theorem ledgerAfter_of_plain {e : ExecutionEvent} (hc : e.kind ≠ .complete)
    (hr : e.kind ≠ .reopen) (steps : Object) : ledgerAfter e steps = steps := by
  cases e with
  | complete task step facts => exact absurd rfl hc
  | reopen task step facts => exact absurd rfl hr
  | _ => rfl

/-- A step entered or taken out, where both of its numbers are there. -/
theorem completedSteps_applyCompletedStepEvent (s : StateObject) (task step : Option UInt32)
    (completed : Bool) :
    completedSteps (applyCompletedStepEvent s task step completed).1 =
      match task, step with
      | some task, some step =>
        if completed then
          (completedSteps s).insert (completedStepKey task step) (completedStepEntry task step)
        else (completedSteps s).erase (completedStepKey task step)
      | _, _ => completedSteps s := by
  cases task with
  | none => rfl
  | some task =>
    cases step with
    | none => rfl
    | some step =>
      simp only [completedSteps, applyCompletedStepEvent, Function.update_self, objectEntries_obj]

/-- **What an event does to the completed steps.** -/
theorem completedSteps_applyTyped (s : StateObject) (e : ExecutionEvent) :
    completedSteps (applyTypedEventToState s e).1 = ledgerAfter e (completedSteps s) := by
  have hsame : ∀ {facts : Field → Option Json}, e.facts = some facts →
      completedSteps (applyAuthoritativeFields s facts) = completedSteps s :=
    fun h => congrArg objectEntries (applyFacts_eventCompletedSteps s h)
  cases hfacts : e.facts with
  | none =>
    cases e with
    | migrationImported path => rfl
    | recordStatusTransition family id status sequence =>
      exact congrArg objectEntries
        (applyTransition_of_not_mem s family id status sequence (by decide))
    | _ => cases hfacts
  | some facts =>
    by_cases hc : e.kind = .complete
    · cases e with
      | complete task step facts =>
        refine (completedSteps_applyCompletedStepEvent _ task step true).trans ?_
        rw [hsame rfl]
        cases task with
        | none => rfl
        | some task =>
          cases step with
          | none => rfl
          | some step => rfl
      | _ => cases hc
    · by_cases hr : e.kind = .reopen
      · cases e with
        | reopen task step facts =>
          refine (completedSteps_applyCompletedStepEvent _ task step false).trans ?_
          rw [hsame rfl]
          cases task with
          | none => rfl
          | some task =>
            cases step with
            | none => rfl
            | some step => rfl
        | _ => cases hr
      · rw [applyTyped_of_plain hfacts hc hr, hsame hfacts, ledgerAfter_of_plain hc hr]

/-! ### What has been entered -/

/-- The steps of the ledger are among those given, and every step that has been completed
is in it. -/
structure Entered (steps : List (UInt32 × UInt32)) (es : List ExecutionEvent) (s : StateObject) :
    Prop where
  sub : ∀ k v, (completedSteps s).get? k = some v →
    ∃ p ∈ steps, k = completedStepKey p.1 p.2 ∧ v = completedStepEntry p.1 p.2
  has : ∀ p, some p ∈ es.map observedCompletedStepReplay →
    (completedSteps s).get? (completedStepKey p.1 p.2) = some (completedStepEntry p.1 p.2)

theorem entered_empty (steps : List (UInt32 × UInt32)) : Entered steps [] emptyState where
  sub _ _ h := by cases h
  has _ h := by cases h

/-- **Completing a step enters it; a step is reopened only where none has been completed.** -/
theorem Entered.apply {steps : List (UInt32 × UInt32)} {es : List ExecutionEvent}
    {s : StateObject} (h : Entered steps es s) {e : ExecutionEvent}
    (hc : ∀ p, observedCompletedStepReplay e = some p → p ∈ steps)
    (hr : e.kind = .reopen → ∀ d ∈ es, observedCompletedStepReplay d = none) :
    Entered steps (es ++ [e]) (applyTypedEventToState s e).1 := by
  have hmem : ∀ p, some p ∈ (es ++ [e]).map observedCompletedStepReplay →
      some p ∈ es.map observedCompletedStepReplay ∨ observedCompletedStepReplay e = some p := by
    intro p hp
    rw [List.map_append, List.mem_append] at hp
    exact hp.imp_right fun hp => (List.mem_singleton.mp hp).symm
  have hsame : ledgerAfter e (completedSteps s) = completedSteps s →
      observedCompletedStepReplay e = none →
      Entered steps (es ++ [e]) (applyTypedEventToState s e).1 := by
    intro hledger hnone
    refine ⟨fun k v hk => ?_, fun p hp => ?_⟩
    · rw [completedSteps_applyTyped, hledger] at hk
      exact h.sub k v hk
    · rw [completedSteps_applyTyped, hledger]
      rcases hmem p hp with hp | hp
      · exact h.has p hp
      · rw [hnone] at hp
        cases hp
  cases e with
  | complete task step facts =>
    cases task with
    | none => exact hsame rfl rfl
    | some task =>
      cases step with
      | none => exact hsame rfl rfl
      | some step =>
        have hin : (task, step) ∈ steps := hc _ rfl
        refine ⟨fun k v hk => ?_, fun p hp => ?_⟩
        · rw [completedSteps_applyTyped, ledgerAfter, OrderedMap.get?_insert] at hk
          split_ifs at hk with hkey
          · cases hk
            exact ⟨(task, step), hin, hkey, rfl⟩
          · exact h.sub k v hk
        · rw [completedSteps_applyTyped, ledgerAfter, OrderedMap.get?_insert]
          split_ifs with hkey
          · obtain ⟨htask, hstep⟩ := completedStepKey_inj.mp hkey
            rw [htask, hstep]
          · rcases hmem p hp with hp | hp
            · exact h.has p hp
            · cases hp
              exact absurd rfl hkey
  | reopen task step facts =>
    have hnone : ∀ p, some p ∉ (es ++ [ExecutionEvent.reopen task step facts]).map
        observedCompletedStepReplay := by
      intro p hp
      rcases hmem p hp with hp | hp
      · obtain ⟨d, hd, hdp⟩ := List.mem_map.mp hp
        rw [hr rfl d hd] at hdp
        cases hdp
      · cases hp
    refine ⟨fun k v hk => ?_, fun p hp => absurd hp (hnone p)⟩
    rw [completedSteps_applyTyped] at hk
    cases task with
    | none => exact h.sub k v hk
    | some task =>
      cases step with
      | none => exact h.sub k v hk
      | some step =>
        rw [ledgerAfter, OrderedMap.get?_erase] at hk
        split_ifs at hk
        exact h.sub k v hk
  | _ => exact hsame rfl rfl

/-! ### The projection of the ledger -/

/-- The steps the ledger of a state names. -/
def namedSteps (s : StateObject) : List (UInt32 × UInt32) :=
  (completedSteps s).entries.filterMap fun e => legacyCompletedStepFromEntry e.1 e.2

theorem mem_legacyCompletedStepEvents {s : StateObject} {p : UInt32 × UInt32} :
    p ∈ legacyCompletedStepEvents s ↔ p ∈ namedSteps s := by
  rw [legacyCompletedStepEvents, List.mem_dedup, List.mem_insertionSort]
  rfl

theorem migrationParityValue_eventCompletedSteps (s : StateObject) :
    migrationParityValue s .eventCompletedSteps =
      .obj (OrderedMap.ofList ((namedSteps s).map fun p =>
        (completedStepKey p.1 p.2, completedStepEntry p.1 p.2))) := by
  have hentries : objectEntries (some (((s .eventCompletedSteps).filter
      fun v => !v.isNull).getD (.obj .empty))) = completedSteps s := by
    rw [completedSteps]
    cases s .eventCompletedSteps with
    | none => rfl
    | some v =>
      by_cases hnull : v.isNull = true
      · rw [Json.isNull_iff.mp hnull]
        rfl
      · rw [Option.filter_some, Bool.eq_false_iff.mpr hnull]
        rfl
  rw [migrationParityValue, if_pos rfl, normalizeEventCompletedStepsProjection]
  show Json.obj (OrderedMap.ofList (((objectEntries (some (((s .eventCompletedSteps).filter
    fun v => !v.isNull).getD (.obj .empty)))).entries.filterMap _).map _)) = _
  rw [hentries]
  rfl

/-- Ledgers that name the same steps have the same projection. -/
theorem migrationParityValue_of_namedSteps {s s' : StateObject}
    (h : ∀ p, p ∈ namedSteps s ↔ p ∈ namedSteps s') :
    migrationParityValue s .eventCompletedSteps = migrationParityValue s' .eventCompletedSteps := by
  have hkey : ∀ p q : UInt32 × UInt32, completedStepKey p.1 p.2 = completedStepKey q.1 q.2 →
      completedStepEntry p.1 p.2 = completedStepEntry q.1 q.2 := by
    intro p q hpq
    obtain ⟨htask, hstep⟩ := completedStepKey_inj.mp hpq
    rw [htask, hstep]
  rw [migrationParityValue_eventCompletedSteps, migrationParityValue_eventCompletedSteps]
  refine congrArg Json.obj (OrderedMap.ext_get? fun k => Option.ext fun v => ?_)
  rw [OrderedMap.get?_ofList_map hkey, OrderedMap.get?_ofList_map hkey]
  simp only [h]

/-- **A ledger that has been entered from the steps of another names its steps.** -/
theorem Entered.namedSteps {legacy : StateObject} {es : List ExecutionEvent} {s : StateObject}
    (h : Entered (legacyCompletedStepEvents legacy) es s)
    (hall : ∀ p ∈ legacyCompletedStepEvents legacy, some p ∈ es.map observedCompletedStepReplay)
    (p : UInt32 × UInt32) : p ∈ namedSteps s ↔ p ∈ namedSteps legacy := by
  rw [← mem_legacyCompletedStepEvents (s := legacy), FeatureForge.namedSteps, List.mem_filterMap]
  constructor
  · rintro ⟨⟨k, v⟩, hkv, hp⟩
    obtain ⟨q, hq, rfl, rfl⟩ := h.sub k v (OrderedMap.mem_entries.mp hkv)
    rw [legacyCompletedStepFromEntry_entry] at hp
    cases hp
    exact hq
  · intro hp
    exact ⟨_, OrderedMap.mem_entries.mpr (h.has p (hall p hp)),
      legacyCompletedStepFromEntry_entry _ _ _⟩

end FeatureForge
