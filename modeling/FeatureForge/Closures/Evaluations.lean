import FeatureForge.Closures.Graph

/-!
# What the passes over the evaluations do

Record by record: the reading of a history (`get?_ingest`), a supersession
(`get?_supersede`) and a stale projection (`get?_foldl_projectStale`).
-/

namespace FeatureForge

theorem trimmed_of_nonBlank {v : Option String} {s : String} (h : nonBlank v = some s) :
    trim s = s ∧ s ≠ "" := by
  obtain ⟨hmem, hne⟩ := Option.filter_eq_some_iff.mp h
  obtain ⟨t, _, rfl⟩ := Option.map_eq_some_iff.mp hmem
  exact ⟨trim_trim t, of_decide_eq_true hne⟩

theorem nonBlank_of_trimmed {s : String} (h : trim s = s ∧ s ≠ "") : nonBlank (some s) = some s := by
  rw [nonBlank, Option.map_some, h.1, Option.filter_some, if_pos (decide_eq_true h.2)]

namespace AuthoritativeClosureGraph

variable {graph : AuthoritativeClosureGraph}

theorem get?_upsertEvaluation (graph : AuthoritativeClosureGraph) (evaluation : ClosureEvaluation)
    (id : String) :
    (graph.upsertEvaluation evaluation).evaluations.get? id =
      if id = evaluation.identity.recordId ∧ ¬(graph.evaluations.get? id).any (fun existing =>
          evaluation.identity.authoritativeSequence < existing.identity.authoritativeSequence) then
        some evaluation
      else graph.evaluations.get? id := by
  unfold upsertEvaluation
  dsimp only
  by_cases hid : id = evaluation.identity.recordId
  · subst hid
    by_cases hkeep : (graph.evaluations.get? evaluation.identity.recordId).any (fun existing =>
        evaluation.identity.authoritativeSequence < existing.identity.authoritativeSequence) = true
    · rw [if_pos hkeep, if_neg fun h => h.2 hkeep]
    · rw [if_neg hkeep, if_pos ⟨rfl, hkeep⟩]
      exact OrderedMap.get?_insert_self _ _ _
  · rw [if_neg (show ¬(id = evaluation.identity.recordId ∧ _) from fun h => hid h.1)]
    split_ifs
    · rfl
    · exact OrderedMap.get?_insert_of_ne _ _ hid

theorem upsertEvaluation_congr {graph' : AuthoritativeClosureGraph}
    (h : graph.evaluations = graph'.evaluations) (evaluation : ClosureEvaluation) :
    (graph.upsertEvaluation evaluation).evaluations =
      (graph'.upsertEvaluation evaluation).evaluations := by
  refine OrderedMap.ext_get? fun id => ?_
  rw [get?_upsertEvaluation, get?_upsertEvaluation, h]

theorem get?_supersede (before : List ClosureFreshness) (graph : AuthoritativeClosureGraph)
    (recordIds : List String) (id : String) :
    (graph.supersede before recordIds).evaluations.get? id =
      (graph.evaluations.get? id).map fun evaluation =>
        if id ∈ recordIds ∧ evaluation.freshness ∈ before then
          { evaluation with freshness := .superseded }
        else evaluation := by
  unfold supersede
  dsimp only
  generalize graph.evaluations = evaluations
  induction recordIds generalizing evaluations with
  | nil =>
    rw [List.foldl_nil]
    cases evaluations.get? id with
    | none => rfl
    | some evaluation => simp
  | cons recordId recordIds ih =>
    rw [List.foldl_cons, ih]
    by_cases hid : id = recordId
    · subst hid
      cases hget : evaluations.get? id with
      | none =>
        dsimp only
        rw [hget]
        rfl
      | some evaluation =>
        dsimp only
        by_cases hbefore : evaluation.freshness ∈ before
        · rw [if_pos hbefore, OrderedMap.get?_insert_self, Option.map_some, Option.map_some,
            if_pos (show id ∈ id :: recordIds ∧ _ from ⟨List.mem_cons_self, hbefore⟩)]
          split_ifs <;> rfl
        · rw [if_neg hbefore, hget, Option.map_some, Option.map_some, if_neg fun h => hbefore h.2,
            if_neg fun h => hbefore h.2]
    · simp only [List.mem_cons, hid, false_or]
      refine congrArg (Option.map _) ?_
      cases evaluations.get? recordId with
      | none => rfl
      | some evaluation =>
        dsimp only
        split_ifs
        · exact OrderedMap.get?_insert_of_ne _ _ hid
        · rfl

/-! ### Histories -/

/-- One record of a history read. -/
def ingestRecord (evaluationOf : String → Json → Option ClosureEvaluation)
    (graph : AuthoritativeClosureGraph) (record : String × Json) : AuthoritativeClosureGraph :=
  match evaluationOf record.1 record.2 with
  | none => graph
  | some evaluation => graph.upsertEvaluation evaluation

theorem ingest_eq (evaluationOf : String → Json → Option ClosureEvaluation) (history : Object)
    (graph : AuthoritativeClosureGraph) :
    graph.ingest evaluationOf history =
      history.entries.foldl (ingestRecord evaluationOf) graph := rfl

theorem get?_ingestRecord {evaluationOf : String → Json → Option ClosureEvaluation}
    {record : String × Json} (hid : ∀ evaluation, evaluationOf record.1 record.2 = some evaluation →
      evaluation.identity.recordId = record.1)
    (hnew : graph.evaluations.get? record.1 = none) (id : String) :
    (ingestRecord evaluationOf graph record).evaluations.get? id =
      if id = record.1 then evaluationOf record.1 record.2 else graph.evaluations.get? id := by
  unfold ingestRecord
  cases hrecord : evaluationOf record.1 record.2 with
  | none =>
    dsimp only
    split_ifs with hkey
    · rw [hkey, hnew]
    · rfl
  | some evaluation =>
    dsimp only
    rw [get?_upsertEvaluation, hid evaluation hrecord]
    by_cases hkey : id = record.1
    · rw [if_pos hkey, if_pos ⟨hkey, by rw [hkey, hnew]; exact Bool.false_ne_true⟩]
    · rw [if_neg hkey, if_neg fun h => hkey h.1]

theorem get?_foldl_ingestRecord (evaluationOf : String → Json → Option ClosureEvaluation)
    (id : String) : ∀ (records : List (String × Json)) (graph : AuthoritativeClosureGraph),
    (records.map Prod.fst).Nodup →
    (∀ record ∈ records, ∀ evaluation, evaluationOf record.1 record.2 = some evaluation →
      evaluation.identity.recordId = record.1) →
    (∀ record ∈ records, graph.evaluations.get? record.1 = none) →
    (records.foldl (ingestRecord evaluationOf) graph).evaluations.get? id =
      ((OrderedMap.lookup id records).bind (evaluationOf id)).or (graph.evaluations.get? id) := by
  intro records
  induction records with
  | nil => exact fun _ _ _ _ => rfl
  | cons record records ih =>
    intro graph hnodup hid hnew
    rw [List.map_cons, List.nodup_cons] at hnodup
    rw [List.forall_mem_cons] at hid hnew
    have hget := get?_ingestRecord hid.1 hnew.1
    have hnew' : ∀ other ∈ records,
        (ingestRecord evaluationOf graph record).evaluations.get? other.1 = none := by
      intro other hother
      have hkey : other.1 ≠ record.1 := fun hkey =>
        hnodup.1 (hkey ▸ List.mem_map_of_mem hother)
      rw [hget, if_neg hkey]
      exact hnew.2 other hother
    rw [List.foldl_cons, ih _ hnodup.2 hid.2 hnew', hget, OrderedMap.lookup]
    by_cases hkey : id = record.1
    · rw [if_pos hkey, if_pos hkey, hkey, OrderedMap.lookup_eq_none.mpr hnodup.1, hnew.1,
        Option.bind_none, Option.none_or, Option.bind_some, Option.or_none]
    · rw [if_neg hkey, if_neg hkey]

/-- **A history is read record by record**, where each record is under its own id and none has
been read before. -/
theorem get?_ingest {evaluationOf : String → Json → Option ClosureEvaluation} {history : Object}
    (hid : ∀ key payload evaluation, history.get? key = some payload →
      evaluationOf key payload = some evaluation → evaluation.identity.recordId = key)
    (hnew : ∀ key payload, history.get? key = some payload → graph.evaluations.get? key = none)
    (id : String) :
    (graph.ingest evaluationOf history).evaluations.get? id =
      ((history.get? id).bind (evaluationOf id)).or (graph.evaluations.get? id) :=
  get?_foldl_ingestRecord evaluationOf id history.entries graph history.nodup_keys
    (fun _ hrecord evaluation => hid _ _ evaluation (OrderedMap.mem_entries.mp hrecord))
    fun _ hrecord => hnew _ _ (OrderedMap.mem_entries.mp hrecord)

/-- Branch closures are read as the other records are, their edges apart. -/
theorem evaluations_ingestBranchClosures : ∀ (records : List (String × Json))
    (graph graph' : AuthoritativeClosureGraph), graph.evaluations = graph'.evaluations →
    (records.foldl (fun graph record => graph.ingestBranchClosure record.1 record.2)
      graph).evaluations =
        (records.foldl (ingestRecord branchClosureEvaluation) graph').evaluations := by
  intro records
  induction records with
  | nil => exact fun _ _ h => h
  | cons record records ih =>
    intro graph graph' h
    have hrecord : (graph.ingestBranchClosure record.1 record.2).evaluations =
        (ingestRecord branchClosureEvaluation graph' record).evaluations := by
      unfold ingestBranchClosure ingestRecord
      cases branchClosureEvaluation record.1 record.2 with
      | none => exact h
      | some evaluation => exact upsertEvaluation_congr (by exact h) evaluation
    exact ih _ _ hrecord

/-- **The branch closures are read record by record**, and of those that are superseded none
stays current. -/
theorem get?_ingestBranchClosureHistory {records : Object} (supersededIds : List String)
    (hid : ∀ key payload evaluation, records.get? key = some payload →
      branchClosureEvaluation key payload = some evaluation → evaluation.identity.recordId = key)
    (hnew : ∀ key payload, records.get? key = some payload → graph.evaluations.get? key = none)
    (id : String) :
    (graph.ingestBranchClosureHistory records supersededIds).evaluations.get? id =
      (((records.get? id).bind (branchClosureEvaluation id)).or (graph.evaluations.get? id)).map
        fun evaluation =>
          if id ∈ supersededIds ∧ evaluation.freshness ∈ [ClosureFreshness.current] then
            { evaluation with freshness := .superseded }
          else evaluation := by
  unfold ingestBranchClosureHistory
  rw [get?_supersede, evaluations_ingestBranchClosures records.entries graph graph rfl, ← ingest_eq,
    get?_ingest hid hnew]

/-- What a pass keeps of the evaluation of a record, the evaluations of a history keep that do. -/
theorem ingest_invariant {P : ClosureEvaluation → Prop} {id : String}
    {evaluationOf : String → Json → Option ClosureEvaluation} {history : Object}
    (hnew : ∀ key payload evaluation, evaluationOf key payload = some evaluation → P evaluation)
    (h : ∀ evaluation, graph.evaluations.get? id = some evaluation → P evaluation) :
    ∀ evaluation, (graph.ingest evaluationOf history).evaluations.get? id = some evaluation →
      P evaluation := by
  unfold ingest
  generalize history.entries = records
  induction records generalizing graph with
  | nil => exact h
  | cons record records ih =>
    rw [List.foldl_cons]
    cases hrecord : evaluationOf record.1 record.2 with
    | none => exact ih h
    | some new =>
      refine ih fun evaluation hget => ?_
      rw [get?_upsertEvaluation] at hget
      split_ifs at hget
      · cases hget
        exact hnew _ _ _ hrecord
      · exact h evaluation hget

theorem get?_projectStale (reasonCodes : List String) (graph : AuthoritativeClosureGraph)
    (recordId id : String) :
    (graph.projectStale reasonCodes recordId).evaluations.get? id =
      (graph.evaluations.get? id).map fun evaluation =>
        if id = recordId then staleEvaluation reasonCodes evaluation else evaluation := by
  unfold projectStale
  by_cases hid : id = recordId
  · subst hid
    cases hget : graph.evaluations.get? id with
    | none =>
      dsimp only
      rw [hget]
      rfl
    | some evaluation =>
      dsimp only
      rw [OrderedMap.get?_insert_self, Option.map_some, if_pos rfl]
  · have hsame : graph.evaluations.get? id = (graph.evaluations.get? id).map fun evaluation =>
        if id = recordId then staleEvaluation reasonCodes evaluation else evaluation := by
      cases graph.evaluations.get? id with
      | none => rfl
      | some evaluation => rw [Option.map_some, if_neg hid]
    rw [← hsame]
    cases graph.evaluations.get? recordId with
    | none => rfl
    | some evaluation => exact OrderedMap.get?_insert_of_ne _ _ hid

/-- A projection on different records, record by record. -/
theorem get?_foldl_projectStale (reasonCodes : List String) (id : String) :
    ∀ {recordIds : List String} (graph : AuthoritativeClosureGraph), recordIds.Nodup →
    (recordIds.foldl (projectStale reasonCodes) graph).evaluations.get? id =
      (graph.evaluations.get? id).map fun evaluation =>
        if id ∈ recordIds then staleEvaluation reasonCodes evaluation else evaluation := by
  intro recordIds
  induction recordIds with
  | nil =>
    intro graph _
    cases h : graph.evaluations.get? id with
    | none => exact h
    | some evaluation => exact h
  | cons recordId recordIds ih =>
    intro graph hnodup
    rw [List.nodup_cons] at hnodup
    rw [List.foldl_cons, ih _ hnodup.2, get?_projectStale, Option.map_map]
    refine congrArg (fun f => (graph.evaluations.get? id).map f) (funext fun evaluation => ?_)
    rw [Function.comp_apply]
    by_cases hid : id = recordId
    · subst hid
      rw [if_pos rfl, if_neg hnodup.1, if_pos List.mem_cons_self]
    · simp only [List.mem_cons, hid, false_or, if_false]

theorem nodup_lateStageCandidateClosureIds (signals : ClosureGraphSignals) :
    (lateStageCandidateClosureIds signals).Nodup :=
  OrderedMap.nodup_keys _

/-- **A stale projection, record by record.** -/
theorem get?_applyLateStageStaleProjection (signals : ClosureGraphSignals)
    (graph : AuthoritativeClosureGraph) (id : String) :
    (graph.applyLateStageStaleProjection signals).evaluations.get? id =
      (graph.evaluations.get? id).map fun evaluation =>
        if projectsStale signals = true ∧ id ∈ lateStageCandidateClosureIds signals then
          staleEvaluation signals.staleReasonCodes evaluation
        else evaluation := by
  unfold applyLateStageStaleProjection
  by_cases hsignals : projectsStale signals = true
  · rw [if_pos hsignals,
      get?_foldl_projectStale _ _ _ (nodup_lateStageCandidateClosureIds signals)]
    simp only [hsignals, true_and]
  · rw [if_neg hsignals]
    simp [hsignals]

theorem freshness_staleEvaluation_ne (reasonCodes : List String) (evaluation : ClosureEvaluation) :
    (staleEvaluation reasonCodes evaluation).freshness ≠ .current := by
  unfold staleEvaluation
  dsimp only
  split_ifs with h
  · nofun
  · exact fun hcurrent => h (Or.inl hcurrent)

end AuthoritativeClosureGraph

end FeatureForge
