import Mathlib.Data.List.Find
import FeatureForge.Authority.Sequence

/-!
# The evaluator aggregate

After the recording of a contract and any recordings of reports, the lists of evaluators,
the aggregate state and the open criteria are those the reports tell, each evaluator by its
last one (`Evaluated`, `EvaluationRun.evaluated`).  Where a kind that the contract lists
twice has not passed it is twice in `non_passing_evaluator_kinds`
(`evaluator_aggregate_iff`).
-/

namespace FeatureForge

open MutableHarnessState

/-! ### Lists without duplicates -/

section

variable {values : List String} {value other : String}

theorem mem_pushUnique : other ∈ pushUnique values value ↔ other ∈ values ∨ other = value := by
  unfold pushUnique
  split_ifs with hmem
  · rw [List.contains_iff_mem] at hmem
    constructor
    · exact Or.inl
    · rintro (h | rfl)
      · exact h
      · exact hmem
  · rw [List.mem_append, List.mem_singleton]

theorem nodup_pushUnique : (pushUnique values value).Nodup ↔ values.Nodup := by
  unfold pushUnique
  split_ifs with hmem
  · exact Iff.rfl
  · rw [List.contains_iff_mem] at hmem
    rw [List.nodup_append]
    constructor
    · exact fun h => h.1
    · intro h
      refine ⟨h, List.nodup_singleton _, ?_⟩
      intro a ha b hb hab
      rw [List.mem_singleton] at hb
      rw [← hb, ← hab] at hmem
      exact hmem ha

theorem mem_removeValue : other ∈ removeValue values value ↔ other ∈ values ∧ other ≠ value := by
  rw [removeValue, List.mem_filter, bne_iff_ne]

theorem nodup_removeValue (h : values.Nodup) : (removeValue values value).Nodup := h.filter _

theorem mem_foldl_pushUnique {pushed : List String} :
    ∀ {values : List String},
      other ∈ pushed.foldl pushUnique values ↔ other ∈ values ∨ other ∈ pushed := by
  induction pushed with
  | nil => simp
  | cons value pushed ih =>
    intro values
    rw [List.foldl_cons, ih, mem_pushUnique, List.mem_cons, or_assoc]

theorem nodup_foldl_pushUnique {pushed : List String} :
    ∀ {values : List String}, (pushed.foldl pushUnique values).Nodup ↔ values.Nodup := by
  induction pushed with
  | nil => exact Iff.rfl
  | cons value pushed ih =>
    intro values
    rw [List.foldl_cons, ih, nodup_pushUnique]

theorem mem_foldl_removeValue {removed : List String} :
    ∀ {values : List String},
      other ∈ removed.foldl removeValue values ↔ other ∈ values ∧ other ∉ removed := by
  induction removed with
  | nil => simp
  | cons value removed ih =>
    intro values
    rw [List.foldl_cons, ih, mem_removeValue, List.mem_cons, not_or, and_assoc]

end

/-! ### What the reports tell -/

/-- The verdict of the last report of an evaluator; reports stand latest first. -/
def lastVerdict (reports : List EvaluationReport) (kind : String) : Option String :=
  (reports.find? fun report => report.evaluatorKind = kind).map (·.verdict)

/-- The last report on a criterion. -/
def lastReportOn (reports : List EvaluationReport) (criterion : String) :
    Option EvaluationReport :=
  reports.find? fun report => criterion ∈ report.reportedCriteria

/-- The last report on a criterion has it not passed. -/
def LastNotPassed (reports : List EvaluationReport) (criterion : String) : Prop :=
  ∃ report, lastReportOn reports criterion = some report ∧ criterion ∈ report.failingCriteria

def aggregateOf (contract : ExecutionContract) (reports : List EvaluationReport) : String :=
  if ∃ report ∈ reports, lastVerdict reports report.evaluatorKind = some "blocked" then "blocked"
  else if ∃ report ∈ reports, lastVerdict reports report.evaluatorKind = some "fail" then "fail"
  else if ∃ kind ∈ contract.verifiers, lastVerdict reports kind = none then "pending"
  else "pass"

section

variable {contract : ExecutionContract} {reports : List EvaluationReport}
  {report : EvaluationReport} {kind criterion verdict : String}

theorem lastVerdict_cons : lastVerdict (report :: reports) kind =
    if report.evaluatorKind = kind then some report.verdict else lastVerdict reports kind := by
  rw [lastVerdict, List.find?_cons]
  by_cases h : report.evaluatorKind = kind
  · rw [if_pos h, decide_eq_true h]
    rfl
  · rw [if_neg h, decide_eq_false h]
    rfl

theorem lastReportOn_cons : lastReportOn (report :: reports) criterion =
    if criterion ∈ report.reportedCriteria then some report
    else lastReportOn reports criterion := by
  rw [lastReportOn, List.find?_cons]
  by_cases h : criterion ∈ report.reportedCriteria
  · rw [if_pos h, decide_eq_true h]
  · rw [if_neg h, decide_eq_false h]
    rfl

theorem mem_of_lastVerdict (h : lastVerdict reports kind = some verdict) :
    ∃ report ∈ reports, report.evaluatorKind = kind ∧ report.verdict = verdict := by
  obtain ⟨report, hfind, hverdict⟩ := Option.map_eq_some_iff.mp h
  exact ⟨report, List.mem_of_find?_eq_some hfind, by simpa using List.find?_some hfind, hverdict⟩

theorem exists_lastVerdict : (∃ report ∈ reports,
    lastVerdict reports report.evaluatorKind = some verdict) ↔
    ∃ kind, lastVerdict reports kind = some verdict := by
  constructor
  · rintro ⟨report, _, h⟩
    exact ⟨report.evaluatorKind, h⟩
  · rintro ⟨kind, h⟩
    obtain ⟨report, hmem, rfl, _⟩ := mem_of_lastVerdict h
    exact ⟨report, hmem, h⟩

theorem failing_subset (h : criterion ∈ report.failingCriteria) :
    criterion ∈ report.reportedCriteria := by
  obtain ⟨result, hresult, rfl⟩ := List.mem_map.mp h
  exact List.mem_map.mpr ⟨result, List.mem_of_mem_filter hresult, rfl⟩

theorem lastNotPassed_cons : LastNotPassed (report :: reports) criterion ↔
    criterion ∈ report.failingCriteria ∨
      LastNotPassed reports criterion ∧ criterion ∉ report.reportedCriteria := by
  rw [LastNotPassed, lastReportOn_cons]
  by_cases h : criterion ∈ report.reportedCriteria
  · rw [if_pos h]
    constructor
    · rintro ⟨_, ⟨⟩, hfailing⟩
      exact Or.inl hfailing
    · rintro (hfailing | ⟨_, hnot⟩)
      · exact ⟨report, rfl, hfailing⟩
      · exact absurd h hnot
  · rw [if_neg h]
    constructor
    · exact fun hlast => Or.inr ⟨hlast, h⟩
    · rintro (hfailing | ⟨hlast, _⟩)
      · exact absurd (failing_subset hfailing) h
      · exact hlast

/-- What the gate has checked of a report, under the contract. -/
structure GatedReport (contract : ExecutionContract) (report : EvaluationReport) : Prop where
  sound : ReportSound report contract
  required : report.evaluatorKind ∈ contract.verifiers
  legal : report.verdict ∈ legalVerdicts

/-- A criterion a gated report is on belongs to its evaluator alone. -/
theorem GatedReport.kind_eq {report' : EvaluationReport} (h : GatedReport contract report)
    (h' : GatedReport contract report') (hreported : criterion ∈ report.reportedCriteria) :
    report'.evaluatorKind = report.evaluatorKind ↔ criterion ∈ report'.reportedCriteria := by
  obtain ⟨owner, howner, hkind⟩ := h.sound.owned criterion hreported
  have hmem : owner ∈ contract.criteria ∧ owner.criterionId = criterion := by
    obtain ⟨criterion', hcriterion', heq⟩ :=
      List.mem_map.mp (OrderedMap.mem_of_get?_ofList howner)
    cases heq
    exact ⟨hcriterion', rfl⟩
  obtain ⟨verifier, _, htypes⟩ := contract.owned owner hmem.1
  rw [htypes, List.mem_singleton] at hkind
  constructor
  · intro heq
    rw [← hmem.2]
    refine h'.sound.complete owner hmem.1 ?_
    rw [htypes, heq, hkind]
    exact List.mem_singleton_self _
  · intro hreported'
    obtain ⟨owner', howner', hkind'⟩ := h'.sound.owned criterion hreported'
    rw [howner] at howner'
    obtain rfl := Option.some.inj howner'
    rw [htypes, List.mem_singleton] at hkind'
    rw [hkind', hkind]

/-- **Where every evaluator that reported passed, every criterion did.** -/
theorem not_lastNotPassed (hgated : ∀ report ∈ reports, GatedReport contract report)
    (hpass : ∀ report ∈ reports, lastVerdict reports report.evaluatorKind = some "pass") :
    ¬ LastNotPassed reports criterion := by
  rintro ⟨report, hlast, hfailing⟩
  have hmem := List.mem_of_find?_eq_some hlast
  have hreported := failing_subset hfailing
  -- the last report on the criterion is the last of its evaluator
  have hsame : lastReportOn reports criterion =
      reports.find? fun report' => report'.evaluatorKind = report.evaluatorKind := by
    refine List.find?_congr fun report' hmem' => ?_
    rw [decide_eq_decide]
    exact ((hgated report hmem).kind_eq (hgated report' hmem') hreported).symm
  have hverdict := hpass report hmem
  rw [lastVerdict, ← hsame, hlast, Option.map_some] at hverdict
  rw [(hgated report hmem).sound.pass (Option.some.inj hverdict)] at hfailing
  exact absurd hfailing List.not_mem_nil

end

/-! ### The aggregate of a state -/

/-- The lists that are changed before the aggregate is computed anew, as the reports have
them. -/
structure Bucketed (contract : ExecutionContract) (reports : List EvaluationReport)
    (st : MutableHarnessState) : Prop where
  required : st.requiredEvaluatorKinds = contract.verifiers
  failed_nodup : st.failedEvaluatorKinds.Nodup
  mem_failed : ∀ kind,
    kind ∈ st.failedEvaluatorKinds ↔ lastVerdict reports kind = some "fail"
  blocked_nodup : st.blockedEvaluatorKinds.Nodup
  mem_blocked : ∀ kind,
    kind ∈ st.blockedEvaluatorKinds ↔ lastVerdict reports kind = some "blocked"
  mem_pending : ∀ kind, kind ∈ st.pendingEvaluatorKinds ↔
    kind ∈ contract.verifiers ∧ lastVerdict reports kind = none
  mem_open : ∀ criterion,
    criterion ∈ st.openFailedCriteria ↔ LastNotPassed reports criterion

/-- **The evaluator state of the reports under a contract**, the evaluators that have not
passed as they are computed. -/
structure Evaluated (contract : ExecutionContract) (reports : List EvaluationReport)
    (st : MutableHarnessState) : Prop extends Bucketed contract reports st where
  nonPassing : st.nonPassingEvaluatorKinds = recomputedNonPassing st
  aggregate : st.aggregateEvaluationState = some (aggregateOf contract reports)
  handoff : st.handoffRequired = true ↔ aggregateOf contract reports = "blocked"
  open_pass : aggregateOf contract reports = "pass" → st.openFailedCriteria = []
  gated : ∀ report ∈ reports, GatedReport contract report

section

variable {contract : ExecutionContract} {reports : List EvaluationReport}
  {report : EvaluationReport} {st : MutableHarnessState}

/-- The aggregate state as `recompute_authoritative_evaluator_state` decides it. -/
def recomputedAggregate (st : MutableHarnessState) : String :=
  if !st.blockedEvaluatorKinds.isEmpty then "blocked"
  else if !st.failedEvaluatorKinds.isEmpty then "fail"
  else if st.pendingEvaluatorKinds.isEmpty then "pass"
  else "pending"

theorem recompute_buckets (st : MutableHarnessState) :
    (recomputeAuthoritativeEvaluatorState st).requiredEvaluatorKinds = st.requiredEvaluatorKinds ∧
    (recomputeAuthoritativeEvaluatorState st).failedEvaluatorKinds = st.failedEvaluatorKinds ∧
    (recomputeAuthoritativeEvaluatorState st).blockedEvaluatorKinds = st.blockedEvaluatorKinds ∧
    (recomputeAuthoritativeEvaluatorState st).pendingEvaluatorKinds = st.pendingEvaluatorKinds ∧
    (recomputeAuthoritativeEvaluatorState st).nonPassingEvaluatorKinds =
      recomputedNonPassing st := by
  unfold recomputeAuthoritativeEvaluatorState
  dsimp only
  split_ifs <;> exact ⟨rfl, rfl, rfl, rfl, rfl⟩

theorem recompute_aggregate (st : MutableHarnessState) :
    (recomputeAuthoritativeEvaluatorState st).aggregateEvaluationState =
      some (recomputedAggregate st) := by
  unfold recomputeAuthoritativeEvaluatorState recomputedAggregate
  dsimp only
  split_ifs <;> rfl

theorem recompute_handoff (st : MutableHarnessState) :
    (recomputeAuthoritativeEvaluatorState st).handoffRequired = true ↔
      recomputedAggregate st = "blocked" := by
  unfold recomputeAuthoritativeEvaluatorState recomputedAggregate
  dsimp only
  split_ifs <;> simp

theorem recompute_open (st : MutableHarnessState) :
    (recomputeAuthoritativeEvaluatorState st).openFailedCriteria =
      if recomputedAggregate st = "pass" then [] else st.openFailedCriteria := by
  unfold recomputeAuthoritativeEvaluatorState recomputedAggregate
  dsimp only
  split_ifs <;> first
    | rfl
    | simp_all

theorem isEmpty_eq_false_iff {values : List String} :
    (!values.isEmpty) = true ↔ ∃ value, value ∈ values := by
  rw [Bool.not_eq_true', List.isEmpty_eq_false_iff_exists_mem]

/-- **The aggregate computed from the buckets is that of the reports.** -/
theorem Bucketed.aggregate (h : Bucketed contract reports st) :
    recomputedAggregate st = aggregateOf contract reports := by
  have hblocked : (!st.blockedEvaluatorKinds.isEmpty) = true ↔ ∃ report ∈ reports,
      lastVerdict reports report.evaluatorKind = some "blocked" := by
    rw [isEmpty_eq_false_iff, exists_lastVerdict]
    exact exists_congr h.mem_blocked
  have hfailed : (!st.failedEvaluatorKinds.isEmpty) = true ↔ ∃ report ∈ reports,
      lastVerdict reports report.evaluatorKind = some "fail" := by
    rw [isEmpty_eq_false_iff, exists_lastVerdict]
    exact exists_congr h.mem_failed
  have hpending : st.pendingEvaluatorKinds.isEmpty = true ↔
      ¬ ∃ kind ∈ contract.verifiers, lastVerdict reports kind = none := by
    rw [List.isEmpty_iff, List.eq_nil_iff_forall_not_mem, not_exists]
    exact forall_congr' fun kind => not_congr (h.mem_pending kind)
  unfold recomputedAggregate aggregateOf
  by_cases hb : (!st.blockedEvaluatorKinds.isEmpty) = true
  · rw [if_pos hb, if_pos (hblocked.mp hb)]
  · rw [if_neg hb, if_neg (mt hblocked.mpr hb)]
    by_cases hf : (!st.failedEvaluatorKinds.isEmpty) = true
    · rw [if_pos hf, if_pos (hfailed.mp hf)]
    · rw [if_neg hf, if_neg (mt hfailed.mpr hf)]
      by_cases hp : st.pendingEvaluatorKinds.isEmpty = true
      · rw [if_pos hp, if_neg (hpending.mp hp)]
      · rw [if_neg hp, if_pos (not_not.mp (mt hpending.mpr hp))]

theorem aggregateOf_pass (h : aggregateOf contract reports = "pass") :
    (¬ ∃ report ∈ reports, lastVerdict reports report.evaluatorKind = some "blocked") ∧
    (¬ ∃ report ∈ reports, lastVerdict reports report.evaluatorKind = some "fail") ∧
    ¬ ∃ kind ∈ contract.verifiers, lastVerdict reports kind = none := by
  unfold aggregateOf at h
  split_ifs at h with hblocked hfailed hpending
  · exact absurd h (by decide)
  · exact absurd h (by decide)
  · exact absurd h (by decide)
  · exact ⟨hblocked, hfailed, hpending⟩

/-- Where the aggregate is pass every evaluator that reported has passed. -/
theorem lastVerdict_of_pass (hgated : ∀ report ∈ reports, GatedReport contract report)
    (hpass : aggregateOf contract reports = "pass") :
    ∀ report ∈ reports, lastVerdict reports report.evaluatorKind = some "pass" := by
  intro report hreport
  obtain ⟨hblocked, hfailed, hpending⟩ := aggregateOf_pass hpass
  cases hlast : lastVerdict reports report.evaluatorKind with
  | none => exact absurd ⟨_, (hgated report hreport).required, hlast⟩ hpending
  | some verdict =>
    obtain ⟨last, hmem, _, rfl⟩ := mem_of_lastVerdict hlast
    rcases List.mem_cons.mp (hgated last hmem).legal with hverdict | hverdict
    · rw [hverdict]
    · rcases List.mem_cons.mp hverdict with hverdict | hverdict
      · rw [hverdict] at hlast
        exact absurd ⟨report, hreport, hlast⟩ hfailed
      · rw [List.mem_singleton.mp hverdict] at hlast
        exact absurd ⟨report, hreport, hlast⟩ hblocked

/-- **The recomputed state is that of the reports.** -/
theorem Bucketed.evaluated (h : Bucketed contract reports st)
    (hgated : ∀ report ∈ reports, GatedReport contract report) :
    Evaluated contract reports (recomputeAuthoritativeEvaluatorState st) := by
  obtain ⟨hrequired, hfailed, hblocked, hpending, hnonPassing⟩ := recompute_buckets st
  have hopen := recompute_open st
  rw [h.aggregate] at hopen
  refine ⟨⟨?_, ?_, ?_, ?_, ?_, ?_, ?_⟩, ?_, ?_, ?_, ?_, hgated⟩
  · rw [hrequired, h.required]
  · rw [hfailed]
    exact h.failed_nodup
  · rw [hfailed]
    exact h.mem_failed
  · rw [hblocked]
    exact h.blocked_nodup
  · rw [hblocked]
    exact h.mem_blocked
  · rw [hpending]
    exact h.mem_pending
  · intro criterion
    rw [hopen]
    split_ifs with hpass
    · refine iff_of_false List.not_mem_nil ?_
      exact not_lastNotPassed hgated (lastVerdict_of_pass hgated hpass)
    · exact h.mem_open criterion
  · rw [hnonPassing, recomputedNonPassing, recomputedNonPassing, hrequired, hfailed, hblocked]
  · rw [recompute_aggregate, h.aggregate]
  · rw [recompute_handoff, h.aggregate]
  · intro hpass
    rw [hopen, if_pos hpass]

/-- The buckets are never bootstrapped: where none has failed or is blocked none has not
passed. -/
theorem Evaluated.bootstrap (h : Evaluated contract reports st)
    (verdicts : Option (OrderedMap String String)) :
    bootstrapVerdictBucketsFromLegacyState verdicts st = st := by
  unfold bootstrapVerdictBucketsFromLegacyState
  rw [if_pos]
  rw [Bool.or_eq_true, Bool.or_eq_true, Bool.not_eq_true', Bool.not_eq_true']
  by_cases hfailed : st.failedEvaluatorKinds = []
  · by_cases hblocked : st.blockedEvaluatorKinds = []
    · right
      rw [h.nonPassing, recomputedNonPassing, hfailed, hblocked]
      simp
    · exact Or.inl (Or.inr (by simpa using hblocked))
  · exact Or.inl (Or.inl (by simpa using hfailed))

theorem applyVerdict_same (report : EvaluationReport) (st : MutableHarnessState) :
    (applyVerdict report st).requiredEvaluatorKinds = st.requiredEvaluatorKinds ∧
    (applyVerdict report st).pendingEvaluatorKinds = st.pendingEvaluatorKinds := by
  unfold applyVerdict
  dsimp only
  by_cases hfail : report.verdict = "fail"
  · rw [if_pos hfail]
    exact ⟨rfl, rfl⟩
  · rw [if_neg hfail]
    split_ifs <;> exact ⟨rfl, rfl⟩

theorem applyVerdict_failed (report : EvaluationReport) (st : MutableHarnessState) :
    (applyVerdict report st).failedEvaluatorKinds = if report.verdict = "fail" then
      pushUnique st.failedEvaluatorKinds report.evaluatorKind else st.failedEvaluatorKinds := by
  unfold applyVerdict
  dsimp only
  by_cases hfail : report.verdict = "fail"
  · rw [if_pos hfail, if_pos hfail]
  · rw [if_neg hfail, if_neg hfail]
    split_ifs <;> rfl

theorem applyVerdict_blocked (report : EvaluationReport) (st : MutableHarnessState) :
    (applyVerdict report st).blockedEvaluatorKinds = if report.verdict = "blocked" then
      pushUnique st.blockedEvaluatorKinds report.evaluatorKind else st.blockedEvaluatorKinds := by
  unfold applyVerdict
  dsimp only
  by_cases hfail : report.verdict = "fail"
  · have hblocked : ¬ report.verdict = "blocked" := by
      rw [hfail]
      decide
    rw [if_pos hfail, if_neg hblocked]
  · rw [if_neg hfail]
    split_ifs <;> rfl

theorem applyVerdict_open (report : EvaluationReport) (st : MutableHarnessState) :
    (applyVerdict report st).openFailedCriteria =
      if report.verdict = "fail" ∨ report.verdict = "blocked" then
        report.failingCriteria.foldl pushUnique st.openFailedCriteria
      else st.openFailedCriteria := by
  unfold applyVerdict
  dsimp only
  by_cases hfail : report.verdict = "fail"
  · rw [if_pos hfail, if_pos (Or.inl hfail)]
  · rw [if_neg hfail]
    by_cases hblocked : report.verdict = "blocked"
    · rw [if_pos hblocked, if_pos (Or.inr hblocked)]
    · rw [if_neg hblocked, if_neg (not_or.mpr ⟨hfail, hblocked⟩)]

/-- A bucket without the evaluator, and with it where the verdict is the bucket's, is that of
the reports with the new one. -/
theorem mem_bucket {verdict : String} {bucket : List String}
    (h : ∀ kind, kind ∈ bucket ↔ lastVerdict reports kind = some verdict) (kind : String) :
    kind ∈ (if report.verdict = verdict then
        pushUnique (removeValue bucket report.evaluatorKind) report.evaluatorKind
      else removeValue bucket report.evaluatorKind) ↔
      lastVerdict (report :: reports) kind = some verdict := by
  have hmem : kind ∈ (if report.verdict = verdict then
        pushUnique (removeValue bucket report.evaluatorKind) report.evaluatorKind
      else removeValue bucket report.evaluatorKind) ↔
      kind ∈ removeValue bucket report.evaluatorKind ∨
        kind = report.evaluatorKind ∧ report.verdict = verdict := by
    split_ifs with hverdict
    · rw [mem_pushUnique, and_iff_left hverdict]
    · rw [iff_false_intro hverdict, and_false, or_false]
  rw [hmem, mem_removeValue, h, lastVerdict_cons]
  by_cases heq : report.evaluatorKind = kind
  · rw [if_pos heq, Option.some.injEq]
    constructor
    · rintro (⟨_, hne⟩ | ⟨_, hverdict⟩)
      · exact absurd heq.symm hne
      · exact hverdict
    · exact fun hverdict => Or.inr ⟨heq.symm, hverdict⟩
  · rw [if_neg heq]
    constructor
    · rintro (⟨hlast, _⟩ | ⟨hkind, _⟩)
      · exact hlast
      · exact absurd hkind.symm heq
    · exact fun hlast => Or.inl ⟨hlast, Ne.symm heq⟩

theorem nodup_bucket {verdict : String} {bucket : List String} (h : bucket.Nodup) :
    (if report.verdict = verdict then
        pushUnique (removeValue bucket report.evaluatorKind) report.evaluatorKind
      else removeValue bucket report.evaluatorKind).Nodup := by
  split_ifs
  · exact nodup_pushUnique.mpr (nodup_removeValue h)
  · exact nodup_removeValue h

/-- **One report**: it takes the evaluator out of every bucket and puts it into that of its
verdict. -/
theorem Bucketed.step (h : Bucketed contract reports st) (hgated : GatedReport contract report)
    (fingerprint : String) :
    Bucketed contract (report :: reports)
      (applyVerdict report (supersedeReport report fingerprint st)) := by
  obtain ⟨hrequired, hpending⟩ :=
    applyVerdict_same report (supersedeReport report fingerprint st)
  constructor
  · rw [hrequired]
    exact h.required
  · rw [applyVerdict_failed]
    exact nodup_bucket h.failed_nodup
  · rw [applyVerdict_failed]
    exact mem_bucket h.mem_failed
  · rw [applyVerdict_blocked]
    exact nodup_bucket h.blocked_nodup
  · rw [applyVerdict_blocked]
    exact mem_bucket h.mem_blocked
  · intro kind
    rw [hpending]
    show kind ∈ removeValue st.pendingEvaluatorKinds report.evaluatorKind ↔ _
    rw [mem_removeValue, h.mem_pending, lastVerdict_cons]
    split_ifs with heq
    · exact iff_of_false (fun hk => hk.2 heq.symm) fun hk => by cases hk.2
    · exact and_iff_left (Ne.symm heq)
  · intro criterion
    have hsuperseded : criterion ∈ (supersedeReport report fingerprint st).openFailedCriteria ↔
        LastNotPassed reports criterion ∧ criterion ∉ report.reportedCriteria := by
      rw [← h.mem_open]
      exact mem_foldl_removeValue
    rw [applyVerdict_open, lastNotPassed_cons]
    split_ifs with hverdict
    · rw [mem_foldl_pushUnique, hsuperseded, or_comm]
    · -- a report of another verdict passes, and none of its criteria fails
      have hpass : report.verdict = "pass" := by
        simpa [legalVerdicts, not_or.mp hverdict] using hgated.legal
      rw [hgated.sound.pass hpass, hsuperseded]
      simp

/-- **The step of a report.** -/
theorem Evaluated.evaluation (h : Evaluated contract reports st)
    (hgated : GatedReport contract report) (verdicts : Option (OrderedMap String String))
    (fingerprint : String) :
    Evaluated contract (report :: reports)
      (evaluationTransition verdicts report fingerprint st) := by
  unfold evaluationTransition
  rw [h.bootstrap verdicts]
  dsimp only
  rw [if_pos hgated.legal]
  refine (h.toBucketed.step hgated fingerprint).evaluated ?_
  intro report' hreport'
  rcases List.mem_cons.mp hreport' with rfl | hreport'
  · exact hgated
  · exact h.gated report' hreport'

/-- The step of the contract. -/
theorem evaluated_contract (contract : ExecutionContract) (fingerprint : String)
    (st : MutableHarnessState) :
    Evaluated contract [] (contractTransition contract fingerprint st) := by
  have haggregate : aggregateOf contract [] = "pending" := by
    obtain ⟨kind, hkind⟩ := List.exists_mem_of_ne_nil _ contract.verifiers_ne_nil
    have hpending : ∃ kind ∈ contract.verifiers, lastVerdict [] kind = none := ⟨kind, hkind, rfl⟩
    simp [aggregateOf, hpending]
  refine ⟨⟨rfl, List.nodup_nil, ?_, List.nodup_nil, ?_, ?_, ?_⟩, ?_, ?_, ?_, ?_, ?_⟩
  · exact fun kind => iff_of_false List.not_mem_nil fun h => by cases h
  · exact fun kind => iff_of_false List.not_mem_nil fun h => by cases h
  · exact fun kind => (and_iff_left rfl).symm
  · refine fun criterion => iff_of_false List.not_mem_nil ?_
    rintro ⟨_, ⟨⟩, _⟩
  · show [] = recomputedNonPassing _
    simp [recomputedNonPassing, contractTransition]
  · rw [haggregate]
    rfl
  · rw [haggregate]
    exact iff_of_false Bool.false_ne_true (by decide)
  · exact fun _ => rfl
  · exact fun report hreport => absurd hreport List.not_mem_nil

end

/-! ### The recorded contract stays the active one -/

theorem trim_contractPath (fingerprint : String) :
    nonBlank (some ("contract-" ++ fingerprint ++ ".md")) =
      some ("contract-" ++ fingerprint ++ ".md") := by
  have htrim : trim ("contract-" ++ fingerprint ++ ".md") =
      "contract-" ++ fingerprint ++ ".md" := by
    rw [trim, trimChars_of_ends, String.ofList_toList]
    · simp only [String.toList_append]
      intro c hc
      cases hc
      decide
    · simp only [String.toList_append]
      intro c hc
      rw [List.getLast?_append] at hc
      cases hc
      decide
  rw [nonBlank, Option.map_some, htrim, Option.filter_some, if_pos]
  rw [decide_eq_true_eq]
  intro hempty
  have := congrArg String.toList hempty
  simp only [String.toList_append] at this
  cases this

theorem activeContractPath_evaluation (verdicts : Option (OrderedMap String String))
    (report : EvaluationReport) (fingerprint : String) (st : MutableHarnessState) :
    (evaluationTransition verdicts report fingerprint st).activeContractPath =
      st.activeContractPath := by
  have hrecompute : ∀ st : MutableHarnessState,
      (recomputeAuthoritativeEvaluatorState st).activeContractPath = st.activeContractPath := by
    intro st
    unfold recomputeAuthoritativeEvaluatorState
    dsimp only
    split_ifs <;> rfl
  have happly : ∀ st : MutableHarnessState,
      (applyVerdict report st).activeContractPath = st.activeContractPath := by
    intro st
    unfold applyVerdict
    dsimp only
    split_ifs <;> rfl
  have hbootstrap :
      (bootstrapVerdictBucketsFromLegacyState verdicts st).activeContractPath =
        st.activeContractPath := by
    unfold bootstrapVerdictBucketsFromLegacyState
    cases verdicts with
    | none => dsimp only; split_ifs <;> rfl
    | some verdicts => dsimp only; split_ifs <;> rfl
  unfold evaluationTransition
  dsimp only
  split_ifs
  · rw [hrecompute, happly]
    exact hbootstrap
  · exact hbootstrap

/-- The store of a run: the contract is in it under the path in the state, which is that of
the reports. -/
structure EvaluatedStore (reader : ArtifactReader) (contract : ExecutionContract)
    (reports : List EvaluationReport) (store : AuthorityStore) (st : MutableHarnessState) :
    Prop where
  load : load store.reduced = some st
  evaluated : Evaluated contract reports st
  active : ∃ fingerprint source,
    st.activeContractPath = some ("contract-" ++ fingerprint ++ ".md") ∧
    store.artifacts.get? ("contract-" ++ fingerprint ++ ".md") = some source ∧
    reader.readExecutionContract source = .ok contract

theorem Evaluated.recordedState {contract : ExecutionContract}
    {reports : List EvaluationReport} {st : MutableHarnessState}
    (h : Evaluated contract reports st) (sequence : UInt64) :
    Evaluated contract reports (recordedState sequence st) where
  required := h.required
  failed_nodup := h.failed_nodup
  mem_failed := h.mem_failed
  blocked_nodup := h.blocked_nodup
  mem_blocked := h.mem_blocked
  mem_pending := h.mem_pending
  mem_open := h.mem_open
  nonPassing := h.nonPassing
  aggregate := h.aggregate
  handoff := h.handoff
  open_pass := h.open_pass
  gated := h.gated

theorem Evaluated.phase {contract : ExecutionContract}
    {reports : List EvaluationReport} {st : MutableHarnessState}
    (h : Evaluated contract reports st) (phase : Option String) :
    Evaluated contract reports { st with harnessPhase := phase } where
  required := h.required
  failed_nodup := h.failed_nodup
  mem_failed := h.mem_failed
  blocked_nodup := h.blocked_nodup
  mem_blocked := h.mem_blocked
  mem_pending := h.mem_pending
  mem_open := h.mem_open
  nonPassing := h.nonPassing
  aggregate := h.aggregate
  handoff := h.handoff
  open_pass := h.open_pass
  gated := h.gated

/-! ### Runs -/

/-- One contract recording, then recordings of reports, the last first; between them calls
are refused, and other commands move the harness to another phase. -/
inductive EvaluationRun (reader : ArtifactReader) (contract : ExecutionContract) :
    List EvaluationReport → AuthorityStore → Prop
  | contract (store : AuthorityStore) (fault : Option RecordFault) (source fingerprint : String)
      (hread : reader.readExecutionContract source = .ok contract)
      (hrecorded : ((RecordCall.contract contract source fingerprint).record reader fault
        store).recorded) :
      EvaluationRun reader contract []
        ((RecordCall.contract contract source fingerprint).record reader fault store).store
  | evaluation {reports : List EvaluationReport} {store : AuthorityStore}
      (h : EvaluationRun reader contract reports store) (fault : Option RecordFault)
      (report : EvaluationReport) (source fingerprint : String)
      (verdicts : Option (OrderedMap String String)) (hlegal : report.verdict ∈ legalVerdicts)
      (hrecorded : ((RecordCall.evaluation report source fingerprint verdicts).record reader fault
        store).recorded) :
      EvaluationRun reader contract (report :: reports)
        ((RecordCall.evaluation report source fingerprint verdicts).record reader fault
          store).store
  | refuse {reports : List EvaluationReport} {store : AuthorityStore}
      (h : EvaluationRun reader contract reports store) (fault : Option RecordFault)
      (call : RecordCall) (hrefused : ¬ (call.record reader fault store).recorded) :
      EvaluationRun reader contract reports (call.record reader fault store).store
  | phase {reports : List EvaluationReport} {store : AuthorityStore}
      (h : EvaluationRun reader contract reports store) (phase : String) :
      EvaluationRun reader contract reports
        { store with reduced := store.reduced.set .harnessPhase (.str phase) }

section

variable {reader : ArtifactReader} {contract : ExecutionContract}
  {reports : List EvaluationReport} {report : EvaluationReport} {store : AuthorityStore}
  {st : MutableHarnessState}

/-- The gate has checked a report against the contract of the run. -/
theorem EvaluatedStore.gated (h : EvaluatedStore reader contract reports store st)
    (hgate : revalidateEvaluationLockedState reader store report st [] = [])
    (hsequence : st.latestSequence ≤ report.authoritativeSequence)
    (hlegal : report.verdict ∈ legalVerdicts) : GatedReport contract report := by
  obtain ⟨fingerprint, active, hactive, hrequired, hsound⟩ :=
    revalidateEvaluation_nil hgate hsequence
  obtain ⟨recorded, source, hpath, hartifact, hread⟩ := h.active
  have hname := hactive.path_eq
  rw [hpath, trim_contractPath] at hname
  obtain ⟨source', hartifact', hread'⟩ := hactive.read
  rw [← Option.some.inj hname, hartifact, Option.some.injEq] at hartifact'
  rw [← hartifact', hread] at hread'
  obtain rfl := Except.ok.inj hread'
  rw [h.evaluated.required] at hrequired
  exact ⟨hsound, hrequired, hlegal⟩

theorem load_set_harnessPhase {s : StateObject} (h : load s = some st) (phase : String) :
    load (s.set .harnessPhase (.str phase)) = some { st with harnessPhase := some phase } := by
  have hstrip : (s.set .harnessPhase (.str phase)).strip =
      s.strip.set .harnessPhase (.str phase) := by
    funext f
    by_cases hf : f = .harnessPhase
    · subst hf
      rw [set_self]
      show stripNull (s.set .harnessPhase (.str phase) .harnessPhase) = _
      rw [set_self, stripNull_of_ne (Json.str_ne_null _)]
    · rw [set_of_ne s.strip _ hf]
      show stripNull (s.set .harnessPhase (.str phase) f) = _
      rw [set_of_ne s _ hf]
      rfl
  obtain ⟨hread, rfl⟩ := load_eq_some h
  rw [load, hstrip, fromMembers_set_harnessPhase hread, Option.map_some]
  rfl

/-- **Every run leaves the evaluator state of its reports.** -/
theorem EvaluationRun.evaluated (h : EvaluationRun reader contract reports store) :
    ∃ st, EvaluatedStore reader contract reports store st := by
  induction h with
  | contract store fault source fingerprint hread hrecorded =>
    have hartifact := record_artifact_published hrecorded
    cases record_step reader fault (.contract contract source fingerprint) store with
    | refused hreduced hgate hmemory =>
      rw [RecordOutcome.recorded, hmemory] at hrecorded
      cases hrecorded
    | replayed st hreduced hload hgate hsequence hreplay hmemory =>
      exact absurd hreplay (RecordCall.not_replay_contract hgate)
    | appended st hload hgate hsequence hmemory hreduced =>
      refine ⟨_, ?_, (evaluated_contract contract fingerprint st).recordedState
        contract.authoritativeSequence, fingerprint, source, rfl, hartifact, hread⟩
      rw [hreduced]
      exact @load_appended reader _ _ _ rfl hload
  | evaluation h fault report source fingerprint verdicts hlegal hrecorded ih =>
    obtain ⟨st, hstore⟩ := ih
    obtain ⟨active, contractSource, hpath, hartifact, hread⟩ := hstore.active
    have hkept := @record_artifact_kept reader fault
      (.evaluation report source fingerprint verdicts) _ _ _ hartifact
    cases record_step reader fault (.evaluation report source fingerprint verdicts) _ with
    | refused hreduced hgate hmemory =>
      rw [RecordOutcome.recorded, hmemory] at hrecorded
      cases hrecorded
    | replayed st' hreduced hload hgate hsequence hreplay hmemory =>
      obtain rfl : st = st' := Option.some.inj (hstore.load.symm.trans hload)
      have hgated := hstore.gated hgate (UInt64.le_of_eq hsequence.symm) hlegal
      have hevaluated := hstore.evaluated.evaluation hgated verdicts fingerprint
      refine ⟨st, by rw [hreduced, hload], ?_, active, contractSource, hpath, hkept, hread⟩
      -- the state is already that after the report
      rw [show evaluationTransition verdicts report fingerprint st = st from hreplay.symm]
        at hevaluated
      exact hevaluated
    | appended st' hload hgate hsequence hmemory hreduced =>
      obtain rfl : st = st' := Option.some.inj (hstore.load.symm.trans hload)
      have hgated := hstore.gated hgate (UInt64.le_of_lt hsequence) hlegal
      refine ⟨_, ?_, (hstore.evaluated.evaluation hgated verdicts fingerprint).recordedState
        report.authoritativeSequence, active, contractSource, ?_, hkept, hread⟩
      · rw [hreduced]
        exact @load_appended reader _ _ _ rfl hload
      · exact (activeContractPath_evaluation verdicts report fingerprint st).trans hpath
  | refuse h fault call hrefused ih =>
    obtain ⟨st, hstore⟩ := ih
    obtain ⟨active, contractSource, hpath, hartifact, hread⟩ := hstore.active
    refine ⟨st, ?_, hstore.evaluated, active, contractSource, hpath,
      record_artifact_kept hartifact, hread⟩
    cases record_step reader fault call _ with
    | refused hreduced hgate hmemory => rw [hreduced, hstore.load]
    | replayed st' hreduced => rw [hreduced, hstore.load]
    | appended st' hload hgate hsequence hmemory hreduced =>
      rw [RecordOutcome.recorded, hmemory] at hrefused
      exact absurd rfl hrefused
  | phase h phase ih =>
    obtain ⟨st, hstore⟩ := ih
    exact ⟨_, load_set_harnessPhase hstore.load phase, hstore.evaluated.phase _, hstore.active⟩

/-- What is wanted of the evaluator state: that of the reports, the evaluators that have not
passed the failed and the blocked ones without duplicates. -/
structure EvaluatorAggregate (contract : ExecutionContract) (reports : List EvaluationReport)
    (st : MutableHarnessState) : Prop extends Bucketed contract reports st where
  nonPassing_nodup : st.nonPassingEvaluatorKinds.Nodup
  mem_nonPassing : ∀ kind, kind ∈ st.nonPassingEvaluatorKinds ↔
    kind ∈ st.failedEvaluatorKinds ∨ kind ∈ st.blockedEvaluatorKinds
  aggregate : st.aggregateEvaluationState = some (aggregateOf contract reports)
  handoff : st.handoffRequired = true ↔ st.aggregateEvaluationState = some "blocked"
  open_pass : st.aggregateEvaluationState = some "pass" → st.openFailedCriteria = []

/-- The evaluators of the contract that have not passed, as often as it lists them. -/
def listedNonPassing (contract : ExecutionContract) (reports : List EvaluationReport) :
    List String :=
  contract.verifiers.filter fun kind =>
    lastVerdict reports kind = some "fail" ∨ lastVerdict reports kind = some "blocked"

theorem mem_recomputedNonPassing {kind : String} : kind ∈ recomputedNonPassing st ↔
    kind ∈ st.failedEvaluatorKinds ∨ kind ∈ st.blockedEvaluatorKinds := by
  rw [recomputedNonPassing, mem_foldl_pushUnique, List.mem_append, List.mem_filter,
    Bool.or_eq_true, List.contains_iff_mem, List.contains_iff_mem]
  constructor
  · rintro (⟨_, h⟩ | h) <;> exact h
  · exact Or.inr

theorem Evaluated.nodup_nonPassing (h : Evaluated contract reports st) :
    st.nonPassingEvaluatorKinds.Nodup ↔ (listedNonPassing contract reports).Nodup := by
  have hlisted : (st.requiredEvaluatorKinds.filter fun kind =>
      st.failedEvaluatorKinds.contains kind || st.blockedEvaluatorKinds.contains kind) =
      listedNonPassing contract reports := by
    rw [listedNonPassing, h.required]
    refine List.filter_congr fun kind _ => ?_
    rw [Bool.eq_iff_iff, Bool.or_eq_true, List.contains_iff_mem, List.contains_iff_mem,
      h.mem_failed, h.mem_blocked, decide_eq_true_eq]
  rw [h.nonPassing, recomputedNonPassing, nodup_foldl_pushUnique, hlisted]

theorem Evaluated.aggregate_iff (h : Evaluated contract reports st) :
    EvaluatorAggregate contract reports st ↔ (listedNonPassing contract reports).Nodup := by
  rw [← h.nodup_nonPassing]
  constructor
  · exact EvaluatorAggregate.nonPassing_nodup
  · intro hnodup
    refine ⟨h.toBucketed, hnodup, ?_, h.aggregate, ?_, ?_⟩
    · intro kind
      rw [h.nonPassing, mem_recomputedNonPassing]
    · rw [h.handoff, h.aggregate, Option.some.injEq]
    · rw [h.aggregate, Option.some.injEq]
      exact h.open_pass

/-- **The aggregate is that of the reports exactly where the contract lists no evaluator that
has not passed twice.** -/
theorem evaluator_aggregate_iff (h : EvaluationRun reader contract reports store) :
    ∃ st, load store.reduced = some st ∧
      (EvaluatorAggregate contract reports st ↔ (listedNonPassing contract reports).Nodup) := by
  obtain ⟨st, hstore⟩ := h.evaluated
  exact ⟨st, hstore.load, hstore.evaluated.aggregate_iff⟩

end

/-! ### One report that fails -/

instance (o : RecordOutcome) : Decidable o.recorded :=
  inferInstanceAs (Decidable (o.memory.isSome = true))

/-- A contract of one criterion, its evaluator listed once or twice. -/
def listingContract (twice : Bool) : ExecutionContract where
  authoritativeSequence := 2
  coveredSteps := ["1.1"]
  criteria := [⟨"AC1", ["R1"], ["1.1"], ["spec_compliance"]⟩]
  verifiers := if twice then ["spec_compliance", "spec_compliance"] else ["spec_compliance"]
  evidenceRequirements := []
  retryBudget := 1
  pivotThreshold := 1
  contractFingerprint := "c1"
  verifiers_ne_nil := by cases twice <;> decide
  owned := by cases twice <;> decide

def failingReport : EvaluationReport where
  authoritativeSequence := 3
  sourceContractFingerprint := "c1"
  evaluatorKind := "spec_compliance"
  verdict := "fail"
  criterionResults := [⟨"AC1", "fail", ["R1"], ["1.1"], []⟩]
  affectedSteps := ["1.1"]
  evidenceRefs := []

/-- The contract is recorded and execution begun. -/
def listingBegun (twice : Bool) : AuthorityStore :=
  let store := ((RecordCall.contract (listingContract twice) "contract" "c1").record
    (readerOf (listingContract twice)) none pendingApproval).store
  { store with reduced := store.reduced.set .harnessPhase (.str "executing") }

/-- The report is recorded after that. -/
def listingFailed (twice : Bool) : AuthorityStore :=
  ((RecordCall.evaluation failingReport "evaluation" "e3" none).record
    (readerOf (listingContract twice)) none (listingBegun twice)).store

theorem listing_run (twice : Bool) : EvaluationRun (readerOf (listingContract twice))
    (listingContract twice) [failingReport] (listingFailed twice) := by
  refine .evaluation (.phase (.contract pendingApproval none "contract" "c1" rfl ?_) "executing")
    none failingReport "evaluation" "e3" none (by decide) ?_
  · cases twice <;> decide
  · show ((RecordCall.evaluation failingReport "evaluation" "e3" none).record _ none
      (listingBegun twice)).recorded
    cases twice <;> decide

theorem evaluator_aggregate_listed_once : ∃ st, load (listingFailed false).reduced = some st ∧
    EvaluatorAggregate (listingContract false) [failingReport] st := by
  obtain ⟨st, hload, haggregate⟩ := evaluator_aggregate_iff (listing_run false)
  exact ⟨st, hload, haggregate.mpr (by decide)⟩

/-- **Listed twice, the evaluator that fails is twice among those that have not passed.** -/
theorem nonPassing_listed_twice : EvaluationRun (readerOf (listingContract true))
      (listingContract true) [failingReport] (listingFailed true) ∧
    ∃ st, load (listingFailed true).reduced = some st ∧
      st.nonPassingEvaluatorKinds = ["spec_compliance", "spec_compliance"] ∧
      ¬ EvaluatorAggregate (listingContract true) [failingReport] st := by
  have hrun := listing_run true
  obtain ⟨st, hstore⟩ := hrun.evaluated
  have hkinds : (load (listingFailed true).reduced).map (·.nonPassingEvaluatorKinds) =
      some ["spec_compliance", "spec_compliance"] := by decide
  rw [hstore.load, Option.map_some, Option.some.injEq] at hkinds
  refine ⟨hrun, st, hstore.load, hkinds, fun haggregate => ?_⟩
  have hnodup := haggregate.nonPassing_nodup
  rw [hkinds] at hnodup
  exact absurd hnodup (by decide)

end FeatureForge
