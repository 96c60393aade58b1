import FeatureForge.Routing.Invariants
import Mathlib.Logic.Function.Iterate

/-!
# Enforcing the read surface

A status that violates an invariant recommends nothing once it is enforced, and the oracle rejects
every mutation on it (`recommendsNothing_convert`, `decide_convert`).  Enforcing once more changes
nothing, and a runtime bug is kept, unless the status calls for the marker of a stale state
without a target: then a runtime bug is taken for a reconcile (`read_surface_enforced_iff`).
-/

namespace FeatureForge

variable {status : PlanExecutionStatus} {authority : Option TargetlessStaleAuthority}

/-! ### What is reported -/

theorem any_reportWhen (condition : Bool) (code : String) (severity : RuntimeInvariantSeverity)
    (p : RuntimeInvariantViolation → Bool) :
    (reportWhen condition code severity).any p = (condition && p ⟨code, severity⟩) := by
  cases condition with
  | false => rfl
  | true =>
    rw [reportWhen, if_pos rfl, List.any_cons, List.any_nil, Bool.or_false]
    rfl

/-- A status that is a runtime bug as it is shown. -/
def PlanExecutionStatus.runtimeBug (status : PlanExecutionStatus) : Bool :=
  status.overlappingIds ≠ [] || status.illegalExecutionCommandContext ||
    status.recommendedCommandHidden || status.nextPublicActionHidden ||
    status.argvHasTemplateTokens || status.terminalRecommendedCommand ||
    status.waitingLocalMutation || status.recommendedMutationRejected

theorem any_runtimeBug : ((checkRuntimeStatusInvariants status .readSurface authority).any
    fun violation => violation.severity = .runtimeBug) = status.runtimeBug := by
  unfold checkRuntimeStatusInvariants checkPublicCommands PlanExecutionStatus.runtimeBug
  simp only [List.any_append, any_reportWhen]
  simp [Bool.or_assoc]

theorem any_reasonCode : ((checkRuntimeStatusInvariants status .readSurface authority).any
    fun violation => violation.code = TargetlessStaleReconcile.reasonCode) =
      status.targetlessStale authority := by
  unfold checkRuntimeStatusInvariants checkPublicCommands
  simp only [List.any_append, any_reportWhen]
  simp [TargetlessStaleReconcile.reasonCode]

theorem isEmpty_check : (checkRuntimeStatusInvariants status .readSurface authority).isEmpty =
    !(status.runtimeBug || status.executionReentryTargetMissing ||
      status.targetlessStale authority) := by
  have hany : ∀ violations : List RuntimeInvariantViolation,
      violations.isEmpty = !(violations.any fun _ => true) := fun violations => by
    cases violations <;> rfl
  rw [hany]
  unfold checkRuntimeStatusInvariants checkPublicCommands PlanExecutionStatus.runtimeBug
  simp only [List.any_append, any_reportWhen, Bool.and_true]
  simp
  ac_rfl

/-- The codes of the invariants. -/
def runtimeInvariantCodes : List String :=
  ["current_stale_closure_overlap", "execution_reentry_target_missing",
    "illegal_execution_command_context", "recommended_command_hidden_or_debug",
    "recommended_public_command_argv_template_tokens", "next_public_action_hidden_or_debug",
    "recommended_command_next_action_mismatch", TargetlessStaleReconcile.reasonCode,
    "terminal_recommended_command", "waiting_external_input_local_mutation",
    "recommended_mutation_command_rejected"]

theorem code_of_mem_reportWhen {condition : Bool} {code : String}
    {severity : RuntimeInvariantSeverity} {violation : RuntimeInvariantViolation}
    (h : violation ∈ reportWhen condition code severity) : violation.code = code := by
  unfold reportWhen at h
  split_ifs at h with hcondition
  · rw [List.mem_singleton.mp h]
  · cases h

/-- What is reported has the code of an invariant. -/
theorem code_of_mem_check {mode : InvariantEnforcementMode} {violation : RuntimeInvariantViolation}
    (h : violation ∈ checkRuntimeStatusInvariants status mode authority) :
    violation.code ∈ runtimeInvariantCodes := by
  unfold checkRuntimeStatusInvariants checkPublicCommands at h
  simp only [List.mem_append] at h
  unfold runtimeInvariantCodes
  rcases h with ((((((h | h) | h) | (((h | h) | h) | h)) | h) | h) | h) | h <;>
    (rw [code_of_mem_reportWhen h]; simp)

/-! ### What recommends nothing -/

/-- Every surface that recommends a command is empty. -/
structure PlanExecutionStatus.RecommendsNothing (status : PlanExecutionStatus) : Prop where
  recommendedPublicCommand : status.recommendedPublicCommand = none
  recommendedPublicCommandArgv : status.recommendedPublicCommandArgv = none
  recommendedPublicCommandTemplate : status.recommendedPublicCommandTemplate = none
  recommendedCommand : status.recommendedCommand = none
  nextPublicAction : status.nextPublicAction = none
  publicRepairTargets : status.publicRepairTargets = []
  executionCommandContext : status.executionCommandContext = none

theorem runtimeBug_of_recommendsNothing (h : status.RecommendsNothing) :
    status.runtimeBug = decide (status.overlappingIds ≠ []) := by
  unfold PlanExecutionStatus.runtimeBug PlanExecutionStatus.illegalExecutionCommandContext
    PlanExecutionStatus.recommendedCommandHidden PlanExecutionStatus.nextPublicActionHidden
    PlanExecutionStatus.argvHasTemplateTokens PlanExecutionStatus.terminalRecommendedCommand
    PlanExecutionStatus.waitingLocalMutation PlanExecutionStatus.recommendedMutationRejected
  rw [h.recommendedPublicCommand, h.recommendedPublicCommandArgv, h.recommendedCommand,
    h.nextPublicAction, h.executionCommandContext]
  simp

theorem executionReentryTargetMissing_of_recommendsNothing (h : status.RecommendsNothing) :
    status.executionReentryTargetMissing = false := by
  unfold PlanExecutionStatus.executionReentryTargetMissing
    PlanExecutionStatus.exposesPublicExecutionMutation
  rw [h.recommendedPublicCommand]
  simp

/-! ### Conversion -/

theorem mem_pushCodeOnce {codes : List String} {code c : String} :
    c ∈ pushCodeOnce codes code ↔ c ∈ codes ∨ c = code := by
  unfold pushCodeOnce
  split_ifs with hmem
  · refine (or_iff_left_of_imp ?_).symm
    rintro rfl
    exact hmem
  · rw [List.mem_append, List.mem_singleton]

theorem pushCodeOnce_of_mem {codes : List String} {code : String} (h : code ∈ codes) :
    pushCodeOnce codes code = codes :=
  if_pos h

/-- Only the codes and the blocking records differ. -/
def SameButCodes (status status' : PlanExecutionStatus) : Prop :=
  ∃ reasonCodes blockingReasonCodes blockingRecords, status' = { status with
    reasonCodes := reasonCodes
    blockingReasonCodes := blockingReasonCodes
    blockingRecords := blockingRecords }

theorem SameButCodes.withBlockingRecords {status' : PlanExecutionStatus}
    (h : SameButCodes status status') (records : List StatusBlockingRecord) :
    SameButCodes status { status' with blockingRecords := records } := by
  obtain ⟨_, _, _, rfl⟩ := h
  exact ⟨_, _, _, rfl⟩

theorem pushViolation_spec (status : PlanExecutionStatus) (violation : RuntimeInvariantViolation) :
    SameButCodes status (pushViolation status violation) ∧
      (∀ c, c ∈ (pushViolation status violation).reasonCodes ↔
        c ∈ status.reasonCodes ∨ c = violation.code) ∧
      ∀ c, c ∈ (pushViolation status violation).blockingReasonCodes ↔
        c ∈ status.blockingReasonCodes ∨ c = violation.code ∨
          (violation.code = TargetlessStaleReconcile.reasonCode ∧
            c = TargetlessStaleReconcile.missingAuthorityCode) := by
  unfold pushViolation TargetlessStaleReconcile.ensureStatusDiagnostic
  by_cases hcode : violation.code = TargetlessStaleReconcile.reasonCode
  · rw [if_pos hcode, hcode]
    refine ⟨⟨_, _, _, rfl⟩, fun c => mem_pushCodeOnce, fun c => ?_⟩
    simp only [mem_pushCodeOnce]
    tauto
  · rw [if_neg hcode]
    refine ⟨⟨_, _, _, rfl⟩, fun c => mem_pushCodeOnce, fun c => mem_pushCodeOnce.trans ?_⟩
    exact or_congr_right (or_iff_left fun h => hcode h.1).symm

theorem foldl_pushViolation_spec (violations : List RuntimeInvariantViolation) :
    ∀ status : PlanExecutionStatus, SameButCodes status (violations.foldl pushViolation status) ∧
      (∀ c, c ∈ (violations.foldl pushViolation status).reasonCodes ↔
        c ∈ status.reasonCodes ∨ ∃ violation ∈ violations, c = violation.code) ∧
      ∀ c, c ∈ (violations.foldl pushViolation status).blockingReasonCodes ↔
        c ∈ status.blockingReasonCodes ∨ ∃ violation ∈ violations, c = violation.code ∨
          (violation.code = TargetlessStaleReconcile.reasonCode ∧
            c = TargetlessStaleReconcile.missingAuthorityCode) := by
  induction violations with
  | nil => exact fun status => ⟨⟨_, _, _, rfl⟩, fun c => by simp, fun c => by simp⟩
  | cons violation violations ih =>
    intro status
    obtain ⟨⟨_, _, _, hpushed⟩, hreasons, hblocking⟩ := pushViolation_spec status violation
    obtain ⟨⟨_, _, _, hfolded⟩, hreasons', hblocking'⟩ := ih (pushViolation status violation)
    rw [List.foldl_cons]
    refine ⟨⟨_, _, _, hfolded.trans (by rw [hpushed])⟩, fun c => ?_, fun c => ?_⟩
    · rw [hreasons', hreasons, or_assoc, List.exists_mem_cons_iff]
    · rw [hblocking', hblocking, or_assoc, List.exists_mem_cons_iff]

/-- What a conversion leaves of a status, but for its codes. -/
def convertedBase (hasRuntimeBug : Bool) (status : PlanExecutionStatus) : PlanExecutionStatus :=
  clearRecommendations (setDiagnosticPhase hasRuntimeBug status)

/-- **A converted status.** -/
theorem convert_spec (status : PlanExecutionStatus) {violations : List RuntimeInvariantViolation}
    {hasRuntimeBug targetless : Bool}
    (hbug : (violations.any fun violation => violation.severity = .runtimeBug) = hasRuntimeBug)
    (htargetless : (violations.any fun violation =>
      violation.code = TargetlessStaleReconcile.reasonCode) = targetless) :
    SameButCodes (convertedBase hasRuntimeBug status)
        (convertStatusToRuntimeReconcileOrBug status violations) ∧
      (∀ c, c ∈ (convertStatusToRuntimeReconcileOrBug status violations).reasonCodes ↔
        c ∈ status.reasonCodes ∨ ∃ violation ∈ violations, c = violation.code) ∧
      ∀ c, c ∈ (convertStatusToRuntimeReconcileOrBug status violations).blockingReasonCodes ↔
        c ∈ status.blockingReasonCodes ∨ (∃ violation ∈ violations, c = violation.code) ∨
          (targetless = true ∧ c = TargetlessStaleReconcile.missingAuthorityCode) := by
  obtain ⟨⟨_, _, _, hsame⟩, hreasons, hblocking⟩ :=
    foldl_pushViolation_spec violations (convertedBase hasRuntimeBug status)
  have hbase : (convertedBase hasRuntimeBug status).reasonCodes = status.reasonCodes ∧
      (convertedBase hasRuntimeBug status).blockingReasonCodes = status.blockingReasonCodes := by
    cases hasRuntimeBug <;> exact ⟨rfl, rfl⟩
  have hmissing : ∀ c, (∃ violation ∈ violations, c = violation.code ∨
      (violation.code = TargetlessStaleReconcile.reasonCode ∧
        c = TargetlessStaleReconcile.missingAuthorityCode)) ↔
      (∃ violation ∈ violations, c = violation.code) ∨
        (targetless = true ∧ c = TargetlessStaleReconcile.missingAuthorityCode) := fun c => by
    rw [← htargetless, List.any_eq_true]
    simp only [decide_eq_true_eq]
    constructor
    · rintro ⟨violation, hmem, rfl | ⟨hcode, hc⟩⟩
      · exact Or.inl ⟨violation, hmem, rfl⟩
      · exact Or.inr ⟨⟨violation, hmem, hcode⟩, hc⟩
    · rintro (⟨violation, hmem, rfl⟩ | ⟨⟨violation, hmem, hcode⟩, hc⟩)
      · exact ⟨violation, hmem, Or.inl rfl⟩
      · exact ⟨violation, hmem, Or.inr ⟨hcode, hc⟩⟩
  rw [hbase.1] at hreasons
  simp only [hbase.2, hmissing] at hblocking
  unfold convertStatusToRuntimeReconcileOrBug
  rw [hbug, htargetless]
  cases targetless with
  | false => exact ⟨⟨_, _, _, hsame⟩, hreasons, hblocking⟩
  | true => exact ⟨SameButCodes.withBlockingRecords ⟨_, _, _, hsame⟩ _, hreasons, hblocking⟩

theorem SameButCodes.recommendsNothing {hasRuntimeBug : Bool} {status' : PlanExecutionStatus}
    (h : SameButCodes (convertedBase hasRuntimeBug status) status') :
    status'.RecommendsNothing := by
  obtain ⟨_, _, _, rfl⟩ := h
  exact ⟨rfl, rfl, rfl, rfl, rfl, rfl, rfl⟩

/-- What an enforced status keeps, and its new phase. -/
theorem SameButCodes.kept {hasRuntimeBug : Bool} {status' : PlanExecutionStatus}
    (h : SameButCodes (convertedBase hasRuntimeBug status) status') :
    status'.reviewStateStatus = status.reviewStateStatus ∧
      status'.staleUnreviewedClosures = status.staleUnreviewedClosures ∧
      status'.currentTaskClosures = status.currentTaskClosures ∧
      status'.blockingTask = status.blockingTask ∧
      status'.phaseDetail = (if hasRuntimeBug then detailBlockedRuntimeBug
        else detailRuntimeReconcileRequired) ∧
      status'.stateKind = (if hasRuntimeBug then detailBlockedRuntimeBug
        else detailRuntimeReconcileRequired) := by
  obtain ⟨_, _, _, rfl⟩ := h
  cases hasRuntimeBug <;> exact ⟨rfl, rfl, rfl, rfl, rfl, rfl⟩

theorem stateKindIsBlockedRuntimeBug_self :
    stateKindIsBlockedRuntimeBug detailBlockedRuntimeBug = true := by decide

theorem not_blockedRuntimeBug_reconcile :
    stateKindIsBlockedRuntimeBug detailRuntimeReconcileRequired = false := by decide

theorem reconcile_ne_blocked : detailRuntimeReconcileRequired ≠ detailBlockedRuntimeBug := by
  decide

/-- **No mutation is allowed** on a converted status. -/
theorem SameButCodes.rejects {hasRuntimeBug : Bool} {status' : PlanExecutionStatus}
    (h : SameButCodes (convertedBase hasRuntimeBug status) status')
    (request : PublicMutationRequest) :
    (decidePublicMutation status' request).allowed = false := by
  obtain ⟨_, _, _, _, hphase, hkind⟩ := h.kept
  cases hasRuntimeBug with
  | true =>
    refine decide_of_blockedRuntimeBug ?_ request
    rw [hkind]
    exact stateKindIsBlockedRuntimeBug_self
  | false =>
    refine decide_of_diagnosticOnly ?_ request
    have hnothing := h.recommendsNothing
    unfold PlanExecutionStatus.runtimeReconcileRouteIsDiagnosticOnly
    rw [hphase, hnothing.recommendedPublicCommand, hnothing.recommendedPublicCommandArgv,
      hnothing.recommendedPublicCommandTemplate, hnothing.nextPublicAction,
      hnothing.publicRepairTargets]
    simp

/-! ### Enforcing -/

/-- A status that is converted, of which something has been reported. -/
theorem applyReadSurfaceInvariants_spec
    (h : (checkRuntimeStatusInvariants status .readSurface authority).isEmpty = false) :
    SameButCodes (convertedBase status.runtimeBug status)
        (applyReadSurfaceInvariants authority status) ∧
      (∀ c, c ∈ (applyReadSurfaceInvariants authority status).reasonCodes ↔ c ∈ status.reasonCodes ∨
        ∃ violation ∈ checkRuntimeStatusInvariants status .readSurface authority,
          c = violation.code) ∧
      ∀ c, c ∈ (applyReadSurfaceInvariants authority status).blockingReasonCodes ↔
        c ∈ status.blockingReasonCodes ∨
        (∃ violation ∈ checkRuntimeStatusInvariants status .readSurface authority,
          c = violation.code) ∨
        (status.targetlessStale authority = true ∧
          c = TargetlessStaleReconcile.missingAuthorityCode) := by
  unfold applyReadSurfaceInvariants
  dsimp only
  rw [h]
  exact convert_spec status any_runtimeBug any_reasonCode

theorem applyReadSurfaceInvariants_of_isEmpty
    (h : (checkRuntimeStatusInvariants status .readSurface authority).isEmpty = true) :
    applyReadSurfaceInvariants authority status = status := by
  unfold applyReadSurfaceInvariants
  dsimp only
  rw [if_pos h]

/-- The status calls for the marker of a stale state without a target. -/
def PlanExecutionStatus.needsMarker (status : PlanExecutionStatus)
    (authority : Option TargetlessStaleAuthority) : Bool :=
  authority.any (TargetlessStaleReconcile.statusNeedsMarker status)

theorem targetlessStale_eq : status.targetlessStale authority =
    (!TargetlessStaleReconcile.statusHasDiagnostic status && status.needsMarker authority) := by
  unfold PlanExecutionStatus.targetlessStale PlanExecutionStatus.needsMarker
  cases authority with
  | none => simp
  | some authority => rfl

theorem overlappingIds_of_needsMarker (h : status.needsMarker authority = true) :
    status.overlappingIds = [] := by
  obtain ⟨authority, _, hneeds⟩ := (Option.any_eq_true _ _).mp h
  unfold TargetlessStaleReconcile.statusNeedsMarker at hneeds
  simp only [Bool.and_eq_true, List.isEmpty_iff] at hneeds
  rw [PlanExecutionStatus.overlappingIds, hneeds.1.1.2]
  rfl

/-- **Enforcing leaves what calls for the marker.** -/
theorem needsMarker_apply
    (h : (checkRuntimeStatusInvariants status .readSurface authority).isEmpty = false) :
    (applyReadSurfaceInvariants authority status).needsMarker authority =
      status.needsMarker authority := by
  obtain ⟨hsame, hreasons, hblocking⟩ := applyReadSurfaceInvariants_spec h
  obtain ⟨hreview, hstale, _, htask, _⟩ := hsame.kept
  have hcode : ∀ c, c ∉ runtimeInvariantCodes →
      ¬ ∃ violation ∈ checkRuntimeStatusInvariants status .readSurface authority,
        c = violation.code := by
    rintro c hc ⟨violation, hmem, rfl⟩
    exact hc (code_of_mem_check hmem)
  have hnegative := hcode reasonNegativeResultRequiresExecutionReentry (by decide)
  have hcandidate := hcode reasonTaskClosureBaselineRepairCandidate (by decide)
  have hmissing : ¬(status.targetlessStale authority = true ∧
      reasonTaskClosureBaselineRepairCandidate = TargetlessStaleReconcile.missingAuthorityCode) :=
    fun h => absurd h.2 (by decide)
  generalize applyReadSurfaceInvariants authority status = status' at *
  have hconcrete : TargetlessStaleReconcile.hasConcretePublicStaleTarget status' =
      TargetlessStaleReconcile.hasConcretePublicStaleTarget status := by
    unfold TargetlessStaleReconcile.hasConcretePublicStaleTarget
    rw [htask]
    congr 1
    rw [Bool.eq_iff_iff, List.contains_iff_mem, List.contains_iff_mem, List.mem_append,
      List.mem_append, hreasons, hblocking, or_iff_left hcandidate, or_iff_right hcandidate,
      or_iff_left hmissing]
  have hnegatives : status'.reasonCodes.contains reasonNegativeResultRequiresExecutionReentry =
      status.reasonCodes.contains reasonNegativeResultRequiresExecutionReentry := by
    rw [Bool.eq_iff_iff, List.contains_iff_mem, List.contains_iff_mem, hreasons,
      or_iff_left hnegative]
  unfold PlanExecutionStatus.needsMarker TargetlessStaleReconcile.statusNeedsMarker
  rw [hconcrete, hnegatives, hreview, hstale]

theorem overlappingIds_apply
    (h : (checkRuntimeStatusInvariants status .readSurface authority).isEmpty = false) :
    (applyReadSurfaceInvariants authority status).overlappingIds = status.overlappingIds := by
  obtain ⟨_, hstale, hclosures, _⟩ := (applyReadSurfaceInvariants_spec h).1.kept
  rw [PlanExecutionStatus.overlappingIds, hstale, hclosures]
  rfl

/-- What is reported of a converted status. -/
theorem isEmpty_check_apply
    (h : (checkRuntimeStatusInvariants status .readSurface authority).isEmpty = false) :
    (checkRuntimeStatusInvariants (applyReadSurfaceInvariants authority status) .readSurface
        authority).isEmpty =
      !(status.overlappingIds ≠ [] ||
        (applyReadSurfaceInvariants authority status).targetlessStale authority) := by
  have hnothing := (applyReadSurfaceInvariants_spec h).1.recommendsNothing
  rw [isEmpty_check, runtimeBug_of_recommendsNothing hnothing,
    executionReentryTargetMissing_of_recommendsNothing hnothing, overlappingIds_apply h,
    Bool.or_false]

/-- A runtime bug that calls for the marker is taken for a reconcile. -/
theorem stateKind_apply_apply (hneeds : status.needsMarker authority = true)
    (hbug : status.runtimeBug = true) :
    (applyReadSurfaceInvariants authority status).stateKind = detailBlockedRuntimeBug ∧
      (applyReadSurfaceInvariants authority
        (applyReadSurfaceInvariants authority status)).stateKind =
          detailRuntimeReconcileRequired := by
  have hreported : (checkRuntimeStatusInvariants status .readSurface authority).isEmpty = false := by
    rw [isEmpty_check, hbug]
    rfl
  have hneeds' := (needsMarker_apply hreported).trans hneeds
  obtain ⟨_, _, _, _, hphase, hkind⟩ := (applyReadSurfaceInvariants_spec hreported).1.kept
  have hoverlap := (overlappingIds_apply hreported).trans (overlappingIds_of_needsMarker hneeds)
  have hbug' := runtimeBug_of_recommendsNothing
    (applyReadSurfaceInvariants_spec hreported).1.recommendsNothing
  generalize applyReadSurfaceInvariants authority status = status' at *
  rw [hbug, if_pos rfl] at hphase hkind
  refine ⟨hkind, ?_⟩
  have hdiagnostic : TargetlessStaleReconcile.statusHasDiagnostic status' = false := by
    unfold TargetlessStaleReconcile.statusHasDiagnostic
    rw [hphase, decide_eq_false reconcile_ne_blocked.symm]
    rfl
  have hreported' : (checkRuntimeStatusInvariants status' .readSurface authority).isEmpty =
      false := by
    rw [isEmpty_check, targetlessStale_eq, hdiagnostic, hneeds']
    simp
  obtain ⟨_, _, _, _, _, hkind'⟩ := (applyReadSurfaceInvariants_spec hreported').1.kept
  rw [hkind', hbug', hoverlap]
  rfl

/-- The marker is on a status that is converted for it alone. -/
theorem statusHasDiagnostic_apply (htargetless : status.targetlessStale authority = true)
    (hbug : status.runtimeBug = false) :
    TargetlessStaleReconcile.statusHasDiagnostic (applyReadSurfaceInvariants authority status) =
      true := by
  have hreported : (checkRuntimeStatusInvariants status .readSurface authority).isEmpty = false := by
    rw [isEmpty_check, htargetless, Bool.or_true]
    rfl
  obtain ⟨hsame, hreasons, hblocking⟩ := applyReadSurfaceInvariants_spec hreported
  obtain ⟨_, _, _, _, hphase, _⟩ := hsame.kept
  have hneeds : status.needsMarker authority = true := by
    rw [targetlessStale_eq, Bool.and_eq_true] at htargetless
    exact htargetless.2
  obtain ⟨_, _, hneeds'⟩ := (Option.any_eq_true _ _).mp ((needsMarker_apply hreported).trans hneeds)
  unfold TargetlessStaleReconcile.statusNeedsMarker at hneeds'
  simp only [Bool.and_eq_true] at hneeds'
  obtain ⟨⟨⟨⟨_, hreview⟩, hstale⟩, hconcrete⟩, _⟩ := hneeds'
  have hcode : TargetlessStaleReconcile.reasonCode ∈
      (applyReadSurfaceInvariants authority status).reasonCodes := by
    obtain ⟨violation, hmem, hcode⟩ := List.any_eq_true.mp (any_reasonCode.trans htargetless)
    exact (hreasons _).mpr (Or.inr ⟨violation, hmem, (of_decide_eq_true hcode).symm⟩)
  have hmissing : TargetlessStaleReconcile.missingAuthorityCode ∈
      (applyReadSurfaceInvariants authority status).blockingReasonCodes :=
    (hblocking _).mpr (Or.inr (Or.inr ⟨htargetless, rfl⟩))
  unfold TargetlessStaleReconcile.statusHasDiagnostic
  rw [hphase, hbug, hreview, hstale, hconcrete, List.contains_iff_mem.mpr hcode,
    List.contains_iff_mem.mpr hmissing]
  simp

/-- What recommends nothing is reported for its closures alone. -/
theorem check_of_recommendsNothing (h : status.RecommendsNothing)
    (htargetless : status.targetlessStale authority = false) :
    checkRuntimeStatusInvariants status .readSurface authority =
      reportWhen (status.overlappingIds ≠ []) "current_stale_closure_overlap" .runtimeBug := by
  unfold checkRuntimeStatusInvariants checkPublicCommands
    PlanExecutionStatus.illegalExecutionCommandContext
    PlanExecutionStatus.recommendedCommandHidden PlanExecutionStatus.nextPublicActionHidden
    PlanExecutionStatus.argvHasTemplateTokens PlanExecutionStatus.terminalRecommendedCommand
    PlanExecutionStatus.waitingLocalMutation PlanExecutionStatus.recommendedMutationRejected
  rw [executionReentryTargetMissing_of_recommendsNothing h, htargetless,
    h.recommendedPublicCommand, h.recommendedPublicCommandArgv, h.recommendedCommand,
    h.nextPublicAction, h.executionCommandContext]
  simp [reportWhen]

/-- Converting a runtime bug once more for the same violation. -/
theorem convert_eq_self {status' : PlanExecutionStatus} {code : String}
    (h : SameButCodes (convertedBase true status) status')
    (hcode : code ≠ TargetlessStaleReconcile.reasonCode) (hreasons : code ∈ status'.reasonCodes)
    (hblocking : code ∈ status'.blockingReasonCodes) :
    convertStatusToRuntimeReconcileOrBug status' [⟨code, .runtimeBug⟩] = status' := by
  have hbase : convertedBase true status' = status' := by
    obtain ⟨_, _, _, rfl⟩ := h
    rfl
  have hpush : pushViolation status' ⟨code, .runtimeBug⟩ = status' := by
    rw [pushViolation, if_neg hcode, pushCodeOnce_of_mem hreasons, pushCodeOnce_of_mem hblocking]
  have htargetless : (([⟨code, .runtimeBug⟩] : List RuntimeInvariantViolation).any
      fun violation => violation.code = TargetlessStaleReconcile.reasonCode) = false := by
    rw [List.any_cons, decide_eq_false hcode]
    rfl
  unfold convertStatusToRuntimeReconcileOrBug
  rw [htargetless]
  show [⟨code, .runtimeBug⟩].foldl pushViolation (convertedBase true status') = status'
  rw [hbase]
  exact hpush

/-- A status whose enforcing is not undone: where it calls for the marker, it is no runtime bug,
and none already that lacks the marker. -/
def PlanExecutionStatus.Enforceable (status : PlanExecutionStatus)
    (authority : Option TargetlessStaleAuthority) : Prop :=
  status.needsMarker authority = true → status.runtimeBug = false ∧
    (stateKindIsBlockedRuntimeBug status.stateKind = true →
      TargetlessStaleReconcile.statusHasDiagnostic status = true)

/-- **Enforcing once more** changes nothing. -/
theorem apply_apply (henforceable : status.Enforceable authority) :
    applyReadSurfaceInvariants authority (applyReadSurfaceInvariants authority status) =
      applyReadSurfaceInvariants authority status := by
  by_cases hempty : (checkRuntimeStatusInvariants status .readSurface authority).isEmpty = true
  · rw [applyReadSurfaceInvariants_of_isEmpty hempty, applyReadSurfaceInvariants_of_isEmpty hempty]
  rw [Bool.not_eq_true] at hempty
  have hempty' := isEmpty_check_apply hempty
  have hneeds := needsMarker_apply hempty
  obtain ⟨hsame, hreasons, hblocking⟩ := applyReadSurfaceInvariants_spec hempty
  cases hmarker : status.needsMarker authority with
  | true =>
    obtain ⟨hbug, _⟩ := henforceable hmarker
    refine applyReadSurfaceInvariants_of_isEmpty ?_
    have htargetless : status.targetlessStale authority = true := by
      by_contra hnone
      rw [Bool.not_eq_true, targetlessStale_eq, hmarker, Bool.and_true, Bool.not_eq_false'] at hnone
      -- a status with the marker is no reentry
      have hreentry : status.executionReentryTargetMissing = false := by
        unfold TargetlessStaleReconcile.statusHasDiagnostic at hnone
        simp only [Bool.and_eq_true, decide_eq_true_eq] at hnone
        unfold PlanExecutionStatus.executionReentryTargetMissing
        rw [hnone.1.1.1.1.1]
        simp
      rw [isEmpty_check, hbug, hreentry, targetlessStale_eq, hnone] at hempty
      cases hempty
    rw [hempty', overlappingIds_of_needsMarker hmarker, targetlessStale_eq,
      statusHasDiagnostic_apply htargetless hbug]
    rfl
  | false =>
    rw [hmarker] at hneeds
    have htargetless : (applyReadSurfaceInvariants authority status).targetlessStale authority =
        false := by
      rw [targetlessStale_eq, hneeds, Bool.and_false]
    by_cases hoverlap : status.overlappingIds = []
    · refine applyReadSurfaceInvariants_of_isEmpty ?_
      rw [hempty', htargetless, hoverlap]
      rfl
    · -- the closures overlap still, and nothing else is reported
      have hbug : status.runtimeBug = true := by
        unfold PlanExecutionStatus.runtimeBug
        rw [decide_eq_true hoverlap]
        rfl
      rw [hbug] at hsame
      have hreported := check_of_recommendsNothing hsame.recommendsNothing htargetless
      rw [overlappingIds_apply hempty, decide_eq_true hoverlap] at hreported
      have hmem : (⟨"current_stale_closure_overlap", .runtimeBug⟩ : RuntimeInvariantViolation) ∈
          checkRuntimeStatusInvariants status .readSurface authority := by
        unfold checkRuntimeStatusInvariants
        rw [decide_eq_true hoverlap]
        simp [reportWhen]
      have hconvert := convert_eq_self hsame (by decide)
        ((hreasons _).mpr (Or.inr ⟨_, hmem, rfl⟩))
        ((hblocking _).mpr (Or.inr (Or.inl ⟨_, hmem, rfl⟩)))
      generalize applyReadSurfaceInvariants authority status = status' at *
      unfold applyReadSurfaceInvariants
      rw [hreported]
      exact hconvert

theorem iterate_of_idempotent {α : Type} {f : α → α} {x : α} (h : f (f x) = f x) :
    ∀ n, f^[n] x = x ∨ f^[n] x = f x := by
  intro n
  induction n with
  | zero => exact Or.inl rfl
  | succ n ih =>
    rw [Function.iterate_succ_apply']
    refine Or.inr ?_
    rcases ih with ih | ih
    · rw [ih]
    · rw [ih, h]

/-- **A runtime bug is kept.** -/
theorem blockedRuntimeBug_iterate (henforceable : status.Enforceable authority)
    (hblocked : stateKindIsBlockedRuntimeBug status.stateKind = true) (n : Nat) :
    stateKindIsBlockedRuntimeBug ((applyReadSurfaceInvariants authority)^[n] status).stateKind =
      true := by
  rcases iterate_of_idempotent (apply_apply henforceable) n with h | h
  · rwa [h]
  rw [h]
  by_cases hempty : (checkRuntimeStatusInvariants status .readSurface authority).isEmpty = true
  · rwa [applyReadSurfaceInvariants_of_isEmpty hempty]
  rw [Bool.not_eq_true] at hempty
  obtain ⟨_, _, _, _, _, hkind⟩ := (applyReadSurfaceInvariants_spec hempty).1.kept
  have hreentry : status.executionReentryTargetMissing = false := by
    unfold PlanExecutionStatus.executionReentryTargetMissing
    rw [hblocked]
    simp
  have hbug : status.runtimeBug = true := by
    by_contra hbug
    rw [Bool.not_eq_true] at hbug
    rw [isEmpty_check, hbug, hreentry, targetlessStale_eq] at hempty
    simp only [Bool.false_or, Bool.not_eq_false', Bool.and_eq_true, Bool.not_eq_true'] at hempty
    exact Bool.false_ne_true (hempty.1.symm.trans ((henforceable hempty.2).2 hblocked))
  rw [hkind, hbug, if_pos rfl]
  exact stateKindIsBlockedRuntimeBug_self

/-- What enforcing the read surface is for. -/
structure ReadSurfaceEnforced (authority : Option TargetlessStaleAuthority)
    (status : PlanExecutionStatus) : Prop where
  recommendsNothing : checkRuntimeStatusInvariants status .readSurface authority ≠ [] →
    (applyReadSurfaceInvariants authority status).RecommendsNothing
  rejects : checkRuntimeStatusInvariants status .readSurface authority ≠ [] → ∀ request,
    (decidePublicMutation (applyReadSurfaceInvariants authority status) request).allowed = false
  idempotent : applyReadSurfaceInvariants authority (applyReadSurfaceInvariants authority status) =
    applyReadSurfaceInvariants authority status
  blockedRuntimeBug : stateKindIsBlockedRuntimeBug status.stateKind = true → ∀ n,
    stateKindIsBlockedRuntimeBug ((applyReadSurfaceInvariants authority)^[n] status).stateKind =
      true

/-- **The read surface is enforced for good** exactly on the statuses that do not call for the
marker of a stale state without a target, or are no runtime bugs. -/
theorem read_surface_enforced_iff (status : PlanExecutionStatus)
    (authority : Option TargetlessStaleAuthority) :
    ReadSurfaceEnforced authority status ↔ status.Enforceable authority := by
  constructor
  · intro h hmarker
    have hbug : status.runtimeBug = false := by
      by_contra hbug
      rw [Bool.not_eq_false] at hbug
      obtain ⟨hkind, hkind'⟩ := stateKind_apply_apply hmarker hbug
      rw [h.idempotent, hkind] at hkind'
      exact reconcile_ne_blocked hkind'.symm
    refine ⟨hbug, fun hblocked => ?_⟩
    by_contra hdiagnostic
    rw [Bool.not_eq_true] at hdiagnostic
    have hempty : (checkRuntimeStatusInvariants status .readSurface authority).isEmpty = false := by
      rw [isEmpty_check, targetlessStale_eq, hdiagnostic, hmarker]
      simp
    obtain ⟨_, _, _, _, _, hkind⟩ := (applyReadSurfaceInvariants_spec hempty).1.kept
    have hkept := h.blockedRuntimeBug hblocked 1
    rw [Function.iterate_one, hkind, hbug] at hkept
    exact Bool.false_ne_true (not_blockedRuntimeBug_reconcile.symm.trans hkept)
  · intro henforceable
    have hsame : checkRuntimeStatusInvariants status .readSurface authority ≠ [] →
        SameButCodes (convertedBase status.runtimeBug status)
          (applyReadSurfaceInvariants authority status) := fun hne =>
      (applyReadSurfaceInvariants_spec (List.isEmpty_eq_false_iff.mpr hne)).1
    exact ⟨fun hne => (hsame hne).recommendsNothing, fun hne => (hsame hne).rejects,
      apply_apply henforceable, blockedRuntimeBug_iterate henforceable⟩

/-- A runtime bug whose review is stale, with no closure and no task that is. -/
def staleRuntimeBug : PlanExecutionStatus where
  phase := some "blocked"
  phaseDetail := "blocked_runtime_bug"
  stateKind := "blocked_runtime_bug"
  reviewStateStatus := "stale_unreviewed"
  nextAction := "runtime diagnostic required"
  currentTaskClosures := []
  staleUnreviewedClosures := []
  recordingContext := none
  executionCommandContext := none
  executionReentryTargetSource := none
  publicRepairTargets := []
  blockingRecords := []
  externalWaitState := none
  reasonCodes := ["terminal_recommended_command"]
  blockingReasonCodes := ["terminal_recommended_command"]
  nextPublicAction := none
  blockers := []
  recommendedPublicCommand := none
  recommendedPublicCommandArgv := none
  recommendedPublicCommandTemplate := none
  requiredInputs := []
  recommendedCommand := none
  executionFingerprint := "fingerprint"
  activeTask := none
  blockingTask := none
  resumeTask := none

theorem not_enforced_staleRuntimeBug :
    ¬ ∀ status authority, ReadSurfaceEnforced authority status := by
  intro hall
  have hkept := (hall staleRuntimeBug (some ⟨false⟩)).blockedRuntimeBug (by decide) 1
  exact absurd hkept (by decide)

end FeatureForge
