import Mathlib.Data.String.Basic

/-!
# Failures

`JsonFailure`: the class of a failure and its message, and `GateState`: the diagnostics
a gate collects, which allows where it has found none.  Only the classes that the
modelled code raises are listed, and the remediation of a diagnostic is left out.
-/

namespace FeatureForge

inductive FailureClass where
  | artifactIntegrityMismatch
  | authoritativeOrderingMismatch
  | blockedRuntimeBug
  | concurrentWriterConflict
  | dependencyIndexMismatch
  | evaluationMismatch
  | executionStateNotReady
  | idempotencyConflict
  | illegalHarnessPhase
  | invalidCommandInput
  | invalidWriteTarget
  | malformedExecutionState
  | missingRequiredHandoff
  | nonAuthoritativeArtifact
  | partialAuthoritativeMutation
  | planNotExecutionReady
  | staleProvenance
  deriving DecidableEq

structure JsonFailure where
  errorClass : FailureClass
  message : String
  deriving DecidableEq

structure GateDiagnostic where
  failureClass : FailureClass
  code : String
  message : String
  deriving DecidableEq

/-- `GateState`: what has been found so far, one diagnostic for each code. -/
abbrev GateState : Type := List GateDiagnostic

namespace GateState

def allowed (gate : GateState) : Bool := gate.isEmpty

def fail (gate : GateState) (failureClass : FailureClass) (code message : String) : GateState :=
  if gate.any fun diagnostic => diagnostic.code == code then gate
  else gate ++ [⟨failureClass, code, message⟩]

/-- `fail`, where a check calls for it. -/
def failIf (gate : GateState) (c : Bool) (failureClass : FailureClass) (code message : String) :
    GateState :=
  if c then gate.fail failureClass code message else gate

theorem fail_ne_nil (gate : GateState) (failureClass : FailureClass) (code message : String) :
    gate.fail failureClass code message ≠ [] := by
  unfold fail
  split_ifs with h
  · rintro rfl
    cases h
  · exact List.append_ne_nil_of_right_ne_nil _ (List.cons_ne_nil _ _)

@[simp] theorem fail_eq_nil (gate : GateState) (failureClass : FailureClass)
    (code message : String) : gate.fail failureClass code message = [] ↔ False :=
  iff_false_intro (fail_ne_nil gate failureClass code message)

@[simp] theorem failIf_eq_nil (gate : GateState) (c : Bool) (failureClass : FailureClass)
    (code message : String) :
    gate.failIf c failureClass code message = [] ↔ gate = [] ∧ c = false := by
  unfold failIf
  cases c with
  | true => exact iff_of_false (fail_ne_nil _ _ _ _) fun h => Bool.false_ne_true h.2.symm
  | false => exact ⟨fun h => ⟨h, rfl⟩, fun h => h.1⟩

/-- Checks one after the other pass where each of them passes. -/
theorem foldl_eq_nil {α : Type} {check : α → GateState → GateState}
    (hcheck : ∀ a gate, check a gate = [] → gate = []) : ∀ {as : List α} {gate : GateState},
    as.foldl (fun gate a => check a gate) gate = [] → gate = [] ∧ ∀ a ∈ as, check a [] = [] := by
  intro as
  induction as with
  | nil => exact fun h => ⟨h, fun a ha => absurd ha (List.not_mem_nil)⟩
  | cons a as ih =>
    intro gate h
    obtain ⟨ha, has⟩ := ih h
    have hgate := hcheck a gate ha
    refine ⟨hgate, fun b hb => ?_⟩
    rcases List.mem_cons.mp hb with rfl | hb
    · rw [← hgate]
      rw [hgate] at ha ⊢
      exact ha
    · exact has b hb

end GateState

end FeatureForge
