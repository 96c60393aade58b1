import FeatureForge.EventLog.Parity
import FeatureForge.EventLog.Runs
import FeatureForge.Authority.WriteLock
import FeatureForge.Authority.Evaluators
import FeatureForge.Contracts.Soundness
import FeatureForge.Paths.BranchKey
import FeatureForge.Transitions.MilestoneRuns
import FeatureForge.Evidence.RoundTrip
import FeatureForge.Plans.PlanDocument
import FeatureForge.Plans.StepState
import FeatureForge.Plans.Sections
import FeatureForge.Plans.StepLines
import FeatureForge.Plans.StepReaders
import FeatureForge.Plans.StepAgreement
import FeatureForge.EventLog.DeltaRoundTrip
import FeatureForge.RepoSafety.Approvals
import FeatureForge.RepoSafety.ApprovedScope
import FeatureForge.Closures.Graph
import FeatureForge.Closures.Evaluations
import FeatureForge.Closures.MilestoneChain
import FeatureForge.Closures.TaskClosures
import FeatureForge.Closures.BranchClosures
import FeatureForge.Closures.Records
import FeatureForge.Closures.TaskFiling
import FeatureForge.Closures.TaskState
import FeatureForge.Closures.Edges
import FeatureForge.Closures.BranchState
import FeatureForge.Closures.Runs
import FeatureForge.Closures.Readers
import FeatureForge.Closures.Supersession
import FeatureForge.Closures.BranchReadable
import FeatureForge.Routing.Eligibility
import FeatureForge.Routing.Invariants
import FeatureForge.Routing.ReadSurface
import FeatureForge.Routing.FilledRequest
import FeatureForge.Closures.SerialRuns
import FeatureForge.Paths.RepoSlug
import FeatureForge.Closures.Recordings
import FeatureForge.Closures.DispatchLineage
import FeatureForge.Closures.Outcomes
import FeatureForge.Closures.RecordNumbers
import FeatureForge.Strategy.Checkpoints
import FeatureForge.Strategy.Cycles
import FeatureForge.Plans.BodyLines
import FeatureForge.Plans.KeptLines
import FeatureForge.Closures.StaleClosing
import FeatureForge.LateStage.Bindings
import FeatureForge.LateStage.Fixpoint
import FeatureForge.Paths.FileReference
import FeatureForge.Contracts.FidelityTemplate
import FeatureForge.Leases.Conservation
import FeatureForge.Leases.LeaseAgreement
import FeatureForge.Leases.LeaseCleanup
import FeatureForge.Closures.FreshDrift
import FeatureForge.Closures.SurfaceRelations
import FeatureForge.Steps.Reloads
