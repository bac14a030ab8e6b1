import CiCoordinator.ConfigControl.JsonDocument
import CiCoordinator.Kernel.PathLanguage
import CiCoordinator.Kernel.ResourcePreflight
import CiCoordinator.PlanningCore.RollbackSoundness
import CiCoordinator.VerificationCore.Soundness
import CiCoordinator.Persistence.CollectionLifecycle
import CiCoordinator.Persistence.ObservationCoverage
import CiCoordinator.Persistence.HistoryPaging
import CiCoordinator.Persistence.ActivityPaging
import CiCoordinator.Persistence.ControlPlaneSessions
import CiCoordinator.VerificationCore.Classification
import CiCoordinator.VerificationCore.ImpactAgreement
import CiCoordinator.VerificationCore.CoverageOrder
import CiCoordinator.RunnerCapacity.BudgetFairness
import CiCoordinator.AuditReplay.VerifiedExport
import CiCoordinator.TargetArtifacts.StableStringify
import CiCoordinator.TargetArtifacts.JobClosure
import CiCoordinator.Reconciliation.StateStore
import CiCoordinator.Persistence.StatisticsRefinement
import CiCoordinator.CiEconomics.Degradation
import CiCoordinator.CiEconomics.ForecastFacts
import CiCoordinator.CiEconomics.RetentionMachine
import CiCoordinator.RepoContext.WorkflowClosure
import CiCoordinator.RepoContext.ControlPlane
import CiCoordinator.WorkflowDiscovery.YamlNodes
import CiCoordinator.CiEconomics.HistoryRecheckQueue
import CiCoordinator.RunnerCapacity.EvidenceProjection
import CiCoordinator.Reconciliation.ConvergenceSchedule
import CiCoordinator.IdentityAdmission.JwksCache
import CiCoordinator.Persistence.UnitOfWorkRuns
import CiCoordinator.Persistence.RevisionHistory
import CiCoordinator.AuditReplay.CheckpointCodec
import CiCoordinator.Kernel.Admission
import CiCoordinator.ConfigControl.YamlInteger
