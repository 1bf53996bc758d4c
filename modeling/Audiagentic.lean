import Audiagentic.Gateway.Occupancy
import Audiagentic.Gateway.AdmissionRuns
import Audiagentic.Node.SlotReadiness
import Audiagentic.Node.CustodyRuns
import Audiagentic.Node.IngressRuns
import Audiagentic.Node.EffectAgreement
import Audiagentic.Queue.Scheduling
import Audiagentic.Queue.Pending
import Audiagentic.Queue.SessionOrder
import Audiagentic.Observability.JournalRuns
import Audiagentic.Events.SpoolRuns
import Audiagentic.Events.SpoolIsolation
import Audiagentic.Planning.CrashRecovery
import Audiagentic.Planning.OutboxRuns
import Audiagentic.Planning.CanonicalRuns
import Audiagentic.Planning.ReviewRuns
import Audiagentic.Config.Replacement
import Audiagentic.Config.Provenance
import Audiagentic.Workflow.IdGenRuns
import Audiagentic.Workflow.ParentLinks
import Audiagentic.Ledger.ReleaseRuns
import Audiagentic.Ledger.Grouping
import Audiagentic.Session.ClaimRuns
import Audiagentic.Session.ExpiryRuns
import Audiagentic.Observability.RedactionViews
import Audiagentic.Gateway.WorkflowRuns
import Audiagentic.Gateway.AnswerRuns
import Audiagentic.Gateway.RecoveryClaimRuns
import Audiagentic.Session.ProgressSummary
import Audiagentic.Session.RegistryRuns
import Audiagentic.Session.ClientDefaultRuns
import Audiagentic.Management.PumpRuns
import Audiagentic.Toolchains.FragmentRuns
import Audiagentic.Providers.ObservationRuns
import Audiagentic.Steps.Compensation
import Audiagentic.Work.WaitRuns
import Audiagentic.Work.CommandRuns
import Audiagentic.CodingLsp.JsonRpcRuns
import Audiagentic.Observability.CompactionEvidence
import Audiagentic.Node.ArtifactTransfer
import Audiagentic.Node.FrameContracts
import Audiagentic.Gateway.FastReads
import Audiagentic.Gateway.ActiveCount
import Audiagentic.Queue.RecoveryBudget
import Audiagentic.Components.DependencyOrder
import Audiagentic.Observability.ArtifactExpiry
import Audiagentic.Toolchains.ConfigPatches
import Audiagentic.Config.SettingsCache
import Audiagentic.Composition.ServiceGraph
import Audiagentic.CodingLsp.Positions
import Audiagentic.Events.Propagation
