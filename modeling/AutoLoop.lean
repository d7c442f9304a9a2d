import AutoLoop.Bus.AwaitedRetries
import AutoLoop.EvolutionOs.GraphSelection
import AutoLoop.GitmemoryCore.GraphHealth
import AutoLoop.GitmemoryCore.IncrementalRebuilds
import AutoLoop.GitmemoryCore.MarkdownBlocks
import AutoLoop.GitmemoryCore.ReviewedWrites
import AutoLoop.GitmemoryCore.SemanticEdges
import AutoLoop.Memory.IngestionRuns
import AutoLoop.NoumenonCore.AdmissionSigstore
import AutoLoop.NoumenonCore.ExecutionUniverse
import AutoLoop.NoumenonCore.Identity
import AutoLoop.NoumenonCore.Kernel.Faithfulness
import AutoLoop.NoumenonCore.Kernel.GateSoundness
import AutoLoop.NoumenonCore.Kernel.TamperEvidence
import AutoLoop.NoumenonCore.Ledger.BudgetFile
import AutoLoop.NoumenonCore.SyscallOrder
import AutoLoop.Observability.EventStream
import AutoLoop.Observability.SignalPipeline
import AutoLoop.OrgKernel.CommitLaw
import AutoLoop.OrgKernel.ExclusiveLeases
import AutoLoop.OrgKernel.LeaseWrites
import AutoLoop.OrgKernel.TaskDag
import AutoLoop.Plugins.SignedSources
import AutoLoop.QueryEngine.ContextCompactor
import AutoLoop.QueryEngine.PatchRevert
import AutoLoop.QueryEngine.RunLaw
import AutoLoop.QueryEngine.ToolMessages
import AutoLoop.Rag.ChunkWindows
import AutoLoop.Rag.Communities
import AutoLoop.Rag.MergeSoundness
import AutoLoop.Runtime.AttestationReplay
import AutoLoop.Runtime.BudgetFailures
import AutoLoop.Runtime.BudgetReconciliation
import AutoLoop.Runtime.CircuitBreaker
import AutoLoop.Runtime.ExecuteBudget
import AutoLoop.Runtime.FlowAgreement
import AutoLoop.Runtime.ProviderBudget
import AutoLoop.Runtime.RecurringTriggers
import AutoLoop.Runtime.SandboxPaths
import AutoLoop.Runtime.StageChain
import AutoLoop.Runtime.StageStreams
import AutoLoop.Runtime.ToolExecutionStack
import AutoLoop.Runtime.TriggerWorkers
import AutoLoop.Security.AdmissionSoundness
import AutoLoop.Security.BundleLoading
import AutoLoop.Security.PolicyHost.Confidentiality
import AutoLoop.Security.PolicyHost.Discovery
import AutoLoop.Security.Restrictions
import AutoLoop.Services.LiveWorkers
import AutoLoop.Services.RelationForms
import AutoLoop.Session.CheckpointTampering
import AutoLoop.Session.ConcurrentAppends
import AutoLoop.Session.WorkflowApproval
import AutoLoop.Session.WorkflowAudit
import AutoLoop.Skills.PromotionCounts
import AutoLoop.StateAdapter.BackendEquivalence
import AutoLoop.StateAdapter.ReadYourWrites
import AutoLoop.Tools.Reforging
import AutoLoop.Transport.BridgeAccess
import AutoLoop.Transport.LatestToken
