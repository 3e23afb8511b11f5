import AiopsSystem.Action.Bounds
import AiopsSystem.ExecutionLease.StoreRuns
import AiopsSystem.CsvImport.Paging
import AiopsSystem.Execution.ClaimSpecification
import AiopsSystem.Execution.LeaseShape
import AiopsSystem.Credential.ClaimFencing
import AiopsSystem.Credential.DurableSessions
import AiopsSystem.Credential.Protector
import AiopsSystem.Execution.ServiceRuns
import AiopsSystem.Finalization.TargetHold
import AiopsSystem.Investigations.CorrelationOrder
import AiopsSystem.Investigations.Lifecycle
import AiopsSystem.InvestigationEngine.FanOut
import AiopsSystem.Policy.Evaluation
import AiopsSystem.AssetCatalog.MappingConsistency
import AiopsSystem.ExternalCmdb.Committed
import AiopsSystem.Vsphere.Inventory
import AiopsSystem.DiscoveryCheckpoint.Sealing
import AiopsSystem.InvestigationPlan.WireSize
