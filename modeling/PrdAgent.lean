import PrdAgent.Runcontrol.Fencing
import PrdAgent.Runcontrol.QueueSlots
import PrdAgent.Integration.Worker
import PrdAgent.Runcontrol.IdempotentCommands
import PrdAgent.Runcontrol.PublishedContent
import PrdAgent.Runcontrol.PublishClaims
import PrdAgent.Storage.Promotion
import PrdAgent.Runcontrol.LegacyRetirement
import PrdAgent.Runcontrol.MemoryWatermark
import PrdAgent.Capability.Gateway
import PrdAgent.Storage.MemoryAgreement
import PrdAgent.Runcontrol.LockedOutlines
import PrdAgent.Storage.UnitOutput
import PrdAgent.Runcontrol.LegacyConfirmation
import PrdAgent.Agent.WorkerThreads
import PrdAgent.Export.Exclusive
import PrdAgent.Runcontrol.BudgetGrowth
import PrdAgent.Runcontrol.EvidenceBatches
import PrdAgent.Runcontrol.ShadowEvaluations
import PrdAgent.Feishu.Documents
import PrdAgent.Agent.LedgerEnds
import PrdAgent.Agent.Grounding
import PrdAgent.Export.Gateway
import PrdAgent.Agent.UnitHeadings
import PrdAgent.Production.Webhooks
import PrdAgent.Runcontrol.Continuity
