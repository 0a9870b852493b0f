import RuntimeCargo.LogEvidence
import RuntimeCargo.SecretDelivery
import RuntimeCargo.EnvironmentRepair
import RuntimeCargo.FileRecovery
import RuntimeCargo.SnapshotRestore
import RuntimeCargo.LifecycleOrder
import RuntimeCargo.SupervisorRuns
import RuntimeCargo.InboundCheck
import RuntimeCargo.InboundServe
import RuntimeCargo.PairProof
import RuntimeCargo.PayloadRuns
import RuntimeCargo.DiscoveryRuns
import RuntimeCargo.DirectRuns
import RuntimeCargo.Sampler
import RuntimeCargo.UdpExchange
import RuntimeCargo.CoverageTime
import RuntimeCargo.ProcessorFacts
import RuntimeCargo.ContactRuns
import RuntimeCargo.AccessTime
import RuntimeCargo.AccessPanic
import RuntimeCargo.ProcessTree
