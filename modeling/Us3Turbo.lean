import Us3Turbo.Transition.System
import Us3Turbo.Transition.Potential
import Us3Turbo.Transition.Simulation
import Us3Turbo.Data.Scan
import Us3Turbo.Data.Once
import Us3Turbo.Data.Load
import Us3Turbo.Data.Hex
import Us3Turbo.Data.Calendar
import Us3Turbo.Data.FixedWidth
import Us3Turbo.Data.BitString
import Us3Turbo.Data.Base64
import Us3Turbo.Data.Crc
import Us3Turbo.Data.BitPolynomial
import Us3Turbo.Data.CrcRemainder
import Us3Turbo.Data.CrcDetection
import Us3Turbo.Data.Custody
import Us3Turbo.Proto.ControlPlane
import Us3Turbo.Proxy.SessionManager
import Us3Turbo.Proxy.ControlPlaneService
import Us3Turbo.Proxy.Retention
import Us3Turbo.Proxy.Expiry
import Us3Turbo.Proxy.SessionIds
import Us3Turbo.Proxy.TicketIndex
import Us3Turbo.Proxy.ExpireAt
import Us3Turbo.Proxy.Isolation
import Us3Turbo.Proxy.Snapshot
import Us3Turbo.Proxy.Linearization
import Us3Turbo.Client.GdsMemoryManager
import Us3Turbo.Client.Registration
import Us3Turbo.Client.Coverage
import Us3Turbo.Client.TableTruth
import Us3Turbo.Client.Token
import Us3Turbo.Client.TokenOwnership
import Us3Turbo.Client.Crc32c
import Us3Turbo.Client.Contracts
import Us3Turbo.Client.PutOnce
import Us3Turbo.Client.PutObject
import Us3Turbo.Client.Retrace
import Us3Turbo.Client.Deadline
import Us3Turbo.Client.Protocol
import Us3Turbo.Client.Output
import Us3Turbo.Client.Interleaving
import Us3Turbo.Client.Lifecycle
import Us3Turbo.Backend.Crc32c
import Us3Turbo.Backend.ParseBase64Crc32c
import Us3Turbo.Backend.GdsSink
import Us3Turbo.Backend.RemoteAddress
import Us3Turbo.Backend.DataPlaneService
import Us3Turbo.Backend.BufferPool
import Us3Turbo.Backend.PoolCustody
import Us3Turbo.Backend.PoolShutdown
import Us3Turbo.Backend.PoolAccount
import Us3Turbo.Backend.PoolFitting
import Us3Turbo.Backend.PoolThrift
import Us3Turbo.Backend.Receives
import Us3Turbo.Backend.ReceiveStep
import Us3Turbo.Backend.ReceiveIsolation
import Us3Turbo.Backend.ReceiveExact
import Us3Turbo.Backend.SinkLifecycle
import Us3Turbo.Backend.ServerLog
import Us3Turbo.Backend.SinkSafety
import Us3Turbo.Backend.ReceiveProgress
import Us3Turbo.Backend.Process
import Us3Turbo.Backend.ProcessExit
import Us3Turbo.Backend.PinnedMemory
import Us3Turbo.Backend.ReceiveOnward
import Us3Turbo.Cluster.WholeBuffer
import Us3Turbo.Cluster.ObjectIds
import Us3Turbo.Cluster.Verification
import Us3Turbo.Cluster.Checksum
import Us3Turbo.Cluster.Model
import Us3Turbo.Cluster.Effect
import Us3Turbo.Cluster.Provenance
import Us3Turbo.Cluster.Failure
import Us3Turbo.Cluster.Size
import Us3Turbo.Cluster.AtMostOnce
import Us3Turbo.Cluster.Replies
import Us3Turbo.Cluster.Publication
import Us3Turbo.Cluster.TokenLifetime
import Us3Turbo.Cluster.Progression
import Us3Turbo.Cluster.Workload
import Us3Turbo.Cluster.Availability
import Us3Turbo.Cluster.Feasibility
import Us3Turbo.Cluster.Deployment
import Us3Turbo.Cluster.Integrity
import Us3Turbo.Cluster.WindDown
import Us3Turbo.Cluster.Application
import Us3Turbo.Cluster.Delivery
