import MeshProtocol.Library.Bytes
import MeshProtocol.Library.Cbor
import MeshProtocol.Library.Checks
import MeshProtocol.Library.KeyOrder
import MeshProtocol.Library.Buckets
import MeshProtocol.Library.Machine
import MeshProtocol.Library.Slots
import MeshProtocol.Core.Hash
import MeshProtocol.Core.Descriptor
import MeshProtocol.Core.Message
import MeshProtocol.Dht.Storage
import MeshProtocol.Dht.DescriptorStore
import MeshProtocol.Core.Reference
import MeshProtocol.Core.Wire
import MeshProtocol.Dht.Authority
import MeshProtocol.Dht.SlotView
import MeshProtocol.Dht.Catalog
import MeshProtocol.Hub.Redb
import MeshProtocol.Hub.Cache
import MeshProtocol.Hub.Backends
import MeshProtocol.Hub.Persistence
import MeshProtocol.Dht.Distance
import MeshProtocol.Dht.Node
import MeshProtocol.Dht.Availability
import MeshProtocol.Library.Occurrence
import MeshProtocol.Transport.Tls
import MeshProtocol.Library.Der
import MeshProtocol.Transport.Certificate
import MeshProtocol.Hub.Peering
import MeshProtocol.Library.WaitGraph
import MeshProtocol.Hub.Deadlock
import MeshProtocol.Hub.Policy
import MeshProtocol.Hub.Runtime
import MeshProtocol.Hub.Promotion
import MeshProtocol.Dht.Atomicity
import MeshProtocol.Hub.Replicas
import MeshProtocol.Dht.Revocations
import MeshProtocol.Hub.Rollback
import MeshProtocol.Hub.Isolation
import MeshProtocol.Hub.Admin
import MeshProtocol.Hub.Challenges
import MeshProtocol.Hub.Network
import MeshProtocol.Hub.PeerManager
import MeshProtocol.Hub.Authenticated
import MeshProtocol.Hub.Gossip
import MeshProtocol.Core.Encoding
import MeshProtocol.Dht.Service
import MeshProtocol.Dht.Lookup
import MeshProtocol.Dht.Settled
import MeshProtocol.Dht.SmallNetwork
import MeshProtocol.Core.Addressing
import MeshProtocol.Dht.Discovery
import MeshProtocol.Hub.Coherence
import MeshProtocol.Hub.Dispatch
import MeshProtocol.Hub.Lifetime
import MeshProtocol.Hub.PeerHealth
import MeshProtocol.Hub.PeerLimit
import MeshProtocol.Hub.Quota
import MeshProtocol.Dht.RateWindow
import MeshProtocol.Dht.Rotations
import MeshProtocol.Dht.BucketTable
import MeshProtocol.Library.Recency
import MeshProtocol.Dht.Hearsay
import MeshProtocol.Dht.Crowding
import MeshProtocol.Dht.Rounds
import MeshProtocol.Library.BestFirst
import MeshProtocol.Dht.Thorough
import MeshProtocol.Dht.Network
import MeshProtocol.Dht.Offers
import MeshProtocol.Dht.Publishing
import MeshProtocol.Core.Signing
import MeshProtocol.Hub.Seeding
import MeshProtocol.Dht.Filing
import MeshProtocol.Library.SlidingWindow
import MeshProtocol.Dht.Metered
import MeshProtocol.Hub.Answers
import MeshProtocol.Hub.StoreLimit
import MeshProtocol.Hub.RateLimit
import MeshProtocol.Hub.RateHistory
import MeshProtocol.Core.Validation
import MeshProtocol.Library.XorMetric
import MeshProtocol.Dht.Nearest
import MeshProtocol.Library.AncestorPaths
import MeshProtocol.Core.Hierarchy
import MeshProtocol.Library.Cidr
import MeshProtocol.Hub.Outbound
import MeshProtocol.Hub.SlotKeys
import MeshProtocol.Dht.OneOf
import MeshProtocol.Hub.SingleUse
import MeshProtocol.Hub.Ownership
import MeshProtocol.Hub.KeyCount
import MeshProtocol.Hub.MuBalance
import MeshProtocol.Hub.Tables
import MeshProtocol.Dht.Metric
import MeshProtocol.Transport.Receiver
import MeshProtocol.Transport.KeyScan
import MeshProtocol.Library.Spread
import MeshProtocol.Hub.Tasks
import MeshProtocol.Hub.Holdings
import MeshProtocol.Hub.Provenance
import MeshProtocol.Hub.Fleet
import MeshProtocol.Hub.AdminRoutes
import MeshProtocol.Hub.AdminAccess
import MeshProtocol.Hub.Footprint
import MeshProtocol.Library.CborPrefix
import MeshProtocol.Library.Simulation
import MeshProtocol.Core.Responses
import MeshProtocol.Transport.Delivery
import MeshProtocol.Dht.Simulation
import MeshProtocol.Dht.Client
import MeshProtocol.Transport.Quic
import MeshProtocol.Transport.OverQuic
import MeshProtocol.Dht.Contents
import MeshProtocol.Dht.Replication
