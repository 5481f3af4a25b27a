import MeshNetwork.Framework.Runs
import MeshNetwork.Framework.Program
import MeshNetwork.Framework.Counting
import MeshNetwork.Framework.Bytes
import MeshNetwork.Framework.Accesses
import MeshNetwork.Framework.Decimal
import MeshNetwork.Framework.Words
import MeshNetwork.Framework.Binary64
import MeshNetwork.Framework.Histories
import MeshNetwork.Framework.Packets
import MeshNetwork.Protocol
import MeshNetwork.Framing.SwarmFramer
import MeshNetwork.Framing.SwarmDeframer
import MeshNetwork.Framing.RoundTrip
import MeshNetwork.Driver.Sockets
import MeshNetwork.Driver.HeaderScan
import MeshNetwork.Driver.Mask
import MeshNetwork.Driver.MaskRefresh
import MeshNetwork.Driver.TcpClientManager
import MeshNetwork.Driver.SendHandler
import MeshNetwork.Driver.ServerManager
import MeshNetwork.Driver.AcceptClientTask
import MeshNetwork.Driver.HostEntry
import MeshNetwork.Driver.OpenTask
import MeshNetwork.Driver.HostFile
import MeshNetwork.Driver.HostStream
import MeshNetwork.Driver.Startup
import MeshNetwork.Node.Addressing
import MeshNetwork.Node.BroadcastRounds
import MeshNetwork.Node.BufferOwnership
import MeshNetwork.Node.Outbound
import MeshNetwork.Node.Endpoints
import MeshNetwork.Node.PeerIDs
import MeshNetwork.Node.Misdelivery
import MeshNetwork.Node.Delivery
import MeshNetwork.Node.Inbound
import MeshNetwork.Node.TaskParams
import MeshNetwork.Node.ReadTasks
import MeshNetwork.Node.Successors
import MeshNetwork.Node.Accounting
import MeshNetwork.Node.Exchange
import MeshNetwork.Node.Handshake
import MeshNetwork.Node.StaleIDs
import MeshNetwork.Node.HandshakeDecoders
import MeshNetwork.Node.EndpointMatch
import MeshNetwork.Node.HeaderGrammar
import MeshNetwork.Node.SendResults
import MeshNetwork.Node.MaskLookups
import MeshNetwork.Node.PeerGone
import MeshNetwork.Node.EntryGrammar
import MeshNetwork.Node.ReceivedStream
import MeshNetwork.Node.BufferSizes
import MeshNetwork.Node.TaskPool
import MeshNetwork.Node.Stopping
import MeshNetwork.Node.Deployment
import MeshNetwork.Node.Teardown
import MeshNetwork.Positioning.Distance
import MeshNetwork.Node.SendsOnce
import MeshNetwork.Node.Screening
import MeshNetwork.Node.HostRounds
import MeshNetwork.Node.HostLinks
import MeshNetwork.Node.HostsConnected
import MeshNetwork.Node.TeardownEnds
import MeshNetwork.Network.SocketEvents
import MeshNetwork.Network.ClientStreams
import MeshNetwork.Network.ServerStreams
import MeshNetwork.Network.Mesh
import MeshNetwork.Network.EndToEnd
import MeshNetwork.Network.Outbox
import MeshNetwork.Network.HubLink
import MeshNetwork.Network.Uplink
import MeshNetwork.Network.Swarm
import MeshNetwork.Network.Messages
import MeshNetwork.Network.Unicast
import MeshNetwork.Network.Distances
import MeshNetwork.Network.Acknowledged
import MeshNetwork.Network.Isolation
import MeshNetwork.Network.Arrival
