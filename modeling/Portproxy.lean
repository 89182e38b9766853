import Portproxy.Machine
import Portproxy.ByteOrder
import Portproxy.Program
import Portproxy.KeyedList
import Portproxy.State
import Portproxy.Mappings
import Portproxy.Handlers
import Portproxy.MainLoop
import Portproxy.Interfaces
import Portproxy.Startup
import Portproxy.TurnSemantics
import Portproxy.Accounts
import Portproxy.Conservation
import Portproxy.StartupDescriptors
import Portproxy.SocketRoles
import Portproxy.RelayPairing
import Portproxy.WanSide
import Portproxy.SharedSocket
import Portproxy.ReplyRouting
import Portproxy.FeatureIsolation
import Portproxy.ShimRoundTrip
import Portproxy.ChunkStream
import Portproxy.RelayStream
import Portproxy.ExpiryTiming
import Portproxy.ReplyTranslation
import Portproxy.FailedPackets
import Portproxy.LongDatagrams
import Portproxy.AddressCollection
import Portproxy.OptionVector
import Portproxy.Fields
import Portproxy.Text
import Portproxy.RouteTable
import Portproxy.CommandLine
import Portproxy.ModeExclusion
import Portproxy.InitScript
import Portproxy.LiveSends
import Portproxy.LinkedCells
import Portproxy.MappingMemory
import Portproxy.InterfaceList
import Portproxy.InterfaceAddress
import Portproxy.GatewayLookup
import Portproxy.AcceptedArguments
import Portproxy.OptionOrder
import Portproxy.PortArguments
import Portproxy.SizedRecords
import Portproxy.Attributes
import Portproxy.NetlinkDump
import Portproxy.NetlinkReplies
import Portproxy.MessageLists
import Portproxy.InterfaceMessages
import Portproxy.InterfaceLookups
import Portproxy.LowestFree
import Portproxy.DescriptorLimit
import Portproxy.Contacts
import Portproxy.Allocation
import Portproxy.CellLoops
import Portproxy.ProcessMemory
import Portproxy.MemoryRefinement
import Portproxy.MemoryRuns
import Portproxy.Lifecycle
import Portproxy.Starvation
import Portproxy.MessageBuilding
import Portproxy.Replay
import Portproxy.Portability
import Portproxy.ControlMessages
