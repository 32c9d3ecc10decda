import Stftpu.Library.Transition
import Stftpu.Library.Chunks
import Stftpu.Common
import Stftpu.Operation
import Stftpu.BlockSizes
import Stftpu.Server.Listener
import Stftpu.Server.Grammar
import Stftpu.Server.ReadBounds
import Stftpu.Server.RoundTrip
import Stftpu.Server.StoreIntegrity
import Stftpu.Server.PartialReads
import Stftpu.Transfer.Await
import Stftpu.Transfer.Receive
import Stftpu.Client.Operation
import Stftpu.Transfer.Acknowledged
import Stftpu.Transfer.PerfectChannel
import Stftpu.Transfer.LossyChannel
import Stftpu.Transfer.PeerErrors
import Stftpu.Transfer.Insertions
import Stftpu.Transfer.Recovery
import Stftpu.Transfer.OwnBytes
import Stftpu.Server.Atomicity
import Stftpu.Client.Atomicity
import Stftpu.Client.RequestSize
import Stftpu.Server.Shutdown
import Stftpu.Server.DataPorts
import Stftpu.Server.Ownership
import Stftpu.Server.Refusals
import Stftpu.Server.FaultIsolation
import Stftpu.Server.Aliasing
import Stftpu.Transfer.Deletion
import Stftpu.Transfer.DeleteAgreement
import Stftpu.Transfer.OwnAcks
import Stftpu.Transfer.Chunking
import Stftpu.Transfer.Reassembly
import Stftpu.Transfer.BoundedWaits
import Stftpu.Transfer.ErrorMessages
import Stftpu.Transfer.ShortWrites
import Stftpu.ErrorPackets
import Stftpu.Transfer.ReadAgreement
import Stftpu.Transfer.WriteAgreement
import Stftpu.Server.Termination
import Stftpu.Server.Provenance
import Stftpu.Conversation
import Stftpu.Client.Conduct
import Stftpu.Program
import Stftpu.Client.Resources
import Stftpu.CommandRoundTrip
import Stftpu.Transfer.PerfectRead
import Stftpu.Transfer.PerfectWrite
