import DivertNet.Library.Runs
import DivertNet.Library.LastMatch
import DivertNet.Runtime
import DivertNet.Headers
import DivertNet.ParsePacket
import DivertNet.IPHeader
import DivertNet.IPv6Header
import DivertNet.AddressAssignment
import DivertNet.Address
import DivertNet.OwnerTable
import DivertNet.AsyncResult
import DivertNet.Attribution
import DivertNet.HeaderPointer
import DivertNet.PendingOperation
import DivertNet.PendingRuns
import DivertNet.ReportedLength
import DivertNet.SubmittedPacket
import DivertNet.BitFieldProperties
import DivertNet.Library.Custody
import DivertNet.PinnedBuffer
import DivertNet.PopulatedTable
import DivertNet.RepeatedGet
import DivertNet.StatusFields
import DivertNet.AwaitedGet
import DivertNet.Library.Holders
import DivertNet.ClosedHandle
import DivertNet.FirstMatch
import DivertNet.UdpAttribution
import DivertNet.MappedTables
import DivertNet.DestinationReads
import DivertNet.Library.Blocks
import DivertNet.TableBlocks
import DivertNet.TableReuse
import DivertNet.Library.Disposal
import DivertNet.DisposedObjects
import DivertNet.ComparedCalls
import DivertNet.HelperResults
import DivertNet.Parameters
import DivertNet.FilterCopies
import DivertNet.NullPointers
import DivertNet.PassedLength
import DivertNet.OpenHandles
import DivertNet.Library.Triples
import DivertNet.OpenDiversions
import DivertNet.TestProgram
import DivertNet.TestOutcome
import DivertNet.NetDump
import DivertNet.NetDumpReports
import DivertNet.NetDumpPackets
import DivertNet.EditedPackets
