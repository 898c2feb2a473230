import QbdiTracer.AddressNames
import QbdiTracer.Arguments
import QbdiTracer.AttachSessions
import QbdiTracer.BlockOverlap
import QbdiTracer.BlockTable
import QbdiTracer.ByteSignatures
import QbdiTracer.DumpEntries
import QbdiTracer.DumpOrder
import QbdiTracer.DumpText
import QbdiTracer.EntryRecords
import QbdiTracer.HexDumpReading
import QbdiTracer.InitAgreement
import QbdiTracer.InitFailures
import QbdiTracer.JniDescriptors
import QbdiTracer.LibraryLookup
import QbdiTracer.Loads
import QbdiTracer.LogFile
import QbdiTracer.LoggerCalls
import QbdiTracer.LookupOffsets
import QbdiTracer.Lookups
import QbdiTracer.ModuleAttribution
import QbdiTracer.Monitors
import QbdiTracer.NeverStops
import QbdiTracer.PatternOutcomes
import QbdiTracer.ProcMaps
import QbdiTracer.RangeSetHistories
import QbdiTracer.RecordRanges
import QbdiTracer.RegisterLists
import QbdiTracer.RegisterReading
import QbdiTracer.Returns
import QbdiTracer.ScanRegion
import QbdiTracer.SinkIndependence
import QbdiTracer.SinkSessions
import QbdiTracer.SolistLookup
import QbdiTracer.StringSplit
import QbdiTracer.SymbolNames
import QbdiTracer.SyscallHistory
