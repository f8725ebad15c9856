import Schengen.Library.Runs
import Schengen.Library.SquareMultiply
import Schengen.Library.PullIterator
import Schengen.Library.FullCycle
import Schengen.Library.ClosingFifo
import Schengen.Library.Bytes
import Schengen.Library.CheckedArithmetic
import Schengen.Library.Terminal
import Schengen.Library.Workers
import Schengen.Library.Monitor
import Schengen.Library.QueueWaits
import Schengen.Queue.BoundedMpscQueue
import Schengen.Queue.RingInvariant
import Schengen.Queue.Fifo
import Schengen.Queue.Draining
import Schengen.Queue.Wakeups
import Schengen.Random.RowRandomInt
import Schengen.Random.Distributions
import Schengen.Random.Streams
import Schengen.Random.RowRandomLong
import Schengen.Random.WideKeys
import Schengen.Tables.Partition
import Schengen.Tables.Dates
import Schengen.Tables.RowCursor
import Schengen.Tables.Customer
import Schengen.Tables.RegionNation
import Schengen.Tables.Part
import Schengen.Tables.PartSupp
import Schengen.Tables.Supplier
import Schengen.Tables.Orders
import Schengen.Tables.Lineitem
import Schengen.Tables.Generators
import Schengen.Tables.OrdersLineitem
import Schengen.Tables.PartRows
import Schengen.Tables.FixedTables
import Schengen.Tables.SupplierDivisor
import Schengen.Tables.SupplierMapping
import Schengen.Tables.OrderKeys
import Schengen.Tables.PartArithmetic
import Schengen.Tables.ReferentialIntegrity
import Schengen.Storage.Pipeline
import Schengen.Storage.NativeMultiplexed
import Schengen.Storage.ForeignStreaming
import Schengen.Storage.MultiplexedProducers
import Schengen.Storage.MultiplexedOrder
import Schengen.Storage.FileSystem
import Schengen.Storage.ParquetMetadata
import Schengen.Storage.ParallelEncode
import Schengen.Storage.ParallelEncodeMerge
import Schengen.Storage.OwnFile
import Schengen.Storage.OwnFileRuns
import Schengen.Storage.TableWriters
import Schengen.Storage.Publishing
import Schengen.Storage.PartCounts
import Schengen.Storage.PartitionRange
import Schengen.Storage.PartitionFiles
import Schengen.Storage.PartitionFilesRuns
import Schengen.Storage.EncodeWorkers
import Schengen.Random.RangeDraws
import Schengen.Tables.ForeignKeys
import Schengen.Storage.OwnFileComplete
import Schengen.Storage.OwnFilePublishing
import Schengen.Storage.OwnFileThreads
import Schengen.Storage.OwnFileWaits
import Schengen.Storage.OwnFileEnding
import Schengen.Storage.MultiplexedCalls
import Schengen.Storage.MultiplexedComplete
import Schengen.Storage.MultiplexedFailures
import Schengen.Storage.PublishedFiles
import Schengen.Storage.EncodeWorkersMerge
import Schengen.Storage.InMemoryPartition
import Schengen.Storage.EncodedParts
import Schengen.Storage.EncodeProgress
import Schengen.Storage.EncodeWaits
import Schengen.Storage.EncodeCompleteness
import Schengen.Library.CallLog
import Schengen.Library.ReorderBuffer
import Schengen.Library.SkippingReader
import Schengen.Tables.RowIterators
import Schengen.Tables.ResetIterators
import Schengen.Tables.SkippedRows
import Schengen.Tables.SkippedSuppliers
import Schengen.Storage.MergeOutcome
import Schengen.Storage.ForeignStreamingProtocol
import Schengen.Storage.WriterBridges
import Schengen.Storage.BridgeThreads
import Schengen.Storage.BridgeDelivery
import Schengen.Storage.BridgeProgress
import Schengen.Storage.OrderedWriters
import Schengen.Storage.OrderedWriterLife
import Schengen.Storage.ForeignDatasets
import Schengen.Storage.FileWriterLifeCycle
import Schengen.Storage.MergedMetadata
import Schengen.Storage.ParallelEncodeCleanup
import Schengen.Library.Rounding
import Schengen.Random.RoundedDraws
import Schengen.Random.SkipAhead
import Schengen.Tables.LivingCustomers
import Schengen.Library.PartialShuffle
import Schengen.Random.WithoutReplacement
import Schengen.Tables.PartNames
import Schengen.Library.Blocks
import Schengen.Tables.Calendar
import Schengen.Tables.LineitemDates
import Schengen.Library.Overwrite
import Schengen.Tables.BbbComments
import Schengen.Library.SpacedText
import Schengen.Random.TextGeneration
import Schengen.Random.Sentences
import Schengen.Random.TextPools
import Schengen.Storage.Progress
import Schengen.Storage.ProgressRuns
import Schengen.Storage.ProgressDisplay
import Schengen.Storage.ProgressFrames
import Schengen.Storage.DisplayRuns
import Schengen.Storage.RenderThread
import Schengen.Library.FirstOccurrences
import Schengen.CommandLine.RepeatedNames
import Schengen.Library.CumulativeSearch
import Schengen.Random.PickToken
import Schengen.Tables.TableRows
import Schengen.CommandLine.WriteStrategies
import Schengen.Storage.StoredTables
import Schengen.CommandLine.MainRuns
import Schengen.Library.Linearizability
import Schengen.Queue.QueueCalls
import Schengen.Queue.Linearization
import Schengen.Storage.StorageBackends
