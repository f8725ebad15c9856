import Schengen.CommandLine.FormatSelections
import Schengen.Storage.TableWriters
import Schengen.Storage.WriterBridges

/-!
# Write strategies

The options of the scheduler, the strategies of the formats, and the function that
`GenerateTableWithStrategy` picks for a table. Where the build has Parquet,
`RunNativeMultiplexedOrdered` leaves a Parquet table to the parallel encoder.
-/

namespace Schengen.CommandLine
open Storage

inductive WriteStrategy
  | parallelPartitionFiles
  | singleFileOrdered
  deriving DecidableEq

inductive OrderedWriteExecutionModel
  | nativeMultiplexed
  | foreignStreaming
  deriving DecidableEq

structure WriteSchedulerOptions where
  strategy : Option WriteStrategy
  workerCount : Nat
  queueCapacity : Nat

/-- `BuildWriteSchedulerOptions` of the values of `--write-strategy`, `--write-workers` and
`--write-queue-capacity`. -/
def buildWriteSchedulerOptions (writeStrategy : String) (writeWorkers writeQueueCapacity : Nat) :
    Except String WriteSchedulerOptions := do
  let strategy := toLower writeStrategy
  let selected ←
    if strategy = "auto" then .ok none
    else if strategy = "parallel-files" then .ok (some WriteStrategy.parallelPartitionFiles)
    else if strategy = "single-file-ordered" then .ok (some WriteStrategy.singleFileOrdered)
    else .error (invalid ("Unsupported write-strategy: " ++ strategy))
  if writeQueueCapacity = 0 then .error (invalid "write-queue-capacity must be > 0")
  else return ⟨selected, writeWorkers, writeQueueCapacity⟩

namespace FormatDriver

def supportsStrategy : FormatDriver → WriteStrategy → Bool
  | parquet, strategy => strategy = .parallelPartitionFiles ∨ strategy = .singleFileOrdered
  | orc, strategy => strategy = .parallelPartitionFiles ∨ strategy = .singleFileOrdered
  | lance, strategy => strategy = .singleFileOrdered
  | vortex, strategy => strategy = .singleFileOrdered

def preferredStrategy : FormatDriver → WriteStrategy
  | parquet => .parallelPartitionFiles
  | orc => .parallelPartitionFiles
  | lance => .singleFileOrdered
  | vortex => .singleFileOrdered

def orderedExecutionModel : FormatDriver → OrderedWriteExecutionModel
  | parquet => .nativeMultiplexed
  | orc => .nativeMultiplexed
  | lance => .foreignStreaming
  | vortex => .foreignStreaming

/-- `CreateWriter`, by the format of the writer. -/
def createWriter : FormatDriver → Option TableFormat
  | parquet => some .parquet
  | orc => some .orc
  | lance => none
  | vortex => none

/-- `CreateOrderedWriter` of the foreign formats, by the bridge of the writer. -/
def createForeignWriter : FormatDriver → Option WriterBridge
  | parquet => none
  | orc => none
  | lance => some .lance
  | vortex => some .vortex

end FormatDriver

def resolveSelectedWriteStrategy (options : WriteSchedulerOptions) (formatDriver : FormatDriver) :
    Except String WriteStrategy :=
  let strategy := options.strategy.getD formatDriver.preferredStrategy
  if formatDriver.supportsStrategy strategy then .ok strategy
  else .error (invalid ("Write strategy is not supported for format " ++ formatDriver.name ++ ": " ++
    if strategy = .parallelPartitionFiles then "parallel-files" else "single-file-ordered"))

/-- The functions that write a table. -/
inductive TableFunction
  | runParallelPartitionFiles
  | runParallelEncodeParquetOrdered
  | runNativeMultiplexedOrdered
  | runForeignStreamingOrdered
  deriving DecidableEq

/-- `RunNativeMultiplexedOrdered` up to the opening of its sink. -/
def nativeFunction (formatDriver : FormatDriver) : TableFunction :=
  if formatDriver = .parquet then .runParallelEncodeParquetOrdered else .runNativeMultiplexedOrdered

def strategyFunction (formatDriver : FormatDriver) : WriteStrategy → TableFunction
  | .parallelPartitionFiles => .runParallelPartitionFiles
  | .singleFileOrdered =>
    match formatDriver.orderedExecutionModel with
    | .nativeMultiplexed => nativeFunction formatDriver
    | .foreignStreaming => .runForeignStreamingOrdered

/-- `GenerateTableWithStrategy` up to the call that writes the table, with what `ResolvePartCount`
returned; where there is no such call, the text that is reported before it returns 2. -/
def selectFunction (options : WriteSchedulerOptions) (formatDriver : FormatDriver)
    (tableName : String) (partCount : Int) : Except String TableFunction :=
  if partCount < 1 then .error ("Invalid part_count for table " ++ tableName)
  else do
    let strategy ← resolveSelectedWriteStrategy options formatDriver
    return strategyFunction formatDriver strategy

variable {options : WriteSchedulerOptions} {formatDriver : FormatDriver} {tableName : String}
  {partCount : Int} {function : TableFunction} {strategy : WriteStrategy}

lemma selectFunction_ok (h : selectFunction options formatDriver tableName partCount = .ok function) :
    1 ≤ partCount ∧ ∃ strategy, resolveSelectedWriteStrategy options formatDriver = .ok strategy ∧
      function = strategyFunction formatDriver strategy := by
  unfold selectFunction at h
  by_cases hcount : partCount < 1
  · rw [if_pos hcount] at h
    cases h
  rw [if_neg hcount] at h
  cases hstrategy : resolveSelectedWriteStrategy options formatDriver with
  | error e =>
    rw [hstrategy] at h
    cases h
  | ok strategy =>
    rw [hstrategy] at h
    exact ⟨by omega, strategy, rfl, (Except.ok.inj h).symm⟩

end Schengen.CommandLine
