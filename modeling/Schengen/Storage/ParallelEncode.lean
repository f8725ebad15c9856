import Schengen.Library.Bytes
import Schengen.Storage.FileSystem
import Schengen.Storage.ParquetMetadata

/-!
# The parallel Parquet encoder

`RunParallelEncodeParquetOrdered` as its consumer sees it: the results of the workers arrive in
any order, and the consumer merges the mini-files in part order into one file. Thrift and the
file system are parameters.
-/

namespace Schengen.Storage
open Library

variable {μ : Type}

structure InMemoryPartitionData where
  part : Nat
  buffer : Option (List UInt8)
  error : String

/-- The parameters of a run. `arrivals` are the results that `result_queue.Pop` returns, one
after the other; `workerThrew` says whether a worker's future holds an exception. -/
structure ParallelEncode (μ : Type) where
  tableName : String
  partCount : Nat
  outputBufferBytes : Int
  getFilesystem : Status
  getPath : Status
  baseDir : String
  fs : FileSystem UInt8
  deserialize : List UInt8 → Except String (FileMetaData μ)
  serialize : FileMetaData μ → List UInt8
  arrivals : List InMemoryPartitionData
  workerThrew : Bool

/-- The local variables of the consumer. -/
structure MergeState (μ : Type) where
  world : World UInt8
  pipelineError : String
  merged : FileMetaData μ
  schemaSet : Bool
  currentOutputDataOffset : Int
  pending : Nat → Option InMemoryPartitionData
  expectedPart : Nat

/-- `PAR1` -/
def parquetMagic : List UInt8 := [0x50, 0x41, 0x52, 0x31]

/-- The length in the last eight bytes of a file. -/
def footerLen (footerSuffix : List UInt8) : Nat :=
  (footerSuffix.getD 0 0).toNat ||| (footerSuffix.getD 1 0).toNat <<< 8 |||
    (footerSuffix.getD 2 0).toNat <<< 16 ||| (footerSuffix.getD 3 0).toNat <<< 24

def footerLenBytes (serializedLen : Nat) : List UInt8 :=
  [UInt8.ofNat (serializedLen &&& 0xFF), UInt8.ofNat (serializedLen >>> 8 &&& 0xFF),
    UInt8.ofNat (serializedLen >>> 16 &&& 0xFF), UInt8.ofNat (serializedLen >>> 24 &&& 0xFF)]

namespace ParallelEncode

variable (run : ParallelEncode μ)

def tableDir : String := joinPath run.baseDir run.tableName

def finalPath : String := joinPath run.tableDir (run.tableName ++ "-1.parquet")

def tempPath : String := Storage.tempPath run.finalPath

def fail (message : String) (w : World UInt8) : Int × World UInt8 :=
  (2, w.reportError
    ("parallel-encode-parquet write failed for table " ++ run.tableName ++ ": " ++ message))

/-- `if (!status.ok()) return fail(status.ToString())` -/
def checked (called : Status × World UInt8) (next : World UInt8 → Int × World UInt8) :
    Int × World UInt8 :=
  if called.1 = .ok then next called.2 else run.fail called.1.toString called.2

/-! ## Merging -/

def processBuffer (buffer : List UInt8) (part : Nat) (s : MergeState μ) : MergeState μ :=
  if s.pipelineError ≠ "" then s
  else
    let fileSize := buffer.length
    let footerLength := footerLen (buffer.drop (fileSize - 8))
    let footerStart : Int := fileSize - 8 - footerLength
    let rowGroupDataSize := footerStart - 4
    match run.deserialize (range buffer footerStart.toNat footerLength) with
    | .error what =>
      { s with pipelineError :=
          "footer deserialization failed for partition " ++ toString part ++ ": " ++ what }
    | .ok file =>
      let s := { s with
        merged := s.merged.addFile s.schemaSet s.currentOutputDataOffset file
        schemaSet := true }
      if 0 < rowGroupDataSize then
        let written := run.fs.call
          (.write run.tempPath (range buffer 4 rowGroupDataSize.toNat)) s.world
        if written.1 = .ok then
          { s with
            world := written.2
            currentOutputDataOffset := s.currentOutputDataOffset + rowGroupDataSize }
        else { s with world := written.2, pipelineError := written.1.toString }
      else s

/-- One turn of the inner loop, for the result of the expected part. -/
def takePending (result : InMemoryPartitionData) (s : MergeState μ) : MergeState μ :=
  let processed :=
    if result.error ≠ "" then
      { s with pipelineError :=
          "partition " ++ toString s.expectedPart ++ " failed: " ++ result.error }
    else
      match result.buffer with
      | some buffer => run.processBuffer buffer s.expectedPart s
      | none => s
  { processed with
    pending := Function.update processed.pending s.expectedPart none
    expectedPart := s.expectedPart + 1 }

/-- The inner loop, with fuel for the parts from `expected_part` on. -/
def drainPending : Nat → MergeState μ → MergeState μ
  | 0, s => s
  | fuel + 1, s =>
    if s.pipelineError = "" then
      match s.pending s.expectedPart with
      | none => s
      | some result => drainPending fuel (run.takePending result s)
    else s

def receive (result : InMemoryPartitionData) (s : MergeState μ) : MergeState μ :=
  run.drainPending (run.partCount + 1 - s.expectedPart)
    { s with pending := Function.update s.pending result.part (some result) }

/-- The loop over `result_queue.Pop`, left at the first error. -/
def consume : List InMemoryPartitionData → MergeState μ → MergeState μ
  | [], s => s
  | result :: results, s =>
    let s := run.receive result s
    if s.pipelineError = "" then consume results s else s

/-! ## The function -/

variable [Inhabited μ]

/-- The consumer once the leading magic was written. -/
def startMerge (written : Status × World UInt8) : MergeState μ where
  world := written.2
  pipelineError := if written.1 = .ok then "" else written.1.toString
  merged := ⟨0, default, 0, [], none, none, none⟩
  schemaSet := false
  currentOutputDataOffset := 0
  pending := fun _ => none
  expectedPart := 1

def joinWorkers (s : MergeState μ) : MergeState μ :=
  if run.workerThrew && s.pipelineError = "" then
    { s with pipelineError := "worker task threw exception" }
  else s

/-- The state of the consumer when the results and the workers have come to their end. -/
def merge (w : World UInt8) : MergeState μ :=
  run.joinWorkers (run.consume run.arrivals
    (startMerge (run.fs.call (.write run.tempPath parquetMagic) w)))

/-- The footer and the end of the file, `Close` and `Move`. -/
def finish (merged : FileMetaData μ) (w : World UInt8) : Int × World UInt8 :=
  let serialized := run.serialize merged
  run.checked (run.fs.call (.write run.tempPath serialized) w) fun w =>
    run.checked (run.fs.call (.write run.tempPath (footerLenBytes serialized.length)) w) fun w =>
      run.checked (run.fs.call (.write run.tempPath parquetMagic) w) fun w =>
        run.checked (run.fs.call .closeStream w) fun w =>
          run.checked (run.fs.call (.move run.tempPath run.finalPath) w) fun w => (0, w)

/-- From the open temporary file on. -/
def encode (w : World UInt8) : Int × World UInt8 :=
  let s := run.joinWorkers (run.consume run.arrivals
    (startMerge (run.fs.call (.write run.tempPath parquetMagic) w)))
  if s.pipelineError ≠ "" then
    let aborted := run.fs.call .abort s.world
    let deleted := run.fs.call (.deleteFile run.tempPath) aborted.2
    run.fail s.pipelineError deleted.2
  else if s.expectedPart ≠ run.partCount + 1 then
    run.fail "not all partitions completed" s.world
  else run.finish s.merged s.world

def openTemp (w : World UInt8) : Int × World UInt8 :=
  run.checked (run.fs.call (.openOutputStream run.tempPath) w) fun w =>
    if 0 < run.outputBufferBytes then run.checked (run.fs.call .createBuffer w) run.encode
    else run.encode w

/-- `RunParallelEncodeParquetOrdered` -/
def runOrdered (w : World UInt8) : Int × World UInt8 :=
  run.checked (run.getFilesystem, w) fun w =>
    run.checked (run.getPath, w) fun w =>
      run.checked (run.fs.call (.createDir run.tableDir) w) fun w =>
        let info := run.fs.call (.getFileInfo run.finalPath) w
        if info.1 = .ok ∧ (info.2.files run.finalPath).isSome then
          (0, info.2.reportError (run.finalPath ++ " already exists, skipping generation"))
        else run.openTemp info.2

/-- The function finds its final file there before it. -/
def Skips (w : World UInt8) : Prop :=
  run.getFilesystem = .ok ∧ run.getPath = .ok ∧
    (run.fs.call (.createDir run.tableDir) w).1 = .ok ∧
    let info := run.fs.call (.getFileInfo run.finalPath)
      (run.fs.call (.createDir run.tableDir) w).2
    info.1 = .ok ∧ (info.2.files run.finalPath).isSome = true

variable {run}

/-- A final file that is there already stays, and the function returns 0. -/
lemma runOrdered_skips {w : World UInt8} (h : run.Skips w) :
    (run.runOrdered w).1 = 0 ∧
      (run.runOrdered w).2.files run.finalPath = w.files run.finalPath := by
  obtain ⟨hsystem, hpath, hdir, hexists⟩ := h
  have hskips : run.runOrdered w = (0, ((run.fs.call (.getFileInfo run.finalPath)
      (run.fs.call (.createDir run.tableDir) w).2).2.reportError
        (run.finalPath ++ " already exists, skipping generation"))) := by
    unfold runOrdered checked
    exact (if_pos hsystem).trans ((if_pos hpath).trans ((if_pos hdir).trans (if_pos hexists)))
  rw [hskips]
  refine ⟨rfl, ?_⟩
  exact (call_files_other List.not_mem_nil).trans (call_files_other List.not_mem_nil)

lemma encode_failed {w : World UInt8} (h : (run.merge w).pipelineError ≠ "") :
    run.encode w = run.fail (run.merge w).pipelineError
      (run.fs.call (.deleteFile run.tempPath) (run.fs.call .abort (run.merge w).world).2).2 :=
  if_pos h

lemma encode_incomplete {w : World UInt8} (hnone : (run.merge w).pipelineError = "")
    (h : (run.merge w).expectedPart ≠ run.partCount + 1) :
    run.encode w = run.fail "not all partitions completed" (run.merge w).world :=
  (if_neg (not_not.mpr hnone)).trans (if_pos h)

lemma encode_merged {w : World UInt8} (hnone : (run.merge w).pipelineError = "")
    (h : (run.merge w).expectedPart = run.partCount + 1) :
    run.encode w = run.finish (run.merge w).merged (run.merge w).world :=
  (if_neg (not_not.mpr hnone)).trans (if_neg (not_not.mpr h))

end ParallelEncode

end Schengen.Storage
