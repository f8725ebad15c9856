import Schengen.Storage.FileSystem
import Schengen.Storage.OwnFile

/-!
# Writers of Parquet and ORC files

`ParquetTableWriter` and `OrcTableWriter` for a partition in its own file, `OrcSingleFileSink`
for a table in one file. Each writes to a temporary path and moves the file to its final path
when it is closed. What has become of the file system is part of the state. The rows that the
format writer was given stand for the contents of a file.
-/

namespace Schengen.Storage

variable {ρ : Type}

/-- `row_count` is the number of rows; tables are told apart by name. -/
structure TableBatch (ρ : Type) where
  metadata : Option String
  rows : List ρ
  deriving DecidableEq

/-- What sets the two table writers apart. -/
structure TableFormat where
  writerName : String
  extension : String
  hasRowGroups : Bool

def TableFormat.parquet : TableFormat := ⟨"ParquetTableWriter", "parquet", true⟩

def TableFormat.orc : TableFormat := ⟨"OrcTableWriter", "orc", false⟩

/-- The arguments of an open call, and what `GetFilesystem` and `GetPath` make of them. -/
structure FileSettings where
  format : TableFormat
  tableName : String
  outputBufferBytes : Int
  getFilesystem : Status
  getPath : Status
  baseDir : String

structure FileTarget (ρ : Type) extends FileSettings where
  fs : FileSystem ρ

/-- The fields of a writer. `nullDereference` says that a call went through a null `writer_`:
what the call returns then means nothing. -/
structure FileWriter (ρ : Type) where
  table : Option String
  isOpen : Bool
  hasWriter : Bool
  hasSink : Bool
  partitionOpen : Bool
  tempPath : String
  finalPath : String
  world : World ρ
  nullDereference : Bool

def FileSettings.tableDir (settings : FileSettings) : String :=
  joinPath settings.baseDir settings.tableName

def FileSettings.buildPartitionFileName (settings : FileSettings) (partNum partCount : Int) :
    String :=
  if partCount ≤ 1 then settings.tableName ++ "-1." ++ settings.format.extension
  else
    settings.tableName ++ "-part-" ++ toString partNum ++ "-of-" ++ toString partCount ++ "." ++
      settings.format.extension

namespace FileWriter

/-- A new writer. -/
def new (files : String → Option (List ρ)) : FileWriter ρ :=
  ⟨none, false, false, false, false, "", "", ⟨files, [], []⟩, false⟩

/-- `RETURN_NOT_OK` -/
def andThen (r : Status × FileWriter ρ) (next : FileWriter ρ → Status × FileWriter ρ) :
    Status × FileWriter ρ :=
  if r.1 = .ok then next r.2 else r

end FileWriter

namespace FileTarget
open FileWriter

variable (target : FileTarget ρ)

def call (c : FileCall ρ) (s : FileWriter ρ) : Status × FileWriter ρ :=
  let r := target.fs.call c s.world
  (r.1, { s with world := r.2 })

/-! ## What the writers share -/

/-- The stream is moved into the buffered one, and lost if that fails. -/
def openBuffer (s : FileWriter ρ) : Status × FileWriter ρ :=
  if 0 < target.outputBufferBytes then
    let r := target.call .createBuffer s
    (r.1, { r.2 with hasSink := decide (r.1 = .ok) })
  else (.ok, s)

def openRowGroup (s : FileWriter ρ) : Status × FileWriter ρ :=
  if target.format.hasRowGroups then target.call .newRowGroup s else (.ok, s)

/-- The temporary file and the format writer, unless there is a file at the final path. -/
def openTemp (s : FileWriter ρ) : Status × FileWriter ρ :=
  andThen (target.call (.getFileInfo s.finalPath) s) fun s =>
    if (s.world.files s.finalPath).isSome then (.error "Already exists" s.finalPath, s)
    else
      andThen (target.call (.openOutputStream s.tempPath) s) fun s =>
        andThen (target.openBuffer { s with hasSink := true }) fun s =>
          andThen (target.call .openWriter s) fun s =>
            andThen (target.openRowGroup { s with hasWriter := true }) fun s =>
              (.ok, { s with isOpen := true })

/-- The file system, the directory and the paths, and then the file. -/
def openFile (fileName : String) (s : FileWriter ρ) : Status × FileWriter ρ :=
  andThen (target.getFilesystem, { s with table := some target.tableName }) fun s =>
    andThen (target.getPath, s) fun s =>
      andThen (target.call (.createDir target.tableDir) s) fun s =>
        let finalPath := joinPath target.tableDir fileName
        target.openTemp { s with finalPath := finalPath, tempPath := tempPath finalPath }

def closeStream (s : FileWriter ρ) : Status × FileWriter ρ :=
  if s.hasSink then
    andThen (target.call .closeStream s) fun s => (.ok, { s with hasSink := false })
  else (.ok, s)

def moveFile (s : FileWriter ρ) : Status × FileWriter ρ :=
  if s.tempPath ≠ "" ∧ s.finalPath ≠ "" then target.call (.move s.tempPath s.finalPath) s
  else (.ok, s)

/-- `ClosePartition` and `Close` -/
def closeFile (s : FileWriter ρ) : Status × FileWriter ρ :=
  if s.isOpen then
    if s.hasWriter then
      andThen (target.call .closeWriter s) fun s =>
        andThen (target.closeStream { s with hasWriter := false }) fun s =>
          andThen (target.moveFile s) fun s =>
            (.ok, { s with
              table := none, tempPath := "", finalPath := "", isOpen := false
              partitionOpen := false })
    else (.ok, { s with nullDereference := true })
  else (.ok, s)

/-- `WriteBatch` once the writer is known to be open. -/
def writeRows (batch : TableBatch ρ) (s : FileWriter ρ) : Status × FileWriter ρ :=
  if batch.rows.length = 0 then (.ok, s) else target.call (.write s.tempPath batch.rows) s

/-! ## `ParquetTableWriter`, `OrcTableWriter` -/

def openPartition (partNum partCount : Int) (s : FileWriter ρ) : Status × FileWriter ρ :=
  if s.isOpen then
    (.error "Invalid" (target.format.writerName ++
      "::OpenPartition() called while partition is already open"), s)
  else if partNum < 1 ∨ partCount < 1 ∨ partCount < partNum then
    (.error "Invalid" "Invalid partition range", s)
  else target.openFile (target.buildPartitionFileName partNum partCount) s

def writeBatch (batch : TableBatch ρ) (s : FileWriter ρ) : Status × FileWriter ρ :=
  if s.isOpen = false ∨ s.hasWriter = false ∨ s.table = none then
    (.error "Invalid" (target.format.writerName ++ "::WriteBatch() called before OpenPartition()"), s)
  else if batch.metadata = none ∨ batch.metadata ≠ s.table then
    (.error "Invalid" "TableBatch metadata mismatch", s)
  else target.writeRows batch s

/-- The writer of one partition. -/
def tableWriter (partNum partCount : Int) : TableWriter (FileWriter ρ) (TableBatch ρ) where
  openPartition := fun s =>
    (.returned (target.openPartition partNum partCount s).1,
      (target.openPartition partNum partCount s).2)
  writeBatch := fun batch s =>
    (.returned (target.writeBatch batch s).1, (target.writeBatch batch s).2)
  closePartition := fun s => (.returned (target.closeFile s).1, (target.closeFile s).2)

/-! ## `OrcSingleFileSink` -/

def openSink (s : FileWriter ρ) : Status × FileWriter ρ :=
  target.openFile (target.tableName ++ "-1." ++ target.format.extension) s

def beginPartition (s : FileWriter ρ) : Status × FileWriter ρ :=
  if s.isOpen = false ∨ s.hasWriter = false then
    (.error "Invalid" "OrcSingleFileSink::BeginPartition() called before Open()", s)
  else (.ok, { s with partitionOpen := true })

def writeSinkBatch (batch : TableBatch ρ) (s : FileWriter ρ) : Status × FileWriter ρ :=
  if s.isOpen = false ∨ s.hasWriter = false ∨ s.table = none then
    (.error "Invalid" "OrcSingleFileSink::WriteBatch() called before Open()", s)
  else if batch.metadata = none ∨ batch.metadata ≠ s.table then
    (.error "Invalid" "TableBatch metadata mismatch", s)
  else if batch.rows.length = 0 then (.ok, s)
  else
    andThen (if s.partitionOpen then (.ok, s) else beginPartition s) fun s =>
      target.writeRows batch s

def endPartition (s : FileWriter ρ) : Status × FileWriter ρ :=
  (.ok, { s with partitionOpen := false })

end FileTarget

end Schengen.Storage
