import Schengen.Storage.BridgeThreads
import Schengen.Storage.ForeignStreaming
import Schengen.Storage.TableWriters

/-!
# The ordered writers of the foreign formats

`LanceOrderedWriter` and `VortexOrderedWriter`, over the functions of their bridges. What a bridge
function returns, with the text of its last error, depends on the bridge calls before it.
-/

namespace Schengen.Storage
open Library

variable {ρ : Type}

/-! ## Options -/

structure LanceWriterOptions where
  targetPartitionRows : Int
  maxRowsPerFile : Int
  maxRowsPerGroup : Int
  maxBytesPerFile : Int

structure VortexWriterOptions where
  targetPartitionRows : Int
  rowBlockSize : Int
  outputBufferBytes : Int

inductive ForeignWriterOptions
  | lance (options : LanceWriterOptions)
  | vortex (options : VortexWriterOptions)

namespace ForeignWriterOptions

def validateNonNegative (value : Int) (optionName : String) : Status :=
  if value < 0 then .error "Invalid" (optionName ++ " must be >= 0") else .ok

def validatePositive (value : Int) (optionName : String) : Status :=
  if value ≤ 0 then .error "Invalid" (optionName ++ " must be > 0") else .ok

/-- The first status that is not OK. -/
def firstError (statuses : List Status) : Status :=
  (statuses.find? fun status => decide (status ≠ .ok)).getD .ok

def validate : ForeignWriterOptions → Status
  | .lance options => firstError
    [validateNonNegative options.targetPartitionRows "lance-target-partition-rows",
      validateNonNegative options.maxRowsPerFile "lance-max-rows-per-file",
      validateNonNegative options.maxRowsPerGroup "lance-max-rows-per-group",
      validateNonNegative options.maxBytesPerFile "lance-max-bytes-per-file"]
  | .vortex options => firstError
    [validateNonNegative options.targetPartitionRows "vortex-target-partition-rows",
      validatePositive options.rowBlockSize "vortex-row-block-size",
      validatePositive options.outputBufferBytes "vortex-output-buffer-bytes"]

def bridge : ForeignWriterOptions → WriterBridge
  | .lance _ => .lance
  | .vortex _ => .vortex

end ForeignWriterOptions

namespace WriterBridge

def writerName : WriterBridge → String
  | lance => "LanceOrderedWriter"
  | vortex => "VortexOrderedWriter"

def label : WriterBridge → String
  | lance => "Lance"
  | vortex => "Vortex"

/-- What the messages call the output. -/
def outputLabel : WriterBridge → String
  | lance => "Lance dataset"
  | vortex => "Vortex file"

def extension : WriterBridge → String
  | lance => "lance"
  | vortex => "vortex"

end WriterBridge

/-! ## The writer -/

/-- A call of a bridge function. -/
inductive BridgeOp (β : Type)
  | open (uri : String)
  | on (call : HandleCall β)
  deriving DecidableEq

/-- A table with where and how it is written; `respond` gives the code and the last error of a bridge
call after the earlier ones with their codes. -/
structure ForeignTarget (ρ : Type) where
  options : ForeignWriterOptions
  outputUri : String
  tableName : String
  exportSchema : Status
  exportRecordBatch : List ρ → Status
  makeEmptyColumns : Status
  respond : List (BridgeOp (List ρ) × Int) → BridgeOp (List ρ) → Int × String

/-- The members of a writer, a pointer by whether it is set, and the bridge calls it made. -/
structure OrderedWriter (ρ : Type) where
  table : Option String
  uri : String
  handle : Bool
  isOpen : Bool
  wroteNonEmptyBatch : Bool
  ops : List (BridgeOp (List ρ) × Int)

def OrderedWriter.new : OrderedWriter ρ := ⟨none, "", false, false, false, []⟩

/-- The five methods with their arguments. -/
inductive OrderedWriterCall (ρ : Type)
  | openTable
  | beginInputPartition (partNum partCount : Int)
  | writeBatch (batch : TableBatch ρ)
  | endInputPartition
  | closeTable

/-- The method that the scheduler calls, in a run with so many parts. -/
def SinkCall.writerCall (partCount : Nat) : SinkCall (TableBatch ρ) → OrderedWriterCall ρ
  | .openTable => .openTable
  | .beginPartition part => .beginInputPartition part partCount
  | .writeBatch batch => .writeBatch batch
  | .endPartition => .endInputPartition
  | .close => .closeTable

namespace ForeignTarget

variable (target : ForeignTarget ρ)

def bridge : WriterBridge := target.options.bridge

/-- `BuildDatasetPath` and `BuildFilePath` -/
def buildPath : String :=
  joinPath (joinPath target.outputUri target.tableName)
    (target.tableName ++ "-1." ++ target.bridge.extension)

def bridgeStatus (lastError fallback : String) : Status :=
  .error "IOError" (if lastError = "" then fallback else lastError)

def invalid (function message : String) : Status :=
  .error "Invalid" (target.bridge.writerName ++ "::" ++ function ++ "() called " ++ message)

/-- A bridge call whose code is checked. -/
def op (o : BridgeOp (List ρ)) (fallback : String) (s : OrderedWriter ρ) :
    Status × OrderedWriter ρ :=
  let response := target.respond s.ops o
  (if response.1 = 0 then .ok else bridgeStatus response.2 fallback,
    { s with ops := s.ops ++ [(o, response.1)] })

def andThen (r : Status × OrderedWriter ρ) (next : OrderedWriter ρ → Status × OrderedWriter ρ) :
    Status × OrderedWriter ρ :=
  if r.1 = .ok then next r.2 else r

def openTable (s : OrderedWriter ρ) : Status × OrderedWriter ρ :=
  if s.isOpen then (target.invalid "OpenTable" "while table is already open", s)
  else
    andThen (target.options.validate, s) fun s =>
      andThen (target.exportSchema,
        { s with table := some target.tableName, uri := target.buildPath }) fun s =>
        let r := target.op (.open s.uri)
          ("Failed to open " ++ target.bridge.outputLabel ++ " writer") s
        if r.1 = .ok then
          (.ok, { r.2 with handle := true, isOpen := true, wroteNonEmptyBatch := false })
        else (r.1, { r.2 with table := none, uri := "", handle := false })

def beginInputPartition (partNum partCount : Int) (s : OrderedWriter ρ) :
    Status × OrderedWriter ρ :=
  if !s.isOpen || !s.handle then (target.invalid "BeginInputPartition" "before OpenTable()", s)
  else if partNum < 1 ∨ partCount < 1 ∨ partCount < partNum then
    (.error "Invalid" "Invalid partition range", s)
  else
    target.op (.on (.beginPartition partNum partCount))
      ("Failed to begin " ++ target.bridge.label ++ " input partition") s

/-- `PushRecordBatch` -/
def pushRecordBatch (rows : List ρ) (s : OrderedWriter ρ) : Status × OrderedWriter ρ :=
  andThen (target.exportRecordBatch rows, s) fun s =>
    target.op (.on (.pushBatch rows))
      ("Failed to push Arrow batch into " ++ target.bridge.label ++ " writer") s

def writeBatch (batch : TableBatch ρ) (s : OrderedWriter ρ) : Status × OrderedWriter ρ :=
  if !s.isOpen || !s.handle || s.table.isNone then
    (target.invalid "WriteBatch" "before OpenTable()", s)
  else if batch.metadata = none ∨ batch.metadata ≠ s.table then
    (.error "Invalid" "TableBatch metadata mismatch", s)
  else if batch.rows.length = 0 then (.ok, s)
  else
    andThen (target.pushRecordBatch batch.rows s) fun s =>
      (.ok, { s with wroteNonEmptyBatch := true })

def endInputPartition (s : OrderedWriter ρ) : Status × OrderedWriter ρ :=
  if !s.isOpen || !s.handle then (target.invalid "EndInputPartition" "before OpenTable()", s)
  else
    target.op (.on .endPartition)
      ("Failed to end " ++ target.bridge.label ++ " input partition") s

/-- `CloseHandle`, and the members that `CloseTable` resets. -/
def closeHandle (s : OrderedWriter ρ) : OrderedWriter ρ :=
  { s with
    table := none
    uri := ""
    handle := false
    isOpen := false
    wroteNonEmptyBatch := false
    ops := if s.handle then s.ops ++ [(.on .destroy, 0)] else s.ops }

/-- The batch without rows that a Vortex file gets when it has no other; where its columns cannot be
made, `CloseTable` returns from here. -/
def pushEmptyBatch (s : OrderedWriter ρ) : Option (Status × OrderedWriter ρ) :=
  if target.bridge = .vortex ∧ s.wroteNonEmptyBatch = false ∧ s.table.isSome then
    if target.makeEmptyColumns = .ok then some (target.pushRecordBatch [] s) else none
  else some (.ok, s)

def closeTable (s : OrderedWriter ρ) : Status × OrderedWriter ρ :=
  if !s.isOpen then (.ok, closeHandle s)
  else
    match target.pushEmptyBatch s with
    | none => (target.makeEmptyColumns, s)
    | some pushed =>
      if !pushed.2.handle then (pushed.1, closeHandle pushed.2)
      else
        let finished := target.op (.on .finish)
          ("Failed to finish " ++ target.bridge.outputLabel ++ " writer") pushed.2
        (if pushed.1 = .ok then finished.1 else pushed.1, closeHandle finished.2)

/-- A call of one of the five methods. -/
def perform (c : OrderedWriterCall ρ) (s : OrderedWriter ρ) : Status × OrderedWriter ρ :=
  match c with
  | .openTable => target.openTable s
  | .beginInputPartition partNum partCount => target.beginInputPartition partNum partCount s
  | .writeBatch batch => target.writeBatch batch s
  | .endInputPartition => target.endInputPartition s
  | .closeTable => target.closeTable s

def performed (calls : List (OrderedWriterCall ρ)) : OrderedWriter ρ :=
  calls.foldl (fun s c => (target.perform c s).2) .new

/-- A call of the scheduler. -/
def call (partCount : Nat) (c : SinkCall (TableBatch ρ)) (s : OrderedWriter ρ) :
    Status × OrderedWriter ρ :=
  target.perform (c.writerCall partCount) s

def after (partCount : Nat) (calls : List (SinkCall (TableBatch ρ))) : OrderedWriter ρ :=
  target.performed (calls.map (SinkCall.writerCall partCount))

/-- The writer as the scheduler sees it. -/
def outcome (partCount : Nat) (calls : List (SinkCall (TableBatch ρ)))
    (c : SinkCall (TableBatch ρ)) : Outcome :=
  .returned (target.call partCount c (target.after partCount calls)).1

end ForeignTarget

end Schengen.Storage
