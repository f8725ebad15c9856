import Schengen.Library.ClosingFifo
import Schengen.Library.Runs
import Schengen.Storage.Pipeline

/-!
# One partition in its own file

`GeneratePartitionToOwnFile`: a thread runs the generator and pushes its batches into a queue,
the calling thread writes them. The table writer is any one with its three calls. A step is one
access to the queue or to `stop_requested` together with the local statements up to the next
one; what comes before the thread is one step, and so is what comes after it has ended. An
exception that leaves the block while the thread runs terminates the program.
-/

namespace Schengen.Storage
open Library

variable {σ β : Type}

/-- `ITableWriter` -/
structure TableWriter (σ β : Type) where
  openPartition : σ → Outcome × σ
  writeBatch : β → σ → Outcome × σ
  closePartition : σ → Outcome × σ

/-- The messages of this queue: it carries no end of a partition. -/
inductive PartMessage (β : Type)
  | batch (batch : β)
  | error (error : String)
  deriving DecidableEq

inductive OwnFileProducer
  | notStarted
  | loadStop
  | push
  | pushError (error : String)
  | close
  | ended
  deriving DecidableEq

inductive OwnFilePc
  | start
  | pop
  | storeStop
  | close
  | join
  | returned (rc : Int)
  | threw (thrown : Thrown)
  | terminated
  deriving DecidableEq

/-- The parameters of a run. `create` is what `CreateGenerator` does, `reset` the exception that
`Reset` throws, and then the generator returns `batches` and ends. -/
structure OwnFile (σ β : Type) where
  tableName : String
  formatName : String
  part : Nat
  partCount : Nat
  create : GeneratorStart
  hasWriter : Bool
  writer : TableWriter σ β
  reset : Option Thrown
  batches : List β
  ends : GeneratorEnd

/-- `errors` are the texts given to `ReportError`; `popped` records history. -/
structure OwnFileState (σ β : Type) where
  queue : ClosingFifo (PartMessage β)
  stopRequested : Bool
  producer : OwnFileProducer
  position : Nat
  pipelineError : String
  writer : σ
  errors : List String
  pc : OwnFilePc
  popped : List (PartMessage β)

/-- `keep` is the number of messages that stay in the queue if the step closes it. -/
inductive OwnFileAction
  | producer (keep : Nat)
  | consumer (keep : Nat)

namespace OwnFile

variable (run : OwnFile σ β)

def initial (writer : σ) : OwnFileState σ β where
  queue := .empty
  stopRequested := false
  producer := .notStarted
  position := 0
  pipelineError := ""
  writer := writer
  errors := []
  pc := .start
  popped := []

def reportError (s : OwnFileState σ β) (error : String) : OwnFileState σ β :=
  { s with errors := s.errors ++ [error] }

/-- `part/part_count for table name` -/
def partName : String :=
  toString run.part ++ "/" ++ toString run.partCount ++ " for table " ++ run.tableName

/-! ## The producer thread -/

def producerStep (keep : Nat) (s : OwnFileState σ β) : Option (OwnFileState σ β) :=
  match s.producer with
  | .notStarted => none
  | .loadStop => some { s with producer := if s.stopRequested then .close else .push }
  | .push =>
    match run.batches[s.position]? with
    | some batch =>
      match s.queue.push (.batch batch) with
      | none => some { s with producer := .close, position := s.position + 1 }
      | some queue =>
        some { s with queue := queue, producer := .loadStop, position := s.position + 1 }
    | none =>
      match run.ends with
      | .finished => some { s with producer := .close }
      | .threw thrown => some { s with producer := .pushError (thrown.text "Unknown generation error") }
  | .pushError error =>
    match s.queue.push (.error error) with
    | none => some { s with producer := .close }
    | some queue => some { s with queue := queue, producer := .close }
  | .close => some { s with queue := s.queue.close keep, producer := .ended }
  | .ended => none

/-! ## The calling thread -/

/-- The `catch` clauses and what follows them. -/
def caught (partitionOpen : Bool) (thrown : Thrown) (s : OwnFileState σ β) : OwnFileState σ β :=
  let s := reportError s ("Partition " ++ toString run.part ++ "/" ++ toString run.partCount ++
    " failed for table " ++ run.tableName ++ ": " ++ thrown.text "unknown error during generation")
  if partitionOpen then
    let closed := run.writer.closePartition s.writer
    match closed.1 with
    | .returned .ok => { s with writer := closed.2, pc := .returned 2 }
    | .returned status =>
      reportError { s with writer := closed.2, pc := .returned 2 }
        ("Partition cleanup failed for table " ++ run.tableName ++ ": " ++ status.toString)
    | .threw thrown => { s with writer := closed.2, pc := .threw thrown }
  else { s with pc := .returned 2 }

/-- Up to the start of the thread. -/
def start (s : OwnFileState σ β) : OwnFileState σ β :=
  match run.create with
  | .missing =>
    reportError { s with pc := .returned 2 }
      ("Failed to create generator for table: " ++ run.tableName)
  | .threw thrown => run.caught false thrown s
  | .ready =>
    if run.hasWriter then
      let opened := run.writer.openPartition s.writer
      let s := { s with writer := opened.2 }
      match opened.1 with
      | .returned .ok =>
        match run.reset with
        | none => { s with producer := .loadStop, pc := .pop }
        | some thrown => run.caught true thrown s
      | .returned status =>
        reportError { s with pc := .returned 2 }
          ("Failed to open partition " ++ run.partName ++ ": " ++ status.toString)
      | .threw thrown => run.caught false thrown s
    else
      reportError { s with pc := .returned 2 }
        ("Writer is not available for format: " ++ run.formatName)

/-- `if (pipeline_error.empty()) pipeline_error = error` -/
def fail (s : OwnFileState σ β) (error : String) : OwnFileState σ β :=
  { s with
    pipelineError := if s.pipelineError = "" then error else s.pipelineError
    pc := .storeStop }

def handleMessage (s : OwnFileState σ β) : PartMessage β → OwnFileState σ β
  | .error error => fail s error
  | .batch batch =>
    if s.stopRequested then s
    else
      let written := run.writer.writeBatch batch s.writer
      let s := { s with writer := written.2 }
      match written.1 with
      | .returned .ok => s
      | .returned status => fail s status.toString
      | .threw _ => { s with pc := .terminated }

/-- What follows `producer_thread.join()`. -/
def finish (s : OwnFileState σ β) : OwnFileState σ β :=
  if s.pipelineError ≠ "" then
    let s := reportError s ("Failed to write partition " ++ run.partName ++ ": " ++ s.pipelineError)
    let closed := run.writer.closePartition s.writer
    let s := { s with writer := closed.2 }
    match closed.1 with
    | .returned .ok => { s with pc := .returned 2 }
    | .returned status =>
      reportError { s with pc := .returned 2 }
        ("Partition cleanup failed for table " ++ run.tableName ++ ": " ++ status.toString)
    | .threw thrown => run.caught true thrown s
  else
    let closed := run.writer.closePartition s.writer
    let s := { s with writer := closed.2 }
    match closed.1 with
    | .returned .ok => { s with pc := .returned 0 }
    | .returned status =>
      reportError { s with pc := .returned 2 }
        ("Failed to close partition " ++ run.partName ++ ": " ++ status.toString)
    | .threw thrown => run.caught true thrown s

def consumerStep (keep : Nat) (s : OwnFileState σ β) : Option (OwnFileState σ β) :=
  match s.pc with
  | .start => some (run.start s)
  | .pop =>
    match s.queue.pop with
    | some (message, queue) =>
      some (run.handleMessage { s with queue := queue, popped := s.popped ++ [message] } message)
    | none => if s.queue.closed then some { s with pc := .join } else none
  | .storeStop => some { s with stopRequested := true, pc := .close }
  | .close => some { s with queue := s.queue.close keep, pc := .pop }
  | .join => if s.producer = .ended then some (run.finish s) else none
  | .returned _ => none
  | .threw _ => none
  | .terminated => none

def step (s : OwnFileState σ β) : OwnFileAction → Option (OwnFileState σ β)
  | .producer keep => run.producerStep keep s
  | .consumer keep => run.consumerStep keep s

/-- Closing the queue discards nothing. -/
def Delivers (s : OwnFileState σ β) : OwnFileAction → Prop
  | .producer keep => s.queue.messages.length ≤ keep
  | .consumer keep => s.queue.messages.length ≤ keep

instance (s : OwnFileState σ β) (action : OwnFileAction) : Decidable (Delivers s action) := by
  cases action <;> exact inferInstanceAs (Decidable (_ ≤ _))

end OwnFile

end Schengen.Storage
