import Schengen.Library.Runs
import Schengen.Storage.PartitionRange

/-!
# A file for every part

`RunParallelPartitionFiles`: the workers take parts from a shared queue and generate each into a
file of its own; the first error stops the others. A step is one access to the queue,
`stop_requested` or `first_error`, one call of `GeneratePartitionToOwnFile`, or one future that is
joined. Each call has any result.
-/

namespace Schengen.Storage
open Library

/-- The result of `GeneratePartitionToOwnFile`. -/
inductive CallResult
  | returned (rc : Int)
  | threw
  deriving DecidableEq

/-- The next access of a worker. A task that ends with an exception keeps it in its future. -/
inductive FileWorkerPc
  | loadClosed
  | fetchAdd
  | loadStop (part : Int)
  | generate (part : Int)
  | storeError (rc : Int)
  | storeStop
  | close
  | ended
  | threw
  deriving DecidableEq

/-- The next access of the caller, which joins the futures in their order. -/
inductive JoinPc
  | get (worker : Nat)
  | storeError (worker : Nat)
  | returned (rc : Int)
  deriving DecidableEq

/-- `taken` and `calls` record history: the parts that workers took, and the parts and results of
the calls. -/
structure PartitionFilesState where
  queue : PartitionRangeQueue
  stopRequested : Bool
  firstError : Int
  worker : Nat → FileWorkerPc
  main : JoinPc
  taken : List (Nat × Int)
  calls : List (Int × CallResult)

/-- `result` is what the call returns if the worker's step is one. -/
inductive PartitionFilesAction
  | worker (worker : Nat) (result : CallResult)
  | main

/-- The parameters of a run: the number of parts and `worker_count` of the options. -/
structure PartitionFiles where
  partCount : Nat
  workerCount : Nat

namespace PartitionFiles

variable (run : PartitionFiles)

def workers : Nat := resolveWorkerCount run.workerCount run.partCount

def initial : PartitionFilesState where
  queue := .new run.partCount
  stopRequested := false
  firstError := 0
  worker := fun _ => .loadClosed
  main := .get 0
  taken := []
  calls := []

def goto (s : PartitionFilesState) (worker : Nat) (pc : FileWorkerPc) : PartitionFilesState :=
  { s with worker := Function.update s.worker worker pc }

def afterCall : CallResult → FileWorkerPc
  | .returned rc => if rc = 0 then .loadClosed else .storeError rc
  | .threw => .threw

def workerStep (worker : Nat) (result : CallResult) (s : PartitionFilesState) :
    Option PartitionFilesState :=
  match s.worker worker with
  | .loadClosed => some (goto s worker (if s.queue.closed then .ended else .fetchAdd))
  | .fetchAdd =>
    let fetched := s.queue.fetchAdd
    match fetched.1 with
    | none => some (goto { s with queue := fetched.2 } worker .ended)
    | some part =>
      some (goto { s with queue := fetched.2, taken := s.taken ++ [(worker, part)] } worker
        (.loadStop part))
  | .loadStop part => some (goto s worker (if s.stopRequested then .loadClosed else .generate part))
  | .generate part =>
    some (goto { s with calls := s.calls ++ [(part, result)] } worker (afterCall result))
  | .storeError rc => some (goto { s with firstError := rc } worker .storeStop)
  | .storeStop => some (goto { s with stopRequested := true } worker .close)
  | .close => some (goto { s with queue := s.queue.close } worker .ended)
  | .ended => none
  | .threw => none

def mainStep (s : PartitionFilesState) : Option PartitionFilesState :=
  match s.main with
  | .get worker =>
    if worker < run.workers then
      match s.worker worker with
      | .ended => some { s with main := .get (worker + 1) }
      | .threw => some { s with main := .storeError worker }
      | _ => none
    else some { s with main := .returned s.firstError }
  | .storeError worker => some { s with firstError := 2, main := .get (worker + 1) }
  | .returned _ => none

def step (s : PartitionFilesState) : PartitionFilesAction → Option PartitionFilesState
  | .worker worker result => if worker < run.workers then workerStep worker result s else none
  | .main => run.mainStep s

end PartitionFiles

end Schengen.Storage
