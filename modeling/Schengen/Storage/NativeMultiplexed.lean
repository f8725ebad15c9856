import Schengen.Library.ClosingFifo
import Schengen.Library.Runs
import Schengen.Storage.Pipeline

/-!
# The multiplexed ordered writer

`RunNativeMultiplexedOrdered`: one producer for every part pushes its batches into a shared
queue, the consumer keeps what arrives and writes the parts in their order. A step is one
access to the shared queue, `stop_requested` or `remaining_producers` together with the
local statements up to the next one. The queue is any FIFO queue that refuses pushes after
`Close` and may discard the messages at its end when it is closed; the sink answers each call
with any outcome. The model starts once the output is open.
-/

namespace Schengen.Storage
open Library

variable {β : Type}

/-- The next access of a producer. -/
inductive ProducerPc
  | createGenerator
  | loadStop
  | push
  | loadStopAtEnd
  | pushEnd
  | pushError (error : String)
  | storeStop
  | closeOnError
  | fetchSub
  | close
  | finished (rc : Int)
  deriving DecidableEq

/-- A producer and the number of batches it has taken from its generator. -/
structure Producer where
  pc : ProducerPc
  position : Nat
  deriving DecidableEq

structure PartitionState (β : Type) where
  batches : List β
  completed : Bool
  opened : Bool

/-- The local variables of the consumer, and the calls made on the sink. -/
structure Consumer (β : Type) where
  states : Nat → Option (PartitionState β)
  expectedPart : Nat
  pipelineError : String
  calls : List (SinkCall β)

inductive ConsumerPc
  | pop
  | storeStop
  | close
  | join
  | returned (rc : Int)
  | threw (thrown : Thrown)
  deriving DecidableEq

/-- The parameters of a run: the parts, their generators and the outcome of each call on the
sink, which may depend on the calls before it. -/
structure NativeMultiplexed (β : Type) where
  tableName : String
  partCount : Nat
  generator : Nat → PartGenerator β
  sink : List (SinkCall β) → SinkCall β → Outcome

/-- `popped` and `pushed` record history: the messages popped, and the messages of each part
that the queue accepted. -/
structure MultiplexState (β : Type) where
  queue : ClosingFifo (BatchMessage β)
  stopRequested : Bool
  remainingProducers : Int
  producer : Nat → Producer
  consumer : Consumer β
  pc : ConsumerPc
  popped : List (BatchMessage β)
  pushed : Nat → List (BatchMessage β)

/-- `keep` is the number of messages that stay in the queue if the step closes it. -/
inductive MultiplexAction
  | producer (part keep : Nat)
  | consumer (keep : Nat)

namespace NativeMultiplexed

variable (run : NativeMultiplexed β)

def initial : MultiplexState β where
  queue := .empty
  stopRequested := false
  remainingProducers := run.partCount
  producer := fun _ => ⟨.createGenerator, 0⟩
  consumer := ⟨fun _ => none, 1, "", []⟩
  pc := .pop
  popped := []
  pushed := fun _ => []

/-! ## Producers -/

def goto (s : MultiplexState β) (part : Nat) (pc : ProducerPc) : MultiplexState β :=
  { s with producer := Function.update s.producer part { s.producer part with pc := pc } }

/-- `queue.Push(message)`; the producer goes on at `accepted` or at `refused`. -/
def push (s : MultiplexState β) (message : BatchMessage β) (accepted refused : Producer) :
    MultiplexState β :=
  match s.queue.push message with
  | none => { s with producer := Function.update s.producer message.part refused }
  | some queue =>
    { s with
      queue := queue
      producer := Function.update s.producer message.part accepted
      pushed := Function.update s.pushed message.part (s.pushed message.part ++ [message]) }

def producerStep (part keep : Nat) (s : MultiplexState β) : Option (MultiplexState β) :=
  let generator := run.generator part
  let position := (s.producer part).position
  match (s.producer part).pc with
  | .createGenerator =>
    match generator.start with
    | .ready => some (goto s part .loadStop)
    | .missing =>
      some (goto s part (.pushError ("Failed to create generator for table: " ++ run.tableName)))
    | .threw thrown =>
      some (goto s part (.pushError (thrown.text "Unknown partition generation error")))
  | .loadStop => some (goto s part (if s.stopRequested then .loadStopAtEnd else .push))
  | .push =>
    match generator.batches[position]? with
    | some batch =>
      some (push s (.batch part batch) ⟨.loadStop, position + 1⟩ ⟨.finished 2, position + 1⟩)
    | none =>
      match generator.ends with
      | .finished => some (goto s part .loadStopAtEnd)
      | .threw thrown =>
        some (goto s part (.pushError (thrown.text "Unknown partition generation error")))
  | .loadStopAtEnd => some (goto s part (if s.stopRequested then .fetchSub else .pushEnd))
  | .pushEnd => some (push s (.endPartition part) ⟨.fetchSub, position⟩ ⟨.fetchSub, position⟩)
  | .pushError error =>
    some (push s (.error part error) ⟨.storeStop, position⟩ ⟨.storeStop, position⟩)
  | .storeStop => some (goto { s with stopRequested := true } part .closeOnError)
  | .closeOnError => some (goto { s with queue := s.queue.close keep } part (.finished 2))
  | .fetchSub =>
    some (goto { s with remainingProducers := s.remainingProducers - 1 } part
      (if s.remainingProducers = 1 then .close else .finished 0))
  | .close => some (goto { s with queue := s.queue.close keep } part (.finished 0))
  | .finished _ => none

/-! ## Writing what is ready -/

/-- The batches one after the other, up to the first call that fails; a batch is taken off
once it is written. -/
def writeBatches : List β → List (SinkCall β) → Outcome × List β × List (SinkCall β)
  | [], calls => (.ok, [], calls)
  | batch :: batches, calls =>
    let outcome := run.sink calls (.writeBatch batch)
    let calls := calls ++ [.writeBatch batch]
    if outcome = .ok then writeBatches batches calls else (outcome, batch :: batches, calls)

/-- The partition is begun with its first batch. -/
def openPartition (part : Nat) (state : PartitionState β) (calls : List (SinkCall β)) :
    Outcome × PartitionState β × List (SinkCall β) :=
  if state.batches.isEmpty || state.opened then (.ok, state, calls)
  else
    let outcome := run.sink calls (.beginPartition part)
    (outcome, if outcome = .ok then { state with opened := true } else state,
      calls ++ [.beginPartition part])

def writePartition (state : PartitionState β) (calls : List (SinkCall β)) :
    Outcome × PartitionState β × List (SinkCall β) :=
  let written := run.writeBatches state.batches calls
  (written.1, { state with batches := written.2.1 }, written.2.2)

def endPartition (state : PartitionState β) (calls : List (SinkCall β)) :
    Outcome × List (SinkCall β) :=
  if state.opened then (run.sink calls .endPartition, calls ++ [.endPartition]) else (.ok, calls)

def setState (s : Consumer β) (part : Nat) (state : Option (PartitionState β))
    (calls : List (SinkCall β)) : Consumer β :=
  { s with states := Function.update s.states part state, calls := calls }

/-- One turn of the loop of `drain_ready_partitions`: its outcome, and whether the loop goes
on with the next part. -/
def drainPartition (state : PartitionState β) (s : Consumer β) : Outcome × Bool × Consumer β :=
  let part := s.expectedPart
  let opened := run.openPartition part state s.calls
  if opened.1 ≠ .ok then (opened.1, false, setState s part opened.2.1 opened.2.2)
  else
    let written := run.writePartition opened.2.1 opened.2.2
    if written.1 ≠ .ok then (written.1, false, setState s part written.2.1 written.2.2)
    else if written.2.1.completed = false then
      (.ok, false, setState s part written.2.1 written.2.2)
    else
      let ended := run.endPartition written.2.1 written.2.2
      if ended.1 ≠ .ok then (ended.1, false, setState s part written.2.1 ended.2)
      else (.ok, true, { setState s part none ended.2 with expectedPart := part + 1 })

/-- `drain_ready_partitions`, with fuel for the parts from `expected_part` on. -/
def drainLoop : Nat → Consumer β → Outcome × Consumer β
  | 0, s => (.ok, s)
  | fuel + 1, s =>
    match s.states s.expectedPart with
    | none => (.ok, s)
    | some state =>
      let turn := run.drainPartition state s
      if turn.2.1 then drainLoop fuel turn.2.2 else (turn.1, turn.2.2)

def drainReadyPartitions (s : Consumer β) : Outcome × Consumer β :=
  run.drainLoop (run.partCount + 1 - s.expectedPart) s

/-! ## The consumer -/

/-- `if (pipeline_error.empty()) pipeline_error = error` -/
def fail (s : Consumer β) (error : String) : Consumer β :=
  { s with pipelineError := if s.pipelineError = "" then error else s.pipelineError }

def failUnless (cond : Bool) (s : Consumer β) (error : String) : Consumer β :=
  if cond then s else fail s error

/-- `states[part]`, with the message put into it. -/
def keepMessage (s : Consumer β) (message : BatchMessage β) : Consumer β :=
  let state := (s.states message.part).getD ⟨[], false, false⟩
  let state : PartitionState β :=
    match message with
    | .batch _ batch => { state with batches := state.batches ++ [batch] }
    | _ => { state with completed := true }
  { s with states := Function.update s.states message.part (some state) }

/-- What follows the drain after a message. -/
def noteDrain (s : MultiplexState β) (drained : Outcome × Consumer β) : MultiplexState β :=
  match drained.1 with
  | .returned .ok => { s with consumer := drained.2 }
  | .returned status =>
    { s with consumer := { drained.2 with pipelineError := status.toString }, pc := .storeStop }
  | .threw thrown => { s with consumer := drained.2, pc := .threw thrown }

def handleMessage (s : MultiplexState β) (message : BatchMessage β) : MultiplexState β :=
  match message with
  | .error part error =>
    { s with
      consumer := fail s.consumer ("Partition " ++ toString part ++ " failed: " ++ error)
      pc := .storeStop }
  | message => noteDrain s (run.drainReadyPartitions (keepMessage s.consumer message))

/-- The producers' return codes. -/
def producersFailed (s : MultiplexState β) : Bool :=
  (List.range' 1 run.partCount).any fun part => (s.producer part).pc = .finished 2

def allFinished (s : MultiplexState β) : Bool :=
  (List.range' 1 run.partCount).all fun part =>
    (s.producer part).pc = .finished 0 || (s.producer part).pc = .finished 2

/-- What follows the last drain. -/
def closeSink (s : Consumer β) : ConsumerPc × Consumer β :=
  let s := failUnless (s.expectedPart = run.partCount + 1) s
    "Not all partitions were written to the output file"
  let s' := { s with calls := s.calls ++ [.close] }
  match run.sink s.calls .close with
  | .returned status =>
    let s := failUnless (status = .ok) s' status.toString
    (.returned (if s.pipelineError = "" then 0 else 2), s)
  | .threw thrown => (.threw thrown, s')

/-- What follows the last call of `Pop`, once all producers have ended. -/
def finish (producersFailed : Bool) (s : Consumer β) : ConsumerPc × Consumer β :=
  let drained := run.drainReadyPartitions
    (failUnless (!producersFailed) s "Partition producer returned error")
  match drained.1 with
  | .returned status => run.closeSink (failUnless (status = .ok) drained.2 status.toString)
  | .threw thrown => (.threw thrown, drained.2)

def consumerStep (keep : Nat) (s : MultiplexState β) : Option (MultiplexState β) :=
  match s.pc with
  | .pop =>
    match s.queue.pop with
    | some (message, queue) =>
      some (run.handleMessage { s with queue := queue, popped := s.popped ++ [message] } message)
    | none => if s.queue.closed then some { s with pc := .join } else none
  | .storeStop => some { s with stopRequested := true, pc := .close }
  | .close => some { s with queue := s.queue.close keep, pc := .pop }
  | .join =>
    if run.allFinished s then
      let finished := run.finish (run.producersFailed s) s.consumer
      some { s with pc := finished.1, consumer := finished.2 }
    else none
  | .returned _ => none
  | .threw _ => none

def step (s : MultiplexState β) : MultiplexAction → Option (MultiplexState β)
  | .producer part keep =>
    if 1 ≤ part ∧ part ≤ run.partCount then run.producerStep part keep s else none
  | .consumer keep => run.consumerStep keep s

/-- A run that returns `rc` after the given calls on the sink. -/
def Returns (rc : Int) (calls : List (SinkCall β)) : Prop :=
  ∃ s, Reachable run.step run.initial s ∧ s.pc = .returned rc ∧ s.consumer.calls = calls

end NativeMultiplexed

end Schengen.Storage
