import Schengen.Library.Runs
import Schengen.Storage.WriterBridges

/-!
# The worker thread of a handle

The calls on a handle with the channel between the calling thread and the worker. The worker reads
its batches from the channel for a writer of `lance` or `vortex`, and may give up its end or end at
any time. The handle carries from the start what the join will give. The channel of the Vortex bridge
is a parameter; that of the Lance bridge is the `sync_channel` of the standard library.
-/

namespace Schengen.Storage
open Library

variable {β : Type}

inductive HandleCall (β : Type)
  | beginPartition (partNum partCount : Int)
  | pushBatch (batch : β)
  | endPartition
  | finish
  | destroy
  deriving DecidableEq

/-- The calling thread is between two calls, in a send whose message is in the channel, in a join, or
the handle is gone. -/
inductive BridgeCaller (β : Type)
  | idle
  | flushing (batch : β)
  | joining (sent : Except String Unit) (destroys : Bool)
  | released

/-- A call that returned, and what its send gave. -/
structure BridgeEntry (β : Type) where
  call : HandleCall β
  sent : Except String Unit
  code : Int

/-- `messages` is the channel with its two ends `connected` and `receiver`; a message `none` ends the
stream. `sent` and `received` record the batches that got into the channel and out of it. -/
structure BridgeThreads (β : Type) where
  handle : WriterHandle
  messages : List (Option β)
  connected : Bool
  receiver : Bool
  ended : Bool
  exited : Bool
  caller : BridgeCaller β
  sent : List β
  received : List β
  log : List (BridgeEntry β)

inductive BridgeAction (β : Type)
  | call (c : HandleCall β)
  | resume
  | recv
  | dropReceiver
  | exit

/-- The number in `sync_channel(8)` and `channel(8)`. -/
def channelBuffer : Nat := 8

/-- A bounded channel: whether a send finds a place for its message, whether one whose message is in
the channel returns, which of the messages a receive takes, and what a send gives without a receiver
for its message, or behind it. -/
structure BridgeChannel (β : Type) where
  enters : BridgeThreads β → Bool
  returns : BridgeThreads β → Bool
  next : BridgeThreads β → Nat
  refused : String
  dropped : Except String Unit

/-- `std::sync::mpsc::sync_channel` -/
def syncChannel : BridgeChannel β where
  enters := fun s => s.messages.length < channelBuffer
  returns := fun _ => true
  next := fun _ => 0
  refused := "sending on a closed channel"
  dropped := .ok ()

namespace BridgeChannel

/-- The messages are received in their order, and the end of the stream behind them. -/
def Fifo (channel : BridgeChannel β) : Prop := ∀ s, channel.next s = 0

/-- A send does not wait for ever on an empty channel. -/
def Live (channel : BridgeChannel β) : Prop :=
  ∀ s, s.messages = [] → channel.enters s = true ∧ channel.returns s = true

end BridgeChannel

/-- The channel of a handle; `mpsc` is that of the Vortex bridge. -/
def WriterBridge.channel (mpsc : BridgeChannel β) : WriterBridge → BridgeChannel β
  | .lance => syncChannel
  | .vortex => mpsc

namespace BridgeThreads

/-- `lance_writer_open` and `vortex_writer_open`, where they succeed. -/
def new (worker : WorkerResult) : BridgeThreads β where
  handle := .new worker
  messages := []
  connected := true
  receiver := true
  ended := false
  exited := false
  caller := .idle
  sent := []
  received := []
  log := []

variable (bridge : WriterBridge) (channel : BridgeChannel β) (imported : β → Except String Unit)

/-! ## The calling thread -/

/-- A handle is destroyed by a `finish`, if it needs one. -/
def bridgeCall (sent : Except String Unit) : HandleCall β → BridgeCall
  | .beginPartition partNum partCount => .beginPartition partNum partCount
  | .pushBatch batch => .pushBatch (imported batch) sent
  | .endPartition => .endPartition
  | .finish => .finish sent
  | .destroy => .finish sent

/-- The call returns. -/
def answer (c : HandleCall β) (sent : Except String Unit) (s : BridgeThreads β) : BridgeThreads β :=
  let called := bridge.call (bridgeCall imported sent c) s.handle
  { s with handle := called.2, caller := .idle, log := s.log ++ [⟨c, sent, called.1⟩] }

/-- The batch gets into the channel. -/
def send (batch : β) (s : BridgeThreads β) : BridgeThreads β :=
  { s with messages := s.messages ++ [some batch], sent := s.sent ++ [batch] }

/-- A send that finds its receiver gone. -/
def disconnected : Except String Unit := .error channel.refused

/-- The send waits for a place. -/
def pushBatch (batch : β) (s : BridgeThreads β) : Option (BridgeThreads β) :=
  if s.handle.finished || !(imported batch).isOk || !s.handle.sender then
    some (s.answer bridge imported (.pushBatch batch) (.ok ()))
  else if !s.receiver then
    some (s.answer bridge imported (.pushBatch batch) (disconnected channel))
  else if channel.enters s then some { s.send batch with caller := .flushing batch }
  else none

/-- `finish` returns at once where there is nothing to join. -/
def endWriter (destroys : Bool) (s : BridgeThreads β) : Option (BridgeThreads β) :=
  if s.handle.finished || s.handle.worker.isNone then
    if destroys then
      some { s with handle := bridge.destroy (.ok ()) s.handle, caller := .released }
    else some (s.answer bridge imported .finish (.ok ()))
  else
    let s' := { s with connected := false }
    if bridge = .vortex || !s.handle.sender then
      some { s' with caller := .joining (.ok ()) destroys }
    else if !s.receiver then some { s' with caller := .joining (disconnected channel) destroys }
    else if channel.enters s then
      some { s' with messages := s.messages ++ [none], caller := .joining (.ok ()) destroys }
    else none

def call (c : HandleCall β) (s : BridgeThreads β) : Option (BridgeThreads β) :=
  match s.caller with
  | .idle =>
    match c with
    | .pushBatch batch => s.pushBatch bridge channel imported batch
    | .finish => s.endWriter bridge channel imported false
    | .destroy => s.endWriter bridge channel imported true
    | c => some (s.answer bridge imported c (.ok ()))
  | _ => none

def resume (s : BridgeThreads β) : Option (BridgeThreads β) :=
  match s.caller with
  | .flushing batch =>
    if !s.receiver then some (s.answer bridge imported (.pushBatch batch) channel.dropped)
    else if channel.returns s then some (s.answer bridge imported (.pushBatch batch) (.ok ()))
    else none
  | .joining sent destroys =>
    if s.exited then
      if destroys then some { s with handle := bridge.destroy sent s.handle, caller := .released }
      else some (s.answer bridge imported .finish sent)
    else none
  | _ => none

/-! ## The worker -/

/-- `ChannelBatchReader::next`, or the stream of the receiver. -/
def recv (s : BridgeThreads β) : Option (BridgeThreads β) :=
  if s.receiver && !s.ended then
    let messages := s.messages.eraseIdx (channel.next s)
    match s.messages[channel.next s]? with
    | some (some batch) => some { s with messages := messages, received := s.received ++ [batch] }
    | some none => some { s with messages := messages, ended := true }
    | none => if s.connected then none else some { s with ended := true }
  else none

def dropReceiver (s : BridgeThreads β) : Option (BridgeThreads β) :=
  if s.receiver then some { s with messages := [], receiver := false } else none

def exit (s : BridgeThreads β) : Option (BridgeThreads β) :=
  if s.exited then none else some { s with messages := [], receiver := false, exited := true }

/-- `mpsc` is the channel of a Vortex handle. -/
def step (mpsc : BridgeChannel β) (s : BridgeThreads β) : BridgeAction β → Option (BridgeThreads β)
  | .call c => s.call bridge (bridge.channel mpsc) imported c
  | .resume => s.resume bridge (bridge.channel mpsc) imported
  | .recv => s.recv (bridge.channel mpsc)
  | .dropReceiver => s.dropReceiver
  | .exit => s.exit

/-- A worker whose writer is to succeed keeps its end until it has read the end of the stream. -/
def ReadsToEnd (s : BridgeThreads β) : BridgeAction β → Prop
  | .dropReceiver => s.handle.worker = some .done → s.ended = true
  | .exit => s.handle.worker = some .done → s.ended = true
  | _ => True

instance (s : BridgeThreads β) (action : BridgeAction β) : Decidable (ReadsToEnd s action) := by
  cases action <;> unfold ReadsToEnd <;> infer_instance

/-- The batches whose `push_batch` returned 0. -/
def accepted (log : List (BridgeEntry β)) : List β :=
  log.filterMap fun entry =>
    match entry.call with
    | .pushBatch batch => if entry.code = 0 then some batch else none
    | _ => none

/-- The batch of a send that has not returned. -/
def pending : BridgeCaller β → List β
  | .flushing batch => [batch]
  | _ => []

end BridgeThreads

end Schengen.Storage
