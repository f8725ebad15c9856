import Mathlib.Data.List.Basic
import Mathlib.Logic.Function.Basic

/-!
# The bounded multi-producer queue

`BoundedMpscQueue` of `Storage/write_scheduler.cpp`, one atomic access a step. Any number
of producers `ι` call `Push` and `Close`, one consumer calls `Pop` and `Close`. A thread's
program counter names the statement it executes next; what it has read so far is an
argument of the counter. Positions are unbounded. The accesses to `slot.value` are steps
of their own, although they are not atomic in the source.
-/

namespace Schengen.Queue

/-- Next statement of a producer thread; `v` is the value being pushed. -/
inductive ProducerPc (α : Type)
  | idle
  | loadClosed (v : α)
  | loadEnqueuePos (v : α)
  | loadSequence (v : α) (pos : Nat)
  | compareExchange (v : α) (pos : Nat)
  | writeValue (v : α) (pos : Nat)
  | storeSequence (v : α) (pos : Nat)
  | notifyNotEmpty (v : α) (pos : Nat)
  | lockNotFull (v : α)
  | testClosed (v : α)
  | testEnqueuePos (v : α)
  | testSequence (v : α) (pos : Nat)
  | block (v : α)
  | blocked (v : α)
  | unlockNotFull (v : α)
  | exchangeClosed
  | notifyAllNotEmpty
  | notifyAllNotFull
  deriving DecidableEq

/-- Next statement of the consumer thread. -/
inductive ConsumerPc
  | idle
  | loadSequence
  | takeValue
  | storeSequence
  | notifyNotFull
  | loadClosed
  | lockNotEmpty
  | testClosed
  | testSequence
  | block
  | blocked
  | unlockNotEmpty
  | exchangeClosed
  | notifyAllNotEmpty
  | notifyAllNotFull
  deriving DecidableEq

/-- The queue's memory, the threads' program counters and the history. `notFullWaiters`
are the producers blocked on `not_full_cv_` that no notification has reached, and
`notEmptyWaiting` says the same of the consumer and `not_empty_cv_`. The fields from
`won` on record history and are never read by a step: the pushes in the order of the
positions they won, the positions of the pushes that returned true, the calls of `Push`
of each thread with the position won, latest first, the values popped, whether `Close`
was called, the values popped before the first `Pop` that returned false, and whether a
thread was notified in its current `Push` and has not blocked again since. -/
structure State (ι α : Type) where
  sequence : Nat → Nat
  value : Nat → α
  enqueuePos : Nat
  dequeuePos : Nat
  closed : Bool
  notFullMutex : Option ι
  notEmptyMutex : Bool
  notFullWaiters : List ι
  notEmptyWaiting : Bool
  producer : ι → ProducerPc α
  consumer : ConsumerPc
  won : List (ι × α)
  accepted : List Nat
  calls : ι → List (α × Option Nat)
  popped : List α
  closeCalled : Bool
  drained : Option (List α)
  woken : ι → Bool

/-- `push i v` and `pop` enter the calls, `producer i` and `consumer` execute the next
statement, `weakFail i` is a spurious failure of `compare_exchange_weak`, and `wake i` is
a `notify_one` on `not_full_cv_` that picks the blocked producer `i`. -/
inductive Action (ι α : Type)
  | push (i : ι) (v : α)
  | close (i : ι)
  | pop
  | consumerClose
  | producer (i : ι)
  | weakFail (i : ι)
  | consumer
  | wake (i : ι)

/-- The capacity the constructor keeps. -/
def effectiveCapacity (capacity : Nat) : Nat := max 1 capacity

def index (n pos : Nat) : Nat := pos % n

def sequenceDiff (lhs rhs : Nat) : Int := (lhs : Int) - (rhs : Int)

variable {ι α : Type}

/-- The state after the constructor. -/
def initial (v₀ : α) : State ι α where
  sequence := fun i => i
  value := fun _ => v₀
  enqueuePos := 0
  dequeuePos := 0
  closed := false
  notFullMutex := none
  notEmptyMutex := false
  notFullWaiters := []
  notEmptyWaiting := false
  producer := fun _ => .idle
  consumer := .idle
  won := []
  accepted := []
  calls := fun _ => []
  popped := []
  closeCalled := false
  drained := none
  woken := fun _ => false

namespace State

/-- `CanProducerReserveSlot`, read at one instant. -/
def canProducerReserveSlot (n : Nat) (s : State ι α) : Prop :=
  0 ≤ sequenceDiff (s.sequence (index n s.enqueuePos)) s.enqueuePos

/-- `IsCurrentSlotReadable`, read at one instant. -/
def isCurrentSlotReadable (n : Nat) (s : State ι α) : Prop :=
  sequenceDiff (s.sequence (index n s.dequeuePos)) (s.dequeuePos + 1) = 0

instance (n : Nat) (s : State ι α) : Decidable (s.canProducerReserveSlot n) :=
  inferInstanceAs (Decidable (_ ≤ _))

instance (n : Nat) (s : State ι α) : Decidable (s.isCurrentSlotReadable n) :=
  inferInstanceAs (Decidable (_ = _))

variable [DecidableEq ι]

/-- Thread `i` goes on at `pc`. -/
def goto (s : State ι α) (i : ι) (pc : ProducerPc α) : State ι α :=
  { s with producer := Function.update s.producer i pc }

def consumerGoto (s : State ι α) (pc : ConsumerPc) : State ι α :=
  { s with consumer := pc }

/-- The latest call of `Push` of thread `i` wins the position `pos`. -/
def recordWin (s : State ι α) (i : ι) (v : α) (pos : Nat) : State ι α :=
  { s with
    won := s.won ++ [(i, v)]
    calls := Function.update s.calls i ((v, some pos) :: (s.calls i).tail) }

/-- `notify_all` on `not_full_cv_`. -/
def wakeAll (s : State ι α) : State ι α :=
  { s with notFullWaiters := [], woken := fun j => decide (j ∈ s.notFullWaiters) || s.woken j }

end State

variable [DecidableEq ι] (n : Nat)

/-- The next statement of producer `i`. -/
def producerStep (s : State ι α) (i : ι) : Option (State ι α) :=
  match s.producer i with
  | .idle => none
  | .loadClosed v => some (s.goto i (if s.closed then .idle else .loadEnqueuePos v))
  | .loadEnqueuePos v => some (s.goto i (.loadSequence v s.enqueuePos))
  | .loadSequence v pos =>
    let diff := sequenceDiff (s.sequence (index n pos)) pos
    some (s.goto i
      (if diff = 0 then .compareExchange v pos
        else if diff < 0 then .lockNotFull v else .loadClosed v))
  | .compareExchange v pos =>
    if s.enqueuePos = pos then
      some (({ s with enqueuePos := pos + 1 }.recordWin i v pos).goto i (.writeValue v pos))
    else some (s.goto i (.loadClosed v))
  | .writeValue v pos =>
    some ({ s with value := Function.update s.value (index n pos) v }.goto i (.storeSequence v pos))
  | .storeSequence v pos =>
    some ({ s with sequence := Function.update s.sequence (index n pos) (pos + 1) }.goto i
      (.notifyNotEmpty v pos))
  | .notifyNotEmpty _ pos =>
    some ({ s with notEmptyWaiting := false, accepted := pos :: s.accepted }.goto i .idle)
  | .lockNotFull v =>
    if s.notFullMutex.isNone then
      some ({ s with notFullMutex := some i }.goto i (.testClosed v))
    else none
  | .testClosed v => some (s.goto i (if s.closed then .unlockNotFull v else .testEnqueuePos v))
  | .testEnqueuePos v => some (s.goto i (.testSequence v s.enqueuePos))
  | .testSequence v pos =>
    some (s.goto i
      (if 0 ≤ sequenceDiff (s.sequence (index n pos)) pos then .unlockNotFull v else .block v))
  | .block v =>
    some ({ s with
      notFullMutex := none
      notFullWaiters := i :: s.notFullWaiters
      woken := Function.update s.woken i false }.goto i (.blocked v))
  | .blocked v =>
    if i ∉ s.notFullWaiters ∧ s.notFullMutex.isNone then
      some ({ s with notFullMutex := some i }.goto i (.testClosed v))
    else none
  | .unlockNotFull v => some ({ s with notFullMutex := none }.goto i (.loadClosed v))
  | .exchangeClosed =>
    some ({ s with closed := true }.goto i (if s.closed then .idle else .notifyAllNotEmpty))
  | .notifyAllNotEmpty => some ({ s with notEmptyWaiting := false }.goto i .notifyAllNotFull)
  | .notifyAllNotFull => some (s.wakeAll.goto i .idle)

/-- The next statement of the consumer. The plain write of `dequeue_pos_`, which no other
thread reads, belongs to the store before it. -/
def consumerStep (s : State ι α) : Option (State ι α) :=
  match s.consumer with
  | .idle => none
  | .loadSequence =>
    let diff := sequenceDiff (s.sequence (index n s.dequeuePos)) (s.dequeuePos + 1)
    some (s.consumerGoto
      (if diff = 0 then .takeValue else if diff < 0 then .loadClosed else .loadSequence))
  | .takeValue =>
    some ({ s with popped := s.popped ++ [s.value (index n s.dequeuePos)] }.consumerGoto
      .storeSequence)
  | .storeSequence =>
    some ({ s with
      sequence := Function.update s.sequence (index n s.dequeuePos) (s.dequeuePos + n)
      dequeuePos := s.dequeuePos + 1 }.consumerGoto .notifyNotFull)
  | .notifyNotFull => if s.notFullWaiters = [] then some (s.consumerGoto .idle) else none
  | .loadClosed =>
    if s.closed then
      some ({ s with drained := some (s.drained.getD s.popped) }.consumerGoto .idle)
    else some (s.consumerGoto .lockNotEmpty)
  | .lockNotEmpty =>
    if s.notEmptyMutex then none
    else some ({ s with notEmptyMutex := true }.consumerGoto .testClosed)
  | .testClosed => some (s.consumerGoto (if s.closed then .unlockNotEmpty else .testSequence))
  | .testSequence =>
    some (s.consumerGoto
      (if sequenceDiff (s.sequence (index n s.dequeuePos)) (s.dequeuePos + 1) = 0
        then .unlockNotEmpty else .block))
  | .block =>
    some ({ s with notEmptyMutex := false, notEmptyWaiting := true }.consumerGoto .blocked)
  | .blocked =>
    if s.notEmptyWaiting || s.notEmptyMutex then none
    else some ({ s with notEmptyMutex := true }.consumerGoto .testClosed)
  | .unlockNotEmpty => some ({ s with notEmptyMutex := false }.consumerGoto .loadSequence)
  | .exchangeClosed =>
    some ({ s with closed := true }.consumerGoto (if s.closed then .idle else .notifyAllNotEmpty))
  | .notifyAllNotEmpty =>
    some ({ s with notEmptyWaiting := false }.consumerGoto .notifyAllNotFull)
  | .notifyAllNotFull => some (s.wakeAll.consumerGoto .idle)

/-- One action on a queue of capacity `n`. -/
def step (s : State ι α) : Action ι α → Option (State ι α)
  | .push i v =>
    match s.producer i with
    | .idle =>
      some ({ s with
        calls := Function.update s.calls i ((v, none) :: s.calls i)
        woken := Function.update s.woken i false }.goto i (.loadClosed v))
    | _ => none
  | .close i =>
    match s.producer i with
    | .idle => some ({ s with closeCalled := true }.goto i .exchangeClosed)
    | _ => none
  | .pop =>
    match s.consumer with
    | .idle => some (s.consumerGoto .loadSequence)
    | _ => none
  | .consumerClose =>
    match s.consumer with
    | .idle => some ({ s with closeCalled := true }.consumerGoto .exchangeClosed)
    | _ => none
  | .producer i => producerStep n s i
  | .weakFail i =>
    match s.producer i with
    | .compareExchange v _ => some (s.goto i (.loadClosed v))
    | _ => none
  | .consumer => consumerStep n s
  | .wake i =>
    match s.consumer with
    | .notifyNotFull =>
      if i ∈ s.notFullWaiters then
        some ({ s with
          notFullWaiters := s.notFullWaiters.erase i
          woken := Function.update s.woken i true }.consumerGoto .idle)
      else none
    | _ => none

/-- The actions of the consumer, and the wake-up that its `notify_one` gives. -/
def Action.ofConsumer : Action ι α → Prop
  | .pop | .consumerClose | .consumer | .wake _ => True
  | .push _ _ | .close _ | .producer _ | .weakFail _ => False

/-- What only the producers change. -/
structure SameProducers (s t : State ι α) : Prop where
  producer : t.producer = s.producer
  enqueuePos : t.enqueuePos = s.enqueuePos
  won : t.won = s.won
  accepted : t.accepted = s.accepted
  calls : t.calls = s.calls

variable {n} {s t : State ι α} {a : Action ι α}

theorem sameProducers_step (hs : step n s a = some t) (ha : a.ofConsumer) : SameProducers s t := by
  cases a with
  | push i v | close i | producer i | weakFail i => cases ha
  | pop | consumerClose =>
    simp only [step] at hs
    split at hs <;> cases hs
    exact ⟨rfl, rfl, rfl, rfl, rfl⟩
  | wake i =>
    simp only [step] at hs
    split at hs
    · split at hs <;> cases hs
      exact ⟨rfl, rfl, rfl, rfl, rfl⟩
    · cases hs
  | consumer =>
    cases hpc : s.consumer <;> simp only [step, consumerStep, hpc] at hs
    all_goals try split at hs
    all_goals cases hs
    all_goals exact ⟨rfl, rfl, rfl, rfl, rfl⟩

end Schengen.Queue
