import Schengen.Library.ClosingFifo
import Schengen.Library.Linearizability
import Schengen.Queue.Fifo

/-!
# The calls on the queue

The history of calls and returns of a run of `BoundedMpscQueue`, the atomic queue to compare it with,
and how far each thread has come in its call. A push that takes a position takes effect there, or,
where the queue has been closed meanwhile, at the instant before it was closed.
-/

namespace Schengen.Queue
open Library

variable {ι α : Type}

inductive QueueOp (α : Type)
  | push (value : α)
  | pop
  | close
  deriving DecidableEq

inductive QueueResult (α : Type)
  | pushed (accepted : Bool)
  | popped (value : Option α)
  | closed
  deriving DecidableEq

/-- The atomic queue. Where it `loses` values, the first close discards some from the end on. -/
def queueSpec (loses : Prop) (q : ClosingFifo α) :
    QueueOp α → QueueResult α → ClosingFifo α → Prop
  | .push value, .pushed true, r => q.push value = some r
  | .push value, .pushed false, r => q.push value = none ∧ r = q
  | .pop, .popped (some value), r => q.pop = some (value, r)
  | .pop, .popped none, r => q.pop = none ∧ q.closed = true ∧ r = q
  | .close, .closed, r =>
    if q.closed then r = q else ∃ keep, r = q.close keep ∧ (keep < q.messages.length → loses)
  | _, _, _ => False

/-- The producers are `some i`, the consumer is `none`. -/
abbrev QueueEvent (ι α : Type) := CallEvent (Option ι) (QueueOp α) (QueueResult α)

/-- What a step shows of the calls. -/
def shows (s : State ι α) : Action ι α → List (QueueEvent ι α)
  | .push i v => [.call (some i) (.push v)]
  | .close i => [.call (some i) .close]
  | .pop => [.call none .pop]
  | .consumerClose => [.call none .close]
  | .producer i =>
    match s.producer i with
    | .loadClosed _ => if s.closed then [.ret (some i) (.pushed false)] else []
    | .notifyNotEmpty _ _ => [.ret (some i) (.pushed true)]
    | .exchangeClosed => if s.closed then [.ret (some i) .closed] else []
    | .notifyAllNotFull => [.ret (some i) .closed]
    | _ => []
  | .weakFail _ => []
  | .consumer =>
    match s.consumer with
    | .notifyNotFull => [.ret none (.popped s.popped.getLast?)]
    | .loadClosed => if s.closed then [.ret none (.popped none)] else []
    | .exchangeClosed => if s.closed then [.ret none .closed] else []
    | .notifyAllNotFull => [.ret none .closed]
    | _ => []
  | .wake _ => [.ret none (.popped s.popped.getLast?)]

/-- The status of a producer; `wins` says that its push takes a position after the queue was closed. -/
def producerStatus (wins : Bool) : ProducerPc α → CallStatus (QueueOp α) (QueueResult α)
  | .idle => .idle
  | .loadClosed v | .loadEnqueuePos v | .loadSequence v _ | .compareExchange v _
  | .lockNotFull v | .testClosed v | .testEnqueuePos v | .testSequence v _
  | .block v | .blocked v | .unlockNotFull v =>
    if wins then .effected (.pushed true) else .called (.push v)
  | .writeValue _ _ | .storeSequence _ _ | .notifyNotEmpty _ _ => .effected (.pushed true)
  | .exchangeClosed => .called .close
  | .notifyAllNotEmpty | .notifyAllNotFull => .effected .closed

/-- The status of the consumer, where the values have been popped. -/
def consumerStatus (popped : List α) : ConsumerPc → CallStatus (QueueOp α) (QueueResult α)
  | .idle => .idle
  | .loadSequence | .takeValue | .loadClosed | .lockNotEmpty | .testClosed | .testSequence
  | .block | .blocked | .unlockNotEmpty => .called .pop
  | .storeSequence | .notifyNotFull => .effected (.popped popped.getLast?)
  | .exchangeClosed => .called .close
  | .notifyAllNotEmpty | .notifyAllNotFull => .effected .closed

/-- The value of a push that has found the queue open and not yet taken a position. -/
def mayWin : ProducerPc α → Option α
  | .loadEnqueuePos v | .loadSequence v _ | .compareExchange v _ => some v
  | _ => none

/-- A step of producer `i`, which goes on at `pc`. -/
structure ProducerFrame [DecidableEq ι] (s t : State ι α) (i : ι) (pc : ProducerPc α) : Prop where
  producer : t.producer = Function.update s.producer i pc
  consumer : t.consumer = s.consumer
  popped : t.popped = s.popped
  drained : t.drained = s.drained

/-- A step of the consumer, which goes on at `pc`. -/
structure ConsumerFrame (s t : State ι α) (pc : ConsumerPc) : Prop where
  producer : t.producer = s.producer
  consumer : t.consumer = pc
  won : t.won = s.won

/-- What a step of producer `i` does in its call. -/
inductive ProducerMoves (s t : State ι α) (i : ι) (pc : ProducerPc α) :
    List (QueueEvent ι α) → Prop
  | calls {op : QueueOp α} (hs : s.producer i = .idle) (hpc : producerStatus false pc = .called op)
    (hwin : mayWin pc = none) (hwon : t.won = s.won) (hclosed : t.closed = s.closed) :
    ProducerMoves s t i pc [.call (some i) op]
  | works (hpc : ∀ wins, producerStatus wins pc = producerStatus wins (s.producer i))
    (hwin : s.closed = true → mayWin pc = none ∨ mayWin pc = mayWin (s.producer i))
    (hwon : t.won = s.won) (hclosed : t.closed = s.closed) : ProducerMoves s t i pc []
  | refused {v : α} (hs : s.producer i = .loadClosed v) (hpc : pc = .idle)
    (hended : s.closed = true) (hwon : t.won = s.won) (hclosed : t.closed = s.closed) :
    ProducerMoves s t i pc [.ret (some i) (.pushed false)]
  | wins {v : α} {pos : Nat} (hs : s.producer i = .compareExchange v pos)
    (hpc : pc = .writeValue v pos) (hwon : t.won = s.won ++ [(i, v)])
    (hclosed : t.closed = s.closed) : ProducerMoves s t i pc []
  | returns {result : QueueResult α}
    (hs : ∀ wins, producerStatus wins (s.producer i) = .effected result) (hpc : pc = .idle)
    (hwon : t.won = s.won) (hclosed : t.closed = s.closed) :
    ProducerMoves s t i pc [.ret (some i) result]
  | closes (hs : s.producer i = .exchangeClosed) (hpc : pc = .notifyAllNotEmpty)
    (hopen : s.closed = false) (hwon : t.won = s.won) (hclosed : t.closed = true) :
    ProducerMoves s t i pc []
  | closesAgain (hs : s.producer i = .exchangeClosed) (hpc : pc = .idle)
    (hended : s.closed = true) (hwon : t.won = s.won) (hclosed : t.closed = s.closed) :
    ProducerMoves s t i pc [.ret (some i) .closed]

/-- What a step of the consumer does in its call. -/
inductive ConsumerMoves (n : Nat) (s t : State ι α) (pc : ConsumerPc) :
    List (QueueEvent ι α) → Prop
  | calls {op : QueueOp α} (hs : s.consumer = .idle) (hpc : consumerStatus s.popped pc = .called op)
    (hpopped : t.popped = s.popped) (hclosed : t.closed = s.closed)
    (hdrained : t.drained = s.drained) : ConsumerMoves n s t pc [.call none op]
  | works (hpc : consumerStatus s.popped pc = consumerStatus s.popped s.consumer)
    (hpopped : t.popped = s.popped) (hclosed : t.closed = s.closed)
    (hdrained : t.drained = s.drained) : ConsumerMoves n s t pc []
  | takes (hs : s.consumer = .takeValue) (hpc : pc = .storeSequence)
    (hpopped : t.popped = s.popped ++ [s.value (index n s.dequeuePos)])
    (hclosed : t.closed = s.closed) (hdrained : t.drained = s.drained) : ConsumerMoves n s t pc []
  | ends (hs : s.consumer = .loadClosed) (hpc : pc = .idle) (hended : s.closed = true)
    (hpopped : t.popped = s.popped) (hclosed : t.closed = s.closed) (hdrained : t.drained ≠ none) :
    ConsumerMoves n s t pc [.ret none (.popped none)]
  | returns {result : QueueResult α} (hs : consumerStatus s.popped s.consumer = .effected result)
    (hpc : pc = .idle) (hpopped : t.popped = s.popped) (hclosed : t.closed = s.closed)
    (hdrained : t.drained = s.drained) : ConsumerMoves n s t pc [.ret none result]
  | closes (hs : s.consumer = .exchangeClosed) (hpc : pc = .notifyAllNotEmpty)
    (hopen : s.closed = false) (hpopped : t.popped = s.popped) (hclosed : t.closed = true)
    (hdrained : t.drained = s.drained) : ConsumerMoves n s t pc []
  | closesAgain (hs : s.consumer = .exchangeClosed) (hpc : pc = .idle) (hended : s.closed = true)
    (hpopped : t.popped = s.popped) (hclosed : t.closed = s.closed)
    (hdrained : t.drained = s.drained) : ConsumerMoves n s t pc [.ret none .closed]

/-- What a step of the queue does to the calls. -/
inductive Moves [DecidableEq ι] (n : Nat) (s t : State ι α) (events : List (QueueEvent ι α)) : Prop
  | producer {i : ι} {pc : ProducerPc α} (frame : ProducerFrame s t i pc)
    (h : ProducerMoves s t i pc events)
  | consumer {pc : ConsumerPc} (frame : ConsumerFrame s t pc) (h : ConsumerMoves n s t pc events)

variable [DecidableEq ι] {n : Nat} {s t : State ι α} {a : Action ι α}

/-- A producer goes on in its call. -/
lemma Moves.goto {i : ι} {old pc : ProducerPc α} {u : State ι α} (hs : s.producer i = old)
    (hpc : ∀ wins, producerStatus wins pc = producerStatus wins old)
    (hwin : mayWin pc = none ∨ mayWin pc = mayWin old) (frame : ProducerFrame s (u.goto i pc) i pc)
    (hwon : u.won = s.won) (hclosed : u.closed = s.closed) : Moves n s (u.goto i pc) [] := by
  subst hs
  exact .producer frame (.works hpc (fun _ => hwin) hwon hclosed)

/-- The consumer goes on in its call. -/
lemma Moves.consumerGoto {old pc : ConsumerPc} {u : State ι α} (hs : s.consumer = old)
    (hpc : ∀ popped : List α, consumerStatus popped pc = consumerStatus popped old)
    (frame : ConsumerFrame s (u.consumerGoto pc) pc) (hpopped : u.popped = s.popped)
    (hclosed : u.closed = s.closed) (hdrained : u.drained = s.drained) :
    Moves n s (u.consumerGoto pc) [] := by
  subst hs
  exact .consumer frame (.works (hpc s.popped) hpopped hclosed hdrained)

lemma moves_producerStep {i : ι} (hs : producerStep n s i = some t) :
    Moves n s t (shows s (.producer i)) := by
  have heffected : ∀ {pc : ProducerPc α} {result : QueueResult α}, s.producer i = pc →
      (∀ wins, producerStatus wins pc = .effected result) →
      ∀ wins, producerStatus wins (s.producer i) = .effected result := by
    intro pc result hpc hstatus
    rw [hpc]
    exact hstatus
  cases hpc : s.producer i <;> simp only [producerStep, hpc] at hs <;> simp only [shows, hpc]
  case idle => cases hs
  case loadClosed v =>
    by_cases hclosed : s.closed = true
    · rw [if_pos hclosed] at hs ⊢
      cases hs
      exact .producer ⟨rfl, rfl, rfl, rfl⟩ (.refused hpc rfl hclosed rfl rfl)
    · rw [if_neg hclosed] at hs ⊢
      cases hs
      -- here alone a push may come to win a position, and the queue is open
      refine .producer ⟨rfl, rfl, rfl, rfl⟩ (.works ?_ (fun h => absurd h hclosed) rfl rfl)
      rw [hpc]
      exact fun _ => rfl
  case loadEnqueuePos v =>
    cases hs
    exact .goto hpc (fun _ => rfl) (.inr rfl) ⟨rfl, rfl, rfl, rfl⟩ rfl rfl
  case loadSequence v pos =>
    cases hs
    split_ifs
    · exact .goto hpc (fun _ => rfl) (.inr rfl) ⟨rfl, rfl, rfl, rfl⟩ rfl rfl
    · exact .goto hpc (fun _ => rfl) (.inl rfl) ⟨rfl, rfl, rfl, rfl⟩ rfl rfl
    · exact .goto hpc (fun _ => rfl) (.inl rfl) ⟨rfl, rfl, rfl, rfl⟩ rfl rfl
  case compareExchange v pos =>
    by_cases henq : s.enqueuePos = pos
    · rw [if_pos henq] at hs
      cases hs
      exact .producer ⟨rfl, rfl, rfl, rfl⟩ (.wins hpc rfl rfl rfl)
    · rw [if_neg henq] at hs
      cases hs
      exact .goto hpc (fun _ => rfl) (.inl rfl) ⟨rfl, rfl, rfl, rfl⟩ rfl rfl
  case writeValue v pos =>
    cases hs
    exact .goto hpc (fun _ => rfl) (.inl rfl) ⟨rfl, rfl, rfl, rfl⟩ rfl rfl
  case storeSequence v pos =>
    cases hs
    exact .goto hpc (fun _ => rfl) (.inl rfl) ⟨rfl, rfl, rfl, rfl⟩ rfl rfl
  case notifyNotEmpty v pos =>
    cases hs
    exact .producer ⟨rfl, rfl, rfl, rfl⟩ (.returns (heffected hpc fun _ => rfl) rfl rfl rfl)
  case lockNotFull v =>
    by_cases hmutex : s.notFullMutex.isNone = true
    · rw [if_pos hmutex] at hs
      cases hs
      exact .goto hpc (fun _ => rfl) (.inl rfl) ⟨rfl, rfl, rfl, rfl⟩ rfl rfl
    · rw [if_neg hmutex] at hs
      cases hs
  case testClosed v =>
    cases hs
    split_ifs
    · exact .goto hpc (fun _ => rfl) (.inl rfl) ⟨rfl, rfl, rfl, rfl⟩ rfl rfl
    · exact .goto hpc (fun _ => rfl) (.inl rfl) ⟨rfl, rfl, rfl, rfl⟩ rfl rfl
  case testEnqueuePos v =>
    cases hs
    exact .goto hpc (fun _ => rfl) (.inl rfl) ⟨rfl, rfl, rfl, rfl⟩ rfl rfl
  case testSequence v pos =>
    cases hs
    split_ifs
    · exact .goto hpc (fun _ => rfl) (.inl rfl) ⟨rfl, rfl, rfl, rfl⟩ rfl rfl
    · exact .goto hpc (fun _ => rfl) (.inl rfl) ⟨rfl, rfl, rfl, rfl⟩ rfl rfl
  case block v =>
    cases hs
    exact .goto hpc (fun _ => rfl) (.inl rfl) ⟨rfl, rfl, rfl, rfl⟩ rfl rfl
  case blocked v =>
    by_cases hwoken : i ∉ s.notFullWaiters ∧ s.notFullMutex.isNone = true
    · rw [if_pos hwoken] at hs
      cases hs
      exact .goto hpc (fun _ => rfl) (.inl rfl) ⟨rfl, rfl, rfl, rfl⟩ rfl rfl
    · rw [if_neg hwoken] at hs
      cases hs
  case unlockNotFull v =>
    cases hs
    exact .goto hpc (fun _ => rfl) (.inl rfl) ⟨rfl, rfl, rfl, rfl⟩ rfl rfl
  case exchangeClosed =>
    by_cases hclosed : s.closed = true
    · rw [if_pos hclosed] at hs ⊢
      cases hs
      exact .producer ⟨rfl, rfl, rfl, rfl⟩ (.closesAgain hpc rfl hclosed rfl hclosed.symm)
    · rw [if_neg hclosed] at hs ⊢
      cases hs
      have hopen := Bool.eq_false_of_not_eq_true hclosed
      exact .producer ⟨rfl, rfl, rfl, rfl⟩ (.closes hpc rfl hopen rfl rfl)
  case notifyAllNotEmpty =>
    cases hs
    exact .goto hpc (fun _ => rfl) (.inl rfl) ⟨rfl, rfl, rfl, rfl⟩ rfl rfl
  case notifyAllNotFull =>
    cases hs
    exact .producer ⟨rfl, rfl, rfl, rfl⟩ (.returns (heffected hpc fun _ => rfl) rfl rfl rfl)

lemma moves_consumerStep (hs : consumerStep n s = some t) : Moves n s t (shows s .consumer) := by
  have heffected : ∀ {pc : ConsumerPc} {result : QueueResult α}, s.consumer = pc →
      consumerStatus s.popped pc = .effected result →
      consumerStatus s.popped s.consumer = .effected result := by
    intro pc result hpc hstatus
    rw [hpc]
    exact hstatus
  cases hpc : s.consumer <;> simp only [consumerStep, hpc] at hs <;> simp only [shows, hpc]
  case idle => cases hs
  case loadSequence =>
    cases hs
    split_ifs
    · exact .consumerGoto hpc (fun _ => rfl) ⟨rfl, rfl, rfl⟩ rfl rfl rfl
    · exact .consumerGoto hpc (fun _ => rfl) ⟨rfl, rfl, rfl⟩ rfl rfl rfl
    · exact .consumerGoto hpc (fun _ => rfl) ⟨rfl, rfl, rfl⟩ rfl rfl rfl
  case takeValue =>
    cases hs
    exact .consumer ⟨rfl, rfl, rfl⟩ (.takes hpc rfl rfl rfl rfl)
  case storeSequence =>
    cases hs
    exact .consumerGoto hpc (fun _ => rfl) ⟨rfl, rfl, rfl⟩ rfl rfl rfl
  case notifyNotFull =>
    by_cases hnone : s.notFullWaiters = []
    · rw [if_pos hnone] at hs
      cases hs
      exact .consumer ⟨rfl, rfl, rfl⟩ (.returns (heffected hpc rfl) rfl rfl rfl rfl)
    · rw [if_neg hnone] at hs
      cases hs
  case loadClosed =>
    by_cases hclosed : s.closed = true
    · rw [if_pos hclosed] at hs ⊢
      cases hs
      exact .consumer ⟨rfl, rfl, rfl⟩ (.ends hpc rfl hclosed rfl rfl (Option.some_ne_none _))
    · rw [if_neg hclosed] at hs ⊢
      cases hs
      exact .consumerGoto hpc (fun _ => rfl) ⟨rfl, rfl, rfl⟩ rfl rfl rfl
  case lockNotEmpty =>
    by_cases hmutex : s.notEmptyMutex = true
    · rw [if_pos hmutex] at hs
      cases hs
    · rw [if_neg hmutex] at hs
      cases hs
      exact .consumerGoto hpc (fun _ => rfl) ⟨rfl, rfl, rfl⟩ rfl rfl rfl
  case testClosed =>
    cases hs
    split_ifs
    · exact .consumerGoto hpc (fun _ => rfl) ⟨rfl, rfl, rfl⟩ rfl rfl rfl
    · exact .consumerGoto hpc (fun _ => rfl) ⟨rfl, rfl, rfl⟩ rfl rfl rfl
  case testSequence =>
    cases hs
    split_ifs
    · exact .consumerGoto hpc (fun _ => rfl) ⟨rfl, rfl, rfl⟩ rfl rfl rfl
    · exact .consumerGoto hpc (fun _ => rfl) ⟨rfl, rfl, rfl⟩ rfl rfl rfl
  case block =>
    cases hs
    exact .consumerGoto hpc (fun _ => rfl) ⟨rfl, rfl, rfl⟩ rfl rfl rfl
  case blocked =>
    by_cases hwaits : (s.notEmptyWaiting || s.notEmptyMutex) = true
    · rw [if_pos hwaits] at hs
      cases hs
    · rw [if_neg hwaits] at hs
      cases hs
      exact .consumerGoto hpc (fun _ => rfl) ⟨rfl, rfl, rfl⟩ rfl rfl rfl
  case unlockNotEmpty =>
    cases hs
    exact .consumerGoto hpc (fun _ => rfl) ⟨rfl, rfl, rfl⟩ rfl rfl rfl
  case exchangeClosed =>
    by_cases hclosed : s.closed = true
    · rw [if_pos hclosed] at hs ⊢
      cases hs
      exact .consumer ⟨rfl, rfl, rfl⟩ (.closesAgain hpc rfl hclosed rfl hclosed.symm rfl)
    · rw [if_neg hclosed] at hs ⊢
      cases hs
      have hopen := Bool.eq_false_of_not_eq_true hclosed
      exact .consumer ⟨rfl, rfl, rfl⟩ (.closes hpc rfl hopen rfl rfl rfl)
  case notifyAllNotEmpty =>
    cases hs
    exact .consumerGoto hpc (fun _ => rfl) ⟨rfl, rfl, rfl⟩ rfl rfl rfl
  case notifyAllNotFull =>
    cases hs
    exact .consumer ⟨rfl, rfl, rfl⟩ (.returns (heffected hpc rfl) rfl rfl rfl rfl)

theorem moves (hs : step n s a = some t) : Moves n s t (shows s a) := by
  cases a with
  | push i v =>
    cases hpc : s.producer i <;> simp only [step, hpc] at hs <;> cases hs
    exact .producer ⟨rfl, rfl, rfl, rfl⟩ (.calls hpc rfl rfl rfl rfl)
  | close i =>
    cases hpc : s.producer i <;> simp only [step, hpc] at hs <;> cases hs
    exact .producer ⟨rfl, rfl, rfl, rfl⟩ (.calls hpc rfl rfl rfl rfl)
  | pop =>
    cases hpc : s.consumer <;> simp only [step, hpc] at hs <;> cases hs
    exact .consumer ⟨rfl, rfl, rfl⟩ (.calls hpc rfl rfl rfl rfl)
  | consumerClose =>
    cases hpc : s.consumer <;> simp only [step, hpc] at hs <;> cases hs
    exact .consumer ⟨rfl, rfl, rfl⟩ (.calls hpc rfl rfl rfl rfl)
  | producer i => exact moves_producerStep hs
  | weakFail i =>
    cases hpc : s.producer i <;> simp only [step, hpc] at hs <;> cases hs
    exact .goto hpc (fun _ => rfl) (.inl rfl) ⟨rfl, rfl, rfl, rfl⟩ rfl rfl
  | consumer => exact moves_consumerStep hs
  | wake i =>
    cases hpc : s.consumer <;> simp only [step, hpc] at hs
    case notifyNotFull =>
      by_cases hmem : i ∈ s.notFullWaiters
      · rw [if_pos hmem] at hs
        cases hs
        refine .consumer ⟨rfl, rfl, rfl⟩ (.returns ?_ rfl rfl rfl rfl)
        rw [hpc]
        rfl
      · rw [if_neg hmem] at hs
        cases hs
    all_goals cases hs

end Schengen.Queue
