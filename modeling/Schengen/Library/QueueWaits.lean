import Schengen.Library.ClosingFifo
import Schengen.Library.Monitor

/-!
# Waiting at a bounded queue

A queue that can be closed and holds a limited number of messages, as threads wait at it. A push
waits while the queue is open and full, a pop while it is open and empty. What was pushed or popped
notifies one thread at the other condition variable, and the first close all threads at both.
-/

namespace Schengen.Library

inductive QueueCondition
  | notEmpty
  | notFull
  deriving DecidableEq

namespace ClosingFifo

variable {α : Type*} {q q' : ClosingFifo α} {m : α} {capacity : Nat}

/-- The predicate of the wait in a push. -/
def pushReady (capacity : Nat) (q : ClosingFifo α) : Bool :=
  q.closed || q.messages.length < capacity

/-- The predicate of the wait in a pop. -/
def popReady (q : ClosingFifo α) : Bool := q.closed || !q.messages.isEmpty

def pushNotices (q : ClosingFifo α) : List (Notice QueueCondition) :=
  if q.closed then [] else [⟨.notEmpty, false⟩]

def popNotices (q : ClosingFifo α) : List (Notice QueueCondition) :=
  if q.messages.isEmpty then [] else [⟨.notFull, false⟩]

def closeNotices (q : ClosingFifo α) : List (Notice QueueCondition) :=
  if q.closed then [] else [⟨.notEmpty, true⟩, ⟨.notFull, true⟩]

/-- What an open queue can still take. -/
def places (capacity : Nat) (q : ClosingFifo α) : Nat :=
  if q.closed then 0 else capacity - q.messages.length

lemma pushReady_false (h : q.pushReady capacity = false) :
    q.closed = false ∧ capacity ≤ q.messages.length := by
  simpa [pushReady] using h

lemma popReady_false (h : q.popReady = false) : q.closed = false ∧ q.messages = [] := by
  simpa [popReady] using h

lemma pushNotices_length (q : ClosingFifo α) : q.pushNotices.length ≤ 2 := by
  unfold pushNotices
  split <;> decide

lemma popNotices_length (q : ClosingFifo α) : q.popNotices.length ≤ 2 := by
  unfold popNotices
  split <;> decide

lemma closeNotices_length (q : ClosingFifo α) : q.closeNotices.length ≤ 2 := by
  unfold closeNotices
  split <;> decide

lemma mem_pushNotices (hpush : q.push m = some q') : ⟨.notEmpty, false⟩ ∈ q.pushNotices := by
  unfold pushNotices
  rw [(push_some hpush).1]
  exact .head _

lemma popNotices_eq (hpop : q.pop = some (m, q')) : q.popNotices = [⟨.notFull, false⟩] := by
  unfold popNotices
  rw [(pop_some hpop).1]
  rfl

lemma mem_closeNotices (hopen : q.closed = false) (condition : QueueCondition) :
    ⟨condition, true⟩ ∈ q.closeNotices := by
  unfold closeNotices
  rw [hopen]
  cases condition <;> decide

lemma places_full (h : q.pushReady capacity = false) : q.places capacity = 0 := by
  obtain ⟨hopen, hfull⟩ := pushReady_false h
  unfold places
  rw [hopen, if_neg Bool.false_ne_true]
  omega

lemma places_closed (h : q.closed = true) : q.places capacity = 0 := if_pos h

lemma places_pos (hopen : q.closed = false) (hroom : q.messages.length < capacity) :
    0 < q.places capacity := by
  unfold places
  rw [hopen, if_neg Bool.false_ne_true]
  omega

/-- A message takes a place. -/
lemma places_push (hready : q.pushReady capacity = true) (hpush : q.push m = some q') :
    q'.places capacity + 1 ≤ q.places capacity := by
  obtain ⟨hopen, rfl⟩ := push_some hpush
  have hroom : q.messages.length < capacity := by simpa [pushReady, hopen] using hready
  unfold places
  rw [hopen, if_neg Bool.false_ne_true, if_neg Bool.false_ne_true, List.length_append]
  simp only [List.length_singleton]
  omega

/-- Where a message was, there is a place. -/
lemma places_pop (hpop : q.pop = some (m, q')) : q'.places capacity ≤ q.places capacity + 1 := by
  obtain ⟨hmessages, hclosed⟩ := pop_some hpop
  unfold places
  rw [hclosed, hmessages, List.length_cons]
  split <;> omega

end ClosingFifo

end Schengen.Library
