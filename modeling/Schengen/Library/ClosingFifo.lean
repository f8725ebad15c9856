import Mathlib.Data.List.Basic
import Mathlib.Logic.Function.Basic
import Mathlib.Tactic.Common

/-!
# A queue that can be closed

A FIFO queue that refuses messages once it is closed. Closing may discard messages from the
end on. However it is closed, what a sender's messages that were received or are waiting add
up to is a first part of what the queue accepted from that sender.
-/

namespace Schengen.Library

structure ClosingFifo (α : Type*) where
  messages : List α
  closed : Bool

namespace ClosingFifo

variable {α κ : Type*}

def empty : ClosingFifo α := ⟨[], false⟩

/-- The queue with the message, or `none` where it is refused. -/
def push (q : ClosingFifo α) (m : α) : Option (ClosingFifo α) :=
  if q.closed then none else some { q with messages := q.messages ++ [m] }

/-- `keep` messages at most stay. -/
def close (q : ClosingFifo α) (keep : Nat) : ClosingFifo α := ⟨q.messages.take keep, true⟩

def pop (q : ClosingFifo α) : Option (α × ClosingFifo α) :=
  match q.messages with
  | [] => none
  | m :: messages => some (m, { q with messages := messages })

lemma push_some {q q' : ClosingFifo α} {m : α} (h : q.push m = some q') :
    q.closed = false ∧ q' = { q with messages := q.messages ++ [m] } := by
  unfold push at h
  by_cases hclosed : q.closed = true
  · rw [if_pos hclosed] at h
    cases h
  · rw [if_neg hclosed] at h
    exact ⟨by simpa using hclosed, (Option.some.inj h).symm⟩

lemma push_none {q : ClosingFifo α} {m : α} (h : q.push m = none) : q.closed = true := by
  unfold push at h
  by_contra hopen
  rw [if_neg hopen] at h
  cases h

lemma pop_some {q q' : ClosingFifo α} {m : α} (h : q.pop = some (m, q')) :
    q.messages = m :: q'.messages ∧ q'.closed = q.closed := by
  unfold pop at h
  split at h
  · cases h
  · next messages hmessages =>
    cases h
    exact ⟨hmessages, rfl⟩

lemma pop_none {q : ClosingFifo α} (h : q.pop = none) : q.messages = [] := by
  unfold pop at h
  split at h
  · assumption
  · cases h

lemma close_messages {q : ClosingFifo α} {keep : Nat} (h : q.messages.length ≤ keep) :
    (q.close keep).messages = q.messages :=
  List.take_of_length_le h

variable [DecidableEq κ]

/-- The messages of one sender. -/
def ofSender (sender : α → κ) (k : κ) (messages : List α) : List α :=
  messages.filter fun m => sender m = k

/-- Nothing is lost while the queue is open, and only last messages after it was closed. -/
structure Ledger (sender : α → κ) (received : List α) (q : ClosingFifo α) (sent : κ → List α) :
    Prop where
  first : ∀ k, ofSender sender k (received ++ q.messages) <+: sent k
  all : q.closed = false → ∀ k, ofSender sender k (received ++ q.messages) = sent k

variable {sender : α → κ} {received : List α} {q q' : ClosingFifo α} {sent : κ → List α} {m : α}

lemma ofSender_append (k : κ) (xs ys : List α) :
    ofSender sender k (xs ++ ys) = ofSender sender k xs ++ ofSender sender k ys :=
  List.filter_append xs ys

lemma ofSender_singleton (m : α) (k : κ) :
    ofSender sender k [m] = if sender m = k then [m] else [] := by
  unfold ofSender
  by_cases h : sender m = k <;> simp [h]

lemma ledger_empty : Ledger sender [] empty (fun _ => []) :=
  ⟨fun _ => List.prefix_refl _, fun _ _ => rfl⟩

/-- An accepted message is the last one its sender sent. -/
lemma Ledger.push (h : Ledger sender received q sent) (hpush : q.push m = some q') :
    Ledger sender received q' (Function.update sent (sender m) (sent (sender m) ++ [m])) := by
  obtain ⟨hopen, rfl⟩ := push_some hpush
  have hall : ∀ k, ofSender sender k (received ++ (q.messages ++ [m])) =
      Function.update sent (sender m) (sent (sender m) ++ [m]) k := by
    intro k
    rw [← List.append_assoc, ofSender_append, h.all hopen k, ofSender_singleton]
    by_cases hk : sender m = k
    · subst hk
      rw [if_pos rfl, Function.update_self]
    · rw [if_neg hk, Function.update_of_ne (Ne.symm hk), List.append_nil]
  exact ⟨fun k => hall k ▸ List.prefix_refl _, fun _ => hall⟩

lemma Ledger.close (h : Ledger sender received q sent) (keep : Nat) :
    Ledger sender received (q.close keep) sent := by
  refine ⟨fun k => ?_, fun hopen => by cases hopen⟩
  have htake : received ++ q.messages.take keep <+: received ++ q.messages :=
    List.prefix_append_right_inj received |>.mpr (List.take_prefix keep _)
  exact (htake.filter _).trans (h.first k)

lemma Ledger.pop (h : Ledger sender received q sent) (hpop : q.pop = some (m, q')) :
    Ledger sender (received ++ [m]) q' sent := by
  obtain ⟨hmessages, hclosed⟩ := pop_some hpop
  have hsame : received ++ q.messages = received ++ [m] ++ q'.messages := by
    rw [hmessages, List.append_assoc, List.singleton_append]
  refine ⟨fun k => ?_, fun hopen k => ?_⟩
  · rw [← hsame]
    exact h.first k
  · rw [← hsame]
    exact h.all (hclosed ▸ hopen) k

/-- What was received from a sender is a first part of what it sent. -/
lemma Ledger.received_first (h : Ledger sender received q sent) (k : κ) :
    ofSender sender k received <+: sent k := by
  refine List.IsPrefix.trans ?_ (h.first k)
  rw [ofSender_append]
  exact List.prefix_append _ _

end ClosingFifo

end Schengen.Library
