import Schengen.Storage.ForeignStreaming
import Schengen.Storage.MultiplexedProducers

/-!
# A multiplexed run that returns 0

While no error was noted, what the sink was given and what the consumer still keeps add up to
what arrived: the parts before the expected one are written as a whole, of the expected one a
first part, and nothing of the later ones. So a run that returns 0 writes every part completely
and in order.
-/

namespace Schengen.Storage
open Library

variable {β : Type}

/-- A part as the multiplexed writer writes it: an empty part is never begun. -/
def blockCalls (part : Nat) (batches : List β) : List (SinkCall β) :=
  if batches.isEmpty then [] else partCalls part batches

/-- The calls for a part that is not ended. -/
def openCalls (part : Nat) (written : List β) : List (SinkCall β) :=
  if written.isEmpty then [] else .beginPartition part :: written.map .writeBatch

/-- The batches among the messages of one part. -/
def receivedBatches (part : Nat) (messages : List (BatchMessage β)) : List β :=
  (ClosingFifo.ofSender BatchMessage.part part messages).filterMap fun
    | .batch _ batch => some batch
    | _ => none

/-- `states[part]` -/
def Consumer.state (c : Consumer β) (part : Nat) : PartitionState β :=
  (c.states part).getD ⟨[], false, false⟩

namespace NativeMultiplexed

/-- What is kept of a part, once `written` has been written. -/
structure Keeps (part : Nat) (popped : List (BatchMessage β)) (state : PartitionState β)
    (written : List β) : Prop where
  batches : receivedBatches part popped = written ++ state.batches
  opened : state.opened = !written.isEmpty
  completed : state.completed = true ↔ .endPartition part ∈ popped

/-- The consumer while no error was noted. -/
structure Buffered (partCount : Nat) (popped : List (BatchMessage β)) (c : Consumer β)
    (written : List β) : Prop where
  lower : 1 ≤ c.expectedPart
  upper : c.expectedPart ≤ partCount + 1
  last : c.expectedPart = partCount + 1 → written = []
  before : ∀ part, 1 ≤ part → part < c.expectedPart → .endPartition part ∈ popped
  expected : Keeps c.expectedPart popped (c.state c.expectedPart) written
  later : ∀ part, c.expectedPart < part → Keeps part popped (c.state part) []
  calls : c.calls = ((List.range' 1 (c.expectedPart - 1)).flatMap fun part =>
    blockCalls part (receivedBatches part popped)) ++ openCalls c.expectedPart written

variable {run : NativeMultiplexed β} {part n : Nat} {popped : List (BatchMessage β)}
  {c : Consumer β} {state : PartitionState β} {written : List β} {calls : List (SinkCall β)}

/-! ## Keeping a message -/

lemma receivedBatches_other {message : BatchMessage β} (h : message.part ≠ part) :
    receivedBatches part (popped ++ [message]) = receivedBatches part popped := by
  rw [receivedBatches, ClosingFifo.ofSender_append, ClosingFifo.ofSender_singleton, if_neg h,
    List.append_nil]
  rfl

lemma receivedBatches_batch (batch : β) :
    receivedBatches part (popped ++ [.batch part batch]) = receivedBatches part popped ++ [batch] := by
  rw [receivedBatches, ClosingFifo.ofSender_append, List.filterMap_append]
  simp [receivedBatches, ClosingFifo.ofSender, BatchMessage.part]

lemma receivedBatches_end :
    receivedBatches part (popped ++ [.endPartition part]) = receivedBatches part popped := by
  rw [receivedBatches, ClosingFifo.ofSender_append, List.filterMap_append]
  simp [receivedBatches, ClosingFifo.ofSender, BatchMessage.part]

lemma keepMessage_state_other {message : BatchMessage β} (h : part ≠ message.part) :
    (keepMessage c message).state part = c.state part := by
  simp only [Consumer.state, keepMessage, Function.update_of_ne h]

lemma Keeps.other {message : BatchMessage β} (h : Keeps part popped (c.state part) written)
    (hpart : part ≠ message.part) :
    Keeps part (popped ++ [message]) ((keepMessage c message).state part) written := by
  rw [keepMessage_state_other hpart]
  refine ⟨?_, h.opened, ?_⟩
  · rw [receivedBatches_other (Ne.symm hpart), h.batches]
  · rw [h.completed, List.mem_append, List.mem_singleton]
    refine ⟨Or.inl, fun hmem => hmem.resolve_right fun heq => hpart ?_⟩
    rw [← heq]
    rfl

lemma Keeps.batch (h : Keeps part popped (c.state part) written) (batch : β) :
    Keeps part (popped ++ [.batch part batch])
      ((keepMessage c (.batch part batch)).state part) written := by
  have hstate : (keepMessage c (.batch part batch)).state part =
      { c.state part with batches := (c.state part).batches ++ [batch] } := by
    simp only [Consumer.state, keepMessage, BatchMessage.part, Function.update_self,
      Option.getD_some]
  rw [hstate]
  refine ⟨?_, h.opened, ?_⟩
  · rw [receivedBatches_batch, h.batches, List.append_assoc]
  · simpa using h.completed

lemma Keeps.end (h : Keeps part popped (c.state part) written) :
    Keeps part (popped ++ [.endPartition part])
      ((keepMessage c (.endPartition part)).state part) written := by
  have hstate : (keepMessage c (.endPartition part)).state part =
      { c.state part with completed := true } := by
    simp only [Consumer.state, keepMessage, BatchMessage.part, Function.update_self,
      Option.getD_some]
  rw [hstate]
  refine ⟨?_, h.opened, ?_⟩
  · rw [receivedBatches_end, h.batches]
  · simp

/-- A message of a part that has not ended. -/
lemma Buffered.keepMessage {message : BatchMessage β} (h : Buffered n popped c written)
    (hend : .endPartition message.part ∉ popped) (herror : ∀ part error, message ≠ .error part error) :
    Buffered n (popped ++ [message]) (keepMessage c message) written := by
  have hkeeps : ∀ {part written}, Keeps part popped (c.state part) written →
      Keeps part (popped ++ [message]) ((NativeMultiplexed.keepMessage c message).state part)
        written := by
    intro part written hpart
    by_cases hsame : part = message.part
    · subst hsame
      cases message with
      | batch part batch => exact hpart.batch batch
      | endPartition part => exact hpart.end
      | error part error => exact absurd rfl (herror part error)
    · exact hpart.other hsame
  refine ⟨h.lower, h.upper, h.last, fun part h1 h2 => ?_, hkeeps h.expected,
    fun part hpart => hkeeps (h.later part hpart), ?_⟩
  · exact List.mem_append_left _ (h.before part h1 h2)
  · refine h.calls.trans (congrArg (· ++ openCalls c.expectedPart written) ?_)
    refine List.flatMap_congr fun part hpart => ?_
    have hbounds := List.mem_range'_1.mp hpart
    have hlower := h.lower
    rw [receivedBatches_other]
    rintro rfl
    exact hend (h.before _ hbounds.1 (by omega))

/-! ## Draining -/

lemma openPartition_ok (h : (run.openPartition part state calls).1 = .ok) :
    run.openPartition part state calls =
      (.ok, { state with opened := state.opened || !state.batches.isEmpty },
        calls ++ if state.batches.isEmpty || state.opened then [] else [.beginPartition part]) := by
  unfold openPartition at h ⊢
  by_cases hkeep : (state.batches.isEmpty || state.opened) = true
  · have hopened : (state.opened || !state.batches.isEmpty) = state.opened := by
      cases hempty : state.batches.isEmpty <;> simp_all
    rw [if_pos hkeep, if_pos hkeep, hopened, List.append_nil]
  · have hopened : (state.opened || !state.batches.isEmpty) = true := by
      cases hempty : state.batches.isEmpty <;> simp_all
    rw [if_neg hkeep] at h ⊢
    rw [if_neg hkeep, hopened]
    simp only at h
    simp only [h, if_true]

lemma writeBatches_ok {batches : List β} (h : (run.writeBatches batches calls).1 = .ok) :
    run.writeBatches batches calls = (.ok, [], calls ++ batches.map .writeBatch) := by
  induction batches generalizing calls with
  | nil => simp only [writeBatches, List.map_nil, List.append_nil]
  | cons batch batches ih =>
    simp only [writeBatches] at h ⊢
    by_cases hcall : run.sink calls (.writeBatch batch) = .ok
    · rw [if_pos hcall] at h ⊢
      rw [ih h, List.append_assoc]
      rfl
    · rw [if_neg hcall] at h
      exact absurd h hcall

lemma writePartition_ok (h : (run.writePartition state calls).1 = .ok) :
    run.writePartition state calls =
      (.ok, { state with batches := [] }, calls ++ state.batches.map .writeBatch) := by
  unfold writePartition at h ⊢
  simp only [writeBatches_ok h]

lemma endPartition_calls : (run.endPartition state calls).2 =
    calls ++ if state.opened then [.endPartition] else [] := by
  unfold endPartition
  by_cases hopened : state.opened = true
  · rw [if_pos hopened, if_pos hopened]
  · rw [if_neg hopened, if_neg hopened, List.append_nil]

/-- What a turn adds to the calls before the part may end. -/
lemma openCalls_append (batches : List β) (hopened : state.opened = !written.isEmpty) :
    openCalls part written ++ (if batches.isEmpty || state.opened then [] else
      [.beginPartition part]) ++ batches.map .writeBatch = openCalls part (written ++ batches) := by
  rw [hopened]
  cases written <;> cases batches <;> simp [openCalls]

lemma openCalls_end : openCalls part written ++ (if !written.isEmpty then [.endPartition] else []) =
    blockCalls part written := by
  cases written <;> simp [openCalls, blockCalls, partCalls]

/-- The calls of a turn before the part may end. -/
def turnCalls (part : Nat) (state : PartitionState β) : List (SinkCall β) :=
  (if state.batches.isEmpty || state.opened then [] else [.beginPartition part]) ++
    state.batches.map .writeBatch

lemma drainPartition_ok (h : (run.drainPartition state c).1 = .ok) :
    run.drainPartition state c =
      if state.completed then
        (.ok, true, { setState c c.expectedPart none (c.calls ++ turnCalls c.expectedPart state ++
          if state.opened || !state.batches.isEmpty then [.endPartition] else []) with
          expectedPart := c.expectedPart + 1 })
      else
        (.ok, false, setState c c.expectedPart
          (some ⟨[], false, state.opened || !state.batches.isEmpty⟩)
          (c.calls ++ turnCalls c.expectedPart state)) := by
  by_cases hopen : (run.openPartition c.expectedPart state c.calls).1 = .ok
  · have hopened := openPartition_ok hopen
    by_cases hwrite : (run.writePartition (run.openPartition c.expectedPart state c.calls).2.1
        (run.openPartition c.expectedPart state c.calls).2.2).1 = .ok
    · have hwritten := writePartition_ok hwrite
      rw [hopened] at hwritten
      simp only [drainPartition, hopened, hwritten, ne_eq, not_true, if_false] at h ⊢
      cases hcompleted : state.completed with
      | false => simp only [if_true, Bool.false_eq_true, if_false, turnCalls, List.append_assoc]
      | true =>
        simp only [hcompleted, Bool.true_eq_false, if_false, if_true] at h ⊢
        have hend : (run.endPartition ⟨[], true, state.opened || !state.batches.isEmpty⟩
            (c.calls ++ (if state.batches.isEmpty || state.opened then []
              else [.beginPartition c.expectedPart]) ++ state.batches.map .writeBatch)).1 = .ok := by
          by_contra hend
          simp only [hend, not_false_iff, if_true] at h
        simp only [hend, not_true, if_false, endPartition_calls]
        simp only [turnCalls, List.append_assoc]
    · simp only [drainPartition, hopen, hwrite, ne_eq, not_true, not_false_iff, if_false, if_true] at h
  · simp only [drainPartition, ne_eq, hopen, not_false_iff, if_true] at h

lemma setState_state_self :
    (setState c part (some state) calls).state part = state := by
  simp only [Consumer.state, setState, Function.update_self, Option.getD_some]

lemma setState_state_other {p : Nat} {state : Option (PartitionState β)} (h : p ≠ part) :
    (setState c part state calls).state p = c.state p := by
  simp only [Consumer.state, setState, Function.update_of_ne h]

lemma Buffered.keeps (h : Buffered n popped c written)
    (hstate : c.states c.expectedPart = some state) : Keeps c.expectedPart popped state written := by
  have hexpected := h.expected
  rwa [Consumer.state, hstate, Option.getD_some] at hexpected

/-- After its turn the part is begun if anything of it is written. -/
lemma Keeps.begun (h : Keeps part popped state written) :
    (state.opened || !state.batches.isEmpty) = !(written ++ state.batches).isEmpty := by
  rw [h.opened]
  cases written <;> rfl

/-- A turn that goes well writes what is kept of the expected part. -/
lemma Buffered.drainPartition (h : Buffered n popped c written)
    (hstate : c.states c.expectedPart = some state) (hpart : c.expectedPart ≤ n)
    (hok : (run.drainPartition state c).1 = .ok) :
    ∃ written, Buffered n popped (run.drainPartition state c).2.2 written := by
  have hexpected := h.keeps hstate
  have hcalls : c.calls ++ turnCalls c.expectedPart state =
      ((List.range' 1 (c.expectedPart - 1)).flatMap fun part =>
        blockCalls part (receivedBatches part popped)) ++
        openCalls c.expectedPart (written ++ state.batches) := by
    rw [h.calls, turnCalls, List.append_assoc, ← List.append_assoc (openCalls _ _),
      openCalls_append state.batches hexpected.opened]
  rw [drainPartition_ok hok, hexpected.begun]
  have hlower := h.lower
  cases hcompleted : state.completed with
  | false =>
    simp only [Bool.false_eq_true, if_false]
    refine ⟨written ++ state.batches, h.lower, h.upper, ?_, h.before, ?_, ?_, hcalls⟩
    · intro hlast
      exact absurd hlast (Nat.ne_of_lt (Nat.lt_succ_of_le hpart))
    · change Keeps c.expectedPart popped ((setState c _ _ _).state c.expectedPart) _
      rw [setState_state_self]
      refine ⟨?_, rfl, ?_⟩
      · rw [List.append_nil, hexpected.batches]
      · rw [← hexpected.completed, hcompleted]
    · intro part hlater
      have hgt : c.expectedPart < part := hlater
      change Keeps part popped ((setState c _ _ _).state part) []
      rw [setState_state_other (Nat.ne_of_gt hgt)]
      exact h.later part hgt
  | true =>
    simp only [if_true]
    refine ⟨[], ?_, ?_, fun _ => rfl, ?_, ?_, ?_, ?_⟩
    · exact Nat.le_add_left 1 _
    · exact Nat.succ_le_succ hpart
    · intro part h1 hbefore
      by_cases hpart : part = c.expectedPart
      · subst hpart
        exact hexpected.completed.mp hcompleted
      · exact h.before part h1 (Nat.lt_of_le_of_ne (Nat.le_of_lt_succ hbefore) hpart)
    · change Keeps (c.expectedPart + 1) popped
        ((setState c c.expectedPart none c.calls).state (c.expectedPart + 1)) []
      rw [setState_state_other (Nat.succ_ne_self _)]
      exact h.later _ (Nat.lt_succ_self _)
    · intro part hlater
      have hgt : c.expectedPart < part := Nat.lt_of_succ_lt hlater
      change Keeps part popped ((setState c c.expectedPart none c.calls).state part) []
      rw [setState_state_other (Nat.ne_of_gt hgt)]
      exact h.later part hgt
    · change c.calls ++ turnCalls c.expectedPart state ++ _ =
        ((List.range' 1 c.expectedPart).flatMap _) ++ openCalls _ []
      rw [hcalls, List.append_assoc, openCalls_end, ← hexpected.batches]
      obtain ⟨e, he⟩ : ∃ e, c.expectedPart = e + 1 := ⟨c.expectedPart - 1, by omega⟩
      rw [he, List.range'_1_concat, List.flatMap_append, Nat.add_sub_cancel, Nat.add_comm 1 e]
      simp [openCalls]

/-- The loop goes on after a part that ended. -/
lemma drainPartition_next (h : (run.drainPartition state c).2.1 = true) :
    (run.drainPartition state c).1 = .ok ∧
      (run.drainPartition state c).2.2.expectedPart = c.expectedPart + 1 := by
  simp only [drainPartition] at h ⊢
  split_ifs at h ⊢
  exact ⟨rfl, rfl⟩

/-- The loop as a whole. -/
lemma Buffered.drainLoop {fuel : Nat} (h : Buffered n popped c written)
    (hfuel : fuel + c.expectedPart ≤ n + 1) (hok : (run.drainLoop fuel c).1 = .ok) :
    ∃ written, Buffered n popped (run.drainLoop fuel c).2 written := by
  induction fuel generalizing c written with
  | zero => exact ⟨written, h⟩
  | succ fuel ih =>
    unfold NativeMultiplexed.drainLoop at hok ⊢
    cases hstate : c.states c.expectedPart with
    | none => exact ⟨written, h⟩
    | some state =>
      simp only [hstate] at hok ⊢
      by_cases hnext : (run.drainPartition state c).2.1 = true
      · obtain ⟨hturn, hexpected⟩ := drainPartition_next hnext
        obtain ⟨written', h'⟩ := h.drainPartition hstate (by omega) hturn
        rw [if_pos hnext] at hok ⊢
        exact ih h' (by omega) hok
      · rw [if_neg hnext] at hok ⊢
        exact h.drainPartition hstate (by omega) hok

lemma drainLoop_pipelineError (fuel : Nat) :
    (run.drainLoop fuel c).2.pipelineError = c.pipelineError := by
  induction fuel generalizing c with
  | zero => rfl
  | succ fuel ih =>
    unfold drainLoop
    cases hstate : c.states c.expectedPart with
    | none => rfl
    | some state =>
      have hturn : (run.drainPartition state c).2.2.pipelineError = c.pipelineError := by
        simp only [drainPartition]
        split_ifs <;> rfl
      simp only
      split_ifs
      · exact ih.trans hturn
      · exact hturn

lemma Buffered.drain (h : Buffered run.partCount popped c written)
    (hok : (run.drainReadyPartitions c).1 = .ok) :
    ∃ written, Buffered run.partCount popped (run.drainReadyPartitions c).2 written := by
  have hupper := h.upper
  exact h.drainLoop (by omega) hok

/-! ## Whole runs -/

def ConsumerPc.collects : ConsumerPc → Bool
  | .returned _ => false
  | .threw _ => false
  | _ => true

variable {s t : MultiplexState β} {message : BatchMessage β}

variable (run) in
structure OrderInv (s : MultiplexState β) : Prop where
  push : run.PushInv s
  buffered : ConsumerPc.collects s.pc = true → s.consumer.pipelineError = "" →
    ∃ written, Buffered run.partCount s.popped s.consumer written
  ended : s.pc = .returned 0 →
    ∀ part, 1 ≤ part → part ≤ run.partCount → .endPartition part ∈ s.popped
  calls : s.pc = .returned 0 → s.consumer.calls =
    ((List.range' 1 run.partCount).flatMap fun part =>
      blockCalls part (receivedBatches part s.popped)) ++ [.close]

lemma noteDrain_frame (s : MultiplexState β) (drained : Outcome × Consumer β) :
    ∃ consumer pc, noteDrain s drained = { s with consumer := consumer, pc := pc } ∧
      (pc = s.pc ∨ pc = .storeStop ∨ ∃ thrown, pc = .threw thrown) := by
  unfold noteDrain
  split
  · exact ⟨_, _, rfl, .inl rfl⟩
  · exact ⟨_, _, rfl, .inr (.inl rfl)⟩
  · exact ⟨_, _, rfl, .inr (.inr ⟨_, rfl⟩)⟩

variable (run) in
lemma handleMessage_frame (s : MultiplexState β) (message : BatchMessage β) :
    ∃ consumer pc, run.handleMessage s message = { s with consumer := consumer, pc := pc } ∧
      (pc = s.pc ∨ pc = .storeStop ∨ ∃ thrown, pc = .threw thrown) := by
  cases message with
  | error part error => exact ⟨_, _, rfl, .inr (.inl rfl)⟩
  | batch part batch => exact noteDrain_frame s _
  | endPartition part => exact noteDrain_frame s _

lemma noteDrain_ok {drained : Outcome × Consumer β}
    (hcollects : ConsumerPc.collects (noteDrain s drained).pc = true)
    (hnone : (noteDrain s drained).consumer.pipelineError = "") :
    drained.1 = .ok ∧ (noteDrain s drained).consumer = drained.2 := by
  unfold noteDrain at hcollects hnone ⊢
  cases hdrained : drained.1 with
  | returned status =>
    cases status with
    | ok => exact ⟨rfl, rfl⟩
    | error code message =>
      simp only [hdrained] at hnone
      exact absurd hnone (Status.toString_ne _)
  | threw thrown =>
    simp only [hdrained] at hcollects
    cases hcollects

lemma fail_ne_empty {error : String} (h : error ≠ "") : (fail c error).pipelineError ≠ "" := by
  unfold fail
  by_cases hnone : c.pipelineError = ""
  · simpa only [hnone, if_true] using h
  · rw [if_neg hnone]
    exact hnone

lemma partitionFailed_ne_empty (error : String) :
    "Partition " ++ toString part ++ " failed: " ++ error ≠ "" :=
  append_ne_left (append_ne_right _ (by decide)) error

/-- After a message, no error is noted only where the drain went well. -/
lemma Buffered.handleMessage (s : MultiplexState β) (message : BatchMessage β)
    (h : s.consumer.pipelineError = "" →
      ∃ written, Buffered run.partCount popped s.consumer written)
    (hend : .endPartition message.part ∉ popped)
    (hcollects : ConsumerPc.collects (run.handleMessage s message).pc = true)
    (hnone : (run.handleMessage s message).consumer.pipelineError = "") :
    ∃ written, Buffered run.partCount (popped ++ [message]) (run.handleMessage s message).consumer
      written := by
  have hkept : ∀ herror : (∀ part error, message ≠ .error part error),
      run.handleMessage s message =
        noteDrain s (run.drainReadyPartitions (NativeMultiplexed.keepMessage s.consumer message)) := by
    intro herror
    cases message with
    | error part error => exact absurd rfl (herror part error)
    | batch part batch => rfl
    | endPartition part => rfl
  by_cases herror : ∀ part error, message ≠ .error part error
  · rw [hkept herror] at hcollects hnone ⊢
    obtain ⟨hok, hconsumer⟩ := noteDrain_ok hcollects hnone
    rw [hconsumer] at hnone ⊢
    have hbefore : s.consumer.pipelineError = "" := by
      rw [← hnone, drainReadyPartitions, drainLoop_pipelineError]
      rfl
    obtain ⟨written, hbuffered⟩ := h hbefore
    exact (hbuffered.keepMessage hend herror).drain hok
  · push Not at herror
    obtain ⟨part, error, rfl⟩ := herror
    exact absurd hnone (fail_ne_empty (partitionFailed_ne_empty error))

/-! ### The end -/

lemma failUnless_empty {cond : Bool} {error : String} (herror : error ≠ "")
    (h : (failUnless cond c error).pipelineError = "") : cond = true ∧ failUnless cond c error = c := by
  cases cond with
  | true => exact ⟨rfl, rfl⟩
  | false => exact absurd h (fail_ne_empty herror)

lemma closeSink_zero (h : (run.closeSink c).1 = .returned 0) :
    c.pipelineError = "" ∧ c.expectedPart = run.partCount + 1 ∧
      (run.closeSink c).2.calls = c.calls ++ [.close] := by
  unfold closeSink at h ⊢
  generalize hchecked : failUnless (decide (c.expectedPart = run.partCount + 1)) c
    "Not all partitions were written to the output file" = checked at h ⊢
  cases hclose : run.sink checked.calls .close with
  | returned status =>
    simp only [hclose] at h ⊢
    by_cases hnone : (failUnless (decide (status = .ok))
        { checked with calls := checked.calls ++ [.close] } status.toString).pipelineError = ""
    · obtain ⟨_, hsame⟩ := failUnless_empty status.toString_ne hnone
      rw [hsame] at hnone ⊢
      change checked.pipelineError = "" at hnone
      rw [← hchecked] at hnone
      obtain ⟨hpart, hsame⟩ := failUnless_empty (by decide) hnone
      rw [hsame] at hnone hchecked
      exact ⟨hnone, of_decide_eq_true hpart, by rw [hchecked]⟩
    · rw [if_neg hnone] at h
      cases h
  | threw thrown =>
    simp only [hclose] at h
    cases h

lemma finish_zero {failed : Bool} (h : (run.finish failed c).1 = .returned 0) :
    c.pipelineError = "" ∧ (run.drainReadyPartitions c).1 = .ok ∧
      (run.drainReadyPartitions c).2.expectedPart = run.partCount + 1 ∧
      (run.finish failed c).2.calls = (run.drainReadyPartitions c).2.calls ++ [.close] := by
  unfold finish at h ⊢
  generalize hchecked : failUnless (!failed) c "Partition producer returned error" = checked at h ⊢
  cases hdrained : (run.drainReadyPartitions checked).1 with
  | returned status =>
    simp only [hdrained] at h ⊢
    obtain ⟨hnone, hpart, hcalls⟩ := closeSink_zero h
    obtain ⟨hok, hsame⟩ := failUnless_empty status.toString_ne hnone
    rw [hsame] at hnone hpart hcalls ⊢
    rw [drainReadyPartitions, drainLoop_pipelineError, ← hchecked] at hnone
    obtain ⟨_, hsame⟩ := failUnless_empty (by decide) hnone
    rw [hsame] at hnone hchecked
    subst hchecked
    refine ⟨hnone, ?_, hpart, hcalls⟩
    rw [hdrained, of_decide_eq_true hok]
    rfl
  | threw thrown =>
    simp only [hdrained] at h
    cases h

lemma finish_collects (failed : Bool) (c : Consumer β) :
    ConsumerPc.collects (run.finish failed c).1 = false := by
  simp only [finish]
  split
  · simp only [closeSink]
    split <;> rfl
  · rfl

/-! ### Steps -/

lemma push_frame (s : MultiplexState β) (message : BatchMessage β) (accepted refused : Producer) :
    (NativeMultiplexed.push s message accepted refused).consumer = s.consumer ∧
      (NativeMultiplexed.push s message accepted refused).pc = s.pc ∧
      (NativeMultiplexed.push s message accepted refused).popped = s.popped := by
  unfold NativeMultiplexed.push
  split <;> exact ⟨rfl, rfl, rfl⟩

lemma producerStep_frame {keep : Nat} (hstep : run.producerStep part keep s = some t) :
    t.consumer = s.consumer ∧ t.pc = s.pc ∧ t.popped = s.popped := by
  cases producerMoves hstep with
  | pushBatch | pushEnd | pushError => exact push_frame s _ _ _
  | _ => exact ⟨rfl, rfl, rfl⟩

/-- What a step of the consumer does. -/
inductive ConsumerMoves (run : NativeMultiplexed β) (keep : Nat) (s : MultiplexState β) :
    MultiplexState β → Prop
  | receive (message : BatchMessage β) (queue : ClosingFifo (BatchMessage β)) (hpc : s.pc = .pop)
      (hpop : s.queue.pop = some (message, queue)) :
      ConsumerMoves run keep s (run.handleMessage
        { s with queue := queue, popped := s.popped ++ [message] } message)
  | drained (hpc : s.pc = .pop) (hpop : s.queue.pop = none) (hclosed : s.queue.closed = true) :
      ConsumerMoves run keep s { s with pc := .join }
  | stop (hpc : s.pc = .storeStop) :
      ConsumerMoves run keep s { s with stopRequested := true, pc := .close }
  | close (hpc : s.pc = .close) :
      ConsumerMoves run keep s { s with queue := s.queue.close keep, pc := .pop }
  | finish (hpc : s.pc = .join) :
      ConsumerMoves run keep s { s with
        pc := (run.finish (run.producersFailed s) s.consumer).1
        consumer := (run.finish (run.producersFailed s) s.consumer).2 }

lemma consumerMoves {keep : Nat} (hstep : run.consumerStep keep s = some t) :
    ConsumerMoves run keep s t := by
  unfold consumerStep at hstep
  split at hstep
  · next hpc =>
    split at hstep
    · next message queue hpop =>
      cases hstep
      exact .receive message queue hpc hpop
    · next hpop =>
      split at hstep
      · next hclosed =>
        cases hstep
        exact .drained hpc hpop hclosed
      · cases hstep
  · next hpc =>
    cases hstep
    exact .stop hpc
  · next hpc =>
    cases hstep
    exact .close hpc
  · next hpc =>
    split at hstep
    · cases hstep
      exact .finish hpc
    · cases hstep
  · cases hstep
  · cases hstep

lemma buffered_initial : Buffered n [] (⟨fun _ => none, 1, "", []⟩ : Consumer β) [] :=
  ⟨Nat.le_refl 1, Nat.le_add_left 1 n, fun _ => rfl, fun part h1 h2 => absurd h1 (by simpa using h2),
    ⟨rfl, rfl, by simp [Consumer.state]⟩, fun _ _ => ⟨rfl, rfl, by simp [Consumer.state]⟩, rfl⟩

lemma orderInv_initial : run.OrderInv run.initial :=
  ⟨pushInv_initial, fun _ _ => ⟨[], buffered_initial⟩, fun h => (nomatch h), fun h => (nomatch h)⟩

lemma OrderInv.receive {queue : ClosingFifo (BatchMessage β)} (h : run.OrderInv s)
    (hpc : s.pc = .pop) (hpop : s.queue.pop = some (message, queue)) :
    run.OrderInv (run.handleMessage
      { s with queue := queue, popped := s.popped ++ [message] } message) := by
  have hend := h.push.end_not_mem hpop
  have hbefore : s.consumer.pipelineError = "" →
      ∃ written, Buffered run.partCount s.popped s.consumer written :=
    h.buffered (by rw [hpc]; rfl)
  have hbuffered := Buffered.handleMessage
    { s with queue := queue, popped := s.popped ++ [message] } message hbefore hend
  obtain ⟨consumer, pc, heq, hnext⟩ := handleMessage_frame run
    { s with queue := queue, popped := s.popped ++ [message] } message
  rw [heq] at hbuffered ⊢
  have hnot : pc ≠ .returned 0 := by
    rintro rfl
    obtain hsame | hstop | ⟨thrown, hthrew⟩ := hnext
    · rw [hpc] at hsame
      cases hsame
    · cases hstop
    · cases hthrew
  refine ⟨⟨h.push.ledger.pop hpop, h.push.pushed, h.push.position⟩, hbuffered, ?_, ?_⟩
  · exact fun hret => absurd hret hnot
  · exact fun hret => absurd hret hnot

lemma OrderInv.finished {failed : Bool} (h : run.OrderInv s) (hpc : s.pc = .join) :
    run.OrderInv { s with
      pc := (run.finish failed s.consumer).1, consumer := (run.finish failed s.consumer).2 } := by
  have hzero : (run.finish failed s.consumer).1 = .returned 0 →
      (∀ part, 1 ≤ part → part ≤ run.partCount → .endPartition part ∈ s.popped) ∧
        (run.finish failed s.consumer).2.calls =
          ((List.range' 1 run.partCount).flatMap fun part =>
            blockCalls part (receivedBatches part s.popped)) ++ [.close] := by
    intro hret
    obtain ⟨hnone, hok, hpart, hcalls⟩ := finish_zero hret
    obtain ⟨written, hbuffered⟩ := h.buffered (by rw [hpc]; rfl) hnone
    obtain ⟨last, hdrained⟩ := hbuffered.drain hok
    refine ⟨fun part h1 h2 => hdrained.before part h1 (by omega), ?_⟩
    rw [hcalls, hdrained.calls, hdrained.last hpart, hpart, Nat.add_sub_cancel]
    simp [openCalls]
  refine ⟨⟨h.push.ledger, h.push.pushed, h.push.position⟩, fun hcollects => ?_, fun hret => ?_,
    fun hret => ?_⟩
  · exact absurd hcollects (by rw [finish_collects]; exact Bool.false_ne_true)
  · exact (hzero hret).1
  · exact (hzero hret).2

lemma orderInv_consumerStep {keep : Nat} (h : run.OrderInv s)
    (hstep : run.consumerStep keep s = some t) : run.OrderInv t := by
  cases consumerMoves hstep with
  | receive message queue hpc hpop => exact h.receive hpc hpop
  | drained hpc =>
    refine ⟨⟨h.push.ledger, h.push.pushed, h.push.position⟩, fun _ hnone => ?_, ?_, ?_⟩
    · exact h.buffered (by rw [hpc]; rfl) hnone
    · exact fun hret => nomatch hret
    · exact fun hret => nomatch hret
  | stop hpc =>
    refine ⟨?_, fun _ hnone => ?_, ?_, ?_⟩
    · exact ⟨h.push.ledger, h.push.pushed, fun part => (h.push.position part).stop fun _ => rfl⟩
    · exact h.buffered (by rw [hpc]; rfl) hnone
    · exact fun hret => nomatch hret
    · exact fun hret => nomatch hret
  | close hpc =>
    refine ⟨?_, fun _ hnone => ?_, ?_, ?_⟩
    · exact ⟨h.push.ledger.close keep, h.push.pushed, h.push.position⟩
    · exact h.buffered (by rw [hpc]; rfl) hnone
    · exact fun hret => nomatch hret
    · exact fun hret => nomatch hret
  | finish hpc => exact h.finished hpc

lemma orderInv_step {action : MultiplexAction} (h : run.OrderInv s)
    (hstep : run.step s action = some t) : run.OrderInv t := by
  cases action with
  | consumer keep => exact orderInv_consumerStep h hstep
  | producer part keep =>
    simp only [step] at hstep
    split at hstep
    · obtain ⟨hconsumer, hpc, hpopped⟩ := producerStep_frame hstep
      refine ⟨pushInv_producerStep h.push hstep, ?_, ?_, ?_⟩
      · rw [hconsumer, hpc, hpopped]
        exact h.buffered
      · rw [hpc, hpopped]
        exact h.ended
      · rw [hconsumer, hpc, hpopped]
        exact h.calls
    · cases hstep

theorem orderInv_reachable (h : Reachable run.step run.initial s) : run.OrderInv s :=
  h.invariant orderInv_initial fun _ _ _ hs hstep => orderInv_step hs hstep

/-- Where the end message of a part has arrived, so have all its batches and nothing else. -/
lemma PushInv.receivedBatches (h : run.PushInv s) (hmem : .endPartition part ∈ s.popped) :
    receivedBatches part s.popped = (run.generator part).batches := by
  rw [Storage.receivedBatches, (h.complete hmem).2, List.filterMap_append, List.filterMap_map]
  simp

/-- The calls behind a return with 0: every part's block, for parts that all completed. -/
lemma Returns.blocks (h : run.Returns 0 calls) :
    calls = ((List.range' 1 run.partCount).flatMap fun part =>
        blockCalls part (run.generator part).batches) ++ [.close] ∧
      ∀ part ∈ List.range' 1 run.partCount, (run.generator part).Completes := by
  obtain ⟨s, hreach, hpc, rfl⟩ := h
  have hinv := orderInv_reachable hreach
  have hended : ∀ part ∈ List.range' 1 run.partCount, .endPartition part ∈ s.popped := by
    intro part hpart
    have hbounds := List.mem_range'_1.mp hpart
    exact hinv.ended hpc part hbounds.1 (by omega)
  constructor
  · rw [hinv.calls hpc]
    apply congrArg (· ++ [SinkCall.close])
    apply List.flatMap_congr
    intro part hpart
    rw [hinv.push.receivedBatches (hended part hpart)]
  · intro part hpart
    exact (hinv.push.complete (hended part hpart)).1

variable (run) in
/-- The run of `RunForeignStreamingOrdered` on the same generators. -/
def foreign (writer : List (SinkCall β) → SinkCall β → Outcome) : ForeignStreaming β :=
  ⟨run.tableName, run.partCount, run.generator, writer⟩

lemma written_blockCalls (part : Nat) (batches : List β) :
    SinkCall.written (blockCalls part batches) = batches := by
  unfold blockCalls
  cases batches with
  | nil => rfl
  | cons batch batches => exact SinkCall.written_partCalls part _

/-- A run that returns 0 has made the calls for every part in order and closed the sink. These
are the rows that the foreign streaming writer writes. -/
theorem returns_zero (h : run.Returns 0 calls) :
    calls = ((List.range' 1 run.partCount).flatMap fun part =>
        blockCalls part (run.generator part).batches) ++ [.close] ∧
      (∀ part ∈ List.range' 1 run.partCount, (run.generator part).Completes) ∧
      (∀ writer, (run.foreign writer).runOrdered.1 = .returned 0 →
        SinkCall.written (run.foreign writer).runOrdered.2.calls = SinkCall.written calls) ∧
      (∀ writer, (∀ before c, writer before c = .ok) →
        (run.foreign writer).runOrdered.1 = .returned 0) := by
  obtain ⟨s, hreach, hpc, rfl⟩ := h
  have hinv := orderInv_reachable hreach
  have hended : ∀ part ∈ List.range' 1 run.partCount, .endPartition part ∈ s.popped := by
    intro part hpart
    have hbounds := List.mem_range'_1.mp hpart
    exact hinv.ended hpc part hbounds.1 (by omega)
  have hcalls : s.consumer.calls = ((List.range' 1 run.partCount).flatMap fun part =>
      blockCalls part (run.generator part).batches) ++ [.close] := by
    rw [hinv.calls hpc]
    refine congrArg (· ++ [SinkCall.close]) (List.flatMap_congr fun part hpart => ?_)
    rw [hinv.push.receivedBatches (hended part hpart)]
  have hcompletes : ∀ part ∈ List.range' 1 run.partCount, (run.generator part).Completes :=
    fun part hpart => (hinv.push.complete (hended part hpart)).1
  refine ⟨hcalls, hcompletes, fun writer hforeign => ?_, fun writer haccepts => ?_⟩
  · rw [(ForeignStreaming.runOrdered_zero hforeign).2, hcalls, SinkCall.written_append,
      SinkCall.written_flatMap]
    simp only [written_blockCalls]
    exact (List.append_nil _).symm
  · exact ForeignStreaming.runOrdered_accepted haccepts hcompletes

lemma returns_of_exec {actions : List MultiplexAction} {rc : Int}
    (h : ((exec run.step run.initial actions).map fun s => (s.pc, s.consumer.calls)) =
      some (.returned rc, calls)) : run.Returns rc calls := by
  obtain ⟨s, hexec, hs⟩ := Option.map_eq_some_iff.mp h
  exact ⟨s, ⟨actions, hexec⟩, congrArg Prod.fst hs, congrArg Prod.snd hs⟩

def twoParts : NativeMultiplexed Nat where
  tableName := "orders"
  partCount := 2
  generator := fun part => ⟨.ready, if part = 1 then [10, 11] else [20], .finished⟩
  sink := fun _ _ => .ok

/-- The second part arrives as a whole before the first one. -/
lemma twoParts_returns : twoParts.Returns 0 [.beginPartition 1, .writeBatch 10, .writeBatch 11,
    .endPartition, .beginPartition 2, .writeBatch 20, .endPartition, .close] :=
  @returns_of_exec _ twoParts _ (List.replicate 8 (.producer 2 0) ++ List.replicate 2 (.consumer 0) ++
    List.replicate 11 (.producer 1 9) ++ List.replicate 5 (.consumer 0)) 0 (by decide)

theorem returns_zero_twoParts : (∀ part ∈ List.range' 1 2, (twoParts.generator part).Completes) ∧
    (∀ writer, (twoParts.foreign writer).runOrdered.1 = .returned 0 →
      SinkCall.written (twoParts.foreign writer).runOrdered.2.calls = [10, 11, 20]) :=
  ⟨(returns_zero twoParts_returns).2.1, (returns_zero twoParts_returns).2.2.1⟩

end NativeMultiplexed

end Schengen.Storage
