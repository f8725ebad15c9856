import Schengen.Storage.NativeMultiplexed

/-!
# What the producers push

However the producers, the consumer and the closing of the queue interleave, a producer pushes
the first batches of its part in their order and after them at most one more message. It is
the end message only where all batches were pushed and the generator ended without an exception.
-/

namespace Schengen.Storage
open Library

variable {β : Type}

namespace NativeMultiplexed

variable (run : NativeMultiplexed β)

/-- The first `k` batches of a part, as messages. -/
def batchMessages (part k : Nat) : List (BatchMessage β) :=
  ((run.generator part).batches.take k).map (.batch part)

/-- What a producer may have pushed. -/
inductive Pushed (part : Nat) : List (BatchMessage β) → Prop
  | batches (k : Nat) : Pushed part (run.batchMessages part k)
  | ended (hcompletes : (run.generator part).Completes) :
    Pushed part ((run.generator part).batches.map (.batch part) ++ [.endPartition part])
  | failed (k : Nat) (error : String) :
    Pushed part (run.batchMessages part k ++ [.error part error])

/-- What a producer has pushed when it comes to `producer.pc`. -/
def PushedAt (part : Nat) (producer : Producer) (pushed : List (BatchMessage β)) (stop : Bool) :
    Prop :=
  match producer.pc with
  | .createGenerator => producer.position = 0 ∧ pushed = []
  | .loadStop => (run.generator part).start = .ready ∧
      pushed = run.batchMessages part producer.position
  | .push => (run.generator part).start = .ready ∧
      pushed = run.batchMessages part producer.position
  | .loadStopAtEnd => (run.generator part).start = .ready ∧
      pushed = run.batchMessages part producer.position ∧
      (stop = false → (run.generator part).batches.length ≤ producer.position ∧
        (run.generator part).ends = .finished)
  | .pushEnd => (run.generator part).Completes ∧
      pushed = (run.generator part).batches.map (.batch part)
  | .pushError _ => ∃ k, pushed = run.batchMessages part k
  | _ => True

/-- The messages in the queue and those popped are the messages the producers pushed, and
these are as their positions say. -/
structure PushInv (s : MultiplexState β) : Prop where
  ledger : ClosingFifo.Ledger BatchMessage.part s.popped s.queue s.pushed
  pushed : ∀ part, run.Pushed part (s.pushed part)
  position : ∀ part, run.PushedAt part (s.producer part) (s.pushed part) s.stopRequested

variable {run} {s t : MultiplexState β} {part : Nat}

lemma batchMessages_zero : run.batchMessages part 0 = [] := rfl

lemma batchMessages_succ {position : Nat} {batch : β}
    (hbatch : (run.generator part).batches[position]? = some batch) :
    run.batchMessages part (position + 1) = run.batchMessages part position ++ [.batch part batch] := by
  rw [batchMessages, List.take_add_one, hbatch, List.map_append]
  rfl

lemma batchMessages_all {position : Nat} (h : (run.generator part).batches.length ≤ position) :
    run.batchMessages part position = (run.generator part).batches.map (.batch part) := by
  rw [batchMessages, List.take_of_length_le h]

lemma PushedAt.stop {producer : Producer} {pushed : List (BatchMessage β)} {stop stop' : Bool}
    (h : run.PushedAt part producer pushed stop) (hstop : stop = true → stop' = true) :
    run.PushedAt part producer pushed stop' := by
  unfold PushedAt at h ⊢
  cases hpc : producer.pc with
  | loadStopAtEnd =>
    rw [hpc] at h
    refine ⟨h.1, h.2.1, fun hfalse => h.2.2 ?_⟩
    cases stop with
    | false => rfl
    | true => exact absurd (hstop rfl) (by simp [hfalse])
  | _ =>
    rw [hpc] at h
    exact h

lemma pushInv_initial : run.PushInv run.initial :=
  ⟨ClosingFifo.ledger_empty, fun _ => .batches 0, fun _ => ⟨rfl, rfl⟩⟩

/-- Steps that push nothing: one producer moves on, the flag may be set and the queue closed. -/
lemma PushInv.move (part : Nat) (h : run.PushInv s)
    (hledger : ClosingFifo.Ledger BatchMessage.part t.popped t.queue s.pushed)
    (hpushed : t.pushed = s.pushed) (hstop : s.stopRequested = true → t.stopRequested = true)
    (hposition : ∀ p, p ≠ part → t.producer p = s.producer p)
    (hmoved : run.PushedAt part (t.producer part) (s.pushed part) t.stopRequested) :
    run.PushInv t := by
  refine ⟨hpushed ▸ hledger, fun p => hpushed ▸ h.pushed p, fun p => ?_⟩
  rw [hpushed]
  by_cases hp : p = part
  · subst hp
    exact hmoved
  · rw [hposition p hp]
    exact (h.position p).stop hstop

/-- A step that offers a message to the queue. -/
lemma PushInv.push (h : run.PushInv s) {message : BatchMessage β} {accepted refused : Producer}
    (hpushed : run.Pushed message.part (s.pushed message.part ++ [message]))
    (haccepted : run.PushedAt message.part accepted (s.pushed message.part ++ [message])
      s.stopRequested)
    (hrefused : run.PushedAt message.part refused (s.pushed message.part) s.stopRequested) :
    run.PushInv (push s message accepted refused) := by
  unfold NativeMultiplexed.push
  cases hqueue : s.queue.push message with
  | none =>
    refine h.move message.part h.ledger rfl id (fun p hp => ?_) ?_
    · exact Function.update_of_ne hp _ _
    · simpa only [Function.update_self] using hrefused
  | some queue =>
    refine ⟨h.ledger.push hqueue, fun p => ?_, fun p => ?_⟩
    · by_cases hp : p = message.part
      · subst hp
        simpa only [Function.update_self] using hpushed
      · simpa only [Function.update_of_ne hp] using h.pushed p
    · by_cases hp : p = message.part
      · subst hp
        simpa only [Function.update_self] using haccepted
      · simpa only [Function.update_of_ne hp] using h.position p

lemma PushInv.goto (h : run.PushInv s) {pc : ProducerPc}
    (hmoved : run.PushedAt part { s.producer part with pc := pc } (s.pushed part) s.stopRequested) :
    run.PushInv (goto s part pc) := by
  refine h.move part h.ledger rfl id (fun p hp => ?_) ?_
  · exact Function.update_of_ne hp _ _
  · simpa only [NativeMultiplexed.goto, Function.update_self] using hmoved

/-- A step to a position about which nothing is claimed. -/
lemma PushInv.leave (h : run.PushInv s) {pc : ProducerPc} {queue : ClosingFifo (BatchMessage β)}
    {stop : Bool} {remaining : Int}
    (hledger : ClosingFifo.Ledger BatchMessage.part s.popped queue s.pushed)
    (hstop : s.stopRequested = true → stop = true)
    (hpc : ∀ producer pushed, producer.pc = pc → run.PushedAt part producer pushed stop) :
    run.PushInv (NativeMultiplexed.goto
      { s with queue := queue, stopRequested := stop, remainingProducers := remaining }
      part pc) := by
  refine h.move part hledger rfl hstop (fun p hp => ?_) ?_
  · exact Function.update_of_ne hp _ _
  · exact hpc _ _ (by simp only [NativeMultiplexed.goto, Function.update_self])

/-- What a step of the producer of `part` does. -/
inductive ProducerMoves (run : NativeMultiplexed β) (part keep : Nat) (s : MultiplexState β) :
    MultiplexState β → Prop
  | ready (hpc : (s.producer part).pc = .createGenerator)
      (hstart : (run.generator part).start = .ready) :
      ProducerMoves run part keep s (goto s part .loadStop)
  | missing (hpc : (s.producer part).pc = .createGenerator)
      (hstart : (run.generator part).start = .missing) :
      ProducerMoves run part keep s
        (goto s part (.pushError ("Failed to create generator for table: " ++ run.tableName)))
  | startThrew (thrown : Thrown) (hpc : (s.producer part).pc = .createGenerator)
      (hstart : (run.generator part).start = .threw thrown) :
      ProducerMoves run part keep s
        (goto s part (.pushError (thrown.text "Unknown partition generation error")))
  | loadStop (hpc : (s.producer part).pc = .loadStop) :
      ProducerMoves run part keep s
        (goto s part (if s.stopRequested then .loadStopAtEnd else .push))
  | pushBatch (batch : β) (hpc : (s.producer part).pc = .push)
      (hbatch : (run.generator part).batches[(s.producer part).position]? = some batch) :
      ProducerMoves run part keep s (push s (.batch part batch)
        ⟨.loadStop, (s.producer part).position + 1⟩ ⟨.finished 2, (s.producer part).position + 1⟩)
  | allPushed (hpc : (s.producer part).pc = .push)
      (hlength : (run.generator part).batches.length ≤ (s.producer part).position)
      (hends : (run.generator part).ends = .finished) :
      ProducerMoves run part keep s (goto s part .loadStopAtEnd)
  | threw (thrown : Thrown) (hpc : (s.producer part).pc = .push)
      (hends : (run.generator part).ends = .threw thrown) :
      ProducerMoves run part keep s
        (goto s part (.pushError (thrown.text "Unknown partition generation error")))
  | loadStopAtEnd (hpc : (s.producer part).pc = .loadStopAtEnd) :
      ProducerMoves run part keep s (goto s part (if s.stopRequested then .fetchSub else .pushEnd))
  | pushEnd (hpc : (s.producer part).pc = .pushEnd) :
      ProducerMoves run part keep s (push s (.endPartition part)
        ⟨.fetchSub, (s.producer part).position⟩ ⟨.fetchSub, (s.producer part).position⟩)
  | pushError (error : String) (hpc : (s.producer part).pc = .pushError error) :
      ProducerMoves run part keep s (push s (.error part error)
        ⟨.storeStop, (s.producer part).position⟩ ⟨.storeStop, (s.producer part).position⟩)
  | storeStop (hpc : (s.producer part).pc = .storeStop) :
      ProducerMoves run part keep s (goto { s with stopRequested := true } part .closeOnError)
  | closeOnError (hpc : (s.producer part).pc = .closeOnError) :
      ProducerMoves run part keep s
        (goto { s with queue := s.queue.close keep } part (.finished 2))
  | fetchSub (hpc : (s.producer part).pc = .fetchSub) :
      ProducerMoves run part keep s
        (goto { s with remainingProducers := s.remainingProducers - 1 } part
          (if s.remainingProducers = 1 then .close else .finished 0))
  | close (hpc : (s.producer part).pc = .close) :
      ProducerMoves run part keep s
        (goto { s with queue := s.queue.close keep } part (.finished 0))

lemma producerMoves {keep : Nat} (hstep : run.producerStep part keep s = some t) :
    ProducerMoves run part keep s t := by
  unfold producerStep at hstep
  cases hpc : (s.producer part).pc with
  | createGenerator =>
    cases hstart : (run.generator part).start with
    | ready =>
      simp only [hpc, hstart] at hstep
      cases hstep
      exact .ready hpc hstart
    | missing =>
      simp only [hpc, hstart] at hstep
      cases hstep
      exact .missing hpc hstart
    | threw thrown =>
      simp only [hpc, hstart] at hstep
      cases hstep
      exact .startThrew thrown hpc hstart
  | loadStop =>
    simp only [hpc] at hstep
    cases hstep
    exact .loadStop hpc
  | push =>
    cases hbatch : (run.generator part).batches[(s.producer part).position]? with
    | some batch =>
      simp only [hpc, hbatch] at hstep
      cases hstep
      exact .pushBatch batch hpc hbatch
    | none =>
      cases hends : (run.generator part).ends with
      | finished =>
        simp only [hpc, hbatch, hends] at hstep
        cases hstep
        exact .allPushed hpc (List.getElem?_eq_none_iff.mp hbatch) hends
      | threw thrown =>
        simp only [hpc, hbatch, hends] at hstep
        cases hstep
        exact .threw thrown hpc hends
  | loadStopAtEnd =>
    simp only [hpc] at hstep
    cases hstep
    exact .loadStopAtEnd hpc
  | pushEnd =>
    simp only [hpc] at hstep
    cases hstep
    exact .pushEnd hpc
  | pushError error =>
    simp only [hpc] at hstep
    cases hstep
    exact .pushError error hpc
  | storeStop =>
    simp only [hpc] at hstep
    cases hstep
    exact .storeStop hpc
  | closeOnError =>
    simp only [hpc] at hstep
    cases hstep
    exact .closeOnError hpc
  | fetchSub =>
    simp only [hpc] at hstep
    cases hstep
    exact .fetchSub hpc
  | close =>
    simp only [hpc] at hstep
    cases hstep
    exact .close hpc
  | finished rc =>
    simp only [hpc] at hstep
    cases hstep

lemma pushInv_producerStep {keep : Nat} (h : run.PushInv s)
    (hstep : run.producerStep part keep s = some t) : run.PushInv t := by
  have hposition := h.position part
  unfold PushedAt at hposition
  cases producerMoves hstep with
  | ready hpc hstart =>
    simp only [hpc] at hposition
    obtain ⟨hzero, hnone⟩ := hposition
    exact h.goto ⟨hstart, by simp only [hnone, hzero, batchMessages_zero]⟩
  | missing hpc | startThrew thrown hpc =>
    simp only [hpc] at hposition
    exact h.goto ⟨0, hposition.2⟩
  | loadStop hpc =>
    simp only [hpc] at hposition
    cases hstop : s.stopRequested with
    | true => exact h.goto ⟨hposition.1, hposition.2, fun hfalse => by simp [hstop] at hfalse⟩
    | false => exact h.goto hposition
  | pushBatch batch hpc hbatch =>
    simp only [hpc] at hposition
    obtain ⟨hready, hpushed⟩ := hposition
    have hnext : s.pushed part ++ [.batch part batch] =
        run.batchMessages part ((s.producer part).position + 1) := by
      rw [hpushed, batchMessages_succ hbatch]
    refine h.push ?_ ⟨hready, hnext⟩ trivial
    exact hnext.symm ▸ Pushed.batches _
  | allPushed hpc hlength hends =>
    simp only [hpc] at hposition
    exact h.goto ⟨hposition.1, hposition.2, fun _ => ⟨hlength, hends⟩⟩
  | threw thrown hpc hends =>
    simp only [hpc] at hposition
    exact h.goto ⟨_, hposition.2⟩
  | loadStopAtEnd hpc =>
    simp only [hpc] at hposition
    obtain ⟨hready, hpushed, hend⟩ := hposition
    cases hstop : s.stopRequested with
    | true => exact h.goto trivial
    | false =>
      obtain ⟨hlength, hends⟩ := hend hstop
      exact h.goto ⟨⟨hready, hends⟩, by rw [hpushed, batchMessages_all hlength]⟩
  | pushEnd hpc =>
    simp only [hpc] at hposition
    refine h.push ?_ trivial trivial
    exact hposition.2.symm ▸ Pushed.ended hposition.1
  | pushError error hpc =>
    simp only [hpc] at hposition
    obtain ⟨k, hpushed⟩ := hposition
    refine h.push ?_ trivial trivial
    exact hpushed.symm ▸ Pushed.failed k error
  | storeStop hpc =>
    exact h.leave h.ledger (fun _ => rfl) fun producer _ hp => by simp only [PushedAt, hp]
  | closeOnError hpc | close hpc =>
    exact h.leave (h.ledger.close keep) id fun producer _ hp => by simp only [PushedAt, hp]
  | fetchSub hpc =>
    refine h.leave h.ledger id fun producer _ hp => ?_
    by_cases hlast : s.remainingProducers = 1
    · rw [if_pos hlast] at hp
      simp only [PushedAt, hp]
    · rw [if_neg hlast] at hp
      simp only [PushedAt, hp]

/-! ## What arrives -/

lemma Pushed.not_mem_dropLast {messages : List (BatchMessage β)} (h : run.Pushed part messages)
    (p : Nat) : .endPartition p ∉ messages.dropLast := by
  have hbatches : ∀ batches : List β,
      .endPartition p ∉ batches.map (BatchMessage.batch part) := by
    intro batches hmem
    obtain ⟨batch, _, heq⟩ := List.mem_map.mp hmem
    cases heq
  cases h with
  | batches k => exact fun hmem => hbatches _ (List.dropLast_subset _ hmem)
  | ended => simpa only [List.dropLast_concat] using hbatches _
  | failed k error =>
    rw [List.dropLast_concat]
    exact hbatches _

/-- No message of a part arrives after its end message. -/
lemma PushInv.end_not_mem (h : run.PushInv s) {message : BatchMessage β}
    {queue : ClosingFifo (BatchMessage β)} (hpop : s.queue.pop = some (message, queue)) :
    .endPartition message.part ∉ s.popped := by
  intro hmem
  have hfirst := (h.ledger.pop hpop).received_first message.part
  rw [ClosingFifo.ofSender_append, ClosingFifo.ofSender_singleton, if_pos rfl] at hfirst
  obtain ⟨rest, hrest⟩ := hfirst
  refine (h.pushed message.part).not_mem_dropLast message.part ?_
  rw [← hrest, List.append_assoc, List.dropLast_append_of_ne_nil (by simp)]
  exact List.mem_append_left _ (List.mem_filter.mpr ⟨hmem, by simp [BatchMessage.part]⟩)

/-- Where the end message of a part has arrived, so have all its batches. -/
lemma PushInv.complete (h : run.PushInv s) (hmem : .endPartition part ∈ s.popped) :
    (run.generator part).Completes ∧ ClosingFifo.ofSender BatchMessage.part part s.popped =
      (run.generator part).batches.map (.batch part) ++ [.endPartition part] := by
  have hfirst := h.ledger.received_first part
  have hreceived : .endPartition part ∈ ClosingFifo.ofSender BatchMessage.part part s.popped :=
    List.mem_filter.mpr ⟨hmem, by simp [BatchMessage.part]⟩
  have hlast := (h.pushed part).not_mem_dropLast part
  have hpushed := h.pushed part
  generalize s.pushed part = pushed at hfirst hlast hpushed
  cases hpushed with
  | batches k =>
    obtain ⟨batch, _, heq⟩ := List.mem_map.mp (hfirst.subset hreceived)
    cases heq
  | ended hcompletes =>
    refine ⟨hcompletes, ?_⟩
    rw [List.dropLast_concat] at hlast
    exact (List.prefix_concat_iff.mp hfirst).resolve_right fun hinit => hlast (hinit.subset hreceived)
  | failed k error =>
    rw [List.dropLast_concat] at hlast
    rcases List.mem_append.mp (hfirst.subset hreceived) with hbatch | herror
    · exact absurd hbatch hlast
    · cases List.mem_singleton.mp herror

end NativeMultiplexed

end Schengen.Storage
