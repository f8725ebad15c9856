import Schengen.Storage.OwnFileRuns

/-!
# The two threads of a partition's run

However the calling thread and the thread of the generator interleave, and however small the queue
between them is, they come to an end: every run is finite, and one that cannot go on is over.
-/

namespace Schengen.Storage
open Library

variable {σ β : Type}

namespace OwnFile

variable (run : OwnFile σ β)

/-- One of the threads can go on; `Push` waits while the queue holds `capacity` messages. -/
def CanStep (capacity : Nat) (s : OwnFileState σ β) : Prop :=
  (∃ keep t, run.step s (.consumer keep) = some t) ∨
    ((∃ keep t, run.step s (.producer keep) = some t) ∧
      (s.queue.closed = true ∨ s.queue.messages.length < capacity))

/-! ## Every run is finite -/

def consumerWork : OwnFilePc → Nat
  | .start => 5 * run.batches.length + 12
  | .storeStop => 5
  | .close => 4
  | .pop => 3
  | .join => 2
  | _ => 0

/-- A message pushed takes three steps of the consumer at most. -/
def producerWork (s : OwnFileState σ β) : Nat :=
  match s.producer with
  | .loadStop => 5 * (run.batches.length - s.position) + 8
  | .push => 5 * (run.batches.length - s.position) + 7
  | .pushError _ => 5
  | .close => 1
  | .notStarted => 0
  | .ended => 0

def work (s : OwnFileState σ β) : Nat :=
  run.consumerWork s.pc + run.producerWork s + 3 * s.queue.messages.length

variable {run} {w : σ} {s t : OwnFileState σ β} {keep : Nat} {message : PartMessage β}

lemma work_push {queue : ClosingFifo (PartMessage β)} (hpush : s.queue.push message = some queue) :
    queue.messages.length = s.queue.messages.length + 1 := by
  obtain ⟨-, rfl⟩ := ClosingFifo.push_some hpush
  exact List.length_append

lemma close_length (queue : ClosingFifo (PartMessage β)) (keep : Nat) :
    (queue.close keep).messages.length ≤ queue.messages.length := by
  unfold ClosingFifo.close
  rw [List.length_take]
  exact Nat.min_le_right _ _

lemma work_producerStep (hstep : run.producerStep keep s = some t) : run.work t < run.work s := by
  unfold work producerWork
  cases threadMoves hstep with
  | loadStop hpc =>
    rw [hpc]
    by_cases hstop : s.stopRequested = true
    · simp only [if_pos hstop]
      omega
    · simp only [if_neg hstop]
      omega
  | pushed batch queue hpc hbatch hpush =>
    have hposition : s.position < run.batches.length := (List.getElem?_eq_some_iff.mp hbatch).1
    have hlength := work_push hpush
    rw [hpc]
    simp only
    omega
  | refused batch hpc hbatch hpush =>
    rw [hpc]
    simp only
    omega
  | finished hpc hbatch hends =>
    rw [hpc]
    simp only
    omega
  | threw thrown hpc hbatch hends =>
    rw [hpc]
    simp only
    omega
  | errorPushed error queue hpc hpush =>
    have hlength := work_push hpush
    rw [hpc]
    simp only
    omega
  | errorRefused error hpc hpush =>
    rw [hpc]
    simp only
    omega
  | close hpc =>
    have hlength := close_length s.queue keep
    rw [hpc]
    simp only
    omega

/-- The step leaves alone what the other thread sees. -/
structure Shares (s t : OwnFileState σ β) : Prop where
  queue : t.queue = s.queue
  producer : t.producer = s.producer
  position : t.position = s.position

variable (run) in
lemma caught_shares (partitionOpen : Bool) (thrown : Thrown) (s : OwnFileState σ β) :
    Shares s (run.caught partitionOpen thrown s) := by
  unfold caught
  cases partitionOpen with
  | false => exact ⟨rfl, rfl, rfl⟩
  | true =>
    simp only [if_true]
    split <;> exact ⟨rfl, rfl, rfl⟩

variable (run) in
lemma finish_shares (s : OwnFileState σ β) : Shares s (run.finish s) := by
  simp only [finish]
  split
  · split
    · exact ⟨rfl, rfl, rfl⟩
    · exact ⟨rfl, rfl, rfl⟩
    · exact ⟨(caught_shares _ true _ _).queue, (caught_shares _ true _ _).producer,
        (caught_shares _ true _ _).position⟩
  · split
    · exact ⟨rfl, rfl, rfl⟩
    · exact ⟨rfl, rfl, rfl⟩
    · exact ⟨(caught_shares _ true _ _).queue, (caught_shares _ true _ _).producer,
        (caught_shares _ true _ _).position⟩

variable (run) in
lemma handleMessage_shares (s : OwnFileState σ β) (message : PartMessage β) :
    Shares s (run.handleMessage s message) := by
  cases message with
  | error error => exact ⟨rfl, rfl, rfl⟩
  | batch batch =>
    simp only [handleMessage]
    split
    · exact ⟨rfl, rfl, rfl⟩
    · split <;> exact ⟨rfl, rfl, rfl⟩

variable (run) in
/-- The start ends the function, or starts the thread. -/
lemma start_shares (s : OwnFileState σ β) :
    ((run.start s).pc = .pop ∧ Shares { s with producer := .loadStop } (run.start s)) ∨
      (Ends (run.start s) ∧ Shares s (run.start s)) := by
  unfold start
  cases run.create with
  | missing => exact .inr ⟨.inl ⟨2, rfl⟩, rfl, rfl, rfl⟩
  | threw thrown => exact .inr ⟨caught_ends run false thrown _, rfl, rfl, rfl⟩
  | ready =>
    simp only
    by_cases hwriter : run.hasWriter = true
    · rw [if_pos hwriter]
      split
      · split
        · exact .inl ⟨rfl, rfl, rfl, rfl⟩
        · next thrown _ =>
          have hshares := caught_shares run true thrown
            { s with writer := (run.writer.openPartition s.writer).2 }
          exact .inr ⟨caught_ends run true _ _, hshares.queue, hshares.producer, hshares.position⟩
      · exact .inr ⟨.inl ⟨2, rfl⟩, rfl, rfl, rfl⟩
      · exact .inr ⟨caught_ends run false _ _, rfl, rfl, rfl⟩
    · rw [if_neg hwriter]
      exact .inr ⟨.inl ⟨2, rfl⟩, rfl, rfl, rfl⟩

lemma consumerWork_ends (h : Ends s) : run.consumerWork s.pc = 0 := by
  obtain ⟨rc, hpc⟩ | ⟨thrown, hpc⟩ := h <;> rw [hpc] <;> rfl

lemma Shares.work (h : Shares s t) : run.work t =
    run.consumerWork t.pc + run.producerWork s + 3 * s.queue.messages.length := by
  unfold OwnFile.work producerWork
  rw [h.queue, h.producer, h.position]

lemma work_consumerStep (hstep : run.consumerStep keep s = some t) : run.work t < run.work s := by
  by_cases hstart : s.pc = .start
  · simp only [consumerStep, hstart] at hstep
    cases hstep
    rcases start_shares run s with ⟨hpc, hshares⟩ | ⟨hends, hshares⟩
    · rw [hshares.work, hpc]
      unfold work
      rw [hstart]
      simp only [consumerWork, producerWork]
      omega
    · rw [hshares.work, consumerWork_ends hends]
      unfold work
      rw [hstart]
      simp only [consumerWork]
      omega
  by_cases hjoin : s.pc = .join
  · simp only [consumerStep, hjoin] at hstep
    split at hstep
    · cases hstep
      rw [(finish_shares run s).work, consumerWork_ends (finish_ends run s)]
      unfold work
      rw [hjoin]
      simp only [consumerWork]
      omega
    · cases hstep
  cases loopMoves hstep hstart hjoin with
  | receive message queue hpc hpop =>
    have hqueue := (ClosingFifo.pop_some hpop).1
    have hlength : s.queue.messages.length = queue.messages.length + 1 := by
      rw [hqueue]
      rfl
    have hshares := handleMessage_shares run
      { s with queue := queue, popped := s.popped ++ [message] } message
    have hnext := handleMessage_pc run
      { s with queue := queue, popped := s.popped ++ [message] } message
    generalize run.handleMessage { s with queue := queue, popped := s.popped ++ [message] } message =
      next at hshares hnext ⊢
    have hwork : run.consumerWork next.pc ≤ 5 := by
      obtain h | h | h := hnext <;> simp only [h, hpc, consumerWork] <;> decide
    have hbefore : run.work s = 3 + run.producerWork s + 3 * s.queue.messages.length := by
      rw [work, hpc]
      rfl
    have hproducer : run.producerWork { s with queue := queue, popped := s.popped ++ [message] } =
        run.producerWork s := rfl
    rw [hshares.work, hproducer, hbefore]
    simp only
    omega
  | drained hpc hpop hclosed =>
    unfold work
    rw [hpc]
    simp only [consumerWork, producerWork]
    omega
  | stop hpc =>
    unfold work
    rw [hpc]
    simp only [consumerWork, producerWork]
    omega
  | close hpc =>
    have hlength := close_length s.queue keep
    unfold work
    rw [hpc]
    simp only [consumerWork, producerWork]
    omega

lemma work_step {action : OwnFileAction} (hstep : run.step s action = some t) :
    run.work t < run.work s := by
  cases action with
  | producer keep => exact work_producerStep hstep
  | consumer keep => exact work_consumerStep hstep

/-! ## The threads wait for each other only -/

/-- The thread runs from the start of the loop until it is joined, and it has closed the queue
when it ends. -/
structure ThreadInv (w : σ) (s : OwnFileState σ β) : Prop where
  fresh : s.pc = .start → s = initial w
  idle : s.producer = .notStarted → s.pc = .start ∨ Ends s
  closed : s.producer = .ended → s.queue.closed = true
  drained : s.pc = .join → s.queue.closed = true
  joined : Ends s → s.producer = .notStarted ∨ s.producer = .ended

lemma threadInv_initial : ThreadInv w (initial w : OwnFileState σ β) where
  fresh := fun _ => rfl
  idle := fun _ => .inl rfl
  closed := fun h => by cases h
  drained := fun h => by cases h
  joined := fun _ => .inl rfl

lemma ends_ne_start (h : Ends s) : s.pc ≠ .start := by
  obtain ⟨rc, hpc⟩ | ⟨thrown, hpc⟩ := h <;> rw [hpc] <;> exact fun h => by cases h

lemma ends_ne_join (h : Ends s) : s.pc ≠ .join := by
  obtain ⟨rc, hpc⟩ | ⟨thrown, hpc⟩ := h <;> rw [hpc] <;> exact fun h => by cases h

/-- A step of the thread while it runs. -/
lemma producerStep_runs (hstep : run.producerStep keep s = some t) :
    t.pc = s.pc ∧ s.producer ≠ .notStarted ∧ s.producer ≠ .ended ∧ t.producer ≠ .notStarted ∧
      (t.producer = .ended → t.queue.closed = true) ∧
      (s.queue.closed = true → t.queue.closed = true) := by
  cases threadMoves hstep with
  | loadStop hpc => by_cases hstop : s.stopRequested = true <;> simp [hpc, hstop]
  | pushed batch queue hpc hbatch hpush =>
    obtain ⟨hopen, rfl⟩ := ClosingFifo.push_some hpush
    simp [hpc]
  | errorPushed error queue hpc hpush =>
    obtain ⟨hopen, rfl⟩ := ClosingFifo.push_some hpush
    simp [hpc]
  | refused batch hpc | finished hpc | threw thrown hpc | errorRefused error hpc => simp [hpc]
  | close hpc => simp [hpc, ClosingFifo.close]

lemma handleMessage_ne_join (hpc : s.pc = .pop) (message : PartMessage β) :
    (run.handleMessage s message).pc ≠ .join := by
  intro hjoin
  obtain h | h | h := handleMessage_pc run s message
  · cases (h.trans hpc).symm.trans hjoin
  · cases h.symm.trans hjoin
  · cases h.symm.trans hjoin

/-- At the end of the function the thread was not started or has been joined. -/
lemma ThreadInv.of_ends (hends : Ends t) (hclosed : t.producer = .ended → t.queue.closed = true)
    (hjoined : t.producer = .notStarted ∨ t.producer = .ended) : ThreadInv w t where
  fresh := fun hstart => absurd hstart (ends_ne_start hends)
  idle := fun _ => .inr hends
  closed := hclosed
  drained := fun hjoin => absurd hjoin (ends_ne_join hends)
  joined := fun _ => hjoined

lemma ThreadInv.producerStep (h : ThreadInv w s) (hstep : run.producerStep keep s = some t) :
    ThreadInv w t := by
  obtain ⟨hpc, hstarted, hrunning, hnext, hended, hclosed⟩ := producerStep_runs hstep
  have hends : Ends t ↔ Ends s := by rw [Ends, Ends, hpc]
  refine ⟨fun hstart => ?_, fun hidle => absurd hidle hnext, hended,
    fun hjoin => hclosed (h.drained (hpc ▸ hjoin)), fun hover => ?_⟩
  · have hsame := h.fresh (hpc ▸ hstart)
    exact absurd (by rw [hsame]; rfl) hstarted
  · exact absurd (h.joined (hends.mp hover)) (by simp [hstarted, hrunning])

variable (run w) in
lemma threadInv_start : ThreadInv w (run.start (initial w)) := by
  rcases start_shares run (initial w) with ⟨hpc, hshares⟩ | ⟨hends, hshares⟩
  · refine ⟨fun hs => ?_, fun hidle => ?_, fun hended => ?_, fun hjoin => ?_, fun hover => ?_⟩
    · rw [hpc] at hs
      cases hs
    · rw [hshares.producer] at hidle
      cases hidle
    · rw [hshares.producer] at hended
      cases hended
    · rw [hpc] at hjoin
      cases hjoin
    · exact absurd hover (by simp [Ends, hpc])
  · have hproducer : (run.start (initial w)).producer = .notStarted := hshares.producer
    refine .of_ends hends (fun hended => ?_) (.inl hproducer)
    rw [hproducer] at hended
    cases hended

/-- The loop leaves the thread alone, and joins it when the queue is closed. -/
lemma LoopMoves.frame (h : LoopMoves run keep s t) :
    t.producer = s.producer ∧ (s.queue.closed = true → t.queue.closed = true) ∧
      (t.pc = .join → t.queue.closed = true) := by
  cases h with
  | receive message queue hpc hpop =>
    have hclosed := (ClosingFifo.pop_some hpop).2
    have hshares := handleMessage_shares run
      { s with queue := queue, popped := s.popped ++ [message] } message
    refine ⟨hshares.producer, fun hc => ?_, fun hj => ?_⟩
    · rw [hshares.queue]
      exact hclosed.trans hc
    · have hloop : OwnFileState.pc
          { s with queue := queue, popped := s.popped ++ [message] } = .pop := hpc
      exact absurd hj (handleMessage_ne_join hloop message)
  | drained hpc hpop hclosed => exact ⟨rfl, id, fun _ => hclosed⟩
  | stop hpc => exact ⟨rfl, id, fun hj => by cases hj⟩
  | close hpc => exact ⟨rfl, fun _ => rfl, fun hj => by cases hj⟩

lemma threadInv_step {action : OwnFileAction} (h : ThreadInv w s)
    (hstep : run.step s action = some t) : ThreadInv w t := by
  cases action with
  | producer keep => exact h.producerStep hstep
  | consumer keep =>
    have hstep : run.consumerStep keep s = some t := hstep
    by_cases hstart : s.pc = .start
    · obtain rfl := h.fresh hstart
      obtain rfl : run.start (initial w) = t := Option.some.inj hstep
      exact threadInv_start run w
    by_cases hjoin : s.pc = .join
    · simp only [consumerStep, hjoin] at hstep
      split at hstep
      · next hended =>
        cases hstep
        have hshares := finish_shares run s
        exact .of_ends (finish_ends run s) (fun _ => by rw [hshares.queue]; exact h.closed hended)
          (.inr (hshares.producer.trans hended))
      · cases hstep
    · have hmoves := loopMoves hstep hstart hjoin
      obtain ⟨hnot, hopen⟩ := hmoves.pc
      obtain ⟨hproducer, hclosed, hdrained⟩ := hmoves.frame
      have hrunning : s.producer ≠ .notStarted := by
        intro hidle
        obtain hs | hends := h.idle hidle
        · exact hstart hs
        · obtain ⟨rc, hpc⟩ | ⟨thrown, hpc⟩ := hends <;> simp [consumerStep, hpc] at hstep
      exact ⟨fun hs => absurd hs hnot, fun hidle => absurd (hproducer.symm.trans hidle) hrunning,
        fun hended => hclosed (h.closed (hproducer.symm.trans hended)), hdrained,
        fun hover => absurd hover hopen⟩

variable (run) in
/-- A thread that was started can go on until it has ended. -/
lemma producerStep_some (hstarted : s.producer ≠ .notStarted) (hrunning : s.producer ≠ .ended) :
    ∃ t, run.producerStep 0 s = some t := by
  unfold producerStep
  cases hproducer : s.producer with
  | notStarted => exact absurd hproducer hstarted
  | ended => exact absurd hproducer hrunning
  | loadStop | close => exact ⟨_, rfl⟩
  | push =>
    simp only
    split
    · split <;> exact ⟨_, rfl⟩
    · split <;> exact ⟨_, rfl⟩
  | pushError error =>
    simp only
    split <;> exact ⟨_, rfl⟩

/-- A run that cannot go on has ended, even if the queue holds one message only. -/
lemma ThreadInv.canStep (h : ThreadInv w s) {capacity : Nat} (hcapacity : 1 ≤ capacity)
    (hends : ¬ Ends s) (halive : s.pc ≠ .terminated) : run.CanStep capacity s := by
  have hconsumer : run.consumerStep 0 s ≠ none → run.CanStep capacity s := by
    intro hsome
    obtain ⟨t, ht⟩ := Option.ne_none_iff_exists'.mp hsome
    exact .inl ⟨0, t, ht⟩
  have hproducer : s.pc ≠ .start → s.producer ≠ .ended →
      (s.queue.closed = true ∨ s.queue.messages.length < capacity) → run.CanStep capacity s := by
    intro hstart hrunning hroom
    obtain ⟨t, ht⟩ := producerStep_some run
      (fun hidle => (h.idle hidle).elim hstart hends) hrunning
    exact .inr ⟨⟨0, t, ht⟩, hroom⟩
  cases hpc : s.pc with
  | start => exact hconsumer (by simp [consumerStep, hpc])
  | pop =>
    cases hpop : s.queue.pop with
    | some popped => exact hconsumer (by simp [consumerStep, hpc, hpop])
    | none =>
      by_cases hclosed : s.queue.closed = true
      · exact hconsumer (by simp [consumerStep, hpc, hpop, hclosed])
      · refine hproducer (by simp [hpc]) (fun hended => hclosed (h.closed hended)) (.inr ?_)
        rw [ClosingFifo.pop_none hpop]
        exact hcapacity
  | storeStop => exact hconsumer (by simp [consumerStep, hpc])
  | close => exact hconsumer (by simp [consumerStep, hpc])
  | join =>
    by_cases hended : s.producer = .ended
    · exact hconsumer (by simp [consumerStep, hpc, hended])
    · exact hproducer (by simp [hpc]) hended (.inl (h.drained hpc))
  | returned rc => exact absurd (.inl ⟨rc, hpc⟩) hends
  | threw thrown => exact absurd (.inr ⟨thrown, hpc⟩) hends
  | terminated => exact absurd hpc halive

end OwnFile

end Schengen.Storage
