import Schengen.Storage.OwnFile

/-!
# Partition files without the thread

If the queue delivers every message it accepted, the two threads together do what a loop that
generates and writes in turn would do: every run ends with the writer in the state, the errors
and the result of that loop, however the threads interleave.
-/

namespace Schengen.Storage
open Library

variable {σ β : Type}

/-- `WriteBatch` on one batch after the other, up to the first call that fails. -/
def TableWriter.writeAll (writer : TableWriter σ β) : List β → σ → Outcome × σ
  | [], w => (.ok, w)
  | batch :: batches, w =>
    let written := writer.writeBatch batch w
    if written.1 = .ok then writer.writeAll batches written.2 else written

namespace OwnFile

variable (run : OwnFile σ β)

def endError : String :=
  match run.ends with
  | .finished => ""
  | .threw thrown => thrown.text "Unknown generation error"

/-- `pipeline_error` and the writer after the loop, if no call on the writer throws. -/
def pipeline (w : σ) : Option (String × σ) :=
  let written := run.writer.writeAll run.batches w
  match written.1 with
  | .returned .ok => some (run.endError, written.2)
  | .returned status => some (status.toString, written.2)
  | .threw _ => none

/-- The function as one loop, if no call on the writer throws. -/
def sequential (w : σ) : Option (OwnFileState σ β) :=
  let started := run.start (initial w)
  if started.pc = .pop then
    (run.pipeline started.writer).map fun result =>
      run.finish { started with pipelineError := result.1, writer := result.2 }
  else some started

/-- What a generator pushes as a whole. -/
def allMessages : List (PartMessage β) :=
  run.batches.map .batch ++
    match run.ends with
    | .finished => []
    | .threw thrown => [.error (thrown.text "Unknown generation error")]

/-- A failure was noted. -/
def Failing (s : OwnFileState σ β) : Prop :=
  s.stopRequested = true ∨ s.pc = .storeStop ∨ s.pc = .close

/-- The consumer has written what it popped, or has come to the result of the loop. -/
structure ConsumerInv (w : σ) (s : OwnFileState σ β) : Prop where
  failing : Failing s → run.pipeline w = some (s.pipelineError, s.writer)
  writing : ¬ Failing s → s.pipelineError = "" ∧ ∃ batches,
    s.popped = batches.map .batch ∧ run.writer.writeAll batches w = (.ok, s.writer)

/-- Where the producer is. -/
def ProducerInv (s : OwnFileState σ β) : Prop :=
  match s.producer with
  | .notStarted => False
  | .loadStop => s.popped ++ s.queue.messages = (run.batches.take s.position).map .batch
  | .push => s.popped ++ s.queue.messages = (run.batches.take s.position).map .batch
  | .pushError error => s.popped ++ s.queue.messages = run.batches.map .batch ∧
      run.allMessages = run.batches.map .batch ++ [.error error]
  | _ => Failing s ∨ s.popped ++ s.queue.messages = run.allMessages

/-- A state between the start and the end of the thread. `w` is the writer as it was opened. -/
structure PipelineInv (w : σ) (errors : List String) (s : OwnFileState σ β) : Prop where
  consumer : run.ConsumerInv w s
  producer : run.ProducerInv s
  accepted : s.popped ++ s.queue.messages <+: run.allMessages
  closed : s.queue.closed = true → Failing s ∨ s.producer = .ended
  joined : s.pc = .join → s.queue.messages = [] ∧ s.queue.closed = true
  stopped : s.pc = .close → s.stopRequested = true
  errors : s.errors = errors

variable {run} {w : σ} {errors : List String} {s t : OwnFileState σ β} {keep : Nat}

/-! ## The messages -/

lemma batches_prefix (k : Nat) :
    (run.batches.take k).map PartMessage.batch <+: run.allMessages :=
  ((List.take_prefix k run.batches).map _).trans (List.prefix_append _ _)

lemma allMessages_finished (h : run.ends = .finished) : run.allMessages = run.batches.map .batch := by
  rw [allMessages, h]
  exact List.append_nil _

lemma allMessages_threw {thrown : Thrown} (h : run.ends = .threw thrown) :
    run.allMessages =
      run.batches.map .batch ++ [.error (thrown.text "Unknown generation error")] := by
  rw [allMessages, h]

/-! ## The producer -/

lemma Failing.producer {producer : OwnFileProducer} {position : Nat}
    {queue : ClosingFifo (PartMessage β)} :
    Failing { s with queue := queue, producer := producer, position := position } ↔ Failing s :=
  Iff.rfl

/-- A step of the producer that leaves the queue alone. -/
lemma PipelineInv.move (h : run.PipelineInv w errors s) {producer : OwnFileProducer}
    (position : Nat) (hended : s.producer ≠ .ended)
    (hproducer : run.ProducerInv { s with producer := producer, position := position }) :
    run.PipelineInv w errors { s with producer := producer, position := position } :=
  ⟨⟨h.consumer.failing, h.consumer.writing⟩, hproducer, h.accepted,
    fun hclosed => .inl ((h.closed hclosed).resolve_right hended), h.joined, h.stopped, h.errors⟩

/-- A message that was accepted. -/
lemma PipelineInv.push (h : run.PipelineInv w errors s) {message : PartMessage β}
    {queue : ClosingFifo (PartMessage β)} {producer : OwnFileProducer} (position : Nat)
    (hpush : s.queue.push message = some queue)
    (haccepted : s.popped ++ (s.queue.messages ++ [message]) <+: run.allMessages)
    (hproducer : run.ProducerInv
      { s with queue := queue, producer := producer, position := position }) :
    run.PipelineInv w errors
      { s with queue := queue, producer := producer, position := position } := by
  obtain ⟨hopen, rfl⟩ := ClosingFifo.push_some hpush
  refine ⟨⟨h.consumer.failing, h.consumer.writing⟩, hproducer, haccepted, fun hclosed => ?_,
    fun hjoin => ?_, h.stopped, h.errors⟩
  · exact absurd hopen (by rw [show s.queue.closed = true from hclosed]; exact Bool.noConfusion)
  · have hclosed := (h.joined hjoin).2
    rw [hopen] at hclosed
    cases hclosed

/-- The steps of the thread of the generator. -/
inductive ThreadMoves (run : OwnFile σ β) (keep : Nat) (s : OwnFileState σ β) :
    OwnFileState σ β → Prop
  | loadStop (hpc : s.producer = .loadStop) :
      ThreadMoves run keep s { s with producer := if s.stopRequested then .close else .push }
  | pushed (batch : β) (queue : ClosingFifo (PartMessage β)) (hpc : s.producer = .push)
      (hbatch : run.batches[s.position]? = some batch)
      (hpush : s.queue.push (.batch batch) = some queue) :
      ThreadMoves run keep s
        { s with queue := queue, producer := .loadStop, position := s.position + 1 }
  | refused (batch : β) (hpc : s.producer = .push) (hbatch : run.batches[s.position]? = some batch)
      (hpush : s.queue.push (.batch batch) = none) :
      ThreadMoves run keep s { s with producer := .close, position := s.position + 1 }
  | finished (hpc : s.producer = .push) (hbatch : run.batches[s.position]? = none)
      (hends : run.ends = .finished) : ThreadMoves run keep s { s with producer := .close }
  | threw (thrown : Thrown) (hpc : s.producer = .push)
      (hbatch : run.batches[s.position]? = none) (hends : run.ends = .threw thrown) :
      ThreadMoves run keep s
        { s with producer := .pushError (thrown.text "Unknown generation error") }
  | errorPushed (error : String) (queue : ClosingFifo (PartMessage β))
      (hpc : s.producer = .pushError error) (hpush : s.queue.push (.error error) = some queue) :
      ThreadMoves run keep s { s with queue := queue, producer := .close }
  | errorRefused (error : String) (hpc : s.producer = .pushError error)
      (hpush : s.queue.push (.error error) = none) :
      ThreadMoves run keep s { s with producer := .close }
  | close (hpc : s.producer = .close) :
      ThreadMoves run keep s { s with queue := s.queue.close keep, producer := .ended }

lemma threadMoves (hstep : run.producerStep keep s = some t) : ThreadMoves run keep s t := by
  unfold producerStep at hstep
  cases hpc : s.producer with
  | notStarted | ended =>
    simp only [hpc] at hstep
    cases hstep
  | loadStop =>
    simp only [hpc] at hstep
    cases hstep
    exact .loadStop hpc
  | push =>
    simp only [hpc] at hstep
    cases hbatch : run.batches[s.position]? with
    | some batch =>
      simp only [hbatch] at hstep
      cases hpush : s.queue.push (.batch batch) with
      | none =>
        simp only [hpush] at hstep
        cases hstep
        exact .refused batch hpc hbatch hpush
      | some queue =>
        simp only [hpush] at hstep
        cases hstep
        exact .pushed batch queue hpc hbatch hpush
    | none =>
      cases hends : run.ends with
      | finished =>
        simp only [hbatch, hends] at hstep
        cases hstep
        exact .finished hpc hbatch hends
      | threw thrown =>
        simp only [hbatch, hends] at hstep
        cases hstep
        exact .threw thrown hpc hbatch hends
  | pushError error =>
    simp only [hpc] at hstep
    cases hpush : s.queue.push (.error error) with
    | none =>
      simp only [hpush] at hstep
      cases hstep
      exact .errorRefused error hpc hpush
    | some queue =>
      simp only [hpush] at hstep
      cases hstep
      exact .errorPushed error queue hpc hpush
  | close =>
    simp only [hpc] at hstep
    cases hstep
    exact .close hpc

lemma PipelineInv.messages_of_push (h : run.PipelineInv w errors s) (hpc : s.producer = .push) :
    s.popped ++ s.queue.messages = (run.batches.take s.position).map .batch := by
  have hproducer := h.producer
  unfold ProducerInv at hproducer
  simpa only [hpc] using hproducer

lemma PipelineInv.all_of_end (h : run.PipelineInv w errors s) (hpc : s.producer = .push)
    (hbatch : run.batches[s.position]? = none) :
    s.popped ++ s.queue.messages = run.batches.map .batch := by
  rw [h.messages_of_push hpc, List.take_of_length_le (List.getElem?_eq_none_iff.mp hbatch)]

/-- A message that the closed queue does not take. -/
lemma PipelineInv.refused (h : run.PipelineInv w errors s) (hended : s.producer ≠ .ended)
    {message : PartMessage β} (hpush : s.queue.push message = none) : Failing s :=
  (h.closed (ClosingFifo.push_none hpush)).resolve_right hended

lemma pipelineInv_producerStep (h : run.PipelineInv w errors s)
    (hdelivers : s.queue.messages.length ≤ keep) (hstep : run.producerStep keep s = some t) :
    run.PipelineInv w errors t := by
  have hproducer := h.producer
  unfold ProducerInv at hproducer
  cases threadMoves hstep with
  | loadStop hpc =>
    simp only [hpc] at hproducer
    refine h.move s.position (by simp [hpc]) ?_
    by_cases hstop : s.stopRequested = true
    · rw [if_pos hstop]
      exact .inl (.inl hstop)
    · rw [if_neg hstop]
      exact hproducer
  | refused batch hpc hbatch hpush =>
    have hended : s.producer ≠ .ended := by simp [hpc]
    exact h.move _ hended (.inl (h.refused hended hpush))
  | pushed batch queue hpc hbatch hpush =>
    have hnext : s.popped ++ (s.queue.messages ++ [.batch batch]) =
        (run.batches.take (s.position + 1)).map .batch := by
      rw [← List.append_assoc, h.messages_of_push hpc, List.take_add_one, hbatch, List.map_append]
      rfl
    refine h.push _ hpush (hnext ▸ batches_prefix _) ?_
    obtain ⟨_, rfl⟩ := ClosingFifo.push_some hpush
    exact hnext
  | finished hpc hbatch hends =>
    exact h.move s.position (by simp [hpc])
      (.inr ((h.all_of_end hpc hbatch).trans (allMessages_finished hends).symm))
  | threw thrown hpc hbatch hends =>
    exact h.move s.position (by simp [hpc]) ⟨h.all_of_end hpc hbatch, allMessages_threw hends⟩
  | errorRefused error hpc hpush =>
    have hended : s.producer ≠ .ended := by simp [hpc]
    exact h.move s.position hended (.inl (h.refused hended hpush))
  | errorPushed error queue hpc hpush =>
    simp only [hpc] at hproducer
    have hnext : s.popped ++ (s.queue.messages ++ [.error error]) = run.allMessages := by
      rw [← List.append_assoc, hproducer.1, hproducer.2]
    refine h.push s.position hpush (hnext ▸ List.prefix_refl _) ?_
    obtain ⟨_, rfl⟩ := ClosingFifo.push_some hpush
    exact .inr hnext
  | close hpc =>
    simp only [hpc] at hproducer
    have hkept := ClosingFifo.close_messages hdelivers
    refine ⟨⟨h.consumer.failing, h.consumer.writing⟩, ?_, ?_, fun _ => .inr rfl, fun hjoin => ?_,
      h.stopped, h.errors⟩
    · change Failing s ∨ s.popped ++ (s.queue.close keep).messages = run.allMessages
      rw [hkept]
      exact hproducer
    · change s.popped ++ (s.queue.close keep).messages <+: run.allMessages
      rw [hkept]
      exact h.accepted
    · exact ⟨hkept.trans (h.joined hjoin).1, rfl⟩

/-! ## The consumer -/

lemma writeAll_append {xs ys : List β} {w' : σ} (h : run.writer.writeAll xs w = (.ok, w')) :
    run.writer.writeAll (xs ++ ys) w = run.writer.writeAll ys w' := by
  induction xs generalizing w with
  | nil =>
    cases h
    rfl
  | cons x xs ih =>
    simp only [TableWriter.writeAll, List.cons_append] at h ⊢
    by_cases hok : (run.writer.writeBatch x w).1 = .ok
    · rw [if_pos hok] at h ⊢
      exact ih h
    · rw [if_neg hok] at h
      exact absurd (congrArg Prod.fst h) hok

/-- The first call that fails decides. -/
lemma writeAll_failed {xs ys : List β} {batch : β} {w' : σ}
    (h : run.writer.writeAll xs w = (.ok, w')) (hfailed : (run.writer.writeBatch batch w').1 ≠ .ok) :
    run.writer.writeAll (xs ++ batch :: ys) w = run.writer.writeBatch batch w' := by
  rw [writeAll_append h]
  exact if_neg hfailed

lemma next_of_begun {batches all : List β} {message : PartMessage β}
    {rest tail : List (PartMessage β)} (htail : ∀ batch, .batch batch ∉ tail)
    (h : batches.map .batch ++ message :: rest <+: all.map .batch ++ tail) :
    (∃ batch after, message = .batch batch ∧ all = batches ++ batch :: after) ∨
      (message ∈ tail ∧ all = batches) := by
  induction batches generalizing all with
  | nil =>
    cases all with
    | nil => exact .inr ⟨h.subset List.mem_cons_self, rfl⟩
    | cons a all => exact .inl ⟨a, all, (List.cons_prefix_cons.mp h).1, rfl⟩
  | cons b batches ih =>
    cases all with
    | nil => exact absurd (h.subset List.mem_cons_self) (htail b)
    | cons a all =>
      obtain ⟨heq, hrest⟩ := List.cons_prefix_cons.mp h
      cases heq
      obtain ⟨batch, after, hmessage, rfl⟩ | ⟨hmessage, rfl⟩ := ih hrest
      · exact .inl ⟨batch, after, hmessage, rfl⟩
      · exact .inr ⟨hmessage, rfl⟩

/-- What may be popped next, where only batches were popped before. -/
lemma next_message {batches : List β} {message : PartMessage β} {rest : List (PartMessage β)}
    (h : batches.map .batch ++ message :: rest <+: run.allMessages) :
    (∃ batch after, message = .batch batch ∧ run.batches = batches ++ batch :: after) ∨
      (∃ thrown, message = .error (thrown.text "Unknown generation error") ∧
        run.ends = .threw thrown ∧ run.batches = batches) := by
  unfold allMessages at h
  cases hends : run.ends with
  | finished =>
    rw [hends] at h
    exact .inl ((next_of_begun (fun _ => List.not_mem_nil) h).resolve_right
      fun hmessage => List.not_mem_nil hmessage.1)
  | threw thrown =>
    rw [hends] at h
    obtain hbatch | ⟨hmessage, hall⟩ := next_of_begun (fun _ => by simp) h
    · exact .inl hbatch
    · exact .inr ⟨thrown, List.mem_singleton.mp hmessage, rfl, hall⟩

/-- An error message carries the text of the exception that the generator ends with. -/
lemma error_message {error : String} (h : .error error ∈ run.allMessages) :
    ∃ thrown, run.ends = .threw thrown ∧ error = thrown.text "Unknown generation error" := by
  have hbatch : .error error ∉ run.batches.map PartMessage.batch := by
    intro hmem
    obtain ⟨batch, _, heq⟩ := List.mem_map.mp hmem
    cases heq
  cases hends : run.ends with
  | finished =>
    rw [allMessages_finished hends] at h
    exact absurd h hbatch
  | threw thrown =>
    rw [allMessages_threw hends] at h
    cases List.mem_singleton.mp ((List.mem_append.mp h).resolve_left hbatch)
    exact ⟨thrown, rfl, rfl⟩

/-- A noted error that is empty is the one of the generator. -/
lemma pipeline_empty {thrown : Thrown} {w' : σ} (hends : run.ends = .threw thrown)
    (h : run.pipeline w = some ("", w')) : thrown.text "Unknown generation error" = "" := by
  unfold pipeline endError at h
  cases hwritten : (run.writer.writeAll run.batches w).1 with
  | returned status =>
    cases status with
    | ok =>
      simp only [hwritten, hends] at h
      exact congrArg Prod.fst (Option.some.inj h)
    | error code message =>
      simp only [hwritten] at h
      exact absurd (congrArg Prod.fst (Option.some.inj h)) (Status.toString_ne (.error code message))
  | threw t =>
    simp only [hwritten] at h
    cases h

lemma pipeline_threw {thrown : Thrown} {w' : σ}
    (hwritten : run.writer.writeAll run.batches w = (.ok, w')) (hends : run.ends = .threw thrown) :
    run.pipeline w = some (thrown.text "Unknown generation error", w') := by
  simp only [pipeline, endError, hwritten, hends]
  rfl

lemma pipeline_finished {w' : σ} (hwritten : run.writer.writeAll run.batches w = (.ok, w'))
    (hends : run.ends = .finished) : run.pipeline w = some ("", w') := by
  simp only [pipeline, endError, hwritten, hends]
  rfl

lemma pipeline_failed {status : Status} {w' : σ} (hstatus : status ≠ .ok)
    (hwritten : run.writer.writeAll run.batches w = (.returned status, w')) :
    run.pipeline w = some (status.toString, w') := by
  cases status with
  | ok => exact absurd rfl hstatus
  | error code message => simp only [pipeline, hwritten]

lemma ProducerInv.consumer (h : run.ProducerInv s) (hproducer : t.producer = s.producer)
    (hposition : t.position = s.position)
    (hmessages : t.popped ++ t.queue.messages = s.popped ++ s.queue.messages)
    (hfailing : Failing s → Failing t) : run.ProducerInv t := by
  unfold ProducerInv at h ⊢
  rw [hproducer, hposition, hmessages]
  cases hpc : s.producer with
  | close =>
    rw [hpc] at h
    exact h.imp_left hfailing
  | ended =>
    rw [hpc] at h
    exact h.imp_left hfailing
  | _ =>
    rw [hpc] at h
    exact h

/-- A message that is popped, once the consumer is done with it. -/
lemma PipelineInv.popped (h : run.PipelineInv w errors s) {message : PartMessage β}
    {queue : ClosingFifo (PartMessage β)} {pipelineError : String} {writer : σ} {pc : OwnFilePc}
    (hpc : s.pc = .pop) (hpop : s.queue.pop = some (message, queue))
    (hnext : pc = .pop ∨ pc = .storeStop)
    (hconsumer : run.ConsumerInv w { s with
      queue := queue, popped := s.popped ++ [message], pipelineError := pipelineError,
      writer := writer, pc := pc }) :
    run.PipelineInv w errors { s with
      queue := queue, popped := s.popped ++ [message], pipelineError := pipelineError,
      writer := writer, pc := pc } := by
  obtain ⟨hqueue, hclosed⟩ := ClosingFifo.pop_some hpop
  have hmessages : s.popped ++ [message] ++ queue.messages = s.popped ++ s.queue.messages := by
    rw [hqueue, List.append_assoc, List.singleton_append]
  have hfailing : Failing s → Failing { s with
      queue := queue, popped := s.popped ++ [message], pipelineError := pipelineError,
      writer := writer, pc := pc } := by
    intro hfailing
    have hstop : s.stopRequested = true := by
      simpa [Failing, hpc] using hfailing
    exact .inl hstop
  refine ⟨hconsumer, h.producer.consumer rfl rfl hmessages hfailing, ?_, ?_, ?_, ?_, h.errors⟩
  · change s.popped ++ [message] ++ queue.messages <+: run.allMessages
    rw [hmessages]
    exact h.accepted
  · intro hclosed'
    exact (h.closed (hclosed ▸ hclosed')).imp_left hfailing
  · rintro hjoin
    obtain hsame | hstop := hnext
    · exact absurd (hsame.symm.trans hjoin) (by decide)
    · exact absurd (hstop.symm.trans hjoin) (by decide)
  · rintro hclose
    obtain hsame | hstop := hnext
    · exact absurd (hsame.symm.trans hclose) (by decide)
    · exact absurd (hstop.symm.trans hclose) (by decide)

/-- The consumer handles a message. -/
lemma PipelineInv.receive (h : run.PipelineInv w errors s) {message : PartMessage β}
    {queue : ClosingFifo (PartMessage β)} (hpc : s.pc = .pop)
    (hpop : s.queue.pop = some (message, queue)) :
    run.PipelineInv w errors (run.handleMessage
        { s with queue := queue, popped := s.popped ++ [message] } message) ∨
      (run.handleMessage { s with queue := queue, popped := s.popped ++ [message] } message).pc =
        .terminated := by
  obtain ⟨hqueue, hclosed⟩ := ClosingFifo.pop_some hpop
  have haccepted := h.accepted
  rw [hqueue] at haccepted
  by_cases hstop : s.stopRequested = true
  · have hpipeline := h.consumer.failing (.inl hstop)
    have hstill : ∀ pc, Failing { s with
        queue := queue, popped := s.popped ++ [message], pc := pc } := fun _ => .inl hstop
    cases message with
    | batch batch =>
      have hskip : run.handleMessage
          { s with queue := queue, popped := s.popped ++ [.batch batch] } (.batch batch) =
          { s with queue := queue, popped := s.popped ++ [.batch batch] } := if_pos hstop
      rw [hskip]
      exact .inl (h.popped hpc hpop (.inl hpc)
        ⟨fun _ => hpipeline, fun hn => absurd (hstill s.pc) hn⟩)
    | error error =>
      refine .inl (h.popped hpc hpop (.inr rfl) ⟨fun _ => ?_, fun hn => absurd (hstill _) hn⟩)
      by_cases hnone : s.pipelineError = ""
      · obtain ⟨thrown, hends, herror⟩ :=
          error_message (haccepted.subset (List.mem_append_right _ List.mem_cons_self))
        rw [hnone] at hpipeline
        simp only [hnone, if_true, herror, pipeline_empty hends hpipeline]
        exact hpipeline
      · simp only [if_neg hnone]
        exact hpipeline
  · have hnot : ¬ Failing s := by
      simpa [Failing, hpc] using hstop
    obtain ⟨hnone, batches, hpopped, hwritten⟩ := h.consumer.writing hnot
    rw [hpopped] at haccepted
    obtain ⟨batch, after, rfl, hall⟩ | ⟨thrown, rfl, hends, hall⟩ := next_message haccepted
    · simp only [handleMessage, if_neg hstop]
      cases hbatch : run.writer.writeBatch batch s.writer with
      | mk outcome writer =>
        cases outcome with
        | threw thrown => exact .inr rfl
        | returned status =>
          cases status with
          | ok =>
            refine .inl (h.popped hpc hpop (.inl hpc) ⟨fun hf => ?_, fun _ => ⟨hnone, ?_⟩⟩)
            · exact absurd hf (by simp [Failing, hpc, hstop])
            · refine ⟨batches ++ [batch], ?_, ?_⟩
              · rw [hpopped, List.map_append]
                rfl
              · rw [writeAll_append hwritten]
                simp only [TableWriter.writeAll, hbatch]
                rfl
          | error code message =>
            refine .inl (h.popped hpc hpop (.inr rfl) ⟨fun _ => ?_, fun hn => ?_⟩)
            · have hfailed : (run.writer.writeBatch batch s.writer).1 ≠ .ok := by
                rw [hbatch]
                exact fun heq => nomatch heq
              simp only [hnone, if_true]
              refine pipeline_failed (fun heq => nomatch heq) ?_
              rw [hall, writeAll_failed hwritten hfailed, hbatch]
            · exact absurd (.inr (.inl rfl)) hn
    · refine .inl (h.popped hpc hpop (.inr rfl) ⟨fun _ => ?_, fun hn => ?_⟩)
      · simp only [hnone, if_true]
        rw [← hall] at hwritten
        exact pipeline_threw hwritten hends
      · exact absurd (.inr (.inl rfl)) hn

/-- Where the thread has ended, the consumer has come to the result of the loop. -/
lemma PipelineInv.result (h : run.PipelineInv w errors s) (hpc : s.pc = .join)
    (hended : s.producer = .ended) : run.pipeline w = some (s.pipelineError, s.writer) := by
  by_cases hfailing : Failing s
  · exact h.consumer.failing hfailing
  · obtain ⟨hnone, batches, hpopped, hwritten⟩ := h.consumer.writing hfailing
    have hproducer := h.producer
    simp only [ProducerInv, hended] at hproducer
    have hall := hproducer.resolve_left hfailing
    rw [(h.joined hpc).1, List.append_nil, hpopped] at hall
    cases hends : run.ends with
    | finished =>
      rw [allMessages_finished hends] at hall
      have hsame : batches = run.batches :=
        List.map_injective_iff.mpr (fun _ _ heq => PartMessage.batch.inj heq) hall
      rw [hsame] at hwritten
      rw [hnone]
      exact pipeline_finished hwritten hends
    | threw thrown =>
      have hmem : .error (thrown.text "Unknown generation error") ∈
          batches.map PartMessage.batch := by
        rw [hall, allMessages_threw hends]
        exact List.mem_append_right _ List.mem_cons_self
      obtain ⟨_, _, heq⟩ := List.mem_map.mp hmem
      cases heq

/-- What a step of the consumer does inside the loop. -/
inductive LoopMoves (run : OwnFile σ β) (keep : Nat) (s : OwnFileState σ β) :
    OwnFileState σ β → Prop
  | receive (message : PartMessage β) (queue : ClosingFifo (PartMessage β)) (hpc : s.pc = .pop)
      (hpop : s.queue.pop = some (message, queue)) :
      LoopMoves run keep s (run.handleMessage
        { s with queue := queue, popped := s.popped ++ [message] } message)
  | drained (hpc : s.pc = .pop) (hpop : s.queue.pop = none) (hclosed : s.queue.closed = true) :
      LoopMoves run keep s { s with pc := .join }
  | stop (hpc : s.pc = .storeStop) :
      LoopMoves run keep s { s with stopRequested := true, pc := .close }
  | close (hpc : s.pc = .close) :
      LoopMoves run keep s { s with queue := s.queue.close keep, pc := .pop }

lemma loopMoves (hstep : run.consumerStep keep s = some t) (hstart : s.pc ≠ .start)
    (hjoin : s.pc ≠ .join) : LoopMoves run keep s t := by
  unfold consumerStep at hstep
  split at hstep
  · next hpc => exact absurd hpc hstart
  · next hpc =>
    split at hstep
    · next message queue hpop =>
      cases hstep
      exact .receive message queue hpc hpop
    · next hpop =>
      split at hstep
      · next hclosed =>
        cases hstep
        exact .drained hpc hpop hclosed
      · cases hstep
  · next hpc =>
    cases hstep
    exact .stop hpc
  · next hpc =>
    cases hstep
    exact .close hpc
  · next hpc => exact absurd hpc hjoin
  · cases hstep
  · cases hstep
  · cases hstep

lemma pipelineInv_loop (h : run.PipelineInv w errors s)
    (hdelivers : s.queue.messages.length ≤ keep) (hmoves : LoopMoves run keep s t) :
    run.PipelineInv w errors t ∨ t.pc = .terminated := by
  cases hmoves with
  | receive message queue hpc hpop => exact h.receive hpc hpop
  | drained hpc hpop hclosed =>
    have hfailing : Failing { s with pc := .join } ↔ Failing s := by
      simp [Failing, hpc]
    refine .inl ⟨⟨fun hf => h.consumer.failing (hfailing.mp hf),
        fun hn => h.consumer.writing fun hf => hn (hfailing.mpr hf)⟩,
      h.producer.consumer rfl rfl rfl hfailing.mpr, h.accepted,
      fun hc => (h.closed hc).imp_left hfailing.mpr,
      fun _ => ⟨ClosingFifo.pop_none hpop, hclosed⟩, fun hc => (nomatch hc), h.errors⟩
  | stop hpc =>
    refine .inl ⟨⟨fun _ => ?_, fun hn => absurd (.inl rfl) hn⟩, ?_, h.accepted,
      fun _ => .inl (.inl rfl), fun hj => (nomatch hj), fun _ => rfl, h.errors⟩
    · exact h.consumer.failing (.inr (.inl hpc))
    · exact h.producer.consumer rfl rfl rfl fun _ => .inl rfl
  | close hpc =>
    have hstop := h.stopped hpc
    have hkept := ClosingFifo.close_messages hdelivers
    refine .inl ⟨⟨fun _ => ?_, fun hn => absurd (.inl hstop) hn⟩, ?_, ?_,
      fun _ => .inl (.inl hstop), fun hj => (nomatch hj), fun hc => (nomatch hc), h.errors⟩
    · exact h.consumer.failing (.inr (.inr hpc))
    · refine h.producer.consumer rfl rfl ?_ fun _ => .inl hstop
      exact congrArg (s.popped ++ ·) hkept
    · exact (congrArg (s.popped ++ ·) hkept) ▸ h.accepted

/-! ## Whole runs -/

/-- What a caller sees of the end. -/
def outcome (s : OwnFileState σ β) : OwnFilePc × σ × List String := (s.pc, s.writer, s.errors)

lemma caught_outcome {partitionOpen : Bool} {thrown : Thrown}
    (hwriter : s.writer = t.writer) (herrors : s.errors = t.errors) :
    outcome (run.caught partitionOpen thrown s) = outcome (run.caught partitionOpen thrown t) := by
  unfold caught
  simp only [reportError, hwriter, herrors]
  cases partitionOpen with
  | false => simp only [Bool.false_eq_true, if_false, outcome]
  | true =>
    simp only [if_true]
    cases (run.writer.closePartition t.writer).1 with
    | threw thrown => rfl
    | returned status => cases status <;> rfl

/-- `finish` looks at the noted error, the writer and the reported errors only. -/
lemma finish_outcome (herror : s.pipelineError = t.pipelineError) (hwriter : s.writer = t.writer)
    (herrors : s.errors = t.errors) : outcome (run.finish s) =
      outcome (run.finish t) := by
  unfold finish
  simp only [reportError, herror, hwriter, herrors]
  by_cases hnone : t.pipelineError = ""
  · simp only [hnone, ne_eq, not_true, if_false]
    cases (run.writer.closePartition t.writer).1 with
    | threw thrown => exact caught_outcome rfl rfl
    | returned status => cases status <;> rfl
  · simp only [ne_eq, hnone, not_false_iff, if_true]
    cases (run.writer.closePartition t.writer).1 with
    | threw thrown => exact caught_outcome rfl rfl
    | returned status => cases status <;> rfl

def Ends (s : OwnFileState σ β) : Prop :=
  (∃ rc, s.pc = .returned rc) ∨ ∃ thrown, s.pc = .threw thrown

variable (run) in
lemma caught_ends (partitionOpen : Bool) (thrown : Thrown) (s : OwnFileState σ β) :
    Ends (run.caught partitionOpen thrown s) := by
  unfold caught
  cases partitionOpen with
  | false => exact .inl ⟨2, rfl⟩
  | true =>
    simp only [if_true]
    split
    · exact .inl ⟨2, rfl⟩
    · exact .inl ⟨2, rfl⟩
    · exact .inr ⟨_, rfl⟩

variable (run) in
lemma finish_ends (s : OwnFileState σ β) : Ends (run.finish s) := by
  simp only [finish]
  split
  · split
    · exact .inl ⟨2, rfl⟩
    · exact .inl ⟨2, rfl⟩
    · exact caught_ends _ true _ _
  · split
    · exact .inl ⟨0, rfl⟩
    · exact .inl ⟨2, rfl⟩
    · exact caught_ends _ true _ _

variable (run) in
/-- The start comes to the loop, or is the end. -/
lemma start_cases (w : σ) :
    (run.start (initial w) =
      { initial (run.start (initial w)).writer with producer := .loadStop, pc := .pop }) ∨
    Ends (run.start (initial w)) := by
  unfold start
  cases run.create with
  | missing => exact .inr (.inl ⟨2, rfl⟩)
  | threw thrown => exact .inr (caught_ends _ false thrown _)
  | ready =>
    simp only
    by_cases hwriter : run.hasWriter = true
    · rw [if_pos hwriter]
      split
      · split
        · exact .inl rfl
        · exact .inr (caught_ends _ true _ _)
      · exact .inr (.inl ⟨2, rfl⟩)
      · exact .inr (caught_ends _ false _ _)
    · rw [if_neg hwriter]
      exact .inr (.inl ⟨2, rfl⟩)

lemma pipelineInv_start {w : σ} : run.PipelineInv w []
    { initial w with producer := .loadStop, pc := .pop } := by
  have hnot : ¬ Failing ({ initial w with producer := .loadStop, pc := .pop } :
      OwnFileState σ β) := by
    simp [Failing, initial]
  exact ⟨⟨fun hf => absurd hf hnot, fun _ => ⟨rfl, [], rfl, rfl⟩⟩, rfl, List.nil_prefix,
    fun hc => (nomatch hc), fun hj => (nomatch hj), fun hc => (nomatch hc), rfl⟩

variable (run) in
/-- A run is at its start, in the loop, or has ended as the loop without the thread ends. -/
def RunInv (w : σ) (s : OwnFileState σ β) : Prop :=
  s = initial w ∨
  (run.start (initial w) =
      { initial (run.start (initial w)).writer with producer := .loadStop, pc := .pop } ∧
    run.PipelineInv (run.start (initial w)).writer [] s ∧ s.pc ≠ .start ∧ ¬ Ends s) ∨
  (Ends s ∧ ∃ t, run.sequential w = some t ∧ outcome s = outcome t) ∨
  s.pc = .terminated

variable (run) in
lemma handleMessage_pc (s : OwnFileState σ β) (message : PartMessage β) :
    (run.handleMessage s message).pc = s.pc ∨ (run.handleMessage s message).pc = .storeStop ∨
      (run.handleMessage s message).pc = .terminated := by
  cases message with
  | error error => exact .inr (.inl rfl)
  | batch batch =>
    simp only [handleMessage]
    split
    · exact .inl rfl
    · split
      · exact .inl rfl
      · exact .inr (.inl rfl)
      · exact .inr (.inr rfl)

/-- Inside the loop the consumer neither starts again nor ends. -/
lemma LoopMoves.pc (hmoves : LoopMoves run keep s t) : t.pc ≠ .start ∧ ¬ Ends t := by
  have hpc : t.pc = .pop ∨ t.pc = .storeStop ∨ t.pc = .close ∨ t.pc = .join ∨
      t.pc = .terminated := by
    cases hmoves with
    | receive message queue hpc =>
      obtain h | h | h := handleMessage_pc run
        { s with queue := queue, popped := s.popped ++ [message] } message
      · exact .inl (h.trans hpc)
      · exact .inr (.inl h)
      · exact .inr (.inr (.inr (.inr h)))
    | drained => exact .inr (.inr (.inr (.inl rfl)))
    | stop => exact .inr (.inr (.inl rfl))
    | close => exact .inl rfl
  obtain h | h | h | h | h := hpc
  all_goals
    rw [Ends, h]
    exact ⟨by decide, by simp⟩

lemma sequential_loop {result : String × σ} (hloop : (run.start (initial w)).pc = .pop)
    (hresult : run.pipeline (run.start (initial w)).writer = some result) :
    run.sequential w = some (run.finish { run.start (initial w) with
      pipelineError := result.1, writer := result.2 }) := by
  simp only [sequential, if_pos hloop, hresult, Option.map_some]

lemma runInv_consumerStep (h : run.RunInv w s) (hdelivers : s.queue.messages.length ≤ keep)
    (hstep : run.consumerStep keep s = some t) : run.RunInv w t := by
  obtain rfl | ⟨hstart, hinv, hpc, _⟩ | ⟨hends, _⟩ | hterminated := h
  · obtain rfl : run.start (initial w) = t := Option.some.inj hstep
    obtain hloop | hends := start_cases run w
    · refine .inr (.inl ⟨hloop, ?_, ?_, ?_⟩)
      · rw [hloop]
        exact pipelineInv_start
      · rw [hloop]
        exact fun h => nomatch h
      · rw [hloop]
        simp [Ends]
    · refine .inr (.inr (.inl ⟨hends, run.start (initial w), ?_, rfl⟩))
      have hnot : (run.start (initial w)).pc ≠ .pop := by
        obtain ⟨rc, h⟩ | ⟨thrown, h⟩ := hends
        · rw [h]
          exact fun h => nomatch h
        · rw [h]
          exact fun h => nomatch h
      simp only [sequential, if_neg hnot]
  · by_cases hjoin : s.pc = .join
    · simp only [consumerStep, hjoin] at hstep
      split at hstep
      · next hended =>
        cases hstep
        have hresult := hinv.result hjoin hended
        refine .inr (.inr (.inl ⟨finish_ends run s, ?_⟩))
        have hloop : (run.start (initial w)).pc = .pop := by rw [hstart]
        refine ⟨_, sequential_loop hloop hresult, finish_outcome rfl rfl ?_⟩
        rw [hstart]
        exact hinv.errors
      · cases hstep
    · have hmoves := loopMoves hstep hpc hjoin
      obtain ⟨hstart', hends⟩ := hmoves.pc
      obtain h | h := pipelineInv_loop hinv hdelivers hmoves
      · exact .inr (.inl ⟨hstart, h, hstart', hends⟩)
      · exact .inr (.inr (.inr h))
  · obtain ⟨rc, h⟩ | ⟨thrown, h⟩ := hends
    · simp only [consumerStep, h] at hstep
      cases hstep
    · simp only [consumerStep, h] at hstep
      cases hstep
  · simp only [consumerStep, hterminated] at hstep
    cases hstep

lemma producerStep_outcome (hstep : run.producerStep keep s = some t) : outcome t = outcome s := by
  cases threadMoves hstep <;> rfl

lemma runInv_step {action : OwnFileAction} (h : run.RunInv w s) (hdelivers : Delivers s action)
    (hstep : run.step s action = some t) : run.RunInv w t := by
  cases action with
  | consumer keep => exact runInv_consumerStep h hdelivers hstep
  | producer keep =>
    have houtcome := producerStep_outcome hstep
    have hpc : t.pc = s.pc := congrArg Prod.fst houtcome
    have hends : Ends t ↔ Ends s := by rw [Ends, Ends, hpc]
    obtain rfl | ⟨hstart, hinv, hnot, hloop⟩ | ⟨hended, u, hu, hsame⟩ | hterminated := h
    · cases hstep
    · exact .inr (.inl ⟨hstart, pipelineInv_producerStep hinv hdelivers hstep, hpc ▸ hnot,
        fun h => hloop (hends.mp h)⟩)
    · exact .inr (.inr (.inl ⟨hends.mpr hended, u, hu, houtcome.trans hsame⟩))
    · exact .inr (.inr (.inr (hpc.trans hterminated)))

/-- Runs whose queue delivers what it accepted end as the loop without the thread ends. -/
theorem sequential_of_exec {actions : List OwnFileAction}
    (hdelivers : Along run.step Delivers (initial w) actions)
    (hrun : exec run.step (initial w) actions = some s) (hends : Ends s) :
    ∃ t, run.sequential w = some t ∧ outcome s = outcome t := by
  have hinv : run.RunInv w s :=
    exec_invariant (fun _ _ _ h hg hs => runInv_step h hg hs) (.inl rfl) hdelivers hrun
  obtain rfl | ⟨_, _, _, hloop⟩ | ⟨_, hsame⟩ | hterminated := hinv
  · obtain ⟨rc, h⟩ | ⟨thrown, h⟩ := hends <;> cases h
  · exact absurd hends hloop
  · exact hsame
  · obtain ⟨rc, h⟩ | ⟨thrown, h⟩ := hends
    · exact absurd (h.symm.trans hterminated) (fun h => nomatch h)
    · exact absurd (h.symm.trans hterminated) (fun h => nomatch h)

end OwnFile

end Schengen.Storage
