import Schengen.Storage.OwnFileComplete
import Schengen.Storage.OwnFileWaits

/-!
# How a run on one partition ends

`GeneratePartitionToOwnFile` with a writer whose calls may also throw. Most exceptions are caught
where the thread does not run. But one of `WriteBatch` leaves the block in which the thread was
started before the thread is joined.
-/

namespace Schengen.Storage
open Library

variable {σ β : Type}

def Outcome.Throws (outcome : Outcome) : Prop := ∃ thrown, outcome = .threw thrown

/-- A writer that answers each call in any way. It records every call with its outcome. -/
def TableWriter.recording (answer : List (WriterCall β × Outcome) → WriterCall β → Outcome) :
    TableWriter (List (WriterCall β × Outcome)) β :=
  let call : WriterCall β → List (WriterCall β × Outcome) →
      Outcome × List (WriterCall β × Outcome) := fun c log => (answer log c, log ++ [(c, answer log c)])
  ⟨call .openPartition, fun batch => call (.writeBatch batch), call .closePartition⟩

/-- Where the partition was opened, the last call is a `ClosePartition` that returns: what was
thrown before it was caught. -/
def CleanedUp (log : List (WriterCall β × Outcome)) : Prop :=
  (.openPartition, .ok) ∈ log →
    ∃ before status, log = before ++ [(.closePartition, .returned status)]

namespace OwnFile

variable (run : OwnFile σ β)

/-- The function returns 0 or 2, with the thread joined and the writer cleaned up. -/
structure Handled (s : OwnFileState (List (WriterCall β × Outcome)) β) : Prop where
  alive : s.pc ≠ .terminated
  caught : ∀ thrown, s.pc ≠ .threw thrown
  code : ∀ rc, s.pc = .returned rc → rc = 0 ∨ rc = 2
  joined : ∀ rc, s.pc = .returned rc → s.producer = .notStarted ∨ s.producer = .ended
  cleaned : ∀ rc, s.pc = .returned rc → CleanedUp s.writer

/-- The step does not meet an exception of `WriteBatch`, nor one of `ClosePartition` in the `catch`
branch. -/
def Catches (s : OwnFileState σ β) : OwnFileAction → Prop
  | .producer _ => True
  | .consumer _ =>
    match s.pc with
    | .start => run.create = .ready → run.hasWriter = true →
        (run.writer.openPartition s.writer).1 = .ok → run.reset.isSome = true →
          ¬ (run.writer.closePartition (run.writer.openPartition s.writer).2).1.Throws
    | .pop => ∀ batch queue, s.queue.pop = some (.batch batch, queue) → s.stopRequested = false →
        ¬ (run.writer.writeBatch batch s.writer).1.Throws
    | .join => (run.writer.closePartition s.writer).1.Throws →
        ¬ (run.writer.closePartition (run.writer.closePartition s.writer).2).1.Throws
    | _ => True

/-- So it is in a run with its waits. -/
def CatchesWaiting (u : MonitorState (OwnFileState σ β) QueueCondition) :
    MonitorAction OwnFileAction → Prop
  | .run action => run.Catches u.base action
  | _ => True

variable {run} {w : σ} {s t : OwnFileState σ β} {keep : Nat} {message : PartMessage β}

/-! ## Exceptions -/

variable {answer : List (WriterCall β × Outcome) → WriterCall β → Outcome}
  {file : OwnFile (List (WriterCall β × Outcome)) β}
  {u v : OwnFileState (List (WriterCall β × Outcome)) β} {log : List (WriterCall β × Outcome)}

variable (log) in
lemma closePartition_recording (hwriter : file.writer = .recording answer) :
    file.writer.closePartition log =
      (answer log .closePartition, log ++ [(.closePartition, answer log .closePartition)]) := by
  rw [hwriter]
  rfl

lemma cleanedUp_concat (status : Status) :
    CleanedUp (log ++ [(.closePartition, .returned status)]) :=
  fun _ => ⟨log, status, rfl⟩

lemma Handled.running {s : OwnFileState (List (WriterCall β × Outcome)) β}
    (hends : ¬ Ends s) (halive : s.pc ≠ .terminated) : Handled s where
  alive := halive
  caught := fun thrown hpc => hends (.inr ⟨thrown, hpc⟩)
  code := fun rc hpc => absurd (.inl ⟨rc, hpc⟩) hends
  joined := fun rc hpc => absurd (.inl ⟨rc, hpc⟩) hends
  cleaned := fun rc hpc => absurd (.inl ⟨rc, hpc⟩) hends

lemma Handled.ended {rc : Int} (hpc : u.pc = .returned rc) (hcode : rc = 0 ∨ rc = 2)
    (hjoined : u.producer = .notStarted ∨ u.producer = .ended) (hcleaned : CleanedUp u.writer) :
    Handled u where
  alive := by rw [hpc]; exact fun h => by cases h
  caught := fun thrown hthrew => by rw [hpc] at hthrew; cases hthrew
  code := fun rc' h => by cases hpc.symm.trans h; exact hcode
  joined := fun _ _ => hjoined
  cleaned := fun _ _ => hcleaned

lemma returned_not_throws (status : Status) : ¬ (Outcome.returned status).Throws := by
  rintro ⟨thrown, h⟩
  cases h

/-- The cleanup of the `catch` branch is the last call, and its exception leaves the function. -/
lemma caught_open (hwriter : file.writer = .recording answer) (thrown : Thrown)
    (hjoined : u.producer = .notStarted ∨ u.producer = .ended) :
    Handled (file.caught true thrown u) ↔ ¬ (file.writer.closePartition u.writer).1.Throws := by
  have hclose := closePartition_recording u.writer hwriter
  unfold caught
  simp only [if_true, reportError, hclose]
  cases hanswer : answer u.writer .closePartition with
  | threw t =>
    simp only
    exact iff_of_false (fun h => h.caught t rfl) fun h => h ⟨t, rfl⟩
  | returned status =>
    cases status with
    | ok => exact iff_of_true (.ended rfl (.inr rfl) hjoined (cleanedUp_concat _)) (returned_not_throws _)
    | error code message =>
      exact iff_of_true (.ended rfl (.inr rfl) hjoined (cleanedUp_concat _)) (returned_not_throws _)

/-- Before the partition is open there is nothing to clean up. -/
lemma handled_unopened (hpc : u.pc = .returned 2) (hproducer : u.producer = .notStarted)
    (hunopened : (.openPartition, .ok) ∉ u.writer) : Handled u :=
  .ended hpc (.inr rfl) (.inl hproducer) fun hopen => absurd hopen hunopened

lemma start_handled_iff (hwriter : file.writer = .recording answer) :
    Handled (file.start (initial [])) ↔ file.Catches (initial []) (.consumer 0) := by
  have hopen : ∀ log, file.writer.openPartition log =
      (answer log .openPartition, log ++ [(.openPartition, answer log .openPartition)]) := by
    intro log
    rw [hwriter]
    rfl
  simp only [Catches, initial, hopen, List.nil_append]
  unfold start
  cases hcreate : file.create with
  | missing =>
    exact iff_of_true (handled_unopened rfl rfl (by simp [reportError])) (fun h => by cases h)
  | threw thrown =>
    exact iff_of_true (handled_unopened rfl rfl (by simp [caught, reportError]))
      (fun h => by cases h)
  | ready =>
    by_cases hhas : file.hasWriter = true
    · simp only [hhas, if_true, hopen, List.nil_append, true_imp_iff]
      cases hanswer : answer [] .openPartition with
      | threw thrown =>
        refine iff_of_true (handled_unopened rfl rfl ?_) fun h => by cases h
        simp [caught, reportError, Outcome.ok]
      | returned status =>
        cases status with
        | error code message =>
          refine iff_of_true (handled_unopened rfl rfl ?_) fun h => by cases h
          simp [reportError, Outcome.ok]
        | ok =>
          cases hreset : file.reset with
          | none => exact iff_of_true (.running (by simp [Ends]) (by simp)) (fun _ h => by cases h)
          | some thrown =>
            simp only [Option.isSome_some, Outcome.ok, true_imp_iff]
            exact caught_open hwriter thrown (.inl rfl)
    · simp only [hhas]
      refine iff_of_true (handled_unopened rfl rfl ?_) fun _ h => by cases h
      simp [reportError]

lemma finish_handled_iff (hwriter : file.writer = .recording answer) (hpc : u.pc = .join)
    (hended : u.producer = .ended) (keep : Nat) :
    Handled (file.finish u) ↔ file.Catches u (.consumer keep) := by
  have hclose := closePartition_recording u.writer hwriter
  simp only [Catches, hpc, hclose]
  cases hanswer : answer u.writer .closePartition with
  | returned status =>
    refine iff_of_true ?_ fun h => absurd h (returned_not_throws _)
    have hcleaned : CleanedUp (u.writer ++ [(.closePartition, .returned status)]) :=
      cleanedUp_concat status
    by_cases hnone : u.pipelineError = ""
    · simp only [finish, hnone, ne_eq, not_true, if_false, hclose, hanswer]
      cases status with
      | ok => exact .ended rfl (.inl rfl) (.inr hended) hcleaned
      | error code message => exact .ended rfl (.inr rfl) (.inr hended) hcleaned
    · simp only [finish, ne_eq, hnone, not_false_iff, if_true, reportError, hclose, hanswer]
      cases status with
      | ok => exact .ended rfl (.inr rfl) (.inr hended) hcleaned
      | error code message => exact .ended rfl (.inr rfl) (.inr hended) hcleaned
  | threw thrown =>
    have hthrows : (Outcome.threw thrown).Throws := ⟨thrown, rfl⟩
    rw [imp_iff_right hthrows]
    by_cases hnone : u.pipelineError = ""
    · simp only [finish, hnone, ne_eq, not_true, if_false, hclose, hanswer]
      exact caught_open hwriter thrown (.inr hended)
    · simp only [finish, ne_eq, hnone, not_false_iff, if_true, reportError, hclose, hanswer]
      exact caught_open hwriter thrown (.inr hended)

lemma receive_handled_iff {message : PartMessage β} {queue : ClosingFifo (PartMessage β)}
    (hpc : u.pc = .pop) (hpop : u.queue.pop = some (message, queue)) (keep : Nat) :
    Handled (file.handleMessage { u with queue := queue, popped := u.popped ++ [message] } message) ↔
      file.Catches u (.consumer keep) := by
  simp only [Catches, hpc, hpop]
  cases message with
  | error error =>
    exact iff_of_true (.running (by simp [Ends, handleMessage, fail]) (by simp [handleMessage, fail]))
      fun batch queue h => by cases h
  | batch batch =>
    simp only [handleMessage]
    by_cases hstop : u.stopRequested = true
    · rw [if_pos hstop]
      refine iff_of_true (.running (by simp [Ends]) (by simp)) fun _ _ _ hrunning => ?_
      rw [hstop] at hrunning
      cases hrunning
    · have hcatches : (∀ b q, some (PartMessage.batch batch, queue) = some (.batch b, q) →
          u.stopRequested = false → ¬ (file.writer.writeBatch b u.writer).1.Throws) ↔
          ¬ (file.writer.writeBatch batch u.writer).1.Throws := by
        refine ⟨fun h => h batch queue rfl (by simpa using hstop), fun h b q heq _ => ?_⟩
        cases heq
        exact h
      rw [if_neg hstop, hcatches]
      cases (file.writer.writeBatch batch u.writer).1 with
      | threw thrown => exact iff_of_false (fun h => h.alive rfl) fun h => h ⟨thrown, rfl⟩
      | returned status =>
        cases status with
        | ok => exact iff_of_true (.running (by simp [Ends]) (by simp)) (returned_not_throws _)
        | error code text =>
          exact iff_of_true (.running (by simp [Ends, fail]) (by simp [fail]))
            (returned_not_throws _)

/-- A step keeps the promise exactly if it does not meet such an exception. -/
lemma step_handled_iff {action : OwnFileAction} (hwriter : file.writer = .recording answer)
    (hthread : ThreadInv [] u) (h : Handled u) (hstep : file.step u action = some v) :
    Handled v ↔ file.Catches u action := by
  cases action with
  | producer keep =>
    obtain ⟨hpc, hstarted, hrunning, -⟩ := producerStep_runs hstep
    have hends : ¬ Ends u := fun hover => absurd (hthread.joined hover) (by simp [hstarted, hrunning])
    have hopen : ¬ Ends v := by rwa [Ends, hpc]
    exact iff_of_true (.running hopen (by rw [hpc]; exact h.alive)) trivial
  | consumer keep =>
    have hstep : file.consumerStep keep u = some v := hstep
    by_cases hstart : u.pc = .start
    · obtain rfl := hthread.fresh hstart
      obtain rfl : file.start (initial []) = v := Option.some.inj hstep
      exact start_handled_iff hwriter
    by_cases hjoin : u.pc = .join
    · simp only [consumerStep, hjoin] at hstep
      split at hstep
      · next hended =>
        cases hstep
        exact finish_handled_iff hwriter hjoin hended keep
      · cases hstep
    cases loopMoves hstep hstart hjoin with
    | receive message queue hpc hpop => exact receive_handled_iff hpc hpop keep
    | drained hpc hpop hclosed =>
      refine iff_of_true (.running (by simp [Ends]) (by simp)) ?_
      simp only [Catches, hpc, hpop]
      exact fun _ _ h => by cases h
    | stop hpc => exact iff_of_true (.running (by simp [Ends]) (by simp)) (by simp [Catches, hpc])
    | close hpc => exact iff_of_true (.running (by simp [Ends]) (by simp)) (by simp [Catches, hpc])

/-- A wait changes nothing that the promise speaks of. -/
lemma waitStep_handled_iff
    {p q : MonitorState (OwnFileState (List (WriterCall β × Outcome)) β) QueueCondition}
    {action : MonitorAction OwnFileAction} (hwriter : file.writer = .recording answer)
    (hthread : ThreadInv [] p.base) (h : Handled p.base)
    (hstep : file.monitor.waitStep p action = some q) :
    Handled q.base ↔ file.CatchesWaiting p action := by
  cases action with
  | run action =>
    obtain ⟨-, -, -, next, hnext, rfl⟩ := Monitor.run_some hstep
    exact step_handled_iff hwriter hthread h hnext
  | test k | block k | notify k woken =>
    obtain hbase | ⟨action, hrun, -⟩ := Monitor.waitStep_base hstep
    · rw [hbase]
      exact iff_of_true h trivial
    · cases hrun

/-- A run ends as promised as long as no `WriteBatch` throws and no `ClosePartition` in the `catch`
branch does. Every run comes to an end, and it stands still before only where a thread blocked
behind its predicate. -/
theorem handled_iff (hwriter : file.writer = .recording answer)
    {actions : List (MonitorAction OwnFileAction)}
    {p : MonitorState (OwnFileState (List (WriterCall β × Outcome)) β) QueueCondition}
    (hrun : exec file.monitor.waitStep (.initial (initial [])) actions = some p) :
    ((∀ taken rest q, actions = taken ++ rest →
        exec file.monitor.waitStep (.initial (initial [])) taken = some q → Handled q.base) ↔
      Along file.monitor.waitStep file.CatchesWaiting (.initial (initial [])) actions) ∧
      actions.length ≤ 11 * (5 * file.batches.length + 12) + 4 ∧
      (Along file.monitor.waitStep file.monitor.BlocksUnready (.initial (initial [])) actions →
        file.monitor.Stuck p → Ends p.base ∨ p.base.pc = .terminated) := by
  have hinitial : Handled (initial [] : OwnFileState (List (WriterCall β × Outcome)) β) :=
    .running (by simp [Ends, initial]) (by simp [initial])
  refine ⟨?_, waits_length_le hrun, fun hguard hstuck => over_of_stuck hguard hrun hstuck⟩
  refine along_iff_invariant (I := fun p : MonitorState _ _ => ThreadInv [] p.base ∧ Handled p.base)
    (fun p => And.right) ?_ ?_ ⟨threadInv_initial, hinitial⟩ hrun
  · rintro p action q ⟨hthread, h⟩ hcatches hstep
    exact ⟨Monitor.base_invariant (fun _ _ _ => threadInv_step) hthread hstep,
      (waitStep_handled_iff hwriter hthread h hstep).mpr hcatches⟩
  · rintro p action q ⟨hthread, h⟩ hcatches hstep hnext
    exact hcatches ((waitStep_handled_iff hwriter hthread h hstep).mp hnext)

/-! ### A `WriteBatch` that throws, and three batches and a lost wake-up -/

def answersBut (bad : List Nat) (_ : List (WriterCall Nat × Outcome)) (c : WriterCall Nat) :
    Outcome :=
  if c ∈ bad.map WriterCall.writeBatch then .threw (.exception "bad_alloc") else .ok

def orders (bad batches : List Nat) : OwnFile (List (WriterCall Nat × Outcome)) Nat where
  tableName := "orders"
  formatName := "parquet"
  part := 1
  partCount := 1
  create := .ready
  hasWriter := true
  writer := .recording (answersBut bad)
  reset := none
  batches := batches
  ends := .finished

def throwingBatch : OwnFile (List (WriterCall Nat × Outcome)) Nat := orders [10] [10]

def threeBatches : OwnFile (List (WriterCall Nat × Outcome)) Nat := orders [] [10, 20, 30]

/-- The batch is pushed and popped while the thread goes on. -/
def popWhileRunning : List (MonitorAction OwnFileAction) :=
  [.run (.consumer 9), .run (.producer 9), .run (.producer 9), .notify producerThread 0,
    .run (.consumer 9)]

/-- The thread finds the queue full; before it blocks, the calling thread pops both batches. -/
def blockBehind : List (MonitorAction OwnFileAction) :=
  [.run (.consumer 9), .run (.producer 9), .run (.producer 9), .notify producerThread 0,
    .run (.producer 9), .run (.producer 9), .notify producerThread 0, .run (.producer 9),
    .test producerThread, .run (.consumer 9), .notify consumerThread 0, .run (.consumer 9),
    .notify consumerThread 0, .test consumerThread, .block consumerThread, .block producerThread]

lemma throwingBatch_exec : ∃ s,
    exec throwingBatch.monitor.waitStep (.initial (initial [])) popWhileRunning = some s ∧
      s.base.pc = .terminated ∧ s.base.producer = .loadStop ∧
        s.base.writer.map Prod.fst = [.openPartition, .writeBatch 10] := by
  have hexec : (exec throwingBatch.monitor.waitStep (.initial (initial [])) popWhileRunning).map
      (fun s => (s.base.pc, s.base.producer, s.base.writer.map Prod.fst)) =
        some (.terminated, .loadStop, [.openPartition, .writeBatch 10]) := by decide
  obtain ⟨s, hs, hended⟩ := Option.map_eq_some_iff.mp hexec
  exact ⟨s, hs, congrArg Prod.fst hended, congrArg (fun o => o.2.1) hended,
    congrArg (fun o => o.2.2) hended⟩

lemma threeBatches_exec : ∃ s,
    exec threeBatches.monitor.waitStep (.initial (initial [])) blockBehind = some s ∧
      s.base.pc = .pop ∧ ∀ k < 2, s.status k = .blocked ∧ s.pending k = [] := by
  have hexec : (exec threeBatches.monitor.waitStep (.initial (initial [])) blockBehind).map
      (fun s => (s.base.pc, (List.range 2).map s.status,
        (List.range 2).map fun k => (s.pending k).isEmpty)) =
          some (.pop, [.blocked, .blocked], [true, true]) := by decide
  obtain ⟨s, hs, hended⟩ := Option.map_eq_some_iff.mp hexec
  obtain ⟨hpc, hstatus, hpending⟩ : s.base.pc = .pop ∧
      (List.range 2).map s.status = [.blocked, .blocked] ∧
        ((List.range 2).map fun k => (s.pending k).isEmpty) = [true, true] := by
    simpa only [Prod.mk.injEq] using hended
  refine ⟨s, hs, hpc, fun k hk => ?_⟩
  simp only [List.range_succ, List.range_zero, List.nil_append, List.cons_append, List.map_cons,
    List.map_nil, List.cons.injEq, List.isEmpty_iff, and_true] at hstatus hpending
  obtain rfl | rfl : k = 0 ∨ k = 1 := by omega
  · exact ⟨hstatus.1, hpending.1⟩
  · exact ⟨hstatus.2, hpending.2⟩

theorem handled_iff_throwingBatch : ∃ s,
    exec throwingBatch.monitor.waitStep (.initial (initial [])) popWhileRunning = some s ∧
      ((∀ taken rest t, popWhileRunning = taken ++ rest →
          exec throwingBatch.monitor.waitStep (.initial (initial [])) taken = some t →
            Handled t.base) ↔
        Along throwingBatch.monitor.waitStep throwingBatch.CatchesWaiting (.initial (initial []))
          popWhileRunning) ∧
      (Along throwingBatch.monitor.waitStep throwingBatch.monitor.BlocksUnready
          (.initial (initial [])) popWhileRunning →
        throwingBatch.monitor.Stuck s → Ends s.base ∨ s.base.pc = .terminated) := by
  have hwriter : throwingBatch.writer = .recording (answersBut [10]) := rfl
  obtain ⟨s, hs, -⟩ := throwingBatch_exec
  have h := handled_iff hwriter hs
  exact ⟨s, hs, h.1, h.2.2⟩

/-- In one run the program is terminated while the thread runs, and the partition is not closed; in
another no call throws, and both threads are blocked for ever before the last batch is pushed. -/
theorem throwingBatch_terminates :
    (∃ s, Reachable throwingBatch.monitor.waitStep (.initial (initial [])) s ∧
      s.base.pc = .terminated ∧ s.base.producer ≠ .ended ∧
        .closePartition ∉ s.base.writer.map Prod.fst) ∧
    ∃ s, Reachable threeBatches.monitor.waitStep (.initial (initial [])) s ∧
      threeBatches.monitor.Stuck s ∧ ¬ Ends s.base ∧ s.base.pc ≠ .terminated := by
  obtain ⟨s, hs, hpc, hproducer, hcalls⟩ := throwingBatch_exec
  obtain ⟨p, hp, hpop, hblocked⟩ := threeBatches_exec
  refine ⟨⟨s, ⟨_, hs⟩, hpc, ?_, ?_⟩, p, ⟨_, hp⟩, Monitor.stuck_of_blocked hblocked, ?_, ?_⟩
  · rw [hproducer]
    decide
  · rw [hcalls]
    decide
  · simp [Ends, hpop]
  · simp [hpop]

end OwnFile

end Schengen.Storage
