import Schengen.Storage.EncodeWorkers
import Schengen.Storage.OwnFileRuns

/-!
# One partition encoded in memory

`GeneratePartitionToInMemory`: the loop and the thread are those of `GeneratePartitionToOwnFile`,
but the batches go to a Parquet file in memory, which gets its row group with the first of them.
The Parquet library is any one with the four calls made here. However the threads interleave, the
buffer that is returned is what the calls of the plain loop leave.
-/

namespace Schengen.Storage
open Library

variable {σ β : Type}

/-- `parquet::arrow::FileWriter`, and `finish` of the stream below it. -/
structure ParquetFileWriter (σ β : Type) where
  newBufferedRowGroup : σ → Outcome × σ
  writeRecordBatch : β → σ → Outcome × σ
  close : σ → Outcome × σ
  finish : σ → Outcome × List UInt8

/-- The parameters of a run. `createStream` and `openWriter` are the ends of
`BufferOutputStream::Create` and `FileWriter::Open`, and `opened` is the writer as it was opened. -/
structure InMemoryPartition (σ β : Type) where
  tableName : String
  createStream : Outcome
  openWriter : Outcome
  opened : σ
  create : GeneratorStart
  reset : Option Thrown
  batches : List β
  ends : GeneratorEnd
  writer : ParquetFileWriter σ β

inductive InMemoryPc
  | start
  | loop
  | returned (outcome : EncodeOutcome)
  deriving DecidableEq

/-- The writer of the loop is the file with `row_group_open`. -/
structure InMemoryState (σ β : Type) where
  pc : InMemoryPc
  loop : OwnFileState (σ × Bool) β

/-- `arrow::Status::ExecutionError` -/
def executionError (message : String) : Status := .error "ExecutionError in Gandiva" message

namespace InMemoryPartition

variable (run : InMemoryPartition σ β)

/-- The writing of a batch, the first of them in a row group of its own. -/
def writeBatch (batch : β) (file : σ × Bool) : Outcome × (σ × Bool) :=
  if file.2 then
    let written := run.writer.writeRecordBatch batch file.1
    (written.1, (written.2, true))
  else
    let group := run.writer.newBufferedRowGroup file.1
    match group.1 with
    | .returned .ok =>
      let written := run.writer.writeRecordBatch batch group.2
      (written.1, (written.2, true))
    | outcome => (outcome, (group.2, false))

/-- The loop and the thread, which look at the batches, the end and the writing of a batch only. -/
def pipeline : OwnFile (σ × Bool) β where
  tableName := run.tableName
  formatName := "parquet"
  part := 1
  partCount := 1
  create := .ready
  hasWriter := true
  writer := ⟨fun file => (.ok, file), run.writeBatch, fun file => (.ok, file)⟩
  reset := none
  batches := run.batches
  ends := run.ends

def initial : InMemoryState σ β := ⟨.start, OwnFile.initial (run.opened, false)⟩

/-- `RETURN_NOT_OK(called)` -/
def checked (called : Outcome) (next : Option EncodeOutcome) : Option EncodeOutcome :=
  match called with
  | .returned .ok => next
  | .returned status => some (.error status.toString)
  | .threw _ => some .threw

/-- Up to the start of the thread; `none` where it is started. -/
def start : Option EncodeOutcome :=
  checked run.createStream
    (checked run.openWriter
      (match run.create with
      | .missing =>
        some (.error (executionError
          ("Failed to create generator for table: " ++ run.tableName)).toString)
      | .threw _ => some .threw
      | .ready => run.reset.map fun _ => .threw))

/-- What follows `producer_thread.join()`. -/
def finish (pipelineError : String) (file : σ) : EncodeOutcome :=
  if pipelineError ≠ "" then .error (executionError pipelineError).toString
  else
    let closed := run.writer.close file
    match closed.1 with
    | .returned .ok =>
      let finished := run.writer.finish closed.2
      match finished.1 with
      | .returned .ok => .buffer finished.2
      | .returned status => .error status.toString
      | .threw _ => .threw
    | .returned status => .error status.toString
    | .threw _ => .threw

def step (s : InMemoryState σ β) (action : OwnFileAction) : Option (InMemoryState σ β) :=
  match s.pc, action with
  | .start, .consumer _ =>
    match run.start with
    | some outcome => some { s with pc := .returned outcome }
    | none => some ⟨.loop, { s.loop with producer := .loadStop, pc := .pop }⟩
  | .loop, .producer keep => (run.pipeline.producerStep keep s.loop).map fun loop => ⟨.loop, loop⟩
  | .loop, .consumer keep =>
    if s.loop.pc = .join then
      if s.loop.producer = .ended then
        some { s with pc := .returned (run.finish s.loop.pipelineError s.loop.writer.1) }
      else none
    else (run.pipeline.consumerStep keep s.loop).map fun loop => ⟨.loop, loop⟩
  | _, _ => none

/-- Closing the queue discards nothing. -/
def Delivers (s : InMemoryState σ β) (action : OwnFileAction) : Prop :=
  OwnFile.Delivers s.loop action

instance (s : InMemoryState σ β) (action : OwnFileAction) : Decidable (Delivers s action) :=
  inferInstanceAs (Decidable (OwnFile.Delivers s.loop action))

/-! ## Without the thread -/

/-- The file with its row group open. -/
def rowGroupWriter : TableWriter σ β :=
  ⟨fun file => (.ok, file), run.writer.writeRecordBatch, run.writer.close⟩

/-- The calls of the plain loop on the batches: one row group, if there is a batch. -/
def encodeBatches : Outcome × σ :=
  match run.batches with
  | [] => (.ok, run.opened)
  | batch :: batches =>
    let group := run.writer.newBufferedRowGroup run.opened
    if group.1 = .ok then run.rowGroupWriter.writeAll (batch :: batches) group.2 else group

/-- The generator comes to its end, and the file takes every batch and is closed. -/
structure Encodes (bytes : List UInt8) : Prop where
  started : run.start = none
  ends : run.pipeline.endError = ""
  written : run.encodeBatches.1 = .ok
  closed : (run.writer.close run.encodeBatches.2).1 = .ok
  finished : run.writer.finish (run.writer.close run.encodeBatches.2).2 = (.ok, bytes)

/-- The result of the function as one loop, if no call on the file throws in the loop. -/
def sequential : Option EncodeOutcome :=
  match run.start with
  | some outcome => some outcome
  | none => (run.pipeline.pipeline (run.opened, false)).map fun result =>
      run.finish result.1 result.2.1

variable {run} {s t : InMemoryState σ β} {bytes : List UInt8}

/-- The writing of a batch in an open row group. -/
lemma writeBatch_open (batch : β) (file : σ) :
    run.pipeline.writer.writeBatch batch (file, true) =
      ((run.rowGroupWriter.writeBatch batch file).1,
        ((run.rowGroupWriter.writeBatch batch file).2, true)) := rfl

/-- The first batch is written like the others, in the row group opened for it. -/
lemma writeBatch_first (batch : β) (file : σ) :
    run.pipeline.writer.writeBatch batch (file, false) =
      if (run.writer.newBufferedRowGroup file).1 = .ok then
        run.pipeline.writer.writeBatch batch ((run.writer.newBufferedRowGroup file).2, true)
      else ((run.writer.newBufferedRowGroup file).1,
        ((run.writer.newBufferedRowGroup file).2, false)) := by
  cases hgroup : run.writer.newBufferedRowGroup file with
  | mk outcome group =>
    cases outcome with
    | threw thrown => simp [pipeline, writeBatch, hgroup, Outcome.ok]
    | returned status => cases status <;> simp [pipeline, writeBatch, hgroup, Outcome.ok]

variable (run) in
lemma writeAll_open (batches : List β) (file : σ) :
    run.pipeline.writer.writeAll batches (file, true) =
      ((run.rowGroupWriter.writeAll batches file).1,
        ((run.rowGroupWriter.writeAll batches file).2, true)) := by
  induction batches generalizing file with
  | nil => rfl
  | cons batch batches ih =>
    simp only [TableWriter.writeAll, writeBatch_open]
    by_cases hok : (run.rowGroupWriter.writeBatch batch file).1 = .ok
    · simp only [if_pos hok, ih]
    · simp only [if_neg hok]
      exact if_neg hok

variable (run) in
/-- The loop makes the calls of the plain one. -/
lemma writeAll_pipeline :
    (run.pipeline.writer.writeAll run.batches (run.opened, false)).1 = run.encodeBatches.1 ∧
      (run.pipeline.writer.writeAll run.batches (run.opened, false)).2.1 = run.encodeBatches.2 := by
  unfold encodeBatches
  cases run.batches with
  | nil => exact ⟨rfl, rfl⟩
  | cons batch batches =>
    have hopen := run.writeAll_open (batch :: batches)
      (run.writer.newBufferedRowGroup run.opened).2
    by_cases hgroup : (run.writer.newBufferedRowGroup run.opened).1 = .ok
    · have hfirst : run.pipeline.writer.writeAll (batch :: batches) (run.opened, false) =
          run.pipeline.writer.writeAll (batch :: batches)
            ((run.writer.newBufferedRowGroup run.opened).2, true) := by
        simp only [TableWriter.writeAll, writeBatch_first, if_pos hgroup]
      simp only [hfirst, hopen, if_pos hgroup, and_self]
    · simp only [TableWriter.writeAll, writeBatch_first, if_neg hgroup, and_self]

/-- What the loop leaves in `pipeline_error` and the file, where it comes to its end. -/
lemma pipeline_cases {result : String × (σ × Bool)}
    (h : run.pipeline.pipeline (run.opened, false) = some result) :
    result.2.1 = run.encodeBatches.2 ∧
      (result.1 = "" ↔ run.pipeline.endError = "" ∧ run.encodeBatches.1 = .ok) := by
  obtain ⟨hcalls, hfile⟩ := run.writeAll_pipeline
  unfold OwnFile.pipeline at h
  rw [← hcalls, ← hfile]
  change (match (run.pipeline.writer.writeAll run.batches (run.opened, false)).1 with
    | .returned .ok => some (run.pipeline.endError, _)
    | .returned status => some (status.toString, _)
    | .threw _ => none) = some result at h
  cases hwritten : (run.pipeline.writer.writeAll run.batches (run.opened, false)).1 with
  | threw thrown => simp [hwritten] at h
  | returned status =>
    cases status with
    | ok =>
      simp only [hwritten, Option.some.injEq] at h
      subst h
      exact ⟨rfl, by simp [Outcome.ok]⟩
    | error code message =>
      simp only [hwritten, Option.some.injEq] at h
      subst h
      exact ⟨rfl, by simp [Outcome.ok, Status.toString_ne]⟩

/-- Only the last calls give a buffer. -/
lemma finish_buffer_iff {pipelineError : String} {file : σ} :
    run.finish pipelineError file = .buffer bytes ↔
      pipelineError = "" ∧ (run.writer.close file).1 = .ok ∧
        run.writer.finish (run.writer.close file).2 = (.ok, bytes) := by
  unfold finish
  by_cases hnone : pipelineError = ""
  · simp only [hnone, ne_eq, not_true, if_false, true_and]
    cases hclosed : (run.writer.close file).1 with
    | threw thrown => simp [Outcome.ok]
    | returned status =>
      cases status with
      | error code message => simp [Outcome.ok]
      | ok =>
        cases hfinished : run.writer.finish (run.writer.close file).2 with
        | mk outcome contents =>
          cases outcome with
          | threw thrown => simp [Outcome.ok]
          | returned status => cases status <;> simp [Outcome.ok]
  · simp [hnone]

lemma checked_ne_buffer {called : Outcome} {next : Option EncodeOutcome}
    (h : next ≠ some (.buffer bytes)) : checked called next ≠ some (.buffer bytes) := by
  cases called with
  | threw thrown => simp [checked]
  | returned status => cases status <;> simp [checked, h]

lemma start_ne_buffer : run.start ≠ some (.buffer bytes) := by
  refine checked_ne_buffer (checked_ne_buffer ?_)
  cases run.create with
  | ready => simp
  | _ => simp

lemma sequential_buffer_iff (hended : run.sequential ≠ none) :
    run.sequential = some (.buffer bytes) ↔ run.Encodes bytes := by
  unfold sequential at hended ⊢
  cases hstart : run.start with
  | some outcome =>
    have hne : run.start ≠ some (.buffer bytes) := start_ne_buffer
    rw [hstart] at hne
    refine iff_of_false hne fun h => ?_
    rw [h.started] at hstart
    cases hstart
  | none =>
    simp only [hstart, ne_eq, Option.map_eq_none_iff] at hended ⊢
    obtain ⟨result, hresult⟩ := Option.ne_none_iff_exists'.mp hended
    obtain ⟨hfile, herror⟩ := pipeline_cases hresult
    simp only [hresult, Option.map_some, Option.some.injEq, finish_buffer_iff, hfile, herror]
    exact ⟨fun ⟨⟨hends, hwritten⟩, hclosed, hbytes⟩ => ⟨hstart, hends, hwritten, hclosed, hbytes⟩,
      fun h => ⟨⟨h.ends, h.written⟩, h.closed, h.finished⟩⟩

/-! ## Whole runs -/

/-- The call is at its start, in the loop, or has ended as the plain loop ends. -/
def RunInv (run : InMemoryPartition σ β) (s : InMemoryState σ β) : Prop :=
  match s.pc with
  | .start => s = run.initial
  | .loop => run.start = none ∧
      (run.pipeline.PipelineInv (run.opened, false) [] s.loop ∧ s.loop.pc ≠ .start ∨
        s.loop.pc = .terminated)
  | .returned outcome => run.sequential = some outcome

lemma runInv_loop {keep : Nat} {loop : OwnFileState (σ × Bool) β} (h : run.RunInv s)
    (hpc : s.pc = .loop) (hdelivers : s.loop.queue.messages.length ≤ keep)
    (hjoin : s.loop.pc ≠ .join) (hstep : run.pipeline.consumerStep keep s.loop = some loop) :
    run.RunInv ⟨.loop, loop⟩ := by
  simp only [RunInv, hpc] at h
  obtain ⟨hstart, ⟨hinv, hnot⟩ | hterminated⟩ := h
  · have hmoves := OwnFile.loopMoves hstep hnot hjoin
    refine ⟨hstart, ?_⟩
    obtain hnext | hterminated := OwnFile.pipelineInv_loop hinv hdelivers hmoves
    · exact .inl ⟨hnext, hmoves.pc.1⟩
    · exact .inr hterminated
  · simp [OwnFile.consumerStep, hterminated] at hstep

lemma runInv_step {action : OwnFileAction} (h : run.RunInv s) (hdelivers : Delivers s action)
    (hstep : run.step s action = some t) : run.RunInv t := by
  cases hpc : s.pc with
  | returned outcome => cases action <;> simp [step, hpc] at hstep
  | start =>
    cases action with
    | producer keep => simp [step, hpc] at hstep
    | consumer keep =>
      simp only [RunInv, hpc] at h
      subst h
      cases hstart : run.start with
      | some outcome =>
        simp only [step, hpc, hstart, Option.some.injEq] at hstep
        subst hstep
        change run.sequential = some outcome
        simp only [sequential, hstart]
      | none =>
        simp only [step, hpc, hstart, Option.some.injEq] at hstep
        subst hstep
        exact ⟨hstart, .inl ⟨OwnFile.pipelineInv_start, fun h => by cases h⟩⟩
  | loop =>
    cases action with
    | producer keep =>
      simp only [step, hpc, Option.map_eq_some_iff] at hstep
      obtain ⟨loop, hloop, rfl⟩ := hstep
      have hsame : loop.pc = s.loop.pc :=
        congrArg Prod.fst (OwnFile.producerStep_outcome hloop)
      simp only [RunInv, hpc] at h
      obtain ⟨hstart, ⟨hinv, hnot⟩ | hterminated⟩ := h
      · exact ⟨hstart, .inl
          ⟨OwnFile.pipelineInv_producerStep hinv hdelivers hloop, by rw [hsame]; exact hnot⟩⟩
      · exact ⟨hstart, .inr (hsame.trans hterminated)⟩
    | consumer keep =>
      simp only [step, hpc] at hstep
      by_cases hjoin : s.loop.pc = .join
      · rw [if_pos hjoin] at hstep
        split at hstep
        · next hended =>
          cases hstep
          simp only [RunInv, hpc, hjoin] at h
          obtain ⟨hstart, ⟨hinv, -⟩ | hterminated⟩ := h
          · change run.sequential = _
            simp only [sequential, hstart, hinv.result hjoin hended, Option.map_some]
          · cases hterminated
        · cases hstep
      · rw [if_neg hjoin, Option.map_eq_some_iff] at hstep
        obtain ⟨loop, hloop, rfl⟩ := hstep
        exact runInv_loop h hpc hdelivers hjoin hloop

lemma sequential_of_exec {actions : List OwnFileAction} {outcome : EncodeOutcome}
    (hdelivers : Along run.step Delivers run.initial actions)
    (hrun : exec run.step run.initial actions = some s) (hreturned : s.pc = .returned outcome) :
    run.sequential = some outcome := by
  have hinitial : run.RunInv run.initial := rfl
  have hinv : run.RunInv s :=
    exec_invariant (fun _ _ _ h hg hs => runInv_step h hg hs) hinitial hdelivers hrun
  simpa only [RunInv, hreturned] using hinv

/-- A call returns a buffer exactly where the plain loop does, and then this buffer. -/
theorem returns_buffer_iff (run : InMemoryPartition σ β) {actions : List OwnFileAction}
    {s : InMemoryState σ β} {outcome : EncodeOutcome}
    (hdelivers : Along run.step Delivers run.initial actions)
    (hrun : exec run.step run.initial actions = some s) (hreturned : s.pc = .returned outcome)
    (bytes : List UInt8) : outcome = .buffer bytes ↔ run.Encodes bytes := by
  have hsequential := sequential_of_exec hdelivers hrun hreturned
  rw [← sequential_buffer_iff (by rw [hsequential]; exact Option.some_ne_none _), hsequential,
    Option.some.injEq]

lemma finish_error_ne {pipelineError message : String} {file : σ}
    (h : run.finish pipelineError file = .error message) : message ≠ "" := by
  unfold finish at h
  by_cases hnone : pipelineError = ""
  · rw [if_neg (not_not.mpr hnone)] at h
    simp only at h
    split at h
    · split at h
      · cases h
      · cases h
        exact Status.toString_ne _
      · cases h
    · cases h
      exact Status.toString_ne _
    · cases h
  · rw [if_pos hnone] at h
    cases h
    exact Status.toString_ne _

lemma checked_error_ne {called : Outcome} {next : Option EncodeOutcome} {message : String}
    (hnext : next = some (.error message) → message ≠ "")
    (h : checked called next = some (.error message)) : message ≠ "" := by
  unfold checked at h
  split at h
  · exact hnext h
  · cases h
    exact Status.toString_ne _
  · cases h

lemma start_error_ne {message : String} (h : run.start = some (.error message)) : message ≠ "" := by
  refine checked_error_ne (checked_error_ne fun hcreate => ?_) h
  cases hmissing : run.create with
  | missing =>
    rw [hmissing] at hcreate
    cases hcreate
    exact Status.toString_ne _
  | threw thrown =>
    rw [hmissing] at hcreate
    cases hcreate
  | ready =>
    rw [hmissing] at hcreate
    simp at hcreate

/-- A status that is not OK has a text. -/
lemma sequential_error_ne {message : String} (h : run.sequential = some (.error message)) :
    message ≠ "" := by
  unfold sequential at h
  split at h
  · next hstart =>
    rw [h] at hstart
    exact start_error_ne hstart
  · obtain ⟨result, -, hfinish⟩ := Option.map_eq_some_iff.mp h
    exact finish_error_ne hfinish

/-- A file of the calls: a row group is 71, the end is 69. -/
def twoBatches : InMemoryPartition (List UInt8) UInt8 where
  tableName := "nation"
  createStream := .ok
  openWriter := .ok
  opened := []
  create := .ready
  reset := none
  batches := [12, 13]
  ends := .finished
  writer :=
    { newBufferedRowGroup := fun file => (.ok, file ++ [71])
      writeRecordBatch := fun batch file => (.ok, file ++ [batch])
      close := fun file => (.ok, file ++ [69])
      finish := fun file => (.ok, file) }

theorem returns_buffer_iff_twoBatches :
    ∃ s, exec twoBatches.step twoBatches.initial (.consumer 9 :: List.replicate 7 (.producer 9) ++
        List.replicate 4 (.consumer 9)) = some s ∧
      s.pc = .returned (.buffer [71, 12, 13, 69]) ∧
      (EncodeOutcome.buffer [71, 12, 13, 69] = .buffer [71, 12, 13, 69] ↔
        twoBatches.Encodes [71, 12, 13, 69]) := by
  have hends : (exec twoBatches.step twoBatches.initial (.consumer 9 ::
      List.replicate 7 (.producer 9) ++ List.replicate 4 (.consumer 9))).map InMemoryState.pc =
        some (.returned (.buffer [71, 12, 13, 69])) := by
    decide
  obtain ⟨s, hrun, hpc⟩ := Option.map_eq_some_iff.mp hends
  exact ⟨s, hrun, hpc, returns_buffer_iff twoBatches (by decide) hrun hpc _⟩

end InMemoryPartition

end Schengen.Storage
