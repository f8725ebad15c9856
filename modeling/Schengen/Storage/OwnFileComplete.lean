import Schengen.Storage.OwnFileRuns

/-!
# What a returned 0 says about a partition

`GeneratePartitionToOwnFile` with a writer that answers each call with any status. The emptiness of
`pipeline_error` is the flag of success, so an exception without a text is taken for the end of the
generator.
-/

namespace Schengen.Storage
open Library

variable {σ β : Type}

inductive WriterCall (β : Type)
  | openPartition
  | writeBatch (batch : β)
  | closePartition
  deriving DecidableEq

/-- A writer that never throws. It records every call with its status. -/
def TableWriter.answering (answer : List (WriterCall β × Status) → WriterCall β → Status) :
    TableWriter (List (WriterCall β × Status)) β :=
  let call : WriterCall β → List (WriterCall β × Status) →
      Outcome × List (WriterCall β × Status) := fun c log =>
    (.returned (answer log c), log ++ [(c, answer log c)])
  ⟨call .openPartition, fun batch => call (.writeBatch batch), call .closePartition⟩

/-- Each of the calls is answered with OK, after those before it were. -/
def AllOk (answer : List (WriterCall β × Status) → WriterCall β → Status) :
    List (WriterCall β) → List (WriterCall β × Status) → Prop
  | [], _ => True
  | c :: calls, log => answer log c = .ok ∧ AllOk answer calls (log ++ [(c, .ok)])

def completeCalls (batches : List β) : List (WriterCall β) :=
  .openPartition :: (batches.map .writeBatch ++ [.closePartition])

lemma allOk_append {answer : List (WriterCall β × Status) → WriterCall β → Status}
    {calls more : List (WriterCall β)} {log : List (WriterCall β × Status)} :
    AllOk answer (calls ++ more) log ↔
      AllOk answer calls log ∧ AllOk answer more (log ++ calls.map fun c => (c, .ok)) := by
  induction calls generalizing log with
  | nil => simp [AllOk]
  | cons c calls ih =>
    simp only [List.cons_append, AllOk, ih, List.map_cons, List.append_assoc, List.nil_append,
      and_assoc]

lemma answered_ok {answer : List (WriterCall β × Status) → WriterCall β → Status}
    {log log' : List (WriterCall β × Status)} {c : WriterCall β} :
    ((Outcome.returned (answer log c), log ++ [(c, answer log c)]) : Outcome × _) = (.ok, log') ↔
      answer log c = .ok ∧ log' = log ++ [(c, .ok)] := by
  rw [Prod.mk.injEq, Outcome.ok, Outcome.returned.injEq]
  refine and_congr_right fun hok => ?_
  rw [hok, eq_comm]

lemma writeAll_answering {answer : List (WriterCall β × Status) → WriterCall β → Status}
    {batches : List β} {log log' : List (WriterCall β × Status)} :
    (TableWriter.answering answer).writeAll batches log = (.ok, log') ↔
      AllOk answer (batches.map .writeBatch) log ∧
        log' = log ++ batches.map fun batch => (.writeBatch batch, .ok) := by
  induction batches generalizing log with
  | nil => simp [TableWriter.writeAll, AllOk, eq_comm]
  | cons batch batches ih =>
    simp only [TableWriter.writeAll, List.map_cons, AllOk]
    by_cases hok : answer log (.writeBatch batch) = .ok
    · have hwritten : (TableWriter.answering answer).writeBatch batch log =
          (.ok, log ++ [(.writeBatch batch, .ok)]) := by
        simp only [TableWriter.answering, hok]
        rfl
      rw [hwritten, if_pos rfl, ih]
      simp [hok]
    · have hwritten : ((TableWriter.answering answer).writeBatch batch log).1 ≠ .ok := by
        intro h
        exact hok (Outcome.returned.inj h)
      rw [if_neg hwritten]
      simp only [hok, false_and, iff_false]
      exact fun h => hwritten (congrArg Prod.fst h)

namespace OwnFile

variable {run : OwnFile σ β} {w w' : σ}

lemma caught_ne_zero (partitionOpen : Bool) (thrown : Thrown) (s : OwnFileState σ β) :
    (run.caught partitionOpen thrown s).pc ≠ .returned 0 := by
  unfold caught
  cases partitionOpen with
  | false => exact fun h => nomatch h
  | true =>
    simp only [if_true]
    split <;> exact fun h => nomatch h

lemma caught_ne_pop (partitionOpen : Bool) (thrown : Thrown) (s : OwnFileState σ β) :
    (run.caught partitionOpen thrown s).pc ≠ .pop := by
  intro h
  obtain ⟨rc, hends⟩ | ⟨t, hends⟩ := caught_ends run partitionOpen thrown s <;>
    rw [h] at hends <;> cases hends

/-- The loop is entered with an open partition. -/
lemma start_pop_iff : (run.start (initial w)).pc = .pop ↔
    run.create = .ready ∧ run.hasWriter = true ∧ run.reset = none ∧
      (run.writer.openPartition w).1 = .ok := by
  have hopened : run.writer.openPartition (initial w : OwnFileState σ β).writer =
      run.writer.openPartition w := rfl
  unfold start
  cases run.create with
  | missing => simp [reportError]
  | threw thrown => simp [caught, reportError]
  | ready =>
    by_cases hwriter : run.hasWriter = true
    · simp only [hwriter, if_true, true_and, hopened]
      generalize run.writer.openPartition w = opened
      obtain ⟨outcome, w'⟩ := opened
      cases outcome with
      | threw thrown => simp [caught, reportError, Outcome.ok]
      | returned status =>
        cases status with
        | error code message => simp [reportError, Outcome.ok]
        | ok =>
          cases run.reset with
          | none => simp [Outcome.ok]
          | some thrown =>
            simp only [reduceCtorEq, false_and, iff_false]
            exact caught_ne_pop true thrown _
    · simp [hwriter, reportError]

lemma start_ne_zero : (run.start (initial w)).pc ≠ .returned 0 := by
  unfold start
  cases run.create with
  | missing => exact fun h => nomatch h
  | threw thrown => exact caught_ne_zero false thrown _
  | ready =>
    simp only
    by_cases hwriter : run.hasWriter = true
    · rw [if_pos hwriter]
      split
      · split
        · exact fun h => nomatch h
        · exact caught_ne_zero true _ _
      · exact fun h => nomatch h
      · exact caught_ne_zero false _ _
    · rw [if_neg hwriter]
      exact fun h => nomatch h

lemma start_writer (h : (run.start (initial w)).pc = .pop) :
    (run.start (initial w)).writer = (run.writer.openPartition w).2 := by
  obtain ⟨hcreate, hwriter, hreset, hopen⟩ := start_pop_iff.mp h
  have hopened : (run.writer.openPartition (initial w : OwnFileState σ β).writer).1 =
      .returned .ok := hopen
  unfold start
  simp only [hcreate, hwriter, if_true, hopened, hreset]
  rfl

/-- The function returns 0 after a loop without an error text and a close that succeeds. -/
lemma finish_zero_iff (s : OwnFileState σ β) : (run.finish s).pc = .returned 0 ↔
    s.pipelineError = "" ∧ (run.writer.closePartition s.writer).1 = .ok := by
  simp only [finish]
  by_cases hnone : s.pipelineError = ""
  · simp only [hnone, ne_eq, not_true, if_false, true_and]
    cases hclose : (run.writer.closePartition s.writer).1 with
    | threw thrown =>
      simp only [Outcome.ok, reduceCtorEq, iff_false]
      exact caught_ne_zero true thrown _
    | returned status => cases status <;> simp [reportError, Outcome.ok]
  · simp only [hnone, ne_eq, not_false_iff, if_true, false_and, iff_false, reportError]
    cases hclose : (run.writer.closePartition s.writer).1 with
    | threw thrown => simpa only [hclose] using caught_ne_zero true thrown _
    | returned status => cases status <;> simp

lemma finish_zero_writer {s : OwnFileState σ β} (h : (run.finish s).pc = .returned 0) :
    (run.finish s).writer = (run.writer.closePartition s.writer).2 := by
  obtain ⟨hnone, hclose⟩ := (finish_zero_iff s).mp h
  have hclosed : (run.writer.closePartition s.writer).1 = .returned .ok := hclose
  simp only [finish, hnone, ne_eq, not_true, if_false, hclosed]

/-- A pipeline without an error text wrote all batches. -/
lemma pipeline_empty_iff : run.pipeline w = some ("", w') ↔
    run.endError = "" ∧ run.writer.writeAll run.batches w = (.ok, w') := by
  unfold pipeline
  generalize run.writer.writeAll run.batches w = written
  obtain ⟨outcome, w''⟩ := written
  cases outcome with
  | threw thrown => simp [Outcome.ok]
  | returned status =>
    cases status with
    | ok => simp [Outcome.ok]
    | error code message =>
      have hne := Status.toString_ne (.error code message)
      simp [Outcome.ok, hne]

/-- How the function without the thread returns 0. -/
lemma sequential_zero_iff : (∃ t, run.sequential w = some t ∧ t.pc = .returned 0 ∧ t.writer = w') ↔
    (run.create = .ready ∧ run.hasWriter = true ∧ run.reset = none ∧ run.endError = "") ∧
    ∃ opened written, run.writer.openPartition w = (.ok, opened) ∧
      run.writer.writeAll run.batches opened = (.ok, written) ∧
      run.writer.closePartition written = (.ok, w') := by
  constructor
  · rintro ⟨t, hsequential, hzero, hwriter⟩
    unfold sequential at hsequential
    by_cases hloop : (run.start (initial w)).pc = .pop
    · obtain ⟨hcreate, hhas, hreset, hopen⟩ := start_pop_iff.mp hloop
      simp only [if_pos hloop] at hsequential
      obtain ⟨⟨error, written⟩, hpipeline, rfl⟩ := Option.map_eq_some_iff.mp hsequential
      obtain ⟨herror, hclose⟩ := (finish_zero_iff _).mp hzero
      obtain rfl : error = "" := herror
      rw [finish_zero_writer hzero] at hwriter
      obtain ⟨hend, hwritten⟩ := pipeline_empty_iff.mp hpipeline
      rw [start_writer hloop] at hwritten
      exact ⟨⟨hcreate, hhas, hreset, hend⟩, _, written, Prod.ext hopen rfl, hwritten,
        Prod.ext hclose hwriter⟩
    · simp only [if_neg hloop] at hsequential
      obtain rfl := Option.some.inj hsequential
      exact absurd hzero start_ne_zero
  · rintro ⟨⟨hcreate, hhas, hreset, hend⟩, opened, written, hopen, hwritten, hclose⟩
    have hloop : (run.start (initial w)).pc = .pop :=
      start_pop_iff.mpr ⟨hcreate, hhas, hreset, by rw [hopen]⟩
    have hpipeline : run.pipeline (run.start (initial w)).writer = some ("", written) := by
      rw [start_writer hloop, hopen]
      exact pipeline_empty_iff.mpr ⟨hend, hwritten⟩
    have hzero : (run.finish { run.start (initial w) with
        pipelineError := "", writer := written }).pc = .returned 0 :=
      (finish_zero_iff _).mpr ⟨rfl, by rw [hclose]⟩
    refine ⟨_, sequential_loop hloop hpipeline, hzero, ?_⟩
    rw [finish_zero_writer hzero, hclose]

/-! ## The writer's answers -/

variable {rc : Int} {answer : List (WriterCall β × Status) → WriterCall β → Status}
  {run : OwnFile (List (WriterCall β × Status)) β} {log : List (WriterCall β × Status)}

/-- The generator ended, and the writer was called for the partition, for each of its batches in
order and for the end, each time with OK. -/
def Complete (run : OwnFile (List (WriterCall β × Status)) β) (log : List (WriterCall β × Status)) :
    Prop :=
  run.ends = .finished ∧ log = (completeCalls run.batches).map fun c => (c, .ok)

/-- The generator ends with an exception that has no text, and nothing else fails. -/
structure SilentlyThrows (answer : List (WriterCall β × Status) → WriterCall β → Status)
    (run : OwnFile (List (WriterCall β × Status)) β) : Prop where
  ends : run.ends = .threw (.exception "")
  create : run.create = .ready
  hasWriter : run.hasWriter = true
  reset : run.reset = none
  answers : AllOk answer (completeCalls run.batches) []

/-- With a writer of these answers. -/
lemma sequential_zero_answering (hwriter : run.writer = .answering answer) :
    (∃ t, run.sequential [] = some t ∧ t.pc = .returned 0 ∧ t.writer = log) ↔
      (run.create = .ready ∧ run.hasWriter = true ∧ run.reset = none ∧ run.endError = "") ∧
        AllOk answer (completeCalls run.batches) [] ∧
        log = (completeCalls run.batches).map fun c => (c, .ok) := by
  rw [sequential_zero_iff, hwriter]
  refine and_congr Iff.rfl ?_
  unfold completeCalls
  simp only [AllOk, allOk_append]
  constructor
  · rintro ⟨opened, written, hopen, hwritten, hclose⟩
    obtain ⟨hopened, rfl⟩ := answered_ok.mp hopen
    obtain ⟨hall, rfl⟩ := writeAll_answering.mp hwritten
    obtain ⟨hclosed, rfl⟩ := answered_ok.mp hclose
    refine ⟨⟨hopened, hall, ?_, trivial⟩, ?_⟩
    · rw [List.map_map]
      exact hclosed
    · simp
  · rintro ⟨⟨hopen, hall, hclose, -⟩, rfl⟩
    rw [List.map_map] at hclose
    refine ⟨[(.openPartition, .ok)], _, answered_ok.mpr ⟨hopen, rfl⟩,
      writeAll_answering.mpr ⟨hall, rfl⟩, answered_ok.mpr ⟨hclose, ?_⟩⟩
    simp

/-- A run that delivers returns 0 for a complete partition only, exactly if it is not one where an
exception without a text is all that went wrong. -/
theorem zero_complete_iff (run : OwnFile (List (WriterCall β × Status)) β)
    (hwriter : run.writer = .answering answer) {actions : List OwnFileAction}
    {s : OwnFileState (List (WriterCall β × Status)) β}
    (hdelivers : Along run.step Delivers (initial []) actions)
    (hrun : exec run.step (initial []) actions = some s) (hreturned : s.pc = .returned rc) :
    (rc = 0 → Complete run s.writer) ↔ ¬ SilentlyThrows answer run := by
  obtain ⟨t, hsequential, hsame⟩ := sequential_of_exec hdelivers hrun (.inl ⟨rc, hreturned⟩)
  have hpc : t.pc = .returned rc := (congrArg Prod.fst hsame).symm.trans hreturned
  have hlog : t.writer = s.writer := (congrArg (fun o => o.2.1) hsame).symm
  constructor
  · intro hcomplete hsilent
    have hend : run.endError = "" := by
      unfold endError
      rw [hsilent.ends]
      rfl
    obtain ⟨t', hsequential', hzero, -⟩ := (sequential_zero_answering hwriter).mpr
      ⟨⟨hsilent.create, hsilent.hasWriter, hsilent.reset, hend⟩, hsilent.answers, rfl⟩
    obtain rfl := Option.some.inj (hsequential.symm.trans hsequential')
    have hrc : rc = 0 := OwnFilePc.returned.inj (hpc.symm.trans hzero)
    have hends := (hcomplete hrc).1
    rw [hsilent.ends] at hends
    cases hends
  · rintro hloud rfl
    obtain ⟨⟨hcreate, hhas, hreset, hend⟩, hall, hwritten⟩ :=
      (sequential_zero_answering hwriter).mp ⟨t, hsequential, hpc, hlog⟩
    refine ⟨?_, hwritten⟩
    cases hends : run.ends with
    | finished => rfl
    | threw thrown =>
      unfold endError at hend
      rw [hends] at hend
      cases thrown with
      | other => exact absurd hend (by decide)
      | exception what =>
        obtain rfl : what = "" := hend
        exact absurd ⟨hends, hcreate, hhas, hreset, hall⟩ hloud

/-! ### One batch -/

def oneBatch (ends : GeneratorEnd) : OwnFile (List (WriterCall Nat × Status)) Nat where
  tableName := "nation"
  formatName := "parquet"
  part := 1
  partCount := 1
  create := .ready
  hasWriter := true
  writer := .answering fun _ _ => .ok
  reset := none
  batches := [25]
  ends := ends

/-- The thread runs to its end before its messages are popped. -/
def threadFirst (producerSteps consumerSteps : Nat) : List OwnFileAction :=
  .consumer 9 :: List.replicate producerSteps (.producer 9) ++
    List.replicate consumerSteps (.consumer 9)

theorem zero_complete_iff_finished :
    ∃ s, exec (oneBatch .finished).step (initial []) (threadFirst 5 3) = some s ∧
      s.pc = .returned 0 ∧
      (((0 : Int) = 0 → Complete (oneBatch .finished) s.writer) ↔
        ¬ SilentlyThrows (fun _ _ => .ok) (oneBatch .finished)) := by
  have hends : (exec (oneBatch .finished).step (initial []) (threadFirst 5 3)).map (fun s => s.pc) =
      some (.returned 0) := by decide
  obtain ⟨s, hrun, hreturned⟩ := Option.map_eq_some_iff.mp hends
  exact ⟨s, hrun, hreturned, zero_complete_iff _ rfl (by decide) hrun hreturned⟩

/-- The generator throws an exception without a text after its batch: the function returns 0. -/
theorem zero_incomplete :
    ∃ s, Along (oneBatch (.threw (.exception ""))).step Delivers (initial []) (threadFirst 6 6) ∧
      exec (oneBatch (.threw (.exception ""))).step (initial []) (threadFirst 6 6) = some s ∧
      s.pc = .returned 0 ∧ ¬ Complete (oneBatch (.threw (.exception ""))) s.writer := by
  have hends : (exec (oneBatch (.threw (.exception ""))).step (initial []) (threadFirst 6 6)).map
      (fun s => s.pc) = some (.returned 0) := by decide
  obtain ⟨s, hrun, hreturned⟩ := Option.map_eq_some_iff.mp hends
  exact ⟨s, by decide, hrun, hreturned, fun hcomplete => by cases hcomplete.1⟩

end OwnFile

end Schengen.Storage
