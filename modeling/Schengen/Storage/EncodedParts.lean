import Schengen.Storage.EncodeWorkersMerge
import Schengen.Storage.InMemoryPartition
import Schengen.Storage.MergedMetadata

/-!
# The parallel encoder with its parts

`RunParallelEncodeParquetOrdered` with the calls of `GeneratePartitionToInMemory` that its workers
make: each worker runs a generator on a thread of its own and hands the file to the consumer. In
every interleaving of all these threads the table is written only where every part was encoded
as a whole, and then with the data of the parts in order.
-/

namespace Schengen.Storage
open Library

variable {σ β μ : Type}

namespace EncodeWorkers

variable (run : EncodeWorkers μ)

/-- What the function does once the workers are joined. -/
def afterJoin (s : EncodeWorkersState μ) : Int × World UInt8 :=
  if s.merge.pipelineError ≠ "" then
    let aborted := run.encoder.fs.call .abort s.merge.world
    let deleted := run.encoder.fs.call (.deleteFile run.encoder.tempPath) aborted.2
    run.encoder.fail s.merge.pipelineError deleted.2
  else if s.merge.expectedPart ≠ run.encoder.partCount + 1 then
    run.encoder.fail "not all partitions completed" s.merge.world
  else run.encoder.finish s.merge.merged s.merge.world

/-- The result that the call leaves for the consumer. -/
def IsResult (call : Int × EncodeOutcome) (result : InMemoryPartitionData) : Prop :=
  result.part = call.1.toNat ∧
    ((∃ bytes, call.2 = .buffer bytes ∧ result.buffer = some bytes ∧ result.error = "") ∨
      ∃ message, call.2 = .error message ∧ result.error = message)

def FromCall (calls : List (Int × EncodeOutcome)) (result : InMemoryPartitionData) : Prop :=
  ∃ call ∈ calls, IsResult call result

/-- Where a worker holds a result, it is that of a call. -/
def HoldsCalls (calls : List (Int × EncodeOutcome)) : EncodeWorkerPc → Prop
  | .storeStop result => FromCall calls result
  | .push result => FromCall calls result
  | _ => True

/-- Every result is that of a call. -/
structure CallsInv (s : EncodeWorkersState μ) : Prop where
  popped : ∀ result ∈ s.popped, FromCall s.calls result
  waiting : ∀ result ∈ s.results.messages, FromCall s.calls result
  worker : ∀ k, HoldsCalls s.calls (s.worker k)

variable {run} {s t : EncodeWorkersState μ} {k keep : Nat} {calls : List (Int × EncodeOutcome)}
  {result : InMemoryPartitionData} {outcome : EncodeOutcome}

lemma FromCall.more (h : FromCall calls result) (call : Int × EncodeOutcome) :
    FromCall (calls ++ [call]) result := by
  obtain ⟨found, hfound, hresult⟩ := h
  exact ⟨found, List.mem_append_left _ hfound, hresult⟩

lemma HoldsCalls.more {pc : EncodeWorkerPc} (h : HoldsCalls calls pc) (call : Int × EncodeOutcome) :
    HoldsCalls (calls ++ [call]) pc := by
  cases pc with
  | storeStop result | push result => exact FromCall.more h call
  | _ => trivial

lemma holdsCalls_afterCall (calls : List (Int × EncodeOutcome)) (part : Int)
    (outcome : EncodeOutcome) : HoldsCalls (calls ++ [(part, outcome)]) (afterCall part outcome) := by
  have hlast : (part, outcome) ∈ calls ++ [(part, outcome)] :=
    List.mem_append_right _ List.mem_cons_self
  cases outcome with
  | buffer bytes => exact ⟨_, hlast, rfl, .inl ⟨bytes, rfl, rfl, rfl⟩⟩
  | error message => exact ⟨_, hlast, rfl, .inr ⟨message, rfl, rfl⟩⟩
  | threw => trivial

/-- A step that moves one worker. -/
lemma CallsInv.move {next : EncodeWorkerPc} (h : CallsInv s) (hpopped : t.popped = s.popped)
    (hcalls : t.calls = s.calls) (hwaiting : ∀ result ∈ t.results.messages, FromCall s.calls result)
    (hworker : t.worker = Function.update s.worker k next) (hnext : HoldsCalls s.calls next) :
    CallsInv t := by
  refine ⟨fun result hresult => ?_, fun result hresult => ?_, fun j => ?_⟩
  · rw [hcalls]
    exact h.popped result (hpopped ▸ hresult)
  · rw [hcalls]
    exact hwaiting result hresult
  · rw [hcalls, hworker]
    by_cases hj : j = k
    · rw [hj, Function.update_self]
      exact hnext
    · rw [Function.update_of_ne hj]
      exact h.worker j

lemma callsInv_workerStep (h : CallsInv s) (hstep : workerStep k keep outcome s = some t) :
    CallsInv t := by
  have hworker := h.worker k
  cases hpc : s.worker k with
  | ended | threw => simp [workerStep, hpc] at hstep
  | loadStop | loadClosed =>
    simp only [workerStep, hpc, Option.some.injEq] at hstep
    subst hstep
    refine h.move rfl rfl h.waiting rfl ?_
    split <;> trivial
  | fetchAdd =>
    simp only [workerStep, hpc, Option.some.injEq] at hstep
    subst hstep
    refine h.move rfl rfl h.waiting rfl ?_
    split <;> trivial
  | generate part =>
    simp only [workerStep, hpc, Option.some.injEq] at hstep
    subst hstep
    refine ⟨fun result hresult => (h.popped result hresult).more _,
      fun result hresult => (h.waiting result hresult).more _, fun j => ?_⟩
    by_cases hj : j = k
    · rw [hj]
      simp only [goto, Function.update_self]
      exact holdsCalls_afterCall _ _ _
    · simp only [goto, Function.update_of_ne hj]
      exact (h.worker j).more _
  | storeStop result =>
    rw [hpc] at hworker
    simp only [workerStep, hpc, Option.some.injEq] at hstep
    subst hstep
    exact h.move rfl rfl h.waiting rfl hworker
  | push result =>
    rw [hpc] at hworker
    simp only [workerStep, hpc] at hstep
    cases hpush : s.results.push result with
    | none =>
      simp only [hpush, Option.some.injEq] at hstep
      subst hstep
      exact h.move rfl rfl h.waiting rfl trivial
    | some results =>
      obtain ⟨-, rfl⟩ := ClosingFifo.push_some hpush
      simp only [hpush, Option.some.injEq] at hstep
      subst hstep
      refine h.move rfl rfl (fun other hother => ?_) rfl trivial
      rcases List.mem_append.mp hother with hbefore | hlast
      · exact h.waiting other hbefore
      · rw [List.mem_singleton.mp hlast]
        exact hworker
  | fetchSub =>
    simp only [workerStep, hpc, Option.some.injEq] at hstep
    subst hstep
    refine h.move rfl rfl h.waiting rfl ?_
    split <;> trivial
  | close =>
    simp only [workerStep, hpc, Option.some.injEq] at hstep
    subst hstep
    exact h.move rfl rfl (fun result hresult => h.waiting result (List.mem_of_mem_take hresult))
      rfl trivial

lemma callsInv_consumerStep (h : CallsInv s) (hstep : run.consumerStep keep s = some t) :
    CallsInv t := by
  cases mergeMoves hstep with
  | receive result results hpc hpop =>
    have hqueue := (ClosingFifo.pop_some hpop).1
    refine ⟨fun other hother => ?_, fun other hother => ?_, h.worker⟩
    · rcases List.mem_append.mp hother with hbefore | hlast
      · exact h.popped other hbefore
      · rw [List.mem_singleton.mp hlast]
        exact h.waiting result (by rw [hqueue]; exact List.mem_cons_self)
    · exact h.waiting other (by rw [hqueue]; exact List.mem_cons_of_mem _ hother)
  | closeResults =>
    exact ⟨h.popped, fun result hresult => h.waiting result (List.mem_of_mem_take hresult), h.worker⟩
  | drained | stop | closePartitions | ended | threw | joined => exact ⟨h.popped, h.waiting, h.worker⟩

/-- What was popped comes from the calls. -/
lemma popped_fromCall [Inhabited μ] (h : Reachable run.step run.initial s) :
    ∀ result ∈ s.popped, FromCall s.calls result := by
  have hinv : CallsInv s := by
    refine h.invariant ⟨fun _ h => (by cases h), fun _ h => (by cases h), fun _ => trivial⟩ ?_
    intro s action t hinv hstep
    cases action with
    | consumer keep => exact callsInv_consumerStep hinv hstep
    | worker k keep outcome =>
      simp only [step] at hstep
      by_cases hk : k < run.workers
      · rw [if_pos hk] at hstep
        exact callsInv_workerStep hinv hstep
      · rw [if_neg hk] at hstep
        cases hstep
  exact hinv.popped

end EncodeWorkers

namespace ParallelEncode

variable [Inhabited μ] {run : ParallelEncode μ} {w : World UInt8}

omit [Inhabited μ] in
/-- The results are taken in the order of the parts. -/
lemma inOrder_part {i : Nat} {result : InMemoryPartitionData} (h : run.inOrder[i]? = some result) :
    result.part = 1 + i ∧ result ∈ run.arrivals :=
  ReorderBuffer.taken_each (P := fun part (result : InMemoryPartitionData) =>
      result.part = part ∧ result ∈ run.arrivals) (fun _ _ hnone => by cases hnone)
    (fun _ hresult => ⟨rfl, hresult⟩) i result h

omit [Inhabited μ] in
variable (run) in
lemma inOrder_length_le : run.inOrder.length ≤ run.partCount := by
  have hnext := @ReorderBuffer.taken_next _ InMemoryPartitionData.part run.partCount
    ⟨fun _ => none, 1⟩ run.arrivals
  have hle := @ReorderBuffer.taken_next_le _ InMemoryPartitionData.part run.partCount
    ⟨fun _ => none, 1⟩ run.arrivals (by simp only; omega)
  simp only at hnext
  unfold inOrder
  omega

/-- Where the merge comes to its end, a result without an error arrived for every part. -/
lemma merge_everyPart (hnone : (run.merge w).pipelineError = "")
    (hall : (run.merge w).expectedPart = run.partCount + 1) {part : Nat}
    (hpart : part ∈ List.range' 1 run.partCount) :
    ∃ result ∈ run.arrivals, result.part = part ∧ result.error = "" := by
  have hbounds := List.mem_range'_1.mp hpart
  have hlength : run.inOrder.length = run.partCount :=
    Nat.succ_injective ((merge_expected hnone).symm.trans hall)
  rcases merge_cases run (w := w) with ⟨⟨-, hmerges⟩, -⟩ | ⟨-, hfailed⟩
  · obtain ⟨result, hresult⟩ : ∃ result, run.inOrder[part - 1]? = some result :=
      ⟨_, List.getElem?_eq_getElem (by omega)⟩
    obtain ⟨hkey, harrived⟩ := inOrder_part hresult
    have hused := hmerges.1 result (List.mem_of_getElem? hresult)
    exact ⟨result, harrived, by omega, hused.1⟩
  · exact absurd hnone hfailed

end ParallelEncode

/-- The call of a part ended in this outcome, in some interleaving of its two threads. -/
def InMemoryPartition.Returns (run : InMemoryPartition σ β) (outcome : EncodeOutcome) : Prop :=
  ∃ actions s, Along run.step InMemoryPartition.Delivers run.initial actions ∧
    exec run.step run.initial actions = some s ∧ s.pc = .returned outcome

lemma InMemoryPartition.Returns.buffer {run : InMemoryPartition σ β} {bytes : List UInt8}
    (h : run.Returns (.buffer bytes)) : run.Encodes bytes := by
  obtain ⟨actions, s, hdelivers, hrun, hreturned⟩ := h
  have hsequential := sequential_of_exec hdelivers hrun hreturned
  exact (sequential_buffer_iff (by rw [hsequential]; exact Option.some_ne_none _)).mp hsequential

lemma InMemoryPartition.Returns.error {run : InMemoryPartition σ β} {message : String}
    (h : run.Returns (.error message)) : message ≠ "" := by
  obtain ⟨actions, s, hdelivers, hrun, hreturned⟩ := h
  exact sequential_error_ne (sequential_of_exec hdelivers hrun hreturned)

namespace EncodeWorkers

variable {run : EncodeWorkers μ} {s : EncodeWorkersState μ} {files : Nat → MiniFile}
  {metadata : Nat → FileMetaData μ} {parts : Nat → InMemoryPartition σ β} {w : World UInt8}

/-- A result of a part is its mini-file or carries an error. -/
lemma fromCall_result (hparts : ∀ call ∈ s.calls, (parts call.1.toNat).Returns call.2)
    {result : InMemoryPartitionData} (h : FromCall s.calls result) :
    result.error ≠ "" ∨
      ∃ bytes, (parts result.part).Encodes bytes ∧ result.buffer = some bytes ∧
        result.error = "" := by
  obtain ⟨call, hcall, hpart, ⟨bytes, hbuffer, hbytes, hnone⟩ | ⟨message, herror, hmessage⟩⟩ := h
  · have hreturns := hparts call hcall
    rw [hbuffer, ← hpart] at hreturns
    exact .inr ⟨bytes, hreturns.buffer, hbytes, hnone⟩
  · have hreturns := hparts call hcall
    rw [herror] at hreturns
    exact .inl (hmessage ▸ hreturns.error)

/-- After the workers are joined the function goes on as the plain encoder does with the results. -/
lemma afterJoin_observed [Inhabited μ]
    (hwritten : run.written = run.encoder.fs.call (.write run.encoder.tempPath parquetMagic) w)
    (h : Reachable run.step run.initial s) (hjoined : s.consumer = .joined) :
    run.afterJoin s = (run.observed s).encode w := by
  have hmerge : s.merge = (run.observed s).merge w := by
    rw [merge_of_joined h hjoined, hwritten]
    rfl
  unfold afterJoin
  rw [hmerge]
  rfl

/-- The results are those of the calls, so the encoder's results are mini-files or errors. -/
lemma observed_encodes [Inhabited μ]
    (hformat : ∀ part bytes, (parts part).Encodes bytes → bytes = (files part).bytes)
    (hdecodes : ∀ part ∈ List.range' 1 run.encoder.partCount,
      run.encoder.deserialize (files part).footer = .ok (metadata part))
    (h : Reachable run.step run.initial s)
    (hparts : ∀ call ∈ s.calls, (parts call.1.toNat).Returns call.2) :
    (run.observed s).Encodes files metadata := by
  refine ⟨fun result hresult => ?_, hdecodes⟩
  apply (fromCall_result hparts (popped_fromCall h result hresult)).imp_right
  rintro ⟨bytes, hencodes, hbuffer, -⟩
  rw [hbuffer, hformat _ _ hencodes]

/-- A 0 says that a result without an error arrived for every part. -/
lemma encodes_of_zero [Inhabited μ]
    (hformat : ∀ part bytes, (parts part).Encodes bytes → bytes = (files part).bytes)
    (h : Reachable run.step run.initial s)
    (hparts : ∀ call ∈ s.calls, (parts call.1.toNat).Returns call.2)
    (hzero : ((run.observed s).encode w).1 = 0) {part : Nat}
    (hpart : part ∈ List.range' 1 run.encoder.partCount) : (parts part).Encodes (files part).bytes := by
  have hnone : ((run.observed s).merge w).pipelineError = "" := by
    by_contra hfailed
    rw [ParallelEncode.encode_failed hfailed] at hzero
    cases hzero
  have hall : ((run.observed s).merge w).expectedPart = (run.observed s).partCount + 1 := by
    by_contra hmissing
    rw [ParallelEncode.encode_incomplete hnone hmissing] at hzero
    cases hzero
  obtain ⟨result, hresult, rfl, herror⟩ := ParallelEncode.merge_everyPart hnone hall hpart
  obtain hfailed | ⟨bytes, hencodes, -, -⟩ :=
    fromCall_result hparts (popped_fromCall h result hresult)
  · exact absurd herror hfailed
  · rwa [← hformat _ _ hencodes]

/-- Where the function returns 0 after its workers are joined, every part was encoded as a whole
and the file has the data of the parts in order. -/
theorem encodes_everyPart [Inhabited μ] (run : EncodeWorkers μ)
    (parts : Nat → InMemoryPartition σ β)
    (hwritten : run.written = run.encoder.fs.call (.write run.encoder.tempPath parquetMagic) w)
    (hopened : w.files run.encoder.tempPath = some [])
    (hformat : ∀ part bytes, (parts part).Encodes bytes → bytes = (files part).bytes)
    (hdecodes : ∀ part ∈ List.range' 1 run.encoder.partCount,
      run.encoder.deserialize (files part).footer = .ok (metadata part))
    (h : Reachable run.step run.initial s) (hjoined : s.consumer = .joined)
    (hparts : ∀ call ∈ s.calls, (parts call.1.toNat).Returns call.2)
    (hzero : (run.afterJoin s).1 = 0) :
    (∀ part ∈ List.range' 1 run.encoder.partCount, (parts part).Encodes (files part).bytes) ∧
      (run.afterJoin s).2.files run.encoder.finalPath = some (run.encoder.mergedFile files
        (mergedUpTo files metadata run.encoder.partCount)) := by
  have hruns := observed_encodes hformat hdecodes h hparts
  rw [afterJoin_observed hwritten h hjoined] at hzero ⊢
  have hfile := ParallelEncode.encode_zero hruns hopened hzero
  rw [ParallelEncode.dataUpTo_eq] at hfile
  exact ⟨fun part hpart => encodes_of_zero hformat h hparts hzero hpart, hfile⟩

/-! ### Two parts of one batch each -/

def encodedPart (part : Nat) : InMemoryPartition (List UInt8) (List UInt8) where
  tableName := "orders"
  createStream := .ok
  openWriter := .ok
  opened := parquetMagic
  create := .ready
  reset := none
  batches := [(ParallelEncode.partFiles part).data]
  ends := .finished
  writer :=
    { newBufferedRowGroup := fun file => (.ok, file)
      writeRecordBatch := fun batch file => (.ok, file ++ batch)
      close := fun file => (.ok, file ++ ((ParallelEncode.partFiles part).footer ++
        (leBytes 4 (ParallelEncode.partFiles part).footer.length ++ parquetMagic)))
      finish := fun file => (.ok, file) }

lemma encodedPart_bytes {part : Nat} {bytes : List UInt8} (h : (encodedPart part).Encodes bytes) :
    bytes = (ParallelEncode.partFiles part).bytes := by
  have hfinished : parquetMagic ++ (ParallelEncode.partFiles part).data ++
      ((ParallelEncode.partFiles part).footer ++
        (leBytes 4 (ParallelEncode.partFiles part).footer.length ++ parquetMagic)) = bytes :=
    congrArg Prod.snd h.finished
  rw [← hfinished, List.append_assoc]
  rfl

/-- The thread of the generator first, then the writing. -/
def encodedPartRun : List OwnFileAction :=
  .consumer 9 :: List.replicate 5 (.producer 9) ++ List.replicate 3 (.consumer 9)

lemma encodedPart_returns :
    (encodedPart 1).Returns (.buffer (ParallelEncode.partFiles 1).bytes) ∧
      (encodedPart 2).Returns (.buffer (ParallelEncode.partFiles 2).bytes) :=
  ⟨⟨encodedPartRun, _, by decide, rfl, rfl⟩, encodedPartRun, _, by decide, rfl, rfl⟩

/-- The temporary file is open. -/
def twoEncodedOpened : World UInt8 :=
  (ParallelEncode.twoResults.fs.call (.openOutputStream ParallelEncode.twoResults.tempPath)
    ⟨fun _ => none, [], []⟩).2

def twoEncoded : EncodeWorkers (List Int) where
  encoder := ParallelEncode.twoResults
  workerCount := 2
  written := ParallelEncode.twoResults.fs.call
    (.write ParallelEncode.twoResults.tempPath parquetMagic) twoEncodedOpened

/-- The second worker pushes part 2 while the first one still encodes part 1, and the consumer merges
them. -/
def encodeTwo : List EncodeWorkersAction :=
  let call := fun worker part => .worker worker 9 (.buffer (ParallelEncode.partFiles part).bytes)
  List.replicate 3 (call 0 1) ++ List.replicate 5 (call 1 2) ++ List.replicate 6 (call 0 1) ++
    List.replicate 5 (.worker 1 9 .threw) ++ List.replicate 6 (.consumer 9)

theorem encodes_everyPart_two :
    ∃ s, exec twoEncoded.step twoEncoded.initial encodeTwo = some s ∧
      (twoEncoded.afterJoin s).1 = 0 ∧
      (encodedPart 2).Encodes (ParallelEncode.partFiles 2).bytes ∧
      (twoEncoded.afterJoin s).2.files twoEncoded.encoder.finalPath =
        some (twoEncoded.encoder.mergedFile ParallelEncode.partFiles
          (mergedUpTo ParallelEncode.partFiles ParallelEncode.partMetadata 2)) := by
  have hends : (exec twoEncoded.step twoEncoded.initial encodeTwo).map (fun s =>
      (s.consumer, s.calls, (twoEncoded.afterJoin s).1)) =
        some (.joined, [(2, .buffer (ParallelEncode.partFiles 2).bytes),
          (1, .buffer (ParallelEncode.partFiles 1).bytes)], 0) := by
    decide
  obtain ⟨s, hrun, hpc⟩ := Option.map_eq_some_iff.mp hends
  obtain ⟨hjoined, hcalls, hzero⟩ : s.consumer = .joined ∧
      s.calls = [(2, .buffer (ParallelEncode.partFiles 2).bytes),
        (1, .buffer (ParallelEncode.partFiles 1).bytes)] ∧ (twoEncoded.afterJoin s).1 = 0 := by
    simpa using hpc
  have hparts : ∀ call ∈ s.calls, (encodedPart call.1.toNat).Returns call.2 := by
    rw [hcalls]
    simp only [List.forall_mem_cons]
    exact ⟨encodedPart_returns.2, encodedPart_returns.1, fun _ h => by cases h⟩
  have hwritten : twoEncoded.written = twoEncoded.encoder.fs.call
      (.write twoEncoded.encoder.tempPath parquetMagic) twoEncodedOpened := rfl
  have hdecodes : ∀ part ∈ List.range' 1 twoEncoded.encoder.partCount,
      twoEncoded.encoder.deserialize (ParallelEncode.partFiles part).footer =
        .ok (ParallelEncode.partMetadata part) := by
    decide
  have hmerged := encodes_everyPart twoEncoded encodedPart hwritten (call_openOutputStream rfl)
    (fun _ _ => encodedPart_bytes) hdecodes ⟨_, hrun⟩ hjoined hparts hzero
  exact ⟨s, hrun, hzero, hmerged.1 2 (by decide), hmerged.2⟩

end EncodeWorkers

end Schengen.Storage
