import Schengen.Library.CallLog
import Schengen.Library.ReorderBuffer
import Schengen.Storage.ParallelEncodeMerge

/-!
# How a merge ends

Whether the merge of `RunParallelEncodeParquetOrdered` notes an error, and what it has merged
otherwise, is decided by the results in the order of their parts and by the answers to the writes
of their data.
-/

namespace Schengen.Storage
open Library

variable {β μ : Type}

/-- The file system answers the call by OK. -/
def FileSystem.Accepts (fs : FileSystem β) (before : List (FileCall β)) (c : FileCall β) : Prop :=
  fs.answer before c = .ok

/-! ## Mini-files as the merge reads them -/

def footerStart (buffer : List UInt8) : Int :=
  buffer.length - 8 - footerLen (buffer.drop (buffer.length - 8))

def footerOf (buffer : List UInt8) : List UInt8 :=
  range buffer (footerStart buffer).toNat (footerLen (buffer.drop (buffer.length - 8)))

def rowGroupDataSize (buffer : List UInt8) : Int := footerStart buffer - 4

/-- What is merged of the footers, and the size of the data before the next one. -/
structure MergedParts (μ : Type) where
  metadata : FileMetaData μ
  schemaSet : Bool
  offset : Int

namespace ParallelEncode

variable (run : ParallelEncode μ)

/-- The results in the order of their parts, up to the first part that did not arrive. -/
def inOrder : List InMemoryPartitionData :=
  (ReorderBuffer.taken InMemoryPartitionData.part run.partCount run.arrivals ⟨fun _ => none, 1⟩).1

/-- No error, and a footer that Thrift decodes. -/
def Usable (result : InMemoryPartitionData) : Prop :=
  result.error = "" ∧ ∀ buffer, result.buffer = some buffer →
    ∃ file, run.deserialize (footerOf buffer) = .ok file

/-- The write of a part's data. -/
def dataCalls (result : InMemoryPartitionData) : List (FileCall UInt8) :=
  match result.buffer with
  | none => []
  | some buffer =>
    if 0 < rowGroupDataSize buffer then
      [.write run.tempPath (range buffer 4 (rowGroupDataSize buffer).toNat)]
    else []

def mergeCalls (results : List InMemoryPartitionData) : List (FileCall UInt8) :=
  .write run.tempPath parquetMagic :: results.flatMap run.dataCalls

/-- Nothing fails while the results are merged. -/
def Merges (before : List (FileCall UInt8)) (results : List InMemoryPartitionData) : Prop :=
  (∀ result ∈ results, run.Usable result) ∧ Accepted run.fs.Accepts before (run.mergeCalls results)

def addResult (merged : MergedParts μ) (result : InMemoryPartitionData) : MergedParts μ :=
  match result.buffer with
  | none => merged
  | some buffer =>
    match run.deserialize (footerOf buffer) with
    | .error _ => merged
    | .ok file =>
      { metadata := merged.metadata.addFile merged.schemaSet merged.offset file
        schemaSet := true
        offset := if 0 < rowGroupDataSize buffer then merged.offset + rowGroupDataSize buffer
          else merged.offset }

variable [Inhabited μ]

def mergedParts (results : List InMemoryPartitionData) : MergedParts μ :=
  results.foldl run.addResult ⟨⟨0, default, 0, [], none, none, none⟩, false, 0⟩

/-- The results are merged without an error. -/
structure Took (before : List (FileCall UInt8)) (results : List InMemoryPartitionData)
    (s : MergeState μ) : Prop where
  unfailed : s.pipelineError = ""
  calls : s.world.calls = before ++ run.mergeCalls results
  merged : s.merged = (run.mergedParts results).metadata
  schemaSet : s.schemaSet = (run.mergedParts results).schemaSet
  offset : s.currentOutputDataOffset = (run.mergedParts results).offset
  merges : run.Merges before results

/-- Everything is merged, or an error is noted since that is not possible. -/
def Ends (before : List (FileCall UInt8)) (results : List InMemoryPartitionData)
    (s : MergeState μ) : Prop :=
  run.Took before results s ∨ ¬ run.Merges before results ∧ s.pipelineError ≠ ""

variable {run} {before : List (FileCall UInt8)} {results more : List InMemoryPartitionData}
  {result : InMemoryPartitionData} {s : MergeState μ}

/-! ## One result -/

omit [Inhabited μ] in
lemma mergeCalls_append :
    run.mergeCalls (results ++ more) = run.mergeCalls results ++ more.flatMap run.dataCalls := by
  simp only [mergeCalls, List.flatMap_append, List.cons_append]

omit [Inhabited μ] in
lemma merges_append : run.Merges before (results ++ more) ↔ run.Merges before results ∧
    (∀ result ∈ more, run.Usable result) ∧
      Accepted run.fs.Accepts (before ++ run.mergeCalls results) (more.flatMap run.dataCalls) := by
  unfold Merges
  rw [List.forall_mem_append, mergeCalls_append, accepted_append]
  exact and_and_and_comm

lemma mergedParts_concat :
    run.mergedParts (results ++ [result]) = run.addResult (run.mergedParts results) result := by
  rw [mergedParts, List.foldl_append]
  rfl

omit [Inhabited μ] in
/-- What `process_buffer` does where nothing has failed before. -/
lemma processBuffer_reads (buffer : List UInt8) (part : Nat) (hnone : s.pipelineError = "") :
    run.processBuffer buffer part s =
      match run.deserialize (footerOf buffer) with
      | .error what =>
        { s with pipelineError :=
            "footer deserialization failed for partition " ++ toString part ++ ": " ++ what }
      | .ok file =>
        let s := { s with
          merged := s.merged.addFile s.schemaSet s.currentOutputDataOffset file
          schemaSet := true }
        if 0 < rowGroupDataSize buffer then
          let written := run.fs.call
            (.write run.tempPath (range buffer 4 (rowGroupDataSize buffer).toNat)) s.world
          if written.1 = .ok then
            { s with
              world := written.2
              currentOutputDataOffset := s.currentOutputDataOffset + rowGroupDataSize buffer }
          else { s with world := written.2, pipelineError := written.1.toString }
        else s :=
  if_neg (not_not.mpr hnone)

lemma decodeFailed_ne (part : Nat) (what : String) :
    "footer deserialization failed for partition " ++ toString part ++ ": " ++ what ≠ "" :=
  append_ne_left (append_ne_right _ (by decide)) what

omit [Inhabited μ] in
variable (result) in
lemma merges_concat (h : run.Merges before results) :
    run.Merges before (results ++ [result]) ↔ run.Usable result ∧
      Accepted run.fs.Accepts (before ++ run.mergeCalls results) (run.dataCalls result) := by
  rw [merges_append, List.forall_mem_singleton, List.flatMap_singleton]
  exact and_iff_right h

lemma Took.processBuffer {buffer : List UInt8} (h : run.Took before results s)
    (herror : result.error = "") (hbuffer : result.buffer = some buffer) (part : Nat) :
    run.Ends before (results ++ [result]) (run.processBuffer buffer part s) := by
  have hmerges := merges_concat result h.merges
  have hcalls : run.dataCalls result = if 0 < rowGroupDataSize buffer then
      [.write run.tempPath (range buffer 4 (rowGroupDataSize buffer).toNat)] else [] := by
    simp only [dataCalls, hbuffer]
  rw [processBuffer_reads buffer part h.unfailed]
  cases hdecode : run.deserialize (footerOf buffer) with
  | error what =>
    refine .inr ⟨fun hall => ?_, decodeFailed_ne part what⟩
    obtain ⟨file, hfile⟩ := (hmerges.mp hall).1.2 buffer hbuffer
    cases hdecode.symm.trans hfile
  | ok file =>
    have husable : run.Usable result := by
      refine ⟨herror, fun read hread => ⟨file, ?_⟩⟩
      cases hbuffer.symm.trans hread
      exact hdecode
    have hadd : run.mergedParts (results ++ [result]) =
        { metadata := s.merged.addFile s.schemaSet s.currentOutputDataOffset file
          schemaSet := true
          offset := if 0 < rowGroupDataSize buffer then
              s.currentOutputDataOffset + rowGroupDataSize buffer
            else s.currentOutputDataOffset } := by
      rw [mergedParts_concat, h.merged, h.schemaSet, h.offset]
      simp only [addResult, hbuffer, hdecode]
    by_cases hdata : 0 < rowGroupDataSize buffer
    · rw [if_pos hdata] at hcalls
      by_cases hwrite : (run.fs.call
          (.write run.tempPath (range buffer 4 (rowGroupDataSize buffer).toNat)) s.world).1 = .ok
      · simp only [if_pos hdata, if_pos hwrite]
        rw [if_pos hdata] at hadd
        refine .inl ⟨h.unfailed, ?_, by rw [hadd], by rw [hadd], by rw [hadd], hmerges.mpr ⟨husable, ?_⟩⟩
        · rw [mergeCalls_append, List.flatMap_singleton, hcalls, call_calls, h.calls,
            List.append_assoc]
        · rw [hcalls, ← h.calls]
          exact ⟨hwrite, trivial⟩
      · simp only [if_pos hdata, if_neg hwrite]
        refine .inr ⟨fun hall => hwrite ?_, Status.toString_ne _⟩
        have haccepted := (hmerges.mp hall).2
        rw [hcalls, ← h.calls] at haccepted
        exact haccepted.1
    · rw [if_neg hdata] at hcalls hadd
      simp only [if_neg hdata]
      refine .inl ⟨h.unfailed, ?_, by rw [hadd], by rw [hadd], by rw [hadd], hmerges.mpr ⟨husable, ?_⟩⟩
      · rw [mergeCalls_append, List.flatMap_singleton, hcalls, List.append_nil, h.calls]
      · rw [hcalls]
        trivial

lemma Ends.congr {t : MergeState μ} (h : run.Ends before results s)
    (hworld : t.world = s.world) (herror : t.pipelineError = s.pipelineError)
    (hmerged : t.merged = s.merged) (hset : t.schemaSet = s.schemaSet)
    (hoffset : t.currentOutputDataOffset = s.currentOutputDataOffset) : run.Ends before results t := by
  rcases h with h | ⟨hmerges, hfailed⟩
  · exact .inl ⟨herror.trans h.unfailed, (congrArg World.calls hworld).trans h.calls,
      hmerged.trans h.merged, hset.trans h.schemaSet, hoffset.trans h.offset, h.merges⟩
  · exact .inr ⟨hmerges, by rwa [herror]⟩

variable (result) in
/-- A turn of the inner loop merges the result or notes why it cannot. -/
lemma Took.takePending (h : run.Took before results s) :
    run.Ends before (results ++ [result]) (run.takePending result s) := by
  have hmerges := merges_concat result h.merges
  by_cases herror : result.error = ""
  · cases hbuffer : result.buffer with
    | none =>
      have hcalls : run.dataCalls result = [] := by simp only [dataCalls, hbuffer]
      have hadd : run.mergedParts (results ++ [result]) = run.mergedParts results := by
        rw [mergedParts_concat]
        simp only [addResult, hbuffer]
      have hkept : run.Took before (results ++ [result]) s := by
        refine ⟨h.unfailed, ?_, by rw [hadd, h.merged], by rw [hadd, h.schemaSet],
          by rw [hadd, h.offset], hmerges.mpr ⟨⟨herror, fun read hread => ?_⟩, by rw [hcalls]; trivial⟩⟩
        · rw [mergeCalls_append, List.flatMap_singleton, hcalls, List.append_nil, h.calls]
        · cases hbuffer.symm.trans hread
      simp only [ParallelEncode.takePending, if_neg (not_not.mpr herror), hbuffer]
      exact Ends.congr (.inl hkept) rfl rfl rfl rfl rfl
    | some buffer =>
      simp only [ParallelEncode.takePending, if_neg (not_not.mpr herror), hbuffer]
      exact (h.processBuffer herror hbuffer s.expectedPart).congr rfl rfl rfl rfl rfl
  · refine .inr ⟨fun hall => herror (hmerges.mp hall).1.1, ?_⟩
    simp only [ParallelEncode.takePending, if_pos herror]
    exact partFailed_ne _ _

/-! ## All results -/

/-- The results that wait for an earlier part, and the part whose turn it is. -/
def waiting (s : MergeState μ) : ReorderBuffer InMemoryPartitionData := ⟨s.pending, s.expectedPart⟩

omit [Inhabited μ] in
variable (run result s) in
lemma takePending_waiting :
    waiting (run.takePending result s) =
      ⟨Function.update s.pending s.expectedPart none, s.expectedPart + 1⟩ := by
  unfold waiting ParallelEncode.takePending
  split
  · rfl
  · cases result.buffer with
    | none => rfl
    | some buffer => simp only [processBuffer_pending]

lemma Ends.error (h : ¬ run.Merges before results) (hfailed : s.pipelineError ≠ "")
    (more : List InMemoryPartitionData) : run.Ends before (results ++ more) s :=
  .inr ⟨fun hall => h (merges_append.mp hall).1, hfailed⟩

/-- The inner loop takes what the reorder buffer gives. -/
lemma Took.drainPending (h : run.Took before results s) (fuel : Nat) :
    run.Ends before (results ++ ((waiting s).flush fuel).1) (run.drainPending fuel s) ∧
      ((run.drainPending fuel s).pipelineError = "" →
        waiting (run.drainPending fuel s) = ((waiting s).flush fuel).2) := by
  induction fuel generalizing results s with
  | zero => exact ⟨.inl (by rwa [ReorderBuffer.flush, List.append_nil]), fun _ => rfl⟩
  | succ fuel ih =>
    unfold ParallelEncode.drainPending ReorderBuffer.flush
    rw [if_pos h.unfailed]
    cases hresult : s.pending s.expectedPart with
    | none =>
      have hnothing : (waiting s).waiting (waiting s).next = none := hresult
      simp only [hnothing]
      exact ⟨.inl (by rwa [List.append_nil]), fun _ => trivial⟩
    | some result =>
      have hnext : (waiting s).waiting (waiting s).next = some result := hresult
      have hwaiting := takePending_waiting run result s
      simp only [hnext]
      rcases h.takePending result with htook | ⟨hmerges, hfailed⟩
      · have hrest := ih htook
        rw [hwaiting, List.append_assoc] at hrest
        exact hrest
      · rw [drainPending_failed fuel hfailed]
        refine ⟨?_, fun hnone => absurd hnone hfailed⟩
        rw [List.append_cons]
        exact Ends.error hmerges hfailed _

lemma Took.consume (h : run.Took before results s) (arrivals : List InMemoryPartitionData) :
    run.Ends before
        (results ++ (ReorderBuffer.taken InMemoryPartitionData.part run.partCount arrivals (waiting s)).1)
        (run.consume arrivals s) ∧
      ((run.consume arrivals s).pipelineError = "" → waiting (run.consume arrivals s) =
        (ReorderBuffer.taken InMemoryPartitionData.part run.partCount arrivals (waiting s)).2) := by
  induction arrivals generalizing results s with
  | nil => exact ⟨.inl (by rwa [ReorderBuffer.taken, List.append_nil]), fun _ => rfl⟩
  | cons result arrivals ih =>
    have hkept : run.Took before results
        { s with pending := Function.update s.pending result.part (some result) } :=
      ⟨h.unfailed, h.calls, h.merged, h.schemaSet, h.offset, h.merges⟩
    obtain ⟨hends, hwaiting⟩ := hkept.drainPending (run.partCount + 1 - s.expectedPart)
    unfold ParallelEncode.consume ReorderBuffer.taken ReorderBuffer.insert
    rw [← List.append_assoc]
    change run.Ends before _ (run.receive result s) at hends
    by_cases hnone : (run.receive result s).pipelineError = ""
    · have htook := hends.resolve_right fun hfailed => hfailed.2 hnone
      have hrest := ih htook
      rw [show waiting (run.receive result s) = _ from hwaiting hnone] at hrest
      simp only [if_pos hnone]
      exact hrest
    · obtain htook | ⟨hmerges, -⟩ := hends
      · exact absurd htook.unfailed hnone
      · simp only [if_neg hnone]
        exact ⟨Ends.error hmerges hnone _, fun hafter => absurd hafter hnone⟩

/-! ## The merge -/

/-- A merge without a note has merged all results in order. -/
structure Merged (run : ParallelEncode μ) (before : List (FileCall UInt8)) (s : MergeState μ) : Prop where
  took : run.Took before run.inOrder s
  expected : s.expectedPart = run.inOrder.length + 1

variable {w : World UInt8}

lemma startMerge_ends : run.Ends w.calls []
    (startMerge (run.fs.call (.write run.tempPath parquetMagic) w)) := by
  have hmerges : run.Merges w.calls [] ↔ run.fs.Accepts w.calls (.write run.tempPath parquetMagic) := by
    simp [Merges, mergeCalls]
  unfold startMerge
  by_cases hwrite : (run.fs.call (.write run.tempPath parquetMagic) w).1 = .ok
  · refine .inl ⟨if_pos hwrite, rfl, rfl, rfl, rfl, hmerges.mpr hwrite⟩
  · refine .inr ⟨fun hall => hwrite (hmerges.mp hall), ?_⟩
    simp only [if_neg hwrite]
    exact Status.toString_ne _

variable (run) in
/-- The merge ends without a note where nothing failed and no worker threw. -/
lemma merge_cases :
    (run.workerThrew = false ∧ run.Merges w.calls run.inOrder) ∧
        run.Merged w.calls (run.merge w) ∨
      ¬ (run.workerThrew = false ∧ run.Merges w.calls run.inOrder) ∧
        (run.merge w).pipelineError ≠ "" := by
  unfold merge
  generalize hstart : startMerge (μ := μ) (run.fs.call (.write run.tempPath parquetMagic) w) = start
  have hends : run.Ends w.calls run.inOrder (run.consume run.arrivals start) ∧
      ((run.consume run.arrivals start).pipelineError = "" →
        (run.consume run.arrivals start).expectedPart = run.inOrder.length + 1) := by
    have hfirst : run.Ends w.calls [] start := hstart ▸ startMerge_ends
    have hwaiting : waiting start = ⟨fun _ => none, 1⟩ := by
      subst hstart
      rfl
    rcases hfirst with htook | ⟨hmerges, hfailed⟩
    · have hconsumed := htook.consume run.arrivals
      rw [hwaiting] at hconsumed
      refine ⟨hconsumed.1, fun hnone => ?_⟩
      have hnext := congrArg ReorderBuffer.next (hconsumed.2 hnone)
      rw [ReorderBuffer.taken_next] at hnext
      exact hnext.trans (Nat.add_comm _ _)
    · have hkept : (run.consume run.arrivals start).pipelineError ≠ "" :=
        fun hnone => hfailed (consume_none hnone)
      exact ⟨Ends.error hmerges hkept _, fun hnone => absurd hnone hkept⟩
  obtain ⟨htook | ⟨hmerges, hfailed⟩, hexpected⟩ := hends
  · cases hthrew : run.workerThrew with
    | false =>
      have hjoin : run.joinWorkers (run.consume run.arrivals start) = run.consume run.arrivals start := by
        rw [joinWorkers, hthrew, Bool.false_and]
        exact if_neg Bool.false_ne_true
      rw [hjoin]
      exact .inl ⟨⟨rfl, htook.merges⟩, htook, hexpected htook.unfailed⟩
    | true =>
      have hnoted : (run.joinWorkers (run.consume run.arrivals start)).pipelineError =
          "worker task threw exception" := by
        rw [joinWorkers, hthrew, htook.unfailed]
        rfl
      rw [hnoted]
      exact .inr ⟨(fun hall => nomatch hall.1), by decide⟩
  · refine .inr ⟨fun hall => hmerges hall.2, fun hnone => hfailed ?_⟩
    rwa [joinWorkers_none hnone] at hnone

lemma merge_expected (hnone : (run.merge w).pipelineError = "") :
    (run.merge w).expectedPart = run.inOrder.length + 1 := by
  rcases merge_cases run (w := w) with ⟨-, hmerged⟩ | ⟨-, hfailed⟩
  · exact hmerged.expected
  · exact absurd hnone hfailed

end ParallelEncode

end Schengen.Storage
