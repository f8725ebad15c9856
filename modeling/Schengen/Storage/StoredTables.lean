import Schengen.CommandLine.WriteStrategies
import Schengen.Storage.EncodedParts
import Schengen.Storage.ForeignDatasets
import Schengen.Storage.PartitionFilesRuns
import Schengen.Storage.PublishedFiles
import Schengen.Tables.TableRows

/-!
# One table for every format and strategy

`GenerateTableWithStrategy` from the generators to what is stored: a file for every part, the file
that the parallel Parquet encoder merges, the single file of ORC, or the batches of a foreign dataset.
Whatever is chosen, and however the threads interleave, a run that returns 0 stores the rows that one
generator would return in a single partition, unless the parallel encoder found its file there before.
-/

namespace Schengen.Storage
open Library CommandLine Schengen.Random Schengen.Tables

/-! ## Finished runs -/

section

variable {ρ : Type}

/-- A Parquet library as the encoder uses it: the file that it makes of batches, and what is read from
the end of that file. -/
structure ParquetFormat (ρ μ : Type) where
  encode : List (TableBatch ρ) → MiniFile
  metadata : List (TableBatch ρ) → FileMetaData μ

/-- What a run leaves: at the final paths of the parts, at the final path of the table, or with the
worker of a dataset. An encoded file is compared with the one that is merged from given batches; an
existing one was there before the run. -/
inductive Output (ρ : Type)
  | partitionFiles (contents : Nat → Option (List ρ))
  | encodedFile (contents : Option (List UInt8)) (merged : (Nat → List (TableBatch ρ)) → List UInt8)
  | existingFile (before after : Option (List UInt8))
  | singleFile (contents : Option (List ρ))
  | dataset (received : List (List ρ))

/-- The rows of the parts, in the order of the parts. -/
def partRows (partCount : Nat) (batches : Nat → List (TableBatch ρ)) : List ρ :=
  (List.range' 1 partCount).flatMap fun part => (batches part).flatMap TableBatch.rows

/-- The output has these rows in this order, and no others. -/
def Output.Holds (partCount : Nat) (rows : List ρ) : Output ρ → Prop
  | partitionFiles contents => ∃ parts : Nat → List ρ,
      (∀ part ∈ List.range' 1 partCount, contents part = some (parts part)) ∧
        (List.range' 1 partCount).flatMap parts = rows
  | encodedFile contents merged => ∃ batches, contents = some (merged batches) ∧
      partRows partCount batches = rows
  | existingFile _ _ => False
  | singleFile contents => contents = some rows
  | dataset received => received.flatten = rows

/-- The run found its file there, and left it as it was. -/
def Output.Existed : Output ρ → Prop
  | existingFile before after => after = before
  | _ => False

/-- What a generator throws has a text. -/
def GeneratorEnd.HasText (ends : GeneratorEnd) : Prop := ends ≠ .threw (.exception "")

/-- The return code of `GeneratePartitionToOwnFile` for a part, and what it leaves at the final
path. -/
inductive PartFile (tableName : String) (handsOut : Nat → List (TableBatch ρ) → Prop)
    (partCount : Nat) (format : TableFormat) (part : Nat) : Int → Option (List ρ) → Prop
  | leaves (run : FileRun ρ) (files : String → Option (List ρ))
    (own : OwnFile (FileWriter ρ) (TableBatch ρ)) {actions : List OwnFileAction}
    {s : OwnFileState (FileWriter ρ) (TableBatch ρ)} {rc : Int}
    (hname : run.tableName = tableName) (hformat : run.format = format)
    (hpart : own.part = part) (hcount : own.partCount = partCount)
    (hwriter : own.writer = run.target.tableWriter own.part own.partCount)
    (hhands : own.ends = .finished → handsOut part own.batches) (htext : own.ends.HasText)
    (hdelivers : Along own.step OwnFile.Delivers (OwnFile.initial (.new files)) actions)
    (hrun : exec own.step (OwnFile.initial (.new files)) actions = some s)
    (hreturned : s.pc = .returned rc) :
    PartFile tableName handsOut partCount format part rc
      (s.writer.world.files (OwnFile.finalPath run own))

/-- A finished run of a function that writes a table, with its return code and its output. The
generators hand out the batches of their parts if they come to their ends, the queues deliver
what they accepted, and the writer of a dataset succeeds only behind the end of its stream. Of the
runs that return another code than 0 not all are told apart. -/
inductive TableRun (tableName : String) (handsOut : Nat → List (TableBatch ρ) → Prop)
    (partCount : Nat) (formatDriver : FormatDriver) : TableFunction → Int → Output ρ → Prop
  | partitionFiles (pool : PartitionFiles) {format : TableFormat} {s : PartitionFilesState} {rc : Int}
    (contents : Nat → Option (List ρ)) (hformat : formatDriver.createWriter = some format)
    (hcount : pool.partCount = partCount) (hbound : pool.partCount + pool.workers ≤ 2147483647)
    (hreached : Reachable pool.step pool.initial s) (hreturned : s.main = .returned rc)
    (hcalls : ∀ call ∈ s.calls, ∀ partRc, call.2 = .returned partRc →
      PartFile tableName handsOut partCount format call.1.toNat partRc (contents call.1.toNat)) :
    TableRun tableName handsOut partCount formatDriver .runParallelPartitionFiles rc
      (.partitionFiles contents)
  | failed {function : TableFunction} {rc : Int} (output : Output ρ) (hrc : rc ≠ 0) :
    TableRun tableName handsOut partCount formatDriver function rc output
  | alreadyExists {μ : Type} [Inhabited μ] (run : ParallelEncode μ) {w : World UInt8}
    (hname : run.tableName = tableName) (hcount : run.partCount = partCount)
    (hskips : run.Skips w) :
    TableRun tableName handsOut partCount formatDriver .runParallelEncodeParquetOrdered
      (run.runOrdered w).1
      (.existingFile (w.files run.finalPath) ((run.runOrdered w).2.files run.finalPath))
  | encoded {σ μ : Type} [Inhabited μ] (run : EncodeWorkers μ) (format : ParquetFormat ρ μ)
    (parts : Nat → InMemoryPartition σ (TableBatch ρ)) {s : EncodeWorkersState μ} {w : World UInt8}
    (hname : run.encoder.tableName = tableName) (hcount : run.encoder.partCount = partCount)
    (hwritten : run.written = run.encoder.fs.call (.write run.encoder.tempPath parquetMagic) w)
    (hopened : w.files run.encoder.tempPath = some [])
    (hencode : ∀ part bytes, (parts part).Encodes bytes →
      bytes = (format.encode (parts part).batches).bytes)
    (hdecode : ∀ part ∈ List.range' 1 run.encoder.partCount,
      run.encoder.deserialize (format.encode (parts part).batches).footer =
        .ok (format.metadata (parts part).batches))
    (hhands : ∀ part, (parts part).ends = .finished → handsOut part (parts part).batches)
    (htext : ∀ part, (parts part).ends.HasText)
    (hreached : Reachable run.step run.initial s) (hjoined : s.consumer = .joined)
    (hcalls : ∀ call ∈ s.calls, (parts call.1.toNat).Returns call.2) :
    TableRun tableName handsOut partCount formatDriver .runParallelEncodeParquetOrdered
      (run.afterJoin s).1
      (.encodedFile ((run.afterJoin s).2.files run.encoder.finalPath) fun batches =>
        run.encoder.mergedFile (fun part => format.encode (batches part))
          (mergedUpTo (fun part => format.encode (batches part))
            (fun part => format.metadata (batches part)) run.encoder.partCount))
  | multiplexed (run : FileRun ρ) (files : String → Option (List ρ))
    (generator : Nat → PartGenerator (TableBatch ρ)) {actions : List MultiplexAction} {rc : Int}
    {final : String → Option (List ρ)}
    (hname : run.tableName = tableName) (hformat : run.format = .orc)
    (hhands : ∀ part, (generator part).Completes → handsOut part (generator part).batches)
    (hreturns : run.SinkReturns files partCount generator actions rc final) :
    TableRun tableName handsOut partCount formatDriver .runNativeMultiplexedOrdered rc
      (.singleFile (final run.sinkPath))
  | foreign (target : ForeignTarget ρ) (run : ForeignStreaming (TableBatch ρ))
    {mpsc : BridgeChannel (List ρ)} {imported : List ρ → Except String Unit} {worker : WorkerResult}
    {s : BridgeThreads (List ρ)} {actions : List (BridgeAction (List ρ))} {rc : Int}
    (hname : target.tableName = tableName)
    (hbridge : formatDriver.createForeignWriter = some target.bridge)
    (hcount : run.partCount = partCount) (hmax : run.partCount ≤ 2147483647)
    (hwriter : run.writer = target.outcome run.partCount)
    (hhands : ∀ part, (run.generator part).Completes → handsOut part (run.generator part).batches)
    (hreturned : run.runOrdered32.1 = .returned rc)
    (hfifo : mpsc.Fifo)
    (hreads : Along (BridgeThreads.step target.bridge imported mpsc) BridgeThreads.ReadsToEnd
      (.new worker) actions)
    (hrun : exec (BridgeThreads.step target.bridge imported mpsc) (.new worker) actions = some s)
    (hlog : (s.log.map fun e => (e.call, e.code)) =
      handleLog (target.after run.partCount run.runOrdered32.2.calls).ops) :
    TableRun tableName handsOut partCount formatDriver .runForeignStreamingOrdered rc
      (.dataset s.received)

/-- Batches that the generators hand out for all parts have these rows. -/
def Gives (handsOut : Nat → List (TableBatch ρ) → Prop) (partCount : Nat) (rows : List ρ) : Prop :=
  ∀ batches, (∀ part ∈ List.range' 1 partCount, handsOut part (batches part)) →
    partRows partCount batches = rows

/-! ## What a run stores -/

variable {tableName : String} {handsOut : Nat → List (TableBatch ρ) → Prop} {partCount part : Nat}
  {rows : List ρ} {formatDriver : FormatDriver} {function : TableFunction} {output : Output ρ}
  {format : TableFormat} {contents : Option (List ρ)}

/-- Without an error text the generator has come to its end. -/
lemma finished_of_endError {σ β : Type} {own : OwnFile σ β} (hnone : own.endError = "")
    (htext : own.ends.HasText) : own.ends = .finished := by
  unfold OwnFile.endError at hnone
  cases hends : own.ends with
  | finished => rfl
  | threw thrown =>
    rw [hends] at hnone htext
    cases thrown with
    | exception what =>
      obtain rfl : what = "" := hnone
      exact absurd rfl htext
    | other => exact absurd hnone (by decide)

/-- The file of a part that returned 0 has the rows of the part. -/
lemma PartFile.stored (h : PartFile tableName handsOut partCount format part 0 contents) :
    ∃ batches, handsOut part batches ∧ contents = some (batches.flatMap TableBatch.rows) := by
  cases h with
  | @leaves run files own _ s _ hname hformat hpart hcount hwriter hhands htext hdelivers hrun
      hreturned =>
    obtain ⟨t, hsequential, hsame⟩ :=
      OwnFile.sequential_of_exec hdelivers hrun (.inl ⟨0, hreturned⟩)
    have hzero : t.pc = .returned 0 := (congrArg Prod.fst hsame).symm.trans hreturned
    have hfinal : s.writer = t.writer := congrArg (fun outcome => outcome.2.1) hsame
    obtain ⟨⟨-, -, -, hend⟩, opened, written, hopen, -⟩ :=
      OwnFile.sequential_zero_iff.mp ⟨t, hsequential, hzero, rfl⟩
    rw [hwriter] at hopen
    have hnew := OwnFile.openPartition_fresh (Outcome.returned.inj (congrArg Prod.fst hopen))
    obtain ⟨-, -, hfile⟩ := OwnFile.sequential_zero hwriter hnew hsequential hzero
    refine ⟨own.batches, hhands (finished_of_endError hend htext), ?_⟩
    rw [hfinal, hfile]

/-- A table in a single file, after a return with 0. -/
lemma FileRun.SinkReturns.stored {run : FileRun ρ} {files final : String → Option (List ρ)}
    {generator : Nat → PartGenerator (TableBatch ρ)} {actions : List MultiplexAction}
    (h : run.SinkReturns files partCount generator actions 0 final) :
    (∀ part ∈ List.range' 1 partCount, (generator part).Completes) ∧
      final run.sinkPath = some ((allBatches partCount generator).flatMap TableBatch.rows) := by
  cases h with
  | @ran hopen actions s _ hrun hreturned =>
    have hnew : FileRun.Absent run.sinkPath (.new files) := openFile_new hopen
    obtain ⟨before, hcalls, hparts, hzero⟩ :=
      (NativeMultiplexed.callsInv_reachable ⟨actions, hrun⟩).returned 0 hreturned
    obtain ⟨-, rows, k, hlast, hrows⟩ :=
      answered_iff partCount generator hparts (openedSink_opened hnew hopen)
    have hfile := sinkAfter_close hlast
    rw [List.nil_append, ← hcalls] at hfile
    have hreturns : (run.multiplexed files partCount generator).Returns 0 s.consumer.calls :=
      ⟨s, ⟨actions, hrun⟩, hreturned, rfl⟩
    obtain ⟨hall, hcompletes⟩ := hreturns.blocks
    have hanswered := hzero rfl
    have haccepts : (run.multiplexed files partCount generator).Accepts := by
      rw [← hcalls, hall] at hanswered
      exact hanswered
    have hcloses := ((accepts_iff partCount generator hnew hopen).mp haccepts).2
    have hbefore := List.append_cancel_right (hcalls.symm.trans hall)
    refine ⟨hcompletes, ?_⟩
    rw [hfile, if_pos hcloses, hrows (NativeMultiplexed.answered_append.mp hanswered).1, hbefore,
      written_completeCalls (run.multiplexed files partCount generator)]
    rfl

/-- Neither the batches without rows that are left out nor an empty one for Vortex change the rows. -/
lemma flatten_foreignBatches (bridge : WriterBridge) (batches : List (TableBatch ρ)) :
    (foreignBatches bridge batches).flatten = batches.flatMap TableBatch.rows := by
  have hfilter : ∀ lists : List (List ρ),
      (lists.filter fun rows => decide (rows.length ≠ 0)).flatten = lists.flatten := by
    intro lists
    induction lists with
    | nil => rfl
    | cons rows lists ih =>
      cases rows with
      | nil => simpa using ih
      | cons row rows => simpa using ih
  have hrows := hfilter (batches.map TableBatch.rows)
  rw [← List.flatMap_def] at hrows
  unfold foreignBatches
  dsimp only
  split
  · next hempty =>
    rw [← hrows, hempty.2]
    rfl
  · exact hrows

lemma rows_allBatches (partCount : Nat) (generator : Nat → PartGenerator (TableBatch ρ)) :
    (allBatches partCount generator).flatMap TableBatch.rows =
      partRows partCount fun part => (generator part).batches := by
  unfold allBatches partRows
  exact List.flatMap_assoc

/-- A run that returned 0 stored the rows of all parts, or found its file there. -/
lemma TableRun.holds (h : TableRun tableName handsOut partCount formatDriver function 0 output)
    (hgives : Gives handsOut partCount rows) : output.Holds partCount rows ∨ output.Existed := by
  generalize hrc : (0 : Int) = rc at h
  cases h with
  | failed output hfailed => exact absurd hrc.symm hfailed
  | alreadyExists run hname hcount hskips => exact .inr (ParallelEncode.runOrdered_skips hskips).2
  | partitionFiles pool contents hformat hcount hbound hreached hreturned hcalls =>
    subst hrc hcount
    have hinv := PartitionFiles.FilesInv.reachable hbound hreached
    obtain ⟨hzero, heach⟩ := hinv.returns hreturned
    have hperm := heach rfl
    have hstored : ∀ part ∈ List.range' 1 pool.partCount, ∃ batches, handsOut part batches ∧
        contents part = some (batches.flatMap TableBatch.rows) := by
      intro part hpart
      have hbounds := List.mem_range'_1.mp hpart
      have hmem : (part : Int) ∈ (List.range pool.partCount).map fun k : Nat => (k : Int) + 1 := by
        apply List.mem_map.mpr
        exact ⟨part - 1, List.mem_range.mpr (by omega), by omega⟩
      obtain ⟨call, hcall, hpart'⟩ := List.mem_map.mp (hperm.mem_iff.mpr hmem)
      have hreturns : call.2 = .returned 0 := by
        by_contra hfailed
        exact hzero.mp rfl ⟨call, hcall, hfailed⟩
      have hfile := hcalls call hcall 0 hreturns
      rw [hpart', Int.toNat_natCast] at hfile
      exact hfile.stored
    choose! batches hhands hcontents using hstored
    exact .inl ⟨fun part => (batches part).flatMap TableBatch.rows, hcontents,
      hgives batches hhands⟩
  | encoded run format parts hname hcount hwritten hopened hencode hdecode hhands htext hreached
      hjoined hcalls =>
    subst hcount
    have hruns := EncodeWorkers.observed_encodes hencode hdecode hreached hcalls
    rw [EncodeWorkers.afterJoin_observed hwritten hreached hjoined] at hrc ⊢
    have hfile := ParallelEncode.encode_zero hruns hopened hrc.symm
    rw [ParallelEncode.dataUpTo_eq] at hfile
    refine .inl ⟨fun part => (parts part).batches, hfile, hgives _ fun part hpart => ?_⟩
    have hencodes := EncodeWorkers.encodes_of_zero hencode hreached hcalls hrc.symm hpart
    exact hhands part (finished_of_endError hencodes.ends (htext part))
  | multiplexed run files generator hname hformat hhands hreturns =>
    subst hrc
    obtain ⟨hcompletes, hfile⟩ := hreturns.stored
    rw [rows_allBatches] at hfile
    rw [hgives _ fun part hpart => hhands part (hcompletes part hpart)] at hfile
    exact .inl hfile
  | foreign target run hname hbridge hcount hmax hwriter hhands hreturned hfifo hreads hrun hlog =>
    subst hrc hcount
    have hzeros := hlog.trans (ForeignTarget.handleLog_of_zero hwriter hmax hreturned)
    obtain ⟨-, hreceived⟩ :=
      ForeignTarget.received_of_zeros (BridgeThreads.channelled_of_exec hfifo hreads hrun)
        ForeignTarget.handedCalls_inner hzeros
    have hcompletes := ForeignTarget.runOrdered32_completes hwriter hmax hreturned
    have hrows := hreceived.trans ForeignTarget.pushes_handedCalls
    refine .inl ?_
    change List.flatten _ = rows
    rw [hrows, flatten_foreignBatches, rows_allBatches]
    exact hgives _ fun part hpart => hhands part (hcompletes part hpart)

end

/-! ## The generators of the tables -/

variable {sampler : IntSampler} {table : Table} {textPool : TextPool} {sf : ScaleFactor}

/-- The batches of a part, each of at most `batchRows` rows, as a writer gets them. -/
def HandsOut (sampler : IntSampler) (table : Table) (textPool : TextPool) (sf : ScaleFactor)
    (batchRows partCount part : Nat) (batches : List (TableBatch (table.generator sampler).Row)) :
    Prop :=
  ∃ read, (table.generator sampler).PartRun table.metadata ⟨sf⟩ textPool (fun _ => batchRows)
      part partCount read ∧
    batches = read.map fun batch => ⟨some table.metadata.name, batch.rows⟩

lemma rows_map {ρ : Type} (name : String) (read : List (Batch ρ)) :
    (read.map fun batch => (⟨some name, batch.rows⟩ : TableBatch ρ)).flatMap TableBatch.rows =
      read.flatMap Batch.rows :=
  List.flatMap_map _ _ read

lemma gives_units {unit : Nat → List (table.generator sampler).Row} {bound : Nat → Nat → Nat}
    (hunits : (table.generator sampler).EmitsUnits table.metadata ⟨sf⟩ textPool unit bound)
    (hcut : TableGenerator.Cut bound) {batchRows partCount : Nat} (hbatch : 0 < batchRows)
    (hcount : 1 ≤ partCount) :
    Gives (HandsOut sampler table textPool sf batchRows partCount) partCount
      (TableGenerator.unitRows unit bound) := by
  intro batches hhands
  have hpart : ∀ i < partCount, ∃ read, (table.generator sampler).PartRun table.metadata ⟨sf⟩
      textPool (fun _ => batchRows) (i + 1) partCount read ∧
        batches (1 + i) = read.map fun batch => ⟨some table.metadata.name, batch.rows⟩ := by
    intro i hi
    obtain ⟨read, hread, hbatches⟩ := hhands (1 + i) (List.mem_range'_1.mpr (by omega))
    rw [Nat.add_comm 1 i] at hread
    exact ⟨read, hread, hbatches⟩
  choose! reads hreads hbatches using hpart
  rw [← hunits.rows_of_parts hcut hcount (fun _ => hbatch) hreads]
  unfold partRows
  rw [List.range'_eq_map_range, List.flatMap_map]
  apply List.flatMap_congr
  intro i hi
  rw [hbatches i (List.mem_range.mp hi), rows_map]

/-- In a single partition the units come in batches of any size. -/
lemma whole_units {unit : Nat → List (table.generator sampler).Row} {bound : Nat → Nat → Nat}
    (hunits : (table.generator sampler).EmitsUnits table.metadata ⟨sf⟩ textPool unit bound)
    (hcut : TableGenerator.Cut bound) {batchRows : Nat} (hbatch : 0 < batchRows) :
    ∃ batches, HandsOut sampler table textPool sf batchRows 1 1 batches ∧
      batches.flatMap TableBatch.rows = TableGenerator.unitRows unit bound := by
  have hsizes : ∀ j : Nat, 0 < (fun _ => batchRows : Nat → Nat) j := fun _ => hbatch
  obtain ⟨read, hread, hrows, -⟩ := hunits.partRun (n := 1) (i := 0) Nat.one_pos hsizes
  rw [hcut.zero le_rfl] at hrows
  exact ⟨_, ⟨read, hread, rfl⟩, (rows_map _ read).trans hrows⟩

/-- The rows of a table do not depend on the format, the strategy, the number of parts, the sizes of
the batches or the order of steps: a run that returns 0 stores those of a single partition, unless it
found its file there. -/
theorem stored_rows (sampler : IntSampler) (table : Table) (textPool : TextPool) {sf : ScaleFactor}
    (hmax : sf.value < 30000) :
    ∃ rows : List (table.generator sampler).Row,
      (∀ batchRows, 0 < batchRows → ∃ batches,
        HandsOut sampler table textPool sf batchRows 1 1 batches ∧
          batches.flatMap TableBatch.rows = rows) ∧
      ∀ (options : WriteSchedulerOptions) (formatDriver : FormatDriver) (partCount : Int)
        (batchRows : Nat) (function : TableFunction) (output : Output (table.generator sampler).Row),
        0 < batchRows →
        selectFunction options formatDriver table.metadata.name partCount = .ok function →
        TableRun table.metadata.name (HandsOut sampler table textPool sf batchRows partCount.toNat)
          partCount.toNat formatDriver function 0 output →
        output.Holds partCount.toNat rows ∨ output.Existed := by
  obtain ⟨unit, bound, hunits, hcut⟩ := table.exists_units sampler textPool hmax
  refine ⟨TableGenerator.unitRows unit bound, ?_, ?_⟩
  · intro batchRows hbatch
    exact whole_units hunits hcut hbatch
  · intro options formatDriver partCount batchRows function output hbatch hselected hrun
    have hcount := (selectFunction_ok hselected).1
    exact hrun.holds (gives_units hunits hcut hbatch (by omega))

/-! ### The table `region` in one part -/

lemma rowCount_region : ScaleConfig.rowCount ⟨1⟩ kRegion = 5 := by
  have hcount : scaled 5 1 = 5 := by decide +kernel
  change (scaled 5 1).toNat = 5
  rw [hcount]
  rfl

lemma region_handsOut (sampler : IntSampler) (textPool : TextPool) :
    ∃ row rows, HandsOut sampler .region textPool 1 5 1 1 [⟨some "region", row :: rows⟩] := by
  have hunits : (Table.region.generator sampler).EmitsUnits kRegion ⟨1⟩ textPool _ _ :=
    TableGenerator.emitsUnits_ofCursor kRegion (fun _ => rfl)
      (RegionStreams.advanceRows_zero textPool) (RegionStreams.finish_read sampler textPool)
      (TableGenerator.monotone_min _) (TableGenerator.clamp_min _)
  have hsizes : ∀ j : Nat, 0 < (fun _ => 5 : Nat → Nat) j := fun _ => Nat.succ_pos 4
  obtain ⟨read, hread, hrows, hone⟩ := hunits.partRun (n := 1) (i := 0) Nat.one_pos hsizes
  rw [← hrows] at hone
  rw [rowCount_region] at hrows
  have hlength : (read.flatMap Batch.rows).length = 5 := by
    rw [hrows]
    rfl
  match read, hone hlength.le with
  | [], _ => cases hlength
  | [⟨firstRowId, []⟩], _ => cases hlength
  | [⟨firstRowId, row :: rows⟩], _ => exact ⟨row, rows, _, hread, rfl⟩

def regionFiles (ρ : Type) : FileRun ρ where
  format := .parquet
  tableName := "region"
  outputBufferBytes := 0
  getFilesystem := .ok
  getPath := .ok
  baseDir := "out"
  outcomes := ⟨.ok, .ok, .ok, .ok, .ok, .ok, fun _ => .ok, .ok, .ok, .ok⟩
  torn := fun _ => []

def regionFile {ρ : Type} (batch : TableBatch ρ) : OwnFile (FileWriter ρ) (TableBatch ρ) where
  tableName := "region"
  formatName := "parquet"
  part := 1
  partCount := 1
  create := .ready
  hasWriter := true
  writer := (regionFiles ρ).target.tableWriter 1 1
  reset := none
  batches := [batch]
  ends := .finished

lemma regionFile_returns {ρ : Type} (row : ρ) (rows : List ρ) :
    ∃ s, exec (regionFile ⟨some "region", row :: rows⟩).step (OwnFile.initial (.new fun _ => none))
        (OwnFile.threadFirst 5 3) = some s ∧ s.pc = .returned 0 := by
  have hjoins : (exec (regionFile ⟨some "region", row :: rows⟩).step
      (OwnFile.initial (.new fun _ => none)) (OwnFile.threadFirst 5 2)).map
        (fun s => (s.pc, s.producer)) = some (.join, .ended) := rfl
  obtain ⟨s, hrun, hs⟩ := Option.map_eq_some_iff.mp hjoins
  have hpc : s.pc = .join := congrArg Prod.fst hs
  have hproducer : s.producer = .ended := congrArg Prod.snd hs
  have hlast : (regionFile ⟨some "region", row :: rows⟩).step s (.consumer 9) =
      some ((regionFile ⟨some "region", row :: rows⟩).finish s) := by
    simp [OwnFile.step, OwnFile.consumerStep, hpc, hproducer]
  have hends : exec (regionFile ⟨some "region", row :: rows⟩).step
      (OwnFile.initial (.new fun _ => none)) (OwnFile.threadFirst 5 3) =
        some ((regionFile ⟨some "region", row :: rows⟩).finish s) := by
    rw [show OwnFile.threadFirst 5 3 = OwnFile.threadFirst 5 2 ++ [.consumer 9] from rfl,
      exec_append, hrun]
    simp [hlast]
  have hopens : OwnFile.OpensFile (regionFiles ρ) (regionFile ⟨some "region", row :: rows⟩) :=
    ⟨rfl, rfl, le_rfl, le_rfl, rfl, rfl, rfl, rfl, rfl, fun _ => rfl, rfl, fun _ => rfl⟩
  have hnew : FileRun.Absent (OwnFile.finalPath (regionFiles ρ)
      (regionFile ⟨some "region", row :: rows⟩)) (FileWriter.new fun _ => (none : Option (List ρ))) := rfl
  obtain ⟨t, hsequential, hzero⟩ := OwnFile.sequential_returns rfl hnew hopens ⟨rfl, rfl, rfl⟩
    ⟨rfl, rfl, rfl, rfl, trivial⟩
  obtain ⟨t', hsequential', hsame⟩ := OwnFile.sequential_of_exec (of_decide_eq_true rfl) hends
    ((regionFile ⟨some "region", row :: rows⟩).finish_ends s)
  obtain rfl := Option.some.inj (hsequential.symm.trans hsequential')
  exact ⟨_, hends, (congrArg Prod.fst hsame).trans hzero⟩

/-- One worker, which takes the only part. -/
def regionPool : PartitionFiles := ⟨1, 0⟩

def regionPoolRun : List PartitionFilesAction :=
  List.replicate 6 (.worker 0 (.returned 0)) ++ [.main, .main]

lemma region_tableRun : ∃ contents, TableRun "region" (HandsOut .exact .region ⟨[]⟩ 1 5 1) 1 .parquet
    .runParallelPartitionFiles 0 (.partitionFiles contents) := by
  obtain ⟨row, others, hhands⟩ := region_handsOut .exact ⟨[]⟩
  obtain ⟨s, hrun, hreturned⟩ := regionFile_returns row others
  have hpool : (exec regionPool.step regionPool.initial regionPoolRun).map
      (fun s => (s.main, s.calls)) = some (.returned 0, [(1, .returned 0)]) := by decide
  obtain ⟨pool, hpoolRun, hends⟩ := Option.map_eq_some_iff.mp hpool
  have hcalls : pool.calls = [(1, .returned 0)] := congrArg Prod.snd hends
  have hfile : PartFile "region" (HandsOut .exact .region ⟨[]⟩ 1 5 1) 1 .parquet 1 0
      (s.writer.world.files "out/region/region-1.parquet") :=
    .leaves (regionFiles _) (fun _ => none) (regionFile ⟨some "region", row :: others⟩) rfl rfl rfl
      rfl rfl (fun _ => hhands) (fun h => nomatch h) (of_decide_eq_true rfl) hrun hreturned
  refine ⟨fun _ => s.writer.world.files "out/region/region-1.parquet",
    .partitionFiles regionPool _ rfl rfl (by decide) ⟨regionPoolRun, hpoolRun⟩
      (congrArg Prod.fst hends) ?_⟩
  intro call hcall partRc hreturns
  rw [hcalls, List.mem_singleton] at hcall
  subst hcall
  cases hreturns
  exact hfile

theorem stored_rows_region : ∃ (rows : List (Table.region.generator .exact).Row)
    (contents : Nat → Option (List (Table.region.generator .exact).Row)),
    TableRun "region" (HandsOut .exact .region ⟨[]⟩ 1 5 1) 1 .parquet .runParallelPartitionFiles 0
        (.partitionFiles contents) ∧
      (Output.partitionFiles contents).Holds 1 rows := by
  obtain ⟨rows, -, hstored⟩ := stored_rows .exact .region ⟨[]⟩
    (by decide +kernel : ScaleFactor.value 1 < 30000)
  obtain ⟨contents, hrun⟩ := region_tableRun
  have hholds := hstored ⟨none, 0, 8⟩ .parquet 1 5 _ _ (by decide) rfl hrun
  exact ⟨rows, contents, hrun, hholds.resolve_right id⟩

end Schengen.Storage
