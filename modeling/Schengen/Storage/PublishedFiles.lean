import Schengen.Storage.MultiplexedComplete
import Schengen.Storage.OwnFilePublishing

/-!
# No incomplete file at a final path

The sink of a table in a single file holds its file open over a whole run, so its state is what the
calls made so far have left. Like the writer of one partition it is closed at every end, and a file
that could be closed is published whether or not all of it was written.
-/

namespace Schengen.Storage
open Library

variable {ρ : Type}

/-- The scheduler's calls on `OrcSingleFileSink`. -/
def FileTarget.sinkCall (target : FileTarget ρ) :
    SinkCall (TableBatch ρ) → FileWriter ρ → Status × FileWriter ρ
  | .openTable, s => target.openSink s
  | .beginPartition _, s => beginPartition s
  | .writeBatch batch, s => target.writeSinkBatch batch s
  | .endPartition, s => endPartition s
  | .close, s => target.closeFile s

/-- The sink after these calls. -/
def FileTarget.sinkAfter (target : FileTarget ρ) (calls : List (SinkCall (TableBatch ρ)))
    (s : FileWriter ρ) : FileWriter ρ :=
  calls.foldl (fun s c => (target.sinkCall c s).2) s

namespace FileRun

variable (run : FileRun ρ) (files : String → Option (List ρ)) (partCount : Nat)
  (generator : Nat → PartGenerator (TableBatch ρ))

def sinkPath : String := joinPath run.tableDir (run.tableName ++ "-1." ++ run.format.extension)

def openedSink : FileWriter ρ := (run.target.openSink (.new files)).2

/-- `RunNativeMultiplexedOrdered` from the open sink on. -/
def multiplexed : NativeMultiplexed (TableBatch ρ) where
  tableName := run.tableName
  partCount := partCount
  generator := generator
  sink := fun calls c =>
    .returned (run.target.sinkCall c (run.target.sinkAfter calls (run.openedSink files))).1

/-- The steps of `RunNativeMultiplexedOrdered` after the sink is opened, its return code and the
files it leaves. -/
inductive SinkReturns : List MultiplexAction → Int → (String → Option (List ρ)) → Prop
  | notOpened (hopen : (run.target.openSink (.new files)).1 ≠ .ok) :
    SinkReturns [] 2 (run.openedSink files).world.files
  | ran (hopen : (run.target.openSink (.new files)).1 = .ok) {actions : List MultiplexAction}
    {s : MultiplexState (TableBatch ρ)} {rc : Int}
    (hrun : exec (run.multiplexed files partCount generator).step
      (run.multiplexed files partCount generator).initial actions = some s)
    (hreturned : s.pc = .returned rc) :
    SinkReturns actions rc
      (run.target.sinkAfter s.consumer.calls (run.openedSink files)).world.files

/-- The queue delivers every message that it accepted. -/
def SinkDelivers (actions : List MultiplexAction) : Prop :=
  Along (run.multiplexed files partCount generator).step NativeMultiplexed.Delivers
    (run.multiplexed files partCount generator).initial actions

variable {run files partCount generator} {rows : List ρ} {k : Nat} {path : String} {rc : Int}
  {actions : List MultiplexAction} {s : FileWriter ρ} {final : String → Option (List ρ)}
  {calls more : List (SinkCall (TableBatch ρ))}

lemma sinkAfter_append (s : FileWriter ρ) : run.target.sinkAfter (calls ++ more) s =
    run.target.sinkAfter more (run.target.sinkAfter calls s) :=
  List.foldl_append

lemma written_cons (c : SinkCall (TableBatch ρ)) : SinkCall.written (c :: more) =
    SinkCall.written [c] ++ SinkCall.written more :=
  SinkCall.written_append [c] more

variable (partCount generator) in
/-- The sink stays open over calls for parts, and answers them with OK exactly if all batches are
written. -/
lemma answered_iff (hmore : ∀ c ∈ more, c.forPart = true)
    (h : Opened run path rows k (run.target.sinkAfter calls (run.openedSink files))) :
    ((run.multiplexed files partCount generator).Answered calls more ↔
      run.outcomes.Writes run.tableName k (SinkCall.written more)) ∧
    ∃ rows' k', Opened run path rows' k'
        (run.target.sinkAfter (calls ++ more) (run.openedSink files)) ∧
      ((run.multiplexed files partCount generator).Answered calls more →
        rows' = rows ++ (SinkCall.written more).flatMap TableBatch.rows) := by
  induction more generalizing calls rows k with
  | nil =>
    rw [List.append_nil]
    exact ⟨iff_of_true trivial trivial, rows, k, h, fun _ => (List.append_nil rows).symm⟩
  | cons c more ih =>
    have hrest : ∀ c ∈ more, c.forPart = true := fun c hc => hmore c (List.mem_cons_of_mem _ hc)
    have hcalls : calls ++ c :: more = (calls ++ [c]) ++ more := by simp
    have hnext : run.target.sinkAfter (calls ++ [c]) (run.openedSink files) =
        (run.target.sinkCall c (run.target.sinkAfter calls (run.openedSink files))).2 :=
      sinkAfter_append _
    have hanswer : (run.multiplexed files partCount generator).sink calls c = .ok ↔
        (run.target.sinkCall c (run.target.sinkAfter calls (run.openedSink files))).1 = .ok :=
      ⟨Outcome.returned.inj, congrArg Outcome.returned⟩
    rw [hcalls, written_cons, NativeMultiplexed.Answered, hanswer]
    cases c with
    | openTable => exact absurd (hmore _ List.mem_cons_self) Bool.false_ne_true
    | close => exact absurd (hmore _ List.mem_cons_self) Bool.false_ne_true
    | beginPartition part =>
      have hbegin := h.beginPartition
      have hopened : Opened run path rows k
          (run.target.sinkAfter (calls ++ [.beginPartition part]) (run.openedSink files)) := by
        rw [hnext, FileTarget.sinkCall, hbegin]
        exact h.partitionOpen true
      obtain ⟨hiff, rows', k', hlast, hrows⟩ := ih hrest hopened
      have hok : (run.target.sinkCall (.beginPartition part)
          (run.target.sinkAfter calls (run.openedSink files))).1 = .ok := by
        rw [FileTarget.sinkCall, hbegin]
      rw [and_iff_right hok]
      exact ⟨hiff, rows', k', hlast, hrows⟩
    | endPartition =>
      have hopened : Opened run path rows k
          (run.target.sinkAfter (calls ++ [.endPartition]) (run.openedSink files)) := by
        rw [hnext]
        exact h.partitionOpen false
      obtain ⟨hiff, rows', k', hlast, hrows⟩ := ih hrest hopened
      have hok : (run.target.sinkCall .endPartition
          (run.target.sinkAfter calls (run.openedSink files))).1 = .ok := rfl
      rw [and_iff_right hok]
      exact ⟨hiff, rows', k', hlast, hrows⟩
    | writeBatch batch =>
      have hwritten : Written run path rows k batch (run.target.writeSinkBatch batch
          (run.target.sinkAfter calls (run.openedSink files))) := h.writeSinkBatch
      obtain ⟨rows₁, k₁, hopened, hadded⟩ := hwritten.opened
      rw [show SinkCall.written [SinkCall.writeBatch batch] ++ SinkCall.written more =
        batch :: SinkCall.written more from rfl, writes_cons]
      have hstate : Opened run path rows₁ k₁
          (run.target.sinkAfter (calls ++ [.writeBatch batch]) (run.openedSink files)) := by
        rw [hnext]
        exact hopened
      obtain ⟨hiff, rows', k', hlast, hrows⟩ := ih hrest hstate
      refine ⟨?_, rows', k', hlast, fun hall => ?_⟩
      · constructor
        · rintro ⟨hok, hall⟩
          obtain ⟨-, rfl⟩ := hadded hok
          exact ⟨hwritten.ok.mp hok, hiff.mp hall⟩
        · rintro ⟨hok, hall⟩
          have hcall := hwritten.ok.mpr hok
          obtain ⟨-, rfl⟩ := hadded hcall
          exact ⟨hcall, hiff.mpr hall⟩
      · obtain ⟨rfl, -⟩ := hadded hall.1
        rw [hrows hall.2, List.append_assoc]
        rfl

/-! ## The table in a single file -/

lemma sinkPath_ne : run.sinkPath ≠ "" :=
  joinPath_ne (append_ne_left (append_ne_right _ (by decide)) _)

lemma openSink_ok (hnew : Absent run.sinkPath (.new files)) :
    (run.target.openSink (.new files)).1 = .ok ↔ run.Opens :=
  openFile_ok hnew

lemma openedSink_opened (hnew : Absent run.sinkPath (.new files))
    (hopen : (run.target.openSink (.new files)).1 = .ok) :
    Opened run run.sinkPath [] 0 (run.target.sinkAfter [] (run.openedSink files)) :=
  openFile_opened hnew hopen

/-- Closing after calls for parts. -/
lemma sinkAfter_close (h : Opened run run.sinkPath rows k (run.target.sinkAfter calls s)) :
    (run.target.sinkAfter (calls ++ [.close]) s).world.files run.sinkPath =
      if run.outcomes.Closes then some rows else none := by
  rw [sinkAfter_append]
  exact (h.closeFile sinkPath_ne).2

lemma completeCalls_forPart {β : Type} (native : NativeMultiplexed β) (c : SinkCall β)
    (hc : c ∈ (List.range' 1 native.partCount).flatMap fun part =>
      blockCalls part (native.generator part).batches) : c.forPart = true := by
  obtain ⟨part, -, hmem⟩ := List.mem_flatMap.mp hc
  unfold blockCalls partCalls at hmem
  split at hmem
  · cases hmem
  · rcases List.mem_append.mp hmem with hmem | hmem
    · rcases List.mem_cons.mp hmem with rfl | hmem
      · rfl
      · obtain ⟨batch, -, rfl⟩ := List.mem_map.mp hmem
        rfl
    · rw [List.mem_singleton.mp hmem]
      rfl

lemma written_completeCalls {β : Type} (native : NativeMultiplexed β) :
    SinkCall.written ((List.range' 1 native.partCount).flatMap fun part =>
      blockCalls part (native.generator part).batches) =
        allBatches native.partCount native.generator := by
  rw [SinkCall.written_flatMap]
  simp only [NativeMultiplexed.written_blockCalls]
  rfl

variable (partCount generator) in
/-- The sink accepts the calls of a complete run exactly if all batches are written and it is
closed. -/
lemma accepts_iff (hnew : Absent run.sinkPath (.new files))
    (hopen : (run.target.openSink (.new files)).1 = .ok) :
    (run.multiplexed files partCount generator).Accepts ↔
      run.outcomes.Writes run.tableName 0 (allBatches partCount generator) ∧ run.outcomes.Closes := by
  have hparts := completeCalls_forPart (run.multiplexed files partCount generator)
  obtain ⟨hiff, rows, k, hlast, -⟩ :=
    answered_iff partCount generator hparts (openedSink_opened hnew hopen)
  rw [written_completeCalls] at hiff
  unfold NativeMultiplexed.Accepts NativeMultiplexed.completeCalls
  rw [NativeMultiplexed.answered_append, hiff]
  refine and_congr Iff.rfl ?_
  rw [← (hlast.closeFile sinkPath_ne).1]
  exact (and_iff_left trivial).trans ⟨Outcome.returned.inj, congrArg Outcome.returned⟩

/-- Nothing is published where the file is not opened or cannot be closed. -/
lemma sink_unpublished (hnew : Absent run.sinkPath (.new files))
    (h : run.SinkReturns files partCount generator actions rc final)
    (hfails : ¬ run.Opens ∨ ¬ run.outcomes.Closes) : final run.sinkPath = none := by
  cases h with
  | notOpened hopen => exact openFile_absent hnew
  | @ran hopen actions s _ hrun hreturned =>
    have hopens := (openSink_ok hnew).mp hopen
    obtain ⟨before, hcalls, hparts, -⟩ :=
      (NativeMultiplexed.callsInv_reachable ⟨actions, hrun⟩).returned rc hreturned
    obtain ⟨-, rows, k, hlast, -⟩ :=
      answered_iff partCount generator hparts (openedSink_opened hnew hopen)
    have hfile := sinkAfter_close hlast
    rw [List.nil_append, ← hcalls] at hfile
    rw [hfile, if_neg (hfails.resolve_left (not_not.mpr hopens))]

/-- Where the queue delivers, no incomplete file is published exactly if the file is not opened,
cannot be closed, or every part comes to its end and all batches are written. -/
lemma sink_neverIncomplete (hnew : Absent run.sinkPath (.new files))
    (hdelivers : run.SinkDelivers files partCount generator actions)
    (h : run.SinkReturns files partCount generator actions rc final) :
    NeverIncomplete rc (∀ part ∈ List.range' 1 partCount, (generator part).Completes)
        ((allBatches partCount generator).flatMap TableBatch.rows) (final run.sinkPath) ↔
      ¬ run.Opens ∨ ¬ run.outcomes.Closes ∨
        ((∀ part ∈ List.range' 1 partCount, (generator part).Completes) ∧
          run.outcomes.Writes run.tableName 0 (allBatches partCount generator)) := by
  by_cases hfails : ¬ run.Opens ∨ ¬ run.outcomes.Closes
  · rw [sink_unpublished hnew h hfails]
    exact iff_of_true OwnFile.neverIncomplete_none (or_assoc.mp (.inl hfails))
  · obtain ⟨hopens, hcloses⟩ := not_or.mp hfails
    rw [or_iff_right hopens, or_iff_right hcloses]
    rw [not_not] at hopens hcloses
    cases h with
    | notOpened hopen => exact absurd ((openSink_ok hnew).mpr hopens) hopen
    | @ran hopen actions s _ hrun hreturned =>
      have haccepts := accepts_iff partCount generator hnew hopen
      obtain ⟨before, hcalls, hparts, hzero⟩ :=
        (NativeMultiplexed.callsInv_reachable ⟨actions, hrun⟩).returned rc hreturned
      obtain ⟨-, rows, k, hlast, hrows⟩ :=
        answered_iff partCount generator hparts (openedSink_opened hnew hopen)
      have hfile := sinkAfter_close hlast
      rw [List.nil_append, ← hcalls, if_pos hcloses] at hfile
      rw [hfile]
      have hreturns : rc = 0 → (run.multiplexed files partCount generator).Returns 0
          s.consumer.calls := by
        rintro rfl
        exact ⟨s, ⟨actions, hrun⟩, hreturned, rfl⟩
      constructor
      · rintro ⟨hnone, -⟩
        have hrc : rc = 0 := by
          by_contra hrc
          cases hnone hrc
        obtain ⟨hall, hcompletes⟩ := (hreturns hrc).blocks
        refine ⟨hcompletes, (haccepts.mp ?_).1⟩
        have hanswered := hzero hrc
        rw [← hcalls, hall] at hanswered
        exact hanswered
      · rintro ⟨hcompletes, hwrites⟩
        have hrc : rc = 0 := NativeMultiplexed.returns_zero_of_accepts hcompletes
          (haccepts.mpr ⟨hwrites, hcloses⟩) hdelivers hrun hreturned
        refine ⟨fun h => absurd hrc h, fun found hfound => ⟨hcompletes, ?_⟩⟩
        obtain ⟨hall, -⟩ := (hreturns hrc).blocks
        have hbefore := List.append_cancel_right (hcalls.symm.trans hall)
        have hanswered := (NativeMultiplexed.answered_append.mp (hzero hrc)).1
        rw [← Option.some.inj hfound, hrows hanswered, hbefore,
          written_completeCalls (run.multiplexed files partCount generator)]
        rfl

/-- What holds exactly if one of two things fails or a third holds, and where one of the two fails in
any case, follows from the third alone. -/
lemma of_delivers {P opens closes nothing delivers : Prop}
    (hfails : ¬ opens ∨ ¬ closes → P) (hiff : delivers → (P ↔ ¬ opens ∨ ¬ closes ∨ nothing)) :
    (¬ opens ∨ ¬ closes ∨ nothing ∧ delivers → P) ∧
      (delivers → P → ¬ opens ∨ ¬ closes ∨ nothing) := by
  refine ⟨?_, fun hdelivers => (hiff hdelivers).mp⟩
  rintro (hopens | hcloses | ⟨hnothing, hdelivers⟩)
  · exact hfails (.inl hopens)
  · exact hfails (.inr hcloses)
  · exact (hiff hdelivers).mpr (.inr (.inr hnothing))

/-- Neither for a partition in its own file nor for a table in a single file is anything incomplete
published, if the file is not opened, cannot be closed, or nothing fails in between and the queue
delivers; and where the queue delivers only then. -/
theorem published_complete (run : FileRun ρ) (files : String → Option (List ρ)) :
    (∀ (own : OwnFile (FileWriter ρ) (TableBatch ρ)) (actions : List OwnFileAction)
      (s : OwnFileState (FileWriter ρ) (TableBatch ρ)) (rc : Int),
      own.writer = run.target.tableWriter own.part own.partCount →
      files (OwnFile.finalPath run own) = none →
      exec own.step (OwnFile.initial (.new files)) actions = some s → s.pc = .returned rc →
      (¬ OwnFile.OpensFile run own ∨ ¬ run.outcomes.Closes ∨ OwnFile.NothingFails run own ∧
          Along own.step OwnFile.Delivers (OwnFile.initial (.new files)) actions →
        NeverIncomplete rc (own.ends = .finished) (own.batches.flatMap TableBatch.rows)
          (s.writer.world.files (OwnFile.finalPath run own))) ∧
      (Along own.step OwnFile.Delivers (OwnFile.initial (.new files)) actions →
        NeverIncomplete rc (own.ends = .finished) (own.batches.flatMap TableBatch.rows)
          (s.writer.world.files (OwnFile.finalPath run own)) →
        ¬ OwnFile.OpensFile run own ∨ ¬ run.outcomes.Closes ∨ OwnFile.NothingFails run own)) ∧
    (∀ (partCount : Nat) (generator : Nat → PartGenerator (TableBatch ρ))
      (actions : List MultiplexAction) (rc : Int) (final : String → Option (List ρ)),
      files run.sinkPath = none → run.SinkReturns files partCount generator actions rc final →
      (¬ run.Opens ∨ ¬ run.outcomes.Closes ∨
          ((∀ part ∈ List.range' 1 partCount, (generator part).Completes) ∧
            run.outcomes.Writes run.tableName 0 (allBatches partCount generator)) ∧
          run.SinkDelivers files partCount generator actions →
        NeverIncomplete rc (∀ part ∈ List.range' 1 partCount, (generator part).Completes)
          ((allBatches partCount generator).flatMap TableBatch.rows) (final run.sinkPath)) ∧
      (run.SinkDelivers files partCount generator actions →
        NeverIncomplete rc (∀ part ∈ List.range' 1 partCount, (generator part).Completes)
          ((allBatches partCount generator).flatMap TableBatch.rows) (final run.sinkPath) →
        ¬ run.Opens ∨ ¬ run.outcomes.Closes ∨
          ((∀ part ∈ List.range' 1 partCount, (generator part).Completes) ∧
            run.outcomes.Writes run.tableName 0 (allBatches partCount generator)))) := by
  constructor
  · intro own actions s rc hwriter hnew hrun hreturned
    refine of_delivers (fun hfails => ?_) fun hdelivers =>
      OwnFile.ownFile_neverIncomplete hwriter hnew hdelivers hrun hreturned
    rw [OwnFile.ownFile_unpublished hwriter hnew hrun hreturned hfails]
    exact OwnFile.neverIncomplete_none
  · intro partCount generator actions rc final hnew hreturns
    refine of_delivers (fun hfails => ?_) fun hdelivers =>
      sink_neverIncomplete hnew hdelivers hreturns
    rw [sink_unpublished hnew hreturns hfails]
    exact OwnFile.neverIncomplete_none

/-! ### Two rows -/

/-- All calls succeed. -/
def nation (format : TableFormat) : FileRun Nat where
  format := format
  tableName := "nation"
  outputBufferBytes := 0
  getFilesystem := .ok
  getPath := .ok
  baseDir := "out"
  outcomes := ⟨.ok, .ok, .ok, .ok, .ok, .ok, fun _ => .ok, .ok, .ok, .ok⟩
  torn := fun _ => []

def nationFile (ends : GeneratorEnd) : OwnFile (FileWriter Nat) (TableBatch Nat) where
  tableName := "nation"
  formatName := "parquet"
  part := 1
  partCount := 1
  create := .ready
  hasWriter := true
  writer := (nation .parquet).target.tableWriter 1 1
  reset := none
  batches := [⟨some "nation", [0, 1]⟩]
  ends := ends

def nationPart : Nat → PartGenerator (TableBatch Nat) :=
  fun _ => ⟨.ready, [⟨some "nation", [0, 1]⟩], .finished⟩

def noFiles : String → Option (List Nat) := fun _ => none

/-- The part is written before it is popped. -/
def nationActions : List MultiplexAction :=
  List.replicate 9 (.producer 1 9) ++ List.replicate 4 (.consumer 9)

lemma nation_returns :
    ∃ final, (nation .orc).SinkReturns noFiles 1 nationPart nationActions 0 final := by
  have hends : (exec ((nation .orc).multiplexed noFiles 1 nationPart).step
      ((nation .orc).multiplexed noFiles 1 nationPart).initial nationActions).map (fun s => s.pc) =
        some (.returned 0) := by decide
  obtain ⟨s, hrun, hreturned⟩ := Option.map_eq_some_iff.mp hends
  exact ⟨_, .ran (by decide) hrun hreturned⟩

lemma nation_delivers : (nation .orc).SinkDelivers noFiles 1 nationPart nationActions := by
  unfold SinkDelivers
  decide

lemma nation_nothingFails :
    OwnFile.NothingFails (nation .parquet) (nationFile .finished) :=
  ⟨rfl, rfl, rfl, rfl, trivial⟩

theorem published_complete_nation :
    (∃ s, exec (nationFile .finished).step (OwnFile.initial (.new noFiles))
        (OwnFile.threadFirst 5 3) = some s ∧ s.pc = .returned 0 ∧
      NeverIncomplete 0 ((nationFile .finished).ends = .finished) [0, 1]
        (s.writer.world.files (OwnFile.finalPath (nation .parquet) (nationFile .finished)))) ∧
    (∃ final, (nation .orc).SinkReturns noFiles 1 nationPart nationActions 0 final ∧
      NeverIncomplete 0 (∀ part ∈ List.range' 1 1, (nationPart part).Completes) [0, 1]
        (final (nation .orc).sinkPath)) := by
  have hends : (exec (nationFile .finished).step (OwnFile.initial (.new noFiles))
      (OwnFile.threadFirst 5 3)).map (fun s => s.pc) = some (.returned 0) := by decide
  obtain ⟨s, hrun, hreturned⟩ := Option.map_eq_some_iff.mp hends
  obtain ⟨final, hfinal⟩ := nation_returns
  have hcompletes : ∀ part ∈ List.range' 1 1, (nationPart part).Completes :=
    fun _ _ => ⟨rfl, rfl⟩
  exact ⟨⟨s, hrun, hreturned, ((published_complete (nation .parquet) noFiles).1 _ _ s 0 rfl rfl hrun
      hreturned).1 (.inr (.inr ⟨nation_nothingFails, by decide⟩))⟩,
    final, hfinal, ((published_complete (nation .orc) noFiles).2 1 nationPart nationActions 0 final rfl
      hfinal).1 (.inr (.inr ⟨⟨hcompletes, rfl, rfl, trivial⟩, nation_delivers⟩))⟩

/-- The generator throws after its first batch: the function returns 2 and leaves that batch at the
final path. -/
theorem cleanup_publishes :
    ∃ s, Along (nationFile (.threw (.exception "no text pool"))).step OwnFile.Delivers
        (OwnFile.initial (.new noFiles)) (OwnFile.threadFirst 6 6) ∧
      exec (nationFile (.threw (.exception "no text pool"))).step (OwnFile.initial (.new noFiles))
        (OwnFile.threadFirst 6 6) = some s ∧ s.pc = .returned 2 ∧
      noFiles "out/nation/nation-1.parquet" = none ∧
      s.writer.world.files "out/nation/nation-1.parquet" = some [0, 1] := by
  have hends : (exec (nationFile (.threw (.exception "no text pool"))).step
      (OwnFile.initial (.new noFiles)) (OwnFile.threadFirst 6 6)).map
        (fun s => (s.pc, s.writer.world.files "out/nation/nation-1.parquet")) =
      some (.returned 2, some [0, 1]) := by decide
  obtain ⟨s, hrun, hs⟩ := Option.map_eq_some_iff.mp hends
  exact ⟨s, by decide, hrun, congrArg Prod.fst hs, rfl, congrArg Prod.snd hs⟩

end FileRun

end Schengen.Storage
