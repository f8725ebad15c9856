import Schengen.Storage.OwnFileComplete
import Schengen.Storage.Publishing

/-!
# What a partition in its own file leaves behind

`GeneratePartitionToOwnFile` with the writer of Parquet or of ORC files. Every way out of an open
partition closes it, and closing it publishes what was written so far.
-/

namespace Schengen.Storage
open Library

variable {ρ : Type}

/-- A file at the final path is complete, and there is none unless the function returns 0. -/
def NeverIncomplete (rc : Int) (complete : Prop) (rows : List ρ) (contents : Option (List ρ)) :
    Prop :=
  (rc ≠ 0 → contents = none) ∧ ∀ found, contents = some found → complete ∧ found = rows

namespace OwnFile
open FileRun

variable {run : FileRun ρ} {own : OwnFile (FileWriter ρ) (TableBatch ρ)}
  {files : String → Option (List ρ)} {rows : List ρ} {k : Nat} {path : String}
  {w : FileWriter ρ} {t : OwnFileState (FileWriter ρ) (TableBatch ρ)} {rc : Int}

def finalPath (run : FileRun ρ) (own : OwnFile (FileWriter ρ) (TableBatch ρ)) : String :=
  joinPath run.tableDir (run.buildPartitionFileName own.part own.partCount)

/-- The generator is created and the file opened. -/
structure OpensFile (run : FileRun ρ) (own : OwnFile (FileWriter ρ) (TableBatch ρ)) : Prop where
  create : own.create = .ready
  hasWriter : own.hasWriter = true
  lower : 1 ≤ own.part
  upper : own.part ≤ own.partCount
  opens : run.Opens

/-- The generator is reset and comes to its end, and all batches are written. -/
structure NothingFails (run : FileRun ρ) (own : OwnFile (FileWriter ρ) (TableBatch ρ)) : Prop where
  reset : own.reset = none
  ends : own.ends = .finished
  writes : run.outcomes.Writes run.tableName 0 own.batches

/-! ## The calls on the writer -/

lemma buildPartitionFileName_ne (settings : FileSettings) (partNum partCount : Int) :
    settings.buildPartitionFileName partNum partCount ≠ "" := by
  unfold FileSettings.buildPartitionFileName
  split
  · exact append_ne_left (append_ne_right _ (by decide)) _
  · exact append_ne_left (append_ne_right _ (by decide)) _

lemma finalPath_ne : finalPath run own ≠ "" :=
  joinPath_ne (buildPartitionFileName_ne _ _ _)

lemma openPartition_new {partNum partCount : Int} :
    run.target.openPartition partNum partCount (.new files) =
      if partNum < 1 ∨ partCount < 1 ∨ partCount < partNum then
        (.error "Invalid" "Invalid partition range", .new files)
      else run.target.openFile (run.buildPartitionFileName partNum partCount) (.new files) :=
  rfl

lemma openPartition_absent (hnew : Absent (finalPath run own) (.new files)) :
    Absent (finalPath run own)
      (run.target.openPartition own.part own.partCount (.new files)).2 := by
  rw [openPartition_new]
  split
  · exact hnew
  · exact openFile_absent hnew

lemma openPartition_ok (hnew : Absent (finalPath run own) (.new files)) :
    (run.target.openPartition own.part own.partCount (.new files)).1 = .ok ↔
      (1 ≤ own.part ∧ own.part ≤ own.partCount) ∧ run.Opens := by
  rw [openPartition_new]
  by_cases hrange : (own.part : Int) < 1 ∨ (own.partCount : Int) < 1 ∨
      (own.partCount : Int) < (own.part : Int)
  · rw [if_pos hrange]
    refine iff_of_false (fun h => nomatch h) fun h => ?_
    omega
  · rw [if_neg hrange, openFile_ok hnew]
    exact (and_iff_right (by omega)).symm

lemma openPartition_opened (hnew : Absent (finalPath run own) (.new files))
    (hok : (run.target.openPartition own.part own.partCount (.new files)).1 = .ok) :
    Opened run (finalPath run own) [] 0
      (run.target.openPartition own.part own.partCount (.new files)).2 := by
  rw [openPartition_new] at hok ⊢
  split at hok
  · cases hok
  · next hrange =>
    rw [if_neg hrange]
    exact openFile_opened hnew hok

lemma openPartition_fresh
    (hok : (run.target.openPartition own.part own.partCount (.new files)).1 = .ok) :
    Absent (finalPath run own) (.new files) := by
  rw [openPartition_new] at hok
  split at hok
  · cases hok
  · exact openFile_new hok

/-- Writing keeps the writer open, and succeeds exactly if every call does. -/
lemma writeAll_opened {partNum partCount : Int} (batches : List (TableBatch ρ))
    (h : Opened run path rows k w) :
    (((run.target.tableWriter partNum partCount).writeAll batches w).1 = .ok ↔
      run.outcomes.Writes run.tableName k batches) ∧
    ∃ rows' k', Opened run path rows' k'
        ((run.target.tableWriter partNum partCount).writeAll batches w).2 ∧
      (((run.target.tableWriter partNum partCount).writeAll batches w).1 = .ok →
        rows' = rows ++ batches.flatMap TableBatch.rows) := by
  induction batches generalizing rows k w with
  | nil => exact ⟨iff_of_true rfl trivial, rows, k, h, fun _ => (List.append_nil rows).symm⟩
  | cons batch batches ih =>
    have hwritten : Written run path rows k batch (run.target.writeBatch batch w) := h.writeBatch
    obtain ⟨rows', k', hopened, hadded⟩ := hwritten.opened
    have houtcome : ((run.target.tableWriter partNum partCount).writeBatch batch w).1 = .ok ↔
        (run.target.writeBatch batch w).1 = .ok :=
      ⟨Outcome.returned.inj, congrArg Outcome.returned⟩
    rw [writes_cons]
    unfold TableWriter.writeAll
    by_cases hok : (run.target.writeBatch batch w).1 = .ok
    · obtain ⟨rfl, rfl⟩ := hadded hok
      simp only [if_pos (houtcome.mpr hok)]
      obtain ⟨hrest, rows'', k'', hopened', hadded'⟩ := ih hopened
      refine ⟨hrest.trans (and_iff_right (hwritten.ok.mp hok)).symm, rows'', k'', hopened', ?_⟩
      intro hall
      rw [hadded' hall, List.append_assoc]
      rfl
    · have hnot := mt houtcome.mp hok
      simp only [if_neg hnot]
      exact ⟨iff_of_false hnot fun hwrites => hok (hwritten.ok.mpr hwrites.1), rows', k', hopened,
        fun h => absurd h hnot⟩

/-! ## The ends of the function -/

/-- Where the file is not opened, no thread is started. -/
lemma start_ends (hwriter : own.writer = run.target.tableWriter own.part own.partCount)
    (hnew : Absent (finalPath run own) (.new files)) (hclosed : ¬ OpensFile run own) :
    Ends (own.start (initial (.new files))) ∧
      (own.start (initial (.new files))).producer = .notStarted ∧
      Absent (finalPath run own) (own.start (initial (.new files))).writer := by
  have hopen : (own.writer.openPartition (.new files)).1 = .ok ↔
      (1 ≤ own.part ∧ own.part ≤ own.partCount) ∧ run.Opens := by
    rw [hwriter, ← openPartition_ok hnew]
    exact ⟨Outcome.returned.inj, congrArg Outcome.returned⟩
  unfold start
  cases hcreate : own.create with
  | missing => exact ⟨.inl ⟨2, rfl⟩, rfl, hnew⟩
  | threw thrown => exact ⟨.inl ⟨2, rfl⟩, rfl, hnew⟩
  | ready =>
    simp only
    by_cases hhas : own.hasWriter = true
    · have hfailed : (own.writer.openPartition (.new files)).1 ≠ .ok := by
        intro hopened
        obtain ⟨⟨hlower, hupper⟩, hopens⟩ := hopen.mp hopened
        exact hclosed ⟨hcreate, hhas, hlower, hupper, hopens⟩
      have habsent : Absent (finalPath run own) (own.writer.openPartition (.new files)).2 := by
        rw [hwriter]
        exact openPartition_absent hnew
      rw [if_pos hhas]
      split
      · next hok => exact absurd hok hfailed
      · exact ⟨.inl ⟨2, rfl⟩, rfl, habsent⟩
      · exact ⟨.inl ⟨2, rfl⟩, rfl, habsent⟩
    · rw [if_neg hhas]
      exact ⟨.inl ⟨2, rfl⟩, rfl, hnew⟩

/-- Where the file is not opened, there is none at the end. -/
lemma exec_absent (hwriter : own.writer = run.target.tableWriter own.part own.partCount)
    (hnew : Absent (finalPath run own) (.new files)) (hclosed : ¬ OpensFile run own)
    {actions : List OwnFileAction} {s : OwnFileState (FileWriter ρ) (TableBatch ρ)}
    (hrun : exec own.step (initial (.new files)) actions = some s) :
    Absent (finalPath run own) s.writer := by
  obtain ⟨hends, hthread, habsent⟩ := start_ends hwriter hnew hclosed
  have hstates : s = initial (.new files) ∨ s = own.start (initial (.new files)) := by
    refine Reachable.invariant (I := fun s => s = initial (.new files) ∨
      s = own.start (initial (.new files))) (.inl rfl) (fun s action t h hstep => ?_) ⟨actions, hrun⟩
    rcases h with rfl | rfl
    · cases action with
      | producer keep => cases hstep
      | consumer keep => exact .inr (Option.some.inj hstep).symm
    · cases action with
      | producer keep =>
        simp only [step, producerStep, hthread] at hstep
        cases hstep
      | consumer keep =>
        rcases hends with ⟨rc, hpc⟩ | ⟨thrown, hpc⟩
        · simp only [step, consumerStep, hpc] at hstep
          cases hstep
        · simp only [step, consumerStep, hpc] at hstep
          cases hstep
  rcases hstates with rfl | rfl
  · exact hnew
  · exact habsent

variable (run) in
/-- The writer of the file never throws. -/
lemma closePartition_eq (hwriter : own.writer = run.target.tableWriter own.part own.partCount)
    (w : FileWriter ρ) : own.writer.closePartition w =
      (.returned (run.target.closeFile w).1, (run.target.closeFile w).2) := by
  rw [hwriter]
  rfl

lemma caught_writer (hwriter : own.writer = run.target.tableWriter own.part own.partCount)
    (thrown : Thrown) (s : OwnFileState (FileWriter ρ) (TableBatch ρ)) :
    (own.caught true thrown s).writer = (run.target.closeFile s.writer).2 := by
  simp only [caught, if_true, reportError, closePartition_eq run hwriter]
  cases (run.target.closeFile s.writer).1 <;> rfl

lemma finish_writer (hwriter : own.writer = run.target.tableWriter own.part own.partCount)
    (s : OwnFileState (FileWriter ρ) (TableBatch ρ)) :
    (own.finish s).writer = (run.target.closeFile s.writer).2 := by
  simp only [finish, reportError, closePartition_eq run hwriter]
  split <;> cases (run.target.closeFile s.writer).1 <;> rfl

/-- The file is open from the start of the thread to the end of the function, which closes it. -/
inductive FileLife (run : FileRun ρ) (own : OwnFile (FileWriter ρ) (TableBatch ρ))
    (files : String → Option (List ρ)) (s : OwnFileState (FileWriter ρ) (TableBatch ρ)) : Prop
  | new (hs : s = initial (.new files))
  | opened (rows : List ρ) (k : Nat) (hstarted : s.pc ≠ .start) (hends : ¬ Ends s)
      (h : Opened run (finalPath run own) rows k s.writer)
  | closed (rows : List ρ) (k : Nat) (w : FileWriter ρ) (hends : Ends s)
      (h : Opened run (finalPath run own) rows k w) (hclosed : s.writer = (run.target.closeFile w).2)
  | terminated (hpc : s.pc = .terminated)

lemma fileLife_start (hwriter : own.writer = run.target.tableWriter own.part own.partCount)
    (hnew : Absent (finalPath run own) (.new files)) (hopens : OpensFile run own) :
    FileLife run own files (own.start (initial (.new files))) := by
  have hok := (openPartition_ok hnew).mpr ⟨⟨hopens.lower, hopens.upper⟩, hopens.opens⟩
  have hopened := openPartition_opened hnew hok
  have hopenable : (own.writer.openPartition (.new files)).1 = .ok := by
    rw [hwriter]
    exact congrArg Outcome.returned hok
  have hsame : (own.writer.openPartition (.new files)).2 =
      (run.target.openPartition own.part own.partCount (.new files)).2 := by
    rw [hwriter]
    rfl
  cases hreset : own.reset with
  | none =>
    have hloop : (own.start (initial (.new files))).pc = .pop :=
      start_pop_iff.mpr ⟨hopens.create, hopens.hasWriter, hreset, hopenable⟩
    refine .opened [] 0 (by rw [hloop]; simp) ?_ ?_
    · rintro (⟨rc, hpc⟩ | ⟨thrown, hpc⟩)
      · cases hloop.symm.trans hpc
      · cases hloop.symm.trans hpc
    · rw [start_writer hloop, hsame]
      exact hopened
  | some thrown =>
    have hcaught : own.start (initial (.new files)) = own.caught true thrown
        { initial (FileWriter.new files) with
          writer := (own.writer.openPartition (.new files)).2 } := by
      have hreturned : (own.writer.openPartition
          (initial (FileWriter.new files) : OwnFileState (FileWriter ρ) (TableBatch ρ)).writer).1 =
            .returned .ok := hopenable
      unfold start
      simp only [hopens.create, hopens.hasWriter, if_true, hreturned, hreset]
      rfl
    rw [hcaught]
    refine .closed [] 0 _ (caught_ends own true thrown _) hopened ?_
    rw [caught_writer hwriter, hsame]

lemma fileLife_step (hwriter : own.writer = run.target.tableWriter own.part own.partCount)
    (hnew : Absent (finalPath run own) (.new files)) (hopens : OpensFile run own)
    {s t : OwnFileState (FileWriter ρ) (TableBatch ρ)} {action : OwnFileAction}
    (h : FileLife run own files s) (hstep : own.step s action = some t) :
    FileLife run own files t := by
  cases action with
  | producer keep =>
    have hsame := producerStep_outcome hstep
    have hpc : t.pc = s.pc := congrArg Prod.fst hsame
    have hw : t.writer = s.writer := congrArg (fun o => o.2.1) hsame
    have hends : Ends t ↔ Ends s := by rw [Ends, hpc]; rfl
    cases h with
    | new hs =>
      subst hs
      cases hstep
    | opened rows k hstarted hnot h =>
      exact .opened rows k (hpc ▸ hstarted) (mt hends.mp hnot) (hw ▸ h)
    | closed rows k w hend h hclosed => exact .closed rows k w (hends.mpr hend) h (hw.trans hclosed)
    | terminated hterminated => exact .terminated (hpc.trans hterminated)
  | consumer keep =>
    cases h with
    | new hs =>
      subst hs
      obtain rfl := Option.some.inj hstep
      exact fileLife_start hwriter hnew hopens
    | opened rows k hstarted hnot h =>
      by_cases hjoin : s.pc = .join
      · simp only [step, consumerStep, hjoin] at hstep
        split at hstep
        · obtain rfl := Option.some.inj hstep
          exact .closed rows k s.writer (finish_ends own s) h (finish_writer hwriter s)
        · cases hstep
      · have hmoves := loopMoves hstep hstarted hjoin
        obtain ⟨hstarted', hends'⟩ := hmoves.pc
        cases hmoves with
        | receive message queue hpc hpop =>
          cases message with
          | error error => exact .opened rows k hstarted' hends' h
          | batch batch =>
            by_cases hstop : s.stopRequested = true
            · have hkept : (own.handleMessage { s with
                  queue := queue, popped := s.popped ++ [.batch batch] } (.batch batch)).writer =
                    s.writer := by
                simp only [handleMessage, hstop, if_true]
              exact .opened rows k hstarted' hends' (by rw [hkept]; exact h)
            · have hwritten : Written run (finalPath run own) rows k batch
                  (run.target.writeBatch batch s.writer) := h.writeBatch
              obtain ⟨rows', k', hopened, -⟩ := hwritten.opened
              have hnext : (own.handleMessage { s with
                  queue := queue, popped := s.popped ++ [.batch batch] } (.batch batch)).writer =
                    (run.target.writeBatch batch s.writer).2 := by
                simp only [handleMessage, hstop, Bool.false_eq_true, if_false, hwriter]
                split <;> rfl
              exact .opened rows' k' hstarted' hends' (hnext ▸ hopened)
        | drained hpc hpop hclosed => exact .opened rows k hstarted' hends' h
        | stop hpc => exact .opened rows k hstarted' hends' h
        | close hpc => exact .opened rows k hstarted' hends' h
    | closed rows k w hend h hclosed =>
      rcases hend with ⟨rc, hpc⟩ | ⟨thrown, hpc⟩
      · simp only [step, consumerStep, hpc] at hstep
        cases hstep
      · simp only [step, consumerStep, hpc] at hstep
        cases hstep
    | terminated hpc =>
      simp only [step, consumerStep, hpc] at hstep
      cases hstep

/-- Every way out of an open partition closes it, whatever the queue loses. -/
lemma exec_closed (hwriter : own.writer = run.target.tableWriter own.part own.partCount)
    (hnew : Absent (finalPath run own) (.new files)) (hopens : OpensFile run own)
    {actions : List OwnFileAction} {s : OwnFileState (FileWriter ρ) (TableBatch ρ)}
    (hrun : exec own.step (initial (.new files)) actions = some s) (hreturned : s.pc = .returned rc) :
    ∃ rows k w, Opened run (finalPath run own) rows k w ∧ s.writer = (run.target.closeFile w).2 := by
  have hlife : FileLife run own files s :=
    Reachable.invariant (.new rfl)
      (fun _ _ _ h hstep => fileLife_step hwriter hnew hopens h hstep) ⟨actions, hrun⟩
  cases hlife with
  | new hs =>
    subst hs
    cases hreturned
  | opened rows k hstarted hends h => exact absurd (.inl ⟨rc, hreturned⟩) hends
  | closed rows k w hends h hclosed => exact ⟨rows, k, w, h, hclosed⟩
  | terminated hpc => cases hreturned.symm.trans hpc

/-- A 0 says that all batches were written and the file published. -/
lemma sequential_zero (hwriter : own.writer = run.target.tableWriter own.part own.partCount)
    (hnew : Absent (finalPath run own) (.new files))
    (hsequential : own.sequential (.new files) = some t) (hzero : t.pc = .returned 0) :
    own.reset = none ∧ run.outcomes.Writes run.tableName 0 own.batches ∧
      t.writer.world.files (finalPath run own) = some (own.batches.flatMap TableBatch.rows) := by
  obtain ⟨⟨-, -, hreset, -⟩, opened, written, hopen, hwritten, hclose⟩ :=
    sequential_zero_iff.mp ⟨t, hsequential, hzero, rfl⟩
  rw [hwriter] at hopen hwritten
  have hok : (run.target.openPartition own.part own.partCount (.new files)).1 = .ok :=
    Outcome.returned.inj (congrArg Prod.fst hopen)
  have hopened := openPartition_opened hnew hok
  have hsame : (run.target.openPartition own.part own.partCount (.new files)).2 = opened :=
    congrArg Prod.snd hopen
  rw [hsame] at hopened
  obtain ⟨hwrites, rows, k, hlast, hadded⟩ := writeAll_opened own.batches hopened
  have hall := congrArg Prod.fst hwritten
  have hlast' : Opened run (finalPath run own) rows k written := by
    rw [hwritten] at hlast
    exact hlast
  obtain ⟨hcloses, hfile⟩ := hlast'.closeFile finalPath_ne
  rw [closePartition_eq run hwriter] at hclose
  have hclosed := hcloses.mp (Outcome.returned.inj (congrArg Prod.fst hclose))
  have hwriter' : (run.target.closeFile written).2 = t.writer := congrArg Prod.snd hclose
  refine ⟨hreset, hwrites.mp hall, ?_⟩
  rw [← hwriter', hfile, if_pos hclosed, hadded hall]
  rfl

/-- If nothing fails and the file can be closed, the function returns 0. -/
lemma sequential_returns (hwriter : own.writer = run.target.tableWriter own.part own.partCount)
    (hnew : Absent (finalPath run own) (.new files)) (hopens : OpensFile run own)
    (hcloses : run.outcomes.Closes) (hnothing : NothingFails run own) :
    ∃ t, own.sequential (.new files) = some t ∧ t.pc = .returned 0 := by
  have hok := (openPartition_ok hnew).mpr ⟨⟨hopens.lower, hopens.upper⟩, hopens.opens⟩
  have hopened := openPartition_opened hnew hok
  obtain ⟨hwrites, rows, k, hlast, -⟩ := writeAll_opened own.batches hopened
  obtain ⟨hclosed, -⟩ := hlast.closeFile finalPath_ne
  have hend : own.endError = "" := by
    unfold endError
    rw [hnothing.ends]
  rw [← hwriter] at hwrites hclosed
  obtain ⟨t, hsequential, hzero, -⟩ := sequential_zero_iff.mpr
    ⟨⟨hopens.create, hopens.hasWriter, hnothing.reset, hend⟩,
      (run.target.openPartition own.part own.partCount (.new files)).2, _,
      by rw [hwriter]; exact Prod.ext (congrArg Outcome.returned hok) rfl,
      Prod.ext (hwrites.mpr hnothing.writes) rfl,
      by
        rw [closePartition_eq run hwriter]
        exact Prod.ext (congrArg Outcome.returned (hclosed.mpr hcloses)) rfl⟩
  exact ⟨t, hsequential, hzero⟩

/-- Nothing is published where the file is not opened or cannot be closed. -/
lemma ownFile_unpublished (hwriter : own.writer = run.target.tableWriter own.part own.partCount)
    (hnew : files (finalPath run own) = none) {actions : List OwnFileAction}
    {s : OwnFileState (FileWriter ρ) (TableBatch ρ)}
    (hrun : exec own.step (initial (.new files)) actions = some s) (hreturned : s.pc = .returned rc)
    (hfails : ¬ OpensFile run own ∨ ¬ run.outcomes.Closes) :
    s.writer.world.files (finalPath run own) = none := by
  by_cases hopens : OpensFile run own
  · obtain ⟨rows, k, w, hopened, hclosed⟩ := exec_closed hwriter hnew hopens hrun hreturned
    rw [hclosed, (hopened.closeFile finalPath_ne).2,
      if_neg (hfails.resolve_left (not_not.mpr hopens))]
  · exact exec_absent hwriter hnew hopens hrun

lemma neverIncomplete_none {complete : Prop} {rows : List ρ} :
    NeverIncomplete rc complete rows none :=
  ⟨fun _ => rfl, fun _ h => nomatch h⟩

/-- Where the queue delivers, no incomplete file is published exactly if the file is not opened,
cannot be closed, or nothing fails in between. -/
lemma ownFile_neverIncomplete (hwriter : own.writer = run.target.tableWriter own.part own.partCount)
    (hnew : files (finalPath run own) = none) {actions : List OwnFileAction}
    {s : OwnFileState (FileWriter ρ) (TableBatch ρ)}
    (hdelivers : Along own.step Delivers (initial (.new files)) actions)
    (hrun : exec own.step (initial (.new files)) actions = some s) (hreturned : s.pc = .returned rc) :
    NeverIncomplete rc (own.ends = .finished) (own.batches.flatMap TableBatch.rows)
        (s.writer.world.files (finalPath run own)) ↔
      ¬ OpensFile run own ∨ ¬ run.outcomes.Closes ∨ NothingFails run own := by
  by_cases hfails : ¬ OpensFile run own ∨ ¬ run.outcomes.Closes
  · rw [ownFile_unpublished hwriter hnew hrun hreturned hfails]
    exact iff_of_true neverIncomplete_none (or_assoc.mp (.inl hfails))
  · obtain ⟨hopens, hcloses⟩ := not_or.mp hfails
    rw [or_iff_right hopens, or_iff_right hcloses]
    rw [not_not] at hopens hcloses
    obtain ⟨t, hsequential, hsame⟩ := sequential_of_exec hdelivers hrun (.inl ⟨rc, hreturned⟩)
    have hpc : t.pc = .returned rc := (congrArg Prod.fst hsame).symm.trans hreturned
    have hfinal : s.writer = t.writer := congrArg (fun o => o.2.1) hsame
    obtain ⟨rows, k, w, hopened, hclosed⟩ := exec_closed hwriter hnew hopens hrun hreturned
    obtain ⟨-, hfile⟩ := hopened.closeFile finalPath_ne
    rw [← hclosed, if_pos hcloses] at hfile
    constructor
    · rintro ⟨hnone, hfound⟩
      have hrc : rc = 0 := by
        by_contra hrc
        rw [hnone hrc] at hfile
        cases hfile
      obtain ⟨hreset, hwrites, -⟩ := sequential_zero hwriter hnew hsequential (hrc ▸ hpc)
      exact ⟨hreset, (hfound rows hfile).1, hwrites⟩
    · intro hnothing
      obtain ⟨t', hsequential', hzero⟩ :=
        sequential_returns hwriter hnew hopens hcloses hnothing
      obtain rfl := Option.some.inj (hsequential.symm.trans hsequential')
      have hrc : rc = 0 := OwnFilePc.returned.inj (hpc.symm.trans hzero)
      obtain ⟨-, -, hrows⟩ := sequential_zero hwriter hnew hsequential hzero
      rw [hfinal]
      refine ⟨fun h => absurd hrc h, fun found hfound => ⟨hnothing.ends, ?_⟩⟩
      exact Option.some.inj (hfound.symm.trans hrows)

end OwnFile

end Schengen.Storage
