import Schengen.Library.Runs
import Schengen.Storage.Publishing

/-!
# The life cycle of a file writer

One `ParquetTableWriter` or `OrcTableWriter` through any sequence of calls, with every outcome
of the calls below it. `ClosePartition` gives up the format writer before it closes the stream
and moves the file, so that a failure there leaves the writer open without a format writer.
-/

namespace Schengen.Storage

open Schengen.Library

variable {ρ : Type}

/-- The calls on a table writer. -/
inductive FileWriterCall (ρ : Type)
  | openPartition (settings : FileSettings) (partNum partCount : Int)
  | writeBatch (batch : TableBatch ρ)
  | closePartition

namespace FileTarget
open FileWriter FileRun

variable (target : FileTarget ρ)

/-- A writer of the target's format for other settings. -/
def withSettings (settings : FileSettings) : FileTarget ρ :=
  ⟨{ settings with format := target.format }, target.fs⟩

def step (s : FileWriter ρ) : FileWriterCall ρ → Option (FileWriter ρ)
  | .openPartition settings partNum partCount =>
    some ((target.withSettings settings).openPartition partNum partCount s).2
  | .writeBatch batch => some (target.writeBatch batch s).2
  | .closePartition => some (target.closeFile s).2

/-- The format writer closes, and the stream then does not or the file is not moved. -/
def CommitFails (s : FileWriter ρ) : Prop :=
  target.fs.answer s.world.calls .closeWriter = .ok ∧
    ((s.hasSink = true ∧ target.fs.answer (s.world.calls ++ [.closeWriter]) .closeStream ≠ .ok) ∨
      (s.tempPath ≠ "" ∧ s.finalPath ≠ "" ∧
        target.fs.answer
          (s.world.calls ++ [.closeWriter] ++ if s.hasSink then [.closeStream] else [])
          (.move s.tempPath s.finalPath) ≠ .ok))

/-- What a call has to be for the writer to stay whole. -/
def Commits (s : FileWriter ρ) : FileWriterCall ρ → Prop
  | .closePartition => s.isOpen = true → ¬ target.CommitFails s
  | _ => True

end FileTarget

/-- An open writer has its format writer, and no call has gone through a null one. -/
structure FileWriter.Whole (s : FileWriter ρ) : Prop where
  writer : s.isOpen = true → s.hasWriter = true
  safe : s.nullDereference = false

namespace FileTarget
open FileWriter FileRun

variable {target : FileTarget ρ} {s t : FileWriter ρ}

lemma new_whole (files : String → Option (List ρ)) : (FileWriter.new files).Whole :=
  ⟨fun h => (nomatch h), rfl⟩

lemma openTemp_whole (hs : s.Whole) : (target.openTemp s).2.Whole := by
  refine andThen_keeps (P := Whole) ⟨hs.writer, hs.safe⟩ fun s hs => ?_
  split
  · exact hs
  · refine andThen_keeps (P := Whole) ⟨hs.writer, hs.safe⟩ fun s hs => ?_
    refine andThen_keeps (P := Whole) ?_ fun s hs => ?_
    · unfold openBuffer
      split
      · exact ⟨hs.writer, hs.safe⟩
      · exact ⟨hs.writer, hs.safe⟩
    · refine andThen_keeps (P := Whole) ⟨hs.writer, hs.safe⟩ fun s hs => ?_
      have hgroup : (target.openRowGroup { s with hasWriter := true }).2.hasWriter = true ∧
          (target.openRowGroup { s with hasWriter := true }).2.nullDereference = false := by
        unfold openRowGroup
        split
        · exact ⟨rfl, hs.safe⟩
        · exact ⟨rfl, hs.safe⟩
      have hopen := @andThen_keeps _ (fun s => s.hasWriter = true ∧ s.nullDereference = false) _
        (fun s => (.ok, { s with isOpen := true })) hgroup fun s hs => hs
      exact ⟨fun _ => hopen.1, hopen.2⟩

lemma openPartition_whole (partNum partCount : Int) (hs : s.Whole) :
    (target.openPartition partNum partCount s).2.Whole := by
  unfold openPartition openFile
  split
  · exact hs
  · split
    · exact hs
    · refine andThen_keeps (P := Whole) ⟨hs.writer, hs.safe⟩ fun s hs => ?_
      refine andThen_keeps (P := Whole) hs fun s hs => ?_
      refine andThen_keeps (P := Whole) ⟨hs.writer, hs.safe⟩ fun s hs => ?_
      exact openTemp_whole ⟨hs.writer, hs.safe⟩

lemma writeBatch_whole (batch : TableBatch ρ) (hs : s.Whole) :
    (target.writeBatch batch s).2.Whole := by
  unfold writeBatch writeRows
  split
  · exact hs
  · split
    · exact hs
    · split
      · exact hs
      · exact ⟨hs.writer, hs.safe⟩

/-! ## Closing -/

lemma andThen_of_failed {r : Status × FileWriter ρ} {next : FileWriter ρ → Status × FileWriter ρ}
    (h : r.1 ≠ .ok) : andThen r next = r :=
  if_neg h

/-- The stream closes, or there is none to close; only the stream and the calls change. -/
lemma closeStream_ok (h : s.hasSink = true → target.fs.answer s.world.calls .closeStream = .ok) :
    ∃ world, world.calls = s.world.calls ++ (if s.hasSink then [.closeStream] else []) ∧
      target.closeStream s = (.ok, { s with world := world, hasSink := false }) := by
  unfold closeStream
  cases hsink : s.hasSink with
  | false =>
    refine ⟨s.world, (List.append_nil _).symm, ?_⟩
    rw [if_neg (by simp), ← hsink]
  | true =>
    have hok : (target.call .closeStream s).1 = .ok := h hsink
    refine ⟨(target.call .closeStream s).2.world, rfl, ?_⟩
    rw [if_pos rfl, andThen_of_ok hok]
    rfl

variable (target) in
lemma closeStream_failed (hsink : s.hasSink = true)
    (h : target.fs.answer s.world.calls .closeStream ≠ .ok) :
    target.closeStream s = target.call .closeStream s := by
  have hfailed : (target.call .closeStream s).1 ≠ .ok := h
  unfold closeStream
  rw [if_pos hsink, andThen_of_failed hfailed]

variable (target) in
lemma moveFile_ok_iff : (target.moveFile s).1 = .ok ↔
    (s.tempPath ≠ "" → s.finalPath ≠ "" →
      target.fs.answer s.world.calls (.move s.tempPath s.finalPath) = .ok) := by
  unfold moveFile
  by_cases hpaths : s.tempPath ≠ "" ∧ s.finalPath ≠ ""
  · rw [if_pos hpaths]
    exact ⟨fun h _ _ => h, fun h => h hpaths.1 hpaths.2⟩
  · rw [if_neg hpaths]
    exact iff_of_true rfl fun htemp hfinal => absurd ⟨htemp, hfinal⟩ hpaths

variable (target) in
lemma moveFile_fields (s : FileWriter ρ) : (target.moveFile s).2.isOpen = s.isOpen ∧
    (target.moveFile s).2.hasWriter = s.hasWriter ∧
    (target.moveFile s).2.nullDereference = s.nullDereference := by
  unfold moveFile
  split
  · exact ⟨rfl, rfl, rfl⟩
  · exact ⟨rfl, rfl, rfl⟩

/-- The end of `ClosePartition`, after `writer_.reset()`. -/
def commit (target : FileTarget ρ) (s : FileWriter ρ) : Status × FileWriter ρ :=
  andThen (target.closeStream s) fun s =>
    andThen (target.moveFile s) fun s =>
      (.ok, { s with
        table := none, tempPath := "", finalPath := "", isOpen := false, partitionOpen := false })

variable (target) in
/-- Without the format writer, only a commit that succeeds leaves a whole writer. -/
lemma commit_whole_iff (hopen : s.isOpen = true) (hwriter : s.hasWriter = false)
    (hsafe : s.nullDereference = false) : (target.commit s).2.Whole ↔
      (s.hasSink = true → target.fs.answer s.world.calls .closeStream = .ok) ∧
      (s.tempPath ≠ "" → s.finalPath ≠ "" →
        target.fs.answer (s.world.calls ++ if s.hasSink then [.closeStream] else [])
          (.move s.tempPath s.finalPath) = .ok) := by
  have hlost : ∀ t : FileWriter ρ, t.isOpen = true → t.hasWriter = false → ¬ t.Whole := by
    intro t htopen htwriter hwhole
    rw [hwhole.writer htopen] at htwriter
    cases htwriter
  unfold commit
  by_cases hstream : s.hasSink = true → target.fs.answer s.world.calls .closeStream = .ok
  · obtain ⟨world, hcalls, hstreamed⟩ := closeStream_ok hstream
    rw [hstreamed, andThen_of_ok rfl, ← hcalls]
    have hmoved := moveFile_ok_iff target
      (s := { s with world := world, hasSink := false })
    obtain ⟨hfields, hfields', hfields''⟩ := moveFile_fields target
      { s with world := world, hasSink := false }
    by_cases hmove : (target.moveFile { s with world := world, hasSink := false }).1 = .ok
    · rw [andThen_of_ok hmove]
      refine iff_of_true ⟨?_, hfields''.trans hsafe⟩ ⟨hstream, hmoved.mp hmove⟩
      exact fun h => nomatch h
    · rw [andThen_of_failed hmove]
      refine iff_of_false (hlost _ (hfields.trans hopen) (hfields'.trans hwriter)) ?_
      exact fun h => hmove (hmoved.mpr h.2)
  · obtain ⟨hsink, hfailed⟩ := Classical.not_imp.mp hstream
    have hstreamed := closeStream_failed target hsink hfailed
    have hstatus : (target.closeStream s).1 ≠ .ok := by
      rw [hstreamed]
      exact hfailed
    rw [andThen_of_failed hstatus, hstreamed]
    exact iff_of_false (hlost _ hopen hwriter) fun h => hstream h.1

/-- `ClosePartition` leaves a whole writer unless it fails after the format writer was closed. -/
lemma closeFile_whole_iff (hs : s.Whole) (hopen : s.isOpen = true) :
    (target.closeFile s).2.Whole ↔ ¬ target.CommitFails s := by
  unfold closeFile
  rw [if_pos hopen, if_pos (hs.writer hopen)]
  by_cases hclose : (target.call .closeWriter s).1 = .ok
  · rw [andThen_of_ok hclose]
    refine (commit_whole_iff target
      (s := { (target.call .closeWriter s).2 with hasWriter := false }) hopen rfl hs.safe).trans ?_
    have hanswer : target.fs.answer s.world.calls .closeWriter = .ok := hclose
    unfold CommitFails
    constructor
    · rintro ⟨hstream, hmove⟩ ⟨-, ⟨hsink, hfailed⟩ | ⟨htemp, hfinal, hfailed⟩⟩
      · exact hfailed (hstream hsink)
      · exact hfailed (hmove htemp hfinal)
    · intro hcommits
      refine ⟨fun hsink => ?_, fun htemp hfinal => ?_⟩
      · by_contra hfailed
        exact hcommits ⟨hanswer, Or.inl ⟨hsink, hfailed⟩⟩
      · by_contra hfailed
        exact hcommits ⟨hanswer, Or.inr ⟨htemp, hfinal, hfailed⟩⟩
  · rw [andThen_of_failed hclose]
    exact iff_of_true ⟨fun _ => hs.writer hopen, hs.safe⟩ fun h => hclose h.1

lemma closeFile_closed (hopen : s.isOpen = false) : target.closeFile s = (.ok, s) := by
  unfold closeFile
  rw [hopen]
  rfl

/-! ## Any sequence of calls -/

lemma step_whole_iff (hs : s.Whole) (c : FileWriterCall ρ) (h : target.step s c = some t) :
    t.Whole ↔ target.Commits s c := by
  cases c with
  | openPartition settings partNum partCount =>
    cases h
    exact iff_of_true (openPartition_whole partNum partCount hs) trivial
  | writeBatch batch =>
    cases h
    exact iff_of_true (writeBatch_whole batch hs) trivial
  | closePartition =>
    cases h
    cases hopen : s.isOpen with
    | false =>
      rw [closeFile_closed hopen]
      exact iff_of_true hs fun h => by rw [hopen] at h; cases h
    | true =>
      refine (closeFile_whole_iff hs hopen).trans ⟨fun h _ => h, fun h => h hopen⟩

variable (target) in
lemma exec_total (s : FileWriter ρ) (calls : List (FileWriterCall ρ)) :
    ∃ t, exec target.step s calls = some t := by
  induction calls generalizing s with
  | nil => exact ⟨s, rfl⟩
  | cons c calls ih =>
    cases c with
    | openPartition settings partNum partCount => exact ih _
    | writeBatch batch => exact ih _
    | closePartition => exact ih _

/-- A writer is whole in every state of its life where no `ClosePartition` closes the format writer
and then fails. -/
theorem step_lifeCycle (target : FileTarget ρ) (files : String → Option (List ρ))
    (calls : List (FileWriterCall ρ)) :
    (∀ made rest s, calls = made ++ rest → exec target.step (.new files) made = some s → s.Whole) ↔
      Along target.step target.Commits (.new files) calls := by
  obtain ⟨t, hrun⟩ := exec_total target (.new files) calls
  refine along_iff_invariant (I := Whole) (fun _ hs => hs) (fun s c t hs hguard h => ?_)
    (fun s c t hs hbad h hwhole => ?_) (new_whole files) hrun
  · exact (step_whole_iff hs c h).mpr hguard
  · exact hbad ((step_whole_iff hs c h).mp hwhole)

/-- A file system that moves no file. -/
def withoutMoves (format : TableFormat) : FileTarget Nat where
  format := format
  tableName := "part"
  outputBufferBytes := 0
  getFilesystem := .ok
  getPath := .ok
  baseDir := "out"
  fs := ⟨fun _ c =>
    match c with
    | .move _ _ => .error "IOError" "rename failed"
    | _ => .ok, fun _ => []⟩

/-- Both writers go through a null `writer_` in the `ClosePartition` after one that could not move
the file. -/
theorem step_lifeCycle_withoutMoves :
    ¬ (∀ made rest s,
        [.openPartition (withoutMoves .parquet).toFileSettings 1 1, .closePartition,
          .closePartition] = made ++ rest →
        exec (withoutMoves .parquet).step (.new fun _ => none) made = some s → s.Whole) ∧
    ¬ (∀ made rest s,
        [.openPartition (withoutMoves .orc).toFileSettings 1 1, .closePartition,
          .closePartition] = made ++ rest →
        exec (withoutMoves .orc).step (.new fun _ => none) made = some s → s.Whole) := by
  refine ⟨fun h => ?_, fun h => ?_⟩
  · exact absurd (h _ [] _ (List.append_nil _).symm rfl).safe (by decide)
  · exact absurd (h _ [] _ (List.append_nil _).symm rfl).safe (by decide)

end FileTarget

end Schengen.Storage
