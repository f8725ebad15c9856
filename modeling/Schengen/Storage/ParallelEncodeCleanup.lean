import Schengen.Storage.MergeOutcome

/-!
# What the parallel Parquet encoder leaves behind

The temporary file is deleted where the merge noted an error, and moved where everything
succeeded. The other ways out of `RunParallelEncodeParquetOrdered` leave it where it is.
-/

namespace Schengen.Storage
open Library

variable {μ : Type}

namespace ParallelEncode

variable (run : ParallelEncode μ)

/-! ## The inputs that decide the end -/

/-- The directory and the information on the final path. -/
def beforeOpen (initial : String → Option (List UInt8)) : World UInt8 :=
  (run.fs.call (.getFileInfo run.finalPath)
    (run.fs.call (.createDir run.tableDir) ⟨initial, [], []⟩).2).2

/-- `OpenOutputStream` is reached and succeeds, if there is no file at the final path. -/
def Opens : Prop :=
  run.getFilesystem = .ok ∧ run.getPath = .ok ∧
    run.fs.Accepts [] (.createDir run.tableDir) ∧
    run.fs.Accepts [.createDir run.tableDir, .getFileInfo run.finalPath]
      (.openOutputStream run.tempPath)

def opened (initial : String → Option (List UInt8)) : World UInt8 :=
  (run.fs.call (.openOutputStream run.tempPath) (run.beforeOpen initial)).2

def buffered (initial : String → Option (List UInt8)) : World UInt8 :=
  if 0 < run.outputBufferBytes then (run.fs.call .createBuffer (run.opened initial)).2
  else run.opened initial

def openCalls : List (FileCall UInt8) :=
  [.createDir run.tableDir, .getFileInfo run.finalPath, .openOutputStream run.tempPath]

def bufferedCalls : List (FileCall UInt8) :=
  run.openCalls ++ if 0 < run.outputBufferBytes then [.createBuffer] else []

/-- The calls that end a merged file. -/
def trailer (merged : FileMetaData μ) : List (FileCall UInt8) :=
  [.write run.tempPath (run.serialize merged),
    .write run.tempPath (footerLenBytes (run.serialize merged).length),
    .write run.tempPath parquetMagic, .closeStream, .move run.tempPath run.finalPath]

variable [Inhabited μ]

/-- The stream is buffered, and where nothing fails until the workers are joined, all parts have
arrived and the calls that end the file succeed. -/
structure EndsCleanly : Prop where
  buffer : 0 < run.outputBufferBytes → run.fs.Accepts run.openCalls .createBuffer
  ending : run.workerThrew = false → run.Merges run.bufferedCalls run.inOrder →
    run.inOrder.length = run.partCount ∧
      Accepted run.fs.Accepts (run.bufferedCalls ++ run.mergeCalls run.inOrder)
        (run.trailer (run.mergedParts run.inOrder).metadata)

/-- A failed run leaves no file, a successful one the final file alone. -/
structure CleansUp (initial : String → Option (List UInt8)) : Prop where
  failed : run.Opens → (run.runOrdered ⟨initial, [], []⟩).1 ≠ 0 →
    (run.runOrdered ⟨initial, [], []⟩).2.files run.tempPath = none ∧
      (run.runOrdered ⟨initial, [], []⟩).2.files run.finalPath = none
  succeeded : (run.runOrdered ⟨initial, [], []⟩).1 = 0 →
    ((run.runOrdered ⟨initial, [], []⟩).2.files run.finalPath).isSome = true ∧
      (run.runOrdered ⟨initial, [], []⟩).2.files run.tempPath = none

/-! ## The merge writes the temporary file alone -/

/-- The temporary file is there, the final one is not. -/
structure Pending (w : World UInt8) : Prop where
  temp : (w.files run.tempPath).isSome = true
  final : w.files run.finalPath = none

variable {run} {s : MergeState μ} {w : World UInt8} {initial : String → Option (List UInt8)}

omit [Inhabited μ] in
lemma Pending.write (h : run.Pending w) (items : List UInt8) :
    run.Pending (run.fs.call (.write run.tempPath items) w).2 := by
  have hfinal : run.finalPath ∉ (FileCall.write run.tempPath items).paths :=
    fun hmem => tempPath_ne run.finalPath (List.mem_singleton.mp hmem).symm
  refine ⟨?_, (call_files_other hfinal).trans h.final⟩
  by_cases hok : (run.fs.call (.write run.tempPath items) w).1 = .ok
  · rw [call_ok hok, FileCall.effect, append, Function.update_self]
    rfl
  · rw [call_failed hok, FileCall.failedEffect, append, Function.update_self]
    rfl

omit [Inhabited μ] in
/-- Calls that change no file. -/
lemma Pending.call {c : FileCall UInt8} (h : run.Pending w) (hc : c.paths = []) :
    run.Pending (run.fs.call c w).2 := by
  have hother : ∀ path, (run.fs.call c w).2.files path = w.files path :=
    fun path => call_files_other (by rw [hc]; exact List.not_mem_nil)
  exact ⟨by rw [hother]; exact h.temp, (hother _).trans h.final⟩

omit [Inhabited μ] in
lemma Pending.processBuffer (h : run.Pending s.world) (buffer : List UInt8) (part : Nat) :
    run.Pending (run.processBuffer buffer part s).world := by
  simp only [ParallelEncode.processBuffer]
  split
  · exact h
  · split
    · exact h
    · split
      · split
        · exact h.write _
        · exact h.write _
      · exact h

omit [Inhabited μ] in
lemma Pending.takePending (h : run.Pending s.world) (result : InMemoryPartitionData) :
    run.Pending (run.takePending result s).world := by
  simp only [ParallelEncode.takePending]
  split
  · exact h
  · split
    · exact h.processBuffer _ _
    · exact h

omit [Inhabited μ] in
lemma Pending.drainPending (h : run.Pending s.world) (fuel : Nat) :
    run.Pending (run.drainPending fuel s).world := by
  induction fuel generalizing s with
  | zero => exact h
  | succ fuel ih =>
    unfold ParallelEncode.drainPending
    split
    · split
      · exact h
      · exact ih (h.takePending _)
    · exact h

omit [Inhabited μ] in
lemma Pending.consume (h : run.Pending s.world) (results : List InMemoryPartitionData) :
    run.Pending (run.consume results s).world := by
  induction results generalizing s with
  | nil => exact h
  | cons result results ih =>
    have hreceived : run.Pending (run.receive result s).world :=
      Pending.drainPending (s := { s with
        pending := Function.update s.pending result.part (some result) }) h _
    simp only [ParallelEncode.consume]
    split
    · exact ih hreceived
    · exact hreceived

lemma Pending.merge (h : run.Pending w) : run.Pending (run.merge w).world := by
  have hconsumed := Pending.consume
    (s := startMerge (run.fs.call (.write run.tempPath parquetMagic) w)) (h.write parquetMagic)
    run.arrivals
  unfold ParallelEncode.merge joinWorkers
  split
  · exact hconsumed
  · exact hconsumed

/-! ## The end of the file -/

omit [Inhabited μ] in
lemma checked_zero_iff {called : Status × World UInt8} {next : World UInt8 → Int × World UInt8} :
    (run.checked called next).1 = 0 ↔ called.1 = .ok ∧ (next called.2).1 = 0 := by
  unfold checked
  by_cases hok : called.1 = .ok
  · rw [if_pos hok]
    exact ⟨fun h => ⟨hok, h⟩, And.right⟩
  · rw [if_neg hok]
    exact iff_of_false (by simp [fail]) fun h => hok h.1

omit [Inhabited μ] in
/-- Where a call fails, or what follows it, the files are as they were left there. -/
lemma checked_pending {called : Status × World UInt8} {next : World UInt8 → Int × World UInt8}
    (hcalled : called.1 ≠ .ok → run.Pending called.2)
    (hnext : called.1 = .ok → (next called.2).1 ≠ 0 → run.Pending (next called.2).2)
    (h : (run.checked called next).1 ≠ 0) : run.Pending (run.checked called next).2 := by
  unfold checked at h ⊢
  by_cases hok : called.1 = .ok
  · rw [if_pos hok] at h ⊢
    exact hnext hok h
  · rw [if_neg hok]
    exact ⟨(hcalled hok).temp, (hcalled hok).final⟩

omit [Inhabited μ] in
lemma finish_zero_iff {merged : FileMetaData μ} : (run.finish merged w).1 = 0 ↔
    Accepted run.fs.Accepts w.calls (run.trailer merged) := by
  simp only [finish, checked_zero_iff, trailer, accepted_cons, accepted_nil]
  exact Iff.rfl

omit [Inhabited μ] in
lemma finish_failed {merged : FileMetaData μ} (hw : run.Pending w)
    (h : (run.finish merged w).1 ≠ 0) : run.Pending (run.finish merged w).2 := by
  have hfooter := hw.write (run.serialize merged)
  refine checked_pending (fun _ => hfooter) (fun _ h => ?_) h
  have hlength := hfooter.write (footerLenBytes (run.serialize merged).length)
  refine checked_pending (fun _ => hlength) (fun _ h => ?_) h
  have hmagic := hlength.write parquetMagic
  refine checked_pending (fun _ => hmagic) (fun _ h => ?_) h
  have hclosed := hmagic.call (c := .closeStream) rfl
  refine checked_pending (fun _ => hclosed) (fun _ h => ?_) h
  refine checked_pending (fun hmove => ?_) (fun _ h => absurd rfl h) h
  have hfiles := call_failed hmove
  exact ⟨by rw [hfiles]; exact hclosed.temp, by rw [hfiles]; exact hclosed.final⟩

omit [Inhabited μ] in
lemma finish_moved {merged : FileMetaData μ} (hw : run.Pending w)
    (h : (run.finish merged w).1 = 0) :
    ((run.finish merged w).2.files run.finalPath).isSome = true ∧
      (run.finish merged w).2.files run.tempPath = none := by
  have hfooter := hw.write (run.serialize merged)
  have hlength := hfooter.write (footerLenBytes (run.serialize merged).length)
  have hclosed := (hlength.write parquetMagic).call (c := .closeStream) rfl
  obtain ⟨_, h, heq⟩ := checked_zero h
  rw [finish, heq]
  obtain ⟨_, h, heq⟩ := checked_zero h
  rw [heq]
  obtain ⟨_, h, heq⟩ := checked_zero h
  rw [heq]
  obtain ⟨_, h, heq⟩ := checked_zero h
  rw [heq]
  obtain ⟨hmove, _, heq⟩ := checked_zero h
  rw [heq]
  obtain ⟨htarget, hsource⟩ := call_move hmove (tempPath_ne run.finalPath).symm
  exact ⟨by rw [htarget]; exact hclosed.temp, hsource⟩

/-- All parts are merged and the file is ended. -/
def Completes (run : ParallelEncode μ) (before : List (FileCall UInt8)) : Prop :=
  run.inOrder.length = run.partCount ∧
    Accepted run.fs.Accepts (before ++ run.mergeCalls run.inOrder)
      (run.trailer (run.mergedParts run.inOrder).metadata)

lemma encode_failed_leaves (hcleanup : ∀ calls, run.fs.Accepts calls (.deleteFile run.tempPath))
    (hw : run.Pending w) (hfailed : (run.merge w).pipelineError ≠ "") :
    (run.encode w).1 ≠ 0 ∧ (run.encode w).2.files run.tempPath = none ∧
      (run.encode w).2.files run.finalPath = none := by
  rw [encode_failed hfailed]
  refine ⟨by simp [fail], ?_, ?_⟩
  · have hdeleted := @call_ok _ run.fs (.deleteFile run.tempPath)
      (run.fs.call .abort (run.merge w).world).2 (hcleanup _)
    exact (congrFun hdeleted _).trans (Function.update_self _ _ _)
  · have hfinal : run.finalPath ∉ (FileCall.deleteFile (β := UInt8) run.tempPath).paths :=
      fun hmem => tempPath_ne run.finalPath (List.mem_singleton.mp hmem).symm
    exact (call_files_other hfinal).trans (hw.merge.call (c := .abort) rfl).final

/-- From the open stream on: which runs end with an error, and what they leave. -/
lemma encode_cases (hcleanup : ∀ calls, run.fs.Accepts calls (.deleteFile run.tempPath))
    (hw : run.Pending w) :
    ((run.encode w).1 ≠ 0 ∧ ¬ (run.workerThrew = false ∧ run.Merges w.calls run.inOrder) ∧
        (run.encode w).2.files run.tempPath = none ∧ (run.encode w).2.files run.finalPath = none) ∨
    ((run.encode w).1 = 0 ∧ run.Completes w.calls ∧
        ((run.encode w).2.files run.finalPath).isSome = true ∧
        (run.encode w).2.files run.tempPath = none) ∨
    ((run.encode w).1 ≠ 0 ∧ (run.workerThrew = false ∧ run.Merges w.calls run.inOrder) ∧
        ¬ run.Completes w.calls ∧ run.Pending (run.encode w).2) := by
  have hmerge := hw.merge
  rcases merge_cases run (w := w) with ⟨hmerges, hmerged⟩ | ⟨hfails, hfailed⟩
  · have hnone := hmerged.took.unfailed
    have hexpected := hmerged.expected
    have hcompletes : run.Completes w.calls ↔ (run.merge w).expectedPart = run.partCount + 1 ∧
        Accepted run.fs.Accepts (run.merge w).world.calls (run.trailer (run.merge w).merged) := by
      rw [Completes, hmerged.took.calls, hmerged.took.merged, hexpected, Nat.add_right_cancel_iff]
    by_cases hcomplete : (run.merge w).expectedPart = run.partCount + 1
    · rw [encode_merged hnone hcomplete]
      by_cases hzero : (run.finish (run.merge w).merged (run.merge w).world).1 = 0
      · exact .inr (.inl ⟨hzero, hcompletes.mpr ⟨hcomplete, finish_zero_iff.mp hzero⟩,
          finish_moved hmerge hzero⟩)
      · exact .inr (.inr ⟨hzero, hmerges, fun h => hzero (finish_zero_iff.mpr (hcompletes.mp h).2),
          finish_failed hmerge hzero⟩)
    · rw [encode_incomplete hnone hcomplete]
      exact .inr (.inr ⟨by simp [fail], hmerges, fun h => hcomplete (hcompletes.mp h).1,
        hmerge.temp, hmerge.final⟩)
  · obtain ⟨hrc, hleft⟩ := encode_failed_leaves hcleanup hw hfailed
    exact .inl ⟨hrc, hfails, hleft⟩

/-! ## The whole run -/

omit [Inhabited μ] in
lemma checked_of_ok {called : Status × World UInt8} {next : World UInt8 → Int × World UInt8}
    (h : called.1 = .ok) : run.checked called next = next called.2 :=
  if_pos h

omit [Inhabited μ] in
lemma checked_congr {called : Status × World UInt8} {next next' : World UInt8 → Int × World UInt8}
    (h : next called.2 = next' called.2) : run.checked called next = run.checked called next' := by
  unfold checked
  rw [h]

omit [Inhabited μ] in
lemma beforeOpen_files (path : String) : (run.beforeOpen initial).files path = initial path := by
  unfold beforeOpen
  exact (call_files_other List.not_mem_nil).trans (call_files_other List.not_mem_nil)

omit [Inhabited μ] in
lemma opened_pending (hfinal : initial run.finalPath = none) (hopens : run.Opens) :
    run.Pending (run.opened initial) := by
  have hopen : (run.fs.call (.openOutputStream run.tempPath) (run.beforeOpen initial)).1 = .ok :=
    hopens.2.2.2
  have hother : run.finalPath ∉ (FileCall.openOutputStream (β := UInt8) run.tempPath).paths :=
    fun hmem => tempPath_ne run.finalPath (List.mem_singleton.mp hmem).symm
  refine ⟨?_, ?_⟩
  · rw [opened, call_openOutputStream hopen]
    rfl
  · rw [opened, call_files_other hother, beforeOpen_files, hfinal]

/-- No file is at the final path, so that the temporary one is opened where nothing fails. -/
lemma runOrdered_openTemp (hfinal : initial run.finalPath = none) :
    run.runOrdered ⟨initial, [], []⟩ =
      run.checked (run.getFilesystem, ⟨initial, [], []⟩) fun w => run.checked (run.getPath, w) fun w =>
        run.checked (run.fs.call (.createDir run.tableDir) w) fun w =>
          run.openTemp (run.fs.call (.getFileInfo run.finalPath) w).2 := by
  have hnew : ¬ ((run.fs.call (.getFileInfo run.finalPath)
      (run.fs.call (.createDir run.tableDir) ⟨initial, [], []⟩).2).1 = .ok ∧
      ((run.beforeOpen initial).files run.finalPath).isSome = true) := by
    rw [beforeOpen_files, hfinal]
    exact fun h => nomatch h.2
  exact checked_congr (checked_congr (checked_congr (if_neg hnew)))

lemma runOrdered_opens (hfinal : initial run.finalPath = none) (hopens : run.Opens) :
    run.runOrdered ⟨initial, [], []⟩ =
      if 0 < run.outputBufferBytes then
        run.checked (run.fs.call .createBuffer (run.opened initial)) run.encode
      else run.encode (run.opened initial) := by
  obtain ⟨hsystem, hpath, hdir, hopen⟩ := hopens
  have hcreated : (run.fs.call (.createDir run.tableDir) ⟨initial, [], []⟩).1 = .ok := hdir
  rw [runOrdered_openTemp hfinal, checked_of_ok hsystem, checked_of_ok hpath,
    checked_of_ok hcreated]
  exact checked_of_ok hopen

lemma runOrdered_unopened (hfinal : initial run.finalPath = none) (hopens : ¬ run.Opens) :
    (run.runOrdered ⟨initial, [], []⟩).1 ≠ 0 := by
  rw [runOrdered_openTemp hfinal]
  intro hzero
  obtain ⟨hsystem, hzero⟩ := checked_zero_iff.mp hzero
  obtain ⟨hpath, hzero⟩ := checked_zero_iff.mp hzero
  obtain ⟨hdir, hzero⟩ := checked_zero_iff.mp hzero
  exact hopens ⟨hsystem, hpath, hdir, (checked_zero_iff.mp hzero).1⟩

omit [Inhabited μ] in
lemma buffered_calls : (run.buffered initial).calls = run.bufferedCalls := by
  unfold buffered bufferedCalls
  split
  · rfl
  · exact (List.append_nil _).symm

/-- The run cleans up where the stream is buffered and, if nothing failed before the joins, the
file is complete and ended: the returns in between delete nothing. -/
theorem runOrdered_cleansUp_iff
    (hcleanup : ∀ calls, run.fs.Accepts calls .abort ∧ run.fs.Accepts calls (.deleteFile run.tempPath))
    (hfinal : initial run.finalPath = none) :
    run.CleansUp initial ↔ (run.Opens → run.EndsCleanly) := by
  by_cases hopens : run.Opens
  · have hpending := opened_pending hfinal hopens
    have hrun := runOrdered_opens hfinal hopens
    by_cases hbuffer : 0 < run.outputBufferBytes → run.fs.Accepts run.openCalls .createBuffer
    · have hbuffered : run.Pending (run.buffered initial) := by
        unfold buffered
        split
        · exact hpending.call rfl
        · exact hpending
      have hencode : run.runOrdered ⟨initial, [], []⟩ = run.encode (run.buffered initial) := by
        rw [hrun, buffered]
        split
        · next hpositive => exact checked_of_ok (hbuffer hpositive)
        · rfl
      have hcases := encode_cases (fun calls => (hcleanup calls).2) hbuffered
      rw [buffered_calls, ← hencode] at hcases
      rcases hcases with ⟨hrc, hfails, hleft⟩ | ⟨hrc, hended, hleft⟩ | ⟨hrc, hmerges, hended, hleft⟩
      · refine iff_of_true ⟨fun _ _ => hleft, fun hzero => absurd hzero hrc⟩ fun _ => ⟨hbuffer, ?_⟩
        exact fun hthrew hmerges => absurd ⟨hthrew, hmerges⟩ hfails
      · exact iff_of_true ⟨fun _ hfailed => absurd hrc hfailed, fun _ => hleft⟩
          fun _ => ⟨hbuffer, fun _ _ => hended⟩
      · refine iff_of_false (fun h => ?_) fun h => ?_
        · have htemp := (h.failed hopens hrc).1
          exact absurd (hleft.temp.symm.trans (congrArg Option.isSome htemp)) (by simp)
        · exact hended ((h hopens).ending hmerges.1 hmerges.2)
    · obtain ⟨hpositive, hrefused⟩ := Classical.not_imp.mp hbuffer
      have hfailed : run.runOrdered ⟨initial, [], []⟩ = run.fail
          (run.fs.call .createBuffer (run.opened initial)).1.toString
          (run.fs.call .createBuffer (run.opened initial)).2 := by
        rw [hrun, if_pos hpositive]
        exact if_neg hrefused
      have hleft : run.Pending (run.fs.call .createBuffer (run.opened initial)).2 :=
        hpending.call rfl
      refine iff_of_false (fun h => ?_) fun h => hbuffer (h hopens).buffer
      have htemp := (h.failed hopens (by rw [hfailed]; simp [fail])).1
      rw [hfailed] at htemp
      exact absurd (hleft.temp.symm.trans (congrArg Option.isSome htemp)) (by simp)
  · refine iff_of_true ⟨fun h => absurd h hopens, fun hzero => ?_⟩ fun h => absurd h hopens
    exact absurd hzero (runOrdered_unopened hfinal hopens)

/-! ### A file system that moves no file -/

def withoutMove : ParallelEncode (List Int) :=
  { twoResults with
    fs := ⟨fun _ c =>
      match c with
      | .move _ _ => .error "IOError" "rename failed"
      | _ => .ok, fun _ => []⟩ }

theorem runOrdered_cleansUp_iff_withoutMove :
    withoutMove.CleansUp (fun _ => none) ↔ (withoutMove.Opens → withoutMove.EndsCleanly) :=
  runOrdered_cleansUp_iff (fun _ => ⟨rfl, rfl⟩) rfl

/-- The merge is complete, the move fails, and the temporary file stays. -/
theorem withoutMove_leaves_temp : ¬ withoutMove.CleansUp fun _ => none := by
  intro h
  have htemp := (h.failed ⟨rfl, rfl, rfl, rfl⟩ (by decide)).1
  exact absurd htemp (by decide)

end ParallelEncode

end Schengen.Storage
