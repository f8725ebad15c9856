import Schengen.Storage.TableWriters

/-!
# When a file appears at its final path

The outcomes of the calls of one writer, and what each of the writer's operations then does to
the files at the temporary and the final path.
-/

namespace Schengen.Storage

variable {ρ : Type}

/-- The number of writes that a batch takes. -/
def TableBatch.writes (batch : TableBatch ρ) : Nat := if batch.rows.length = 0 then 0 else 1

/-- How the calls of one writer go: each is made once, but for the writes. -/
structure FileOutcomes where
  createDir : Status
  getFileInfo : Status
  openOutputStream : Status
  createBuffer : Status
  openWriter : Status
  newRowGroup : Status
  write : Nat → Status
  closeWriter : Status
  closeStream : Status
  move : Status

namespace FileOutcomes

def writes (calls : List (FileCall ρ)) : Nat :=
  calls.countP fun
    | .write _ _ => true
    | _ => false

def fs (outcomes : FileOutcomes) (torn : List (FileCall ρ) → List ρ) : FileSystem ρ where
  answer := fun calls c =>
    match c with
    | .createDir _ => outcomes.createDir
    | .getFileInfo _ => outcomes.getFileInfo
    | .openOutputStream _ => outcomes.openOutputStream
    | .createBuffer => outcomes.createBuffer
    | .openWriter => outcomes.openWriter
    | .newRowGroup => outcomes.newRowGroup
    | .write _ _ => outcomes.write (writes calls)
    | .closeWriter => outcomes.closeWriter
    | .closeStream => outcomes.closeStream
    | .move _ _ => outcomes.move
    | .abort => .ok
    | .deleteFile _ => .ok
  torn := torn

/-- The closing calls succeed. -/
def Closes (outcomes : FileOutcomes) : Prop :=
  outcomes.closeWriter = .ok ∧ outcomes.closeStream = .ok ∧ outcomes.move = .ok

instance (outcomes : FileOutcomes) : Decidable outcomes.Closes := inferInstanceAs (Decidable (_ ∧ _))

/-- `WriteBatch` succeeds on these batches, the next write being the `k`-th. -/
def Writes (outcomes : FileOutcomes) (tableName : String) : Nat → List (TableBatch ρ) → Prop
  | _, [] => True
  | k, batch :: batches =>
    batch.metadata = some tableName ∧
      if batch.rows.length = 0 then outcomes.Writes tableName k batches
      else outcomes.write k = .ok ∧ outcomes.Writes tableName (k + 1) batches

end FileOutcomes

/-- The settings of a writer and the outcomes of its calls. -/
structure FileRun (ρ : Type) extends FileSettings where
  outcomes : FileOutcomes
  torn : List (FileCall ρ) → List ρ

namespace FileRun
open FileWriter

variable (run : FileRun ρ)

def target : FileTarget ρ := ⟨run.toFileSettings, run.outcomes.fs run.torn⟩

/-- The calls of `openFile` succeed, if there is no file at the final path. -/
def Opens : Prop :=
  run.getFilesystem = .ok ∧ run.getPath = .ok ∧ run.outcomes.createDir = .ok ∧
    run.outcomes.getFileInfo = .ok ∧ run.outcomes.openOutputStream = .ok ∧
    (0 < run.outputBufferBytes → run.outcomes.createBuffer = .ok) ∧
    run.outcomes.openWriter = .ok ∧
    (run.format.hasRowGroups = true → run.outcomes.newRowGroup = .ok)

instance : Decidable run.Opens := inferInstanceAs (Decidable (_ ∧ _))

variable {run} {files : String → Option (List ρ)} {s : FileWriter ρ} {fileName path : String}

/-! ## Opening -/

lemma andThen_ok {r : Status × FileWriter ρ} {next : FileWriter ρ → Status × FileWriter ρ} :
    (andThen r next).1 = .ok ↔ r.1 = .ok ∧ (next r.2).1 = .ok := by
  unfold andThen
  by_cases h : r.1 = .ok
  · rw [if_pos h]
    exact ⟨fun hnext => ⟨h, hnext⟩, And.right⟩
  · rw [if_neg h]
    exact ⟨fun hr => absurd hr h, fun hr => absurd hr.1 h⟩

lemma andThen_of_ok {r : Status × FileWriter ρ} {next : FileWriter ρ → Status × FileWriter ρ}
    (h : r.1 = .ok) : andThen r next = next r.2 :=
  if_pos h

/-- What both outcomes of a step keep, the steps together keep. -/
lemma andThen_keeps {P : FileWriter ρ → Prop} {r : Status × FileWriter ρ}
    {next : FileWriter ρ → Status × FileWriter ρ} (hr : P r.2) (hnext : ∀ s, P s → P (next s).2) :
    P (andThen r next).2 := by
  unfold andThen
  split
  · exact hnext _ hr
  · exact hr

def Absent (path : String) (s : FileWriter ρ) : Prop := s.world.files path = none

lemma call_absent {c : FileCall ρ} (h : path ∉ c.paths) (hs : Absent path s) :
    Absent path (run.target.call c s).2 :=
  (call_files_other h).trans hs

lemma call_files_same {c : FileCall ρ} (h : c.paths = []) :
    (run.target.call c s).2.world.files path = s.world.files path :=
  call_files_other (by rw [h]; exact List.not_mem_nil)

/-- No file at this path, and no call on the temporary file makes one. -/
def Kept (path : String) (s : FileWriter ρ) : Prop := Absent path s ∧ s.tempPath ≠ path

lemma openBuffer_keeps (hs : Kept path s) : Kept path (run.target.openBuffer s).2 := by
  unfold FileTarget.openBuffer
  split
  · exact ⟨call_absent List.not_mem_nil hs.1, hs.2⟩
  · exact hs

lemma openRowGroup_keeps (hs : Kept path s) : Kept path (run.target.openRowGroup s).2 := by
  unfold FileTarget.openRowGroup
  split
  · exact ⟨call_absent List.not_mem_nil hs.1, hs.2⟩
  · exact hs

lemma openTemp_keeps (hs : Kept path s) : Kept path (run.target.openTemp s).2 := by
  unfold FileTarget.openTemp
  refine andThen_keeps (P := Kept path) ⟨call_absent List.not_mem_nil hs.1, hs.2⟩ fun s hs => ?_
  split
  · exact hs
  · have hopen : path ∉ (FileCall.openOutputStream (β := ρ) s.tempPath).paths :=
      fun hmem => hs.2 (List.mem_singleton.mp hmem).symm
    refine andThen_keeps (P := Kept path) ⟨call_absent hopen hs.1, hs.2⟩ fun s hs => ?_
    refine andThen_keeps (openBuffer_keeps hs) fun s hs => ?_
    refine andThen_keeps (P := Kept path) ⟨call_absent List.not_mem_nil hs.1, hs.2⟩ fun s hs => ?_
    exact andThen_keeps (openRowGroup_keeps hs) fun s hs => hs

/-- Opening never creates the final file. -/
lemma openFile_absent (hnew : Absent (joinPath run.tableDir fileName) s) :
    Absent (joinPath run.tableDir fileName) (run.target.openFile fileName s).2 := by
  unfold FileTarget.openFile
  refine andThen_keeps hnew fun s hs => andThen_keeps hs fun s hs => ?_
  refine andThen_keeps (call_absent List.not_mem_nil hs) fun s hs => ?_
  refine (openTemp_keeps ?_).1
  exact ⟨hs, tempPath_ne _⟩

lemma openBuffer_ok : (run.target.openBuffer s).1 = .ok ↔
    (0 < run.outputBufferBytes → run.outcomes.createBuffer = .ok) := by
  unfold FileTarget.openBuffer
  by_cases hbuffer : 0 < run.target.outputBufferBytes
  · rw [if_pos hbuffer]
    exact ⟨fun h _ => h, fun h => h hbuffer⟩
  · rw [if_neg hbuffer]
    exact ⟨fun _ h => absurd h hbuffer, fun _ => rfl⟩

lemma openRowGroup_ok : (run.target.openRowGroup s).1 = .ok ↔
    (run.format.hasRowGroups = true → run.outcomes.newRowGroup = .ok) := by
  unfold FileTarget.openRowGroup
  by_cases hgroups : run.target.format.hasRowGroups = true
  · rw [if_pos hgroups]
    exact ⟨fun h _ => h, fun h => h hgroups⟩
  · rw [if_neg hgroups]
    exact ⟨fun _ h => absurd h hgroups, fun _ => rfl⟩

lemma openTemp_ok (hnew : Absent s.finalPath s) : (run.target.openTemp s).1 = .ok ↔
    run.outcomes.getFileInfo = .ok ∧ run.outcomes.openOutputStream = .ok ∧
      (0 < run.outputBufferBytes → run.outcomes.createBuffer = .ok) ∧
      run.outcomes.openWriter = .ok ∧
      (run.format.hasRowGroups = true → run.outcomes.newRowGroup = .ok) := by
  unfold FileTarget.openTemp
  have hnone : ((run.target.call (.getFileInfo s.finalPath) s).2.world.files s.finalPath) = none :=
    call_absent List.not_mem_nil hnew
  refine andThen_ok.trans (and_congr Iff.rfl ?_)
  rw [if_neg]
  · refine andThen_ok.trans (and_congr Iff.rfl (andThen_ok.trans (and_congr openBuffer_ok ?_)))
    refine andThen_ok.trans (and_congr Iff.rfl (andThen_ok.trans ?_))
    exact (and_iff_left rfl).trans openRowGroup_ok
  · change ¬ ((run.target.call (.getFileInfo s.finalPath) s).2.world.files s.finalPath).isSome = true
    rw [hnone]
    exact Bool.noConfusion

/-- A file is opened only where there is no final file. -/
lemma openFile_new (hok : (run.target.openFile fileName s).1 = .ok) :
    Absent (joinPath run.tableDir fileName) s := by
  unfold FileTarget.openFile at hok
  have hopens := (andThen_ok.mp (andThen_ok.mp (andThen_ok.mp hok).2).2).2
  unfold FileTarget.openTemp at hopens
  have hfound := (andThen_ok.mp hopens).2
  split at hfound
  · cases hfound
  · next hnone =>
    have hfree := Option.not_isSome_iff_eq_none.mp hnone
    exact ((call_files_same rfl).trans (call_files_same rfl)).symm.trans hfree

/-- Where there is no final file, opening succeeds if and only if its calls do. -/
lemma openFile_ok (hnew : Absent (joinPath run.tableDir fileName) s) :
    (run.target.openFile fileName s).1 = .ok ↔ run.Opens := by
  unfold FileTarget.openFile Opens
  refine andThen_ok.trans (and_congr Iff.rfl (andThen_ok.trans (and_congr Iff.rfl ?_)))
  exact andThen_ok.trans (and_congr Iff.rfl (openTemp_ok (call_absent List.not_mem_nil hnew)))

/-- The temporary file is there and has these rows; `k` writes were made. -/
structure Prepared (run : FileRun ρ) (path : String) (rows : List ρ) (k : Nat) (s : FileWriter ρ) :
    Prop where
  table : s.table = some run.tableName
  temp : s.tempPath = tempPath path
  final : s.finalPath = path
  absent : Absent path s
  rows : s.world.files (tempPath path) = some rows
  writes : FileOutcomes.writes s.world.calls = k

/-- An open writer. -/
structure Opened (run : FileRun ρ) (path : String) (rows : List ρ) (k : Nat) (s : FileWriter ρ) :
    Prop extends Prepared run path rows k s where
  isOpen : s.isOpen = true
  hasWriter : s.hasWriter = true
  hasSink : s.hasSink = true

/-- Only calls that change no file were made in between, and no write. -/
def Calls (s t : FileWriter ρ) : Prop :=
  ∃ calls, t = { s with world := { s.world with calls := calls } } ∧
    FileOutcomes.writes calls = FileOutcomes.writes s.world.calls

lemma call_calls {c : FileCall ρ} (h : c.paths = []) : Calls s (run.target.call c s).2 := by
  refine ⟨s.world.calls ++ [c], ?_, ?_⟩
  · have hfiles : (run.target.fs.call c s.world).2.files = s.world.files :=
      funext fun p => call_files_other (by rw [h]; exact List.not_mem_nil)
    unfold FileTarget.call
    simp only [FileSystem.call] at hfiles ⊢
    rw [hfiles]
  · rw [FileOutcomes.writes, List.countP_append, List.countP_singleton]
    cases c with
    | write p rows => cases h
    | _ => rfl

lemma openBuffer_calls (hsink : s.hasSink = true)
    (h : 0 < run.outputBufferBytes → run.outcomes.createBuffer = .ok) :
    Calls s (run.target.openBuffer s).2 := by
  unfold FileTarget.openBuffer
  by_cases hbuffer : 0 < run.target.outputBufferBytes
  · have hcalls : Calls s (run.target.call .createBuffer s).2 := call_calls rfl
    obtain ⟨calls, hcall, hwrites⟩ := hcalls
    have hok : decide ((run.target.call .createBuffer s).1 = .ok) = true :=
      decide_eq_true (h hbuffer)
    rw [if_pos hbuffer]
    simp only [hok, hcall]
    exact ⟨calls, by rw [← hsink], hwrites⟩
  · rw [if_neg hbuffer]
    exact ⟨s.world.calls, rfl, rfl⟩

lemma openRowGroup_calls : Calls s (run.target.openRowGroup s).2 := by
  unfold FileTarget.openRowGroup
  split
  · exact call_calls rfl
  · exact ⟨s.world.calls, rfl, rfl⟩

lemma Prepared.calls {t : FileWriter ρ} {rows : List ρ} {k : Nat} (h : Prepared run path rows k s)
    (hcalls : Calls s t) : Prepared run path rows k t := by
  obtain ⟨calls, rfl, hwrites⟩ := hcalls
  exact ⟨h.table, h.temp, h.final, h.absent, h.rows, hwrites.trans h.writes⟩

lemma Prepared.flags {rows : List ρ} {k : Nat} (h : Prepared run path rows k s)
    (isOpen hasWriter hasSink : Bool) : Prepared run path rows k
      { s with isOpen := isOpen, hasWriter := hasWriter, hasSink := hasSink } :=
  ⟨h.table, h.temp, h.final, h.absent, h.rows, h.writes⟩

/-- What successful steps establish one after the other. -/
lemma andThen_post {P Q : FileWriter ρ → Prop} {r : Status × FileWriter ρ}
    {next : FileWriter ρ → Status × FileWriter ρ} (hr : r.1 = .ok → P r.2)
    (hnext : ∀ s, P s → (next s).1 = .ok → Q (next s).2) (hok : (andThen r next).1 = .ok) :
    Q (andThen r next).2 := by
  obtain ⟨hfirst, hsecond⟩ := andThen_ok.mp hok
  rw [andThen_of_ok hfirst]
  exact hnext _ (hr hfirst) hsecond

lemma call_openTemp {calls : List (FileCall ρ)} (hnew : Absent path s)
    (htable : s.table = some run.tableName) (htemp : s.tempPath = tempPath path)
    (hfinal : s.finalPath = path)
    (hok : (run.target.call (.openOutputStream s.tempPath)
      { s with world := { s.world with calls := calls } }).1 = .ok) :
    Prepared run path [] (FileOutcomes.writes calls) (run.target.call (.openOutputStream s.tempPath)
      { s with world := { s.world with calls := calls } }).2 := by
  refine ⟨htable, htemp, hfinal, ?_, ?_, ?_⟩
  · refine call_absent ?_ hnew
    rw [htemp]
    exact fun hmem => tempPath_ne path (List.mem_singleton.mp hmem).symm
  · rw [← htemp]
    exact call_openOutputStream hok
  · change FileOutcomes.writes (calls ++ [.openOutputStream s.tempPath]) = _
    rw [FileOutcomes.writes, List.countP_append]
    rfl

lemma openTemp_opened (hnew : Absent path s) (htable : s.table = some run.tableName)
    (htemp : s.tempPath = tempPath path) (hfinal : s.finalPath = path)
    (hok : (run.target.openTemp s).1 = .ok) :
    Opened run path [] (FileOutcomes.writes s.world.calls) (run.target.openTemp s).2 := by
  refine andThen_post (P := Calls s) (fun _ => call_calls rfl) (fun s' hs' hok => ?_) hok
  obtain ⟨calls, rfl, hwrites⟩ := hs'
  rw [← hwrites]
  split at hok
  · cases hok
  · next hnone =>
    rw [if_neg hnone]
    refine andThen_post (fun hopen => call_openTemp hnew htable htemp hfinal hopen)
      (fun s' hs' hok => ?_) hok
    refine andThen_post (P := fun t => Prepared run path [] (FileOutcomes.writes calls) t ∧
      t.hasSink = true) (fun hbuffer => ?_) (fun s' hs' hok => ?_) hok
    · have hbuffered := openBuffer_calls (s := { s' with hasSink := true }) rfl
        (openBuffer_ok.mp hbuffer)
      refine ⟨(hs'.flags s'.isOpen s'.hasWriter true).calls hbuffered, ?_⟩
      obtain ⟨calls', hsame, _⟩ := hbuffered
      rw [hsame]
    · obtain ⟨hprepared, hsink⟩ := hs'
      refine andThen_post (P := Calls s') (fun _ => call_calls rfl) (fun t ht hok => ?_) hok
      have hwriter := (hprepared.calls ht).flags t.isOpen true t.hasSink
      refine andThen_post (P := Calls { t with hasWriter := true }) (fun _ => openRowGroup_calls)
        (fun u hu hok => ?_) hok
      have hlast := (hwriter.calls hu).flags true u.hasWriter u.hasSink
      obtain ⟨calls', rfl, _⟩ := ht
      obtain ⟨calls'', rfl, _⟩ := hu
      exact ⟨hlast, rfl, rfl, hsink⟩

lemma openFile_opened (hnew : Absent (joinPath run.tableDir fileName) s)
    (hok : (run.target.openFile fileName s).1 = .ok) :
    Opened run (joinPath run.tableDir fileName) [] (FileOutcomes.writes s.world.calls)
      (run.target.openFile fileName s).2 := by
  refine andThen_post (P := fun t => t = { s with table := some run.tableName }) (fun _ => rfl)
    (fun t ht hok => ?_) hok
  subst ht
  refine andThen_post (P := fun t => t = { s with table := some run.tableName }) (fun _ => rfl)
    (fun t ht hok => ?_) hok
  subst ht
  refine andThen_post (P := Calls { s with table := some run.tableName }) (fun _ => call_calls rfl)
    (fun t ht hok => ?_) hok
  obtain ⟨calls, rfl, hwrites⟩ := ht
  rw [← show FileOutcomes.writes calls = FileOutcomes.writes s.world.calls from hwrites]
  refine openTemp_opened ?_ ?_ ?_ ?_ hok
  · exact hnew
  · rfl
  · rfl
  · rfl

/-! ## Writing -/

variable {rows : List ρ} {k : Nat} {batch : TableBatch ρ}

lemma writes_cons {outcomes : FileOutcomes} {tableName : String} {batches : List (TableBatch ρ)} :
    outcomes.Writes tableName k (batch :: batches) ↔
      (batch.metadata = some tableName ∧ (batch.rows.length = 0 ∨ outcomes.write k = .ok)) ∧
        outcomes.Writes tableName (k + batch.writes) batches := by
  unfold TableBatch.writes
  by_cases hempty : batch.rows.length = 0
  · simp [FileOutcomes.Writes, hempty]
  · simp [FileOutcomes.Writes, hempty, and_assoc]

lemma Opened.call_write (h : Opened run path rows k s) :
    ∃ rows', Opened run path rows' (k + 1) (run.target.call (.write s.tempPath batch.rows) s).2 ∧
      ((run.target.call (.write s.tempPath batch.rows) s).1 = .ok → rows' = rows ++ batch.rows) := by
  have hfile : s.world.files s.tempPath = some rows := by
    rw [h.temp]
    exact h.rows
  have habsent : Absent path (run.target.call (.write s.tempPath batch.rows) s).2 := by
    refine call_absent ?_ h.absent
    rw [h.temp]
    exact fun hmem => tempPath_ne path (List.mem_singleton.mp hmem).symm
  have hwrites : FileOutcomes.writes (run.target.call (.write s.tempPath batch.rows) s).2.world.calls =
      k + 1 := by
    change FileOutcomes.writes (s.world.calls ++ [.write s.tempPath batch.rows]) = k + 1
    rw [← h.writes, FileOutcomes.writes, List.countP_append]
    rfl
  have hrows : ∃ rows', (run.target.call (.write s.tempPath batch.rows) s).2.world.files
      (tempPath path) = some rows' ∧
      ((run.target.call (.write s.tempPath batch.rows) s).1 = .ok → rows' = rows ++ batch.rows) := by
    by_cases hok : (run.target.call (.write s.tempPath batch.rows) s).1 = .ok
    · refine ⟨rows ++ batch.rows, ?_, fun _ => rfl⟩
      rw [← h.temp]
      exact Storage.call_write hok hfile
    · refine ⟨rows ++ run.torn s.world.calls, ?_, fun h => absurd h hok⟩
      rw [← h.temp]
      refine (congrFun (if_neg hok) _).trans ?_
      rw [FileCall.failedEffect, append, Function.update_self, hfile]
      rfl
  obtain ⟨rows', htemp, hadded⟩ := hrows
  exact ⟨rows', ⟨⟨h.table, h.temp, h.final, habsent, htemp, hwrites⟩, h.isOpen, h.hasWriter,
    h.hasSink⟩, hadded⟩

lemma Opened.writeRows_ok (h : Opened run path rows k s) :
    (run.target.writeRows batch s).1 = .ok ↔ batch.rows.length = 0 ∨ run.outcomes.write k = .ok := by
  unfold FileTarget.writeRows
  by_cases hempty : batch.rows.length = 0
  · simp [hempty]
  · rw [if_neg hempty, or_iff_right hempty, ← h.writes]
    rfl

/-- The writer stays open, whatever becomes of the rows. -/
lemma Opened.writeRows (h : Opened run path rows k s) :
    ∃ rows', Opened run path rows' (k + batch.writes) (run.target.writeRows batch s).2 ∧
      ((run.target.writeRows batch s).1 = .ok → rows' = rows ++ batch.rows) := by
  unfold FileTarget.writeRows TableBatch.writes
  by_cases hempty : batch.rows.length = 0
  · rw [if_pos hempty, if_pos hempty, List.eq_nil_of_length_eq_zero hempty]
    exact ⟨rows, h, fun _ => (List.append_nil rows).symm⟩
  · rw [if_neg hempty, if_neg hempty]
    exact h.call_write

/-- What a call with a batch does to an open writer. -/
structure Written (run : FileRun ρ) (path : String) (rows : List ρ) (k : Nat) (batch : TableBatch ρ)
    (r : Status × FileWriter ρ) : Prop where
  ok : r.1 = .ok ↔
    batch.metadata = some run.tableName ∧ (batch.rows.length = 0 ∨ run.outcomes.write k = .ok)
  opened : ∃ rows' k', Opened run path rows' k' r.2 ∧
    (r.1 = .ok → rows' = rows ++ batch.rows ∧ k' = k + batch.writes)

lemma Opened.writeRows_written (h : Opened run path rows k s)
    (hmetadata : batch.metadata = some run.tableName) :
    Written run path rows k batch (run.target.writeRows batch s) := by
  obtain ⟨rows', hopened, hadded⟩ := h.writeRows
  exact ⟨h.writeRows_ok.trans (and_iff_right hmetadata).symm,
    ⟨rows', _, hopened, fun hok => ⟨hadded hok, rfl⟩⟩⟩

/-- A batch of another table is refused. -/
lemma Opened.mismatch (h : Opened run path rows k s)
    (hmetadata : batch.metadata ≠ some run.tableName) :
    Written run path rows k batch (.error "Invalid" "TableBatch metadata mismatch", s) :=
  ⟨iff_of_false (fun h => nomatch h) fun hok => hmetadata hok.1,
    ⟨rows, k, h, fun h => nomatch h⟩⟩

lemma Opened.not_closed (h : Opened run path rows k s) :
    ¬ (s.isOpen = false ∨ s.hasWriter = false ∨ s.table = none) := by
  simp [h.isOpen, h.hasWriter, h.table]

lemma Opened.mismatch_iff (h : Opened run path rows k s) :
    (batch.metadata = none ∨ batch.metadata ≠ s.table) ↔ batch.metadata ≠ some run.tableName := by
  rw [h.table]
  refine or_iff_right_of_imp fun hnone => ?_
  rw [hnone]
  exact fun h => nomatch h

lemma Opened.writeBatch (h : Opened run path rows k s) :
    Written run path rows k batch (run.target.writeBatch batch s) := by
  unfold FileTarget.writeBatch
  rw [if_neg h.not_closed]
  by_cases hmetadata : batch.metadata = some run.tableName
  · rw [if_neg fun hbad => h.mismatch_iff.mp hbad hmetadata]
    exact h.writeRows_written hmetadata
  · rw [if_pos (h.mismatch_iff.mpr hmetadata)]
    exact h.mismatch hmetadata

lemma Opened.partitionOpen (h : Opened run path rows k s) (partitionOpen : Bool) :
    Opened run path rows k { s with partitionOpen := partitionOpen } :=
  ⟨⟨h.table, h.temp, h.final, h.absent, h.rows, h.writes⟩, h.isOpen, h.hasWriter, h.hasSink⟩

lemma Opened.beginPartition (h : Opened run path rows k s) :
    FileTarget.beginPartition s = (.ok, { s with partitionOpen := true }) := by
  unfold FileTarget.beginPartition
  simp [h.isOpen, h.hasWriter]

lemma Opened.writeSinkBatch (h : Opened run path rows k s) :
    Written run path rows k batch (run.target.writeSinkBatch batch s) := by
  unfold FileTarget.writeSinkBatch
  rw [if_neg h.not_closed]
  by_cases hmetadata : batch.metadata = some run.tableName
  · rw [if_neg fun hbad => h.mismatch_iff.mp hbad hmetadata]
    by_cases hempty : batch.rows.length = 0
    · have hwritten := h.writeRows_written hmetadata
      unfold FileTarget.writeRows at hwritten
      rw [if_pos hempty] at hwritten ⊢
      exact hwritten
    · rw [if_neg hempty]
      cases hbegun : s.partitionOpen with
      | true =>
        simp only [if_true]
        exact h.writeRows_written hmetadata
      | false =>
        simp only [Bool.false_eq_true, if_false, h.beginPartition]
        exact (h.partitionOpen true).writeRows_written hmetadata
  · rw [if_pos (h.mismatch_iff.mpr hmetadata)]
    exact h.mismatch hmetadata

/-! ## Closing -/

lemma Prepared.closeStream (h : Prepared run path rows k s) (hsink : s.hasSink = true) :
    (run.target.closeStream s).1 = run.outcomes.closeStream ∧
      Prepared run path rows k (run.target.closeStream s).2 := by
  have hclosed : Prepared run path rows k (run.target.call .closeStream s).2 := h.calls (call_calls rfl)
  unfold FileTarget.closeStream andThen
  rw [if_pos hsink]
  split
  · next hok => exact ⟨hok.symm, hclosed.flags _ _ _⟩
  · exact ⟨rfl, hclosed⟩

/-- Moving the temporary file is what makes the final one. -/
lemma Prepared.moveFile (h : Prepared run path rows k s) (hpath : path ≠ "") :
    (run.target.moveFile s).1 = run.outcomes.move ∧
      (run.target.moveFile s).2.world.files path =
        if run.outcomes.move = .ok then some rows else none := by
  have htemp : s.tempPath ≠ "" := by
    rw [h.temp]
    exact append_ne_right path (by decide)
  have hmove : run.target.moveFile s = run.target.call (.move (tempPath path) path) s := by
    unfold FileTarget.moveFile
    rw [if_pos ⟨htemp, by rw [h.final]; exact hpath⟩, h.temp, h.final]
  rw [hmove]
  refine ⟨rfl, ?_⟩
  by_cases hok : run.outcomes.move = .ok
  · rw [if_pos hok, ← h.rows]
    have hmoved : (run.target.fs.call (.move (tempPath path) path) s.world).1 = .ok := hok
    exact (call_move hmoved (tempPath_ne path).symm).1
  · rw [if_neg hok, ← h.absent]
    exact congrFun (if_neg hok) path

/-- Closing publishes what the temporary file holds, exactly if its calls succeed. -/
lemma Opened.closeFile (h : Opened run path rows k s) (hpath : path ≠ "") :
    ((run.target.closeFile s).1 = .ok ↔ run.outcomes.Closes) ∧
      (run.target.closeFile s).2.world.files path =
        if run.outcomes.Closes then some rows else none := by
  have hclosed : Prepared run path rows k (run.target.call .closeWriter s).2 :=
    h.toPrepared.calls (call_calls rfl)
  unfold FileTarget.closeFile
  rw [if_pos h.isOpen, if_pos h.hasWriter]
  by_cases hwriter : run.outcomes.closeWriter = .ok
  · rw [andThen_of_ok hwriter]
    have hsink : (run.target.call .closeWriter s).2.hasSink = true := h.hasSink
    obtain ⟨hstatus, hstream⟩ := (hclosed.flags (run.target.call .closeWriter s).2.isOpen false
      (run.target.call .closeWriter s).2.hasSink).closeStream hsink
    by_cases hstreamed : run.outcomes.closeStream = .ok
    · rw [andThen_of_ok (hstatus.trans hstreamed)]
      obtain ⟨hmoved, hfile⟩ := hstream.moveFile hpath
      by_cases hmove : run.outcomes.move = .ok
      · have hcloses : run.outcomes.Closes := ⟨hwriter, hstreamed, hmove⟩
        rw [if_pos hmove] at hfile
        rw [andThen_of_ok (hmoved.trans hmove), if_pos hcloses]
        exact ⟨iff_of_true rfl hcloses, hfile⟩
      · have hnot : ¬ run.outcomes.Closes := fun h => hmove h.2.2
        rw [if_neg hmove] at hfile
        rw [andThen, if_neg (hmoved ▸ hmove), if_neg hnot]
        exact ⟨iff_of_false (hmoved ▸ hmove) hnot, hfile⟩
    · have hnot : ¬ run.outcomes.Closes := fun h => hstreamed h.2.1
      rw [andThen, if_neg (hstatus ▸ hstreamed), if_neg hnot]
      exact ⟨iff_of_false (hstatus ▸ hstreamed) hnot, hstream.absent⟩
  · have hnot : ¬ run.outcomes.Closes := fun h => hwriter h.1
    have hfailed : ¬ (run.target.call .closeWriter s).1 = .ok := hwriter
    rw [andThen, if_neg hfailed, if_neg hnot]
    exact ⟨iff_of_false hfailed hnot, hclosed.absent⟩

end FileRun

end Schengen.Storage
