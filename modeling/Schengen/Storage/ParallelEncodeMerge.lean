import Mathlib.Data.List.Forall2
import Schengen.Storage.ParallelEncode

/-!
# The merged Parquet file

Whatever order the results arrive in, the merge has at every turn written the data of a first
range of the parts and re-based their row groups by the size of that data. So where the run
returns 0, the file is the concatenation of all data with one footer, and every offset of it
points at the bytes it pointed at in its mini-file.
-/

namespace Schengen.Storage
open Library

variable {μ : Type}

/-! ## Mini-files -/

lemma or_shiftLeft {low width : Nat} (h : low < 2 ^ width) (high : Nat) :
    low ||| high <<< width = low + high * 2 ^ width := by
  rw [Nat.or_comm, ← Nat.shiftLeft_add_eq_or_of_lt h, Nat.shiftLeft_eq, Nat.add_comm]

lemma footerLen_eq (b0 b1 b2 b3 : UInt8) (rest : List UInt8) :
    footerLen (b0 :: b1 :: b2 :: b3 :: rest) = leNat [b0, b1, b2, b3] := by
  have h0 : b0.toNat < 2 ^ 8 := b0.toNat_lt
  have h1 : b1.toNat < 2 ^ 8 := b1.toNat_lt
  have h2 : b2.toNat < 2 ^ 8 := b2.toNat_lt
  change b0.toNat ||| b1.toNat <<< 8 ||| b2.toNat <<< 16 ||| b3.toNat <<< 24 =
    b0.toNat + 256 * (b1.toNat + 256 * (b2.toNat + 256 * (b3.toNat + 256 * 0)))
  have h01 : b0.toNat + b1.toNat * 2 ^ 8 < 2 ^ 16 := by omega
  have h012 : b0.toNat + b1.toNat * 2 ^ 8 + b2.toNat * 2 ^ 16 < 2 ^ 24 := by omega
  rw [or_shiftLeft h0, or_shiftLeft h01, or_shiftLeft h012]
  omega

lemma footerLenBytes_eq (n : Nat) : footerLenBytes n = leBytes 4 n := by
  have hbyte : ∀ m : Nat, UInt8.ofNat (m &&& 0xFF) = UInt8.ofNat m := by
    intro m
    refine UInt8.toNat_inj.mp ?_
    rw [UInt8.toNat_ofNat', UInt8.toNat_ofNat', show 0xFF = 2 ^ 8 - 1 from rfl,
      Nat.and_two_pow_sub_one_eq_mod, Nat.mod_mod]
  simp only [footerLenBytes, leBytes, hbyte, Nat.shiftRight_eq_div_pow, Nat.div_div_eq_div_mul]

/-- A file with one footer after its data. -/
structure MiniFile where
  data : List UInt8
  footer : List UInt8
  footer_length : footer.length < 2 ^ 32

namespace MiniFile

def bytes (file : MiniFile) : List UInt8 :=
  parquetMagic ++ (file.data ++ (file.footer ++ (leBytes 4 file.footer.length ++ parquetMagic)))

lemma bytes_length (file : MiniFile) :
    file.bytes.length = 4 + file.data.length + file.footer.length + 8 := by
  simp only [bytes, List.length_append, leBytes_length, parquetMagic, List.length_cons,
    List.length_nil]
  omega

lemma footerLen_bytes (file : MiniFile) :
    footerLen (file.bytes.drop (file.bytes.length - 8)) = file.footer.length := by
  have hsuffix : file.bytes.drop (file.bytes.length - 8) =
      leBytes 4 file.footer.length ++ parquetMagic := by
    have hsplit : file.bytes = (parquetMagic ++ file.data ++ file.footer) ++
        (leBytes 4 file.footer.length ++ parquetMagic) := by
      simp only [bytes, List.append_assoc]
    have hlength : file.bytes.length - 8 = (parquetMagic ++ file.data ++ file.footer).length := by
      rw [bytes_length, List.length_append, List.length_append]
      rfl
    rw [hlength, hsplit, List.drop_left]
  rw [hsuffix]
  have hlength : file.footer.length < 256 ^ 4 := file.footer_length
  exact (footerLen_eq _ _ _ _ _).trans (leNat_leBytes hlength)

lemma range_footer (file : MiniFile) :
    range file.bytes (4 + file.data.length) file.footer.length = file.footer := by
  have hsplit : file.bytes = (parquetMagic ++ file.data) ++
      (file.footer ++ (leBytes 4 file.footer.length ++ parquetMagic)) := by
    simp only [bytes, List.append_assoc]
  have hlength : 4 + file.data.length = (parquetMagic ++ file.data).length := by
    rw [List.length_append]
    rfl
  rw [hlength, hsplit, range_self]

lemma range_data (file : MiniFile) : range file.bytes 4 file.data.length = file.data :=
  range_self parquetMagic file.data _

end MiniFile

/-- The data of the parts `1` to `k`. -/
def dataUpTo (files : Nat → MiniFile) : Nat → List UInt8
  | 0 => []
  | k + 1 => dataUpTo files k ++ (files (k + 1)).data

/-- The footers of the parts `1` to `k` merged. -/
def mergedUpTo [Inhabited μ] (files : Nat → MiniFile) (metadata : Nat → FileMetaData μ) :
    Nat → FileMetaData μ
  | 0 => ⟨0, default, 0, [], none, none, none⟩
  | k + 1 => (mergedUpTo files metadata k).addFile (decide (0 < k)) (dataUpTo files k).length
    (metadata (k + 1))

namespace ParallelEncode

/-- The results are mini-files or errors, and Thrift decodes the footers. -/
structure Encodes (run : ParallelEncode μ) (files : Nat → MiniFile)
    (metadata : Nat → FileMetaData μ) : Prop where
  results : ∀ result ∈ run.arrivals,
    result.error ≠ "" ∨ result.buffer = some (files result.part).bytes
  decodes : ∀ part ∈ List.range' 1 run.partCount,
    run.deserialize (files part).footer = .ok (metadata part)

variable [Inhabited μ]

/-- The parts up to `k` are merged. -/
structure MergedUpTo (run : ParallelEncode μ) (files : Nat → MiniFile)
    (metadata : Nat → FileMetaData μ) (k : Nat) (s : MergeState μ) : Prop where
  expected : s.expectedPart = k + 1
  bound : k ≤ run.partCount
  written : s.world.files run.tempPath = some (parquetMagic ++ dataUpTo files k)
  offset : s.currentOutputDataOffset = (dataUpTo files k).length
  merged : s.merged = mergedUpTo files metadata k
  schemaSet : s.schemaSet = decide (0 < k)
  pending : ∀ part result, s.pending part = some result →
    result.error ≠ "" ∨ result.buffer = some (files part).bytes

variable {run : ParallelEncode μ} {files : Nat → MiniFile} {metadata : Nat → FileMetaData μ}
  {k part : Nat} {s : MergeState μ} {result : InMemoryPartitionData}

omit [Inhabited μ] in
/-- The footer of a mini-file is found, and its data is what lies before it. -/
lemma processBuffer_bytes {file : MiniFile} {m : FileMetaData μ}
    (hdecode : run.deserialize file.footer = .ok m) (hnone : s.pipelineError = "") :
    run.processBuffer file.bytes part s =
      let s := { s with
        merged := s.merged.addFile s.schemaSet s.currentOutputDataOffset m
        schemaSet := true }
      if 0 < file.data.length then
        let written := run.fs.call (.write run.tempPath file.data) s.world
        if written.1 = .ok then
          { s with
            world := written.2
            currentOutputDataOffset := s.currentOutputDataOffset + file.data.length }
        else { s with world := written.2, pipelineError := written.1.toString }
      else s := by
  have hstart : (file.bytes.length : Int) - 8 - file.footer.length = (4 + file.data.length : Nat) := by
    rw [file.bytes_length]
    omega
  have hsize : ((4 + file.data.length : Nat) : Int) - 4 = (file.data.length : Nat) := by omega
  have hif : (0 < (file.data.length : Int)) = (0 < file.data.length) := propext Int.natCast_pos
  unfold processBuffer
  rw [if_neg (not_not.mpr hnone)]
  simp only [file.footerLen_bytes, hstart, hsize, Int.toNat_natCast, file.range_footer,
    file.range_data, hdecode, hif]

lemma MergedUpTo.processBuffer (h : MergedUpTo run files metadata k s)
    (hdecode : run.deserialize (files (k + 1)).footer = .ok (metadata (k + 1)))
    (hpart : k + 1 ≤ run.partCount) (hnone : s.pipelineError = "")
    (hafter : (run.processBuffer (files (k + 1)).bytes part s).pipelineError = "")
    (pending : Nat → Option InMemoryPartitionData)
    (hpending : ∀ part result, pending part = some result →
      result.error ≠ "" ∨ result.buffer = some (files part).bytes) :
    MergedUpTo run files metadata (k + 1)
      { run.processBuffer (files (k + 1)).bytes part s with
        pending := pending, expectedPart := k + 2 } := by
  rw [processBuffer_bytes hdecode hnone] at hafter ⊢
  have hmerged : s.merged.addFile s.schemaSet s.currentOutputDataOffset (metadata (k + 1)) =
      mergedUpTo files metadata (k + 1) := by
    rw [h.merged, h.schemaSet, h.offset, mergedUpTo]
  have hset : true = decide (0 < k + 1) := (decide_eq_true (Nat.succ_pos k)).symm
  by_cases hdata : 0 < (files (k + 1)).data.length
  · simp only [if_pos hdata] at hafter ⊢
    by_cases hwrite : (run.fs.call (.write run.tempPath (files (k + 1)).data) s.world).1 = .ok
    · simp only [if_pos hwrite]
      refine ⟨rfl, hpart, ?_, ?_, hmerged, hset, hpending⟩
      · rw [call_write hwrite h.written, dataUpTo, List.append_assoc]
      · rw [h.offset, dataUpTo, List.length_append]
        rfl
    · simp only [if_neg hwrite] at hafter
      exact absurd hafter (Status.toString_ne _)
  · have hempty : (files (k + 1)).data = [] := List.length_eq_zero_iff.mp (by omega)
    simp only [if_neg hdata]
    refine ⟨rfl, hpart, ?_, ?_, hmerged, hset, hpending⟩
    · rw [h.written, dataUpTo, hempty, List.append_nil]
    · rw [h.offset, dataUpTo, hempty, List.append_nil]

omit [Inhabited μ] in
lemma processBuffer_pending (buffer : List UInt8) :
    (run.processBuffer buffer part s).pending = s.pending := by
  simp only [ParallelEncode.processBuffer]
  split
  · rfl
  · split
    · rfl
    · split
      · split <;> rfl
      · rfl

lemma partFailed_ne (part : Nat) (error : String) :
    "partition " ++ toString part ++ " failed: " ++ error ≠ "" :=
  append_ne_left (append_ne_right _ (by decide)) error

lemma MergedUpTo.takePending (h : MergedUpTo run files metadata k s)
    (hruns : run.Encodes files metadata) (hpart : k + 1 ≤ run.partCount)
    (hresult : s.pending s.expectedPart = some result) (hnone : s.pipelineError = "")
    (hafter : (run.takePending result s).pipelineError = "") :
    MergedUpTo run files metadata (k + 1) (run.takePending result s) := by
  have hdecode := hruns.decodes (k + 1) (List.mem_range'_1.mpr ⟨by omega, by omega⟩)
  have hgood := h.pending _ _ hresult
  rw [h.expected] at hgood
  by_cases herror : result.error = ""
  · have hbuffer := hgood.resolve_left (not_not.mpr herror)
    have htake : run.takePending result s =
        { run.processBuffer (files (k + 1)).bytes s.expectedPart s with
          pending := Function.update s.pending s.expectedPart none, expectedPart := k + 2 } := by
      simp only [ParallelEncode.takePending, if_neg (not_not.mpr herror), hbuffer,
        processBuffer_pending, h.expected]
    rw [htake] at hafter ⊢
    refine h.processBuffer hdecode hpart hnone hafter _ fun part kept hkept => ?_
    by_cases hsame : part = s.expectedPart
    · rw [hsame, Function.update_self] at hkept
      cases hkept
    · rw [Function.update_of_ne hsame] at hkept
      exact h.pending part kept hkept
  · have hfailed : (run.takePending result s).pipelineError =
        "partition " ++ toString s.expectedPart ++ " failed: " ++ result.error := by
      simp only [ParallelEncode.takePending, if_pos herror]
    rw [hfailed] at hafter
    exact absurd hafter (partFailed_ne _ _)

omit [Inhabited μ] in
lemma drainPending_failed (fuel : Nat) (h : s.pipelineError ≠ "") : run.drainPending fuel s = s := by
  cases fuel with
  | zero => rfl
  | succ fuel => exact if_neg h

lemma MergedUpTo.drainPending {fuel : Nat} (h : MergedUpTo run files metadata k s)
    (hruns : run.Encodes files metadata) (hfuel : fuel + k ≤ run.partCount)
    (hnone : s.pipelineError = "") (hafter : (run.drainPending fuel s).pipelineError = "") :
    ∃ k, MergedUpTo run files metadata k (run.drainPending fuel s) := by
  induction fuel generalizing k s with
  | zero => exact ⟨k, h⟩
  | succ fuel ih =>
    unfold ParallelEncode.drainPending at hafter ⊢
    rw [if_pos hnone] at hafter ⊢
    cases hresult : s.pending s.expectedPart with
    | none => exact ⟨k, h⟩
    | some result =>
      simp only [hresult] at hafter ⊢
      by_cases hturn : (run.takePending result s).pipelineError = ""
      · exact ih (h.takePending hruns (by omega) hresult hnone hturn) (by omega) hturn hafter
      · rw [drainPending_failed fuel hturn] at hafter
        exact absurd hafter hturn

lemma MergedUpTo.receive (h : MergedUpTo run files metadata k s)
    (hruns : run.Encodes files metadata) (hresult : result ∈ run.arrivals)
    (hnone : s.pipelineError = "") (hafter : (run.receive result s).pipelineError = "") :
    ∃ k, MergedUpTo run files metadata k (run.receive result s) := by
  have hpending : ∀ part kept, Function.update s.pending result.part (some result) part = some kept →
      kept.error ≠ "" ∨ kept.buffer = some (files part).bytes := by
    intro part kept hkept
    by_cases hsame : part = result.part
    · rw [hsame, Function.update_self] at hkept
      cases hkept
      rw [hsame]
      exact hruns.results result hresult
    · rw [Function.update_of_ne hsame] at hkept
      exact h.pending part kept hkept
  have hkept : MergedUpTo run files metadata k
      { s with pending := Function.update s.pending result.part (some result) } :=
    ⟨h.expected, h.bound, h.written, h.offset, h.merged, h.schemaSet, hpending⟩
  have hexpected := h.expected
  have hbound := h.bound
  exact hkept.drainPending hruns (by omega) hnone hafter

lemma MergedUpTo.consume {results : List InMemoryPartitionData}
    (h : MergedUpTo run files metadata k s) (hruns : run.Encodes files metadata)
    (hresults : results ⊆ run.arrivals) (hnone : s.pipelineError = "")
    (hafter : (run.consume results s).pipelineError = "") :
    ∃ k, MergedUpTo run files metadata k (run.consume results s) := by
  induction results generalizing k s with
  | nil => exact ⟨k, h⟩
  | cons result results ih =>
    obtain ⟨hresult, hrest⟩ := List.cons_subset.mp hresults
    simp only [ParallelEncode.consume] at hafter ⊢
    by_cases hturn : (run.receive result s).pipelineError = ""
    · rw [if_pos hturn] at hafter ⊢
      obtain ⟨k', h'⟩ := h.receive hruns hresult hnone hturn
      exact ih h' hrest hturn hafter
    · rw [if_neg hturn] at hafter
      exact absurd hafter hturn

/-! ## A run that returns 0 -/

omit [Inhabited μ] in
lemma checked_zero {called : Status × World UInt8} {next : World UInt8 → Int × World UInt8}
    (h : (run.checked called next).1 = 0) :
    called.1 = .ok ∧ (next called.2).1 = 0 ∧ run.checked called next = next called.2 := by
  unfold checked at h ⊢
  by_cases hok : called.1 = .ok
  · rw [if_pos hok] at h ⊢
    exact ⟨hok, h, rfl⟩
  · rw [if_neg hok] at h
    cases h

omit [Inhabited μ] in
/-- The end of the file is written and the file moved to its final path. -/
lemma finish_zero {merged : FileMetaData μ} {w : World UInt8} {contents : List UInt8}
    (hfile : w.files run.tempPath = some contents) (h : (run.finish merged w).1 = 0) :
    (run.finish merged w).2.files run.finalPath = some (contents ++ run.serialize merged ++
      leBytes 4 (run.serialize merged).length ++ parquetMagic) := by
  obtain ⟨hfooter, h, heq⟩ := checked_zero h
  have hfile := call_write hfooter hfile
  rw [ParallelEncode.finish, heq]
  obtain ⟨hlength, h, heq⟩ := checked_zero h
  have hfile := call_write hlength hfile
  rw [heq]
  obtain ⟨hmagic, h, heq⟩ := checked_zero h
  have hfile := call_write hmagic hfile
  rw [heq]
  obtain ⟨hclose, h, heq⟩ := checked_zero h
  rw [heq]
  obtain ⟨hmove, _, heq⟩ := checked_zero h
  rw [heq, (call_move hmove (tempPath_ne run.finalPath).symm).1, call_files_other List.not_mem_nil,
    hfile, footerLenBytes_eq]

lemma startMerge_merged {w : World UInt8} (hfile : w.files run.tempPath = some [])
    (hnone : (startMerge (μ := μ) (run.fs.call (.write run.tempPath parquetMagic) w)).pipelineError
      = "") :
    MergedUpTo run files metadata 0
      (startMerge (run.fs.call (.write run.tempPath parquetMagic) w)) := by
  unfold startMerge at hnone ⊢
  by_cases hwrite : (run.fs.call (.write run.tempPath parquetMagic) w).1 = .ok
  · refine ⟨rfl, Nat.zero_le _, ?_, rfl, rfl, rfl, fun _ _ hkept => (nomatch hkept)⟩
    exact (call_write hwrite hfile).trans (by rw [List.nil_append, dataUpTo, List.append_nil])
  · simp only [if_neg hwrite] at hnone
    exact absurd hnone (Status.toString_ne _)

omit [Inhabited μ] in
lemma consume_none {results : List InMemoryPartitionData}
    (h : (run.consume results s).pipelineError = "") : s.pipelineError = "" := by
  by_contra hfailed
  cases results with
  | nil => exact hfailed h
  | cons result results =>
    have hreceive : (run.receive result s).pipelineError = s.pipelineError := by
      rw [ParallelEncode.receive, drainPending_failed]
      exact hfailed
    simp only [ParallelEncode.consume, hreceive, if_neg hfailed] at h
    exact hfailed h

omit [Inhabited μ] in
lemma joinWorkers_none (h : (run.joinWorkers s).pipelineError = "") : run.joinWorkers s = s := by
  unfold joinWorkers at h ⊢
  by_cases hthrew : (run.workerThrew && decide (s.pipelineError = "")) = true
  · rw [if_pos hthrew] at h
    exact absurd h (show "worker task threw exception" ≠ "" by decide)
  · rw [if_neg hthrew]

lemma encode_zero {w : World UInt8} (hruns : run.Encodes files metadata)
    (hfile : w.files run.tempPath = some []) (h : (run.encode w).1 = 0) :
    (run.encode w).2.files run.finalPath = some (parquetMagic ++ dataUpTo files run.partCount ++
      run.serialize (mergedUpTo files metadata run.partCount) ++
      leBytes 4 (run.serialize (mergedUpTo files metadata run.partCount)).length ++
      parquetMagic) := by
  unfold ParallelEncode.encode at h ⊢
  generalize hstart : startMerge (μ := μ) (run.fs.call (.write run.tempPath parquetMagic) w) = start
    at h ⊢
  by_cases hjoined : (run.joinWorkers (run.consume run.arrivals start)).pipelineError = ""
  · have hjoin := joinWorkers_none hjoined
    rw [hjoin] at hjoined h ⊢
    have hstarted := consume_none hjoined
    subst hstart
    have hnothing : MergedUpTo run files metadata 0 _ := startMerge_merged hfile hstarted
    obtain ⟨k, hmerged⟩ := hnothing.consume hruns (List.Subset.refl _) hstarted hjoined
    simp only [if_neg (not_not.mpr hjoined)] at h ⊢
    by_cases hall : (run.consume run.arrivals (startMerge
        (run.fs.call (.write run.tempPath parquetMagic) w))).expectedPart = run.partCount + 1
    · obtain rfl : k = run.partCount := by
        have hexpected := hmerged.expected
        omega
      simp only [if_neg (not_not.mpr hall)] at h ⊢
      rw [finish_zero hmerged.written h, hmerged.merged]
    · simp only [if_pos hall] at h
      cases h
  · simp only [if_pos hjoined] at h
    cases h

lemma openTemp_zero {w : World UInt8} (hruns : run.Encodes files metadata)
    (h : (run.openTemp w).1 = 0) :
    (run.openTemp w).2.files run.finalPath = some (parquetMagic ++ dataUpTo files run.partCount ++
      run.serialize (mergedUpTo files metadata run.partCount) ++
      leBytes 4 (run.serialize (mergedUpTo files metadata run.partCount)).length ++
      parquetMagic) := by
  obtain ⟨hopen, h, heq⟩ := checked_zero h
  have hfile := call_openOutputStream hopen
  rw [openTemp, heq]
  by_cases hbuffer : 0 < run.outputBufferBytes
  · rw [if_pos hbuffer] at h ⊢
    obtain ⟨_, h, heq⟩ := checked_zero h
    rw [heq]
    exact encode_zero hruns ((call_files_other List.not_mem_nil).trans hfile) h
  · rw [if_neg hbuffer] at h ⊢
    exact encode_zero hruns hfile h

/-- A run that opened the temporary file, or left the file that was there. -/
lemma runOrdered_cases {initial : String → Option (List UInt8)}
    (h : (run.runOrdered ⟨initial, [], []⟩).1 = 0) :
    (∃ w, run.runOrdered ⟨initial, [], []⟩ = run.openTemp w ∧ (run.openTemp w).1 = 0) ∨
      .openOutputStream run.tempPath ∉ (run.runOrdered ⟨initial, [], []⟩).2.calls := by
  obtain ⟨_, h, heq⟩ := checked_zero h
  rw [runOrdered, heq]
  obtain ⟨_, h, heq⟩ := checked_zero h
  rw [heq]
  obtain ⟨_, h, heq⟩ := checked_zero h
  rw [heq]
  simp only at h ⊢
  split at h
  · next hexists =>
    rw [if_pos hexists]
    exact .inr (by simp [World.reportError, FileSystem.call])
  · next hnew =>
    rw [if_neg hnew]
    exact .inl ⟨_, rfl, h⟩

/-! ## What the file says -/

lemma mergedUpTo_rowGroups (k : Nat) : (mergedUpTo files metadata k).rowGroups =
    (List.range' 1 k).flatMap fun part =>
      (metadata part).rowGroups.map (RowGroup.shift (dataUpTo files (part - 1)).length) := by
  induction k with
  | zero => rfl
  | succ k ih =>
    rw [mergedUpTo, FileMetaData.addFile_rowGroups, ih, List.range'_1_concat, List.flatMap_append,
      List.flatMap_singleton, Nat.add_comm 1 k, Nat.add_sub_cancel]

lemma mergedUpTo_numRows (k : Nat) : (mergedUpTo files metadata k).numRows =
    (((List.range' 1 k).flatMap fun part => (metadata part).rowGroups).map RowGroup.numRows).sum := by
  induction k with
  | zero => rfl
  | succ k ih =>
    rw [mergedUpTo, FileMetaData.addFile_numRows, ih, List.range'_1_concat, List.flatMap_append,
      List.flatMap_singleton, List.map_append, List.sum_append, Nat.add_comm 1 k]

omit [Inhabited μ] in
lemma dataUpTo_eq (k : Nat) :
    dataUpTo files k = (List.range' 1 k).flatMap fun part => (files part).data := by
  induction k with
  | zero => rfl
  | succ k ih =>
    rw [dataUpTo, ih, List.range'_1_concat, List.flatMap_append, List.flatMap_singleton,
      Nat.add_comm 1 k]

lemma dataUpTo_split (files : Nat → MiniFile) {n : Nat} (h : k < n) :
    ∃ rest, dataUpTo files n = dataUpTo files k ++ ((files (k + 1)).data ++ rest) := by
  induction n with
  | zero => exact absurd h (Nat.not_lt_zero k)
  | succ n ih =>
    by_cases hlast : k = n
    · subst hlast
      exact ⟨[], by rw [List.append_nil]; rfl⟩
    · obtain ⟨rest, hrest⟩ := ih (by omega)
      exact ⟨rest ++ (files (n + 1)).data, by rw [dataUpTo, hrest]; simp only [List.append_assoc]⟩

end ParallelEncode

/-- A row group of a mini-file and the one it became in `output`: the offsets of the latter
point at the same bytes, and the rest is the same. -/
structure Rebased (file : MiniFile) (output : List UInt8) (rg rebased : RowGroup μ) : Prop where
  rest : rebased.withoutOffsets = rg.withoutOffsets
  present : ∀ column kind, (rebased.offset column kind).isSome = (rg.offset column kind).isSome
  ranges : ∀ column kind old new, rg.offset column kind = some old →
    rebased.offset column kind = some new → ∀ length : Nat, 4 ≤ old →
      old + length ≤ 4 + file.data.length →
      range output new.toNat length = range file.bytes old.toNat length

lemma rebased_shift (file : MiniFile) (before rest : List UInt8) (rg : RowGroup μ) :
    Rebased file (parquetMagic ++ before ++ (file.data ++ rest)) rg (rg.shift before.length) := by
  refine ⟨rg.shift_withoutOffsets _, fun column kind => ?_, ?_⟩
  · rw [rg.shift_offset, Option.isSome_map]
  · intro column kind old new hold hnew length hlow hhigh
    rw [rg.shift_offset, hold] at hnew
    obtain rfl : old + before.length = new := Option.some.inj hnew
    obtain ⟨start, rfl⟩ : ∃ start : Nat, old = 4 + start := ⟨(old - 4).toNat, by omega⟩
    have hnew : (4 + (start : Int) + before.length).toNat = (parquetMagic ++ before).length + start := by
      rw [List.length_append, show parquetMagic.length = 4 from rfl]
      omega
    have hold : (4 + (start : Int)).toNat = parquetMagic.length + start := by
      rw [show parquetMagic.length = 4 from rfl]
      omega
    rw [hnew, hold, range_append_right, MiniFile.bytes, range_append_right,
      range_append_left (by omega), range_append_left (by omega)]

namespace ParallelEncode

variable [Inhabited μ] {run : ParallelEncode μ} {files : Nat → MiniFile}
  {metadata : Nat → FileMetaData μ}

omit [Inhabited μ] in
lemma rebased_rowGroups {n : Nat} (ending : List UInt8) :
    List.Forall₂ (fun rg rebased =>
        Rebased (files rg.1) (parquetMagic ++ dataUpTo files n ++ ending) rg.2 rebased)
      ((List.range' 1 n).flatMap fun part => (metadata part).rowGroups.map fun rg => (part, rg))
      ((List.range' 1 n).flatMap fun part =>
        (metadata part).rowGroups.map (RowGroup.shift (dataUpTo files (part - 1)).length)) := by
  have hmap : ((List.range' 1 n).flatMap fun part =>
        (metadata part).rowGroups.map (RowGroup.shift (dataUpTo files (part - 1)).length)) =
      ((List.range' 1 n).flatMap fun part => (metadata part).rowGroups.map fun rg => (part, rg)).map
        fun rg => rg.2.shift (dataUpTo files (rg.1 - 1)).length := by
    simp only [List.map_flatMap, List.map_map]
    rfl
  rw [hmap, List.forall₂_map_right_iff, List.forall₂_same]
  intro rg hrg
  obtain ⟨part, hpart, hrg⟩ := List.mem_flatMap.mp hrg
  obtain ⟨rg, _, rfl⟩ := List.mem_map.mp hrg
  have hbounds := List.mem_range'_1.mp hpart
  obtain ⟨k, rfl⟩ : ∃ k, part = k + 1 := ⟨part - 1, by omega⟩
  obtain ⟨rest, hrest⟩ := dataUpTo_split files (show k < n by omega)
  have houtput : parquetMagic ++ dataUpTo files n ++ ending =
      parquetMagic ++ dataUpTo files k ++ ((files (k + 1)).data ++ (rest ++ ending)) := by
    rw [hrest]
    simp only [List.append_assoc]
  rw [houtput]
  exact rebased_shift _ _ _ rg

/-- The file for a given footer. -/
def mergedFile (run : ParallelEncode μ) (files : Nat → MiniFile) (merged : FileMetaData μ) :
    List UInt8 :=
  parquetMagic ++ ((List.range' 1 run.partCount).flatMap fun part => (files part).data) ++
    run.serialize merged ++ leBytes 4 (run.serialize merged).length ++ parquetMagic

/-- The merge: the file of a run that returns 0 does not depend on the order of the results. It
is all data with one footer, and the row groups of the footer are those of the parts in order,
re-based. -/
theorem runOrdered_merges {initial : String → Option (List UInt8)}
    (hruns : run.Encodes files metadata) (h : (run.runOrdered ⟨initial, [], []⟩).1 = 0)
    (hopen : .openOutputStream run.tempPath ∈ (run.runOrdered ⟨initial, [], []⟩).2.calls) :
    (run.runOrdered ⟨initial, [], []⟩).2.files run.finalPath =
        some (run.mergedFile files (mergedUpTo files metadata run.partCount)) ∧
      (mergedUpTo files metadata run.partCount).numRows =
        (((List.range' 1 run.partCount).flatMap fun part =>
          (metadata part).rowGroups).map RowGroup.numRows).sum ∧
      List.Forall₂ (fun rg rebased => Rebased (files rg.1)
          (run.mergedFile files (mergedUpTo files metadata run.partCount)) rg.2 rebased)
        ((List.range' 1 run.partCount).flatMap fun part =>
          (metadata part).rowGroups.map fun rg => (part, rg))
        (mergedUpTo files metadata run.partCount).rowGroups := by
  obtain ⟨w, heq, hzero⟩ := (runOrdered_cases h).resolve_right (not_not.mpr hopen)
  refine ⟨?_, mergedUpTo_numRows _, ?_⟩
  · rw [heq, openTemp_zero hruns hzero, dataUpTo_eq, mergedFile]
  · rw [mergedUpTo_rowGroups, mergedFile, ← dataUpTo_eq, List.append_assoc _ (leBytes _ _),
      List.append_assoc _ (run.serialize _)]
    exact rebased_rowGroups _

/-! ### Two parts, the second one first

The footers are in the compact protocol: one row group of two rows in three bytes, and one of
one row in two bytes. -/

def partFooters : Nat → List UInt8
  | 1 => [0x15, 0x02, 0x19, 0x0C, 0x16, 0x04, 0x19, 0x1C,
      0x19, 0x0C, 0x16, 0x06, 0x16, 0x04, 0x26, 0x08, 0x00, 0x00]
  | _ => [0x15, 0x02, 0x19, 0x0C, 0x16, 0x02, 0x19, 0x1C,
      0x19, 0x0C, 0x16, 0x04, 0x16, 0x02, 0x26, 0x08, 0x00, 0x00]

def partMetadata : Nat → FileMetaData (List Int)
  | 1 => ⟨1, [], 2, [⟨[], 2, some 4, none, [3]⟩], none, none, none⟩
  | _ => ⟨1, [], 1, [⟨[], 1, some 4, none, [2]⟩], none, none, none⟩

def partFiles : Nat → MiniFile
  | 1 => ⟨[10, 11, 12], partFooters 1, by decide⟩
  | _ => ⟨[20, 21], partFooters 2, by decide⟩

def mergedFooter : List UInt8 :=
  [0x15, 0x02, 0x19, 0x0C, 0x16, 0x06, 0x19, 0x2C,
    0x19, 0x0C, 0x16, 0x06, 0x16, 0x04, 0x26, 0x08, 0x00,
    0x19, 0x0C, 0x16, 0x04, 0x16, 0x02, 0x26, 0x0E, 0x00, 0x00]

def twoResults : ParallelEncode (List Int) where
  tableName := "orders"
  partCount := 2
  outputBufferBytes := 0
  getFilesystem := .ok
  getPath := .ok
  baseDir := "out"
  fs := ⟨fun _ _ => .ok, fun _ => []⟩
  deserialize := fun bytes =>
    if bytes = partFooters 1 then .ok (partMetadata 1)
    else if bytes = partFooters 2 then .ok (partMetadata 2)
    else .error "Couldn't deserialize thrift"
  serialize := fun metadata => if metadata = mergedUpTo partFiles partMetadata 2 then mergedFooter else []
  arrivals := [⟨2, some (partFiles 2).bytes, ""⟩, ⟨1, some (partFiles 1).bytes, ""⟩]
  workerThrew := false

lemma twoResults_encodes : twoResults.Encodes partFiles partMetadata := by
  refine ⟨?_, by decide⟩
  intro result hresult
  obtain rfl | rfl : result = ⟨2, some (partFiles 2).bytes, ""⟩ ∨
      result = ⟨1, some (partFiles 1).bytes, ""⟩ := by
    simpa [twoResults] using hresult
  · exact .inr rfl
  · exact .inr rfl

theorem runOrdered_merges_twoResults :
    (twoResults.runOrdered ⟨fun _ => none, [], []⟩).2.files twoResults.finalPath =
        some (twoResults.mergedFile partFiles (mergedUpTo partFiles partMetadata 2)) ∧
      (mergedUpTo partFiles partMetadata 2).numRows = 3 :=
  have hzero : (twoResults.runOrdered ⟨fun _ => none, [], []⟩).1 = 0 := by decide
  have h := runOrdered_merges twoResults_encodes hzero (by decide)
  ⟨h.1, h.2.1⟩

end ParallelEncode

end Schengen.Storage
