import Schengen.Storage.MergeOutcome

/-!
# The metadata of the merged Parquet file

What `process_buffer` carries from the footers of the mini-files into the merged footer besides
the offsets of the data: the positions of the row groups, the offsets of the column chunks
themselves, and the fields of the file.
-/

namespace Schengen.Storage
open Library

variable {μ : Type}

/-! ## Positions -/

/-- Row group `j` has ordinal `j`. -/
def Ordinals (rowGroups : List (RowGroup μ)) : Prop :=
  ∀ (j : Nat) rg, rowGroups[j]? = some rg → rg.ordinal = some (j : Int)

/-- The positions in a mini-file: the ordinals, and chunk offsets that are zero or inside. -/
structure Positioned (file : MiniFile) (rowGroups : List (RowGroup μ)) : Prop where
  ordinals : Ordinals rowGroups
  chunks : ∀ rg ∈ rowGroups, ∀ col ∈ rg.columns,
    col.fileOffset = 0 ∨ 4 ≤ col.fileOffset ∧ col.fileOffset < file.bytes.length

/-- A non-zero `file_offset` moves as far as the other offsets of its chunk. -/
def ColumnChunk.ShiftsTogether (old new : ColumnChunk μ) : Prop :=
  old.fileOffset ≠ 0 →
    ∀ kind, new.offset kind = (old.offset kind).map (· + (new.fileOffset - old.fileOffset))

/-- The row groups of the mini-files and those of the merged file. -/
structure Renumbered (sources merged : List (RowGroup μ)) : Prop where
  ordinals : Ordinals merged
  chunks : List.Forall₂ (fun old new : RowGroup μ =>
    List.Forall₂ ColumnChunk.ShiftsTogether old.columns new.columns) sources merged

lemma ordinals_append {first second : List (RowGroup μ)} (hsecond : Ordinals second) :
    Ordinals (first ++ second) ↔ Ordinals first ∧ (second ≠ [] → first = []) := by
  constructor
  · intro h
    refine ⟨fun j rg hrg => ?_, fun hne => ?_⟩
    · have hlt : j < first.length := (List.getElem?_eq_some_iff.mp hrg).1
      exact h j rg ((List.getElem?_append_left hlt).trans hrg)
    · obtain ⟨rg, rest, rfl⟩ := List.exists_cons_of_ne_nil hne
      have hown := hsecond 0 rg rfl
      have hmerged := h first.length rg (by
        rw [List.getElem?_append_right (Nat.le_refl _), Nat.sub_self]
        rfl)
      rw [hown] at hmerged
      have hzero : (0 : Int) = first.length := Option.some.inj hmerged
      exact List.length_eq_zero_iff.mp (by omega)
  · rintro ⟨hfirst, hempty⟩
    by_cases hne : second = []
    · rwa [hne, List.append_nil]
    · rwa [hempty hne, List.nil_append]

lemma ordinals_shift (delta : Int) {rowGroups : List (RowGroup μ)} :
    Ordinals (rowGroups.map (RowGroup.shift delta)) ↔ Ordinals rowGroups := by
  constructor
  · intro h j rg hrg
    exact h j (rg.shift delta) (by rw [List.getElem?_map, hrg]; rfl)
  · intro h j rg hrg
    rw [List.getElem?_map] at hrg
    obtain ⟨old, hold, rfl⟩ := Option.map_eq_some_iff.mp hrg
    exact h j old hold

/-- `process_buffer` shifts every offset of a chunk but `file_offset`. -/
lemma shiftsTogether_iff (delta : Int) (col : ColumnChunk μ) :
    col.ShiftsTogether (col.shift delta) ↔
      (col.fileOffset ≠ 0 → (∃ kind, (col.offset kind).isSome = true) → delta = 0) := by
  refine forall_congr' fun _ => ?_
  have hsame : (col.shift delta).fileOffset - col.fileOffset = 0 := Int.sub_self _
  simp only [hsame, col.shift_offset]
  constructor
  · rintro h ⟨kind, hkind⟩
    obtain ⟨offset, hoffset⟩ := Option.isSome_iff_exists.mp hkind
    have hshift := h kind
    rw [hoffset] at hshift
    have hequal : offset + delta = offset + 0 := Option.some.inj hshift
    omega
  · intro h kind
    cases hoffset : col.offset kind with
    | none => rfl
    | some offset => rw [h ⟨kind, by rw [hoffset]; rfl⟩]

lemma shiftsTogether_columns (delta : Int) (rg : RowGroup μ) :
    List.Forall₂ ColumnChunk.ShiftsTogether rg.columns (rg.shift delta).columns ↔
      ∀ col ∈ rg.columns, col.fileOffset ≠ 0 → (∃ kind, (col.offset kind).isSome = true) →
        delta = 0 := by
  change List.Forall₂ _ rg.columns (rg.columns.map (ColumnChunk.shift delta)) ↔ _
  rw [List.forall₂_map_right_iff, List.forall₂_same]
  exact forall₂_congr fun col _ => shiftsTogether_iff delta col

namespace ParallelEncode

variable [Inhabited μ] {run : ParallelEncode μ} {files : Nat → MiniFile}
  {metadata : Nat → FileMetaData μ} {k : Nat} {w : World UInt8}

/-- Where the merge meets no error it has merged a first range of the parts. -/
lemma merge_mergedUpTo (hruns : run.Encodes files metadata)
    (hopened : w.files run.tempPath = some []) (hnone : (run.merge w).pipelineError = "") :
    ∃ k, MergedUpTo run files metadata k (run.merge w) := by
  have hjoin : run.merge w = run.consume run.arrivals _ := joinWorkers_none hnone
  rw [hjoin] at hnone ⊢
  have hstarted := consume_none hnone
  exact (startMerge_merged hopened hstarted).consume hruns (List.Subset.refl _) hstarted hnone

/-- Of the parts up to `k` only one has row groups. -/
def OneHasRowGroups (metadata : Nat → FileMetaData μ) (k : Nat) : Prop :=
  ∀ part ∈ List.range' 1 k, (metadata part).rowGroups ≠ [] →
    ∀ earlier ∈ List.range' 1 (part - 1), (metadata earlier).rowGroups = []

/-- A chunk with a `file_offset` beside other offsets has no data of earlier parts before it. -/
def ChunkOffsetsFirst (files : Nat → MiniFile) (metadata : Nat → FileMetaData μ) (k : Nat) : Prop :=
  ∀ part ∈ List.range' 1 k, ∀ rg ∈ (metadata part).rowGroups, ∀ col ∈ rg.columns,
    col.fileOffset ≠ 0 → (∃ kind, (col.offset kind).isSome = true) →
      ∀ earlier ∈ List.range' 1 (part - 1), (files earlier).data = []

lemma mergedUpTo_rowGroups_nil : (mergedUpTo files metadata k).rowGroups = [] ↔
    ∀ part ∈ List.range' 1 k, (metadata part).rowGroups = [] := by
  rw [mergedUpTo_rowGroups, List.flatMap_eq_nil_iff]
  exact forall₂_congr fun part _ => List.map_eq_nil_iff

lemma mergedUpTo_ordinals (hordinals : ∀ part ∈ List.range' 1 k, Ordinals (metadata part).rowGroups) :
    Ordinals (mergedUpTo files metadata k).rowGroups ↔ OneHasRowGroups metadata k := by
  unfold OneHasRowGroups
  induction k with
  | zero => exact iff_of_true (fun j rg hrg => nomatch hrg) (fun part hpart => nomatch hpart)
  | succ k ih =>
    rw [List.range'_1_concat] at hordinals ⊢
    obtain ⟨hbefore, hlast⟩ := List.forall_mem_append.mp hordinals
    have hlast := (ordinals_shift (dataUpTo files k).length).mpr
      (hlast (1 + k) (List.mem_singleton_self _))
    rw [mergedUpTo, FileMetaData.addFile_rowGroups, Nat.add_comm k 1, ordinals_append hlast,
      ih hbefore, List.forall_mem_append, mergedUpTo_rowGroups_nil]
    simp only [ne_eq, List.map_eq_nil_iff, List.mem_singleton, forall_eq, Nat.add_sub_cancel_left]

omit [Inhabited μ] in
lemma dataUpTo_length_eq_zero : ((dataUpTo files k).length : Int) = 0 ↔
    ∀ part ∈ List.range' 1 k, (files part).data = [] := by
  rw [Int.natCast_eq_zero, List.length_eq_zero_iff, dataUpTo_eq, List.flatMap_eq_nil_iff]

lemma mergedUpTo_chunks :
    List.Forall₂ (fun old new : RowGroup μ =>
        List.Forall₂ ColumnChunk.ShiftsTogether old.columns new.columns)
      ((List.range' 1 k).flatMap fun part => (metadata part).rowGroups)
      (mergedUpTo files metadata k).rowGroups ↔ ChunkOffsetsFirst files metadata k := by
  have hsources : ((List.range' 1 k).flatMap fun part => (metadata part).rowGroups) =
      ((List.range' 1 k).flatMap fun part =>
        (metadata part).rowGroups.map fun rg => (part, rg)).map Prod.snd := by
    simp only [List.map_flatMap, List.map_map, Function.comp_def, List.map_id']
  have hmerged : (mergedUpTo files metadata k).rowGroups =
      ((List.range' 1 k).flatMap fun part => (metadata part).rowGroups.map fun rg => (part, rg)).map
        fun rg => rg.2.shift (dataUpTo files (rg.1 - 1)).length := by
    rw [mergedUpTo_rowGroups]
    simp only [List.map_flatMap, List.map_map, Function.comp_def]
  rw [hsources, hmerged, List.forall₂_map_left_iff, List.forall₂_map_right_iff, List.forall₂_same]
  simp only [shiftsTogether_columns, dataUpTo_length_eq_zero, ChunkOffsetsFirst, List.mem_flatMap,
    List.mem_map]
  constructor
  · intro h part hpart rg hrg
    exact h (part, rg) ⟨part, hpart, rg, hrg, rfl⟩
  · rintro h _ ⟨part, hpart, rg, hrg, rfl⟩
    exact h part hpart rg hrg

/-- The merged metadata has the right positions where one mini-file alone has row groups and no
chunk behind the data of other parts has a `file_offset`: neither field is re-based. -/
theorem merge_renumbered_iff (hruns : run.Encodes files metadata)
    (hpositioned : ∀ part ∈ List.range' 1 run.partCount,
      Positioned (files part) (metadata part).rowGroups)
    (hopened : w.files run.tempPath = some []) (hnone : (run.merge w).pipelineError = "") :
    Renumbered
        ((List.range' 1 run.inOrder.length).flatMap fun part => (metadata part).rowGroups)
        (run.merge w).merged.rowGroups ↔
      OneHasRowGroups metadata run.inOrder.length ∧
        ChunkOffsetsFirst files metadata run.inOrder.length := by
  obtain ⟨k, hmerged⟩ := merge_mergedUpTo hruns hopened hnone
  obtain rfl : k = run.inOrder.length :=
    Nat.succ_injective (hmerged.expected.symm.trans (merge_expected hnone))
  have hordinals : ∀ part ∈ List.range' 1 run.inOrder.length, Ordinals (metadata part).rowGroups := by
    intro part hpart
    have hbounds := List.mem_range'_1.mp hpart
    have hbound := hmerged.bound
    exact (hpositioned part (List.mem_range'_1.mpr ⟨by omega, by omega⟩)).ordinals
  rw [hmerged.merged, ← mergedUpTo_ordinals hordinals, ← mergedUpTo_chunks]
  exact ⟨fun h => ⟨h.ordinals, h.chunks⟩, fun h => ⟨h.1, h.2⟩⟩

/-! ### Two parts with one row group each

The chunks have a `file_offset` and an offset index. -/

def positionedFooters : Nat → List UInt8
  | 1 => [0x15, 0x02, 0x19, 0x0C, 0x16, 0x04, 0x19, 0x1C, 0x19, 0x1C, 0x26, 0x08, 0x26, 0x0A, 0x00,
      0x16, 0x06, 0x16, 0x04, 0x26, 0x08, 0x24, 0x00, 0x00, 0x00]
  | _ => [0x15, 0x02, 0x19, 0x0C, 0x16, 0x02, 0x19, 0x1C, 0x19, 0x1C, 0x26, 0x08, 0x26, 0x0A, 0x00,
      0x16, 0x04, 0x16, 0x02, 0x26, 0x08, 0x24, 0x00, 0x00, 0x00]

def positionedMetadata : Nat → FileMetaData (List Int)
  | 1 => ⟨1, [], 2, [⟨[⟨4, none, some 5, none, []⟩], 2, some 4, some 0, [3]⟩], none, none, none⟩
  | _ => ⟨1, [], 1, [⟨[⟨4, none, some 5, none, []⟩], 1, some 4, some 0, [2]⟩], none, none, none⟩

def positionedFiles : Nat → MiniFile
  | 1 => ⟨[10, 11, 12], positionedFooters 1, by decide⟩
  | _ => ⟨[20, 21], positionedFooters 2, by decide⟩

def positionedParts : ParallelEncode (List Int) :=
  { twoResults with
    deserialize := fun bytes =>
      if bytes = positionedFooters 1 then .ok (positionedMetadata 1)
      else if bytes = positionedFooters 2 then .ok (positionedMetadata 2)
      else .error "Couldn't deserialize thrift"
    arrivals := [⟨2, some (positionedFiles 2).bytes, ""⟩, ⟨1, some (positionedFiles 1).bytes, ""⟩] }

/-- The temporary file is open. -/
def positionedOpened : World UInt8 :=
  (positionedParts.fs.call (.openOutputStream positionedParts.tempPath) ⟨fun _ => none, [], []⟩).2

lemma positionedParts_encodes : positionedParts.Encodes positionedFiles positionedMetadata := by
  refine ⟨?_, by decide⟩
  intro result hresult
  obtain rfl | rfl : result = ⟨2, some (positionedFiles 2).bytes, ""⟩ ∨
      result = ⟨1, some (positionedFiles 1).bytes, ""⟩ := by
    simpa [positionedParts] using hresult
  · exact .inr rfl
  · exact .inr rfl

lemma positionedFiles_positioned : ∀ part ∈ List.range' 1 2,
    Positioned (positionedFiles part) (positionedMetadata part).rowGroups := by
  have hfile : ∀ part, part = 1 ∨ part = 2 →
      Positioned (positionedFiles part) (positionedMetadata part).rowGroups := by
    rintro part (rfl | rfl)
    · refine ⟨fun j rg hrg => ?_, by decide⟩
      cases j with
      | zero =>
        cases hrg
        rfl
      | succ j => cases hrg
    · refine ⟨fun j rg hrg => ?_, by decide⟩
      cases j with
      | zero =>
        cases hrg
        rfl
      | succ j => cases hrg
  intro part hpart
  have hbounds := List.mem_range'_1.mp hpart
  exact hfile part (by omega)

theorem merge_renumbered_iff_positionedParts :
    Renumbered ((List.range' 1 2).flatMap fun part => (positionedMetadata part).rowGroups)
        (positionedParts.merge positionedOpened).merged.rowGroups ↔
      OneHasRowGroups positionedMetadata 2 ∧
        ChunkOffsetsFirst positionedFiles positionedMetadata 2 :=
  @merge_renumbered_iff _ _ positionedParts _ _ positionedOpened positionedParts_encodes
    positionedFiles_positioned (call_openOutputStream rfl) (by decide)

/-- Both row groups of the merged file have ordinal 0, and the second chunk's `file_offset` stays
where it was while its offset index moves by three bytes. -/
theorem positionedParts_not_renumbered :
    ¬ Ordinals (positionedParts.merge positionedOpened).merged.rowGroups ∧
      ¬ List.Forall₂ (fun old new : RowGroup (List Int) =>
          List.Forall₂ ColumnChunk.ShiftsTogether old.columns new.columns)
        ((List.range' 1 2).flatMap fun part => (positionedMetadata part).rowGroups)
        (positionedParts.merge positionedOpened).merged.rowGroups := by
  have hmerged : (positionedParts.merge positionedOpened).merged =
      mergedUpTo positionedFiles positionedMetadata 2 := by decide
  rw [hmerged, mergedUpTo_chunks]
  refine ⟨fun h => absurd (h 1 _ rfl) (by decide), fun h => ?_⟩
  have hdata := h 2 (by decide) _ (List.mem_singleton_self _) _ (List.mem_singleton_self _)
    (by decide) ⟨.offsetIndex, rfl⟩ 1 (by decide)
  exact absurd hdata (by decide)

end ParallelEncode

/-! ## The fields of the file -/

/-- Two footers agree on the fields that are not counted or collected. -/
structure SameFileFields (a b : FileMetaData μ) : Prop where
  version : a.version = b.version
  schema : a.schema = b.schema
  createdBy : a.createdBy = b.createdBy
  keyValueMetadata : a.keyValueMetadata = b.keyValueMetadata
  columnOrders : a.columnOrders = b.columnOrders

lemma SameFileFields.eq {a b : FileMetaData μ} (h : SameFileFields a b)
    (hrows : a.numRows = b.numRows) (hgroups : a.rowGroups = b.rowGroups) : a = b := by
  obtain ⟨version, schema, numRows, rowGroups, createdBy, keyValueMetadata, columnOrders⟩ := a
  obtain ⟨rfl, rfl, rfl, rfl, rfl⟩ := h
  cases hrows
  cases hgroups
  rfl

lemma ColumnChunk.shift_zero (col : ColumnChunk μ) : col.shift 0 = col := by
  obtain ⟨fileOffset, metaData, offsetIndex, columnIndex, rest⟩ := col
  cases metaData <;> simp [ColumnChunk.shift, ColumnMetaData.shift]

lemma RowGroup.shift_zero (rg : RowGroup μ) : rg.shift 0 = rg := by
  have hcolumns : rg.columns.map (ColumnChunk.shift 0) = rg.columns :=
    (List.map_congr_left fun col _ => col.shift_zero).trans (List.map_id _)
  obtain ⟨columns, numRows, fileOffset, ordinal, rest⟩ := rg
  simp only [RowGroup.shift, hcolumns, Int.add_zero, Option.map_id']

namespace FileMetaData

lemma addRowGroups_fields (delta : Int) (merged file : FileMetaData μ) :
    SameFileFields (merged.addRowGroups delta file) merged := by
  unfold addRowGroups
  induction file.rowGroups generalizing merged with
  | nil => exact ⟨rfl, rfl, rfl, rfl, rfl⟩
  | cons rg rgs ih =>
    rw [List.foldl_cons]
    obtain ⟨hversion, hschema, hcreated, hkeys, horders⟩ := ih (merged.addRowGroup delta rg)
    exact ⟨hversion, hschema, hcreated, hkeys, horders⟩

end FileMetaData

namespace ParallelEncode

variable [Inhabited μ] {run : ParallelEncode μ} {files : Nat → MiniFile}
  {metadata : Nat → FileMetaData μ} {w : World UInt8}

variable (files metadata) in
/-- The merged footer has three fields of the first part, and never the other two. -/
lemma mergedUpTo_fields (k : Nat) : SameFileFields (mergedUpTo files metadata (k + 1))
    { metadata 1 with keyValueMetadata := none, columnOrders := none } := by
  induction k with
  | zero =>
    obtain ⟨hversion, hschema, hcreated, hkeys, horders⟩ := FileMetaData.addRowGroups_fields
      (dataUpTo files 0).length ((mergedUpTo files metadata 0).setSchema (metadata 1)) (metadata 1)
    refine ⟨hversion, hschema, hcreated.trans ?_, hkeys, horders⟩
    change (if (metadata 1).createdBy.isSome then (metadata 1).createdBy else none) = _
    cases (metadata 1).createdBy <;> rfl
  | succ k ih =>
    obtain ⟨hversion, hschema, hcreated, hkeys, horders⟩ := FileMetaData.addRowGroups_fields
      (dataUpTo files (k + 1)).length (mergedUpTo files metadata (k + 1)) (metadata (k + 2))
    exact ⟨hversion.trans ih.version, hschema.trans ih.schema, hcreated.trans ih.createdBy,
      hkeys.trans ih.keyValueMetadata, horders.trans ih.columnOrders⟩

variable (files metadata) in
lemma mergedUpTo_one : (mergedUpTo files metadata 1).rowGroups = (metadata 1).rowGroups ∧
    (mergedUpTo files metadata 1).numRows = ((metadata 1).rowGroups.map RowGroup.numRows).sum := by
  refine ⟨?_, ?_⟩
  · rw [mergedUpTo_rowGroups]
    change (metadata 1).rowGroups.map (RowGroup.shift 0) ++ [] = _
    rw [List.append_nil]
    exact (List.map_congr_left fun rg _ => rg.shift_zero).trans (List.map_id _)
  · rw [mergedUpTo_numRows]
    change (((metadata 1).rowGroups ++ []).map RowGroup.numRows).sum = _
    rw [List.append_nil]

/-- One mini-file is merged into itself where it has no field that the merge drops. -/
lemma mergedUpTo_one_eq_iff : mergedUpTo files metadata 1 = metadata 1 ↔
    (metadata 1).keyValueMetadata = none ∧ (metadata 1).columnOrders = none ∧
      (metadata 1).numRows = ((metadata 1).rowGroups.map RowGroup.numRows).sum := by
  have hfields := mergedUpTo_fields files metadata 0
  obtain ⟨hgroups, hrows⟩ := mergedUpTo_one files metadata
  constructor
  · intro h
    rw [Nat.zero_add, h] at hfields
    rw [h] at hrows
    exact ⟨hfields.keyValueMetadata, hfields.columnOrders, hrows⟩
  · rintro ⟨hkeys, horders, hnumRows⟩
    have hsame : SameFileFields (mergedUpTo files metadata 1) (metadata 1) :=
      ⟨hfields.version, hfields.schema, hfields.createdBy,
        hfields.keyValueMetadata.trans hkeys.symm, hfields.columnOrders.trans horders.symm⟩
    exact hsame.eq (hrows.trans hnumRows.symm) hgroups

/-- The footer that a complete merge serializes has the fields of the mini-files where these have
neither `key_value_metadata` nor `column_orders`: the merge sets neither. -/
theorem merge_sameFileFields_iff (hruns : run.Encodes files metadata) (hpositive : 1 ≤ run.partCount)
    (hagree : ∀ part ∈ List.range' 1 run.partCount, SameFileFields (metadata part) (metadata 1))
    (hopened : w.files run.tempPath = some []) (hnone : (run.merge w).pipelineError = "")
    (hcomplete : (run.merge w).expectedPart = run.partCount + 1) :
    ((∀ part ∈ List.range' 1 run.partCount,
          SameFileFields (run.merge w).merged (metadata part)) ∧
        (run.partCount = 1 → (run.merge w).merged = metadata 1)) ↔
      (metadata 1).keyValueMetadata = none ∧ (metadata 1).columnOrders = none ∧
        (run.partCount = 1 →
          (metadata 1).numRows = ((metadata 1).rowGroups.map RowGroup.numRows).sum) := by
  obtain ⟨k, hmerged⟩ := merge_mergedUpTo hruns hopened hnone
  have hexpected := hmerged.expected
  obtain ⟨n, hn⟩ : ∃ n, run.partCount = n + 1 := ⟨run.partCount - 1, by omega⟩
  obtain rfl : k = n + 1 := by omega
  have hfields := mergedUpTo_fields files metadata n
  rw [hmerged.merged]
  constructor
  · rintro ⟨hsame, hone⟩
    have hfirst := hsame 1 (List.mem_range'_1.mpr ⟨Nat.le_refl 1, by omega⟩)
    refine ⟨hfirst.keyValueMetadata.symm.trans hfields.keyValueMetadata,
      hfirst.columnOrders.symm.trans hfields.columnOrders, fun hsingle => ?_⟩
    obtain rfl : n = 0 := by omega
    exact (mergedUpTo_one_eq_iff.mp (hone hsingle)).2.2
  · rintro ⟨hkeys, horders, hrows⟩
    refine ⟨fun part hpart => ?_, fun hsingle => ?_⟩
    · have hpartFields := hagree part hpart
      exact ⟨hfields.version.trans hpartFields.version.symm,
        hfields.schema.trans hpartFields.schema.symm,
        hfields.createdBy.trans hpartFields.createdBy.symm,
        hfields.keyValueMetadata.trans (hkeys.symm.trans hpartFields.keyValueMetadata.symm),
        hfields.columnOrders.trans (horders.symm.trans hpartFields.columnOrders.symm)⟩
    · obtain rfl : n = 0 := by omega
      exact mergedUpTo_one_eq_iff.mpr ⟨hkeys, horders, hrows hsingle⟩

/-! ### One part with column orders -/

def orderedFooter : List UInt8 :=
  [0x15, 0x02, 0x19, 0x0C, 0x16, 0x02, 0x19, 0x1C, 0x19, 0x0C, 0x16, 0x04, 0x16, 0x02, 0x26, 0x08,
    0x00, 0x39, 0x1C, 0x1C, 0x00, 0x00, 0x00]

def orderedMetadata : FileMetaData (List Int) :=
  ⟨1, [], 1, [⟨[], 1, some 4, none, [2]⟩], none, none, some [1]⟩

def orderedFile : MiniFile := ⟨[20, 21], orderedFooter, by decide⟩

def orderedPart : ParallelEncode (List Int) :=
  { twoResults with
    partCount := 1
    deserialize := fun bytes =>
      if bytes = orderedFooter then .ok orderedMetadata else .error "Couldn't deserialize thrift"
    arrivals := [⟨1, some orderedFile.bytes, ""⟩] }

def orderedOpened : World UInt8 :=
  (orderedPart.fs.call (.openOutputStream orderedPart.tempPath) ⟨fun _ => none, [], []⟩).2

lemma orderedPart_encodes : orderedPart.Encodes (fun _ => orderedFile) fun _ => orderedMetadata := by
  refine ⟨?_, by decide⟩
  intro result hresult
  obtain rfl : result = ⟨1, some orderedFile.bytes, ""⟩ := by
    simpa [orderedPart] using hresult
  exact .inr rfl

theorem merge_sameFileFields_iff_orderedPart :
    ((∀ part ∈ List.range' 1 1,
          SameFileFields (orderedPart.merge orderedOpened).merged orderedMetadata) ∧
        (1 = 1 → (orderedPart.merge orderedOpened).merged = orderedMetadata)) ↔
      orderedMetadata.keyValueMetadata = none ∧ orderedMetadata.columnOrders = none ∧
        (1 = 1 → orderedMetadata.numRows = (orderedMetadata.rowGroups.map RowGroup.numRows).sum) :=
  @merge_sameFileFields_iff _ _ orderedPart _ _ orderedOpened orderedPart_encodes (by decide)
    (fun _ _ => ⟨rfl, rfl, rfl, rfl, rfl⟩) (call_openOutputStream rfl) (by decide) (by decide)

/-- The run merges its only mini-file and drops the column orders of it. -/
theorem orderedPart_loses_columnOrders :
    (orderedPart.merge orderedOpened).pipelineError = "" ∧
      (orderedPart.merge orderedOpened).expectedPart = 2 ∧
      orderedMetadata.columnOrders = some [1] ∧
      (orderedPart.merge orderedOpened).merged.columnOrders = none ∧
      (orderedPart.merge orderedOpened).merged ≠ orderedMetadata := by
  decide

end ParallelEncode

end Schengen.Storage
