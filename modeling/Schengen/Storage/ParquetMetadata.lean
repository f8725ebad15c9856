import Mathlib.Algebra.Ring.Int.Defs
import Mathlib.Data.List.Basic

/-!
# Parquet footers

The Thrift structs of a footer with the fields that the merge reads or writes. Optional fields
are `Option`s; what the merge only copies is of type `μ`.
-/

namespace Schengen.Storage

variable {μ : Type}

structure ColumnMetaData (μ : Type) where
  dataPageOffset : Int
  indexPageOffset : Option Int
  dictionaryPageOffset : Option Int
  bloomFilterOffset : Option Int
  rest : μ
  deriving DecidableEq

structure ColumnChunk (μ : Type) where
  fileOffset : Int
  metaData : Option (ColumnMetaData μ)
  offsetIndexOffset : Option Int
  columnIndexOffset : Option Int
  rest : μ
  deriving DecidableEq

structure RowGroup (μ : Type) where
  columns : List (ColumnChunk μ)
  numRows : Int
  fileOffset : Option Int
  ordinal : Option Int
  rest : μ
  deriving DecidableEq

structure FileMetaData (μ : Type) where
  version : Int
  schema : μ
  numRows : Int
  rowGroups : List (RowGroup μ)
  createdBy : Option String
  keyValueMetadata : Option μ
  columnOrders : Option μ
  deriving DecidableEq

/-! ## The merge -/

def ColumnMetaData.shift (delta : Int) (md : ColumnMetaData μ) : ColumnMetaData μ :=
  { md with
    dataPageOffset := md.dataPageOffset + delta
    indexPageOffset := md.indexPageOffset.map (· + delta)
    dictionaryPageOffset := md.dictionaryPageOffset.map (· + delta)
    bloomFilterOffset := md.bloomFilterOffset.map (· + delta) }

def ColumnChunk.shift (delta : Int) (col : ColumnChunk μ) : ColumnChunk μ :=
  { col with
    metaData := col.metaData.map (ColumnMetaData.shift delta)
    offsetIndexOffset := col.offsetIndexOffset.map (· + delta)
    columnIndexOffset := col.columnIndexOffset.map (· + delta) }

def RowGroup.shift (delta : Int) (rg : RowGroup μ) : RowGroup μ :=
  { rg with
    columns := rg.columns.map (ColumnChunk.shift delta)
    fileOffset := rg.fileOffset.map (· + delta) }

namespace FileMetaData

/-- The values that `process_buffer` takes from the first footer. -/
def setSchema (merged file : FileMetaData μ) : FileMetaData μ :=
  { merged with
    version := file.version
    schema := file.schema
    createdBy := if file.createdBy.isSome then file.createdBy else merged.createdBy }

def addRowGroup (delta : Int) (merged : FileMetaData μ) (rg : RowGroup μ) : FileMetaData μ :=
  { merged with
    numRows := merged.numRows + (rg.shift delta).numRows
    rowGroups := merged.rowGroups ++ [rg.shift delta] }

def addRowGroups (delta : Int) (merged file : FileMetaData μ) : FileMetaData μ :=
  file.rowGroups.foldl (addRowGroup delta) merged

def addFile (schemaSet : Bool) (delta : Int) (merged file : FileMetaData μ) : FileMetaData μ :=
  addRowGroups delta (if schemaSet then merged else merged.setSchema file) file

end FileMetaData

/-! ## Offsets -/

/-- The offsets that point into the data of a file. -/
inductive OffsetKind
  | dataPage | indexPage | dictionaryPage | bloomFilter | offsetIndex | columnIndex | rowGroup
  deriving DecidableEq

def ColumnChunk.offset (col : ColumnChunk μ) : OffsetKind → Option Int
  | .dataPage => col.metaData.map ColumnMetaData.dataPageOffset
  | .indexPage => col.metaData.bind ColumnMetaData.indexPageOffset
  | .dictionaryPage => col.metaData.bind ColumnMetaData.dictionaryPageOffset
  | .bloomFilter => col.metaData.bind ColumnMetaData.bloomFilterOffset
  | .offsetIndex => col.offsetIndexOffset
  | .columnIndex => col.columnIndexOffset
  | .rowGroup => none

/-- The offset of a kind, where it is present; `column` says whose. -/
def RowGroup.offset (rg : RowGroup μ) (column : Nat) : OffsetKind → Option Int
  | .rowGroup => rg.fileOffset
  | kind => rg.columns[column]?.bind fun col => col.offset kind

/-- Everything but the offsets. -/
def ColumnChunk.withoutOffsets (col : ColumnChunk μ) : ColumnChunk μ :=
  { col with
    metaData := col.metaData.map fun md => ⟨0, none, none, none, md.rest⟩
    offsetIndexOffset := none
    columnIndexOffset := none }

def RowGroup.withoutOffsets (rg : RowGroup μ) : RowGroup μ :=
  { rg with columns := rg.columns.map ColumnChunk.withoutOffsets, fileOffset := none }

lemma ColumnChunk.shift_offset (delta : Int) (col : ColumnChunk μ) (kind : OffsetKind) :
    (col.shift delta).offset kind = (col.offset kind).map (· + delta) := by
  cases kind with
  | offsetIndex => rfl
  | columnIndex => rfl
  | rowGroup => rfl
  | _ =>
    simp only [ColumnChunk.shift, ColumnChunk.offset]
    cases col.metaData <;> rfl

lemma RowGroup.shift_offset (delta : Int) (rg : RowGroup μ) (column : Nat) (kind : OffsetKind) :
    (rg.shift delta).offset column kind = (rg.offset column kind).map (· + delta) := by
  have hcolumns : (rg.shift delta).columns[column]?.bind (fun col => col.offset kind) =
      (rg.columns[column]?.bind fun col => col.offset kind).map (· + delta) := by
    change (rg.columns.map (ColumnChunk.shift delta))[column]?.bind (fun col => col.offset kind) = _
    rw [List.getElem?_map]
    cases hcol : rg.columns[column]? with
    | none => rfl
    | some col => exact col.shift_offset delta kind
  cases kind with
  | rowGroup => rfl
  | _ => exact hcolumns

lemma ColumnChunk.shift_withoutOffsets (delta : Int) (col : ColumnChunk μ) :
    (col.shift delta).withoutOffsets = col.withoutOffsets := by
  simp only [ColumnChunk.shift, ColumnChunk.withoutOffsets, Option.map_map]
  rfl

lemma RowGroup.shift_withoutOffsets (delta : Int) (rg : RowGroup μ) :
    (rg.shift delta).withoutOffsets = rg.withoutOffsets := by
  simp only [RowGroup.shift, RowGroup.withoutOffsets, List.map_map]
  refine congrArg (fun columns => RowGroup.mk columns _ _ _ _) (List.map_congr_left fun col _ => ?_)
  exact col.shift_withoutOffsets delta

namespace FileMetaData

lemma addRowGroups_rowGroups (delta : Int) (merged file : FileMetaData μ) :
    (merged.addRowGroups delta file).rowGroups =
      merged.rowGroups ++ file.rowGroups.map (RowGroup.shift delta) := by
  unfold addRowGroups
  induction file.rowGroups generalizing merged with
  | nil => exact (List.append_nil _).symm
  | cons rg rgs ih =>
    rw [List.foldl_cons, ih, addRowGroup, List.append_assoc]
    rfl

lemma addRowGroups_numRows (delta : Int) (merged file : FileMetaData μ) :
    (merged.addRowGroups delta file).numRows =
      merged.numRows + (file.rowGroups.map RowGroup.numRows).sum := by
  unfold addRowGroups
  induction file.rowGroups generalizing merged with
  | nil => exact (Int.add_zero _).symm
  | cons rg rgs ih =>
    rw [List.foldl_cons, ih, addRowGroup, List.map_cons, List.sum_cons, Int.add_assoc]
    rfl

lemma addFile_rowGroups (schemaSet : Bool) (delta : Int) (merged file : FileMetaData μ) :
    (merged.addFile schemaSet delta file).rowGroups =
      merged.rowGroups ++ file.rowGroups.map (RowGroup.shift delta) := by
  unfold addFile
  rw [addRowGroups_rowGroups]
  cases schemaSet <;> rfl

lemma addFile_numRows (schemaSet : Bool) (delta : Int) (merged file : FileMetaData μ) :
    (merged.addFile schemaSet delta file).numRows =
      merged.numRows + (file.rowGroups.map RowGroup.numRows).sum := by
  unfold addFile
  rw [addRowGroups_numRows]
  cases schemaSet <;> rfl

end FileMetaData

end Schengen.Storage
