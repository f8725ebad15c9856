import Schengen.Library.CallLog
import Schengen.Random.RangeDraws
import Schengen.Storage.Pipeline
import Schengen.Tables.Partition

/-!
# The foreign streaming writer

`RunForeignStreamingOrdered` from the point where it has a writer: one loop over the parts
that generates and writes without a queue. Every call on the writer may return any status or
throw. The loop variable has 32 bits; without them the loop is a fold over the list of parts.
-/

namespace Schengen.Storage
open Library Schengen.Random

variable {β : Type}

/-- The parameters of a run: the parts, their generators and the outcome of each call on the
writer, which may depend on the calls before it. -/
structure ForeignStreaming (β : Type) where
  tableName : String
  partCount : Nat
  generator : Nat → PartGenerator β
  writer : List (SinkCall β) → SinkCall β → Outcome

/-- `errors` are the texts given to `ReportError`. -/
structure ForeignState (β : Type) where
  tableOpen : Bool
  calls : List (SinkCall β)
  errors : List String

inductive ForeignEnd
  | returned (rc : Int)
  | threw (thrown : Thrown)
  deriving DecidableEq

namespace ForeignStreaming

variable (run : ForeignStreaming β)

/-- The writer answers the call by OK. -/
def Accepts (before : List (SinkCall β)) (c : SinkCall β) : Prop := run.writer before c = .ok

def reportError (s : ForeignState β) (error : String) : ForeignState β :=
  { s with errors := s.errors ++ [error] }

def call (c : SinkCall β) (s : ForeignState β) : Outcome × ForeignState β :=
  (run.writer s.calls c, { s with calls := s.calls ++ [c] })

def closeWriter (s : ForeignState β) : Outcome × ForeignState β :=
  if s.tableOpen then run.call .close { s with tableOpen := false } else (.ok, s)

def fail (message : String) (s : ForeignState β) : ForeignEnd × ForeignState β :=
  let closed := run.closeWriter (reportError s
    ("single-file-ordered write failed for table " ++ run.tableName ++ ": " ++ message))
  match closed.1 with
  | .returned .ok => (.returned 2, closed.2)
  | .returned status =>
    (.returned 2, reportError closed.2
      ("single-file-ordered cleanup failed for table " ++ run.tableName ++ ": " ++ status.toString))
  | .threw thrown => (.threw thrown, closed.2)

/-! The statements of the `try` block: `none` where the next one follows. -/

def failed (message : String) (s : ForeignState β) : Option ForeignEnd × ForeignState β :=
  ((run.fail message s).1, (run.fail message s).2)

def checked (c : SinkCall β) (s : ForeignState β) : Option ForeignEnd × ForeignState β :=
  let called := run.call c s
  match called.1 with
  | .returned .ok => (none, called.2)
  | .returned status => run.failed status.toString called.2
  | .threw thrown => (some (.threw thrown), called.2)

def andThen (s : Option ForeignEnd × ForeignState β)
    (next : ForeignState β → Option ForeignEnd × ForeignState β) :
    Option ForeignEnd × ForeignState β :=
  match s.1 with
  | none => next s.2
  | some ended => (some ended, s.2)

def openTable (s : ForeignState β) : Option ForeignEnd × ForeignState β :=
  let called := run.call .openTable s
  match called.1 with
  | .returned .ok => (none, { called.2 with tableOpen := true })
  | .returned status =>
    (some (.returned 2), reportError called.2
      ("Failed to open ordered output for table " ++ run.tableName ++ ": " ++ status.toString))
  | .threw thrown => (some (.threw thrown), called.2)

def startGenerator (part : Nat) (s : ForeignState β) : Option ForeignEnd × ForeignState β :=
  match (run.generator part).start with
  | .ready => (none, s)
  | .missing => run.failed ("Failed to create generator for table: " ++ run.tableName) s
  | .threw thrown => (some (.threw thrown), s)

/-- The loop over `NextBatch`. -/
def writeBatches : List β → GeneratorEnd → ForeignState β → Option ForeignEnd × ForeignState β
  | [], .finished, s => (none, s)
  | [], .threw thrown, s => (some (.threw thrown), s)
  | batch :: batches, ends, s => andThen (run.checked (.writeBatch batch) s) (writeBatches batches ends)

def writePart (part : Nat) (s : ForeignState β) : Option ForeignEnd × ForeignState β :=
  andThen (run.checked (.beginPartition part) s) fun s =>
    andThen (run.startGenerator part s) fun s =>
      andThen (run.writeBatches (run.generator part).batches (run.generator part).ends s)
        (run.checked .endPartition)

def writeParts : List Nat → ForeignState β → Option ForeignEnd × ForeignState β
  | [], s => (none, s)
  | part :: parts, s => andThen (run.writePart part s) (writeParts parts)

/-- What follows the `try` block. -/
def closeTable (s : ForeignState β) : ForeignEnd × ForeignState β :=
  let closed := run.closeWriter s
  match closed.1 with
  | .returned .ok => (.returned 0, closed.2)
  | .returned status =>
    (.returned 2, reportError closed.2
      ("single-file-ordered write failed for table " ++ run.tableName ++ ": " ++ status.toString))
  | .threw thrown => (.threw thrown, closed.2)

/-- What follows the `try` block, with its `catch` clauses. -/
def leaveTry (tried : Option ForeignEnd × ForeignState β) : ForeignEnd × ForeignState β :=
  match tried.1 with
  | none => run.closeTable tried.2
  | some (.returned rc) => (.returned rc, tried.2)
  | some (.threw thrown) => run.fail (thrown.text "Unknown partition generation error") tried.2

/-- `RunForeignStreamingOrdered` with part numbers of any size. -/
def runOrdered : ForeignEnd × ForeignState β :=
  run.leaveTry (andThen (run.openTable ⟨false, [], []⟩)
    (run.writeParts (List.range' 1 run.partCount)))

/-- The number of parts in the 32 bits of its parameter. -/
def partCount32 : Int := toInt32 run.partCount

/-- `MakePartitionPlan` throws for a part that is not one of the table. -/
def planPart (part partCount : Int) (s : ForeignState β) : Option ForeignEnd × ForeignState β :=
  match Tables.validatePart part partCount with
  | .error what => (some (.threw (.exception what)), s)
  | .ok _ => (none, s)

/-- The values that a loop variable of 32 bits takes from `part` on, before it is negative. -/
def valuesLeft (part : Int) : Nat := if 1 ≤ part then (2147483649 - part).toNat else 0

lemma planPart_none {part partCount : Int} {s : ForeignState β}
    (h : (planPart part partCount s).1 = none) : 1 ≤ part ∧ part ≤ partCount := by
  unfold planPart at h
  cases hplan : Tables.validatePart part partCount with
  | error what =>
    rw [hplan] at h
    cases h
  | ok plan => exact Tables.validatePart_inside hplan

lemma valuesLeft_lt {part next : Int} (hlow : 1 ≤ part) (hmax : part < 2147483648)
    (hwrap : (2 : Int) ^ 32 ∣ part + 1 - next) (hnext : next < 2147483648) :
    valuesLeft next < valuesLeft part := by
  unfold valuesLeft
  rw [if_pos hlow]
  split_ifs
  · omega
  · omega

/-- The loop over the parts from `part` on; it ends because no negative part has a plan. -/
def writeParts32 (part : Int) (s : ForeignState β) : Option ForeignEnd × ForeignState β :=
  if part ≤ run.partCount32 then
    andThen (run.checked (.beginPartition part) s) fun s =>
      andThen (run.startGenerator part.toNat s) fun s =>
        if hplan : (planPart part run.partCount32 s).1 = none then
          andThen (run.writeBatches (run.generator part.toNat).batches (run.generator part.toNat).ends s)
            fun s => andThen (run.checked .endPartition s) (writeParts32 (toInt32 (part + 1)))
        else planPart part run.partCount32 s
  else (none, s)
termination_by valuesLeft part
decreasing_by
  obtain ⟨hlow, hpart⟩ := planPart_none hplan
  have hnext := toInt32_spec (part + 1)
  exact valuesLeft_lt hlow (hpart.trans_lt (toInt32_spec run.partCount).2.2) hnext.1 hnext.2.2

/-- `RunForeignStreamingOrdered` -/
def runOrdered32 : ForeignEnd × ForeignState β :=
  run.leaveTry (andThen (run.openTable ⟨false, [], []⟩) (run.writeParts32 1))

/-! ## Runs that return 0 -/

variable {run} {s : ForeignState β}

lemma andThen_none {r : Option ForeignEnd × ForeignState β}
    {next : ForeignState β → Option ForeignEnd × ForeignState β} (h : (andThen r next).1 = none) :
    r.1 = none ∧ (next r.2).1 = none ∧ (andThen r next).2 = (next r.2).2 := by
  unfold andThen at h ⊢
  cases hr : r.1 with
  | none =>
    rw [hr] at h
    exact ⟨rfl, h, rfl⟩
  | some ended =>
    rw [hr] at h
    cases h

lemma checked_none {c : SinkCall β} (h : (run.checked c s).1 = none) :
    (run.checked c s).2.calls = s.calls ++ [c] := by
  simp only [checked, call] at h ⊢
  cases hc : run.writer s.calls c with
  | returned status =>
    cases status with
    | ok => rfl
    | error code message =>
      rw [hc] at h
      exact absurd h (by simp [failed])
  | threw thrown => rfl

lemma startGenerator_none {part : Nat} (h : (run.startGenerator part s).1 = none) :
    (run.generator part).start = .ready ∧ (run.startGenerator part s).2 = s := by
  unfold startGenerator failed at h ⊢
  cases hstart : (run.generator part).start with
  | ready => exact ⟨rfl, rfl⟩
  | missing =>
    rw [hstart] at h
    cases h
  | threw thrown =>
    rw [hstart] at h
    cases h

lemma writeBatches_none {batches : List β} {ends : GeneratorEnd}
    (h : (run.writeBatches batches ends s).1 = none) :
    ends = .finished ∧
      (run.writeBatches batches ends s).2.calls = s.calls ++ batches.map .writeBatch := by
  induction batches generalizing s with
  | nil =>
    cases ends with
    | finished => exact ⟨rfl, (List.append_nil _).symm⟩
    | threw thrown => cases h
  | cons batch batches ih =>
    obtain ⟨hcall, hrest, hresult⟩ := andThen_none h
    obtain ⟨hends, hcalls⟩ := ih hrest
    refine ⟨hends, ?_⟩
    rw [writeBatches, hresult, hcalls, checked_none hcall, List.append_assoc]
    rfl

lemma writePart_none {part : Nat} (h : (run.writePart part s).1 = none) :
    (run.generator part).Completes ∧
      (run.writePart part s).2.calls = s.calls ++ partCalls part (run.generator part).batches := by
  obtain ⟨hbegin, h1, hresult1⟩ := andThen_none h
  obtain ⟨hstart, h2, hresult2⟩ := andThen_none h1
  obtain ⟨hwrites, hend, hresult3⟩ := andThen_none h2
  obtain ⟨hends, hcalls⟩ := writeBatches_none hwrites
  obtain ⟨hready, hsame⟩ := startGenerator_none hstart
  refine ⟨⟨hready, hends⟩, ?_⟩
  rw [writePart, hresult1, hresult2, hresult3, checked_none hend, hcalls, hsame,
    checked_none hbegin]
  simp only [partCalls, List.append_assoc, List.cons_append, List.nil_append]

lemma writeParts_none {parts : List Nat} (h : (run.writeParts parts s).1 = none) :
    (∀ part ∈ parts, (run.generator part).Completes) ∧
      (run.writeParts parts s).2.calls =
        s.calls ++ parts.flatMap fun part => partCalls part (run.generator part).batches := by
  induction parts generalizing s with
  | nil => exact ⟨fun _ hmem => (nomatch hmem), (List.append_nil _).symm⟩
  | cons part parts ih =>
    obtain ⟨hpart, hrest, hresult⟩ := andThen_none h
    obtain ⟨hcompletes, hcalls⟩ := writePart_none hpart
    obtain ⟨hall, hcallsAll⟩ := ih hrest
    refine ⟨List.forall_mem_cons.mpr ⟨hcompletes, hall⟩, ?_⟩
    rw [writeParts, hresult, hcallsAll, hcalls, List.append_assoc]
    rfl

/-! The statements of the `try` block never return 0. -/

lemma fail_ne_zero (message : String) (s : ForeignState β) :
    (run.fail message s).1 ≠ .returned 0 := by
  simp only [fail]
  split <;> exact fun h => nomatch h

lemma failed_ne_zero (message : String) (s : ForeignState β) :
    (run.failed message s).1 ≠ some (.returned 0) :=
  fun h => fail_ne_zero message s (Option.some.inj h)

lemma andThen_ne_zero {r : Option ForeignEnd × ForeignState β}
    {next : ForeignState β → Option ForeignEnd × ForeignState β} (hr : r.1 ≠ some (.returned 0))
    (hnext : ∀ s, (next s).1 ≠ some (.returned 0)) : (andThen r next).1 ≠ some (.returned 0) := by
  unfold andThen
  cases h : r.1 with
  | none => exact hnext r.2
  | some ended =>
    rw [h] at hr
    exact hr

lemma checked_ne_zero (c : SinkCall β) (s : ForeignState β) :
    (run.checked c s).1 ≠ some (.returned 0) := by
  simp only [checked]
  split
  · exact fun h => nomatch h
  · exact failed_ne_zero _ _
  · exact fun h => nomatch h

lemma startGenerator_ne_zero (part : Nat) (s : ForeignState β) :
    (run.startGenerator part s).1 ≠ some (.returned 0) := by
  unfold startGenerator
  split
  · exact fun h => nomatch h
  · exact failed_ne_zero _ _
  · exact fun h => nomatch h

lemma writeBatches_ne_zero (batches : List β) (ends : GeneratorEnd) (s : ForeignState β) :
    (run.writeBatches batches ends s).1 ≠ some (.returned 0) := by
  induction batches generalizing s with
  | nil => cases ends <;> exact fun h => nomatch h
  | cons batch batches ih => exact andThen_ne_zero (checked_ne_zero _ s) ih

lemma writeParts_ne_zero (parts : List Nat) (s : ForeignState β) :
    (run.writeParts parts s).1 ≠ some (.returned 0) := by
  induction parts generalizing s with
  | nil => exact fun h => nomatch h
  | cons part parts ih =>
    refine andThen_ne_zero ?_ ih
    refine andThen_ne_zero (checked_ne_zero _ s) fun s => ?_
    refine andThen_ne_zero (startGenerator_ne_zero part s) fun s => ?_
    exact andThen_ne_zero (writeBatches_ne_zero _ _ s) (checked_ne_zero _)

lemma openTable_ne_zero (s : ForeignState β) : (run.openTable s).1 ≠ some (.returned 0) := by
  simp only [openTable]
  split <;> exact fun h => nomatch h

lemma openTable_none (h : (run.openTable s).1 = none) :
    (run.openTable s).2.calls = s.calls ++ [.openTable] ∧ (run.openTable s).2.tableOpen = true := by
  simp only [openTable, call] at h ⊢
  cases hc : run.writer s.calls .openTable with
  | returned status =>
    cases status with
    | ok => exact ⟨rfl, rfl⟩
    | error code message =>
      rw [hc] at h
      cases h
  | threw thrown =>
    rw [hc] at h
    cases h

lemma closeTable_written (s : ForeignState β) :
    SinkCall.written (run.closeTable s).2.calls = SinkCall.written s.calls := by
  have hclose : SinkCall.written (run.closeWriter s).2.calls = SinkCall.written s.calls := by
    unfold closeWriter
    by_cases hopen : s.tableOpen = true
    · rw [if_pos hopen]
      exact (SinkCall.written_append _ _).trans (List.append_nil _)
    · rw [if_neg hopen]
  simp only [closeTable]
  split <;> exact hclose

/-- A run that returns 0 took every generator to its end and wrote every batch once. -/
theorem runOrdered_zero (h : run.runOrdered.1 = .returned 0) :
    (∀ part ∈ List.range' 1 run.partCount, (run.generator part).Completes) ∧
      SinkCall.written run.runOrdered.2.calls = allBatches run.partCount run.generator := by
  unfold runOrdered leaveTry at h ⊢
  have hzero : (andThen (run.openTable ⟨false, [], []⟩)
      (run.writeParts (List.range' 1 run.partCount))).1 ≠ some (.returned 0) :=
    andThen_ne_zero (openTable_ne_zero _) (writeParts_ne_zero _)
  cases htried : (andThen (run.openTable ⟨false, [], []⟩)
      (run.writeParts (List.range' 1 run.partCount))).1 with
  | none =>
    obtain ⟨hopen, hparts, hresult⟩ := andThen_none htried
    obtain ⟨hcompletes, hcalls⟩ := writeParts_none hparts
    refine ⟨hcompletes, ?_⟩
    rw [closeTable_written, hresult, hcalls, (openTable_none hopen).1, SinkCall.written_append,
      SinkCall.written_flatMap]
    simp only [SinkCall.written_partCalls, allBatches]
    rfl
  | some ended =>
    rw [htried] at hzero
    simp only [htried] at h
    cases ended with
    | returned rc =>
      obtain rfl : rc = 0 := ForeignEnd.returned.inj h
      exact absurd rfl hzero
    | threw thrown => exact absurd h (fail_ne_zero _ _)

/-! ## A writer that accepts the calls -/

lemma andThen_of_none {r : Option ForeignEnd × ForeignState β}
    {next : ForeignState β → Option ForeignEnd × ForeignState β} (h : r.1 = none) :
    andThen r next = next r.2 := by
  unfold andThen
  rw [h]

lemma checked_accepted {c : SinkCall β} (haccepts : run.Accepts s.calls c) :
    (run.checked c s).1 = none := by
  unfold Accepts at haccepts
  simp only [checked, call, haccepts]
  rfl

lemma writeBatches_accepted {batches : List β}
    (haccepts : Accepted run.Accepts s.calls (batches.map .writeBatch)) :
    (run.writeBatches batches .finished s).1 = none := by
  induction batches generalizing s with
  | nil => rfl
  | cons batch batches ih =>
    obtain ⟨hfirst, hrest⟩ := accepted_cons.mp haccepts
    have hnone := checked_accepted hfirst
    rw [writeBatches, andThen_of_none hnone]
    refine ih ?_
    rwa [checked_none hnone]

lemma writePart_accepted {part : Nat} (hcompletes : (run.generator part).Completes)
    (haccepts : Accepted run.Accepts s.calls (partCalls part (run.generator part).batches)) :
    (run.writePart part s).1 = none := by
  obtain ⟨hinner, hend⟩ := accepted_append.mp haccepts
  obtain ⟨hbegin, hbatches⟩ := accepted_cons.mp hinner
  have hnone := checked_accepted hbegin
  rw [writePart, andThen_of_none hnone]
  simp only [startGenerator, hcompletes.1]
  rw [andThen_of_none rfl, hcompletes.2]
  rw [← checked_none hnone] at hbatches
  have hwritten := writeBatches_accepted hbatches
  rw [andThen_of_none hwritten]
  refine checked_accepted ?_
  rw [(writeBatches_none hwritten).2, checked_none hnone, List.append_assoc]
  exact hend.1

lemma writeParts_accepted {parts : List Nat}
    (hcompletes : ∀ part ∈ parts, (run.generator part).Completes)
    (haccepts : Accepted run.Accepts s.calls
      (parts.flatMap fun part => partCalls part (run.generator part).batches)) :
    (run.writeParts parts s).1 = none := by
  induction parts generalizing s with
  | nil => rfl
  | cons part parts ih =>
    obtain ⟨hpart, hrest⟩ := List.forall_mem_cons.mp hcompletes
    obtain ⟨hfirst, hothers⟩ := accepted_append.mp haccepts
    have hnone := writePart_accepted hpart hfirst
    rw [writeParts, andThen_of_none hnone]
    refine ih hrest ?_
    rwa [(writePart_none hnone).2]

lemma closeTable_accepted (haccepts : ∀ calls c, run.writer calls c = .ok) (s : ForeignState β) :
    (run.closeTable s).1 = .returned 0 := by
  have hclose : (run.closeWriter s).1 = .ok := by
    unfold closeWriter call
    by_cases hopen : s.tableOpen = true
    · rw [if_pos hopen]
      exact haccepts _ _
    · rw [if_neg hopen]
  simp only [closeTable, hclose]
  rfl

/-- Where every generator comes to its end and every call is accepted, the run returns 0. -/
theorem runOrdered_accepted (haccepts : ∀ calls c, run.writer calls c = .ok)
    (hcompletes : ∀ part ∈ List.range' 1 run.partCount, (run.generator part).Completes) :
    run.runOrdered.1 = .returned 0 := by
  have hopen : (run.openTable ⟨false, [], []⟩).1 = none := by
    simp only [openTable, call, haccepts]
    rfl
  have htried : (andThen (run.openTable ⟨false, [], []⟩)
      (run.writeParts (List.range' 1 run.partCount))).1 = none := by
    rw [andThen_of_none hopen]
    exact writeParts_accepted hcompletes (accepted_of_forall haccepts)
  unfold runOrdered leaveTry
  simp only [htried]
  exact closeTable_accepted haccepts _

end ForeignStreaming

end Schengen.Storage
