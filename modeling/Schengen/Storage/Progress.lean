import Mathlib.Data.Rat.Floor
import Mathlib.Tactic.Linarith
import Schengen.Random.RowRandomLong

/-!
# The progress of a table

The entry of a table in `CliProgressController` and the percentage that is shown for it, with exact
rationals in the place of the floating point. The estimate adds a part of the running partition to
the completed ones.
-/

namespace Schengen.Storage
open Schengen.Random

inductive TableProgressStatus
  | pending
  | running
  | done
  | failed
  deriving DecidableEq

structure TableProgressState where
  index : Nat
  tableName : String
  totalRows : Nat
  rowsWritten : Nat
  partCount : Int
  completedParts : Int
  status : TableProgressStatus
  lastError : String

namespace TableProgressState

def kMaxRows : Nat := 2 ^ 64 - 1

/-- The entry that the controller makes for a table. -/
def new (index : Nat) (tableName : String) (totalRows : Nat) : TableProgressState :=
  ⟨index, tableName, totalRows, 0, 0, 0, .pending, ""⟩

def markTableStarted (partCount : Int) (s : TableProgressState) : TableProgressState :=
  if s.status = .failed then s
  else { s with partCount := max 0 partCount, status := .running }

def addCommittedRows (rows : Nat) (s : TableProgressState) : TableProgressState :=
  if rows = 0 then s
  else if s.status = .failed ∨ s.status = .done then s
  else
    { s with
      status := .running
      rowsWritten := if kMaxRows - s.rowsWritten < rows then kMaxRows else s.rowsWritten + rows }

/-- The counter goes up before it is bounded; past `std::int32_t` it wraps. -/
def markPartCompleted (s : TableProgressState) : TableProgressState :=
  if s.status = .failed ∨ s.status = .done then s
  else
    let completedParts := toInt32 (s.completedParts + 1)
    { s with
      status := .running
      completedParts := if 0 < s.partCount then min completedParts s.partCount else completedParts }

def markTableFinished (s : TableProgressState) : TableProgressState :=
  if s.status = .failed then s
  else
    { s with
      status := .done
      completedParts := if 0 < s.partCount then s.partCount else s.completedParts }

def reportFailure (message : String) (s : TableProgressState) : TableProgressState :=
  { s with status := .failed, lastError := message }

/-! ## The percentage -/

/-- What the running partition counts for. -/
def activePart (totalRows rowsWritten partCount completedParts : Nat) : ℚ :=
  if completedParts < partCount ∧ 0 < rowsWritten then
    if 0 < totalRows then
      let estimatedRowsPerPart : ℚ := max 1 ((totalRows : ℚ) / partCount)
      let estimatedCompletedRows := min (rowsWritten : ℚ) (estimatedRowsPerPart * completedParts)
      let activeRows := max 0 ((rowsWritten : ℚ) - estimatedCompletedRows)
      if 0 < activeRows then max (1 / 4) (min (activeRows / estimatedRowsPerPart) (99 / 100))
      else if completedParts = 0 then 1 / 4 else 0
    else if completedParts = 0 then 1 / 4 else 0
  else 0

/-- The percentage of a table whose partitions are known. -/
def partPercent (totalRows rowsWritten partCount completedParts : Nat) : Nat :=
  min 99 ⌊(completedParts + activePart totalRows rowsWritten partCount completedParts) * 100 /
    (partCount : ℚ)⌋₊

/-- The percentage of a table whose partitions are not known; the product is one of
`std::uint64_t`. -/
def rowPercent (totalRows rowsWritten : Nat) : Nat :=
  if totalRows = 0 ∨ rowsWritten = 0 then 0
  else min 99 (max 25 (min rowsWritten totalRows * 99 % 2 ^ 64 / max 1 totalRows))

def approxPercent (s : TableProgressState) : Nat :=
  if s.status = .done then 100
  else if s.status = .pending then 0
  else if s.partCount ≤ 0 then rowPercent s.totalRows s.rowsWritten
  else partPercent s.totalRows s.rowsWritten (max 1 s.partCount).toNat
    (max 0 (min s.completedParts s.partCount)).toNat

variable {totalRows rows rows' partCount completed : Nat} {s : TableProgressState}

lemma activePart_nonneg (totalRows rows partCount completed : Nat) :
    0 ≤ activePart totalRows rows partCount completed := by
  unfold activePart
  dsimp only
  split_ifs
  · exact le_max_of_le_left (by norm_num)
  all_goals norm_num

/-- The running partition never counts as a whole one. -/
lemma activePart_le (totalRows rows partCount completed : Nat) :
    activePart totalRows rows partCount completed ≤ 99 / 100 := by
  unfold activePart
  dsimp only
  split_ifs
  · exact max_le (by norm_num) (min_le_right _ _)
  all_goals norm_num

/-- Behind the last partition there is no running one. -/
lemma activePart_last (totalRows rows : Nat) (h : partCount ≤ completed) :
    activePart totalRows rows partCount completed = 0 := by
  unfold activePart
  rw [if_neg]
  rintro ⟨hlt, -⟩
  omega

/-- Rows beyond those of the completed partitions. -/
lemma active_mono {x y z : ℚ} (h : x ≤ y) : max 0 (x - min x z) ≤ max 0 (y - min y z) := by
  have hexcess : ∀ w : ℚ, max 0 (w - min w z) = max 0 (w - z) := by
    intro w
    rcases le_total w z with hle | hle
    · rw [min_eq_left hle, sub_self, max_self, max_eq_left (sub_nonpos.mpr hle)]
    · rw [min_eq_right hle]
  rw [hexcess, hexcess]
  exact max_le_max le_rfl (sub_le_sub_right h z)

/-- More rows do not make less of the running partition. -/
lemma activePart_mono (totalRows partCount completed : Nat) (hrows : rows ≤ rows') :
    activePart totalRows rows partCount completed ≤
      activePart totalRows rows' partCount completed := by
  by_cases hopen : completed < partCount ∧ 0 < rows
  · have hopen' : completed < partCount ∧ 0 < rows' := ⟨hopen.1, hopen.2.trans_le hrows⟩
    unfold activePart
    rw [if_pos hopen, if_pos hopen']
    by_cases htotal : 0 < totalRows
    · rw [if_pos htotal, if_pos htotal]
      dsimp only
      have hper : (0 : ℚ) < max 1 ((totalRows : ℚ) / partCount) :=
        lt_of_lt_of_le one_pos (le_max_left _ _)
      generalize max 1 ((totalRows : ℚ) / partCount) = perPart at hper ⊢
      have hactive := @active_mono rows rows' (perPart * completed) (Nat.cast_le.mpr hrows)
      by_cases hpos : 0 < max 0 ((rows : ℚ) - min (rows : ℚ) (perPart * completed))
      · rw [if_pos hpos, if_pos (hpos.trans_le hactive)]
        exact max_le_max le_rfl (min_le_min_right _ (div_le_div_of_nonneg_right hactive hper.le))
      · rw [if_neg hpos]
        by_cases hfirst : completed = 0
        · rw [if_pos hfirst]
          split
          · exact le_max_left _ _
          · exact le_rfl
        · rw [if_neg hfirst]
          split
          · exact le_max_of_le_left (by norm_num)
          · exact le_rfl
    · rw [if_neg htotal, if_neg htotal]
  · have hnone : activePart totalRows rows partCount completed = 0 := by
      unfold activePart
      rw [if_neg hopen]
    rw [hnone]
    exact activePart_nonneg _ _ _ _

lemma partPercent_le (totalRows rows partCount completed : Nat) :
    partPercent totalRows rows partCount completed ≤ 99 := min_le_left _ _

/-- A larger estimate gives no smaller percentage. -/
lemma partPercent_mono_of_estimate {completed' : Nat}
    (h : (completed : ℚ) + activePart totalRows rows partCount completed ≤
      completed' + activePart totalRows rows' partCount completed') :
    partPercent totalRows rows partCount completed ≤
      partPercent totalRows rows' partCount completed' := by
  have hscaled := mul_le_mul_of_nonneg_right h (show (0 : ℚ) ≤ 100 by norm_num)
  exact min_le_min le_rfl
    (Nat.floor_mono (div_le_div_of_nonneg_right hscaled (Nat.cast_nonneg partCount)))

lemma partPercent_mono_rows (totalRows partCount completed : Nat) (hrows : rows ≤ rows') :
    partPercent totalRows rows partCount completed ≤
      partPercent totalRows rows' partCount completed :=
  partPercent_mono_of_estimate (add_le_add le_rfl (activePart_mono totalRows partCount completed hrows))

/-- A partition that is completed counts for more than it did while it was running. -/
lemma partPercent_succ (totalRows rows partCount completed : Nat) :
    partPercent totalRows rows partCount completed ≤
      partPercent totalRows rows partCount (completed + 1) := by
  apply partPercent_mono_of_estimate
  have hrunning := activePart_le totalRows rows partCount completed
  have hnext := activePart_nonneg totalRows rows partCount (completed + 1)
  push_cast
  linarith

/-- All partitions together are everything that is shown before the end. -/
lemma partPercent_last (totalRows rows : Nat) (hpos : 0 < partCount) :
    partPercent totalRows rows partCount partCount = 99 := by
  have hne : (partCount : ℚ) ≠ 0 := Nat.cast_ne_zero.mpr hpos.ne'
  unfold partPercent
  rw [activePart_last totalRows rows le_rfl, add_zero, mul_div_cancel_left₀ 100 hne]
  decide

/-- With many partitions, the first one does not show. -/
lemma partPercent_first (totalRows rows : Nat) (hmany : 100 ≤ partCount) :
    partPercent totalRows rows partCount 0 = 0 := by
  have hrunning := activePart_le totalRows rows partCount 0
  have hcount : (100 : ℚ) ≤ partCount := by exact_mod_cast hmany
  have hsmall : (((0 : Nat) : ℚ) + activePart totalRows rows partCount 0) * 100 / partCount < 1 := by
    rw [div_lt_one (by linarith), Nat.cast_zero]
    linarith
  unfold partPercent
  rw [Nat.floor_eq_zero.mpr hsmall]
  rfl

end TableProgressState

end Schengen.Storage
