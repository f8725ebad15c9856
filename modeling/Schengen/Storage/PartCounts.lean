import Schengen.Tables.Partition

/-!
# The number of parts for a row limit

`ResolvePartCountByTargetRows` of `Storage/writer.cpp` divides up, `MakePartitionRange` divides
down and gives the remainder to the last part. Whether that part stays within the limit depends
on how many rows the full parts would have to spare.
-/

namespace Schengen.Storage
open Schengen.Tables

/-- The sum of the two counts is one of 64 bits and wraps. -/
def resolvePartCountByTargetRows (totalRows : Nat) (targetRows : Int) : Int :=
  if targetRows ≤ 0 ∨ totalRows = 0 then 1
  else
    let partsU := (totalRows + targetRows.toNat - 1) % 2 ^ 64 / targetRows.toNat
    (min partsU 2147483647 : Nat)

/-- No part has more rows than the target. -/
def WithinTarget (totalRows : Nat) (targetRows : Int) : Prop :=
  ∀ part range, 1 ≤ part → part ≤ resolvePartCountByTargetRows totalRows targetRows →
    makePartitionRange totalRows part (resolvePartCountByTargetRows totalRows targetRows) = .ok range →
      (range.endRow : Int) - range.startRow ≤ targetRows

/-- The number of parts before it is clamped, if the sum does not wrap. -/
def fullParts (totalRows targetRows : Nat) : Nat := (totalRows + targetRows - 1) / targetRows

/-- The rows by which full parts exceed the total. -/
def spareRows (totalRows targetRows : Nat) : Nat :=
  fullParts totalRows targetRows * targetRows - totalRows

/-- Every part but the last gives up the same number of rows; the spare rows must pay for it. -/
def SparesCover (totalRows targetRows : Nat) : Prop :=
  (fullParts totalRows targetRows - 1) *
      ((spareRows totalRows targetRows + fullParts totalRows targetRows - 1) /
        fullParts totalRows targetRows) ≤ spareRows totalRows targetRows

instance (totalRows targetRows : Nat) : Decidable (SparesCover totalRows targetRows) :=
  inferInstanceAs (Decidable (_ ≤ _))

variable {totalRows targetRows : Nat}

lemma resolvePartCount_wraps (htarget : 1 ≤ targetRows) (hrows : totalRows < 2 ^ 64)
    (hwraps : 2 ^ 64 ≤ totalRows + targetRows - 1) (htarget64 : targetRows < 2 ^ 63) :
    resolvePartCountByTargetRows totalRows targetRows ≤ 0 := by
  have hmod : (totalRows + targetRows - 1) % 2 ^ 64 = totalRows + targetRows - 1 - 2 ^ 64 := by
    omega
  have hzero : (totalRows + targetRows - 1) % 2 ^ 64 / targetRows = 0 := by
    rw [hmod]
    exact Nat.div_eq_of_lt (by omega)
  unfold resolvePartCountByTargetRows
  rw [if_neg (by omega)]
  simp only [Int.toNat_natCast, hzero]
  decide

lemma resolvePartCount_eq (htarget : 1 ≤ targetRows) (htotal : 1 ≤ totalRows)
    (hsum : totalRows + targetRows - 1 < 2 ^ 64)
    (hparts : fullParts totalRows targetRows ≤ 2147483647) :
    resolvePartCountByTargetRows totalRows targetRows = (fullParts totalRows targetRows : Nat) := by
  unfold resolvePartCountByTargetRows
  rw [if_neg (by omega)]
  simp only [Int.toNat_natCast, Nat.mod_eq_of_lt hsum]
  exact congrArg Nat.cast (min_eq_left hparts)

variable (totalRows) in
lemma fullParts_bounds (htarget : 1 ≤ targetRows) :
    totalRows ≤ fullParts totalRows targetRows * targetRows ∧
      fullParts totalRows targetRows * targetRows < totalRows + targetRows := by
  have hdiv := Nat.div_add_mod (totalRows + targetRows - 1) targetRows
  have hmod := Nat.mod_lt (totalRows + targetRows - 1) htarget
  unfold fullParts
  rw [Nat.mul_comm]
  omega

/-- Dividing the total by `n` parts, each of which gives up `shortfall` rows. -/
lemma split_eq {n spare shortfall : Nat} (hn : 1 ≤ n)
    (htotal : totalRows + spare = n * targetRows)
    (hshortfall : shortfall = (spare + n - 1) / n) :
    totalRows / n = targetRows - shortfall ∧
      totalRows % n = n * shortfall - spare ∧ shortfall ≤ targetRows ∧ spare ≤ n * shortfall := by
  have hdiv := Nat.div_add_mod (spare + n - 1) n
  have hmod := Nat.mod_lt (spare + n - 1) hn
  rw [← hshortfall] at hdiv
  have hlow : spare ≤ n * shortfall := by omega
  have hhigh : n * shortfall < spare + n := by omega
  have hle : shortfall ≤ targetRows := by
    by_contra hgt
    have hprod : n * (targetRows + 1) ≤ n * shortfall := Nat.mul_le_mul_left n (by omega)
    rw [Nat.mul_succ] at hprod
    have hself : targetRows ≤ n * targetRows := Nat.le_mul_of_pos_left targetRows hn
    omega
  have hsum : totalRows = n * (targetRows - shortfall) + (n * shortfall - spare) := by
    rw [Nat.mul_sub]
    have hmono : n * shortfall ≤ n * targetRows := Nat.mul_le_mul_left n hle
    omega
  have hrest : n * shortfall - spare < n := by omega
  refine ⟨?_, ?_, hle, hlow⟩
  · rw [hsum, Nat.mul_add_div hn, Nat.div_eq_of_lt hrest, Nat.add_zero]
  · rw [hsum, Nat.mul_add_mod, Nat.mod_eq_of_lt hrest]

/-- The last part is the largest one. -/
lemma withinTarget_iff_last {n : Nat} (hn : 1 ≤ n)
    (hcount : resolvePartCountByTargetRows totalRows targetRows = n) :
    WithinTarget totalRows targetRows ↔ totalRows / n + totalRows % n ≤ targetRows := by
  have hpart : ∀ i < n, partitionBound totalRows n (i + 1) - partitionBound totalRows n i =
      totalRows / n + if i + 1 = n then totalRows % n else 0 := by
    intro i hi
    have hdiv := Nat.div_add_mod totalRows n
    unfold partitionBound
    generalize totalRows / n = rows at hdiv ⊢
    by_cases hlast : i + 1 = n
    · rw [if_pos hlast.ge, if_neg (by omega), if_pos hlast]
      have hprod : rows * i + rows = n * rows := by
        rw [← Nat.mul_succ, Nat.succ_eq_add_one, hlast, Nat.mul_comm]
      omega
    · rw [if_neg (by omega), if_neg (by omega), if_neg hlast, Nat.mul_succ]
      omega
  have hmono := partitionBound_mono totalRows n
  unfold WithinTarget
  rw [hcount]
  generalize totalRows / n = rows at hpart ⊢
  generalize totalRows % n = rest at hpart ⊢
  constructor
  · intro h
    obtain ⟨i, rfl⟩ : ∃ i, n = i + 1 := ⟨n - 1, by omega⟩
    have hle := h (i + 1) _ (by omega) (by omega) (makePartitionRange_eq totalRows (Nat.lt_succ_self i))
    have hsize := hpart i (Nat.lt_succ_self i)
    have hbound := hmono (Nat.le_succ i)
    rw [if_pos rfl] at hsize
    simp only at hle
    omega
  · intro h part range hpos hle hrange
    obtain ⟨i, rfl⟩ : ∃ i : Nat, part = i + 1 := ⟨(part - 1).toNat, by omega⟩
    have hi : i < n := by omega
    rw [makePartitionRange_eq totalRows hi] at hrange
    cases hrange
    have hsize := hpart i hi
    have hbound := hmono (Nat.le_succ i)
    simp only
    split_ifs at hsize <;> omega

/-- The limit is respected exactly where the spare rows cover what the parts before the last one
give up, or where the sum wraps and there are no parts. -/
theorem withinTarget_iff (htotal : 1 ≤ totalRows) (htotal64 : totalRows < 2 ^ 64)
    (htarget : 1 ≤ targetRows) (htarget64 : targetRows < 2 ^ 63)
    (hparts : fullParts totalRows targetRows ≤ 2147483647) :
    WithinTarget totalRows targetRows ↔
      2 ^ 64 ≤ totalRows + targetRows - 1 ∨ SparesCover totalRows targetRows := by
  by_cases hwraps : 2 ^ 64 ≤ totalRows + targetRows - 1
  · refine iff_of_true (fun part range hpos hle _ => ?_) (.inl hwraps)
    have hcount := resolvePartCount_wraps htarget htotal64 hwraps htarget64
    omega
  · have hcount := resolvePartCount_eq htarget htotal (by omega) hparts
    obtain ⟨hlow, hhigh⟩ := fullParts_bounds totalRows htarget
    have hn : 1 ≤ fullParts totalRows targetRows := by
      by_contra hzero
      have : fullParts totalRows targetRows = 0 := by omega
      rw [this] at hlow
      omega
    rw [withinTarget_iff_last hn hcount]
    have htotals : totalRows + spareRows totalRows targetRows =
        fullParts totalRows targetRows * targetRows := by
      unfold spareRows
      omega
    obtain ⟨hdiv, hmod, hle, hspare⟩ := split_eq hn htotals rfl
    rw [hdiv, hmod]
    unfold SparesCover
    rw [Nat.sub_mul, Nat.one_mul]
    have hself : (spareRows totalRows targetRows + fullParts totalRows targetRows - 1) /
        fullParts totalRows targetRows ≤ fullParts totalRows targetRows *
          ((spareRows totalRows targetRows + fullParts totalRows targetRows - 1) /
            fullParts totalRows targetRows) := Nat.le_mul_of_pos_left _ hn
    omega

theorem withinTarget_iff_even : WithinTarget 12 4 ↔ 2 ^ 64 ≤ 12 + 4 - 1 ∨ SparesCover 12 4 :=
  withinTarget_iff (by decide) (by decide) (by decide) (by decide) (by decide)

/-- The 25 nations with at most three rows a part: the last of nine parts has nine rows. -/
theorem nation_not_withinTarget : ¬ WithinTarget 25 3 := by
  intro h
  have hlast := h 9 ⟨16, 25⟩ (by decide) (by decide) (by decide)
  revert hlast
  decide

end Schengen.Storage
