import Mathlib.Algebra.BigOperators.Group.List.Basic
import Mathlib.Algebra.Order.BigOperators.Group.List
import Mathlib.Algebra.Order.Group.Int
import Mathlib.Data.Int.ConditionallyCompleteOrder
import Mathlib.Data.Int.Interval
import Mathlib.Order.ConditionallyCompleteLattice.Basic

/-!
# Search in running totals

Weights are added up until the total exceeds a sample. Weights that are not negative cut the line into
half-open intervals, one for each of them, and the search finds the interval of the sample.
-/

namespace Schengen.Library

variable {M : Type*} [AddCommMonoid M] [LinearOrder M]

/-- The first place where the running total, which starts with `total`, exceeds the sample. -/
def cumulativeSearch (sample : M) : M → List M → Option Nat
  | _, [] => none
  | total, weight :: weights =>
    if sample < total + weight then some 0
    else (cumulativeSearch sample (total + weight) weights).map (· + 1)

variable {sample total weight : M} {weights : List M} {i : Nat}

lemma cumulativeSearch_here (h : sample < total + weight) :
    cumulativeSearch sample total (weight :: weights) = some 0 := if_pos h

lemma cumulativeSearch_later (h : total + weight ≤ sample) :
    cumulativeSearch sample total (weight :: weights) =
      (cumulativeSearch sample (total + weight) weights).map (· + 1) := if_neg (not_lt.mpr h)

variable [IsOrderedAddMonoid M]

/-- The search fails exactly where the sample is not below the last running total. -/
lemma cumulativeSearch_eq_none_iff (hweights : ∀ weight ∈ weights, 0 ≤ weight)
    (htotal : total ≤ sample) :
    cumulativeSearch sample total weights = none ↔ total + weights.sum ≤ sample := by
  induction weights generalizing total with
  | nil => simp [cumulativeSearch, htotal]
  | cons weight weights ih =>
    obtain ⟨hweight, hweights⟩ := List.forall_mem_cons.mp hweights
    rw [List.sum_cons, ← add_assoc]
    rcases lt_or_ge sample (total + weight) with hhere | hlater
    · have hbelow : sample < total + weight + weights.sum :=
        hhere.trans_le (le_add_of_nonneg_right (List.sum_nonneg hweights))
      rw [cumulativeSearch_here hhere]
      simp [hbelow]
    · rw [cumulativeSearch_later hlater, Option.map_eq_none_iff, ih hweights hlater]

/-- The search finds the interval between two running totals in which the sample lies. -/
theorem cumulativeSearch_eq_some_iff (hweights : ∀ weight ∈ weights, 0 ≤ weight)
    (htotal : total ≤ sample) :
    cumulativeSearch sample total weights = some i ↔ i < weights.length ∧
      total + (weights.take i).sum ≤ sample ∧ sample < total + (weights.take (i + 1)).sum := by
  induction weights generalizing total i with
  | nil => simp [cumulativeSearch]
  | cons weight weights ih =>
    obtain ⟨hweight, hweights⟩ := List.forall_mem_cons.mp hweights
    rcases lt_or_ge sample (total + weight) with hhere | hlater
    · rw [cumulativeSearch_here hhere]
      cases i with
      | zero => simp [htotal, hhere]
      | succ i =>
        have htake : 0 ≤ (weights.take i).sum :=
          List.sum_nonneg fun w hw => hweights w (List.mem_of_mem_take hw)
        have hbelow : sample < total + (weight + (weights.take i).sum) := by
          rw [← add_assoc]
          exact hhere.trans_le (le_add_of_nonneg_right htake)
        simp [List.take_succ_cons, not_le.mpr hbelow]
    · rw [cumulativeSearch_later hlater]
      cases i with
      | zero => simp [not_lt.mpr hlater]
      | succ i =>
        rw [Option.map_eq_some_iff]
        constructor
        · rintro ⟨j, hj, hji⟩
          obtain rfl : j = i := Nat.succ.inj hji
          obtain ⟨hlength, hlow, hhigh⟩ := (ih hweights hlater).mp hj
          rw [List.take_succ_cons, List.take_succ_cons, List.sum_cons, List.sum_cons, ← add_assoc,
            ← add_assoc]
          exact ⟨Nat.succ_lt_succ hlength, hlow, hhigh⟩
        · rintro ⟨hlength, hlow, hhigh⟩
          rw [List.take_succ_cons, List.sum_cons, ← add_assoc] at hlow hhigh
          exact ⟨i, (ih hweights hlater).mpr ⟨Nat.lt_of_succ_lt_succ hlength, hlow, hhigh⟩, rfl⟩

/-- The samples of a place are the interval between two running totals. -/
lemma filter_cumulativeSearch {weights : List Int} (hweights : ∀ weight ∈ weights, 0 ≤ weight)
    (hi : i < weights.length) :
    (Finset.Ico 0 weights.sum).filter (fun sample =>
      cumulativeSearch sample 0 weights = some i) =
        Finset.Ico (weights.take i).sum (weights.take (i + 1)).sum := by
  have hlow : 0 ≤ (weights.take i).sum :=
    List.sum_nonneg fun weight hmem => hweights weight (List.mem_of_mem_take hmem)
  have hrest : 0 ≤ (weights.drop (i + 1)).sum :=
    List.sum_nonneg fun weight hmem => hweights weight (List.mem_of_mem_drop hmem)
  have hsplit := List.sum_take_add_sum_drop weights (i + 1)
  ext sample
  rw [Finset.mem_filter, Finset.mem_Ico, Finset.mem_Ico]
  constructor
  · rintro ⟨⟨hsample, _⟩, hsearch⟩
    have hplace := (cumulativeSearch_eq_some_iff hweights hsample).mp hsearch
    rw [zero_add, zero_add] at hplace
    exact hplace.2
  · rintro ⟨hsample, hsample'⟩
    have hnonneg : 0 ≤ sample := hlow.trans hsample
    refine ⟨⟨hnonneg, by omega⟩, (cumulativeSearch_eq_some_iff hweights hnonneg).mpr ?_⟩
    rw [zero_add, zero_add]
    exact ⟨hi, hsample, hsample'⟩

/-- Of the samples below the sum, as many find a place as its weight says. -/
theorem card_cumulativeSearch {weights : List Int} (hweights : ∀ weight ∈ weights, 0 ≤ weight)
    (hi : i < weights.length) :
    (((Finset.Ico 0 weights.sum).filter fun sample =>
      cumulativeSearch sample 0 weights = some i).card : Int) = weights[i] := by
  have hweight : 0 ≤ weights[i] := hweights _ (List.getElem_mem hi)
  have hnext := List.sum_take_succ weights i hi
  rw [filter_cumulativeSearch hweights hi, Int.card_Ico, Int.toNat_of_nonneg (by omega), hnext,
    add_sub_cancel_left]

end Schengen.Library
