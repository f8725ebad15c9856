import Schengen.Library.PullIterator
import Schengen.Random.Streams
import Mathlib.Data.Rat.Floor
import Mathlib.Tactic.Ring

/-!
# Partitions

`Common/partition.cpp`: the row count of a scale factor and the range of rows of a part.
The ranges of parts `1..n` are consecutive and cover all rows, whatever the remainder.
A scale factor is a rational, as every finite `double` is one; its products are rounded.
-/

namespace Schengen.Tables
open Library Schengen.Random

structure TableMetadata where
  name : String
  rowsAtSf1 : Nat

def kCustomer : TableMetadata := ⟨"customer", 150000⟩
def kLineitem : TableMetadata := ⟨"lineitem", 6000000⟩
def kNation : TableMetadata := ⟨"nation", 25⟩
def kRegion : TableMetadata := ⟨"region", 5⟩
def kOrders : TableMetadata := ⟨"orders", 1500000⟩
def kPart : TableMetadata := ⟨"part", 200000⟩
def kPartsupp : TableMetadata := ⟨"partsupp", 800000⟩
def kSupplier : TableMetadata := ⟨"supplier", 10000⟩

/-- A scale factor and the rounding of its products with a `double`. Rounding keeps the order and
the integers that a `double` holds. -/
structure ScaleFactor where
  value : ℚ
  round : ℚ → ℚ
  round_mono : Monotone round
  round_natCast : ∀ n : Nat, n ≤ 2 ^ 53 → round n = n

/-- A scale factor whose products are not rounded. -/
def ScaleFactor.exact (value : ℚ) : ScaleFactor := ⟨value, id, monotone_id, fun _ _ => rfl⟩

instance : Coe ℚ ScaleFactor := ⟨ScaleFactor.exact⟩

instance (n : Nat) : OfNat ScaleFactor n := ⟨(OfNat.ofNat n : ℚ)⟩

structure ScaleConfig where
  factor : ScaleFactor

/-- The integer part of the product, as `static_cast` of `count * factor` has it. -/
def scaled (count : Nat) (factor : ScaleFactor) : Int :=
  (factor.round ((count : ℚ) * factor.value)).floor

lemma scaled_exact (count : Nat) (factor : ℚ) :
    scaled count factor = ((count : ℚ) * factor).floor := rfl

lemma le_scaled {count m : Nat} {a : ℚ} {factor : ScaleFactor} (h : a ≤ factor.value)
    (hm : (m : ℚ) ≤ count * a) (hsize : m ≤ 2 ^ 53) : (m : Int) ≤ scaled count factor := by
  refine Rat.le_floor_iff.mpr ?_
  have hproduct := factor.round_mono
    (hm.trans (mul_le_mul_of_nonneg_left h (Nat.cast_nonneg count)))
  rw [factor.round_natCast m hsize] at hproduct
  exact_mod_cast hproduct

lemma scaled_lt {count m : Nat} {a : ℚ} {factor : ScaleFactor} (h : factor.value ≤ a)
    (hm : (count : ℚ) * a ≤ m) (hsize : m ≤ 2 ^ 53) : scaled count factor < m + 1 := by
  refine Rat.floor_lt_iff.mpr ?_
  have hproduct := factor.round_mono
    ((mul_le_mul_of_nonneg_left h (Nat.cast_nonneg count)).trans hm)
  rw [factor.round_natCast m hsize] at hproduct
  exact hproduct.trans_lt (by exact_mod_cast Nat.lt_succ_self m)

def ScaleConfig.rowCount (scale : ScaleConfig) (table : TableMetadata) : Nat :=
  (scaled table.rowsAtSf1 scale.factor).toNat

structure PartitionRange where
  startRow : Nat
  endRow : Nat
  deriving DecidableEq

structure PartitionPlan where
  range : PartitionRange
  partNum : Int
  partCount : Int

structure GeneratorContext where
  scale : ScaleConfig
  partition : PartitionPlan
  textPool : TextPool

def validatePart (partNum partCount : Int) : Except String Unit :=
  if partCount < 1 then .error "part_count must be >= 1"
  else if partNum < 1 ∨ partNum > partCount then .error "part must be within [1, part_count]"
  else .ok ()

def calculateRowCount (totalRows : Nat) (partNum partCount : Int) : Except String Nat := do
  validatePart partNum partCount
  let rowCount := totalRows / partCount.toNat
  return if partNum = partCount then rowCount + totalRows % partCount.toNat else rowCount

def calculateStartIndex (totalRows : Nat) (partNum partCount : Int) : Except String Nat := do
  validatePart partNum partCount
  let rowsPerPart := totalRows / partCount.toNat
  return rowsPerPart * (partNum - 1).toNat

def makePartitionRange (totalRows : Nat) (partNum partCount : Int) : Except String PartitionRange := do
  let start ← calculateStartIndex totalRows partNum partCount
  let count ← calculateRowCount totalRows partNum partCount
  return ⟨start, start + count⟩

def makePartitionPlan (table : TableMetadata) (scale : ScaleConfig) (partNum partCount : Int) :
    Except String PartitionPlan := do
  let range ← makePartitionRange (scale.rowCount table) partNum partCount
  return ⟨range, partNum, partCount⟩

/-- The first row that does not belong to the first `i` of `n` parts. -/
def partitionBound (totalRows n i : Nat) : Nat :=
  if n ≤ i then totalRows else totalRows / n * i

lemma partitionBound_zero {totalRows n : Nat} (hn : 1 ≤ n) : partitionBound totalRows n 0 = 0 := by
  unfold partitionBound
  rw [if_neg (by omega), Nat.mul_zero]

lemma partitionBound_self (totalRows n : Nat) : partitionBound totalRows n n = totalRows := by
  unfold partitionBound
  rw [if_pos le_rfl]

lemma partitionBound_mono (totalRows n : Nat) : Monotone (partitionBound totalRows n) := by
  intro i j hij
  unfold partitionBound
  split_ifs with hi hj hj
  · exact le_rfl
  · omega
  · calc totalRows / n * i ≤ totalRows / n * n := Nat.mul_le_mul_left _ (by omega)
      _ ≤ totalRows := Nat.div_mul_le_self _ _
  · exact Nat.mul_le_mul_left _ hij

lemma validatePart_ok {n i : Nat} (hi : i < n) : validatePart (i + 1) n = .ok () := by
  unfold validatePart
  rw [if_neg (by omega), if_neg (by omega)]

lemma validatePart_inside {partNum partCount : Int} {checked : Unit}
    (h : validatePart partNum partCount = .ok checked) : 1 ≤ partNum ∧ partNum ≤ partCount := by
  unfold validatePart at h
  split_ifs at h with hcount hpart
  omega

/-- Part `i + 1` of `n` starts where the first `i` parts end. -/
theorem makePartitionRange_eq (totalRows : Nat) {n i : Nat} (hi : i < n) :
    makePartitionRange totalRows (i + 1) n =
      .ok ⟨partitionBound totalRows n i, partitionBound totalRows n (i + 1)⟩ := by
  have hstart : (((i : Int) + 1) - 1).toNat = i := by omega
  have hdiv := Nat.div_add_mod totalRows n
  simp only [makePartitionRange, calculateStartIndex, calculateRowCount, validatePart_ok hi,
    bind, Except.bind, pure, Except.pure, Int.toNat_natCast, hstart]
  congr 2
  · unfold partitionBound
    rw [if_neg (by omega)]
  · unfold partitionBound
    by_cases hlast : i + 1 = n
    · rw [if_pos (by omega), if_pos (by omega)]
      have hprod : totalRows / n * i + totalRows / n = n * (totalRows / n) := by
        rw [← Nat.mul_succ, Nat.succ_eq_add_one, hlast, Nat.mul_comm]
      omega
    · rw [if_neg (by omega), if_neg (by omega), Nat.mul_succ]

end Schengen.Tables
