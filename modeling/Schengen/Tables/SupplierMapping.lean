import Schengen.Tables.PartRows
import Mathlib.Data.List.Nodup
import Mathlib.Data.Nat.Prime.Basic

/-!
# Four suppliers of a part

`SelectPartSupplier` steps through the suppliers in strides of a quarter of them, lengthened by
one each time the part keys have run through all suppliers. A stride that gets as long as a
third, a half or the whole of the suppliers leads back to the first one.
-/

namespace Schengen.Tables
open Library Schengen.Random

open PartSuppStreams

/-- The longest stride before one, two or three strides are a full round: the third of the
suppliers, the half or the whole, where this is an integer. -/
def roundDivisor (suppliers : Int) : Int :=
  if suppliers % 3 = 0 then 3 else if suppliers % 2 = 0 then 2 else 1

/-- The last part key whose stride is short enough. -/
def lastPart (suppliers : Int) : Int :=
  suppliers * (suppliers / roundDivisor suppliers - suppliers / 4)

/-- The mapping from `(part, number)` to suppliers as the key of partsupp needs it. The part key is
cut to the 32 bits of the parameter. -/
structure FourSuppliers (sampler : IntSampler) (textPool : TextPool) (sf : ScaleFactor) : Prop where
  mem : ∀ partKey i : Int, 1 ≤ partKey → partKey ≤ scaled kPart.rowsAtSf1 sf → 0 ≤ i → i < 4 →
    1 ≤ selectPartSupplier (toInt32 partKey) i sf ∧
      selectPartSupplier (toInt32 partKey) i sf ≤ scaled kSupplierScaleBase sf
  distinct : ∀ partKey i j : Int, 1 ≤ partKey → partKey ≤ scaled kPart.rowsAtSf1 sf →
    0 ≤ i → i < j → j < 4 →
      selectPartSupplier (toInt32 partKey) i sf ≠ selectPartSupplier (toInt32 partKey) j sf
  key : ∀ n sizes (rows : List PartSuppRow), 1 ≤ n → (∀ i j, 0 < sizes i j) →
    (Table.partSuppGenerator sampler).PartsRows kPartsupp ⟨sf⟩ textPool n sizes rows →
      (rows.map fun row => (row.psPartkey, row.psSuppkey)).Nodup

/-- The key before it is cut to 32 bits. -/
lemma selectSupplier_eq {suppliers partKey i : Int} {sf : ScaleFactor} {base : Nat}
    (hsuppliers : scaled base sf = suppliers) (hpos : 0 < suppliers) (hpart : 1 ≤ partKey)
    (hi : 0 ≤ i) :
    selectSupplier 4 base partKey i sf =
      toInt32 ((partKey + i * (suppliers / 4 + (partKey - 1) / suppliers)) % suppliers + 1) := by
  have hstride : 0 ≤ suppliers / 4 + (partKey - 1) / suppliers :=
    add_nonneg (Int.ediv_nonneg hpos.le (by decide)) (Int.ediv_nonneg (by omega) hpos.le)
  have hsum : 0 ≤ partKey + i * (suppliers / 4 + (partKey - 1) / suppliers) :=
    add_nonneg (by omega) (mul_nonneg hi hstride)
  unfold selectSupplier
  rw [hsuppliers]
  simp only [Int.tdiv_eq_ediv_of_nonneg hpos.le, Int.tdiv_eq_ediv_of_nonneg (show 0 ≤ partKey - 1 by omega),
    Int.tmod_eq_emod_of_nonneg hsum]

/-- No one, two or three short strides are a multiple of the suppliers. -/
lemma not_dvd_strides {suppliers stride e : Int} (hpos : 0 < stride)
    (hshort : stride < suppliers / roundDivisor suppliers) (he : 1 ≤ e) (he' : e ≤ 3) :
    ¬ suppliers ∣ e * stride := by
  rintro ⟨t, ht⟩
  unfold roundDivisor at hshort
  have hsuppliers : 0 < suppliers := by split_ifs at hshort <;> omega
  have htpos : 0 < t := by
    by_contra hneg
    have hprod : suppliers * t ≤ 0 := mul_nonpos_of_nonneg_of_nonpos hsuppliers.le (by omega)
    have hleft : 0 < e * stride := mul_pos (by omega) hpos
    omega
  have htlt : t < 3 := by
    by_contra hlarge
    have hprod : suppliers * 3 ≤ suppliers * t := mul_le_mul_of_nonneg_left (by omega) hsuppliers.le
    have hleft : e * stride ≤ 3 * stride := mul_le_mul_of_nonneg_right he' hpos.le
    split_ifs at hshort <;> omega
  obtain rfl | rfl : t = 1 ∨ t = 2 := by omega
  all_goals
    obtain rfl | rfl | rfl : e = 1 ∨ e = 2 ∨ e = 3 := by omega
    all_goals split_ifs at hshort <;> omega

variable {sf : ScaleFactor} {suppliers partKey i j : Int}

lemma selectPartSupplier_eq (hsuppliers : scaled kSupplierScaleBase sf = suppliers)
    (hpos : 0 < suppliers) (hpart : 1 ≤ partKey) (hi : 0 ≤ i) :
    selectPartSupplier partKey i sf =
      toInt32 ((partKey + i * (suppliers / 4 + (partKey - 1) / suppliers)) % suppliers + 1) :=
  selectSupplier_eq hsuppliers hpos hpart hi

lemma selectPartSupplier_mem (hsuppliers : scaled kSupplierScaleBase sf = suppliers)
    (hpos : 0 < suppliers) (hmax : suppliers < 2 ^ 31) (hpart : 1 ≤ partKey) (hi : 0 ≤ i) :
    selectPartSupplier partKey i sf =
        (partKey + i * (suppliers / 4 + (partKey - 1) / suppliers)) % suppliers + 1 ∧
      1 ≤ selectPartSupplier partKey i sf ∧ selectPartSupplier partKey i sf ≤ suppliers := by
  rw [selectPartSupplier_eq hsuppliers hpos hpart hi]
  generalize partKey + i * (suppliers / 4 + (partKey - 1) / suppliers) = sum
  have hlo := Int.emod_nonneg sum hpos.ne'
  have hhi := Int.emod_lt_of_pos sum hpos
  rw [toInt32_eq (by omega) (by omega)]
  omega

/-- The stride of a part up to the last one is short. -/
lemma stride_short (hpos : 4 ≤ suppliers) (hpart : 1 ≤ partKey) (hlast : partKey ≤ lastPart suppliers) :
    0 < suppliers / 4 + (partKey - 1) / suppliers ∧
      suppliers / 4 + (partKey - 1) / suppliers < suppliers / roundDivisor suppliers := by
  have hrounds : (partKey - 1) / suppliers < suppliers / roundDivisor suppliers - suppliers / 4 := by
    refine Int.ediv_lt_of_lt_mul (by omega) ?_
    rw [Int.mul_comm]
    unfold lastPart at hlast
    omega
  have hnonneg : 0 ≤ (partKey - 1) / suppliers := Int.ediv_nonneg (by omega) (by omega)
  omega

/-- The part after the last one goes a full round. -/
lemma roundDivisor_mul (suppliers : Int) :
    roundDivisor suppliers * (suppliers / roundDivisor suppliers) = suppliers ∧
      1 ≤ roundDivisor suppliers ∧ roundDivisor suppliers ≤ 3 ∧
      (4 ≤ suppliers → suppliers / 4 ≤ suppliers / roundDivisor suppliers) := by
  unfold roundDivisor
  split_ifs <;> omega

lemma selectPartSupplier_round (hsuppliers : scaled kSupplierScaleBase sf = suppliers)
    (hpos : 4 ≤ suppliers) :
    selectPartSupplier (lastPart suppliers + 1) 0 sf =
      selectPartSupplier (lastPart suppliers + 1) (roundDivisor suppliers) sf := by
  obtain ⟨hround, hlo, -, hquarter⟩ := roundDivisor_mul suppliers
  have hquarter := hquarter hpos
  have hlast : 0 ≤ lastPart suppliers := mul_nonneg (by omega) (by omega)
  have hstride : suppliers / 4 + (lastPart suppliers + 1 - 1) / suppliers =
      suppliers / roundDivisor suppliers := by
    rw [Int.add_sub_cancel, lastPart, Int.mul_ediv_cancel_left _ (by omega)]
    omega
  rw [selectPartSupplier_eq hsuppliers (by omega) (by omega) le_rfl,
    selectPartSupplier_eq hsuppliers (by omega) (by omega) (by omega), hstride, hround, Int.zero_mul,
    Int.add_zero, Int.add_emod_right]

/-- Two numbers below four with the same supplier are a full round apart. -/
lemma selectPartSupplier_ne (hsuppliers : scaled kSupplierScaleBase sf = suppliers)
    (hpos : 4 ≤ suppliers) (hmax : suppliers < 2 ^ 31) (hpart : 1 ≤ partKey)
    (hlast : partKey ≤ lastPart suppliers) (hi : 0 ≤ i) (hij : i < j) (hj : j < 4) :
    selectPartSupplier partKey i sf ≠ selectPartSupplier partKey j sf := by
  obtain ⟨hstride, hshort⟩ := stride_short hpos hpart hlast
  rw [(selectPartSupplier_mem hsuppliers (by omega) hmax hpart hi).1,
    (selectPartSupplier_mem hsuppliers (by omega) hmax hpart (by omega)).1]
  generalize suppliers / 4 + (partKey - 1) / suppliers = stride at hstride hshort ⊢
  intro hsame
  refine not_dvd_strides (e := j - i) hstride hshort (by omega) (by omega) ?_
  have hmod : (partKey + j * stride - (partKey + i * stride)) % suppliers = 0 :=
    Int.emod_eq_emod_iff_emod_sub_eq_zero.mp (by omega)
  have hdiff : partKey + j * stride - (partKey + i * stride) = (j - i) * stride := by ring
  rw [hdiff] at hmod
  exact Int.dvd_of_emod_eq_zero hmod

/-! ## The table -/

lemma readPart_keys (sampler : IntSampler) (sf : ScaleFactor) (textPool : TextPool) (r : Nat) :
    (PartSuppCursor.partRows sampler sf textPool r).map (fun row => (row.psPartkey, row.psSuppkey)) =
      (List.range 4).map fun i : Nat =>
        (toInt32 ((r : Int) + 1), selectPartSupplier (toInt32 ((r : Int) + 1)) i sf) := by
  unfold PartSuppCursor.partRows readPart
  rw [PullIterator.readFrom_map (g := fun i : Nat =>
    (toInt32 ((r : Int) + 1), selectPartSupplier (toInt32 ((r : Int) + 1)) i sf))]
  · rw [List.range_eq_range']
    rfl
  · intro k s
    simp only [PartSuppStreams.read]

lemma mem_range_rowCount {table : TableMetadata} {r : Nat}
    (hr : r ∈ List.range (ScaleConfig.rowCount ⟨sf⟩ table)) :
    (r : Int) + 1 ≤ scaled table.rowsAtSf1 sf := by
  rw [List.mem_range] at hr
  change r < (scaled table.rowsAtSf1 sf).toNat at hr
  omega

/-- The pairs of part and supplier in the rows of all parts. -/
lemma partSupp_keys (sampler : IntSampler) (textPool : TextPool) {n : Nat} (hn : 1 ≤ n)
    {sizes : Nat → Nat → Nat} (hsizes : ∀ i j, 0 < sizes i j) {rows : List PartSuppRow}
    (hrows : (Table.partSuppGenerator sampler).PartsRows kPartsupp ⟨sf⟩ textPool n sizes rows) :
    rows.map (fun row => (row.psPartkey, row.psSuppkey)) =
      (List.range (ScaleConfig.rowCount ⟨sf⟩ kPart)).flatMap fun r : Nat =>
        (List.range 4).map fun i : Nat =>
          (toInt32 ((r : Int) + 1), selectPartSupplier (toInt32 ((r : Int) + 1)) i sf) := by
  have hkeys := (((Table.emitsUnits_partSupp sampler ⟨sf⟩ textPool).emitsKeys
    fun row : PartSuppRow => (row.psPartkey, row.psSuppkey)).partsRows
      (TableGenerator.cut_partitionBound _) hn hsizes).2 rows hrows
  rw [partitionBound_self] at hkeys
  exact hkeys.trans (List.flatMap_congr fun r _ => readPart_keys sampler sf textPool r)

/-- Distinct suppliers for every part make the pairs of part and supplier distinct. -/
lemma nodup_keys (hparts : scaled kPart.rowsAtSf1 sf < 2 ^ 31)
    (hdistinct : ∀ partKey i j : Int, 1 ≤ partKey → partKey ≤ scaled kPart.rowsAtSf1 sf →
      0 ≤ i → i < j → j < 4 → selectPartSupplier partKey i sf ≠ selectPartSupplier partKey j sf) :
    ((List.range (ScaleConfig.rowCount ⟨sf⟩ kPart)).flatMap fun r : Nat =>
      (List.range 4).map fun i : Nat =>
        (toInt32 ((r : Int) + 1), selectPartSupplier (toInt32 ((r : Int) + 1)) i sf)).Nodup := by
  have hstored : ∀ r ∈ List.range (ScaleConfig.rowCount ⟨sf⟩ kPart),
      toInt32 ((r : Int) + 1) = r + 1 := by
    intro r hr
    have hle := mem_range_rowCount hr
    exact toInt32_eq (by omega) (by omega)
  refine List.nodup_flatMap.mpr ⟨fun r hr => ?_, ?_⟩
  · rw [hstored r hr]
    refine List.Nodup.map_on (fun i hi j hj hsame => ?_) List.nodup_range
    have hsupplier := (Prod.mk.inj hsame).2
    have hi4 := List.mem_range.mp hi
    have hj4 := List.mem_range.mp hj
    have hle := mem_range_rowCount hr
    rcases Nat.lt_trichotomy i j with hlt | heq | hgt
    · exact absurd hsupplier (hdistinct _ _ _ (by omega) hle (by omega) (by omega) (by omega))
    · exact heq
    · exact absurd hsupplier.symm (hdistinct _ _ _ (by omega) hle (by omega) (by omega) (by omega))
  · refine List.nodup_range.pairwise_of_forall_ne fun r hr r' hr' hne => ?_
    intro pair hpair hpair'
    simp only [hstored r hr] at hpair
    simp only [hstored r' hr'] at hpair'
    obtain ⟨i, -, rfl⟩ := List.mem_map.mp hpair
    obtain ⟨j, -, hsame⟩ := List.mem_map.mp hpair'
    have hpart := (Prod.mk.inj hsame).1
    omega

/-- However the products are rounded, there are no more suppliers than parts. -/
lemma suppliers_le_parts {sf : ScaleFactor} (hpos : 1 ≤ scaled kSupplierScaleBase sf) :
    scaled kSupplierScaleBase sf ≤ scaled kPart.rowsAtSf1 sf := by
  have hvalue : 0 ≤ sf.value := by
    by_contra hneg
    have hproduct : (kSupplierScaleBase : ℚ) * sf.value ≤ (0 : Nat) := by
      rw [Nat.cast_zero]
      exact mul_nonpos_of_nonneg_of_nonpos (Nat.cast_nonneg _) (not_le.mp hneg).le
    have hround := sf.round_mono hproduct
    rw [sf.round_natCast 0 (by norm_num)] at hround
    have hone := (Rat.le_floor_iff.mp hpos).trans hround
    norm_num at hone
  refine Rat.floor_monotone (sf.round_mono (mul_le_mul_of_nonneg_right ?_ hvalue))
  norm_num [kPart, kSupplierScaleBase]

/-! ## Part keys beyond 32 bits -/

/-- The dividend of the remainder is negative, and it is a multiple of the suppliers for one of the
first two numbers at most. -/
lemma selectPartSupplier_wrapped (hsuppliers : scaled kSupplierScaleBase sf = suppliers)
    (hpos : 4 ≤ suppliers) :
    selectPartSupplier (-2147483648) 0 sf < 1 ∨ selectPartSupplier (-2147483648) 1 sf < 1 := by
  unfold selectPartSupplier selectSupplier
  simp only [hsuppliers, Int.zero_mul, Int.add_zero, Int.one_mul]
  by_cases hdvd : suppliers ∣ 2147483648
  · right
    -- the suppliers are a power of two
    obtain ⟨k, hk, hpower⟩ : ∃ k ≤ 31, suppliers.toNat = 2 ^ k := by
      refine (Nat.dvd_prime_pow Nat.prime_two).mp ?_
      rw [← Int.natCast_dvd_natCast, Int.toNat_of_nonneg (by omega)]
      exact hdvd
    obtain rfl : suppliers = 2 ^ k := by
      rw [← Int.toNat_of_nonneg (show 0 ≤ suppliers by omega), hpower]
      push_cast
      rfl
    have hk2 : 2 ≤ k := by
      by_contra hsmall
      obtain rfl | rfl : k = 0 ∨ k = 1 := by omega
      all_goals norm_num at hpos
    have hpowers : ∀ k ≤ 31, 2 ≤ k →
        toInt32 ((-2147483648 + (((2 : Int) ^ k).tdiv kSuppliersPerPart +
          (-2147483648 - 1 : Int).tdiv (2 ^ k))).tmod (2 ^ k) + 1) < 1 := by
      decide +kernel
    exact hpowers k hk hk2
  · left
    have hrest : 2147483648 % suppliers ≠ 0 := fun h => hdvd (Int.dvd_of_emod_eq_zero h)
    have hlo := Int.emod_nonneg 2147483648 (show suppliers ≠ 0 by omega)
    have hhi : 2147483648 % suppliers ≤ 2147483648 := by
      have hquotient : 0 ≤ suppliers * (2147483648 / suppliers) :=
        mul_nonneg (by omega) (Int.ediv_nonneg (by decide) (by omega))
      have hdiv := Int.mul_ediv_add_emod 2147483648 suppliers
      omega
    have hmod : (-2147483648 : Int).tmod suppliers = -(2147483648 % suppliers) := by
      rw [Int.neg_tmod, Int.tmod_eq_emod_of_nonneg (by decide)]
    rw [hmod, toInt32_eq (by omega) (by omega)]
    omega

/-- The four suppliers of a part are distinct and in range exactly for part keys that fit 32 bits
and up to the last part with a short stride. -/
theorem fourSuppliers_iff (sampler : IntSampler) (textPool : TextPool) {sf : ScaleFactor}
    (hmin : 4 ≤ scaled kSupplierScaleBase sf) :
    FourSuppliers sampler textPool sf ↔
      scaled kPart.rowsAtSf1 sf < 2 ^ 31 ∧
        scaled kPart.rowsAtSf1 sf ≤ lastPart (scaled kSupplierScaleBase sf) := by
  have hparts := suppliers_le_parts (show 1 ≤ scaled kSupplierScaleBase sf by omega)
  obtain ⟨-, hround, hround', hquarter⟩ := roundDivisor_mul (scaled kSupplierScaleBase sf)
  have hlast : 0 ≤ lastPart (scaled kSupplierScaleBase sf) :=
    mul_nonneg (by omega) (by have := hquarter hmin; omega)
  constructor
  · intro h
    have hmax : scaled kPart.rowsAtSf1 sf < 2 ^ 31 := by
      by_contra hlarge
      have hfirst := (h.mem 2147483648 0 (by decide) (by omega) le_rfl (by decide)).1
      have hsecond := (h.mem 2147483648 1 (by decide) (by omega) (by decide) (by decide)).1
      rw [show toInt32 2147483648 = -2147483648 by decide] at hfirst hsecond
      rcases selectPartSupplier_wrapped rfl hmin with hzero | hone
      · omega
      · omega
    refine ⟨hmax, ?_⟩
    by_contra hlong
    have hdistinct := h.distinct (lastPart (scaled kSupplierScaleBase sf) + 1) 0
      (roundDivisor (scaled kSupplierScaleBase sf)) (by omega) (by omega) le_rfl (by omega) (by omega)
    rw [toInt32_eq (by omega) (by omega)] at hdistinct
    exact hdistinct (selectPartSupplier_round rfl hmin)
  · rintro ⟨hmax, hshort⟩
    have hstored : ∀ partKey : Int, 1 ≤ partKey → partKey ≤ scaled kPart.rowsAtSf1 sf →
        toInt32 partKey = partKey := fun partKey hpart hle => toInt32_eq (by omega) (by omega)
    have hdistinct : ∀ partKey i j : Int, 1 ≤ partKey → partKey ≤ scaled kPart.rowsAtSf1 sf →
        0 ≤ i → i < j → j < 4 → selectPartSupplier partKey i sf ≠ selectPartSupplier partKey j sf :=
      fun partKey i j hpart hle hi hij hj =>
        selectPartSupplier_ne rfl hmin (by omega) hpart (hle.trans hshort) hi hij hj
    refine ⟨fun partKey i hpart hle hi _ => ?_, fun partKey i j hpart hle hi hij hj => ?_,
      fun n sizes rows hn hsizes hrows => ?_⟩
    · rw [hstored partKey hpart hle]
      exact (selectPartSupplier_mem rfl (by omega) (by omega) hpart hi).2
    · rw [hstored partKey hpart hle]
      exact hdistinct partKey i j hpart hle hi hij hj
    · rw [partSupp_keys sampler textPool hn hsizes hrows]
      exact nodup_keys hmax hdistinct

lemma scaled_suppliers_one : scaled kSupplierScaleBase 1 = 10000 := by decide +kernel

theorem fourSuppliers_iff_one :
    FourSuppliers IntSampler.exact ⟨[]⟩ 1 ↔
      scaled kPart.rowsAtSf1 1 < 2 ^ 31 ∧
        scaled kPart.rowsAtSf1 1 ≤ lastPart (scaled kSupplierScaleBase 1) :=
  fourSuppliers_iff IntSampler.exact ⟨[]⟩ (by rw [scaled_suppliers_one]; decide)

/-- With ten suppliers, part 31 has its first supplier twice. -/
theorem fourSuppliers_thousandth : ¬ FourSuppliers IntSampler.exact ⟨[]⟩ (1 / 1000 : ℚ) := by
  intro h
  refine h.distinct 31 0 2 (by decide) (by decide +kernel) le_rfl (by decide) (by decide) ?_
  decide +kernel

end Schengen.Tables
