import Schengen.Library.CheckedArithmetic
import Schengen.Tables.SupplierMapping

/-!
# The arithmetic of part keys

`SelectPartSupplier` and `CalculatePartPrice` step by step, stopping where a step would overflow.
For part keys of 32 bits nothing does, and all copies of the two functions agree.
-/

namespace Schengen.Tables
open Library Schengen.Random

/-- `SelectPartSupplier` with 64-bit steps; only the result is cut to 32 bits. -/
def selectSupplierChecked (suppliersPerPart : Int) (scaleBase : Nat) (partKey supplierNumber : Int)
    (scaleFactor : ScaleFactor) : Option Int := do
  let supplierKeyMaxValue ← checked 64 (scaled scaleBase scaleFactor)
  let share ← checkedDiv 64 supplierKeyMaxValue suppliersPerPart
  let before ← checked 64 (partKey - 1)
  let rounds ← checkedDiv 64 before supplierKeyMaxValue
  let stride ← checked 64 (share + rounds)
  let strides ← checked 64 (supplierNumber * stride)
  let sum ← checked 64 (partKey + strides)
  let rest ← checkedMod 64 sum supplierKeyMaxValue
  let supplierKey ← checked 64 (rest + 1)
  checked 32 supplierKey

/-- `CalculatePartPrice`, which `PartRowIterator` computes with 32 bits. -/
def calculatePartPriceChecked (bits : Nat) (partKey : Int) : Option Int := do
  let tenth ← checkedDiv bits partKey 10
  let rest ← checkedMod bits tenth 20001
  let price ← checked bits (90000 + rest)
  let thousandth ← checkedMod bits partKey 1000
  let cents ← checked bits (thousandth * 100)
  checked bits (price + cents)

/-- No step of the functions of a part key overflows, and their copies agree. -/
structure PartArithmetic (sf : ℚ) (partKey : Int) : Prop where
  partsupp : ∀ i : Int, 0 ≤ i → i ≤ 3 →
    selectSupplierChecked PartSuppStreams.kSuppliersPerPart PartSuppStreams.kSupplierScaleBase
      partKey i sf = some (PartSuppStreams.selectPartSupplier partKey i sf)
  lineitem : ∀ i : Int, 0 ≤ i → i ≤ 3 →
    selectSupplierChecked LineitemStreams.kSuppliersPerPart LineitemStreams.kSupplierScaleBase
      partKey i sf = some (LineitemStreams.selectPartSupplier partKey i sf)
  partPrice : calculatePartPriceChecked 32 partKey = some (PartStreams.calculatePartPrice partKey)
  linePrice : calculatePartPriceChecked 64 partKey = some (LineitemStreams.calculatePartPrice partKey)
  orderPrice : calculatePartPriceChecked 64 partKey = some (OrderStreams.calculatePartPrice partKey)

variable {sf : ℚ} {partKey i : Int} {scaleBase : Nat}

lemma fits64 {x : Int} (hlo : 0 ≤ x) (hhi : x < 2 ^ 40) : Fits 64 x := by
  have hbits : (2 : Int) ^ (64 - 1) = 9223372036854775808 := by decide
  exact ⟨by omega, by omega⟩

lemma fits32 {x : Int} (hlo : 0 ≤ x) (hhi : x < 2 ^ 31) : Fits 32 x := by
  have hbits : (2 : Int) ^ (32 - 1) = 2147483648 := by decide
  exact ⟨by omega, by omega⟩

lemma selectSupplierChecked_eq (hpart : 1 ≤ partKey) (hpart32 : partKey < 2 ^ 31)
    (hsuppliers : 1 ≤ scaled scaleBase sf) (hsuppliers32 : scaled scaleBase sf < 2 ^ 31)
    (hi : 0 ≤ i) (hi' : i ≤ 3) :
    selectSupplierChecked 4 scaleBase partKey i sf =
      some (selectSupplier 4 scaleBase partKey i sf) := by
  rw [selectSupplier_eq rfl hsuppliers hpart hi]
  unfold selectSupplierChecked
  generalize scaled scaleBase sf = suppliers at hsuppliers hsuppliers32 ⊢
  have hmax := checked_eq (fits64 (show 0 ≤ suppliers by omega) (by omega))
  have hshare := checkedDiv_eq (show 0 ≤ suppliers by omega) (show (0 : Int) < 4 by decide)
    (fits64 (show 0 ≤ suppliers by omega) (by omega))
  have hbefore := checked_eq (fits64 (show 0 ≤ partKey - 1 by omega) (by omega))
  have hrounds := checkedDiv_eq (show 0 ≤ partKey - 1 by omega) (show 0 < suppliers by omega)
    (fits64 (show 0 ≤ partKey - 1 by omega) (by omega))
  have hstridePos : 0 ≤ suppliers / 4 + (partKey - 1) / suppliers :=
    add_nonneg (Int.ediv_nonneg (by omega) (by decide)) (Int.ediv_nonneg (by omega) (by omega))
  have hstrideLe : suppliers / 4 + (partKey - 1) / suppliers ≤ suppliers + (partKey - 1) :=
    add_le_add (Int.ediv_le_self 4 (by omega)) (Int.ediv_le_self suppliers (by omega))
  generalize suppliers / 4 = share at *
  generalize (partKey - 1) / suppliers = rounds at *
  have hstride := checked_eq (fits64 hstridePos (by omega))
  have hstridesPos : 0 ≤ i * (share + rounds) := mul_nonneg hi hstridePos
  have hstridesLe : i * (share + rounds) ≤ 3 * (share + rounds) :=
    mul_le_mul_of_nonneg_right hi' hstridePos
  generalize hproduct : i * (share + rounds) = strides at *
  have hstrides := checked_eq (fits64 hstridesPos (by omega))
  have hsum := checked_eq (fits64 (show 0 ≤ partKey + strides by omega) (by omega))
  have hrest := checkedMod_eq (show 0 ≤ partKey + strides by omega) (show 0 < suppliers by omega)
    (fits64 (show 0 ≤ partKey + strides by omega) (by omega))
  have hrestPos := Int.emod_nonneg (partKey + strides) (show suppliers ≠ 0 by omega)
  have hrestLt := Int.emod_lt_of_pos (partKey + strides) (show 0 < suppliers by omega)
  generalize (partKey + strides) % suppliers = rest at *
  have hkey := checked_eq (fits64 (show 0 ≤ rest + 1 by omega) (by omega))
  simp only [bind, Option.bind, hmax, hshare, hbefore, hrounds, hstride, hproduct, hstrides,
    hsum, hrest, hkey]
  rw [checked_eq (fits32 (by omega) (by omega)), toInt32_eq (by omega) (by omega)]

lemma calculatePartPriceChecked_eq {bits : Nat} (hbits : 32 ≤ bits) (hpart : 1 ≤ partKey)
    (hpart32 : partKey < 2 ^ 31) :
    calculatePartPriceChecked bits partKey = some (PartStreams.calculatePartPrice partKey) := by
  have hwide : (2 : Int) ^ 31 ≤ 2 ^ (bits - 1) := pow_le_pow_right₀ (by decide) (by omega)
  have hfits : ∀ {x : Int}, 0 ≤ x → x < 2 ^ 31 → Fits bits x := fun h0 h1 => ⟨by omega, by omega⟩
  have hten := checkedDiv_eq (show 0 ≤ partKey by omega) (show (0 : Int) < 10 by decide)
    (hfits (show 0 ≤ partKey by omega) hpart32)
  have hrest := checkedMod_eq (show 0 ≤ partKey / 10 by omega) (show (0 : Int) < 20001 by decide)
    (hfits (show 0 ≤ partKey / 10 by omega) (by omega))
  have hprice := checked_eq (hfits (show 0 ≤ 90000 + partKey / 10 % 20001 by omega) (by omega))
  have hthousand := checkedMod_eq (show 0 ≤ partKey by omega) (show (0 : Int) < 1000 by decide)
    (hfits (show 0 ≤ partKey by omega) hpart32)
  have hcents := checked_eq (hfits (show 0 ≤ partKey % 1000 * 100 by omega) (by omega))
  have hsum := checked_eq (hfits
    (show 0 ≤ 90000 + partKey / 10 % 20001 + partKey % 1000 * 100 by omega) (by omega))
  unfold calculatePartPriceChecked PartStreams.calculatePartPrice
  simp only [bind, Option.bind, hten, hrest, hprice, hthousand, hcents, hsum]
  rw [Int.tdiv_eq_ediv_of_nonneg (by omega), Int.tmod_eq_emod_of_nonneg (by omega),
    Int.tmod_eq_emod_of_nonneg (by omega)]

/-- Part keys of 32 bits and up to `2 ^ 31 - 1` suppliers. -/
theorem partArithmetic (hpart : 1 ≤ partKey) (hpart32 : partKey < 2 ^ 31)
    (hsuppliers : 1 ≤ scaled 10000 sf) (hsuppliers32 : scaled 10000 sf < 2 ^ 31) :
    PartArithmetic sf partKey where
  partsupp _ hi hi' := selectSupplierChecked_eq hpart hpart32 hsuppliers hsuppliers32 hi hi'
  lineitem _ hi hi' := selectSupplierChecked_eq hpart hpart32 hsuppliers hsuppliers32 hi hi'
  partPrice := calculatePartPriceChecked_eq (by decide) hpart hpart32
  linePrice := calculatePartPriceChecked_eq (by decide) hpart hpart32
  orderPrice := calculatePartPriceChecked_eq (by decide) hpart hpart32

end Schengen.Tables
