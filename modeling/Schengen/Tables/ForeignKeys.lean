import Schengen.Random.RangeDraws
import Schengen.Tables.Lineitem
import Schengen.Tables.Orders

/-!
# Random foreign keys

The part keys of lineitem and the customer keys of orders are drawn from 1 to the scaled number of
rows. The 64-bit generator starts at scale factor 30000, the 32-bit path ends at `2 ^ 31 - 1` keys.
-/

namespace Schengen.Tables
open Library Schengen.Random

/-- The conversion of the scaled count to 64 bits is defined, and every key drawn lies between 1 and
the count. -/
structure KeysInRange (sampler : IntSampler)
    (guard : RandomBoundedLong → RandomBoundedLong.StreamOp → Prop) (count : Nat) (sf : ScaleFactor)
    (stream : RandomBoundedLong) : Prop where
  conversion : scaled count sf < 2 ^ 63
  values : RandomBoundedLong.ValuesIn sampler guard stream (scaled count sf)

/-- The largest keys that both generators can draw up to: below scale factor 30000 those that are
positive as 32 bits, or so large that their 32 bits are positive, 0 or -1 again; above it the powers
of two. -/
def KeysDrawable (sf : ScaleFactor) (maxKey : Int) : Prop :=
  if 30000 ≤ sf.value then maxKey < 2 ^ 63 ∧ maxKey ∣ 2 ^ 63
  else maxKey ≤ 2147483647 ∨ 4294967295 ≤ maxKey

lemma toInt32_ge_iff {x : Int} (hlo : 1 ≤ x) (hhi : x < 6442450944) :
    -1 ≤ toInt32 x ↔ x ≤ 2147483647 ∨ 4294967295 ≤ x := by
  have hspec := toInt32_spec x
  omega

variable (draw : RangeDraw) {guard : RandomBoundedLong → RandomBoundedLong.StreamOp → Prop} {sf : ScaleFactor}

/-- A stream of keys from 1 to the scaled count. -/
lemma keysInRange_iff {count k : Nat} {seed : Int} (hk : 1 ≤ k)
    (hseed : 0 ≤ seed ∧ seed < RowRandomInt.kModulus)
    (hlarge : ∃ n, 1073741824 ≤ RowRandomInt.nextSeed^[n + 1] seed)
    (hguard : ∀ s op, RandomBoundedLong.WithinBudget s op → guard s op) (hcount : count ≤ 200000)
    (hmin : 1 ≤ scaled count sf) :
    KeysInRange draw.sampler guard count sf (.new seed (30000 ≤ sf.value) 1 (scaled count sf) k) ↔
      KeysDrawable sf (scaled count sf) := by
  unfold KeysDrawable
  by_cases hwide : 30000 ≤ sf.value
  · have hseeds : seed ∈ RowRandomLong.seeds := by
      unfold RowRandomInt.kModulus at hseed
      exact RowRandomLong.mem_seeds.mpr ⟨by omega, by omega⟩
    rw [if_pos hwide, decide_eq_true hwide]
    constructor
    · rintro ⟨hconversion, hvalues⟩
      exact ⟨hconversion, (RandomBoundedLong.valuesIn_wide_iff hk hmin hconversion hseeds
        hguard).mp hvalues⟩
    · rintro ⟨hconversion, hdvd⟩
      exact ⟨hconversion, (RandomBoundedLong.valuesIn_wide_iff hk hmin hconversion hseeds
        hguard).mpr hdvd⟩
  · have hsmall : scaled count sf < 6442450944 := by
      have hcount' : (count : ℚ) ≤ 200000 := by exact_mod_cast hcount
      have hproduct : (count : ℚ) * 30000 ≤ (6000000000 : Nat) := by
        push_cast
        linarith
      exact (scaled_lt (not_le.mp hwide).le hproduct (by norm_num)).trans (by norm_num)
    rw [if_neg hwide, decide_eq_false hwide, ← toInt32_ge_iff hmin hsmall,
      ← RandomBoundedLong.valuesIn_narrow_iff draw hk hmin hseed hguard hlarge]
    exact ⟨KeysInRange.values, fun hvalues => ⟨by omega, hvalues⟩⟩

/-- When the part keys of the line items and the customer keys of the orders are in range. -/
theorem foreignKeys_iff (textPool : TextPool) (sf : ScaleFactor)
    (hguard : ∀ s op, RandomBoundedLong.WithinBudget s op → guard s op) :
    (1 ≤ scaled kPart.rowsAtSf1 sf →
      (KeysInRange draw.sampler guard kPart.rowsAtSf1 sf (LineitemStreams.createPartKeyRandom sf) ↔
        KeysDrawable sf (scaled kPart.rowsAtSf1 sf))) ∧
    (1 ≤ scaled kCustomer.rowsAtSf1 sf →
      (KeysInRange draw.sampler guard kCustomer.rowsAtSf1 sf
          (OrderStreams.new sf textPool).customerKeyRandom ↔
        KeysDrawable sf (scaled kCustomer.rowsAtSf1 sf))) := by
  constructor
  · intro hmin
    have hstream : LineitemStreams.createPartKeyRandom sf = .new LineitemStreams.kLinePartKeySeed
        (30000 ≤ sf.value) 1 (scaled kPart.rowsAtSf1 sf) LineitemStreams.kLineCountMax := by
      unfold LineitemStreams.createPartKeyRandom
      dsimp only
      rw [if_neg (not_lt.mpr hmin)]
      rfl
    rw [hstream]
    exact keysInRange_iff draw (by decide) (by decide) ⟨0, by decide⟩ hguard (by decide) hmin
  · intro hmin
    have hstream : (OrderStreams.new sf textPool).customerKeyRandom =
        .new OrderStreams.kCustomerKeySeed (30000 ≤ sf.value) 1 (scaled kCustomer.rowsAtSf1 sf) 1 := by
      unfold OrderStreams.new OrderStreams.maxCustomerKeyOf
      dsimp only
      rw [if_neg (not_lt.mpr hmin)]
    rw [hstream]
    exact keysInRange_iff draw (by decide) (by decide) ⟨1, by decide⟩ hguard (by decide) hmin

theorem foreignKeys_iff_one :
    (1 ≤ scaled kPart.rowsAtSf1 1 →
      (KeysInRange RangeDraw.exact.sampler RandomBoundedLong.WithinBudget kPart.rowsAtSf1 1
          (LineitemStreams.createPartKeyRandom 1) ↔
        KeysDrawable 1 (scaled kPart.rowsAtSf1 1))) ∧
    (1 ≤ scaled kCustomer.rowsAtSf1 1 →
      (KeysInRange RangeDraw.exact.sampler RandomBoundedLong.WithinBudget kCustomer.rowsAtSf1 1
          (OrderStreams.new 1 ⟨[]⟩).customerKeyRandom ↔
        KeysDrawable 1 (scaled kCustomer.rowsAtSf1 1))) :=
  foreignKeys_iff RangeDraw.exact ⟨[]⟩ 1 fun _ _ h => h

lemma scaled_kPart_20000 : scaled kPart.rowsAtSf1 20000 = 4000000000 := by decide +kernel

lemma createPartKeyRandom_20000 : LineitemStreams.createPartKeyRandom 20000 =
    .new LineitemStreams.kLinePartKeySeed false 1 4000000000 LineitemStreams.kLineCountMax := by
  have hnarrow : decide (30000 ≤ ScaleFactor.value 20000) = false := by decide +kernel
  unfold LineitemStreams.createPartKeyRandom
  rw [scaled_kPart_20000, hnarrow]
  rfl

/-- At scale factor 20000 the bound of the part keys is negative as 32 bits, and so is the first
key. -/
theorem partKey_negative :
    1 ≤ scaled kPart.rowsAtSf1 20000 ∧
      ((LineitemStreams.createPartKeyRandom 20000).nextValue RangeDraw.exact.sampler).1 = -228878905 ∧
      ¬ KeysInRange RangeDraw.exact.sampler RandomBoundedLong.WithinBudget kPart.rowsAtSf1 20000
        (LineitemStreams.createPartKeyRandom 20000) := by
  have hfirst : ((LineitemStreams.createPartKeyRandom 20000).nextValue
      RangeDraw.exact.sampler).1 = -228878905 := by
    rw [createPartKeyRandom_20000]
    decide +kernel
  refine ⟨by rw [scaled_kPart_20000]; decide, hfirst, fun h => ?_⟩
  have hbudget : RandomBoundedLong.WithinBudget (LineitemStreams.createPartKeyRandom 20000)
      .nextValue := by
    rw [createPartKeyRandom_20000]
    change 0 < LineitemStreams.kLineCountMax
    decide
  have hmem := (h.values [] _ trivial rfl hbudget).1
  omega

end Schengen.Tables
