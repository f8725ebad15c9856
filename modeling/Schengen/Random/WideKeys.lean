import Schengen.Library.FullCycle
import Schengen.Random.RowRandomLong
import Mathlib.Order.Interval.Finset.Defs
import Mathlib.Data.Int.Interval

/-!
# Drawing and skipping in the 64-bit mode

Drawing steps the seed with a linear congruential generator of full cycle, skipping with the
Lehmer generator. So rows that were drawn and rows that were skipped lead to the same next
values only where the seeds do not matter.
-/

namespace Schengen.Random
open Library Function

lemma toInt64_spec (x : Int) :
    (2 : Int) ^ 64 ∣ x - toInt64 x ∧ -2 ^ 63 ≤ toInt64 x ∧ toInt64 x < 2 ^ 63 := by
  refine ⟨Int.dvd_self_sub_bmod, ?_, ?_⟩
  · exact Int.le_bmod (by decide)
  · exact Int.bmod_lt (by decide)

lemma toInt64_eq {x : Int} (hlo : -2 ^ 63 ≤ x) (hhi : x < 2 ^ 63) : toInt64 x = x :=
  Int.bmod_eq_of_le (by omega) (by omega)

lemma toInt64_congr {x y : Int} (h : (2 : Int) ^ 64 ∣ x - y) : toInt64 x = toInt64 y := by
  have hx := toInt64_spec x
  have hy := toInt64_spec y
  omega

lemma dvd_of_toInt64_eq {x y : Int} (h : toInt64 x = toInt64 y) : (2 : Int) ^ 64 ∣ x - y := by
  have hx := toInt64_spec x
  have hy := toInt64_spec y
  omega

namespace RowRandomLong

/-- The seeds: all values of 64 bits. -/
def seeds : Finset Int := (Finset.range (2 ^ 64)).image fun n : Nat => (n : Int) - 2 ^ 63

lemma mem_seeds {x : Int} : x ∈ seeds ↔ -2 ^ 63 ≤ x ∧ x < 2 ^ 63 := by
  unfold seeds
  rw [Finset.mem_image]
  constructor
  · rintro ⟨n, hn, rfl⟩
    have := Finset.mem_range.mp hn
    omega
  · intro h
    exact ⟨(x + 2 ^ 63).toNat, Finset.mem_range.mpr (by omega), by omega⟩

lemma card_seeds : seeds.card = 2 ^ 64 := by
  unfold seeds
  rw [Finset.card_image_of_injective, Finset.card_range]
  intro m n h
  have hsub : (m : Int) - 2 ^ 63 = (n : Int) - 2 ^ 63 := h
  omega

lemma zero_mem_seeds : 0 ∈ seeds := mem_seeds.mpr (by decide)

lemma nextSeed_mem (x : Int) : nextSeed x ∈ seeds :=
  mem_seeds.mpr (toInt64_spec (x * kMultiplier + kIncrement)).2

/-- The multiplier and the increment of two applications of an affine map. -/
def affineTwice (p : Int × Int) : Int × Int :=
  (p.1 * p.1 % 2 ^ 64, (p.1 * p.2 + p.2) % 2 ^ 64)

lemma toInt64_affineTwice (p : Int × Int) (x : Int) :
    toInt64 (p.1 * toInt64 (p.1 * x + p.2) + p.2) =
      toInt64 ((affineTwice p).1 * x + (affineTwice p).2) := by
  obtain ⟨q, hq⟩ := (toInt64_spec (p.1 * x + p.2)).1
  have h1 : (2 : Int) ^ 64 ∣ p.1 * p.1 - (affineTwice p).1 := Int.dvd_self_sub_emod
  have h2 : (2 : Int) ^ 64 ∣ p.1 * p.2 + p.2 - (affineTwice p).2 := Int.dvd_self_sub_emod
  refine toInt64_congr ?_
  have hsplit : p.1 * toInt64 (p.1 * x + p.2) + p.2 -
      ((affineTwice p).1 * x + (affineTwice p).2) =
        (p.1 * p.1 - (affineTwice p).1) * x + (p.1 * p.2 + p.2 - (affineTwice p).2) +
          2 ^ 64 * (-(p.1 * q)) := by
    have hvalue : toInt64 (p.1 * x + p.2) = p.1 * x + p.2 - 2 ^ 64 * q := by omega
    rw [hvalue]
    ring
  rw [hsplit]
  exact Int.dvd_add (Int.dvd_add (Dvd.dvd.mul_right h1 x) h2) (Int.dvd_mul_right _ _)

/-- `2 ^ k` draws are one affine map. -/
lemma nextSeed_iterate_two_pow (k : Nat) {x : Int} :
    nextSeed^[2 ^ k] x = toInt64 ((affineTwice^[k] (kMultiplier, kIncrement)).1 * x +
      (affineTwice^[k] (kMultiplier, kIncrement)).2) := by
  induction k generalizing x with
  | zero =>
    change nextSeed x = _
    rw [nextSeed, mul_comm]
    rfl
  | succ k ih =>
    rw [pow_succ, mul_comm, Nat.two_mul, iterate_add_apply, ih, ih, toInt64_affineTwice,
      iterate_succ_apply']

lemma affineTwice_iterate_half : affineTwice^[63] (kMultiplier, kIncrement) = (1, 2 ^ 63) := by
  decide +kernel

lemma affineTwice_iterate_full : affineTwice^[64] (kMultiplier, kIncrement) = (1, 0) := by
  decide +kernel

lemma nextSeed_iterate_half (x : Int) : nextSeed^[2 ^ 63] x = toInt64 (x + 2 ^ 63) := by
  rw [nextSeed_iterate_two_pow, affineTwice_iterate_half, one_mul]

/-- The draws go through all seeds. -/
lemma fullCycle_nextSeed : FullCycle nextSeed seeds 63 where
  maps x _ := nextSeed_mem x
  card := card_seeds
  period x hx := by
    rw [nextSeed_iterate_two_pow, affineTwice_iterate_full, one_mul, add_zero]
    exact toInt64_eq (mem_seeds.mp hx).1 (mem_seeds.mp hx).2
  moves x hx := by
    rw [nextSeed_iterate_half]
    have hspec := toInt64_spec (x + 2 ^ 63)
    have hmem := mem_seeds.mp hx
    omega

/-- What a seed contributes to a value: `llabs(seed) % range`. -/
def offsetOf (range seed : Int) : Int := (toInt64 seed.natAbs).tmod range

lemma valueOf_eq (lo hi seed : Int) :
    valueOf lo hi seed = toInt64 (lo + offsetOf (toInt64 (hi - lo + 1)) seed) := rfl

lemma natAbs_offsetOf_le (range seed : Int) :
    (offsetOf range seed).natAbs ≤ (toInt64 seed.natAbs).natAbs := by
  unfold offsetOf
  rw [Int.natAbs_tmod]
  exact Nat.mod_le _ _

/-- Two seeds give the same value exactly if they contribute the same. -/
lemma offsetOf_eq_of_valueOf_eq {lo hi x y : Int}
    (h : valueOf lo hi x = valueOf lo hi y)
    (hy : (toInt64 y.natAbs).natAbs < 2 ^ 63) :
    offsetOf (toInt64 (hi - lo + 1)) x = offsetOf (toInt64 (hi - lo + 1)) y := by
  rw [valueOf_eq, valueOf_eq] at h
  have hdvd := dvd_of_toInt64_eq h
  have hx' := natAbs_offsetOf_le (toInt64 (hi - lo + 1)) x
  have hy' := natAbs_offsetOf_le (toInt64 (hi - lo + 1)) y
  have hspec := (toInt64_spec x.natAbs).2
  generalize toInt64 x.natAbs = u at hx' hspec
  generalize toInt64 y.natAbs = v at hy' hy
  generalize offsetOf (toInt64 (hi - lo + 1)) x = a at *
  generalize offsetOf (toInt64 (hi - lo + 1)) y = b at *
  omega

lemma toInt64_natAbs {x : Int} (hx : x ∈ seeds) (hne : x ≠ -2 ^ 63) :
    toInt64 x.natAbs = x.natAbs := by
  have hmem := mem_seeds.mp hx
  exact toInt64_eq (by omega) (by omega)

/-- All values from the next one on are the same. -/
def SameValues (lo hi a b : Int) : Prop :=
  ∀ n, valueOf lo hi (nextSeed^[n + 1] a) = valueOf lo hi (nextSeed^[n + 1] b)

lemma valueOf_of_range_one {lo hi : Int}
    (hrange : toInt64 (hi - lo + 1) = 1 ∨ toInt64 (hi - lo + 1) = -1) (x : Int) :
    valueOf lo hi x = toInt64 lo := by
  rw [valueOf_eq]
  unfold offsetOf
  rcases hrange with hrange | hrange
  · rw [hrange, Int.tmod_one, add_zero]
  · rw [hrange, Int.tmod_neg, Int.tmod_one, add_zero]

/-- If two different seeds lead to the same values, the range has one or two values. -/
lemma range_dvd_two {lo hi a b : Int} (ha : a ∈ seeds) (hb : b ∈ seeds) (hne : a ≠ b)
    (h : SameValues lo hi a b) : toInt64 (hi - lo + 1) ∣ 2 := by
  have hopposite : ∀ {z}, z ∈ seeds → valueOf lo hi z = valueOf lo hi (toInt64 (z + 2 ^ 63)) := by
    intro z hz
    rw [← nextSeed_iterate_half]
    exact fullCycle_nextSeed.eq_opposite ha hb hne h hz
  have hzero : offsetOf (toInt64 (hi - lo + 1)) (toInt64 (0 + 2 ^ 63)) =
      offsetOf (toInt64 (hi - lo + 1)) 0 :=
    offsetOf_eq_of_valueOf_eq (hopposite (mem_seeds.mpr (by decide))).symm (by decide)
  have hone : offsetOf (toInt64 (hi - lo + 1)) 1 =
      offsetOf (toInt64 (hi - lo + 1)) (toInt64 (1 + 2 ^ 63)) :=
    offsetOf_eq_of_valueOf_eq (hopposite (mem_seeds.mpr (by decide))) (by decide)
  generalize toInt64 (hi - lo + 1) = range at hzero hone
  have hlow : toInt64 (toInt64 (0 + 2 ^ 63)).natAbs = -2 ^ 63 := by decide +kernel
  have hhigh : toInt64 (toInt64 (1 + 2 ^ 63)).natAbs = 2 ^ 63 - 1 := by decide +kernel
  have hnil : toInt64 (0 : Int).natAbs = 0 := by decide +kernel
  have hunit : toInt64 (1 : Int).natAbs = 1 := by decide +kernel
  unfold offsetOf at hzero hone
  rw [hlow, hnil, Int.zero_tmod] at hzero
  rw [hhigh, hunit, Int.tmod_eq_emod_of_nonneg (by decide),
    Int.tmod_eq_emod_of_nonneg (by decide)] at hone
  have hlast : range ∣ -2 ^ 63 := Int.dvd_of_tmod_eq_zero hzero
  have hnext : range ∣ 1 - (2 ^ 63 - 1) :=
    Int.dvd_of_emod_eq_zero (Int.emod_eq_emod_iff_emod_sub_eq_zero.mp hone)
  exact Int.dvd_sub hnext hlast

lemma parity_nextSeed (x : Int) : nextSeed x % 2 = (x + 1) % 2 := by
  have hspec := (toInt64_spec (x * kMultiplier + kIncrement)).1
  change toInt64 (x * kMultiplier + kIncrement) % 2 = _
  unfold kMultiplier kIncrement at hspec ⊢
  omega

lemma parity_iterate (x : Int) (n : Nat) : nextSeed^[n] x % 2 = (x + n) % 2 := by
  induction n with
  | zero => simp
  | succ n ih =>
    rw [iterate_succ_apply', parity_nextSeed]
    push_cast
    omega

/-- With two values to choose from, the parity of the seed decides. -/
lemma offsetOf_two {range x : Int} (hrange : range = 2 ∨ range = -2) (hx : x ∈ seeds) :
    offsetOf range x = x % 2 := by
  have htwo : offsetOf range x = (toInt64 x.natAbs).tmod 2 := by
    rcases hrange with rfl | rfl
    · rfl
    · exact Int.tmod_neg _ _
  rw [htwo]
  by_cases hlow : x = -2 ^ 63
  · subst hlow
    decide +kernel
  · rw [toInt64_natAbs hx hlow, Int.tmod_eq_emod_of_nonneg (Int.natCast_nonneg _)]
    omega

/-- Exactly when two seeds lead to the same values. -/
theorem sameValues_iff {lo hi a b : Int} (ha : a ∈ seeds) (hb : b ∈ seeds) :
    SameValues lo hi a b ↔
      (toInt64 (hi - lo + 1) = 1 ∨ toInt64 (hi - lo + 1) = -1) ∨
      ((toInt64 (hi - lo + 1) = 2 ∨ toInt64 (hi - lo + 1) = -2) ∧ a % 2 = b % 2) ∨ a = b := by
  constructor
  · intro h
    by_cases hne : a = b
    · exact Or.inr (Or.inr hne)
    · have hdvd := range_dvd_two ha hb hne h
      have hle := Int.natAbs_le_of_dvd_ne_zero hdvd (by decide)
      have hnz : toInt64 (hi - lo + 1) ≠ 0 := by
        intro hzero
        rw [hzero] at hdvd
        exact absurd hdvd (by decide)
      have hcases : (toInt64 (hi - lo + 1) = 1 ∨ toInt64 (hi - lo + 1) = -1) ∨
          (toInt64 (hi - lo + 1) = 2 ∨ toInt64 (hi - lo + 1) = -2) := by
        omega
      refine hcases.imp id fun htwo => Or.inl ⟨htwo, ?_⟩
      have hfirst := h 0
      rw [valueOf_eq, valueOf_eq, iterate_one, offsetOf_two htwo (nextSeed_mem a),
        offsetOf_two htwo (nextSeed_mem b), parity_nextSeed, parity_nextSeed] at hfirst
      have := dvd_of_toInt64_eq hfirst
      omega
  · rintro (hone | ⟨htwo, hparity⟩ | rfl) n
    · rw [valueOf_of_range_one hone, valueOf_of_range_one hone]
    · have hsame : nextSeed^[n + 1] a % 2 = nextSeed^[n + 1] b % 2 := by
        rw [parity_iterate, parity_iterate]
        omega
      rw [valueOf_eq, valueOf_eq, offsetOf_two htwo (fullCycle_nextSeed.iterate_mem ha _),
        offsetOf_two htwo (fullCycle_nextSeed.iterate_mem hb _), hsame]
    · rfl

/-! ## Rows -/

lemma nextRand_iterate (g : RowRandomLong) (n : Nat) :
    nextRand^[n] g = ⟨nextSeed^[n] g.seed, g.usage + n, g.seedsPerRow⟩ := by
  induction n with
  | zero => rfl
  | succ n ih =>
    rw [iterate_succ_apply', iterate_succ_apply', ih]
    rfl

/-- A seed whose products with a multiplier do not wrap. -/
def Narrow (seed : Int) : Prop := -2 ^ 32 ≤ seed ∧ seed ≤ 2 ^ 32

lemma multiplySeed_eq {multiplier seed : Int} (hm : 0 ≤ multiplier ∧ multiplier < kModulus32)
    (hs : Narrow seed) : multiplySeed multiplier seed = (multiplier * seed).tmod kModulus32 := by
  obtain ⟨hm, hm'⟩ := hm
  obtain ⟨hs, hs'⟩ := hs
  unfold kModulus32 at hm'
  have hhi : multiplier * seed ≤ 2147483647 * 2 ^ 32 := by
    calc multiplier * seed ≤ multiplier * 2 ^ 32 := mul_le_mul_of_nonneg_left hs' hm
      _ ≤ 2147483647 * 2 ^ 32 := mul_le_mul_of_nonneg_right hm'.le (by decide)
  have hlo : -(2147483647 * 2 ^ 32) ≤ multiplier * seed := by
    calc -(2147483647 * 2 ^ 32) ≤ -(multiplier * 2 ^ 32) :=
          neg_le_neg (mul_le_mul_of_nonneg_right hm'.le (by decide))
      _ = multiplier * -2 ^ 32 := by ring
      _ ≤ multiplier * seed := mul_le_mul_of_nonneg_left hs hm
  unfold multiplySeed
  rw [toInt64_eq (by omega) (by omega)]

lemma squareMultiplier_eq {multiplier : Int} (hm : 0 ≤ multiplier ∧ multiplier < kModulus32) :
    squareMultiplier multiplier = (multiplier * multiplier).tmod kModulus32 := by
  unfold kModulus32 at hm
  have hlo : 0 ≤ multiplier * multiplier := mul_nonneg hm.1 hm.1
  have hhi : multiplier * multiplier ≤ 2147483647 * 2147483647 :=
    mul_le_mul hm.2.le hm.2.le hm.1 (by decide)
  unfold squareMultiplier
  rw [toInt64_eq (by omega) (by omega)]

lemma narrow_multiplySeed {multiplier seed : Int} (hm : 0 ≤ multiplier ∧ multiplier < kModulus32)
    (hs : Narrow seed) : Narrow (multiplySeed multiplier seed) := by
  rw [multiplySeed_eq hm hs]
  have habs := Int.natAbs_tmod (multiplier * seed) kModulus32
  have hlt := Nat.mod_lt (multiplier * seed).natAbs (by decide : kModulus32.natAbs > 0)
  rw [← habs] at hlt
  unfold kModulus32 at hlt
  unfold Narrow kModulus32
  omega

lemma squareMultiplier_mem {multiplier : Int} (hm : 0 ≤ multiplier ∧ multiplier < kModulus32) :
    0 ≤ squareMultiplier multiplier ∧ squareMultiplier multiplier < kModulus32 := by
  rw [squareMultiplier_eq hm]
  exact ⟨Int.tmod_nonneg _ (mul_nonneg hm.1 hm.1), Int.tmod_lt_of_pos _ (by decide)⟩

lemma multiplySeed_squareMultiplier {multiplier seed : Int}
    (hm : 0 ≤ multiplier ∧ multiplier < kModulus32) (hs : Narrow seed) :
    multiplySeed (squareMultiplier multiplier) seed =
      multiplySeed multiplier (multiplySeed multiplier seed) := by
  rw [multiplySeed_eq (squareMultiplier_mem hm) hs, multiplySeed_eq hm (narrow_multiplySeed hm hs),
    multiplySeed_eq hm hs, squareMultiplier_eq hm, Int.mul_tmod, Int.tmod_tmod, ← Int.mul_tmod,
    mul_assoc, Int.mul_tmod multiplier (multiplier * seed),
    Int.mul_tmod multiplier ((multiplier * seed).tmod kModulus32), Int.tmod_tmod]

/-- From a narrow seed on, skipping is one 32-bit step for every seed skipped. -/
lemma advanceSeed32_eq (g : RowRandomLong) (hs : Narrow g.seed) (count : Nat) :
    g.advanceSeed32 count = { g with seed := (multiplySeed kMultiplier32)^[count] g.seed } := by
  have hm : 0 ≤ kMultiplier32 ∧ kMultiplier32 < kModulus32 := by decide
  have hloop := squareMultiply_eq_iterate (P := fun m => 0 ≤ m ∧ m < kModulus32) (Q := Narrow)
    (fun _ => squareMultiplier_mem) (fun _ _ => narrow_multiplySeed)
    (fun _ _ => multiplySeed_squareMultiplier) hm hs count
  rw [advanceSeed32, hloop]

/-- Skipping whole rows from the start of a row. -/
lemma advanceRows_eq {seed : Int} (hs : Narrow seed) (k n : Nat) :
    (new seed k).advanceRows n = ⟨(multiplySeed kMultiplier32)^[k * n] seed, 0, k⟩ := by
  unfold advanceRows
  have hfresh : ¬ (new seed k).usage ≠ 0 := not_not_intro rfl
  simp only [hfresh, if_false]
  by_cases hpos : 0 < (new seed k).seedsPerRow * n
  · rw [if_pos hpos, advanceSeed32_eq _ hs]
    rfl
  · have hzero : k * n = 0 := by
      change ¬ 0 < k * n at hpos
      omega
    rw [if_neg hpos, hzero]
    rfl

/-- A row that draws all of its budget. -/
lemma rowFinished_full (seed : Int) (k : Nat) :
    (nextRand^[k] (new seed k)).rowFinished = new (nextSeed^[k] seed) k := by
  rw [nextRand_iterate]
  unfold rowFinished new
  simp

/-- A row that draws nothing. -/
lemma rowFinished_idle {seed : Int} (hs : Narrow seed) (k : Nat) :
    (new seed k).rowFinished = new ((multiplySeed kMultiplier32)^[k] seed) k := by
  unfold rowFinished
  by_cases hpos : (new seed k).usage < (new seed k).seedsPerRow
  · rw [if_pos hpos, advanceSeed32_eq _ hs]
    rfl
  · have hzero : k = 0 := by
      change ¬ 0 < k at hpos
      omega
    subst hzero
    rw [if_neg hpos]
    rfl

lemma narrow_iterate {seed : Int} (hs : Narrow seed) (n : Nat) :
    Narrow ((multiplySeed kMultiplier32)^[n] seed) := by
  induction n with
  | zero => exact hs
  | succ n ih =>
    rw [iterate_succ_apply']
    exact narrow_multiplySeed (by decide) ih

/-- The multiples of the modulus are skipped to zero. -/
lemma multiplySeed_iterate_eq_zero {seed : Int} (h : seed = 0 ∨ seed = kModulus32) {n : Nat}
    (hn : 1 ≤ n) : (multiplySeed kMultiplier32)^[n] seed = 0 := by
  obtain ⟨m, rfl⟩ : ∃ m, n = m + 1 := ⟨n - 1, by omega⟩
  have hfirst : multiplySeed kMultiplier32 seed = 0 := by
    rcases h with rfl | rfl <;> decide
  rw [iterate_succ_apply, hfirst]
  exact iterate_fixed (by decide) m

end RowRandomLong

namespace RandomBoundedLong

def drawValue (sampler : IntSampler) (s : RandomBoundedLong) : RandomBoundedLong :=
  (nextValue sampler s).2

/-- A row with `count` draws. -/
def drawRow (sampler : IntSampler) (s : RandomBoundedLong) (count : Nat) : RandomBoundedLong :=
  ((drawValue sampler)^[count] s).rowFinished

def drawRows (sampler : IntSampler) (s : RandomBoundedLong) (counts : List Nat) :
    RandomBoundedLong :=
  counts.foldl (drawRow sampler) s

/-- All values from the next one on are the same. -/
def SameNextValues (sampler : IntSampler) (s t : RandomBoundedLong) : Prop :=
  ∀ n, (nextValue sampler ((drawValue sampler)^[n] s)).1 =
    (nextValue sampler ((drawValue sampler)^[n] t)).1

/-- A stream of the 64-bit generator. -/
def wide (lo hi : Int) (inner : RowRandomLong) (narrow : RowRandomInt) : RandomBoundedLong :=
  ⟨true, lo, hi, inner, narrow⟩

variable (sampler : IntSampler) (lo hi : Int) (narrow : RowRandomInt)

lemma drawValue_iterate (inner : RowRandomLong) (n : Nat) :
    (drawValue sampler)^[n] (wide lo hi inner narrow) =
      wide lo hi (RowRandomLong.nextRand^[n] inner) narrow := by
  induction n generalizing inner with
  | zero => rfl
  | succ n ih => exact ih inner.nextRand

lemma sameNextValues_iff (inner inner' : RowRandomLong) :
    SameNextValues sampler (wide lo hi inner narrow) (wide lo hi inner' narrow) ↔
      RowRandomLong.SameValues lo hi inner.seed inner'.seed := by
  have hvalue : ∀ (g : RowRandomLong) n,
      (nextValue sampler ((drawValue sampler)^[n] (wide lo hi g narrow))).1 =
        RowRandomLong.valueOf lo hi (RowRandomLong.nextSeed^[n + 1] g.seed) := by
    intro g n
    rw [drawValue_iterate, RowRandomLong.nextRand_iterate, iterate_succ_apply']
    rfl
  unfold SameNextValues RowRandomLong.SameValues
  simp only [hvalue]

lemma drawRow_wide (inner : RowRandomLong) (count : Nat) :
    drawRow sampler (wide lo hi inner narrow) count =
      wide lo hi (RowRandomLong.nextRand^[count] inner).rowFinished narrow := by
  unfold drawRow
  rw [drawValue_iterate]
  rfl

lemma drawRows_wide (inner : RowRandomLong) (counts : List Nat) :
    drawRows sampler (wide lo hi inner narrow) counts =
      wide lo hi (counts.foldl (fun g u => (RowRandomLong.nextRand^[u] g).rowFinished) inner)
        narrow := by
  unfold drawRows
  induction counts generalizing inner with
  | nil => rfl
  | cons count counts ih => rw [List.foldl_cons, drawRow_wide, ih, List.foldl_cons]

lemma advanceRows_wide (inner : RowRandomLong) (n : Nat) :
    (wide lo hi inner narrow).advanceRows n = wide lo hi (inner.advanceRows n) narrow := rfl

/-- Drawing and skipping one and the same rows of a stream of the 64-bit generator lead to
the same next values. -/
def SkipsAsDrawn (lo hi : Int) (k : Nat) (seed : Int) (counts : List Nat) : Prop :=
  SameNextValues sampler (drawRows sampler (new seed true lo hi k) counts)
    ((new seed true lo hi k).advanceRows counts.length)

lemma skipsAsDrawn_iff {k : Nat} {seed : Int} {counts : List Nat} :
    SkipsAsDrawn sampler lo hi k seed counts ↔ RowRandomLong.SameValues lo hi
      (counts.foldl (fun g u => (RowRandomLong.nextRand^[u] g).rowFinished)
        (RowRandomLong.new seed k)).seed
      ((RowRandomLong.new seed k).advanceRows counts.length).seed := by
  change SameNextValues sampler
    (drawRows sampler (wide lo hi (RowRandomLong.new seed k) (RowRandomInt.new seed k)) counts)
    ((wide lo hi (RowRandomLong.new seed k) (RowRandomInt.new seed k)).advanceRows counts.length) ↔ _
  rw [drawRows_wide, advanceRows_wide, sameNextValues_iff]

lemma foldl_idle {seed : Int} (hs : RowRandomLong.Narrow seed) (k n : Nat) :
    (List.replicate n 0).foldl (fun g u => (RowRandomLong.nextRand^[u] g).rowFinished)
        (RowRandomLong.new seed k) =
      RowRandomLong.new ((RowRandomLong.multiplySeed RowRandomLong.kMultiplier32)^[k * n] seed) k := by
  induction n with
  | zero => rfl
  | succ n ih =>
    rw [List.replicate_succ', List.foldl_append, ih, List.foldl_cons, List.foldl_nil, iterate_zero,
      id_eq, RowRandomLong.rowFinished_idle (RowRandomLong.narrow_iterate hs _),
      ← iterate_add_apply, Nat.mul_succ, Nat.add_comm]

/-- Rows without draws can be skipped. -/
lemma skipsAsDrawn_idle {k : Nat} {seed : Int} (hs : RowRandomLong.Narrow seed) (n : Nat) :
    SkipsAsDrawn sampler lo hi k seed (List.replicate n 0) := by
  rw [skipsAsDrawn_iff, foldl_idle hs, List.length_replicate, RowRandomLong.advanceRows_eq hs]
  exact fun _ => rfl

/-- A column that can be skipped from every seed has a single value, where the number of its
values is taken in 64 bits. -/
lemma skipsAsDrawn_forall_iff {k : Nat} (hk : 1 ≤ k) (hlo : -2 ^ 63 ≤ lo) (hle : lo ≤ hi)
    (hhi : hi < 2 ^ 63) :
    (∀ seed counts, -2 ^ 63 ≤ seed → seed < 2 ^ 63 → (∀ u ∈ counts, u ≤ k) →
      SkipsAsDrawn sampler lo hi k seed counts) ↔ lo = hi ∨ hi - lo = 2 ^ 64 - 2 := by
  have hrange : (lo = hi ∨ hi - lo = 2 ^ 64 - 2) ↔
      (toInt64 (hi - lo + 1) = 1 ∨ toInt64 (hi - lo + 1) = -1) := by
    have hspec := toInt64_spec (hi - lo + 1)
    omega
  rw [hrange]
  constructor
  · intro h
    by_contra hmany
    -- a row that draws its whole budget, from two seeds that are skipped to zero
    have hparity : ∀ seed, seed = 0 ∨ seed = RowRandomLong.kModulus32 → (seed + k) % 2 = 0 := by
      intro seed hseed
      have hnarrow : RowRandomLong.Narrow seed := by
        unfold RowRandomLong.Narrow
        rcases hseed with rfl | rfl <;> decide
      have hsame := (skipsAsDrawn_iff sampler lo hi).mp
        (h seed [k] (by have := hnarrow.1; omega) (by have := hnarrow.2; omega) (by simp))
      rw [List.foldl_cons, List.foldl_nil, RowRandomLong.rowFinished_full, List.length_singleton,
        RowRandomLong.advanceRows_eq hnarrow, Nat.mul_one,
        RowRandomLong.multiplySeed_iterate_eq_zero hseed hk] at hsame
      have hmem : RowRandomLong.nextSeed^[k] seed ∈ RowRandomLong.seeds :=
        RowRandomLong.fullCycle_nextSeed.iterate_mem (RowRandomLong.mem_seeds.mpr
          ⟨by have := hnarrow.1; omega, by have := hnarrow.2; omega⟩) k
      rw [← RowRandomLong.parity_iterate seed k]
      rcases (RowRandomLong.sameValues_iff hmem RowRandomLong.zero_mem_seeds).mp hsame with
        hone | ⟨-, htwo⟩ | hzero
      · exact absurd hone hmany
      · exact htwo
      · exact congrArg (· % 2) hzero
    have heven := hparity 0 (Or.inl rfl)
    have hodd := hparity RowRandomLong.kModulus32 (Or.inr rfl)
    unfold RowRandomLong.kModulus32 at hodd
    omega
  · intro hone seed counts _ _ _
    rw [skipsAsDrawn_iff]
    intro n
    rw [RowRandomLong.valueOf_of_range_one hone, RowRandomLong.valueOf_of_range_one hone]

/-- Drawing row after row and skipping row after row cannot stay together: the draws of one
seed return after `2 ^ 64` steps, the skips much earlier. -/
lemma exists_draw_ne_skip {seed : Int} (hs : RowRandomLong.Narrow seed) {k : Nat} (hk : 1 ≤ k)
    (hk' : k < 2 ^ 31) :
    ∃ n, RowRandomLong.nextSeed^[k]
        ((RowRandomLong.multiplySeed RowRandomLong.kMultiplier32)^[k * n] seed) ≠
      (RowRandomLong.multiplySeed RowRandomLong.kMultiplier32)^[k * (n + 1)] seed := by
  by_contra hnone
  push Not at hnone
  have htogether : ∀ n, RowRandomLong.nextSeed^[k * n] seed =
      (RowRandomLong.multiplySeed RowRandomLong.kMultiplier32)^[k * n] seed := by
    intro n
    induction n with
    | zero => rfl
    | succ n ih => rw [← hnone n, ← ih, ← iterate_add_apply, Nat.mul_succ, Nat.add_comm]
  have hseed : seed ∈ RowRandomLong.seeds :=
    RowRandomLong.mem_seeds.mpr ⟨by have := hs.1; omega, by have := hs.2; omega⟩
  have hmaps : ∀ n ∈ Finset.range (2 ^ 33 + 2),
      RowRandomLong.nextSeed^[k * n] seed ∈ Finset.Icc (-2 ^ 32 : Int) (2 ^ 32) := by
    intro n _
    rw [htogether n]
    exact Finset.mem_Icc.mpr (RowRandomLong.narrow_iterate hs _)
  have hcard : (Finset.Icc (-2 ^ 32 : Int) (2 ^ 32)).card < (Finset.range (2 ^ 33 + 2)).card := by
    rw [Int.card_Icc, Finset.card_range]
    decide +kernel
  obtain ⟨i, hi, j, hj, hne, heq⟩ := Finset.exists_ne_map_eq_of_card_lt_of_maps_to hcard hmaps
  have hmem := RowRandomLong.fullCycle_nextSeed.minimalPeriod_eq hseed
  have hbound : ∀ {n}, n ∈ Finset.range (2 ^ 33 + 2) → k * n < 2 ^ (63 + 1) := by
    intro n hn
    calc k * n ≤ (2 ^ 31 - 1) * n := Nat.mul_le_mul_right n (by omega)
      _ < 2 ^ (63 + 1) := by
        have := Finset.mem_range.mp hn
        omega
  have hinj : k * i = k * j := by
    rw [← hmem] at hbound
    exact (iterate_eq_iterate_iff_of_lt_minimalPeriod (hbound hi) (hbound hj)).mp heq
  exact hne (Nat.eq_of_mul_eq_mul_left hk hinj)

/-- From no seed can a column of three values or more be skipped. -/
lemma exists_not_skipsAsDrawn {k : Nat} (hk : 1 ≤ k) (hk' : k < 2 ^ 31)
    (hmany : 1 < hi - lo) (hmany' : hi - lo < 2 ^ 64 - 3) {seed : Int}
    (hs : RowRandomLong.Narrow seed) :
    ∃ counts : List Nat, (∀ u ∈ counts, u ≤ k) ∧ ¬ SkipsAsDrawn sampler lo hi k seed counts := by
  obtain ⟨n, hn⟩ := exists_draw_ne_skip hs hk hk'
  refine ⟨List.replicate n 0 ++ [k], ?_, ?_⟩
  · intro u hu
    rcases List.mem_append.mp hu with hu | hu
    · rw [List.eq_of_mem_replicate hu]
      exact Nat.zero_le k
    · rw [List.mem_singleton.mp hu]
  · rw [skipsAsDrawn_iff, List.foldl_append, foldl_idle hs, List.foldl_cons, List.foldl_nil,
      RowRandomLong.rowFinished_full, List.length_append, List.length_replicate,
      List.length_singleton, RowRandomLong.advanceRows_eq hs]
    have hnarrow := RowRandomLong.narrow_iterate hs
    have hseeds : ∀ m, (RowRandomLong.multiplySeed RowRandomLong.kMultiplier32)^[m] seed ∈
        RowRandomLong.seeds := fun m =>
      RowRandomLong.mem_seeds.mpr ⟨by have := (hnarrow m).1; omega, by have := (hnarrow m).2; omega⟩
    intro hsame
    have hspec := toInt64_spec (hi - lo + 1)
    rcases (RowRandomLong.sameValues_iff (RowRandomLong.fullCycle_nextSeed.iterate_mem (hseeds _) k)
      (hseeds _)).mp hsame with hone | ⟨htwo, -⟩ | heq
    · omega
    · omega
    · exact hn heq

/-- When rows can be skipped in the 64-bit mode: for every seed and all draws, exactly in a
column of one value (counted in 64 bits); from no single seed in a column of three values or
more; always where the rows draw nothing. -/
theorem wide_skip_iff {k : Nat} (hk : 1 ≤ k) (hk' : k < 2 ^ 31) (hlo : -2 ^ 63 ≤ lo) (hle : lo ≤ hi)
    (hhi : hi < 2 ^ 63) :
    ((∀ seed counts, -2 ^ 63 ≤ seed → seed < 2 ^ 63 → (∀ u ∈ counts, u ≤ k) →
        SkipsAsDrawn sampler lo hi k seed counts) ↔ lo = hi ∨ hi - lo = 2 ^ 64 - 2) ∧
      (1 < hi - lo → hi - lo < 2 ^ 64 - 3 → ∀ seed, -2 ^ 32 ≤ seed → seed ≤ 2 ^ 32 →
        ∃ counts : List Nat, (∀ u ∈ counts, u ≤ k) ∧
          ¬ SkipsAsDrawn sampler lo hi k seed counts) ∧
      ∀ seed n, -2 ^ 32 ≤ seed → seed ≤ 2 ^ 32 →
        SkipsAsDrawn sampler lo hi k seed (List.replicate n 0) := by
  refine ⟨skipsAsDrawn_forall_iff sampler lo hi hk hlo hle hhi, ?_, ?_⟩
  · intro hmany hmany' seed hs hs'
    exact exists_not_skipsAsDrawn sampler lo hi hk hk' hmany hmany' ⟨hs, hs'⟩
  · intro seed n hs hs'
    exact skipsAsDrawn_idle sampler lo hi ⟨hs, hs'⟩ n

/-- The part keys of the line items at scale factor 30000. -/
theorem wide_skip_iff_partKey :
    ((∀ seed counts, -2 ^ 63 ≤ seed → seed < 2 ^ 63 → (∀ u ∈ counts, u ≤ 7) →
        SkipsAsDrawn .exact 1 6000000000 7 seed counts) ↔
          (1 : Int) = 6000000000 ∨ (6000000000 : Int) - 1 = 2 ^ 64 - 2) ∧
      ((1 : Int) < 6000000000 - 1 → (6000000000 : Int) - 1 < 2 ^ 64 - 3 →
        ∀ seed, -2 ^ 32 ≤ seed → seed ≤ 2 ^ 32 → ∃ counts : List Nat, (∀ u ∈ counts, u ≤ 7) ∧
          ¬ SkipsAsDrawn .exact 1 6000000000 7 seed counts) ∧
      ∀ seed n, -2 ^ 32 ≤ seed → seed ≤ 2 ^ 32 →
        SkipsAsDrawn .exact 1 6000000000 7 seed (List.replicate n 0) :=
  wide_skip_iff .exact 1 6000000000 (by decide) (by decide) (by decide) (by decide) (by decide)

/-- The customer keys at scale factor 30000: one order read and one order skipped. -/
theorem customerKey_not_skipsAsDrawn : ¬ SkipsAsDrawn .exact 1 4500000000 1 851767375 [1] := by
  rw [skipsAsDrawn_iff, RowRandomLong.advanceRows_eq (by unfold RowRandomLong.Narrow; decide)]
  intro h
  exact absurd (h 0) (by decide +kernel)

end RandomBoundedLong

end Schengen.Random
