import Schengen.Library.Runs
import Schengen.Random.WideKeys

/-!
# Bounded draws over the whole range of scales

`NextInt` with its casts: the bounds are cut to 32 bits, the number of values is formed with wrap
and read as a signed number, and the product in floating point may be negative. The values of a
`RandomBoundedLong` in every state that its operations lead to.
-/

namespace Schengen.Random
open Library Function

/-- `static_cast<int32_t>(seed / kModulus * range)` in floating point, as far as `NextInt` relies on
it: the fraction is below 1, and from one half on if the seed is. -/
structure RangeDraw where
  value : Int → Int → Int
  value_pos : ∀ seed range, 0 ≤ seed → seed < 2147483647 → 0 < range → range ≤ 2147483647 →
    0 ≤ value seed range ∧ value seed range < range
  value_zero : ∀ seed, value seed 0 = 0
  value_neg : ∀ seed range, 0 ≤ seed → seed < 2147483647 → -2147483648 ≤ range → range < 0 →
    range < value seed range ∧ value seed range ≤ 0
  value_half : ∀ seed range, 1073741824 ≤ seed → seed < 2147483647 → -2147483648 ≤ range →
    range ≤ -2 → value seed range ≤ -1

namespace RangeDraw

/-- Exact arithmetic in the place of the floating point. -/
def exact : RangeDraw where
  value seed range := (seed * range).tdiv 2147483647
  value_pos seed range hseed hseed' hrange _ := by
    have hpos : 0 ≤ seed * range := mul_nonneg hseed hrange.le
    have hlt : seed * range < range * 2147483647 := by
      rw [mul_comm range]
      exact mul_lt_mul_of_pos_right hseed' hrange
    rw [Int.tdiv_eq_ediv_of_nonneg hpos]
    exact ⟨Int.ediv_nonneg hpos (by decide), Int.ediv_lt_of_lt_mul (by decide) hlt⟩
  value_zero seed := by rw [mul_zero, Int.zero_tdiv]
  value_neg seed range hseed hseed' _ hrange := by
    have hneg : seed * range = -(seed * -range) := by ring
    have hpos : 0 ≤ seed * -range := mul_nonneg hseed (by omega)
    have hlt : seed * -range < -range * 2147483647 := by
      rw [mul_comm (-range)]
      exact mul_lt_mul_of_pos_right hseed' (by omega)
    rw [hneg, Int.neg_tdiv, Int.tdiv_eq_ediv_of_nonneg hpos]
    have hdiv := Int.ediv_nonneg hpos (show (0 : Int) ≤ 2147483647 by decide)
    have hdiv' := Int.ediv_lt_of_lt_mul (show (0 : Int) < 2147483647 by decide) hlt
    omega
  value_half seed range hseed _ _ hrange := by
    have hneg : seed * range = -(seed * -range) := by ring
    have hlarge : 1073741824 * 2 ≤ seed * -range :=
      mul_le_mul hseed (by omega) (by decide) (by omega)
    rw [hneg, Int.neg_tdiv, Int.tdiv_eq_ediv_of_nonneg (by omega)]
    have hdiv : 1 ≤ seed * -range / 2147483647 := Int.le_ediv_of_mul_le (by decide) (by omega)
    omega

/-- The value that `NextInt` computes from the new seed. -/
def nextInt (draw : RangeDraw) (seed lo hi : Int) : Int :=
  let range := toInt32 (hi - lo + 1)
  toInt32 (lo + draw.value seed range)

/-- `NextInt` on bounds of 32 bits. -/
def sampler (draw : RangeDraw) : IntSampler where
  pick seed lo hi :=
    if -2147483648 ≤ lo ∧ lo < 2147483648 ∧ -2147483648 ≤ hi ∧ hi < 2147483648 then
      draw.nextInt seed lo hi
    else lo
  pick_mem seed lo hi hseed hseed' hle hrange := by
    split_ifs with hfits
    · obtain ⟨hlo, hhi⟩ := draw.value_pos seed (hi - lo + 1) hseed hseed' (by omega) (by omega)
      unfold nextInt
      rw [toInt32_eq (x := hi - lo + 1) (by omega) (by omega)]
      dsimp only
      rw [toInt32_eq (by omega) (by omega)]
      omega
    · exact ⟨le_rfl, hle⟩

end RangeDraw

lemma toInt32_spec (x : Int) :
    (2 : Int) ^ 32 ∣ x - toInt32 x ∧ -2147483648 ≤ toInt32 x ∧ toInt32 x < 2147483648 := by
  refine ⟨Int.dvd_self_sub_bmod, ?_, ?_⟩
  · exact Int.le_bmod (by decide)
  · exact Int.bmod_lt (by decide)

lemma toInt32_toInt32 (x : Int) : toInt32 (toInt32 x) = toInt32 x := by
  have hspec := (toInt32_spec x).2
  exact toInt32_eq hspec.1 hspec.2

namespace RangeDraw

variable (draw : RangeDraw) {seed max : Int}

/-- From 1 on, the number of values is the upper bound, and it is cut to 32 bits with it. -/
lemma nextInt_one (seed max : Int) :
    draw.nextInt seed 1 (toInt32 max) = toInt32 (1 + draw.value seed (toInt32 max)) := by
  unfold nextInt
  dsimp only
  rw [Int.sub_add_cancel, toInt32_toInt32]

lemma nextInt_mem (hmax : 1 ≤ max) (hrange : -1 ≤ toInt32 max) (hseed : 0 ≤ seed)
    (hseed' : seed < 2147483647) :
    1 ≤ draw.nextInt seed 1 (toInt32 max) ∧ draw.nextInt seed 1 (toInt32 max) ≤ max := by
  have hspec := toInt32_spec max
  rw [nextInt_one]
  rcases lt_trichotomy (toInt32 max) 0 with hneg | hzero | hpos
  · obtain ⟨hlo, hhi⟩ := draw.value_neg seed (toInt32 max) hseed hseed' hspec.2.1 hneg
    rw [show draw.value seed (toInt32 max) = 0 by omega, toInt32_eq (by decide) (by decide)]
    omega
  · rw [hzero, draw.value_zero, toInt32_eq (by decide) (by decide)]
    omega
  · obtain ⟨hlo, hhi⟩ := draw.value_pos seed (toInt32 max) hseed hseed' hpos (by omega)
    rw [toInt32_eq (by omega) (by omega)]
    omega

/-- A negative number of values leads below the lower bound. -/
lemma nextInt_low (hrange : toInt32 max ≤ -2) (hseed : 1073741824 ≤ seed)
    (hseed' : seed < 2147483647) : draw.nextInt seed 1 (toInt32 max) ≤ 0 := by
  have hspec := toInt32_spec max
  have hhalf := draw.value_half seed (toInt32 max) hseed hseed' hspec.2.1 hrange
  have hneg := (draw.value_neg seed (toInt32 max) (by omega) hseed' hspec.2.1 (by omega)).1
  rw [nextInt_one, toInt32_eq (by omega) (by omega)]
  omega

end RangeDraw

namespace RowRandomLong

lemma valueOf_one {max seed : Int} (hmax : 1 ≤ max) (hmax' : max < 2 ^ 63) :
    valueOf 1 max seed = toInt64 (1 + (toInt64 seed.natAbs).tmod max) := by
  unfold valueOf
  dsimp only
  rw [Int.sub_add_cancel, toInt64_eq (x := max) (by omega) hmax']

/-- `llabs` of the least seed is negative, and so is its remainder unless it is 0. -/
lemma valueOf_one_mem_iff {max seed : Int} (hmax : 1 ≤ max) (hmax' : max < 2 ^ 63)
    (hseed : seed ∈ seeds) :
    (1 ≤ valueOf 1 max seed ∧ valueOf 1 max seed ≤ max) ↔ (seed = -2 ^ 63 → max ∣ 2 ^ 63) := by
  rw [valueOf_one hmax hmax']
  by_cases hlow : seed = -2 ^ 63
  · have habs : toInt64 seed.natAbs = -2 ^ 63 := by
      rw [hlow]
      decide +kernel
    have hmod := Int.emod_nonneg (2 ^ 63) (show max ≠ 0 by omega)
    have hmod' := Int.emod_lt_of_pos (2 ^ 63) (show 0 < max by omega)
    rw [habs, Int.neg_tmod, Int.tmod_eq_emod_of_nonneg (by decide),
      toInt64_eq (by omega) (by omega), Int.dvd_iff_emod_eq_zero]
    omega
  · have hmem := mem_seeds.mp hseed
    have hmod := Int.emod_nonneg (seed.natAbs : Int) (show max ≠ 0 by omega)
    have hmod' := Int.emod_lt_of_pos (seed.natAbs : Int) (show 0 < max by omega)
    rw [toInt64_natAbs hseed hlow, Int.tmod_eq_emod_of_nonneg (Int.natCast_nonneg _),
      toInt64_eq (by omega) (by omega)]
    refine iff_of_true ⟨by omega, by omega⟩ fun h => absurd h hlow

end RowRandomLong

namespace RandomBoundedLong

inductive StreamOp
  | nextValue
  | rowFinished
  | advanceRows (rowCount : Nat)

def apply (sampler : IntSampler) (s : RandomBoundedLong) : StreamOp → Option RandomBoundedLong
  | .nextValue => some (s.nextValue sampler).2
  | .rowFinished => some s.rowFinished
  | .advanceRows rowCount => some (s.advanceRows rowCount)

/-- A draw is made only while the budget of the row lasts. -/
def WithinBudget (s : RandomBoundedLong) : StreamOp → Prop
  | .nextValue =>
    if s.use64bits then s.randomLong.usage < s.randomLong.seedsPerRow
    else s.randomInt.usage < s.randomInt.seedsPerRow
  | _ => True

/-- Every value drawn lies in `[1, max]`, in all states that the operations under the guard lead
to. -/
def ValuesIn (sampler : IntSampler) (guard : RandomBoundedLong → StreamOp → Prop)
    (stream : RandomBoundedLong) (max : Int) : Prop :=
  ∀ ops s, Along (apply sampler) guard stream ops → exec (apply sampler) stream ops = some s →
    guard s .nextValue → 1 ≤ (s.nextValue sampler).1 ∧ (s.nextValue sampler).1 ≤ max

variable {draw : RangeDraw} {sampler : IntSampler} {guard : RandomBoundedLong → StreamOp → Prop}
  {s t stream : RandomBoundedLong} {max : Int}

/-- Draws within the budget reach every number of draws: a row that is drawn to its end is finished
without a skip. -/
lemma exists_drawn {state : Nat → Nat → RandomBoundedLong} {k : Nat} (hk : 1 ≤ k)
    (hguard : ∀ s op, WithinBudget s op → guard s op)
    (hbudget : ∀ n u, u < k → WithinBudget (state n u) .nextValue)
    (hdraw : ∀ n u, ((state n u).nextValue sampler).2 = state (n + 1) (u + 1))
    (hfinish : ∀ n, (state n k).rowFinished = state n 0) (n : Nat) :
    ∃ ops u, u < k ∧ Along (apply sampler) guard (state 0 0) ops ∧
      exec (apply sampler) (state 0 0) ops = some (state n u) := by
  induction n with
  | zero => exact ⟨[], 0, hk, trivial, rfl⟩
  | succ n ih =>
    obtain ⟨ops, u, hu, halong, hrun⟩ := ih
    have hstep : apply sampler (state n u) .nextValue = some (state (n + 1) (u + 1)) :=
      congrArg some (hdraw n u)
    have hnext := exec_concat (apply sampler) hrun hstep
    have hone : ∀ s op, WithinBudget s op → Along (apply sampler) guard s [op] :=
      fun _ _ hop => ⟨hguard _ _ hop, fun _ _ => trivial⟩
    have halongNext := (along_append hrun).mpr ⟨halong, hone _ _ (hbudget n u hu)⟩
    by_cases hlast : u + 1 < k
    · exact ⟨_, u + 1, hlast, halongNext, hnext⟩
    · obtain rfl : k = u + 1 := by omega
      have hend : apply sampler (state (n + 1) (u + 1)) .rowFinished = some (state (n + 1) 0) :=
        congrArg some (hfinish (n + 1))
      have halongEnd := (along_append hnext).mpr
        ⟨halongNext, hone _ .rowFinished trivial⟩
      exact ⟨_, 0, hk, halongEnd, exec_concat (apply sampler) hnext hend⟩

/-- A stream of the 32-bit generator with values from 1 on. -/
structure NarrowFrom (max : Int) (s : RandomBoundedLong) : Prop where
  narrow : s.use64bits = false
  lowerBound : s.lowerBound = 1
  upperBound : s.upperBound = max
  seed : s.randomInt.SeedInRange

lemma NarrowFrom.apply (h : NarrowFrom max s) {op : StreamOp}
    (hop : RandomBoundedLong.apply sampler s op = some t) : NarrowFrom max t := by
  cases op with
  | nextValue =>
    obtain rfl := Option.some.inj hop
    have hnext : (s.nextValue sampler).2 = { s with randomInt := s.randomInt.nextRand } := by
      simp [nextValue, h.narrow, RowRandomInt.nextInt]
    rw [hnext]
    exact ⟨h.narrow, h.lowerBound, h.upperBound, RowRandomInt.nextSeed_iterate_mem h.seed 1⟩
  | rowFinished =>
    obtain rfl := Option.some.inj hop
    have hnext : s.rowFinished = { s with randomInt := s.randomInt.rowFinished } := by
      simp [rowFinished, h.narrow]
    rw [hnext]
    exact ⟨h.narrow, h.lowerBound, h.upperBound, RowRandomInt.seedInRange_rowFinished h.seed⟩
  | advanceRows rowCount =>
    obtain rfl := Option.some.inj hop
    rw [advanceRows_narrow h.narrow]
    exact ⟨h.narrow, h.lowerBound, h.upperBound,
      RowRandomInt.seedInRange_advanceRows h.seed rowCount⟩

lemma NarrowFrom.nextValue_eq (h : NarrowFrom max s) :
    (s.nextValue draw.sampler).1 =
      draw.nextInt (RowRandomInt.nextSeed s.randomInt.seed) 1 (toInt32 max) := by
  have hspec := (toInt32_spec max).2
  have hone : toInt32 1 = 1 := toInt32_eq (by decide) (by decide)
  have hpick : (s.nextValue draw.sampler).1 = draw.sampler.pick
      (RowRandomInt.nextSeed s.randomInt.seed) (toInt32 s.lowerBound) (toInt32 s.upperBound) := by
    simp [nextValue, h.narrow, RowRandomInt.nextInt, RowRandomInt.nextRand]
  rw [hpick, h.lowerBound, h.upperBound, hone]
  exact if_pos ⟨by decide, by decide, hspec.1, hspec.2⟩

variable (draw) in
/-- In the 32-bit mode the values are in range exactly if the upper bound, cut to 32 bits, is at
least -1. -/
lemma valuesIn_narrow_iff {seed : Int} {k : Nat} (hk : 1 ≤ k) (hmax : 1 ≤ max)
    (hseed : 0 ≤ seed ∧ seed < RowRandomInt.kModulus)
    (hguard : ∀ s op, WithinBudget s op → guard s op)
    (hlarge : ∃ n, 1073741824 ≤ RowRandomInt.nextSeed^[n + 1] seed) :
    ValuesIn draw.sampler guard (new seed false 1 max k) max ↔ -1 ≤ toInt32 max := by
  have hnew : NarrowFrom max (new seed false 1 max k) := ⟨rfl, rfl, rfl, hseed⟩
  have hall : ∀ ops s, Along (apply draw.sampler) guard (new seed false 1 max k) ops →
      exec (apply draw.sampler) (new seed false 1 max k) ops = some s → NarrowFrom max s :=
    fun ops s halong hrun => exec_invariant (fun _ _ _ hs _ hop => hs.apply hop) hnew halong hrun
  constructor
  · intro h
    by_contra hlow
    obtain ⟨n, hn⟩ := hlarge
    let state : Nat → Nat → RandomBoundedLong := fun n u =>
      ⟨false, 1, max, .new seed k, ⟨RowRandomInt.nextSeed^[n] seed, u, k⟩⟩
    have hdraw : ∀ n u, ((state n u).nextValue draw.sampler).2 = state (n + 1) (u + 1) := by
      intro n u
      simp only [state, iterate_succ_apply']
      rfl
    have hfinish : ∀ n, (state n k).rowFinished = state n 0 := by
      intro n
      simp only [state, rowFinished, RowRandomInt.rowFinished, lt_irrefl, if_false]
      rfl
    have hbudget : ∀ n u, u < k → WithinBudget (state n u) .nextValue := by
      intro n u hu
      simpa only [WithinBudget, state, Bool.false_eq_true, if_false] using hu
    obtain ⟨ops, u, hu, halong, hrun⟩ := exists_drawn hk hguard hbudget hdraw hfinish n
    have hmem := h ops (state n u) halong hrun (hguard _ _ (hbudget n u hu))
    have hseeds := RowRandomInt.nextSeed_iterate_mem hseed (n + 1)
    rw [(hall ops _ halong hrun).nextValue_eq] at hmem
    have hneg := draw.nextInt_low (show toInt32 max ≤ -2 by omega) hn hseeds.2
    rw [iterate_succ_apply'] at hneg
    have hsame : (state n u).randomInt.seed = RowRandomInt.nextSeed^[n] seed := rfl
    rw [hsame] at hmem
    omega
  · intro hrange ops s halong hrun _
    have hs := hall ops s halong hrun
    have hnext := RowRandomInt.nextSeed_iterate_mem hs.seed 1
    rw [hs.nextValue_eq]
    exact draw.nextInt_mem hmax hrange hnext.1 hnext.2

/-- A stream of the 64-bit generator with values from 1 on. -/
structure WideFrom (max : Int) (s : RandomBoundedLong) : Prop where
  wide : s.use64bits = true
  lowerBound : s.lowerBound = 1
  upperBound : s.upperBound = max

lemma WideFrom.apply (h : WideFrom max s) {op : StreamOp}
    (hop : RandomBoundedLong.apply sampler s op = some t) : WideFrom max t := by
  obtain ⟨hwide, hlo, hhi⟩ := h
  cases op <;> obtain rfl := Option.some.inj hop <;>
    simp only [nextValue, rowFinished, advanceRows, hwide, if_true] <;> exact ⟨rfl, hlo, hhi⟩

lemma WideFrom.nextValue_eq (h : WideFrom max s) :
    (s.nextValue sampler).1 = RowRandomLong.valueOf 1 max (RowRandomLong.nextSeed s.randomLong.seed) := by
  simp only [nextValue, h.wide, if_true, h.lowerBound, h.upperBound, RowRandomLong.nextLong,
    RowRandomLong.nextRand]

/-- In the 64-bit mode the draws go through the least seed, so the values are in range exactly if
the upper bound divides it. -/
lemma valuesIn_wide_iff {seed : Int} {k : Nat} (hk : 1 ≤ k) (hmax : 1 ≤ max) (hmax' : max < 2 ^ 63)
    (hseed : seed ∈ RowRandomLong.seeds) (hguard : ∀ s op, WithinBudget s op → guard s op) :
    ValuesIn sampler guard (new seed true 1 max k) max ↔ max ∣ 2 ^ 63 := by
  have hnew : WideFrom max (new seed true 1 max k) := ⟨rfl, rfl, rfl⟩
  have hall : ∀ ops s, Along (apply sampler) guard (new seed true 1 max k) ops →
      exec (apply sampler) (new seed true 1 max k) ops = some s → WideFrom max s :=
    fun ops s halong hrun => exec_invariant (fun _ _ _ hs _ hop => hs.apply hop) hnew halong hrun
  constructor
  · intro h
    have hleast : (-2 ^ 63 : Int) ∈ RowRandomLong.seeds := RowRandomLong.mem_seeds.mpr (by decide)
    obtain ⟨n, hn⟩ := RowRandomLong.fullCycle_nextSeed.exists_iterate_succ hseed hleast
    let state : Nat → Nat → RandomBoundedLong := fun n u =>
      ⟨true, 1, max, ⟨RowRandomLong.nextSeed^[n] seed, u, k⟩, .new seed k⟩
    have hdraw : ∀ n u, ((state n u).nextValue sampler).2 = state (n + 1) (u + 1) := by
      intro n u
      simp only [state, iterate_succ_apply']
      rfl
    have hfinish : ∀ n, (state n k).rowFinished = state n 0 := by
      intro n
      simp only [state, rowFinished, RowRandomLong.rowFinished, lt_irrefl, if_false]
      rfl
    have hbudget : ∀ n u, u < k → WithinBudget (state n u) .nextValue := by
      intro n u hu
      simpa only [WithinBudget, state, if_true] using hu
    obtain ⟨ops, u, hu, halong, hrun⟩ := exists_drawn hk hguard hbudget hdraw hfinish n
    have hmem := h ops (state n u) halong hrun (hguard _ _ (hbudget n u hu))
    rw [(hall ops _ halong hrun).nextValue_eq] at hmem
    rw [iterate_succ_apply'] at hn
    exact (RowRandomLong.valueOf_one_mem_iff hmax hmax' (RowRandomLong.nextSeed_mem _)).mp hmem hn
  · intro hdvd ops s halong hrun _
    rw [(hall ops s halong hrun).nextValue_eq]
    exact (RowRandomLong.valueOf_one_mem_iff hmax hmax' (RowRandomLong.nextSeed_mem _)).mpr
      fun _ => hdvd

end RandomBoundedLong

end Schengen.Random
