import Schengen.Library.SquareMultiply
import Mathlib.Algebra.Order.Ring.Int
import Mathlib.Data.Int.GCD
import Mathlib.Tactic.IntervalCases
import Mathlib.Tactic.Ring

/-!
# The 32-bit row generator

`RowRandomInt` of `Common/rands.h`: a Lehmer generator with a budget of seeds for every
row. `RowFinished` skips what the row has left of its budget and `AdvanceRows` skips whole
rows. Skipping and drawing meet at the start of every row as long as no row draws more
than its budget.
-/

namespace Schengen.Random
open Library Function

/-- A draw in `[lo, hi]` as a function of the new seed and the bounds; `NextInt` computes
it in floating point. -/
structure IntSampler where
  pick : Int → Int → Int → Int
  pick_mem : ∀ seed lo hi, 0 ≤ seed → seed < 2147483647 → lo ≤ hi → hi - lo ≤ 2147483646 →
    lo ≤ pick seed lo hi ∧ pick seed lo hi ≤ hi

/-- `NextInt` is a function into `[lo, hi]`, whatever the seed is. -/
def IntSampler.Bounded (sampler : IntSampler) : Prop :=
  ∀ seed lo hi, lo ≤ hi → lo ≤ sampler.pick seed lo hi ∧ sampler.pick seed lo hi ≤ hi

/-- `NextInt` with a given draw for every lower bound. -/
def IntSampler.ofDraws (draw : Int → Int) : IntSampler where
  pick _ lo hi := if lo ≤ draw lo ∧ draw lo ≤ hi then draw lo else lo
  pick_mem _ lo hi _ _ hle _ := by
    split
    · next h => exact h
    · exact ⟨le_rfl, hle⟩

lemma IntSampler.bounded_ofDraws (draw : Int → Int) : (ofDraws draw).Bounded := by
  intro seed lo hi hle
  change lo ≤ (if _ then _ else _) ∧ (if _ then _ else _) ≤ hi
  split
  · next h => exact h
  · exact ⟨le_rfl, hle⟩

/-- `NextInt` with exact arithmetic in the place of the floating point. -/
def IntSampler.exact : IntSampler where
  pick seed lo hi := lo + seed * (hi - lo + 1) / 2147483647
  pick_mem seed lo hi hseed hseed' hle _ := by
    have hpos : 0 ≤ seed * (hi - lo + 1) := mul_nonneg hseed (by omega)
    have hlt : seed * (hi - lo + 1) < 2147483647 * (hi - lo + 1) :=
      mul_lt_mul_of_pos_right hseed' (by omega)
    have hdiv : seed * (hi - lo + 1) / 2147483647 < hi - lo + 1 :=
      Int.ediv_lt_of_lt_mul (by decide) (by rw [mul_comm (hi - lo + 1)]; exact hlt)
    exact ⟨by omega, by omega⟩

structure RowRandomInt where
  seed : Int
  usage : Nat
  seedsPerRow : Nat
  deriving DecidableEq, Inhabited

namespace RowRandomInt

def kMultiplier : Int := 16807

def kModulus : Int := 2147483647

def new (seed : Int) (seedsPerRow : Nat) : RowRandomInt := ⟨seed, 0, seedsPerRow⟩

def nextSeed (seed : Int) : Int := (seed * kMultiplier).tmod kModulus

def nextRand (g : RowRandomInt) : RowRandomInt :=
  { g with seed := nextSeed g.seed, usage := g.usage + 1 }

def nextInt (sampler : IntSampler) (lo hi : Int) (g : RowRandomInt) : Int × RowRandomInt :=
  (sampler.pick g.nextRand.seed lo hi, g.nextRand)

/-- `seed_ = (multiplier * seed_) % kModulus` -/
def multiplySeed (multiplier seed : Int) : Int := (multiplier * seed).tmod kModulus

/-- `multiplier = (multiplier * multiplier) % kModulus` -/
def squareMultiplier (multiplier : Int) : Int := (multiplier * multiplier).tmod kModulus

def advanceSeed (g : RowRandomInt) (count : Nat) : RowRandomInt :=
  { g with seed := squareMultiply squareMultiplier multiplySeed kMultiplier g.seed count }

def rowFinished (g : RowRandomInt) : RowRandomInt :=
  { if g.usage < g.seedsPerRow then g.advanceSeed (g.seedsPerRow - g.usage) else g with usage := 0 }

def advanceRows (g : RowRandomInt) (rowCount : Nat) : RowRandomInt :=
  let g := if g.usage ≠ 0 then g.rowFinished else g
  let count := g.seedsPerRow * rowCount
  if 0 < count then g.advanceSeed count else g

/-- `g` is `start` after at most `n` draws of one row. -/
structure Drawn (start : RowRandomInt) (n : Nat) (g : RowRandomInt) : Prop where
  fresh : start.usage = 0
  seed : g.seed = nextSeed^[g.usage] start.seed
  usage : g.usage ≤ n
  seedsPerRow : g.seedsPerRow = start.seedsPerRow

/-- The seed of a generator that was constructed with a seed below the modulus. -/
def SeedInRange (g : RowRandomInt) : Prop := 0 ≤ g.seed ∧ g.seed < kModulus

lemma multiplySeed_kMultiplier : multiplySeed kMultiplier = nextSeed := by
  funext seed
  rw [multiplySeed, nextSeed, mul_comm]

lemma multiplySeed_square (m seed : Int) :
    multiplySeed (squareMultiplier m) seed = multiplySeed m (multiplySeed m seed) := by
  unfold multiplySeed squareMultiplier
  rw [Int.mul_tmod, Int.tmod_tmod, ← Int.mul_tmod, mul_assoc, Int.mul_tmod m (m * seed),
    Int.mul_tmod m ((m * seed).tmod kModulus), Int.tmod_tmod]

lemma advanceSeed_eq (g : RowRandomInt) (count : Nat) :
    g.advanceSeed count = { g with seed := nextSeed^[count] g.seed } := by
  have hloop : squareMultiply squareMultiplier multiplySeed kMultiplier g.seed count =
      (multiplySeed kMultiplier)^[count] g.seed :=
    squareMultiply_eq_iterate (P := fun _ => True) (Q := fun _ => True) (fun _ _ => trivial)
      (fun _ _ _ _ => trivial) (fun m seed _ _ => multiplySeed_square m seed) trivial trivial count
  rw [advanceSeed, hloop, multiplySeed_kMultiplier]

lemma nextSeed_iterate_mem {seed : Int} (h : 0 ≤ seed ∧ seed < kModulus) (k : Nat) :
    0 ≤ nextSeed^[k] seed ∧ nextSeed^[k] seed < kModulus := by
  induction k with
  | zero => exact h
  | succ k ih =>
    rw [iterate_succ_apply', nextSeed]
    exact ⟨Int.tmod_nonneg _ (mul_nonneg ih.1 (by decide)), Int.tmod_lt_of_pos _ (by decide)⟩

lemma nextRand_iterate (u : Nat) (g : RowRandomInt) :
    nextRand^[u] g = ⟨nextSeed^[u] g.seed, g.usage + u, g.seedsPerRow⟩ := by
  induction u generalizing g with
  | zero => rfl
  | succ u ih =>
    rw [iterate_succ_apply, ih, iterate_succ_apply]
    simp only [nextRand, Nat.add_assoc, Nat.add_comm 1 u]

lemma rowFinished_eq (g : RowRandomInt) :
    g.rowFinished = ⟨nextSeed^[g.seedsPerRow - g.usage] g.seed, 0, g.seedsPerRow⟩ := by
  unfold rowFinished
  by_cases h : g.usage < g.seedsPerRow
  · simp only [h, if_true, advanceSeed_eq]
  · have hzero : g.seedsPerRow - g.usage = 0 := by omega
    simp only [h, if_false, hzero, iterate_zero, id_eq]

lemma seedInRange_rowFinished {g : RowRandomInt} (h : g.SeedInRange) : g.rowFinished.SeedInRange := by
  rw [rowFinished_eq]
  exact nextSeed_iterate_mem h _

/-- Skipping from the start of a row. -/
lemma advanceRows_eq {g : RowRandomInt} (hfresh : g.usage = 0) (rowCount : Nat) :
    g.advanceRows rowCount = ⟨nextSeed^[g.seedsPerRow * rowCount] g.seed, 0, g.seedsPerRow⟩ := by
  unfold advanceRows
  simp only [hfresh, ne_eq, not_true_eq_false, if_false]
  by_cases h : 0 < g.seedsPerRow * rowCount
  · rw [if_pos h, advanceSeed_eq, hfresh]
  · have hzero : g.seedsPerRow * rowCount = 0 := by omega
    rw [if_neg h, hzero, iterate_zero, id_eq]
    nth_rewrite 1 [← hfresh]
    rfl

lemma seedInRange_advanceRows {g : RowRandomInt} (h : g.SeedInRange) (rowCount : Nat) :
    (g.advanceRows rowCount).SeedInRange := by
  have hstart : (if g.usage ≠ 0 then g.rowFinished else g).SeedInRange := by
    split
    · exact seedInRange_rowFinished h
    · exact h
  unfold advanceRows
  dsimp only
  generalize (if g.usage ≠ 0 then g.rowFinished else g) = start at hstart ⊢
  split
  · rw [advanceSeed_eq]
    exact nextSeed_iterate_mem hstart _
  · exact hstart

@[simp] lemma usage_advanceRows {g : RowRandomInt} (hfresh : g.usage = 0) (rowCount : Nat) :
    (g.advanceRows rowCount).usage = 0 := by
  rw [advanceRows_eq hfresh]

@[simp] lemma seedsPerRow_advanceRows {g : RowRandomInt} (hfresh : g.usage = 0) (rowCount : Nat) :
    (g.advanceRows rowCount).seedsPerRow = g.seedsPerRow := by
  rw [advanceRows_eq hfresh]

lemma advanceRows_zero {g : RowRandomInt} (hfresh : g.usage = 0) : g.advanceRows 0 = g := by
  rw [advanceRows_eq hfresh, Nat.mul_zero, iterate_zero, id_eq]
  nth_rewrite 1 [← hfresh]
  rfl

lemma advanceRows_add {g : RowRandomInt} (hfresh : g.usage = 0) (a b : Nat) :
    (g.advanceRows a).advanceRows b = g.advanceRows (a + b) := by
  rw [advanceRows_eq (usage_advanceRows hfresh a), advanceRows_eq hfresh, advanceRows_eq hfresh]
  simp only [← iterate_add_apply, Nat.mul_add, Nat.add_comm]

namespace Drawn

variable {start g : RowRandomInt} {n : Nat}

lemma refl (hfresh : start.usage = 0) : Drawn start 0 start :=
  ⟨hfresh, by rw [hfresh]; rfl, hfresh.le, rfl⟩

lemma mono (h : Drawn start n g) {m : Nat} (hnm : n ≤ m) : Drawn start m g :=
  ⟨h.fresh, h.seed, h.usage.trans hnm, h.seedsPerRow⟩

lemma nextRand (h : Drawn start n g) : Drawn start (n + 1) g.nextRand := by
  refine ⟨h.fresh, ?_, Nat.succ_le_succ h.usage, h.seedsPerRow⟩
  change nextSeed g.seed = nextSeed^[g.usage + 1] start.seed
  rw [iterate_succ_apply', h.seed]

/-- However many seeds of its budget a row draws, the next row starts at the same seed. -/
theorem rowFinished (h : Drawn start n g) (hn : n ≤ start.seedsPerRow) :
    g.rowFinished = start.advanceRows 1 := by
  have husage := h.usage
  rw [rowFinished_eq, advanceRows_eq h.fresh, h.seedsPerRow, h.seed, ← iterate_add_apply]
  congr 2
  omega

lemma seedInRange (h : Drawn start n g) (hs : SeedInRange start) : SeedInRange g := by
  unfold SeedInRange
  rw [h.seed]
  exact nextSeed_iterate_mem hs g.usage

end Drawn

/-- Reading row `r` and finishing it is skipping it. -/
lemma finish_row {base g : RowRandomInt} (hfresh : base.usage = 0) {r n : Nat}
    (h : Drawn (base.advanceRows r) n g) (hn : n ≤ base.seedsPerRow) :
    g.rowFinished = base.advanceRows (r + 1) := by
  rw [h.rowFinished (by rwa [seedsPerRow_advanceRows hfresh]), advanceRows_add hfresh]

/-- A row that draws nothing. -/
lemma finish_skip {base : RowRandomInt} (hfresh : base.usage = 0) (r : Nat) :
    (base.advanceRows r).rowFinished = base.advanceRows (r + 1) :=
  finish_row hfresh (.refl (usage_advanceRows hfresh r)) (Nat.zero_le _)

/-! ## The period is longer than a part -/

lemma nextSeed_iterate_eq {seed : Int} (h : 0 ≤ seed ∧ seed < kModulus) (m : Nat) :
    nextSeed^[m] seed = seed * kMultiplier ^ m % kModulus := by
  induction m with
  | zero => rw [iterate_zero, id_eq, pow_zero, mul_one, Int.emod_eq_of_lt h.1 h.2]
  | succ m ih =>
    have hmem := nextSeed_iterate_mem h m
    rw [iterate_succ_apply', nextSeed, Int.tmod_eq_emod_of_nonneg (mul_nonneg hmem.1 (by decide)), ih,
      Int.mul_emod, Int.emod_emod, ← Int.mul_emod, pow_succ, mul_assoc]

/-- The generator returns to no seed in one to three steps. -/
lemma nextSeed_iterate_ne {seed : Int} (h : 0 < seed ∧ seed < kModulus) {m : Nat} (hm : 0 < m)
    (hm3 : m ≤ 3) : nextSeed^[m] seed ≠ seed := by
  intro hsame
  rw [nextSeed_iterate_eq ⟨h.1.le, h.2⟩] at hsame
  have hdvd : kModulus ∣ seed * (kMultiplier ^ m - 1) := by
    rw [mul_sub, mul_one]
    exact Int.dvd_self_sub_of_emod_eq hsame
  have hcoprime : Int.gcd kModulus (kMultiplier ^ m - 1) = 1 := by
    interval_cases m <;> decide
  have hseed := Int.dvd_of_dvd_mul_left_of_gcd_one hdvd hcoprime
  have hle := Int.le_of_dvd h.1 hseed
  omega

lemma nextSeed_iterate_pos {seed : Int} (h : 0 < seed ∧ seed < kModulus) (m : Nat) :
    0 < nextSeed^[m] seed := by
  induction m with
  | zero => exact h.1
  | succ m ih =>
    have hmem := nextSeed_iterate_mem ⟨h.1.le, h.2⟩ m
    rw [iterate_succ_apply', nextSeed]
    generalize nextSeed^[m] seed = x at ih hmem ⊢
    have hprod : 0 ≤ x * kMultiplier := mul_nonneg ih.le (by decide)
    rw [Int.tmod_eq_emod_of_nonneg hprod]
    refine lt_of_le_of_ne (Int.emod_nonneg _ (by decide)) fun hzero => ?_
    have hx := Int.dvd_of_dvd_mul_left_of_gcd_one (Int.dvd_of_emod_eq_zero hzero.symm)
      (show Int.gcd kModulus kMultiplier = 1 by decide)
    have hle := Int.le_of_dvd ih hx
    omega

end RowRandomInt

end Schengen.Random
