import Schengen.Random.Streams

/-!
# The 64-bit row generator

`RowRandomLong` of `Common/rands.h` draws with a 64-bit linear congruential generator and
skips with the 32-bit Lehmer generator, in 64-bit arithmetic that wraps.
`RandomBoundedLong` uses it from scale factor 30000 on and `RowRandomInt` below.
-/

namespace Schengen.Random
open Library

/-- The value of a signed integer of 32 bits. -/
def toInt32 (x : Int) : Int := x.bmod (2 ^ 32)

/-- The value of a signed integer of 64 bits. -/
def toInt64 (x : Int) : Int := x.bmod (2 ^ 64)

lemma toInt32_eq {x : Int} (hlo : -2147483648 ≤ x) (hhi : x < 2147483648) : toInt32 x = x :=
  Int.bmod_eq_of_le (by omega) (by omega)

structure RowRandomLong where
  seed : Int
  usage : Nat
  seedsPerRow : Nat
  deriving DecidableEq, Inhabited

namespace RowRandomLong

def kMultiplier : Int := 6364136223846793005

def kIncrement : Int := 1

def kMultiplier32 : Int := 16807

def kModulus32 : Int := 2147483647

def new (seed : Int) (seedsPerRow : Nat) : RowRandomLong := ⟨seed, 0, seedsPerRow⟩

def nextSeed (seed : Int) : Int := toInt64 (seed * kMultiplier + kIncrement)

def nextRand (g : RowRandomLong) : RowRandomLong :=
  { g with seed := nextSeed g.seed, usage := g.usage + 1 }

/-- The value that `NextLong` computes from the new seed; `llabs` wraps like the rest. -/
def valueOf (lo hi seed : Int) : Int :=
  let range := toInt64 (hi - lo + 1)
  toInt64 (lo + (toInt64 seed.natAbs).tmod range)

def nextLong (lo hi : Int) (g : RowRandomLong) : Int × RowRandomLong :=
  (valueOf lo hi g.nextRand.seed, g.nextRand)

/-- `seed_ = (multiplier * seed_) % kModulus32` -/
def multiplySeed (multiplier seed : Int) : Int := (toInt64 (multiplier * seed)).tmod kModulus32

/-- `multiplier = (multiplier * multiplier) % kModulus32` -/
def squareMultiplier (multiplier : Int) : Int :=
  (toInt64 (multiplier * multiplier)).tmod kModulus32

def advanceSeed32 (g : RowRandomLong) (count : Nat) : RowRandomLong :=
  { g with seed := squareMultiply squareMultiplier multiplySeed kMultiplier32 g.seed count }

def rowFinished (g : RowRandomLong) : RowRandomLong :=
  { if g.usage < g.seedsPerRow then g.advanceSeed32 (g.seedsPerRow - g.usage) else g with
    usage := 0 }

def advanceRows (g : RowRandomLong) (rowCount : Nat) : RowRandomLong :=
  let g := if g.usage ≠ 0 then g.rowFinished else g
  let count := g.seedsPerRow * rowCount
  if 0 < count then g.advanceSeed32 count else g

end RowRandomLong

structure RandomBoundedLong where
  use64bits : Bool
  lowerBound : Int
  upperBound : Int
  randomLong : RowRandomLong
  randomInt : RowRandomInt
  deriving Inhabited

namespace RandomBoundedLong

def new (seed : Int) (use64bits : Bool) (lowerBound upperBound : Int) (seedsPerRow : Nat) :
    RandomBoundedLong :=
  ⟨use64bits, lowerBound, upperBound, .new seed seedsPerRow, .new seed seedsPerRow⟩

def nextValue (sampler : IntSampler) (s : RandomBoundedLong) : Int × RandomBoundedLong :=
  if s.use64bits then
    let (value, inner) := s.randomLong.nextLong s.lowerBound s.upperBound
    (value, { s with randomLong := inner })
  else
    let (value, inner) :=
      s.randomInt.nextInt sampler (toInt32 s.lowerBound) (toInt32 s.upperBound)
    (value, { s with randomInt := inner })

def advanceRows (s : RandomBoundedLong) (rowCount : Nat) : RandomBoundedLong :=
  if s.use64bits then { s with randomLong := s.randomLong.advanceRows rowCount }
  else { s with randomInt := s.randomInt.advanceRows rowCount }

def rowFinished (s : RandomBoundedLong) : RandomBoundedLong :=
  if s.use64bits then { s with randomLong := s.randomLong.rowFinished }
  else { s with randomInt := s.randomInt.rowFinished }

/-- `s` is `start` after at most `n` draws of one row of the 32-bit generator. -/
structure Drawn (start : RandomBoundedLong) (n : Nat) (s : RandomBoundedLong) : Prop where
  narrow : start.use64bits = false
  inner : start.randomInt.Drawn n s.randomInt
  rest : s = { start with randomInt := s.randomInt }

/-- A stream of the 32-bit generator at the start of a row, with a budget of `k` draws. -/
structure Fresh (k : Nat) (s : RandomBoundedLong) : Prop where
  narrow : s.use64bits = false
  usage : s.randomInt.usage = 0
  budget : k ≤ s.randomInt.seedsPerRow
  seed : s.randomInt.SeedInRange

variable {start s : RandomBoundedLong} {k n : Nat}

lemma Fresh.drawn (h : Fresh k s) : Drawn s 0 s := ⟨h.narrow, .refl h.usage, rfl⟩

lemma Drawn.use64bits (h : Drawn start n s) : s.use64bits = false := by
  rw [h.rest]
  exact h.narrow

lemma advanceRows_narrow (h : s.use64bits = false) (r : Nat) :
    s.advanceRows r = { s with randomInt := s.randomInt.advanceRows r } := by
  simp [advanceRows, h]

lemma Drawn.rowFinished (h : Drawn start n s) (hn : n ≤ start.randomInt.seedsPerRow) :
    s.rowFinished = start.advanceRows 1 := by
  have hfinished : s.rowFinished = { s with randomInt := s.randomInt.rowFinished } := by
    simp [RandomBoundedLong.rowFinished, h.use64bits]
  rw [hfinished, advanceRows_narrow h.narrow, h.inner.rowFinished hn, h.rest]

lemma advanceRows_zero (h : Fresh k s) : s.advanceRows 0 = s := by
  rw [advanceRows_narrow h.narrow, RowRandomInt.advanceRows_zero h.usage]

lemma Fresh.advanceRows (h : Fresh k s) (r : Nat) : Fresh k (s.advanceRows r) := by
  rw [advanceRows_narrow h.narrow]
  refine ⟨h.narrow, RowRandomInt.usage_advanceRows h.usage r, ?_, ?_⟩
  · change k ≤ (s.randomInt.advanceRows r).seedsPerRow
    rw [RowRandomInt.seedsPerRow_advanceRows h.usage]
    exact h.budget
  · change (s.randomInt.advanceRows r).SeedInRange
    rw [RowRandomInt.advanceRows_eq h.usage]
    exact RowRandomInt.nextSeed_iterate_mem h.seed _

lemma advanceRows_add (h : Fresh k s) (a b : Nat) :
    (s.advanceRows a).advanceRows b = s.advanceRows (a + b) := by
  rw [advanceRows_narrow (h.advanceRows a).narrow, advanceRows_narrow h.narrow,
    advanceRows_narrow h.narrow, RowRandomInt.advanceRows_add h.usage]

/-- Reading row `r` and finishing it is skipping it. -/
lemma Fresh.finish_row {base : RandomBoundedLong} (h : Fresh k base) {r : Nat}
    (hd : Drawn (base.advanceRows r) n s) (hn : n ≤ k) :
    s.rowFinished = base.advanceRows (r + 1) := by
  rw [hd.rowFinished (hn.trans (h.advanceRows r).budget), advanceRows_add h]

lemma Drawn.nextValue (sampler : IntSampler) (h : Drawn start n s) :
    Drawn start (n + 1) (nextValue sampler s).2 := by
  have hnext : (RandomBoundedLong.nextValue sampler s).2 =
      { s with randomInt := s.randomInt.nextRand } := by
    simp [RandomBoundedLong.nextValue, h.use64bits, RowRandomInt.nextInt]
  rw [hnext]
  exact ⟨h.narrow, h.inner.nextRand, congrArg
    (fun x : RandomBoundedLong => { x with randomInt := s.randomInt.nextRand }) h.rest⟩

lemma nextValue_mem (sampler : IntSampler) (hfresh : Fresh k start) (h : Drawn start n s)
    (hlo : 0 ≤ s.lowerBound) (hle : s.lowerBound ≤ s.upperBound) (hhi : s.upperBound ≤ 2147483647)
    (hrange : s.upperBound - s.lowerBound ≤ 2147483646) :
    s.lowerBound ≤ (RandomBoundedLong.nextValue sampler s).1 ∧
      (RandomBoundedLong.nextValue sampler s).1 ≤ s.upperBound := by
  have hseed := h.inner.nextRand.seedInRange hfresh.seed
  have hnext : (RandomBoundedLong.nextValue sampler s).1 =
      sampler.pick s.randomInt.nextRand.seed s.lowerBound s.upperBound := by
    simp [RandomBoundedLong.nextValue, h.use64bits, RowRandomInt.nextInt,
      toInt32_eq (x := s.lowerBound) (by omega) (by omega),
      toInt32_eq (x := s.upperBound) (by omega) (by omega)]
  rw [hnext]
  exact sampler.pick_mem _ _ _ hseed.1 hseed.2 hle hrange

lemma fresh_new {seed lowerBound upperBound : Int} {use64bits : Bool} {seedsPerRow k : Nat}
    (hnarrow : use64bits = false) (hk : k ≤ seedsPerRow)
    (hseed : 0 ≤ seed ∧ seed < RowRandomInt.kModulus) :
    Fresh k (new seed use64bits lowerBound upperBound seedsPerRow) :=
  ⟨hnarrow, rfl, hk, hseed⟩

lemma finish_nextValue (sampler : IntSampler) {base : RandomBoundedLong} (h : Fresh 1 base)
    (r : Nat) :
    (nextValue sampler (base.advanceRows r)).2.rowFinished = base.advanceRows (r + 1) :=
  h.finish_row ((h.advanceRows r).drawn.nextValue sampler) le_rfl

end RandomBoundedLong

end Schengen.Random
