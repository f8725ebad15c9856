import Schengen.Library.Rounding
import Schengen.Random.RangeDraws
import Mathlib.Data.Rat.Floor
import Mathlib.Tactic.NormNum

/-!
# NextInt in floating point

The two operations of `NextInt` that round, a division and a multiplication, with any rounding of
the relative error of a double. The draws stay in their interval, so that a text is a part of the
text pool.
-/

namespace Schengen.Random
open Library

/-- The relative error of a double. -/
def kDoubleError : ℚ := 1 / 2 ^ 53

lemma kDoubleError_nonneg : 0 ≤ kDoubleError := by norm_num [kDoubleError]

lemma kDoubleError_le_one : kDoubleError ≤ 1 := by norm_num [kDoubleError]

namespace RangeDraw

/-- `static_cast<double>(seed_) / static_cast<double>(kModulus)`, before it is rounded. -/
def seedFraction (seed : Int) : ℚ := (seed : ℚ) / (RowRandomInt.kModulus : ℚ)

lemma seedFraction_nonneg {seed : Int} (h : 0 ≤ seed) : 0 ≤ seedFraction seed := by
  unfold seedFraction RowRandomInt.kModulus
  have hseed : (0 : ℚ) ≤ seed := by exact_mod_cast h
  positivity

/-- The largest seed is further from the modulus than two rounding errors. -/
lemma seedFraction_lt {seed : Int} (h : seed < 2147483647) :
    (1 + kDoubleError) ^ 2 * seedFraction seed < 1 := by
  unfold seedFraction RowRandomInt.kModulus
  have hseed : (seed : ℚ) ≤ 2147483646 := by exact_mod_cast Int.le_sub_one_of_lt h
  calc (1 + kDoubleError) ^ 2 * ((seed : ℚ) / (2147483647 : Int))
      ≤ (1 + kDoubleError) ^ 2 * (2147483646 / (2147483647 : Int)) := by gcongr
    _ < 1 := by norm_num [kDoubleError]

/-- From one half on, the range -2 is reached. -/
lemma le_seedFraction {seed : Int} (h : 1073741824 ≤ seed) :
    1 ≤ (1 - kDoubleError) ^ 2 * (seedFraction seed * 2) := by
  unfold seedFraction RowRandomInt.kModulus
  have hseed : (1073741824 : ℚ) ≤ seed := by exact_mod_cast h
  calc (1 : ℚ) ≤ (1 - kDoubleError) ^ 2 * (1073741824 / (2147483647 : Int) * 2) := by
        norm_num [kDoubleError]
    _ ≤ (1 - kDoubleError) ^ 2 * ((seed : ℚ) / (2147483647 : Int) * 2) := by gcongr

variable (fl : Rounding kDoubleError) {seed range : Int}

/-- `value_i` of `NextInt`. -/
def roundedValue (seed range : Int) : Int := truncate (fl.scale fl (seedFraction seed) range)

/-- The same for a mirrored second rounding, which a negative range leads to. -/
lemma truncate_scale_mem (fl' : Rounding kDoubleError) (hseed : 0 ≤ seed)
    (hseed' : seed < 2147483647) (hrange : 0 < range) :
    0 ≤ truncate (fl.scale fl' (seedFraction seed) range) ∧
      truncate (fl.scale fl' (seedFraction seed) range) < range := by
  have hrange' : (0 : ℚ) < range := by exact_mod_cast hrange
  exact truncate_mem
    (fl.scale_nonneg fl' kDoubleError_le_one (seedFraction_nonneg hseed) hrange'.le)
    (fl.scale_lt fl' kDoubleError_nonneg kDoubleError_le_one (seedFraction_nonneg hseed)
      (seedFraction_lt hseed') hrange')

lemma roundedValue_neg (seed range : Int) :
    roundedValue fl seed (-range) = -truncate (fl.scale fl.neg (seedFraction seed) range) := by
  unfold roundedValue
  rw [Int.cast_neg, Rounding.scale_neg, truncate_neg]

/-- `NextInt` with a rounding of the floating point. -/
def rounded : RangeDraw where
  value := roundedValue fl
  value_pos _ _ hseed hseed' hrange _ := truncate_scale_mem fl fl hseed hseed' hrange
  value_zero seed := by
    unfold roundedValue Rounding.scale truncate
    simp
  value_neg seed range hseed hseed' _ hrange := by
    obtain ⟨hlo, hhi⟩ := truncate_scale_mem fl fl.neg hseed hseed' (show 0 < -range by omega)
    rw [← neg_neg range, roundedValue_neg]
    omega
  value_half seed range hseed _ _ hrange := by
    have hrange' : (2 : ℚ) ≤ (-range : Int) := by exact_mod_cast (show 2 ≤ -range by omega)
    have hfraction := seedFraction_nonneg (show 0 ≤ seed by omega)
    have hscale : ((1 : Int) : ℚ) ≤ fl.scale fl.neg (seedFraction seed) (-range : Int) := by
      calc ((1 : Int) : ℚ) = 1 := Int.cast_one
        _ ≤ (1 - kDoubleError) ^ 2 * (seedFraction seed * 2) := le_seedFraction hseed
        _ ≤ (1 - kDoubleError) ^ 2 * (seedFraction seed * (-range : Int)) := by gcongr
        _ ≤ fl.scale fl.neg (seedFraction seed) (-range : Int) :=
            fl.le_scale fl.neg kDoubleError_le_one hfraction (by linarith)
    have hone := le_truncate hscale (by decide)
    rw [← neg_neg range, roundedValue_neg]
    omega

end RangeDraw

namespace RowRandomInt

/-- `NextInt` on bounds of 32 bits, with the rounding of the processor. -/
def nextIntRounded (fl : Rounding kDoubleError) (lo hi : Int) (g : RowRandomInt) :
    Int × RowRandomInt :=
  ((RangeDraw.rounded fl).nextInt g.nextRand.seed lo hi, g.nextRand)

lemma nextInt_rounded (fl : Rounding kDoubleError) {lo hi : Int} (hlo : -2147483648 ≤ lo)
    (hlo' : lo < 2147483648) (hhi : -2147483648 ≤ hi) (hhi' : hi < 2147483648) (g : RowRandomInt) :
    g.nextInt (RangeDraw.rounded fl).sampler lo hi = g.nextIntRounded fl lo hi := by
  refine Prod.ext ?_ rfl
  exact if_pos ⟨hlo, hlo', hhi, hhi'⟩

lemma nextInt_mem (sampler : IntSampler) {g : RowRandomInt} (h : g.SeedInRange) {lo hi : Int}
    (hle : lo ≤ hi) (hrange : hi - lo ≤ 2147483646) :
    lo ≤ (g.nextInt sampler lo hi).1 ∧ (g.nextInt sampler lo hi).1 ≤ hi := by
  have hnext := nextSeed_iterate_mem h 1
  exact sampler.pick_mem _ lo hi hnext.1 hnext.2 hle hrange

end RowRandomInt

/-- `length` characters of the pool from `offset` on, all of them inside the pool. -/
structure TextPool.IsView (pool : TextPool) (offset length : Int) (view : List Char) : Prop where
  offset_nonneg : 0 ≤ offset
  inside : offset + length ≤ pool.getSize
  view_eq : view = pool.getView offset (offset + length)
  view_length : (view.length : Int) = length

lemma TextPool.isView {pool : TextPool} {offset length : Int} (hoffset : 0 ≤ offset)
    (hlength : 0 ≤ length) (hinside : offset + length ≤ pool.getSize) :
    pool.IsView offset length (pool.getView offset (offset + length)) := by
  refine ⟨hoffset, hinside, rfl, ?_⟩
  have hbound : offset + length ≤ pool.text.length := hinside
  have hcount : (offset + length - offset).toNat ≤ (pool.text.drop offset.toNat).length := by
    rw [List.length_drop]
    omega
  unfold getView
  rw [List.length_take_of_le hcount]
  omega

namespace RandomText

/-- A text is empty where the pool is too small, else a part of the pool with a length between the
bounds. -/
def InPool (s : RandomText) (text : List Char) : Prop :=
  (s.params.textPool.getSize ≤ s.params.maxLength ∧ text = []) ∨
    s.params.maxLength < s.params.textPool.getSize ∧ ∃ offset length : Int,
      s.params.textPool.IsView offset length text ∧ s.params.minLength ≤ length ∧
        length ≤ s.params.maxLength

lemma nextValue_inPool (sampler : IntSampler) {s : RandomText} (hseed : s.inner.SeedInRange)
    (hsize : s.params.textPool.getSize ≤ 2147483646) (hmin : 0 ≤ s.params.minLength)
    (hle : s.params.minLength ≤ s.params.maxLength) : s.InPool (nextValue sampler s).1 := by
  by_cases hsmall : s.params.textPool.getSize ≤ s.params.maxLength
  · refine Or.inl ⟨hsmall, ?_⟩
    unfold nextValue
    rw [if_pos hsmall]
  · have hnext : s.inner.nextRand.SeedInRange := RowRandomInt.nextSeed_iterate_mem hseed 1
    obtain ⟨hoffset, hoffset'⟩ := RowRandomInt.nextInt_mem sampler hseed
      (show 0 ≤ s.params.textPool.getSize - s.params.maxLength by omega) (by omega)
    obtain ⟨hlength, hlength'⟩ := RowRandomInt.nextInt_mem sampler hnext hle (by omega)
    have hview := TextPool.isView hoffset (hmin.trans hlength)
      (show _ ≤ s.params.textPool.getSize by omega)
    unfold nextValue
    rw [if_neg hsmall]
    exact Or.inr ⟨not_le.mp hsmall, _, _, hview, hlength, hlength'⟩

end RandomText

/-- With every rounding, a draw is in its interval and a text inside its pool. -/
theorem rounded_draws (fl : Rounding kDoubleError) :
    (∀ (g : RowRandomInt) (lo hi : Int), 0 ≤ g.seed → g.seed ≤ 2147483646 → -2147483648 ≤ lo →
      hi < 2147483648 → lo ≤ hi → hi - lo ≤ 2147483646 →
        lo ≤ (g.nextIntRounded fl lo hi).1 ∧ (g.nextIntRounded fl lo hi).1 ≤ hi) ∧
    ∀ s : RandomText, 0 ≤ s.inner.seed → s.inner.seed ≤ 2147483646 →
      s.params.textPool.getSize ≤ 2147483646 → 0 ≤ s.params.minLength →
      s.params.minLength ≤ s.params.maxLength →
        s.InPool (s.nextValue (RangeDraw.rounded fl).sampler).1 := by
  constructor
  · intro g lo hi hseed hseed' hlo hhi hle hrange
    have hin : g.SeedInRange := ⟨hseed, Int.lt_of_le_sub_one hseed'⟩
    have hmem := RowRandomInt.nextInt_mem (RangeDraw.rounded fl).sampler hin hle hrange
    rwa [RowRandomInt.nextInt_rounded fl hlo (by omega) (by omega) hhi] at hmem
  · intro s hseed hseed' hsize hmin hle
    have hin : s.inner.SeedInRange := ⟨hseed, Int.lt_of_le_sub_one hseed'⟩
    exact RandomText.nextValue_inPool _ hin hsize hmin hle

theorem rounded_draws_exact :
    1 ≤ (RowRandomInt.nextIntRounded (Rounding.exact kDoubleError_nonneg) 1 2147483647
        ⟨2147483646, 0, 1⟩).1 ∧
      (RandomText.new 1 ⟨"carefully final foxes".toList⟩ 5 1).InPool
        ((RandomText.new 1 ⟨"carefully final foxes".toList⟩ 5 1).nextValue
          (RangeDraw.rounded (Rounding.exact kDoubleError_nonneg)).sampler).1 :=
  ⟨((rounded_draws (Rounding.exact kDoubleError_nonneg)).1 ⟨2147483646, 0, 1⟩ 1 2147483647 (by decide)
      (by decide) (by decide) (by decide) (by decide) (by decide)).1,
    (rounded_draws (Rounding.exact kDoubleError_nonneg)).2 _ (by decide) (by decide) (by decide)
      (by decide) (by decide)⟩

end Schengen.Random
