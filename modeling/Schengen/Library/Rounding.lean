import Mathlib.Algebra.Order.Field.Basic
import Mathlib.Algebra.Order.Floor.Ring
import Mathlib.Tactic.Linarith
import Mathlib.Tactic.Positivity
import Mathlib.Tactic.Ring

/-!
# Rounded products

A rounding function stays within a relative error `u` of the exact value. A fraction is rounded,
scaled and rounded again: the result stays below the scale as long as the fraction is further from
one than two rounding errors. The conversion to an integer truncates toward zero.
-/

namespace Schengen.Library

variable {K : Type*} [Field K] [LinearOrder K] [IsStrictOrderedRing K]

/-- A rounding within the relative error `u`. -/
structure Rounding (u : K) where
  round : K → K
  error : ∀ x, |round x - x| ≤ u * |x|

namespace Rounding

variable {u : K} (fl : Rounding u) {x y : K}

/-- Exact arithmetic. -/
def exact (hu : 0 ≤ u) : Rounding u where
  round := id
  error x := by
    rw [id_eq, sub_self, abs_zero]
    exact mul_nonneg hu (abs_nonneg x)

lemma round_le (hx : 0 ≤ x) : fl.round x ≤ (1 + u) * x := by
  have herror := (abs_le.mp (fl.error x)).2
  rw [abs_of_nonneg hx] at herror
  linarith

lemma le_round (hx : 0 ≤ x) : (1 - u) * x ≤ fl.round x := by
  have herror := (abs_le.mp (fl.error x)).1
  rw [abs_of_nonneg hx] at herror
  linarith

@[simp] lemma round_zero : fl.round 0 = 0 := by
  have herror := fl.error 0
  rw [sub_zero, abs_zero, mul_zero] at herror
  exact abs_nonpos_iff.mp herror

/-- The mirror image of a rounding. -/
def neg : Rounding u where
  round x := -fl.round (-x)
  error x := by
    have herror := fl.error (-x)
    rwa [abs_neg, ← abs_neg, show -(fl.round (-x) - -x) = -fl.round (-x) - x by ring] at herror

/-- A rounded fraction, scaled and rounded again. -/
def scale (fl' : Rounding u) (fraction range : K) : K := fl'.round (fl.round fraction * range)

variable (fl' : Rounding u)

omit [IsStrictOrderedRing K] in
/-- A negative scale, seen in the mirror. -/
lemma scale_neg (fraction range : K) :
    fl.scale fl' fraction (-range) = -fl.scale fl'.neg fraction range := by
  unfold scale neg
  rw [neg_neg, mul_neg]

lemma round_nonneg (hu : u ≤ 1) (hx : 0 ≤ x) : 0 ≤ fl.round x :=
  (mul_nonneg (by linarith) hx).trans (fl.le_round hx)

lemma scale_nonneg (hu : u ≤ 1) (hx : 0 ≤ x) (hy : 0 ≤ y) : 0 ≤ fl.scale fl' x y :=
  fl'.round_nonneg hu (mul_nonneg (fl.round_nonneg hu hx) hy)

lemma scale_le (hu : 0 ≤ u) (hu' : u ≤ 1) (hx : 0 ≤ x) (hy : 0 ≤ y) :
    fl.scale fl' x y ≤ (1 + u) ^ 2 * (x * y) := by
  have hproduct : 0 ≤ fl.round x * y := mul_nonneg (fl.round_nonneg hu' hx) hy
  calc fl.scale fl' x y ≤ (1 + u) * (fl.round x * y) := fl'.round_le hproduct
    _ ≤ (1 + u) * ((1 + u) * x * y) :=
        mul_le_mul_of_nonneg_left (mul_le_mul_of_nonneg_right (fl.round_le hx) hy) (by linarith)
    _ = (1 + u) ^ 2 * (x * y) := by ring

lemma le_scale (hu : u ≤ 1) (hx : 0 ≤ x) (hy : 0 ≤ y) :
    (1 - u) ^ 2 * (x * y) ≤ fl.scale fl' x y := by
  have hproduct : 0 ≤ fl.round x * y := mul_nonneg (fl.round_nonneg hu hx) hy
  calc (1 - u) ^ 2 * (x * y) = (1 - u) * ((1 - u) * x * y) := by ring
    _ ≤ (1 - u) * (fl.round x * y) :=
        mul_le_mul_of_nonneg_left (mul_le_mul_of_nonneg_right (fl.le_round hx) hy) (by linarith)
    _ ≤ fl.scale fl' x y := fl'.le_round hproduct

/-- Two rounding errors do not take a fraction up to the whole. -/
theorem scale_lt (hu : 0 ≤ u) (hu' : u ≤ 1) (hx : 0 ≤ x) (hx' : (1 + u) ^ 2 * x < 1) (hy : 0 < y) :
    fl.scale fl' x y < y := by
  calc fl.scale fl' x y ≤ (1 + u) ^ 2 * (x * y) := fl.scale_le fl' hu hu' hx hy.le
    _ = (1 + u) ^ 2 * x * y := by ring
    _ < 1 * y := mul_lt_mul_of_pos_right hx' hy
    _ = y := one_mul y

end Rounding

section Truncate

variable [FloorRing K] {x : K} {n : Int}

/-- The conversion to an integer: toward zero. -/
def truncate (x : K) : Int := if 0 ≤ x then ⌊x⌋ else ⌈x⌉

omit [IsStrictOrderedRing K] in
lemma truncate_mem (hx : 0 ≤ x) (hn : x < n) : 0 ≤ truncate x ∧ truncate x < n := by
  unfold truncate
  rw [if_pos hx]
  exact ⟨Int.floor_nonneg.mpr hx, Int.floor_lt.mpr hn⟩

lemma truncate_neg (x : K) : truncate (-x) = -truncate x := by
  unfold truncate
  rcases lt_trichotomy x 0 with hneg | rfl | hpos
  · rw [if_pos (by linarith), if_neg (by linarith), Int.floor_neg]
  · simp
  · rw [if_neg (by linarith), if_pos hpos.le, Int.ceil_neg]

lemma le_truncate (hx : n ≤ x) (hn : 0 ≤ n) : n ≤ truncate x := by
  unfold truncate
  rw [if_pos ((Int.cast_nonneg hn).trans hx)]
  exact Int.le_floor.mpr hx

end Truncate

end Schengen.Library
