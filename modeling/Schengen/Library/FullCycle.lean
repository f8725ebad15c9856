import Mathlib.Algebra.Ring.Parity
import Mathlib.Data.Finset.Card
import Mathlib.Data.Nat.Factorization.Basic
import Mathlib.Dynamics.PeriodicPts.Lemmas
import Mathlib.Tactic.Ring

/-!
# Maps with a full cycle

A map of a finite set with `2 ^ (k + 1)` elements whose `2 ^ (k + 1)`-th iterate is the
identity, and whose `2 ^ k`-th iterate moves every element, visits the whole set from every
element. A function that agrees along two different points of the cycle does not see the
`2 ^ k`-th iterate.
-/

namespace Schengen.Library
open Function

structure FullCycle {α : Type*} (f : α → α) (S : Finset α) (k : Nat) : Prop where
  maps : ∀ x ∈ S, f x ∈ S
  card : S.card = 2 ^ (k + 1)
  period : ∀ x ∈ S, f^[2 ^ (k + 1)] x = x
  moves : ∀ x ∈ S, f^[2 ^ k] x ≠ x

namespace FullCycle

variable {α β : Type*} {f : α → α} {S : Finset α} {k : Nat} {x y : α}

lemma iterate_mem (h : FullCycle f S k) (hx : x ∈ S) (n : Nat) : f^[n] x ∈ S := by
  induction n with
  | zero => exact hx
  | succ n ih =>
    rw [iterate_succ_apply']
    exact h.maps _ ih

lemma minimalPeriod_eq (h : FullCycle f S k) (hx : x ∈ S) : minimalPeriod f x = 2 ^ (k + 1) :=
  minimalPeriod_eq_prime_pow (h.moves x hx) (h.period x hx)

/-- Every element is reached from every element. -/
theorem exists_iterate (h : FullCycle f S k) (hx : x ∈ S) (hy : y ∈ S) : ∃ n, f^[n] x = y := by
  classical
  have hsubset : (Finset.range (2 ^ (k + 1))).image (f^[·] x) ⊆ S := by
    intro z hz
    obtain ⟨n, -, rfl⟩ := Finset.mem_image.mp hz
    exact h.iterate_mem hx n
  have hcard : ((Finset.range (2 ^ (k + 1))).image (f^[·] x)).card = 2 ^ (k + 1) := by
    rw [Finset.card_image_of_injOn, Finset.card_range]
    have hinj := iterate_injOn_Iio_minimalPeriod (f := f) (x := x)
    rw [h.minimalPeriod_eq hx] at hinj
    intro m hm n hn
    exact hinj (Finset.mem_range.mp hm) (Finset.mem_range.mp hn)
  have himage := Finset.eq_of_subset_of_card_le hsubset (by rw [h.card, hcard])
  rw [← himage] at hy
  obtain ⟨n, -, hn⟩ := Finset.mem_image.mp hy
  exact ⟨n, hn⟩

/-- Every element is reached after at least one step. -/
lemma exists_iterate_succ (h : FullCycle f S k) (hx : x ∈ S) (hy : y ∈ S) :
    ∃ n, f^[n + 1] x = y := by
  obtain ⟨n, hn⟩ := h.exists_iterate (h.maps x hx) hy
  exact ⟨n, hn⟩

lemma iterate_mul_period (h : FullCycle f S k) (hx : x ∈ S) (q : Nat) :
    f^[2 ^ (k + 1) * q] x = x := by
  induction q with
  | zero => rfl
  | succ q ih => rw [Nat.mul_succ, iterate_add_apply, h.period x hx, ih]

lemma iterate_odd_mul (h : FullCycle f S k) (hx : x ∈ S) {m : Nat} (hm : Odd m) :
    f^[2 ^ k * m] x = f^[2 ^ k] x := by
  obtain ⟨q, rfl⟩ := hm
  have hsplit : 2 ^ k * (2 * q + 1) = 2 ^ k + 2 ^ (k + 1) * q := by ring
  rw [hsplit, iterate_add_apply, h.iterate_mul_period hx]

/-- A function that is the same all along the cycle from `x` and from `y`, from the first
step on, is the same at opposite elements of the cycle. -/
theorem eq_opposite (h : FullCycle f S k) (hx : x ∈ S) (hy : y ∈ S) (hne : x ≠ y) {φ : α → β}
    (hφ : ∀ n, φ (f^[n + 1] x) = φ (f^[n + 1] y)) {z : α} (hz : z ∈ S) :
    φ z = φ (f^[2 ^ k] z) := by
  obtain ⟨d, rfl⟩ := h.exists_iterate hx hy
  have hshift : ∀ {u}, u ∈ S → φ u = φ (f^[d] u) := by
    intro u hu
    obtain ⟨n, rfl⟩ := h.exists_iterate_succ hx hu
    rw [hφ n, ← iterate_add_apply, ← iterate_add_apply, Nat.add_comm]
  have hshifts : ∀ i {u}, u ∈ S → φ u = φ (f^[d * i] u) := by
    intro i
    induction i with
    | zero => intro u _; rfl
    | succ i ih =>
      intro u hu
      rw [Nat.mul_succ, iterate_add_apply, ← ih (h.iterate_mem hu d)]
      exact hshift hu
  have hd : d ≠ 0 := by
    rintro rfl
    exact hne rfl
  obtain ⟨v, m, hm, rfl⟩ := Nat.exists_eq_two_pow_mul_odd hd
  have hv : v ≤ k := by
    by_contra hlt
    obtain ⟨e, rfl⟩ : ∃ e, v = k + 1 + e := ⟨v - (k + 1), by omega⟩
    refine hne ?_
    rw [pow_add, mul_assoc, h.iterate_mul_period hx]
  have hsplit : 2 ^ v * m * 2 ^ (k - v) = 2 ^ k * m := by
    calc 2 ^ v * m * 2 ^ (k - v) = 2 ^ v * 2 ^ (k - v) * m := by ring
      _ = 2 ^ k * m := by rw [← pow_add, Nat.add_sub_cancel' hv]
  rw [hshifts (2 ^ (k - v)) hz, hsplit, h.iterate_odd_mul hz hm]

end FullCycle

end Schengen.Library
