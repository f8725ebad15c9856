import Mathlib.Data.List.Basic
import Mathlib.Data.List.Nodup
import Mathlib.Data.List.Perm.Basic
import Mathlib.Order.Basic

/-!
# Partial shuffles

The shuffle that exchanges the entry at every position with a drawn entry at this position or behind
it, stopped before the end of the list. The list stays a permutation, the positions that were passed
stay as they are, and every choice of different entries is the result of some draws.
-/

namespace Schengen.Library

variable {α β : Type*}

/-- The exchanges at the positions from `i` on, with the drawn positions. -/
def partialShuffle : Nat → List Nat → List α → List α
  | _, [], xs => xs
  | i, d :: ds, xs => partialShuffle (i + 1) ds (xs.swap i d)

/-- Every position from `i` on is exchanged with itself or one behind it, inside a list of the
length. -/
def DrawsFrom (length : Nat) : Nat → List Nat → Prop
  | _, [] => True
  | i, d :: ds => (i ≤ d ∧ d < length) ∧ DrawsFrom length (i + 1) ds

variable {xs : List α} {i j : Nat}

lemma swap_perm (xs : List α) (i j : Nat) : (xs.swap i j).Perm xs := by
  rw [List.swap_eq]
  split
  · next h => exact List.set_set_perm h.1 h.2
  · rfl

lemma swap_map (f : α → β) (xs : List α) (i j : Nat) :
    (xs.map f).swap i j = (xs.swap i j).map f := by
  rw [List.swap_eq, List.swap_eq]
  simp only [List.length_map, List.getElem_map]
  split
  · rw [List.map_set, List.map_set]
  · rfl

/-- The positions before both stay as they are. -/
lemma take_swap (hij : i ≤ j) (hj : j < xs.length) :
    (xs.swap i j).take (i + 1) = xs.take i ++ [xs[j]] := by
  have hi : i < (xs.swap i j).length := by
    rw [List.length_swap]
    omega
  rw [List.take_succ_eq_append_getElem hi, List.getElem_swap_left hi, dif_pos hj]
  congr 1
  apply List.ext_getElem
  · simp only [List.length_take, List.length_swap]
  · intro k hk hk'
    rw [List.length_take] at hk
    rw [List.getElem_take, List.getElem_take, List.getElem_swap_of_ne (by omega) (by omega)]

lemma partialShuffle_perm (ds : List Nat) (i : Nat) (xs : List α) :
    (partialShuffle i ds xs).Perm xs := by
  induction ds generalizing i xs with
  | nil => rfl
  | cons d ds ih => exact (ih (i + 1) _).trans (swap_perm xs i d)

/-- Shuffling entries is shuffling their positions. -/
lemma partialShuffle_map (f : α → β) (ds : List Nat) (i : Nat) (xs : List α) :
    partialShuffle i ds (xs.map f) = (partialShuffle i ds xs).map f := by
  induction ds generalizing i xs with
  | nil => rfl
  | cons d ds ih => rw [partialShuffle, partialShuffle, swap_map, ih]

/-- Every list of different entries is the result of some draws. -/
theorem exists_draws {ys : List α} (hys : ys.Nodup) (hmem : ∀ y ∈ ys, y ∈ xs.drop i) :
    ∃ ds : List Nat, ds.length = ys.length ∧ DrawsFrom xs.length i ds ∧
      (partialShuffle i ds xs).take (i + ys.length) = xs.take i ++ ys := by
  induction ys generalizing i xs with
  | nil => exact ⟨[], rfl, trivial, by simp [partialShuffle]⟩
  | cons y ys ih =>
    obtain ⟨hy, hys⟩ := List.nodup_cons.mp hys
    obtain ⟨k, hk, hget⟩ := List.mem_iff_getElem.mp (hmem y List.mem_cons_self)
    rw [List.length_drop] at hk
    rw [List.getElem_drop] at hget
    have htake := @take_swap _ xs _ _ (Nat.le_add_right i k) (by omega)
    rw [hget] at htake
    -- the exchange moves no entry but `y` to the front
    have hperm : (y :: (xs.swap i (i + k)).drop (i + 1)).Perm (xs.drop i) := by
      have hall := swap_perm xs i (i + k)
      rw [← List.take_append_drop (i + 1) (xs.swap i (i + k)), htake, List.append_assoc] at hall
      have hsplit := hall.trans (List.Perm.of_eq (List.take_append_drop i xs).symm)
      exact (List.perm_append_left_iff _).mp hsplit
    have hrest : ∀ z ∈ ys, z ∈ (xs.swap i (i + k)).drop (i + 1) := by
      intro z hz
      rcases List.mem_cons.mp (hperm.mem_iff.mpr (hmem z (List.mem_cons_of_mem y hz))) with rfl | h
      · exact absurd hz hy
      · exact h
    obtain ⟨ds, hlength, hdraws, hresult⟩ := ih hys hrest
    rw [List.length_swap] at hdraws
    refine ⟨(i + k) :: ds, congrArg Nat.succ hlength, ⟨⟨Nat.le_add_right i k, by omega⟩, hdraws⟩, ?_⟩
    rw [partialShuffle, List.length_cons, ← Nat.add_assoc, Nat.add_right_comm, hresult, htake,
      List.append_assoc, List.singleton_append]

end Schengen.Library
