import Mathlib.Data.List.Basic
import Mathlib.Tactic.Common

/-!
# Overwriting parts of a list

A slice that must lie inside the list, and a list whose entries from a position on are replaced by
others.
-/

namespace Schengen.Library

variable {α : Type*}

/-- The `count` entries from `start` on, if they all lie in the list. -/
def readSlice (xs : List α) (start count : Int) : Option (List α) :=
  if 0 ≤ start ∧ 0 ≤ count ∧ start + count ≤ xs.length then
    some ((xs.drop start.toNat).take count.toNat)
  else none

/-- The entries from `i` on are replaced by `ys`. -/
def overwrite (xs : List α) (i : Nat) (ys : List α) : List α :=
  xs.take i ++ ys ++ xs.drop (i + ys.length)

variable {xs ys zs : List α} {i j k n : Nat}

lemma readSlice_eq {start count : Int} (hstart : start = i) (hcount : count = n)
    (h : i + n ≤ xs.length) : readSlice xs start count = some ((xs.drop i).take n) := by
  subst hstart hcount
  unfold readSlice
  rw [if_pos ⟨by omega, by omega, by omega⟩, Int.toNat_natCast, Int.toNat_natCast]

lemma length_overwrite (h : i + ys.length ≤ xs.length) : (overwrite xs i ys).length = xs.length := by
  unfold overwrite
  simp only [List.length_append, List.length_take, List.length_drop]
  omega

/-- What was written is read back. -/
lemma slice_overwrite (h : i ≤ xs.length) : ((overwrite xs i ys).drop i).take ys.length = ys := by
  have hlength : (xs.take i).length = i := List.length_take_of_le h
  unfold overwrite
  rw [List.append_assoc, List.drop_append_of_le_length (by omega), List.drop_of_length_le (by omega),
    List.nil_append, List.take_left]

/-- The other entries stay. -/
lemma getElem?_overwrite (h : i + ys.length ≤ xs.length) (hk : ¬ (i ≤ k ∧ k < i + ys.length)) :
    (overwrite xs i ys)[k]? = xs[k]? := by
  have hlength : (xs.take i ++ ys).length = i + ys.length := by
    rw [List.length_append, List.length_take_of_le (by omega)]
  unfold overwrite
  by_cases hbefore : k < i
  · rw [List.append_assoc, List.getElem?_append_left (by rw [List.length_take]; omega),
      List.getElem?_take_of_lt hbefore]
  · rw [List.getElem?_append_right (by omega), hlength, List.getElem?_drop]
    congr 1
    omega

/-- Two places that are overwritten, one behind the other. -/
lemma overwrite_overwrite (hij : i + ys.length ≤ j) (hj : j ≤ xs.length) :
    overwrite (overwrite xs i ys) j zs = xs.take i ++ ys ++
      (xs.drop (i + ys.length)).take (j - (i + ys.length)) ++ zs ++ xs.drop (j + zs.length) := by
  have hlength : (xs.take i ++ ys).length = i + ys.length := by
    rw [List.length_append, List.length_take_of_le (by omega)]
  have htake : (overwrite xs i ys).take j =
      xs.take i ++ ys ++ (xs.drop (i + ys.length)).take (j - (i + ys.length)) := by
    unfold overwrite
    rw [List.take_append, hlength, List.take_of_length_le (by omega)]
  have hdrop : (overwrite xs i ys).drop (j + zs.length) = xs.drop (j + zs.length) := by
    unfold overwrite
    rw [List.drop_append, hlength, List.drop_of_length_le (by omega), List.nil_append, List.drop_drop]
    congr 1
    omega
  conv_lhs => rw [overwrite, htake, hdrop]

end Schengen.Library
