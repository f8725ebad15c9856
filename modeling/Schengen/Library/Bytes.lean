import Mathlib.Algebra.Order.Ring.Nat
import Mathlib.Data.List.Basic

/-!
# Byte strings

Numbers with their lowest byte first, and ranges of a byte string.
-/

namespace Schengen.Library

/-- A number in `width` bytes, the lowest one first. -/
def leBytes : Nat → Nat → List UInt8
  | 0, _ => []
  | width + 1, n => UInt8.ofNat n :: leBytes width (n / 256)

/-- The number whose bytes these are. -/
def leNat : List UInt8 → Nat
  | [] => 0
  | byte :: bytes => byte.toNat + 256 * leNat bytes

lemma leBytes_length (width n : Nat) : (leBytes width n).length = width := by
  induction width generalizing n with
  | zero => rfl
  | succ width ih => exact congrArg (· + 1) (ih (n / 256))

lemma leNat_leBytes {width n : Nat} (h : n < 256 ^ width) : leNat (leBytes width n) = n := by
  induction width generalizing n with
  | zero =>
    rw [pow_zero] at h
    exact (Nat.lt_one_iff.mp h).symm
  | succ width ih =>
    have hhigh : n / 256 < 256 ^ width := by
      rw [Nat.div_lt_iff_lt_mul (by decide), ← pow_succ]
      exact h
    have hlow : (UInt8.ofNat n).toNat = n % 256 := UInt8.toNat_ofNat'
    rw [leBytes, leNat, ih hhigh, hlow]
    exact Nat.mod_add_div n 256

/-! ## Ranges -/

variable {α : Type*}

def range (xs : List α) (start length : Nat) : List α := (xs.drop start).take length

lemma range_append_left {xs ys : List α} {start length : Nat} (h : start + length ≤ xs.length) :
    range (xs ++ ys) start length = range xs start length := by
  unfold range
  rw [List.drop_append_of_le_length (by omega), List.take_append_of_le_length]
  rw [List.length_drop]
  omega

lemma range_append_right (xs ys : List α) (start length : Nat) :
    range (xs ++ ys) (xs.length + start) length = range ys start length := by
  unfold range
  rw [List.drop_append, List.drop_eq_nil_of_le (Nat.le_add_right _ _), Nat.add_sub_cancel_left,
    List.nil_append]

lemma range_self (xs ys zs : List α) :
    range (xs ++ (ys ++ zs)) xs.length ys.length = ys := by
  unfold range
  rw [List.drop_left, List.take_left]

end Schengen.Library
