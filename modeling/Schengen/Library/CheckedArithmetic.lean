import Mathlib.Algebra.Group.Int.Defs
import Mathlib.Data.Option.Basic
import Mathlib.Tactic.Common

/-!
# Checked arithmetic

Operations on signed integers of a given width that stop where the machine's would overflow or
divide by zero. On operands that are not negative they divide as integers do.
-/

namespace Schengen.Library

/-- A signed integer of `bits` bits. -/
def Fits (bits : Nat) (x : Int) : Prop := -2 ^ (bits - 1) ≤ x ∧ x < 2 ^ (bits - 1)

instance (bits : Nat) (x : Int) : Decidable (Fits bits x) := inferInstanceAs (Decidable (_ ∧ _))

/-- The result of an operation, if it fits. -/
def checked (bits : Nat) (x : Int) : Option Int := if Fits bits x then some x else none

def checkedDiv (bits : Nat) (x y : Int) : Option Int :=
  if y = 0 then none else checked bits (x.tdiv y)

/-- The remainder is defined where the quotient is. -/
def checkedMod (bits : Nat) (x y : Int) : Option Int :=
  (checkedDiv bits x y).map fun _ => x.tmod y

variable {bits : Nat} {x y : Int}

lemma Fits.of_le (h : Fits bits x) (hy : 0 ≤ y) (hyx : y ≤ x) : Fits bits y := by
  have hpos : (0 : Int) < 2 ^ (bits - 1) := Int.pow_pos (by decide)
  exact ⟨by omega, by have := h.2; omega⟩

lemma checked_eq (h : Fits bits x) : checked bits x = some x := if_pos h

lemma checkedDiv_eq (hx : 0 ≤ x) (hy : 0 < y) (h : Fits bits x) :
    checkedDiv bits x y = some (x / y) := by
  unfold checkedDiv
  rw [if_neg (by omega), Int.tdiv_eq_ediv_of_nonneg hx]
  exact checked_eq (h.of_le (Int.ediv_nonneg hx (Int.le_of_lt hy)) (Int.ediv_le_self y hx))

lemma checkedMod_eq (hx : 0 ≤ x) (hy : 0 < y) (h : Fits bits x) :
    checkedMod bits x y = some (x % y) := by
  unfold checkedMod
  rw [checkedDiv_eq hx hy h, Option.map_some, Int.tmod_eq_emod_of_nonneg hx]

end Schengen.Library
