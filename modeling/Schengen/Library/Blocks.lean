import Mathlib.Algebra.BigOperators.Intervals
import Mathlib.Algebra.Order.BigOperators.Group.Finset

/-!
# Consecutive blocks

Positions on a line that is cut into consecutive blocks. Every position lies in one block, and the
blocks and the places inside them order the positions as they lie on the line.
-/

namespace Schengen.Library

/-- The position where a block starts. -/
def blockStart (length : Nat → Nat) (block : Nat) : Nat := ∑ i ∈ Finset.range block, length i

/-- The position lies at a place inside the block. -/
structure Located (length : Nat → Nat) (position block place : Nat) : Prop where
  inside : place < length block
  position_eq : blockStart length block + place = position

variable {length : Nat → Nat} {position position' block block' place place' : Nat}

lemma blockStart_succ (length : Nat → Nat) (block : Nat) :
    blockStart length (block + 1) = blockStart length block + length block :=
  Finset.sum_range_succ length block

lemma blockStart_mono (length : Nat → Nat) : Monotone (blockStart length) := by
  intro b c hbc
  exact Finset.sum_le_sum_of_subset (Finset.range_mono hbc)

/-- The blocks from `first` on. -/
lemma sum_Ico_eq_blockStart (length : Nat → Nat) (first block : Nat) :
    ∑ i ∈ Finset.Ico first (first + block), length i =
      blockStart (fun i => length (first + i)) block := by
  rw [Finset.sum_Ico_eq_sum_range, Nat.add_sub_cancel_left]
  rfl

lemma Located.lt_of_block_lt (h : Located length position block place)
    (h' : Located length position' block' place') (hlt : block < block') : position < position' := by
  have hnext : blockStart length (block + 1) ≤ blockStart length block' := blockStart_mono length hlt
  rw [blockStart_succ] at hnext
  calc position = blockStart length block + place := h.position_eq.symm
    _ < blockStart length block + length block := Nat.add_lt_add_left h.inside _
    _ ≤ blockStart length block' := hnext
    _ ≤ position' := Nat.le.intro h'.position_eq

/-- The order of the positions is that of the blocks, and inside a block that of the places. -/
theorem Located.lt_iff (h : Located length position block place)
    (h' : Located length position' block' place') :
    position < position' ↔ block < block' ∨ block = block' ∧ place < place' := by
  constructor
  · intro hlt
    rcases lt_trichotomy block block' with hblock | rfl | hblock
    · exact Or.inl hblock
    · rw [← h.position_eq, ← h'.position_eq] at hlt
      exact Or.inr ⟨rfl, Nat.lt_of_add_lt_add_left hlt⟩
    · exact absurd (h'.lt_of_block_lt h hblock) (Nat.lt_asymm hlt)
  · rintro (hblock | ⟨rfl, hplace⟩)
    · exact h.lt_of_block_lt h' hblock
    · rw [← h.position_eq, ← h'.position_eq]
      exact Nat.add_lt_add_left hplace _

/-- A position between the start of a block and the start of the next one. -/
lemma located_of_mem (hlow : blockStart length block ≤ position)
    (hhigh : position < blockStart length (block + 1)) :
    Located length position block (position - blockStart length block) where
  inside := by
    rw [blockStart_succ] at hhigh
    omega
  position_eq := Nat.add_sub_cancel' hlow

end Schengen.Library
