import Schengen.Random.RowRandomLong

/-!
# The queue of parts

`PartitionRangeQueue` hands out the parts `1, 2, ...` by a fetch-and-add on a counter of 32 bits.
`Pop` makes two accesses: the load of `closed_` and the fetch-and-add.
-/

namespace Schengen.Storage
open Schengen.Random

structure PartitionRangeQueue where
  next : Int
  partCount : Int
  closed : Bool
  deriving DecidableEq

namespace PartitionRangeQueue

def new (partCount : Int) : PartitionRangeQueue := ⟨1, partCount, false⟩

/-- The part that `next_.fetch_add(1)` returns, or `none` where it is beyond the last one. -/
def fetchAdd (q : PartitionRangeQueue) : Option Int × PartitionRangeQueue :=
  (if q.next > q.partCount then none else some q.next, { q with next := toInt32 (q.next + 1) })

def close (q : PartitionRangeQueue) : PartitionRangeQueue := { q with closed := true }

/-- The parts up to `taken` are handed out, and `refused` calls found none left. -/
structure Handed (q : PartitionRangeQueue) (parts taken refused : Nat) : Prop where
  partCount : q.partCount = parts
  next : q.next = toInt32 (taken + refused + 1)
  taken_le : taken ≤ parts
  refused_after : 0 < refused → taken = parts

lemma handed_new (parts : Nat) : (new parts).Handed parts 0 0 where
  partCount := rfl
  next := by
    rw [toInt32_eq (by decide) (by decide)]
    rfl
  taken_le := Nat.zero_le _
  refused_after h := absurd h (Nat.lt_irrefl 0)

lemma Handed.close {q : PartitionRangeQueue} {parts taken refused : Nat}
    (h : q.Handed parts taken refused) : q.close.Handed parts taken refused :=
  ⟨h.partCount, h.next, h.taken_le, h.refused_after⟩

/-- The next part, or one more refusal, while the counter has not wrapped. -/
lemma Handed.fetchAdd {q : PartitionRangeQueue} {parts taken refused : Nat}
    (h : q.Handed parts taken refused) (hfits : parts + refused < 2147483647) :
    (taken < parts ∧ q.fetchAdd.1 = some ((taken : Int) + 1) ∧
        q.fetchAdd.2.Handed parts (taken + 1) refused) ∨
      (taken = parts ∧ q.fetchAdd.1 = none ∧
        q.fetchAdd.2.Handed parts taken (refused + 1)) := by
  have htaken := h.taken_le
  have hrefused := h.refused_after
  have hcount := h.partCount
  have hnext : q.next = taken + refused + 1 := by
    rw [h.next]
    exact toInt32_eq (by omega) (by omega)
  unfold PartitionRangeQueue.fetchAdd
  rcases Nat.lt_or_ge taken parts with hlt | hge
  · have hzero : refused = 0 := by omega
    refine Or.inl ⟨hlt, ?_, hcount, ?_, hlt, fun hpos => by omega⟩
    · rw [if_neg (by omega), hnext, hzero]
      simp
    · change toInt32 (q.next + 1) = _
      rw [hnext, show (taken : Int) + refused + 1 + 1 = (taken + 1 : Nat) + refused + 1 by omega]
  · refine Or.inr ⟨by omega, if_pos (by omega), hcount, ?_, htaken, fun _ => by omega⟩
    change toInt32 (q.next + 1) = _
    rw [hnext, show (taken : Int) + refused + 1 + 1 = taken + (refused + 1 : Nat) + 1 by omega]

end PartitionRangeQueue

/-- `ResolveWorkerCount`; `configured` is 0 where nothing was configured. -/
def resolveWorkerCount (configured : Nat) (partCount : Int) : Nat :=
  let maxWorkers := (max 1 partCount).toNat
  if configured = 0 then maxWorkers else min configured maxWorkers

lemma resolveWorkerCount_pos (configured : Nat) (partCount : Int) :
    1 ≤ resolveWorkerCount configured partCount := by
  unfold resolveWorkerCount
  dsimp only
  split <;> omega

end Schengen.Storage
