import Mathlib.Algebra.BigOperators.Group.List.Basic
import Mathlib.Algebra.GroupWithZero.Nat
import Mathlib.Data.List.Range
import Mathlib.Logic.Function.Basic
import Mathlib.Tactic.Common

/-!
# Counting workers

A fixed number of workers, each in a state of its own. A step changes the state of one worker, so
a sum over the workers, such as the number of those with a property, changes by what that worker
gains or loses.
-/

namespace Schengen.Library

variable {ω : Type*}

/-- What the workers below `count` weigh together. -/
def workersSum (weight : ω → Nat) (count : Nat) (state : Nat → ω) : Nat :=
  ((List.range count).map fun k => weight (state k)).sum

/-- The number of workers below `count` whose state has the property. -/
def workersWhere (p : ω → Bool) (count : Nat) (state : Nat → ω) : Nat :=
  workersSum (fun x => (p x).toNat) count state

variable {p : ω → Bool} {count worker : Nat} {state : Nat → ω} {next : ω}

lemma workersSum_succ (weight : ω → Nat) (count : Nat) (state : Nat → ω) :
    workersSum weight (count + 1) state = workersSum weight count state + weight (state count) := by
  unfold workersSum
  rw [List.range_succ, List.map_append, List.sum_append, List.map_singleton, List.sum_singleton]

lemma workersSum_congr {weight : ω → Nat} {state' : Nat → ω} (h : ∀ k < count, state k = state' k) :
    workersSum weight count state = workersSum weight count state' := by
  unfold workersSum
  congr 1
  refine List.map_congr_left fun k hk => ?_
  rw [h k (List.mem_range.mp hk)]

lemma workersSum_le_add {weight : ω → Nat} {state' : Nat → ω} {bound : Nat}
    (h : ∀ k < count, weight (state' k) ≤ weight (state k) + bound) :
    workersSum weight count state' ≤ workersSum weight count state + count * bound := by
  induction count with
  | zero => exact Nat.zero_le _
  | succ count ih =>
    have hrest := ih fun k hk => h k (by omega)
    have hlast := h count (by omega)
    rw [workersSum_succ, workersSum_succ, Nat.succ_mul]
    omega

lemma workersSum_const (weight : ω → Nat) (count : Nat) (x : ω) :
    workersSum weight count (fun _ => x) = count * weight x := by
  induction count with
  | zero => exact (Nat.zero_mul _).symm
  | succ count ih => rw [workersSum_succ, ih, Nat.succ_mul]

lemma workersSum_update (weight : ω → Nat) (hworker : worker < count) (state : Nat → ω) (next : ω) :
    workersSum weight count (Function.update state worker next) + weight (state worker) =
      workersSum weight count state + weight next := by
  induction count with
  | zero => omega
  | succ count ih =>
    rw [workersSum_succ, workersSum_succ]
    by_cases hlast : worker = count
    · subst hlast
      have hsame : workersSum weight worker (Function.update state worker next) =
          workersSum weight worker state :=
        workersSum_congr fun k hk => Function.update_of_ne (by omega) _ _
      rw [hsame, Function.update_self]
      omega
    · rw [Function.update_of_ne (Ne.symm hlast)]
      have hrest := ih (by omega)
      omega

lemma workersWhere_update (p : ω → Bool) (hworker : worker < count) (state : Nat → ω) (next : ω) :
    workersWhere p count (Function.update state worker next) + (p (state worker)).toNat =
      workersWhere p count state + (p next).toNat :=
  workersSum_update (fun x => (p x).toNat) hworker state next

lemma workersWhere_succ (p : ω → Bool) (count : Nat) (state : Nat → ω) :
    workersWhere p (count + 1) state = workersWhere p count state + (p (state count)).toNat :=
  workersSum_succ _ count state

variable (p) (count) (state) in
lemma workersWhere_le : workersWhere p count state ≤ count := by
  induction count with
  | zero => exact le_rfl
  | succ count ih =>
    rw [workersWhere_succ]
    have hone := Bool.toNat_le (p (state count))
    omega

lemma workersWhere_eq_count : workersWhere p count state = count ↔ ∀ k < count, p (state k) = true := by
  induction count with
  | zero => exact iff_of_true rfl fun k hk => absurd hk (Nat.not_lt_zero k)
  | succ count ih =>
    have hle := workersWhere_le p count state
    rw [workersWhere_succ, Nat.forall_lt_succ_right, ← ih]
    cases p (state count) with
    | true => simp
    | false => simp only [Bool.toNat_false, Bool.false_eq_true, and_false, iff_false]; omega

lemma workersWhere_eq_zero : workersWhere p count state = 0 ↔ ∀ k < count, ¬ p (state k) = true := by
  induction count with
  | zero => exact iff_of_true rfl fun k hk => absurd hk (Nat.not_lt_zero k)
  | succ count ih =>
    rw [workersWhere_succ, Nat.forall_lt_succ_right, ← ih]
    cases p (state count) <;> simp

lemma workersWhere_lt (hworker : worker < count) (h : p (state worker) = false) :
    workersWhere p count state < count := by
  refine lt_of_le_of_ne (workersWhere_le _ _ _) fun hall => ?_
  have hp := workersWhere_eq_count.mp hall worker hworker
  rw [h] at hp
  cases hp

end Schengen.Library
