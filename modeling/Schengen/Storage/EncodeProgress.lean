import Schengen.Storage.EncodeWorkersMerge
import Mathlib.Data.List.Nodup

/-!
# The parts of the parallel encoder

However the workers and the consumer interleave, every part is encoded once at most and every run is
finite.
-/

namespace Schengen.Storage
open Library

variable {μ : Type}

/-- The worker is about to encode the part. -/
def EncodeWorkerPc.holds (part : Int) : EncodeWorkerPc → Bool
  | .generate taken => taken = part
  | _ => false

def EncodeWorkerPc.generates : EncodeWorkerPc → Bool
  | .generate _ => true
  | _ => false

/-- The worker has left its loop. -/
def EncodeWorkerPc.gone : EncodeWorkerPc → Bool
  | .fetchSub => true
  | .close => true
  | .ended => true
  | _ => false

namespace EncodeWorkers

variable (run : EncodeWorkers μ)

/-! ## The parts -/

/-- The parts up to `taken` are with a worker or were encoded, each once. -/
structure PartsInv (taken refused : Nat) (s : EncodeWorkersState μ) : Prop where
  refused_le : refused ≤ workersWhere EncodeWorkerPc.gone run.workers s.worker
  handed : s.partitions.Handed run.encoder.partCount taken refused
  once : ∀ part, (s.calls.map Prod.fst).count part +
    workersWhere (EncodeWorkerPc.holds part) run.workers s.worker =
      if 1 ≤ part ∧ part ≤ taken then 1 else 0
  total : s.calls.length + workersWhere EncodeWorkerPc.generates run.workers s.worker = taken

variable {run} {s t : EncodeWorkersState μ} {taken refused k keep : Nat} {next : EncodeWorkerPc}
  {outcome : EncodeOutcome}

/-- A step of a worker that takes no part and makes no call. -/
lemma PartsInv.move (h : run.PartsInv taken refused s) (hk : k < run.workers)
    (hworker : t.worker = Function.update s.worker k next) (hcalls : t.calls = s.calls)
    (hpartitions : t.partitions = s.partitions) (hbefore : (s.worker k).generates = false)
    (hafter : next.generates = false) (hgone : (s.worker k).gone = true → next.gone = true) :
    run.PartsInv taken refused t := by
  have hholds : ∀ {pc : EncodeWorkerPc}, pc.generates = false → ∀ part, pc.holds part = false := by
    intro pc hpc part
    cases pc <;> first | rfl | cases hpc
  have hg := workersWhere_update EncodeWorkerPc.gone hk s.worker next
  have hgen := workersWhere_update EncodeWorkerPc.generates hk s.worker next
  rw [hbefore, hafter] at hgen
  refine ⟨?_, ?_, fun part => ?_, ?_⟩
  · have hle := h.refused_le
    have hmono : (s.worker k).gone.toNat ≤ next.gone.toNat := by
      cases hnow : (s.worker k).gone with
      | false => exact Nat.zero_le _
      | true => rw [hgone hnow]
    rw [hworker]
    omega
  · rw [hpartitions]
    exact h.handed
  · have hpart := workersWhere_update (EncodeWorkerPc.holds part) hk s.worker next
    rw [hholds hbefore, hholds hafter] at hpart
    have honce := h.once part
    rw [hcalls, hworker]
    omega
  · have htotal := h.total
    rw [hcalls, hworker]
    omega

/-- Taking a part: the counter has not wrapped. -/
lemma PartsInv.fetchAdd (hcount : run.encoder.partCount + run.workers ≤ 2147483647)
    (h : run.PartsInv taken refused s) (hk : k < run.workers) (hpc : s.worker k = .fetchAdd)
    (hstep : workerStep k keep outcome s = some t) :
    ∃ taken refused, run.PartsInv taken refused t := by
  have hlt : workersWhere EncodeWorkerPc.gone run.workers s.worker < run.workers :=
    workersWhere_lt hk (by rw [hpc]; rfl)
  have hle := h.refused_le
  simp only [workerStep, hpc, Option.some.injEq] at hstep
  rcases h.handed.fetchAdd (by omega) with ⟨htaken, hpart, hnext⟩ | ⟨htaken, hnone, hnext⟩
  · rw [hpart] at hstep
    subst hstep
    have hg := workersWhere_update EncodeWorkerPc.gone hk s.worker (.generate (taken + 1))
    have hgen := workersWhere_update EncodeWorkerPc.generates hk s.worker (.generate (taken + 1))
    rw [hpc] at hg hgen
    refine ⟨taken + 1, refused, ?_, hnext, fun part => ?_, ?_⟩
    · simp only [goto, EncodeWorkerPc.gone, Bool.toNat_false] at hg ⊢
      omega
    · have hholds := workersWhere_update (EncodeWorkerPc.holds part) hk s.worker
        (.generate (taken + 1))
      have honce := h.once part
      rw [hpc] at hholds
      simp only [goto, EncodeWorkerPc.holds, Bool.toNat_false, Nat.add_zero] at hholds ⊢
      by_cases hsame : (taken : Int) + 1 = part
      · rw [if_neg (by omega)] at honce
        simp only [hsame, decide_true, Bool.toNat_true] at hholds
        rw [if_pos (by omega), hsame]
        omega
      · simp only [hsame, decide_false, Bool.toNat_false, Nat.add_zero] at hholds
        rw [hholds, honce]
        exact if_congr (by omega) rfl rfl
    · have htotal := h.total
      simp only [goto, EncodeWorkerPc.generates, Bool.toNat_false, Bool.toNat_true] at hgen ⊢
      omega
  · rw [hnone] at hstep
    subst hstep
    have hg := workersWhere_update EncodeWorkerPc.gone hk s.worker .fetchSub
    have hgen := workersWhere_update EncodeWorkerPc.generates hk s.worker .fetchSub
    rw [hpc] at hg hgen
    refine ⟨taken, refused + 1, ?_, hnext, fun part => ?_, ?_⟩
    · simp only [goto, EncodeWorkerPc.gone, Bool.toNat_false, Bool.toNat_true] at hg ⊢
      omega
    · have hholds := workersWhere_update (EncodeWorkerPc.holds part) hk s.worker .fetchSub
      have honce := h.once part
      rw [hpc] at hholds
      simp only [goto, EncodeWorkerPc.holds, Bool.toNat_false, Nat.add_zero] at hholds ⊢
      rw [hholds, honce]
    · have htotal := h.total
      simp only [goto, EncodeWorkerPc.generates, Bool.toNat_false] at hgen ⊢
      omega

/-- The call on the part that the worker holds. -/
lemma PartsInv.generate (h : run.PartsInv taken refused s) (hk : k < run.workers) {part : Int}
    (hpc : s.worker k = .generate part) (hstep : workerStep k keep outcome s = some t) :
    run.PartsInv taken refused t := by
  have hafter : ∀ q, (afterCall part outcome).holds q = false ∧
      (afterCall part outcome).generates = false ∧ (afterCall part outcome).gone = false := by
    intro q
    cases outcome <;> exact ⟨rfl, rfl, rfl⟩
  simp only [workerStep, hpc, Option.some.injEq] at hstep
  subst hstep
  have hg := workersWhere_update EncodeWorkerPc.gone hk s.worker (afterCall part outcome)
  have hgen := workersWhere_update EncodeWorkerPc.generates hk s.worker (afterCall part outcome)
  rw [hpc, (hafter part).2.1] at hgen
  rw [hpc, (hafter part).2.2] at hg
  refine ⟨?_, h.handed, fun q => ?_, ?_⟩
  · have hle := h.refused_le
    simp only [goto, EncodeWorkerPc.gone] at hg ⊢
    omega
  · have hholds := workersWhere_update (EncodeWorkerPc.holds q) hk s.worker (afterCall part outcome)
    have honce := h.once q
    rw [hpc, (hafter q).1] at hholds
    simp only [goto, EncodeWorkerPc.holds, List.map_append, List.count_append, List.map_singleton,
      List.count_singleton, beq_iff_eq, Bool.toNat_false] at hholds ⊢
    by_cases hsame : part = q <;> simp [hsame] at hholds ⊢ <;> omega
  · have htotal := h.total
    simp only [goto, EncodeWorkerPc.generates, List.length_append, List.length_singleton,
      Bool.toNat_false, Bool.toNat_true] at hgen ⊢
    omega

lemma partsInv_workerStep (hcount : run.encoder.partCount + run.workers ≤ 2147483647)
    (h : run.PartsInv taken refused s) (hk : k < run.workers)
    (hstep : workerStep k keep outcome s = some t) :
    ∃ taken refused, run.PartsInv taken refused t := by
  cases hpc : s.worker k with
  | fetchAdd => exact h.fetchAdd hcount hk hpc hstep
  | generate part => exact ⟨_, _, h.generate hk hpc hstep⟩
  | ended | threw => simp [workerStep, hpc] at hstep
  | loadStop | loadClosed =>
    simp only [workerStep, hpc, Option.some.injEq] at hstep
    subst hstep
    refine ⟨_, _, h.move hk rfl rfl rfl (by rw [hpc]; rfl) ?_ (by rw [hpc]; exact fun h => by cases h)⟩
    split <;> rfl
  | storeStop result =>
    simp only [workerStep, hpc, Option.some.injEq] at hstep
    subst hstep
    exact ⟨_, _, h.move hk rfl rfl rfl (by rw [hpc]; rfl) rfl (by rw [hpc]; exact fun h => by cases h)⟩
  | push result =>
    simp only [workerStep, hpc] at hstep
    split at hstep <;> cases hstep <;>
      exact ⟨_, _, h.move hk rfl rfl rfl (by rw [hpc]; rfl) rfl
        (by rw [hpc]; exact fun h => by cases h)⟩
  | fetchSub =>
    simp only [workerStep, hpc, Option.some.injEq] at hstep
    subst hstep
    refine ⟨_, _, h.move hk rfl rfl rfl (by rw [hpc]; rfl) ?_ fun _ => ?_⟩
    · split <;> rfl
    · split <;> rfl
  | close =>
    simp only [workerStep, hpc, Option.some.injEq] at hstep
    subst hstep
    exact ⟨_, _, h.move hk rfl rfl rfl (by rw [hpc]; rfl) rfl fun _ => rfl⟩

lemma partsInv_step (hcount : run.encoder.partCount + run.workers ≤ 2147483647)
    {action : EncodeWorkersAction} (h : ∃ taken refused, run.PartsInv taken refused s)
    (hstep : run.step s action = some t) : ∃ taken refused, run.PartsInv taken refused t := by
  obtain ⟨taken, refused, h⟩ := h
  cases action with
  | worker k keep outcome =>
    simp only [step] at hstep
    by_cases hk : k < run.workers
    · rw [if_pos hk] at hstep
      exact partsInv_workerStep hcount h hk hstep
    · rw [if_neg hk] at hstep
      cases hstep
  | consumer keep =>
    cases mergeMoves hstep with
    | closePartitions => exact ⟨taken, refused, h.refused_le, h.handed.close, h.once, h.total⟩
    | receive | drained | stop | closeResults | ended | threw | joined =>
      exact ⟨taken, refused, h.refused_le, h.handed, h.once, h.total⟩

lemma partsInv_initial [Inhabited μ] : run.PartsInv 0 0 run.initial := by
  have hnone : ∀ p : EncodeWorkerPc → Bool, p .loadStop = false →
      workersWhere p run.workers (fun _ => .loadStop) = 0 := fun p hp =>
    workersWhere_eq_zero.mpr fun _ _ h => by rw [hp] at h; cases h
  refine ⟨Nat.zero_le _, PartitionRangeQueue.handed_new _, fun part => ?_,
    (Nat.zero_add _).trans (hnone EncodeWorkerPc.generates rfl)⟩
  rw [if_neg (by omega)]
  exact (Nat.zero_add _).trans (hnone (EncodeWorkerPc.holds part) rfl)

lemma PartsInv.count_le (h : run.PartsInv taken refused s) (part : Int) :
    (s.calls.map Prod.fst).count part ≤ if 1 ≤ part ∧ part ≤ taken then 1 else 0 := by
  rw [← h.once part]
  exact Nat.le_add_right _ _

lemma PartsInv.range (h : run.PartsInv taken refused s) {call : Int × EncodeOutcome}
    (hcall : call ∈ s.calls) : 1 ≤ call.1 ∧ call.1 ≤ taken := by
  have hpos := List.count_pos_iff.mpr (List.mem_map_of_mem (f := Prod.fst) hcall)
  have hle := h.count_le call.1
  by_contra hrange
  rw [if_neg hrange] at hle
  omega

lemma PartsInv.nodup (h : run.PartsInv taken refused s) : (s.calls.map Prod.fst).Nodup :=
  List.nodup_iff_count_le_one.mpr fun part => (h.count_le part).trans (by split <;> decide)

/-! ## Every run is finite -/

def workerWeight : EncodeWorkerPc → Nat
  | .storeStop _ => 8
  | .push _ => 7
  | .loadStop => 5
  | .loadClosed => 4
  | .fetchAdd => 3
  | .generate _ => 2
  | .fetchSub => 2
  | .close => 1
  | .ended => 0
  | .threw => 0

def consumerWeight (workers : Nat) : EncodeConsumerPc → Nat
  | .pop => workers + 5
  | .storeStop => workers + 4
  | .closePartitions => workers + 3
  | .closeResults => workers + 2
  | .join worker => workers - worker + 1
  | .joined => 0

/-- What is left to do; a call costs as much as the pushing of its result. -/
def remaining (run : EncodeWorkers μ) (s : EncodeWorkersState μ) : Nat :=
  workersSum workerWeight run.workers s.worker + 7 * (run.encoder.partCount - s.calls.length) +
    s.results.messages.length + consumerWeight run.workers s.consumer

lemma remaining_move (hk : k < run.workers) (hworker : t.worker = Function.update s.worker k next)
    (hcalls : t.calls = s.calls) (hconsumer : t.consumer = s.consumer)
    (hless : workerWeight next + t.results.messages.length <
      workerWeight (s.worker k) + s.results.messages.length) :
    run.remaining t < run.remaining s := by
  have hsum := workersSum_update workerWeight hk s.worker next
  unfold remaining
  rw [hworker, hcalls, hconsumer]
  omega

lemma remaining_workerStep (h : run.PartsInv taken refused s) (hk : k < run.workers)
    (hstep : workerStep k keep outcome s = some t) : run.remaining t < run.remaining s := by
  cases hpc : s.worker k with
  | ended | threw => simp [workerStep, hpc] at hstep
  | loadStop | loadClosed | fetchAdd =>
    simp only [workerStep, hpc, Option.some.injEq] at hstep
    subst hstep
    refine remaining_move hk rfl rfl rfl (Nat.add_lt_add_right ?_ _)
    rw [hpc]
    split <;> simp only [workerWeight] <;> decide
  | generate part =>
    have htotal := h.total
    have hle := h.handed.taken_le
    have hpos : 1 ≤ workersWhere EncodeWorkerPc.generates run.workers s.worker := by
      refine Nat.one_le_iff_ne_zero.mpr fun hzero => workersWhere_eq_zero.mp hzero k hk ?_
      rw [hpc]
      rfl
    have hsum := workersSum_update workerWeight hk s.worker (afterCall part outcome)
    have hafter : workerWeight (afterCall part outcome) ≤ 8 := by
      cases outcome <;> simp [afterCall, workerWeight]
    simp only [workerStep, hpc, Option.some.injEq] at hstep
    subst hstep
    rw [hpc, show workerWeight (.generate part) = 2 from rfl] at hsum
    simp only [remaining, goto, List.length_append, List.length_singleton]
    omega
  | storeStop result =>
    simp only [workerStep, hpc, Option.some.injEq] at hstep
    subst hstep
    exact remaining_move hk rfl rfl rfl
      (Nat.add_lt_add_right (by rw [hpc]; simp only [workerWeight]; decide) _)
  | push result =>
    simp only [workerStep, hpc] at hstep
    cases hpush : s.results.push result with
    | none =>
      simp only [hpush, Option.some.injEq] at hstep
      subst hstep
      exact remaining_move hk rfl rfl rfl
        (Nat.add_lt_add_right (by rw [hpc]; simp only [workerWeight]; decide) _)
    | some results =>
      obtain ⟨-, rfl⟩ := ClosingFifo.push_some hpush
      simp only [hpush, Option.some.injEq] at hstep
      subst hstep
      refine remaining_move hk rfl rfl rfl ?_
      simp only [hpc, goto, workerWeight, List.length_append, List.length_singleton]
      omega
  | fetchSub =>
    simp only [workerStep, hpc, Option.some.injEq] at hstep
    subst hstep
    refine remaining_move hk rfl rfl rfl (Nat.add_lt_add_right ?_ _)
    rw [hpc]
    split <;> simp only [workerWeight] <;> decide
  | close =>
    simp only [workerStep, hpc, Option.some.injEq] at hstep
    subst hstep
    refine remaining_move hk rfl rfl rfl ?_
    simp only [hpc, goto, workerWeight, ClosingFifo.close, List.length_take]
    omega

lemma remaining_consumerStep (hstep : run.consumerStep keep s = some t) :
    run.remaining t < run.remaining s := by
  unfold remaining
  cases mergeMoves hstep with
  | receive result results hpc hpop =>
    have hlength : s.results.messages.length = results.messages.length + 1 := by
      rw [(ClosingFifo.pop_some hpop).1, List.length_cons]
    rw [hpc]
    split <;> simp only [consumerWeight] <;> omega
  | closeResults hpc =>
    simp only [hpc, consumerWeight, ClosingFifo.close, List.length_take]
    omega
  | drained hpc | stop hpc | closePartitions hpc | ended k hpc hk | threw k hpc hk | joined k hpc =>
    simp only [hpc, consumerWeight]
    omega

lemma remaining_step {action : EncodeWorkersAction} (h : ∃ taken refused, run.PartsInv taken refused s)
    (hstep : run.step s action = some t) : run.remaining t < run.remaining s := by
  obtain ⟨taken, refused, h⟩ := h
  cases action with
  | worker k keep outcome =>
    simp only [step] at hstep
    by_cases hk : k < run.workers
    · rw [if_pos hk] at hstep
      exact remaining_workerStep h hk hstep
    · rw [if_neg hk] at hstep
      cases hstep
  | consumer keep => exact remaining_consumerStep hstep

end EncodeWorkers

end Schengen.Storage
