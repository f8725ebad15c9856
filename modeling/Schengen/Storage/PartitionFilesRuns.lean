import Schengen.Library.Workers
import Schengen.Storage.PartitionFiles
import Mathlib.Data.List.Nodup

/-!
# Each part once

However the workers interleave, the counter hands out every part once. Until a call fails, a part
that was taken is held by a worker or was called for; a failure is in `first_error` or on its way
there, and no part is dropped without one.
-/

namespace Schengen.Storage
open Library

/-- A call returned non-zero or threw. -/
def PartitionFilesState.Failed (s : PartitionFilesState) : Prop :=
  ∃ call ∈ s.calls, call.2 ≠ .returned 0

/-- The worker has taken the part and not called yet. -/
def FileWorkerPc.holds (part : Int) : FileWorkerPc → Bool
  | .loadStop taken => taken = part
  | .generate taken => taken = part
  | _ => false

def FileWorkerPc.isEnded : FileWorkerPc → Bool
  | .ended => true
  | _ => false

namespace PartitionFiles

variable (run : PartitionFiles)

/-- What a worker knows at its next access. -/
def WorkerAt (partCount : Nat) (s : PartitionFilesState) : FileWorkerPc → Prop
  | .storeError rc => rc ≠ 0 ∧ s.Failed
  | .storeStop => s.Failed
  | .close => s.Failed
  | .ended => s.Failed ∨ s.taken.length = partCount
  | .threw => s.Failed
  | _ => True

/-- A failure that is not yet in `first_error`. -/
def Pending : FileWorkerPc → Prop
  | .storeError _ => True
  | .threw => True
  | _ => False

/-- The futures that were joined. -/
def joined : JoinPc → Nat
  | .get worker => worker
  | .storeError worker => worker
  | .returned _ => run.workers

/-- A future that was joined. -/
def Joined (s : PartitionFilesState) (worker : Nat) : Prop :=
  s.worker worker = .ended ∨ s.worker worker = .threw ∧ s.firstError ≠ 0

/-- The parts are handed out in order, each is called for, held or was dropped after a failure,
and a failure is in `first_error` or on its way. -/
structure FilesInv (s : PartitionFilesState) : Prop where
  handed : ∃ refused, refused ≤ workersWhere FileWorkerPc.isEnded run.workers s.worker ∧
    s.queue.Handed run.partCount s.taken.length refused
  taken : s.taken.map Prod.snd = (List.range s.taken.length).map fun k : Nat => (k : Int) + 1
  parts : ¬ s.Failed → ∀ part, (s.taken.map Prod.snd).count part =
    (s.calls.map Prod.fst).count part + workersWhere (FileWorkerPc.holds part) run.workers s.worker
  worker : ∀ k < run.workers, WorkerAt run.partCount s (s.worker k)
  stopped : s.stopRequested = true → s.Failed
  closed : s.queue.closed = true → s.Failed
  noted : s.firstError ≠ 0 → s.Failed
  pending : s.Failed → s.firstError ≠ 0 ∨ ∃ k < run.workers, Pending (s.worker k)
  joined : ∀ k < run.joined s.main, Joined s k
  joined_le : run.joined s.main ≤ run.workers
  storing : ∀ k, s.main = .storeError k → k < run.workers ∧ s.worker k = .threw
  returned : ∀ rc, s.main = .returned rc → rc = s.firstError

variable {run} {s t : PartitionFilesState} {k : Nat} {next : FileWorkerPc}

lemma not_failed_initial : ¬ run.initial.Failed := by
  rintro ⟨call, hcall, -⟩
  cases hcall

lemma filesInv_initial : run.FilesInv run.initial where
  handed := ⟨0, Nat.zero_le _, PartitionRangeQueue.handed_new _⟩
  taken := rfl
  parts _ part := by
    have hnone : workersWhere (FileWorkerPc.holds part) run.workers run.initial.worker = 0 :=
      workersWhere_eq_zero.mpr fun k _ h => by cases h
    rw [hnone]
    rfl
  worker _ _ := trivial
  stopped h := by cases h
  closed h := by cases h
  noted h := absurd rfl h
  pending h := absurd h not_failed_initial
  joined k h := absurd h (Nat.not_lt_zero k)
  joined_le := Nat.zero_le _
  storing k h := by cases h
  returned rc h := by cases h

lemma WorkerAt.mono {partCount : Nat} {pc : FileWorkerPc} (h : WorkerAt partCount s pc)
    (hfailed : s.Failed → t.Failed) (htaken : s.taken.length = partCount → t.taken.length = partCount) :
    WorkerAt partCount t pc := by
  cases pc with
  | storeError rc => exact ⟨h.1, hfailed h.2⟩
  | storeStop => exact hfailed h
  | close => exact hfailed h
  | ended => exact h.imp hfailed htaken
  | threw => exact hfailed h
  | loadClosed => trivial
  | fetchAdd => trivial
  | loadStop part => trivial
  | generate part => trivial

lemma workersWhere_ended (hk : k < run.workers) (hlive : s.worker k ≠ .ended) :
    workersWhere FileWorkerPc.isEnded run.workers (Function.update s.worker k next) =
      workersWhere FileWorkerPc.isEnded run.workers s.worker + next.isEnded.toNat := by
  have hupdate := workersWhere_update FileWorkerPc.isEnded hk s.worker next
  have hnot : (s.worker k).isEnded = false := by
    cases hpc : s.worker k <;> first | rfl | exact absurd hpc hlive
  rw [hnot] at hupdate
  exact hupdate

/-- A step of a worker that has not ended: what is left to show is about that worker. -/
structure Moves (s t : PartitionFilesState) (k : Nat) (next : FileWorkerPc) : Prop where
  notEnded : s.worker k ≠ .ended
  notThrew : s.worker k ≠ .threw
  worker : t.worker = Function.update s.worker k next
  main : t.main = s.main
  failed : s.Failed → t.Failed
  error : s.firstError ≠ 0 → t.firstError ≠ 0

lemma FilesInv.move (h : run.FilesInv s) (hk : k < run.workers) (hm : Moves s t k next)
    (hhanded : ∃ refused, refused ≤ workersWhere FileWorkerPc.isEnded run.workers s.worker +
      next.isEnded.toNat ∧ t.queue.Handed run.partCount t.taken.length refused)
    (htaken : t.taken.map Prod.snd = (List.range t.taken.length).map fun k : Nat => (k : Int) + 1)
    (hlength : s.taken.length = run.partCount → t.taken.length = run.partCount)
    (hparts : ¬ t.Failed → ∀ part, (t.taken.map Prod.snd).count part =
      (t.calls.map Prod.fst).count part + workersWhere (FileWorkerPc.holds part) run.workers t.worker)
    (hat : WorkerAt run.partCount t next) (hstopped : t.stopRequested = true → t.Failed)
    (hclosed : t.queue.closed = true → t.Failed) (hnoted : t.firstError ≠ 0 → t.Failed)
    (hpending : t.Failed → t.firstError ≠ 0 ∨ Pending next ∨ s.Failed ∧ ¬ Pending (s.worker k)) :
    run.FilesInv t := by
  have hself : t.worker k = next := by rw [hm.worker, Function.update_self]
  have hother : ∀ j, j ≠ k → t.worker j = s.worker j := fun j hj => by
    rw [hm.worker, Function.update_of_ne hj]
  refine ⟨?_, htaken, hparts, fun j hj => ?_, hstopped, hclosed, hnoted, fun hfailed => ?_,
    fun j hj => ?_, ?_, fun j hj => ?_, fun rc hrc => ?_⟩
  · rwa [hm.worker, workersWhere_ended hk hm.notEnded]
  · by_cases hjk : j = k
    · rw [hjk, hself]
      exact hat
    · rw [hother j hjk]
      exact (h.worker j hj).mono hm.failed hlength
  · rcases hpending hfailed with herror | hnext | ⟨hbefore, hnot⟩
    · exact Or.inl herror
    · exact Or.inr ⟨k, hk, by rwa [hself]⟩
    · refine (h.pending hbefore).imp hm.error ?_
      rintro ⟨j, hj, hjpending⟩
      refine ⟨j, hj, ?_⟩
      rwa [hother j]
      rintro rfl
      exact hnot hjpending
  · rw [hm.main] at hj
    have hjoined := h.joined j hj
    have hjk : j ≠ k := by
      rintro rfl
      exact hjoined.elim hm.notEnded fun hthrew => hm.notThrew hthrew.1
    unfold Joined
    rw [hother j hjk]
    exact hjoined.imp id fun hthrew => ⟨hthrew.1, hm.error hthrew.2⟩
  · rw [hm.main]
    exact h.joined_le
  · rw [hm.main] at hj
    obtain ⟨hlt, hthrew⟩ := h.storing j hj
    have hjk : j ≠ k := by
      rintro rfl
      exact hm.notThrew hthrew
    exact ⟨hlt, by rwa [hother j hjk]⟩
  · rw [hm.main] at hrc
    have hreturned := h.joined k (by rw [hrc]; exact hk)
    exact hreturned.elim (fun hended => absurd hended hm.notEnded)
      fun hthrew => absurd hthrew.1 hm.notThrew

/-- A step of a worker that takes no part and makes no call. -/
lemma FilesInv.quiet (h : run.FilesInv s) (hk : k < run.workers) (hm : Moves s t k next)
    (htaken : t.taken = s.taken) (hcalls : t.calls = s.calls)
    (hqueue : ∀ {parts taken refused}, s.queue.Handed parts taken refused →
      t.queue.Handed parts taken refused)
    (hholds : ¬ s.Failed → ∀ part, next.holds part = (s.worker k).holds part)
    (hat : WorkerAt run.partCount t next) (hstopped : t.stopRequested = true → s.Failed)
    (hclosed : t.queue.closed = true → s.Failed) (hnoted : t.firstError ≠ 0 → s.Failed)
    (hpending : t.firstError ≠ 0 ∨ ¬ Pending (s.worker k)) : run.FilesInv t := by
  have hsame : t.Failed ↔ s.Failed := by
    unfold PartitionFilesState.Failed
    rw [hcalls]
  obtain ⟨refused, hle, hhanded⟩ := h.handed
  refine h.move hk hm ⟨refused, by omega, ?_⟩ ?_ ?_ ?_ hat (hsame.mpr ∘ hstopped)
    (hsame.mpr ∘ hclosed) (hsame.mpr ∘ hnoted) ?_
  · rw [htaken]
    exact hqueue hhanded
  · rw [htaken]
    exact h.taken
  · rw [htaken]
    exact id
  · intro hnot part
    rw [hsame] at hnot
    have hparts := h.parts hnot part
    have hupdate := workersWhere_update (FileWorkerPc.holds part) hk s.worker next
    rw [hholds hnot part] at hupdate
    rw [htaken, hcalls, hm.worker]
    omega
  · intro hfailed
    exact hpending.imp id fun hnot => Or.inr ⟨hsame.mp hfailed, hnot⟩

/-- Taking a part: the counter has not wrapped. -/
lemma filesInv_fetchAdd (hcount : run.partCount + run.workers ≤ 2147483647) (h : run.FilesInv s)
    (hk : k < run.workers) (hpc : s.worker k = .fetchAdd) (result : CallResult)
    (hstep : workerStep k result s = some t) : run.FilesInv t := by
  obtain ⟨refused, hle, hhanded⟩ := h.handed
  have hlt : workersWhere FileWorkerPc.isEnded run.workers s.worker < run.workers :=
    workersWhere_lt hk (by rw [hpc]; rfl)
  have hne : s.worker k ≠ .ended ∧ s.worker k ≠ .threw := by
    rw [hpc]
    exact ⟨(fun h => nomatch h), (fun h => nomatch h)⟩
  have hnot : ∀ part, (s.worker k).holds part = false := fun part => by rw [hpc]; rfl
  have hpending : ¬ Pending (s.worker k) := by rw [hpc]; exact id
  unfold workerStep at hstep
  rw [hpc] at hstep
  rcases hhanded.fetchAdd (by omega) with ⟨htaken, hpart, hnext⟩ | ⟨htaken, hnone, hnext⟩
  · simp only [hpart, Option.some.injEq] at hstep
    subst hstep
    refine h.move hk ⟨hne.1, hne.2, rfl, rfl, id, id⟩ ⟨refused, by omega, ?_⟩ ?_ ?_ ?_ trivial
      h.stopped h.closed h.noted fun hfailed => Or.inr (Or.inr ⟨hfailed, hpending⟩)
    · simpa only [goto, List.length_append, List.length_singleton] using hnext
    · simp only [goto, List.map_append, List.length_append, List.length_singleton, h.taken,
        List.range_succ, List.map_singleton]
    · intro hall
      omega
    · intro hfailed part
      have hparts := h.parts hfailed part
      have hupdate := workersWhere_update (FileWorkerPc.holds part) hk s.worker
        (.loadStop ((s.taken.length : Int) + 1))
      rw [hnot part] at hupdate
      simp only [goto, List.map_append, List.count_append, List.map_singleton, List.count_singleton,
        beq_iff_eq]
      simp only [FileWorkerPc.holds, Bool.toNat_false, Nat.add_zero] at hupdate
      rw [hupdate, hparts, Nat.add_assoc]
      by_cases hsame : (s.taken.length : Int) + 1 = part <;> simp [hsame]
  · simp only [hnone, Option.some.injEq] at hstep
    subst hstep
    refine h.move hk ⟨hne.1, hne.2, rfl, rfl, id, id⟩ ⟨refused + 1, ?_, hnext⟩ h.taken id ?_
      (Or.inr htaken) h.stopped h.closed h.noted
      fun hfailed => Or.inr (Or.inr ⟨hfailed, hpending⟩)
    · exact Nat.succ_le_succ hle
    · intro hfailed part
      have hparts := h.parts hfailed part
      have hupdate := workersWhere_update (FileWorkerPc.holds part) hk s.worker .ended
      rw [hnot part] at hupdate
      simp only [FileWorkerPc.holds, Bool.toNat_false, Nat.add_zero] at hupdate
      simp only [goto]
      rw [hupdate]
      exact hparts

lemma failed_append {calls : List (Int × CallResult)} {call : Int × CallResult} :
    (∃ c ∈ calls ++ [call], c.2 ≠ CallResult.returned 0) ↔
      (∃ c ∈ calls, c.2 ≠ CallResult.returned 0) ∨ call.2 ≠ .returned 0 := by
  simp only [List.mem_append, List.mem_singleton, or_and_right, exists_or, exists_eq_left]

lemma afterCall_ok (result : CallResult) :
    result = .returned 0 ∧ afterCall result = .loadClosed ∨
      result ≠ .returned 0 ∧ Pending (afterCall result) := by
  cases result with
  | threw => exact Or.inr ⟨(fun h => nomatch h), trivial⟩
  | returned rc =>
    simp only [afterCall]
    by_cases hrc : rc = 0
    · rw [if_pos hrc, hrc]
      exact Or.inl ⟨rfl, rfl⟩
    · rw [if_neg hrc]
      exact Or.inr ⟨fun h => hrc (CallResult.returned.inj h), trivial⟩

lemma filesInv_generate (h : run.FilesInv s) (hk : k < run.workers) {part : Int}
    (hpc : s.worker k = .generate part) {result : CallResult}
    (hstep : workerStep k result s = some t) : run.FilesInv t := by
  obtain ⟨refused, hle, hhanded⟩ := h.handed
  have hne : s.worker k ≠ .ended ∧ s.worker k ≠ .threw := by
    rw [hpc]
    exact ⟨(fun h => nomatch h), (fun h => nomatch h)⟩
  unfold workerStep at hstep
  simp only [hpc, Option.some.injEq] at hstep
  subst hstep
  let u : PartitionFilesState :=
    goto { s with calls := s.calls ++ [(part, result)] } k (afterCall result)
  have hfailed : u.Failed ↔ s.Failed ∨ result ≠ .returned 0 := failed_append
  have hkeep : s.Failed → u.Failed := fun hbefore => hfailed.mpr (Or.inl hbefore)
  refine h.move hk ⟨hne.1, hne.2, rfl, rfl, hkeep, id⟩ ⟨refused, by omega, hhanded⟩ h.taken id
    ?_ ?_ (hkeep ∘ h.stopped) (hkeep ∘ h.closed) (hkeep ∘ h.noted) ?_
  · intro hnot q
    rw [hfailed, not_or, not_not] at hnot
    have hparts := h.parts hnot.1 q
    have hupdate := workersWhere_update (FileWorkerPc.holds q) hk s.worker (afterCall result)
    rw [hpc, hnot.2] at hupdate
    simp only [goto, List.map_append, List.count_append, List.map_singleton, List.count_singleton,
      beq_iff_eq, hnot.2]
    simp only [afterCall, if_true, FileWorkerPc.holds, Bool.toNat_false, Nat.add_zero] at hupdate ⊢
    by_cases hsame : part = q <;> simp [hsame] at hupdate ⊢ <;> omega
  · rcases afterCall_ok result with ⟨-, hloop⟩ | ⟨hbad, -⟩
    · rw [hloop]
      trivial
    · have hnow : u.Failed := hfailed.mpr (Or.inr hbad)
      cases result with
      | threw => exact hnow
      | returned rc =>
        have hrc : rc ≠ 0 := fun hzero => hbad (congrArg _ hzero)
        simp only [afterCall, if_neg hrc]
        exact ⟨hrc, hnow⟩
  · intro hnow
    rcases afterCall_ok result with ⟨hgood, -⟩ | ⟨-, hpending⟩
    · refine Or.inr (Or.inr ⟨(hfailed.mp hnow).resolve_right (not_not.mpr hgood), ?_⟩)
      rw [hpc]
      exact id
    · exact Or.inr (Or.inl hpending)

lemma filesInv_workerStep (hcount : run.partCount + run.workers ≤ 2147483647) (h : run.FilesInv s)
    (hk : k < run.workers) {result : CallResult} (hstep : workerStep k result s = some t) :
    run.FilesInv t := by
  have hworker := h.worker k hk
  cases hpc : s.worker k with
  | fetchAdd => exact filesInv_fetchAdd hcount h hk hpc result hstep
  | generate part => exact filesInv_generate h hk hpc hstep
  | loadClosed =>
    simp only [workerStep, hpc, Option.some.injEq] at hstep
    subst hstep
    refine h.quiet hk ⟨by simp [hpc], by simp [hpc], rfl, rfl, id, id⟩ rfl rfl id ?_ ?_ h.stopped
      h.closed h.noted (Or.inr (by rw [hpc]; exact id))
    · intro _ part
      rw [hpc]
      split <;> rfl
    · split
      · next hclosed => exact Or.inl (h.closed hclosed)
      · trivial
  | loadStop part =>
    simp only [workerStep, hpc, Option.some.injEq] at hstep
    subst hstep
    refine h.quiet hk ⟨by simp [hpc], by simp [hpc], rfl, rfl, id, id⟩ rfl rfl id ?_ ?_ h.stopped
      h.closed h.noted (Or.inr (by rw [hpc]; exact id))
    · intro hnot q
      have hgo : s.stopRequested = false := by
        rw [← Bool.not_eq_true]
        exact fun hstop => hnot (h.stopped hstop)
      rw [hpc, hgo]
      rfl
    · split <;> trivial
  | storeError rc =>
    simp only [workerStep, hpc, Option.some.injEq] at hstep
    subst hstep
    rw [hpc] at hworker
    exact h.quiet hk ⟨by simp [hpc], by simp [hpc], rfl, rfl, id, fun _ => hworker.1⟩ rfl rfl id
      (fun hnot => absurd hworker.2 hnot) hworker.2 h.stopped h.closed (fun _ => hworker.2)
      (Or.inl hworker.1)
  | storeStop =>
    simp only [workerStep, hpc, Option.some.injEq] at hstep
    subst hstep
    rw [hpc] at hworker
    exact h.quiet hk ⟨by simp [hpc], by simp [hpc], rfl, rfl, id, id⟩ rfl rfl id
      (fun hnot => absurd hworker hnot) hworker (fun _ => hworker) h.closed h.noted
      (Or.inr (by rw [hpc]; exact id))
  | close =>
    simp only [workerStep, hpc, Option.some.injEq] at hstep
    subst hstep
    rw [hpc] at hworker
    exact h.quiet hk ⟨by simp [hpc], by simp [hpc], rfl, rfl, id, id⟩ rfl rfl
      PartitionRangeQueue.Handed.close (fun hnot => absurd hworker hnot) (Or.inl hworker) h.stopped
      (fun _ => hworker) h.noted (Or.inr (by rw [hpc]; exact id))
  | ended =>
    simp only [workerStep, hpc] at hstep
    cases hstep
  | threw =>
    simp only [workerStep, hpc] at hstep
    cases hstep

/-- A step of the caller. -/
lemma FilesInv.caller (h : run.FilesInv s) {error : Int} {main : JoinPc}
    (herror : s.firstError ≠ 0 → error ≠ 0) (hnoted : error ≠ 0 → s.Failed)
    (hjoined : ∀ j < run.joined main, Joined { s with firstError := error, main := main } j)
    (hle : run.joined main ≤ run.workers)
    (hstoring : ∀ j, main = .storeError j → j < run.workers ∧ s.worker j = .threw)
    (hreturned : ∀ rc, main = .returned rc → rc = error) :
    run.FilesInv { s with firstError := error, main := main } where
  handed := h.handed
  taken := h.taken
  parts := h.parts
  worker j hj := (h.worker j hj).mono id id
  stopped := h.stopped
  closed := h.closed
  noted := hnoted
  pending hfailed := (h.pending hfailed).imp herror id
  joined := hjoined
  joined_le := hle
  storing := hstoring
  returned := hreturned

/-- What a step of the caller does: it joins the next worker, notes an exception, or returns. -/
inductive CallerMoves (run : PartitionFiles) (s : PartitionFilesState) : PartitionFilesState → Prop
  | ended (k : Nat) (hk : k < run.workers) (hmain : s.main = .get k) (hpc : s.worker k = .ended) :
      CallerMoves run s { s with main := .get (k + 1) }
  | threw (k : Nat) (hk : k < run.workers) (hmain : s.main = .get k) (hpc : s.worker k = .threw) :
      CallerMoves run s { s with main := .storeError k }
  | joined (k : Nat) (hk : ¬ k < run.workers) (hmain : s.main = .get k) :
      CallerMoves run s { s with main := .returned s.firstError }
  | stored (k : Nat) (hmain : s.main = .storeError k) :
      CallerMoves run s { s with firstError := 2, main := .get (k + 1) }

lemma callerMoves (hstep : run.mainStep s = some t) : CallerMoves run s t := by
  unfold mainStep at hstep
  cases hmain : s.main with
  | get k =>
    simp only [hmain] at hstep
    by_cases hk : k < run.workers
    · rw [if_pos hk] at hstep
      cases hpc : s.worker k <;> simp only [hpc, reduceCtorEq, Option.some.injEq] at hstep
      case ended =>
        subst hstep
        exact .ended k hk hmain hpc
      case threw =>
        subst hstep
        exact .threw k hk hmain hpc
    · rw [if_neg hk, Option.some.injEq] at hstep
      subst hstep
      exact .joined k hk hmain
  | storeError k =>
    simp only [hmain, Option.some.injEq] at hstep
    subst hstep
    exact .stored k hmain
  | returned rc =>
    simp only [hmain] at hstep
    cases hstep

lemma filesInv_mainStep (h : run.FilesInv s) (hstep : run.mainStep s = some t) : run.FilesInv t := by
  have hjoined := h.joined
  have hle := h.joined_le
  cases callerMoves hstep with
  | ended k hk hmain hpc =>
    rw [hmain] at hjoined
    refine h.caller id h.noted (fun j hj => ?_) hk (fun j hj => by cases hj)
      (fun rc hrc => by cases hrc)
    rcases Nat.lt_succ_iff_lt_or_eq.mp hj with hlt | rfl
    · exact hjoined j hlt
    · exact Or.inl hpc
  | threw k hk hmain hpc =>
    rw [hmain] at hjoined hle
    refine h.caller id h.noted hjoined hle (fun j hj => ?_) (fun rc hrc => by cases hrc)
    cases hj
    exact ⟨hk, hpc⟩
  | joined k hk hmain =>
    rw [hmain] at hjoined hle
    have hall : k = run.workers := Nat.le_antisymm hle (Nat.le_of_not_lt hk)
    refine h.caller id h.noted ?_ le_rfl (fun j hj => by cases hj) (fun rc hrc => ?_)
    · change ∀ j < run.workers, Joined s j
      rw [← hall]
      exact hjoined
    · cases hrc
      rfl
  | stored k hmain =>
    obtain ⟨hk, hthrew⟩ := h.storing k hmain
    have hworker := h.worker k hk
    rw [hthrew] at hworker
    rw [hmain] at hjoined
    have htwo : (2 : Int) ≠ 0 := by decide
    refine h.caller (fun _ => htwo) (fun _ => hworker) (fun j hj => ?_) hk
      (fun j hj => by cases hj) (fun rc hrc => by cases hrc)
    rcases Nat.lt_succ_iff_lt_or_eq.mp hj with hlt | rfl
    · exact (hjoined j hlt).imp id fun hbefore => ⟨hbefore.1, htwo⟩
    · exact Or.inr ⟨hthrew, htwo⟩

lemma filesInv_step (hcount : run.partCount + run.workers ≤ 2147483647) {a : PartitionFilesAction}
    (h : run.FilesInv s) (hstep : run.step s a = some t) : run.FilesInv t := by
  cases a with
  | worker k result =>
    simp only [step] at hstep
    by_cases hk : k < run.workers
    · rw [if_pos hk] at hstep
      exact filesInv_workerStep hcount h hk hstep
    · rw [if_neg hk] at hstep
      cases hstep
  | main => exact filesInv_mainStep h hstep

lemma FilesInv.reachable (hcount : run.partCount + run.workers ≤ 2147483647)
    (h : Reachable run.step run.initial s) : run.FilesInv s :=
  h.invariant filesInv_initial fun _ _ _ => filesInv_step hcount

/-! ## The end of a run -/

/-- More than the accesses a worker makes before it takes another part. -/
def weight : FileWorkerPc → Nat
  | .loadClosed => 2
  | .fetchAdd => 1
  | .loadStop _ => 5
  | .generate _ => 4
  | .storeError _ => 3
  | .storeStop => 2
  | .close => 1
  | .ended => 0
  | .threw => 0

def joinWeight (workers : Nat) : JoinPc → Nat
  | .get worker => 2 * (workers - worker) + 1
  | .storeError worker => 2 * (workers - worker)
  | .returned _ => 0

/-- What a run still has to do. -/
def remaining (run : PartitionFiles) (s : PartitionFilesState) : Nat :=
  workersSum weight run.workers s.worker + 5 * (run.partCount - s.taken.length) +
    joinWeight run.workers s.main

lemma remaining_lt (hk : k < run.workers) (hworker : t.worker = Function.update s.worker k next)
    (hmain : t.main = s.main) (htaken : t.taken = s.taken) (hweight : weight next < weight (s.worker k)) :
    run.remaining t < run.remaining s := by
  have hupdate := workersSum_update weight hk s.worker next
  unfold remaining
  rw [hworker, hmain, htaken]
  omega

lemma remaining_workerStep (hcount : run.partCount + run.workers ≤ 2147483647) (h : run.FilesInv s)
    (hk : k < run.workers) {result : CallResult} (hstep : workerStep k result s = some t) :
    run.remaining t < run.remaining s := by
  cases hpc : s.worker k with
  | fetchAdd =>
    obtain ⟨refused, hle, hhanded⟩ := h.handed
    have hlt : workersWhere FileWorkerPc.isEnded run.workers s.worker < run.workers :=
      workersWhere_lt hk (by rw [hpc]; rfl)
    rcases hhanded.fetchAdd (by omega) with ⟨htaken, hpart, -⟩ | ⟨-, hnone, -⟩
    · simp only [workerStep, hpc, hpart, Option.some.injEq] at hstep
      subst hstep
      have hupdate := workersSum_update weight hk s.worker (.loadStop ((s.taken.length : Int) + 1))
      rw [hpc] at hupdate
      simp only [remaining, goto, List.length_append, List.length_singleton]
      simp only [weight] at hupdate
      omega
    · simp only [workerStep, hpc, hnone, Option.some.injEq] at hstep
      subst hstep
      exact remaining_lt hk rfl rfl rfl (by rw [hpc]; decide)
  | loadClosed =>
    simp only [workerStep, hpc, Option.some.injEq] at hstep
    subst hstep
    refine remaining_lt hk rfl rfl rfl ?_
    rw [hpc]
    split <;> decide
  | loadStop part =>
    simp only [workerStep, hpc, Option.some.injEq] at hstep
    subst hstep
    refine remaining_lt hk rfl rfl rfl ?_
    rw [hpc]
    split <;> simp only [weight] <;> decide
  | generate part =>
    simp only [workerStep, hpc, Option.some.injEq] at hstep
    subst hstep
    refine remaining_lt hk rfl rfl rfl ?_
    rw [hpc]
    cases result with
    | threw => simp only [afterCall, weight]; decide
    | returned rc => simp only [afterCall]; split <;> simp only [weight] <;> decide
  | storeError rc =>
    simp only [workerStep, hpc, Option.some.injEq] at hstep
    subst hstep
    exact remaining_lt hk rfl rfl rfl (by rw [hpc]; simp only [weight]; decide)
  | storeStop =>
    simp only [workerStep, hpc, Option.some.injEq] at hstep
    subst hstep
    exact remaining_lt hk rfl rfl rfl (by rw [hpc]; decide)
  | close =>
    simp only [workerStep, hpc, Option.some.injEq] at hstep
    subst hstep
    exact remaining_lt hk rfl rfl rfl (by rw [hpc]; decide)
  | ended =>
    simp only [workerStep, hpc] at hstep
    cases hstep
  | threw =>
    simp only [workerStep, hpc] at hstep
    cases hstep

lemma remaining_mainStep (h : run.FilesInv s) (hstep : run.mainStep s = some t) :
    run.remaining t < run.remaining s := by
  cases callerMoves hstep with
  | ended k hk hmain | threw k hk hmain | joined k hk hmain =>
    simp only [remaining, hmain, joinWeight]
    omega
  | stored k hmain =>
    have hk := (h.storing k hmain).1
    simp only [remaining, hmain, joinWeight]
    omega

lemma remaining_step (hcount : run.partCount + run.workers ≤ 2147483647) {a : PartitionFilesAction}
    (h : run.FilesInv s) (hstep : run.step s a = some t) : run.remaining t < run.remaining s := by
  cases a with
  | worker k result =>
    simp only [step] at hstep
    by_cases hk : k < run.workers
    · rw [if_pos hk] at hstep
      exact remaining_workerStep hcount h hk hstep
    · rw [if_neg hk] at hstep
      cases hstep
  | main => exact remaining_mainStep h hstep

/-- A task that has not ended goes on, and so does the caller once all have. -/
lemma returned_of_stuck (hstuck : ∀ a, run.step s a = none) :
    ∃ rc, s.main = .returned rc := by
  have hended : ∀ k < run.workers, s.worker k = .ended ∨ s.worker k = .threw := by
    intro k hk
    have hworker := hstuck (.worker k .threw)
    simp only [step, if_pos hk, workerStep] at hworker
    cases hpc : s.worker k with
    | fetchAdd =>
      simp only [hpc] at hworker
      split at hworker <;> cases hworker
    | ended => exact Or.inl rfl
    | threw => exact Or.inr rfl
    | _ =>
      simp only [hpc] at hworker
      cases hworker
  have hcaller : run.mainStep s = none := hstuck .main
  unfold mainStep at hcaller
  cases hmain : s.main with
  | returned rc => exact ⟨rc, rfl⟩
  | storeError k =>
    simp only [hmain] at hcaller
    cases hcaller
  | get k =>
    simp only [hmain] at hcaller
    by_cases hk : k < run.workers
    · rw [if_pos hk] at hcaller
      rcases hended k hk with hpc | hpc <;> simp only [hpc] at hcaller <;> cases hcaller
    · rw [if_neg hk] at hcaller
      cases hcaller

/-! ## What is returned -/

lemma FilesInv.returns (h : run.FilesInv s) {rc : Int} (hmain : s.main = .returned rc) :
    (rc = 0 ↔ ¬ s.Failed) ∧
      (rc = 0 → (s.calls.map Prod.fst).Perm
        ((List.range run.partCount).map fun k : Nat => (k : Int) + 1)) := by
  obtain rfl := h.returned rc hmain
  have hjoined : ∀ k < run.workers, Joined s k := by
    have hall := h.joined
    rw [hmain] at hall
    exact hall
  have hzero : s.firstError = 0 ↔ ¬ s.Failed := by
    constructor
    · intro hnone hfailed
      rcases h.pending hfailed with herror | ⟨k, hk, hpending⟩
      · exact herror hnone
      · rcases hjoined k hk with hended | ⟨-, herror⟩
        · rw [hended] at hpending
          exact hpending
        · exact herror hnone
    · intro hnot
      exact not_not.mp fun herror => hnot (h.noted herror)
  refine ⟨hzero, fun hnone => ?_⟩
  have hnot := hzero.mp hnone
  have hended : ∀ k < run.workers, s.worker k = .ended := fun k hk =>
    (hjoined k hk).resolve_right fun hthrew => hthrew.2 hnone
  have hpos : 0 < run.workers := resolveWorkerCount_pos _ _
  have hlength : s.taken.length = run.partCount := by
    have hworker := h.worker 0 hpos
    rw [hended 0 hpos] at hworker
    exact hworker.resolve_left hnot
  have htaken := h.taken
  rw [hlength] at htaken
  rw [← htaken]
  refine List.perm_iff_count.mpr fun part => ?_
  have hparts := h.parts hnot part
  have hnone : workersWhere (FileWorkerPc.holds part) run.workers s.worker = 0 :=
    workersWhere_eq_zero.mpr fun k hk hholds => by
      rw [hended k hk] at hholds
      cases hholds
  omega

/-- Every part is taken by one worker at most, every run ends with a result, the result is 0 exactly
if every call returned 0, and then there was one call for each part. -/
theorem eachPart_once (run : PartitionFiles) (hcount : run.partCount + run.workers ≤ 2147483647) :
    (∃ bound, ∀ as s, exec run.step run.initial as = some s → as.length ≤ bound) ∧
    ∀ s, Reachable run.step run.initial s →
      (∀ taken ∈ s.taken, 1 ≤ taken.2 ∧ taken.2 ≤ run.partCount) ∧
      (s.taken.map Prod.snd).Nodup ∧
      ((∀ a, run.step s a = none) → ∃ rc, s.main = .returned rc) ∧
      ∀ rc, s.main = .returned rc →
        (rc = 0 ↔ ∀ call ∈ s.calls, call.2 = .returned 0) ∧
        (rc = 0 → (s.calls.map Prod.fst).Perm
          ((List.range run.partCount).map fun k : Nat => (k : Int) + 1)) := by
  refine ⟨⟨run.remaining run.initial, fun as s hrun => ?_⟩, fun s h => ?_⟩
  · have hle := exec_length_le _ (fun s a t hs hst => ⟨filesInv_step hcount hs hst,
      remaining_step hcount hs hst⟩) filesInv_initial hrun
    omega
  have hinv := FilesInv.reachable hcount h
  obtain ⟨refused, -, hhanded⟩ := hinv.handed
  refine ⟨fun taken htaken => ?_, ?_, returned_of_stuck, fun rc hmain => ?_⟩
  · have hmem := List.mem_map_of_mem (f := Prod.snd) htaken
    rw [hinv.taken] at hmem
    obtain ⟨k, hk, hpart⟩ := List.mem_map.mp hmem
    have hlt := List.mem_range.mp hk
    have hle := hhanded.taken_le
    omega
  · rw [hinv.taken]
    exact List.Nodup.map_on (fun i _ j _ hsame => by omega) List.nodup_range
  · obtain ⟨hzero, hperm⟩ := hinv.returns hmain
    refine ⟨hzero.trans ?_, hperm⟩
    unfold PartitionFilesState.Failed
    push Not
    rfl

theorem eachPart_once_two :
    let run : PartitionFiles := ⟨2, 2⟩
    (∃ bound, ∀ as s, exec run.step run.initial as = some s → as.length ≤ bound) ∧
    ∀ s, Reachable run.step run.initial s →
      (∀ taken ∈ s.taken, 1 ≤ taken.2 ∧ taken.2 ≤ run.partCount) ∧
      (s.taken.map Prod.snd).Nodup ∧
      ((∀ a, run.step s a = none) → ∃ rc, s.main = .returned rc) ∧
      ∀ rc, s.main = .returned rc →
        (rc = 0 ↔ ∀ call ∈ s.calls, call.2 = .returned 0) ∧
        (rc = 0 → (s.calls.map Prod.fst).Perm
          ((List.range run.partCount).map fun k : Nat => (k : Int) + 1)) :=
  eachPart_once ⟨2, 2⟩ (by decide)

end PartitionFiles

end Schengen.Storage
