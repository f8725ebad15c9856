import Schengen.Storage.EncodeWorkers

/-!
# What the consumer has merged

However the workers interleave, the consumer merges the results in the order in which it popped
them. So once the workers are joined, the consumer's state is that of
`RunParallelEncodeParquetOrdered` on these arrivals.
-/

namespace Schengen.Storage
open Library

variable {μ : Type}

lemma ParallelEncode.consume_append {run : ParallelEncode μ} {results more : List InMemoryPartitionData}
    {s : MergeState μ} (h : results = [] ∨ (run.consume results s).pipelineError = "") :
    run.consume (results ++ more) s = run.consume more (run.consume results s) := by
  induction results generalizing s with
  | nil => rfl
  | cons result results ih =>
    have hnone := h.resolve_left (List.cons_ne_nil _ _)
    simp only [List.cons_append, consume] at hnone ⊢
    by_cases herror : (run.receive result s).pipelineError = ""
    · rw [if_pos herror] at hnone ⊢
      rw [if_pos herror]
      exact ih (.inr hnone)
    · rw [if_neg herror] at hnone
      exact absurd hnone herror

namespace EncodeWorkers

variable (run : EncodeWorkers μ)

/-- The encoder with the results that arrived and whether a worker threw. -/
def observed (s : EncodeWorkersState μ) : ParallelEncode μ :=
  { run.encoder with
    arrivals := s.popped
    workerThrew := s.calls.any fun call => call.2 = .threw }

/-- What the consumer has merged of what it popped. -/
def consumed [Inhabited μ] (s : EncodeWorkersState μ) : MergeState μ :=
  run.encoder.consume s.popped (ParallelEncode.startMerge run.written)

/-- The first `count` workers are joined. -/
structure Joined [Inhabited μ] (count : Nat) (s : EncodeWorkersState μ) : Prop where
  finished : ∀ k < count, (s.worker k).isOver = true
  clean : (∀ k < count, s.worker k ≠ .threw) → s.merge = run.consumed s
  thrown : (∃ k < count, s.worker k = .threw) → s.merge = noteThrown (run.consumed s)

/-- The consumer's state at its next access. -/
def MergeInv [Inhabited μ] (s : EncodeWorkersState μ) : Prop :=
  match s.consumer with
  | .pop => s.merge = run.consumed s ∧ (s.popped = [] ∨ s.merge.pipelineError = "")
  | .join count => count ≤ run.workers ∧ run.Joined count s
  | .joined => run.Joined run.workers s
  | _ => s.merge = run.consumed s

variable {run} [Inhabited μ] {s t : EncodeWorkersState μ} {k count keep : Nat}
  {outcome : EncodeOutcome}

omit [Inhabited μ] in
lemma drainPending_observed (u : EncodeWorkersState μ) (fuel : Nat) (merge : MergeState μ) :
    (run.observed u).drainPending fuel merge = run.encoder.drainPending fuel merge := by
  induction fuel generalizing merge with
  | zero => rfl
  | succ fuel ih =>
    simp only [ParallelEncode.drainPending, ih]
    rfl

omit [Inhabited μ] in
/-- Merging does not look at the arrivals. -/
lemma consume_observed (u : EncodeWorkersState μ) (results : List InMemoryPartitionData)
    (merge : MergeState μ) :
    (run.observed u).consume results merge = run.encoder.consume results merge := by
  induction results generalizing merge with
  | nil => rfl
  | cons result results ih =>
    have hreceive : (run.observed u).receive result merge = run.encoder.receive result merge :=
      drainPending_observed u _ _
    simp only [ParallelEncode.consume, hreceive, ih]

lemma mergeInv_initial : run.MergeInv run.initial := ⟨rfl, .inl rfl⟩

omit [Inhabited μ] in
/-- A worker changes nothing that the consumer has merged, and a worker that is over stays so. -/
lemma workerStep_frame (hstep : workerStep k keep outcome s = some t) :
    t.merge = s.merge ∧ t.popped = s.popped ∧ t.consumer = s.consumer ∧
      (s.worker k).isOver = false ∧ ∀ j, j ≠ k → t.worker j = s.worker j := by
  unfold workerStep at hstep
  cases hpc : s.worker k with
  | push result =>
    simp only [hpc] at hstep
    split at hstep <;> cases hstep <;>
      exact ⟨rfl, rfl, rfl, rfl, fun j hj => Function.update_of_ne hj _ _⟩
  | ended =>
    simp only [hpc] at hstep
    cases hstep
  | threw =>
    simp only [hpc] at hstep
    cases hstep
  | _ =>
    simp only [hpc] at hstep
    cases hstep
    exact ⟨rfl, rfl, rfl, rfl, fun j hj => Function.update_of_ne hj _ _⟩

lemma Joined.worker (h : run.Joined count s) (hmerge : t.merge = s.merge)
    (hpopped : t.popped = s.popped) (hworker : ∀ k < count, t.worker k = s.worker k) :
    run.Joined count t := by
  have hconsumed : run.consumed t = run.consumed s := by rw [consumed, consumed, hpopped]
  refine ⟨fun k hk => ?_, fun hclean => ?_, fun ⟨k, hk, hthrew⟩ => ?_⟩
  · rw [hworker k hk]
    exact h.finished k hk
  · rw [hmerge, hconsumed]
    exact h.clean fun k hk => hworker k hk ▸ hclean k hk
  · rw [hmerge, hconsumed]
    exact h.thrown ⟨k, hk, hworker k hk ▸ hthrew⟩

lemma mergeInv_workerStep (h : run.MergeInv s) (hstep : workerStep k keep outcome s = some t) :
    run.MergeInv t := by
  obtain ⟨hmerge, hpopped, hconsumer, hover, hworker⟩ := workerStep_frame hstep
  have hconsumed : run.consumed t = run.consumed s := by rw [consumed, consumed, hpopped]
  have hjoined : ∀ count, run.Joined count s → run.Joined count t := by
    intro count hcount
    refine hcount.worker hmerge hpopped fun j hj => hworker j ?_
    rintro rfl
    exact absurd (hcount.finished j hj) (by rw [hover]; exact Bool.false_ne_true)
  unfold MergeInv at h ⊢
  rw [hconsumer]
  cases hpc : s.consumer with
  | join count =>
    rw [hpc] at h
    exact ⟨h.1, hjoined _ h.2⟩
  | joined =>
    rw [hpc] at h
    exact hjoined _ h
  | pop =>
    rw [hpc] at h
    rw [hmerge, hconsumed, hpopped]
    exact h
  | _ =>
    rw [hpc] at h
    rw [hmerge, hconsumed]
    exact h

omit [Inhabited μ] in
lemma noteThrown_twice (merge : MergeState μ) :
    noteThrown (noteThrown merge) = noteThrown merge := by
  by_cases hnone : merge.pipelineError = ""
  · have hnoted : noteThrown merge = { merge with pipelineError := "worker task threw exception" } :=
      if_pos hnone
    have hne : "worker task threw exception" ≠ "" := by decide
    rw [hnoted]
    exact if_neg hne
  · have hkept : noteThrown merge = merge := if_neg hnone
    rw [hkept, hkept]

/-- One more worker is joined. -/
lemma Joined.next (h : run.Joined count s) (hover : (s.worker count).isOver = true)
    (hended : s.worker count ≠ .threw → t.merge = s.merge)
    (hthrew : s.worker count = .threw → t.merge = noteThrown s.merge)
    (hpopped : t.popped = s.popped) (hworker : t.worker = s.worker) : run.Joined (count + 1) t := by
  have hconsumed : run.consumed t = run.consumed s := by rw [consumed, consumed, hpopped]
  refine ⟨fun k hk => ?_, fun hclean => ?_, fun hthrown => ?_⟩
  · rw [hworker]
    obtain hlt | rfl := Nat.lt_succ_iff_lt_or_eq.mp hk
    · exact h.finished k hlt
    · exact hover
  · rw [hworker] at hclean
    rw [hended (hclean count (Nat.lt_succ_self _)), hconsumed]
    exact h.clean fun k hk => hclean k (Nat.lt_succ_of_lt hk)
  · rw [hworker] at hthrown
    rw [hconsumed]
    by_cases hbefore : ∃ k < count, s.worker k = .threw
    · have hmerged := h.thrown hbefore
      by_cases hlast : s.worker count = .threw
      · rw [hthrew hlast, hmerged, noteThrown_twice]
      · rw [hended hlast, hmerged]
    · push Not at hbefore
      obtain ⟨k, hk, hlast⟩ := hthrown
      obtain hlt | rfl := Nat.lt_succ_iff_lt_or_eq.mp hk
      · exact absurd hlast (hbefore k hlt)
      · rw [hthrew hlast, h.clean hbefore]

lemma mergeInv_consumerStep (h : run.MergeInv s) (hstep : run.consumerStep keep s = some t) :
    run.MergeInv t := by
  unfold MergeInv at h
  have hstart : ∀ u : EncodeWorkersState μ, u.merge = run.consumed u → run.Joined 0 u :=
    fun u hu => ⟨fun k hk => absurd hk (Nat.not_lt_zero k), fun _ => hu,
      fun ⟨k, hk, _⟩ => absurd hk (Nat.not_lt_zero k)⟩
  cases mergeMoves hstep with
  | receive result results hpc hpop =>
    rw [hpc] at h
    obtain ⟨hmerge, hclean⟩ := h
    have hconsumed : run.encoder.receive result s.merge =
        run.encoder.consume (s.popped ++ [result]) (ParallelEncode.startMerge run.written) := by
      rw [hmerge] at hclean
      rw [ParallelEncode.consume_append hclean, hmerge]
      simp only [ParallelEncode.consume, ite_self]
      rfl
    by_cases herror : (run.encoder.receive result s.merge).pipelineError = ""
    · simp only [herror, if_true, MergeInv]
      exact ⟨hconsumed, .inr trivial⟩
    · simp only [herror, if_false, MergeInv]
      exact hconsumed
  | drained hpc =>
    rw [hpc] at h
    exact ⟨Nat.zero_le _, hstart _ h.1⟩
  | stop hpc | closePartitions hpc =>
    rw [hpc] at h
    exact h
  | closeResults hpc =>
    rw [hpc] at h
    exact ⟨Nat.zero_le _, hstart _ h⟩
  | ended k hpc hk hworker =>
    rw [hpc] at h
    exact ⟨hk, h.2.next (by rw [hworker]; rfl) (fun _ => rfl)
      (fun hthrew => by rw [hworker] at hthrew; cases hthrew) rfl rfl⟩
  | threw k hpc hk hworker =>
    rw [hpc] at h
    exact ⟨hk, h.2.next (by rw [hworker]; rfl) (fun hended => absurd hworker hended)
      (fun _ => rfl) rfl rfl⟩
  | joined k hpc hk =>
    rw [hpc] at h
    obtain ⟨hcount, hjoined⟩ := h
    have hall : k = run.workers := Nat.le_antisymm hcount (Nat.not_lt.mp hk)
    exact (hall ▸ hjoined).worker rfl rfl fun _ _ => rfl

lemma mergeInv_step {a : EncodeWorkersAction} (h : run.MergeInv s) (hstep : run.step s a = some t) :
    run.MergeInv t := by
  cases a with
  | worker k keep outcome =>
    simp only [step] at hstep
    split at hstep
    · exact mergeInv_workerStep h hstep
    · cases hstep
  | consumer keep => exact mergeInv_consumerStep h hstep

/-- Once the workers are joined, the consumer is where `RunParallelEncodeParquetOrdered` is after
the results that arrived. -/
theorem merge_of_joined (h : Reachable run.step run.initial s) (hjoined : s.consumer = .joined) :
    s.merge = (run.observed s).joinWorkers
      ((run.observed s).consume s.popped (ParallelEncode.startMerge run.written)) := by
  have hmerge : run.MergeInv s := h.invariant mergeInv_initial fun _ _ _ => mergeInv_step
  have hcount : CountdownInv run s :=
    h.invariant countdownInv_initial fun _ _ _ => countdownInv_step
  have hall : run.Joined run.workers s := by
    unfold MergeInv at hmerge
    rw [hjoined] at hmerge
    exact hmerge
  have hconsumed : (run.observed s).consume s.popped (ParallelEncode.startMerge run.written) =
      run.consumed s := consume_observed s s.popped _
  rw [hconsumed]
  unfold ParallelEncode.joinWorkers
  by_cases hthrew : ∃ k < run.workers, s.worker k = .threw
  · have hany : (run.observed s).workerThrew = true := by
      obtain ⟨call, hcall, hthrown⟩ := hcount.threw.mpr hthrew
      exact List.any_eq_true.mpr ⟨call, hcall, decide_eq_true hthrown⟩
    rw [hall.thrown hthrew, hany, Bool.true_and, noteThrown]
    simp only [decide_eq_true_eq]
  · have hnone : (run.observed s).workerThrew = false := by
      refine List.any_eq_false.mpr fun call hcall hthrown => hthrew (hcount.threw.mp ?_)
      exact ⟨call, hcall, of_decide_eq_true hthrown⟩
    push Not at hthrew
    rw [hall.clean hthrew, hnone, Bool.false_and]
    exact (if_neg Bool.false_ne_true).symm

end EncodeWorkers

end Schengen.Storage
