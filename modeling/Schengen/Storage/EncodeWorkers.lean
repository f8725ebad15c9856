import Schengen.Library.ClosingFifo
import Schengen.Library.Runs
import Schengen.Library.Workers
import Schengen.Storage.ParallelEncode
import Schengen.Storage.PartitionRange

/-!
# The workers of the parallel Parquet encoder

`RunParallelEncodeParquetOrdered` from the start of the workers to the last joined future. The
workers take parts from a shared queue, encode them in memory and push the results; the last one to
count down closes the queue of results. The consumer merges what it pops. The queue of results is
any FIFO queue that refuses pushes after `Close`; each part is encoded with any outcome.
-/

namespace Schengen.Storage
open Library

variable {μ : Type}

/-- The outcome of `GeneratePartitionToInMemory`. -/
inductive EncodeOutcome
  | buffer (bytes : List UInt8)
  | error (message : String)
  | threw
  deriving DecidableEq

/-- The next access of a worker. -/
inductive EncodeWorkerPc
  | loadStop
  | loadClosed
  | fetchAdd
  | generate (part : Int)
  | storeStop (result : InMemoryPartitionData)
  | push (result : InMemoryPartitionData)
  | fetchSub
  | close
  | ended
  | threw

/-- The next access of the consumer, which joins the workers when it has left its loop. -/
inductive EncodeConsumerPc
  | pop
  | storeStop
  | closePartitions
  | closeResults
  | join (worker : Nat)
  | joined
  deriving DecidableEq

/-- `popped` and `calls` record history: the results popped, and the parts and outcomes of the
calls. -/
structure EncodeWorkersState (μ : Type) where
  partitions : PartitionRangeQueue
  results : ClosingFifo InMemoryPartitionData
  stopRequested : Bool
  remainingWorkers : Int
  worker : Nat → EncodeWorkerPc
  merge : MergeState μ
  consumer : EncodeConsumerPc
  popped : List InMemoryPartitionData
  calls : List (Int × EncodeOutcome)

/-- `outcome` is that of the call if the step is one, and `keep` the number of results that stay in
the queue if the step closes it. -/
inductive EncodeWorkersAction
  | worker (worker keep : Nat) (outcome : EncodeOutcome)
  | consumer (keep : Nat)

/-- The parameters of a run: the merge, `worker_count` of the options and how the leading magic was
written. -/
structure EncodeWorkers (μ : Type) where
  encoder : ParallelEncode μ
  workerCount : Nat
  written : Status × World UInt8

namespace EncodeWorkers

variable (run : EncodeWorkers μ)

def workers : Nat := resolveWorkerCount run.workerCount run.encoder.partCount

def initial [Inhabited μ] : EncodeWorkersState μ where
  partitions := .new run.encoder.partCount
  results := .empty
  stopRequested := false
  remainingWorkers := run.workers
  worker := fun _ => .loadStop
  merge := ParallelEncode.startMerge run.written
  consumer := .pop
  popped := []
  calls := []

def goto (s : EncodeWorkersState μ) (worker : Nat) (pc : EncodeWorkerPc) : EncodeWorkersState μ :=
  { s with worker := Function.update s.worker worker pc }

/-- The result of a part as it is pushed. A part below 1 is never looked up. -/
def afterCall (part : Int) : EncodeOutcome → EncodeWorkerPc
  | .buffer bytes => .push ⟨part.toNat, some bytes, ""⟩
  | .error message => .storeStop ⟨part.toNat, none, message⟩
  | .threw => .threw

def workerStep (worker keep : Nat) (outcome : EncodeOutcome) (s : EncodeWorkersState μ) :
    Option (EncodeWorkersState μ) :=
  match s.worker worker with
  | .loadStop => some (goto s worker (if s.stopRequested then .fetchSub else .loadClosed))
  | .loadClosed => some (goto s worker (if s.partitions.closed then .fetchSub else .fetchAdd))
  | .fetchAdd =>
    let fetched := s.partitions.fetchAdd
    some (goto { s with partitions := fetched.2 } worker
      (match fetched.1 with | none => .fetchSub | some part => .generate part))
  | .generate part =>
    some (goto { s with calls := s.calls ++ [(part, outcome)] } worker (afterCall part outcome))
  | .storeStop result => some (goto { s with stopRequested := true } worker (.push result))
  | .push result =>
    match s.results.push result with
    | none => some (goto s worker .fetchSub)
    | some results => some (goto { s with results := results } worker .loadStop)
  | .fetchSub =>
    some (goto { s with remainingWorkers := s.remainingWorkers - 1 } worker
      (if s.remainingWorkers = 1 then .close else .ended))
  | .close => some (goto { s with results := s.results.close keep } worker .ended)
  | .ended => none
  | .threw => none

/-- What a future that holds an exception adds. -/
def noteThrown (merge : MergeState μ) : MergeState μ :=
  if merge.pipelineError = "" then { merge with pipelineError := "worker task threw exception" }
  else merge

def consumerStep (keep : Nat) (s : EncodeWorkersState μ) : Option (EncodeWorkersState μ) :=
  match s.consumer with
  | .pop =>
    match s.results.pop with
    | some (result, results) =>
      let merge := run.encoder.receive result s.merge
      some { s with
        results := results
        popped := s.popped ++ [result]
        merge := merge
        consumer := if merge.pipelineError = "" then .pop else .storeStop }
    | none => if s.results.closed then some { s with consumer := .join 0 } else none
  | .storeStop => some { s with stopRequested := true, consumer := .closePartitions }
  | .closePartitions => some { s with partitions := s.partitions.close, consumer := .closeResults }
  | .closeResults => some { s with results := s.results.close keep, consumer := .join 0 }
  | .join worker =>
    if worker < run.workers then
      match s.worker worker with
      | .ended => some { s with consumer := .join (worker + 1) }
      | .threw => some { s with merge := noteThrown s.merge, consumer := .join (worker + 1) }
      | _ => none
    else some { s with consumer := .joined }
  | .joined => none

def step (s : EncodeWorkersState μ) : EncodeWorkersAction → Option (EncodeWorkersState μ)
  | .worker worker keep outcome =>
    if worker < run.workers then workerStep worker keep outcome s else none
  | .consumer keep => run.consumerStep keep s

end EncodeWorkers

/-- The worker has counted down. -/
def EncodeWorkerPc.counted : EncodeWorkerPc → Bool
  | .close => true
  | .ended => true
  | _ => false

def EncodeWorkerPc.isOver : EncodeWorkerPc → Bool
  | .ended => true
  | .threw => true
  | _ => false

/-- The consumer has left its loop over the results. -/
def EncodeConsumerPc.leftLoop : EncodeConsumerPc → Bool
  | .join _ => true
  | .joined => true
  | _ => false

namespace EncodeWorkers

/-- The countdown is the number of workers that have not counted down, the last of them closes the
queue, and a worker that threw never does. -/
structure CountdownInv (run : EncodeWorkers μ) (s : EncodeWorkersState μ) : Prop where
  remaining : s.remainingWorkers + workersWhere EncodeWorkerPc.counted run.workers s.worker =
    run.workers
  last : s.remainingWorkers = 0 →
    s.results.closed = true ∨ ∃ k < run.workers, s.worker k = .close
  closing : ∀ k < run.workers, s.worker k = .close → s.remainingWorkers = 0
  closed : s.results.closed = true → s.remainingWorkers = 0 ∨ s.consumer.leftLoop = true
  left : s.consumer.leftLoop = true → s.results.closed = true
  threw : (∃ call ∈ s.calls, call.2 = .threw) ↔ ∃ k < run.workers, s.worker k = .threw

variable {run : EncodeWorkers μ} {s t : EncodeWorkersState μ} {k keep : Nat}
  {next : EncodeWorkerPc}

lemma countdownInv_initial [Inhabited μ] : CountdownInv run run.initial where
  remaining := by
    have hnone : workersWhere EncodeWorkerPc.counted run.workers run.initial.worker = 0 :=
      workersWhere_eq_zero.mpr fun k _ h => by cases h
    rw [hnone]
    exact Int.add_zero _
  last h := by
    have hpos : 1 ≤ run.workers := resolveWorkerCount_pos _ _
    change (run.workers : Int) = 0 at h
    omega
  closing k _ h := by cases h
  closed h := by cases h
  left h := by cases h
  threw := by
    constructor
    · rintro ⟨call, hcall, -⟩
      cases hcall
    · rintro ⟨k, -, h⟩
      cases h

lemma exists_threw_update {worker : Nat → EncodeWorkerPc} {count : Nat} (hk : k < count)
    (hbefore : worker k ≠ .threw) :
    (∃ j < count, Function.update worker k next j = .threw) ↔
      (∃ j < count, worker j = .threw) ∨ next = .threw := by
  constructor
  · rintro ⟨j, hj, hpc⟩
    by_cases hjk : j = k
    · subst hjk
      rw [Function.update_self] at hpc
      exact Or.inr hpc
    · rw [Function.update_of_ne hjk] at hpc
      exact Or.inl ⟨j, hj, hpc⟩
  · rintro (⟨j, hj, hpc⟩ | rfl)
    · refine ⟨j, hj, ?_⟩
      rwa [Function.update_of_ne]
      rintro rfl
      exact hbefore hpc
    · exact ⟨k, hk, Function.update_self _ _ _⟩

/-- A step of a worker that does not count down. -/
lemma CountdownInv.move (h : CountdownInv run s) (hk : k < run.workers)
    (hworker : t.worker = Function.update s.worker k next)
    (hbefore : (s.worker k).counted = false) (hthrew : s.worker k ≠ .threw)
    (hafter : next.counted = false) (hremaining : t.remainingWorkers = s.remainingWorkers)
    (hconsumer : t.consumer = s.consumer) (hclosed : t.results.closed = s.results.closed)
    (hcalls : (∃ call ∈ t.calls, call.2 = .threw) ↔
      (∃ call ∈ s.calls, call.2 = .threw) ∨ next = .threw) : CountdownInv run t := by
  have hself : t.worker k = next := by rw [hworker, Function.update_self]
  have hother : ∀ j, j ≠ k → t.worker j = s.worker j := fun j hj => by
    rw [hworker, Function.update_of_ne hj]
  have hclose : ∀ j, t.worker j = .close ↔ s.worker j = .close := by
    intro j
    by_cases hjk : j = k
    · subst hjk
      rw [hself]
      constructor <;> intro hpc
      · rw [hpc] at hafter
        cases hafter
      · rw [hpc] at hbefore
        cases hbefore
    · rw [hother j hjk]
  refine ⟨?_, ?_, fun j hj hpc => ?_, ?_, ?_, ?_⟩
  · have hupdate := workersWhere_update EncodeWorkerPc.counted hk s.worker next
    rw [hbefore, hafter] at hupdate
    have hcount := h.remaining
    rw [hworker, hremaining]
    omega
  · rw [hremaining, hclosed]
    simpa only [hclose] using h.last
  · rw [hremaining]
    exact h.closing j hj ((hclose j).mp hpc)
  · rw [hremaining, hclosed, hconsumer]
    exact h.closed
  · rw [hclosed, hconsumer]
    exact h.left
  · rw [hcalls, h.threw, hworker, exists_threw_update hk hthrew]

lemma afterCall_counted (part : Int) (outcome : EncodeOutcome) :
    (afterCall part outcome).counted = false ∧ (outcome = .threw ↔ afterCall part outcome = .threw) := by
  cases outcome <;> simp [afterCall, EncodeWorkerPc.counted]

/-- The last worker to count down is the one that closes the queue. -/
lemma CountdownInv.fetchSub (h : CountdownInv run s) (hk : k < run.workers)
    (hpc : s.worker k = .fetchSub) :
    CountdownInv run (goto { s with remainingWorkers := s.remainingWorkers - 1 } k
      (if s.remainingWorkers = 1 then .close else .ended)) := by
  have hcounted : (if s.remainingWorkers = 1 then EncodeWorkerPc.close else .ended).counted = true := by
    split <;> rfl
  have hupdate := workersWhere_update EncodeWorkerPc.counted hk s.worker
    (if s.remainingWorkers = 1 then .close else .ended)
  rw [hpc, hcounted] at hupdate
  have hcount := h.remaining
  have hle := workersWhere_lt (p := EncodeWorkerPc.counted) hk
    (show (s.worker k).counted = false by rw [hpc]; rfl)
  have hother : ∀ j, j ≠ k → (goto { s with remainingWorkers := s.remainingWorkers - 1 } k
      (if s.remainingWorkers = 1 then .close else .ended)).worker j = s.worker j :=
    fun j hj => Function.update_of_ne hj _ _
  have hself : (goto { s with remainingWorkers := s.remainingWorkers - 1 } k
      (if s.remainingWorkers = 1 then .close else .ended)).worker k =
        if s.remainingWorkers = 1 then .close else .ended := Function.update_self _ _ _
  refine ⟨?_, fun hzero => ?_, fun j hj hclose => ?_, fun hclosed => ?_, h.left, ?_⟩
  · simp only [goto, EncodeWorkerPc.counted, Bool.toNat_true, Bool.toNat_false] at hupdate ⊢
    omega
  · change s.remainingWorkers - 1 = 0 at hzero
    exact Or.inr ⟨k, hk, by rw [hself, if_pos (by omega)]⟩
  · change s.remainingWorkers - 1 = 0
    by_cases hjk : j = k
    · rw [hjk, hself] at hclose
      by_cases hone : s.remainingWorkers = 1
      · omega
      · rw [if_neg hone] at hclose
        cases hclose
    · rw [hother j hjk] at hclose
      have hzero := h.closing j hj hclose
      omega
  · refine (h.closed hclosed).imp (fun hzero => ?_) id
    omega
  · refine h.threw.trans ((exists_threw_update hk (by simp [hpc])).trans (or_iff_left ?_)).symm
    split <;> exact fun h => nomatch h

lemma CountdownInv.close (h : CountdownInv run s) (hk : k < run.workers)
    (hpc : s.worker k = .close) :
    CountdownInv run (goto { s with results := s.results.close keep } k .ended) := by
  have hupdate := workersWhere_update EncodeWorkerPc.counted hk s.worker .ended
  rw [hpc] at hupdate
  have hcount := h.remaining
  have hzero := h.closing k hk hpc
  have hthrew : (∃ j < run.workers, Function.update s.worker k .ended j = .threw) ↔
      (∃ j < run.workers, s.worker j = .threw) ∨ EncodeWorkerPc.ended = .threw :=
    exists_threw_update hk (by simp [hpc])
  refine ⟨?_, fun _ => Or.inl rfl, fun _ _ _ => hzero, fun _ => Or.inl hzero, fun _ => rfl, ?_⟩
  · simp only [goto, EncodeWorkerPc.counted] at hupdate ⊢
    omega
  · exact h.threw.trans (hthrew.trans (or_iff_left (by simp))).symm

lemma threw_or_iff {calls : List (Int × EncodeOutcome)} (hnext : next ≠ .threw) :
    (∃ call ∈ calls, call.2 = EncodeOutcome.threw) ↔
      (∃ call ∈ calls, call.2 = EncodeOutcome.threw) ∨ next = .threw :=
  ⟨Or.inl, fun h => h.resolve_right hnext⟩

lemma countdownInv_workerStep {outcome : EncodeOutcome} (h : CountdownInv run s)
    (hk : k < run.workers) (hstep : workerStep k keep outcome s = some t) : CountdownInv run t := by
  cases hpc : s.worker k with
  | loadStop =>
    simp only [workerStep, hpc, Option.some.injEq] at hstep
    subst hstep
    refine h.move hk rfl (by rw [hpc]; rfl) (by simp [hpc]) ?_ rfl rfl rfl (threw_or_iff ?_)
    · split <;> rfl
    · split <;> exact fun h => nomatch h
  | loadClosed =>
    simp only [workerStep, hpc, Option.some.injEq] at hstep
    subst hstep
    refine h.move hk rfl (by rw [hpc]; rfl) (by simp [hpc]) ?_ rfl rfl rfl (threw_or_iff ?_)
    · split <;> rfl
    · split <;> exact fun h => nomatch h
  | fetchAdd =>
    simp only [workerStep, hpc, Option.some.injEq] at hstep
    subst hstep
    refine h.move hk rfl (by rw [hpc]; rfl) (by simp [hpc]) ?_ rfl rfl rfl (threw_or_iff ?_)
    · split <;> rfl
    · split <;> exact fun h => nomatch h
  | generate part =>
    simp only [workerStep, hpc, Option.some.injEq] at hstep
    subst hstep
    obtain ⟨hcounted, hthrew⟩ := afterCall_counted part outcome
    refine h.move hk rfl (by rw [hpc]; rfl) (by simp [hpc]) hcounted rfl rfl rfl ?_
    rw [← hthrew]
    simp only [goto, List.mem_append, List.mem_singleton, or_and_right, exists_or, exists_eq_left]
  | storeStop result =>
    simp only [workerStep, hpc, Option.some.injEq] at hstep
    subst hstep
    exact h.move hk rfl (by rw [hpc]; rfl) (by simp [hpc]) rfl rfl rfl rfl
      (threw_or_iff fun h => nomatch h)
  | push result =>
    simp only [workerStep, hpc] at hstep
    cases hpush : s.results.push result with
    | none =>
      simp only [hpush, Option.some.injEq] at hstep
      subst hstep
      exact h.move hk rfl (by rw [hpc]; rfl) (by simp [hpc]) rfl rfl rfl rfl
        (threw_or_iff fun h => nomatch h)
    | some results =>
      obtain ⟨hopen, rfl⟩ := ClosingFifo.push_some hpush
      simp only [hpush, Option.some.injEq] at hstep
      subst hstep
      exact h.move hk rfl (by rw [hpc]; rfl) (by simp [hpc]) rfl rfl rfl rfl
        (threw_or_iff fun h => nomatch h)
  | fetchSub =>
    simp only [workerStep, hpc, Option.some.injEq] at hstep
    subst hstep
    exact h.fetchSub hk hpc
  | close =>
    simp only [workerStep, hpc, Option.some.injEq] at hstep
    subst hstep
    exact h.close hk hpc
  | ended =>
    simp only [workerStep, hpc] at hstep
    cases hstep
  | threw =>
    simp only [workerStep, hpc] at hstep
    cases hstep

/-- A step of the consumer: the queue is closed before the loop is left. -/
lemma CountdownInv.consume (h : CountdownInv run s) (hworker : t.worker = s.worker)
    (hremaining : t.remainingWorkers = s.remainingWorkers) (hcalls : t.calls = s.calls)
    (hclosed : s.results.closed = true → t.results.closed = true)
    (hopened : t.results.closed = true → s.results.closed = true ∨ t.consumer.leftLoop = true)
    (hkeeps : s.consumer.leftLoop = true → t.consumer.leftLoop = true)
    (hleft : t.consumer.leftLoop = true → t.results.closed = true) : CountdownInv run t where
  remaining := by
    rw [hworker, hremaining]
    exact h.remaining
  last hzero := by
    rw [hremaining] at hzero
    rw [hworker]
    exact (h.last hzero).imp hclosed id
  closing k hk hpc := by
    rw [hworker] at hpc
    rw [hremaining]
    exact h.closing k hk hpc
  closed hnow := by
    rw [hremaining]
    rcases hopened hnow with hbefore | hnext
    · exact (h.closed hbefore).imp id hkeeps
    · exact Or.inr hnext
  left := hleft
  threw := by
    rw [hworker, hcalls]
    exact h.threw

/-- What a step of the consumer does. -/
inductive MergeMoves (run : EncodeWorkers μ) (keep : Nat) (s : EncodeWorkersState μ) :
    EncodeWorkersState μ → Prop
  | receive (result : InMemoryPartitionData) (results : ClosingFifo InMemoryPartitionData)
      (hpc : s.consumer = .pop) (hpop : s.results.pop = some (result, results)) :
      MergeMoves run keep s { s with
        results := results
        popped := s.popped ++ [result]
        merge := run.encoder.receive result s.merge
        consumer :=
          if (run.encoder.receive result s.merge).pipelineError = "" then .pop else .storeStop }
  | drained (hpc : s.consumer = .pop) (hclosed : s.results.closed = true) :
      MergeMoves run keep s { s with consumer := .join 0 }
  | stop (hpc : s.consumer = .storeStop) :
      MergeMoves run keep s { s with stopRequested := true, consumer := .closePartitions }
  | closePartitions (hpc : s.consumer = .closePartitions) :
      MergeMoves run keep s
        { s with partitions := s.partitions.close, consumer := .closeResults }
  | closeResults (hpc : s.consumer = .closeResults) :
      MergeMoves run keep s { s with results := s.results.close keep, consumer := .join 0 }
  | ended (k : Nat) (hpc : s.consumer = .join k) (hk : k < run.workers)
      (hworker : s.worker k = .ended) : MergeMoves run keep s { s with consumer := .join (k + 1) }
  | threw (k : Nat) (hpc : s.consumer = .join k) (hk : k < run.workers)
      (hworker : s.worker k = .threw) :
      MergeMoves run keep s { s with merge := noteThrown s.merge, consumer := .join (k + 1) }
  | joined (k : Nat) (hpc : s.consumer = .join k) (hk : ¬ k < run.workers) :
      MergeMoves run keep s { s with consumer := .joined }

lemma mergeMoves (hstep : run.consumerStep keep s = some t) : MergeMoves run keep s t := by
  unfold consumerStep at hstep
  split at hstep
  · next hpc =>
    split at hstep
    · next result results hpop =>
      cases hstep
      exact .receive result results hpc hpop
    · split at hstep
      · next hclosed =>
        cases hstep
        exact .drained hpc hclosed
      · cases hstep
  · next hpc =>
    cases hstep
    exact .stop hpc
  · next hpc =>
    cases hstep
    exact .closePartitions hpc
  · next hpc =>
    cases hstep
    exact .closeResults hpc
  · next k hpc =>
    split at hstep
    · next hk =>
      split at hstep
      · next hworker =>
        cases hstep
        exact .ended k hpc hk hworker
      · next hworker =>
        cases hstep
        exact .threw k hpc hk hworker
      · cases hstep
    · next hk =>
      cases hstep
      exact .joined k hpc hk
  · cases hstep

lemma countdownInv_consumerStep (h : CountdownInv run s)
    (hstep : run.consumerStep keep s = some t) : CountdownInv run t := by
  have hleft := h.left
  cases mergeMoves hstep with
  | receive result results hpc hpop =>
    obtain ⟨-, hsame⟩ := ClosingFifo.pop_some hpop
    refine h.consume rfl rfl rfl (fun hclosed => hsame ▸ hclosed)
      (fun hclosed => Or.inl (hsame ▸ hclosed)) ?_ ?_
    · rw [hpc]
      intro hloop
      cases hloop
    · intro hloop
      dsimp only at hloop
      split at hloop <;> cases hloop
  | drained hpc hclosed =>
    exact h.consume rfl rfl rfl id Or.inl (fun _ => rfl) fun _ => hclosed
  | stop hpc | closePartitions hpc =>
    exact h.consume rfl rfl rfl id Or.inl (by rw [hpc]; exact fun hloop => nomatch hloop)
      (fun hloop => nomatch hloop)
  | closeResults =>
    exact h.consume rfl rfl rfl (fun _ => rfl) (fun _ => Or.inr rfl) (fun _ => rfl) fun _ => rfl
  | ended k hpc | threw k hpc | joined k hpc =>
    rw [hpc] at hleft
    exact h.consume rfl rfl rfl id Or.inl (fun _ => rfl) fun _ => hleft rfl

lemma countdownInv_step {a : EncodeWorkersAction} (h : CountdownInv run s)
    (hstep : run.step s a = some t) : CountdownInv run t := by
  cases a with
  | worker k keep outcome =>
    simp only [step] at hstep
    by_cases hk : k < run.workers
    · rw [if_pos hk] at hstep
      exact countdownInv_workerStep h hk hstep
    · rw [if_neg hk] at hstep
      cases hstep
  | consumer keep => exact countdownInv_consumerStep h hstep

/-- Once all tasks have ended, the queue of results is closed exactly if no call threw or the
consumer has left its loop. -/
theorem results_closed_iff [Inhabited μ] (run : EncodeWorkers μ) {s : EncodeWorkersState μ}
    (h : Reachable run.step run.initial s)
    (hover : ∀ k < run.workers, (s.worker k).isOver = true) :
    s.results.closed = true ↔
      (∀ call ∈ s.calls, call.2 ≠ .threw) ∨ s.consumer.leftLoop = true := by
  have hinv : CountdownInv run s :=
    h.invariant countdownInv_initial fun _ _ _ => countdownInv_step
  have hcount := hinv.remaining
  have hnone : (∀ call ∈ s.calls, call.2 ≠ .threw) ↔ s.remainingWorkers = 0 := by
    have hthrew : (∀ call ∈ s.calls, call.2 ≠ .threw) ↔ ∀ k < run.workers, s.worker k ≠ .threw := by
      have hnot := not_congr hinv.threw
      push Not at hnot
      exact hnot
    have hall : workersWhere EncodeWorkerPc.counted run.workers s.worker = run.workers ↔
        ∀ k < run.workers, (s.worker k).counted = true := workersWhere_eq_count
    rw [hthrew]
    constructor
    · intro hended
      have hcounted := hall.mpr fun k hk => by
        have hpc := hover k hk
        have hne := hended k hk
        revert hpc hne
        cases s.worker k <;> simp [EncodeWorkerPc.isOver, EncodeWorkerPc.counted]
      omega
    · intro hzero k hk hpc
      have hcounted := hall.mp (by omega) k hk
      rw [hpc] at hcounted
      cases hcounted
  rw [hnone]
  refine ⟨hinv.closed, ?_⟩
  rintro (hzero | hleft)
  · rcases hinv.last hzero with hclosed | ⟨k, hk, hpc⟩
    · exact hclosed
    · have hend := hover k hk
      rw [hpc] at hend
      cases hend
  · exact hinv.left hleft

/-! ### One worker and one part -/

def onePart : EncodeWorkers Unit where
  encoder :=
    { tableName := "region"
      partCount := 1
      outputBufferBytes := 0
      getFilesystem := .ok
      getPath := .ok
      baseDir := "out"
      fs := ⟨fun _ _ => .ok, fun _ => []⟩
      deserialize := fun _ => .error "Couldn't deserialize thrift"
      serialize := fun _ => []
      arrivals := []
      workerThrew := false }
  workerCount := 1
  written := (.ok, ⟨fun _ => none, [], []⟩)

/-- The accesses of the worker up to the outcome of its call. -/
def callOnce (outcome : EncodeOutcome) : List EncodeWorkersAction :=
  List.replicate 4 (.worker 0 0 outcome)

/-- An error status is pushed and the worker counts down. -/
theorem results_closed_iff_error :
    ∃ s, exec onePart.step onePart.initial
        (callOnce (.error "IOError: full") ++ List.replicate 5 (.worker 0 1 .threw)) = some s ∧
      (s.results.closed = true ↔
        (∀ call ∈ s.calls, call.2 ≠ .threw) ∨ s.consumer.leftLoop = true) := by
  have hends : (exec onePart.step onePart.initial (callOnce (.error "IOError: full") ++
      List.replicate 5 (.worker 0 1 .threw))).map (fun s => (s.worker 0).isOver) = some true := by
    decide
  obtain ⟨s, hrun, hover⟩ := Option.map_eq_some_iff.mp hends
  refine ⟨s, hrun, results_closed_iff onePart ⟨_, hrun⟩ fun k hk => ?_⟩
  obtain rfl : k = 0 := Nat.lt_one_iff.mp hk
  exact hover

/-- The call throws: the only task has ended, the queue is open and the consumer waits for ever. -/
theorem consumer_stranded :
    ∃ s, Reachable onePart.step onePart.initial s ∧
      (∀ k < onePart.workers, (s.worker k).isOver = true) ∧ s.results.closed = false ∧
      ∀ a, onePart.step s a = none := by
  refine ⟨_, ⟨callOnce .threw, rfl⟩, fun k hk => ?_, rfl, fun a => ?_⟩
  · obtain rfl : k = 0 := Nat.lt_one_iff.mp hk
    rfl
  · cases a with
    | consumer keep => rfl
    | worker k keep outcome =>
      by_cases hk : k < onePart.workers
      · obtain rfl : k = 0 := Nat.lt_one_iff.mp hk
        rfl
      · exact if_neg hk

end EncodeWorkers

end Schengen.Storage
