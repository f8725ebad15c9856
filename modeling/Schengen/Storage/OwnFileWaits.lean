import Schengen.Library.QueueWaits
import Schengen.Storage.OwnFileThreads

/-!
# Waiting at the pipeline queue

The run on one partition with the waits of `Push` and `Pop`. `Push` waits while the open queue is
full and `Pop` while it is empty; a thread that does not wait tests its predicate and blocks
in two steps, and is woken by `notify_one` after a message was pushed or popped and by the two
`notify_all` of the first `Close`. While no thread blocks behind its predicate, the run comes to
its end.
-/

namespace Schengen.Storage
open Library

variable {σ β : Type}

/-- The capacity of `pipeline_queue`. -/
def kPipelineCapacity : Nat := 2

/-- The calling thread. -/
def consumerThread : Nat := 0

def producerThread : Nat := 1

namespace OwnFile

variable (run : OwnFile σ β)

/-- The next step is a call of `Push`. -/
def pushes (s : OwnFileState σ β) : Bool :=
  match s.producer with
  | .push => run.batches[s.position]?.isSome
  | .pushError _ => true
  | _ => false

/-- The predicate of the wait in `Pop`. -/
def popReady (s : OwnFileState σ β) : Bool :=
  match s.pc with
  | .pop => s.queue.popReady
  | _ => true

/-- The predicate of the wait in `Push`. -/
def pushReady (s : OwnFileState σ β) : Bool :=
  !run.pushes s || s.queue.pushReady kPipelineCapacity

def notices (s : OwnFileState σ β) : OwnFileAction → List (Notice QueueCondition)
  | .producer _ =>
    match s.producer with
    | .close => s.queue.closeNotices
    | _ => if run.pushes s then s.queue.pushNotices else []
  | .consumer _ =>
    match s.pc with
    | .pop => s.queue.popNotices
    | .close => s.queue.closeNotices
    | _ => []

/-- The run with its waits. -/
def monitor : Monitor (OwnFileState σ β) OwnFileAction QueueCondition where
  step := run.step
  threads := 2
  thread := fun action => match action with
    | .consumer _ => consumerThread
    | .producer _ => producerThread
  condition := fun thread => if thread = consumerThread then .notEmpty else .notFull
  ready := fun s thread => if thread = consumerThread then popReady s else run.pushReady s
  notices := run.notices

variable {run} {w : σ} {s t : OwnFileState σ β} {keep : Nat}

lemma notices_length (s : OwnFileState σ β) (action : OwnFileAction) :
    (run.notices s action).length ≤ 2 := by
  cases action with
  | producer keep =>
    simp only [notices]
    split
    · exact ClosingFifo.closeNotices_length _
    · split
      · exact ClosingFifo.pushNotices_length _
      · exact Nat.zero_le _
  | consumer keep =>
    simp only [notices]
    split
    · exact ClosingFifo.popNotices_length _
    · exact ClosingFifo.closeNotices_length _
    · exact Nat.zero_le _

variable (run) in
/-- At `not_empty_cv_` only the calling thread waits, and at `not_full_cv_` only the other. -/
lemma reaches_consumer (all : Bool) : run.monitor.Reaches ⟨.notEmpty, all⟩ consumerThread := by
  refine ⟨rfl, .inr fun k hk hcondition => ?_⟩
  by_contra hother
  cases (if_neg hother).symm.trans hcondition

variable (run) in
lemma reaches_producer (all : Bool) : run.monitor.Reaches ⟨.notFull, all⟩ producerThread := by
  refine ⟨rfl, .inr fun k hk hcondition => ?_⟩
  have hk : k < 2 := hk
  have hother : k ≠ consumerThread := by
    rintro rfl
    cases hcondition
  unfold consumerThread at hother
  unfold producerThread
  omega

/-- The calling thread waits in `Pop` while the queue is open and empty. -/
lemma popReady_false (h : popReady s = false) :
    s.pc = .pop ∧ s.queue.closed = false ∧ s.queue.messages = [] := by
  unfold popReady at h
  split at h
  · next hpc => exact ⟨hpc, ClosingFifo.popReady_false h⟩
  · cases h

/-- The thread waits in `Push` while the queue is open and full. -/
lemma pushReady_false (h : run.pushReady s = false) :
    run.pushes s = true ∧ s.queue.closed = false ∧
      kPipelineCapacity ≤ s.queue.messages.length := by
  simp only [pushReady, Bool.or_eq_false_iff, Bool.not_eq_false'] at h
  exact ⟨h.1, ClosingFifo.pushReady_false h.2⟩

/-- What the other thread pushes or closes makes the queue readable. -/
lemma announces_consumer : run.monitor.Announces (ThreadInv w)
    (fun s => run.monitor.ready s consumerThread) consumerThread := by
  intro s action t _ hstep hother hbefore hafter
  have hafter : popReady t = true := hafter
  obtain ⟨hpc, hopen, hempty⟩ := popReady_false hbefore
  cases action with
  | consumer keep => exact absurd rfl hother
  | producer keep =>
    have hstep : run.producerStep keep s = some t := hstep
    have hsame : t.pc = .pop := (producerStep_runs hstep).1.trans hpc
    have hunchanged : t.queue ≠ s.queue := by
      intro hqueue
      simp [popReady, hsame, hqueue, ClosingFifo.popReady, hopen, hempty] at hafter
    have hpushed : run.pushes s = true → s.producer ≠ .close →
        s.queue.pushNotices = run.notices s (.producer keep) := by
      intro hpushes hclose
      simp only [notices]
      rw [if_pos hpushes]
    cases threadMoves hstep with
    | loadStop hproducer | refused batch hproducer | finished hproducer | threw thrown hproducer
    | errorRefused error hproducer => exact absurd rfl hunchanged
    | pushed batch queue hproducer hbatch hpush =>
      refine ⟨_, ?_, run.reaches_consumer false⟩
      change _ ∈ run.notices s (.producer keep)
      rw [← hpushed (by simp [pushes, hproducer, hbatch]) (by simp [hproducer])]
      exact ClosingFifo.mem_pushNotices hpush
    | errorPushed error queue hproducer hpush =>
      refine ⟨_, ?_, run.reaches_consumer false⟩
      change _ ∈ run.notices s (.producer keep)
      rw [← hpushed (by simp [pushes, hproducer]) (by simp [hproducer])]
      exact ClosingFifo.mem_pushNotices hpush
    | close hproducer =>
      refine ⟨_, ?_, run.reaches_consumer true⟩
      simp only [monitor, notices, hproducer]
      exact ClosingFifo.mem_closeNotices hopen .notEmpty

lemma pushes_congr (hproducer : t.producer = s.producer) (hposition : t.position = s.position) :
    run.pushes t = run.pushes s := by
  unfold pushes
  rw [hproducer, hposition]

/-- What the calling thread pops or closes lets the thread push. -/
lemma announces_producer : run.monitor.Announces (ThreadInv w)
    (fun s => run.monitor.ready s producerThread) producerThread := by
  intro s action t hinv hstep hother hbefore hafter
  have hbefore : run.pushReady s = false := hbefore
  have hafter : run.pushReady t = true := hafter
  obtain ⟨hpushes, hopen, hfull⟩ := pushReady_false hbefore
  cases action with
  | producer keep => exact absurd rfl hother
  | consumer keep =>
    have hstep : run.consumerStep keep s = some t := hstep
    have hunchanged : Shares s t → False := by
      intro h
      have hsame : run.pushReady t = run.pushReady s := by
        simp only [pushReady, h.queue, pushes_congr h.producer h.position]
      cases hbefore.symm.trans (hsame.symm.trans hafter)
    by_cases hstart : s.pc = .start
    · rw [hinv.fresh hstart] at hpushes
      cases hpushes
    by_cases hjoin : s.pc = .join
    · simp only [consumerStep, hjoin] at hstep
      split at hstep
      · cases hstep
        exact (hunchanged (finish_shares run s)).elim
      · cases hstep
    cases loopMoves hstep hstart hjoin with
    | receive message queue hpc hpop =>
      refine ⟨_, ?_, run.reaches_producer false⟩
      simp only [monitor, notices, hpc, ClosingFifo.popNotices_eq hpop]
      exact .head _
    | drained hpc hpop hclosed => exact (hunchanged ⟨rfl, rfl, rfl⟩).elim
    | stop hpc => exact (hunchanged ⟨rfl, rfl, rfl⟩).elim
    | close hpc =>
      refine ⟨_, ?_, run.reaches_producer true⟩
      simp only [monitor, notices, hpc]
      exact ClosingFifo.mem_closeNotices hopen .notFull

/-- A thread that need not wait can go on until the run is over. -/
lemma ThreadInv.monitor_step (h : ThreadInv w s) (hends : ¬ Ends s) (halive : s.pc ≠ .terminated) :
    ∃ action t, run.step s action = some t ∧
      run.monitor.ready s (run.monitor.thread action) = true := by
  have hcan : run.CanStep kPipelineCapacity s := h.canStep (by decide) hends halive
  obtain ⟨keep, t, hstep⟩ | ⟨⟨keep, t, hstep⟩, hroom⟩ := hcan
  · refine ⟨.consumer keep, t, hstep, ?_⟩
    by_contra hready
    have hwaits : popReady s = false := (Bool.not_eq_true _).mp hready
    obtain ⟨hpc, hopen, hempty⟩ := popReady_false hwaits
    have hstep : run.consumerStep keep s = some t := hstep
    simp [consumerStep, hpc, ClosingFifo.pop, hempty, hopen] at hstep
  · refine ⟨.producer keep, t, hstep, ?_⟩
    by_contra hready
    have hwaits : run.pushReady s = false := (Bool.not_eq_true _).mp hready
    obtain ⟨-, hopen, hfull⟩ := pushReady_false hwaits
    obtain hclosed | hfree := hroom
    · cases hopen.symm.trans hclosed
    · exact absurd hfree (Nat.not_lt.mpr hfull)

/-- A run without lost wake-ups stands still at its end only. -/
lemma over_of_stuck {u : MonitorState (OwnFileState σ β) QueueCondition}
    {actions : List (MonitorAction OwnFileAction)}
    (hguard : Along run.monitor.waitStep run.monitor.BlocksUnready (.initial (initial w)) actions)
    (hrun : exec run.monitor.waitStep (.initial (initial w)) actions = some u)
    (hstuck : run.monitor.Stuck u) : Ends u.base ∨ u.base.pc = .terminated := by
  have hinv : ThreadInv w u.base := Reachable.invariant
    (I := fun u : MonitorState (OwnFileState σ β) QueueCondition => ThreadInv w u.base) threadInv_initial
    (fun _ _ _ h hs => Monitor.base_invariant (fun _ _ _ => threadInv_step) h hs) ⟨actions, hrun⟩
  by_contra hover
  rw [not_or] at hover
  obtain ⟨action, t, hstep, hready⟩ : ∃ action t, run.step u.base action = some t ∧
      run.monitor.ready u.base (run.monitor.thread action) = true :=
    hinv.monitor_step hover.1 hover.2
  have hthread : run.monitor.thread action < run.monitor.threads := by
    cases action with
    | producer keep => exact Nat.one_lt_two
    | consumer keep => exact Nat.two_pos
  have hnone := Monitor.stuck_step_none (fun _ _ _ => threadInv_step) (fun k hk => ?_)
    threadInv_initial hguard hrun hstuck hthread hready
  · cases hnone.symm.trans hstep
  · obtain rfl | rfl : k = consumerThread ∨ k = producerThread := by
      have hk : k < 2 := hk
      unfold consumerThread producerThread
      omega
    · exact announces_consumer
    · exact announces_producer

/-- A run with its waits takes at most so many steps. -/
lemma waits_length_le {u : MonitorState (OwnFileState σ β) QueueCondition}
    {actions : List (MonitorAction OwnFileAction)}
    (hrun : exec run.monitor.waitStep (.initial (initial w)) actions = some u) :
    actions.length ≤ 11 * (5 * run.batches.length + 12) + 4 := by
  have hwork : ∀ (s : OwnFileState σ β) (a : OwnFileAction) (t : OwnFileState σ β), True →
      run.monitor.step s a = some t → True ∧ run.work t < run.work s :=
    fun _ _ _ _ hstep => ⟨trivial, work_step hstep⟩
  have hbound := Monitor.length_le_waitWork (I := fun _ => True) trivial hwork notices_length hrun
  have hweight : run.monitor.noticeWeight = 5 := rfl
  have hinitial : run.work (initial w) = 5 * run.batches.length + 12 := rfl
  have hthreads : run.monitor.threads = 2 := rfl
  rw [hweight, hinitial, hthreads] at hbound
  exact hbound

end OwnFile

end Schengen.Storage
