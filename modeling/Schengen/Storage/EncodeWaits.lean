import Schengen.Library.QueueWaits
import Schengen.Storage.EncodeProgress
import Schengen.Storage.ParallelEncodeMerge

/-!
# Waiting at the queue of results

The parallel encoder with the waits of `Push` and `Pop`. The queue of results has as many places as
there are workers, which wait for them in `Push`; the consumer waits for messages in `Pop`. While
no thread blocks behind its predicate, the run comes to its end.
-/

namespace Schengen.Storage
open Library

variable {μ : Type}

def EncodeWorkerPc.pushes : EncodeWorkerPc → Bool
  | .push _ => true
  | _ => false

namespace EncodeWorkers

variable (run : EncodeWorkers μ)

/-- The worker is at a call of `Push`. -/
def wants (s : EncodeWorkersState μ) (worker : Nat) : Bool :=
  decide (worker < run.workers) && (s.worker worker).pushes

/-- The predicate of the wait in `Push`. -/
def pushReady (s : EncodeWorkersState μ) (worker : Nat) : Bool :=
  !run.wants s worker || s.results.pushReady run.workers

/-- The predicate of the wait in `Pop`. -/
def popReady (s : EncodeWorkersState μ) : Bool :=
  match s.consumer with
  | .pop => s.results.popReady
  | _ => true

def notices (s : EncodeWorkersState μ) : EncodeWorkersAction → List (Notice QueueCondition)
  | .worker worker _ _ =>
    match s.worker worker with
    | .push _ => s.results.pushNotices
    | .close => s.results.closeNotices
    | _ => []
  | .consumer _ =>
    match s.consumer with
    | .pop => s.results.popNotices
    | .closeResults => s.results.closeNotices
    | _ => []

/-- The run with its waits; the thread behind the workers is the consumer. -/
def monitor : Monitor (EncodeWorkersState μ) EncodeWorkersAction QueueCondition where
  step := run.step
  threads := run.workers + 1
  thread := fun action => match action with
    | .worker worker _ _ => worker
    | .consumer _ => run.workers
  condition := fun thread => if thread < run.workers then .notFull else .notEmpty
  ready := fun s thread => if thread < run.workers then run.pushReady s thread else popReady s
  notices := notices

variable {run} {s t : EncodeWorkersState μ} {action : EncodeWorkersAction} {k keep : Nat}
  {outcome : EncodeOutcome}

/-! ## What a step does to the queue -/

lemma step_worker (hstep : run.step s (.worker k keep outcome) = some t) :
    k < run.workers ∧ workerStep k keep outcome s = some t := by
  simp only [step] at hstep
  split at hstep
  · exact ⟨‹_›, hstep⟩
  · cases hstep

/-- A worker pushes, closes, or leaves the queue as it is. -/
lemma workerStep_results (hstep : workerStep k keep outcome s = some t) :
    (∃ result, s.worker k = .push result ∧ (t.worker k).pushes = false ∧
      ((s.results.closed = true ∧ t.results = s.results) ∨
        s.results.push result = some t.results)) ∨
    (s.worker k = .close ∧ t.results = s.results.close keep) ∨
    ((s.worker k).pushes = false ∧ t.results = s.results) := by
  unfold workerStep at hstep
  cases hpc : s.worker k with
  | push result =>
    simp only [hpc] at hstep
    refine .inl ⟨result, rfl, ?_⟩
    cases hpush : s.results.push result with
    | none =>
      simp only [hpush] at hstep
      cases hstep
      exact ⟨by simp [goto, EncodeWorkerPc.pushes], .inl ⟨ClosingFifo.push_none hpush, rfl⟩⟩
    | some results =>
      simp only [hpush] at hstep
      cases hstep
      exact ⟨by simp [goto, EncodeWorkerPc.pushes], .inr rfl⟩
  | close =>
    simp only [hpc] at hstep
    cases hstep
    exact .inr (.inl ⟨rfl, rfl⟩)
  | ended | threw =>
    simp only [hpc] at hstep
    cases hstep
  | _ =>
    simp only [hpc] at hstep
    cases hstep
    exact .inr (.inr ⟨rfl, rfl⟩)

/-- The consumer pops, closes, or leaves the queue as it is. -/
lemma consumerStep_results (hstep : run.consumerStep keep s = some t) :
    t.worker = s.worker ∧
      ((∃ result, s.consumer = .pop ∧ s.results.pop = some (result, t.results)) ∨
        (s.consumer = .closeResults ∧ t.results = s.results.close keep) ∨
        t.results = s.results) := by
  cases mergeMoves hstep with
  | receive result results hpc hpop => exact ⟨rfl, .inl ⟨result, hpc, hpop⟩⟩
  | closeResults hpc => exact ⟨rfl, .inr (.inl ⟨hpc, rfl⟩)⟩
  | drained | stop | closePartitions | ended | threw | joined => exact ⟨rfl, .inr (.inr rfl)⟩

lemma notices_length (s : EncodeWorkersState μ) (action : EncodeWorkersAction) :
    (notices s action).length ≤ 2 := by
  cases action with
  | worker k keep outcome =>
    simp only [notices]
    split
    · exact ClosingFifo.pushNotices_length _
    · exact ClosingFifo.closeNotices_length _
    · exact Nat.zero_le _
  | consumer keep =>
    simp only [notices]
    split
    · exact ClosingFifo.popNotices_length _
    · exact ClosingFifo.closeNotices_length _
    · exact Nat.zero_le _

/-! ## The waits -/

lemma pushReady_false (h : run.pushReady s k = false) :
    run.wants s k = true ∧ s.results.pushReady run.workers = false := by
  simpa [pushReady] using h

lemma popReady_false (h : popReady s = false) :
    s.consumer = .pop ∧ s.results.closed = false ∧ s.results.messages = [] := by
  unfold popReady at h
  split at h
  · next hpc => exact ⟨hpc, ClosingFifo.popReady_false h⟩
  · cases h

lemma condition_worker (hk : k < run.workers) : run.monitor.condition k = .notFull := if_pos hk

lemma lt_of_condition (h : run.monitor.condition k = .notFull) : k < run.workers := by
  by_contra hk
  cases (if_neg hk).symm.trans h

lemma ready_worker (hk : k < run.workers) (s : EncodeWorkersState μ) :
    run.monitor.ready s k = run.pushReady s k := if_pos hk

variable (run) in
lemma ready_consumer (s : EncodeWorkersState μ) :
    run.monitor.ready s run.workers = popReady s := if_neg (Nat.lt_irrefl _)

/-- Only the consumer waits at `not_empty_cv_`. -/
lemma reaches_consumer (all : Bool) : run.monitor.Reaches ⟨.notEmpty, all⟩ run.workers := by
  refine ⟨if_neg (Nat.lt_irrefl _), .inr fun k hk hcondition => ?_⟩
  have hk : k < run.workers + 1 := hk
  by_contra hother
  cases (condition_worker (by omega)).symm.trans hcondition

/-- What a worker pushes or closes makes the queue readable. -/
lemma announces_consumer : run.monitor.Announces (fun _ => True)
    (fun s => run.monitor.ready s run.workers) run.workers := by
  intro s action t _ hstep hother hbefore hafter
  have hbefore : popReady s = false := (run.ready_consumer s).symm.trans hbefore
  have hafter : popReady t = true := (run.ready_consumer t).symm.trans hafter
  obtain ⟨hpc, hopen, hempty⟩ := popReady_false hbefore
  cases action with
  | consumer keep => exact absurd rfl hother
  | worker k keep outcome =>
    obtain ⟨hk, hstep⟩ := step_worker hstep
    have hsame : t.consumer = .pop := (workerStep_frame hstep).2.2.1.trans hpc
    have hunchanged : t.results ≠ s.results := by
      intro hqueue
      simp [popReady, hsame, hqueue, ClosingFifo.popReady, hopen, hempty] at hafter
    obtain ⟨result, hpush, -, hresults⟩ | ⟨hclose, -⟩ | ⟨-, hkept⟩ := workerStep_results hstep
    · refine ⟨_, ?_, reaches_consumer false⟩
      simp only [monitor, notices, hpush]
      exact ClosingFifo.mem_pushNotices (hresults.resolve_left fun h => hunchanged h.2)
    · refine ⟨_, ?_, reaches_consumer true⟩
      simp only [monitor, notices, hclose]
      exact ClosingFifo.mem_closeNotices hopen .notEmpty
    · exact absurd hkept hunchanged

/-- Who closes the queue notifies every worker. -/
lemma announces_closed (hk : k < run.workers) :
    run.monitor.Announces (fun _ => True) (fun s => s.results.closed) k := by
  intro s action t _ hstep _ hopen hclosed
  have hreaches : run.monitor.Reaches ⟨.notFull, true⟩ k := ⟨condition_worker hk, .inl rfl⟩
  have hunchanged : t.results ≠ s.results := by
    intro hsame
    simp only [hsame, hopen] at hclosed
    cases hclosed
  cases action with
  | worker j keep outcome =>
    obtain ⟨hj, hstep⟩ := step_worker hstep
    obtain ⟨result, -, -, ⟨-, hkept⟩ | hpush⟩ | ⟨hclose, -⟩ | ⟨-, hkept⟩ :=
      workerStep_results hstep
    · exact absurd hkept hunchanged
    · have hresults := (ClosingFifo.push_some hpush).2
      simp only [hresults, hopen] at hclosed
      cases hclosed
    · refine ⟨_, ?_, hreaches⟩
      simp only [monitor, notices, hclose]
      exact ClosingFifo.mem_closeNotices hopen .notFull
    · exact absurd hkept hunchanged
  | consumer keep =>
    have hstep : run.consumerStep keep s = some t := hstep
    obtain ⟨-, ⟨result, -, hpop⟩ | ⟨hclose, -⟩ | hkept⟩ := consumerStep_results hstep
    · have hsame := (ClosingFifo.pop_some hpop).2
      simp only [hsame, hopen] at hclosed
      cases hclosed
    · refine ⟨_, ?_, hreaches⟩
      simp only [monitor, notices, hclose]
      exact ClosingFifo.mem_closeNotices hopen .notFull
    · exact absurd hkept hunchanged

lemma wants_consumer : run.wants s run.workers = false := by simp [wants]

/-- The workers wait for the places of the queue, and each pop announces one. -/
lemma gives_places : run.monitor.Gives (fun _ => True) .notFull
    (fun s => s.results.places run.workers) run.wants where
  waits s k _ hcondition hready := by
    rw [ready_worker (lt_of_condition hcondition)] at hready
    obtain ⟨hwants, hfull⟩ := pushReady_false hready
    exact ⟨hwants, ClosingFifo.places_full hfull⟩
  waiter s k h := by
    simp only [wants, Bool.and_eq_true, decide_eq_true_eq] at h
    exact condition_worker h.1
  step s action t _ hready hstep hplaces := by
    cases action with
    | worker k keep outcome =>
      obtain ⟨hk, hstep⟩ := step_worker hstep
      change run.monitor.ready s k = true at hready
      change _ + (run.wants s k).toNat ≤ _ + _ + (run.wants t k).toNat
      rw [ready_worker hk] at hready
      obtain ⟨result, hpc, -, ⟨hclosed, hkept⟩ | hpush⟩ | ⟨-, hclose⟩ | ⟨hpushes, hkept⟩ :=
        workerStep_results hstep
      · rw [hkept, ClosingFifo.places_closed hclosed] at hplaces
        exact absurd hplaces (Nat.lt_irrefl 0)
      · have hwants : run.wants s k = true := by simp [wants, hk, hpc, EncodeWorkerPc.pushes]
        have hroom : s.results.pushReady run.workers = true := by
          simpa [pushReady, hwants] using hready
        have htakes := ClosingFifo.places_push hroom hpush
        rw [hwants, Bool.toNat_true]
        omega
      · rw [hclose, ClosingFifo.places_closed rfl] at hplaces
        exact absurd hplaces (Nat.lt_irrefl 0)
      · have hwants : run.wants s k = false := by simp [wants, hpushes]
        rw [hkept, hwants, Bool.toNat_false]
        omega
    | consumer keep =>
      have hstep : run.consumerStep keep s = some t := hstep
      change _ + (run.wants s run.workers).toNat ≤ _ + (notices s (.consumer keep)).count _ + _
      rw [wants_consumer, Bool.toNat_false]
      obtain ⟨-, ⟨result, hpc, hpop⟩ | ⟨-, hclose⟩ | hkept⟩ := consumerStep_results hstep
      · have hfrees : t.results.places run.workers ≤ s.results.places run.workers + 1 :=
          ClosingFifo.places_pop hpop
        simp only [notices, hpc, ClosingFifo.popNotices_eq hpop, List.count_singleton_self]
        omega
      · rw [hclose, ClosingFifo.places_closed rfl] at hplaces
        exact absurd hplaces (Nat.lt_irrefl 0)
      · rw [hkept]
        omega
  others s action t k hstep hother := by
    unfold wants
    cases action with
    | worker j keep outcome =>
      rw [(workerStep_frame (step_worker hstep).2).2.2.2.2 k hother]
    | consumer keep => rw [(consumerStep_results hstep).1]

/-! ## The end of a run -/

/-- What a run without lost wake-ups keeps. -/
structure WaitInv (run : EncodeWorkers μ)
    (u : MonitorState (EncodeWorkersState μ) QueueCondition) : Prop where
  consumer : run.monitor.Woken (fun s => run.monitor.ready s run.workers) run.workers u
  closed : ∀ k < run.workers, run.monitor.Woken (fun s => s.results.closed) k u
  supplied : run.monitor.Supplied .notFull (fun s => s.results.places run.workers) run.wants u

variable {u v : MonitorState (EncodeWorkersState μ) QueueCondition}

lemma ready_of_closed (hk : k < run.workers) (h : s.results.closed = true) :
    run.monitor.ready s k = true := by
  rw [ready_worker hk, pushReady, ClosingFifo.pushReady, h, Bool.true_or, Bool.or_true]

lemma waitInv_initial (s : EncodeWorkersState μ) : run.WaitInv (.initial s) :=
  ⟨Monitor.woken_initial s, fun _ _ => Monitor.woken_initial s, Monitor.supplied_initial s⟩

lemma waitInv_step {action : MonitorAction EncodeWorkersAction} (h : run.WaitInv u)
    (hguard : run.monitor.BlocksUnready u action)
    (hstep : run.monitor.waitStep u action = some v) : run.WaitInv v where
  consumer := h.consumer.step (fun _ h => h) announces_consumer (Nat.lt_succ_self _) trivial
    hguard hstep
  closed k hk := (h.closed k hk).step (fun _ => ready_of_closed hk) (announces_closed hk)
    (Nat.lt_succ_of_lt hk) trivial hguard hstep
  supplied := h.supplied.step gives_places trivial hguard hstep

/-- A worker that is not over can go on. -/
lemma workerStep_some (hlive : (s.worker k).isOver = false) :
    ∃ t, workerStep k 0 .threw s = some t := by
  unfold workerStep
  cases hpc : s.worker k with
  | ended | threw =>
    rw [hpc] at hlive
    cases hlive
  | push result =>
    simp only
    split <;> exact ⟨_, rfl⟩
  | _ => exact ⟨_, rfl⟩

lemma step_ne_none (hk : k < run.workers) (hlive : (s.worker k).isOver = false) :
    run.step s (.worker k 0 .threw) ≠ none := by
  obtain ⟨t, ht⟩ := workerStep_some hlive
  rw [step, if_pos hk, ht]
  exact Option.some_ne_none t

/-- Where nothing can go on though the queue takes messages, all workers are over. -/
lemma WaitInv.over_of_stuck (h : run.WaitInv u) (hstuck : run.monitor.Stuck u)
    (hfree : u.base.results.closed = true ∨ u.base.results.messages.length < run.workers)
    (hk : k < run.workers) : (u.base.worker k).isOver = true := by
  have hgoes : ∀ j < run.workers + 1, run.wants u.base j = true →
      ∃ a, run.monitor.thread a = j ∧ run.monitor.step u.base a ≠ none := by
    intro j _ hwants
    simp only [wants, Bool.and_eq_true, decide_eq_true_eq] at hwants
    refine ⟨.worker j 0 .threw, rfl, step_ne_none hwants.1 ?_⟩
    have hpushes := hwants.2
    revert hpushes
    cases u.base.worker j <;> simp [EncodeWorkerPc.pushes, EncodeWorkerPc.isOver]
  have hthread : k < run.monitor.threads := Nat.lt_succ_of_lt hk
  have hunblocked : u.status k ≠ .blocked := by
    by_cases hclosed : u.base.results.closed = true
    · exact hstuck.not_blocked (h.closed k hk) hclosed
    · exact hstuck.not_blocked_of_places h.supplied hgoes
        (ClosingFifo.places_pos (by simpa using hclosed) (hfree.resolve_left hclosed)) hthread
        (condition_worker hk)
  by_contra hlive
  have hnone : run.step u.base (.worker k 0 .threw) = none :=
    Monitor.Stuck.step_none (M := run.monitor) (a := .worker k 0 .threw) hstuck hthread hunblocked
  exact step_ne_none hk (by simpa using hlive) hnone

lemma WaitInv.consumerStep_none (h : run.WaitInv u) (hstuck : run.monitor.Stuck u) :
    run.consumerStep 0 u.base = none := by
  by_cases hblocked : u.status run.workers = .blocked
  · have hwaits : popReady u.base = false := by
      rw [← ready_consumer]
      by_contra hready
      exact hstuck.not_blocked h.consumer (by simpa using hready) hblocked
    obtain ⟨hpc, hopen, hempty⟩ := popReady_false hwaits
    simp [consumerStep, hpc, ClosingFifo.pop, hempty, hopen]
  · have hnone : run.step u.base (.consumer 0) = none :=
      Monitor.Stuck.step_none (M := run.monitor) (a := .consumer 0) hstuck (Nat.lt_succ_self _)
        hblocked
    exact hnone

/-- All workers ended, so the last of them closed the queue. -/
lemma CountdownInv.closed_of_over (h : CountdownInv run s)
    (hended : ∀ k < run.workers, s.worker k = .ended) : s.results.closed = true := by
  have hcounted : workersWhere EncodeWorkerPc.counted run.workers s.worker = run.workers :=
    workersWhere_eq_count.mpr fun k hk => by rw [hended k hk]; rfl
  have hremaining := h.remaining
  obtain hclosed | ⟨k, hk, hclose⟩ := h.last (by omega)
  · exact hclosed
  · rw [hended k hk] at hclose
    cases hclose

lemma WaitInv.joined (h : run.WaitInv u) (hcountdown : CountdownInv run u.base)
    (hstuck : run.monitor.Stuck u) (hclean : ∀ k < run.workers, u.base.worker k ≠ .threw) :
    u.base.consumer = .joined := by
  have hwaits := h.consumerStep_none hstuck
  have hended : (u.base.results.closed = true ∨
      u.base.results.messages.length < run.workers) →
        ∀ k < run.workers, u.base.worker k = .ended := by
    intro hfree k hk
    have hover := h.over_of_stuck hstuck hfree hk
    have hthrew := hclean k hk
    revert hover hthrew
    cases u.base.worker k <;> simp [EncodeWorkerPc.isOver]
  unfold consumerStep at hwaits
  cases hpc : u.base.consumer with
  | joined => rfl
  | storeStop | closePartitions | closeResults => simp [hpc] at hwaits
  | pop =>
    simp only [hpc] at hwaits
    split at hwaits
    · cases hwaits
    · next hpop =>
      have hempty : u.base.results.messages.length < run.workers := by
        rw [ClosingFifo.pop_none hpop]
        exact resolveWorkerCount_pos _ _
      rw [if_pos (hcountdown.closed_of_over (hended (.inr hempty)))] at hwaits
      cases hwaits
  | join k =>
    have hclosed : u.base.results.closed = true := hcountdown.left (by rw [hpc]; rfl)
    simp only [hpc] at hwaits
    by_cases hk : k < run.workers
    · simp [hk, hended (.inl hclosed) k hk] at hwaits
    · simp [hk] at hwaits

variable [Inhabited μ]

/-- A run with its waits takes at most so many steps. -/
lemma waits_length_le (hcount : run.encoder.partCount + run.workers ≤ 2147483647)
    {actions : List (MonitorAction EncodeWorkersAction)}
    (hrun : exec run.monitor.waitStep (.initial run.initial) actions = some u) :
    actions.length ≤ (4 * run.workers + 7) *
      (6 * run.workers + 7 * run.encoder.partCount + 5) + 2 * (run.workers + 1) := by
  have hinitial : ∃ taken refused, run.PartsInv taken refused run.initial :=
    ⟨0, 0, partsInv_initial⟩
  have hbound := Monitor.length_le_waitWork (M := run.monitor) hinitial
    (fun s a t h hstep => ⟨partsInv_step hcount h hstep, remaining_step h hstep⟩)
    notices_length hrun
  have hworkers : workersSum workerWeight run.workers (fun _ => .loadStop) = run.workers * 5 :=
    workersSum_const workerWeight run.workers .loadStop
  have hremaining : run.remaining run.initial =
      6 * run.workers + 7 * run.encoder.partCount + 5 := by
    have hunfold : run.remaining run.initial =
        workersSum workerWeight run.workers (fun _ => .loadStop) +
          7 * (run.encoder.partCount - 0) + 0 + (run.workers + 5) := rfl
    omega
  have hweight : 2 * run.monitor.noticeWeight + 1 = 4 * run.workers + 7 := by
    have hunfold : run.monitor.noticeWeight = 2 * (run.workers + 1) + 1 := rfl
    omega
  rw [hremaining, hweight] at hbound
  exact hbound

/-- With two workers or more, every part is encoded once at most, every run is finite, and one that
stands still without a lost wake-up has joined its workers or a call threw. With one worker the
queue of results has one place, and overwrites what it holds. -/
theorem comes_to_end (run : EncodeWorkers μ) (_hworkers : 2 ≤ run.workers)
    (hcount : run.encoder.partCount + run.workers ≤ 2147483647)
    {actions : List (MonitorAction EncodeWorkersAction)}
    {u : MonitorState (EncodeWorkersState μ) QueueCondition}
    (hrun : exec run.monitor.waitStep (.initial run.initial) actions = some u) :
    actions.length ≤ (4 * run.workers + 7) *
        (6 * run.workers + 7 * run.encoder.partCount + 5) + 2 * (run.workers + 1) ∧
      (∀ call ∈ u.base.calls, 1 ≤ call.1 ∧ call.1 ≤ run.encoder.partCount) ∧
      (u.base.calls.map Prod.fst).Nodup ∧
      (Along run.monitor.waitStep run.monitor.BlocksUnready (.initial run.initial) actions →
        run.monitor.Stuck u →
          u.base.consumer = .joined ∨ ∃ call ∈ u.base.calls, call.2 = .threw) := by
  obtain ⟨⟨taken, refused, hparts⟩, hcountdown⟩ : (∃ taken refused,
      run.PartsInv taken refused u.base) ∧ CountdownInv run u.base := Reachable.invariant
    (I := fun u : MonitorState (EncodeWorkersState μ) QueueCondition =>
      (∃ taken refused, run.PartsInv taken refused u.base) ∧ CountdownInv run u.base)
    ⟨⟨0, 0, partsInv_initial⟩, countdownInv_initial⟩
    (fun _ _ _ h hs => ⟨Monitor.base_invariant (fun _ _ _ => partsInv_step hcount) h.1 hs,
      Monitor.base_invariant (fun _ _ _ => countdownInv_step) h.2 hs⟩) ⟨actions, hrun⟩
  refine ⟨waits_length_le hcount hrun, fun call hcall => ?_, hparts.nodup, fun hguard hstuck => ?_⟩
  · have hrange := hparts.range hcall
    have hbound := hparts.handed.taken_le
    omega
  · have hwaits : run.WaitInv u := exec_invariant (fun _ _ _ => waitInv_step)
      (waitInv_initial run.initial) hguard hrun
    by_cases hclean : ∀ k < run.workers, u.base.worker k ≠ .threw
    · exact .inl (hwaits.joined hcountdown hstuck hclean)
    · push Not at hclean
      exact .inr (hcountdown.threw.mpr hclean)

/-! ### Two workers and three parts -/

def threeParts : EncodeWorkers (List Int) where
  encoder := { ParallelEncode.twoResults with partCount := 3 }
  workerCount := 2
  written := (.ok, ⟨fun _ => none, [], []⟩)

/-- The next step of a worker that has the part. -/
def encodePart (worker part : Nat) : MonitorAction EncodeWorkersAction :=
  .run (.worker worker 9 (.buffer (ParallelEncode.partFiles part).bytes))

/-- The consumer blocks in front of the empty queue until the first worker pushes part 1. The second
worker pushes part 2, and the first one blocks with part 3 in front of the full queue until the
consumer pops. -/
def blockTwice : List (MonitorAction EncodeWorkersAction) :=
  [.test 2, .block 2] ++ List.replicate 5 (encodePart 0 1) ++ [.notify 0 2] ++
    List.replicate 5 (encodePart 1 2) ++ [.notify 1 2] ++ List.replicate 4 (encodePart 0 3) ++
    [.test 0, .block 0, .run (.consumer 9), .notify 2 0, encodePart 0 3, .notify 0 2,
      .run (.consumer 9), .notify 2 0, .run (.consumer 9), .notify 2 0] ++
    List.replicate 4 (encodePart 0 3) ++ List.replicate 5 (encodePart 1 3) ++
    [.notify 1 2, .notify 1 2] ++ List.replicate 4 (.run (.consumer 9))

theorem comes_to_end_threeParts :
    ∃ u, exec threeParts.monitor.waitStep (.initial threeParts.initial) blockTwice = some u ∧
      u.base.consumer = .joined ∧ u.base.calls.map Prod.fst = [1, 2, 3] ∧
      blockTwice.length ≤ 576 ∧ (∀ call ∈ u.base.calls, 1 ≤ call.1 ∧ call.1 ≤ 3) ∧
      (u.base.calls.map Prod.fst).Nodup ∧
      (Along threeParts.monitor.waitStep threeParts.monitor.BlocksUnready
          (.initial threeParts.initial) blockTwice →
        threeParts.monitor.Stuck u →
          u.base.consumer = .joined ∨ ∃ call ∈ u.base.calls, call.2 = .threw) := by
  have hexec : (exec threeParts.monitor.waitStep (.initial threeParts.initial) blockTwice).map
      (fun u => (u.base.consumer, u.base.calls.map Prod.fst)) = some (.joined, [1, 2, 3]) := by
    decide +kernel
  obtain ⟨u, hu, hended⟩ := Option.map_eq_some_iff.mp hexec
  obtain ⟨hjoined, hparts⟩ := Prod.mk.inj hended
  exact ⟨u, hu, hjoined, hparts, comes_to_end threeParts (by decide) (by decide) hu⟩

end EncodeWorkers

end Schengen.Storage
