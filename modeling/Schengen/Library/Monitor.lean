import Schengen.Library.Runs
import Schengen.Library.Workers

/-!
# Threads that wait on condition variables

A transition system whose steps belong to numbered threads. A thread may have to wait for a
predicate before its next step: where the predicate is false it tests it and then blocks, in two
steps, and a blocked thread goes on only after a notification, with a new test. A step may be
followed by notifications of its thread, which are steps of their own and wake only threads that
are blocked already. So a wake-up is lost where the predicate becomes true between the test and the
block. In runs without such blocks a system that stands still could not go on without waiting
either, and a measure that its own steps decrease bounds the runs with waits, too.
-/

namespace Schengen.Library

variable {σ α γ : Type*}

inductive WaitStatus
  | running
  | tested
  | blocked
  deriving DecidableEq

/-- A call that notifies one or all of the threads that wait at a condition variable. -/
structure Notice (γ : Type*) where
  condition : γ
  all : Bool
  deriving DecidableEq

/-- `condition` is the condition variable at which a thread waits, `ready` the predicate of the wait
before its next step, or true, and `notices` are the notifications that follow a step. -/
structure Monitor (σ α γ : Type*) where
  step : σ → α → Option σ
  threads : Nat
  thread : α → Nat
  condition : Nat → γ
  ready : σ → Nat → Bool
  notices : σ → α → List (Notice γ)

structure MonitorState (σ γ : Type*) where
  base : σ
  status : Nat → WaitStatus
  pending : Nat → List (Notice γ)

inductive MonitorAction (α : Type*)
  | run (action : α)
  | test (thread : Nat)
  | block (thread : Nat)
  | notify (thread woken : Nat)
  deriving DecidableEq

namespace MonitorState

def initial (base : σ) : MonitorState σ γ := ⟨base, fun _ => .running, fun _ => []⟩

/-- The thread is at its next step. -/
def Free (s : MonitorState σ γ) (thread : Nat) : Prop :=
  s.status thread = .running ∧ s.pending thread = []

instance (s : MonitorState σ γ) (thread : Nat) : Decidable (s.Free thread) :=
  decidable_of_iff (s.status thread = .running ∧ (s.pending thread).isEmpty = true)
    (and_congr_right fun _ => List.isEmpty_iff)

def goto (s : MonitorState σ γ) (thread : Nat) (status : WaitStatus) : MonitorState σ γ :=
  { s with status := Function.update s.status thread status }

end MonitorState

namespace Monitor

variable (M : Monitor σ α γ)

/-- The thread is blocked where the notice is given. -/
def Waits (s : MonitorState σ γ) (notice : Notice γ) (thread : Nat) : Prop :=
  s.status thread = .blocked ∧ M.condition thread = notice.condition

instance [DecidableEq γ] (s : MonitorState σ γ) (notice : Notice γ) (thread : Nat) :
    Decidable (M.Waits s notice thread) :=
  inferInstanceAs (Decidable (_ ∧ _))

/-- The notice wakes this thread if it is blocked, whichever thread is chosen. -/
def Reaches (notice : Notice γ) (thread : Nat) : Prop :=
  M.condition thread = notice.condition ∧
    (notice.all = true ∨ ∀ k < M.threads, M.condition k = notice.condition → k = thread)

section Steps

variable [DecidableEq γ]

def wakeAll (s : MonitorState σ γ) (notice : Notice γ) : MonitorState σ γ :=
  { s with status := fun k => if M.Waits s notice k then .running else s.status k }

/-- The notification at the head; `woken` is the thread that `notify_one` wakes. -/
def notifyStep (thread woken : Nat) (s : MonitorState σ γ) : Option (MonitorState σ γ) :=
  match s.pending thread with
  | [] => none
  | notice :: rest =>
    let s := { s with pending := Function.update s.pending thread rest }
    if notice.all then some (M.wakeAll s notice)
    else if woken < M.threads ∧ M.Waits s notice woken then some (s.goto woken .running)
    else if ∀ k < M.threads, ¬ M.Waits s notice k then some s
    else none

def waitStep (s : MonitorState σ γ) : MonitorAction α → Option (MonitorState σ γ)
  | .run action =>
    if M.thread action < M.threads ∧ s.Free (M.thread action) ∧
        M.ready s.base (M.thread action) = true then
      (M.step s.base action).map fun next => { s with
        base := next
        pending := Function.update s.pending (M.thread action) (M.notices s.base action) }
    else none
  | .test thread =>
    if thread < M.threads ∧ s.Free thread ∧ M.ready s.base thread = false then
      some (s.goto thread .tested)
    else none
  | .block thread =>
    if thread < M.threads ∧ s.status thread = .tested then some (s.goto thread .blocked) else none
  | .notify thread woken => if thread < M.threads then M.notifyStep thread woken s else none

/-- No thread can take a step. -/
def Stuck (s : MonitorState σ γ) : Prop := ∀ action, M.waitStep s action = none

end Steps

/-- A thread blocks only while its predicate is still false. -/
def BlocksUnready (s : MonitorState σ γ) : MonitorAction α → Prop
  | .block thread => M.ready s.base thread = false
  | _ => True

/-- Where the step of another thread makes the condition true, a notice that follows reaches the
thread. -/
def Announces (I : σ → Prop) (holds : σ → Bool) (thread : Nat) : Prop :=
  ∀ s action t, I s → M.step s action = some t → M.thread action ≠ thread →
    holds s = false → holds t = true → ∃ notice ∈ M.notices s action, M.Reaches notice thread

/-- If the thread is blocked although the condition is true, it will be notified. -/
def Woken (holds : σ → Bool) (thread : Nat) (s : MonitorState σ γ) : Prop :=
  s.status thread = .blocked → holds s.base = true →
    ∃ k < M.threads, ∃ notice ∈ s.pending k, M.Reaches notice thread

variable [DecidableEq γ] {M} {s t : MonitorState σ γ} {action : MonitorAction α} {a : α}
  {thread k woken : Nat} {I : σ → Prop} {holds : σ → Bool}

/-! ## What a step can do -/

lemma run_some (h : M.waitStep s (.run a) = some t) :
    M.thread a < M.threads ∧ s.Free (M.thread a) ∧ M.ready s.base (M.thread a) = true ∧
      ∃ next, M.step s.base a = some next ∧ t = { s with
        base := next
        pending := Function.update s.pending (M.thread a) (M.notices s.base a) } := by
  simp only [waitStep] at h
  split at h
  · next hcan =>
    obtain ⟨next, hnext, rfl⟩ := Option.map_eq_some_iff.mp h
    exact ⟨hcan.1, hcan.2.1, hcan.2.2, next, hnext, rfl⟩
  · cases h

lemma test_some (h : M.waitStep s (.test thread) = some t) :
    thread < M.threads ∧ s.Free thread ∧ M.ready s.base thread = false ∧
      t = s.goto thread .tested := by
  simp only [waitStep] at h
  split at h
  · next hcan => exact ⟨hcan.1, hcan.2.1, hcan.2.2, (Option.some.inj h).symm⟩
  · cases h

lemma block_some (h : M.waitStep s (.block thread) = some t) :
    thread < M.threads ∧ s.status thread = .tested ∧ t = s.goto thread .blocked := by
  simp only [waitStep] at h
  split at h
  · next hcan => exact ⟨hcan.1, hcan.2, (Option.some.inj h).symm⟩
  · cases h

variable (M) in
/-- What the notice at the head does to the threads. -/
inductive NotifyMoves (s : MonitorState σ γ) (notice : Notice γ) : (Nat → WaitStatus) → Prop
  | all (hall : notice.all = true) :
    NotifyMoves s notice fun k => if M.Waits s notice k then .running else s.status k
  | one (woken : Nat) (hall : notice.all = false) (hwoken : woken < M.threads)
    (hwaits : M.Waits s notice woken) : NotifyMoves s notice (Function.update s.status woken .running)
  | nobody (hall : notice.all = false) (hnone : ∀ k < M.threads, ¬ M.Waits s notice k) :
    NotifyMoves s notice s.status

/-- A notification removes one notice. -/
lemma notify_some (h : M.waitStep s (.notify thread woken) = some t) :
    thread < M.threads ∧ ∃ notice rest, s.pending thread = notice :: rest ∧ t.base = s.base ∧
      t.pending = Function.update s.pending thread rest ∧ M.NotifyMoves s notice t.status := by
  simp only [waitStep] at h
  split at h
  · next hthread =>
    refine ⟨hthread, ?_⟩
    unfold notifyStep at h
    split at h
    · cases h
    · next notice rest hpending =>
      refine ⟨notice, rest, hpending, ?_⟩
      simp only at h
      split at h
      · next hall =>
        cases h
        exact ⟨rfl, rfl, .all hall⟩
      · next hone =>
        have hone : notice.all = false := by simpa using hone
        split at h
        · next hwaits =>
          cases h
          exact ⟨rfl, rfl, .one woken hone hwaits.1 hwaits.2⟩
        · split at h
          · next hnone =>
            cases h
            exact ⟨rfl, rfl, .nobody hone hnone⟩
          · cases h
  · cases h

/-- Threads that a notification wakes run again. -/
lemma NotifyMoves.status {notice : Notice γ} {status : Nat → WaitStatus}
    (h : M.NotifyMoves s notice status) (k : Nat) :
    status k = s.status k ∨ status k = .running := by
  cases h with
  | all hall =>
    by_cases hwaits : M.Waits s notice k
    · exact .inr (if_pos hwaits)
    · exact .inl (if_neg hwaits)
  | one woken hall hwoken hwaits =>
    by_cases hk : k = woken
    · subst hk
      exact .inr (Function.update_self ..)
    · exact .inl (Function.update_of_ne hk ..)
  | nobody hall hnone => exact .inl rfl

lemma NotifyMoves.reached {notice : Notice γ} {status : Nat → WaitStatus}
    (h : M.NotifyMoves s notice status) (hk : k < M.threads) (hreaches : M.Reaches notice k) :
    status k ≠ .blocked := by
  intro hblocked
  cases h with
  | all hall =>
    by_cases hwaits : M.Waits s notice k
    · cases (if_pos hwaits).symm.trans hblocked
    · exact hwaits ⟨(if_neg hwaits).symm.trans hblocked, hreaches.1⟩
  | one woken hall hwoken hwaits =>
    obtain rfl : woken = k := (hreaches.2.resolve_left (by simp [hall])) woken hwoken hwaits.2
    rw [Function.update_self] at hblocked
    cases hblocked
  | nobody hall hnone => exact hnone k hk ⟨hblocked, hreaches.1⟩

/-- What a run with waits does to the state below is a run. -/
lemma waitStep_base (h : M.waitStep s action = some t) :
    t.base = s.base ∨ ∃ a, action = .run a ∧ M.step s.base a = some t.base := by
  cases action with
  | run a =>
    obtain ⟨-, -, -, next, hnext, rfl⟩ := run_some h
    exact .inr ⟨a, rfl, hnext⟩
  | test thread =>
    obtain ⟨-, -, -, rfl⟩ := test_some h
    exact .inl rfl
  | block thread =>
    obtain ⟨-, -, rfl⟩ := block_some h
    exact .inl rfl
  | notify thread woken =>
    obtain ⟨-, notice, rest, -, hbase, -⟩ := notify_some h
    exact .inl hbase

lemma base_invariant (hI : ∀ s a t, I s → M.step s a = some t → I t) (h : I s.base)
    (hstep : M.waitStep s action = some t) : I t.base := by
  obtain hbase | ⟨a, -, hrun⟩ := waitStep_base hstep
  · rwa [hbase]
  · exact hI s.base a t.base h hrun

/-! ## Without lost wake-ups -/

omit [DecidableEq γ] in
lemma woken_initial (base : σ) : M.Woken holds thread (.initial base) := fun h => by cases h

/-- A notice that is pending stays so until it is given. -/
lemma Woken.step (hready : ∀ s, holds s = true → M.ready s thread = true)
    (hannounces : M.Announces I holds thread) (hthread : thread < M.threads)
    (hbase : I s.base) (h : M.Woken holds thread s) (hguard : M.BlocksUnready s action)
    (hstep : M.waitStep s action = some t) : M.Woken holds thread t := by
  intro hblocked hholds
  cases action with
  | run a =>
    obtain ⟨ha, ⟨hrunning, hempty⟩, -, next, hnext, rfl⟩ := run_some hstep
    have hother : M.thread a ≠ thread := by
      rintro rfl
      cases hrunning.symm.trans hblocked
    by_cases hbefore : holds s.base = true
    · obtain ⟨k, hk, notice, hnotice, hreaches⟩ := h hblocked hbefore
      refine ⟨k, hk, notice, ?_, hreaches⟩
      have hne : k ≠ M.thread a := by
        rintro rfl
        rw [hempty] at hnotice
        cases hnotice
      simpa only [Function.update_of_ne hne] using hnotice
    · obtain ⟨notice, hnotice, hreaches⟩ := hannounces s.base a next hbase hnext hother
        (by simpa using hbefore) hholds
      refine ⟨M.thread a, ha, notice, ?_, hreaches⟩
      simpa only [Function.update_self] using hnotice
  | test k =>
    obtain ⟨-, -, -, rfl⟩ := test_some hstep
    change Function.update s.status k .tested thread = .blocked at hblocked
    by_cases hsame : thread = k
    · subst hsame
      rw [Function.update_self] at hblocked
      cases hblocked
    · exact h (by rwa [Function.update_of_ne hsame] at hblocked) hholds
  | block k =>
    obtain ⟨-, -, rfl⟩ := block_some hstep
    change Function.update s.status k .blocked thread = .blocked at hblocked
    by_cases hsame : thread = k
    · subst hsame
      cases hguard.symm.trans (hready s.base hholds)
    · exact h (by rwa [Function.update_of_ne hsame] at hblocked) hholds
  | notify k woken =>
    obtain ⟨-, notice, rest, hpending, hsame, hrest, hmoves⟩ := notify_some hstep
    have hbefore : s.status thread = .blocked := by
      obtain h | h := hmoves.status thread
      · exact h.symm.trans hblocked
      · cases h.symm.trans hblocked
    obtain ⟨j, hj, other, hother, hreaches⟩ := h hbefore (hsame ▸ hholds)
    refine ⟨j, hj, other, ?_, hreaches⟩
    rw [hrest]
    by_cases hjk : j = k
    · subst hjk
      rw [hpending, List.mem_cons] at hother
      rw [Function.update_self]
      refine hother.resolve_left fun heq => ?_
      exact hmoves.reached hthread (heq ▸ hreaches) hblocked
    · rwa [Function.update_of_ne hjk]

/-- A state without an enabled step: no notice is pending, and every thread is blocked or at a step
that it need not wait for. -/
lemma Stuck.quiet (h : M.Stuck s) (hk : k < M.threads) :
    s.pending k = [] ∧ s.status k ≠ .tested ∧
      (s.status k = .running → M.ready s.base k = true) := by
  have hempty : s.pending k = [] := by
    by_contra hpending
    obtain ⟨notice, rest, hnotice⟩ := List.exists_cons_of_ne_nil hpending
    by_cases hnone : ∀ j < M.threads, ¬ M.Waits s notice j
    · have hgo := h (.notify k k)
      simp only [waitStep, if_pos hk, notifyStep, hnotice] at hgo
      split at hgo
      · cases hgo
      · split at hgo
        · cases hgo
        · cases (if_pos hnone).symm.trans hgo
    · obtain ⟨j, hj⟩ := not_forall.mp hnone
      obtain ⟨hj, hwaits⟩ := Classical.not_imp.mp hj
      have hgo := h (.notify k j)
      simp only [waitStep, if_pos hk, notifyStep, hnotice] at hgo
      split at hgo
      · cases hgo
      · cases (if_pos ⟨hj, not_not.mp hwaits⟩).symm.trans hgo
  refine ⟨hempty, fun htested => ?_, fun hrunning => ?_⟩
  · have hgo := h (.block k)
    simp only [waitStep] at hgo
    cases (if_pos ⟨hk, htested⟩).symm.trans hgo
  · by_contra hready
    have hgo := h (.test k)
    simp only [waitStep] at hgo
    cases (if_pos ⟨hk, ⟨hrunning, hempty⟩, by simpa using hready⟩).symm.trans hgo

/-- All threads blocked and no notice given: nothing happens any more. -/
lemma stuck_of_blocked (h : ∀ k < M.threads, s.status k = .blocked ∧ s.pending k = []) :
    M.Stuck s := by
  intro action
  rw [Option.eq_none_iff_forall_ne_some]
  intro t hstep
  cases action with
  | run a =>
    obtain ⟨ha, ⟨hrunning, -⟩, -⟩ := run_some hstep
    cases (h _ ha).1.symm.trans hrunning
  | test k =>
    obtain ⟨hk, ⟨hrunning, -⟩, -⟩ := test_some hstep
    cases (h k hk).1.symm.trans hrunning
  | block k =>
    obtain ⟨hk, htested, -⟩ := block_some hstep
    cases (h k hk).1.symm.trans htested
  | notify k woken =>
    obtain ⟨hk, notice, rest, hpending, -⟩ := notify_some hstep
    cases (h k hk).2.symm.trans hpending

/-- A thread that is not blocked where nothing can go on has no step. -/
lemma Stuck.step_none (h : M.Stuck s) (ha : M.thread a < M.threads)
    (hunblocked : s.status (M.thread a) ≠ .blocked) : M.step s.base a = none := by
  obtain ⟨hempty, htested, hready⟩ := h.quiet ha
  have hrunning : s.status (M.thread a) = .running := by
    cases hstatus : s.status (M.thread a) with
    | running => rfl
    | tested => exact absurd hstatus htested
    | blocked => exact absurd hstatus hunblocked
  have hgo := h (.run a)
  simp only [waitStep] at hgo
  exact Option.map_eq_none_iff.mp
    ((if_pos ⟨ha, ⟨hrunning, hempty⟩, hready hrunning⟩).symm.trans hgo)

/-- No thread stays blocked although its condition is true. -/
lemma Stuck.not_blocked (h : M.Stuck s) (hwoken : M.Woken holds thread s)
    (hholds : holds s.base = true) : s.status thread ≠ .blocked := by
  intro hblocked
  obtain ⟨k, hk, notice, hnotice, -⟩ := hwoken hblocked hholds
  rw [(h.quiet hk).1] at hnotice
  cases hnotice

/-- In a run whose threads block only while they have to wait, one that stands still is one whose
threads have no step. -/
theorem stuck_step_none {base : σ} (hI : ∀ s a t, I s → M.step s a = some t → I t)
    (hannounces : ∀ k < M.threads, M.Announces I (fun s => M.ready s k) k) (hbase : I base)
    {actions : List (MonitorAction α)}
    (hguard : Along M.waitStep M.BlocksUnready (.initial base) actions)
    (hrun : exec M.waitStep (.initial base) actions = some s) (hstuck : M.Stuck s)
    (ha : M.thread a < M.threads) (hready : M.ready s.base (M.thread a) = true) :
    M.step s.base a = none := by
  have hinv : I s.base ∧ ∀ k < M.threads, M.Woken (fun s => M.ready s k) k s :=
    exec_invariant (I := fun s => I s.base ∧ ∀ k < M.threads, M.Woken (fun s => M.ready s k) k s)
      (fun s action t h hg hs => ⟨base_invariant hI h.1 hs,
        fun k hk => (h.2 k hk).step (fun _ h => h) (hannounces k hk) hk h.1 hg hs⟩)
      ⟨hbase, fun k _ => woken_initial base⟩ hguard hrun
  exact hstuck.step_none ha (hstuck.not_blocked (hinv.2 _ ha) hready)

/-! ## Places that are given one by one -/

variable (M) in
/-- At `condition`, threads wait for places that one notice each announces. A thread that `wants` a
place takes one with its step, if it need not wait. -/
structure Gives (I : σ → Prop) (condition : γ) (places : σ → Nat) (wants : σ → Nat → Bool) :
    Prop where
  waits : ∀ s k, I s → M.condition k = condition → M.ready s k = false →
    wants s k = true ∧ places s = 0
  waiter : ∀ s k, wants s k = true → M.condition k = condition
  step : ∀ s a t, I s → M.ready s (M.thread a) = true → M.step s a = some t → 0 < places t →
    places t + (wants s (M.thread a)).toNat ≤
      places s + (M.notices s a).count ⟨condition, false⟩ + (wants t (M.thread a)).toNat
  others : ∀ s a t k, M.step s a = some t → k ≠ M.thread a → wants t k = wants s k

/-- The thread wants a place and is not blocked. -/
def eager (wants : σ → Nat → Bool) (s : MonitorState σ γ) (k : Nat) : Bool :=
  wants s.base k && decide (s.status k ≠ .blocked)

variable (M) in
/-- As long as a thread is blocked there are no more places than notices that announce them and
threads on the way to them. -/
structure Supplied (condition : γ) (places : σ → Nat) (wants : σ → Nat → Bool)
    (s : MonitorState σ γ) : Prop where
  waits : ∀ k < M.threads, M.condition k = condition → s.status k ≠ .running →
    wants s.base k = true
  places_le : (∃ k < M.threads, M.condition k = condition ∧ s.status k = .blocked) →
    places s.base ≤ workersSum (List.count ⟨condition, false⟩) M.threads s.pending +
      workersWhere id M.threads (eager wants s)

variable {condition : γ} {places : σ → Nat} {wants : σ → Nat → Bool}

omit [DecidableEq γ] in
lemma eager_blocked (h : s.status k = .blocked) : eager wants s k = false := by
  simp [eager, h]

omit [DecidableEq γ] in
lemma eager_awake (h : s.status k ≠ .blocked) : eager wants s k = wants s.base k := by
  simp [eager, h]

lemma supplied_initial (base : σ) : M.Supplied condition places wants (.initial base) where
  waits k _ _ h := absurd rfl h
  places_le := by
    rintro ⟨k, -, -, hblocked⟩
    cases hblocked

lemma Supplied.run (hgives : M.Gives I condition places wants) (hbase : I s.base)
    (h : M.Supplied condition places wants s) (hstep : M.waitStep s (.run a) = some t) :
    M.Supplied condition places wants t := by
  obtain ⟨ha, ⟨hrunning, hempty⟩, hready, next, hnext, rfl⟩ := run_some hstep
  refine ⟨fun k hk hcondition hstatus => ?_, fun hblocked => ?_⟩
  · have hother : k ≠ M.thread a := by
      rintro rfl
      exact hstatus hrunning
    rw [hgives.others s.base a next k hnext hother]
    exact h.waits k hk hcondition hstatus
  · have heager : eager wants { s with
          base := next
          pending := Function.update s.pending (M.thread a) (M.notices s.base a) } =
        Function.update (eager wants s) (M.thread a) (wants next (M.thread a)) := by
      funext k
      by_cases hk : k = M.thread a
      · subst hk
        rw [Function.update_self]
        exact eager_awake (by simp [hrunning])
      · rw [Function.update_of_ne hk, eager, eager, hgives.others s.base a next k hnext hk]
    have hbefore : eager wants s (M.thread a) = wants s.base (M.thread a) :=
      eager_awake (by simp [hrunning])
    have hwhere := workersWhere_update id ha (eager wants s) (wants next (M.thread a))
    have hsum := workersSum_update (List.count ⟨condition, false⟩) ha s.pending
      (M.notices s.base a)
    have hle := h.places_le hblocked
    rw [hbefore, id, id] at hwhere
    rw [hempty, List.count_nil] at hsum
    rw [heager]
    rcases Nat.eq_zero_or_pos (places next) with hnone | hsome
    · exact hnone.le.trans (Nat.zero_le _)
    · have hplaces := hgives.step s.base a next hbase hready hnext hsome
      simp only
      omega

lemma Supplied.test (hgives : M.Gives I condition places wants) (hbase : I s.base)
    (h : M.Supplied condition places wants s) (hstep : M.waitStep s (.test thread) = some t) :
    M.Supplied condition places wants t := by
  obtain ⟨hthread, ⟨hrunning, -⟩, hready, rfl⟩ := test_some hstep
  have hstatus : ∀ k, k ≠ thread → (s.goto thread .tested).status k = s.status k :=
    fun k hk => Function.update_of_ne hk ..
  have hself : (s.goto thread .tested).status thread = .tested := Function.update_self ..
  have heager : eager wants (s.goto thread .tested) = eager wants s := by
    funext k
    by_cases hk : k = thread
    · subst hk
      rw [eager_awake (by simp [hself]), eager_awake (by simp [hrunning])]
      rfl
    · rw [eager, eager, hstatus k hk]
      rfl
  refine ⟨fun k hk hcondition hwaits => ?_, ?_⟩
  · by_cases hsame : k = thread
    · subst hsame
      exact (hgives.waits s.base k hbase hcondition hready).1
    · rw [hstatus k hsame] at hwaits
      exact h.waits k hk hcondition hwaits
  · rintro ⟨k, hk, hcondition, hblocked⟩
    have hsame : k ≠ thread := by
      rintro rfl
      cases hself.symm.trans hblocked
    rw [hstatus k hsame] at hblocked
    rw [heager]
    exact h.places_le ⟨k, hk, hcondition, hblocked⟩

/-- A thread blocks where there are no places. -/
lemma Supplied.block (hgives : M.Gives I condition places wants) (hbase : I s.base)
    (h : M.Supplied condition places wants s) (hready : M.ready s.base thread = false)
    (hstep : M.waitStep s (.block thread) = some t) : M.Supplied condition places wants t := by
  obtain ⟨hthread, htested, rfl⟩ := block_some hstep
  have hstatus : ∀ k, k ≠ thread → (s.goto thread .blocked).status k = s.status k :=
    fun k hk => Function.update_of_ne hk ..
  refine ⟨fun k hk hcondition hwaits => ?_, ?_⟩
  · by_cases hsame : k = thread
    · subst hsame
      exact h.waits k hk hcondition (by simp [htested])
    · rw [hstatus k hsame] at hwaits
      exact h.waits k hk hcondition hwaits
  · rintro ⟨k, hk, hcondition, hblocked⟩
    by_cases hhere : M.condition thread = condition
    · change places s.base ≤ _
      rw [(hgives.waits s.base thread hbase hhere hready).2]
      exact Nat.zero_le _
    · have hsame : k ≠ thread := by
        rintro rfl
        exact hhere hcondition
      have heager : eager wants (s.goto thread .blocked) = eager wants s := by
        funext j
        by_cases hj : j = thread
        · subst hj
          have hnone : wants s.base j = false := by
            by_contra hwants
            exact hhere (hgives.waiter s.base j (by simpa using hwants))
          rw [eager_blocked (Function.update_self ..), eager, hnone, Bool.false_and]
        · rw [eager, eager, hstatus j hj]
          rfl
      rw [hstatus k hsame] at hblocked
      rw [heager]
      exact h.places_le ⟨k, hk, hcondition, hblocked⟩

variable (wants) in
/-- Who is woken goes to the places that there are. -/
lemma NotifyMoves.eager_le {notice : Notice γ} (h : M.NotifyMoves s notice t.status)
    (hbase : t.base = s.base) : workersWhere id M.threads (eager wants s) ≤
      workersWhere id M.threads (eager wants t) := by
  have heager : ∀ k < M.threads,
      (eager wants s k).toNat ≤ (eager wants t k).toNat + 0 := fun k _ => by
    by_cases hk : s.status k = .blocked
    · rw [eager_blocked hk]
      exact Nat.zero_le _
    · have hk' : t.status k ≠ .blocked := by
        obtain hsame | hruns := h.status k
        · rwa [hsame]
        · simp [hruns]
      rw [eager_awake hk, eager_awake hk', hbase]
      exact Nat.le_refl _
  exact workersSum_le_add heager

lemma Supplied.notify (h : M.Supplied condition places wants s)
    (hstep : M.waitStep s (.notify thread woken) = some t) :
    M.Supplied condition places wants t := by
  obtain ⟨hthread, notice, rest, hpending, hbase, hrest, hmoves⟩ := notify_some hstep
  have hawake : ∀ k, t.status k ≠ .running → t.status k = s.status k := fun k hk =>
    (hmoves.status k).resolve_right hk
  refine ⟨fun k hk hcondition hwaits => ?_, ?_⟩
  · rw [hbase]
    exact h.waits k hk hcondition (hawake k hwaits ▸ hwaits)
  rintro ⟨k, hk, hcondition, hblocked⟩
  have hbefore : s.status k = .blocked := (hawake k (by simp [hblocked])).symm.trans hblocked
  have hle := h.places_le ⟨k, hk, hcondition, hbefore⟩
  have hsum := workersSum_update (List.count ⟨condition, false⟩) hthread s.pending rest
  have hmore := hmoves.eager_le wants hbase
  rw [hpending, List.count_cons] at hsum
  rw [hbase, hrest]
  by_cases hnotice : notice = ⟨condition, false⟩
  · subst hnotice
    generalize hstatus : t.status = status at hmoves
    cases hmoves with
    | all hall => cases hall
    | nobody hall hnone => exact absurd ⟨hbefore, hcondition⟩ (hnone k hk)
    | one woken hall hwoken hwaits =>
      -- the notice is gone, and the thread that it woke wants its place
      have hwants : wants s.base woken = true :=
        h.waits woken hwoken hwaits.2 (by simp [hwaits.1])
      have heager : eager wants t = Function.update (eager wants s) woken true := by
        funext j
        by_cases hj : j = woken
        · subst hj
          rw [Function.update_self, eager, hbase, hstatus, Function.update_self, hwants]
          rfl
        · rw [Function.update_of_ne hj, eager, eager, hbase, hstatus, Function.update_of_ne hj]
      have hwhere := workersWhere_update id hwoken (eager wants s) true
      rw [eager_blocked hwaits.1, id, id] at hwhere
      rw [if_pos (beq_self_eq_true _)] at hsum
      rw [heager]
      simp only [Bool.toNat_true, Bool.toNat_false] at hwhere
      omega
  · rw [if_neg (by simpa using hnotice)] at hsum
    omega

lemma Supplied.step (hgives : M.Gives I condition places wants) (hbase : I s.base)
    (h : M.Supplied condition places wants s) (hguard : M.BlocksUnready s action)
    (hstep : M.waitStep s action = some t) : M.Supplied condition places wants t := by
  cases action with
  | run a => exact h.run hgives hbase hstep
  | test k => exact h.test hgives hbase hstep
  | block k => exact h.block hgives hbase hguard hstep
  | notify k woken => exact h.notify hstep

/-- Where nothing can go on though there are places, no thread is blocked in front of them. -/
lemma Stuck.not_blocked_of_places (hstuck : M.Stuck s) (h : M.Supplied condition places wants s)
    (hgoes : ∀ k < M.threads, wants s.base k = true →
      ∃ a, M.thread a = k ∧ M.step s.base a ≠ none)
    (hplaces : 0 < places s.base) (hk : k < M.threads) (hcondition : M.condition k = condition) :
    s.status k ≠ .blocked := by
  intro hblocked
  have hle := h.places_le ⟨k, hk, hcondition, hblocked⟩
  have hpending : workersSum (List.count ⟨condition, false⟩) M.threads s.pending = 0 := by
    have hempty : ∀ j < M.threads, s.pending j = (fun _ => []) j := fun j hj => (hstuck.quiet hj).1
    rw [workersSum_congr hempty, workersSum_const]
    rfl
  have hnone : workersWhere id M.threads (eager wants s) = 0 := by
    refine workersWhere_eq_zero.mpr fun j hj heager => ?_
    simp only [eager, id, Bool.and_eq_true, decide_eq_true_eq] at heager
    obtain ⟨a, rfl, ha⟩ := hgoes j hj heager.1
    exact ha (hstuck.step_none hj heager.2)
  omega

/-! ## The length of runs -/

/-- The steps of a thread up to its block. -/
def statusWeight : WaitStatus → Nat
  | .running => 2
  | .tested => 1
  | .blocked => 0

variable (M) in
/-- What a notice can cost: itself, and a test and a block of each thread that it wakes. -/
def noticeWeight : Nat := 2 * M.threads + 1

variable (M) in
/-- The steps left where `measure` bounds those without waits, each followed by `most` notices. -/
def waitWork (measure : σ → Nat) (most : Nat) (s : MonitorState σ γ) : Nat :=
  (most * M.noticeWeight + 1) * measure s.base + workersSum statusWeight M.threads s.status +
    M.noticeWeight * workersSum List.length M.threads s.pending

lemma statusWeight_le (status : WaitStatus) : statusWeight status ≤ 2 := by
  cases status <;> decide

lemma waitWork_step {measure : σ → Nat} {most : Nat}
    (hmeasure : ∀ t, M.step s.base a = some t → measure t < measure s.base)
    (hmost : ∀ s a, (M.notices s a).length ≤ most) (hstep : M.waitStep s (.run a) = some t) :
    M.waitWork measure most t < M.waitWork measure most s := by
  obtain ⟨ha, ⟨-, hempty⟩, -, next, hnext, rfl⟩ := run_some hstep
  have hpending := workersSum_update List.length ha s.pending (M.notices s.base a)
  rw [hempty, List.length_nil, Nat.add_zero] at hpending
  have hsteps : (most * M.noticeWeight + 1) * (measure next + 1) ≤
      (most * M.noticeWeight + 1) * measure s.base :=
    Nat.mul_le_mul_left _ (hmeasure next hnext)
  have hnotices : M.noticeWeight * (M.notices s.base a).length ≤ M.noticeWeight * most :=
    Nat.mul_le_mul_left _ (hmost s.base a)
  unfold waitWork
  simp only [hpending]
  rw [Nat.mul_add] at hsteps ⊢
  rw [Nat.mul_comm M.noticeWeight most] at hnotices
  omega

lemma waitWork_wait {measure : σ → Nat} {most : Nat} (haction : ∀ a, action ≠ .run a)
    (hstep : M.waitStep s action = some t) :
    M.waitWork measure most t < M.waitWork measure most s := by
  unfold waitWork
  cases action with
  | run a => exact absurd rfl (haction a)
  | test k =>
    obtain ⟨hk, ⟨hrunning, -⟩, -, rfl⟩ := test_some hstep
    have hstatus := workersSum_update statusWeight hk s.status .tested
    rw [hrunning] at hstatus
    simp only [MonitorState.goto, statusWeight] at hstatus ⊢
    omega
  | block k =>
    obtain ⟨hk, htested, rfl⟩ := block_some hstep
    have hstatus := workersSum_update statusWeight hk s.status .blocked
    rw [htested] at hstatus
    simp only [MonitorState.goto, statusWeight] at hstatus ⊢
    omega
  | notify k woken =>
    obtain ⟨hk, notice, rest, hpending, hbase, hrest, -⟩ := notify_some hstep
    have hlength := workersSum_update List.length hk s.pending rest
    rw [hpending, List.length_cons] at hlength
    have hstatus : workersSum statusWeight M.threads t.status ≤
        workersSum statusWeight M.threads s.status + M.threads * 2 :=
      workersSum_le_add fun j _ => (statusWeight_le _).trans (Nat.le_add_left _ _)
    have hgiven : M.noticeWeight * workersSum List.length M.threads s.pending =
        M.noticeWeight * workersSum List.length M.threads (Function.update s.pending k rest) +
          M.noticeWeight := by
      rw [← Nat.mul_succ]
      congr 1
      omega
    rw [hbase, hrest, hgiven]
    have hcost : M.noticeWeight = 2 * M.threads + 1 := rfl
    omega

/-- Waits and notifications lengthen a run by a factor only. -/
theorem length_le_waitWork {base : σ} {measure : σ → Nat} {most : Nat} (hbase : I base)
    (hmeasure : ∀ s a t, I s → M.step s a = some t → I t ∧ measure t < measure s)
    (hmost : ∀ s a, (M.notices s a).length ≤ most) {actions : List (MonitorAction α)}
    (hrun : exec M.waitStep (.initial base) actions = some s) :
    actions.length ≤ (most * M.noticeWeight + 1) * measure base + 2 * M.threads := by
  have hbound := exec_length_le (I := fun s : MonitorState σ γ => I s.base)
    (M.waitWork measure most)
    (fun s action t h hstep => ⟨base_invariant (fun s a t h hs => (hmeasure s a t h hs).1) h hstep,
      by
        cases action with
        | run a => exact waitWork_step (fun t ht => (hmeasure s.base a t h ht).2) hmost hstep
        | test k => exact waitWork_wait (fun a => by simp) hstep
        | block k => exact waitWork_wait (fun a => by simp) hstep
        | notify k woken => exact waitWork_wait (fun a => by simp) hstep⟩)
    (s := .initial base) hbase hrun
  have hstatus : workersSum statusWeight M.threads (fun _ => .running) = 2 * M.threads := by
    rw [workersSum_const, Nat.mul_comm]
    rfl
  have hpending : workersSum List.length M.threads (fun _ => ([] : List (Notice γ))) = 0 := by
    rw [workersSum_const]
    rfl
  have hinitial : M.waitWork measure most (.initial base) =
      (most * M.noticeWeight + 1) * measure base + 2 * M.threads := by
    simp only [waitWork, MonitorState.initial, hstatus, hpending, Nat.mul_zero, Nat.add_zero]
  omega

end Monitor

end Schengen.Library
