import Schengen.Storage.EncodedParts
import Schengen.Storage.EncodeProgress

/-!
# No part of the parallel encoder is lost

If the queue of results delivers what it accepted, the consumer gets the result of every call. So
where it has noted no error at the end, every part was encoded, once, and merged.
-/

namespace Schengen.Storage
open Library

variable {μ : Type}

namespace EncodeWorkers

variable (run : EncodeWorkers μ)

/-- Closing the queue of results discards nothing. -/
def Delivers (s : EncodeWorkersState μ) : EncodeWorkersAction → Prop
  | .worker _ keep _ => s.results.messages.length ≤ keep
  | .consumer keep => s.results.messages.length ≤ keep

instance (s : EncodeWorkersState μ) (action : EncodeWorkersAction) :
    Decidable (Delivers s action) := by
  cases action <;> exact inferInstanceAs (Decidable (_ ≤ _))

/-- A call returned an error. -/
def HasError (s : EncodeWorkersState μ) : Prop :=
  ∃ call ∈ s.calls, ∃ message, call.2 = .error message

/-- Every part is with a worker or was encoded. -/
def AllTaken (s : EncodeWorkersState μ) : Prop :=
  s.calls.length + workersWhere EncodeWorkerPc.generates run.workers s.worker =
    run.encoder.partCount

/-- What is known of a worker at its next access. -/
def WorkerAt (s : EncodeWorkersState μ) (pc : EncodeWorkerPc) : Prop :=
  match pc with
  | .storeStop _ => HasError s
  | _ => pc.gone = true → run.AllTaken s ∨ HasError s

/-- The result is on its way to the consumer, or was received. -/
def OnItsWay (s : EncodeWorkersState μ) (result : InMemoryPartitionData) : Prop :=
  result ∈ s.popped ∨ result ∈ s.results.messages ∨
    ∃ k < run.workers, s.worker k = .push result ∨ s.worker k = .storeStop result

/-- While the consumer has noted no error, a worker stops at an error of a call only, and no result
is lost. -/
structure CompleteInv (s : EncodeWorkersState μ) : Prop where
  partitions : s.partitions.closed = false
  results : s.results.closed = true → s.remainingWorkers = 0
  stopped : s.stopRequested = true → HasError s
  worker : ∀ k < run.workers, run.WorkerAt s (s.worker k)
  kept : ∀ call ∈ s.calls, call.2 ≠ .threw → ∃ result, IsResult call result ∧ run.OnItsWay s result
  loops : s.consumer = .pop ∨ s.consumer.leftLoop = true
  drained : s.consumer.leftLoop = true → s.results.messages = []

variable {run} {s t : EncodeWorkersState μ} {taken refused k keep : Nat} {next : EncodeWorkerPc}
  {outcome : EncodeOutcome}

lemma WorkerAt.mono {pc : EncodeWorkerPc} (h : run.WorkerAt s pc)
    (herror : HasError s → HasError t) (hall : run.AllTaken s → run.AllTaken t) :
    run.WorkerAt t pc := by
  cases pc with
  | storeStop result => exact herror h
  | _ => exact fun hgone => (h hgone).imp hall herror

lemma workerAt_of_gone {pc : EncodeWorkerPc} (hpc : ∀ result, pc ≠ .storeStop result)
    (h : pc.gone = true → run.AllTaken s ∨ HasError s) : run.WorkerAt s pc := by
  cases pc with
  | storeStop result => exact absurd rfl (hpc result)
  | _ => exact h

/-- A step of a worker. -/
lemma CompleteInv.move (h : run.CompleteInv s) (hk : k < run.workers)
    (hworker : t.worker = Function.update s.worker k next) (hpopped : t.popped = s.popped)
    (hconsumer : t.consumer = s.consumer) (hpartitions : t.partitions.closed = s.partitions.closed)
    (hresults : t.results.closed = true → t.remainingWorkers = 0)
    (hstopped : t.stopRequested = true → HasError t) (herror : HasError s → HasError t)
    (hall : run.AllTaken s → run.AllTaken t) (hat : run.WorkerAt t next)
    (hheld : ∀ result, s.worker k = .push result ∨ s.worker k = .storeStop result →
      (next = .push result ∨ next = .storeStop result) ∨ result ∈ t.results.messages)
    (hwaiting : ∀ result ∈ s.results.messages, result ∈ t.results.messages)
    (hcalls : ∀ call ∈ t.calls, call ∈ s.calls ∨ (call.2 ≠ .threw → ∃ result,
      IsResult call result ∧ (next = .push result ∨ next = .storeStop result)))
    (hdrained : s.consumer.leftLoop = true → t.results.messages = []) : run.CompleteInv t := by
  have hself : t.worker k = next := by rw [hworker, Function.update_self]
  have hother : ∀ j, j ≠ k → t.worker j = s.worker j := fun j hj => by
    rw [hworker, Function.update_of_ne hj]
  refine ⟨hpartitions.trans h.partitions, hresults, hstopped, fun j hj => ?_,
    fun call hcall hreturned => ?_, hconsumer ▸ h.loops, fun hleft => hdrained (hconsumer ▸ hleft)⟩
  · by_cases hjk : j = k
    · rw [hjk, hself]
      exact hat
    · rw [hother j hjk]
      exact (h.worker j hj).mono herror hall
  · rcases hcalls call hcall with hbefore | hnew
    · obtain ⟨result, hresult, hway⟩ := h.kept call hbefore hreturned
      refine ⟨result, hresult, ?_⟩
      rcases hway with hp | hm | ⟨j, hj, hholds⟩
      · exact .inl (hpopped ▸ hp)
      · exact .inr (.inl (hwaiting result hm))
      · by_cases hjk : j = k
        · subst hjk
          rcases hheld result hholds with hstill | hpushed
          · exact .inr (.inr ⟨j, hj, by rw [hself]; exact hstill⟩)
          · exact .inr (.inl hpushed)
        · exact .inr (.inr ⟨j, hj, by rw [hother j hjk]; exact hholds⟩)
    · obtain ⟨result, hresult, hholds⟩ := hnew hreturned
      exact ⟨result, hresult, .inr (.inr ⟨k, hk, by rw [hself]; exact hholds⟩)⟩

/-- A step of a worker that leaves the queues, the flag and the calls alone. -/
lemma CompleteInv.quiet (h : run.CompleteInv s) (hk : k < run.workers)
    (hbefore : (s.worker k).generates = false)
    (hafter : next.generates = false)
    (hheld : ∀ result, ¬ (s.worker k = .push result ∨ s.worker k = .storeStop result))
    (hat : next.gone = true → run.AllTaken s ∨ HasError s) (hnext : ∀ result, next ≠ .storeStop result) :
    run.CompleteInv (goto s k next) := by
  have hgen := workersWhere_update EncodeWorkerPc.generates hk s.worker next
  rw [hbefore, hafter] at hgen
  have hall : run.AllTaken s → run.AllTaken (goto s k next) := by
    intro hall
    unfold AllTaken at hall ⊢
    simp only [goto]
    omega
  exact h.move hk rfl rfl rfl rfl h.results h.stopped id hall
    (workerAt_of_gone hnext fun hgone => (hat hgone).imp hall id)
    (fun result hresult => absurd hresult (hheld result)) (fun _ => id) (fun _ => .inl) h.drained

/-- While a worker has not counted down, the queue of results is open. -/
lemma CompleteInv.open_of_live (h : run.CompleteInv s) (hcountdown : CountdownInv run s)
    (hk : k < run.workers) (hlive : (s.worker k).counted = false) : s.results.closed = false := by
  rw [← Bool.not_eq_true]
  intro hclosed
  have hzero := h.results hclosed
  have hremaining := hcountdown.remaining
  have hlt := workersWhere_lt (p := EncodeWorkerPc.counted) hk hlive
  omega

lemma completeInv_fetchAdd (hcount : run.encoder.partCount + run.workers ≤ 2147483647)
    (h : run.CompleteInv s) (hparts : run.PartsInv taken refused s) (hk : k < run.workers)
    (hpc : s.worker k = .fetchAdd) (hstep : workerStep k keep outcome s = some t) :
    run.CompleteInv t := by
  have hlt : workersWhere EncodeWorkerPc.gone run.workers s.worker < run.workers :=
    workersWhere_lt hk (by rw [hpc]; rfl)
  have hle := hparts.refused_le
  have htotal := hparts.total
  have hheld : ∀ result, ¬ (s.worker k = .push result ∨ s.worker k = .storeStop result) := by
    simp [hpc]
  have hgen : ∀ next, workersWhere EncodeWorkerPc.generates run.workers
      (Function.update s.worker k next) =
        workersWhere EncodeWorkerPc.generates run.workers s.worker + next.generates.toNat := by
    intro next
    have hupdate := workersWhere_update EncodeWorkerPc.generates hk s.worker next
    rwa [hpc] at hupdate
  simp only [workerStep, hpc, Option.some.injEq] at hstep
  rcases hparts.handed.fetchAdd (by omega) with ⟨htaken, hpart, -⟩ | ⟨htaken, hnone, -⟩
  · rw [hpart] at hstep
    subst hstep
    have hall : ¬ run.AllTaken s := by
      unfold AllTaken
      omega
    exact h.move hk rfl rfl rfl rfl h.results h.stopped id (fun hbefore => absurd hbefore hall)
      (fun hgone => by cases hgone) (fun result hresult => absurd hresult (hheld result))
      (fun _ => id) (fun _ => .inl) h.drained
  · rw [hnone] at hstep
    subst hstep
    have hall : run.AllTaken (goto { s with partitions := s.partitions.fetchAdd.2 } k .fetchSub) := by
      unfold AllTaken
      simp only [goto, hgen, EncodeWorkerPc.generates, Bool.toNat_false]
      omega
    exact h.move hk rfl rfl rfl rfl h.results h.stopped id (fun _ => hall) (fun _ => .inl hall)
      (fun result hresult => absurd hresult (hheld result)) (fun _ => id) (fun _ => .inl) h.drained

lemma completeInv_generate (h : run.CompleteInv s) (hk : k < run.workers) {part : Int}
    (hpc : s.worker k = .generate part) (hstep : workerStep k keep outcome s = some t) :
    run.CompleteInv t := by
  have hheld : ∀ result, ¬ (s.worker k = .push result ∨ s.worker k = .storeStop result) := by
    simp [hpc]
  have hgen := workersWhere_update EncodeWorkerPc.generates hk s.worker (afterCall part outcome)
  simp only [workerStep, hpc, Option.some.injEq] at hstep
  subst hstep
  have hlast : (part, outcome) ∈ s.calls ++ [(part, outcome)] :=
    List.mem_append_right _ List.mem_cons_self
  have herror : ∀ {w : EncodeWorkersState μ}, w.calls = s.calls ++ [(part, outcome)] →
      HasError s → HasError w := by
    rintro w hw ⟨call, hcall, herror⟩
    exact ⟨call, hw ▸ List.mem_append_left _ hcall, herror⟩
  have hafter : (afterCall part outcome).generates = false := by cases outcome <;> rfl
  refine h.move hk rfl rfl rfl rfl h.results (fun hstop => herror rfl (h.stopped hstop))
    (herror rfl) (fun hall => ?_) ?_ (fun result hresult => absurd hresult (hheld result))
    (fun _ => id) (fun call hcall => ?_) h.drained
  · rw [hpc, hafter] at hgen
    unfold AllTaken at hall ⊢
    simp only [goto, List.length_append, List.length_singleton]
    simp only [EncodeWorkerPc.generates, Bool.toNat_false, Bool.toNat_true] at hgen
    omega
  · cases outcome with
    | buffer bytes => exact fun hgone => by cases hgone
    | error message => exact ⟨_, hlast, message, rfl⟩
    | threw => exact fun hgone => by cases hgone
  · rcases List.mem_append.mp hcall with hbefore | hnew
    · exact .inl hbefore
    · refine .inr fun hreturned => ?_
      rw [List.mem_singleton.mp hnew] at hreturned ⊢
      cases outcome with
      | buffer bytes => exact ⟨_, ⟨rfl, .inl ⟨bytes, rfl, rfl, rfl⟩⟩, .inl rfl⟩
      | error message => exact ⟨_, ⟨rfl, .inr ⟨message, rfl, rfl⟩⟩, .inr rfl⟩
      | threw => exact absurd rfl hreturned

lemma completeInv_push (h : run.CompleteInv s) (hcountdown : CountdownInv run s)
    (hk : k < run.workers) {result : InMemoryPartitionData} (hpc : s.worker k = .push result)
    (hstep : workerStep k keep outcome s = some t) : run.CompleteInv t := by
  have hopen := h.open_of_live hcountdown hk (by rw [hpc]; rfl)
  have hgen := workersWhere_update EncodeWorkerPc.generates hk s.worker .loadStop
  simp only [workerStep, hpc, ClosingFifo.push, hopen, Bool.false_eq_true, if_false,
    Option.some.injEq] at hstep
  subst hstep
  have hloop : s.consumer.leftLoop ≠ true := fun hleft => by
    rw [hcountdown.left hleft] at hopen
    cases hopen
  refine h.move hk rfl rfl rfl rfl (fun hclosed => ?_) h.stopped id (fun hall => ?_)
    (fun hgone => by cases hgone) (fun held hheld => .inr ?_)
    (fun _ hresult => List.mem_append_left _ hresult) (fun _ => .inl) fun hleft => absurd hleft hloop
  · cases hclosed
  · rw [hpc] at hgen
    simp only [EncodeWorkerPc.generates, Bool.toNat_false] at hgen
    unfold AllTaken at hall ⊢
    simp only [goto]
    omega
  · rw [hpc] at hheld
    obtain rfl : result = held := by simpa using hheld
    exact List.mem_append_right _ List.mem_cons_self

lemma completeInv_workerStep (hcount : run.encoder.partCount + run.workers ≤ 2147483647)
    (h : run.CompleteInv s) (hparts : run.PartsInv taken refused s) (hcountdown : CountdownInv run s)
    (hk : k < run.workers) (hdelivers : s.results.messages.length ≤ keep)
    (hstep : workerStep k keep outcome s = some t) : run.CompleteInv t := by
  have hat := h.worker k hk
  cases hpc : s.worker k with
  | ended | threw => simp [workerStep, hpc] at hstep
  | fetchAdd => exact completeInv_fetchAdd hcount h hparts hk hpc hstep
  | generate part => exact completeInv_generate h hk hpc hstep
  | push result => exact completeInv_push h hcountdown hk hpc hstep
  | loadStop =>
    simp only [workerStep, hpc, Option.some.injEq] at hstep
    subst hstep
    refine h.quiet hk (by rw [hpc]; rfl) (by split <;> rfl) (by simp [hpc]) (fun hgone => ?_)
      fun result => by split <;> exact fun h => by cases h
    split at hgone
    · next hstop => exact .inr (h.stopped hstop)
    · cases hgone
  | loadClosed =>
    simp only [workerStep, hpc, h.partitions, Bool.false_eq_true, if_false, Option.some.injEq] at hstep
    subst hstep
    exact h.quiet hk (by rw [hpc]; rfl) rfl (by simp [hpc]) (fun hgone => by cases hgone)
      fun _ h => by cases h
  | storeStop result =>
    rw [hpc] at hat
    have hgen := workersWhere_update EncodeWorkerPc.generates hk s.worker (.push result)
    rw [hpc] at hgen
    simp only [workerStep, hpc, Option.some.injEq] at hstep
    subst hstep
    refine h.move hk rfl rfl rfl rfl h.results (fun _ => hat) id (fun hall => ?_)
      (fun hgone => by cases hgone) (fun held hheld => .inl ?_) (fun _ => id) (fun _ => .inl)
      h.drained
    · simp only [EncodeWorkerPc.generates, Bool.toNat_false] at hgen
      unfold AllTaken at hall ⊢
      simp only [goto]
      omega
    · rw [hpc] at hheld
      obtain rfl : result = held := by simpa using hheld
      exact .inl rfl
  | fetchSub =>
    have hopen := h.open_of_live hcountdown hk (by rw [hpc]; rfl)
    rw [hpc] at hat
    have hafter : (if s.remainingWorkers = 1 then EncodeWorkerPc.close else .ended).generates =
        false := by split <;> rfl
    have hgen := workersWhere_update EncodeWorkerPc.generates hk s.worker
      (if s.remainingWorkers = 1 then .close else .ended)
    rw [hpc, hafter] at hgen
    have hall : run.AllTaken s → run.AllTaken (goto
        { s with remainingWorkers := s.remainingWorkers - 1 } k
        (if s.remainingWorkers = 1 then .close else .ended)) := by
      intro hall
      simp only [EncodeWorkerPc.generates, Bool.toNat_false] at hgen
      unfold AllTaken at hall ⊢
      simp only [goto]
      omega
    simp only [workerStep, hpc, Option.some.injEq] at hstep
    subst hstep
    refine h.move hk rfl rfl rfl rfl (fun hclosed => ?_) h.stopped id hall ?_
      (fun held hheld => absurd hheld (by simp [hpc])) (fun _ => id) (fun _ => .inl) h.drained
    · rw [show s.results.closed = true from hclosed] at hopen
      cases hopen
    · have hgone : run.AllTaken s ∨ HasError s := hat rfl
      exact workerAt_of_gone (fun result => by split <;> exact fun h => by cases h)
        fun _ => hgone.imp_left hall
  | close =>
    rw [hpc] at hat
    have hzero := hcountdown.closing k hk hpc
    have hkept := ClosingFifo.close_messages hdelivers
    have hgen := workersWhere_update EncodeWorkerPc.generates hk s.worker .ended
    rw [hpc] at hgen
    simp only [workerStep, hpc, Option.some.injEq] at hstep
    subst hstep
    have hall : run.AllTaken s → run.AllTaken
        (goto { s with results := s.results.close keep } k .ended) := by
      intro hall
      simp only [EncodeWorkerPc.generates, Bool.toNat_false] at hgen
      unfold AllTaken at hall ⊢
      simp only [goto]
      omega
    have hgone : run.AllTaken s ∨ HasError s := hat rfl
    refine h.move hk rfl rfl rfl rfl (fun _ => hzero) h.stopped id hall
      (fun _ => hgone.imp_left hall) (fun held hheld => absurd hheld (by simp [hpc]))
      (fun result hresult => ?_) (fun _ => .inl) fun hleft => ?_
    · change result ∈ (s.results.close keep).messages
      rwa [hkept]
    · change (s.results.close keep).messages = []
      rw [hkept]
      exact h.drained hleft

/-- An error that was noted stays. -/
lemma receive_none {encoder : ParallelEncode μ} {result : InMemoryPartitionData} {merge : MergeState μ}
    (h : (encoder.receive result merge).pipelineError = "") : merge.pipelineError = "" := by
  by_contra hfailed
  have hstill : encoder.receive result merge =
      { merge with pending := Function.update merge.pending result.part (some result) } :=
    ParallelEncode.drainPending_failed _ hfailed
  rw [hstill] at h
  exact hfailed h

lemma noteThrown_ne (merge : MergeState μ) : (noteThrown merge).pipelineError ≠ "" := by
  unfold noteThrown
  split
  · change "worker task threw exception" ≠ ""
    decide
  · assumption

/-- A step of the consumer that receives no result. -/
lemma CompleteInv.consume (h : run.CompleteInv s) {consumer : EncodeConsumerPc}
    (hleft : consumer.leftLoop = true) (hdrained : s.results.messages = []) :
    run.CompleteInv { s with consumer := consumer } :=
  ⟨h.partitions, h.results, h.stopped, h.worker, h.kept, .inr hleft, fun _ => hdrained⟩

lemma completeInv_consumerStep (h : s.merge.pipelineError = "" → run.CompleteInv s)
    (hstep : run.consumerStep keep s = some t) :
    t.merge.pipelineError = "" → run.CompleteInv t := by
  intro hnone
  cases mergeMoves hstep with
  | receive result results hpc hpop =>
    obtain ⟨hqueue, hclosed⟩ := ClosingFifo.pop_some hpop
    have hinv := h (receive_none hnone)
    refine ⟨hinv.partitions, fun hc => hinv.results (hclosed ▸ hc), hinv.stopped, hinv.worker,
      fun call hcall hreturned => ?_, .inl (if_pos hnone), fun hleft => ?_⟩
    · obtain ⟨found, hfound, hp | hm | hw⟩ := hinv.kept call hcall hreturned
      · exact ⟨found, hfound, .inl (List.mem_append_left _ hp)⟩
      · rw [hqueue] at hm
        rcases List.mem_cons.mp hm with rfl | hrest
        · exact ⟨found, hfound, .inl (List.mem_append_right _ List.mem_cons_self)⟩
        · exact ⟨found, hfound, .inr (.inl hrest)⟩
      · exact ⟨found, hfound, .inr (.inr hw)⟩
    · simp only [if_pos hnone] at hleft
      cases hleft
  | drained hpc hclosed =>
    have hpop : s.results.pop = none := by
      by_contra hsome
      obtain ⟨popped, hpopped⟩ := Option.ne_none_iff_exists'.mp hsome
      simp only [consumerStep, hpc, hpopped, Option.some.injEq] at hstep
      have hjoin := congrArg EncodeWorkersState.consumer hstep
      simp only at hjoin
      split at hjoin <;> cases hjoin
    exact (h hnone).consume rfl (ClosingFifo.pop_none hpop)
  | stop hpc | closePartitions hpc | closeResults hpc =>
    have hloops := (h hnone).loops
    simp [hpc, EncodeConsumerPc.leftLoop] at hloops
  | ended k hpc | joined k hpc =>
    have hinv := h hnone
    exact hinv.consume rfl (hinv.drained (by rw [hpc]; rfl))
  | threw k hpc =>
    exact absurd hnone (noteThrown_ne s.merge)

/-- Once the workers have ended and the queue is empty, the result of every call was received. -/
lemma CompleteInv.popped_of_ended (h : run.CompleteInv s) (hcountdown : CountdownInv run s)
    (hended : ∀ k < run.workers, s.worker k = .ended) (hleft : s.consumer.leftLoop = true)
    {call : Int × EncodeOutcome} (hcall : call ∈ s.calls) :
    ∃ result ∈ s.popped, IsResult call result := by
  have hreturned : call.2 ≠ .threw := fun hthrew => by
    obtain ⟨k, hk, hpc⟩ := hcountdown.threw.mp ⟨call, hcall, hthrew⟩
    rw [hended k hk] at hpc
    cases hpc
  obtain ⟨result, hresult, hp | hm | ⟨k, hk, hheld⟩⟩ := h.kept call hcall hreturned
  · exact ⟨result, hp, hresult⟩
  · rw [h.drained hleft] at hm
    cases hm
  · rw [hended k hk] at hheld
    simp at hheld

/-! ## Whole runs -/

variable [Inhabited μ]

/-- The parts, the countdown and the results. -/
structure RunInv (run : EncodeWorkers μ) (s : EncodeWorkersState μ) : Prop where
  parts : ∃ taken refused, run.PartsInv taken refused s
  countdown : CountdownInv run s
  complete : s.merge.pipelineError = "" → run.CompleteInv s

lemma runInv_initial : run.RunInv run.initial where
  parts := ⟨0, 0, partsInv_initial⟩
  countdown := countdownInv_initial
  complete _ := by
    refine ⟨rfl, fun h => ?_, fun h => ?_, fun _ _ h => ?_, fun _ h => ?_, .inl rfl, fun h => ?_⟩ <;>
      cases h

omit [Inhabited μ] in
lemma runInv_step (hcount : run.encoder.partCount + run.workers ≤ 2147483647)
    {action : EncodeWorkersAction} (h : run.RunInv s) (hdelivers : Delivers s action)
    (hstep : run.step s action = some t) : run.RunInv t := by
  refine ⟨partsInv_step hcount h.parts hstep, countdownInv_step h.countdown hstep, ?_⟩
  cases action with
  | consumer keep => exact completeInv_consumerStep h.complete hstep
  | worker k keep outcome =>
    simp only [step] at hstep
    by_cases hk : k < run.workers
    · rw [if_pos hk] at hstep
      obtain ⟨taken, refused, hparts⟩ := h.parts
      rw [(workerStep_frame hstep).1]
      exact fun hnone => completeInv_workerStep hcount (h.complete hnone) hparts h.countdown hk
        hdelivers hstep
    · rw [if_neg hk] at hstep
      cases hstep

/-- Workers that are joined without an error have ended. -/
lemma ended_of_joined (h : Reachable run.step run.initial s) (hjoined : s.consumer = .joined)
    (hnone : s.merge.pipelineError = "") : ∀ k < run.workers, s.worker k = .ended := by
  have hmerge : run.MergeInv s := h.invariant mergeInv_initial fun _ _ _ => mergeInv_step
  simp only [MergeInv, hjoined] at hmerge
  intro k hk
  have hover := hmerge.finished k hk
  have hthrew : s.worker k ≠ .threw := by
    intro hthrew
    rw [hmerge.thrown ⟨k, hk, hthrew⟩] at hnone
    exact noteThrown_ne _ hnone
  revert hover hthrew
  cases s.worker k <;> simp [EncodeWorkerPc.isOver]

omit [Inhabited μ] in
/-- Once the workers have ended, the parts taken are those of the calls. -/
lemma PartsInv.perm (h : run.PartsInv taken refused s)
    (hended : ∀ k < run.workers, s.worker k = .ended) :
    s.calls.length = taken ∧
      (s.calls.map Prod.fst).Perm ((List.range taken).map fun k : Nat => (k : Int) + 1) := by
  have hidle : ∀ p : EncodeWorkerPc → Bool, p .ended = false →
      workersWhere p run.workers s.worker = 0 := fun p hp =>
    workersWhere_eq_zero.mpr fun k hk h => by rw [hended k hk, hp] at h; cases h
  refine ⟨?_, ?_⟩
  · have htotal := h.total
    rwa [hidle _ rfl] at htotal
  · refine (List.perm_ext_iff_of_nodup h.nodup ?_).mpr fun part => ?_
    · exact List.Nodup.map_on (fun i _ j _ hsame => by omega) List.nodup_range
    · have honce := h.once part
      rw [hidle (EncodeWorkerPc.holds part) rfl, Nat.add_zero] at honce
      rw [← List.count_pos_iff, honce, List.mem_map]
      constructor
      · intro hpos
        by_cases hrange : 1 ≤ part ∧ part ≤ taken
        · exact ⟨part.toNat - 1, List.mem_range.mpr (by omega), by omega⟩
        · rw [if_neg hrange] at hpos
          cases hpos
      · rintro ⟨k, hk, rfl⟩
        have hlt := List.mem_range.mp hk
        rw [if_pos (by omega)]
        decide

omit [Inhabited μ] in
/-- A call whose part was merged left a buffer. -/
lemma buffer_of_merged {n : Nat} (hparts : run.PartsInv taken refused s)
    (herrors : ∀ call ∈ s.calls, ∀ message, call.2 = .error message → message ≠ "")
    (hmerged : ∀ i < n, ∃ result, result.part = 1 + i ∧ result.error = "" ∧
      FromCall s.calls result) {call : Int × EncodeOutcome} (hcall : call ∈ s.calls)
    (hn : call.1 ≤ n) : ∃ bytes, call.2 = .buffer bytes := by
  have hrange := hparts.range hcall
  obtain ⟨result, hpart, hnone, other, hother, hkey, hresult⟩ := hmerged (call.1.toNat - 1) (by omega)
  have hsame : other = call := by
    have hfirst := hparts.range hother
    exact List.inj_on_of_nodup_map hparts.nodup hother hcall (by omega)
  subst hsame
  obtain ⟨bytes, hbuffer, -, -⟩ | ⟨message, herror, hmessage⟩ := hresult
  · exact ⟨bytes, hbuffer⟩
  · exact absurd (hmessage.symm.trans hnone) (herrors other hother message herror)

omit [Inhabited μ] in
/-- The parts are taken in order, so the first one that was not merged would have an error before
it. -/
lemma merged_all {n : Nat} (hparts : run.PartsInv taken refused s)
    (hperm : s.calls.length = taken ∧
      (s.calls.map Prod.fst).Perm ((List.range taken).map fun k : Nat => (k : Int) + 1))
    (hstops : run.AllTaken s ∨ HasError s)
    (hidle : workersWhere EncodeWorkerPc.generates run.workers s.worker = 0)
    (hbuffer : ∀ call ∈ s.calls, call.1 ≤ n → ∃ bytes, call.2 = .buffer bytes)
    (hmissing : n < run.encoder.partCount → ∀ call ∈ s.calls, call.1 ≠ n + 1)
    (hn : n ≤ run.encoder.partCount) :
    n = run.encoder.partCount ∧ taken = run.encoder.partCount := by
  have htaken := hparts.handed.taken_le
  have hreached : taken ≤ n := by
    rcases Nat.lt_or_ge n run.encoder.partCount with hlt | hge
    · by_contra hmore
      have hpart : ((n : Int) + 1) ∈ s.calls.map Prod.fst :=
        hperm.2.mem_iff.mpr (List.mem_map.mpr ⟨n, List.mem_range.mpr (by omega), rfl⟩)
      obtain ⟨call, hcall, hkey⟩ := List.mem_map.mp hpart
      exact hmissing hlt call hcall hkey
    · omega
  rcases hstops with hall | ⟨call, hcall, message, herror⟩
  · unfold AllTaken at hall
    omega
  · have hrange := hparts.range hcall
    obtain ⟨bytes, hbytes⟩ := hbuffer call hcall (by omega)
    rw [herror] at hbytes
    cases hbytes

/-- Where the workers are joined without an error, every part was encoded, once, and merged. -/
theorem joined_complete (run : EncodeWorkers μ)
    (hcount : run.encoder.partCount + run.workers ≤ 2147483647) {w : World UInt8}
    (hwritten : run.written = run.encoder.fs.call (.write run.encoder.tempPath parquetMagic) w)
    {actions : List EncodeWorkersAction} {s : EncodeWorkersState μ}
    (hdelivers : Along run.step Delivers run.initial actions)
    (hrun : exec run.step run.initial actions = some s) (hjoined : s.consumer = .joined)
    (herrors : ∀ call ∈ s.calls, ∀ message, call.2 = .error message → message ≠ "")
    (hnone : s.merge.pipelineError = "") :
    s.merge.expectedPart = run.encoder.partCount + 1 ∧
      (s.calls.map Prod.fst).Perm ((List.range run.encoder.partCount).map fun k : Nat => (k : Int) + 1) ∧
      ∀ call ∈ s.calls, ∃ bytes, call.2 = .buffer bytes := by
  have hreachable : Reachable run.step run.initial s := ⟨actions, hrun⟩
  have hinv : run.RunInv s := exec_invariant
    (fun _ _ _ h hg hs => runInv_step hcount h hg hs) runInv_initial hdelivers hrun
  obtain ⟨taken, refused, hparts⟩ := hinv.parts
  have hcomplete := hinv.complete hnone
  have hended := ended_of_joined hreachable hjoined hnone
  have hperm := hparts.perm hended
  have hidle : workersWhere EncodeWorkerPc.generates run.workers s.worker = 0 :=
    workersWhere_eq_zero.mpr fun k hk h => by rw [hended k hk] at h; cases h
  have hstops : run.AllTaken s ∨ HasError s := by
    have hworker := hcomplete.worker 0 (resolveWorkerCount_pos _ _)
    rw [hended 0 (resolveWorkerCount_pos _ _)] at hworker
    exact hworker rfl
  have hmerge : s.merge = (run.observed s).merge w := by
    rw [merge_of_joined hreachable hjoined, hwritten]
    rfl
  rw [hmerge] at hnone
  have hmerged : ∀ i < (run.observed s).inOrder.length, ∃ result, result.part = 1 + i ∧
      result.error = "" ∧ FromCall s.calls result := by
    intro i hi
    obtain ⟨hpart, harrived⟩ := ParallelEncode.inOrder_part (List.getElem?_eq_getElem hi)
    rcases ParallelEncode.merge_cases (run.observed s) (w := w) with ⟨⟨-, husable, -⟩, -⟩ | ⟨-, hbad⟩
    · exact ⟨_, hpart, (husable _ (List.getElem_mem _)).1, popped_fromCall hreachable _ harrived⟩
    · exact absurd hnone hbad
  have hbuffer : ∀ call ∈ s.calls, call.1 ≤ (run.observed s).inOrder.length →
      ∃ bytes, call.2 = .buffer bytes := fun _ hcall =>
    buffer_of_merged hparts herrors hmerged hcall
  have hmissing : (run.observed s).inOrder.length < run.encoder.partCount →
      ∀ call ∈ s.calls, call.1 ≠ (run.observed s).inOrder.length + 1 := by
    intro hlt call hcall hpart
    obtain ⟨result, hreceived, hkey, -⟩ :=
      hcomplete.popped_of_ended hinv.countdown hended (by rw [hjoined]; rfl) hcall
    have hnext : result.part = (run.observed s).inOrder.length + 1 := by omega
    exact ReorderBuffer.taken_missing hlt hreceived hnext
  have hlength := (run.observed s).inOrder_length_le
  obtain ⟨hn, rfl⟩ := merged_all hparts hperm hstops hidle hbuffer hmissing hlength
  refine ⟨?_, hperm.2, fun call hcall => hbuffer call hcall ?_⟩
  · rw [hmerge, ParallelEncode.merge_expected hnone, hn]
  · rw [hn]
    exact (hparts.range hcall).2

theorem joined_complete_two :
    ∃ s, exec twoEncoded.step twoEncoded.initial encodeTwo = some s ∧
      s.merge.expectedPart = 3 ∧ (s.calls.map Prod.fst).Perm [1, 2] ∧
      ∀ call ∈ s.calls, ∃ bytes, call.2 = .buffer bytes := by
  have hends : (exec twoEncoded.step twoEncoded.initial encodeTwo).map (fun s =>
      (s.consumer, s.calls, s.merge.pipelineError)) =
        some (.joined, [(2, .buffer (ParallelEncode.partFiles 2).bytes),
          (1, .buffer (ParallelEncode.partFiles 1).bytes)], "") := by
    decide
  obtain ⟨s, hrun, hpc⟩ := Option.map_eq_some_iff.mp hends
  obtain ⟨hjoined, hcalls, hnone⟩ : s.consumer = .joined ∧
      s.calls = [(2, .buffer (ParallelEncode.partFiles 2).bytes),
        (1, .buffer (ParallelEncode.partFiles 1).bytes)] ∧ s.merge.pipelineError = "" := by
    simpa using hpc
  have hwritten : twoEncoded.written = twoEncoded.encoder.fs.call
      (.write twoEncoded.encoder.tempPath parquetMagic) twoEncodedOpened := rfl
  have herrors : ∀ call ∈ s.calls, ∀ message, call.2 = .error message → message ≠ "" := by
    rw [hcalls]
    simp
  exact ⟨s, hrun, joined_complete twoEncoded (by decide) hwritten (by decide) hrun hjoined herrors
    hnone⟩

end EncodeWorkers

end Schengen.Storage
