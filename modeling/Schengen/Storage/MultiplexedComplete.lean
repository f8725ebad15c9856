import Schengen.Library.Workers
import Schengen.Storage.MultiplexedCalls

/-!
# When a multiplexed run returns 0

If every generator comes to its end, the queue delivers what it accepted and the sink accepts the
calls of a complete run, then no error is ever noted: only the producer that is the last to end
closes the queue, every end message arrives, and the last drain writes what is left.
-/

namespace Schengen.Storage
open Library

variable {β : Type}

namespace NativeMultiplexed

variable (run : NativeMultiplexed β)

/-- Closing the queue discards nothing. -/
def Delivers (s : MultiplexState β) : MultiplexAction → Prop
  | .producer _ keep => s.queue.messages.length ≤ keep
  | .consumer keep => s.queue.messages.length ≤ keep

instance (s : MultiplexState β) (action : MultiplexAction) : Decidable (Delivers s action) := by
  cases action <;> exact inferInstanceAs (Decidable (_ ≤ _))

/-- The calls of a complete run. -/
def completeCalls : List (SinkCall β) :=
  ((List.range' 1 run.partCount).flatMap fun part =>
    blockCalls part (run.generator part).batches) ++ [.close]

/-- The sink accepts the calls of a complete run. -/
def Accepts : Prop := run.Answered [] run.completeCalls

/-- Of every part the first batches arrived, and all of them before its end. -/
structure Received (popped : List (BatchMessage β)) : Prop where
  first : ∀ part, receivedBatches part popped <+: (run.generator part).batches
  whole : ∀ part, .endPartition part ∈ popped →
    receivedBatches part popped = (run.generator part).batches

def IsPart (part : Nat) : Prop := 1 ≤ part ∧ part ≤ run.partCount

/-- The producer has counted itself down. -/
def counted : ProducerPc → Bool
  | .close => true
  | .finished _ => true
  | _ => false

def partMessages (part : Nat) : List (BatchMessage β) :=
  (run.generator part).batches.map (.batch part) ++ [.endPartition part]

/-- What a producer has pushed where its generator comes to its end. -/
def CompleteAt (part : Nat) (pushed : List (BatchMessage β)) : ProducerPc → Prop
  | .pushError _ => False
  | .storeStop => False
  | .closeOnError => False
  | .fetchSub => pushed = run.partMessages part
  | .close => pushed = run.partMessages part
  | .finished rc => rc = 0 ∧ pushed = run.partMessages part
  | _ => True

/-- No error was noted, nothing is lost, and the queue is open until all producers have ended. -/
structure ProgressInv (s : MultiplexState β) : Prop where
  running : ∀ part, run.IsPart part → run.CompleteAt part (s.pushed part) (s.producer part).pc
  stop : s.stopRequested = false
  delivered : ∀ part, ClosingFifo.ofSender BatchMessage.part part (s.popped ++ s.queue.messages) =
    s.pushed part
  noError : ∀ part error, .error part error ∉ s.queue.messages
  remaining : s.remainingProducers =
    workersWhere (fun pc => !counted pc) run.partCount fun k => (s.producer (k + 1)).pc
  closing : ∀ part, run.IsPart part → (s.producer part).pc = .close →
    ∀ p, run.IsPart p → p ≠ part → (s.producer p).pc = .finished 0
  closed : s.queue.closed = true → ∀ part, run.IsPart part → (s.producer part).pc = .finished 0
  consumer : s.consumer.pipelineError = ""
  pc : s.pc = .pop ∨ s.pc = .join ∧ s.queue.closed = true ∧ s.queue.messages = [] ∨
    s.pc = .returned 0

variable {run} {part n : Nat} {popped : List (BatchMessage β)} {c : Consumer β}
  {state : PartitionState β} {written : List β} {calls : List (SinkCall β)}

/-! ## Calls that the sink accepts -/

lemma Accepts.call (h : run.Accepts) {call : SinkCall β}
    (hfirst : calls ++ [call] <+: run.completeCalls) :
    run.sink calls call = .ok := by
  obtain ⟨rest, hrest⟩ := hfirst
  rw [Accepts, ← hrest, answered_append, answered_append] at h
  exact h.1.2.1

lemma writeBatches_accepted (haccepts : run.Accepts) {batches : List β}
    (h : calls ++ batches.map .writeBatch <+: run.completeCalls) :
    (run.writeBatches batches calls).1 = .ok := by
  induction batches generalizing calls with
  | nil => rfl
  | cons batch batches ih =>
    have hsplit : calls ++ (batch :: batches).map SinkCall.writeBatch =
        (calls ++ [.writeBatch batch]) ++ batches.map .writeBatch := by simp
    rw [hsplit] at h
    have hcall := haccepts.call ((List.prefix_append _ _).trans h)
    unfold writeBatches
    simp only [if_pos hcall]
    exact ih h

/-- A turn that only makes calls of a complete run goes well. -/
lemma drainPartition_accepted (haccepts : run.Accepts)
    (h : c.calls ++ turnCalls c.expectedPart state ++
      (if state.completed && (state.opened || !state.batches.isEmpty) then [.endPartition] else []) <+:
        run.completeCalls) : (run.drainPartition state c).1 = .ok := by
  have hturn := (List.prefix_append _ _).trans h
  have hopen : (run.openPartition c.expectedPart state c.calls).1 = .ok := by
    unfold openPartition
    by_cases hkeep : (state.batches.isEmpty || state.opened) = true
    · rw [if_pos hkeep]
    · rw [if_neg hkeep]
      refine haccepts.call (List.IsPrefix.trans ?_ hturn)
      rw [turnCalls, if_neg hkeep, ← List.append_assoc]
      exact List.prefix_append _ _
  have hopened := openPartition_ok hopen
  have hwrite : (run.writePartition (run.openPartition c.expectedPart state c.calls).2.1
      (run.openPartition c.expectedPart state c.calls).2.2).1 = .ok := by
    rw [hopened]
    refine writeBatches_accepted haccepts ?_
    rw [turnCalls, ← List.append_assoc] at hturn
    exact hturn
  have hwritten := writePartition_ok hwrite
  rw [hopened] at hwritten
  simp only [drainPartition, hopened, hwritten, ne_eq, not_true, if_false]
  cases hcompleted : state.completed with
  | false => rfl
  | true =>
    have hend : (run.endPartition ⟨[], true, state.opened || !state.batches.isEmpty⟩
        (c.calls ++ (if state.batches.isEmpty || state.opened then []
          else [.beginPartition c.expectedPart]) ++ state.batches.map .writeBatch)).1 = .ok := by
      unfold endPartition
      by_cases hbegun : (state.opened || !state.batches.isEmpty) = true
      · rw [if_pos hbegun]
        refine haccepts.call ?_
        rw [hcompleted, hbegun, Bool.and_self, if_pos rfl, turnCalls, ← List.append_assoc] at h
        exact h
      · rw [if_neg hbegun]
    simp only [Bool.true_eq_false, if_false, hend, not_true]

/-! ## Calls of the drain -/

lemma Pushed.batches_first {messages : List (BatchMessage β)} (h : run.Pushed part messages) :
    (messages.filterMap fun
      | .batch _ batch => some batch
      | _ => none) <+: (run.generator part).batches := by
  have htake : ∀ k, (run.batchMessages part k).filterMap (fun
      | .batch _ batch => some batch
      | _ => none) = (run.generator part).batches.take k := by
    intro k
    rw [batchMessages, List.filterMap_map]
    simp
  cases h with
  | batches k =>
    rw [htake]
    exact List.take_prefix _ _
  | ended hcompletes =>
    rw [List.filterMap_append, List.filterMap_map]
    simp
  | failed k error =>
    rw [List.filterMap_append, htake]
    simpa using List.take_prefix _ _

lemma PushInv.received {s : MultiplexState β} (h : run.PushInv s) : run.Received s.popped :=
  ⟨fun part => ((h.ledger.received_first part).filterMap _).trans (h.pushed part).batches_first,
    fun _ hmem => h.receivedBatches hmem⟩

lemma openCalls_first {batches : List β} (h : written <+: batches) :
    openCalls part written <+: blockCalls part batches := by
  obtain ⟨rest, rfl⟩ := h
  cases written with
  | nil => exact List.nil_prefix
  | cons batch written =>
    refine ⟨rest.map .writeBatch ++ [.endPartition], ?_⟩
    simp [openCalls, blockCalls, partCalls]

lemma blockCalls_first (hlower : 1 ≤ part) (hupper : part ≤ run.partCount) :
    ((List.range' 1 (part - 1)).flatMap fun part => blockCalls part (run.generator part).batches) ++
      blockCalls part (run.generator part).batches <+: run.completeCalls := by
  obtain ⟨before, rfl⟩ : ∃ before, part = before + 1 := ⟨part - 1, by omega⟩
  obtain ⟨rest, hcount⟩ : ∃ rest, run.partCount = before + 1 + rest :=
    ⟨run.partCount - (before + 1), by omega⟩
  have hrange : List.range' 1 run.partCount =
      List.range' 1 before ++ [before + 1] ++ List.range' (before + 2) rest := by
    rw [hcount, ← List.range'_append_1, List.range'_1_concat, Nat.add_comm 1 before,
      Nat.add_comm 1 (before + 1)]
  unfold completeCalls
  rw [hrange, List.flatMap_append, List.flatMap_append, List.flatMap_singleton, Nat.add_sub_cancel,
    List.append_assoc]
  exact List.prefix_append _ _

/-- What was called before the expected part. -/
lemma Buffered.calls_eq (h : Buffered n popped c written) (hreceived : run.Received popped) :
    c.calls = ((List.range' 1 (c.expectedPart - 1)).flatMap fun part =>
      blockCalls part (run.generator part).batches) ++ openCalls c.expectedPart written := by
  rw [h.calls]
  refine congrArg (· ++ _) (List.flatMap_congr fun part hpart => ?_)
  have hbounds := List.mem_range'_1.mp hpart
  have hlower := h.lower
  rw [hreceived.whole part (h.before part hbounds.1 (by omega))]

/-- A turn only makes calls of a complete run. -/
lemma Buffered.turn_first (h : Buffered run.partCount popped c written)
    (hreceived : run.Received popped) (hstate : c.states c.expectedPart = some state)
    (hpart : c.expectedPart ≤ run.partCount) :
    c.calls ++ turnCalls c.expectedPart state ++
      (if state.completed && (state.opened || !state.batches.isEmpty) then [.endPartition] else []) <+:
        run.completeCalls := by
  have hexpected := h.keeps hstate
  have hturn : openCalls c.expectedPart written ++ turnCalls c.expectedPart state =
      openCalls c.expectedPart (written ++ state.batches) := by
    rw [turnCalls, ← List.append_assoc, openCalls_append state.batches hexpected.opened]
  refine List.IsPrefix.trans ?_ (blockCalls_first h.lower hpart)
  rw [h.calls_eq hreceived, List.append_assoc, List.append_assoc, List.prefix_append_right_inj,
    ← List.append_assoc, hturn, hexpected.begun, ← hexpected.batches]
  cases hcompleted : state.completed with
  | false =>
    simp only [Bool.false_and, Bool.false_eq_true, if_false, List.append_nil]
    exact openCalls_first (hreceived.first _)
  | true =>
    have hwhole := hreceived.whole _ (hexpected.completed.mp hcompleted)
    simp only [Bool.true_and, openCalls_end, hwhole, List.prefix_rfl]

lemma Buffered.drainLoop_accepted (haccepts : run.Accepts) (hreceived : run.Received popped)
    {fuel : Nat} (h : Buffered run.partCount popped c written)
    (hfuel : fuel + c.expectedPart ≤ run.partCount + 1) : (run.drainLoop fuel c).1 = .ok := by
  induction fuel generalizing c written with
  | zero => rfl
  | succ fuel ih =>
    unfold NativeMultiplexed.drainLoop
    cases hstate : c.states c.expectedPart with
    | none => rfl
    | some state =>
      have hturn := drainPartition_accepted haccepts (h.turn_first hreceived hstate (by omega))
      simp only
      by_cases hnext : (run.drainPartition state c).2.1 = true
      · obtain ⟨-, hexpected⟩ := drainPartition_next hnext
        obtain ⟨written', h'⟩ := h.drainPartition hstate (by omega) hturn
        rw [if_pos hnext]
        exact ih h' (by omega)
      · rw [if_neg hnext]
        exact hturn

lemma Buffered.drain_accepted (haccepts : run.Accepts) (hreceived : run.Received popped)
    (h : Buffered run.partCount popped c written) : (run.drainReadyPartitions c).1 = .ok := by
  have hupper := h.upper
  exact h.drainLoop_accepted haccepts hreceived (by omega)

/-- Once every part has ended, the drain comes to the end of the parts. -/
lemma Buffered.drainLoop_last (haccepts : run.Accepts) (hreceived : run.Received popped)
    (hended : ∀ part, 1 ≤ part → part ≤ run.partCount → .endPartition part ∈ popped) {fuel : Nat}
    (h : Buffered run.partCount popped c written)
    (hfuel : fuel + c.expectedPart = run.partCount + 1) :
    (run.drainLoop fuel c).2.expectedPart = run.partCount + 1 := by
  induction fuel generalizing c written with
  | zero => exact (Nat.zero_add _).symm.trans hfuel
  | succ fuel ih =>
    have hcompleted := h.expected.completed.mpr (hended _ h.lower (by omega))
    unfold NativeMultiplexed.drainLoop
    cases hstate : c.states c.expectedPart with
    | none =>
      rw [Consumer.state, hstate] at hcompleted
      cases hcompleted
    | some state =>
      rw [Consumer.state, hstate, Option.getD_some] at hcompleted
      have hturn := drainPartition_accepted haccepts (h.turn_first hreceived hstate (by omega))
      have hnext : (run.drainPartition state c).2.1 = true := by
        rw [drainPartition_ok hturn, if_pos hcompleted]
      obtain ⟨-, hexpected⟩ := drainPartition_next hnext
      obtain ⟨written', h'⟩ := h.drainPartition hstate (by omega) hturn
      simp only [if_pos hnext]
      exact ih h' (by omega)

variable (run) in
/-! ## The producers -/

variable {s t : MultiplexState β}

lemma ProgressInv.open (h : run.ProgressInv s) (hpart : run.IsPart part)
    (hrunning : (s.producer part).pc ≠ .finished 0) : s.queue.closed = false := by
  cases hclosed : s.queue.closed with
  | false => rfl
  | true => exact absurd (h.closed hclosed part hpart) hrunning

/-- One producer's share in the number of those that have not counted themselves down. -/
lemma uncounted_update (hpart : run.IsPart part)
    (hothers : ∀ p, p ≠ part → t.producer p = s.producer p) :
    workersWhere (fun pc => !counted pc) run.partCount (fun k => (t.producer (k + 1)).pc) +
        (!counted (s.producer part).pc).toNat =
      workersWhere (fun pc => !counted pc) run.partCount (fun k => (s.producer (k + 1)).pc) +
        (!counted (t.producer part).pc).toNat := by
  obtain ⟨k, rfl⟩ : ∃ k, part = k + 1 := ⟨part - 1, by have := hpart.1; omega⟩
  have hstate : (fun k => (t.producer (k + 1)).pc) =
      Function.update (fun k => (s.producer (k + 1)).pc) k (t.producer (k + 1)).pc := by
    funext j
    by_cases hj : j = k
    · rw [hj, Function.update_self]
    · rw [Function.update_of_ne hj, hothers (j + 1) (by omega)]
  rw [hstate]
  exact workersWhere_update _ hpart.2 _ _

/-- A step of a producer that notes no error. -/
lemma ProgressInv.advance (h : run.ProgressInv s) (hpart : run.IsPart part)
    (hrunning : (s.producer part).pc ≠ .finished 0)
    (hothers : ∀ p, p ≠ part → t.producer p = s.producer p ∧ t.pushed p = s.pushed p)
    (hat : run.CompleteAt part (t.pushed part) (t.producer part).pc)
    (hstop : t.stopRequested = s.stopRequested)
    (hdelivered : ∀ p, ClosingFifo.ofSender BatchMessage.part p (t.popped ++ t.queue.messages) =
      t.pushed p)
    (hnoError : ∀ p error, .error p error ∉ t.queue.messages)
    (hremaining : t.remainingProducers + (!counted (s.producer part).pc).toNat =
      s.remainingProducers + (!counted (t.producer part).pc).toNat)
    (hclosing : (t.producer part).pc = .close →
      ∀ p, run.IsPart p → p ≠ part → (s.producer p).pc = .finished 0)
    (hclosed : t.queue.closed = true → ∀ p, run.IsPart p → (t.producer p).pc = .finished 0)
    (hconsumer : t.consumer = s.consumer) (hpc : t.pc = s.pc) : run.ProgressInv t where
  running := by
    intro p hp
    by_cases hsame : p = part
    · rw [hsame]
      exact hat
    · rw [(hothers p hsame).1, (hothers p hsame).2]
      exact h.running p hp
  stop := hstop.trans h.stop
  delivered := hdelivered
  noError := hnoError
  remaining := by
    have hupdate := uncounted_update hpart fun p hp => (hothers p hp).1
    have hbefore := h.remaining
    omega
  closing := by
    intro p hp hclose q hq hne
    by_cases hsame : p = part
    · subst hsame
      rw [(hothers q hne).1]
      exact hclosing hclose q hq hne
    · rw [(hothers p hsame).1] at hclose
      exact absurd (h.closing p hp hclose part hpart (Ne.symm hsame)) hrunning
  closed := hclosed
  consumer := by
    rw [hconsumer]
    exact h.consumer
  pc := by
    rw [hpc]
    obtain hpop | ⟨-, hclosed', -⟩ | hreturned := h.pc
    · exact .inl hpop
    · exact absurd ((h.open hpart hrunning).symm.trans hclosed') Bool.false_ne_true
    · exact .inr (.inr hreturned)

/-- A step that leaves the queue alone. -/
lemma ProgressInv.goto (h : run.ProgressInv s) (hpart : run.IsPart part) {pc : ProducerPc}
    (hrunning : counted (s.producer part).pc = false) (hpc : counted pc = false)
    (hat : run.CompleteAt part (s.pushed part) pc) : run.ProgressInv (goto s part pc) := by
  have hnot : (s.producer part).pc ≠ .finished 0 := by
    intro hfinished
    rw [hfinished] at hrunning
    cases hrunning
  have hnext : ((NativeMultiplexed.goto s part pc).producer part).pc = pc := by
    simp only [NativeMultiplexed.goto, Function.update_self]
  refine h.advance hpart hnot (fun p hp => ⟨Function.update_of_ne hp _ _, rfl⟩) ?_ rfl h.delivered
    h.noError ?_ ?_ ?_ rfl rfl
  · rw [hnext]
    exact hat
  · rw [hnext, hrunning, hpc]
    rfl
  · intro hclose
    rw [← hnext, hclose] at hpc
    cases hpc
  · intro hclosed
    exact absurd ((h.open hpart hnot).symm.trans hclosed) Bool.false_ne_true

/-- The queue accepts what a producer pushes. -/
lemma ProgressInv.push (h : run.ProgressInv s) (message : BatchMessage β)
    (hpart : run.IsPart message.part) {accepted refused : Producer}
    (hrunning : counted (s.producer message.part).pc = false)
    (haccepted : counted accepted.pc = false)
    (hmessage : ∀ p error, message ≠ .error p error)
    (hat : run.CompleteAt message.part (s.pushed message.part ++ [message]) accepted.pc) :
    run.ProgressInv (push s message accepted refused) := by
  have hnot : (s.producer message.part).pc ≠ .finished 0 := by
    intro hfinished
    rw [hfinished] at hrunning
    cases hrunning
  have hopen := h.open hpart hnot
  have hqueue : s.queue.push message = some { s.queue with messages := s.queue.messages ++ [message] } :=
    if_neg (by rw [hopen]; exact Bool.false_ne_true)
  simp only [NativeMultiplexed.push, hqueue]
  refine h.advance hpart hnot (fun p hp => ⟨Function.update_of_ne hp _ _, Function.update_of_ne hp _ _⟩)
    ?_ rfl ?_ ?_ ?_ ?_ ?_ rfl rfl
  · simp only [Function.update_self]
    exact hat
  · intro p
    rw [← List.append_assoc, ClosingFifo.ofSender_append, h.delivered p,
      ClosingFifo.ofSender_singleton]
    by_cases hp : message.part = p
    · subst hp
      rw [if_pos rfl]
      exact (Function.update_self message.part (s.pushed message.part ++ [message]) s.pushed).symm
    · rw [if_neg hp, List.append_nil]
      exact (Function.update_of_ne (Ne.symm hp) (s.pushed message.part ++ [message]) s.pushed).symm
  · intro p error hmem
    obtain hold | hnew := List.mem_append.mp hmem
    · exact h.noError p error hold
    · exact hmessage p error (List.mem_singleton.mp hnew).symm
  · simp only [Function.update_self, hrunning, haccepted]
  · intro hclose
    simp only [Function.update_self] at hclose
    rw [hclose] at haccepted
    cases haccepted
  · intro hclosed
    exact absurd (hopen.symm.trans hclosed) Bool.false_ne_true

/-- Where a single producer has not counted itself down, the others have ended. -/
lemma ProgressInv.others_finished (h : run.ProgressInv s) (hpart : run.IsPart part)
    (hpc : (s.producer part).pc = .fetchSub) (hone : s.remainingProducers = 1) {p : Nat}
    (hp : run.IsPart p) (hne : p ≠ part) : (s.producer p).pc = .finished 0 := by
  obtain ⟨t, ht⟩ : ∃ t, t = NativeMultiplexed.goto s part .close := ⟨_, rfl⟩
  have hother : ∀ q, q ≠ part → t.producer q = s.producer q := by
    intro q hq
    rw [ht]
    exact Function.update_of_ne hq _ _
  have hclose : counted (t.producer part).pc = true := by
    rw [ht]
    simp only [NativeMultiplexed.goto, Function.update_self]
    rfl
  have hfetch : counted (s.producer part).pc = false := by
    rw [hpc]
    rfl
  have hupdate := uncounted_update hpart hother
  rw [hclose, hfetch, Bool.not_true, Bool.not_false, Bool.toNat_true, Bool.toNat_false] at hupdate
  have hbefore := h.remaining
  have hzero := workersWhere_eq_zero.mp (show workersWhere (fun pc => !counted pc) run.partCount
    (fun k => (t.producer (k + 1)).pc) = 0 by omega)
  obtain ⟨k, rfl⟩ : ∃ k, p = k + 1 := ⟨p - 1, by have := hp.1; omega⟩
  have hcounted := hzero k hp.2
  rw [hother _ hne] at hcounted
  cases hended : (s.producer (k + 1)).pc with
  | close =>
    have hfinished := h.closing _ hp hended part hpart (Ne.symm hne)
    rw [hpc] at hfinished
    cases hfinished
  | finished rc =>
    have hat := h.running _ hp
    rw [hended] at hat
    rw [hat.1]
  | _ =>
    rw [hended] at hcounted
    exact absurd rfl hcounted

/-- Only the last producer goes on to close the queue. -/
lemma ProgressInv.fetchSub (h : run.ProgressInv s) (hpart : run.IsPart part)
    (hpc : (s.producer part).pc = .fetchSub) :
    run.ProgressInv (NativeMultiplexed.goto { s with remainingProducers := s.remainingProducers - 1 }
      part (if s.remainingProducers = 1 then .close else .finished 0)) := by
  have hnot : (s.producer part).pc ≠ .finished 0 := by
    rw [hpc]
    exact fun h => nomatch h
  have hpushed : s.pushed part = run.partMessages part := by
    have hat := h.running part hpart
    rw [hpc] at hat
    exact hat
  have hcounted : counted (if s.remainingProducers = 1 then .close else .finished 0) = true := by
    split <;> rfl
  refine h.advance hpart hnot (fun p hp => ⟨Function.update_of_ne hp _ _, rfl⟩) ?_ rfl h.delivered
    h.noError ?_ ?_ ?_ rfl rfl
  · simp only [NativeMultiplexed.goto, Function.update_self]
    split
    · exact hpushed
    · exact ⟨rfl, hpushed⟩
  · simp only [NativeMultiplexed.goto, Function.update_self, hcounted, hpc]
    simp [counted]
  · intro hclose p hp hne
    simp only [NativeMultiplexed.goto, Function.update_self] at hclose
    split at hclose
    · next hone => exact h.others_finished hpart hpc hone hp hne
    · cases hclose
  · intro hclosed
    exact absurd ((h.open hpart hnot).symm.trans hclosed) Bool.false_ne_true

lemma ProgressInv.close {keep : Nat} (h : run.ProgressInv s) (hpart : run.IsPart part)
    (hpc : (s.producer part).pc = .close) (hdelivers : s.queue.messages.length ≤ keep) :
    run.ProgressInv (NativeMultiplexed.goto { s with queue := s.queue.close keep } part
      (.finished 0)) := by
  have hnot : (s.producer part).pc ≠ .finished 0 := by
    rw [hpc]
    exact fun h => nomatch h
  have hkept : (s.queue.close keep).messages = s.queue.messages := ClosingFifo.close_messages hdelivers
  have hat := h.running part hpart
  rw [hpc] at hat
  refine h.advance hpart hnot (fun p hp => ⟨Function.update_of_ne hp _ _, rfl⟩) ?_ rfl ?_ ?_ ?_ ?_ ?_
    rfl rfl
  · simp only [NativeMultiplexed.goto, Function.update_self]
    exact ⟨rfl, hat⟩
  · simp only [NativeMultiplexed.goto, hkept]
    exact h.delivered
  · simp only [NativeMultiplexed.goto, hkept]
    exact h.noError
  · simp only [NativeMultiplexed.goto, Function.update_self, hpc]
    rfl
  · intro hclose
    simp only [NativeMultiplexed.goto, Function.update_self] at hclose
    cases hclose
  · intro _ p hp
    by_cases hsame : p = part
    · simp only [NativeMultiplexed.goto, hsame, Function.update_self]
    · simp only [NativeMultiplexed.goto, Function.update_of_ne hsame]
      exact h.closing part hpart hpc p hp hsame

lemma progressInv_producerStep {keep : Nat}
    (hcompletes : ∀ part, run.IsPart part → (run.generator part).Completes) (hpush : run.PushInv s)
    (h : run.ProgressInv s) (hpart : run.IsPart part) (hdelivers : s.queue.messages.length ≤ keep)
    (hstep : run.producerStep part keep s = some t) : run.ProgressInv t := by
  obtain ⟨hready, hends⟩ := hcompletes part hpart
  have hat := h.running part hpart
  have hposition := hpush.position part
  cases producerMoves hstep with
  | ready hpc => exact h.goto hpart (by rw [hpc]; rfl) rfl trivial
  | loadStop hpc =>
    rw [h.stop]
    exact h.goto hpart (by rw [hpc]; rfl) rfl trivial
  | pushBatch batch hpc hbatch =>
    exact h.push (.batch part batch) hpart (by rw [BatchMessage.part, hpc]; rfl) rfl
      (by simp) trivial
  | allPushed hpc => exact h.goto hpart (by rw [hpc]; rfl) rfl trivial
  | loadStopAtEnd hpc =>
    rw [h.stop]
    exact h.goto hpart (by rw [hpc]; rfl) rfl trivial
  | pushEnd hpc =>
    simp only [PushedAt, hpc] at hposition
    exact h.push (.endPartition part) hpart (by rw [BatchMessage.part, hpc]; rfl) rfl
      (by simp) (congrArg (· ++ _) hposition.2)
  | fetchSub hpc => exact h.fetchSub hpart hpc
  | close hpc => exact h.close hpart hpc hdelivers
  | missing hpc hstart => cases hready.symm.trans hstart
  | startThrew thrown hpc hstart => cases hready.symm.trans hstart
  | threw thrown hpc hthrew => cases hends.symm.trans hthrew
  | pushError error hpc | storeStop hpc | closeOnError hpc =>
    rw [hpc] at hat
    exact hat.elim

/-! ## The consumer -/

/-- A message is kept and what is ready is written. -/
lemma ProgressInv.receive (haccepts : run.Accepts) (horder : run.OrderInv s) (h : run.ProgressInv s)
    (hpc : s.pc = .pop) {message : BatchMessage β} {queue : ClosingFifo (BatchMessage β)}
    (hpop : s.queue.pop = some (message, queue)) :
    run.ProgressInv (run.handleMessage
      { s with queue := queue, popped := s.popped ++ [message] } message) := by
  obtain ⟨hmessages, hclosed⟩ := ClosingFifo.pop_some hpop
  have hmessage : ∀ part error, message ≠ .error part error := by
    rintro part error rfl
    exact h.noError part error (by rw [hmessages]; exact List.mem_cons_self)
  have hpush : run.PushInv { s with queue := queue, popped := s.popped ++ [message] } :=
    ⟨horder.push.ledger.pop hpop, horder.push.pushed, horder.push.position⟩
  obtain ⟨written, hbuffered⟩ := horder.buffered (by rw [hpc]; rfl) h.consumer
  have hdrained := (hbuffered.keepMessage (horder.push.end_not_mem hpop) hmessage).drain_accepted
    haccepts hpush.received
  have hhandled : run.handleMessage { s with queue := queue, popped := s.popped ++ [message] }
      message = noteDrain { s with queue := queue, popped := s.popped ++ [message] }
        (run.drainReadyPartitions (keepMessage s.consumer message)) := by
    cases message with
    | error part error => exact absurd rfl (hmessage part error)
    | _ => rfl
  rw [hhandled]
  simp only [noteDrain, hdrained, Outcome.ok]
  have hall : s.popped ++ s.queue.messages = s.popped ++ [message] ++ queue.messages := by
    rw [hmessages, List.append_assoc, List.singleton_append]
  refine ⟨h.running, h.stop, fun part => ?_, fun part error hmem => ?_, h.remaining, h.closing,
    fun hqueue => h.closed (hclosed ▸ hqueue), ?_, .inl hpc⟩
  · rw [← h.delivered part, hall]
  · exact h.noError part error (by rw [hmessages]; exact List.mem_cons_of_mem _ hmem)
  · rw [drainReadyPartitions, drainLoop_pipelineError]
    exact h.consumer

/-- With everything written, the sink is closed and the function returns 0. -/
lemma Buffered.finish_accepted (haccepts : run.Accepts) (hreceived : run.Received popped)
    (h : Buffered run.partCount popped c written)
    (hended : ∀ part, 1 ≤ part → part ≤ run.partCount → .endPartition part ∈ popped)
    (hnone : c.pipelineError = "") :
    (run.finish false c).1 = .returned 0 ∧ (run.finish false c).2.pipelineError = "" := by
  have hupper := h.upper
  have hok := h.drain_accepted haccepts hreceived
  obtain ⟨last, hdrained⟩ := h.drain hok
  have hexpected : (run.drainReadyPartitions c).2.expectedPart = run.partCount + 1 :=
    h.drainLoop_last haccepts hreceived hended (by omega)
  have herror : (run.drainReadyPartitions c).2.pipelineError = "" :=
    (drainLoop_pipelineError _).trans hnone
  have hclose : run.sink (run.drainReadyPartitions c).2.calls .close = .ok := by
    refine haccepts.call ?_
    rw [hdrained.calls_eq hreceived, hdrained.last hexpected, hexpected, Nat.add_sub_cancel]
    simp [openCalls, completeCalls]
  simp only [finish, Bool.not_false, failUnless, if_true, hok, Outcome.ok, closeSink, hexpected,
    decide_true, herror]
  rw [Outcome.ok] at hclose
  simp only [hclose, decide_true, if_true]
  exact ⟨trivial, trivial⟩

/-- No producer has failed once all have ended. -/
lemma ProgressInv.producersFailed (h : run.ProgressInv s) (hclosed : s.queue.closed = true) :
    run.producersFailed s = false := by
  refine List.any_eq_false.mpr fun part hpart => ?_
  have hbounds := List.mem_range'_1.mp hpart
  rw [h.closed hclosed part ⟨hbounds.1, by omega⟩]
  decide

/-- Once the queue is closed and empty, the end message of every part has arrived. -/
lemma ProgressInv.ended (h : run.ProgressInv s) (hclosed : s.queue.closed = true)
    (hmessages : s.queue.messages = []) (hlower : 1 ≤ part) (hupper : part ≤ run.partCount) :
    .endPartition part ∈ s.popped := by
  have hdelivered := h.delivered part
  have hat := h.running part ⟨hlower, hupper⟩
  rw [h.closed hclosed part ⟨hlower, hupper⟩] at hat
  rw [hmessages, List.append_nil, hat.2] at hdelivered
  have hmem : .endPartition part ∈ ClosingFifo.ofSender BatchMessage.part part s.popped := by
    rw [hdelivered]
    exact List.mem_append_right _ (List.mem_singleton.mpr rfl)
  exact (List.mem_filter.mp hmem).1

lemma progressInv_consumerStep {keep : Nat} (haccepts : run.Accepts) (horder : run.OrderInv s)
    (h : run.ProgressInv s) (hstep : run.consumerStep keep s = some t) : run.ProgressInv t := by
  have hloop : s.pc ≠ .storeStop ∧ s.pc ≠ .close := by
    obtain hpc | ⟨hpc, -, -⟩ | hpc := h.pc <;> simp [hpc]
  cases consumerMoves hstep with
  | receive message queue hpc hpop => exact h.receive haccepts horder hpc hpop
  | drained hpc hpop hclosed =>
    exact ⟨h.running, h.stop, h.delivered, h.noError, h.remaining, h.closing, h.closed, h.consumer,
      .inr (.inl ⟨rfl, hclosed, ClosingFifo.pop_none hpop⟩)⟩
  | stop hpc => exact absurd hpc hloop.1
  | close hpc => exact absurd hpc hloop.2
  | finish hpc =>
    obtain hpop | ⟨-, hclosed, hmessages⟩ | hreturned := h.pc
    · rw [hpc] at hpop
      cases hpop
    · obtain ⟨written, hbuffered⟩ := horder.buffered (by rw [hpc]; rfl) h.consumer
      obtain ⟨hzero, hnone⟩ := hbuffered.finish_accepted haccepts horder.push.received
        (fun part hlower hupper => h.ended hclosed hmessages hlower hupper) h.consumer
      rw [h.producersFailed hclosed]
      exact ⟨h.running, h.stop, h.delivered, h.noError, h.remaining, h.closing, h.closed, hnone,
        .inr (.inr hzero)⟩
    · rw [hpc] at hreturned
      cases hreturned

lemma progressInv_initial : run.ProgressInv run.initial := by
  have hnone : workersWhere (fun pc => !counted pc) run.partCount
      (fun k => (run.initial.producer (k + 1)).pc) = run.partCount :=
    workersWhere_eq_count.mpr fun _ _ => rfl
  exact ⟨fun _ _ => trivial, rfl, fun _ => rfl, fun _ _ => List.not_mem_nil,
    congrArg Nat.cast hnone.symm, fun _ _ h => (nomatch h), fun h => (nomatch h), rfl, .inl rfl⟩

/-- A delivering run over generators that come to their end, into a sink that accepts their
batches, returns 0. -/
theorem returns_zero_of_accepts
    (hcompletes : ∀ part ∈ List.range' 1 run.partCount, (run.generator part).Completes)
    (haccepts : run.Accepts) {actions : List MultiplexAction} {rc : Int}
    (hdelivers : Along run.step Delivers run.initial actions)
    (hrun : exec run.step run.initial actions = some s) (hreturned : s.pc = .returned rc) :
    rc = 0 := by
  have hall : ∀ part, run.IsPart part → (run.generator part).Completes := by
    intro part hpart
    exact hcompletes part (List.mem_range'_1.mpr ⟨hpart.1, by have := hpart.2; omega⟩)
  have hinv : run.OrderInv s ∧ run.ProgressInv s := by
    refine exec_invariant (I := fun s => run.OrderInv s ∧ run.ProgressInv s)
      (fun s action t h hguard hstep => ?_) ⟨orderInv_initial, progressInv_initial⟩ hdelivers hrun
    refine ⟨orderInv_step h.1 hstep, ?_⟩
    cases action with
    | consumer keep => exact progressInv_consumerStep haccepts h.1 h.2 hstep
    | producer part keep =>
      simp only [step] at hstep
      split at hstep
      · next hpart => exact progressInv_producerStep hall h.1.push h.2 hpart hguard hstep
      · cases hstep
  obtain hpc | ⟨hpc, -, -⟩ | hpc := hinv.2.pc
  · rw [hreturned] at hpc
    cases hpc
  · rw [hreturned] at hpc
    cases hpc
  · exact ConsumerPc.returned.inj (hreturned.symm.trans hpc)

end NativeMultiplexed

end Schengen.Storage
