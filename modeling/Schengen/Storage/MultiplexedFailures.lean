import Schengen.Library.CallLog
import Schengen.Storage.MultiplexedCalls

/-!
# The multiplexed writer after a failure

A drain that fails leaves the call that failed to be made again: the next drain starts with it,
and there is always a next drain, at the latest the one after the joins.
-/

namespace Schengen.Storage
open Library

variable {β : Type}

namespace NativeMultiplexed

variable (run : NativeMultiplexed β)

/-- A call for a part that returns an error. -/
def Fails (before : List (SinkCall β)) (c : SinkCall β) : Prop :=
  c.forPart = true ∧ ∃ code message, run.sink before c = .returned (.error code message)

/-- After the first call for a part that returns an error there is only `Close`. -/
def StopsAtFailure (calls : List (SinkCall β)) : Prop :=
  QuietAfter run.Fails (fun c => c = .close) calls

def NoneFails (calls : List (SinkCall β)) : Prop :=
  Accepted (fun before c => ¬ run.Fails before c) [] calls

/-- The batches passed to `WriteBatch` are, part after part, the first ones of those received, each
once. -/
def WrittenOnce (popped : List (BatchMessage β)) (calls : List (SinkCall β)) : Prop :=
  ∃ taken : Nat → Nat, SinkCall.written calls =
    (List.range' 1 run.partCount).flatMap fun part => (receivedBatches part popped).take (taken part)

/-- What is claimed of the calls on the sink. -/
structure Stops (s : MultiplexState β) : Prop where
  quiet : run.StopsAtFailure s.consumer.calls
  once : run.WrittenOnce s.popped s.consumer.calls

/-- The step runs `drain_ready_partitions`. -/
def Drains (s : MultiplexState β) : MultiplexAction → Prop
  | .producer _ _ => False
  | .consumer _ => (s.pc = .pop ∧ ∃ message queue, s.queue.pop = some (message, queue) ∧
      ∀ part error, message ≠ .error part error) ∨ s.pc = .join

/-- No drain is run once a call has failed. -/
def DrainsUnfailed (s : MultiplexState β) (action : MultiplexAction) : Prop :=
  run.NoneFails s.consumer.calls ∨ ¬ Drains s action

variable {run} {part : Nat} {popped : List (BatchMessage β)} {c : Consumer β}
  {state : PartitionState β} {calls calls' more : List (SinkCall β)} {outcome : Outcome}
  {done : Nat → List β}

/-! ## The answers to the calls of a drain -/

lemma accepted_of_answered {before : List (SinkCall β)} (h : run.Answered before more) :
    Accepted (fun before c => ¬ run.Fails before c) before more := by
  induction more generalizing before with
  | nil => trivial
  | cons c more ih =>
    refine ⟨fun hfails => ?_, ih h.2⟩
    obtain ⟨-, code, message, hanswer⟩ := hfails
    exact absurd (h.1.symm.trans hanswer) (by simp [Outcome.ok])

/-- A drain that does not end with an error status has met none. -/
lemma Halts.noneFails (h : run.Halts outcome calls calls') (hnone : run.NoneFails calls)
    (houtcome : ∀ code message, outcome ≠ .returned (.error code message)) :
    run.NoneFails calls' := by
  obtain ⟨more, -, hanswered, hlast⟩ := h
  have hbefore : run.NoneFails (calls ++ more) :=
    accepted_append.mpr ⟨hnone, accepted_of_answered hanswered⟩
  rcases hlast with ⟨-, rfl⟩ | ⟨c, -, -, hanswer, rfl⟩
  · exact hbefore
  · refine accepted_concat.mpr ⟨hbefore, fun hfails => ?_⟩
    obtain ⟨-, code, message, herror⟩ := hfails
    exact houtcome code message (hanswer.symm.trans herror)

/-- A drain that ends with an error status got it from its last call. -/
lemma Halts.fails {code message : String} (h : run.Halts (.returned (.error code message)) calls calls')
    (hnone : run.NoneFails calls) :
    ∃ before c, calls' = before ++ [c] ∧ run.NoneFails before ∧ run.Fails before c := by
  obtain ⟨more, -, hanswered, ⟨hok, -⟩ | ⟨c, -, hpart, hanswer, rfl⟩⟩ := h
  · exact absurd hok (by simp [Outcome.ok])
  · exact ⟨calls ++ more, c, rfl, accepted_append.mpr ⟨hnone, accepted_of_answered hanswered⟩,
      hpart, code, message, hanswer⟩

/-! ## What is received is written or kept -/

/-- `done part` is what was written of a part. -/
structure Conserved (run : NativeMultiplexed β) (popped : List (BatchMessage β)) (c : Consumer β)
    (done : Nat → List β) : Prop where
  lower : 1 ≤ c.expectedPart
  upper : c.expectedPart ≤ run.partCount + 1
  received : ∀ part, receivedBatches part popped = done part ++ (c.state part).batches
  later : ∀ part, c.expectedPart < part → done part = []
  written : SinkCall.written c.calls = (List.range' 1 run.partCount).flatMap done

variable (done) in
lemma WrittenOnce.of_prefixes (h : SinkCall.written calls = (List.range' 1 run.partCount).flatMap done)
    (hfirst : ∀ part, done part <+: receivedBatches part popped) : run.WrittenOnce popped calls := by
  refine ⟨fun part => (done part).length, h.trans (List.flatMap_congr fun part _ => ?_)⟩
  exact List.prefix_iff_eq_take.mp (hfirst part)

lemma Conserved.once (h : run.Conserved popped c done) : run.WrittenOnce popped c.calls :=
  .of_prefixes done h.written fun part => ⟨_, (h.received part).symm⟩

/-- More is written of the expected part. -/
lemma flatMap_update (batches : List β) (hlower : 1 ≤ part) (hupper : part ≤ run.partCount)
    (hlater : ∀ later, part < later → done later = []) :
    (List.range' 1 run.partCount).flatMap (Function.update done part (done part ++ batches)) =
      (List.range' 1 run.partCount).flatMap done ++ batches := by
  have hsplit : List.range' 1 run.partCount =
      List.range' 1 (part - 1) ++ part :: List.range' (part + 1) (run.partCount - part) := by
    have hparts : List.range' 1 (part - 1) ++ List.range' (1 + (part - 1)) (run.partCount - part + 1) =
        List.range' 1 (part - 1 + (run.partCount - part + 1)) := List.range'_append_1
    rw [show 1 + (part - 1) = part by omega, List.range'_succ,
      show part - 1 + (run.partCount - part + 1) = run.partCount by omega] at hparts
    exact hparts.symm
  have hbefore : ∀ p ∈ List.range' 1 (part - 1),
      Function.update done part (done part ++ batches) p = done p := by
    intro p hp
    have hbounds := List.mem_range'_1.mp hp
    exact Function.update_of_ne (by omega) _ _
  have hafter : ∀ p ∈ List.range' (part + 1) (run.partCount - part),
      Function.update done part (done part ++ batches) p = [] ∧ done p = [] := by
    intro p hp
    have hbounds := List.mem_range'_1.mp hp
    have hempty := hlater p (by omega)
    exact ⟨(Function.update_of_ne (by omega) _ _).trans hempty, hempty⟩
  rw [hsplit, List.flatMap_append, List.flatMap_append, List.flatMap_cons, List.flatMap_cons,
    List.flatMap_congr hbefore, Function.update_self,
    List.flatMap_eq_nil_iff.mpr fun p hp => (hafter p hp).1,
    List.flatMap_eq_nil_iff.mpr fun p hp => (hafter p hp).2]
  simp only [List.append_nil, List.append_assoc]

/-! ### Messages -/

lemma receivedBatches_error (part p : Nat) (error : String) :
    receivedBatches part (popped ++ [.error p error]) = receivedBatches part popped := by
  rw [receivedBatches, ClosingFifo.ofSender_append, List.filterMap_append, ClosingFifo.ofSender_singleton]
  split <;> simp [receivedBatches]

lemma Conserved.keepMessage {message : BatchMessage β} (h : run.Conserved popped c done)
    (herror : ∀ part error, message ≠ .error part error) :
    run.Conserved (popped ++ [message]) (keepMessage c message) done := by
  refine ⟨h.lower, h.upper, fun part => ?_, h.later, h.written⟩
  by_cases hpart : part = message.part
  · have hreceived := h.received part
    cases message with
    | error p error => exact absurd rfl (herror p error)
    | batch p batch =>
      obtain rfl : part = p := hpart
      have hstate : ((NativeMultiplexed.keepMessage c (.batch part batch)).state part).batches =
          (c.state part).batches ++ [batch] := by
        simp only [Consumer.state, NativeMultiplexed.keepMessage, BatchMessage.part,
          Function.update_self, Option.getD_some]
      rw [receivedBatches_batch, hreceived, hstate, List.append_assoc]
    | endPartition p =>
      obtain rfl : part = p := hpart
      have hstate : ((NativeMultiplexed.keepMessage c (.endPartition part)).state part).batches =
          (c.state part).batches := by
        simp only [Consumer.state, NativeMultiplexed.keepMessage, BatchMessage.part,
          Function.update_self, Option.getD_some]
      rw [receivedBatches_end, hreceived, hstate]
  · rw [receivedBatches_other (Ne.symm hpart), keepMessage_state_other hpart]
    exact h.received part

lemma Conserved.error (h : run.Conserved popped c done) (part : Nat) (error text : String) :
    run.Conserved (popped ++ [.error part error]) (fail c text) done := by
  refine ⟨h.lower, h.upper, fun p => ?_, h.later, h.written⟩
  rw [receivedBatches_error]
  exact h.received p

lemma WrittenOnce.error (h : run.WrittenOnce popped calls) (part : Nat) (error : String) :
    run.WrittenOnce (popped ++ [.error part error]) calls := by
  obtain ⟨taken, htaken⟩ := h
  refine ⟨taken, htaken.trans (List.flatMap_congr fun p _ => ?_)⟩
  rw [receivedBatches_error]

/-! ### Turns -/

/-- Nothing of the expected part can be written. -/
def Idle (run : NativeMultiplexed β) (c : Consumer β) : Prop :=
  c.expectedPart ≤ run.partCount → ∀ state, c.states c.expectedPart = some state →
    state.batches = [] ∧ state.completed = false

/-- A call for the expected part can be made. -/
def Stuck (run : NativeMultiplexed β) (c : Consumer β) : Prop :=
  c.expectedPart ≤ run.partCount ∧ ∃ state, c.states c.expectedPart = some state ∧
    (state.batches ≠ [] ∨ state.completed = true ∧ state.opened = true)

lemma Conserved.batches (h : run.Conserved popped c done)
    (hstate : c.states c.expectedPart = some state) :
    receivedBatches c.expectedPart popped = done c.expectedPart ++ state.batches := by
  have hreceived := h.received c.expectedPart
  rwa [Consumer.state, hstate, Option.getD_some] at hreceived

lemma written_turnCalls (part : Nat) (state : PartitionState β) :
    SinkCall.written (turnCalls part state) = state.batches := by
  unfold turnCalls
  rw [SinkCall.written_append, SinkCall.written_map]
  split <;> rfl

/-- A turn that goes well writes what is kept of the expected part. -/
lemma Conserved.drainPartition (h : run.Conserved popped c done)
    (hstate : c.states c.expectedPart = some state) (hpart : c.expectedPart ≤ run.partCount)
    (hok : (run.drainPartition state c).1 = .ok) :
    ∃ done, run.Conserved popped (run.drainPartition state c).2.2 done := by
  have hbatches := h.batches hstate
  have hwritten := flatMap_update state.batches h.lower hpart h.later
  refine ⟨Function.update done c.expectedPart (done c.expectedPart ++ state.batches), ?_⟩
  rw [drainPartition_ok hok]
  cases hcompleted : state.completed with
  | false =>
    simp only [Bool.false_eq_true, if_false]
    refine ⟨h.lower, h.upper, fun part => ?_, fun part hlater => ?_, ?_⟩
    · by_cases hsame : part = c.expectedPart
      · subst hsame
        rw [setState_state_self, Function.update_self, List.append_nil]
        exact hbatches
      · rw [setState_state_other hsame, Function.update_of_ne hsame]
        exact h.received part
    · have hgt : c.expectedPart < part := hlater
      rw [Function.update_of_ne (Nat.ne_of_gt hgt)]
      exact h.later part hgt
    · rw [hwritten, ← h.written]
      change SinkCall.written (c.calls ++ turnCalls c.expectedPart state) = _
      rw [SinkCall.written_append, written_turnCalls]
  | true =>
    simp only [if_true]
    refine ⟨Nat.le_succ_of_le h.lower, Nat.succ_le_succ hpart, fun part => ?_,
      fun part hlater => ?_, ?_⟩
    · change receivedBatches part popped = _ ++
        ((setState c c.expectedPart none c.calls).state part).batches
      by_cases hsame : part = c.expectedPart
      · subst hsame
        rw [Function.update_self]
        simp only [Consumer.state, setState, Function.update_self, Option.getD_none]
        rw [List.append_nil]
        exact hbatches
      · rw [setState_state_other hsame, Function.update_of_ne hsame]
        exact h.received part
    · have hgt : c.expectedPart < part := Nat.lt_of_succ_lt hlater
      rw [Function.update_of_ne (Nat.ne_of_gt hgt)]
      exact h.later part hgt
    · rw [hwritten, ← h.written]
      change SinkCall.written (c.calls ++ turnCalls c.expectedPart state ++ _) = _
      rw [SinkCall.written_append, SinkCall.written_append, written_turnCalls]
      split <;> exact List.append_nil _

lemma writeBatches_failed {batches : List β} (h : (run.writeBatches batches calls).1 ≠ .ok) :
    ∃ wrote batch rest, batches = wrote ++ batch :: rest ∧
      (run.writeBatches batches calls).2 =
        (batch :: rest, calls ++ (wrote ++ [batch]).map .writeBatch) := by
  induction batches generalizing calls with
  | nil => exact absurd rfl h
  | cons batch batches ih =>
    simp only [writeBatches] at h ⊢
    by_cases hcall : run.sink calls (.writeBatch batch) = .ok
    · rw [if_pos hcall] at h ⊢
      obtain ⟨wrote, failed, rest, rfl, hresult⟩ := ih h
      refine ⟨batch :: wrote, failed, rest, rfl, ?_⟩
      rw [hresult, List.append_assoc]
      rfl
    · rw [if_neg hcall]
      exact ⟨[], batch, batches, rfl, rfl⟩

lemma openPartition_failed (h : (run.openPartition part state calls).1 ≠ .ok) :
    (run.openPartition part state calls).2 = (state, calls ++ [.beginPartition part]) ∧
      state.batches ≠ [] := by
  unfold openPartition at h ⊢
  split at h
  · exact absurd rfl h
  · next hkeep =>
    have hfailed : run.sink calls (.beginPartition part) ≠ .ok := h
    rw [if_neg hkeep]
    simp only [if_neg hfailed]
    refine ⟨trivial, fun hempty => hkeep ?_⟩
    rw [hempty]
    rfl

/-- A turn that fails leaves the call that failed to be made again. -/
lemma drainPartition_failed (h : (run.drainPartition state c).1 ≠ .ok) :
    ∃ state' calls', (run.drainPartition state c).2.2 =
        setState c c.expectedPart (some state') calls' ∧
      (run.drainPartition state c).2.1 = false ∧
      (state'.batches ≠ [] ∨ state'.completed = true ∧ state'.opened = true) ∧
      ∃ wrote, wrote <+: state.batches ∧
        SinkCall.written calls' = SinkCall.written c.calls ++ wrote := by
  by_cases hopen : (run.openPartition c.expectedPart state c.calls).1 = .ok
  · have hopened := openPartition_ok hopen
    have hbegun : SinkCall.written (c.calls ++ if state.batches.isEmpty || state.opened then []
        else [.beginPartition c.expectedPart]) = SinkCall.written c.calls := by
      rw [SinkCall.written_append]
      split <;> exact List.append_nil _
    generalize hcalls : (c.calls ++ if state.batches.isEmpty || state.opened then []
      else [.beginPartition c.expectedPart]) = begun at hopened hbegun
    by_cases hwrite : (run.writeBatches state.batches begun).1 = .ok
    · have hwritten := @writePartition_ok _ run
        { state with opened := state.opened || !state.batches.isEmpty } begun hwrite
      simp only [drainPartition, hopened, hwritten, ne_eq, not_true, if_false] at h ⊢
      cases hcompleted : state.completed with
      | false =>
        simp only [hcompleted, if_true, not_true] at h
      | true =>
        simp only [hcompleted, Bool.true_eq_false, if_false] at h ⊢
        have hend : (run.endPartition ⟨[], true, state.opened || !state.batches.isEmpty⟩
            (begun ++ state.batches.map .writeBatch)).1 ≠ .ok := by
          intro hend
          simp only [hend, not_true, if_false] at h
        have hbegan : (state.opened || !state.batches.isEmpty) = true := by
          by_contra hnever
          have hquiet : run.endPartition ⟨[], true, state.opened || !state.batches.isEmpty⟩
              (begun ++ state.batches.map .writeBatch) = (.ok, _) := if_neg hnever
          exact hend (congrArg Prod.fst hquiet)
        simp only [hend, not_false_iff, if_true]
        refine ⟨_, _, rfl, trivial, Or.inr ⟨rfl, hbegan⟩, state.batches, List.prefix_refl _, ?_⟩
        rw [endPartition_calls, SinkCall.written_append, SinkCall.written_append,
          SinkCall.written_map, hbegun]
        split <;> exact List.append_nil _
    · obtain ⟨wrote, batch, rest, hbatches, hresult⟩ := writeBatches_failed hwrite
      have hwritten : (run.writePartition { state with
          opened := state.opened || !state.batches.isEmpty } begun).1 ≠ .ok := hwrite
      simp only [drainPartition, hopened, ne_eq, not_true, if_false, hwritten, not_false_iff,
        if_true]
      refine ⟨_, _, rfl, trivial, Or.inl ?_, wrote ++ [batch], ⟨rest, ?_⟩, ?_⟩
      · simp only [writePartition, hresult]
        exact List.cons_ne_nil _ _
      · rw [hbatches, List.append_assoc]
        rfl
      · simp only [writePartition, hresult]
        rw [SinkCall.written_append, SinkCall.written_map, hbegun]
  · obtain ⟨hresult, hbatches⟩ := openPartition_failed hopen
    simp only [drainPartition, ne_eq, hopen, not_false_iff, if_true, hresult]
    refine ⟨state, _, rfl, trivial, Or.inl hbatches, [], List.nil_prefix, ?_⟩
    rw [SinkCall.written_append]
    rfl

lemma Conserved.drainPartition_failed (h : run.Conserved popped c done)
    (hstate : c.states c.expectedPart = some state) (hpart : c.expectedPart ≤ run.partCount)
    (hfailed : (run.drainPartition state c).1 ≠ .ok) :
    run.WrittenOnce popped (run.drainPartition state c).2.2.calls ∧
      run.Stuck (run.drainPartition state c).2.2 := by
  obtain ⟨state', calls', hresult, -, hstuck, wrote, hwrote, hcalls⟩ :=
    NativeMultiplexed.drainPartition_failed hfailed
  have hbatches := h.batches hstate
  rw [hresult]
  refine ⟨?_, hpart, state', Function.update_self _ _ _, hstuck⟩
  refine WrittenOnce.of_prefixes (Function.update done c.expectedPart (done c.expectedPart ++ wrote))
    ?_ fun part => ?_
  · rw [flatMap_update wrote h.lower hpart h.later, ← h.written]
    exact hcalls
  · by_cases hsame : part = c.expectedPart
    · subst hsame
      rw [Function.update_self, hbatches]
      exact (List.prefix_append_right_inj _).mpr hwrote
    · rw [Function.update_of_ne hsame]
      exact ⟨_, (h.received part).symm⟩

/-! ### Drains -/

/-- A drain writes everything that is ready, or fails and leaves the failed call to the next. -/
lemma Conserved.drainLoop {fuel : Nat} (h : run.Conserved popped c done)
    (hfuel : fuel + c.expectedPart = run.partCount + 1) :
    ((run.drainLoop fuel c).1 = .ok → run.Idle (run.drainLoop fuel c).2 ∧
        ∃ done, run.Conserved popped (run.drainLoop fuel c).2 done) ∧
      ((run.drainLoop fuel c).1 ≠ .ok →
        run.WrittenOnce popped (run.drainLoop fuel c).2.calls ∧ run.Stuck (run.drainLoop fuel c).2) := by
  induction fuel generalizing c done with
  | zero =>
    refine ⟨fun _ => ⟨fun hpart => ?_, done, h⟩, fun hne => absurd rfl hne⟩
    have hle : c.expectedPart ≤ run.partCount := hpart
    omega
  | succ fuel ih =>
    unfold NativeMultiplexed.drainLoop
    cases hstate : c.states c.expectedPart with
    | none =>
      refine ⟨fun _ => ⟨fun _ state hsome => ?_, done, h⟩, fun hne => absurd rfl hne⟩
      cases hstate.symm.trans hsome
    | some state =>
      simp only
      by_cases hnext : (run.drainPartition state c).2.1 = true
      · obtain ⟨hturn, hexpected⟩ := drainPartition_next hnext
        obtain ⟨done', h'⟩ := h.drainPartition hstate (by omega) hturn
        rw [if_pos hnext]
        exact ih h' (by omega)
      · rw [if_neg hnext]
        refine ⟨fun hok => ⟨fun _ state' hsome => ?_, h.drainPartition hstate (by omega) hok⟩,
          fun hne => h.drainPartition_failed hstate (by omega) hne⟩
        have hturn := drainPartition_ok hok
        cases hcompleted : state.completed with
        | true =>
          rw [hcompleted, if_pos rfl] at hturn
          rw [hturn] at hnext
          exact absurd rfl hnext
        | false =>
          rw [hcompleted, if_neg Bool.false_ne_true] at hturn
          simp only [hturn] at hsome
          have hkept : Function.update c.states c.expectedPart
              (some ⟨[], false, state.opened || !state.batches.isEmpty⟩) c.expectedPart =
                some state' := hsome
          rw [Function.update_self] at hkept
          cases hkept
          exact ⟨rfl, rfl⟩

/-- Where nothing can be written, the drain makes no call. -/
lemma Idle.drain (h : run.Idle c) : run.drainReadyPartitions c = (.ok, c) := by
  unfold drainReadyPartitions
  cases hfuel : run.partCount + 1 - c.expectedPart with
  | zero => rfl
  | succ fuel =>
    unfold NativeMultiplexed.drainLoop
    cases hstate : c.states c.expectedPart with
    | none => rfl
    | some state =>
      obtain ⟨hbatches, hcompleted⟩ := h (by omega) state hstate
      obtain ⟨batches, completed, opened⟩ := state
      cases hbatches
      cases hcompleted
      have hsame : Function.update c.states c.expectedPart (some ⟨[], false, opened⟩) = c.states := by
        rw [← hstate, Function.update_eq_self]
      have hturn : run.drainPartition ⟨[], false, opened⟩ c = (.ok, false, c) := by
        simp only [NativeMultiplexed.drainPartition, openPartition, writePartition, writeBatches,
          List.isEmpty_nil, Bool.true_or, if_true, ne_eq, not_true, if_false, setState, hsame]
      simp only [hturn, Bool.false_eq_true, if_false]

variable (run) in
/-- A turn that can make a call makes one. -/
lemma drainPartition_calls
    (h : state.batches ≠ [] ∨ state.completed = true ∧ state.opened = true) :
    c.calls.length < (run.drainPartition state c).2.2.calls.length := by
  by_cases hok : (run.drainPartition state c).1 = .ok
  · rw [drainPartition_ok hok]
    rcases h with hbatches | ⟨hcompleted, hopened⟩
    · have hturn : 0 < (turnCalls c.expectedPart state).length := by
        rw [turnCalls, List.length_append, List.length_map]
        have hpositive := List.length_pos_of_ne_nil hbatches
        omega
      split
      · change _ < (c.calls ++ turnCalls c.expectedPart state ++ _).length
        rw [List.length_append, List.length_append]
        omega
      · change _ < (c.calls ++ turnCalls c.expectedPart state).length
        rw [List.length_append]
        omega
    · rw [if_pos hcompleted]
      change _ < (c.calls ++ turnCalls c.expectedPart state ++ _).length
      rw [hopened, Bool.true_or, if_pos rfl, List.length_append, List.length_append,
        List.length_singleton]
      omega
  · obtain ⟨more, -, -, ⟨h, -⟩ | ⟨last, -, -, -, hcalls⟩⟩ :=
      drainPartition_halts run c state
    · exact absurd h hok
    · rw [hcalls, List.length_append, List.length_append, List.length_singleton]
      omega

/-- A drain that starts from a failed call makes a call again. -/
lemma Stuck.drain (h : run.Stuck c) : ∃ d rest, d.forPart = true ∧
    (run.drainReadyPartitions c).2.calls = c.calls ++ d :: rest := by
  obtain ⟨hpart, state, hstate, hready⟩ := h
  obtain ⟨more, hmore, hparts, -⟩ := drainLoop_extends run c
    (run.partCount + 1 - c.expectedPart)
  have hlength : c.calls.length < (run.drainReadyPartitions c).2.calls.length := by
    have hturn := drainPartition_calls run (c := c) hready
    unfold drainReadyPartitions
    obtain ⟨fuel, hfuel⟩ : ∃ fuel, run.partCount + 1 - c.expectedPart = fuel + 1 :=
      ⟨run.partCount - c.expectedPart, by omega⟩
    rw [hfuel]
    unfold NativeMultiplexed.drainLoop
    simp only [hstate]
    split
    · obtain ⟨later, hlater, -, -⟩ := drainLoop_extends run (run.drainPartition state c).2.2 fuel
      rw [hlater, List.length_append]
      omega
    · exact hturn
  cases more with
  | nil =>
    rw [drainReadyPartitions, hmore, List.append_nil] at hlength
    exact absurd hlength (Nat.lt_irrefl _)
  | cons d rest => exact ⟨d, rest, hparts d List.mem_cons_self, hmore⟩

/-! ## Whole runs -/

variable {s t : MultiplexState β} {message : BatchMessage β}

/-- A run without a failed call, right after the first one, and at its end. -/
inductive Sound (run : NativeMultiplexed β) (s : MultiplexState β) : Prop
  | working (done : Nat → List β) (hnone : run.NoneFails s.consumer.calls)
      (hidle : run.Idle s.consumer) (hconserved : run.Conserved s.popped s.consumer done)
  | failed (before : List (SinkCall β)) (c : SinkCall β) (hcalls : s.consumer.calls = before ++ [c])
      (hnone : run.NoneFails before) (hfails : run.Fails before c)
      (honce : run.WrittenOnce s.popped s.consumer.calls) (hstuck : run.Stuck s.consumer)
      (hcollects : ConsumerPc.collects s.pc = true)
  | ended (hcollects : ConsumerPc.collects s.pc = false) (hnone : run.NoneFails s.consumer.calls)
      (honce : run.WrittenOnce s.popped s.consumer.calls)

lemma sound_initial : run.Sound run.initial := by
  refine .working (fun _ => []) trivial (fun _ _ hstate => nomatch hstate) ?_
  refine ⟨Nat.le_refl 1, Nat.le_add_left 1 _, fun _ => rfl, fun _ _ => rfl, ?_⟩
  exact (List.flatMap_eq_nil_iff.mpr fun _ _ => rfl).symm

lemma Sound.stops (h : run.Sound s) : run.Stops s := by
  cases h with
  | working done hnone hidle hconserved => exact ⟨quietAfter_of_accepted hnone, hconserved.once⟩
  | failed before c hcalls hnone hfails honce hstuck hcollects =>
    refine ⟨?_, honce⟩
    rw [StopsAtFailure, hcalls]
    exact quietAfter_concat hnone c
  | ended hcollects hnone honce => exact ⟨quietAfter_of_accepted hnone, honce⟩

/-- Steps that do not touch the calls and go on collecting. -/
lemma Sound.move (h : run.Sound s) (hconsumer : t.consumer = s.consumer)
    (hpopped : t.popped = s.popped)
    (hcollects : ConsumerPc.collects t.pc = ConsumerPc.collects s.pc) : run.Sound t := by
  cases h with
  | working done hnone hidle hconserved =>
    refine .working done ?_ ?_ ?_
    · rwa [hconsumer]
    · rwa [hconsumer]
    · rwa [hconsumer, hpopped]
  | failed before c hcalls hnone hfails honce hstuck hcollecting =>
    refine .failed before c ?_ hnone hfails ?_ ?_ (hcollects.trans hcollecting)
    · rwa [hconsumer]
    · rwa [hconsumer, hpopped]
    · rwa [hconsumer]
  | ended hcollecting hnone honce =>
    refine .ended (hcollects.trans hcollecting) ?_ ?_
    · rwa [hconsumer]
    · rwa [hconsumer, hpopped]

lemma not_noneFails {before : List (SinkCall β)} {c : SinkCall β} (hfails : run.Fails before c) :
    ¬ run.NoneFails (before ++ [c]) :=
  fun h => (accepted_concat.mp h).2 hfails

/-- While no call has failed and the consumer collects, it works. -/
lemma Sound.working_of (h : run.Sound s) (hcollects : ConsumerPc.collects s.pc = true)
    (hnone : run.NoneFails s.consumer.calls) :
    ∃ done, run.Idle s.consumer ∧ run.Conserved s.popped s.consumer done := by
  cases h with
  | working done _ hidle hconserved => exact ⟨done, hidle, hconserved⟩
  | failed before c hcalls _ hfails =>
    rw [hcalls] at hnone
    exact absurd hnone (not_noneFails hfails)
  | ended hended =>
    rw [hcollects] at hended
    cases hended

/-- The outcome of a drain of a working consumer, noted. -/
lemma sound_noteDrain (hconserved : run.Conserved s.popped c done)
    (hnone : run.NoneFails c.calls) :
    run.Sound (noteDrain s (run.drainReadyPartitions c)) := by
  have hupper := hconserved.upper
  obtain ⟨hok, hfailed⟩ := hconserved.drainLoop
    (show run.partCount + 1 - c.expectedPart + c.expectedPart = run.partCount + 1 by omega)
  have hhalts : run.Halts (run.drainReadyPartitions c).1 c.calls _ :=
    drainLoop_halts (run.partCount + 1 - c.expectedPart)
  unfold noteDrain
  cases houtcome : (run.drainReadyPartitions c).1 with
  | returned status =>
    rw [houtcome] at hhalts
    cases status with
    | ok =>
      obtain ⟨hidle, done, hdrained⟩ := hok houtcome
      exact .working done (hhalts.noneFails hnone (by simp)) hidle hdrained
    | error code message =>
      obtain ⟨honce, hstuck⟩ := hfailed (by
        rw [show (run.drainLoop _ c).1 = _ from houtcome]
        simp [Outcome.ok])
      obtain ⟨before, last, hcalls, hbefore, hfails⟩ := hhalts.fails hnone
      exact .failed before last hcalls hbefore hfails honce hstuck rfl
  | threw thrown =>
    rw [houtcome] at hhalts
    obtain ⟨honce, -⟩ := hfailed (by
      rw [show (run.drainLoop _ c).1 = _ from houtcome]
      simp [Outcome.ok])
    exact .ended rfl (hhalts.noneFails hnone (by simp)) honce

lemma handleMessage_drains (h : ∀ part error, message ≠ .error part error) :
    run.handleMessage s message =
      noteDrain s (run.drainReadyPartitions (NativeMultiplexed.keepMessage s.consumer message)) := by
  cases message with
  | error part error => exact absurd rfl (h part error)
  | batch part batch => rfl
  | endPartition part => rfl

lemma Sound.receive {queue : ClosingFifo (BatchMessage β)} (h : run.Sound s) (hpc : s.pc = .pop)
    (hguard : run.NoneFails s.consumer.calls ∨ ∃ part error, message = .error part error) :
    run.Sound (run.handleMessage { s with queue := queue, popped := s.popped ++ [message] } message) := by
  have hcollects : ConsumerPc.collects s.pc = true := by
    rw [hpc]
    rfl
  by_cases herror : ∃ part error, message = .error part error
  · obtain ⟨part, error, rfl⟩ := herror
    cases h with
    | working done hnone hidle hconserved =>
      exact .working done hnone hidle (hconserved.error part error _)
    | failed before c hcalls hnone hfails honce hstuck _ =>
      exact .failed before c hcalls hnone hfails (honce.error part error) hstuck rfl
    | ended hended =>
      rw [hcollects] at hended
      cases hended
  · have hnone := hguard.resolve_right herror
    have hdrains : ∀ part error, message ≠ .error part error :=
      fun part error heq => herror ⟨part, error, heq⟩
    obtain ⟨done, -, hconserved⟩ := h.working_of hcollects hnone
    rw [handleMessage_drains hdrains]
    exact sound_noteDrain (hconserved.keepMessage hdrains) hnone

lemma closeSink_makes (c : Consumer β) : (run.closeSink c).2.calls = c.calls ++ [.close] := by
  simp only [closeSink]
  split
  · simp only [failUnless_calls]
  · exact congrArg (· ++ [SinkCall.close]) (failUnless_calls _ _ _)

lemma not_fails_close (before : List (SinkCall β)) : ¬ run.Fails before .close :=
  fun hfails => nomatch hfails.1

lemma Sound.finished {failed : Bool} (h : run.Sound s) (hpc : s.pc = .join)
    (hnone : run.NoneFails s.consumer.calls) :
    run.Sound { s with
      pc := (run.finish failed s.consumer).1, consumer := (run.finish failed s.consumer).2 } := by
  obtain ⟨done, hidle, hconserved⟩ := h.working_of (by rw [hpc]; rfl) hnone
  have hkept : run.Idle (failUnless (!failed) s.consumer "Partition producer returned error") := by
    cases failed <;> exact hidle
  have hfinish : run.finish failed s.consumer = run.closeSink (failUnless true
      (failUnless (!failed) s.consumer "Partition producer returned error") "OK") := by
    simp only [finish, hkept.drain]
    rfl
  have hcalls : (run.finish failed s.consumer).2.calls = s.consumer.calls ++ [.close] := by
    rw [hfinish, closeSink_makes, failUnless_calls, failUnless_calls]
  refine .ended (finish_collects failed s.consumer) ?_ ?_
  · rw [hcalls]
    exact accepted_concat.mpr ⟨hnone, not_fails_close _⟩
  · obtain ⟨taken, htaken⟩ := hconserved.once
    refine ⟨taken, ?_⟩
    rw [hcalls, SinkCall.written_append]
    exact (List.append_nil _).trans htaken

lemma sound_step {action : MultiplexAction} (h : run.Sound s) (hguard : run.DrainsUnfailed s action)
    (hstep : run.step s action = some t) : run.Sound t := by
  cases action with
  | consumer keep =>
    cases consumerMoves hstep with
    | receive message queue hpc hpop =>
      refine h.receive hpc (hguard.imp_right fun hquiet => ?_)
      by_contra herror
      exact hquiet (Or.inl ⟨hpc, message, queue, hpop,
        fun part error heq => herror ⟨part, error, heq⟩⟩)
    | drained hpc => exact h.move rfl rfl (by rw [hpc]; rfl)
    | stop hpc => exact h.move rfl rfl (by rw [hpc]; rfl)
    | close hpc => exact h.move rfl rfl (by rw [hpc]; rfl)
    | finish hpc =>
      exact h.finished hpc (hguard.resolve_right fun hquiet => hquiet (Or.inr hpc))
  | producer part keep =>
    simp only [step] at hstep
    split at hstep
    · obtain ⟨hconsumer, hpc, hpopped⟩ := producerStep_frame hstep
      exact h.move hconsumer hpopped (by rw [hpc])
    · cases hstep

/-! ### After a failure -/

lemma Stuck.keepMessage (h : run.Stuck c) (message : BatchMessage β) :
    run.Stuck (NativeMultiplexed.keepMessage c message) := by
  obtain ⟨hpart, state, hstate, hready⟩ := h
  refine ⟨hpart, ?_⟩
  by_cases hsame : c.expectedPart = message.part
  · refine ⟨_, (congrArg _ hsame).trans (Function.update_self _ _ _), ?_⟩
    rw [← hsame, hstate, Option.getD_some]
    cases message with
    | batch part batch => exact Or.inl (List.append_ne_nil_of_right_ne_nil _ (List.cons_ne_nil _ _))
    | endPartition part => exact hready.imp_right fun h => ⟨rfl, h.2⟩
    | error part error => exact hready.imp_right fun h => ⟨rfl, h.2⟩
  · exact ⟨state, (Function.update_of_ne hsame _ _).trans hstate, hready⟩

lemma noteDrain_calls (s : MultiplexState β) (drained : Outcome × Consumer β) :
    (noteDrain s drained).consumer.calls = drained.2.calls := by
  unfold noteDrain
  split <;> rfl

variable (run) in
lemma finish_makes (failed : Bool) (c : Consumer β) : ∃ last, (run.finish failed c).2.calls =
    (run.drainReadyPartitions
      (failUnless (!failed) c "Partition producer returned error")).2.calls ++ last := by
  simp only [finish]
  split
  · exact ⟨[.close], by rw [closeSink_makes, failUnless_calls]⟩
  · exact ⟨[], (List.append_nil _).symm⟩

/-- The drain after a failed call makes a call again. -/
lemma failed_drains {before : List (SinkCall β)} {c : SinkCall β} {action : MultiplexAction}
    (hcalls : s.consumer.calls = before ++ [c]) (hfails : run.Fails before c)
    (hstuck : run.Stuck s.consumer) (hdrains : Drains s action)
    (hstep : run.step s action = some t) : ¬ run.StopsAtFailure t.consumer.calls := by
  have hagain : ∀ d rest, d.forPart = true → t.consumer.calls = s.consumer.calls ++ d :: rest →
      ¬ run.StopsAtFailure t.consumer.calls := by
    intro d rest hpart hmade
    rw [hmade, hcalls]
    refine not_quietAfter hfails fun hclose => ?_
    rw [hclose] at hpart
    cases hpart
  cases action with
  | producer part keep => exact absurd hdrains id
  | consumer keep =>
    cases consumerMoves hstep with
    | receive message queue hpc hpop =>
      rcases hdrains with ⟨-, message', queue', hpop', hnoError⟩ | hjoin
      · rw [hpop] at hpop'
        cases hpop'
        obtain ⟨d, rest, hpart, hmade⟩ := (hstuck.keepMessage message).drain
        refine hagain d rest hpart ?_
        rw [handleMessage_drains hnoError, noteDrain_calls]
        exact hmade
      · rw [hpc] at hjoin
        cases hjoin
    | drained hpc hpop =>
      rcases hdrains with ⟨-, message', queue', hpop', -⟩ | hjoin
      · rw [hpop] at hpop'
        cases hpop'
      · rw [hpc] at hjoin
        cases hjoin
    | stop hpc => rcases hdrains with ⟨hpop, -⟩ | hjoin <;> simp [hpc] at *
    | close hpc => rcases hdrains with ⟨hpop, -⟩ | hjoin <;> simp [hpc] at *
    | finish hpc =>
      have hkept : run.Stuck (failUnless (!run.producersFailed s) s.consumer
          "Partition producer returned error") := by
        cases run.producersFailed s <;> exact hstuck
      obtain ⟨d, rest, hpart, hmade⟩ := hkept.drain
      obtain ⟨last, hlast⟩ := finish_makes run (run.producersFailed s) s.consumer
      refine hagain d (rest ++ last) hpart ?_
      rw [hlast, hmade, failUnless_calls, List.append_assoc, List.cons_append]

lemma sound_break {action : MultiplexAction} (h : run.Sound s)
    (hguard : ¬ run.DrainsUnfailed s action) (hstep : run.step s action = some t) :
    ¬ run.StopsAtFailure t.consumer.calls := by
  obtain ⟨hfailed, hdrains⟩ := not_or.mp hguard
  cases h with
  | working done hnone => exact absurd hnone hfailed
  | ended hcollects hnone => exact absurd hnone hfailed
  | failed before c hcalls hnone hfails honce hstuck hcollects =>
    exact failed_drains hcalls hfails hstuck (not_not.mp hdrains) hstep

/-! ### Runs that stop -/

lemma Extends.makes (h : run.Extends outcome calls calls') : ∃ more, calls' = calls ++ more := by
  obtain ⟨more, hcalls, -⟩ := h
  exact ⟨more, hcalls⟩

variable (run) in
lemma drain_makes (c : Consumer β) :
    ∃ more, (run.drainReadyPartitions c).2.calls = c.calls ++ more :=
  (drainLoop_extends run _ _).makes

lemma handleMessage_makes (s : MultiplexState β) (message : BatchMessage β) :
    ∃ more, (run.handleMessage s message).consumer.calls = s.consumer.calls ++ more := by
  by_cases herror : ∃ part error, message = .error part error
  · obtain ⟨part, error, rfl⟩ := herror
    exact ⟨[], (List.append_nil _).symm⟩
  · rw [handleMessage_drains fun part error heq => herror ⟨part, error, heq⟩, noteDrain_calls]
    exact drain_makes _ (NativeMultiplexed.keepMessage s.consumer message)

/-- The log of calls only grows. -/
lemma step_makes {action : MultiplexAction} (hstep : run.step s action = some t) :
    ∃ more, t.consumer.calls = s.consumer.calls ++ more := by
  cases action with
  | consumer keep =>
    cases consumerMoves hstep with
    | receive message queue hpc hpop => exact handleMessage_makes _ message
    | drained hpc => exact ⟨[], (List.append_nil _).symm⟩
    | stop hpc => exact ⟨[], (List.append_nil _).symm⟩
    | close hpc => exact ⟨[], (List.append_nil _).symm⟩
    | finish hpc =>
      obtain ⟨last, hlast⟩ := finish_makes run (run.producersFailed s) s.consumer
      obtain ⟨more, hmore⟩ := drain_makes run
        (failUnless (!run.producersFailed s) s.consumer "Partition producer returned error")
      refine ⟨more ++ last, ?_⟩
      rw [hlast, hmore, failUnless_calls, List.append_assoc]
  | producer part keep =>
    simp only [step] at hstep
    split at hstep
    · exact ⟨[], by rw [(producerStep_frame hstep).1, List.append_nil]⟩
    · cases hstep

/-- A state reached is sound, or a call was made again. -/
lemma sound_or_not_stops (h : Reachable run.step run.initial s) :
    run.Sound s ∨ ¬ run.StopsAtFailure s.consumer.calls := by
  refine Reachable.invariant
    (I := fun s => run.Sound s ∨ ¬ run.StopsAtFailure s.consumer.calls) (.inl sound_initial) ?_ h
  intro s action t hs hstep
  obtain ⟨more, hmore⟩ := step_makes hstep
  rcases hs with hsound | hagain
  · by_cases hguard : run.DrainsUnfailed s action
    · exact .inl (sound_step hsound hguard hstep)
    · exact .inr (sound_break hsound hguard hstep)
  · refine .inr fun hquiet => hagain ?_
    rw [hmore] at hquiet
    exact hquiet.of_append

/-- A run stops at its first failed call as long as no drain follows one. The drain after the joins
always does: a run that has ended stopped there if and only if no call failed. -/
theorem stops_iff {actions : List MultiplexAction}
    (hrun : exec run.step run.initial actions = some s) :
    ((∀ taken rest t, actions = taken ++ rest → exec run.step run.initial taken = some t →
        run.Stops t) ↔ Along run.step run.DrainsUnfailed run.initial actions) ∧
      (ConsumerPc.collects s.pc = false → (run.Stops s ↔ run.NoneFails s.consumer.calls)) := by
  constructor
  · exact along_iff_invariant (I := run.Sound) (fun s => Sound.stops)
      (fun s action t => sound_step)
      (fun s action t hsound hguard hstep hstops => sound_break hsound hguard hstep hstops.quiet)
      sound_initial hrun
  · intro hended
    rcases sound_or_not_stops ⟨actions, hrun⟩ with hsound | hagain
    · cases hsound with
      | working done hnone hidle hconserved =>
        exact iff_of_true ⟨quietAfter_of_accepted hnone, hconserved.once⟩ hnone
      | failed before c hcalls hnone hfails honce hstuck hcollects =>
        rw [hended] at hcollects
        cases hcollects
      | ended hcollects hnone honce => exact iff_of_true ⟨quietAfter_of_accepted hnone, honce⟩ hnone
    · exact iff_of_false (fun hstops => hagain hstops.quiet)
        fun hnone => hagain (quietAfter_of_accepted hnone)

def refusingSink : NativeMultiplexed Nat where
  tableName := "orders"
  partCount := 1
  generator := fun _ => ⟨.ready, [10], .finished⟩
  sink := fun _ c => if c = .writeBatch 10 then .returned (.error "IOError" "disk full") else .ok

/-- The producer ends before the first `Pop`, and everything stays in the queue. -/
def refusingSinkActions : List MultiplexAction :=
  List.replicate 9 (.producer 1 2) ++ List.replicate 8 (.consumer 2)

lemma refusingSink_exec : ∃ s, exec refusingSink.step refusingSink.initial refusingSinkActions = some s ∧
    s.pc = .returned 2 ∧ s.consumer.calls =
      [.beginPartition 1, .writeBatch 10, .writeBatch 10, .writeBatch 10, .close] := by
  have hexec : ((exec refusingSink.step refusingSink.initial refusingSinkActions).map
      fun s => (s.pc, s.consumer.calls)) = some (.returned 2,
        [.beginPartition 1, .writeBatch 10, .writeBatch 10, .writeBatch 10, .close]) := by decide
  obtain ⟨s, hs, hended⟩ := Option.map_eq_some_iff.mp hexec
  exact ⟨s, hs, congrArg Prod.fst hended, congrArg Prod.snd hended⟩

/-- The drain of the end message and the one after the joins write the batch again. -/
theorem refusingSink_writes_again : ∃ s, Reachable refusingSink.step refusingSink.initial s ∧
    s.pc = .returned 2 ∧ ¬ refusingSink.StopsAtFailure s.consumer.calls ∧
    SinkCall.written s.consumer.calls = [10, 10, 10] := by
  obtain ⟨s, hs, hpc, hcalls⟩ := refusingSink_exec
  refine ⟨s, ⟨_, hs⟩, hpc, ?_, by rw [hcalls]; rfl⟩
  have hfails : refusingSink.Fails [.beginPartition 1] (.writeBatch 10) :=
    ⟨rfl, "IOError", "disk full", rfl⟩
  rw [hcalls]
  exact not_quietAfter hfails (fun hclose : SinkCall.writeBatch 10 = .close => nomatch hclose)

theorem stops_iff_refusingSink : ∃ s,
    exec refusingSink.step refusingSink.initial refusingSinkActions = some s ∧
      ((∀ taken rest t, refusingSinkActions = taken ++ rest →
          exec refusingSink.step refusingSink.initial taken = some t → refusingSink.Stops t) ↔
        Along refusingSink.step refusingSink.DrainsUnfailed refusingSink.initial
          refusingSinkActions) ∧
      (refusingSink.Stops s ↔ refusingSink.NoneFails s.consumer.calls) := by
  obtain ⟨s, hs, hpc, -⟩ := refusingSink_exec
  exact ⟨s, hs, (stops_iff hs).1, (stops_iff hs).2 (by rw [hpc]; rfl)⟩

end NativeMultiplexed

end Schengen.Storage
