import Schengen.Storage.MultiplexedOrder

/-!
# The calls on the sink

Every run that returns has made calls for the parts only and then closed the sink once. Where it
returns 0, each of these calls was answered with OK.
-/

namespace Schengen.Storage
open Library

variable {β : Type}

/-- The calls between the opening and the closing. -/
def SinkCall.forPart : SinkCall β → Bool
  | openTable => false
  | close => false
  | _ => true

namespace NativeMultiplexed

variable (run : NativeMultiplexed β)

/-- The sink answers each of the calls with OK, after those before it. -/
def Answered : List (SinkCall β) → List (SinkCall β) → Prop
  | _, [] => True
  | calls, c :: more => run.sink calls c = .ok ∧ Answered (calls ++ [c]) more

/-- Calls for parts were added, answered with OK where that is the outcome. -/
def Extends (outcome : Outcome) (calls calls' : List (SinkCall β)) : Prop :=
  ∃ more, calls' = calls ++ more ∧ (∀ c ∈ more, c.forPart = true) ∧
    (outcome = .ok → run.Answered calls more)

/-- Calls for parts were added; where the outcome is not OK it is the answer to the last of them,
and the others were answered with OK. -/
def Halts (outcome : Outcome) (calls calls' : List (SinkCall β)) : Prop :=
  ∃ more, (∀ c ∈ more, c.forPart = true) ∧ run.Answered calls more ∧
    ((outcome = .ok ∧ calls' = calls ++ more) ∨
      ∃ last, outcome ≠ .ok ∧ last.forPart = true ∧ run.sink (calls ++ more) last = outcome ∧
        calls' = calls ++ more ++ [last])

/-- What is known of the calls while the consumer collects, and once it has returned. -/
structure CallsInv (s : MultiplexState β) : Prop where
  forParts : ConsumerPc.collects s.pc = true → ∀ c ∈ s.consumer.calls, c.forPart = true
  answered : ConsumerPc.collects s.pc = true → s.consumer.pipelineError = "" →
    run.Answered [] s.consumer.calls
  returned : ∀ rc, s.pc = .returned rc → ∃ before, s.consumer.calls = before ++ [.close] ∧
    (∀ c ∈ before, c.forPart = true) ∧ (rc = 0 → run.Answered [] (before ++ [.close]))

variable {run} {part : Nat} {c : Consumer β} {state : PartitionState β}
  {calls calls' more last : List (SinkCall β)} {outcome : Outcome}

lemma answered_append : run.Answered calls (more ++ last) ↔
    run.Answered calls more ∧ run.Answered (calls ++ more) last := by
  induction more generalizing calls with
  | nil => simp [Answered]
  | cons c more ih => simp [Answered, ih, and_assoc]

/-! ## What one drain adds -/

lemma Halts.extends (h : run.Halts outcome calls calls') : run.Extends outcome calls calls' := by
  obtain ⟨more, hparts, hanswered, ⟨-, rfl⟩ | ⟨c, hfailed, hpart, -, rfl⟩⟩ := h
  · exact ⟨more, rfl, hparts, fun _ => hanswered⟩
  · refine ⟨more ++ [c], List.append_assoc _ _ _, fun d hd => ?_, fun hok => absurd hok hfailed⟩
    obtain hmore | hlast := List.mem_append.mp hd
    · exact hparts d hmore
    · exact (List.mem_singleton.mp hlast) ▸ hpart

lemma Halts.refl : run.Halts .ok calls calls :=
  ⟨[], fun _ h => absurd h List.not_mem_nil, trivial, Or.inl ⟨rfl, (List.append_nil calls).symm⟩⟩

lemma Halts.call {c : SinkCall β} (h : c.forPart = true) :
    run.Halts (run.sink calls c) calls (calls ++ [c]) := by
  by_cases hok : run.sink calls c = .ok
  · refine ⟨[c], fun _ hc => (List.mem_singleton.mp hc) ▸ h, ⟨hok, trivial⟩, Or.inl ⟨hok, rfl⟩⟩
  · refine ⟨[], fun _ hc => absurd hc List.not_mem_nil, trivial, Or.inr ⟨c, hok, h, ?_, ?_⟩⟩
    · rw [List.append_nil]
    · rw [List.append_nil]

lemma Halts.trans (h : run.Halts .ok calls calls') (h' : run.Halts outcome calls' last) :
    run.Halts outcome calls last := by
  obtain ⟨more, hparts, hanswered, ⟨-, rfl⟩ | ⟨c, hfailed, -⟩⟩ := h
  · obtain ⟨rest, hparts', hanswered', hlast⟩ := h'
    refine ⟨more ++ rest, fun c hc => ?_, answered_append.mpr ⟨hanswered, hanswered'⟩, ?_⟩
    · obtain hmore | hrest := List.mem_append.mp hc
      · exact hparts c hmore
      · exact hparts' c hrest
    · simpa only [List.append_assoc] using hlast
  · exact absurd rfl hfailed

lemma writeBatches_halts (batches : List β) :
    run.Halts (run.writeBatches batches calls).1 calls (run.writeBatches batches calls).2.2 := by
  induction batches generalizing calls with
  | nil => exact .refl
  | cons batch batches ih =>
    have hcall : run.Halts (run.sink calls (.writeBatch batch)) calls
        (calls ++ [.writeBatch batch]) := .call rfl
    simp only [writeBatches]
    by_cases hok : run.sink calls (.writeBatch batch) = .ok
    · rw [if_pos hok]
      rw [hok] at hcall
      exact hcall.trans ih
    · rw [if_neg hok]
      exact hcall

variable (state) in
lemma writePartition_halts :
    run.Halts (run.writePartition state calls).1 calls (run.writePartition state calls).2.2 :=
  writeBatches_halts state.batches

variable (part state) in
lemma openPartition_halts :
    run.Halts (run.openPartition part state calls).1 calls
      (run.openPartition part state calls).2.2 := by
  unfold openPartition
  split
  · exact .refl
  · exact .call rfl

variable (state) in
lemma endPartition_halts :
    run.Halts (run.endPartition state calls).1 calls (run.endPartition state calls).2 := by
  unfold endPartition
  split
  · exact .call rfl
  · exact .refl

variable (run state c) in
lemma drainPartition_halts :
    run.Halts (run.drainPartition state c).1 c.calls (run.drainPartition state c).2.2.calls := by
  have hopen : run.Halts _ c.calls _ := openPartition_halts c.expectedPart state
  simp only [drainPartition]
  by_cases hopened : (run.openPartition c.expectedPart state c.calls).1 = .ok
  · rw [if_neg (not_not.mpr hopened)]
    rw [hopened] at hopen
    have hwrite := hopen.trans (writePartition_halts
      (run.openPartition c.expectedPart state c.calls).2.1)
    by_cases hwritten : (run.writePartition (run.openPartition c.expectedPart state c.calls).2.1
        (run.openPartition c.expectedPart state c.calls).2.2).1 = .ok
    · rw [if_neg (not_not.mpr hwritten)]
      rw [hwritten] at hwrite
      split
      · exact hwrite
      · have hend := hwrite.trans (endPartition_halts
          (run.writePartition (run.openPartition c.expectedPart state c.calls).2.1
            (run.openPartition c.expectedPart state c.calls).2.2).2.1)
        split
        · exact hend
        · next hended =>
          rw [not_not.mp hended] at hend
          exact hend
    · rw [if_pos hwritten]
      exact hwrite
  · rw [if_pos hopened]
    exact hopen

lemma drainLoop_halts (fuel : Nat) :
    run.Halts (run.drainLoop fuel c).1 c.calls (run.drainLoop fuel c).2.calls := by
  induction fuel generalizing c with
  | zero => exact .refl
  | succ fuel ih =>
    unfold drainLoop
    cases c.states c.expectedPart with
    | none => exact .refl
    | some state =>
      have hturn := drainPartition_halts run c state
      simp only
      split
      · next hnext =>
        rw [(drainPartition_next hnext).1] at hturn
        exact hturn.trans ih
      · exact hturn

variable (run c) in
lemma drainLoop_extends (fuel : Nat) :
    run.Extends (run.drainLoop fuel c).1 c.calls (run.drainLoop fuel c).2.calls :=
  (drainLoop_halts fuel).extends

/-! ## Whole runs -/

variable {s t : MultiplexState β} {message : BatchMessage β} {rc : Int}

lemma callsInv_initial : run.CallsInv run.initial :=
  ⟨fun _ _ h => absurd h List.not_mem_nil, fun _ _ => trivial, fun _ h => nomatch h⟩

lemma CallsInv.extend (h : run.CallsInv s) (hcollects : ConsumerPc.collects s.pc = true)
    (hextends : run.Extends outcome s.consumer.calls calls) :
    (∀ c ∈ calls, c.forPart = true) ∧
      (s.consumer.pipelineError = "" → outcome = .ok → run.Answered [] calls) := by
  obtain ⟨more, rfl, hparts, hanswered⟩ := hextends
  refine ⟨fun c hc => ?_, fun hnone hok => ?_⟩
  · obtain hbefore | hmore := List.mem_append.mp hc
    · exact h.forParts hcollects c hbefore
    · exact hparts c hmore
  · exact answered_append.mpr ⟨h.answered hcollects hnone, hanswered hok⟩

lemma CallsInv.receive (h : run.CallsInv s) (hpc : s.pc = .pop) (message : BatchMessage β) :
    run.CallsInv (run.handleMessage s message) := by
  have hcollects : ConsumerPc.collects s.pc = true := by
    rw [hpc]
    rfl
  have hkept : run.CallsInv { s with consumer := keepMessage s.consumer message } :=
    ⟨h.forParts, h.answered, h.returned⟩
  have hdrain := hkept.extend hcollects
    (drainLoop_extends run _ (run.partCount + 1 - (keepMessage s.consumer message).expectedPart))
  have hnoted : run.CallsInv
      (noteDrain s (run.drainReadyPartitions (keepMessage s.consumer message))) := by
    have herror : (run.drainReadyPartitions (keepMessage s.consumer message)).2.pipelineError =
        s.consumer.pipelineError := drainLoop_pipelineError _
    unfold noteDrain
    split
    · next hok =>
      refine ⟨fun _ => hdrain.1, fun _ hnone => hdrain.2 (herror.symm.trans hnone) hok, ?_⟩
      intro rc hreturned
      cases hpc.symm.trans hreturned
    · exact ⟨fun _ => hdrain.1, fun _ hnone => absurd hnone (Status.toString_ne _),
        fun _ h => nomatch h⟩
    · exact ⟨fun h => (nomatch h), fun h => (nomatch h), fun _ h => nomatch h⟩
  cases message with
  | error part error =>
    exact ⟨fun _ => h.forParts hcollects,
      fun _ hnone => absurd hnone (fail_ne_empty (partitionFailed_ne_empty error)),
      fun _ h => nomatch h⟩
  | batch part batch => exact hnoted
  | endPartition part => exact hnoted

lemma failUnless_calls (cond : Bool) (c : Consumer β) (error : String) :
    (failUnless cond c error).calls = c.calls := by
  cases cond <;> rfl

/-- The sink is closed once, and a 0 says that closing it went well. -/
lemma closeSink_calls (h : (run.closeSink c).1 = .returned rc) :
    (run.closeSink c).2.calls = c.calls ++ [.close] ∧
      (rc = 0 → c.pipelineError = "" ∧ run.sink c.calls .close = .ok) := by
  have hcalls : (failUnless (decide (c.expectedPart = run.partCount + 1)) c
      "Not all partitions were written to the output file").calls = c.calls := failUnless_calls _ _ _
  refine ⟨?_, fun hrc => ?_⟩
  · simp only [closeSink] at h ⊢
    rw [hcalls] at h ⊢
    split at h
    · next hstatus =>
      simp only [failUnless_calls]
    · cases h
  · subst hrc
    obtain ⟨hnone, -, -⟩ := closeSink_zero h
    refine ⟨hnone, ?_⟩
    simp only [closeSink] at h
    rw [hcalls] at h
    cases hclose : run.sink c.calls .close with
    | threw thrown =>
      simp only [hclose] at h
      cases h
    | returned status =>
      simp only [hclose] at h
      cases status with
      | ok => rfl
      | error code message =>
        rw [if_neg] at h
        · cases h
        · exact fail_ne_empty (Status.toString_ne _)

lemma CallsInv.finished {failed : Bool} (h : run.CallsInv s) (hpc : s.pc = .join) :
    run.CallsInv { s with
      pc := (run.finish failed s.consumer).1, consumer := (run.finish failed s.consumer).2 } := by
  have hcollects : ConsumerPc.collects s.pc = true := by
    rw [hpc]
    rfl
  refine ⟨fun hnot => ?_, fun hnot => ?_, fun rc hreturned => ?_⟩
  · exact absurd hnot (by rw [finish_collects]; exact Bool.false_ne_true)
  · exact absurd hnot (by rw [finish_collects]; exact Bool.false_ne_true)
  · have hchecked : run.CallsInv { s with
        consumer := failUnless (!failed) s.consumer "Partition producer returned error" } := by
      refine ⟨fun _ => ?_, fun _ hnone => ?_, fun rc hreturned => ?_⟩
      · rw [failUnless_calls]
        exact h.forParts hcollects
      · rw [failUnless_calls]
        rw [(failUnless_empty (by decide) hnone).2] at hnone
        exact h.answered hcollects hnone
      · cases hpc.symm.trans hreturned
    have hdrain := hchecked.extend hcollects (drainLoop_extends run _ (run.partCount + 1 -
      (failUnless (!failed) s.consumer "Partition producer returned error").expectedPart))
    have hdrained : (run.drainReadyPartitions (failUnless (!failed) s.consumer
        "Partition producer returned error")).2.pipelineError = (failUnless (!failed) s.consumer
          "Partition producer returned error").pipelineError := drainLoop_pipelineError _
    simp only [finish] at hreturned ⊢
    split at hreturned
    · next status hstatus =>
      obtain ⟨hcalls, hzero⟩ := closeSink_calls hreturned
      rw [failUnless_calls] at hcalls
      refine ⟨_, hcalls, hdrain.1, fun hrc => ?_⟩
      obtain ⟨hnone, hclose⟩ := hzero hrc
      obtain ⟨hok, hsame⟩ := failUnless_empty (Status.toString_ne status) hnone
      rw [failUnless_calls] at hclose
      rw [hsame, hdrained] at hnone
      refine answered_append.mpr ⟨hdrain.2 hnone ?_, hclose, trivial⟩
      exact hstatus.trans (congrArg Outcome.returned (of_decide_eq_true hok))
    · cases hreturned

lemma callsInv_consumerStep {keep : Nat} (h : run.CallsInv s)
    (hstep : run.consumerStep keep s = some t) : run.CallsInv t := by
  have hcollects : ∀ pc, s.pc = pc → ConsumerPc.collects pc = true →
      ConsumerPc.collects s.pc = true := fun pc hpc hcollects => hpc ▸ hcollects
  cases consumerMoves hstep with
  | receive message queue hpc hpop =>
    have hpopped : run.CallsInv { s with queue := queue, popped := s.popped ++ [message] } :=
      ⟨h.forParts, h.answered, h.returned⟩
    exact hpopped.receive hpc message
  | drained hpc | stop hpc | close hpc =>
    exact ⟨fun _ => h.forParts (hcollects _ hpc rfl), fun _ => h.answered (hcollects _ hpc rfl),
      fun _ h => nomatch h⟩
  | finish hpc => exact h.finished hpc

lemma callsInv_step {action : MultiplexAction} (h : run.CallsInv s)
    (hstep : run.step s action = some t) : run.CallsInv t := by
  cases action with
  | consumer keep => exact callsInv_consumerStep h hstep
  | producer part keep =>
    simp only [step] at hstep
    split at hstep
    · obtain ⟨hconsumer, hpc, -⟩ := producerStep_frame hstep
      refine ⟨?_, ?_, ?_⟩
      · rw [hpc, hconsumer]
        exact h.forParts
      · rw [hpc, hconsumer]
        exact h.answered
      · rw [hpc, hconsumer]
        exact h.returned
    · cases hstep

theorem callsInv_reachable (h : Reachable run.step run.initial s) : run.CallsInv s :=
  h.invariant callsInv_initial fun _ _ _ hs hstep => callsInv_step hs hstep

end NativeMultiplexed

end Schengen.Storage
