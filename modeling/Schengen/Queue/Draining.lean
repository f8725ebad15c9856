import Schengen.Queue.Fifo
import Mathlib.Data.Fintype.Basic
import Mathlib.Data.Fintype.Pi

/-!
# Draining after `Close`

`Pop` reads the sequence number of its slot first and `closed_` afterwards. When `Close`
is called only after every `Push` has returned, the queue hands out every accepted value
before the first `Pop` that returns false, exactly in the runs in which that `Pop` does
not read `closed_` over a slot that was published after its first read.
-/

namespace Schengen.Queue
open Library

variable {ι α : Type}

/-- The thread is inside `Push`. -/
def InPush : ProducerPc α → Prop
  | .idle | .exchangeClosed | .notifyAllNotEmpty | .notifyAllNotFull => False
  | _ => True

/-- The thread is inside `Close`. -/
def InClose : ProducerPc α → Prop
  | .exchangeClosed | .notifyAllNotEmpty | .notifyAllNotFull => True
  | _ => False

/-- The position of a push that has won it and not yet returned. -/
def reserved : ProducerPc α → Option Nat
  | .writeValue _ p | .storeSequence _ p | .notifyNotEmpty _ p => some p
  | _ => none

/-- `Close` is called after every `Push` has returned, and no `Push` is called after it. -/
def CloseAfterPushes (s : State ι α) : Action ι α → Prop
  | .push _ _ => s.closeCalled = false
  | .close _ | .consumerClose => ∀ i, ¬ InPush (s.producer i)
  | _ => True

/-- The first `Pop` that returns false does so while the slot it has tested is still not
readable. -/
def CleanEnd (n : Nat) (s : State ι α) : Action ι α → Prop
  | .consumer => s.consumer = .loadClosed → s.closed = true → s.drained = none →
      ¬ s.isCurrentSlotReadable n
  | _ => True

/-- Every value whose `Push` returned true was popped before the first `Pop` that
returned false. -/
def Drained (s : State ι α) : Prop :=
  ∀ vs, s.drained = some vs → ∀ p ∈ s.accepted, ∃ iv, s.won[p]? = some iv ∧ vs[p]? = some iv.2

/-- A position below `enqueuePos` belongs to a push that returned true or is about to. -/
structure AcceptInv (s : State ι α) : Prop where
  accepted_lt : ∀ p ∈ s.accepted, p < s.enqueuePos
  reserved_lt : ∀ i p, reserved (s.producer i) = some p → p < s.enqueuePos
  cover : ∀ p < s.enqueuePos, p ∈ s.accepted ∨ ∃ i, reserved (s.producer i) = some p

/-- Once `Close` is called nobody is inside `Push`. -/
structure CloseInv (s : State ι α) : Prop where
  quiet : s.closeCalled = true → ∀ i, ¬ InPush (s.producer i)
  inClose : ∀ i, InClose (s.producer i) → s.closeCalled = true
  consumerInClose : s.consumer = .exchangeClosed → s.closeCalled = true
  closed : s.closed = true → s.closeCalled = true
  drained : s.drained ≠ none → s.closed = true

lemma not_inPush_reserved {pc : ProducerPc α} (h : ¬ InPush pc) : reserved pc = none := by
  cases pc <;> simp_all [InPush, reserved]

lemma not_inPush_claim {pc : ProducerPc α} (h : ¬ InPush pc) : claim pc = none := by
  cases pc <;> simp_all [InPush, claim]

namespace AcceptInv

variable {s t : State ι α}

lemma initial (v₀ : α) : AcceptInv (initial v₀ : State ι α) where
  accepted_lt p h := by simp [Queue.initial] at h
  reserved_lt i p h := by simp [Queue.initial, reserved] at h
  cover p h := by simp [Queue.initial] at h

lemma frameConsumer (h : AcceptInv s) (hsame : SameProducers s t) : AcceptInv t := by
  refine ⟨?_, ?_, ?_⟩
  · rw [hsame.accepted, hsame.enqueuePos]; exact h.accepted_lt
  · rw [hsame.producer, hsame.enqueuePos]; exact h.reserved_lt
  · rw [hsame.producer, hsame.accepted, hsame.enqueuePos]; exact h.cover

variable [DecidableEq ι]

lemma frame (h : AcceptInv s) (i : ι) {pc : ProducerPc α}
    (hprod : t.producer = Function.update s.producer i pc)
    (hacc : t.accepted = s.accepted) (henq : t.enqueuePos = s.enqueuePos)
    (hres : reserved pc = reserved (s.producer i)) : AcceptInv t := by
  have hsame : ∀ j, reserved (t.producer j) = reserved (s.producer j) := by
    intro j
    rw [hprod]
    by_cases hj : j = i
    · subst hj
      simp [hres]
    · simp [hj]
  refine ⟨?_, ?_, ?_⟩
  · rw [hacc, henq]; exact h.accepted_lt
  · simp only [hsame, henq]; exact h.reserved_lt
  · simp only [hsame, hacc, henq]; exact h.cover

lemma win (h : AcceptInv s) {i : ι} {v : α} (hpc : reserved (s.producer i) = none) :
    AcceptInv (({ s with enqueuePos := s.enqueuePos + 1 }.recordWin i v s.enqueuePos).goto i
      (.writeValue v s.enqueuePos)) := by
  have hres : ∀ j p, reserved (s.producer j) = some p →
      reserved (Function.update s.producer i (.writeValue v s.enqueuePos) j) = some p := by
    intro j p hj
    have hji : j ≠ i := by
      rintro rfl
      rw [hpc] at hj
      cases hj
    rw [Function.update_of_ne hji]
    exact hj
  refine ⟨?_, ?_, ?_⟩
  · intro p hp
    have := h.accepted_lt p hp
    change p < s.enqueuePos + 1
    omega
  · intro j p hj
    change reserved (Function.update s.producer i (.writeValue v s.enqueuePos) j) = some p at hj
    change p < s.enqueuePos + 1
    by_cases hji : j = i
    · subst hji
      obtain rfl : s.enqueuePos = p := by simpa [reserved] using hj
      omega
    · rw [Function.update_of_ne hji] at hj
      have := h.reserved_lt j p hj
      omega
  · intro p hp
    change p < s.enqueuePos + 1 at hp
    change p ∈ s.accepted ∨
      ∃ j, reserved (Function.update s.producer i (.writeValue v s.enqueuePos) j) = some p
    by_cases hpe : p = s.enqueuePos
    · exact Or.inr ⟨i, by simp [hpe, reserved]⟩
    · rcases h.cover p (by omega) with hacc | ⟨j, hj⟩
      · exact Or.inl hacc
      · exact Or.inr ⟨j, hres j p hj⟩

lemma accept (h : AcceptInv s) {i : ι} {p : Nat} (hpc : reserved (s.producer i) = some p) :
    AcceptInv ({ s with notEmptyWaiting := false, accepted := p :: s.accepted }.goto i .idle) := by
  refine ⟨?_, ?_, ?_⟩
  · intro q hq
    rcases List.mem_cons.mp hq with rfl | hq
    · exact h.reserved_lt i q hpc
    · exact h.accepted_lt q hq
  · intro j q hj
    change reserved (Function.update s.producer i .idle j) = some q at hj
    by_cases hji : j = i
    · subst hji
      simp [reserved] at hj
    · rw [Function.update_of_ne hji] at hj
      exact h.reserved_lt j q hj
  · intro q hq
    change q ∈ p :: s.accepted ∨ ∃ j, reserved (Function.update s.producer i .idle j) = some q
    rcases h.cover q hq with hacc | ⟨j, hj⟩
    · exact Or.inl (List.mem_cons_of_mem _ hacc)
    · by_cases hji : j = i
      · subst hji
        rw [hpc] at hj
        cases hj
        exact Or.inl List.mem_cons_self
      · exact Or.inr ⟨j, by rwa [Function.update_of_ne hji]⟩

theorem step {n : Nat} (h : AcceptInv s) {a : Action ι α} (hs : Queue.step n s a = some t) :
    AcceptInv t := by
  cases a with
  | push i v | close i | weakFail i =>
    simp only [Queue.step] at hs
    split at hs <;> cases hs
    rename_i hpc
    exact h.frame i rfl rfl rfl (by rw [hpc]; rfl)
  | pop | consumerClose | wake i | consumer =>
    exact h.frameConsumer (sameProducers_step hs trivial)
  | producer i =>
    cases hpc : s.producer i <;> simp only [Queue.step, producerStep, hpc] at hs
    case compareExchange v p =>
      split at hs <;> cases hs
      · rename_i henq
        subst henq
        exact h.win (by rw [hpc]; rfl)
      · exact h.frame i rfl rfl rfl (by rw [hpc]; rfl)
    case notifyNotEmpty v p =>
      cases hs
      exact h.accept (by rw [hpc]; rfl)
    all_goals try split at hs
    all_goals cases hs
    all_goals refine h.frame i rfl rfl rfl ?_
    all_goals rw [hpc]
    all_goals try split_ifs
    all_goals rfl

end AcceptInv

namespace CloseInv

variable {s t : State ι α}

lemma initial (v₀ : α) : CloseInv (initial v₀ : State ι α) where
  quiet h := by simp [Queue.initial] at h
  inClose i h := by simp [Queue.initial, InClose] at h
  consumerInClose h := by simp [Queue.initial] at h
  closed h := by simp [Queue.initial] at h
  drained h := by simp [Queue.initial] at h

lemma frameConsumer (h : CloseInv s) (hprod : t.producer = s.producer)
    (hcalled : t.closeCalled = s.closeCalled)
    (hcons : t.consumer = .exchangeClosed → s.closeCalled = true)
    (hclosed : t.closed = true → s.closed = true ∨ s.closeCalled = true)
    (hdrained : t.drained ≠ none → t.closed = true) : CloseInv t := by
  refine ⟨?_, ?_, ?_, ?_, hdrained⟩
  · rw [hprod, hcalled]; exact h.quiet
  · rw [hprod, hcalled]; exact h.inClose
  · rw [hcalled]; exact hcons
  · intro ht
    rw [hcalled]
    rcases hclosed ht with hs | hs
    · exact h.closed hs
    · exact hs

variable [DecidableEq ι]

lemma frame (h : CloseInv s) (i : ι) {pc : ProducerPc α}
    (hprod : t.producer = Function.update s.producer i pc)
    (hcalled : t.closeCalled = s.closeCalled) (hcons : t.consumer = s.consumer)
    (hdrained : t.drained = s.drained) (hmono : s.closed = true → t.closed = true)
    (hclosed : t.closed = true → s.closed = true ∨ InClose (s.producer i))
    (hpush : InPush pc → InPush (s.producer i) ∨ s.closeCalled = false)
    (hclose : InClose pc → InClose (s.producer i)) : CloseInv t := by
  refine ⟨?_, ?_, ?_, ?_, ?_⟩
  · intro hc j
    rw [hcalled] at hc
    rw [hprod]
    by_cases hji : j = i
    · subst hji
      rw [Function.update_self]
      intro hpc
      rcases hpush hpc with hp | hp
      · exact h.quiet hc j hp
      · rw [hc] at hp
        cases hp
    · rw [Function.update_of_ne hji]
      exact h.quiet hc j
  · intro j hj
    rw [hcalled]
    rw [hprod] at hj
    by_cases hji : j = i
    · subst hji
      rw [Function.update_self] at hj
      exact h.inClose j (hclose hj)
    · rw [Function.update_of_ne hji] at hj
      exact h.inClose j hj
  · rw [hcons, hcalled]; exact h.consumerInClose
  · intro ht
    rw [hcalled]
    rcases hclosed ht with hs | hs
    · exact h.closed hs
    · exact h.inClose i hs
  · rw [hdrained]
    exact fun hd => hmono (h.drained hd)

lemma close (h : CloseInv s) (i : ι) (hquiet : ∀ j, ¬ InPush (s.producer j)) :
    CloseInv ({ s with closeCalled := true }.goto i .exchangeClosed) := by
  refine ⟨?_, fun _ _ => rfl, fun _ => rfl, fun _ => rfl, h.drained⟩
  intro _ j
  change ¬ InPush (Function.update s.producer i .exchangeClosed j)
  by_cases hji : j = i
  · subst hji
    simp [InPush]
  · rw [Function.update_of_ne hji]
    exact hquiet j

theorem step {n : Nat} (h : CloseInv s) {a : Action ι α} (hguard : CloseAfterPushes s a)
    (hs : Queue.step n s a = some t) : CloseInv t := by
  cases a with
  | push i v =>
    simp only [Queue.step] at hs
    split at hs <;> cases hs
    exact h.frame i rfl rfl rfl rfl id Or.inl (fun _ => Or.inr hguard) (by simp [InClose])
  | close i =>
    simp only [Queue.step] at hs
    split at hs <;> cases hs
    exact h.close i hguard
  | weakFail i =>
    simp only [Queue.step] at hs
    split at hs <;> cases hs
    rename_i hpc
    exact h.frame i rfl rfl rfl rfl id Or.inl (by simp [hpc, InPush]) (by simp [InClose])
  | pop =>
    simp only [Queue.step] at hs
    split at hs <;> cases hs
    exact h.frameConsumer rfl rfl (by simp [State.consumerGoto]) Or.inl h.drained
  | consumerClose =>
    simp only [Queue.step] at hs
    split at hs <;> cases hs
    exact ⟨fun _ => hguard, fun _ _ => rfl, fun _ => rfl, fun _ => rfl, h.drained⟩
  | wake i =>
    simp only [Queue.step] at hs
    split at hs
    · split at hs <;> cases hs
      exact h.frameConsumer rfl rfl (by simp [State.consumerGoto]) Or.inl h.drained
    · cases hs
  | consumer =>
    cases hpc : s.consumer <;> simp only [Queue.step, consumerStep, hpc] at hs
    case exchangeClosed =>
      cases hs
      have hcalled := h.consumerInClose hpc
      exact h.frameConsumer rfl rfl (fun _ => hcalled) (fun _ => Or.inr hcalled) (fun _ => rfl)
    case loadClosed =>
      split at hs <;> cases hs
      · rename_i hclosed
        exact h.frameConsumer rfl rfl (by simp [State.consumerGoto]) Or.inl (fun _ => hclosed)
      · exact h.frameConsumer rfl rfl (by simp [State.consumerGoto]) Or.inl h.drained
    all_goals try split at hs
    all_goals cases hs
    all_goals refine h.frameConsumer rfl rfl ?_ Or.inl h.drained
    all_goals simp only [State.consumerGoto]
    all_goals try split_ifs
    all_goals simp
  | producer i =>
    cases hpc : s.producer i <;> simp only [Queue.step, producerStep, hpc] at hs
    case exchangeClosed =>
      cases hs
      refine h.frame i rfl rfl rfl rfl (fun _ => rfl) (fun _ => Or.inr (by simp [hpc, InClose])) ?_
        (by simp [hpc, InClose])
      split_ifs <;> simp [InPush]
    all_goals try split at hs
    all_goals cases hs
    all_goals refine h.frame i rfl rfl rfl rfl id Or.inl ?_ ?_
    all_goals try split_ifs
    all_goals simp [hpc, InPush, InClose]

end CloseInv

section Runs
variable {n : Nat} {s t : State ι α}

/-- What a step can do to the recorded pushes and to the end seen by the consumer. -/
structure HistoryStep (s t : State ι α) (a : Action ι α) : Prop where
  won : s.won <+: t.won
  accepted : s.accepted ⊆ t.accepted
  pushes : (t.won = s.won ∧ t.accepted = s.accepted) ∨
    (t.drained = s.drained ∧ ∃ i, InPush (s.producer i))
  drained : t.drained = s.drained ∨ (a = .consumer ∧ s.consumer = .loadClosed ∧
    s.closed = true ∧ t.drained = some (s.drained.getD s.popped))

lemma HistoryStep.same {a : Action ι α} (hwon : t.won = s.won) (hacc : t.accepted = s.accepted)
    (hdrained : t.drained = s.drained) : HistoryStep s t a :=
  ⟨hwon ▸ List.prefix_rfl, fun _ hp => hacc ▸ hp, Or.inl ⟨hwon, hacc⟩, Or.inl hdrained⟩

/-- The invariants of a queue whose `Close` comes after every `Push`. -/
structure DrainInv (n : Nat) (s : State ι α) : Prop where
  ring : RingInv n s
  accept : AcceptInv s
  close : CloseInv s

lemma DrainInv.initial (n : Nat) (v₀ : α) : DrainInv n (initial v₀ : State ι α) :=
  ⟨.initial n v₀, .initial v₀, .initial v₀⟩

/-- When everybody has left `Push`, exactly the won positions are accepted. -/
lemma DrainInv.accepted_iff (h : DrainInv n s) (hclosed : s.closed = true) (p : Nat) :
    p ∈ s.accepted ↔ p < s.enqueuePos := by
  refine ⟨h.accept.accepted_lt p, fun hp => ?_⟩
  rcases h.accept.cover p hp with hacc | ⟨i, hi⟩
  · exact hacc
  · rw [not_inPush_reserved (h.close.quiet (h.close.closed hclosed) i)] at hi
    cases hi

/-- Once closed, the current slot is readable exactly while a value is left. -/
lemma DrainInv.readable_iff (hn : 2 ≤ n) (h : DrainInv n s) (hclosed : s.closed = true) :
    s.isCurrentSlotReadable n ↔ s.dequeuePos < s.enqueuePos := by
  constructor
  · intro hr
    refine (h.ring.published_of_readable hn ?_).1
    simp only [State.isCurrentSlotReadable, sequenceDiff] at hr
    omega
  · intro hlt
    rcases h.ring.held s.dequeuePos le_rfl hlt with ⟨i, v, hc⟩ | ⟨hseq, _⟩
    · rw [not_inPush_claim (h.close.quiet (h.close.closed hclosed) i)] at hc
      cases hc
    · simp only [State.isCurrentSlotReadable, sequenceDiff]
      omega

/-- The `Pop` that returns false has returned everything before exactly if no slot is
readable then. -/
lemma DrainInv.drained_iff (hn : 2 ≤ n) (h : DrainInv n s) (hpc : s.consumer = .loadClosed)
    (hclosed : s.closed = true) (hwon : t.won = s.won) (hacc : t.accepted = s.accepted)
    (hdrained : t.drained = some s.popped) :
    Drained t ↔ ¬ s.isCurrentSlotReadable n := by
  have hlen := h.ring.won_length
  have hpopped : s.popped = (s.won.map Prod.snd).take s.dequeuePos := by
    rw [h.ring.popped_eq]
    simp [takenCount, hpc]
  rw [h.readable_iff hn hclosed]
  constructor
  · intro hd hlt
    obtain ⟨iv, _, hget⟩ := hd _ hdrained s.dequeuePos (by rw [hacc, h.accepted_iff hclosed]; exact hlt)
    have := (List.getElem?_eq_some_iff.mp hget).1
    rw [hpopped, List.length_take] at this
    omega
  · intro hge vs hvs p hp
    rw [hdrained] at hvs
    cases hvs
    rw [hacc, h.accepted_iff hclosed] at hp
    obtain ⟨iv, hget⟩ : ∃ iv, s.won[p]? = some iv :=
      ⟨_, List.getElem?_eq_getElem (by omega)⟩
    refine ⟨iv, by rw [hwon]; exact hget, ?_⟩
    rw [hpopped, List.getElem?_take_of_lt (by omega), List.getElem?_map, hget]
    rfl

variable [DecidableEq ι]

lemma historyStep {a : Action ι α} (hs : step n s a = some t) : HistoryStep s t a := by
  cases a with
  | push i v | close i | weakFail i | pop | consumerClose =>
    simp only [step] at hs
    split at hs <;> cases hs
    exact .same rfl rfl rfl
  | wake i =>
    simp only [step] at hs
    split at hs
    · split at hs <;> cases hs
      exact .same rfl rfl rfl
    · cases hs
  | consumer =>
    cases hpc : s.consumer <;> simp only [step, consumerStep, hpc] at hs
    case loadClosed =>
      split at hs <;> cases hs
      · rename_i hclosed
        exact ⟨List.prefix_rfl, fun _ hp => hp, Or.inl ⟨rfl, rfl⟩, Or.inr ⟨rfl, hpc, hclosed, rfl⟩⟩
      · exact .same rfl rfl rfl
    all_goals try split at hs
    all_goals cases hs
    all_goals exact .same rfl rfl rfl
  | producer i =>
    cases hpc : s.producer i <;> simp only [step, producerStep, hpc] at hs
    case compareExchange v p =>
      split at hs <;> cases hs
      · exact ⟨List.prefix_append _ _, fun _ hp => hp, Or.inr ⟨rfl, i, by simp [hpc, InPush]⟩,
          Or.inl rfl⟩
      · exact .same rfl rfl rfl
    case notifyNotEmpty v p =>
      cases hs
      exact ⟨List.prefix_rfl, fun _ hp => List.mem_cons_of_mem _ hp,
        Or.inr ⟨rfl, i, by simp [hpc, InPush]⟩, Or.inl rfl⟩
    all_goals try split at hs
    all_goals cases hs
    all_goals exact .same rfl rfl rfl

lemma DrainInv.step (hn : 2 ≤ n) (h : DrainInv n s) {a : Action ι α}
    (hguard : CloseAfterPushes s a) (hs : Queue.step n s a = some t) : DrainInv n t :=
  ⟨h.ring.step hn hs, h.accept.step hs, h.close.step hguard hs⟩

/-- A state that has lost a value stays so. -/
lemma Drained.of_step (h : DrainInv n s) {a : Action ι α} (hs : step n s a = some t)
    (ht : Drained t) : Drained s := by
  have hist := historyStep hs
  intro vs hvs p hp
  have hlt : p < s.won.length := by
    rw [h.ring.won_length]
    exact h.accept.accepted_lt p hp
  have hkeep : t.drained = some vs := by
    rcases hist.drained with hd | ⟨_, _, _, hd⟩
    · rw [hd, hvs]
    · rw [hd, hvs]
      rfl
  obtain ⟨iv, hwon, hget⟩ := ht vs hkeep p (hist.accepted hp)
  obtain ⟨rest, hrest⟩ := hist.won
  rw [← hrest, List.getElem?_append_left hlt] at hwon
  exact ⟨iv, hwon, hget⟩

lemma Drained.of_run (hn : 2 ≤ n) {as : List (Action ι α)} (h : DrainInv n s)
    (hguard : Along (step n) CloseAfterPushes s as) (hrun : exec (step n) s as = some t)
    (ht : Drained t) : Drained s := by
  induction as generalizing s with
  | nil =>
    cases hrun
    exact ht
  | cons a as ih =>
    obtain ⟨u, hu, hrun⟩ := Option.bind_eq_some_iff.mp hrun
    exact Drained.of_step h hu (ih (h.step hn hguard.1 hu) (hguard.2 u hu) hrun)

/-- One step keeps what the queue owes exactly if it is a clean one. -/
lemma Drained.step_iff (hn : 2 ≤ n) (h : DrainInv n s) (hd : Drained s) {a : Action ι α}
    (hs : step n s a = some t) : Drained t ↔ CleanEnd n s a := by
  have hist := historyStep hs
  have hquiet : ∀ vs, s.drained = some vs → t.won = s.won ∧ t.accepted = s.accepted := by
    intro vs hvs
    rcases hist.pushes with hsame | ⟨_, i, hi⟩
    · exact hsame
    · have hclosed := h.close.drained (by rw [hvs]; simp)
      exact absurd hi (h.close.quiet (h.close.closed hclosed) i)
  have hsame : t.drained = s.drained → Drained t := by
    intro heq vs hvs p hp
    rw [heq] at hvs
    obtain ⟨hwon, hacc⟩ := hquiet vs hvs
    rw [hacc] at hp
    rw [hwon]
    exact hd vs hvs p hp
  rcases hist.drained with heq | ⟨rfl, hpc, hclosed, heq⟩
  · refine ⟨fun _ => ?_, fun _ => hsame heq⟩
    cases a with
    | consumer =>
      intro hpc hclosed hnone
      simp only [step, consumerStep, hpc, hclosed, if_true, Option.some.injEq] at hs
      subst hs
      rw [hnone] at heq
      cases heq
    | _ => trivial
  · cases hnone : s.drained with
    | some vs =>
      refine ⟨fun _ _ _ hn => ?_, fun _ => hsame (by rw [heq, hnone]; rfl)⟩
      rw [hnone] at hn
      cases hn
    | none =>
      rw [hnone] at heq
      have hpush : t.won = s.won ∧ t.accepted = s.accepted := by
        rcases hist.pushes with hsame | ⟨hd', _⟩
        · exact hsame
        · rw [heq, hnone] at hd'
          cases hd'
      rw [h.drained_iff hn hpc hclosed hpush.1 hpush.2 heq]
      exact ⟨fun hr _ _ _ => hr, fun hc => hc hpc hclosed hnone⟩

lemma drained_iff_cleanEnd (hn : 2 ≤ n) {as : List (Action ι α)} (h : DrainInv n s)
    (hd : Drained s) (hguard : Along (step n) CloseAfterPushes s as)
    (hrun : exec (step n) s as = some t) : Drained t ↔ Along (step n) (CleanEnd n) s as := by
  induction as generalizing s with
  | nil =>
    cases hrun
    exact ⟨fun _ => trivial, fun _ => hd⟩
  | cons a as ih =>
    obtain ⟨u, hu, hrun⟩ := Option.bind_eq_some_iff.mp hrun
    have hu' := h.step hn hguard.1 hu
    have hstep := Drained.step_iff hn h hd hu
    constructor
    · intro ht
      have hdu := Drained.of_run hn hu' (hguard.2 u hu) hrun ht
      refine ⟨hstep.mp hdu, fun v hv => ?_⟩
      cases hu.symm.trans hv
      exact (ih hu' hdu (hguard.2 u hu) hrun).mp ht
    · rintro ⟨ha, hrest⟩
      exact (ih hu' (hstep.mpr ha) (hguard.2 u hu) hrun).mpr (hrest u hu)

/-- Under every interleaving in which `Close` comes after the pushes: no accepted value is
lost if and only if the `Pop` that ends the run reads `closed_` over an unreadable slot. -/
theorem drains_before_end_iff (hn : 2 ≤ n) (v₀ : α) (as : List (Action ι α)) (s : State ι α)
    (hguard : Along (step n) CloseAfterPushes (initial v₀) as)
    (hrun : exec (step n) (initial v₀) as = some s) :
    Drained s ↔ Along (step n) (CleanEnd n) (initial v₀) as :=
  drained_iff_cleanEnd hn (.initial n v₀) (by simp [Drained, Queue.initial]) hguard hrun

end Runs

instance (pc : ProducerPc α) : Decidable (InPush pc) :=
  decidable_of_iff ((trying pc).isSome ∨ (reserved pc).isSome) (by
    cases pc <;> simp [InPush, trying, reserved])

instance [Fintype ι] (s : State ι α) (a : Action ι α) : Decidable (CloseAfterPushes s a) :=
  match a with
  | .push _ _ => inferInstanceAs (Decidable (s.closeCalled = false))
  | .close _ | .consumerClose => inferInstanceAs (Decidable (∀ i, ¬ InPush (s.producer i)))
  | .pop | .producer _ | .weakFail _ | .consumer | .wake _ => inferInstanceAs (Decidable True)

instance (n : Nat) (s : State ι α) (a : Action ι α) : Decidable (CleanEnd n s a) :=
  match a with
  | .consumer => inferInstanceAs (Decidable (s.consumer = .loadClosed → s.closed = true →
      s.drained = none → ¬ s.isCurrentSlotReadable n))
  | .push _ _ | .close _ | .pop | .consumerClose | .producer _ | .weakFail _ | .wake _ =>
    inferInstanceAs (Decidable True)

/-- The consumer finds its slot unreadable, then a whole `Push` and the store of `Close`
happen, then the consumer reads `closed_`. -/
def lateClose : List (Action Unit Nat) :=
  [.pop, .consumer] ++ soloPush () 7 ++ [.close (), .producer (), .consumer]

/-- The producer pushes and closes before the consumer pops twice. -/
def earlyClose : List (Action Unit Nat) :=
  soloPush () 7 ++ [.close (), .producer (), .pop, .consumer, .consumer, .consumer, .consumer,
    .pop, .consumer, .consumer]

theorem lateClose_loses_value :
    ∃ s, exec (step 2) (initial 0) lateClose = some s ∧
      Along (step 2) CloseAfterPushes (initial 0) lateClose ∧ s.accepted = [0] ∧
      s.won = [((), 7)] ∧ s.drained = some [] ∧ ¬ Drained s := by
  refine ⟨_, rfl, by decide, rfl, rfl, rfl, ?_⟩
  intro h
  obtain ⟨iv, _, hget⟩ := h [] rfl 0 (by decide)
  cases hget

theorem earlyClose_drains :
    ∃ s, exec (step 2) (initial 0) earlyClose = some s ∧ s.drained = some [7] ∧ Drained s :=
  ⟨_, rfl, rfl, (drains_before_end_iff (n := 2) le_rfl 0 earlyClose _ (by decide) rfl).mpr
    (by decide)⟩

end Schengen.Queue
