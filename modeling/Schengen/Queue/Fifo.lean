import Schengen.Queue.RingInvariant

/-!
# First in, first out

From the ring invariant: values are popped in the order of the positions their pushes
won, every producer's pushes win increasing positions, and no slot is read or written
while it belongs to somebody else. All of this needs a capacity of at least two; with one
slot a published value and a free slot have the same sequence number.
-/

namespace Schengen.Queue
open Library

variable {ι α : Type}

/-- The value of a push that is still trying to win a position. -/
def trying : ProducerPc α → Option α
  | .loadClosed v | .loadEnqueuePos v | .loadSequence v _ | .compareExchange v _
  | .lockNotFull v | .testClosed v | .testEnqueuePos v | .testSequence v _
  | .block v | .blocked v | .unlockNotFull v => some v
  | _ => none

/-- The calls of every producer, in its program order, and the positions they won. -/
structure CallInv (s : State ι α) : Prop where
  pending : ∀ i v, trying (s.producer i) = some v → ∃ rest, s.calls i = (v, none) :: rest
  decreasing : ∀ i, ((s.calls i).filterMap Prod.snd).Pairwise (· > ·)
  mem_iff : ∀ i v p, (v, some p) ∈ s.calls i ↔ s.won[p]? = some (i, v)

/-- The pops so far return the values of the pushes in the order of the positions won.
`s.calls i` lists the pushes of producer `i` in its program order, latest first. -/
structure Fifo (n : Nat) (s : State ι α) : Prop where
  popped_prefix : s.popped <+: s.won.map Prod.snd
  won_length : s.won.length = s.enqueuePos
  call_order : ∀ i, ((s.calls i).filterMap Prod.snd).Pairwise (· > ·)
  won_iff_call : ∀ i v p, s.won[p]? = some (i, v) ↔ (v, some p) ∈ s.calls i
  not_read : ∀ i p v, claim (s.producer i) = some (p, v) → s.consumer = .takeValue →
    index n p ≠ index n s.dequeuePos

/-- Position `q` was won and its value is visible in the ring. -/
def Published (s : State ι α) (q : Nat) : Prop :=
  q < s.enqueuePos ∧ ∀ i v, claim (s.producer i) ≠ some (q, v)

/-- No more values than the capacity are in the queue, and a push writes no slot whose
published value is still to be popped. -/
structure Bounded (n : Nat) (s : State ι α) : Prop where
  length_le : s.won.length ≤ s.popped.length + n
  no_overwrite : ∀ i v p, s.producer i = .writeValue v p →
    ∀ q, Published s q → index n q = index n p → q < s.popped.length

namespace CallInv

variable {s t : State ι α}

lemma initial (v₀ : α) : CallInv (initial v₀ : State ι α) where
  pending i v h := by simp [Queue.initial, trying] at h
  decreasing i := List.Pairwise.nil
  mem_iff i v p := by simp [Queue.initial]

variable [DecidableEq ι]

lemma frame (h : CallInv s) (i : ι) {pc : ProducerPc α}
    (hprod : t.producer = Function.update s.producer i pc)
    (hcalls : t.calls = s.calls) (hwon : t.won = s.won)
    (hpc : ∀ v, trying pc = some v → trying (s.producer i) = some v) : CallInv t := by
  refine ⟨?_, ?_, ?_⟩
  · intro j v hj
    rw [hcalls]
    rw [hprod] at hj
    by_cases hji : j = i
    · subst hji
      rw [Function.update_self] at hj
      exact h.pending j v (hpc v hj)
    · rw [Function.update_of_ne hji] at hj
      exact h.pending j v hj
  · rw [hcalls]; exact h.decreasing
  · rw [hcalls, hwon]; exact h.mem_iff

omit [DecidableEq ι] in
lemma frameConsumer (h : CallInv s) (hsame : SameProducers s t) : CallInv t := by
  refine ⟨?_, ?_, ?_⟩
  · rw [hsame.producer, hsame.calls]; exact h.pending
  · rw [hsame.calls]; exact h.decreasing
  · rw [hsame.calls, hsame.won]; exact h.mem_iff

lemma push (h : CallInv s) (i : ι) (v : α) :
    CallInv ({ s with
      calls := Function.update s.calls i ((v, none) :: s.calls i)
      woken := Function.update s.woken i false }.goto i (.loadClosed v)) := by
  refine ⟨?_, ?_, ?_⟩
  · intro j w hj
    change trying (Function.update s.producer i (.loadClosed v) j) = some w at hj
    change ∃ rest, Function.update s.calls i ((v, none) :: s.calls i) j = (w, none) :: rest
    by_cases hji : j = i
    · subst hji
      obtain rfl : v = w := by simpa [trying] using hj
      exact ⟨s.calls j, by simp⟩
    · rw [Function.update_of_ne hji] at hj ⊢
      exact h.pending j w hj
  · intro j
    change ((Function.update s.calls i ((v, none) :: s.calls i) j).filterMap Prod.snd).Pairwise (· > ·)
    by_cases hji : j = i
    · subst hji
      simpa using h.decreasing j
    · rw [Function.update_of_ne hji]
      exact h.decreasing j
  · intro j w p
    change (w, some p) ∈ Function.update s.calls i ((v, none) :: s.calls i) j ↔
      s.won[p]? = some (j, w)
    by_cases hji : j = i
    · subst hji
      simpa using h.mem_iff j w p
    · rw [Function.update_of_ne hji]
      exact h.mem_iff j w p

lemma win (h : CallInv s) {i : ι} {v : α} (htry : trying (s.producer i) = some v)
    {pc : ProducerPc α} (hpc : trying pc = none) {e : Nat} :
    CallInv (({ s with enqueuePos := e }.recordWin i v s.won.length).goto i pc) := by
  obtain ⟨rest, hrest⟩ := h.pending i v htry
  have hbelow : ∀ w q, (w, some q) ∈ rest → q < s.won.length := by
    intro w q hq
    have hwon := (h.mem_iff i w q).mp (by rw [hrest]; exact List.mem_cons_of_mem _ hq)
    exact (List.getElem?_eq_some_iff.mp hwon).1
  have hdec := h.decreasing i
  rw [hrest] at hdec
  refine ⟨?_, ?_, ?_⟩
  · intro j w hj
    change trying (Function.update s.producer i pc j) = some w at hj
    change ∃ r, Function.update s.calls i ((v, some s.won.length) :: (s.calls i).tail) j = (w, none) :: r
    by_cases hji : j = i
    · subst hji
      rw [Function.update_self, hpc] at hj
      cases hj
    · rw [Function.update_of_ne hji] at hj ⊢
      exact h.pending j w hj
  · intro j
    change ((Function.update s.calls i ((v, some s.won.length) :: (s.calls i).tail) j).filterMap
      Prod.snd).Pairwise (· > ·)
    by_cases hji : j = i
    · subst hji
      rw [Function.update_self, hrest]
      simp only [List.tail_cons, List.filterMap_cons, List.pairwise_cons, List.mem_filterMap,
        Prod.exists, exists_eq_right]
      refine ⟨?_, by simpa using hdec⟩
      rintro q ⟨w, hq⟩
      exact hbelow w q hq
    · rw [Function.update_of_ne hji]
      exact h.decreasing j
  · intro j w q
    change (w, some q) ∈ Function.update s.calls i ((v, some s.won.length) :: (s.calls i).tail) j ↔
      (s.won ++ [(i, v)])[q]? = some (j, w)
    have hmem := h.mem_iff j w q
    by_cases hji : j = i
    · subst hji
      rw [hrest] at hmem
      rw [Function.update_self, hrest]
      rcases Nat.lt_trichotomy q s.won.length with hlt | heq | hgt
      · rw [List.getElem?_append_left hlt, ← hmem]
        simp [hlt.ne]
      · subst heq
        have hnot : (w, some s.won.length) ∉ rest := fun hq => absurd (hbelow w _ hq) (lt_irrefl _)
        simp [hnot, eq_comm]
      · have hnot : (w, some q) ∉ rest := fun hq => absurd (hbelow w _ hq) (by omega)
        have hlen : (s.won ++ [(j, v)]).length ≤ q := by
          simp only [List.length_append, List.length_singleton]
          omega
        simp [hnot, hgt.ne', List.getElem?_eq_none hlen]
    · rw [Function.update_of_ne hji, hmem]
      rcases Nat.lt_or_ge q s.won.length with hlt | hge
      · rw [List.getElem?_append_left hlt]
      · rw [List.getElem?_append_right hge, List.getElem?_eq_none hge]
        cases hq : q - s.won.length with
        | zero => simp [Ne.symm hji]
        | succ k => simp

theorem step {n : Nat} (hlen : s.won.length = s.enqueuePos) (h : CallInv s) {a : Action ι α}
    (hs : Queue.step n s a = some t) : CallInv t := by
  cases a with
  | push i v =>
    simp only [Queue.step] at hs
    split at hs <;> cases hs
    exact h.push i v
  | close i | weakFail i =>
    simp only [Queue.step] at hs
    split at hs <;> cases hs
    rename_i hpc
    exact h.frame i rfl rfl rfl (by simp [trying, hpc])
  | pop | consumerClose | wake i | consumer =>
    exact h.frameConsumer (sameProducers_step hs trivial)
  | producer i =>
    cases hpc : s.producer i <;> simp only [Queue.step, producerStep, hpc] at hs
    case compareExchange v p =>
      split at hs <;> cases hs
      · rename_i henq
        have hp : p = s.won.length := by omega
        subst hp
        exact h.win (by rw [hpc]; rfl) rfl
      · exact h.frame i rfl rfl rfl (by simp [trying, hpc])
    all_goals try split at hs
    all_goals cases hs
    all_goals refine h.frame i rfl rfl rfl ?_
    all_goals rw [hpc]
    all_goals try split_ifs
    all_goals simp [trying]

end CallInv

lemma RingInv.popped_prefix {n : Nat} {s : State ι α} (h : RingInv n s) :
    s.popped <+: s.won.map Prod.snd := by
  rw [h.popped_eq]
  exact List.take_prefix _ _

lemma RingInv.dequeuePos_le_popped {n : Nat} (hn : 2 ≤ n) {s : State ι α} (h : RingInv n s) :
    s.dequeuePos ≤ s.popped.length := by
  have htaken := h.takenCount_le hn
  have hlen := h.won_length
  have hle := h.pos_le
  rw [h.popped_eq, List.length_take, List.length_map]
  unfold takenCount at htaken ⊢
  split_ifs at htaken ⊢ <;> omega

section Runs
variable [DecidableEq ι]

/-- Both invariants hold in every reachable state of a queue with two or more slots. -/
theorem reachable_inv {n : Nat} (hn : 2 ≤ n) {v₀ : α} {s : State ι α}
    (h : Reachable (step n) (initial v₀) s) : RingInv n s ∧ CallInv s :=
  h.invariant (I := fun s => RingInv n s ∧ CallInv s) ⟨.initial n v₀, .initial v₀⟩
    fun _ _ _ hs ht => ⟨hs.1.step hn ht, hs.2.step hs.1.won_length ht⟩

/-- The queue is first in, first out: in every reachable state, for any number of
producers and any interleaving. -/
theorem pop_order_eq_push_order {n : Nat} (hn : 2 ≤ n) (v₀ : α) (s : State ι α)
    (h : Reachable (step n) (initial v₀) s) : Fifo n s := by
  obtain ⟨hring, hcall⟩ := reachable_inv hn h
  refine ⟨hring.popped_prefix, hring.won_length, hcall.decreasing,
    fun i v p => (hcall.mem_iff i v p).symm, ?_⟩
  intro i p v hc htake heq
  obtain ⟨hd, he, hseq, _⟩ := hring.owner i p v hc
  have hread := hring.readable (Or.inl htake)
  have hle := hring.le_add
  have hp := index_injective hd (by omega) heq.symm
  rw [← hp] at hseq
  omega

/-- Three producers at a ring of two slots. The second one overtakes the first in front of its
compare-exchange, the third one pushes into the slot that was popped, and the second one waits for a
slot until the consumer wakes it. -/
def crossedPushes : List (Action (Fin 3) Nat) :=
  .push 0 70 :: List.replicate 3 (.producer 0) ++
    .push 1 80 :: List.replicate 7 (.producer 1) ++ List.replicate 8 (.producer 0) ++
    .pop :: List.replicate 4 .consumer ++ .push 2 90 :: List.replicate 7 (.producer 2) ++
    .push 1 81 :: List.replicate 8 (.producer 1) ++
    .pop :: List.replicate 3 .consumer ++ .wake 1 :: List.replicate 11 (.producer 1) ++
    .pop :: List.replicate 4 .consumer ++ .pop :: List.replicate 4 .consumer

theorem pop_returns_pushed :
    ∃ s : State (Fin 3) Nat, exec (step 2) (initial 0) crossedPushes = some s ∧
      s.popped = [80, 70, 90, 81] ∧ s.won = [(1, 80), (0, 70), (2, 90), (1, 81)] ∧ Fifo 2 s := by
  have hrun : (exec (step 2) (initial 0) crossedPushes).map (fun s => (s.popped, s.won)) =
      some ([80, 70, 90, 81], [(1, 80), (0, 70), (2, 90), (1, 81)]) := by
    decide +kernel
  obtain ⟨s, hs, hend⟩ := Option.map_eq_some_iff.mp hrun
  obtain ⟨hpopped, hwon⟩ := Prod.mk.inj hend
  exact ⟨s, hs, hpopped, hwon, pop_order_eq_push_order (n := 2) le_rfl 0 s ⟨crossedPushes, hs⟩⟩

lemma bounded_of_two_le {n : Nat} (hn : 2 ≤ n) {v₀ : α} {s : State ι α}
    (h : Reachable (step n) (initial v₀) s) : Bounded n s := by
  have hring := (reachable_inv hn h).1
  have hpop := hring.dequeuePos_le_popped hn
  have hle := hring.le_add
  refine ⟨by rw [hring.won_length]; omega, ?_⟩
  intro i v p hpc q hq hidx
  obtain ⟨hd, he, _, _⟩ := hring.owner i p v (by rw [hpc]; rfl)
  by_contra hge
  have hne : q ≠ p := by
    rintro rfl
    exact hq.2 i v (by rw [hpc]; rfl)
  exact index_ne hne (by have := hq.1; omega) (by omega) hidx

/-- The actions of a producer whose push runs without interference. -/
def soloPush (i : ι) (v : α) : List (Action ι α) :=
  .push i v :: List.replicate 7 (.producer i)

lemma exec_soloPush {n : Nat} {s : State ι α} {i : ι} (v : α) (hpc : s.producer i = .idle)
    (hopen : s.closed = false) (hfree : s.sequence (index n s.enqueuePos) = s.enqueuePos) :
    ∃ t, exec (step n) s (soloPush i v) = some t ∧ t.producer i = .idle ∧ t.closed = false ∧
      t.enqueuePos = s.enqueuePos + 1 ∧ t.won = s.won ++ [(i, v)] ∧ t.popped = s.popped ∧
      t.sequence = Function.update s.sequence (index n s.enqueuePos) (s.enqueuePos + 1) := by
  simp [soloPush, List.replicate, step, producerStep, hpc, hopen, hfree, State.goto,
    State.recordWin, sequenceDiff]

/-- With one slot a second push finds the slot of the first one free. -/
lemma not_bounded_one (i : ι) (v₀ : α) :
    ∃ s, Reachable (step 1) (initial v₀ : State ι α) s ∧ ¬ Bounded 1 s := by
  obtain ⟨s, hs, hidle, hopen, henq, hwon, hpop, hseq⟩ :=
    exec_soloPush (n := 1) (s := (initial v₀ : State ι α)) (i := i) v₀ rfl rfl rfl
  obtain ⟨t, ht, _, _, _, hwon', hpop', _⟩ :=
    exec_soloPush (n := 1) (i := i) v₀ hidle hopen (by simp [hseq, henq, index, Queue.initial])
  refine ⟨t, ⟨_, (exec_append (step 1) _ (soloPush i v₀) (soloPush i v₀)).trans ?_⟩, ?_⟩
  · rw [hs]
    exact ht
  · intro hb
    have := hb.length_le
    rw [hwon', hwon, hpop', hpop] at this
    simp [Queue.initial] at this

/-- The constructor accepts every capacity; the queue is safe exactly from two slots on. -/
theorem bounded_iff_two_le (i : ι) (v₀ : α) (capacity : Nat) :
    (∀ s, Reachable (step (effectiveCapacity capacity)) (initial v₀ : State ι α) s →
      Bounded (effectiveCapacity capacity) s) ↔ 2 ≤ capacity := by
  constructor
  · intro h
    by_contra hlt
    have hone : effectiveCapacity capacity = 1 := by
      unfold effectiveCapacity
      omega
    rw [hone] at h
    obtain ⟨s, hs, hnot⟩ := not_bounded_one i v₀
    exact hnot (h s hs)
  · intro hcap s hs
    have htwo : 2 ≤ effectiveCapacity capacity := by
      unfold effectiveCapacity
      omega
    exact bounded_of_two_le htwo hs

/-- Both pushes into a ring of one slot are accepted, and the first value is gone. -/
theorem one_slot_accepts_two :
    ∃ s, exec (step 1) (initial 0) (soloPush () 7 ++ soloPush () 8) = some s ∧
      s.accepted = [1, 0] ∧ s.popped = [] ∧ s.value 0 = 8 ∧ ¬ Bounded 1 s :=
  ⟨_, rfl, rfl, rfl, rfl, fun h => absurd h.length_le (by decide)⟩

end Runs

end Schengen.Queue
