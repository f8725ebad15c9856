import Schengen.Queue.Draining
import Mathlib.Data.Finset.Card

/-!
# Lost wake-ups

The notifying side changes a sequence number or `closed_` and notifies without the mutex
of the waiter, so a change and its notification can fall between the waiter's test of its
predicate and its block. In the runs in which every thread blocks while its predicate is
still false no wake-up is lost. The consumer's half needs no ring invariant.
-/

namespace Schengen.Queue
open Library

variable {ι α : Type}

/-- The predicate of the wait on `not_empty_cv_`. -/
def ConsumerReady (n : Nat) (s : State ι α) : Prop :=
  s.closed = true ∨ s.isCurrentSlotReadable n

/-- The predicate of the waits on `not_full_cv_`. -/
def ProducerReady (n : Nat) (s : State ι α) : Prop :=
  s.closed = true ∨ s.canProducerReserveSlot n

/-- The producer's next statement notifies the consumer. -/
def NotifiesNotEmpty : ProducerPc α → Prop
  | .notifyNotEmpty _ _ | .notifyAllNotEmpty => True
  | _ => False

/-- The producer has closed the queue and not yet notified the producers. -/
def NotifiesAll : ProducerPc α → Prop
  | .notifyAllNotEmpty | .notifyAllNotFull => True
  | _ => False

/-- Some thread has changed the state and notifies `not_empty_cv_` next. -/
def NotEmptyNotice (s : State ι α) : Prop :=
  (∃ i, NotifiesNotEmpty (s.producer i)) ∨ s.consumer = .notifyAllNotEmpty

/-- The thread that has closed the queue is about to notify `not_full_cv_`. -/
def CloseNotice (s : State ι α) : Prop :=
  (∃ i, NotifiesAll (s.producer i)) ∨
    s.consumer = .notifyAllNotEmpty ∨ s.consumer = .notifyAllNotFull

/-- Producer `j` was notified in its current `Push` and is still trying to win a position. -/
def Awake (s : State ι α) (j : ι) : Prop :=
  s.woken j = true ∧ (trying (s.producer j)).isSome = true

/-- A thread that is blocked without a wake-up has a false predicate, unless a
notification is about to be executed. For the producers a wake-up of any one of them
counts while that producer is still in its `Push`. -/
structure NoLostWakeup (n : Nat) (s : State ι α) : Prop where
  consumer : s.consumer = .blocked → s.notEmptyWaiting = true → ConsumerReady n s →
    NotEmptyNotice s
  producers : ∀ i ∈ s.notFullWaiters, ProducerReady n s →
    (∃ j, Awake s j) ∨ CloseNotice s ∨ s.consumer = .notifyNotFull

/-- The producer's next statement is the block of its wait. -/
def aboutToBlock : ProducerPc α → Bool
  | .block _ => true
  | _ => false

/-- A thread blocks only while the predicate it has tested is still false. -/
def BlocksUnready (n : Nat) (s : State ι α) : Action ι α → Prop
  | .producer i => aboutToBlock (s.producer i) = true → ¬ ProducerReady n s
  | .consumer => s.consumer = .block → ¬ ConsumerReady n s
  | _ => True

/-- Slots that are neither reserved nor hold a value. -/
def freeSlots (n : Nat) (s : State ι α) : Nat := s.dequeuePos + n - s.enqueuePos

lemma RingInv.canReserve_iff {n : Nat} (hn : 2 ≤ n) {s : State ι α} (h : RingInv n s) :
    s.canProducerReserveSlot n ↔ 0 < freeSlots n s := by
  have hle := h.le_add
  have hpos := h.pos_le
  unfold State.canProducerReserveSlot sequenceDiff freeSlots
  by_cases hfull : s.enqueuePos < s.dequeuePos + n
  · rw [h.free s.enqueuePos le_rfl hfull]
    omega
  · have heq : s.enqueuePos = s.dequeuePos + n := by omega
    rw [heq, index_add]
    rcases h.held s.dequeuePos le_rfl (by omega) with ⟨i, v, hc⟩ | ⟨hseq, _⟩
    · have hseq := (h.owner i _ v hc).2.2.1
      omega
    · omega

/-- The consumer's half: while it is blocked without a wake-up and could go on, a
notification is about to be executed. -/
def ConsumerWoken (n : Nat) (s : State ι α) : Prop :=
  s.notEmptyWaiting = true → s.consumer = .blocked ∧ (ConsumerReady n s → NotEmptyNotice s)

/-- Every slot that became free while producers are blocked is matched by a producer that
was notified and has not won a position yet, or by the notification about to be executed. -/
structure ProducersWoken (n : Nat) (s : State ι α) : Prop where
  blocked : ∀ i ∈ s.notFullWaiters, (∃ v, s.producer i = .blocked v) ∧ s.woken i = false
  nodup : s.notFullWaiters.Nodup
  closed : s.closed = true → s.notFullWaiters ≠ [] → CloseNotice s
  counted : s.closed = false → s.notFullWaiters ≠ [] → ∃ A : Finset ι, (∀ j ∈ A, Awake s j) ∧
    freeSlots n s ≤ A.card + if s.consumer = .notifyNotFull then 1 else 0

variable {n : Nat} {s t : State ι α}

namespace ConsumerWoken

lemma initial (n : Nat) (v₀ : α) : ConsumerWoken n (initial v₀ : State ι α) := by
  simp [ConsumerWoken, Queue.initial]

lemma of_not_blocked (h : ConsumerWoken n s) (hpc : s.consumer ≠ .blocked)
    (hwait : t.notEmptyWaiting = true → s.notEmptyWaiting = true) : ConsumerWoken n t :=
  fun ht => absurd (h (hwait ht)).1 hpc

variable [DecidableEq ι]

lemma frame (h : ConsumerWoken n s) (i : ι) {pc : ProducerPc α}
    (hprod : t.producer = Function.update s.producer i pc)
    (hcons : t.consumer = s.consumer) (hwait : t.notEmptyWaiting = s.notEmptyWaiting)
    (hpc : ¬ NotifiesNotEmpty (s.producer i))
    (hready : ConsumerReady n t → ConsumerReady n s ∨ NotifiesNotEmpty pc) :
    ConsumerWoken n t := by
  intro ht
  obtain ⟨hblocked, hnotice⟩ := h (hwait ▸ ht)
  refine ⟨hcons ▸ hblocked, fun hr => Or.inl ?_⟩
  rw [hprod]
  rcases hready hr with hs | hnew
  · rcases hnotice hs with ⟨j, hj⟩ | hc
    · have hji : j ≠ i := by
        rintro rfl
        exact hpc hj
      exact ⟨j, by rwa [Function.update_of_ne hji]⟩
    · rw [hblocked] at hc
      cases hc
  · exact ⟨i, by rwa [Function.update_self]⟩

theorem step (h : ConsumerWoken n s) {a : Action ι α} (hguard : BlocksUnready n s a)
    (hs : Queue.step n s a = some t) : ConsumerWoken n t := by
  cases a with
  | push i v | close i | weakFail i =>
    simp only [Queue.step] at hs
    split at hs <;> cases hs
    rename_i hpc
    exact h.frame i rfl rfl rfl (by simp [hpc, NotifiesNotEmpty]) Or.inl
  | pop | consumerClose =>
    simp only [Queue.step] at hs
    split at hs <;> cases hs
    rename_i hpc
    exact h.of_not_blocked (by simp [hpc]) id
  | wake i =>
    simp only [Queue.step] at hs
    split at hs
    · rename_i hpc
      split at hs <;> cases hs
      exact h.of_not_blocked (by simp [hpc]) id
    · cases hs
  | consumer =>
    cases hpc : s.consumer <;> simp only [Queue.step, consumerStep, hpc] at hs
    case block =>
      cases hs
      exact fun _ => ⟨rfl, fun hr => absurd hr (hguard hpc)⟩
    case blocked =>
      split at hs <;> cases hs
      rename_i hfree
      intro ht
      have hwait : s.notEmptyWaiting = true := ht
      simp [hwait] at hfree
    case notifyAllNotEmpty =>
      cases hs
      exact h.of_not_blocked (by simp [hpc]) (fun ht => by cases ht)
    all_goals try split at hs
    all_goals cases hs
    all_goals exact h.of_not_blocked (by simp [hpc]) id
  | producer i =>
    cases hpc : s.producer i <;> simp only [Queue.step, producerStep, hpc] at hs
    case storeSequence v p =>
      cases hs
      exact h.frame i rfl rfl rfl (by simp [hpc, NotifiesNotEmpty]) (fun _ => Or.inr trivial)
    case exchangeClosed =>
      cases hs
      refine h.frame i rfl rfl rfl (by simp [hpc, NotifiesNotEmpty]) (fun _ => ?_)
      by_cases hclosed : s.closed
      · exact Or.inl (Or.inl hclosed)
      · exact Or.inr (by simp [hclosed, NotifiesNotEmpty])
    case notifyNotEmpty v p =>
      cases hs
      intro ht
      cases ht
    case notifyAllNotEmpty =>
      cases hs
      intro ht
      cases ht
    all_goals try split at hs
    all_goals cases hs
    all_goals exact h.frame i rfl rfl rfl (by simp [hpc, NotifiesNotEmpty]) Or.inl

end ConsumerWoken

lemma CloseNotice.keep (hprod : t.producer = s.producer) (hne : s.consumer ≠ .notifyAllNotEmpty)
    (hnf : s.consumer ≠ .notifyAllNotFull) (h : CloseNotice s) : CloseNotice t := by
  rcases h with hp | hp | hp
  · exact Or.inl (by rwa [hprod])
  · exact absurd hp hne
  · exact absurd hp hnf

namespace ProducersWoken

lemma initial (n : Nat) (v₀ : α) : ProducersWoken n (initial v₀ : State ι α) := by
  refine ⟨?_, ?_, ?_, ?_⟩ <;> simp [Queue.initial]

lemma of_no_waiters (hempty : t.notFullWaiters = []) : ProducersWoken n t := by
  refine ⟨?_, ?_, ?_, ?_⟩ <;> simp [hempty]

lemma not_mem_waiters (h : ProducersWoken n s) {i : ι} (hpc : ∀ v, s.producer i ≠ .blocked v) :
    i ∉ s.notFullWaiters := by
  intro hi
  obtain ⟨⟨v, hv⟩, _⟩ := h.blocked i hi
  exact hpc v hv

lemma frameConsumer (h : ProducersWoken n s) (hprod : t.producer = s.producer)
    (hwait : t.notFullWaiters = s.notFullWaiters) (hwoken : t.woken = s.woken)
    (hclosed : t.closed = true → s.closed = true ∨ CloseNotice t)
    (hnotice : CloseNotice s → CloseNotice t)
    (hfree : freeSlots n t + (if s.consumer = .notifyNotFull then 1 else 0) ≤
      freeSlots n s + if t.consumer = .notifyNotFull then 1 else 0)
    (hopen : t.closed = false → s.closed = false) : ProducersWoken n t := by
  refine ⟨?_, ?_, ?_, ?_⟩
  · rw [hwait, hprod, hwoken]; exact h.blocked
  · rw [hwait]; exact h.nodup
  · intro ht hne
    rw [hwait] at hne
    rcases hclosed ht with hs | hs
    · exact hnotice (h.closed hs hne)
    · exact hs
  · intro ht hne
    rw [hwait] at hne
    obtain ⟨A, hA, hcard⟩ := h.counted (hopen ht) hne
    exact ⟨A, fun j hj => by simpa only [Awake, hprod, hwoken] using hA j hj, by omega⟩

variable [DecidableEq ι]

lemma frame (h : ProducersWoken n s) (i : ι) {pc : ProducerPc α}
    (hprod : t.producer = Function.update s.producer i pc)
    (hwait : t.notFullWaiters = s.notFullWaiters) (hcons : t.consumer = s.consumer)
    (hwoken : ∀ j, j ≠ i → t.woken j = s.woken j) (hfree : freeSlots n t ≤ freeSlots n s)
    (hnot : i ∉ s.notFullWaiters) (hopen : t.closed = false → s.closed = false)
    (hclosed : t.closed = true → s.closed = true ∨ NotifiesAll pc)
    (hnotice : NotifiesAll (s.producer i) → NotifiesAll pc)
    (hawake : t.closed = false → Awake s i → Awake t i) : ProducersWoken n t := by
  have hne : ∀ j ∈ s.notFullWaiters, j ≠ i := by
    rintro j hj rfl
    exact hnot hj
  have hkeep : ∀ j, j ≠ i → t.producer j = s.producer j :=
    fun j hj => by rw [hprod, Function.update_of_ne hj]
  have hself : t.producer i = pc := by rw [hprod, Function.update_self]
  refine ⟨?_, ?_, ?_, ?_⟩
  · intro j hj
    rw [hwait] at hj
    rw [hkeep j (hne j hj), hwoken j (hne j hj)]
    exact h.blocked j hj
  · rw [hwait]; exact h.nodup
  · intro ht hw
    rw [hwait] at hw
    rcases hclosed ht with hs | hs
    · rcases h.closed hs hw with ⟨j, hj⟩ | hc
      · refine Or.inl ⟨j, ?_⟩
        by_cases hji : j = i
        · subst hji
          rw [hself]
          exact hnotice hj
        · rwa [hkeep j hji]
      · exact Or.inr (by rwa [hcons])
    · exact Or.inl ⟨i, by rwa [hself]⟩
  · intro ht hw
    rw [hwait] at hw
    obtain ⟨A, hA, hcard⟩ := h.counted (hopen ht) hw
    refine ⟨A, fun j hj => ?_, by rw [hcons]; omega⟩
    by_cases hji : j = i
    · subst hji
      exact hawake ht (hA j hj)
    · have hs := hA j hj
      unfold Awake at hs ⊢
      rwa [hkeep j hji, hwoken j hji]

lemma win (h : ProducersWoken n s) {i : ι} {v : α} (hnot : i ∉ s.notFullWaiters)
    (hpc : ¬ NotifiesAll (s.producer i)) :
    ProducersWoken n (({ s with enqueuePos := s.enqueuePos + 1 }.recordWin i v s.enqueuePos).goto i
      (.writeValue v s.enqueuePos)) := by
  have hne : ∀ j ∈ s.notFullWaiters, j ≠ i := by
    rintro j hj rfl
    exact hnot hj
  have hkeep : ∀ j, j ≠ i →
      Function.update s.producer i (.writeValue v s.enqueuePos) j = s.producer j :=
    fun j hj => Function.update_of_ne hj _ _
  refine ⟨?_, h.nodup, ?_, ?_⟩
  · intro j hj
    obtain ⟨⟨w, hw⟩, hwoken⟩ := h.blocked j hj
    exact ⟨⟨w, (hkeep j (hne j hj)).trans hw⟩, hwoken⟩
  · intro hc hw
    rcases h.closed hc hw with ⟨j, hj⟩ | hcons
    · have hji : j ≠ i := by
        rintro rfl
        exact hpc hj
      refine Or.inl ⟨j, ?_⟩
      change NotifiesAll (Function.update s.producer i (.writeValue v s.enqueuePos) j)
      rwa [hkeep j hji]
    · exact Or.inr hcons
  · intro hc hw
    obtain ⟨A, hA, hcard⟩ := h.counted hc hw
    refine ⟨A.erase i, ?_, ?_⟩
    · intro j hj
      obtain ⟨hji, hj⟩ := Finset.mem_erase.mp hj
      obtain ⟨hwoken, htry⟩ := hA j hj
      refine ⟨hwoken, ?_⟩
      change (trying (Function.update s.producer i (.writeValue v s.enqueuePos) j)).isSome = true
      rwa [hkeep j hji]
    · have hpred := Finset.pred_card_le_card_erase (s := A) (a := i)
      unfold freeSlots at hcard ⊢
      change s.dequeuePos + n - (s.enqueuePos + 1) ≤ _ + if s.consumer = .notifyNotFull then 1 else 0
      omega

lemma block (h : ProducersWoken n s) {i : ι} {v : α} (hpc : s.producer i = .block v)
    (hopen : s.closed = false) (hfull : freeSlots n s = 0) :
    ProducersWoken n ({ s with
      notFullMutex := none
      notFullWaiters := i :: s.notFullWaiters
      woken := Function.update s.woken i false }.goto i (.blocked v)) := by
  refine ⟨?_, ?_, ?_, ?_⟩
  · intro j hj
    change (∃ w, Function.update s.producer i (.blocked v) j = .blocked w) ∧
      Function.update s.woken i false j = false
    by_cases hji : j = i
    · subst hji
      simp
    · rw [Function.update_of_ne hji, Function.update_of_ne hji]
      exact h.blocked j ((List.mem_cons.mp hj).resolve_left hji)
  · refine List.nodup_cons.mpr ⟨fun hi => ?_, h.nodup⟩
    obtain ⟨⟨w, hw⟩, _⟩ := h.blocked i hi
    rw [hpc] at hw
    cases hw
  · intro hc
    exact absurd hc (by simp [State.goto, hopen])
  · intro _ _
    exact ⟨∅, by simp, hfull.le.trans (Nat.zero_le _)⟩

lemma wake (h : ProducersWoken n s) {i : ι} (hpc : s.consumer = .notifyNotFull)
    (hi : i ∈ s.notFullWaiters) :
    ProducersWoken n ({ s with
      notFullWaiters := s.notFullWaiters.erase i
      woken := Function.update s.woken i true }.consumerGoto .idle) := by
  obtain ⟨⟨v, hv⟩, hwoken⟩ := h.blocked i hi
  have hne : s.notFullWaiters ≠ [] := List.ne_nil_of_mem hi
  refine ⟨?_, h.nodup.erase i, ?_, ?_⟩
  · intro j hj
    obtain ⟨hji, hj⟩ := (h.nodup.mem_erase_iff).mp hj
    obtain ⟨hw, hjw⟩ := h.blocked j hj
    refine ⟨hw, ?_⟩
    change Function.update s.woken i true j = false
    rwa [Function.update_of_ne hji]
  · intro hc _
    exact CloseNotice.keep (s := s) rfl (by simp [hpc]) (by simp [hpc]) (h.closed hc hne)
  · intro hc _
    obtain ⟨A, hA, hcard⟩ := h.counted hc hne
    have hiA : i ∉ A := by
      intro hmem
      have := (hA i hmem).1
      rw [hwoken] at this
      cases this
    refine ⟨insert i A, ?_, ?_⟩
    · intro j hj
      change Function.update s.woken i true j = true ∧ (trying (s.producer j)).isSome = true
      rcases Finset.mem_insert.mp hj with rfl | hj
      · simp [hv, trying]
      · have hji : j ≠ i := fun he => hiA (he ▸ hj)
        rw [Function.update_of_ne hji]
        exact hA j hj
    · rw [Finset.card_insert_of_notMem hiA]
      rw [hpc] at hcard
      exact hcard.trans (by simp)

lemma consumerStep (h : ProducersWoken n s) (hs : Queue.consumerStep n s = some t) :
    ProducersWoken n t := by
  cases hpc : s.consumer <;> simp only [Queue.consumerStep, hpc] at hs
  case notifyNotFull =>
    split at hs <;> cases hs
    rename_i hempty
    exact .of_no_waiters hempty
  case notifyAllNotFull =>
    cases hs
    exact .of_no_waiters rfl
  case storeSequence =>
    cases hs
    refine h.frameConsumer rfl rfl rfl Or.inl (.keep rfl (by simp [hpc]) (by simp [hpc])) ?_ id
    simp [hpc, State.consumerGoto, freeSlots]
    omega
  case exchangeClosed =>
    cases hs
    refine h.frameConsumer rfl rfl rfl (fun _ => ?_) ?_ ?_ (by simp [State.consumerGoto])
    · by_cases hclosed : s.closed
      · exact Or.inl hclosed
      · exact Or.inr (by simp [CloseNotice, State.consumerGoto, hclosed])
    · exact CloseNotice.keep rfl (by simp [hpc]) (by simp [hpc])
    · simp [hpc, State.consumerGoto, freeSlots]
  case notifyAllNotEmpty =>
    cases hs
    refine h.frameConsumer rfl rfl rfl Or.inl (fun _ => Or.inr (Or.inr rfl)) ?_ id
    simp [hpc, State.consumerGoto, freeSlots]
  all_goals try split at hs
  all_goals cases hs
  all_goals
    refine h.frameConsumer rfl rfl rfl Or.inl
      (CloseNotice.keep rfl (by simp [hpc]) (by simp [hpc])) ?_ id
    simp [hpc, State.consumerGoto, freeSlots]

lemma producerStep (hn : 2 ≤ n) (hring : RingInv n s) (h : ProducersWoken n s) {i : ι}
    (hguard : aboutToBlock (s.producer i) = true → ¬ ProducerReady n s)
    (hs : Queue.producerStep n s i = some t) : ProducersWoken n t := by
  cases hpc : s.producer i <;> simp only [Queue.producerStep, hpc] at hs
  case compareExchange v p =>
    have hnot := h.not_mem_waiters (i := i) (by simp [hpc])
    split at hs <;> cases hs
    · rename_i henq
      subst henq
      exact h.win hnot (by simp [hpc, NotifiesAll])
    · refine h.frame i rfl rfl rfl (fun _ _ => rfl) le_rfl hnot id Or.inl
        (by simp [hpc, NotifiesAll]) (fun _ ha => ?_)
      simpa [Awake, hpc, trying, State.goto] using ha
  case block v =>
    cases hs
    have hnot := hguard (by rw [hpc]; rfl)
    simp only [ProducerReady, not_or, Bool.not_eq_true, hring.canReserve_iff hn, not_lt,
      Nat.le_zero] at hnot
    exact h.block hpc hnot.1 hnot.2
  case blocked v =>
    split at hs <;> cases hs
    rename_i hfree
    refine h.frame i rfl rfl rfl (fun _ _ => rfl) le_rfl hfree.1 id Or.inl
      (by simp [hpc, NotifiesAll]) (fun _ ha => ?_)
    simpa [Awake, hpc, trying, State.goto] using ha
  case notifyAllNotFull =>
    cases hs
    exact .of_no_waiters rfl
  case exchangeClosed =>
    cases hs
    refine h.frame i rfl rfl rfl (fun _ _ => rfl) le_rfl (h.not_mem_waiters (by simp [hpc]))
      (by simp [State.goto]) (fun _ => ?_) (by simp [hpc, NotifiesAll])
      (fun _ ha => by simp [Awake, hpc, trying] at ha)
    by_cases hclosed : s.closed
    · exact Or.inl hclosed
    · exact Or.inr (by simp [hclosed, NotifiesAll])
  case loadClosed v =>
    cases hs
    refine h.frame i rfl rfl rfl (fun _ _ => rfl) le_rfl (h.not_mem_waiters (by simp [hpc])) id
      Or.inl (by simp [hpc, NotifiesAll]) (fun hopen ha => ?_)
    have hopen : s.closed = false := hopen
    simpa [Awake, hpc, trying, State.goto, hopen] using ha
  all_goals try split at hs
  all_goals cases hs
  all_goals
    refine h.frame i rfl rfl rfl (fun _ _ => rfl) le_rfl (h.not_mem_waiters (by simp [hpc])) id
      Or.inl ?_ (fun _ ha => ?_)
  all_goals try simp only [Awake, hpc, trying, State.goto, Function.update_self] at ha ⊢
  all_goals try split_ifs
  all_goals simp_all [NotifiesAll]

theorem step (hn : 2 ≤ n) (hring : RingInv n s) (h : ProducersWoken n s) {a : Action ι α}
    (hguard : BlocksUnready n s a) (hs : Queue.step n s a = some t) : ProducersWoken n t := by
  cases a with
  | push i v =>
    simp only [Queue.step] at hs
    split at hs <;> cases hs
    rename_i hpc
    exact h.frame i rfl rfl rfl (fun j hj => Function.update_of_ne hj _ _) le_rfl
      (h.not_mem_waiters (by simp [hpc])) id Or.inl (by simp [hpc, NotifiesAll])
      (fun _ ha => by simp [Awake, hpc, trying] at ha)
  | close i =>
    simp only [Queue.step] at hs
    split at hs <;> cases hs
    rename_i hpc
    exact h.frame i rfl rfl rfl (fun _ _ => rfl) le_rfl (h.not_mem_waiters (by simp [hpc])) id
      Or.inl (by simp [hpc, NotifiesAll]) (fun _ ha => by simp [Awake, hpc, trying] at ha)
  | weakFail i =>
    simp only [Queue.step] at hs
    split at hs <;> cases hs
    rename_i hpc
    refine h.frame i rfl rfl rfl (fun _ _ => rfl) le_rfl (h.not_mem_waiters (by simp [hpc])) id
      Or.inl (by simp [hpc, NotifiesAll]) (fun _ ha => ?_)
    simpa [Awake, hpc, trying, State.goto] using ha
  | pop | consumerClose =>
    simp only [Queue.step] at hs
    split at hs <;> cases hs
    rename_i hpc
    exact h.frameConsumer rfl rfl rfl Or.inl (.keep rfl (by simp [hpc]) (by simp [hpc]))
      (by simp [hpc, State.consumerGoto, freeSlots]) id
  | wake i =>
    simp only [Queue.step] at hs
    split at hs
    · rename_i hpc
      split at hs <;> cases hs
      rename_i hi
      exact h.wake hpc hi
    · cases hs
  | consumer => exact h.consumerStep hs
  | producer i => exact producerStep hn hring h hguard hs

end ProducersWoken

lemma ProducersWoken.producers (h : ProducersWoken n s) (hn : 2 ≤ n) (hring : RingInv n s)
    (hne : s.notFullWaiters ≠ []) (hready : ProducerReady n s) :
    (∃ j, Awake s j) ∨ CloseNotice s ∨ s.consumer = .notifyNotFull := by
  by_cases hclosed : s.closed = true
  · exact Or.inr (Or.inl (h.closed hclosed hne))
  · obtain ⟨A, hA, hcard⟩ := h.counted (by simpa using hclosed) hne
    have hfree := (hring.canReserve_iff hn).mp (hready.resolve_left hclosed)
    by_cases hpc : s.consumer = .notifyNotFull
    · exact Or.inr (Or.inr hpc)
    · rw [if_neg hpc] at hcard
      obtain ⟨j, hj⟩ := Finset.card_pos.mp (by omega : 0 < A.card)
      exact Or.inl ⟨j, hA j hj⟩

section Runs
variable [DecidableEq ι]

/-- In the runs in which every thread blocks while its predicate is still false, no
wake-up is lost in any state reached. -/
theorem no_lost_wakeup (hn : 2 ≤ n) (v₀ : α) (as : List (Action ι α)) (s : State ι α)
    (hguard : Along (step n) (BlocksUnready n) (initial v₀) as)
    (hrun : exec (step n) (initial v₀) as = some s) : NoLostWakeup n s := by
  obtain ⟨hring, hcons, hprod⟩ :=
    exec_invariant (I := fun s => RingInv n s ∧ ConsumerWoken n s ∧ ProducersWoken n s)
      (fun s a t hI hg ht => ⟨hI.1.step hn ht, hI.2.1.step hg ht, hI.2.2.step hn hI.1 hg ht⟩)
      ⟨.initial n v₀, .initial n v₀, .initial n v₀⟩ hguard hrun
  exact ⟨fun _ hwait hready => (hcons hwait).2 hready,
    fun i hi hready => hprod.producers hn hring (List.ne_nil_of_mem hi) hready⟩

end Runs

instance (n : Nat) (s : State ι α) : Decidable (ConsumerReady n s) :=
  inferInstanceAs (Decidable (_ ∨ _))

instance (n : Nat) (s : State ι α) : Decidable (ProducerReady n s) :=
  inferInstanceAs (Decidable (_ ∨ _))

instance (n : Nat) (s : State ι α) (a : Action ι α) : Decidable (BlocksUnready n s a) :=
  match a with
  | .producer i =>
    inferInstanceAs (Decidable (aboutToBlock (s.producer i) = true → ¬ ProducerReady n s))
  | .consumer => inferInstanceAs (Decidable (s.consumer = .block → ¬ ConsumerReady n s))
  | .push _ _ | .close _ | .pop | .consumerClose | .weakFail _ | .wake _ =>
    inferInstanceAs (Decidable True)

/-- Two pushes fill the ring of two slots; a third tests the predicate of its wait. Then
the consumer pops both values and notifies nobody, the producer blocks, and the consumer
finds the ring empty and blocks as well. -/
def lostWakeup : List (Action Unit Nat) :=
  soloPush () 7 ++ soloPush () 8 ++ .push () 9 :: List.replicate 7 (.producer ()) ++
    .pop :: List.replicate 4 .consumer ++ .pop :: List.replicate 4 .consumer ++
    .producer () :: .pop :: List.replicate 6 .consumer

/-- The third push blocks before the consumer pops, and the first pop wakes it up. -/
def wakeup : List (Action Unit Nat) :=
  soloPush () 7 ++ soloPush () 8 ++ .push () 9 :: List.replicate 8 (.producer ()) ++
    .pop :: List.replicate 3 .consumer ++ [.wake ()]

/-- All threads are blocked, no wake-up is delivered or on its way, and two slots are free. -/
theorem lostWakeup_deadlocks :
    ∃ s, exec (step 2) (initial 0) lostWakeup = some s ∧ s.producer () = .blocked 9 ∧
      s.notFullWaiters = [()] ∧ s.woken () = false ∧ s.canProducerReserveSlot 2 ∧
      ¬ NoLostWakeup 2 s ∧ ∀ a, step 2 s a = none := by
  refine ⟨_, rfl, rfl, rfl, rfl, by decide, ?_, fun a => by cases a <;> rfl⟩
  intro h
  rcases h.producers () (by decide) (by decide) with ⟨j, hj, _⟩ | (⟨i, hi⟩ | hc | hc) | hc
  · exact Bool.false_ne_true hj
  · exact hi
  all_goals cases hc

theorem wakeup_delivered :
    ∃ s, exec (step 2) (initial 0) wakeup = some s ∧ s.notFullWaiters = [] ∧ s.woken () = true ∧
      NoLostWakeup 2 s :=
  ⟨_, rfl, rfl, rfl, no_lost_wakeup (n := 2) le_rfl 0 wakeup _ (by decide) rfl⟩

end Schengen.Queue
