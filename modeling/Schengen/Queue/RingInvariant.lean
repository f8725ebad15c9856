import Schengen.Library.Runs
import Schengen.Queue.BoundedMpscQueue
import Mathlib.Data.List.TakeDrop
import Mathlib.Data.Nat.ModEq
import Mathlib.Tactic.Common

/-!
# The ring invariant

For a capacity of at least two the sequence number of a slot tells for every position of
the window `[dequeuePos, dequeuePos + n)` whether it is free, reserved or published. The
invariant relates the window to the program counters of all threads, also of those that
hold positions read long ago.
-/

namespace Schengen.Queue
open Library

variable {ι α : Type}

/-- The position and value of a push that has won its position and not yet published. -/
def claim : ProducerPc α → Option (Nat × α)
  | .writeValue v p => some (p, v)
  | .storeSequence v p => some (p, v)
  | _ => none

/-- What a producer still knows about a position that it read earlier. -/
def Seen (n enqueuePos dequeuePos : Nat) : ProducerPc α → Prop
  | .loadSequence _ p => p ≤ enqueuePos
  | .testSequence _ p => p ≤ enqueuePos
  | .compareExchange _ p => p ≤ enqueuePos ∧ p < dequeuePos + n
  | _ => True

/-- The number of values that the consumer has moved out of the ring. -/
def takenCount (s : State ι α) : Nat :=
  if s.consumer = .storeSequence then s.dequeuePos + 1 else s.dequeuePos

/-- The ring and the pushes and pops recorded so far are the same in both states. -/
structure SameRing (s t : State ι α) : Prop where
  sequence : t.sequence = s.sequence
  value : t.value = s.value
  enqueuePos : t.enqueuePos = s.enqueuePos
  dequeuePos : t.dequeuePos = s.dequeuePos
  won : t.won = s.won
  popped : t.popped = s.popped

structure RingInv (n : Nat) (s : State ι α) : Prop where
  pos_le : s.dequeuePos ≤ s.enqueuePos
  le_add : s.enqueuePos ≤ s.dequeuePos + n
  won_length : s.won.length = s.enqueuePos
  free : ∀ p, s.enqueuePos ≤ p → p < s.dequeuePos + n → s.sequence (index n p) = p
  owner : ∀ i p v, claim (s.producer i) = some (p, v) → s.dequeuePos ≤ p ∧ p < s.enqueuePos ∧
    s.sequence (index n p) = p ∧ s.won[p]? = some (i, v)
  held : ∀ p, s.dequeuePos ≤ p → p < s.enqueuePos →
    (∃ i v, claim (s.producer i) = some (p, v)) ∨
    (s.sequence (index n p) = p + 1 ∧ ∃ i, s.won[p]? = some (i, s.value (index n p)))
  written : ∀ i v p, s.producer i = .storeSequence v p → s.value (index n p) = v
  seen : ∀ i, Seen n s.enqueuePos s.dequeuePos (s.producer i)
  readable : s.consumer = .takeValue ∨ s.consumer = .storeSequence →
    s.sequence (index n s.dequeuePos) = s.dequeuePos + 1
  popped_eq : s.popped = (s.won.map Prod.snd).take (takenCount s)

lemma index_injective {n p q : Nat} (hpq : p ≤ q) (hq : q < p + n)
    (h : index n p = index n q) : p = q := by
  have hdvd : n ∣ q - p := (Nat.modEq_iff_dvd' hpq).mp h
  have hzero : q - p = 0 := Nat.eq_zero_of_dvd_of_lt hdvd (by omega)
  omega

lemma index_ne {n p q : Nat} (hne : p ≠ q) (hpq : p < q + n) (hqp : q < p + n) :
    index n p ≠ index n q := by
  intro h
  rcases Nat.le_total p q with hle | hle
  · exact hne (index_injective hle hqp h)
  · exact hne (index_injective hle hpq h.symm).symm

lemma index_add (n p : Nat) : index n (p + n) = index n p :=
  Nat.add_mod_right p n

lemma Seen.mono {n e e' d d' : Nat} {pc : ProducerPc α} (he : e ≤ e') (hd : d ≤ d')
    (h : Seen n e d pc) : Seen n e' d' pc := by
  cases pc <;> simp only [Seen] at h ⊢ <;> omega

namespace RingInv

variable {n : Nat} {s t : State ι α}

lemma initial (n : Nat) (v₀ : α) : RingInv n (initial v₀ : State ι α) where
  pos_le := le_rfl
  le_add := by simp [Queue.initial]
  won_length := rfl
  free p _ hp := by
    have hp : p < n := by simpa [Queue.initial] using hp
    exact Nat.mod_eq_of_lt hp
  owner i p v h := by simp [Queue.initial, claim] at h
  held p _ hp := by simp [Queue.initial] at hp
  written i v p h := by simp [Queue.initial] at h
  seen i := trivial
  readable h := by simp [Queue.initial] at h
  popped_eq := rfl

lemma claim_injective (h : RingInv n s) {i j : ι} {p : Nat} {v w : α}
    (hi : claim (s.producer i) = some (p, v)) (hj : claim (s.producer j) = some (p, w)) :
    i = j := by
  have hwi := (h.owner i p v hi).2.2.2
  have hwj := (h.owner j p w hj).2.2.2
  rw [hwi] at hwj
  simpa using congrArg (Option.map Prod.fst) hwj

/-- A readable slot holds the value of the oldest position not yet popped. -/
lemma published_of_readable (hn : 2 ≤ n) (h : RingInv n s)
    (hr : s.sequence (index n s.dequeuePos) = s.dequeuePos + 1) :
    s.dequeuePos < s.enqueuePos ∧
      ∃ i, s.won[s.dequeuePos]? = some (i, s.value (index n s.dequeuePos)) := by
  have hlt : s.dequeuePos < s.enqueuePos := by
    by_contra hge
    have hfree := h.free s.dequeuePos (by omega) (by omega)
    omega
  refine ⟨hlt, ?_⟩
  rcases h.held s.dequeuePos le_rfl hlt with ⟨i, v, hc⟩ | ⟨_, hwon⟩
  · have hseq := (h.owner i _ v hc).2.2.1
    omega
  · exact hwon

lemma takenCount_le (hn : 2 ≤ n) (h : RingInv n s) : takenCount s ≤ s.enqueuePos := by
  unfold takenCount
  split
  · rename_i hc
    have := (h.published_of_readable hn (h.readable (Or.inr hc))).1
    omega
  · exact h.pos_le

/-- Frame rule: a step that leaves the ring and the consumer alone, and moves producer `i`
between statements at which it owns no position. -/
lemma frame [DecidableEq ι] (h : RingInv n s) (i : ι) {pc : ProducerPc α}
    (hring : SameRing s t) (hcons : t.consumer = s.consumer)
    (hprod : t.producer = Function.update s.producer i pc)
    (hold : claim (s.producer i) = none) (hnew : claim pc = none)
    (hseen : Seen n s.enqueuePos s.dequeuePos pc) : RingInv n t := by
  obtain ⟨hseq, hval, henq, hdeq, hwon, hpop⟩ := hring
  have hclaim : ∀ j, claim (t.producer j) = claim (s.producer j) := by
    intro j
    rw [hprod]
    by_cases hj : j = i
    · subst hj
      simp [hold, hnew]
    · simp [hj]
  refine ⟨?_, ?_, ?_, ?_, ?_, ?_, ?_, ?_, ?_, ?_⟩
  · rw [henq, hdeq]; exact h.pos_le
  · rw [henq, hdeq]; exact h.le_add
  · rw [hwon, henq]; exact h.won_length
  · rw [henq, hdeq, hseq]; exact h.free
  · intro j p v hj
    rw [henq, hdeq, hseq, hwon]
    exact h.owner j p v (hclaim j ▸ hj)
  · rw [henq, hdeq, hseq, hwon, hval]
    simp only [hclaim]
    exact h.held
  · intro j v p hj
    rw [hval]
    apply h.written j v p
    by_cases hji : j = i
    · subst hji
      rw [hprod, Function.update_self] at hj
      rw [hj] at hnew
      cases hnew
    · rwa [hprod, Function.update_of_ne hji] at hj
  · intro j
    rw [henq, hdeq, hprod]
    by_cases hji : j = i
    · subst hji
      simpa using hseen
    · simpa [hji] using h.seen j
  · rw [hcons, hseq, hdeq]; exact h.readable
  · rw [hpop, hwon, h.popped_eq]
    simp only [takenCount, hcons, hdeq]

/-- Frame rule for the consumer: it moves to a statement at which it holds no value. -/
lemma frameConsumer (h : RingInv n s) (hring : SameRing s t) (hprod : t.producer = s.producer)
    (hold : s.consumer ≠ .storeSequence) (hnew : t.consumer ≠ .storeSequence)
    (hread : t.consumer = .takeValue →
      s.sequence (index n s.dequeuePos) = s.dequeuePos + 1) : RingInv n t := by
  obtain ⟨hseq, hval, henq, hdeq, hwon, hpop⟩ := hring
  refine ⟨?_, ?_, ?_, ?_, ?_, ?_, ?_, ?_, ?_, ?_⟩
  · rw [henq, hdeq]; exact h.pos_le
  · rw [henq, hdeq]; exact h.le_add
  · rw [hwon, henq]; exact h.won_length
  · rw [henq, hdeq, hseq]; exact h.free
  · rw [henq, hdeq, hseq, hwon, hprod]; exact h.owner
  · rw [henq, hdeq, hseq, hwon, hval, hprod]; exact h.held
  · rw [hprod, hval]; exact h.written
  · rw [henq, hdeq, hprod]; exact h.seen
  · rintro (hc | hc)
    · rw [hseq, hdeq]
      exact hread hc
    · exact absurd hc hnew
  · rw [hpop, hwon, h.popped_eq]
    simp only [takenCount, hold, hnew, hdeq, if_false]

lemma take (hn : 2 ≤ n) (h : RingInv n s) (hpc : s.consumer = .takeValue) :
    RingInv n ({ s with popped := s.popped ++ [s.value (index n s.dequeuePos)] }.consumerGoto
      .storeSequence) := by
  have hr := h.readable (Or.inl hpc)
  obtain ⟨hlt, i, hwon⟩ := h.published_of_readable hn hr
  refine ⟨h.pos_le, h.le_add, h.won_length, h.free, h.owner, h.held, h.written, h.seen,
    fun _ => hr, ?_⟩
  change s.popped ++ [s.value (index n s.dequeuePos)] =
    (s.won.map Prod.snd).take (s.dequeuePos + 1)
  rw [h.popped_eq, List.take_add_one]
  simp [takenCount, hpc, hwon]

lemma release (hn : 2 ≤ n) (h : RingInv n s) (hpc : s.consumer = .storeSequence) :
    RingInv n ({ s with
      sequence := Function.update s.sequence (index n s.dequeuePos) (s.dequeuePos + n)
      dequeuePos := s.dequeuePos + 1 }.consumerGoto .notifyNotFull) := by
  have hr := h.readable (Or.inr hpc)
  have hle := h.le_add
  obtain ⟨hlt, i, hwon⟩ := h.published_of_readable hn hr
  have hkeep : ∀ q, s.dequeuePos < q → q < s.dequeuePos + n →
      Function.update s.sequence (index n s.dequeuePos) (s.dequeuePos + n) (index n q) =
        s.sequence (index n q) :=
    fun q hqd hqn => Function.update_of_ne (index_ne (by omega) (by omega) (by omega)) _ _
  refine ⟨?_, ?_, h.won_length, ?_, ?_, ?_, h.written, ?_, ?_, ?_⟩
  · change s.dequeuePos + 1 ≤ s.enqueuePos
    omega
  · change s.enqueuePos ≤ s.dequeuePos + 1 + n
    omega
  · intro q hqe hqn
    change s.enqueuePos ≤ q at hqe
    change q < s.dequeuePos + 1 + n at hqn
    by_cases hq : q = s.dequeuePos + n
    · subst hq
      change Function.update s.sequence (index n s.dequeuePos) (s.dequeuePos + n)
        (index n (s.dequeuePos + n)) = s.dequeuePos + n
      rw [index_add, Function.update_self]
    · exact (hkeep q (by omega) (by omega)).trans (h.free q hqe (by omega))
  · intro j q w hj
    obtain ⟨h1, h2, h3, h4⟩ := h.owner j q w hj
    have hqd : q ≠ s.dequeuePos := by
      rintro rfl
      omega
    exact ⟨by change s.dequeuePos + 1 ≤ q; omega, h2, (hkeep q (by omega) (by omega)).trans h3, h4⟩
  · intro q hqd hqe
    change s.dequeuePos + 1 ≤ q at hqd
    change q < s.enqueuePos at hqe
    rcases h.held q (by omega) hqe with hc | ⟨h1, h2⟩
    · exact Or.inl hc
    · exact Or.inr ⟨(hkeep q (by omega) (by omega)).trans h1, h2⟩
  · intro j
    exact (h.seen j).mono le_rfl (Nat.le_succ _)
  · rintro (hc | hc) <;> cases hc
  · change s.popped = (s.won.map Prod.snd).take (s.dequeuePos + 1)
    rw [h.popped_eq]
    simp [takenCount, hpc]

/-- A comparison that finds the slot free also finds its position inside the window. -/
lemma seen_of_diff (hn : 2 ≤ n) (h : RingInv n s) {p : Nat} (hp : p ≤ s.enqueuePos)
    (hseq : s.sequence (index n p) = p) : p < s.dequeuePos + n := by
  have hle := h.le_add
  by_contra hge
  have hpe : p = s.dequeuePos + n := by omega
  rw [hpe, index_add] at hseq
  rcases h.held s.dequeuePos le_rfl (by omega) with ⟨i, v, hc⟩ | ⟨h1, _⟩
  · have := (h.owner i _ v hc).2.2.1
    omega
  · omega

section Steps
variable [DecidableEq ι]

lemma win (hn : 2 ≤ n) (h : RingInv n s) {i : ι} {v : α} {p : Nat}
    (hpc : s.producer i = .compareExchange v p) (henq : s.enqueuePos = p) :
    RingInv n (({ s with enqueuePos := p + 1 }.recordWin i v p).goto i (.writeValue v p)) := by
  have hseen : p < s.dequeuePos + n := by
    have := h.seen i
    rw [hpc] at this
    exact this.2
  have hlen := h.won_length
  have hpos := h.pos_le
  have hfree := h.free p (by omega) hseen
  have hget : ∀ (q : Nat) (w : ι × α), s.won[q]? = some w → (s.won ++ [(i, v)])[q]? = some w := by
    intro q w hq
    rw [List.getElem?_append_left (List.getElem?_eq_some_iff.mp hq).1]
    exact hq
  have hlast : (s.won ++ [(i, v)])[p]? = some (i, v) := by
    rw [List.getElem?_append_right (by omega)]
    simp [hlen, henq]
  refine ⟨?_, ?_, ?_, ?_, ?_, ?_, ?_, ?_, h.readable, ?_⟩
  · change s.dequeuePos ≤ p + 1
    omega
  · change p + 1 ≤ s.dequeuePos + n
    omega
  · change (s.won ++ [(i, v)]).length = p + 1
    simp [hlen, henq]
  · intro q hq hqn
    exact h.free q (by change p + 1 ≤ q at hq; omega) hqn
  · intro j q w hj
    change claim (Function.update s.producer i (.writeValue v p) j) = some (q, w) at hj
    change s.dequeuePos ≤ q ∧ q < p + 1 ∧ s.sequence (index n q) = q ∧
      (s.won ++ [(i, v)])[q]? = some (j, w)
    by_cases hji : j = i
    · subst hji
      rw [Function.update_self] at hj
      obtain ⟨rfl, rfl⟩ : p = q ∧ v = w := by simpa [claim] using hj
      exact ⟨by omega, by omega, hfree, hlast⟩
    · rw [Function.update_of_ne hji] at hj
      obtain ⟨h1, h2, h3, h4⟩ := h.owner j q w hj
      exact ⟨h1, by omega, h3, hget q _ h4⟩
  · intro q hd hq
    change q < p + 1 at hq
    by_cases hqp : q = p
    · subst hqp
      exact Or.inl ⟨i, v, by simp [State.goto, claim]⟩
    · rcases h.held q hd (by omega) with ⟨j, w, hj⟩ | ⟨h1, j, h2⟩
      · have hji : j ≠ i := by
          rintro rfl
          simp [hpc, claim] at hj
        exact Or.inl ⟨j, w, by simpa [State.goto, State.recordWin, hji] using hj⟩
      · exact Or.inr ⟨h1, j, hget q _ h2⟩
  · intro j w q hj
    change Function.update s.producer i (.writeValue v p) j = .storeSequence w q at hj
    by_cases hji : j = i
    · subst hji
      simp at hj
    · rw [Function.update_of_ne hji] at hj
      exact h.written j w q hj
  · intro j
    change Seen n (p + 1) s.dequeuePos (Function.update s.producer i (.writeValue v p) j)
    by_cases hji : j = i
    · subst hji
      simp [Seen]
    · rw [Function.update_of_ne hji]
      exact (h.seen j).mono (by omega) le_rfl
  · change s.popped = ((s.won ++ [(i, v)]).map Prod.snd).take (takenCount s)
    have htaken := h.takenCount_le hn
    rw [← hlen] at htaken
    rw [h.popped_eq, List.map_append, List.take_append_of_le_length (by simpa using htaken)]

lemma write (h : RingInv n s) {i : ι} {v : α} {p : Nat}
    (hpc : s.producer i = .writeValue v p) :
    RingInv n ({ s with value := Function.update s.value (index n p) v }.goto i
      (.storeSequence v p)) := by
  obtain ⟨hd, he, hseq, hwon⟩ := h.owner i p v (by rw [hpc]; rfl)
  have hle := h.le_add
  have hclaim : ∀ j, claim (Function.update s.producer i (.storeSequence v p) j) =
      claim (s.producer j) := by
    intro j
    by_cases hji : j = i
    · subst hji
      simp [hpc, claim]
    · simp [hji]
  refine ⟨h.pos_le, h.le_add, h.won_length, h.free, ?_, ?_, ?_, ?_, h.readable, h.popped_eq⟩
  · intro j q w hj
    exact h.owner j q w ((hclaim j).symm.trans hj)
  · intro q hqd hqe
    change s.dequeuePos ≤ q at hqd
    change q < s.enqueuePos at hqe
    change (∃ j w, claim (Function.update s.producer i (.storeSequence v p) j) = some (q, w)) ∨ _
    simp only [hclaim]
    rcases h.held q hqd hqe with hc | ⟨h1, j, h2⟩
    · exact Or.inl hc
    · have hqp : q ≠ p := by
        rintro rfl
        omega
      refine Or.inr ⟨h1, j, ?_⟩
      change s.won[q]? = some (j, Function.update s.value (index n p) v (index n q))
      rw [Function.update_of_ne (index_ne hqp (by omega) (by omega))]
      exact h2
  · intro j w q hj
    change Function.update s.producer i (.storeSequence v p) j = .storeSequence w q at hj
    change Function.update s.value (index n p) v (index n q) = w
    by_cases hji : j = i
    · subst hji
      simp only [Function.update_self, ProducerPc.storeSequence.injEq] at hj
      obtain ⟨rfl, rfl⟩ := hj
      simp
    · rw [Function.update_of_ne hji] at hj
      obtain ⟨hqd, hqe, _, _⟩ := h.owner j q w (by rw [hj]; rfl)
      have hqp : q ≠ p := by
        rintro rfl
        exact hji (h.claim_injective (p := q) (v := w) (w := v) (by rw [hj]; rfl) (by rw [hpc]; rfl))
      rw [Function.update_of_ne (index_ne hqp (by omega) (by omega))]
      exact h.written j w q hj
  · intro j
    change Seen n s.enqueuePos s.dequeuePos (Function.update s.producer i (.storeSequence v p) j)
    by_cases hji : j = i
    · subst hji
      simp [Seen]
    · rw [Function.update_of_ne hji]
      exact h.seen j

lemma publish (hn : 2 ≤ n) (h : RingInv n s) {i : ι} {v : α} {p : Nat}
    (hpc : s.producer i = .storeSequence v p) :
    RingInv n ({ s with sequence := Function.update s.sequence (index n p) (p + 1) }.goto i
      (.notifyNotEmpty v p)) := by
  obtain ⟨hd, he, hseq, hwon⟩ := h.owner i p v (by rw [hpc]; rfl)
  have hle := h.le_add
  have hval := h.written i v p hpc
  have hother : ∀ j, j ≠ i → ∀ q w, claim (s.producer j) = some (q, w) → q ≠ p := by
    rintro j hji q w hj rfl
    exact hji (h.claim_injective hj (by rw [hpc]; rfl))
  have hclaim : ∀ j q w, claim (Function.update s.producer i (.notifyNotEmpty v p) j) = some (q, w) →
      j ≠ i ∧ claim (s.producer j) = some (q, w) := by
    intro j q w hj
    by_cases hji : j = i
    · subst hji
      simp [claim] at hj
    · exact ⟨hji, by simpa [hji] using hj⟩
  have hkeep : ∀ q, q ≠ p → s.dequeuePos ≤ q → q < s.dequeuePos + n →
      Function.update s.sequence (index n p) (p + 1) (index n q) = s.sequence (index n q) :=
    fun q hqp hqd hqn => Function.update_of_ne (index_ne hqp (by omega) (by omega)) _ _
  refine ⟨h.pos_le, h.le_add, h.won_length, ?_, ?_, ?_, ?_, ?_, ?_, h.popped_eq⟩
  · intro q hqe hqn
    have hqp : q ≠ p := by
      change s.enqueuePos ≤ q at hqe
      omega
    refine (hkeep q hqp ?_ hqn).trans (h.free q hqe hqn)
    have := h.pos_le
    change s.enqueuePos ≤ q at hqe
    omega
  · intro j q w hj
    obtain ⟨hji, hc⟩ := hclaim j q w hj
    obtain ⟨h1, h2, h3, h4⟩ := h.owner j q w hc
    exact ⟨h1, h2, (hkeep q (hother j hji q w hc) h1 (by omega)).trans h3, h4⟩
  · intro q hqd hqe
    change s.dequeuePos ≤ q at hqd
    change q < s.enqueuePos at hqe
    by_cases hqp : q = p
    · subst hqp
      refine Or.inr ⟨Function.update_self _ _ _, i, ?_⟩
      change s.won[q]? = some (i, s.value (index n q))
      rw [hval]
      exact hwon
    · rcases h.held q hqd hqe with ⟨j, w, hj⟩ | ⟨h1, h2⟩
      · have hji : j ≠ i := by
          rintro rfl
          rw [hpc] at hj
          exact hqp (by simpa [claim] using (congrArg (Option.map Prod.fst) hj).symm)
        exact Or.inl ⟨j, w, by simpa [State.goto, hji] using hj⟩
      · exact Or.inr ⟨(hkeep q hqp hqd (by omega)).trans h1, h2⟩
  · intro j w q hj
    change Function.update s.producer i (.notifyNotEmpty v p) j = .storeSequence w q at hj
    by_cases hji : j = i
    · subst hji
      simp at hj
    · rw [Function.update_of_ne hji] at hj
      exact h.written j w q hj
  · intro j
    change Seen n s.enqueuePos s.dequeuePos (Function.update s.producer i (.notifyNotEmpty v p) j)
    by_cases hji : j = i
    · subst hji
      simp [Seen]
    · rw [Function.update_of_ne hji]
      exact h.seen j
  · intro hc
    have hr := h.readable hc
    have hdp : s.dequeuePos ≠ p := by
      rintro hdp
      rw [hdp] at hr
      omega
    exact (hkeep _ hdp le_rfl (by omega)).trans hr

theorem producerStep (hn : 2 ≤ n) (h : RingInv n s) {i : ι}
    (hs : Queue.producerStep n s i = some t) : RingInv n t := by
  have hseen := h.seen i
  cases hpc : s.producer i with
  | idle => simp [Queue.producerStep, hpc] at hs
  | compareExchange v p =>
    simp only [Queue.producerStep, hpc] at hs
    split at hs <;> cases hs
    · rename_i henq
      exact h.win hn hpc henq
    · exact h.frame i ⟨rfl, rfl, rfl, rfl, rfl, rfl⟩ rfl rfl (by rw [hpc]; rfl) rfl trivial
  | writeValue v p =>
    simp only [Queue.producerStep, hpc, Option.some.injEq] at hs
    subst hs
    exact h.write hpc
  | storeSequence v p =>
    simp only [Queue.producerStep, hpc, Option.some.injEq] at hs
    subst hs
    exact h.publish hn hpc
  | loadSequence v p =>
    simp only [Queue.producerStep, hpc, Option.some.injEq] at hs
    rw [hpc] at hseen
    subst hs
    refine h.frame i ⟨rfl, rfl, rfl, rfl, rfl, rfl⟩ rfl rfl (by rw [hpc]; rfl) ?_ ?_
    · split_ifs <;> rfl
    · split_ifs with hdiff
      · refine ⟨hseen, h.seen_of_diff hn hseen ?_⟩
        simp only [sequenceDiff] at hdiff
        omega
      · trivial
      · trivial
  | loadEnqueuePos v =>
    simp only [Queue.producerStep, hpc, Option.some.injEq] at hs
    subst hs
    exact h.frame i ⟨rfl, rfl, rfl, rfl, rfl, rfl⟩ rfl rfl (by rw [hpc]; rfl) rfl le_rfl
  | testEnqueuePos v =>
    simp only [Queue.producerStep, hpc, Option.some.injEq] at hs
    subst hs
    exact h.frame i ⟨rfl, rfl, rfl, rfl, rfl, rfl⟩ rfl rfl (by rw [hpc]; rfl) rfl le_rfl
  | loadClosed | testClosed | testSequence | exchangeClosed =>
    simp only [Queue.producerStep, hpc, Option.some.injEq] at hs
    subst hs
    refine h.frame i ⟨rfl, rfl, rfl, rfl, rfl, rfl⟩ rfl rfl (by rw [hpc]; rfl) ?_ ?_
    · split_ifs <;> rfl
    · split_ifs <;> trivial
  | lockNotFull | blocked =>
    simp only [Queue.producerStep, hpc] at hs
    split at hs <;> cases hs
    exact h.frame i ⟨rfl, rfl, rfl, rfl, rfl, rfl⟩ rfl rfl (by rw [hpc]; rfl) rfl trivial
  | notifyNotEmpty | block | unlockNotFull | notifyAllNotEmpty | notifyAllNotFull =>
    simp only [Queue.producerStep, hpc, Option.some.injEq] at hs
    subst hs
    exact h.frame i ⟨rfl, rfl, rfl, rfl, rfl, rfl⟩ rfl rfl (by rw [hpc]; rfl) rfl trivial

theorem consumerStep (hn : 2 ≤ n) (h : RingInv n s)
    (hs : Queue.consumerStep n s = some t) : RingInv n t := by
  cases hpc : s.consumer with
  | idle => simp [Queue.consumerStep, hpc] at hs
  | takeValue =>
    simp only [Queue.consumerStep, hpc, Option.some.injEq] at hs
    subst hs
    exact h.take hn hpc
  | storeSequence =>
    simp only [Queue.consumerStep, hpc, Option.some.injEq] at hs
    subst hs
    exact h.release hn hpc
  | loadSequence =>
    simp only [Queue.consumerStep, hpc, Option.some.injEq] at hs
    subst hs
    refine h.frameConsumer ⟨rfl, rfl, rfl, rfl, rfl, rfl⟩ rfl (by simp [hpc]) ?_ ?_
    · simp only [State.consumerGoto]
      split_ifs <;> simp
    · simp only [State.consumerGoto]
      split_ifs with hdiff <;> simp
      simp only [sequenceDiff] at hdiff
      omega
  | _ =>
    simp only [Queue.consumerStep, hpc] at hs
    try split at hs
    all_goals try cases hs
    all_goals refine h.frameConsumer ⟨rfl, rfl, rfl, rfl, rfl, rfl⟩ rfl (by simp [hpc]) ?_ ?_
    all_goals simp only [State.consumerGoto]
    all_goals simp

end Steps

section Runs
variable [DecidableEq ι]

theorem step (hn : 2 ≤ n) (h : RingInv n s) {a : Action ι α}
    (hs : Queue.step n s a = some t) : RingInv n t := by
  cases a with
  | producer i => exact h.producerStep hn hs
  | consumer => exact h.consumerStep hn hs
  | push i v | close i | weakFail i =>
    simp only [Queue.step] at hs
    split at hs <;> cases hs
    rename_i hpc
    exact h.frame i ⟨rfl, rfl, rfl, rfl, rfl, rfl⟩ rfl rfl (by rw [hpc]; rfl) rfl trivial
  | pop | consumerClose =>
    simp only [Queue.step] at hs
    split at hs <;> cases hs
    rename_i hpc
    exact h.frameConsumer ⟨rfl, rfl, rfl, rfl, rfl, rfl⟩ rfl (by simp [hpc])
      (by simp [State.consumerGoto]) (by simp [State.consumerGoto])
  | wake i =>
    simp only [Queue.step] at hs
    split at hs
    · rename_i hpc
      split at hs <;> cases hs
      exact h.frameConsumer ⟨rfl, rfl, rfl, rfl, rfl, rfl⟩ rfl (by simp [hpc])
        (by simp [State.consumerGoto]) (by simp [State.consumerGoto])
    · cases hs

end Runs

end RingInv

end Schengen.Queue
