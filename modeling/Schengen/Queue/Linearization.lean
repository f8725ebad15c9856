import Schengen.Queue.Draining
import Schengen.Queue.QueueCalls

/-!
# The queue is linearizable

Every run in which the consumer stops at the end has the history of calls and returns of an atomic
queue. A push takes effect where it wins its position. One that wins after the queue was closed has to
take effect before, so which pushes take effect at the closing exchange is read off the end of the run.
-/

namespace Schengen.Queue
open Library

variable {ι α : Type}

/-- The consumer calls `Pop` no more after a `Pop` that returned false. -/
def StopsAtEnd (s : State ι α) : Action ι α → Prop
  | .pop => s.drained = none
  | _ => True

/-- A `Pop` returned false although values of pushes that won a position are left. -/
def Loses (f : State ι α) : Prop := f.drained ≠ none ∧ f.popped.length < f.won.length

/-- As many values come out of the queue or may still do so. -/
def keptCount (f : State ι α) : Nat := if f.drained = none then f.won.length else f.popped.length

def CallStatus.InPop : CallStatus (QueueOp α) (QueueResult α) → Prop
  | .called .pop | .effected (.popped _) => True
  | _ => False

/-- After a `Pop` that returned false the consumer is not in another one. -/
def PopsEnded (s : State ι α) : Prop :=
  s.drained ≠ none → ¬ CallStatus.InPop (consumerStatus s.popped s.consumer)

/-- The pushes that win a position on the way from `s` to `f`. -/
def laterWins (f s : State ι α) : List (ι × α) := f.won.drop s.won.length

/-- What holds between a state and the end of the run. Only pushes that had found the queue open win
positions after it was closed, and each thread one at most. -/
structure Leads (s f : State ι α) : Prop where
  won : s.won <+: f.won
  popped : s.popped <+: f.popped
  popped_won : f.popped <+: f.won.map Prod.snd
  nodup : s.closed = true → ((laterWins f s).map Prod.fst).Nodup
  mayWin : s.closed = true → ∀ iv ∈ laterWins f s, mayWin (s.producer iv.1) = some iv.2
  ended : s.drained ≠ none → f.popped = s.popped ∧ f.drained ≠ none

lemma laterWins_of_won {f s t : State ι α} (hwon : t.won = s.won) : laterWins f t = laterWins f s := by
  unfold laterWins
  rw [hwon]

lemma won_append_laterWins {f s : State ι α} (h : s.won <+: f.won) :
    s.won ++ laterWins f s = f.won := by
  obtain ⟨rest, hrest⟩ := h
  unfold laterWins
  rw [← hrest, List.drop_left]

lemma laterWins_cons {f s t : State ι α} {iv : ι × α} (hwon : t.won = s.won ++ [iv])
    (hlater : t.won <+: f.won) : laterWins f s = iv :: laterWins f t := by
  have hsplit := won_append_laterWins hlater
  rw [hwon, List.append_assoc] at hsplit
  conv_lhs => unfold laterWins
  rw [← hsplit, List.drop_left]
  rfl

lemma laterWins_self (s : State ι α) : laterWins s s = [] := by
  unfold laterWins
  rw [List.drop_length]

lemma Leads.refl {n : Nat} {s : State ι α} (h : RingInv n s) : Leads s s where
  won := List.prefix_refl _
  popped := List.prefix_refl _
  popped_won := h.popped_prefix
  nodup _ := by
    rw [laterWins_self]
    exact List.nodup_nil
  mayWin _ iv hiv := by
    rw [laterWins_self] at hiv
    cases hiv
  ended hdrained := ⟨rfl, hdrained⟩

/-- `Pop` is called by one action only. -/
lemma shows_pop {s : State ι α} {a : Action ι α} (h : shows s a = [.call none .pop]) : a = .pop := by
  cases a with
  | pop => rfl
  | producer i =>
    cases hpc : s.producer i <;> simp only [shows, hpc] at h
    all_goals by_cases hclosed : s.closed = true <;> simp [hclosed] at h
  | consumer =>
    cases hpc : s.consumer <;> simp only [shows, hpc] at h
    all_goals by_cases hclosed : s.closed = true <;> simp [hclosed] at h
  | _ => cases h

section Steps
variable [DecidableEq ι] {n : Nat} {s t f : State ι α} {a : Action ι α}
  {events : List (QueueEvent ι α)}

lemma PopsEnded.step (h : PopsEnded s) (hguard : StopsAtEnd s a) (hs : Queue.step n s a = some t) :
    PopsEnded t := by
  have hmoves := moves hs
  generalize hshows : shows s a = events at hmoves
  intro hdrained
  cases hmoves with
  | producer frame hmoves =>
    rw [frame.popped, frame.consumer]
    exact h (frame.drained ▸ hdrained)
  | consumer frame hmoves =>
    rw [frame.consumer]
    cases hmoves with
    | @calls op _ hpc hpopped _ hsame =>
      rw [hpopped, hpc]
      cases op with
      | pop =>
        rw [shows_pop hshows] at hguard
        exact absurd (hsame.trans hguard) hdrained
      | push value => exact id
      | close => exact id
    | works hpc hpopped _ hsame =>
      rw [hpopped, hpc]
      exact h (hsame ▸ hdrained)
    | takes hs _ _ _ hsame =>
      have hended := h (hsame ▸ hdrained)
      rw [hs] at hended
      exact absurd trivial hended
    | ends _ hpc _ _ _ _ =>
      rw [hpc]
      exact id
    | returns _ hpc _ _ _ =>
      rw [hpc]
      exact id
    | closes _ hpc _ _ _ _ =>
      rw [hpc]
      exact id
    | closesAgain _ hpc _ _ _ _ =>
      rw [hpc]
      exact id

/-- What the producers' steps do to the pushes that may still win. -/
lemma Moves.later (h : Moves n s t events) (hclosed : s.closed = true) :
    (t.won = s.won ∧
      ∀ i v, Queue.mayWin (t.producer i) = some v → Queue.mayWin (s.producer i) = some v) ∨
    ∃ i v pos, s.producer i = .compareExchange v pos ∧ t.won = s.won ++ [(i, v)] ∧
      t.producer = Function.update s.producer i (.writeValue v pos) := by
  cases h with
  | consumer frame h =>
    refine .inl ⟨frame.won, ?_⟩
    rw [frame.producer]
    exact fun _ _ => id
  | @producer i pc frame h =>
    have hkeep (hwin : mayWin pc = none ∨ mayWin pc = mayWin (s.producer i)) (j : ι) (v : α)
        (hj : mayWin (t.producer j) = some v) : mayWin (s.producer j) = some v := by
      rw [frame.producer] at hj
      by_cases hji : j = i
      · subst hji
        rw [Function.update_self] at hj
        rcases hwin with hnone | hsame
        · rw [hnone] at hj
          cases hj
        · rw [← hsame, hj]
      · rwa [Function.update_of_ne hji] at hj
    cases h with
    | calls _ _ hwin hwon _ => exact .inl ⟨hwon, hkeep (.inl hwin)⟩
    | works _ hwin hwon _ => exact .inl ⟨hwon, hkeep (hwin hclosed)⟩
    | refused _ hpc _ hwon _ => exact .inl ⟨hwon, hkeep (.inl (by rw [hpc]; rfl))⟩
    | wins hs hpc hwon _ => exact .inr ⟨i, _, _, hs, hwon, by rw [frame.producer, hpc]⟩
    | returns _ hpc hwon _ => exact .inl ⟨hwon, hkeep (.inl (by rw [hpc]; rfl))⟩
    | closes _ _ hopen _ _ =>
      rw [hopen] at hclosed
      cases hclosed
    | closesAgain _ hpc _ hwon _ => exact .inl ⟨hwon, hkeep (.inl (by rw [hpc]; rfl))⟩

lemma Moves.closed (h : Moves n s t events) (hclosed : s.closed = true) : t.closed = true := by
  cases h with
  | producer frame h =>
    cases h with
    | closes _ _ _ _ hclosed => exact hclosed
    | calls _ _ _ _ hsame => exact hsame.trans hclosed
    | works _ _ _ hsame => exact hsame.trans hclosed
    | refused _ _ _ _ hsame => exact hsame.trans hclosed
    | wins _ _ _ hsame => exact hsame.trans hclosed
    | returns _ _ _ hsame => exact hsame.trans hclosed
    | closesAgain _ _ _ _ hsame => exact hsame.trans hclosed
  | consumer frame h =>
    cases h with
    | closes _ _ _ _ hclosed _ => exact hclosed
    | calls _ _ _ hsame _ => exact hsame.trans hclosed
    | works _ _ hsame _ => exact hsame.trans hclosed
    | takes _ _ _ hsame _ => exact hsame.trans hclosed
    | ends _ _ _ _ hsame _ => exact hsame.trans hclosed
    | returns _ _ _ hsame _ => exact hsame.trans hclosed
    | closesAgain _ _ _ _ hsame _ => exact hsame.trans hclosed

lemma Moves.popped (h : Moves n s t events) :
    t.popped = s.popped ∨ s.consumer = .takeValue ∧
      t.popped = s.popped ++ [s.value (index n s.dequeuePos)] := by
  cases h with
  | producer frame h => exact .inl frame.popped
  | consumer frame h =>
    cases h with
    | takes hs _ hpopped _ _ => exact .inr ⟨hs, hpopped⟩
    | calls _ _ hpopped _ _ => exact .inl hpopped
    | works _ hpopped _ _ => exact .inl hpopped
    | ends _ _ _ hpopped _ _ => exact .inl hpopped
    | returns _ _ hpopped _ _ => exact .inl hpopped
    | closes _ _ _ hpopped _ _ => exact .inl hpopped
    | closesAgain _ _ _ hpopped _ _ => exact .inl hpopped

/-- The end that the consumer has seen is seen in every later state. -/
lemma drained_step (hs : Queue.step n s a = some t) (hdrained : s.drained ≠ none) :
    t.drained ≠ none := by
  rcases (historyStep hs).drained with hsame | ⟨-, -, -, hset⟩
  · rwa [hsame]
  · rw [hset]
    exact Option.some_ne_none _

lemma Leads.step (hended : PopsEnded s) (hs : Queue.step n s a = some t) (h : Leads t f) :
    Leads s f where
  won := (historyStep hs).won.trans h.won
  popped := by
    rcases (moves hs).popped with hsame | ⟨-, hsame⟩
    · exact hsame ▸ h.popped
    · have hlater := h.popped
      rw [hsame] at hlater
      exact (List.prefix_append _ _).trans hlater
  popped_won := h.popped_won
  nodup hclosed := by
    have hnodup := h.nodup ((moves hs).closed hclosed)
    rcases (moves hs).later hclosed with ⟨hwon, -⟩ | ⟨i, v, pos, -, hwon, hproducer⟩
    · rwa [← laterWins_of_won hwon]
    · rw [laterWins_cons hwon h.won, List.map_cons, List.nodup_cons]
      refine ⟨?_, hnodup⟩
      -- the thread that has won does not win again without another call
      intro hmem
      obtain ⟨iv, hiv, heq⟩ := List.mem_map.mp hmem
      have hwin := h.mayWin ((moves hs).closed hclosed) iv hiv
      rw [heq, hproducer, Function.update_self] at hwin
      cases hwin
  mayWin hclosed iv hiv := by
    have hwin := h.mayWin ((moves hs).closed hclosed)
    rcases (moves hs).later hclosed with ⟨hwon, hkeep⟩ | ⟨i, v, pos, hexchange, hwon, hproducer⟩
    · rw [← laterWins_of_won hwon] at hiv
      exact hkeep iv.1 iv.2 (hwin iv hiv)
    · rw [laterWins_cons hwon h.won, List.mem_cons] at hiv
      rcases hiv with rfl | hiv
      · rw [hexchange]
        rfl
      · have hlater := hwin iv hiv
        rw [hproducer] at hlater
        by_cases hi : iv.1 = i
        · rw [hi, Function.update_self] at hlater
          cases hlater
        · rwa [Function.update_of_ne hi] at hlater
  ended hdrained := by
    obtain ⟨hpopped, hlater⟩ := h.ended (drained_step hs hdrained)
    refine ⟨?_, hlater⟩
    rcases (moves hs).popped with hsame | ⟨htake, -⟩
    · exact hpopped.trans hsame
    · have hout := hended hdrained
      rw [htake] at hout
      exact absurd trivial hout

/-- Every run leads on to its end. -/
lemma leads_of_run (hn : 2 ≤ n) {as : List (Action ι α)} (h : RingInv n s) (hended : PopsEnded s)
    (hguard : Along (Queue.step n) StopsAtEnd s as) (hrun : exec (Queue.step n) s as = some f) :
    Leads s f := by
  induction as generalizing s with
  | nil =>
    cases hrun
    exact .refl h
  | cons a as ih =>
    obtain ⟨t, ht, hrun⟩ := Option.bind_eq_some_iff.mp hrun
    exact .step hended ht
      (ih (h.step hn ht) (hended.step hguard.1 ht) (hguard.2 t ht) hrun)

end Steps

section Simulation
variable [DecidableEq ι] {n : Nat} {s t f : State ι α} {i : ι}
  {c d : AtomicState (Option ι) (ClosingFifo α) (QueueOp α) (QueueResult α)}

/-- The queue was closed and the push of thread `i` is still to win a position. -/
def winsLate (f s : State ι α) (i : ι) : Bool :=
  s.closed && decide (i ∈ (laterWins f s).map Prod.fst)

/-- The values in the atomic queue. Once it is closed they are those that the queue hands out or
keeps to the end. -/
def waiting (f s : State ι α) : List α :=
  if s.closed then ((f.won.map Prod.snd).take (keptCount f)).drop s.popped.length
  else (s.won.map Prod.snd).drop s.popped.length

omit [DecidableEq ι] in
lemma waiting_closed (h : s.closed = true) :
    waiting f s = ((f.won.map Prod.snd).take (keptCount f)).drop s.popped.length :=
  if_pos h

omit [DecidableEq ι] in
lemma waiting_open (h : s.closed = false) :
    waiting f s = (s.won.map Prod.snd).drop s.popped.length := by
  unfold waiting
  rw [h]
  rfl

lemma winsLate_open (h : s.closed = false) (i : ι) : winsLate f s i = false := by
  unfold winsLate
  rw [h, Bool.false_and]

/-- A state on the way to `f` and the atomic queue. -/
structure Sim (f s : State ι α)
    (c : AtomicState (Option ι) (ClosingFifo α) (QueueOp α) (QueueResult α)) : Prop where
  object : c.object = ⟨waiting f s, s.closed⟩
  producer : ∀ i, c.status (some i) = producerStatus (winsLate f s i) (s.producer i)
  consumer : c.status none = consumerStatus s.popped s.consumer

lemma winsLate_of_won (hwon : t.won = s.won) (hclosed : t.closed = s.closed) (i : ι) :
    winsLate f t i = winsLate f s i := by
  unfold winsLate
  rw [laterWins_of_won hwon, hclosed]

omit [DecidableEq ι] in
lemma waiting_of_won (hwon : t.won = s.won) (hclosed : t.closed = s.closed)
    (hpopped : t.popped = s.popped) : waiting f t = waiting f s := by
  unfold waiting
  rw [hwon, hclosed, hpopped]

lemma Leads.winsLate_eq_false (h : Leads s f) (hwin : Queue.mayWin (s.producer i) = none) :
    winsLate f s i = false := by
  unfold winsLate
  by_cases hclosed : s.closed = true
  · rw [hclosed, Bool.true_and, decide_eq_false_iff_not]
    intro hmem
    obtain ⟨iv, hiv, rfl⟩ := List.mem_map.mp hmem
    have hsome := h.mayWin hclosed iv hiv
    rw [hwin] at hsome
    cases hsome
  · rw [Bool.eq_false_of_not_eq_true hclosed, Bool.false_and]

/-- A step of a producer that wins no position and closes nothing. -/
lemma Sim.producerStep {pc : ProducerPc α} (h : Sim f s c) (frame : ProducerFrame s t i pc)
    (hwon : t.won = s.won) (hclosed : t.closed = s.closed) (hobject : d.object = c.object)
    (hstatus : d.status =
      Function.update c.status (some i) (producerStatus (winsLate f t i) pc)) : Sim f t d where
  object := by
    rw [hobject, h.object, waiting_of_won hwon hclosed frame.popped, hclosed]
  producer j := by
    rw [hstatus, frame.producer]
    by_cases hji : j = i
    · subst hji
      rw [Function.update_self, Function.update_self]
    · rw [Function.update_of_ne hji, Function.update_of_ne (by simpa using hji), h.producer j,
        winsLate_of_won hwon hclosed]
  consumer := by
    rw [hstatus, Function.update_of_ne (Option.some_ne_none i).symm, h.consumer, frame.popped,
      frame.consumer]

/-- A step of the consumer that closes nothing. -/
lemma Sim.consumerStep {pc : ConsumerPc} (h : Sim f s c) (frame : ConsumerFrame s t pc)
    (hclosed : t.closed = s.closed) (hobject : d.object = ⟨waiting f t, s.closed⟩)
    (hstatus : d.status = Function.update c.status none (consumerStatus t.popped pc)) :
    Sim f t d where
  object := by
    rw [hobject, hclosed]
  producer j := by
    rw [hstatus, Function.update_of_ne (Option.some_ne_none j), h.producer j, frame.producer,
      winsLate_of_won frame.won hclosed]
  consumer := by
    rw [hstatus, Function.update_self, frame.consumer]

lemma producerStatus_of_mayWin {pc : ProducerPc α} {v : α} (h : mayWin pc = some v) :
    producerStatus false pc = .called (.push v) ∧ producerStatus true pc = .effected (.pushed true) := by
  cases pc <;> cases h <;> exact ⟨rfl, rfl⟩

/-- A push of each of the later winners, in the order of their positions. -/
def latePushes (later : List (ι × α)) : List (Option ι × QueueOp α × QueueResult α) :=
  later.map fun iv => (some iv.1, .push iv.2, .pushed true)

omit [DecidableEq ι] in
lemma map_fst_latePushes (later : List (ι × α)) :
    (latePushes later).map Prod.fst = (later.map Prod.fst).map some := by
  unfold latePushes
  rw [List.map_map, List.map_map]
  rfl

omit [DecidableEq ι] in
lemma legalEffects_latePushes (loses : Prop) (messages : List α) (later : List (ι × α)) :
    LegalEffects (queueSpec loses) ⟨messages, false⟩ (latePushes later)
      ⟨messages ++ later.map Prod.snd, false⟩ := by
  induction later generalizing messages with
  | nil =>
    rw [List.map_nil, List.append_nil]
    rfl
  | cons iv later ih =>
    refine ⟨⟨messages ++ [iv.2], false⟩, rfl, ?_⟩
    have hlegal := ih (messages ++ [iv.2])
    rwa [List.append_assoc] at hlegal

/-- At the closing exchange the pushes take effect that win positions later, and then the close. -/
lemma Sim.closes (h : Sim f s c) (hs : Leads s f) (hle : s.popped.length ≤ s.won.length)
    (hopen : s.closed = false) (hnodup : ((laterWins f s).map Prod.fst).Nodup)
    (hwin : ∀ iv ∈ laterWins f s, mayWin (s.producer iv.1) = some iv.2) {thread : Option ι}
    (hcalled : c.status thread = .called .close) :
    ∃ d, AtomicRun (queueSpec (Loses f)) c [] d ∧
      d.object = ⟨((f.won.map Prod.snd).take (keptCount f)).drop s.popped.length, true⟩ ∧
      d.status thread = .effected .closed ∧
      (∀ j, some j ≠ thread → d.status (some j) =
        producerStatus (decide (j ∈ (laterWins f s).map Prod.fst)) (s.producer j)) ∧
      (thread ≠ none → d.status none = c.status none) := by
  have hstatus : ∀ j, c.status (some j) = producerStatus false (s.producer j) := by
    intro j
    rw [h.producer j, winsLate_open hopen]
  have heffects : ∀ effect ∈ latePushes (laterWins f s), c.status effect.1 = .called effect.2.1 := by
    intro effect heffect
    obtain ⟨iv, hiv, rfl⟩ := List.mem_map.mp heffect
    rw [hstatus iv.1]
    exact (producerStatus_of_mayWin (hwin iv hiv)).1
  have hdistinct : ((latePushes (laterWins f s)).map Prod.fst).Nodup := by
    rw [map_fst_latePushes]
    exact hnodup.map (Option.some_injective ι)
  have hlegal := legalEffects_latePushes (Loses f) c.object.messages (laterWins f s)
  have hobject : c.object = ⟨c.object.messages, false⟩ := by
    rw [h.object, hopen]
  rw [← hobject] at hlegal
  obtain ⟨d, hrun, hd, heffected, hsame⟩ := AtomicRun.effects hdistinct heffects hlegal
  have hother : thread ∉ (latePushes (laterWins f s)).map Prod.fst := by
    intro hmem
    obtain ⟨effect, heffect, rfl⟩ := List.mem_map.mp hmem
    have hpush := heffects effect heffect
    obtain ⟨iv, hiv, rfl⟩ := List.mem_map.mp heffect
    rw [hcalled] at hpush
    cases hpush
  have hmessages : d.object = ⟨(f.won.map Prod.snd).drop s.popped.length, false⟩ := by
    rw [hd, h.object, waiting_open hopen, ← won_append_laterWins hs.won, List.map_append,
      List.drop_append_of_le_length (by rwa [List.length_map])]
  have hclose : queueSpec (Loses f) d.object .close .closed
      ⟨((f.won.map Prod.snd).take (keptCount f)).drop s.popped.length, true⟩ := by
    rw [hmessages]
    refine ⟨keptCount f - s.popped.length, ?_, ?_⟩
    · unfold ClosingFifo.close
      rw [List.drop_take]
    · intro hlt
      rw [List.length_drop, List.length_map] at hlt
      unfold keptCount at hlt
      by_cases hdrained : f.drained = none
      · rw [if_pos hdrained] at hlt
        exact absurd hlt (lt_irrefl _)
      · rw [if_neg hdrained] at hlt
        exact ⟨hdrained, by omega⟩
  have hstep := AtomicStep.effect ((hsame thread hother).trans hcalled) hclose
  refine ⟨_, hrun.append hstep.run, rfl, Function.update_self _ _ _, ?_, ?_⟩
  · intro j hj
    refine (Function.update_of_ne hj _ _).trans ?_
    by_cases hlate : j ∈ (laterWins f s).map Prod.fst
    · obtain ⟨iv, hiv, rfl⟩ := List.mem_map.mp hlate
      rw [heffected _ (List.mem_map_of_mem hiv), decide_eq_true hlate]
      exact (producerStatus_of_mayWin (hwin iv hiv)).2.symm
    · rw [hsame (some j), hstatus j, decide_eq_false hlate]
      rw [map_fst_latePushes]
      simpa using hlate
  · intro hthread
    refine (Function.update_of_ne hthread.symm _ _).trans (hsame none ?_)
    rw [map_fst_latePushes]
    simp

/-- A push that wins after the queue was closed took effect when it was closed. -/
lemma Sim.winsClosed {v : α} {pos : Nat} (ht : Leads t f) (h : Sim f s c)
    (frame : ProducerFrame s t i (.writeValue v pos)) (hexchange : s.producer i = .compareExchange v pos)
    (hwon : t.won = s.won ++ [(i, v)]) (hended : s.closed = true) (hclosed : t.closed = s.closed) :
    Sim f t c where
  object := by
    rw [h.object, waiting_closed hended, waiting_closed (hclosed.trans hended), hclosed, frame.popped]
  producer j := by
    rw [h.producer j, frame.producer]
    unfold winsLate
    rw [hclosed, hended, laterWins_cons hwon ht.won, List.map_cons]
    by_cases hji : j = i
    · subst hji
      rw [Function.update_self, hexchange, decide_eq_true List.mem_cons_self]
      rfl
    · rw [Function.update_of_ne hji]
      congr 2
      simp [hji]
  consumer := by
    rw [h.consumer, frame.popped, frame.consumer]

/-- A push that wins while the queue is open takes effect there. -/
lemma Sim.winsOpen {v : α} {pos : Nat} (hle : s.popped.length ≤ s.won.length) (h : Sim f s c)
    (frame : ProducerFrame s t i (.writeValue v pos)) (hexchange : s.producer i = .compareExchange v pos)
    (hwon : t.won = s.won ++ [(i, v)]) (hopen : s.closed = false) (hclosed : t.closed = s.closed) :
    ∃ d, AtomicRun (queueSpec (Loses f)) c [] d ∧ Sim f t d := by
  have hopen' := hclosed.trans hopen
  have hstatus : c.status (some i) = .called (.push v) := by
    rw [h.producer i, hexchange, winsLate_open hopen]
    rfl
  have hpush : queueSpec (Loses f) c.object (.push v) (.pushed true)
      ⟨waiting f s ++ [v], false⟩ := by
    rw [h.object, hopen]
    rfl
  have hmessages : waiting f t = waiting f s ++ [v] := by
    rw [waiting_open hopen, waiting_open hopen', frame.popped, hwon, List.map_append,
      List.drop_append_of_le_length (by rwa [List.length_map])]
    rfl
  refine ⟨_, (AtomicStep.effect hstatus hpush).run, ?_, ?_, ?_⟩
  · rw [hmessages, hopen']
  · intro j
    change Function.update c.status (some i) (.effected (.pushed true)) (some j) = _
    rw [frame.producer, winsLate_open hopen']
    by_cases hji : j = i
    · subst hji
      rw [Function.update_self, Function.update_self]
      rfl
    · rw [Function.update_of_ne hji, Function.update_of_ne (by simpa using hji), h.producer j,
        winsLate_open hopen]
  · change Function.update c.status (some i) (.effected (.pushed true)) none = _
    rw [Function.update_of_ne (Option.some_ne_none i).symm, h.consumer, frame.popped,
      frame.consumer]

lemma Sim.producerCloses (hle : s.popped.length ≤ s.won.length) (hs : Leads s f) (ht : Leads t f)
    (h : Sim f s c) (frame : ProducerFrame s t i .notifyAllNotEmpty)
    (hexchange : s.producer i = .exchangeClosed) (hopen : s.closed = false) (hwon : t.won = s.won)
    (hclosed : t.closed = true) : ∃ d, AtomicRun (queueSpec (Loses f)) c [] d ∧ Sim f t d := by
  have hlater := laterWins_of_won (f := f) hwon
  have hnodup := ht.nodup hclosed
  have hwin := ht.mayWin hclosed
  rw [hlater] at hnodup hwin
  have hothers : ∀ iv ∈ laterWins f s, mayWin (s.producer iv.1) = some iv.2 := by
    intro iv hiv
    have hsome := hwin iv hiv
    rw [frame.producer] at hsome
    by_cases hi : iv.1 = i
    · rw [hi, Function.update_self] at hsome
      cases hsome
    · rwa [Function.update_of_ne hi] at hsome
  have hcalled : c.status (some i) = .called .close := by
    rw [h.producer i, hexchange]
    rfl
  obtain ⟨d, hrun, hobject, heffected, hproducers, hconsumer⟩ :=
    h.closes hs hle hopen hnodup hothers hcalled
  refine ⟨d, hrun, ?_, ?_, ?_⟩
  · rw [hobject, waiting_closed hclosed, hclosed, frame.popped]
  · intro j
    rw [frame.producer]
    unfold winsLate
    rw [hclosed, Bool.true_and, hlater]
    by_cases hji : j = i
    · subst hji
      rw [Function.update_self, heffected]
      rfl
    · rw [Function.update_of_ne hji, hproducers j (by simpa using hji)]
  · rw [hconsumer (Option.some_ne_none i), h.consumer, frame.popped, frame.consumer]

lemma Sim.consumerCloses (hle : s.popped.length ≤ s.won.length) (hs : Leads s f) (ht : Leads t f)
    (h : Sim f s c) (frame : ConsumerFrame s t .notifyAllNotEmpty)
    (hexchange : s.consumer = .exchangeClosed) (hopen : s.closed = false)
    (hpopped : t.popped = s.popped) (hclosed : t.closed = true) :
    ∃ d, AtomicRun (queueSpec (Loses f)) c [] d ∧ Sim f t d := by
  have hlater := laterWins_of_won (f := f) frame.won
  have hnodup := ht.nodup hclosed
  have hwin := ht.mayWin hclosed
  rw [hlater] at hnodup hwin
  rw [frame.producer] at hwin
  have hcalled : c.status none = .called .close := by
    rw [h.consumer, hexchange]
    rfl
  obtain ⟨d, hrun, hobject, heffected, hproducers, -⟩ := h.closes hs hle hopen hnodup hwin hcalled
  refine ⟨d, hrun, ?_, ?_, ?_⟩
  · rw [hobject, waiting_closed hclosed, hclosed, hpopped]
  · intro j
    rw [frame.producer, hproducers j (Option.some_ne_none j)]
    unfold winsLate
    rw [hclosed, Bool.true_and, hlater]
  · rw [heffected, frame.consumer]
    rfl

/-- An operation that takes effect and returns in one step of the queue. -/
lemma effect_ret {spec : ClosingFifo α → QueueOp α → QueueResult α → ClosingFifo α → Prop}
    {thread : Option ι} {op : QueueOp α} {result : QueueResult α}
    (hcalled : c.status thread = .called op) (hspec : spec c.object op result c.object) :
    AtomicRun spec c [.ret thread result]
      ⟨c.object, Function.update c.status thread .idle⟩ := by
  have heffect := AtomicStep.effect hcalled hspec
  have hret : AtomicStep spec ⟨c.object, Function.update c.status thread (.effected result)⟩
      [.ret thread result] _ := .ret (Function.update_self _ _ _)
  rw [Function.update_idem] at hret
  exact heffect.run.append hret.run

omit [DecidableEq ι] in
/-- A second close does nothing. -/
lemma queueSpec_close (loses : Prop) {q : ClosingFifo α} (h : q.closed = true) :
    queueSpec loses q .close .closed q := by
  change if q.closed then q = q else _
  rw [if_pos h]

lemma Sim.ofProducer (hle : s.popped.length ≤ s.won.length) (hs : Leads s f) (ht : Leads t f)
    (h : Sim f s c) {pc : ProducerPc α} {events : List (QueueEvent ι α)}
    (frame : ProducerFrame s t i pc) (hmoves : ProducerMoves s t i pc events) :
    ∃ d, AtomicRun (queueSpec (Loses f)) c events d ∧ Sim f t d := by
  have hnext : t.producer i = pc := by
    rw [frame.producer, Function.update_self]
  have hclosedObject : s.closed = true → c.object.closed = true := by
    rw [h.object]
    exact id
  cases hmoves with
  | calls hidle hcalled hwin hwon hclosed =>
    have hstatus : c.status (some i) = .idle := by
      rw [h.producer i, hidle]
      rfl
    refine ⟨_, (AtomicStep.call _ hstatus).run, h.producerStep frame hwon hclosed rfl ?_⟩
    rw [ht.winsLate_eq_false (by rwa [hnext]), hcalled]
  | works hsame hwin hwon hclosed =>
    refine ⟨c, .nil c, h.producerStep frame hwon hclosed rfl ?_⟩
    rw [hsame, winsLate_of_won hwon hclosed, ← h.producer i, Function.update_eq_self]
  | @refused v hload hpc hended hwon hclosed =>
    have hstatus : c.status (some i) = .called (.push v) := by
      rw [h.producer i, hs.winsLate_eq_false (by rw [hload]; rfl), hload]
      rfl
    have hrefuse : c.object.push v = none := by
      unfold ClosingFifo.push
      rw [if_pos (hclosedObject hended)]
    refine ⟨_, effect_ret hstatus ⟨hrefuse, rfl⟩, h.producerStep frame hwon hclosed rfl ?_⟩
    rw [hpc]
    rfl
  | wins hexchange hpc hwon hclosed =>
    subst hpc
    by_cases hended : s.closed = true
    · exact ⟨c, .nil c, h.winsClosed ht frame hexchange hwon hended hclosed⟩
    · exact h.winsOpen hle frame hexchange hwon (Bool.eq_false_of_not_eq_true hended) hclosed
  | @returns result heffected hpc hwon hclosed =>
    have hstatus : c.status (some i) = .effected result := by
      rw [h.producer i, heffected]
    refine ⟨_, (AtomicStep.ret hstatus).run, h.producerStep frame hwon hclosed rfl ?_⟩
    rw [hpc]
    rfl
  | closes hexchange hpc hopen hwon hclosed =>
    subst hpc
    exact h.producerCloses hle hs ht frame hexchange hopen hwon hclosed
  | closesAgain hexchange hpc hended hwon hclosed =>
    have hcalled : c.status (some i) = .called .close := by
      rw [h.producer i, hexchange]
      rfl
    have hspec := queueSpec_close (Loses f) (hclosedObject hended)
    refine ⟨_, effect_ret hcalled hspec, h.producerStep frame hwon hclosed rfl ?_⟩
    rw [hpc]
    rfl

omit [DecidableEq ι] in
lemma Leads.popped_le (h : Leads s f) : s.popped.length ≤ keptCount f := by
  have hle := h.popped.length_le
  have hall := h.popped_won.length_le
  rw [List.length_map] at hall
  unfold keptCount
  split_ifs
  · exact hle.trans hall
  · exact hle

omit [DecidableEq ι] in
/-- The value that is popped next is the first one of the atomic queue. -/
lemma waiting_cons {v : α} (hwon : t.won = s.won) (hpopped : t.popped = s.popped ++ [v])
    (hclosed : t.closed = s.closed) (hfirst : t.popped <+: t.won.map Prod.snd) (ht : Leads t f) :
    waiting f s = v :: waiting f t := by
  have hnext : ∀ values : List α, t.popped <+: values →
      values.drop s.popped.length = v :: values.drop t.popped.length := by
    rintro values ⟨rest, rfl⟩
    rw [List.drop_left, hpopped, List.append_assoc, List.drop_left]
    rfl
  by_cases hended : s.closed = true
  · rw [waiting_closed hended, waiting_closed (hclosed.trans hended)]
    exact hnext _ (List.prefix_take_iff.mpr ⟨ht.popped.trans ht.popped_won, ht.popped_le⟩)
  · have hopen := Bool.eq_false_of_not_eq_true hended
    rw [waiting_open hopen, waiting_open (hclosed.trans hopen), hwon]
    rw [hwon] at hfirst
    exact hnext _ hfirst

lemma Sim.ofConsumer (hle : s.popped.length ≤ s.won.length) (hfirst : t.popped <+: t.won.map Prod.snd)
    (hs : Leads s f) (ht : Leads t f) (h : Sim f s c) {pc : ConsumerPc}
    {events : List (QueueEvent ι α)} (frame : ConsumerFrame s t pc)
    (hmoves : ConsumerMoves n s t pc events) :
    ∃ d, AtomicRun (queueSpec (Loses f)) c events d ∧ Sim f t d := by
  have hclosedObject : s.closed = true → c.object.closed = true := by
    rw [h.object]
    exact id
  have hkeep (hpopped : t.popped = s.popped) (hclosed : t.closed = s.closed) :
      c.object = ⟨waiting f t, s.closed⟩ := by
    rw [h.object, waiting_of_won frame.won hclosed hpopped]
  cases hmoves with
  | calls hidle hcalled hpopped hclosed hdrained =>
    have hstatus : c.status none = .idle := by
      rw [h.consumer, hidle]
      rfl
    refine ⟨_, (AtomicStep.call _ hstatus).run,
      h.consumerStep frame hclosed (hkeep hpopped hclosed) ?_⟩
    rw [hpopped, hcalled]
  | works hsame hpopped hclosed hdrained =>
    refine ⟨c, .nil c, h.consumerStep frame hclosed (hkeep hpopped hclosed) ?_⟩
    rw [hpopped, hsame, ← h.consumer, Function.update_eq_self]
  | takes htake hpc hpopped hclosed hdrained =>
    have hstatus : c.status none = .called .pop := by
      rw [h.consumer, htake]
      rfl
    have hspec : queueSpec (Loses f) c.object .pop
        (.popped (some (s.value (index n s.dequeuePos)))) ⟨waiting f t, s.closed⟩ := by
      rw [h.object, waiting_cons frame.won hpopped hclosed hfirst ht]
      rfl
    refine ⟨_, (AtomicStep.effect hstatus hspec).run, h.consumerStep frame hclosed rfl ?_⟩
    rw [hpc, hpopped]
    unfold consumerStatus
    rw [List.getLast?_concat]
  | ends hload hpc hended hpopped hclosed hdrained =>
    have hstatus : c.status none = .called .pop := by
      rw [h.consumer, hload]
      rfl
    have hempty : c.object.messages = [] := by
      obtain ⟨hall, hfinal⟩ := ht.ended hdrained
      rw [h.object, waiting_closed hended]
      unfold keptCount
      rw [if_neg hfinal, hall, hpopped]
      apply List.drop_eq_nil_of_le
      exact List.length_take_le _ _
    have hnone : c.object.pop = none := by
      unfold ClosingFifo.pop
      rw [hempty]
    refine ⟨_, effect_ret hstatus ⟨hnone, hclosedObject hended, rfl⟩,
      h.consumerStep frame hclosed (hkeep hpopped hclosed) ?_⟩
    rw [hpc]
    rfl
  | @returns result heffected hpc hpopped hclosed hdrained =>
    have hstatus : c.status none = .effected result := by
      rw [h.consumer, heffected]
    refine ⟨_, (AtomicStep.ret hstatus).run,
      h.consumerStep frame hclosed (hkeep hpopped hclosed) ?_⟩
    rw [hpc]
    rfl
  | closes hexchange hpc hopen hpopped hclosed hdrained =>
    subst hpc
    exact h.consumerCloses hle hs ht frame hexchange hopen hpopped hclosed
  | closesAgain hexchange hpc hended hpopped hclosed hdrained =>
    have hcalled : c.status none = .called .close := by
      rw [h.consumer, hexchange]
      rfl
    have hspec := queueSpec_close (Loses f) (hclosedObject hended)
    refine ⟨_, effect_ret hcalled hspec,
      h.consumerStep frame hclosed (hkeep hpopped hclosed) ?_⟩
    rw [hpc]
    rfl

end Simulation

section Runs
variable [DecidableEq ι] {n : Nat}

lemma Sim.initial (f : State ι α) (v₀ : α) :
    Sim f (initial v₀) ⟨ClosingFifo.empty, fun _ => .idle⟩ where
  object := rfl
  producer _ := rfl
  consumer := rfl

/-- What holds in every state of a run in which the consumer stops at the end. -/
structure StopInv (n : Nat) (s : State ι α) : Prop where
  ring : RingInv n s
  ended : PopsEnded s
  drained : ∀ values, s.drained = some values → s.popped = values

omit [DecidableEq ι] in
lemma StopInv.initial (n : Nat) (v₀ : α) : StopInv n (initial v₀ : State ι α) where
  ring := .initial n v₀
  ended h := absurd rfl h
  drained _ h := by cases h

lemma StopInv.step (hn : 2 ≤ n) {s t : State ι α} {a : Action ι α} (h : StopInv n s)
    (hguard : StopsAtEnd s a) (hs : Queue.step n s a = some t) : StopInv n t where
  ring := h.ring.step hn hs
  ended := h.ended.step hguard hs
  drained := by
    have hpopped : s.drained ≠ none ∨ s.consumer = .loadClosed → t.popped = s.popped := by
      intro hend
      rcases (moves hs).popped with hsame | ⟨htake, -⟩
      · exact hsame
      · rcases hend with hend | hload
        · have hout := h.ended hend
          rw [htake] at hout
          exact absurd trivial hout
        · rw [htake] at hload
          cases hload
    intro values hvalues
    rcases (historyStep hs).drained with hsame | ⟨-, hload, -, hset⟩
    · rw [hsame] at hvalues
      rw [hpopped (.inl (by rw [hvalues]; exact Option.some_ne_none _))]
      exact h.drained values hvalues
    · rw [hpopped (.inr hload)]
      rw [hset] at hvalues
      cases hbefore : s.drained with
      | none =>
        rw [hbefore] at hvalues
        exact Option.some.inj hvalues
      | some before =>
        rw [hbefore] at hvalues
        rw [h.drained before hbefore]
        exact Option.some.inj hvalues

omit [DecidableEq ι] in
/-- Where every push was over before the queue was closed, it loses values exactly if it has lost an
accepted one. -/
lemma loses_iff_not_drained {f : State ι α} (h : DrainInv n f) (hstop : StopInv n f) :
    Loses f ↔ ¬ Drained f := by
  have hlength := h.ring.won_length
  constructor
  · rintro ⟨hended, hlt⟩ hdrained
    obtain ⟨values, hvalues⟩ := Option.ne_none_iff_exists'.mp hended
    have hclosed := h.close.drained hended
    have haccepted : f.popped.length ∈ f.accepted := by
      rw [h.accepted_iff hclosed]
      omega
    obtain ⟨iv, -, hget⟩ := hdrained values hvalues f.popped.length haccepted
    rw [← hstop.drained values hvalues] at hget
    exact lt_irrefl _ (List.getElem?_eq_some_iff.mp hget).1
  · intro hlost
    by_contra hkeep
    apply hlost
    intro values hvalues p hp
    have hended : f.drained ≠ none := by
      rw [hvalues]
      exact Option.some_ne_none _
    have hall : f.won.length ≤ f.popped.length := by
      by_contra hlt
      exact hkeep ⟨hended, by omega⟩
    have hlt : p < f.won.length := by
      rw [hlength]
      exact h.accept.accepted_lt p hp
    have hwon : f.popped = f.won.map Prod.snd :=
      h.ring.popped_prefix.eq_of_length_le (by rwa [List.length_map])
    refine ⟨f.won[p], List.getElem?_eq_getElem hlt, ?_⟩
    rw [← hstop.drained values hvalues, hwon, List.getElem?_map, List.getElem?_eq_getElem hlt]
    rfl

/-- One step of the queue on the way to the end `f` of the run. -/
lemma Sim.step (hn : 2 ≤ n) {s t f : State ι α} {a : Action ι α} {rest : List (Action ι α)}
    {c : AtomicState (Option ι) (ClosingFifo α) (QueueOp α) (QueueResult α)} (hinv : StopInv n s)
    (hguard : Along (Queue.step n) StopsAtEnd s (a :: rest))
    (hrest : exec (Queue.step n) t rest = some f) (hs : Queue.step n s a = some t) (h : Sim f s c) :
    ∃ d, AtomicRun (queueSpec (Loses f)) c (shows s a) d ∧ Sim f t d := by
  have hinv' := hinv.step hn hguard.1 hs
  have hlater := leads_of_run hn hinv'.ring hinv'.ended (hguard.2 t hs) hrest
  have hnow := hlater.step hinv.ended hs
  have hle := hinv.ring.popped_prefix.length_le
  rw [List.length_map] at hle
  cases moves hs with
  | producer frame hmoves => exact h.ofProducer hle hnow hlater frame hmoves
  | consumer frame hmoves => exact h.ofConsumer hle hinv'.ring.popped_prefix hnow hlater frame hmoves

lemma linearizable_of_run (hn : 2 ≤ n) {v₀ : α} {as : List (Action ι α)} {f : State ι α}
    (hguard : Along (step n) StopsAtEnd (initial v₀) as)
    (hrun : exec (step n) (initial v₀) as = some f) :
    Linearizable (queueSpec (Loses f)) ClosingFifo.empty
      (callHistory (step n) shows (initial v₀) as) :=
  AtomicRun.of_simulation (fun _ _ _ => StopInv.step hn)
    (fun _ _ _ _ _ hinv hguard hrest hs h => Sim.step hn hinv hguard hrest hs h)
    (.initial n v₀) hguard hrun (.initial f v₀)

lemma loses_iff_not_cleanEnd (hn : 2 ≤ n) {v₀ : α} {as : List (Action ι α)} {f : State ι α}
    (hguard : Along (step n) StopsAtEnd (initial v₀) as)
    (hrun : exec (step n) (initial v₀) as = some f)
    (hclose : Along (step n) CloseAfterPushes (initial v₀) as) :
    Loses f ↔ ¬ Along (step n) (CleanEnd n) (initial v₀) as := by
  have hdrain : DrainInv n f :=
    exec_invariant (fun _ _ _ h hclose hs => h.step hn hclose hs) (.initial n v₀) hclose hrun
  have hstop : StopInv n f :=
    exec_invariant (fun _ _ _ => StopInv.step hn) (.initial n v₀) hguard hrun
  have hempty : Drained (initial v₀ : State ι α) := by
    intro values hvalues
    cases hvalues
  rw [loses_iff_not_drained hdrain hstop,
    drained_iff_cleanEnd hn (.initial n v₀) hempty hclose hrun]

/-- Under every interleaving of the producers and of a consumer that stops at the end, the calls and
returns are those of an atomic queue that can be closed. That queue loses values only where a `Pop`
returned false while values of pushes that had won a position were left; where `Close` comes after
the pushes, only where that `Pop` read `closed_` over a readable slot. -/
theorem queue_linearizable (hn : 2 ≤ n) (v₀ : α) (as : List (Action ι α)) (f : State ι α)
    (hguard : Along (step n) StopsAtEnd (initial v₀) as)
    (hrun : exec (step n) (initial v₀) as = some f) :
    Linearizable (queueSpec (Loses f)) ClosingFifo.empty
        (callHistory (step n) shows (initial v₀) as) ∧
      (Along (step n) CloseAfterPushes (initial v₀) as →
        (Loses f ↔ ¬ Along (step n) (CleanEnd n) (initial v₀) as)) :=
  ⟨linearizable_of_run hn hguard hrun, loses_iff_not_cleanEnd hn hguard hrun⟩

end Runs

instance (s : State ι α) (a : Action ι α) : Decidable (StopsAtEnd s a) :=
  match a with
  | .pop =>
    match h : s.drained with
    | none => isTrue h
    | some _ => isFalse (by simp [StopsAtEnd, h])
  | .push _ _ | .close _ | .consumerClose | .producer _ | .weakFail _ | .consumer | .wake _ =>
    isTrue trivial

/-- A push wins its position after another thread has closed the queue. -/
def overtakenPush : List (Action Bool Nat) :=
  [.push false 7] ++ List.replicate 3 (.producer false) ++
    .close true :: List.replicate 3 (.producer true) ++ List.replicate 4 (.producer false) ++
    .pop :: List.replicate 4 .consumer ++ [.pop, .consumer, .consumer]

theorem queue_linearizable_overtakenPush :
    ∃ f, exec (step 2) (initial 0) overtakenPush = some f ∧ f.popped = [7] ∧
      callHistory (step 2) shows (initial 0) overtakenPush =
        [.call (some false) (.push 7), .call (some true) .close, .ret (some true) .closed,
          .ret (some false) (.pushed true), .call none .pop, .ret none (.popped (some 7)),
          .call none .pop, .ret none (.popped none)] ∧
      Linearizable (queueSpec (Loses f)) ClosingFifo.empty
        (callHistory (step 2) shows (initial 0) overtakenPush) :=
  ⟨_, rfl, rfl, by decide,
    (queue_linearizable (n := 2) le_rfl 0 overtakenPush _ (by decide) rfl).1⟩

end Schengen.Queue
