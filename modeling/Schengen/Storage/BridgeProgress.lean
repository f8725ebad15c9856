import Schengen.Storage.BridgeDelivery

/-!
# The calling thread is never stuck

The channel of the Lance bridge is bounded, and whatever the calling thread waits for is a step that
the worker can take, if no send waits for ever on an empty channel.
-/

namespace Schengen.Storage
open Library

variable {β : Type}

namespace BridgeThreads
open WriterBridge

variable {bridge : WriterBridge} {channel mpsc : BridgeChannel β}
  {imported : β → Except String Unit} {worker : WorkerResult} {s t : BridgeThreads β}

/-! ## The channel of the Lance bridge -/

lemma bounded_pushBatch (h : s.messages.length ≤ channelBuffer) {batch : β}
    (hstep : s.pushBatch bridge syncChannel imported batch = some t) :
    t.messages.length ≤ channelBuffer := by
  unfold BridgeThreads.pushBatch at hstep
  split_ifs at hstep with hrefused hgone henters
  · cases hstep
    exact h
  · cases hstep
    exact h
  · cases hstep
    have hroom : s.messages.length < channelBuffer := of_decide_eq_true henters
    change (s.messages ++ [some batch]).length ≤ channelBuffer
    rw [List.length_append, List.length_singleton]
    exact hroom

lemma bounded_endWriter (h : s.messages.length ≤ channelBuffer) {destroys : Bool}
    (hstep : s.endWriter bridge syncChannel imported destroys = some t) :
    t.messages.length ≤ channelBuffer := by
  unfold BridgeThreads.endWriter at hstep
  dsimp only at hstep
  split_ifs at hstep with hover hdestroys hsilent hgone henters
  · cases hstep
    exact h
  · cases hstep
    exact h
  · cases hstep
    exact h
  · cases hstep
    exact h
  · cases hstep
    have hroom : s.messages.length < channelBuffer := of_decide_eq_true henters
    change (s.messages ++ [none]).length ≤ channelBuffer
    rw [List.length_append, List.length_singleton]
    exact hroom

lemma bounded_call (h : s.messages.length ≤ channelBuffer) {c : HandleCall β}
    (hstep : s.call bridge syncChannel imported c = some t) :
    t.messages.length ≤ channelBuffer := by
  unfold BridgeThreads.call at hstep
  split at hstep
  · cases c with
    | pushBatch batch => exact bounded_pushBatch h hstep
    | finish => exact bounded_endWriter h hstep
    | destroy => exact bounded_endWriter h hstep
    | beginPartition partNum partCount =>
      cases hstep
      exact h
    | endPartition =>
      cases hstep
      exact h
  · cases hstep

lemma bounded_resume (h : s.messages.length ≤ channelBuffer)
    (hstep : s.resume bridge channel imported = some t) : t.messages.length ≤ channelBuffer := by
  unfold BridgeThreads.resume at hstep
  split at hstep
  · split_ifs at hstep
    · cases hstep
      exact h
    · cases hstep
      exact h
  · split_ifs at hstep
    · cases hstep
      exact h
    · cases hstep
      exact h
  · cases hstep

/-- The worker only makes room. -/
lemma bounded_recv (hfifo : channel.Fifo) (h : s.messages.length ≤ channelBuffer)
    (hstep : s.recv channel = some t) : t.messages.length ≤ channelBuffer := by
  rw [recv_fifo hfifo] at hstep
  split at hstep
  · split at hstep
    · next batch messages hmessages =>
      cases hstep
      rw [hmessages] at h
      exact Nat.le_of_succ_le h
    · next messages hmessages =>
      cases hstep
      rw [hmessages] at h
      exact Nat.le_of_succ_le h
    · split at hstep
      · cases hstep
      · cases hstep
        exact h
  · cases hstep

lemma bounded_step (h : s.messages.length ≤ channelBuffer) {a : BridgeAction β}
    (hstep : s.step .lance imported mpsc a = some t) : t.messages.length ≤ channelBuffer := by
  cases a with
  | call c => exact bounded_call h hstep
  | resume => exact bounded_resume h hstep
  | recv => exact bounded_recv syncChannel_fifo h hstep
  | dropReceiver =>
    have hstep : s.dropReceiver = some t := hstep
    unfold BridgeThreads.dropReceiver at hstep
    split at hstep
    · cases hstep
      exact Nat.zero_le _
    · cases hstep
  | exit =>
    have hstep : s.exit = some t := hstep
    unfold BridgeThreads.exit at hstep
    split at hstep
    · cases hstep
    · cases hstep
      exact Nat.zero_le _

/-! ## What the calling thread waits for -/

/-- The step can be taken after steps of the worker, which keeps its promise. -/
def Proceeds (bridge : WriterBridge) (imported : β → Except String Unit) (mpsc : BridgeChannel β)
    (s : BridgeThreads β) (a : BridgeAction β) : Prop :=
  ∃ waits t u, (∀ w ∈ waits, w = .recv ∨ w = .exit) ∧
    Along (step bridge imported mpsc) ReadsToEnd s waits ∧
    exec (step bridge imported mpsc) s waits = some t ∧ t.step bridge imported mpsc a = some u

lemma Proceeds.after {a w : BridgeAction β} (h : Proceeds bridge imported mpsc t a)
    (hw : w = .recv ∨ w = .exit) (hreads : s.ReadsToEnd w)
    (hstep : s.step bridge imported mpsc w = some t) : Proceeds bridge imported mpsc s a := by
  obtain ⟨waits, u, v, hwaits, halong, hrun, hlast⟩ := h
  refine ⟨w :: waits, u, v, List.forall_mem_cons.mpr ⟨hw, hwaits⟩, ⟨hreads, ?_⟩, ?_, hlast⟩
  · intro next hnext
    cases hstep.symm.trans hnext
    exact halong
  · rw [exec_cons, hstep, Option.bind_some, hrun]

lemma Proceeds.now {a : BridgeAction β} (h : (s.step bridge imported mpsc a).isSome = true) :
    Proceeds bridge imported mpsc s a := by
  obtain ⟨u, hu⟩ := Option.isSome_iff_exists.mp h
  exact ⟨[], s, u, by simp, trivial, rfl, hu⟩

/-- A receive leaves the calling thread as it is. -/
structure Receives (s t : BridgeThreads β) : Prop where
  length : t.messages.length + 1 = s.messages.length
  caller : t.caller = s.caller
  connected : t.connected = s.connected
  receiver : t.receiver = s.receiver

/-- The worker can receive what waits. -/
lemma recv_of_waiting (hfifo : channel.Fifo) (hreceiver : s.receiver = true)
    (hended : s.ended = false) (hwaiting : s.messages ≠ []) :
    ∃ t, s.recv channel = some t ∧ Receives s t := by
  rw [recv_fifo hfifo, hreceiver, hended, if_pos (by decide)]
  rcases hmessages : s.messages with _ | ⟨_ | batch, messages⟩
  · exact absurd hmessages hwaiting
  · exact ⟨_, rfl, by rw [hmessages]; rfl, rfl, rfl, hreceiver.symm⟩
  · exact ⟨_, rfl, by rw [hmessages]; rfl, rfl, rfl, hreceiver.symm⟩

/-- A call that waits finds no place in the channel. -/
lemma call_none {c : HandleCall β} (hidle : s.caller = .idle)
    (hnone : s.call bridge channel imported c = none) :
    channel.enters s = false ∧ s.receiver = true ∧ s.handle.sender = true := by
  have hends : ∀ destroys, s.endWriter bridge channel imported destroys = none →
      channel.enters s = false ∧ s.receiver = true ∧ s.handle.sender = true := by
    intro destroys hends
    unfold BridgeThreads.endWriter at hends
    dsimp only at hends
    split_ifs at hends with hover hdestroys hsilent hgone henters
    have hsender : s.handle.sender = true := by
      simp at hsilent
      exact hsilent.2
    exact ⟨by simpa using henters, by simpa using hgone, hsender⟩
  unfold BridgeThreads.call at hnone
  rw [hidle] at hnone
  cases c with
  | finish => exact hends false hnone
  | destroy => exact hends true hnone
  | beginPartition partNum partCount => cases hnone
  | endPartition => cases hnone
  | pushBatch batch =>
    dsimp only at hnone
    unfold BridgeThreads.pushBatch at hnone
    split_ifs at hnone with hrefused hgone henters
    have hsender : s.handle.sender = true := by
      simp at hrefused
      exact hrefused.2
    exact ⟨by simpa using henters, by simpa using hgone, hsender⟩

lemma Channelled.going (h : s.Channelled bridge imported worker) (hconnected : s.connected = true) :
    s.ended = false := by
  by_contra hended
  have hclosed := (h.ended (by simpa using hended)).1
  rw [hconnected] at hclosed
  cases hclosed

/-- A step that can be taken when the worker has received all that waits. -/
lemma Channelled.proceeds_empty (hfifo : mpsc.Fifo) {a : BridgeAction β} (length : Nat)
    {s : BridgeThreads β} (h : s.Channelled bridge imported worker) (hconnected : s.connected = true)
    (hreceiver : s.receiver = true) (hlength : s.messages.length ≤ length)
    (hready : ∀ t : BridgeThreads β, t.caller = s.caller → t.messages = [] →
      (t.step bridge imported mpsc a).isSome = true) : Proceeds bridge imported mpsc s a := by
  by_cases hnil : s.messages = []
  · exact .now (hready s rfl hnil)
  · have hstream : (bridge.channel mpsc).Fifo := channel_fifo hfifo
    obtain ⟨t, hrecv, hreceives⟩ :=
      recv_of_waiting hstream hreceiver (h.going hconnected) hnil
    have hshorter := hreceives.length
    cases length with
    | zero => exact absurd (List.length_eq_zero_iff.mp (Nat.le_zero.mp hlength)) hnil
    | succ length =>
      have hnext := (h.recv hstream hrecv).proceeds_empty hfifo (a := a) length
        (hreceives.connected.trans hconnected) (hreceives.receiver.trans hreceiver) (by omega)
        fun u hu hempty => hready u (hu.trans hreceives.caller) hempty
      exact hnext.after (.inl rfl) trivial hrecv

lemma channel_live (hlive : mpsc.Live) : (bridge.channel mpsc).Live := by
  cases bridge with
  | lance =>
    intro s hempty
    refine ⟨decide_eq_true ?_, rfl⟩
    rw [hempty]
    exact Nat.succ_pos 7
  | vortex => exact hlive

lemma Channelled.proceeds_call (hfifo : mpsc.Fifo) (hlive : mpsc.Live)
    (h : s.Channelled bridge imported worker) (hidle : s.caller = .idle) (c : HandleCall β) :
    Proceeds bridge imported mpsc s (.call c) := by
  cases hcall : s.call bridge (bridge.channel mpsc) imported c with
  | some t => exact .now (Option.isSome_iff_exists.mpr ⟨t, hcall⟩)
  | none =>
    obtain ⟨-, hreceiver, hsender⟩ := call_none hidle hcall
    have hopen : s.connected = true := by
      rcases h.idle hidle with ⟨hconnected, -⟩ | ⟨-, -, hjoined⟩
      · exact hconnected
      · rw [hjoined.sender] at hsender
        cases hsender
    refine h.proceeds_empty hfifo _ hopen hreceiver (Nat.le_refl _) fun t hcaller hempty => ?_
    by_contra hblocked
    have hnone : t.call bridge (bridge.channel mpsc) imported c = none :=
      Option.not_isSome_iff_eq_none.mp hblocked
    have hfull := (call_none (hcaller.trans hidle) hnone).1
    rw [(channel_live hlive t hempty).1] at hfull
    cases hfull

lemma resume_flushing {batch : β} (hflushing : t.caller = .flushing batch)
    (hready : t.receiver = false ∨ channel.returns t = true) :
    (t.resume bridge channel imported).isSome = true := by
  unfold BridgeThreads.resume
  rw [hflushing]
  dsimp only
  by_cases hgone : t.receiver = false
  · rw [if_pos (by simpa using hgone)]
    rfl
  · rw [if_neg (by simpa using hgone), if_pos (hready.resolve_left hgone)]
    rfl

lemma Channelled.proceeds_flushing (hfifo : mpsc.Fifo) (hlive : mpsc.Live)
    (h : s.Channelled bridge imported worker) {batch : β} (hflushing : s.caller = .flushing batch) :
    Proceeds bridge imported mpsc s .resume := by
  by_cases hreceiver : s.receiver = true
  · have hopen : s.connected = true := by
      have hphase := h.phase
      unfold Phase at hphase
      rw [hflushing] at hphase
      exact hphase.1
    refine h.proceeds_empty hfifo _ hopen hreceiver (Nat.le_refl _) fun t hcaller hempty => ?_
    exact resume_flushing (hcaller.trans hflushing) (.inr (channel_live hlive t hempty).2)
  · exact .now (resume_flushing hflushing (.inl (by simpa using hreceiver)))

lemma exit_some (hexited : s.exited = false) :
    s.exit = some { s with messages := [], receiver := false, exited := true } := by
  unfold BridgeThreads.exit
  rw [hexited]
  rfl

/-- The worker comes to its end when the sender is gone. -/
lemma Channelled.proceeds_joining (hfifo : mpsc.Fifo) {s : BridgeThreads β}
    {sent : Except String Unit} {destroys : Bool} (length : Nat)
    (h : s.Channelled bridge imported worker) (hjoining : s.caller = .joining sent destroys)
    (hlength : s.messages.length ≤ length) : Proceeds bridge imported mpsc s .resume := by
  have hready : ∀ {t : BridgeThreads β}, t.caller = .joining sent destroys → t.exited = true →
      (t.step bridge imported mpsc .resume).isSome = true := by
    intro t hcaller hexited
    change (t.resume bridge (bridge.channel mpsc) imported).isSome = true
    unfold BridgeThreads.resume
    rw [hcaller]
    dsimp only
    rw [if_pos hexited]
    split <;> rfl
  have hleave : ∀ {t : BridgeThreads β}, t.caller = .joining sent destroys → t.exited = false →
      (t.handle.worker = some .done → t.ended = true) → Proceeds bridge imported mpsc t .resume := by
    intro t hcaller hexited hreads
    have hresume : Proceeds bridge imported mpsc
        { t with messages := [], receiver := false, exited := true } .resume :=
      .now (hready hcaller rfl)
    exact hresume.after (.inr rfl) hreads (exit_some hexited)
  have hphase := h.phase
  unfold Phase at hphase
  rw [hjoining] at hphase
  by_cases hexited : s.exited = true
  · exact .now (hready hjoining hexited)
  have hrunning : s.exited = false := by simpa using hexited
  by_cases hreads : s.handle.worker = some .done → s.ended = true
  · exact hleave hjoining hrunning hreads
  obtain ⟨hworker, hgoing⟩ := Classical.not_imp.mp hreads
  have hended : s.ended = false := by simpa using hgoing
  have hdone : worker = .done := Option.some.inj (hphase.2.worker.symm.trans hworker)
  have hreceiver := (h.reading hdone hended).1
  have hstream : (bridge.channel mpsc).Fifo := channel_fifo hfifo
  by_cases hnil : s.messages = []
  · have hrecv : s.recv (bridge.channel mpsc) = some { s with ended := true } := by
      rw [recv_fifo hstream, hreceiver, hended, if_pos (by decide), hnil]
      dsimp only
      rw [if_neg (by rw [hphase.1]; decide)]
    have hleaves : Proceeds bridge imported mpsc { s with ended := true } .resume :=
      hleave hjoining hrunning fun _ => rfl
    exact hleaves.after (.inl rfl) trivial hrecv
  · obtain ⟨t, hrecv, hreceives⟩ := recv_of_waiting hstream hreceiver hended hnil
    have hshorter := hreceives.length
    cases length with
    | zero => exact absurd (List.length_eq_zero_iff.mp (Nat.le_zero.mp hlength)) hnil
    | succ length =>
      have hnext := (h.recv hstream hrecv).proceeds_joining hfifo length
        (hreceives.caller.trans hjoining) (by omega)
      exact hnext.after (.inl rfl) trivial hrecv

/-- In every order of the steps the channel of Lance stays small, and the calling thread waits only for
steps that the worker can take: any call can be made, and any call that was made returns. -/
theorem never_stuck (hfifo : mpsc.Fifo) (hlive : mpsc.Live) {actions : List (BridgeAction β)}
    (hreads : Along (step bridge imported mpsc) ReadsToEnd (new worker) actions)
    (hrun : exec (step bridge imported mpsc) (new worker) actions = some s) :
    (bridge = .lance → s.messages.length ≤ channelBuffer) ∧
      (s.caller = .idle → ∀ c, Proceeds bridge imported mpsc s (.call c)) ∧
      (s.caller ≠ .idle → s.caller ≠ .released → Proceeds bridge imported mpsc s .resume) := by
  have hs := channelled_of_exec hfifo hreads hrun
  refine ⟨?_, fun hidle c => hs.proceeds_call hfifo hlive hidle c, fun hidle hreleased => ?_⟩
  · rintro rfl
    have hreached : Reachable (step .lance imported mpsc) (new worker) s := ⟨actions, hrun⟩
    exact hreached.invariant (I := fun s => s.messages.length ≤ channelBuffer) (Nat.zero_le _)
      fun _ _ _ hs hstep => bounded_step hs hstep
  · cases hcaller : s.caller with
    | idle => exact absurd hcaller hidle
    | flushing batch => exact hs.proceeds_flushing hfifo hlive hcaller
    | joining sent destroys => exact hs.proceeds_joining hfifo _ hcaller (Nat.le_refl _)
    | released => exact absurd hcaller hreleased

/-- Eight batches that the worker has not received yet. -/
def fullChannel : BridgeThreads Nat where
  handle := .new .done
  messages := List.replicate 8 (some 0)
  connected := true
  receiver := true
  ended := false
  exited := false
  caller := .idle
  sent := List.replicate 8 0
  received := []
  log := List.replicate 8 ⟨.pushBatch 0, .ok (), 0⟩

def fillChannel : List (BridgeAction Nat) :=
  (List.replicate 8 [.call (.pushBatch 0), .resume]).flatten

lemma mpscChannel_live : (mpscChannel : BridgeChannel β).Live := by
  intro s hempty
  have hroom : s.messages.length ≤ channelBuffer := by
    rw [hempty]
    exact Nat.zero_le _
  exact ⟨decide_eq_true hroom, decide_eq_true hroom⟩

theorem never_stuck_full :
    fullChannel.step .lance (fun _ => .ok ()) mpscChannel (.call (.pushBatch 1)) = none ∧
      Proceeds .lance (fun _ => .ok ()) mpscChannel fullChannel (.call (.pushBatch 1)) ∧
      Proceeds .vortex (fun _ => .ok ()) mpscChannel fullChannel (.call .finish) := by
  have hrun : ∀ bridge, exec (step bridge (fun _ => .ok ()) mpscChannel) (new .done) fillChannel =
      some fullChannel := by
    intro bridge
    cases bridge <;> rfl
  have hreads : ∀ bridge, Along (step bridge (fun _ => .ok ()) mpscChannel) ReadsToEnd (new .done)
      fillChannel := by
    intro bridge
    cases bridge <;> exact of_decide_eq_true rfl
  have hnever := fun bridge =>
    never_stuck mpscChannel_fifo mpscChannel_live (hreads bridge) (hrun bridge)
  exact ⟨rfl, (hnever .lance).2.1 rfl _, (hnever .vortex).2.1 rfl _⟩

end BridgeThreads

end Schengen.Storage
