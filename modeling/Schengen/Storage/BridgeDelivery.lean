import Schengen.Storage.BridgeThreads

/-!
# What the worker receives

In every order of the calls and of the worker's steps, a `finish` that returns 0 as the first one says
that the worker received every batch that was pushed, in order, if its writer succeeds only behind the
end of the stream.
-/

namespace Schengen.Storage
open Library

variable {β : Type}

namespace WriterBridge

variable (bridge : WriterBridge)

lemma calls_concat (cs : List BridgeCall) (c : BridgeCall) (handle : WriterHandle) :
    bridge.calls (cs ++ [c]) handle =
      ((bridge.calls cs handle).1 ++ [(c, (bridge.call c (bridge.calls cs handle).2).1)],
        (bridge.call c (bridge.calls cs handle).2).2) := by
  induction cs generalizing handle with
  | nil => rfl
  | cons d cs ih =>
    rw [List.cons_append, calls, ih]
    rfl

variable {bridge} {handle : WriterHandle} {worker : WorkerResult}

/-- The first `finish` returns 0 for the worker's success alone, and the worker stays joined. -/
lemma calls_first {before : List BridgeCall} (hbefore : ∀ c ∈ before, c.isFinish = false)
    (sent : Except String Unit) (after : List BridgeCall) (h : handle.Open worker) :
    ∃ first code rest, (bridge.calls (before ++ .finish sent :: after) handle).1 =
        first ++ (.finish sent, code) :: rest ∧
      first.length = before.length ∧ (code = 0 ↔ worker = .done) ∧
      (bridge.calls (before ++ .finish sent :: after) handle).2.Joined := by
  induction before generalizing handle with
  | nil =>
    obtain ⟨hjoined, hcode⟩ := finish_open bridge sent h
    exact ⟨[], _, _, rfl, rfl, hcode, (calls_joined bridge after hjoined).1⟩
  | cons c before ih =>
    obtain ⟨hc, hrest⟩ := List.forall_mem_cons.mp hbefore
    obtain ⟨first, code, rest, hcalls, hlength, hcode, hjoined⟩ := ih hrest (call_open bridge hc h)
    refine ⟨(c, (bridge.call c handle).1) :: first, code, rest, ?_, congrArg (· + 1) hlength, hcode,
      hjoined⟩
    rw [List.cons_append, List.cons_append, calls, hcalls]

/-- A push on an open handle succeeds with its import and its send. -/
lemma pushBatch_open_code (array sent : Except String Unit) (h : handle.Open worker) :
    (writerPushBatch array sent handle).1 = 0 ↔ array.isOk = true ∧ sent.isOk = true := by
  have hsender : handle.clearError.sender = true := h.sender
  have hfinished : ¬ handle.clearError.finished = true := by
    simp [WriterHandle.clearError, h.finished]
  simp only [writerPushBatch, hsender, if_neg hfinished]
  cases array with
  | error err => exact iff_of_false Int.one_ne_zero (by simp [Except.isOk, Except.toBool])
  | ok =>
    cases sent with
    | error err => exact iff_of_false Int.one_ne_zero (by simp [Except.isOk, Except.toBool])
    | ok => exact iff_of_true rfl ⟨rfl, rfl⟩

lemma destroy_of_open (sent : Except String Unit) (h : handle.Open worker) :
    (bridge.destroy sent handle).Joined := by
  unfold destroy
  rw [h.finished]
  exact (finish_open bridge sent h).1

lemma destroy_of_joined (sent : Except String Unit) (h : handle.Joined) :
    (bridge.destroy sent handle).Joined := by
  unfold destroy
  split
  · exact h
  · exact (finish_joined bridge sent h).1

end WriterBridge

namespace BridgeThreads
open WriterBridge

variable {bridge : WriterBridge} {channel mpsc : BridgeChannel β}
  {imported : β → Except String Unit} {worker : WorkerResult} {s t : BridgeThreads β}

lemma syncChannel_fifo : (syncChannel : BridgeChannel β).Fifo := fun _ => rfl

lemma channel_fifo (hfifo : mpsc.Fifo) : (bridge.channel mpsc).Fifo := by
  cases bridge with
  | lance => exact syncChannel_fifo
  | vortex => exact hfifo

/-- The handle and the sender's end, by where the calling thread is. -/
def Phase (worker : WorkerResult) (s : BridgeThreads β) : Prop :=
  match s.caller with
  | .idle => (s.connected = true ∧ s.handle.Open worker) ∨
      (s.connected = false ∧ s.exited = true ∧ s.handle.Joined)
  | .flushing _ => s.connected = true ∧ s.handle.Open worker
  | .joining _ _ => s.connected = false ∧ s.handle.Open worker
  | .released => s.connected = false ∧ s.exited = true ∧ s.handle.Joined

/-- The call of an entry as one on the handle alone. -/
def bridgeEntry (imported : β → Except String Unit) (entry : BridgeEntry β) : BridgeCall :=
  bridgeCall imported entry.sent entry.call

/-- While there is a receiver, what was sent has been received or waits; behind the waiting batches there
may be the end of the stream. -/
structure Channelled (bridge : WriterBridge) (imported : β → Except String Unit)
    (worker : WorkerResult) (s : BridgeThreads β) : Prop where
  stream : ∃ batches tail, s.messages = batches.map some ++ tail ∧
    (tail = [] ∨ (tail = [none] ∧ s.connected = false)) ∧
    (s.receiver = true → s.sent = s.received ++ batches)
  ended : s.ended = true → s.connected = false ∧ s.sent = s.received
  reading : worker = .done → s.ended = false → s.receiver = true ∧ s.exited = false
  left : s.exited = true → s.receiver = false
  accepted : worker = .done → s.sent = accepted s.log ++ pending s.caller
  importable : ∀ batch, s.caller = .flushing batch → (imported batch).isOk = true
  phase : s.Phase worker
  calls : (bridge.calls (s.log.map (bridgeEntry imported)) (.new worker)).1 =
    s.log.map fun e => (bridgeEntry imported e, e.code)
  handle : s.caller ≠ .released →
    (bridge.calls (s.log.map (bridgeEntry imported)) (.new worker)).2 = s.handle

lemma channelled_new (worker : WorkerResult) :
    (new worker : BridgeThreads β).Channelled bridge imported worker where
  stream := ⟨[], [], rfl, .inl rfl, fun _ => rfl⟩
  ended := fun h => nomatch h
  reading := fun _ _ => ⟨rfl, rfl⟩
  left := fun h => nomatch h
  accepted := fun _ => rfl
  importable := fun _ hfalse => nomatch hfalse
  phase := .inl ⟨rfl, new_open worker⟩
  calls := rfl
  handle := fun _ => rfl

/-! ## The steps of the worker -/

/-- What the calling thread has is not changed by the worker. -/
structure WorkerStep (s t : BridgeThreads β) : Prop where
  handle : t.handle = s.handle
  connected : t.connected = s.connected
  caller : t.caller = s.caller
  sent : t.sent = s.sent
  log : t.log = s.log
  exited : s.exited = true → t.exited = true

lemma Phase.ofWorker (h : s.Phase worker) (hstep : WorkerStep s t) : t.Phase worker := by
  unfold Phase at h ⊢
  rw [hstep.caller, hstep.connected, hstep.handle]
  cases hcaller : s.caller with
  | idle =>
    rw [hcaller] at h
    exact h.imp id fun ⟨hconnected, hexited, hjoined⟩ => ⟨hconnected, hstep.exited hexited, hjoined⟩
  | flushing batch =>
    rw [hcaller] at h
    exact h
  | joining sent destroys =>
    rw [hcaller] at h
    exact h
  | released =>
    rw [hcaller] at h
    exact ⟨h.1, hstep.exited h.2.1, h.2.2⟩

/-- The worker's steps are told apart by the stream alone. -/
lemma Channelled.ofWorker (h : s.Channelled bridge imported worker) (hstep : WorkerStep s t)
    (hstream : ∃ batches tail, t.messages = batches.map some ++ tail ∧
      (tail = [] ∨ (tail = [none] ∧ t.connected = false)) ∧
      (t.receiver = true → t.sent = t.received ++ batches))
    (hended : t.ended = true → t.connected = false ∧ t.sent = t.received)
    (hreading : worker = .done → t.ended = false → t.receiver = true ∧ t.exited = false)
    (hleft : t.exited = true → t.receiver = false) : t.Channelled bridge imported worker where
  stream := hstream
  ended := hended
  reading := hreading
  left := hleft
  accepted := by
    rw [hstep.sent, hstep.log, hstep.caller]
    exact h.accepted
  importable := by
    rw [hstep.caller]
    exact h.importable
  phase := h.phase.ofWorker hstep
  calls := by
    rw [hstep.log]
    exact h.calls
  handle := by
    rw [hstep.log, hstep.handle, hstep.caller]
    exact h.handle

/-- The worker takes the first message. -/
lemma recv_fifo (hfifo : channel.Fifo) (s : BridgeThreads β) : s.recv channel =
    if s.receiver && !s.ended then
      match s.messages with
      | some batch :: messages =>
        some { s with messages := messages, received := s.received ++ [batch] }
      | none :: messages => some { s with messages := messages, ended := true }
      | [] => if s.connected then none else some { s with ended := true }
    else none := by
  unfold BridgeThreads.recv
  rw [hfifo s]
  rcases s.messages with _ | ⟨_ | batch, messages⟩ <;> rfl

lemma Channelled.recv (hfifo : channel.Fifo) (h : s.Channelled bridge imported worker)
    (hstep : s.recv channel = some t) : t.Channelled bridge imported worker := by
  rw [recv_fifo hfifo] at hstep
  by_cases hopen : (s.receiver && !s.ended) = true
  · rw [if_pos hopen] at hstep
    obtain ⟨hreceiver, hended⟩ : s.receiver = true ∧ s.ended = false := by simpa using hopen
    obtain ⟨batches, tail, hmessages, htail, hsent⟩ := h.stream
    rcases hs : s.messages with _ | ⟨_ | batch, messages⟩
    · rw [hs] at hstep
      dsimp only at hstep
      split at hstep
      · cases hstep
      · cases hstep
        have hnone : batches = [] := by
          cases batches with
          | nil => rfl
          | cons batch batches => rw [hs] at hmessages; cases hmessages
        rw [hnone, List.append_nil] at hsent
        refine h.ofWorker ⟨rfl, rfl, rfl, rfl, rfl, id⟩ ⟨[], [], rfl, .inl rfl, ?_⟩
          (fun _ => ⟨by simpa using ‹¬ s.connected = true›, hsent hreceiver⟩)
          (fun _ hfalse => nomatch hfalse) h.left
        exact fun _ => by rw [hsent hreceiver, List.append_nil]
    · rw [hs] at hstep
      cases hstep
      have hnone : batches = [] := by
        cases batches with
        | nil => rfl
        | cons batch batches => rw [hs] at hmessages; cases hmessages
      rw [hnone, List.append_nil] at hsent
      rw [hnone, hs] at hmessages
      have hlast : messages = [] ∧ s.connected = false := by
        rcases htail with htail | ⟨htail, hconnected⟩
        · rw [htail] at hmessages
          cases hmessages
        · rw [htail] at hmessages
          cases hmessages
          exact ⟨rfl, hconnected⟩
      exact h.ofWorker ⟨rfl, rfl, rfl, rfl, rfl, id⟩
        ⟨[], [], hlast.1, .inl rfl, fun _ => by rw [hsent hreceiver, List.append_nil]⟩
        (fun _ => ⟨hlast.2, hsent hreceiver⟩) (fun _ hfalse => nomatch hfalse) h.left
    · rw [hs] at hstep
      cases hstep
      obtain ⟨rest, hbatches⟩ : ∃ rest, batches = batch :: rest ∧ messages = rest.map some ++ tail := by
        cases batches with
        | nil =>
          rw [hs] at hmessages
          rcases htail with htail | ⟨htail, -⟩ <;> rw [htail] at hmessages <;> cases hmessages
        | cons first rest =>
          rw [hs] at hmessages
          cases hmessages
          exact ⟨rest, rfl, rfl⟩
      refine h.ofWorker ⟨rfl, rfl, rfl, rfl, rfl, id⟩ ⟨rest, tail, hbatches.2, htail, fun _ => ?_⟩
        (fun hfalse => ?_) (fun hdone hfalse => h.reading hdone hfalse) h.left
      · rw [hsent hreceiver, hbatches.1, List.append_assoc]
        rfl
      · dsimp only at hfalse
        rw [hended] at hfalse
        cases hfalse
  · rw [if_neg hopen] at hstep
    cases hstep

/-- A worker that is to succeed leaves only behind the end of the stream. -/
lemma Channelled.ended_of_leaves (h : s.Channelled bridge imported worker)
    (hreads : s.handle.worker = some .done → s.ended = true)
    (hdone : worker = .done) : s.ended = true := by
  by_contra hgoing
  have hended : s.ended = false := by simpa using hgoing
  have hexited : s.exited = false := (h.reading hdone hended).2
  have hopen : s.handle.Open worker := by
    have hphase := h.phase
    unfold Phase at hphase
    split at hphase
    · rcases hphase with ⟨-, hopen⟩ | ⟨-, hexit, -⟩
      · exact hopen
      · rw [hexited] at hexit
        cases hexit
    · exact hphase.2
    · exact hphase.2
    · rw [hexited] at hphase
      cases hphase.2.1
  exact hgoing (hreads (hopen.worker.trans (congrArg some hdone)))

/-- Where the reader is given up, what waits is dropped. -/
lemma Channelled.dropped (h : s.Channelled bridge imported worker) (exited : Bool)
    (hexits : s.exited = true → exited = true)
    (hleaves : worker = .done → s.ended = true) :
    Channelled bridge imported worker
      { s with messages := [], receiver := false, exited := exited } :=
  h.ofWorker ⟨rfl, rfl, rfl, rfl, rfl, hexits⟩ ⟨[], [], rfl, .inl rfl, fun hfalse => nomatch hfalse⟩
    h.ended (fun hdone hended => by
      dsimp only at hended
      rw [hleaves hdone] at hended
      cases hended) (fun _ => rfl)

lemma Channelled.dropReceiver (h : s.Channelled bridge imported worker)
    (hreads : s.handle.worker = some .done → s.ended = true) (hstep : s.dropReceiver = some t) :
    t.Channelled bridge imported worker := by
  unfold BridgeThreads.dropReceiver at hstep
  split at hstep
  · cases hstep
    exact h.dropped s.exited id (h.ended_of_leaves hreads)
  · cases hstep

lemma Channelled.exit (h : s.Channelled bridge imported worker)
    (hreads : s.handle.worker = some .done → s.ended = true) (hstep : s.exit = some t) :
    t.Channelled bridge imported worker := by
  unfold BridgeThreads.exit at hstep
  split at hstep
  · cases hstep
  · cases hstep
    exact h.dropped true (fun _ => rfl) (h.ended_of_leaves hreads)

/-! ## The steps of the calling thread -/

lemma accepted_push (batch : β) (sent : Except String Unit) (code : Int) :
    accepted [⟨.pushBatch batch, sent, code⟩] = if code = 0 then [batch] else [] := by
  by_cases hcode : code = 0
  · rw [if_pos hcode]
    exact List.filterMap_cons_some (if_pos hcode)
  · rw [if_neg hcode]
    exact List.filterMap_cons_none (if_neg hcode)

lemma accepted_concat (log : List (BridgeEntry β)) (entry : BridgeEntry β) :
    accepted (log ++ [entry]) = accepted log ++ accepted [entry] := List.filterMap_append

/-- A call returns: the calls on the handle go on, and the batches stay in order. -/
lemma Channelled.answer (h : s.Channelled bridge imported worker) (hreleased : s.caller ≠ .released)
    {c : HandleCall β} {sent : Except String Unit}
    (hphase : (s.answer bridge imported c sent).Phase worker)
    (hbatches : worker = .done → pending s.caller =
      BridgeThreads.accepted [⟨c, sent, (bridge.call (bridgeCall imported sent c) s.handle).1⟩]) :
    (s.answer bridge imported c sent).Channelled bridge imported worker where
  stream := h.stream
  ended := h.ended
  reading := h.reading
  left := h.left
  accepted := fun hdone => by
    change s.sent = BridgeThreads.accepted (s.log ++ [_]) ++ []
    rw [accepted_concat, List.append_nil, ← hbatches hdone]
    exact h.accepted hdone
  importable := fun _ hfalse => nomatch hfalse
  phase := hphase
  calls := by
    change (bridge.calls ((s.log ++ [_]).map _) _).1 = (s.log ++ [_]).map _
    rw [List.map_append, List.map_singleton, calls_concat, h.calls, h.handle hreleased,
      List.map_append]
    rfl
  handle := fun _ => by
    change (bridge.calls ((s.log ++ [_]).map _) _).2 = _
    rw [List.map_append, List.map_singleton, calls_concat, h.handle hreleased]
    rfl

/-- Calls other than those that end the writer leave the handle open, or joined. -/
lemma phase_answer {c : HandleCall β} {sent : Except String Unit}
    (hc : (bridgeCall imported sent c).isFinish = false)
    (hphase : (s.connected = true ∧ s.handle.Open worker) ∨
      (s.connected = false ∧ s.exited = true ∧ s.handle.Joined)) :
    (s.answer bridge imported c sent).Phase worker :=
  hphase.imp (And.imp id (call_open bridge hc))
    fun ⟨hconnected, hexited, hjoined⟩ => ⟨hconnected, hexited, (call_joined bridge _ hjoined).1⟩

lemma Channelled.idle (h : s.Channelled bridge imported worker) (hidle : s.caller = .idle) :
    (s.connected = true ∧ s.handle.Open worker) ∨
      (s.connected = false ∧ s.exited = true ∧ s.handle.Joined) := by
  have hphase := h.phase
  unfold Phase at hphase
  rwa [hidle] at hphase

/-- A push that fails. -/
lemma Channelled.refused (h : s.Channelled bridge imported worker) (hidle : s.caller = .idle)
    {batch : β} {sent : Except String Unit}
    (hcode : (writerPushBatch (imported batch) sent s.handle).1 ≠ 0) :
    (s.answer bridge imported (.pushBatch batch) sent).Channelled bridge imported worker := by
  refine h.answer (by rw [hidle]; exact fun hfalse => nomatch hfalse)
    (phase_answer rfl (h.idle hidle)) fun _ => ?_
  rw [hidle, accepted_push]
  exact (if_neg hcode).symm

/-- The batch is in the channel, and its push has not returned. -/
lemma Channelled.send (h : s.Channelled bridge imported worker) (hidle : s.caller = .idle)
    (hopen : s.connected = true ∧ s.handle.Open worker) (hreceiver : s.receiver = true) {batch : β}
    (himported : (imported batch).isOk = true) :
    Channelled bridge imported worker { s.send batch with caller := .flushing batch } where
  stream := by
    obtain ⟨batches, tail, hmessages, htail, hsent⟩ := h.stream
    have hnone : tail = [] := by
      rcases htail with htail | ⟨-, hconnected⟩
      · exact htail
      · rw [hopen.1] at hconnected
        cases hconnected
    rw [hnone, List.append_nil] at hmessages
    refine ⟨batches ++ [batch], [], ?_, .inl rfl, fun _ => ?_⟩
    · change s.messages ++ [some batch] = _
      rw [hmessages, List.map_append, List.append_nil]
      rfl
    · change s.sent ++ [batch] = _
      rw [hsent hreceiver, List.append_assoc]
      rfl
  ended := fun hended => by
    have hclosed := (h.ended hended).1
    rw [hopen.1] at hclosed
    cases hclosed
  reading := h.reading
  left := h.left
  accepted := fun hdone => by
    change s.sent ++ [batch] = BridgeThreads.accepted s.log ++ [batch]
    rw [h.accepted hdone, hidle]
    change (_ ++ []) ++ _ = _
    rw [List.append_nil]
  importable := by
    rintro other ⟨⟩
    exact himported
  phase := hopen
  calls := h.calls
  handle := fun _ => h.handle (by rw [hidle]; exact fun hfalse => nomatch hfalse)

/-- A push whose batch is in the channel returns 0. -/
lemma Channelled.flushed (h : s.Channelled bridge imported worker) {batch : β}
    (hflushing : s.caller = .flushing batch) :
    (s.answer bridge imported (.pushBatch batch) (.ok ())).Channelled bridge imported worker := by
  have hopen : s.connected = true ∧ s.handle.Open worker := by
    have hphase := h.phase
    unfold Phase at hphase
    rwa [hflushing] at hphase
  have hcode : (writerPushBatch (imported batch) (.ok ()) s.handle).1 = 0 :=
    (pushBatch_open_code _ _ hopen.2).mpr ⟨h.importable batch hflushing, rfl⟩
  refine h.answer (by rw [hflushing]; exact fun hfalse => nomatch hfalse)
    (phase_answer rfl (.inl hopen)) fun _ => ?_
  rw [hflushing, accepted_push]
  exact (if_pos hcode).symm

/-- A push whose receiver has gone since: the worker does not succeed. -/
lemma Channelled.flushedGone (h : s.Channelled bridge imported worker) {batch : β}
    (hflushing : s.caller = .flushing batch) (hgone : s.receiver = false)
    (sent : Except String Unit) :
    (s.answer bridge imported (.pushBatch batch) sent).Channelled bridge imported worker := by
  have hopen : s.connected = true ∧ s.handle.Open worker := by
    have hphase := h.phase
    unfold Phase at hphase
    rwa [hflushing] at hphase
  refine h.answer (by rw [hflushing]; exact fun hfalse => nomatch hfalse)
    (phase_answer rfl (.inl hopen)) fun hdone => ?_
  have hended : s.ended = true := by
    by_contra hgoing
    have hreceiver := (h.reading hdone (by simpa using hgoing)).1
    rw [hgone] at hreceiver
    cases hreceiver
  have hclosed := (h.ended hended).1
  rw [hopen.1] at hclosed
  cases hclosed

lemma Channelled.pushBatch (h : s.Channelled bridge imported worker) (hidle : s.caller = .idle)
    {batch : β} (hstep : s.pushBatch bridge channel imported batch = some t) :
    t.Channelled bridge imported worker := by
  unfold BridgeThreads.pushBatch at hstep
  by_cases hrefused : (s.handle.finished || !(imported batch).isOk || !s.handle.sender) = true
  · rw [if_pos hrefused] at hstep
    cases hstep
    refine h.refused hidle ?_
    rcases h.idle hidle with ⟨-, hopen⟩ | ⟨-, -, hjoined⟩
    · have hnot : (imported batch).isOk = false := by
        simpa [hopen.finished, hopen.sender] using hrefused
      rw [Ne, pushBatch_open_code _ _ hopen, hnot]
      exact fun hboth => nomatch hboth.1
    · exact (pushBatch_joined _ _ hjoined).2
  · rw [if_neg hrefused] at hstep
    obtain ⟨⟨-, himported⟩, hsender⟩ : (s.handle.finished = false ∧ (imported batch).isOk = true) ∧
        s.handle.sender = true := by simpa using hrefused
    have hopen : s.connected = true ∧ s.handle.Open worker := by
      rcases h.idle hidle with hopen | ⟨-, -, hjoined⟩
      · exact hopen
      · rw [hjoined.sender] at hsender
        cases hsender
    by_cases hreceiver : s.receiver = true
    · rw [if_neg (by simp [hreceiver])] at hstep
      split at hstep
      · cases hstep
        exact h.send hidle hopen hreceiver himported
      · cases hstep
    · rw [if_pos (by simpa using hreceiver)] at hstep
      cases hstep
      refine h.refused hidle ?_
      rw [Ne, pushBatch_open_code _ _ hopen.2]
      rintro ⟨-, hsent⟩
      cases hsent

/-- The end of the stream, and the wait for the worker. -/
lemma Channelled.join (h : s.Channelled bridge imported worker) (hidle : s.caller = .idle)
    (hopen : s.connected = true ∧ s.handle.Open worker) (sent : Except String Unit) (destroys : Bool)
    {tail : List (Option β)} (htail : tail = [] ∨ tail = [none]) :
    Channelled bridge imported worker
      { s with messages := s.messages ++ tail, connected := false, caller := .joining sent destroys } where
  stream := by
    obtain ⟨batches, last, hmessages, hlast, hsent⟩ := h.stream
    have hnone : last = [] := by
      rcases hlast with hlast | ⟨-, hconnected⟩
      · exact hlast
      · rw [hopen.1] at hconnected
        cases hconnected
    refine ⟨batches, tail, ?_, htail.imp id fun htail => ⟨htail, rfl⟩, hsent⟩
    dsimp only
    rw [hmessages, hnone, List.append_nil]
  ended := fun hended => ⟨rfl, (h.ended hended).2⟩
  reading := h.reading
  left := h.left
  accepted := fun hdone => by
    have haccepted := h.accepted hdone
    rw [hidle] at haccepted
    exact haccepted
  importable := fun _ hfalse => nomatch hfalse
  phase := ⟨rfl, hopen.2⟩
  calls := h.calls
  handle := fun _ => h.handle (by rw [hidle]; exact fun hfalse => nomatch hfalse)

/-- The handle is gone. -/
lemma Channelled.release (h : s.Channelled bridge imported worker) (hpending : pending s.caller = [])
    {handle : WriterHandle}
    (hjoined : s.connected = false ∧ s.exited = true ∧ handle.Joined) :
    Channelled bridge imported worker { s with handle := handle, caller := .released } where
  stream := h.stream
  ended := h.ended
  reading := h.reading
  left := h.left
  accepted := fun hdone => by
    have haccepted := h.accepted hdone
    rw [hpending] at haccepted
    exact haccepted
  importable := fun _ hfalse => nomatch hfalse
  phase := hjoined
  calls := h.calls
  handle := fun hfalse => absurd rfl hfalse

/-- `finish` returns, with the worker joined. -/
lemma Channelled.finished (h : s.Channelled bridge imported worker)
    (hreleased : s.caller ≠ .released) (hpending : pending s.caller = [])
    {sent : Except String Unit}
    (hjoined : s.connected = false ∧ s.exited = true ∧ (bridge.finish sent s.handle).2.Joined) :
    (s.answer bridge imported .finish sent).Channelled bridge imported worker :=
  h.answer hreleased (.inr hjoined) fun _ => hpending

lemma Channelled.endWriter (h : s.Channelled bridge imported worker) (hidle : s.caller = .idle)
    {destroys : Bool} (hstep : s.endWriter bridge channel imported destroys = some t) :
    t.Channelled bridge imported worker := by
  have hreleased : s.caller ≠ .released := by
    rw [hidle]
    exact fun hfalse => nomatch hfalse
  have hpending : pending s.caller = [] := by
    rw [hidle]
    rfl
  unfold BridgeThreads.endWriter at hstep
  by_cases hover : (s.handle.finished || s.handle.worker.isNone) = true
  · have hjoined : s.connected = false ∧ s.exited = true ∧ s.handle.Joined := by
      rcases h.idle hidle with ⟨-, hopen⟩ | hjoined
      · rw [hopen.finished, hopen.worker] at hover
        cases hover
      · exact hjoined
    rw [if_pos hover] at hstep
    split at hstep
    · cases hstep
      exact h.release hpending ⟨hjoined.1, hjoined.2.1, destroy_of_joined (.ok ()) hjoined.2.2⟩
    · cases hstep
      exact h.finished hreleased hpending
        ⟨hjoined.1, hjoined.2.1, (finish_joined bridge (.ok ()) hjoined.2.2).1⟩
  · have hopen : s.connected = true ∧ s.handle.Open worker := by
      rcases h.idle hidle with hopen | ⟨-, -, hjoined⟩
      · exact hopen
      · rw [hjoined.worker] at hover
        exact absurd (by simp) hover
    have hsilent : ∀ sent, Channelled bridge imported worker
        { s with connected := false, caller := .joining sent destroys } := by
      intro sent
      have hjoin := h.join hidle hopen sent destroys (.inl rfl)
      rwa [List.append_nil] at hjoin
    rw [if_neg hover] at hstep
    dsimp only at hstep
    split_ifs at hstep
    · cases hstep
      exact hsilent _
    · cases hstep
      exact hsilent _
    · cases hstep
      exact h.join hidle hopen _ destroys (.inr rfl)

lemma Channelled.call (h : s.Channelled bridge imported worker) {c : HandleCall β}
    (hstep : s.call bridge channel imported c = some t) : t.Channelled bridge imported worker := by
  unfold BridgeThreads.call at hstep
  cases hcaller : s.caller with
  | idle =>
    have hreleased : s.caller ≠ .released := by
      rw [hcaller]
      exact fun hfalse => nomatch hfalse
    have hpending : pending s.caller = [] := by
      rw [hcaller]
      rfl
    rw [hcaller] at hstep
    cases c with
    | pushBatch batch => exact h.pushBatch hcaller hstep
    | finish => exact h.endWriter hcaller hstep
    | destroy => exact h.endWriter hcaller hstep
    | beginPartition partNum partCount =>
      cases hstep
      exact h.answer hreleased (phase_answer rfl (h.idle hcaller)) fun _ => hpending
    | endPartition =>
      cases hstep
      exact h.answer hreleased (phase_answer rfl (h.idle hcaller)) fun _ => hpending
  | flushing batch =>
    rw [hcaller] at hstep
    cases hstep
  | joining sent destroys =>
    rw [hcaller] at hstep
    cases hstep
  | released =>
    rw [hcaller] at hstep
    cases hstep

lemma Channelled.resume (h : s.Channelled bridge imported worker)
    (hstep : s.resume bridge channel imported = some t) : t.Channelled bridge imported worker := by
  unfold BridgeThreads.resume at hstep
  cases hcaller : s.caller with
  | idle =>
    rw [hcaller] at hstep
    cases hstep
  | flushing batch =>
    rw [hcaller] at hstep
    dsimp only at hstep
    split at hstep
    · next hgone =>
      cases hstep
      exact h.flushedGone hcaller (by simpa using hgone) _
    · split at hstep
      · cases hstep
        exact h.flushed hcaller
      · cases hstep
  | joining sent destroys =>
    have hopen : s.connected = false ∧ s.handle.Open worker := by
      have hphase := h.phase
      unfold Phase at hphase
      rwa [hcaller] at hphase
    have hpending : pending s.caller = [] := by
      rw [hcaller]
      rfl
    rw [hcaller] at hstep
    dsimp only at hstep
    split at hstep
    · split at hstep
      · cases hstep
        exact h.release hpending ⟨hopen.1, ‹_›, destroy_of_open sent hopen.2⟩
      · cases hstep
        exact h.finished (by rw [hcaller]; exact fun hfalse => nomatch hfalse) hpending
          ⟨hopen.1, ‹_›, (finish_open bridge sent hopen.2).1⟩
    · cases hstep
  | released =>
    rw [hcaller] at hstep
    cases hstep

lemma Channelled.step (hfifo : mpsc.Fifo) (h : s.Channelled bridge imported worker)
    {a : BridgeAction β} (hreads : s.ReadsToEnd a) (hstep : s.step bridge imported mpsc a = some t) :
    t.Channelled bridge imported worker := by
  cases a with
  | call c => exact h.call hstep
  | resume => exact h.resume hstep
  | recv => exact h.recv (channel_fifo hfifo) hstep
  | dropReceiver => exact h.dropReceiver hreads hstep
  | exit => exact h.exit hreads hstep

lemma channelled_of_exec (hfifo : mpsc.Fifo) {actions : List (BridgeAction β)}
    (hreads : Along (step bridge imported mpsc) ReadsToEnd (new worker) actions)
    (hrun : exec (step bridge imported mpsc) (new worker) actions = some s) :
    s.Channelled bridge imported worker :=
  exec_invariant (fun _ _ _ hs hreads hstep => hs.step hfifo hreads hstep)
    (channelled_new worker) hreads hrun

/-! ## What a `finish` says -/

lemma Channelled.exited_of_joined (h : s.Channelled bridge imported worker)
    (hjoined : s.caller ≠ .released → s.handle.Joined) :
    s.exited = true ∧ pending s.caller = [] := by
  have hphase := h.phase
  have hopen : s.caller ≠ .released → ¬ s.handle.Open worker := by
    intro hcaller hopen
    have hworker := (hjoined hcaller).worker
    rw [hopen.worker] at hworker
    cases hworker
  unfold Phase at hphase
  cases hcaller : s.caller with
  | idle =>
    rw [hcaller] at hphase
    rcases hphase with ⟨-, hfalse⟩ | ⟨-, hexited, -⟩
    · exact absurd hfalse (hopen (by rw [hcaller]; exact fun hfalse => nomatch hfalse))
    · exact ⟨hexited, rfl⟩
  | flushing batch =>
    rw [hcaller] at hphase
    exact absurd hphase.2 (hopen (by rw [hcaller]; exact fun hfalse => nomatch hfalse))
  | joining sent destroys =>
    rw [hcaller] at hphase
    exact absurd hphase.2 (hopen (by rw [hcaller]; exact fun hfalse => nomatch hfalse))
  | released =>
    rw [hcaller] at hphase
    exact ⟨hphase.2.1, rfl⟩

/-- A first `finish` that returned 0 joined a worker that had succeeded. -/
lemma Channelled.joined_of_finish (hs : Channelled bridge imported worker s)
    {before after : List (BridgeEntry β)} {sent : Except String Unit}
    (hlog : s.log = before ++ ⟨.finish, sent, 0⟩ :: after)
    (hfirst : ∀ entry ∈ before, entry.call ≠ .finish ∧ entry.call ≠ .destroy) :
    worker = .done ∧ (s.caller ≠ .released → s.handle.Joined) := by
  have hbefore : ∀ c ∈ before.map (bridgeEntry imported), c.isFinish = false := by
    intro c hc
    obtain ⟨⟨call, sent, code⟩, hentry, rfl⟩ := List.mem_map.mp hc
    obtain ⟨hfinish, hdestroy⟩ := hfirst _ hentry
    cases call with
    | finish => exact absurd rfl hfinish
    | destroy => exact absurd rfl hdestroy
    | beginPartition partNum partCount => rfl
    | pushBatch batch => rfl
    | endPartition => rfl
  obtain ⟨first, code, rest, hcalls, hlength, hcode, hjoined⟩ :=
    @calls_first bridge _ _ _ hbefore sent (after.map (bridgeEntry imported)) (new_open worker)
  have hmap : s.log.map (bridgeEntry imported) = before.map (bridgeEntry imported) ++
      .finish sent :: after.map (bridgeEntry imported) := by
    rw [hlog, List.map_append, List.map_cons]
    rfl
  rw [← hmap] at hcalls hjoined
  constructor
  · rw [hs.calls, hlog, List.map_append, List.map_cons] at hcalls
    have hentry := (List.append_inj hcalls (by rw [List.length_map, hlength, List.length_map])).2
    apply hcode.mp
    exact (congrArg Prod.snd (List.cons_eq_cons.mp hentry).1).symm
  · intro hcaller
    rw [← hs.handle hcaller]
    exact hjoined

/-- A worker that succeeded and was joined has received what the pushes were accepted with. -/
lemma Channelled.received_of_joined (hs : Channelled bridge imported worker s) (hdone : worker = .done)
    (hjoined : s.caller ≠ .released → s.handle.Joined) :
    s.ended = true ∧ s.received = BridgeThreads.accepted s.log := by
  obtain ⟨hexited, hpending⟩ := hs.exited_of_joined hjoined
  have hended : s.ended = true := by
    by_contra hgoing
    have hstays := (hs.reading hdone (by simpa using hgoing)).2
    rw [hexited] at hstays
    cases hstays
  have haccepted := hs.accepted hdone
  rw [hpending, List.append_nil] at haccepted
  exact ⟨hended, (hs.ended hended).2.symm.trans haccepted⟩

/-- Where the first call that ends the writer returned 0, the worker succeeded, behind the end of its
stream, and it received the batches of all pushes that returned 0, each once and in order. -/
theorem delivers (hfifo : mpsc.Fifo) {actions : List (BridgeAction β)}
    (hreads : Along (step bridge imported mpsc) ReadsToEnd (new worker) actions)
    (hrun : exec (step bridge imported mpsc) (new worker) actions = some s)
    {before after : List (BridgeEntry β)} {sent : Except String Unit}
    (hlog : s.log = before ++ ⟨.finish, sent, 0⟩ :: after)
    (hfirst : ∀ entry ∈ before, entry.call ≠ .finish ∧ entry.call ≠ .destroy) :
    worker = .done ∧ s.ended = true ∧ s.received = accepted s.log := by
  have hs := channelled_of_exec hfifo hreads hrun
  obtain ⟨hdone, hjoined⟩ := hs.joined_of_finish hlog hfirst
  exact ⟨hdone, hs.received_of_joined hdone hjoined⟩

/-- A channel with a place for the sender beside its buffer, as `futures::channel::mpsc` documents
it. -/
def mpscChannel : BridgeChannel β where
  enters := fun s => s.messages.length ≤ channelBuffer
  returns := fun s => s.messages.length ≤ channelBuffer
  next := fun _ => 0
  refused := "send failed because receiver is gone"
  dropped := .ok ()

lemma mpscChannel_fifo : (mpscChannel : BridgeChannel β).Fifo := fun _ => rfl

/-- Two batches, the second one pushed after the worker received the first. -/
def twoBatches : List (BridgeAction Nat) :=
  [.call (.pushBatch 1), .recv, .resume, .call (.pushBatch 2), .resume, .call .finish, .recv, .recv,
    .exit, .resume]

def twoBatchesEnd : BridgeThreads Nat where
  handle := ⟨false, none, "", true, 1⟩
  messages := []
  connected := false
  receiver := false
  ended := true
  exited := true
  caller := .idle
  sent := [1, 2]
  received := [1, 2]
  log := [⟨.pushBatch 1, .ok (), 0⟩, ⟨.pushBatch 2, .ok (), 0⟩, ⟨.finish, .ok (), 0⟩]

lemma twoBatches_reads (bridge : WriterBridge) :
    exec (step bridge (fun _ : Nat => .ok ()) mpscChannel) (new .done) twoBatches =
        some twoBatchesEnd ∧
      Along (step bridge (fun _ : Nat => .ok ()) mpscChannel) ReadsToEnd (new .done) twoBatches := by
  cases bridge <;> exact ⟨rfl, of_decide_eq_true rfl⟩

theorem delivers_twoBatches :
    exec (step .lance (fun _ : Nat => .ok ()) mpscChannel) (new .done) twoBatches =
        some twoBatchesEnd ∧
      exec (step .vortex (fun _ : Nat => .ok ()) mpscChannel) (new .done) twoBatches =
        some twoBatchesEnd ∧
      WorkerResult.done = .done ∧ twoBatchesEnd.ended = true ∧
      twoBatchesEnd.received = accepted twoBatchesEnd.log := by
  have hlog : twoBatchesEnd.log =
      [⟨.pushBatch 1, .ok (), 0⟩, ⟨.pushBatch 2, .ok (), 0⟩] ++ ⟨.finish, .ok (), 0⟩ :: [] := rfl
  have hvortex := twoBatches_reads .vortex
  exact ⟨(twoBatches_reads .lance).1, hvortex.1,
    delivers mpscChannel_fifo hvortex.2 hvortex.1 hlog (by decide)⟩

end BridgeThreads

end Schengen.Storage
