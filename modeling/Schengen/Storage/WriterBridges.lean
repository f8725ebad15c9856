import Mathlib.Data.List.Basic
import Mathlib.Data.List.Count

/-!
# The handles of the Lance and Vortex bridges

`lance-bridge/src/lib.rs` and `vortex-bridge/src/lib.rs` give a writer as a handle on a worker
thread: `push_batch` sends to the thread's channel, `finish` closes the channel and joins the
thread. A result of the thread, of a send or of an array's import is an input of the call.
-/

namespace Schengen.Storage

/-- What `worker.join()` gives. -/
inductive WorkerResult
  | done
  | failed (error : String)
  | panicked
  deriving DecidableEq

/-- `LanceWriterHandle` and `VortexWriterHandle`. The worker is given by what its join will give;
`joined` counts the calls of `join`. -/
structure WriterHandle where
  sender : Bool
  worker : Option WorkerResult
  lastError : String
  finished : Bool
  joined : Nat
  deriving DecidableEq

namespace WriterHandle

/-- `LanceWriterHandle::new` and `VortexWriterHandle::new` -/
def new (worker : WorkerResult) : WriterHandle where
  sender := true
  worker := some worker
  lastError := ""
  finished := false
  joined := 0

end WriterHandle

/-- A NUL becomes a blank, so that `CString::new` takes every message. -/
def sanitizeMessage (message : String) : String :=
  message.map fun c => if c.toNat = 0 then ' ' else c

def WriterHandle.setError (handle : WriterHandle) (message : String) : Int × WriterHandle :=
  (1, { handle with lastError := sanitizeMessage message })

def WriterHandle.clearError (handle : WriterHandle) : WriterHandle :=
  { handle with lastError := "" }

/-! ## The functions that both bridges have alike -/

def writerBeginPartition (_partNum _partCount : Int) (handle : WriterHandle) : Int × WriterHandle :=
  (0, handle.clearError)

def writerEndPartition (handle : WriterHandle) : Int × WriterHandle :=
  (0, handle.clearError)

/-- `array` is the result of `batch_from_raw` or `array_from_raw`, `sent` that of the send. -/
def writerPushBatch (array sent : Except String Unit) (handle : WriterHandle) :
    Int × WriterHandle :=
  let handle := handle.clearError
  if handle.finished then handle.setError "writer is already finished"
  else
    match array with
    | .error err => handle.setError err
    | .ok _ =>
      if handle.sender then
        match sent with
        | .ok _ => (0, handle)
        | .error err => handle.setError err
      else handle.setError "writer channel is closed"

/-- The second half of `finish`: the join. -/
def joinWorker (threadPanicked : String) (handle : WriterHandle) : Int × WriterHandle :=
  match handle.worker with
  | some worker =>
    let handle := { handle with worker := none, joined := handle.joined + 1 }
    match worker with
    | .done => (0, { handle with finished := true })
    | .failed err => handle.setError err
    | .panicked => handle.setError threadPanicked
  | none => (0, { handle with finished := true })

/-! ## The functions that differ -/

/-- `lance_writer_finish`, which sends the end of the stream before it drops the sender. -/
def lanceWriterFinish (sent : Except String Unit) (handle : WriterHandle) : Int × WriterHandle :=
  let handle := handle.clearError
  if handle.finished then (0, handle)
  else
    let handle :=
      if handle.sender then
        match sent with
        | .ok _ => { handle with sender := false }
        | .error err => ({ handle with sender := false }.setError err).2
      else handle
    joinWorker "lance writer thread panicked" handle

/-- `vortex_writer_finish` -/
def vortexWriterFinish (handle : WriterHandle) : Int × WriterHandle :=
  let handle := handle.clearError
  if handle.finished then (0, handle)
  else joinWorker "vortex writer thread panicked" { handle with sender := false }

inductive WriterBridge
  | lance
  | vortex
  deriving DecidableEq

inductive BridgeCall
  | beginPartition (partNum partCount : Int)
  | pushBatch (array sent : Except String Unit)
  | endPartition
  | finish (sent : Except String Unit)

namespace BridgeCall

def isFinish : BridgeCall → Bool
  | finish _ => true
  | _ => false

def isPush : BridgeCall → Bool
  | pushBatch _ _ => true
  | _ => false

end BridgeCall

namespace WriterBridge

variable (bridge : WriterBridge)

def finish (sent : Except String Unit) (handle : WriterHandle) : Int × WriterHandle :=
  match bridge with
  | lance => lanceWriterFinish sent handle
  | vortex => vortexWriterFinish handle

/-- `lance_writer_destroy` and `vortex_writer_destroy`, up to the release of the handle. -/
def destroy (sent : Except String Unit) (handle : WriterHandle) : WriterHandle :=
  if handle.finished then handle else (bridge.finish sent handle).2

def call (c : BridgeCall) (handle : WriterHandle) : Int × WriterHandle :=
  match c with
  | .beginPartition partNum partCount => writerBeginPartition partNum partCount handle
  | .pushBatch array sent => writerPushBatch array sent handle
  | .endPartition => writerEndPartition handle
  | .finish sent => bridge.finish sent handle

/-- The calls with what they return, and the handle after them. -/
def calls : List BridgeCall → WriterHandle → List (BridgeCall × Int) × WriterHandle
  | [], handle => ([], handle)
  | c :: cs, handle =>
    let called := bridge.call c handle
    let rest := calls cs called.2
    ((c, called.1) :: rest.1, rest.2)

end WriterBridge

/-- After a `finish` no `push_batch` returns 0. -/
def PushesFail (log : List (BridgeCall × Int)) : Prop :=
  log.Pairwise fun a b => a.1.isFinish = true → b.1.isPush = true → b.2 ≠ 0

/-- After a `finish` that failed no `finish` returns 0. -/
def StaysFailed (log : List (BridgeCall × Int)) : Prop :=
  log.Pairwise fun a b => a.1.isFinish = true → a.2 ≠ 0 → b.1.isFinish = true → b.2 ≠ 0

/-- The life of a handle, from its opening. -/
structure FinishesOnce (log : List (BridgeCall × Int)) (handle : WriterHandle) : Prop where
  joined : handle.joined ≤ 1
  pushes : PushesFail log
  failed : StaysFailed log

/-! ## Before and after the first `finish` -/

structure WriterHandle.Open (worker : WorkerResult) (handle : WriterHandle) : Prop where
  sender : handle.sender = true
  worker : handle.worker = some worker
  finished : handle.finished = false
  joined : handle.joined = 0

structure WriterHandle.Joined (handle : WriterHandle) : Prop where
  sender : handle.sender = false
  worker : handle.worker = none
  joined : handle.joined = 1

namespace WriterBridge

variable {bridge : WriterBridge} {worker : WorkerResult} {handle : WriterHandle}

lemma new_open (worker : WorkerResult) : (WriterHandle.new worker).Open worker :=
  ⟨rfl, rfl, rfl, rfl⟩

lemma joinWorker_open {threadPanicked : String} (hsender : handle.sender = false)
    (hworker : handle.worker = some worker) (hjoined : handle.joined = 0) :
    (joinWorker threadPanicked handle).2.Joined ∧
      ((joinWorker threadPanicked handle).1 = 0 ↔ worker = .done) := by
  cases worker with
  | done =>
    simp only [joinWorker, hworker]
    exact ⟨⟨hsender, rfl, congrArg (· + 1) hjoined⟩, trivial⟩
  | failed err =>
    simp only [joinWorker, hworker]
    refine ⟨⟨hsender, rfl, congrArg (· + 1) hjoined⟩, iff_of_false ?_ (by simp)⟩
    simp [WriterHandle.setError]
  | panicked =>
    simp only [joinWorker, hworker]
    refine ⟨⟨hsender, rfl, congrArg (· + 1) hjoined⟩, iff_of_false ?_ (by simp)⟩
    simp [WriterHandle.setError]

variable (bridge) in
/-- The first `finish` joins the worker and returns 0 for the worker's success alone. -/
lemma finish_open (sent : Except String Unit) (h : handle.Open worker) :
    (bridge.finish sent handle).2.Joined ∧ ((bridge.finish sent handle).1 = 0 ↔ worker = .done) := by
  cases bridge with
  | lance =>
    simp only [finish, lanceWriterFinish, WriterHandle.clearError, h.finished, h.sender]
    cases sent with
    | error err => exact joinWorker_open rfl h.worker h.joined
    | ok => exact joinWorker_open rfl h.worker h.joined
  | vortex =>
    simp only [finish, vortexWriterFinish, WriterHandle.clearError, h.finished]
    exact joinWorker_open rfl h.worker h.joined

lemma joinWorker_joined {threadPanicked : String} (h : handle.Joined) :
    (joinWorker threadPanicked handle).2.Joined ∧ (joinWorker threadPanicked handle).1 = 0 := by
  simp only [joinWorker, h.worker]
  exact ⟨⟨h.sender, rfl, h.joined⟩, trivial⟩

variable (bridge) in
/-- Every further `finish` returns 0, whatever the first one returned. -/
lemma finish_joined (sent : Except String Unit) (h : handle.Joined) :
    (bridge.finish sent handle).2.Joined ∧ (bridge.finish sent handle).1 = 0 := by
  have hclear : handle.clearError.Joined := ⟨h.sender, h.worker, h.joined⟩
  cases hfinished : handle.clearError.finished with
  | true =>
    cases bridge with
    | lance =>
      simp only [finish, lanceWriterFinish, hfinished, if_true]
      exact ⟨hclear, trivial⟩
    | vortex =>
      simp only [finish, vortexWriterFinish, hfinished, if_true]
      exact ⟨hclear, trivial⟩
  | false =>
    cases bridge with
    | lance =>
      simp only [finish, lanceWriterFinish, hfinished, hclear.sender]
      exact joinWorker_joined hclear
    | vortex =>
      simp only [finish, vortexWriterFinish, hfinished]
      exact joinWorker_joined ⟨rfl, hclear.worker, hclear.joined⟩

lemma pushBatch_joined (array sent : Except String Unit) (h : handle.Joined) :
    (writerPushBatch array sent handle).2.Joined ∧ (writerPushBatch array sent handle).1 ≠ 0 := by
  have herror : ∀ message, (handle.clearError.setError message).2.Joined ∧
      (handle.clearError.setError message).1 ≠ 0 :=
    fun message => ⟨⟨h.sender, h.worker, h.joined⟩, Int.one_ne_zero⟩
  have hsender : handle.clearError.sender = false := h.sender
  simp only [writerPushBatch, hsender]
  by_cases hfinished : handle.clearError.finished = true
  · rw [if_pos hfinished]
    exact herror _
  · rw [if_neg hfinished]
    cases array with
    | error err => exact herror _
    | ok => exact herror _

lemma pushBatch_open (array sent : Except String Unit) (h : handle.Open worker) :
    (writerPushBatch array sent handle).2.Open worker := by
  have herror : ∀ message, (handle.clearError.setError message).2.Open worker :=
    fun message => ⟨h.sender, h.worker, h.finished, h.joined⟩
  have hsender : handle.clearError.sender = true := h.sender
  have hfinished : ¬ handle.clearError.finished = true := by
    simp [WriterHandle.clearError, h.finished]
  simp only [writerPushBatch, hsender, if_neg hfinished]
  cases array with
  | error err => exact herror _
  | ok =>
    cases sent with
    | error err => exact herror _
    | ok => exact ⟨h.sender, h.worker, h.finished, h.joined⟩

variable (bridge) in
/-- After the first `finish` every `finish` returns 0 and no `push_batch` does. -/
lemma call_joined (c : BridgeCall) (h : handle.Joined) :
    (bridge.call c handle).2.Joined ∧ (c.isFinish = true → (bridge.call c handle).1 = 0) ∧
      (c.isPush = true → (bridge.call c handle).1 ≠ 0) := by
  cases c with
  | beginPartition partNum partCount =>
    exact ⟨⟨h.sender, h.worker, h.joined⟩, by simp [BridgeCall.isFinish], by simp [BridgeCall.isPush]⟩
  | endPartition =>
    exact ⟨⟨h.sender, h.worker, h.joined⟩, by simp [BridgeCall.isFinish], by simp [BridgeCall.isPush]⟩
  | pushBatch array sent =>
    obtain ⟨hjoined, hcode⟩ := pushBatch_joined array sent h
    exact ⟨hjoined, by simp [BridgeCall.isFinish], fun _ => hcode⟩
  | finish sent =>
    obtain ⟨hjoined, hcode⟩ := finish_joined bridge sent h
    exact ⟨hjoined, fun _ => hcode, by simp [BridgeCall.isPush]⟩

variable (bridge) in
lemma call_open {c : BridgeCall} (hc : c.isFinish = false) (h : handle.Open worker) :
    (bridge.call c handle).2.Open worker := by
  cases c with
  | beginPartition partNum partCount => exact ⟨h.sender, h.worker, h.finished, h.joined⟩
  | endPartition => exact ⟨h.sender, h.worker, h.finished, h.joined⟩
  | pushBatch array sent => exact pushBatch_open array sent h
  | finish sent => exact absurd hc (by simp [BridgeCall.isFinish])

/-! ## Whole lives of a handle -/

variable (bridge) in
lemma calls_fst (cs : List BridgeCall) (handle : WriterHandle) :
    (bridge.calls cs handle).1.map Prod.fst = cs := by
  induction cs generalizing handle with
  | nil => rfl
  | cons c cs ih => exact congrArg (c :: ·) (ih _)

variable (bridge) in
lemma calls_joined (cs : List BridgeCall) (h : handle.Joined) :
    (bridge.calls cs handle).2.Joined ∧ ∀ entry ∈ (bridge.calls cs handle).1,
      (entry.1.isFinish = true → entry.2 = 0) ∧ (entry.1.isPush = true → entry.2 ≠ 0) := by
  induction cs generalizing handle with
  | nil => exact ⟨h, by simp [calls]⟩
  | cons c cs ih =>
    obtain ⟨hnext, hcodes⟩ := call_joined bridge c h
    obtain ⟨hlast, hrest⟩ := ih hnext
    exact ⟨hlast, List.forall_mem_cons.mpr ⟨hcodes, hrest⟩⟩

variable (bridge) in
/-- A failure that the first `finish` reports stays where no later call is a `finish`: all of these
return 0. -/
lemma staysFailed_finish (sent : Except String Unit) (cs : List BridgeCall)
    (h : handle.Open worker) :
    StaysFailed (bridge.calls (.finish sent :: cs) handle).1 ↔
      worker = .done ∨ ∀ c ∈ cs, ¬ c.isFinish = true := by
  obtain ⟨hfirst, hcode⟩ := finish_open bridge sent h
  obtain ⟨-, hrest⟩ := calls_joined bridge cs hfirst
  have hentries := calls_fst bridge cs (bridge.finish sent handle).2
  change List.Pairwise _ (_ :: _) ↔ _
  rw [List.pairwise_cons]
  constructor
  · rintro ⟨hlater, -⟩
    by_cases hdone : worker = .done
    · exact Or.inl hdone
    · refine Or.inr fun c hmem hfinish => ?_
      rw [← hentries] at hmem
      obtain ⟨entry, hentry, rfl⟩ := List.mem_map.mp hmem
      exact hlater entry hentry rfl (fun h => hdone (hcode.mp h)) hfinish
        ((hrest entry hentry).1 hfinish)
  · intro hcases
    refine ⟨fun entry hentry _ hne hfinish => ?_, ?_⟩
    · rcases hcases with hdone | hnofinish
      · exact absurd (hcode.mpr hdone) hne
      · refine absurd hfinish (hnofinish entry.1 ?_)
        rw [← hentries]
        exact List.mem_map_of_mem hentry
    · refine List.pairwise_of_forall_mem_list fun a ha b _ hfinish hne => ?_
      exact absurd ((hrest a ha).1 hfinish) hne

variable (bridge) in
/-- The calls up to the first `finish` leave the handle open, and the calls after it find it
joined. -/
lemma calls_open (cs : List BridgeCall) (h : handle.Open worker) :
    (bridge.calls cs handle).2.joined ≤ 1 ∧ PushesFail (bridge.calls cs handle).1 ∧
      (StaysFailed (bridge.calls cs handle).1 ↔
        worker = .done ∨ cs.countP BridgeCall.isFinish ≤ 1) := by
  induction cs generalizing handle with
  | nil =>
    refine ⟨?_, List.Pairwise.nil, iff_of_true List.Pairwise.nil (Or.inr (Nat.zero_le 1))⟩
    change handle.joined ≤ 1
    rw [h.joined]
    exact Nat.zero_le 1
  | cons c cs ih =>
    cases hc : c.isFinish with
    | false =>
      obtain ⟨hjoined, hpushes, hfailed⟩ := ih (call_open bridge hc h)
      have hfirst : ¬ c.isFinish = true := by simp [hc]
      refine ⟨hjoined, List.Pairwise.cons (fun _ _ hfinish => absurd hfinish hfirst) hpushes, ?_⟩
      rw [List.countP_cons_of_neg hfirst, ← hfailed]
      exact ⟨fun hpairs => (List.pairwise_cons.mp hpairs).2,
        List.Pairwise.cons fun _ _ hfinish => absurd hfinish hfirst⟩
    | true =>
      obtain ⟨sent, rfl⟩ : ∃ sent, c = .finish sent := by
        cases c with
        | finish sent => exact ⟨sent, rfl⟩
        | beginPartition partNum partCount => cases hc
        | endPartition => cases hc
        | pushBatch array sent => cases hc
      obtain ⟨hlast, hrest⟩ := calls_joined bridge cs (finish_open bridge sent h).1
      refine ⟨Nat.le_of_eq hlast.joined, ?_, ?_⟩
      · refine List.Pairwise.cons (fun entry hentry _ => (hrest entry hentry).2) ?_
        exact List.pairwise_of_forall_mem_list fun a _ b hb _ => (hrest b hb).2
      · rw [staysFailed_finish bridge sent cs h, List.countP_cons_of_pos hc, Nat.succ_le_succ_iff,
          Nat.le_zero, List.countP_eq_zero]

/-- A bridge keeps its promises for a handle where the worker succeeds or `finish` is called at
most once: a second `finish` finds neither sender nor worker and takes a failed handle for a
finished one. -/
theorem calls_finishesOnce (bridge : WriterBridge) (worker : WorkerResult) (cs : List BridgeCall) :
    FinishesOnce (bridge.calls cs (.new worker)).1 (bridge.calls cs (.new worker)).2 ↔
      worker = .done ∨ cs.countP BridgeCall.isFinish ≤ 1 := by
  obtain ⟨hjoined, hpushes, hfailed⟩ := calls_open bridge cs (new_open worker)
  rw [← hfailed]
  exact ⟨fun h => h.failed, fun h => ⟨hjoined, hpushes, h⟩⟩

/-- The worker fails, `finish` reports it, and the `finish` after it returns 0. -/
theorem calls_finish_twice :
    ¬ FinishesOnce
        (lance.calls [.finish (.ok ()), .finish (.ok ())] (.new (.failed "disk full"))).1
        (lance.calls [.finish (.ok ()), .finish (.ok ())] (.new (.failed "disk full"))).2 ∧
    ¬ FinishesOnce
        (vortex.calls [.finish (.ok ()), .finish (.ok ())] (.new (.failed "disk full"))).1
        (vortex.calls [.finish (.ok ()), .finish (.ok ())] (.new (.failed "disk full"))).2 := by
  refine ⟨fun h => ?_, fun h => ?_⟩
  · exact (List.pairwise_cons.mp h.failed).1 _ (List.mem_singleton_self _) rfl (by decide) rfl rfl
  · exact (List.pairwise_cons.mp h.failed).1 _ (List.mem_singleton_self _) rfl (by decide) rfl rfl

end WriterBridge

end Schengen.Storage
