import Schengen.Storage.BridgeDelivery
import Schengen.Storage.ForeignStreamingProtocol
import Schengen.Storage.OrderedWriterLife

/-!
# From the generators to the worker of a bridge

`RunForeignStreamingOrdered` with an ordered writer, its bridge, and the worker at the end of the
channel: where the run returns 0, the worker received the rows of all parts.
-/

namespace Schengen.Storage
open Library

variable {ρ : Type}

/-- The bridge calls for a call on an open writer, but for those of `CloseTable`. -/
def SinkCall.handleCalls (partCount : Nat) :
    SinkCall (TableBatch ρ) → List (HandleCall (List ρ))
  | .beginPartition part => [.beginPartition part partCount]
  | .writeBatch batch => if batch.rows.length = 0 then [] else [.pushBatch batch.rows]
  | .endPartition => [.endPartition]
  | _ => []

def SinkCall.writesRows : SinkCall (TableBatch ρ) → Bool
  | .writeBatch batch => decide (batch.rows.length ≠ 0)
  | _ => false

/-- Calls on a handle that all return 0. -/
def succeeding (calls : List (HandleCall (List ρ))) : List (BridgeOp (List ρ) × Int) :=
  calls.map fun c => (.on c, 0)

/-- The calls on handles with their codes; `destroy` has none. -/
def handleLog (ops : List (BridgeOp (List ρ) × Int)) : List (HandleCall (List ρ) × Int) :=
  ops.filterMap fun entry =>
    match entry.1 with
    | .open _ => none
    | .on .destroy => none
    | .on c => some (c, entry.2)

/-- The batches for the worker: those with rows, and in a Vortex file an empty one if there are none. -/
def foreignBatches (bridge : WriterBridge) (batches : List (TableBatch ρ)) : List (List ρ) :=
  let written := (batches.map TableBatch.rows).filter fun rows => decide (rows.length ≠ 0)
  if bridge = .vortex ∧ written = [] then [[]] else written

lemma succeeding_append (calls more : List (HandleCall (List ρ))) :
    succeeding (calls ++ more) = succeeding calls ++ succeeding more := List.map_append

namespace ForeignTarget
open OrderedWriter

variable {target : ForeignTarget ρ} {s : OrderedWriter ρ} {partCount : Nat}

/-- A writer of the table with its handle. -/
structure Ready (target : ForeignTarget ρ) (s : OrderedWriter ρ) : Prop where
  isOpen : s.isOpen = true
  handle : s.handle = true
  table : s.table = some target.tableName

/-- An accepted call leaves the writer ready and makes its bridge calls, all of which return 0. -/
lemma op_accepted {c : HandleCall (List ρ)} {fallback : String}
    (h : (target.op (.on c) fallback s).1 = .ok) :
    (target.op (.on c) fallback s).2 = { s with ops := s.ops ++ [(.on c, 0)] } := by
  rw [op_eq, (op_ok _ _ _).mp h]

/-- What an accepted call does to a ready writer. -/
structure Advances (target : ForeignTarget ρ) (s t : OrderedWriter ρ)
    (calls : List (HandleCall (List ρ))) (wrote : Bool) : Prop where
  ready : target.Ready t
  ops : t.ops = s.ops ++ succeeding calls
  wrote : t.wroteNonEmptyBatch = (s.wroteNonEmptyBatch || wrote)

lemma Ready.beginInputPartition (h : target.Ready s) {part count : Int}
    (hok : (target.beginInputPartition part count s).1 = .ok) :
    target.Advances s (target.beginInputPartition part count s).2
      [.beginPartition part count] false := by
  unfold ForeignTarget.beginInputPartition at hok ⊢
  split
  · next hclosed =>
    rw [if_pos hclosed] at hok
    cases hok
  · next hopen =>
    rw [if_neg hopen] at hok
    split
    · next hrange =>
      rw [if_pos hrange] at hok
      cases hok
    · next hrange =>
      rw [if_neg hrange] at hok
      rw [op_accepted hok]
      exact ⟨⟨h.isOpen, h.handle, h.table⟩, rfl, (Bool.or_false _).symm⟩

lemma Ready.endInputPartition (h : target.Ready s) (hok : (target.endInputPartition s).1 = .ok) :
    target.Advances s (target.endInputPartition s).2 [.endPartition] false := by
  unfold ForeignTarget.endInputPartition at hok ⊢
  split
  · next hclosed =>
    rw [if_pos hclosed] at hok
    cases hok
  · next hopen =>
    rw [if_neg hopen] at hok
    rw [op_accepted hok]
    exact ⟨⟨h.isOpen, h.handle, h.table⟩, rfl, (Bool.or_false _).symm⟩

lemma pushRecordBatch_handle (rows : List ρ) (s : OrderedWriter ρ) :
    (target.pushRecordBatch rows s).2.handle = s.handle := by
  unfold pushRecordBatch andThen
  split <;> rfl

lemma pushRecordBatch_accepted {rows : List ρ} (hok : (target.pushRecordBatch rows s).1 = .ok) :
    (target.pushRecordBatch rows s).2 = { s with ops := s.ops ++ [(.on (.pushBatch rows), 0)] } := by
  unfold pushRecordBatch andThen at hok ⊢
  split
  · next hexported =>
    rw [if_pos hexported] at hok
    exact op_accepted hok
  · next hfailed =>
    rw [if_neg hfailed] at hok
    exact absurd hok hfailed

lemma Ready.writeBatch (h : target.Ready s) {batch : TableBatch ρ}
    (hok : (target.writeBatch batch s).1 = .ok) :
    target.Advances s (target.writeBatch batch s).2
      ((SinkCall.writeBatch batch).handleCalls partCount) (SinkCall.writeBatch batch).writesRows := by
  unfold ForeignTarget.writeBatch at hok ⊢
  split
  · next hclosed =>
    rw [if_pos hclosed] at hok
    cases hok
  next hopen =>
  rw [if_neg hopen] at hok
  split
  · next hmismatch =>
    rw [if_pos hmismatch] at hok
    cases hok
  next hmatch =>
  rw [if_neg hmatch] at hok
  split
  · next hempty =>
    exact ⟨h, by simp [SinkCall.handleCalls, succeeding, hempty], by simp [SinkCall.writesRows, hempty]⟩
  · next hrows =>
    rw [if_neg hrows] at hok
    have hpushed : (target.pushRecordBatch batch.rows s).1 = .ok := by
      by_contra hfailed
      unfold ForeignTarget.andThen at hok
      rw [if_neg hfailed] at hok
      exact hfailed hok
    unfold ForeignTarget.andThen
    rw [if_pos hpushed, pushRecordBatch_accepted hpushed]
    exact ⟨⟨h.isOpen, h.handle, h.table⟩, by simp [SinkCall.handleCalls, succeeding, hrows],
      by simp [SinkCall.writesRows, hrows]⟩

lemma Ready.call (h : target.Ready s) {c : SinkCall (TableBatch ρ)}
    (hc : c ≠ .openTable ∧ c ≠ .close) (hok : (target.call partCount c s).1 = .ok) :
    target.Advances s (target.call partCount c s).2 (c.handleCalls partCount) c.writesRows := by
  cases c with
  | openTable => exact absurd rfl hc.1
  | close => exact absurd rfl hc.2
  | beginPartition part => exact h.beginInputPartition hok
  | writeBatch batch => exact h.writeBatch hok
  | endPartition => exact h.endInputPartition hok

/-- The calls between the opening and the closing. -/
lemma Ready.calls {before calls : List (SinkCall (TableBatch ρ))}
    (h : target.Ready (target.after partCount before))
    (hcalls : ∀ c ∈ calls, c ≠ .openTable ∧ c ≠ .close)
    (haccepted : Accepted (fun made c => target.outcome partCount made c = .ok) before calls) :
    target.Advances (target.after partCount before) (target.after partCount (before ++ calls))
      (calls.flatMap (SinkCall.handleCalls partCount)) (calls.any SinkCall.writesRows) := by
  induction calls generalizing before with
  | nil =>
    rw [List.append_nil]
    exact ⟨h, (List.append_nil _).symm, (Bool.or_false _).symm⟩
  | cons c calls ih =>
    obtain ⟨hc, hrest⟩ := List.forall_mem_cons.mp hcalls
    obtain ⟨hfirst, hmore⟩ := accepted_cons.mp haccepted
    have hone := h.call hc (Outcome.returned.inj hfirst)
    rw [← after_concat] at hone
    have hall := ih hone.ready hrest hmore
    rw [List.append_assoc, List.singleton_append] at hall
    refine ⟨hall.ready, ?_, ?_⟩
    · rw [hall.ops, hone.ops, List.flatMap_cons, succeeding_append, List.append_assoc]
    · rw [hall.wrote, hone.wrote, List.any_cons, Bool.or_assoc]

/-- Everything that `CloseTable` sends: a Vortex file without rows gets an empty batch first. -/
def closingCalls (target : ForeignTarget ρ) (wrote : Bool) : List (HandleCall (List ρ)) :=
  (if target.bridge = .vortex ∧ wrote = false then [.pushBatch []] else []) ++ [.finish, .destroy]

/-- The last calls, behind a batch that is pushed for a file without rows. -/
lemma finish_accepted {pushed : Status × OrderedWriter ρ} {fallback : String}
    (hhandle : pushed.2.handle = true)
    (hok : (if pushed.1 = .ok then (target.op (.on .finish) fallback pushed.2).1 else pushed.1) = .ok) :
    pushed.1 = .ok ∧ (closeHandle (target.op (.on .finish) fallback pushed.2).2).ops =
      pushed.2.ops ++ [(.on .finish, 0), (.on .destroy, 0)] := by
  by_cases hpushed : pushed.1 = .ok
  · rw [if_pos hpushed] at hok
    rw [op_accepted hok]
    unfold closeHandle
    dsimp only
    rw [if_pos hhandle, List.append_assoc]
    exact ⟨hpushed, rfl⟩
  · rw [if_neg hpushed] at hok
    exact absurd hok hpushed

lemma Ready.closeTable (h : target.Ready s) (hok : (target.closeTable s).1 = .ok) :
    (target.closeTable s).2.ops = s.ops ++
      succeeding (target.closingCalls s.wroteNonEmptyBatch) := by
  have hopen : ¬ (!s.isOpen) = true := by simp [h.isOpen]
  unfold ForeignTarget.closeTable at hok ⊢
  rw [if_neg hopen] at hok ⊢
  unfold closingCalls
  by_cases hempty : target.bridge = .vortex ∧ s.wroteNonEmptyBatch = false
  · have hbranch : target.bridge = .vortex ∧ s.wroteNonEmptyBatch = false ∧ s.table.isSome = true :=
      ⟨hempty.1, hempty.2, by rw [h.table]; rfl⟩
    unfold pushEmptyBatch at hok ⊢
    rw [if_pos hbranch] at hok ⊢
    by_cases hcolumns : target.makeEmptyColumns = .ok
    · rw [if_pos hcolumns] at hok ⊢
      have hhandle : (target.pushRecordBatch [] s).2.handle = true := by
        rw [pushRecordBatch_handle, h.handle]
      dsimp only at hok ⊢
      rw [if_neg (by simp [hhandle])] at hok ⊢
      obtain ⟨hpushed, hops⟩ := finish_accepted hhandle hok
      rw [hops, pushRecordBatch_accepted hpushed, if_pos hempty, List.append_assoc]
      rfl
    · rw [if_neg hcolumns] at hok
      exact absurd hok hcolumns
  · have hbranch : ¬ (target.bridge = .vortex ∧ s.wroteNonEmptyBatch = false ∧
        s.table.isSome = true) := fun hall => hempty ⟨hall.1, hall.2.1⟩
    unfold pushEmptyBatch at hok ⊢
    rw [if_neg hbranch] at hok ⊢
    dsimp only at hok ⊢
    rw [if_neg (by simp [h.handle])] at hok ⊢
    have hhandle : ((.ok, s) : Status × OrderedWriter ρ).2.handle = true := h.handle
    obtain ⟨-, hops⟩ := finish_accepted hhandle hok
    rw [hops, if_neg hempty]
    rfl

lemma openTable_accepted (hok : (target.openTable .new).1 = .ok) :
    (target.openTable .new).2 =
      ⟨some target.tableName, target.buildPath, true, true, false, [(.open target.buildPath, 0)]⟩ := by
  unfold openTable at hok ⊢
  rw [if_neg (show ¬ (OrderedWriter.new : OrderedWriter ρ).isOpen = true from Bool.false_ne_true)] at hok ⊢
  unfold andThen at hok ⊢
  dsimp only at hok ⊢
  by_cases hvalid : target.options.validate = .ok
  · rw [if_pos hvalid] at hok ⊢
    by_cases hexported : target.exportSchema = .ok
    · rw [if_pos hexported] at hok ⊢
      split
      · next hopened =>
        rw [op_eq, (op_ok _ _ _).mp hopened]
        rfl
      · next hfailed =>
        rw [if_neg hfailed] at hok
        exact absurd hok hfailed
    · rw [if_neg hexported] at hok
      exact absurd hok hexported
  · rw [if_neg hvalid] at hok
    exact absurd hok hvalid

/-- The bridge calls of a run in which every call is accepted. -/
lemma ops_accepted {calls : List (SinkCall (TableBatch ρ))}
    (hcalls : ∀ c ∈ calls, c ≠ .openTable ∧ c ≠ .close)
    (haccepted : Accepted (fun made c => target.outcome partCount made c = .ok) []
      (.openTable :: calls ++ [.close])) :
    (target.after partCount (.openTable :: calls ++ [.close])).ops =
      (.open target.buildPath, 0) :: succeeding (calls.flatMap (SinkCall.handleCalls partCount) ++
        target.closingCalls (calls.any SinkCall.writesRows)) := by
  obtain ⟨hopening, hclosing⟩ := accepted_concat.mp haccepted
  obtain ⟨hopen, hmost⟩ := accepted_cons.mp hopening
  have hstart := openTable_accepted (Outcome.returned.inj hopen)
  have hready : target.Ready (target.after partCount [.openTable]) := by
    change target.Ready (target.openTable .new).2
    rw [hstart]
    exact ⟨rfl, rfl, rfl⟩
  have hwritten := hready.calls hcalls hmost
  have hends := hwritten.ready.closeTable (Outcome.returned.inj hclosing)
  have hfirst : target.after partCount [.openTable] = (target.openTable .new).2 := rfl
  rw [after_concat]
  refine hends.trans ?_
  rw [hwritten.ops, hwritten.wrote, hfirst, hstart, succeeding_append]
  rfl

/-! ## Where the run returns 0 -/

lemma handleLog_append (ops more : List (BridgeOp (List ρ) × Int)) :
    handleLog (ops ++ more) = handleLog ops ++ handleLog more := List.filterMap_append

lemma handleLog_succeeding {calls : List (HandleCall (List ρ))}
    (hcalls : ∀ c ∈ calls, c ≠ .destroy) :
    handleLog (succeeding calls) = calls.map fun c => (c, 0) := by
  induction calls with
  | nil => rfl
  | cons c calls ih =>
    obtain ⟨hc, hrest⟩ := List.forall_mem_cons.mp hcalls
    have hone : handleLog (succeeding [c]) = [(c, 0)] := by
      cases c with
      | destroy => exact absurd rfl hc
      | finish => rfl
      | beginPartition partNum partCount => rfl
      | pushBatch rows => rfl
      | endPartition => rfl
    rw [← List.singleton_append, succeeding_append, handleLog_append, hone, ih hrest]
    rfl

/-- The pushed batches of a list of calls. -/
lemma pushes_flatMap (partCount : Nat) (calls : List (SinkCall (TableBatch ρ))) :
    ((calls.flatMap (SinkCall.handleCalls partCount)).filterMap fun
      | .pushBatch rows => some rows
      | _ => none) =
      ((SinkCall.written calls).map TableBatch.rows).filter fun rows => decide (rows.length ≠ 0) := by
  induction calls with
  | nil => rfl
  | cons c calls ih =>
    rw [List.flatMap_cons, List.filterMap_append, ih]
    cases c with
    | openTable => rfl
    | beginPartition part => rfl
    | endPartition => rfl
    | close => rfl
    | writeBatch batch =>
      have hwritten : SinkCall.written (.writeBatch batch :: calls) = batch :: SinkCall.written calls :=
        rfl
      rw [hwritten, List.map_cons]
      by_cases hrows : batch.rows.length = 0
      · have hcalls : (SinkCall.writeBatch batch).handleCalls partCount = [] := if_pos hrows
        rw [List.filter_cons_of_neg (by simpa using hrows), hcalls]
        rfl
      · have hcalls : (SinkCall.writeBatch batch).handleCalls partCount = [.pushBatch batch.rows] :=
          if_neg hrows
        rw [List.filter_cons_of_pos (by simpa using hrows), hcalls]
        rfl

/-- The batches of a log in which every call returned 0. -/
lemma accepted_of_zeros {log : List (BridgeEntry (List ρ))} {calls : List (HandleCall (List ρ))}
    (hlog : (log.map fun e => (e.call, e.code)) = calls.map fun c => (c, (0 : Int))) :
    BridgeThreads.accepted log = calls.filterMap fun
      | .pushBatch rows => some rows
      | _ => none := by
  induction log generalizing calls with
  | nil =>
    rw [List.map_eq_nil_iff.mp hlog.symm]
    rfl
  | cons entry log ih =>
    cases calls with
    | nil => cases hlog
    | cons c calls =>
      obtain ⟨hentry, hrest⟩ := List.cons_eq_cons.mp hlog
      obtain ⟨call, sent, code⟩ := entry
      cases hentry
      have hmost := ih hrest
      unfold BridgeThreads.accepted at hmost ⊢
      rw [List.filterMap_cons, List.filterMap_cons, hmost]
      cases call with
      | pushBatch rows => rfl
      | finish => rfl
      | destroy => rfl
      | beginPartition partNum partCount => rfl
      | endPartition => rfl

/-- A part's calls are made on an open writer. -/
lemma tableCalls_inner {partCount : Nat} {generator : Nat → PartGenerator (TableBatch ρ)} :
    ∀ c ∈ (List.range' 1 partCount).flatMap fun part =>
        partCalls part (generator part).batches, c ≠ .openTable ∧ c ≠ .close := by
  intro c hc
  obtain ⟨part, -, hpart⟩ := List.mem_flatMap.mp hc
  unfold partCalls at hpart
  simp only [List.mem_append, List.mem_cons, List.mem_map] at hpart
  rcases hpart with (rfl | ⟨batch, -, rfl⟩) | rfl | hfalse
  · exact ⟨by simp, by simp⟩
  · exact ⟨by simp, by simp⟩
  · exact ⟨by simp, by simp⟩
  · cases hfalse

lemma any_writesRows (calls : List (SinkCall (TableBatch ρ))) :
    calls.any SinkCall.writesRows = false ↔
      ((SinkCall.written calls).map TableBatch.rows).filter (fun rows => decide (rows.length ≠ 0)) =
        [] := by
  rw [List.any_eq_false, List.filter_eq_nil_iff]
  constructor
  · intro hnone rows hrows
    obtain ⟨batch, hbatch, rfl⟩ := List.mem_map.mp hrows
    obtain ⟨c, hc, hsome⟩ := List.mem_filterMap.mp hbatch
    cases c with
    | writeBatch written =>
      cases hsome
      exact hnone _ hc
    | openTable => cases hsome
    | beginPartition part => cases hsome
    | endPartition => cases hsome
    | close => cases hsome
  · intro hnone c hc
    cases c with
    | writeBatch batch =>
      exact hnone batch.rows (List.mem_map_of_mem (List.mem_filterMap.mpr ⟨_, hc, rfl⟩))
    | openTable => exact Bool.false_ne_true
    | beginPartition part => exact Bool.false_ne_true
    | endPartition => exact Bool.false_ne_true
    | close => exact Bool.false_ne_true

lemma handleCalls_inner {partCount : Nat} {c : SinkCall (TableBatch ρ)} {h : HandleCall (List ρ)}
    (hmem : h ∈ c.handleCalls partCount) : h ≠ .finish ∧ h ≠ .destroy := by
  cases c with
  | openTable => cases hmem
  | close => cases hmem
  | beginPartition part =>
    rw [List.mem_singleton.mp hmem]
    exact ⟨by simp, by simp⟩
  | endPartition =>
    rw [List.mem_singleton.mp hmem]
    exact ⟨by simp, by simp⟩
  | writeBatch batch =>
    unfold SinkCall.handleCalls at hmem
    dsimp only at hmem
    split at hmem
    · cases hmem
    · rw [List.mem_singleton.mp hmem]
      exact ⟨by simp, by simp⟩

/-- The batch for a file without rows. -/
def emptyPushes (target : ForeignTarget ρ) (wrote : Bool) : List (HandleCall (List ρ)) :=
  if target.bridge = .vortex ∧ wrote = false then [.pushBatch []] else []

/-- The worker of a handle whose calls all returned 0 up to `finish`. -/
lemma received_of_zeros {bridge : WriterBridge} {imported : List ρ → Except String Unit}
    {worker : WorkerResult} {s : BridgeThreads (List ρ)} {calls : List (HandleCall (List ρ))}
    (hs : s.Channelled bridge imported worker)
    (hcalls : ∀ c ∈ calls, c ≠ .finish ∧ c ≠ .destroy)
    (hlog : (s.log.map fun e => (e.call, e.code)) =
      (calls ++ [HandleCall.finish]).map fun c => (c, (0 : Int))) :
    worker = .done ∧ s.received = calls.filterMap fun
      | .pushBatch rows => some rows
      | _ => none := by
  have haccepted := accepted_of_zeros hlog
  rw [List.map_append] at hlog
  obtain ⟨before, last, hsplit, hbefore, hlast⟩ := List.map_eq_append_iff.mp hlog
  obtain ⟨⟨call, sent, code⟩, rfl, hentry⟩ := List.map_eq_singleton_iff.mp hlast
  cases hentry
  have hfirst : ∀ entry ∈ before, entry.call ≠ .finish ∧ entry.call ≠ .destroy := by
    intro entry hmem
    have hpair : (entry.call, entry.code) ∈ calls.map fun c => (c, (0 : Int)) := by
      rw [← hbefore]
      exact List.mem_map_of_mem hmem
    obtain ⟨c, hc, heq⟩ := List.mem_map.mp hpair
    rw [← (Prod.mk.inj heq).1]
    exact hcalls c hc
  obtain ⟨hdone, hjoined⟩ := hs.joined_of_finish hsplit hfirst
  have hreceived := (hs.received_of_joined hdone hjoined).2
  rw [hreceived, haccepted, List.filterMap_append]
  exact ⟨hdone, List.append_nil _⟩

/-- The calls on the handle of a whole table, up to its `finish`. -/
def handedCalls (target : ForeignTarget ρ) (partCount : Nat)
    (generator : Nat → PartGenerator (TableBatch ρ)) : List (HandleCall (List ρ)) :=
  let made := (List.range' 1 partCount).flatMap fun part => partCalls part (generator part).batches
  made.flatMap (SinkCall.handleCalls partCount) ++ target.emptyPushes (made.any SinkCall.writesRows)

lemma handedCalls_inner {partCount : Nat} {generator : Nat → PartGenerator (TableBatch ρ)} :
    ∀ c ∈ target.handedCalls partCount generator, c ≠ .finish ∧ c ≠ .destroy := by
  intro c hc
  rcases List.mem_append.mp hc with hc | hc
  · obtain ⟨call, -, hmem⟩ := List.mem_flatMap.mp hc
    exact handleCalls_inner hmem
  · unfold emptyPushes at hc
    split at hc
    · rw [List.mem_singleton.mp hc]
      exact ⟨by simp, by simp⟩
    · cases hc

lemma pushes_handedCalls {partCount : Nat} {generator : Nat → PartGenerator (TableBatch ρ)} :
    ((target.handedCalls partCount generator).filterMap fun
      | .pushBatch rows => some rows
      | _ => none) = foreignBatches target.bridge (allBatches partCount generator) := by
  have hwritten : SinkCall.written ((List.range' 1 partCount).flatMap fun part =>
      partCalls part (generator part).batches) = allBatches partCount generator := by
    rw [SinkCall.written_flatMap]
    simp only [SinkCall.written_partCalls, allBatches]
  unfold handedCalls foreignBatches emptyPushes
  dsimp only
  rw [List.filterMap_append, pushes_flatMap, hwritten]
  by_cases hempty : target.bridge = .vortex ∧
      ((allBatches partCount generator).map TableBatch.rows).filter
        (fun rows => decide (rows.length ≠ 0)) = []
  · have hnone : (((List.range' 1 partCount).flatMap fun part =>
        partCalls part (generator part).batches).any SinkCall.writesRows) = false := by
      rw [any_writesRows, hwritten]
      exact hempty.2
    rw [if_pos hempty, if_pos ⟨hempty.1, hnone⟩, hempty.2]
    rfl
  · have hnone : ¬ (target.bridge = .vortex ∧ (((List.range' 1 partCount).flatMap fun part =>
        partCalls part (generator part).batches).any SinkCall.writesRows) = false) := by
      rw [any_writesRows, hwritten]
      exact hempty
    rw [if_neg hempty, if_neg hnone]
    exact List.append_nil _

lemma closeReturns_outcome {run : ForeignStreaming (TableBatch ρ)}
    (hwriter : run.writer = target.outcome run.partCount) : run.CloseReturns := by
  intro calls thrown hthrew
  rw [hwriter] at hthrew
  cases hthrew

lemma runOrdered32_completes {run : ForeignStreaming (TableBatch ρ)}
    (hwriter : run.writer = target.outcome run.partCount) (hmax : run.partCount ≤ 2147483647)
    (hzero : run.runOrdered32.1 = .returned 0) :
    ∀ part ∈ List.range' 1 run.partCount, (run.generator part).Completes := by
  have hsame := ForeignStreaming.runOrdered32_zero (closeReturns_outcome hwriter) hmax hzero
  rw [hsame] at hzero
  exact (ForeignStreaming.runOrdered_zero hzero).1

/-- A run that returned 0 has made these calls, and each of them returned 0. -/
lemma handleLog_of_zero {run : ForeignStreaming (TableBatch ρ)}
    (hwriter : run.writer = target.outcome run.partCount) (hmax : run.partCount ≤ 2147483647)
    (hzero : run.runOrdered32.1 = .returned 0) :
    handleLog (target.after run.partCount run.runOrdered32.2.calls).ops =
      (target.handedCalls run.partCount run.generator ++ [HandleCall.finish]).map
        fun c => (c, (0 : Int)) := by
  have hclose := closeReturns_outcome hwriter
  have haccepts : run.Accepts = fun made c => target.outcome run.partCount made c = .ok := by
    funext made c
    unfold ForeignStreaming.Accepts
    rw [hwriter]
  have hsame := ForeignStreaming.runOrdered32_zero hclose hmax hzero
  rw [hsame] at hzero ⊢
  rcases run.openTable_cases (run.writeParts (List.range' 1 run.partCount)) with
    ⟨hopened, hopen⟩ | ⟨-, hfailed, -⟩
  case inr =>
    rw [← ForeignStreaming.runOrdered, hzero] at hfailed
    cases hfailed
  obtain ⟨made, -, hcalls, hiff⟩ := (ForeignStreaming.writeParts_follows
    (s := ⟨true, [.openTable], []⟩) hclose (List.range' 1 run.partCount) rfl).leaveTry hclose
  rw [List.singleton_append] at hcalls
  rw [← hopen, ← ForeignStreaming.runOrdered] at hcalls hiff
  obtain ⟨hmade, hrest⟩ := hiff.mp hzero
  rw [hwriter] at hopened
  rw [haccepts] at hrest
  have hinner : ∀ c ∈ made, c ≠ .openTable ∧ c ≠ .close := by
    rw [hmade]
    exact tableCalls_inner
  have hops := ops_accepted hinner (accepted_cons.mpr ⟨hopened, hrest⟩)
  have hmost : ∀ c ∈ target.handedCalls run.partCount run.generator ++ [HandleCall.finish],
      c ≠ .destroy := by
    intro c hc
    rcases List.mem_append.mp hc with hc | hc
    · exact (handedCalls_inner c hc).2
    · rw [List.mem_singleton.mp hc]
      simp
  have hsplit : (target.after run.partCount run.runOrdered.2.calls).ops =
      [(.open target.buildPath, 0)] ++
        succeeding (target.handedCalls run.partCount run.generator ++ [HandleCall.finish]) ++
        succeeding [.destroy] := by
    rw [hcalls, hops, ← List.singleton_append, List.append_assoc, ← succeeding_append, hmade]
    unfold closingCalls handedCalls emptyPushes
    simp only [List.append_assoc]
    rfl
  rw [hsplit, handleLog_append, handleLog_append, handleLog_succeeding hmost]
  exact List.append_nil _

/-- The run returned 0: the worker has succeeded, and what it received are the batches with rows of all
parts, in order and each once; where there are none, it is nothing, or one empty batch for Vortex. The
writer of the worker succeeds only behind the end of its stream. -/
theorem worker_receives_all {run : ForeignStreaming (TableBatch ρ)}
    (hwriter : run.writer = target.outcome run.partCount) (hmax : run.partCount ≤ 2147483647)
    (hzero : run.runOrdered32.1 = .returned 0)
    {mpsc : BridgeChannel (List ρ)} (hfifo : mpsc.Fifo) {imported : List ρ → Except String Unit}
    {worker : WorkerResult} {s : BridgeThreads (List ρ)} {actions : List (BridgeAction (List ρ))}
    (hreads : Along (BridgeThreads.step target.bridge imported mpsc) BridgeThreads.ReadsToEnd
      (.new worker) actions)
    (hrun : exec (BridgeThreads.step target.bridge imported mpsc) (.new worker) actions = some s)
    (hlog : (s.log.map fun e => (e.call, e.code)) =
      handleLog (target.after run.partCount run.runOrdered32.2.calls).ops) :
    worker = .done ∧
      (∀ part ∈ List.range' 1 run.partCount, (run.generator part).Completes) ∧
      s.received = foreignBatches target.bridge (allBatches run.partCount run.generator) := by
  have hzeros := hlog.trans (handleLog_of_zero hwriter hmax hzero)
  obtain ⟨hdone, hreceived⟩ := received_of_zeros
    (BridgeThreads.channelled_of_exec hfifo hreads hrun) handedCalls_inner hzeros
  exact ⟨hdone, runOrdered32_completes hwriter hmax hzero, hreceived.trans pushes_handedCalls⟩

/-- A Lance dataset of one part with one batch that has rows. -/
def regionTarget : ForeignTarget Nat where
  options := .lance ⟨0, 0, 0, 0⟩
  outputUri := "out"
  tableName := "region"
  exportSchema := .ok
  exportRecordBatch := fun _ => .ok
  makeEmptyColumns := .ok
  respond := fun _ _ => (0, "")

def regionRun : ForeignStreaming (TableBatch Nat) where
  tableName := "region"
  partCount := 1
  generator := fun _ => ⟨.ready, [⟨some "region", [1, 2]⟩, ⟨some "region", []⟩], .finished⟩
  writer := regionTarget.outcome 1

def regionThreads : BridgeThreads (List Nat) where
  handle := ⟨false, none, "", true, 1⟩
  messages := []
  connected := false
  receiver := false
  ended := true
  exited := true
  caller := .idle
  sent := [[1, 2]]
  received := [[1, 2]]
  log := [⟨.beginPartition 1 1, .ok (), 0⟩, ⟨.pushBatch [1, 2], .ok (), 0⟩, ⟨.endPartition, .ok (), 0⟩,
    ⟨.finish, .ok (), 0⟩]

def regionActions : List (BridgeAction (List Nat)) :=
  [.call (.beginPartition 1 1), .call (.pushBatch [1, 2]), .resume, .call .endPartition, .recv,
    .call .finish, .recv, .exit, .resume]

theorem worker_receives_all_region :
    WorkerResult.done = .done ∧
      (∀ part ∈ List.range' 1 1, (regionRun.generator part).Completes) ∧
      regionThreads.received = foreignBatches .lance (allBatches 1 regionRun.generator) := by
  have hrun : exec (BridgeThreads.step regionTarget.bridge (fun _ => .ok ())
      BridgeThreads.mpscChannel) (.new .done) regionActions = some regionThreads := rfl
  have hreads : Along (BridgeThreads.step regionTarget.bridge (fun _ => .ok ())
      BridgeThreads.mpscChannel) BridgeThreads.ReadsToEnd (.new .done) regionActions :=
    of_decide_eq_true rfl
  have hwriter : regionRun.writer = regionTarget.outcome regionRun.partCount := rfl
  have hsame : regionRun.runOrdered32 = regionRun.runOrdered :=
    ForeignStreaming.runOrdered32_eq (by decide)
  exact worker_receives_all hwriter (by decide) (by rw [hsame]; decide)
    BridgeThreads.mpscChannel_fifo hreads hrun (by rw [hsame]; decide)

end ForeignTarget

end Schengen.Storage
