import Schengen.Storage.OrderedWriters

/-!
# The handle of an ordered writer

Whatever is called on an ordered writer, and whatever the bridge returns, the bridge functions are
called on a handle that was opened and not yet destroyed, after `finish` it is only destroyed, and no
other handle is opened before.
-/

namespace Schengen.Storage
open Library

variable {ρ β : Type}

/-- What there is of a handle. -/
inductive HandlePhase
  | none
  | live
  | finished
  deriving DecidableEq

/-- The bridge calls that a handle allows. -/
def HandlePhase.step : HandlePhase → BridgeOp β × Int → Option HandlePhase
  | .none, (.open _, code) => some (if code = 0 then .live else .none)
  | .live, (.on .finish, _) => some .finished
  | .live, (.on .destroy, _) => some .none
  | .live, (.on _, _) => some .live
  | .finished, (.on .destroy, _) => some .none
  | _, _ => Option.none

/-- The phase that a writer's members say its handle is in. -/
def OrderedWriter.phase (s : OrderedWriter ρ) : HandlePhase := if s.handle then .live else .none

structure OrderedWriter.Whole (s : OrderedWriter ρ) : Prop where
  ops : exec HandlePhase.step .none s.ops = some s.phase
  isOpen : s.isOpen = s.handle
  table : s.isOpen = true → s.table.isSome = true

namespace ForeignTarget
open OrderedWriter

variable {target : ForeignTarget ρ} {s : OrderedWriter ρ}

lemma op_eq (o : BridgeOp (List ρ)) (fallback : String) (s : OrderedWriter ρ) :
    (target.op o fallback s).2 = { s with ops := s.ops ++ [(o, (target.respond s.ops o).1)] } := rfl

lemma op_ok (o : BridgeOp (List ρ)) (fallback : String) (s : OrderedWriter ρ) :
    (target.op o fallback s).1 = .ok ↔ (target.respond s.ops o).1 = 0 := by
  unfold op bridgeStatus
  dsimp only
  split
  · exact iff_of_true rfl ‹_›
  · exact iff_of_false (fun hfalse => nomatch hfalse) ‹_›

/-- A bridge call on the handle of an open writer that is not the last one. -/
lemma Whole.op (h : s.Whole) (hhandle : s.handle = true) {c : HandleCall (List ρ)}
    (hc : c ≠ .finish ∧ c ≠ .destroy) (fallback : String) :
    (target.op (.on c) fallback s).2.Whole := by
  have hphase : s.phase = .live := if_pos hhandle
  refine ⟨?_, h.isOpen, h.table⟩
  have hrun := h.ops
  rw [hphase] at hrun
  rw [op_eq]
  change exec _ _ (_ ++ [_]) = some s.phase
  rw [hphase]
  refine exec_concat _ hrun ?_
  cases c with
  | finish => exact absurd rfl hc.1
  | destroy => exact absurd rfl hc.2
  | beginPartition partNum partCount => rfl
  | pushBatch rows => rfl
  | endPartition => rfl

lemma Whole.pushRecordBatch (h : s.Whole) (hhandle : s.handle = true) (rows : List ρ) :
    (target.pushRecordBatch rows s).2.Whole ∧
      (target.pushRecordBatch rows s).2.handle = true ∧
      (target.pushRecordBatch rows s).2.table = s.table := by
  unfold ForeignTarget.pushRecordBatch ForeignTarget.andThen
  split
  · exact ⟨Whole.op h hhandle (by simp) _, hhandle, rfl⟩
  · exact ⟨h, hhandle, rfl⟩

lemma Whole.openTable (h : s.Whole) : (target.openTable s).2.Whole := by
  unfold ForeignTarget.openTable ForeignTarget.andThen
  dsimp only
  split
  · exact h
  next hclosed =>
  have hhandle : s.handle = false := by
    rw [← h.isOpen]
    simpa using hclosed
  have hphase : s.phase = .none := if_neg (by rw [hhandle]; decide)
  split
  · split
    · have hrun := h.ops
      rw [hphase] at hrun
      split
      · next hopened =>
        have hcode := (op_ok _ _ _).mp hopened
        refine ⟨?_, rfl, fun _ => rfl⟩
        change exec HandlePhase.step .none (s.ops ++ [_]) = some .live
        exact exec_concat _ hrun (congrArg some (if_pos hcode))
      · next hfailed =>
        have hcode := fun hzero => hfailed ((op_ok _ _ _).mpr hzero)
        refine ⟨?_, Bool.eq_false_iff.mpr hclosed, fun hopen => absurd hopen hclosed⟩
        change exec HandlePhase.step .none (s.ops ++ [_]) = some .none
        exact exec_concat _ hrun (congrArg some (if_neg hcode))
    · exact ⟨h.ops, h.isOpen, fun hopen => absurd hopen hclosed⟩
  · exact h

lemma Whole.beginInputPartition (h : s.Whole) (partNum partCount : Int) :
    (target.beginInputPartition partNum partCount s).2.Whole := by
  unfold ForeignTarget.beginInputPartition
  split
  · exact h
  · next hopen =>
    have hhandle : s.handle = true := by
      simp only [Bool.or_eq_true, not_or] at hopen
      simpa using hopen.2
    split
    · exact h
    · exact Whole.op h hhandle (by simp) _

lemma Whole.writeBatch (h : s.Whole) (batch : TableBatch ρ) :
    (target.writeBatch batch s).2.Whole := by
  unfold ForeignTarget.writeBatch
  split
  · exact h
  · next hopen =>
    have hhandle : s.handle = true := by
      simp only [Bool.or_eq_true, not_or] at hopen
      simpa using hopen.1.2
    split
    · exact h
    · split
      · exact h
      · have hpushed : (target.pushRecordBatch batch.rows s).2.Whole :=
          (Whole.pushRecordBatch h hhandle batch.rows).1
        unfold ForeignTarget.andThen
        split
        · exact ⟨hpushed.ops, hpushed.isOpen, hpushed.table⟩
        · exact hpushed

lemma Whole.endInputPartition (h : s.Whole) : (target.endInputPartition s).2.Whole := by
  unfold ForeignTarget.endInputPartition
  split
  · exact h
  · next hopen =>
    have hhandle : s.handle = true := by
      simp only [Bool.or_eq_true, not_or] at hopen
      simpa using hopen.2
    exact Whole.op h hhandle (by simp) _

/-- The handle is destroyed from the phase it is in. -/
lemma whole_closeHandle (h : s.handle = true → ∃ phase, exec HandlePhase.step .none s.ops = some phase ∧
      phase ≠ .none) (hnone : s.handle = false → exec HandlePhase.step .none s.ops = some .none) :
    (closeHandle s).Whole := by
  refine ⟨?_, rfl, fun hfalse => nomatch hfalse⟩
  unfold closeHandle
  by_cases hhandle : s.handle = true
  · obtain ⟨phase, hrun, hphase⟩ := h hhandle
    dsimp only
    rw [if_pos hhandle]
    refine exec_concat _ hrun ?_
    cases phase with
    | none => exact absurd rfl hphase
    | live => rfl
    | finished => rfl
  · dsimp only
    rw [if_neg hhandle]
    exact hnone (by simpa using hhandle)

lemma Whole.closeTable (h : s.Whole) : (target.closeTable s).2.Whole := by
  have hclosing : ∀ {u : OrderedWriter ρ}, u.Whole → (closeHandle u).Whole := by
    intro u hu
    refine whole_closeHandle (fun hhandle => ?_) fun hhandle => ?_
    · exact ⟨.live, by rw [hu.ops]; exact congrArg some (if_pos hhandle), by simp⟩
    · rw [hu.ops]
      exact congrArg some (if_neg (by rw [hhandle]; decide))
  unfold ForeignTarget.closeTable
  split
  · exact hclosing h
  · next hopen =>
    have hhandle : s.handle = true := by
      rw [← h.isOpen]
      simpa using hopen
    have hpushed : ∀ pushed, target.pushEmptyBatch s = some pushed → pushed.2.Whole := by
      intro pushed hpush
      unfold ForeignTarget.pushEmptyBatch at hpush
      split at hpush
      · split at hpush
        · cases hpush
          exact (Whole.pushRecordBatch h hhandle []).1
        · cases hpush
      · cases hpush
        exact h
    split
    · exact h
    · next pushed hpush =>
      have hwhole := hpushed pushed hpush
      split
      · exact hclosing hwhole
      · next hkept =>
        have hkept : pushed.2.handle = true := by simpa using hkept
        have hphase : pushed.2.phase = .live := if_pos hkept
        have hrun := hwhole.ops
        rw [hphase] at hrun
        refine whole_closeHandle (fun _ => ⟨.finished, ?_, by simp⟩) fun hfalse => ?_
        · rw [op_eq]
          exact exec_concat _ hrun rfl
        · rw [op_eq] at hfalse
          dsimp only at hfalse
          rw [hkept] at hfalse
          cases hfalse

lemma Whole.perform (h : s.Whole) (c : OrderedWriterCall ρ) : (target.perform c s).2.Whole := by
  cases c with
  | openTable => exact Whole.openTable h
  | beginInputPartition partNum partCount => exact Whole.beginInputPartition h partNum partCount
  | writeBatch batch => exact Whole.writeBatch h batch
  | endInputPartition => exact Whole.endInputPartition h
  | closeTable => exact Whole.closeTable h

lemma whole_new : (OrderedWriter.new : OrderedWriter ρ).Whole :=
  ⟨rfl, rfl, fun hfalse => nomatch hfalse⟩

lemma performed_concat (calls : List (OrderedWriterCall ρ)) (c : OrderedWriterCall ρ) :
    target.performed (calls ++ [c]) = (target.perform c (target.performed calls)).2 :=
  List.foldl_concat _ _ _ _

lemma after_concat (partCount : Nat) (calls : List (SinkCall (TableBatch ρ)))
    (c : SinkCall (TableBatch ρ)) :
    target.after partCount (calls ++ [c]) =
      (target.call partCount c (target.after partCount calls)).2 := by
  unfold after call
  rw [List.map_append, List.map_singleton, performed_concat]

lemma whole_performed (calls : List (OrderedWriterCall ρ)) : (target.performed calls).Whole := by
  induction calls using List.reverseRecOn with
  | nil => exact whole_new
  | append_singleton calls c ih =>
    rw [performed_concat]
    exact Whole.perform ih c

/-- The bridge calls of a writer keep to its handle, which it has as long as it is open. -/
theorem ops_keepToHandle (target : ForeignTarget ρ) (calls : List (OrderedWriterCall ρ)) :
    exec HandlePhase.step .none (target.performed calls).ops =
        some (if (target.performed calls).isOpen then .live else .none) ∧
      (target.performed calls).isOpen = (target.performed calls).handle := by
  have hwhole : (target.performed calls).Whole := whole_performed calls
  rw [hwhole.isOpen]
  exact ⟨hwhole.ops, rfl⟩

end ForeignTarget

end Schengen.Storage
