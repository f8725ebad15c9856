import Mathlib.Data.List.Induction
import Schengen.Storage.Progress

/-!
# The progress of a run

A table is started, rows are committed and partitions are completed in any order, and the table is
finished or fails. The percentage goes up until `completed_parts` leaves `std::int32_t`, which it can
do only in a table with as many partitions as fit into it.
-/

namespace Schengen.Storage
open Schengen.Random

namespace TableProgressState

inductive WorkCall
  | addCommittedRows (rows : Nat)
  | markPartCompleted
  deriving DecidableEq

inductive EndCall
  | markTableFinished
  | reportFailure (message : String)

inductive ProgressCall
  | markTableStarted (partCount : Int)
  | work (call : WorkCall)
  | ending (call : EndCall)

def call (s : TableProgressState) : ProgressCall → TableProgressState
  | .markTableStarted partCount => s.markTableStarted partCount
  | .work (.addCommittedRows rows) => s.addCommittedRows rows
  | .work .markPartCompleted => s.markPartCompleted
  | .ending .markTableFinished => s.markTableFinished
  | .ending (.reportFailure message) => s.reportFailure message

def after (s : TableProgressState) (calls : List ProgressCall) : TableProgressState :=
  calls.foldl call s

/-- The calls for a table from its start on. -/
def run (partCount : Int) (work : List WorkCall) (ending : Option EndCall) : List ProgressCall :=
  .markTableStarted partCount :: work.map .work ++ (ending.map .ending).toList

/-- The percentage never goes down in the run, it is 100 exactly at the end, and a failed table stays
as it is. -/
structure NeverBackwards (s : TableProgressState) (calls : List ProgressCall) : Prop where
  mono : ∀ before c rest, calls = before ++ c :: rest →
    (s.after before).approxPercent ≤ (s.after (before ++ [c])).approxPercent
  below : ∀ before rest, calls = before ++ rest → (s.after before).status ≠ .done →
    (s.after before).approxPercent ≤ 99
  done_iff : ∀ before rest, calls = before ++ rest →
    ((s.after before).approxPercent = 100 ↔ (s.after before).status = .done)
  parts_le : ∀ before rest, calls = before ++ rest →
    (s.after before).completedParts ≤ (s.after before).partCount
  frozen : ∀ before message rest, calls = before ++ .ending (.reportFailure message) :: rest →
    ∀ later, (∀ c ∈ later, ∀ other, c ≠ .ending (.reportFailure other)) →
      (s.after (before ++ [.ending (.reportFailure message)])).after later =
        s.after (before ++ [.ending (.reportFailure message)])

variable {s : TableProgressState} {p : Int} {n : Nat}

lemma after_concat (s : TableProgressState) (calls : List ProgressCall) (c : ProgressCall) :
    s.after (calls ++ [c]) = (s.after calls).call c := by
  unfold after
  rw [List.foldl_concat]

/-! ## Facts of every state -/

lemma approxPercent_le (h : s.status ≠ .done) : s.approxPercent ≤ 99 := by
  unfold approxPercent rowPercent
  rw [if_neg h]
  split_ifs
  · exact Nat.zero_le _
  · exact Nat.zero_le _
  · exact min_le_left _ _
  · exact partPercent_le _ _ _ _

lemma approxPercent_done (h : s.status = .done) : s.approxPercent = 100 := if_pos h

lemma approxPercent_eq_iff (s : TableProgressState) : s.approxPercent = 100 ↔ s.status = .done := by
  constructor
  · intro h
    by_contra hdone
    have hle := approxPercent_le hdone
    omega
  · exact approxPercent_done

/-- A failed table changes only by another failure. -/
lemma after_failed (h : s.status = .failed) {later : List ProgressCall}
    (hlater : ∀ c ∈ later, ∀ other, c ≠ .ending (.reportFailure other)) : s.after later = s := by
  induction later with
  | nil => rfl
  | cons c later ih =>
    have hcall : s.call c = s := by
      have hno := hlater c List.mem_cons_self
      match c, hno with
      | .markTableStarted p, _ => exact if_pos h
      | .work (.addCommittedRows rows), _ =>
        change s.addCommittedRows rows = s
        unfold addCommittedRows
        rw [if_pos (Or.inl h), ite_self]
      | .work .markPartCompleted, _ => exact if_pos (Or.inl h)
      | .ending .markTableFinished, _ => exact if_pos h
      | .ending (.reportFailure message), hno => exact absurd rfl (hno message)
    change (s.call c).after later = s
    rw [hcall]
    exact ih fun c' hc' => hlater c' (List.mem_cons_of_mem c hc')

/-! ## A table at work -/

/-- The table has `p` partitions, and `n` calls said that one is completed. -/
structure AtWork (p : Int) (n : Nat) (s : TableProgressState) : Prop where
  status : s.status = .running
  partCount : s.partCount = p
  completedParts : s.completedParts = min (n : Int) p
  rowsWritten : s.rowsWritten ≤ kMaxRows

/-- The counter stays in `std::int32_t`. -/
def CounterFits (p : Int) (n : Nat) : Prop := p < 2 ^ 31 - 1 ∨ n ≤ 2 ^ 31 - 1

lemma AtWork.approxPercent (h : AtWork p n s) (hp : 1 ≤ p) :
    s.approxPercent = partPercent s.totalRows s.rowsWritten p.toNat (min n p.toNat) := by
  have hcompleted : (max 0 (min s.completedParts s.partCount)).toNat = min n p.toNat := by
    rw [h.completedParts, h.partCount]
    omega
  unfold TableProgressState.approxPercent
  rw [hcompleted, h.status, h.partCount, if_neg (by decide), if_neg (by decide), if_neg (by omega),
    max_eq_right hp]

lemma atWork_markTableStarted (index : Nat) (tableName : String) (totalRows : Nat) (hp : 1 ≤ p) :
    AtWork p 0 ((new index tableName totalRows).markTableStarted p) where
  status := rfl
  partCount := max_eq_right (by omega)
  completedParts := (min_eq_left (by omega : ((0 : Nat) : Int) ≤ p)).symm
  rowsWritten := Nat.zero_le _

lemma AtWork.addCommittedRows (h : AtWork p n s) (hp : 1 ≤ p) (rows : Nat) :
    AtWork p n (s.addCommittedRows rows) ∧
      s.approxPercent ≤ (s.addCommittedRows rows).approxPercent := by
  have hstatus : ¬ (s.status = .failed ∨ s.status = .done) := by
    rw [h.status]
    decide
  have hrows := h.rowsWritten
  by_cases hnone : rows = 0
  · have hsame : s.addCommittedRows rows = s := if_pos hnone
    rw [hsame]
    exact ⟨h, le_rfl⟩
  · have hadded : AtWork p n (s.addCommittedRows rows) ∧
        (s.addCommittedRows rows).totalRows = s.totalRows ∧
          s.rowsWritten ≤ (s.addCommittedRows rows).rowsWritten := by
      unfold TableProgressState.addCommittedRows
      rw [if_neg hnone, if_neg hstatus]
      refine ⟨⟨rfl, h.partCount, h.completedParts, ?_⟩, rfl, ?_⟩ <;> dsimp only <;> split <;> omega
    obtain ⟨hwork, htotal, hmore⟩ := hadded
    rw [h.approxPercent hp, hwork.approxPercent hp, htotal]
    exact ⟨hwork, partPercent_mono_rows _ _ _ hmore⟩

lemma AtWork.markPartCompleted (h : AtWork p n s) (hp : 1 ≤ p) (hmax : p < 2 ^ 31)
    (hfits : CounterFits p (n + 1)) :
    AtWork p (n + 1) s.markPartCompleted ∧ s.approxPercent ≤ s.markPartCompleted.approxPercent := by
  have hstatus : ¬ (s.status = .failed ∨ s.status = .done) := by
    rw [h.status]
    decide
  have hcounter : toInt32 (min (n : Int) p + 1) = min (n : Int) p + 1 := by
    unfold CounterFits at hfits
    exact toInt32_eq (by omega) (by omega)
  have hcompleted : AtWork p (n + 1) s.markPartCompleted ∧
      s.markPartCompleted.totalRows = s.totalRows ∧
        s.markPartCompleted.rowsWritten = s.rowsWritten := by
    unfold TableProgressState.markPartCompleted
    rw [if_neg hstatus, h.completedParts, h.partCount, hcounter]
    refine ⟨⟨rfl, rfl, ?_, h.rowsWritten⟩, rfl, rfl⟩
    dsimp only
    rw [if_pos (by omega)]
    omega
  obtain ⟨hwork, htotal, hrows⟩ := hcompleted
  refine ⟨hwork, ?_⟩
  rw [h.approxPercent hp, hwork.approxPercent hp, htotal, hrows]
  by_cases hlast : n < p.toNat
  · rw [min_eq_left hlast.le, min_eq_left hlast]
    exact partPercent_succ _ _ _ _
  · rw [min_eq_right (not_lt.mp hlast), min_eq_right (by omega)]

/-- The calls that say that a partition is completed. -/
def completions (work : List WorkCall) : Nat := work.count .markPartCompleted

lemma AtWork.work (h : AtWork p n s) (hp : 1 ≤ p) (hmax : p < 2 ^ 31) {c : WorkCall}
    (hfits : CounterFits p (n + completions [c])) :
    AtWork p (n + completions [c]) (s.call (.work c)) ∧
      s.approxPercent ≤ (s.call (.work c)).approxPercent := by
  cases c with
  | addCommittedRows rows => exact h.addCommittedRows hp rows
  | markPartCompleted => exact h.markPartCompleted hp hmax hfits

lemma CounterFits.mono {m : Nat} (h : CounterFits p n) (hle : m ≤ n) : CounterFits p m :=
  h.imp_right hle.trans

lemma completions_append (a b : List WorkCall) :
    completions (a ++ b) = completions a + completions b := List.count_append

/-- The state after the start and some of the work. -/
lemma atWork_after {s₀ : TableProgressState} (hstart : AtWork p 0 (s₀.markTableStarted p))
    (hp : 1 ≤ p) (hmax : p < 2 ^ 31) {work : List WorkCall} (hfits : CounterFits p (completions work)) :
    AtWork p (completions work) (s₀.after (.markTableStarted p :: work.map .work)) := by
  induction work using List.reverseRecOn with
  | nil => exact hstart
  | append_singleton work c ih =>
    rw [completions_append] at hfits ⊢
    rw [List.map_append, List.map_singleton, ← List.cons_append, after_concat]
    exact ((ih (hfits.mono (Nat.le_add_right _ _))).work hp hmax hfits).1

/-! ## The end of a run -/

lemma approxPercent_reportFailure (h : s.status = .running) (message : String) :
    (s.reportFailure message).approxPercent = s.approxPercent := by
  unfold approxPercent reportFailure
  simp only [h, reduceCtorEq, if_false]

lemma approxPercent_le_hundred (s : TableProgressState) : s.approxPercent ≤ 100 := by
  by_cases hdone : s.status = .done
  · rw [approxPercent_done hdone]
  · have hle := approxPercent_le hdone
    omega

lemma AtWork.ending (h : AtWork p n s) (hp : 1 ≤ p) (e : EndCall) :
    (s.call (.ending e)).completedParts ≤ (s.call (.ending e)).partCount ∧
      s.approxPercent ≤ (s.call (.ending e)).approxPercent := by
  have hparts := h.completedParts
  have hcount := h.partCount
  cases e with
  | markTableFinished =>
    change s.markTableFinished.completedParts ≤ s.markTableFinished.partCount ∧
      s.approxPercent ≤ s.markTableFinished.approxPercent
    have hdone : s.markTableFinished = { s with status := .done, completedParts := s.partCount } := by
      unfold markTableFinished
      rw [h.status, if_neg (by decide), if_pos (by omega)]
    rw [hdone]
    exact ⟨le_rfl, (approxPercent_le_hundred s).trans (approxPercent_done rfl).ge⟩
  | reportFailure message =>
    refine ⟨?_, (approxPercent_reportFailure h.status message).ge⟩
    change s.completedParts ≤ s.partCount
    omega

/-- Where a run stands before one of its calls. -/
lemma run_split {work : List WorkCall} {ending : Option EndCall} {before rest : List ProgressCall}
    {c : ProgressCall} (h : run p work ending = before ++ c :: rest) :
    (before = [] ∧ c = .markTableStarted p) ∨
      (∃ first w others, work = first ++ w :: others ∧
        before = .markTableStarted p :: first.map .work ∧ c = .work w) ∨
      ∃ e, ending = some e ∧ before = .markTableStarted p :: work.map .work ∧ c = .ending e := by
  cases before with
  | nil => exact Or.inl ⟨rfl, (List.cons.inj h).1.symm⟩
  | cons b before =>
    obtain ⟨hb, htail⟩ := List.cons.inj h
    subst hb
    rcases List.append_eq_append_iff.mp htail with ⟨more, hbefore, hending⟩ | ⟨more, hwork, hrest⟩
    · cases ending with
      | none =>
        cases more <;> cases hending
      | some e =>
        cases more with
        | nil =>
          cases hending
          rw [List.append_nil] at hbefore
          exact Or.inr (Or.inr ⟨e, rfl, congrArg _ hbefore, rfl⟩)
        | cons m more => cases more <;> cases hending
    · obtain ⟨first, others, hsplit, hfirst, hothers⟩ := List.map_eq_append_iff.mp hwork
      cases others with
      | nil =>
        rw [List.map_nil] at hothers
        subst hothers
        cases ending with
        | none => cases hrest
        | some e =>
          cases hrest
          rw [List.append_nil] at hsplit
          subst hsplit
          exact Or.inr (Or.inr ⟨e, rfl, congrArg _ hfirst.symm, rfl⟩)
      | cons w others =>
        rw [List.map_cons] at hothers
        subst hothers
        cases hrest
        exact Or.inr (Or.inl ⟨first, w, others, hsplit, congrArg _ hfirst.symm, rfl⟩)

/-- Where a run stands after some of its calls. -/
lemma run_prefix_cases {work : List WorkCall} {ending : Option EndCall}
    {before rest : List ProgressCall} (h : run p work ending = before ++ rest) :
    before = [] ∨
      (∃ first others, work = first ++ others ∧ before = .markTableStarted p :: first.map .work) ∨
      ∃ e, ending = some e ∧ before = .markTableStarted p :: work.map .work ++ [.ending e] := by
  rcases List.eq_nil_or_concat before with rfl | ⟨initial, c, rfl⟩
  · exact Or.inl rfl
  · rw [List.concat_eq_append, List.append_assoc] at h
    rcases run_split h with ⟨rfl, rfl⟩ | ⟨first, w, others, rfl, rfl, rfl⟩ | ⟨e, rfl, rfl, rfl⟩
    · exact Or.inr (Or.inl ⟨[], work, rfl, rfl⟩)
    · refine Or.inr (Or.inl ⟨first ++ [w], others, ?_, ?_⟩)
      · rw [List.append_assoc, List.singleton_append]
      · rw [List.concat_eq_append, List.map_append, List.map_singleton, List.cons_append]
    · exact Or.inr (Or.inr ⟨e, rfl, List.concat_eq_append⟩)

section

variable {index totalRows : Nat} {tableName : String} {work : List WorkCall} {ending : Option EndCall}

/-- While the counter fits, the progress never goes backwards. -/
lemma neverBackwards_of_fits (hp : 1 ≤ p) (hmax : p < 2 ^ 31) (hfits : CounterFits p (completions work)) :
    NeverBackwards (new index tableName totalRows) (run p work ending) := by
  have hstart := atWork_markTableStarted index tableName totalRows hp
  have hwork : ∀ first others, work = first ++ others → AtWork p (completions first)
      ((new index tableName totalRows).after (.markTableStarted p :: first.map .work)) := by
    rintro first others rfl
    rw [completions_append] at hfits
    exact atWork_after hstart hp hmax (hfits.mono (Nat.le_add_right _ _))
  refine ⟨fun before c rest hrun => ?_, fun before rest _ hdone => approxPercent_le hdone,
    fun before rest _ => approxPercent_eq_iff _, fun before rest hrun => ?_,
    fun before message rest _ later hlater => after_failed ?_ hlater⟩
  · rw [after_concat]
    rcases run_split hrun with ⟨rfl, rfl⟩ | ⟨first, w, others, hsplit, rfl, rfl⟩ | ⟨e, -, rfl, rfl⟩
    · exact Nat.zero_le _
    · have hboth := hfits
      rw [hsplit, List.append_cons, completions_append, completions_append] at hboth
      exact ((hwork first _ hsplit).work hp hmax (hboth.mono (Nat.le_add_right _ _))).2
    · exact ((hwork work [] (List.append_nil work).symm).ending hp e).2
  · rcases run_prefix_cases hrun with rfl | ⟨first, others, hsplit, rfl⟩ | ⟨e, -, rfl⟩
    · exact le_rfl
    · have h := hwork first others hsplit
      rw [h.completedParts, h.partCount]
      exact min_le_right _ _
    · rw [after_concat]
      exact ((hwork work [] (List.append_nil work).symm).ending hp e).1
  · rw [after_concat]
    rfl

/-- The call at which the counter leaves `std::int32_t`. -/
lemma exists_completion {n : Nat} (h : n < completions work) :
    ∃ first others, work = first ++ .markPartCompleted :: others ∧ completions first = n := by
  induction work generalizing n with
  | nil => exact absurd h (Nat.not_lt_zero n)
  | cons c work ih =>
    have hcons : completions (c :: work) = completions [c] + completions work :=
      completions_append [c] work
    cases c with
    | addCommittedRows rows =>
      have hnone : completions [.addCommittedRows rows] = 0 := rfl
      obtain ⟨first, others, hsplit, hcount⟩ := @ih n (by omega)
      refine ⟨.addCommittedRows rows :: first, others, congrArg _ hsplit, ?_⟩
      exact (completions_append [.addCommittedRows rows] first).trans (by omega)
    | markPartCompleted =>
      have hone : completions [.markPartCompleted] = 1 := rfl
      cases n with
      | zero => exact ⟨[], work, rfl, rfl⟩
      | succ n =>
        obtain ⟨first, others, hsplit, hcount⟩ := @ih n (by omega)
        refine ⟨.markPartCompleted :: first, others, congrArg _ hsplit, ?_⟩
        exact (completions_append [.markPartCompleted] first).trans (by omega)

/-- With all partitions completed, one more completion wraps the counter and takes the percentage
back. -/
lemma approxPercent_overflow {s : TableProgressState} (h : AtWork (2 ^ 31 - 1) (2 ^ 31 - 1) s) :
    s.approxPercent = 99 ∧ s.markPartCompleted.approxPercent = 0 := by
  have hcompleted : s.completedParts = 2 ^ 31 - 1 := h.completedParts
  constructor
  · rw [h.approxPercent (by decide)]
    exact partPercent_last _ _ (by decide)
  · have hwrapped : s.markPartCompleted =
        { s with status := .running, completedParts := -2 ^ 31 } := by
      unfold markPartCompleted
      rw [h.status, if_neg (by decide), hcompleted, h.partCount]
      rfl
    rw [hwrapped]
    unfold approxPercent
    rw [h.partCount]
    exact partPercent_first _ _ (by decide)

/-- A run whose counter overflows goes backwards. -/
lemma not_neverBackwards_of_overflow (hmany : 2 ^ 31 - 1 < completions work) :
    ¬ NeverBackwards (new index tableName totalRows) (run (2 ^ 31 - 1) work ending) := by
  intro h
  obtain ⟨first, others, rfl, hfirst⟩ := exists_completion hmany
  have hstart := atWork_markTableStarted index tableName totalRows
    (show (1 : Int) ≤ 2 ^ 31 - 1 by decide)
  have hwork := atWork_after hstart (by decide) (by decide) (Or.inr hfirst.le)
  rw [hfirst] at hwork
  obtain ⟨hbefore, hafter⟩ := approxPercent_overflow hwork
  have hmono := h.mono (.markTableStarted (2 ^ 31 - 1) :: first.map .work) (.work .markPartCompleted)
    (others.map .work ++ (ending.map .ending).toList) (by simp [run])
  rw [after_concat, hbefore] at hmono
  change 99 ≤ (TableProgressState.markPartCompleted _).approxPercent at hmono
  rw [hafter] at hmono
  exact absurd hmono (by decide)

/-- The progress never goes backwards, as long as `completed_parts` does not leave
`std::int32_t`. -/
theorem neverBackwards_iff (hp : 1 ≤ p) (hmax : p < 2 ^ 31) :
    NeverBackwards (new index tableName totalRows) (run p work ending) ↔
      p < 2 ^ 31 - 1 ∨ completions work ≤ 2 ^ 31 - 1 := by
  refine ⟨fun h => ?_, neverBackwards_of_fits hp hmax⟩
  by_contra hover
  obtain ⟨hcount, hmany⟩ := not_or.mp hover
  obtain rfl : p = 2 ^ 31 - 1 := by omega
  exact not_neverBackwards_of_overflow (not_le.mp hmany) h

end

theorem neverBackwards_iff_finished : NeverBackwards (new 0 "region" 5)
    (run 2 [.addCommittedRows 5, .markPartCompleted] (some .markTableFinished)) :=
  (neverBackwards_iff (by decide) (by decide)).mpr (Or.inl (by decide))

theorem neverBackwards_overflow : ¬ NeverBackwards (new 0 "lineitem" 0)
    (run (2 ^ 31 - 1) (List.replicate (2 ^ 31) .markPartCompleted) none) := by
  apply not_neverBackwards_of_overflow
  rw [completions, List.count_replicate_self]
  decide

end TableProgressState

end Schengen.Storage
