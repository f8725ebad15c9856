import Schengen.Library.CallLog
import Schengen.Storage.ForeignStreaming
import Mathlib.Data.List.Infix

/-!
# The calls of the foreign streaming writer

Whatever the writer and the generators do, the calls of `RunForeignStreamingOrdered` start the
sequence of a complete table, and a table that was opened is closed once. With the largest number
of parts the loop variable wraps after the last part, and a complete table is followed by one more
part.
-/

namespace Schengen.Storage
open Library Schengen.Random

variable {β : Type}

/-- The calls of a table that is written to its end, before it is closed. -/
def tableCalls (partCount : Nat) (generator : Nat → PartGenerator β) : List (SinkCall β) :=
  .openTable :: (List.range' 1 partCount).flatMap fun part =>
    partCalls part (generator part).batches

namespace ForeignStreaming

variable (run : ForeignStreaming β)

/-- The writer's `CloseTable` returns a status. -/
def CloseReturns : Prop := ∀ calls thrown, run.writer calls .close ≠ .threw thrown

/-- A statement of the `try` block that leaves after the calls `made`: through `fail`, which
closes the table, or through an exception, which leaves it open. -/
def Left (s : ForeignState β) (made : List (SinkCall β))
    (r : Option ForeignEnd × ForeignState β) : Prop :=
  (r.1 = some (.returned 2) ∧ r.2.tableOpen = false ∧ r.2.calls = s.calls ++ made ++ [.close]) ∨
    ∃ thrown, r.1 = some (.threw thrown) ∧ r.2.tableOpen = true ∧ r.2.calls = s.calls ++ made

/-- A statement of the `try` block makes the calls `planned`, or leaves before the last of them
or because one of them was not accepted. -/
def Follows (s : ForeignState β) (planned : List (SinkCall β))
    (r : Option ForeignEnd × ForeignState β) : Prop :=
  (r.1 = none ∧ r.2.tableOpen = true ∧ r.2.calls = s.calls ++ planned ∧
      Accepted run.Accepts s.calls planned) ∨
    ∃ made, made <+: planned ∧ (made = planned → ¬ Accepted run.Accepts s.calls planned) ∧ Left s made r

variable {run} {s : ForeignState β}

/-! ## One statement of the `try` block -/

lemma Left.append {planned made : List (SinkCall β)} {s' : ForeignState β}
    {r : Option ForeignEnd × ForeignState β} (hcalls : s'.calls = s.calls ++ planned)
    (h : Left s' made r) : Left s (planned ++ made) r := by
  unfold Left at h ⊢
  rw [hcalls] at h
  simp only [List.append_assoc] at h ⊢
  exact h

lemma andThen_of_some {r : Option ForeignEnd × ForeignState β}
    {next : ForeignState β → Option ForeignEnd × ForeignState β} {ended : ForeignEnd}
    (h : r.1 = some ended) : andThen r next = r := by
  obtain ⟨r, s⟩ := r
  cases h
  rfl

lemma Left.andThen {made : List (SinkCall β)} {r : Option ForeignEnd × ForeignState β}
    (h : Left s made r) (next : ForeignState β → Option ForeignEnd × ForeignState β) :
    andThen r next = r := by
  rcases h with ⟨hended, -, -⟩ | ⟨thrown, hended, -, -⟩
  · exact andThen_of_some hended
  · exact andThen_of_some hended

/-- Two statements after one another make their calls after one another. -/
lemma Follows.andThen {planned more : List (SinkCall β)}
    {r : Option ForeignEnd × ForeignState β}
    {next : ForeignState β → Option ForeignEnd × ForeignState β} (h : run.Follows s planned r)
    (hnext : ∀ s : ForeignState β, s.tableOpen = true → run.Follows s more (next s)) :
    run.Follows s (planned ++ more) (andThen r next) := by
  rcases h with ⟨hnone, hopen, hcalls, haccepts⟩ | ⟨made, hfirst, hrefused, hleft⟩
  · rw [andThen_of_none hnone]
    rcases hnext r.2 hopen with ⟨hnone', hopen', hcalls', haccepts'⟩ |
      ⟨made, hfirst, hrefused, hleft⟩
    · refine Or.inl ⟨hnone', hopen', ?_, accepted_append.mpr ⟨haccepts, ?_⟩⟩
      · rw [hcalls', hcalls, List.append_assoc]
      · rwa [← hcalls]
    · refine Or.inr ⟨planned ++ made, (List.prefix_append_right_inj planned).mpr hfirst, ?_,
        hleft.append hcalls⟩
      intro hmade haccepted
      refine hrefused (List.append_cancel_left hmade) ?_
      rw [hcalls]
      exact (accepted_append.mp haccepted).2
  · rw [hleft.andThen next]
    refine Or.inr ⟨made, hfirst.trans (List.prefix_append planned more), ?_, hleft⟩
    intro hmade haccepted
    have hplanned : made = planned := by
      refine hfirst.eq_of_length_le ?_
      rw [hmade, List.length_append]
      exact Nat.le_add_right _ _
    exact hrefused hplanned (accepted_append.mp haccepted).1

lemma fail_open (hclose : run.CloseReturns) (message : String) (hopen : s.tableOpen = true) :
    (run.fail message s).1 = .returned 2 ∧ (run.fail message s).2.tableOpen = false ∧
      (run.fail message s).2.calls = s.calls ++ [.close] := by
  have hclosed : ∀ thrown, (run.closeWriter (reportError s
    ("single-file-ordered write failed for table " ++
      run.tableName ++ ": " ++ message))).1 ≠ .threw thrown := by
    intro thrown
    simp only [closeWriter, reportError, hopen]
    exact hclose _ thrown
  have hstate : ∀ error, (run.closeWriter (reportError s error)).2.tableOpen = false ∧
      (run.closeWriter (reportError s error)).2.calls = s.calls ++ [.close] := by
    intro error
    simp only [closeWriter, reportError, hopen]
    exact ⟨rfl, rfl⟩
  simp only [fail]
  split
  · exact ⟨rfl, hstate _⟩
  · exact ⟨rfl, hstate _⟩
  · exact absurd ‹_› (hclosed _)

lemma failed_left (hclose : run.CloseReturns) (message : String) {s s' : ForeignState β}
    {made : List (SinkCall β)} (hopen : s'.tableOpen = true) (hcalls : s'.calls = s.calls ++ made) :
    Left s made (run.failed message s') := by
  obtain ⟨hended, hclosed, hmade⟩ := fail_open hclose message hopen
  refine Or.inl ⟨congrArg some hended, hclosed, ?_⟩
  rw [← hcalls]
  exact hmade

lemma checked_follows (hclose : run.CloseReturns) (c : SinkCall β) (hopen : s.tableOpen = true) :
    run.Follows s [c] (run.checked c s) := by
  simp only [checked, call]
  cases hc : run.writer s.calls c with
  | returned status =>
    cases status with
    | ok => exact Or.inl ⟨rfl, hopen, rfl, hc, trivial⟩
    | error code message =>
      refine Or.inr ⟨[c], List.prefix_refl _, fun _ haccepts => ?_, failed_left hclose _ hopen rfl⟩
      exact absurd (hc.symm.trans haccepts.1) (by simp [Outcome.ok])
  | threw thrown =>
    refine Or.inr ⟨[c], List.prefix_refl _, fun _ haccepts => ?_, Or.inr ⟨thrown, rfl, hopen, rfl⟩⟩
    exact absurd (hc.symm.trans haccepts.1) (by simp [Outcome.ok])

lemma andThen_assoc (r : Option ForeignEnd × ForeignState β)
    (next last : ForeignState β → Option ForeignEnd × ForeignState β) :
    andThen (andThen r next) last = andThen r fun s => andThen (next s) last := by
  obtain ⟨ended, s⟩ := r
  cases ended <;> rfl

/-- A statement that leaves before it makes a call. -/
lemma Left.follows {planned : List (SinkCall β)} {r : Option ForeignEnd × ForeignState β}
    (h : Left s [] r) (hplanned : planned ≠ []) : run.Follows s planned r :=
  Or.inr ⟨[], List.nil_prefix, fun hmade => absurd hmade.symm hplanned, h⟩

lemma writeBatches_follows (hclose : run.CloseReturns) (batches : List β) (ends : GeneratorEnd)
    (hopen : s.tableOpen = true) :
    run.Follows s (batches.map .writeBatch ++ [.endPartition])
      (andThen (run.writeBatches batches ends s) (run.checked .endPartition)) := by
  induction batches generalizing s with
  | nil =>
    cases ends with
    | finished => exact checked_follows hclose .endPartition hopen
    | threw thrown =>
      exact Left.follows (Or.inr ⟨thrown, rfl, hopen, (List.append_nil _).symm⟩) (by simp)
  | cons batch batches ih =>
    rw [writeBatches, andThen_assoc]
    exact (checked_follows hclose (.writeBatch batch) hopen).andThen fun s hopen => ih hopen

lemma writePart_follows (hclose : run.CloseReturns) (part : Nat) (hopen : s.tableOpen = true) :
    run.Follows s (partCalls part (run.generator part).batches) (run.writePart part s) := by
  refine (checked_follows hclose (.beginPartition part) hopen).andThen fun s hopen => ?_
  have hcalls : (run.generator part).batches.map SinkCall.writeBatch ++ [.endPartition] ≠ [] :=
    List.append_ne_nil_of_right_ne_nil _ (List.cons_ne_nil _ _)
  cases hstart : (run.generator part).start with
  | ready =>
    simp only [startGenerator, hstart]
    exact writeBatches_follows hclose _ _ hopen
  | missing =>
    simp only [startGenerator, hstart]
    exact Left.follows (failed_left hclose _ hopen (List.append_nil _).symm) hcalls
  | threw thrown =>
    simp only [startGenerator, hstart]
    exact Left.follows (Or.inr ⟨thrown, rfl, hopen, (List.append_nil _).symm⟩) hcalls

lemma writeParts_follows (hclose : run.CloseReturns) (parts : List Nat)
    (hopen : s.tableOpen = true) :
    run.Follows s (parts.flatMap fun part => partCalls part (run.generator part).batches)
      (run.writeParts parts s) := by
  induction parts generalizing s with
  | nil => exact Or.inl ⟨rfl, hopen, (List.append_nil _).symm, accepted_nil⟩
  | cons part parts ih =>
    exact (writePart_follows hclose part hopen).andThen fun s hopen => ih hopen

/-! ## The whole run -/

lemma fail_closed (message : String) (hopen : s.tableOpen = false) :
    (run.fail message s).1 = .returned 2 ∧ (run.fail message s).2.calls = s.calls := by
  simp only [fail, closeWriter, reportError, hopen]
  exact ⟨rfl, rfl⟩

lemma closeTable_open (hclose : run.CloseReturns) (hopen : s.tableOpen = true) :
    (run.closeTable s).2.calls = s.calls ++ [.close] ∧
      ((run.closeTable s).1 = .returned 0 ↔ run.writer s.calls .close = .ok) := by
  simp only [closeTable, closeWriter, hopen, if_true, call]
  cases hc : run.writer s.calls .close with
  | returned status =>
    cases status with
    | ok => exact ⟨rfl, iff_of_true rfl rfl⟩
    | error code message => exact ⟨rfl, iff_of_false (by simp) (by simp [Outcome.ok])⟩
  | threw thrown => exact absurd hc (hclose _ thrown)

variable (run) in
/-- The table is opened, or the run makes no call after `OpenTable`. -/
lemma openTable_cases (parts : ForeignState β → Option ForeignEnd × ForeignState β) :
    (run.writer [] .openTable = .ok ∧
      andThen (run.openTable ⟨false, [], []⟩) parts = parts ⟨true, [.openTable], []⟩) ∨
    (run.writer [] .openTable ≠ .ok ∧
      (run.leaveTry (andThen (run.openTable ⟨false, [], []⟩) parts)).1 = .returned 2 ∧
      (run.leaveTry (andThen (run.openTable ⟨false, [], []⟩) parts)).2.calls = [.openTable]) := by
  cases hc : run.writer [] .openTable with
  | returned status =>
    cases status with
    | ok =>
      refine Or.inl ⟨rfl, ?_⟩
      simp only [openTable, call, hc, andThen]
      rfl
    | error code message =>
      refine Or.inr ⟨by simp [Outcome.ok], ?_⟩
      simp only [openTable, call, hc, andThen]
      exact ⟨rfl, rfl⟩
  | threw thrown =>
    refine Or.inr ⟨by simp [Outcome.ok], ?_⟩
    simp only [openTable, call, hc, andThen, leaveTry]
    exact fail_closed _ rfl

/-- A `try` block that was left closes the table and does not return 0. -/
lemma Left.leaveTry (hclose : run.CloseReturns) {made : List (SinkCall β)}
    {r : Option ForeignEnd × ForeignState β} (h : Left s made r) :
    (run.leaveTry r).1 = .returned 2 ∧ (run.leaveTry r).2.calls = s.calls ++ made ++ [.close] := by
  rcases h with ⟨hended, -, hcalls⟩ | ⟨thrown, hended, htable, hcalls⟩
  · simp only [ForeignStreaming.leaveTry, hended]
    exact ⟨trivial, hcalls⟩
  · obtain ⟨hreturned, -, hclosed⟩ :=
      fail_open hclose (thrown.text "Unknown partition generation error") htable
    simp only [ForeignStreaming.leaveTry, hended]
    exact ⟨hreturned, hclosed.trans (by rw [hcalls])⟩

/-- After `OpenTable` was accepted the calls start the planned ones, the last one closes the table,
and 0 is returned for the planned calls alone, all of them accepted. -/
lemma Follows.leaveTry (hclose : run.CloseReturns) {planned : List (SinkCall β)}
    {r : Option ForeignEnd × ForeignState β} (h : run.Follows s planned r) :
    ∃ made, made <+: planned ∧ (run.leaveTry r).2.calls = s.calls ++ made ++ [.close] ∧
      ((run.leaveTry r).1 = .returned 0 ↔
        made = planned ∧ Accepted run.Accepts s.calls (made ++ [.close])) := by
  rcases h with ⟨hnone, htable, hcalls, haccepts⟩ | ⟨made, hfirst, hrefused, hleft⟩
  · obtain ⟨hclosed, hzero⟩ := closeTable_open hclose htable
    simp only [ForeignStreaming.leaveTry, hnone]
    refine ⟨planned, List.prefix_refl _, by rw [hclosed, hcalls], ?_⟩
    rw [hzero, hcalls, accepted_concat]
    exact ⟨fun h => ⟨rfl, haccepts, h⟩, fun h => h.2.2⟩
  · obtain ⟨hreturned, hcalls⟩ := hleft.leaveTry hclose
    refine ⟨made, hfirst, hcalls, iff_of_false ?_ ?_⟩
    · rw [hreturned]
      simp
    · rintro ⟨hmade, haccepts⟩
      have haccepted := (accepted_append.mp haccepts).1
      rw [hmade] at haccepted
      exact hrefused hmade haccepted

variable (run) in
/-- The calls start the sequence of a complete table, followed by one `CloseTable` where the table
was opened; 0 is returned where the sequence is complete and every call was accepted. -/
structure Protocol (r : ForeignEnd × ForeignState β) : Prop where
  calls : ∃ made, made <+: tableCalls run.partCount run.generator ∧ made ≠ [] ∧
    r.2.calls = made ++ if run.writer [] .openTable = .ok then [.close] else []
  zero : r.1 = .returned 0 ↔
    r.2.calls = tableCalls run.partCount run.generator ++ [.close] ∧
      Accepted run.Accepts [] r.2.calls

lemma protocol_of_refused (hrefused : run.writer [] .openTable ≠ .ok)
    {parts : ForeignState β → Option ForeignEnd × ForeignState β} :
    run.Protocol (run.leaveTry (andThen (run.openTable ⟨false, [], []⟩) parts)) := by
  obtain ⟨-, hreturned, hcalls⟩ := (openTable_cases run parts).resolve_left fun h => hrefused h.1
  constructor
  · rw [hcalls, if_neg hrefused]
    refine ⟨[.openTable], ?_, List.cons_ne_nil _ _, rfl⟩
    exact (List.prefix_cons_inj _).mpr List.nil_prefix
  · rw [hcalls, hreturned]
    refine iff_of_false (by simp) ?_
    rintro ⟨-, haccepts⟩
    exact hrefused haccepts.1

/-- A loop that follows the sequence of all parts keeps to the protocol. -/
lemma protocol_of_follows (hclose : run.CloseReturns)
    {parts : ForeignState β → Option ForeignEnd × ForeignState β}
    (hparts : run.Follows ⟨true, [.openTable], []⟩ ((List.range' 1 run.partCount).flatMap
      fun part => partCalls part (run.generator part).batches) (parts ⟨true, [.openTable], []⟩)) :
    run.Protocol (run.leaveTry (andThen (run.openTable ⟨false, [], []⟩) parts)) := by
  rcases openTable_cases run parts with ⟨hok, htried⟩ | ⟨hrefused, -, -⟩
  · obtain ⟨made, hfirst, hcalls, hzero⟩ := hparts.leaveTry hclose
    rw [htried]
    constructor
    · rw [hcalls, if_pos hok]
      exact ⟨.openTable :: made, (List.prefix_cons_inj _).mpr hfirst, List.cons_ne_nil _ _, rfl⟩
    · rw [hzero, hcalls]
      refine and_congr ?_ ?_
      · rw [tableCalls, List.append_left_inj, List.singleton_append, List.cons_inj_right]
      · exact ⟨fun h => ⟨hok, h⟩, And.right⟩
  · exact protocol_of_refused hrefused

/-! ## The loop variable of 32 bits -/

variable (run) in
/-- Every generator comes to its end and every call of the complete sequence is accepted. -/
def Complete : Prop :=
  (∀ part ∈ List.range' 1 run.partCount, (run.generator part).Completes) ∧
    Accepted run.Accepts [] (tableCalls run.partCount run.generator)

lemma partCount32_eq (hmax : run.partCount ≤ 2147483647) : run.partCount32 = run.partCount :=
  toInt32_eq (by omega) (by omega)

lemma planPart_inside {part partCount : Int} (hlow : 1 ≤ part) (hpart : part ≤ partCount) :
    planPart part partCount s = (none, s) := by
  unfold planPart Tables.validatePart
  rw [if_neg (by omega), if_neg (by omega)]

lemma planPart_negative {part : Int} (hpart : part < 1) (partCount : Int) :
    ∃ what, ∀ s : ForeignState β,
      planPart part partCount s = (some (.threw (.exception what)), s) := by
  cases hplan : Tables.validatePart part partCount with
  | error what => exact ⟨what, fun s => by simp only [planPart, hplan]⟩
  | ok plan => exact absurd (Tables.validatePart_inside hplan).1 (by omega)

/-- One round of the loop. -/
lemma writeParts32_cons {part : Nat} (hlow : 1 ≤ part) (hpart : (part : Int) ≤ run.partCount32)
    (s : ForeignState β) : run.writeParts32 part s =
      andThen (run.writePart part s) (run.writeParts32 (toInt32 ((part : Int) + 1))) := by
  have hplan : ∀ s : ForeignState β, (planPart part run.partCount32 s).1 = none := by
    intro s
    rw [planPart_inside (Nat.one_le_cast.mpr hlow) hpart]
  rw [writeParts32.eq_def, if_pos hpart]
  simp only [dif_pos (hplan _), Int.toNat_natCast]
  rw [writePart, andThen_assoc]
  simp only [andThen_assoc]

/-- The loop goes over the parts of the list, and on from the value after the last part. -/
lemma writeParts32_eq (hmax : run.partCount ≤ 2147483647) {first n : Nat} (hfirst : 1 ≤ first)
    (hcount : first + n = run.partCount + 1) (s : ForeignState β) :
    run.writeParts32 (toInt32 first) s = andThen (run.writeParts (List.range' first n) s)
      (run.writeParts32 (toInt32 (run.partCount + 1))) := by
  induction n generalizing first s with
  | zero =>
    have hlast : (first : Int) = run.partCount + 1 := by omega
    rw [hlast, List.range'_zero, writeParts, andThen_of_none rfl]
  | succ n ih =>
    have hle : first ≤ run.partCount := by omega
    have hfits : -2147483648 ≤ (first : Int) ∧ (first : Int) < 2147483648 := by omega
    have hshort : first + 1 + n = run.partCount + 1 := by omega
    have hpart : (first : Int) ≤ run.partCount32 := by
      rw [partCount32_eq hmax]
      exact Nat.cast_le.mpr hle
    have hnext : run.writeParts32 (toInt32 ((first : Int) + 1)) = fun s =>
        andThen (run.writeParts (List.range' (first + 1) n) s)
          (run.writeParts32 (toInt32 (run.partCount + 1))) := by
      funext s
      rw [← Nat.cast_succ]
      exact ih (Nat.le_succ_of_le hfirst) hshort s
    rw [toInt32_eq hfits.1 hfits.2, writeParts32_cons hfirst hpart, hnext, List.range'_succ,
      writeParts, andThen_assoc]

/-- The value after the largest part is negative: its `BeginInputPartition` is the last call of the
`try` block. -/
lemma writeParts32_wrapped (hclose : run.CloseReturns) (hlow : 1 ≤ run.partCount)
    (hmax : run.partCount ≤ 2147483647) (hopen : s.tableOpen = true) :
    Left s [.beginPartition (-2147483648)] (run.writeParts32 (-2147483648) s) := by
  have hpart : -2147483648 ≤ run.partCount32 := by
    rw [partCount32_eq hmax]
    omega
  obtain ⟨what, hthrown⟩ :=
    planPart_negative (β := β) (show (-2147483648 : Int) < 1 by decide) run.partCount32
  rw [writeParts32.eq_def, if_pos hpart]
  cases hc : run.writer s.calls (.beginPartition (-2147483648)) with
  | returned status =>
    cases status with
    | ok =>
      have hbegun : run.checked (.beginPartition (-2147483648)) s =
          (none, { s with calls := s.calls ++ [.beginPartition (-2147483648)] }) := by
        simp only [checked, call, hc]
      rw [hbegun, andThen_of_none rfl]
      have hcalls : ({ s with calls := s.calls ++ [.beginPartition (-2147483648)] } :
          ForeignState β).calls = s.calls ++ [.beginPartition (-2147483648)] := rfl
      change Left s ([.beginPartition (-2147483648)] ++ []) _
      refine Left.append hcalls ?_
      cases hstart : (run.generator (-2147483648 : Int).toNat).start with
      | ready =>
        simp only [startGenerator, hstart]
        rw [andThen_of_none rfl, dif_neg (by rw [hthrown]; exact Option.some_ne_none _), hthrown]
        exact Or.inr ⟨_, rfl, hopen, (List.append_nil _).symm⟩
      | missing =>
        simp only [startGenerator, hstart]
        exact failed_left hclose _ hopen (List.append_nil _).symm
      | threw thrown =>
        simp only [startGenerator, hstart]
        exact Or.inr ⟨thrown, rfl, hopen, (List.append_nil _).symm⟩
    | error code message =>
      simp only [checked, call, hc]
      exact failed_left hclose _ hopen rfl
  | threw thrown =>
    simp only [checked, call, hc]
    exact Or.inr ⟨thrown, rfl, hopen, rfl⟩

variable (run) in
/-- The loop from the first part on. -/
lemma writeParts32_one (hmax : run.partCount ≤ 2147483647)
    (s : ForeignState β) :
    run.writeParts32 1 s = andThen (run.writeParts (List.range' 1 run.partCount) s)
      (run.writeParts32 (toInt32 (run.partCount + 1))) :=
  writeParts32_eq hmax le_rfl (Nat.add_comm 1 run.partCount) s

/-- Below the largest number of parts the loop ends after the last part. -/
theorem runOrdered32_eq (hmax : run.partCount < 2147483647) :
    run.runOrdered32 = run.runOrdered := by
  have hend : ∀ s, run.writeParts32 (toInt32 (run.partCount + 1)) s = (none, s) := by
    intro s
    rw [toInt32_eq (by omega) (by omega), writeParts32.eq_def,
      if_neg (by rw [partCount32_eq hmax.le]; omega)]
  have hparts : ∀ s, run.writeParts32 1 s = run.writeParts (List.range' 1 run.partCount) s := by
    intro s
    rw [writeParts32_one run hmax.le]
    cases htried : (run.writeParts (List.range' 1 run.partCount) s).1 with
    | none =>
      rw [andThen_of_none htried, hend, ← htried]
    | some ended => exact andThen_of_some htried
  unfold runOrdered32 runOrdered
  rw [funext hparts]

/-- A statement that does not leave made its calls, and they were accepted. -/
lemma Follows.of_none {planned : List (SinkCall β)} {r : Option ForeignEnd × ForeignState β}
    (h : run.Follows s planned r) (hnone : r.1 = none) :
    r.2.tableOpen = true ∧ Accepted run.Accepts s.calls planned := by
  rcases h with ⟨-, htable, -, haccepts⟩ | ⟨made, -, -, ⟨hended, -, -⟩ | ⟨thrown, hended, -, -⟩⟩
  · exact ⟨htable, haccepts⟩
  · exact absurd (hnone.symm.trans hended) (by simp)
  · exact absurd (hnone.symm.trans hended) (by simp)

/-- Where the parts are not all written, the loop does not come to the value after the last one. -/
lemma writeParts32_follows (hclose : run.CloseReturns)
    (hmax : run.partCount ≤ 2147483647)
    (hshort : (run.writeParts (List.range' 1 run.partCount) ⟨true, [.openTable], []⟩).1 ≠ none) :
    run.Follows ⟨true, [.openTable], []⟩ ((List.range' 1 run.partCount).flatMap
      fun part => partCalls part (run.generator part).batches)
      (run.writeParts32 1 ⟨true, [.openTable], []⟩) := by
  obtain ⟨ended, hended⟩ := Option.ne_none_iff_exists'.mp hshort
  rw [writeParts32_one run hmax, andThen_of_some hended]
  exact writeParts_follows hclose _ rfl

/-- With the largest number of parts, all of them written, one more part is begun. -/
lemma not_protocol (hclose : run.CloseReturns) (hcount : run.partCount = 2147483647)
    (hcomplete : run.Complete) : ¬ run.Protocol run.runOrdered32 := by
  obtain ⟨hcompletes, hok, haccepts⟩ := hcomplete
  have hparts := writeParts_accepted (s := ⟨true, [.openTable], []⟩) hcompletes haccepts
  have hcalls := (writeParts_none hparts).2
  have hopen := ((writeParts_follows hclose (List.range' 1 run.partCount) rfl).of_none hparts).1
  have hwrapped := (writeParts32_wrapped hclose (by omega) hcount.le hopen).leaveTry hclose
  have hvalue : toInt32 ((run.partCount : Int) + 1) = -2147483648 := by
    rw [hcount]
    decide
  rintro ⟨⟨made, hmade, -, hsame⟩, -⟩
  rcases openTable_cases run (run.writeParts32 1) with ⟨-, htried⟩ | ⟨hrefused, -, -⟩
  · unfold runOrdered32 at hsame
    rw [htried, writeParts32_one run hcount.le, andThen_of_none hparts, hvalue, hwrapped.2,
      hcalls, if_pos (show run.writer [] .openTable = .ok from hok)] at hsame
    have hlength := congrArg List.length (List.append_cancel_right hsame)
    have hshort := hmade.length_le
    simp only [tableCalls, List.length_append, List.length_cons, List.length_nil] at hlength hshort
    omega
  · exact hrefused hok

/-- A run that returns 0 has fewer parts than the largest number of them. -/
lemma runOrdered32_zero (hclose : run.CloseReturns) (hmax : run.partCount ≤ 2147483647)
    (hzero : run.runOrdered32.1 = .returned 0) : run.runOrdered32 = run.runOrdered := by
  rcases Nat.lt_or_eq_of_le hmax with hcount | hcount
  · exact runOrdered32_eq hcount
  · have hvalue : toInt32 ((run.partCount : Int) + 1) = -2147483648 := by
      rw [hcount]
      decide
    have hfollows := writeParts_follows (s := ⟨true, [.openTable], []⟩) hclose
      (List.range' 1 run.partCount) rfl
    have hreturned : run.runOrdered32.1 = .returned 2 := by
      unfold runOrdered32
      rcases openTable_cases run (run.writeParts32 1) with ⟨-, htried⟩ | ⟨-, hrefused, -⟩
      · rw [htried, writeParts32_one run hmax]
        rcases hfollows with ⟨hnone, hopen, -, -⟩ | ⟨made, -, -, hleft⟩
        · rw [andThen_of_none hnone, hvalue]
          exact ((writeParts32_wrapped hclose (by omega) hmax hopen).leaveTry hclose).1
        · rw [hleft.andThen]
          exact (hleft.leaveTry hclose).1
      · exact hrefused
    rw [hzero] at hreturned
    cases hreturned

/-- The protocol is kept exactly below the largest number of parts, or where a generator does not
come to its end or a call is not accepted. -/
theorem runOrdered32_protocol_iff (run : ForeignStreaming β) (hclose : run.CloseReturns)
    (hlow : 1 ≤ run.partCount) (hmax : run.partCount ≤ 2147483647) :
    run.Protocol run.runOrdered32 ↔ run.partCount < 2147483647 ∨ ¬ run.Complete := by
  constructor
  · intro hprotocol
    by_contra hnot
    obtain ⟨hcount, hcomplete⟩ := not_or.mp hnot
    exact not_protocol hclose (by omega) (not_not.mp hcomplete) hprotocol
  · rintro (hcount | hshort)
    · rw [runOrdered32_eq hcount]
      exact protocol_of_follows hclose (writeParts_follows hclose _ rfl)
    · by_cases hok : run.writer [] .openTable = .ok
      · refine protocol_of_follows hclose (writeParts32_follows hclose hmax fun hnone => hshort ?_)
        refine ⟨(writeParts_none hnone).1, hok, ?_⟩
        exact ((writeParts_follows hclose _ rfl).of_none hnone).2
      · exact protocol_of_refused hok

/-- Two parts, where the second `WriteBatch` is refused. -/
def refusingWriter : ForeignStreaming Nat where
  tableName := "part"
  partCount := 2
  generator := fun part => ⟨.ready, [part, part + 10], .finished⟩
  writer := fun calls c =>
    match c with
    | .writeBatch _ => if calls.length = 3 then .returned (.error "IOError" "disk full") else .ok
    | _ => .ok

theorem runOrdered32_protocol_iff_refusingWriter :
    refusingWriter.Protocol refusingWriter.runOrdered32 ↔
      2 < 2147483647 ∨ ¬ refusingWriter.Complete :=
  runOrdered32_protocol_iff refusingWriter (fun _ _ h => nomatch h) (by decide) (by decide)

/-- As many parts as the parameter can hold, one batch in each of them. -/
def largestCount : ForeignStreaming Nat where
  tableName := "lineitem"
  partCount := 2147483647
  generator := fun part => ⟨.ready, [part], .finished⟩
  writer := fun _ _ => .ok

/-- After the last part of 2147483647 the part -2147483648 is begun. -/
theorem largestCount_not_protocol : ¬ largestCount.Protocol largestCount.runOrdered32 :=
  not_protocol (fun _ _ h => nomatch h) rfl ⟨fun _ _ => ⟨rfl, rfl⟩, accepted_of_forall fun _ _ => rfl⟩

end ForeignStreaming

end Schengen.Storage
