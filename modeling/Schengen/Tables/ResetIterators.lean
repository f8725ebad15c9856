import Schengen.Tables.RowIterators
import Schengen.Tables.SupplierMapping

/-!
# Iterators that are reset

`Reset` assigns the members of an iterator anew; only `part_supplier_number_` of partsupp is left
as it is. An iterator that was left inside a part then starts with a later supplier of the first
part.
-/

namespace Schengen.Tables
open Library Schengen.Random

namespace PartSuppCursor
open PartSuppStreams

/-- The iterator before the output row `position`. -/
structure At (position endPart : Nat) (scaleFactor : ScaleFactor) (s : PartSuppCursor) : Prop where
  nextPart : s.nextPart = position / kSuppliersPerPart
  number : s.partSupplierNumber = position % kSuppliersPerPart
  endPart : s.endPart = endPart
  scaleFactor : s.scaleFactor = scaleFactor

/-- The part and the supplier of the output row `position`. -/
def keysAt (scaleFactor : ScaleFactor) (position : Nat) : Int × Int :=
  (toInt32 ((position / kSuppliersPerPart : Nat) + 1 : Int),
    selectPartSupplier (toInt32 ((position / kSuppliersPerPart : Nat) + 1 : Int))
      (position % kSuppliersPerPart : Nat) scaleFactor)

def keys (row : PartSuppRow) : Int × Int := (row.psPartkey, row.psSuppkey)

variable {sampler : IntSampler} {s t : PartSuppCursor} {position endPart : Nat} {scaleFactor : ScaleFactor}

lemma at_nextRowId (hs : s.partSupplierNumber < kSuppliersPerPart) :
    At s.nextRowId s.endPart s.scaleFactor s := by
  unfold nextRowId
  refine ⟨?_, ?_, rfl, rfl⟩ <;> simp only [kSuppliersPerPart] at hs ⊢ <;> omega

lemma At.number_lt (h : At position endPart scaleFactor s) :
    s.partSupplierNumber < kSuppliersPerPart := by
  rw [h.number]
  exact Nat.mod_lt _ (by decide)

lemma At.open_iff (h : At position endPart scaleFactor s) :
    ¬ s.nextPart ≥ s.endPart ↔ position < kSuppliersPerPart * endPart := by
  rw [h.nextPart, h.endPart]
  simp only [kSuppliersPerPart]
  omega

/-- Behind the last row of the range. -/
lemma At.closed (h : At (kSuppliersPerPart * endPart) endPart scaleFactor s) :
    s.endPart ≤ s.nextPart :=
  not_not.mp (h.open_iff.not.mpr (Nat.lt_irrefl _))

/-- A row that is taken, with or without its values, leads to the next position. -/
lemma At.finishRow (h : At position endPart scaleFactor s) (streams : PartSuppStreams) :
    At (position + 1) endPart scaleFactor ({ s with streams := streams } : PartSuppCursor).finishRow := by
  have hpart := h.nextPart
  have hnumber := h.number
  simp only [kSuppliersPerPart] at hpart hnumber
  unfold PartSuppCursor.finishRow
  by_cases hlast : s.partSupplierNumber + 1 ≥ kSuppliersPerPart
  · rw [if_pos hlast]
    simp only [kSuppliersPerPart] at hlast
    refine ⟨?_, ?_, h.endPart, h.scaleFactor⟩ <;> simp only [kSuppliersPerPart] <;> omega
  · rw [if_neg hlast]
    simp only [kSuppliersPerPart] at hlast
    refine ⟨?_, ?_, h.endPart, h.scaleFactor⟩ <;> simp only [kSuppliersPerPart] <;> omega

lemma At.next_eq (h : At position endPart scaleFactor s)
    (hopen : position < kSuppliersPerPart * endPart) :
    s.next sampler = some ((read sampler scaleFactor s.nextPart s.partSupplierNumber s.streams).1,
      ({ s with streams := (read sampler scaleFactor s.nextPart s.partSupplierNumber s.streams).2 } :
        PartSuppCursor).finishRow) := by
  unfold next
  rw [if_neg (h.open_iff.mpr hopen), h.scaleFactor]

lemma At.skip_eq (h : At position endPart scaleFactor s)
    (hopen : position < kSuppliersPerPart * endPart) : s.skip = some s.finishRow := by
  unfold skip
  rw [if_neg (h.open_iff.mpr hopen)]

lemma At.keys_read (h : At position endPart scaleFactor s) (streams : PartSuppStreams) :
    keys (read sampler scaleFactor s.nextPart s.partSupplierNumber streams).1 =
      keysAt scaleFactor position := by
  unfold keysAt keys
  rw [← h.nextPart, ← h.number]
  simp only [PartSuppStreams.read]

variable (sampler) in
lemma next_end (hend : s.endPart ≤ s.nextPart) : s.next sampler = none := by
  unfold next
  rw [if_pos hend]

lemma skip_end (hend : s.endPart ≤ s.nextPart) : s.skip = none := by
  unfold skip
  rw [if_pos hend]

/-! ## The rows after a reset -/

variable {pattern : Nat → Bool}

/-- The streams after the call, before they finish a part. -/
def drawnBy (sampler : IntSampler) (reads : Bool) (s : PartSuppCursor) : PartSuppStreams :=
  if reads then (read sampler s.scaleFactor s.nextPart s.partSupplierNumber s.streams).2
  else s.streams

variable (sampler) in
lemma call_eq (h : At position endPart scaleFactor s)
    (hopen : position < kSuppliersPerPart * endPart) (reads : Bool) :
    (Table.partSuppRowIterator sampler).call s (if reads then .next else .skip) =
      ({ s with streams := s.drawnBy sampler reads } : PartSuppCursor).finishRow := by
  cases reads with
  | true =>
    change ((s.next sampler).map Prod.snd).getD s = _
    rw [h.next_eq hopen, ← h.scaleFactor]
    rfl
  | false =>
    change s.skip.getD s = _
    rw [h.skip_eq hopen]
    rfl

variable (sampler) in
/-- Every call goes on by one position, up to the end of the last part. -/
lemma At.before (h : At position endPart scaleFactor s)
    (hle : position ≤ kSuppliersPerPart * endPart) (pattern : Nat → Bool) (i : Nat) :
    At (min (position + i) (kSuppliersPerPart * endPart)) endPart scaleFactor
      ((Table.partSuppRowIterator sampler).before pattern i s) := by
  induction i with
  | zero =>
    rw [Nat.add_zero, Nat.min_eq_left hle]
    exact h
  | succ i ih =>
    unfold SkippingReader.before
    by_cases hopen : position + i < kSuppliersPerPart * endPart
    · rw [Nat.min_eq_left hopen.le] at ih
      rw [call_eq _ ih hopen (pattern i), ← Nat.add_assoc, Nat.min_eq_left hopen]
      exact ih.finishRow _
    · rw [Nat.min_eq_right (not_lt.mp hopen)] at ih
      rw [Nat.min_eq_right (by omega)]
      have hnext := next_end sampler ih.closed
      have hskip := skip_end ih.closed
      rw [SkippingReader.call_end hnext hskip]
      exact ih

lemma At.keys_rowAt (h : At position endPart scaleFactor s)
    (hle : position ≤ kSuppliersPerPart * endPart) (pattern : Nat → Bool) (i : Nat) :
    ((Table.partSuppRowIterator sampler).rowAt pattern i s).map keys =
      if position + i < kSuppliersPerPart * endPart then some (keysAt scaleFactor (position + i))
      else none := by
  have hat := h.before sampler hle pattern i
  change (((PartSuppCursor.next sampler _)).map Prod.fst).map keys = _
  by_cases hopen : position + i < kSuppliersPerPart * endPart
  · rw [Nat.min_eq_left hopen.le] at hat
    rw [if_pos hopen, hat.next_eq hopen]
    exact congrArg some (hat.keys_read _)
  · rw [Nat.min_eq_right (not_lt.mp hopen)] at hat
    rw [if_neg hopen, next_end _ hat.closed]
    rfl

lemma finishRow_number_lt (h : s.partSupplierNumber < kSuppliersPerPart) :
    s.finishRow.partSupplierNumber < kSuppliersPerPart :=
  ((at_nextRowId h).finishRow s.streams).number_lt

lemma number_lt (h : (Table.partSuppRowIterator sampler).Reaches s) :
    s.partSupplierNumber < kSuppliersPerPart := by
  refine h.invariant (I := fun s => s.partSupplierNumber < kSuppliersPerPart)
    (show (0 : Nat) < kSuppliersPerPart by decide) (fun args s hs => hs)
    (fun s row t hs hnext => ?_) (fun s t hs hskip => ?_)
  · change s.next sampler = _ at hnext
    unfold next at hnext
    split at hnext
    · cases hnext
    · rw [← (Prod.mk.inj (Option.some.inj hnext)).2]
      exact finishRow_number_lt hs
  · change s.skip = _ at hskip
    unfold skip at hskip
    split at hskip
    · cases hskip
    · rw [← Option.some.inj hskip]
      exact finishRow_number_lt hs

variable {args : ResetArgs}

/-- For each part of the range four rows, with the suppliers of the numbers 0 to 3. -/
def FourPerPart (sampler : IntSampler) (args : ResetArgs) (s : PartSuppCursor) : Prop :=
  ∃ rows, (iterator sampler).Emits ((Table.partSuppRowIterator sampler).reset args s) rows ∧
    rows.map keys = (List.range' args.startRow (args.endRow - args.startRow)).flatMap fun r : Nat =>
      (List.range 4).map fun number : Nat =>
        (toInt32 ((r : Int) + 1),
          selectPartSupplier (toInt32 ((r : Int) + 1)) number args.scaleFactor)

variable (sampler args) in
/-- The number of the supplier is the one from before the reset. -/
lemma at_reset (hs : s.partSupplierNumber < kSuppliersPerPart) (hlt : args.startRow < args.endRow) :
    At (kSuppliersPerPart * args.startRow + s.partSupplierNumber) args.endRow args.scaleFactor
      ((Table.partSuppRowIterator sampler).reset args s) := by
  have hstart : (if args.startRow > args.endRow then args.endRow else args.startRow) =
      args.startRow := if_neg (by omega)
  refine ⟨?_, ?_, rfl, rfl⟩
  · change (if args.startRow > args.endRow then args.endRow else args.startRow) = _
    rw [hstart]
    simp only [kSuppliersPerPart] at hs ⊢
    omega
  · change s.partSupplierNumber = _
    simp only [kSuppliersPerPart] at hs ⊢
    omega

lemma next_reset_end (hle : args.endRow ≤ args.startRow) (s : PartSuppCursor) :
    (Table.partSuppRowIterator sampler).next ((Table.partSuppRowIterator sampler).reset args s) =
      none := by
  refine next_end _ ?_
  change args.endRow ≤ if args.startRow > args.endRow then args.endRow else args.startRow
  split <;> omega

lemma reset_zero (hzero : s.partSupplierNumber = 0) :
    (Table.partSuppRowIterator sampler).reset args s =
      (Table.partSuppRowIterator sampler).reset args (Table.partSuppRowIterator sampler).initial := by
  obtain ⟨nextPart, endPart, number, scaleFactor, streams⟩ := s
  obtain rfl : number = 0 := hzero
  rfl

lemma fourPerPart (h : s.partSupplierNumber = 0 ∨ args.endRow ≤ args.startRow) :
    FourPerPart sampler args s := by
  unfold FourPerPart
  by_cases hlt : args.startRow < args.endRow
  · rw [reset_zero (h.resolve_right (not_le.mpr hlt))]
    refine ⟨_, emits_reset sampler args.scaleFactor args.textPool hlt.le, ?_⟩
    rw [List.map_flatMap]
    exact List.flatMap_congr fun r _ => readPart_keys sampler args.scaleFactor args.textPool r
  · refine ⟨[], PullIterator.emits_nil (next_reset_end (not_lt.mp hlt) s), ?_⟩
    rw [Nat.sub_eq_zero_of_le (not_lt.mp hlt)]
    rfl

lemma toInt32_succ_ne (x : Int) : toInt32 x ≠ toInt32 (x + 1) := by
  intro h
  unfold toInt32 at h
  have hmod : (x.bmod (2 ^ 32)) % (2 ^ 32 : Nat) = ((x + 1).bmod (2 ^ 32)) % (2 ^ 32 : Nat) := by
    rw [h]
  rw [Int.bmod_emod, Int.bmod_emod] at hmod
  omega

lemma forgets (h : s.partSupplierNumber = 0 ∨ args.endRow ≤ args.startRow) :
    (Table.partSuppRowIterator sampler).Forgets args s := by
  intro i
  rcases h with hzero | hle
  · rw [reset_zero hzero]
  · rw [SkippingReader.readAt_end (next_reset_end hle _),
      SkippingReader.readAt_end (next_reset_end hle _)]

/-- An iterator that was left inside a part is through with the first part too early. -/
lemma not_forgets (hs : s.partSupplierNumber < kSuppliersPerPart) (hpos : 0 < s.partSupplierNumber)
    (hlt : args.startRow < args.endRow) :
    ¬ (Table.partSuppRowIterator sampler).Forgets args s := by
  intro hforgets
  have hzero : (Table.partSuppRowIterator sampler).initial.partSupplierNumber = 0 := rfl
  have hnew := at_reset sampler args
    (s := (Table.partSuppRowIterator sampler).initial) (by rw [hzero]; decide) hlt
  have hold := at_reset sampler args hs hlt
  have hrow := hforgets (kSuppliersPerPart - s.partSupplierNumber)
  have hkeys := congrArg (Option.map keys) hrow
  unfold SkippingReader.readAt at hkeys
  simp only [kSuppliersPerPart] at hs
  rw [hold.keys_rowAt (by simp only [kSuppliersPerPart]; omega),
    hnew.keys_rowAt (by rw [hzero]; simp only [kSuppliersPerPart]; omega), hzero,
    if_pos (show kSuppliersPerPart * args.startRow + 0 + (kSuppliersPerPart - s.partSupplierNumber) <
      kSuppliersPerPart * args.endRow by simp only [kSuppliersPerPart]; omega)] at hkeys
  split at hkeys
  · unfold keysAt at hkeys
    have hpart := (Prod.mk.inj (Option.some.inj hkeys)).1
    have hthis : (kSuppliersPerPart * args.startRow + 0 +
        (kSuppliersPerPart - s.partSupplierNumber)) / kSuppliersPerPart = args.startRow := by
      simp only [kSuppliersPerPart]
      omega
    have hafter : (kSuppliersPerPart * args.startRow + s.partSupplierNumber +
        (kSuppliersPerPart - s.partSupplierNumber)) / kSuppliersPerPart = args.startRow + 1 := by
      simp only [kSuppliersPerPart]
      omega
    rw [hthis, hafter, Nat.cast_add, Nat.cast_one] at hpart
    exact toInt32_succ_ne _ hpart.symm
  · cases hkeys

end PartSuppCursor

lemma LineitemCursor.reset_eq (sampler : IntSampler) {args : ResetArgs}
    (hlt : args.startRow < args.endRow) (s t : LineitemCursor) :
    (Table.lineitemRowIterator sampler).reset args s =
      (Table.lineitemRowIterator sampler).reset args t := by
  have hstart : (if args.startRow > args.endRow then args.endRow else args.startRow) =
      args.startRow := if_neg (by omega)
  have hcount : 0 < args.endRow - args.startRow := Nat.sub_pos_of_lt hlt
  change LineitemCursor.reset _ _ _ _ _ _ = LineitemCursor.reset _ _ _ _ _ _
  unfold LineitemCursor.reset
  simp only [hstart, hcount, if_true]
  rfl

lemma LineitemCursor.next_reset_end (sampler : IntSampler) {args : ResetArgs}
    (hle : args.endRow ≤ args.startRow) (s : LineitemCursor) :
    (Table.lineitemRowIterator sampler).next ((Table.lineitemRowIterator sampler).reset args s) =
      none := by
  have hcount : ¬ 0 < args.endRow -
      (if args.startRow > args.endRow then args.endRow else args.startRow) := by
    split <;> omega
  change LineitemCursor.next sampler (LineitemCursor.reset _ _ _ _ _ _) = none
  unfold LineitemCursor.reset
  simp only [hcount, if_false]
  unfold LineitemCursor.next
  rw [if_pos (by change _ - _ ≤ 0; omega)]

namespace Table

/-- The rows after `Reset(args)` are those of a new iterator, four for each part of partsupp. -/
def ForgetsAt (sampler : IntSampler) (args : ResetArgs) : (table : Table) → table.Cursor → Prop
  | partsupp, s => (partSuppRowIterator sampler).Forgets args s ∧
      PartSuppCursor.FourPerPart sampler args s
  | table, s => (rowIterator sampler table).Forgets args s

/-- The iterator of partsupp is between two parts, or the range is empty. -/
def BetweenParts (args : ResetArgs) : (table : Table) → table.Cursor → Prop
  | partsupp, (s : PartSuppCursor) => s.partSupplierNumber = 0 ∨ args.endRow ≤ args.startRow
  | _, _ => True

/-- `Reset` forgets the past unless the iterator of partsupp was left inside a part. -/
theorem forgetsAt_iff (sampler : IntSampler) {table : Table} {s : table.Cursor}
    (hs : (rowIterator sampler table).Reaches s) (args : ResetArgs) :
    ForgetsAt sampler args table s ↔ BetweenParts args table s := by
  cases table with
  | partsupp =>
    have hnumber := PartSuppCursor.number_lt hs
    constructor
    · rintro ⟨hforgets, -⟩
      by_contra hinside
      obtain ⟨hne, hlt⟩ := not_or.mp hinside
      exact PartSuppCursor.not_forgets hnumber (Nat.pos_of_ne_zero hne) (not_le.mp hlt) hforgets
    · intro hbetween
      exact ⟨PartSuppCursor.forgets hbetween, PartSuppCursor.fourPerPart hbetween⟩
  | lineitem =>
    refine ⟨fun _ => trivial, fun _ i => ?_⟩
    by_cases hlt : args.startRow < args.endRow
    · exact congrArg _ (LineitemCursor.reset_eq sampler hlt _ _)
    · have hend := LineitemCursor.next_reset_end sampler (not_lt.mp hlt)
      exact (SkippingReader.readAt_end (hend _) i).trans (SkippingReader.readAt_end (hend _) i).symm
  | _ => exact ⟨fun _ => trivial, fun _ _ => rfl⟩

/-- The range of the first part. -/
def onePart : ResetArgs := ⟨0, 1, 1, ⟨[]⟩⟩

/-- A new iterator of partsupp after a reset to the first part and one row. -/
def leftInside : PartSuppCursor :=
  (partSuppRowIterator .exact).call
    ((partSuppRowIterator .exact).call PartSuppCursor.initial (.reset onePart)) .next

lemma reaches_leftInside : (partSuppRowIterator .exact).Reaches leftInside :=
  (SkippingReader.Reaches.initial.call _).call _

theorem forgetsAt_iff_leftInside :
    ForgetsAt .exact onePart partsupp leftInside ↔ BetweenParts onePart partsupp leftInside :=
  @forgetsAt_iff .exact partsupp leftInside reaches_leftInside onePart

/-- A second reset to the first part gives three rows. -/
theorem leftInside_not_forgetsAt :
    (rowIterator .exact partsupp).Reaches leftInside ∧
      ¬ ForgetsAt .exact onePart partsupp leftInside := by
  have hnumber : leftInside.partSupplierNumber = 1 := rfl
  refine ⟨reaches_leftInside, fun h => ?_⟩
  exact PartSuppCursor.not_forgets (by rw [hnumber]; decide) (by rw [hnumber]; decide) (by decide) h.1

end Table

end Schengen.Tables
