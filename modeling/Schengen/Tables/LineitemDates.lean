import Schengen.Tables.Calendar
import Schengen.Tables.SkippedRows

/-!
# The dates and flags of lineitem

The dates of a line are offsets from the date of its order, and the flags compare them with the
current date. The iterator holds the date of the order that it is in, whatever was read or skipped
before.
-/

namespace Schengen.Tables
open Library Schengen.Random

namespace LineStreams
open LineitemStreams

/-- The bounds of the dates and the tokens of the flag. -/
structure DateParams (s : LineStreams) : Prop where
  shipDate : s.shipDateRandom.params = ⟨kShipDateMin, kShipDateMax⟩
  commitDate : s.commitDateRandom.params = ⟨kCommitDateMin, kCommitDateMax⟩
  receiptDate : s.receiptDateRandom.params = ⟨kReceiptDateMin, kReceiptDateMax⟩
  returnFlag : s.returnFlagRandom.params = kReturnFlagsDist

end LineStreams

namespace LineitemStreams

lemma dateParams_new (scaleFactor : ScaleFactor) (textPool : TextPool) :
    (new scaleFactor textPool).lines.DateParams := ⟨rfl, rfl, rfl, rfl⟩

variable {s : LineStreams} {streams : LineitemStreams}

lemma dateParams_advanceRows (h : streams.lines.DateParams) (rows : Nat) :
    (streams.advanceRows rows).lines.DateParams :=
  ⟨h.shipDate, h.commitDate, h.receiptDate, h.returnFlag⟩

lemma dateParams_rowFinished (h : streams.lines.DateParams) :
    streams.rowFinished.lines.DateParams :=
  ⟨h.shipDate, h.commitDate, h.receiptDate, h.returnFlag⟩

lemma returnFlag_params (sampler : IntSampler) (receiptDate : Int) (flags : RandomString) :
    (returnFlag sampler receiptDate flags).2.params = flags.params := by
  unfold returnFlag RandomString.nextValue
  split
  · split <;> rfl
  · rfl

lemma returnFlag_fst (sampler : IntSampler) (receiptDate : Int) (flags : RandomString) :
    (returnFlag sampler receiptDate flags).1 =
      if TPCHDate.isInPast receiptDate then (flags.nextValue sampler).1 else "N" :=
  apply_ite Prod.fst _ _ _

lemma dateParams_readLine (h : s.DateParams) (sampler : IntSampler) (scaleFactor : ScaleFactor)
    (orderIndex : Nat) (orderDate : Int) (lineNumber : Nat) :
    (readLine sampler scaleFactor orderIndex orderDate lineNumber s).2.DateParams :=
  ⟨h.shipDate, h.commitDate, h.receiptDate, (returnFlag_params sampler _ _).trans h.returnFlag⟩

/-- What holds of the dates and flags of a line. -/
structure DatesConsistent (orderDate : Int) (row : LineitemRow) : Prop where
  orderDate_ge : 92001 ≤ orderDate
  orderDate_lt : orderDate < row.lShipdate
  shipdate_lt : row.lShipdate < row.lReceiptdate
  receiptdate_le : row.lReceiptdate ≤ 94557
  commitdate_ge : orderDate + 30 ≤ row.lCommitdate
  commitdate_le : row.lCommitdate ≤ orderDate + 90
  fulfilled_iff : row.lLinestatus = "F" ↔ row.lShipdateEpoch ≤ 9298
  open_of_not : ¬ row.lShipdateEpoch ≤ 9298 → row.lLinestatus = "O"
  none_iff : row.lReturnflag = "N" ↔ 9298 < row.lReceiptdateEpoch
  flag_of_not : ¬ 9298 < row.lReceiptdateEpoch → row.lReturnflag = "R" ∨ row.lReturnflag = "A"
  fulfilled_of_returned : row.lReturnflag = "R" ∨ row.lReturnflag = "A" → row.lLinestatus = "F"

/-- The last day in the past, as a generated date and as a day of the epoch. -/
lemma isInPast_iff_epoch {date : Int} (h : 92001 ≤ date) :
    TPCHDate.isInPast date = true ↔ TPCHDate.toUnixEpoch date ≤ 9298 := by
  rw [TPCHDate.isInPast_iff h]
  unfold TPCHDate.toUnixEpoch TPCHDate.kMinGenerateDate TPCHDate.kUnixEpochOffset
  omega

/-- A drawn flag is one of the two for a line that came back or was accepted. -/
lemma nextValue_returnFlag (sampler : IntSampler) {flags : RandomString}
    (h : flags.params = kReturnFlagsDist) :
    (flags.nextValue sampler).1 = "R" ∨ (flags.nextValue sampler).1 = "A" := by
  have hmem : (flags.nextValue sampler).1 ∈ kReturnFlags.map DistributionEntry.token := by
    unfold RandomString.nextValue
    rw [h, if_neg (by decide)]
    exact pickEntry_mem _ _ (List.cons_ne_nil _ _)
  simpa [kReturnFlags] using hmem

/-- The conditions on the dates, from the distances drawn and the way the status and the flag are
chosen. -/
lemma datesConsistent_of_distances {orderDate : Int} {row : LineitemRow} {flag : String}
    (hmin : kOrderDateMin ≤ orderDate) (hmax : orderDate ≤ kOrderDateMax)
    (hship : kShipDateMin ≤ row.lShipdate - orderDate ∧ row.lShipdate - orderDate ≤ kShipDateMax)
    (hcommit : kCommitDateMin ≤ row.lCommitdate - orderDate ∧
      row.lCommitdate - orderDate ≤ kCommitDateMax)
    (hreceipt : kReceiptDateMin ≤ row.lReceiptdate - row.lShipdate ∧
      row.lReceiptdate - row.lShipdate ≤ kReceiptDateMax)
    (hshipepoch : row.lShipdateEpoch = TPCHDate.toUnixEpoch row.lShipdate)
    (hreceiptepoch : row.lReceiptdateEpoch = TPCHDate.toUnixEpoch row.lReceiptdate)
    (hstatus : row.lLinestatus = if TPCHDate.isInPast row.lShipdate then "F" else "O")
    (hreturn : row.lReturnflag = if TPCHDate.isInPast row.lReceiptdate then flag else "N")
    (hflag : flag = "R" ∨ flag = "A") : DatesConsistent orderDate row := by
  change 92001 ≤ orderDate at hmin
  change orderDate ≤ 94406 at hmax
  simp only [kShipDateMin, kShipDateMax, kCommitDateMin, kCommitDateMax, kReceiptDateMin,
    kReceiptDateMax] at hship hcommit hreceipt
  have hpastship := @isInPast_iff_epoch row.lShipdate (by omega)
  have hpastreceipt := @isInPast_iff_epoch row.lReceiptdate (by omega)
  simp only [hpastship, ← hshipepoch] at hstatus
  simp only [hpastreceipt, ← hreceiptepoch] at hreturn
  have hlater : row.lShipdateEpoch < row.lReceiptdateEpoch := by
    rw [hshipepoch, hreceiptepoch]
    unfold TPCHDate.toUnixEpoch
    omega
  have hopen : ¬ row.lShipdateEpoch ≤ 9298 → row.lLinestatus = "O" := by
    intro hnot
    rw [hstatus, if_neg hnot]
  have hfulfilled : row.lShipdateEpoch ≤ 9298 → row.lLinestatus = "F" := by
    intro hpast
    rw [hstatus, if_pos hpast]
  have hnone : 9298 < row.lReceiptdateEpoch → row.lReturnflag = "N" := by
    intro hlate
    rw [hreturn, if_neg (not_le.mpr hlate)]
  have hdrawn : ¬ 9298 < row.lReceiptdateEpoch → row.lReturnflag = "R" ∨ row.lReturnflag = "A" := by
    intro hpast
    rw [hreturn, if_pos (not_lt.mp hpast)]
    exact hflag
  have hnoneOnly : row.lReturnflag = "N" → 9298 < row.lReceiptdateEpoch := by
    intro hflag'
    by_contra hpast
    rcases hdrawn hpast with h | h <;> simp [hflag'] at h
  refine
    { orderDate_ge := hmin
      orderDate_lt := by omega
      shipdate_lt := by omega
      receiptdate_le := by omega
      commitdate_ge := by omega
      commitdate_le := by omega
      fulfilled_iff := ⟨fun hstatus' => ?_, hfulfilled⟩
      open_of_not := hopen
      none_iff := ⟨hnoneOnly, hnone⟩
      flag_of_not := hdrawn
      fulfilled_of_returned := fun hreturned => ?_ }
  · by_contra hnot
    simp [hopen hnot] at hstatus'
  · have hpast : ¬ 9298 < row.lReceiptdateEpoch := by
      intro hlate
      rw [hnone hlate] at hreturned
      simp at hreturned
    exact hfulfilled (by omega)

lemma readLine_datesConsistent {sampler : IntSampler} (hbounded : sampler.Bounded)
    (h : s.DateParams) (scaleFactor : ScaleFactor) (orderIndex : Nat) {orderDate : Int}
    (hmin : kOrderDateMin ≤ orderDate) (hmax : orderDate ≤ kOrderDateMax) (lineNumber : Nat) :
    DatesConsistent orderDate
      (readLine sampler scaleFactor orderIndex orderDate lineNumber s).1 := by
  have hship := RandomBoundedInt.nextValue_bounds hbounded h.shipDate (by decide)
  have hcommit := RandomBoundedInt.nextValue_bounds hbounded h.commitDate (by decide)
  have hreceipt := RandomBoundedInt.nextValue_bounds hbounded h.receiptDate (by decide)
  have hflag := nextValue_returnFlag sampler h.returnFlag
  generalize hrow : (readLine sampler scaleFactor orderIndex orderDate lineNumber s).1 = row
  have hshipdate : row.lShipdate - orderDate = (s.shipDateRandom.nextValue sampler).1 := by
    rw [← hrow]
    exact add_sub_cancel_right _ _
  have hcommitdate : row.lCommitdate - orderDate = (s.commitDateRandom.nextValue sampler).1 := by
    rw [← hrow]
    exact add_sub_cancel_right _ _
  have hreceiptdate :
      row.lReceiptdate - row.lShipdate = (s.receiptDateRandom.nextValue sampler).1 := by
    rw [← hrow]
    exact add_sub_cancel_right _ _
  have hreturn : row.lReturnflag = if TPCHDate.isInPast row.lReceiptdate
      then (s.returnFlagRandom.nextValue sampler).1 else "N" := by
    rw [← hrow]
    exact returnFlag_fst sampler _ _
  refine datesConsistent_of_distances hmin hmax (hshipdate ▸ hship) (hcommitdate ▸ hcommit)
    (hreceiptdate ▸ hreceipt) ?_ ?_ ?_ hreturn hflag
  · rw [← hrow]
    rfl
  · rw [← hrow]
    rfl
  · rw [← hrow]
    rfl

end LineitemStreams

namespace LineitemCursor
open LineitemStreams

variable {sampler : IntSampler} {s t : LineitemCursor}

/-- The iterator inside an order holds its date. -/
structure HoldsDate (sampler : IntSampler) (s : LineitemCursor) : Prop where
  lines : s.streams.lines.DateParams
  orderDate : s.orderDate = (orderDateAt sampler (s.startOrder + s.index)).1
  stream : s.streams.orderDateRandom = (orderDateAt sampler (s.startOrder + s.index)).2

lemma fresh_orderDateRandom : RowStream.Fresh 1 createOrderDateRandom := by
  refine RandomBoundedInt.fresh_new ?_ ?_ <;> decide

/-- Entering an order draws its date. -/
lemma holdsDate_lookAhead (hlines : s.streams.lines.DateParams)
    (hstream : s.streams.orderDateRandom = createOrderDateRandom.advanceRows (s.startOrder + s.index)) :
    HoldsDate sampler (s.lookAhead sampler) where
  lines := hlines
  orderDate := by
    change (s.streams.orderDateRandom.nextValue sampler).1 = (orderDateAt sampler (s.startOrder + s.index)).1
    rw [hstream, orderDateAt]
  stream := by
    change (s.streams.orderDateRandom.nextValue sampler).2 = (orderDateAt sampler (s.startOrder + s.index)).2
    rw [hstream, orderDateAt]

lemma holdsDate_reset (sampler : IntSampler) (s : LineitemCursor) (startOrder endOrder : Nat)
    (scaleFactor : ScaleFactor) (textPool : TextPool)
    (hopen : (s.reset sampler startOrder endOrder scaleFactor textPool).index <
      (s.reset sampler startOrder endOrder scaleFactor textPool).orderCount) :
    HoldsDate sampler (s.reset sampler startOrder endOrder scaleFactor textPool) := by
  unfold reset at hopen ⊢
  generalize (if startOrder > endOrder then endOrder else startOrder) = start at hopen ⊢
  dsimp only at hopen ⊢
  by_cases hsome : 0 < endOrder - start
  · rw [if_pos hsome]
    apply holdsDate_lookAhead
    · split
      · exact dateParams_advanceRows (dateParams_new scaleFactor textPool) start
      · exact dateParams_new scaleFactor textPool
    · by_cases hpos : 0 < start
      · simp only [hpos, if_true]
        rfl
      · obtain rfl : start = 0 := by omega
        exact (RowStream.advanceRows_zero fresh_orderDateRandom).symm
  · rw [if_neg hsome] at hopen
    exact absurd hopen hsome

lemma holdsDate_finishOrder (h : HoldsDate sampler s)
    (hopen : (s.finishOrder sampler).index < (s.finishOrder sampler).orderCount) :
    HoldsDate sampler (s.finishOrder sampler) := by
  unfold finishOrder at hopen ⊢
  by_cases hnext : s.index + 1 < s.orderCount
  · simp only [hnext, if_true]
    have hentered : HoldsDate sampler
        (({ s with streams := s.streams.rowFinished, index := s.index + 1 } : LineitemCursor).lookAhead
          sampler) := by
      apply holdsDate_lookAhead (dateParams_rowFinished h.lines)
      change s.streams.orderDateRandom.rowFinished = _
      rw [h.stream, orderDateAt, RandomBoundedInt.finish_nextValue sampler fresh_orderDateRandom]
      rfl
    exact ⟨hentered.lines, hentered.orderDate, hentered.stream⟩
  · simp only [hnext, if_false] at hopen

lemma holdsDate_finishLine (h : HoldsDate sampler s)
    (hopen : (s.finishLine sampler).index < (s.finishLine sampler).orderCount) :
    HoldsDate sampler (s.finishLine sampler) := by
  have hline : HoldsDate sampler { s with lineNumber := s.lineNumber + 1 } :=
    ⟨h.lines, h.orderDate, h.stream⟩
  unfold finishLine at hopen ⊢
  by_cases hlast : ((s.lineNumber + 1 : Nat) : Int) > s.lineCount
  · simp only [hlast, if_true] at hopen ⊢
    exact holdsDate_finishOrder hline hopen
  · simp only [hlast, if_false] at hopen ⊢
    exact hline

variable (sampler) in
/-- The line of the current order that is read next. -/
def currentLine (s : LineitemCursor) : LineitemRow × LineStreams :=
  readLine sampler s.scaleFactor (s.startOrder + s.index) s.orderDate s.lineNumber s.streams.lines

def withLines (s : LineitemCursor) (lines : LineStreams) : LineitemCursor :=
  { s with streams := { s.streams with lines := lines } }

lemma next_eq (hopen : s.index < s.orderCount) : s.next sampler =
    some ((s.currentLine sampler).1, finishLine sampler (s.withLines (s.currentLine sampler).2)) := by
  unfold next
  rw [if_neg (not_le.mpr hopen)]
  rfl

/-- A row that is emitted is a line of the current order. -/
lemma line_of_next {row : LineitemRow} (hnext : s.next sampler = some (row, t)) :
    s.index < s.orderCount ∧ (s.currentLine sampler).1 = row ∧
      finishLine sampler (s.withLines (s.currentLine sampler).2) = t := by
  by_cases hopen : s.index < s.orderCount
  · rw [next_eq hopen] at hnext
    have hpair := Option.some.inj hnext
    exact ⟨hopen, congrArg Prod.fst hpair, congrArg Prod.snd hpair⟩
  · unfold next at hnext
    rw [if_pos (not_lt.mp hopen)] at hnext
    cases hnext

lemma holdsDate_next (h : s.index < s.orderCount → HoldsDate sampler s) {row : LineitemRow}
    (hnext : s.next sampler = some (row, t)) (hopen : t.index < t.orderCount) :
    HoldsDate sampler t := by
  obtain ⟨hlt, -, rfl⟩ := line_of_next hnext
  have hs := h hlt
  have hparams : (s.currentLine sampler).2.DateParams := dateParams_readLine hs.lines sampler
    s.scaleFactor (s.startOrder + s.index) s.orderDate s.lineNumber
  have hlines : HoldsDate sampler (s.withLines (s.currentLine sampler).2) :=
    ⟨hparams, hs.orderDate, hs.stream⟩
  exact holdsDate_finishLine hlines hopen

/-- Every iterator that is reached holds the date of its order. -/
lemma holdsDate_of_reaches (h : (Table.lineitemRowIterator sampler).Reaches s) :
    s.index < s.orderCount → HoldsDate sampler s := by
  refine h.invariant (I := fun s => s.index < s.orderCount → HoldsDate sampler s) ?_ ?_ ?_ ?_
  · exact fun hopen => absurd hopen (Nat.lt_irrefl 0)
  · exact fun args s _ => holdsDate_reset sampler s _ _ _ _
  · exact fun s row t hs hnext => holdsDate_next hs hnext
  · intro s t hs hskip
    change s.skip sampler = some t at hskip
    rw [skip_eq] at hskip
    obtain ⟨⟨row, u⟩, hnext, rfl⟩ := Option.map_eq_some_iff.mp hskip
    exact holdsDate_next hs hnext

end LineitemCursor

open LineitemStreams in
/-- Every line that is emitted has consistent dates and flags, with the date of its order. The last
day in the past is 1995-06-17. -/
theorem lineitem_datesConsistent {sampler : IntSampler} (hbounded : sampler.Bounded)
    {cursor next : LineitemCursor} {row : LineitemRow}
    (hreaches : (Table.lineitemRowIterator sampler).Reaches cursor)
    (hnext : (Table.lineitemRowIterator sampler).next cursor = some (row, next)) :
    ∃ order : Nat, cursor.startOrder ≤ order ∧ order < cursor.startOrder + cursor.orderCount ∧
      row.lOrderkey = toInt32 (makeOrderKey (order + 1)) ∧
      DatesConsistent (orderDateAt sampler order).1 row ∧
      TPCHDate.toYmd 93264 = some (95, 6, 17) ∧ TPCHDate.toUnixEpoch 93264 = 9298 := by
  obtain ⟨hopen, hrow, -⟩ := LineitemCursor.line_of_next hnext
  have hholds := LineitemCursor.holdsDate_of_reaches hreaches hopen
  have hdate := RandomBoundedInt.nextValue_bounds hbounded
    (s := createOrderDateRandom.advanceRows (cursor.startOrder + cursor.index)) rfl (by decide)
  refine ⟨cursor.startOrder + cursor.index, Nat.le_add_right _ _, by omega, ?_, ?_, by decide, by decide⟩
  · rw [← hrow]
    simp only [LineitemCursor.currentLine, readLine]
  · rw [← hrow, LineitemCursor.currentLine, hholds.orderDate]
    exact readLine_datesConsistent hbounded hholds.lines _ _ hdate.1 hdate.2 _

/-- The iterator over the first order, with the least draws. -/
def firstOrder : LineitemCursor := LineitemCursor.initial.reset (.ofDraws id) 0 1 1 default

theorem lineitem_datesConsistent_first :
    ∃ order : Nat, firstOrder.startOrder ≤ order ∧
      order < firstOrder.startOrder + firstOrder.orderCount ∧
      LineitemStreams.DatesConsistent (LineitemStreams.orderDateAt (.ofDraws id) order).1
        (firstOrder.currentLine (.ofDraws id)).1 := by
  have hreaches : (Table.lineitemRowIterator (.ofDraws id)).Reaches firstOrder :=
    SkippingReader.Reaches.initial.call (.reset (⟨0, 1, 1, default⟩ : ResetArgs))
  obtain ⟨order, hstart, hend, -, hdates, -⟩ :=
    lineitem_datesConsistent (IntSampler.bounded_ofDraws id) hreaches
      (LineitemCursor.next_eq (show firstOrder.index < firstOrder.orderCount by decide))
  exact ⟨order, hstart, hend, hdates⟩

end Schengen.Tables
