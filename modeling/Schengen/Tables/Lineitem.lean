import Schengen.Tables.Dates
import Schengen.Tables.PartSupp

/-!
# The lineitem table

The iterator moves line by line. It draws the date and the number of lines of an order when
it enters the order, and finishes all streams when it leaves it; every stream of the lines
has the budget of the largest number of lines.
-/

namespace Schengen.Tables
open Library Schengen.Random

structure LineitemRow where
  lOrderkey : Int
  lPartkey : Int
  lSuppkey : Int
  lLinenumber : Int
  lQuantity : Int
  lExtendedpriceCents : Int
  lExtendedprice : ℚ
  lDiscountPercent : Int
  lDiscount : ℚ
  lTaxPercent : Int
  lTax : ℚ
  lReturnflag : String
  lLinestatus : String
  lShipdate : Int
  lShipdateEpoch : Int
  lCommitdate : Int
  lCommitdateEpoch : Int
  lReceiptdate : Int
  lReceiptdateEpoch : Int
  lShipinstruct : String
  lShipmode : String
  lComment : List Char

/-- The streams that are drawn from once for every line. -/
structure LineStreams where
  quantityRandom : RandomBoundedInt
  discountRandom : RandomBoundedInt
  taxRandom : RandomBoundedInt
  partKeyRandom : RandomBoundedLong
  supplierNumberRandom : RandomBoundedInt
  shipDateRandom : RandomBoundedInt
  commitDateRandom : RandomBoundedInt
  receiptDateRandom : RandomBoundedInt
  returnFlagRandom : RandomString
  shipInstructRandom : RandomString
  shipModeRandom : RandomString
  commentRandom : RandomText
  deriving Inhabited

/-- The streams of `LineitemRowIterator`. -/
structure LineitemStreams where
  orderDateRandom : RandomBoundedInt
  lineCountRandom : RandomBoundedInt
  lines : LineStreams
  deriving Inhabited

/-- `LineitemRowIterator` -/
structure LineitemCursor where
  startOrder : Nat
  endOrder : Nat
  orderCount : Nat
  index : Nat
  orderDate : Int
  lineCount : Int
  lineNumber : Nat
  scaleFactor : ScaleFactor
  streams : LineitemStreams

namespace LineitemStreams

def kLineCountMin : Int := 1
def kLineCountMax : Nat := 7
def kQuantityMin : Int := 1
def kQuantityMax : Int := 50
def kDiscountMin : Int := 0
def kDiscountMax : Int := 10
def kTaxMin : Int := 0
def kTaxMax : Int := 8
def kPartKeyMin : Int := 1
def kShipDateMin : Int := 1
def kShipDateMax : Int := 121
def kCommitDateMin : Int := 30
def kCommitDateMax : Int := 90
def kReceiptDateMin : Int := 1
def kReceiptDateMax : Int := 30
def kCommentAverageLength : Nat := 27
def kSuppliersPerPart : Int := 4
def kSupplierScaleBase : Nat := 10000
def kOrderKeySparseBits : Nat := 2
def kOrderKeySparseKeep : Nat := 3
def kOrderDateMin : Int := TPCHDate.kMinGenerateDate
def kItemShipDays : Int := kShipDateMax + kReceiptDateMax
def kOrderDateMax : Int := kOrderDateMin + (TPCHDate.kTotalDateRange - kItemShipDays - 1)
def kOrderDateSeed : Int := 1066728069
def kLineCountSeed : Int := 1434868289
def kLineQuantitySeed : Int := 209208115
def kLineDiscountSeed : Int := 554590007
def kLineTaxSeed : Int := 721958466
def kLinePartKeySeed : Int := 1808217256
def kSupplierNumberSeed : Int := 2095021727
def kLineShipDateSeed : Int := 1769349045
def kCommitDateSeed : Int := 904914315
def kReceiptDateSeed : Int := 373135028
def kReturnFlagSeed : Int := 717419739
def kShipInstructSeed : Int := 1371272478
def kShipModeSeed : Int := 675466456
def kCommentSeed : Int := 1095462486
def kReturnFlagNone : String := "N"
def kLineStatusFulfilled : String := "F"
def kLineStatusOpen : String := "O"

def createOrderDateRandom : RandomBoundedInt := .new kOrderDateSeed kOrderDateMin kOrderDateMax 1

def createLineCountRandom : RandomBoundedInt := .new kLineCountSeed kLineCountMin kLineCountMax 1

def createQuantityRandom : RandomBoundedInt :=
  .new kLineQuantitySeed kQuantityMin kQuantityMax kLineCountMax

def createDiscountRandom : RandomBoundedInt :=
  .new kLineDiscountSeed kDiscountMin kDiscountMax kLineCountMax

def createTaxRandom : RandomBoundedInt := .new kLineTaxSeed kTaxMin kTaxMax kLineCountMax

def createPartKeyRandom (scaleFactor : ScaleFactor) : RandomBoundedLong :=
  let maxPartKey := scaled kPart.rowsAtSf1 scaleFactor
  let maxPartKey := if maxPartKey < 1 then 1 else maxPartKey
  .new kLinePartKeySeed (30000 ≤ scaleFactor.value) kPartKeyMin maxPartKey kLineCountMax

def createShipDateRandom : RandomBoundedInt :=
  .new kLineShipDateSeed kShipDateMin kShipDateMax kLineCountMax

def new (scaleFactor : ScaleFactor) (textPool : TextPool) : LineitemStreams where
  orderDateRandom := createOrderDateRandom
  lineCountRandom := createLineCountRandom
  lines :=
    { quantityRandom := createQuantityRandom
      discountRandom := createDiscountRandom
      taxRandom := createTaxRandom
      partKeyRandom := createPartKeyRandom scaleFactor
      supplierNumberRandom := .new kSupplierNumberSeed 0 (kSuppliersPerPart - 1) kLineCountMax
      shipDateRandom := createShipDateRandom
      commitDateRandom := .new kCommitDateSeed kCommitDateMin kCommitDateMax kLineCountMax
      receiptDateRandom := .new kReceiptDateSeed kReceiptDateMin kReceiptDateMax kLineCountMax
      returnFlagRandom := .new kReturnFlagSeed kReturnFlagsDist kLineCountMax
      shipInstructRandom := .new kShipInstructSeed kShipInstructionsDist kLineCountMax
      shipModeRandom := .new kShipModeSeed kShipModesDist kLineCountMax
      commentRandom := .new kCommentSeed textPool kCommentAverageLength kLineCountMax }

def advanceRows (s : LineitemStreams) (rows : Nat) : LineitemStreams where
  orderDateRandom := s.orderDateRandom.advanceRows rows
  lineCountRandom := s.lineCountRandom.advanceRows rows
  lines :=
    { quantityRandom := s.lines.quantityRandom.advanceRows rows
      discountRandom := s.lines.discountRandom.advanceRows rows
      taxRandom := s.lines.taxRandom.advanceRows rows
      partKeyRandom := s.lines.partKeyRandom.advanceRows rows
      supplierNumberRandom := s.lines.supplierNumberRandom.advanceRows rows
      shipDateRandom := s.lines.shipDateRandom.advanceRows rows
      commitDateRandom := s.lines.commitDateRandom.advanceRows rows
      receiptDateRandom := s.lines.receiptDateRandom.advanceRows rows
      returnFlagRandom := s.lines.returnFlagRandom.advanceRows rows
      shipInstructRandom := s.lines.shipInstructRandom.advanceRows rows
      shipModeRandom := s.lines.shipModeRandom.advanceRows rows
      commentRandom := s.lines.commentRandom.advanceRows rows }

def rowFinished (s : LineitemStreams) : LineitemStreams where
  orderDateRandom := s.orderDateRandom.rowFinished
  lineCountRandom := s.lineCountRandom.rowFinished
  lines :=
    { quantityRandom := s.lines.quantityRandom.rowFinished
      discountRandom := s.lines.discountRandom.rowFinished
      taxRandom := s.lines.taxRandom.rowFinished
      partKeyRandom := s.lines.partKeyRandom.rowFinished
      supplierNumberRandom := s.lines.supplierNumberRandom.rowFinished
      shipDateRandom := s.lines.shipDateRandom.rowFinished
      commitDateRandom := s.lines.commitDateRandom.rowFinished
      receiptDateRandom := s.lines.receiptDateRandom.rowFinished
      returnFlagRandom := s.lines.returnFlagRandom.rowFinished
      shipInstructRandom := s.lines.shipInstructRandom.rowFinished
      shipModeRandom := s.lines.shipModeRandom.rowFinished
      commentRandom := s.lines.commentRandom.rowFinished }

def makeOrderKey (orderIndex : Nat) : Nat :=
  let lowBits := orderIndex &&& (1 <<< kOrderKeySparseKeep - 1)
  orderIndex >>> kOrderKeySparseKeep <<< kOrderKeySparseBits <<< kOrderKeySparseKeep + lowBits

def calculatePartPrice (partKey : Int) : Int :=
  90000 + (partKey.tdiv 10).tmod 20001 + (partKey.tmod 1000) * 100

def selectPartSupplier (partKey supplierNumber : Int) (scaleFactor : ScaleFactor) : Int :=
  selectSupplier kSuppliersPerPart kSupplierScaleBase partKey supplierNumber scaleFactor

/-- The flag is drawn only for a line that has been received. -/
def returnFlag (sampler : IntSampler) (receiptDate : Int) (s : RandomString) :
    String × RandomString :=
  if TPCHDate.isInPast receiptDate then s.nextValue sampler else (kReturnFlagNone, s)

def lineStatus (shipDate : Int) : String :=
  if TPCHDate.isInPast shipDate then kLineStatusFulfilled else kLineStatusOpen

/-- The line `lineNumber` of the order `orderIndex`, for an output row that is asked for. -/
def readLine (sampler : IntSampler) (scaleFactor : ScaleFactor) (orderIndex : Nat) (orderDate : Int)
    (lineNumber : Nat) (s : LineStreams) : LineitemRow × LineStreams :=
  let orderKey := makeOrderKey (orderIndex + 1)
  let quantity := s.quantityRandom.nextValue sampler
  let discount := s.discountRandom.nextValue sampler
  let tax := s.taxRandom.nextValue sampler
  let partKey := s.partKeyRandom.nextValue sampler
  let supplierNumber := s.supplierNumberRandom.nextValue sampler
  let supplierKey := selectPartSupplier partKey.1 supplierNumber.1 scaleFactor
  let extendedPriceCents := calculatePartPrice partKey.1 * quantity.1
  let shipDate := s.shipDateRandom.nextValue sampler
  let commitDate := s.commitDateRandom.nextValue sampler
  let receiptDate := s.receiptDateRandom.nextValue sampler
  let ship := shipDate.1 + orderDate
  let commit := commitDate.1 + orderDate
  let receipt := receiptDate.1 + ship
  let flag := returnFlag sampler receipt s.returnFlagRandom
  let shipInstruct := s.shipInstructRandom.nextValue sampler
  let shipMode := s.shipModeRandom.nextValue sampler
  let comment := s.commentRandom.nextValue sampler
  ({ lOrderkey := toInt32 orderKey
     lPartkey := toInt32 partKey.1
     lSuppkey := supplierKey
     lLinenumber := lineNumber + 1
     lQuantity := quantity.1
     lExtendedpriceCents := toInt32 extendedPriceCents
     lExtendedprice := (extendedPriceCents : ℚ) / 100
     lDiscountPercent := discount.1
     lDiscount := (discount.1 : ℚ) / 100
     lTaxPercent := tax.1
     lTax := (tax.1 : ℚ) / 100
     lReturnflag := flag.1
     lLinestatus := lineStatus ship
     lShipdate := ship
     lShipdateEpoch := TPCHDate.toUnixEpoch ship
     lCommitdate := commit
     lCommitdateEpoch := TPCHDate.toUnixEpoch commit
     lReceiptdate := receipt
     lReceiptdateEpoch := TPCHDate.toUnixEpoch receipt
     lShipinstruct := shipInstruct.1
     lShipmode := shipMode.1
     lComment := comment.1 },
   { quantityRandom := quantity.2
     discountRandom := discount.2
     taxRandom := tax.2
     partKeyRandom := partKey.2
     supplierNumberRandom := supplierNumber.2
     shipDateRandom := shipDate.2
     commitDateRandom := commitDate.2
     receiptDateRandom := receiptDate.2
     returnFlagRandom := flag.2
     shipInstructRandom := shipInstruct.2
     shipModeRandom := shipMode.2
     commentRandom := comment.2 })

end LineitemStreams

/-- The streams of the lines after at most `n` lines of one order. -/
structure LineStreams.Drawn (start : LineStreams) (n : Nat) (s : LineStreams) : Prop where
  quantity : RowStream.Drawn start.quantityRandom n s.quantityRandom
  discount : RowStream.Drawn start.discountRandom n s.discountRandom
  tax : RowStream.Drawn start.taxRandom n s.taxRandom
  partKey : RandomBoundedLong.Drawn start.partKeyRandom n s.partKeyRandom
  supplierNumber : RowStream.Drawn start.supplierNumberRandom n s.supplierNumberRandom
  shipDate : RowStream.Drawn start.shipDateRandom n s.shipDateRandom
  commitDate : RowStream.Drawn start.commitDateRandom n s.commitDateRandom
  receiptDate : RowStream.Drawn start.receiptDateRandom n s.receiptDateRandom
  returnFlag : RowStream.Drawn start.returnFlagRandom n s.returnFlagRandom
  shipInstruct : RowStream.Drawn start.shipInstructRandom n s.shipInstructRandom
  shipMode : RowStream.Drawn start.shipModeRandom n s.shipModeRandom
  comment : RowStream.Drawn start.commentRandom (2 * n) s.commentRandom

/-- The streams of the lines at the start of an order. -/
structure LineStreams.Fresh (s : LineStreams) : Prop where
  quantity : RowStream.Fresh 7 s.quantityRandom
  discount : RowStream.Fresh 7 s.discountRandom
  tax : RowStream.Fresh 7 s.taxRandom
  partKey : RandomBoundedLong.Fresh 7 s.partKeyRandom
  supplierNumber : RowStream.Fresh 7 s.supplierNumberRandom
  shipDate : RowStream.Fresh 7 s.shipDateRandom
  commitDate : RowStream.Fresh 7 s.commitDateRandom
  receiptDate : RowStream.Fresh 7 s.receiptDateRandom
  returnFlag : RowStream.Fresh 7 s.returnFlagRandom
  shipInstruct : RowStream.Fresh 7 s.shipInstructRandom
  shipMode : RowStream.Fresh 7 s.shipModeRandom
  comment : RowStream.Fresh 14 s.commentRandom

lemma LineStreams.Fresh.drawn {s : LineStreams} (h : s.Fresh) : s.Drawn 0 s :=
  ⟨h.quantity.drawn, h.discount.drawn, h.tax.drawn, h.partKey.drawn, h.supplierNumber.drawn,
    h.shipDate.drawn, h.commitDate.drawn, h.receiptDate.drawn, h.returnFlag.drawn,
    h.shipInstruct.drawn, h.shipMode.drawn, h.comment.drawn⟩

namespace LineitemStreams

lemma drawn_returnFlag (sampler : IntSampler) (receiptDate : Int) {start s : RandomString} {n : Nat}
    (h : RowStream.Drawn start n s) :
    RowStream.Drawn start (n + 1) (returnFlag sampler receiptDate s).2 := by
  unfold returnFlag
  split
  · exact RandomString.drawn_nextValue sampler h
  · exact h.mono (Nat.le_succ n)

lemma drawn_readLine (sampler : IntSampler) (scaleFactor : ScaleFactor) (orderIndex : Nat) (orderDate : Int)
    {start s : LineStreams} {n : Nat} (h : start.Drawn n s) (lineNumber : Nat) :
    start.Drawn (n + 1) (readLine sampler scaleFactor orderIndex orderDate lineNumber s).2 where
  quantity := RandomBoundedInt.drawn_nextValue sampler h.quantity
  discount := RandomBoundedInt.drawn_nextValue sampler h.discount
  tax := RandomBoundedInt.drawn_nextValue sampler h.tax
  partKey := h.partKey.nextValue sampler
  supplierNumber := RandomBoundedInt.drawn_nextValue sampler h.supplierNumber
  shipDate := RandomBoundedInt.drawn_nextValue sampler h.shipDate
  commitDate := RandomBoundedInt.drawn_nextValue sampler h.commitDate
  receiptDate := RandomBoundedInt.drawn_nextValue sampler h.receiptDate
  returnFlag := drawn_returnFlag sampler _ h.returnFlag
  shipInstruct := RandomString.drawn_nextValue sampler h.shipInstruct
  shipMode := RandomString.drawn_nextValue sampler h.shipMode
  comment := RandomText.drawn_nextValue sampler h.comment

lemma fresh_new (textPool : TextPool) {sf : ScaleFactor} (hsf : sf.value < 30000) :
    (new sf textPool).lines.Fresh where
  quantity := by refine RandomBoundedInt.fresh_new ?_ ?_ <;> decide
  discount := by refine RandomBoundedInt.fresh_new ?_ ?_ <;> decide
  tax := by refine RandomBoundedInt.fresh_new ?_ ?_ <;> decide
  partKey := RandomBoundedLong.fresh_new (decide_eq_false (not_le.mpr hsf)) (by decide) (by decide)
  supplierNumber := by refine RandomBoundedInt.fresh_new ?_ ?_ <;> decide
  shipDate := by refine RandomBoundedInt.fresh_new ?_ ?_ <;> decide
  commitDate := by refine RandomBoundedInt.fresh_new ?_ ?_ <;> decide
  receiptDate := by refine RandomBoundedInt.fresh_new ?_ ?_ <;> decide
  returnFlag := RandomString.fresh_new (by decide) (by decide)
  shipInstruct := RandomString.fresh_new (by decide) (by decide)
  shipMode := RandomString.fresh_new (by decide) (by decide)
  comment := RandomText.fresh_new (by decide) (by decide)

lemma fresh_advanceRows {s : LineitemStreams} (h : s.lines.Fresh) (r : Nat) :
    (s.advanceRows r).lines.Fresh where
  quantity := h.quantity.advanceRows r
  discount := h.discount.advanceRows r
  tax := h.tax.advanceRows r
  partKey := h.partKey.advanceRows r
  supplierNumber := h.supplierNumber.advanceRows r
  shipDate := h.shipDate.advanceRows r
  commitDate := h.commitDate.advanceRows r
  receiptDate := h.receiptDate.advanceRows r
  returnFlag := h.returnFlag.advanceRows r
  shipInstruct := h.shipInstruct.advanceRows r
  shipMode := h.shipMode.advanceRows r
  comment := h.comment.advanceRows r

/-- The date of order `r` and its stream after the draw. -/
def orderDateAt (sampler : IntSampler) (r : Nat) : Int × RandomBoundedInt :=
  RandomBoundedInt.nextValue sampler (createOrderDateRandom.advanceRows r)

/-- The number of lines of order `r` and its stream after the draw. -/
def lineCountAt (sampler : IntSampler) (r : Nat) : Int × RandomBoundedInt :=
  RandomBoundedInt.nextValue sampler (createLineCountRandom.advanceRows r)

/-- An order has one to seven lines. -/
lemma lineCountAt_mem (sampler : IntSampler) (r : Nat) :
    1 ≤ (lineCountAt sampler r).1 ∧ (lineCountAt sampler r).1 ≤ 7 := by
  have hfresh : RowStream.Fresh 1 createLineCountRandom := by
    refine RandomBoundedInt.fresh_new ?_ ?_ <;> decide
  exact RandomBoundedInt.nextValue_mem sampler (hfresh.advanceRows r) (hfresh.advanceRows r).drawn
    rfl (by decide) (by decide)

/-- The lines of order `r` and their streams after them. -/
def readOrder (sampler : IntSampler) (scaleFactor : ScaleFactor) (textPool : TextPool) (r : Nat) :
    List LineitemRow × LineStreams :=
  PullIterator.readFrom (readLine sampler scaleFactor r (orderDateAt sampler r).1)
    (lineCountAt sampler r).1.toNat 0 ((new scaleFactor textPool).advanceRows r).lines

/-- The streams inside order `r`. -/
def insideOrder (sampler : IntSampler) (r : Nat) (lines : LineStreams) : LineitemStreams :=
  ⟨(orderDateAt sampler r).2, (lineCountAt sampler r).2, lines⟩

theorem finish_readOrder (sampler : IntSampler) (textPool : TextPool) {sf : ScaleFactor} (hsf : sf.value < 30000)
    (r : Nat) :
    (insideOrder sampler r (readOrder sampler sf textPool r).2).rowFinished =
      (new sf textPool).advanceRows (r + 1) := by
  have hfresh := fresh_new textPool hsf
  have hcount := lineCountAt_mem sampler r
  have hle : 0 + (lineCountAt sampler r).1.toNat ≤ 7 := by omega
  have hcomment : 2 * (0 + (lineCountAt sampler r).1.toNat) ≤ 14 := by omega
  have hdrawn : LineStreams.Drawn ((new sf textPool).advanceRows r).lines
      (0 + (lineCountAt sampler r).1.toNat) (readOrder sampler sf textPool r).2 :=
    PullIterator.readFrom_induction (LineStreams.Drawn ((new sf textPool).advanceRows r).lines)
      (fun k _ _ h => drawn_readLine sampler sf r _ h k) _
      (fresh_advanceRows hfresh r).drawn
  unfold rowFinished advanceRows
  congr 1
  · refine RandomBoundedInt.finish_nextValue sampler (RandomBoundedInt.fresh_new ?_ ?_) r <;> decide
  · refine RandomBoundedInt.finish_nextValue sampler (RandomBoundedInt.fresh_new ?_ ?_) r <;> decide
  · congr 1
    · exact hfresh.quantity.finish_row hdrawn.quantity hle
    · exact hfresh.discount.finish_row hdrawn.discount hle
    · exact hfresh.tax.finish_row hdrawn.tax hle
    · exact hfresh.partKey.finish_row hdrawn.partKey hle
    · exact hfresh.supplierNumber.finish_row hdrawn.supplierNumber hle
    · exact hfresh.shipDate.finish_row hdrawn.shipDate hle
    · exact hfresh.commitDate.finish_row hdrawn.commitDate hle
    · exact hfresh.receiptDate.finish_row hdrawn.receiptDate hle
    · exact hfresh.returnFlag.finish_row hdrawn.returnFlag hle
    · exact hfresh.shipInstruct.finish_row hdrawn.shipInstruct hle
    · exact hfresh.shipMode.finish_row hdrawn.shipMode hle
    · exact hfresh.comment.finish_row hdrawn.comment hcomment

lemma advanceRows_zero (textPool : TextPool) {sf : ScaleFactor} (hsf : sf.value < 30000) :
    (new sf textPool).advanceRows 0 = new sf textPool := by
  unfold advanceRows
  congr 1
  congr 1
  exact RandomBoundedLong.advanceRows_zero (fresh_new textPool hsf).partKey

end LineitemStreams

namespace LineitemCursor
open LineitemStreams

def initial : LineitemCursor := ⟨0, 0, 0, 0, 0, 0, 0, 1, default⟩

/-- The date and the number of lines of the order that is entered. -/
def lookAhead (sampler : IntSampler) (s : LineitemCursor) : LineitemCursor :=
  let orderDate := s.streams.orderDateRandom.nextValue sampler
  let lineCount := s.streams.lineCountRandom.nextValue sampler
  { s with
    orderDate := orderDate.1
    lineCount := lineCount.1 - 1
    streams := ⟨orderDate.2, lineCount.2, s.streams.lines⟩ }

def reset (sampler : IntSampler) (s : LineitemCursor) (startOrder endOrder : Nat)
    (scaleFactor : ScaleFactor) (textPool : TextPool) : LineitemCursor :=
  let startOrder := if startOrder > endOrder then endOrder else startOrder
  let streams := LineitemStreams.new scaleFactor textPool
  let s :=
    { s with
      startOrder := startOrder
      endOrder := endOrder
      scaleFactor := scaleFactor
      orderCount := endOrder - startOrder
      index := 0
      lineNumber := 0
      streams := if 0 < startOrder then streams.advanceRows startOrder else streams }
  if 0 < s.orderCount then s.lookAhead sampler else s

/-- All streams finish with the order; the next order is entered if there is one. -/
def finishOrder (sampler : IntSampler) (s : LineitemCursor) : LineitemCursor :=
  let s := { s with streams := s.streams.rowFinished, index := s.index + 1 }
  if s.index < s.orderCount then { s.lookAhead sampler with lineNumber := 0 } else s

def finishLine (sampler : IntSampler) (s : LineitemCursor) : LineitemCursor :=
  let s := { s with lineNumber := s.lineNumber + 1 }
  if (s.lineNumber : Int) > s.lineCount then s.finishOrder sampler else s

def next (sampler : IntSampler) (s : LineitemCursor) : Option (LineitemRow × LineitemCursor) :=
  if s.index ≥ s.orderCount then none
  else
    let line := readLine sampler s.scaleFactor (s.startOrder + s.index) s.orderDate s.lineNumber
      s.streams.lines
    some (line.1, finishLine sampler { s with streams := { s.streams with lines := line.2 } })

def done (s : LineitemCursor) : Bool := s.index ≥ s.orderCount

def nextRowId (s : LineitemCursor) : Nat := (s.startOrder + s.index) * kLineCountMax + s.lineNumber

lemma done_iff (sampler : IntSampler) (s : LineitemCursor) :
    s.done = true ↔ s.next sampler = none := by
  unfold done next
  split <;> simp_all

def iterator (sampler : IntSampler) : PullIterator LineitemCursor LineitemRow where
  next := next sampler
  done := done
  nextRowId := nextRowId
  done_iff := done_iff sampler

section

variable (sampler : IntSampler) (sf : ScaleFactor) (textPool : TextPool) (a b : Nat)

/-- The iterator over the orders `[a, b)` before line `k` of order `r`. -/
def inside (r k : Nat) (lines : LineStreams) : LineitemCursor :=
  ⟨a, b, b - a, r - a, (orderDateAt sampler r).1, (lineCountAt sampler r).1 - 1, k, sf,
    insideOrder sampler r lines⟩

/-- The iterator over the orders `[a, b)` when it enters order `r`, or at its end. -/
structure Start (r : Nat) (s : LineitemCursor) : Prop where
  orderCount : s.orderCount = b - a
  index : s.index = r - a
  streams : r < b → s = inside sampler sf a b r 0 ((new sf textPool).advanceRows r).lines

variable {a b}

lemma start_reset (hsf : sf.value < 30000) (hab : a ≤ b) :
    Start sampler sf textPool a b a (initial.reset sampler a b sf textPool) := by
  have hstreams : (if 0 < a then (new sf textPool).advanceRows a else new sf textPool) =
      (new sf textPool).advanceRows a := by
    by_cases hpos : 0 < a
    · rw [if_pos hpos]
    · obtain rfl : a = 0 := by omega
      rw [if_neg hpos, advanceRows_zero textPool hsf]
  unfold reset
  simp only [gt_iff_lt, not_lt.mpr hab, if_false, hstreams]
  by_cases hne : 0 < b - a
  · rw [if_pos hne]
    refine ⟨rfl, (Nat.sub_self a).symm, fun _ => ?_⟩
    unfold inside
    rw [Nat.sub_self]
    rfl
  · rw [if_neg hne]
    exact ⟨rfl, (Nat.sub_self a).symm, fun h => by omega⟩

lemma next_inside {r : Nat} (hr : a ≤ r) (hrb : r < b) {k : Nat}
    (hk : k + 1 < (lineCountAt sampler r).1.toNat) (lines : LineStreams) :
    (inside sampler sf a b r k lines).next sampler =
      some ((readLine sampler sf r (orderDateAt sampler r).1 k lines).1,
        inside sampler sf a b r (k + 1) (readLine sampler sf r (orderDateAt sampler r).1 k lines).2) := by
  have hindex : a + (r - a) = r := by omega
  have hopen : ¬ (b - a ≤ r - a) := by omega
  have hline : ¬ (((k + 1 : Nat) : Int) > (lineCountAt sampler r).1 - 1) := by omega
  unfold next finishLine inside insideOrder
  simp only [ge_iff_le, hopen, hline, hindex, if_false]

lemma next_last {r : Nat} (hr : a ≤ r) (hrb : r < b) {k : Nat}
    (hk : k + 1 = (lineCountAt sampler r).1.toNat) (lines : LineStreams) :
    (inside sampler sf a b r k lines).next sampler =
      some ((readLine sampler sf r (orderDateAt sampler r).1 k lines).1,
        finishOrder sampler (inside sampler sf a b r (lineCountAt sampler r).1.toNat
          (readLine sampler sf r (orderDateAt sampler r).1 k lines).2)) := by
  have hindex : a + (r - a) = r := by omega
  have hopen : ¬ (b - a ≤ r - a) := by omega
  have hline : ((k + 1 : Nat) : Int) > (lineCountAt sampler r).1 - 1 := by omega
  unfold next finishLine
  rw [← hk]
  unfold inside insideOrder
  simp only [ge_iff_le, hopen, hline, hindex, if_false, if_true]

lemma start_finishOrder {r : Nat} (hr : a ≤ r) {lines : LineStreams} (k : Nat)
    (hfinish : (insideOrder sampler r lines).rowFinished =
      (new sf textPool).advanceRows (r + 1)) :
    Start sampler sf textPool a b (r + 1)
      (finishOrder sampler (inside sampler sf a b r k lines)) := by
  have hindex : r - a + 1 = r + 1 - a := by omega
  unfold finishOrder inside
  simp only [hfinish, hindex]
  by_cases hlast : r + 1 - a < b - a
  · rw [if_pos hlast]
    exact ⟨rfl, rfl, fun _ => rfl⟩
  · rw [if_neg hlast]
    exact ⟨rfl, rfl, fun h => by omega⟩

/-- The rows of order `r`, as any iterator that reaches the order emits them. -/
def orderRows (r : Nat) : List LineitemRow := (readOrder sampler sf textPool r).1

theorem emits_reset (hsf : sf.value < 30000) (hab : a ≤ b) :
    (iterator sampler).Emits (initial.reset sampler a b sf textPool)
      ((List.range' a (b - a)).flatMap (orderRows sampler sf textPool)) := by
  refine PullIterator.emits_units (Start sampler sf textPool a b) hab ?_ ?_
    (start_reset sampler sf textPool hsf hab)
  · intro r s hr hrb hs
    obtain rfl := hs.streams hrb
    have hcount := lineCountAt_mem sampler r
    obtain ⟨m, hm⟩ : ∃ m, (lineCountAt sampler r).1.toNat = m + 1 :=
      ⟨(lineCountAt sampler r).1.toNat - 1, by omega⟩
    have hunit : (iterator sampler).Yields
        (inside sampler sf a b r 0 ((new sf textPool).advanceRows r).lines) _ _ :=
      PullIterator.yields_readFrom (readLine sampler sf r (orderDateAt sampler r).1)
        (inside sampler sf a b r)
        (fun t => finishOrder sampler (inside sampler sf a b r (lineCountAt sampler r).1.toNat t))
        (fun k t hk => next_inside sampler sf hr hrb hk t)
        (fun k t hk => next_last sampler sf hr hrb hk t) (m := m) (k := 0) (by omega) _
    rw [← hm] at hunit
    exact ⟨_, hunit, start_finishOrder sampler sf textPool hr _
      (finish_readOrder sampler textPool hsf r)⟩
  · intro s hs
    change next sampler s = none
    unfold next
    rw [if_pos (by rw [hs.index, hs.orderCount])]

end

end LineitemCursor

end Schengen.Tables
