import Schengen.Tables.Dates
import Schengen.Tables.Partition
import Schengen.Tables.RowCursor
import Schengen.Random.RowRandomLong

/-!
# The orders table

An order recomputes the price of its lines from the streams of the line items. The number
of lines is drawn; the streams of the lines have the budget of the largest number.
-/

namespace Schengen.Tables
open Library Schengen.Random

structure OrderRow where
  oOrderkey : Int
  oCustkey : Int
  oOrderstatus : String
  oTotalpriceCents : Int
  oTotalprice : ℚ
  oOrderdate : Int
  oOrderdateEpoch : Int
  oOrderpriority : String
  oClerk : String
  oShippriority : Int
  oComment : List Char

/-- The streams that `Next` draws from once for every line of the order. -/
structure OrderLineStreams where
  lineQuantityRandom : RandomBoundedInt
  lineDiscountRandom : RandomBoundedInt
  lineTaxRandom : RandomBoundedInt
  linePartKeyRandom : RandomBoundedLong
  lineShipDateRandom : RandomBoundedInt
  deriving Inhabited

/-- The streams of `OrderRowIterator` and the largest customer key. -/
structure OrderStreams where
  maxCustomerKey : Int
  orderDateRandom : RandomBoundedInt
  lineCountRandom : RandomBoundedInt
  customerKeyRandom : RandomBoundedLong
  orderPriorityRandom : RandomString
  clerkRandom : RandomBoundedInt
  commentRandom : RandomText
  lines : OrderLineStreams
  deriving Inhabited

/-- `total_price` and `shipped_count`. -/
structure OrderTotals where
  totalPrice : Int
  shippedCount : Int

namespace OrderStreams

def kCustomerMortality : Int := 3
def kClerkScaleBase : Nat := 1000
def kLineCountMin : Int := 1
def kLineCountMax : Nat := 7
def kQuantityMin : Int := 1
def kQuantityMax : Int := 50
def kDiscountMin : Int := 0
def kDiscountMax : Int := 10
def kTaxMin : Int := 0
def kTaxMax : Int := 8
def kPartKeyMin : Int := 1
def kShipDateMin : Int := 1
def kShipDateMax : Int := 121
def kReceiptDateMax : Int := 30
def kItemShipDays : Int := kShipDateMax + kReceiptDateMax
def kOrderDateMin : Int := TPCHDate.kMinGenerateDate
def kOrderDateMax : Int := kOrderDateMin + (TPCHDate.kTotalDateRange - kItemShipDays - 1)
def kCommentAverageLength : Nat := 49
def kOrderKeySparseBits : Nat := 2
def kOrderKeySparseKeep : Nat := 3
def kOrderDateSeed : Int := 1066728069
def kLineCountSeed : Int := 1434868289
def kCustomerKeySeed : Int := 851767375
def kOrderPrioritySeed : Int := 591449447
def kClerkSeed : Int := 1171034773
def kCommentSeed : Int := 276090261
def kLineQuantitySeed : Int := 209208115
def kLineDiscountSeed : Int := 554590007
def kLineTaxSeed : Int := 721958466
def kLinePartKeySeed : Int := 1808217256
def kLineShipDateSeed : Int := 1769349045
def kStatusFulfilled : String := "F"
def kStatusPending : String := "P"
def kStatusOpen : String := "O"

def createOrderDateRandom : RandomBoundedInt := .new kOrderDateSeed kOrderDateMin kOrderDateMax 1

def createLineCountRandom : RandomBoundedInt := .new kLineCountSeed kLineCountMin kLineCountMax 1

def createQuantityRandom : RandomBoundedInt :=
  .new kLineQuantitySeed kQuantityMin kQuantityMax kLineCountMax

def createDiscountRandom : RandomBoundedInt :=
  .new kLineDiscountSeed kDiscountMin kDiscountMax kLineCountMax

def createTaxRandom : RandomBoundedInt := .new kLineTaxSeed kTaxMin kTaxMax kLineCountMax

def createPartKeyRandom (scaleFactor : ScaleFactor) : RandomBoundedLong :=
  let maxPartKey := scaled kPart.rowsAtSf1 scaleFactor
  .new kLinePartKeySeed (30000 ≤ scaleFactor.value) kPartKeyMin maxPartKey kLineCountMax

def createShipDateRandom : RandomBoundedInt :=
  .new kLineShipDateSeed kShipDateMin kShipDateMax kLineCountMax

def maxCustomerKeyOf (scaleFactor : ScaleFactor) : Int :=
  let maxCustomerKey := scaled kCustomer.rowsAtSf1 scaleFactor
  if maxCustomerKey < 1 then 1 else maxCustomerKey

def new (scaleFactor : ScaleFactor) (textPool : TextPool) : OrderStreams where
  maxCustomerKey := maxCustomerKeyOf scaleFactor
  orderDateRandom := createOrderDateRandom
  lineCountRandom := createLineCountRandom
  customerKeyRandom :=
    .new kCustomerKeySeed (30000 ≤ scaleFactor.value) 1 (maxCustomerKeyOf scaleFactor) 1
  orderPriorityRandom := .new kOrderPrioritySeed kOrderPrioritiesDist 1
  clerkRandom :=
    .new kClerkSeed 1 (max (toInt32 (scaled kClerkScaleBase scaleFactor)) kClerkScaleBase) 1
  commentRandom := .new kCommentSeed textPool kCommentAverageLength 1
  lines :=
    { lineQuantityRandom := createQuantityRandom
      lineDiscountRandom := createDiscountRandom
      lineTaxRandom := createTaxRandom
      linePartKeyRandom := createPartKeyRandom scaleFactor
      lineShipDateRandom := createShipDateRandom }

def advanceRows (s : OrderStreams) (rows : Nat) : OrderStreams where
  maxCustomerKey := s.maxCustomerKey
  orderDateRandom := s.orderDateRandom.advanceRows rows
  lineCountRandom := s.lineCountRandom.advanceRows rows
  customerKeyRandom := s.customerKeyRandom.advanceRows rows
  orderPriorityRandom := s.orderPriorityRandom.advanceRows rows
  clerkRandom := s.clerkRandom.advanceRows rows
  commentRandom := s.commentRandom.advanceRows rows
  lines :=
    { lineQuantityRandom := s.lines.lineQuantityRandom.advanceRows rows
      lineDiscountRandom := s.lines.lineDiscountRandom.advanceRows rows
      lineTaxRandom := s.lines.lineTaxRandom.advanceRows rows
      linePartKeyRandom := s.lines.linePartKeyRandom.advanceRows rows
      lineShipDateRandom := s.lines.lineShipDateRandom.advanceRows rows }

def rowFinished (s : OrderStreams) : OrderStreams where
  maxCustomerKey := s.maxCustomerKey
  orderDateRandom := s.orderDateRandom.rowFinished
  lineCountRandom := s.lineCountRandom.rowFinished
  customerKeyRandom := s.customerKeyRandom.rowFinished
  orderPriorityRandom := s.orderPriorityRandom.rowFinished
  clerkRandom := s.clerkRandom.rowFinished
  commentRandom := s.commentRandom.rowFinished
  lines :=
    { lineQuantityRandom := s.lines.lineQuantityRandom.rowFinished
      lineDiscountRandom := s.lines.lineDiscountRandom.rowFinished
      lineTaxRandom := s.lines.lineTaxRandom.rowFinished
      linePartKeyRandom := s.lines.linePartKeyRandom.rowFinished
      lineShipDateRandom := s.lines.lineShipDateRandom.rowFinished }

def makeOrderKey (orderIndex : Nat) : Nat :=
  let lowBits := orderIndex &&& (1 <<< kOrderKeySparseKeep - 1)
  orderIndex >>> kOrderKeySparseKeep <<< kOrderKeySparseBits <<< kOrderKeySparseKeep + lowBits

/-- Groups of eight keys, each followed by a gap of 24. -/
lemma makeOrderKey_eq (orderIndex : Nat) :
    makeOrderKey orderIndex = 32 * (orderIndex / 8) + orderIndex % 8 := by
  have hlow : orderIndex &&& (1 <<< kOrderKeySparseKeep - 1) = orderIndex % 8 :=
    Nat.and_two_pow_sub_one_eq_mod orderIndex 3
  unfold makeOrderKey
  rw [hlow]
  simp only [kOrderKeySparseKeep, kOrderKeySparseBits, Nat.shiftRight_eq_div_pow, Nat.shiftLeft_eq]
  omega

def calculatePartPrice (partKey : Int) : Int :=
  90000 + (partKey.tdiv 10).tmod 20001 + (partKey.tmod 1000) * 100

def formatClerk (clerkId : Int) : String := "Clerk#" ++ formatPadded 9 clerkId

/-- The loop that moves a customer key off the multiples of three; `none` where the fuel
runs out. -/
def mortalityLoop (maxCustomerKey : Int) : Nat → Int → Int → Option Int
  | 0, _, _ => none
  | fuel + 1, customerKey, delta =>
    if customerKey.tmod kCustomerMortality = 0 then
      let next := customerKey + delta
      mortalityLoop maxCustomerKey fuel (if next > maxCustomerKey then maxCustomerKey else next)
        (-delta)
    else some customerKey

def livingCustomer (maxCustomerKey customerKey : Int) : Int :=
  (mortalityLoop maxCustomerKey 3 customerKey 1).getD customerKey

/-- One turn of the loop over the lines. -/
def readLine (sampler : IntSampler) (orderDate : Int) (t : OrderTotals × OrderLineStreams) :
    OrderTotals × OrderLineStreams :=
  let quantity := t.2.lineQuantityRandom.nextValue sampler
  let discount := t.2.lineDiscountRandom.nextValue sampler
  let tax := t.2.lineTaxRandom.nextValue sampler
  let partKey := t.2.linePartKeyRandom.nextValue sampler
  let partPrice := calculatePartPrice partKey.1
  let extendedPrice := partPrice * quantity.1
  let discountedPrice := extendedPrice * (100 - discount.1)
  let shipDate := t.2.lineShipDateRandom.nextValue sampler
  ({ totalPrice := t.1.totalPrice + ((discountedPrice.tdiv 100) * (100 + tax.1)).tdiv 100
     shippedCount := if TPCHDate.isInPast (shipDate.1 + orderDate) then t.1.shippedCount + 1
       else t.1.shippedCount },
   { lineQuantityRandom := quantity.2
     lineDiscountRandom := discount.2
     lineTaxRandom := tax.2
     linePartKeyRandom := partKey.2
     lineShipDateRandom := shipDate.2 })

def readLines (sampler : IntSampler) (orderDate : Int) (lineCount : Nat) (s : OrderLineStreams) :
    OrderTotals × OrderLineStreams :=
  (readLine sampler orderDate)^[lineCount] (⟨0, 0⟩, s)

def orderStatus (shippedCount lineCount : Int) : String :=
  if shippedCount = lineCount then kStatusFulfilled
  else if shippedCount > 0 then kStatusPending else kStatusOpen

/-- The body of `Next`, for an output row that is asked for. -/
def read (sampler : IntSampler) (nextRow : Nat) (s : OrderStreams) : OrderRow × OrderStreams :=
  let orderKey := makeOrderKey (nextRow + 1)
  let orderDate := s.orderDateRandom.nextValue sampler
  let customerKey := s.customerKeyRandom.nextValue sampler
  let lineCount := s.lineCountRandom.nextValue sampler
  let lines := readLines sampler orderDate.1 lineCount.1.toNat s.lines
  let clerkId := s.clerkRandom.nextValue sampler
  let orderpriority := s.orderPriorityRandom.nextValue sampler
  let comment := s.commentRandom.nextValue sampler
  ({ oOrderkey := toInt32 orderKey
     oCustkey := toInt32 (livingCustomer s.maxCustomerKey customerKey.1)
     oOrderstatus := orderStatus lines.1.shippedCount lineCount.1
     oTotalpriceCents := toInt32 lines.1.totalPrice
     oTotalprice := (lines.1.totalPrice : ℚ) / 100
     oOrderdate := orderDate.1
     oOrderdateEpoch := TPCHDate.toUnixEpoch orderDate.1
     oOrderpriority := orderpriority.1
     oClerk := formatClerk clerkId.1
     oShippriority := 0
     oComment := comment.1 },
   { maxCustomerKey := s.maxCustomerKey
     orderDateRandom := orderDate.2
     lineCountRandom := lineCount.2
     customerKeyRandom := customerKey.2
     orderPriorityRandom := orderpriority.2
     clerkRandom := clerkId.2
     commentRandom := comment.2
     lines := lines.2 })

end OrderStreams

/-- The streams of the lines after at most `n` lines of one order. -/
structure OrderLineStreams.Drawn (start : OrderLineStreams) (n : Nat) (s : OrderLineStreams) :
    Prop where
  quantity : RowStream.Drawn start.lineQuantityRandom n s.lineQuantityRandom
  discount : RowStream.Drawn start.lineDiscountRandom n s.lineDiscountRandom
  tax : RowStream.Drawn start.lineTaxRandom n s.lineTaxRandom
  partKey : RandomBoundedLong.Drawn start.linePartKeyRandom n s.linePartKeyRandom
  shipDate : RowStream.Drawn start.lineShipDateRandom n s.lineShipDateRandom

namespace OrderStreams

lemma drawn_readLine (sampler : IntSampler) (orderDate : Int) {start : OrderLineStreams} {n : Nat}
    {t : OrderTotals × OrderLineStreams} (h : start.Drawn n t.2) :
    start.Drawn (n + 1) (readLine sampler orderDate t).2 where
  quantity := RandomBoundedInt.drawn_nextValue sampler h.quantity
  discount := RandomBoundedInt.drawn_nextValue sampler h.discount
  tax := RandomBoundedInt.drawn_nextValue sampler h.tax
  partKey := h.partKey.nextValue sampler
  shipDate := RandomBoundedInt.drawn_nextValue sampler h.shipDate

lemma drawn_readLines (sampler : IntSampler) (orderDate : Int) {start : OrderLineStreams}
    (h : start.Drawn 0 start) (n : Nat) :
    start.Drawn n (readLines sampler orderDate n start).2 := by
  induction n with
  | zero => exact h
  | succ n ih =>
    unfold readLines at ih ⊢
    rw [Function.iterate_succ_apply']
    exact drawn_readLine sampler orderDate ih

/-- An order has one to seven lines. -/
lemma lineCount_mem (sampler : IntSampler) (r : Nat) :
    1 ≤ (RandomBoundedInt.nextValue sampler (createLineCountRandom.advanceRows r)).1 ∧
      (RandomBoundedInt.nextValue sampler (createLineCountRandom.advanceRows r)).1 ≤ 7 := by
  have hfresh : RowStream.Fresh 1 createLineCountRandom := by
    refine RandomBoundedInt.fresh_new ?_ ?_ <;> decide
  exact RandomBoundedInt.nextValue_mem sampler (hfresh.advanceRows r) (hfresh.advanceRows r).drawn
    rfl (by decide) (by decide)

theorem finish_read (sampler : IntSampler) (textPool : TextPool) {sf : ScaleFactor} (hsf : sf.value < 30000)
    (r : Nat) :
    (read sampler r ((new sf textPool).advanceRows r)).2.rowFinished =
      (new sf textPool).advanceRows (r + 1) := by
  have hnarrow : decide (30000 ≤ sf.value) = false := decide_eq_false (not_le.mpr hsf)
  have hquantity : RowStream.Fresh 7 createQuantityRandom := by
    refine RandomBoundedInt.fresh_new ?_ ?_ <;> decide
  have hdiscount : RowStream.Fresh 7 createDiscountRandom := by
    refine RandomBoundedInt.fresh_new ?_ ?_ <;> decide
  have htax : RowStream.Fresh 7 createTaxRandom := by
    refine RandomBoundedInt.fresh_new ?_ ?_ <;> decide
  have hpartKey : RandomBoundedLong.Fresh 7 (createPartKeyRandom sf) := by
    refine RandomBoundedLong.fresh_new hnarrow ?_ ?_ <;> decide
  have hshipDate : RowStream.Fresh 7 createShipDateRandom := by
    refine RandomBoundedInt.fresh_new ?_ ?_ <;> decide
  have hstart : ((new sf textPool).advanceRows r).lines.Drawn 0
      ((new sf textPool).advanceRows r).lines :=
    ⟨(hquantity.advanceRows r).drawn, (hdiscount.advanceRows r).drawn, (htax.advanceRows r).drawn,
      (hpartKey.advanceRows r).drawn, (hshipDate.advanceRows r).drawn⟩
  have hlines := drawn_readLines sampler
    (RandomBoundedInt.nextValue sampler (createOrderDateRandom.advanceRows r)).1 hstart
    (RandomBoundedInt.nextValue sampler (createLineCountRandom.advanceRows r)).1.toNat
  have hcount := lineCount_mem sampler r
  have hle : (RandomBoundedInt.nextValue sampler (createLineCountRandom.advanceRows r)).1.toNat ≤ 7 := by
    omega
  unfold rowFinished advanceRows
  congr 1
  · refine RandomBoundedInt.finish_nextValue sampler (RandomBoundedInt.fresh_new ?_ ?_) r <;> decide
  · refine RandomBoundedInt.finish_nextValue sampler (RandomBoundedInt.fresh_new ?_ ?_) r <;> decide
  · refine RandomBoundedLong.finish_nextValue sampler (RandomBoundedLong.fresh_new hnarrow ?_ ?_) r <;>
      decide
  · have hpriority : RowStream.Fresh 1 (new sf textPool).orderPriorityRandom :=
      RandomString.fresh_new le_rfl (by decide)
    exact RandomString.finish_nextValue sampler hpriority r
  · refine RandomBoundedInt.finish_nextValue sampler (RandomBoundedInt.fresh_new ?_ ?_) r <;> decide
  · refine RandomText.finish_nextValue sampler (RandomText.fresh_new ?_ ?_) r <;> decide
  · congr 1
    · exact hquantity.finish_row hlines.quantity hle
    · exact hdiscount.finish_row hlines.discount hle
    · exact htax.finish_row hlines.tax hle
    · exact hpartKey.finish_row hlines.partKey hle
    · exact hshipDate.finish_row hlines.shipDate hle

lemma advanceRows_zero (textPool : TextPool) {sf : ScaleFactor} (hsf : sf.value < 30000) :
    (new sf textPool).advanceRows 0 = new sf textPool := by
  have hnarrow : decide (30000 ≤ sf.value) = false := decide_eq_false (not_le.mpr hsf)
  unfold advanceRows
  congr 1
  · refine RandomBoundedLong.advanceRows_zero (k := 1) (RandomBoundedLong.fresh_new hnarrow ?_ ?_) <;>
      decide
  · congr 1
    refine RandomBoundedLong.advanceRows_zero (k := 7) (RandomBoundedLong.fresh_new hnarrow ?_ ?_) <;>
      decide

end OrderStreams

end Schengen.Tables
