import Schengen.Library.SkippingReader
import Schengen.Tables.Generators

/-!
# Row iterators

The eight row iterators with all their calls: `Reset`, `Next` with a row to fill in, and `Next` with
a null pointer, which skips a row. What a skip draws from the streams differs from table to table;
`RowFinished` makes up for the rest.
-/

namespace Schengen.Tables
open Library Schengen.Random

/-- The arguments of `Reset`; the iterators of some tables take no scale factor. -/
structure ResetArgs where
  startRow : Nat
  endRow : Nat
  scaleFactor : ScaleFactor
  textPool : TextPool

namespace RowCursor

variable {σ ρ : Type}

/-- `Next(nullptr)`, where `skipRow` is what it draws. -/
def skip (skipRow : Nat → σ → σ) (rowFinished : σ → σ) (s : RowCursor σ) : Option (RowCursor σ) :=
  if s.nextRow ≥ s.endRow then none
  else some ⟨s.nextRow + 1, s.endRow, rowFinished (skipRow s.nextRow s.streams)⟩

def reader [Inhabited σ] (new : ResetArgs → σ) (advanceRows : σ → Nat → σ)
    (read : Nat → σ → ρ × σ) (skipRow : Nat → σ → σ) (rowFinished : σ → σ) (clamp : Nat → Nat) :
    SkippingReader (RowCursor σ) ρ ResetArgs where
  initial := default
  reset args _ := reset (new args) advanceRows args.startRow (clamp args.endRow)
  next := next read rowFinished
  skip := skip skipRow rowFinished

end RowCursor

/-! ## What a skip draws -/

namespace NationStreams

/-- The weights are added up for a skipped nation, too. -/
def skipRow (nextRow : Nat) (s : NationStreams) : NationStreams :=
  { s with regionCumSum := s.regionCumSum + nationWeight nextRow }

end NationStreams

namespace CustomerStreams

/-- The branch for a null pointer draws what the other one draws. -/
def skipRow (sampler : IntSampler) (s : CustomerStreams) : CustomerStreams :=
  let nationKey := s.nationKeyRandom.nextValue sampler
  { addressRandom := (s.addressRandom.nextValue sampler).2
    nationKeyRandom := nationKey.2
    phoneRandom := (s.phoneRandom.nextValue sampler nationKey.1).2
    accountBalanceRandom := (s.accountBalanceRandom.nextValue sampler).2
    marketSegmentRandom := (s.marketSegmentRandom.nextValue sampler).2
    commentRandom := (s.commentRandom.nextValue sampler).2 }

end CustomerStreams

namespace OrderStreams

/-- Only the priority and the comment are not drawn. -/
def skipRow (sampler : IntSampler) (s : OrderStreams) : OrderStreams :=
  let orderDate := s.orderDateRandom.nextValue sampler
  let lineCount := s.lineCountRandom.nextValue sampler
  { maxCustomerKey := s.maxCustomerKey
    orderDateRandom := orderDate.2
    lineCountRandom := lineCount.2
    customerKeyRandom := (s.customerKeyRandom.nextValue sampler).2
    orderPriorityRandom := s.orderPriorityRandom
    clerkRandom := (s.clerkRandom.nextValue sampler).2
    commentRandom := s.commentRandom
    lines := (readLines sampler orderDate.1 lineCount.1.toNat s.lines).2 }

end OrderStreams

namespace PartSuppCursor

/-- Nothing is drawn. -/
def skip (s : PartSuppCursor) : Option PartSuppCursor :=
  if s.nextPart ≥ s.endPart then none else some s.finishRow

end PartSuppCursor

namespace LineitemCursor
open LineitemStreams

/-- Everything is drawn. -/
def skip (sampler : IntSampler) (s : LineitemCursor) : Option LineitemCursor :=
  if s.index ≥ s.orderCount then none
  else
    let line := readLine sampler s.scaleFactor (s.startOrder + s.index) s.orderDate s.lineNumber
      s.streams.lines
    some (finishLine sampler { s with streams := { s.streams with lines := line.2 } })

end LineitemCursor

/-! ## The eight iterators -/

namespace Table

/-- The members of the iterator's class. -/
def Cursor : Table → Type
  | region => RowCursor RegionStreams
  | nation => RowCursor NationStreams
  | supplier => RowCursor SupplierStreams
  | part => RowCursor PartStreams
  | partsupp => PartSuppCursor
  | customer => RowCursor CustomerStreams
  | orders => RowCursor OrderStreams
  | lineitem => LineitemCursor

def Row : Table → Type
  | region => RegionRow
  | nation => NationRow
  | supplier => SupplierRow
  | part => PartRow
  | partsupp => PartSuppRow
  | customer => CustomerRow
  | orders => OrderRow
  | lineitem => LineitemRow

def regionRowIterator (sampler : IntSampler) :
    SkippingReader (RowCursor RegionStreams) RegionRow ResetArgs :=
  RowCursor.reader (fun args => RegionStreams.new args.textPool) RegionStreams.advanceRows
    (RegionStreams.read sampler) (fun _ s => s) RegionStreams.rowFinished
    (min · RegionStreams.kRegionCount)

def nationRowIterator (sampler : IntSampler) :
    SkippingReader (RowCursor NationStreams) NationRow ResetArgs :=
  RowCursor.reader (fun args => NationStreams.new args.textPool) NationStreams.advanceRows
    (NationStreams.read sampler) NationStreams.skipRow NationStreams.rowFinished
    (min · NationStreams.kNationCount)

def supplierRowIterator (sampler : IntSampler) :
    SkippingReader (RowCursor SupplierStreams) SupplierRow ResetArgs :=
  RowCursor.reader (fun args => SupplierStreams.new args.textPool) SupplierStreams.advanceRows
    (SupplierStreams.read sampler) (fun _ s => s) SupplierStreams.rowFinished id

def partRowIterator (sampler : IntSampler) :
    SkippingReader (RowCursor PartStreams) PartRow ResetArgs :=
  RowCursor.reader (fun args => PartStreams.new args.textPool) PartStreams.advanceRows
    (PartStreams.read sampler) (fun _ s => s) PartStreams.rowFinished id

def customerRowIterator (sampler : IntSampler) :
    SkippingReader (RowCursor CustomerStreams) CustomerRow ResetArgs :=
  RowCursor.reader (fun args => CustomerStreams.new args.textPool) CustomerStreams.advanceRows
    (CustomerStreams.read sampler) (fun _ => CustomerStreams.skipRow sampler)
    CustomerStreams.rowFinished id

def orderRowIterator (sampler : IntSampler) :
    SkippingReader (RowCursor OrderStreams) OrderRow ResetArgs :=
  RowCursor.reader (fun args => OrderStreams.new args.scaleFactor args.textPool)
    OrderStreams.advanceRows (OrderStreams.read sampler) (fun _ => OrderStreams.skipRow sampler)
    OrderStreams.rowFinished id

def partSuppRowIterator (sampler : IntSampler) :
    SkippingReader PartSuppCursor PartSuppRow ResetArgs where
  initial := PartSuppCursor.initial
  reset args s := s.reset args.startRow args.endRow args.scaleFactor args.textPool
  next := PartSuppCursor.next sampler
  skip := PartSuppCursor.skip

def lineitemRowIterator (sampler : IntSampler) :
    SkippingReader LineitemCursor LineitemRow ResetArgs where
  initial := LineitemCursor.initial
  reset args s := s.reset sampler args.startRow args.endRow args.scaleFactor args.textPool
  next := LineitemCursor.next sampler
  skip := LineitemCursor.skip sampler

def rowIterator (sampler : IntSampler) : (table : Table) →
    SkippingReader table.Cursor table.Row ResetArgs
  | region => regionRowIterator sampler
  | nation => nationRowIterator sampler
  | supplier => supplierRowIterator sampler
  | part => partRowIterator sampler
  | partsupp => partSuppRowIterator sampler
  | customer => customerRowIterator sampler
  | orders => orderRowIterator sampler
  | lineitem => lineitemRowIterator sampler

end Table

end Schengen.Tables
