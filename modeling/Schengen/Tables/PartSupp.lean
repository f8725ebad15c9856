import Schengen.Tables.Partition
import Schengen.Random.RowRandomLong

/-!
# The partsupp table

Every part has four rows, one for each of its suppliers. The streams have the budget of
four rows and finish with the part; `Reset` leaves the supplier number as it is.
-/

namespace Schengen.Tables
open Library Schengen.Random

/-- The formula of `SelectPartSupplier`, with the divisor of the scaled supplier count. -/
def selectSupplier (suppliersPerPart : Int) (scaleBase : Nat) (partKey supplierNumber : Int)
    (scaleFactor : ScaleFactor) : Int :=
  let supplierKeyMaxValue := scaled scaleBase scaleFactor
  toInt32 ((partKey + supplierNumber * (supplierKeyMaxValue.tdiv suppliersPerPart +
    (partKey - 1).tdiv supplierKeyMaxValue)).tmod supplierKeyMaxValue + 1)

structure PartSuppRow where
  psPartkey : Int
  psSuppkey : Int
  psAvailqty : Int
  psSupplycostCents : Int
  psSupplycost : ℚ
  psComment : List Char

structure PartSuppStreams where
  availableQuantityRandom : RandomBoundedInt
  supplyCostRandom : RandomBoundedInt
  commentRandom : RandomText
  deriving Inhabited

/-- `PartSuppRowIterator` -/
structure PartSuppCursor where
  nextPart : Nat
  endPart : Nat
  partSupplierNumber : Nat
  scaleFactor : ScaleFactor
  streams : PartSuppStreams

namespace PartSuppStreams

def kSuppliersPerPart : Nat := 4
def kAvailableQuantityMin : Int := 1
def kAvailableQuantityMax : Int := 9999
def kSupplyCostMin : Int := 100
def kSupplyCostMax : Int := 100000
def kCommentAverageLength : Nat := 124
def kSupplierScaleBase : Nat := 10000
def kAvailableQuantitySeed : Int := 1671059989
def kSupplyCostSeed : Int := 1051288424
def kCommentSeed : Int := 1961692154

def new (textPool : TextPool) : PartSuppStreams where
  availableQuantityRandom :=
    .new kAvailableQuantitySeed kAvailableQuantityMin kAvailableQuantityMax kSuppliersPerPart
  supplyCostRandom := .new kSupplyCostSeed kSupplyCostMin kSupplyCostMax kSuppliersPerPart
  commentRandom := .new kCommentSeed textPool kCommentAverageLength kSuppliersPerPart

def advanceRows (s : PartSuppStreams) (rows : Nat) : PartSuppStreams where
  availableQuantityRandom := s.availableQuantityRandom.advanceRows rows
  supplyCostRandom := s.supplyCostRandom.advanceRows rows
  commentRandom := s.commentRandom.advanceRows rows

def rowFinished (s : PartSuppStreams) : PartSuppStreams where
  availableQuantityRandom := s.availableQuantityRandom.rowFinished
  supplyCostRandom := s.supplyCostRandom.rowFinished
  commentRandom := s.commentRandom.rowFinished

def selectPartSupplier (partKey supplierNumber : Int) (scaleFactor : ScaleFactor) : Int :=
  selectSupplier kSuppliersPerPart kSupplierScaleBase partKey supplierNumber scaleFactor

/-- A row of the part `nextPart`, for an output row that is asked for. -/
def read (sampler : IntSampler) (scaleFactor : ScaleFactor) (nextPart partSupplierNumber : Nat)
    (s : PartSuppStreams) : PartSuppRow × PartSuppStreams :=
  let partKey := toInt32 (nextPart + 1)
  let supplierKey := selectPartSupplier partKey partSupplierNumber scaleFactor
  let availqty := s.availableQuantityRandom.nextValue sampler
  let supplycostCents := s.supplyCostRandom.nextValue sampler
  let comment := s.commentRandom.nextValue sampler
  ({ psPartkey := partKey
     psSuppkey := supplierKey
     psAvailqty := availqty.1
     psSupplycostCents := supplycostCents.1
     psSupplycost := (supplycostCents.1 : ℚ) / 100
     psComment := comment.1 },
   { availableQuantityRandom := availqty.2
     supplyCostRandom := supplycostCents.2
     commentRandom := comment.2 })

/-- The streams after at most `n` rows of one part. -/
structure Drawn (start : PartSuppStreams) (n : Nat) (s : PartSuppStreams) : Prop where
  availableQuantity : RowStream.Drawn start.availableQuantityRandom n s.availableQuantityRandom
  supplyCost : RowStream.Drawn start.supplyCostRandom n s.supplyCostRandom
  comment : RowStream.Drawn start.commentRandom (2 * n) s.commentRandom

lemma drawn_read (sampler : IntSampler) {scaleFactor : ScaleFactor} {start s : PartSuppStreams} {n : Nat}
    (h : Drawn start n s) (nextPart k : Nat) :
    Drawn start (n + 1) (read sampler scaleFactor nextPart k s).2 where
  availableQuantity := RandomBoundedInt.drawn_nextValue sampler h.availableQuantity
  supplyCost := RandomBoundedInt.drawn_nextValue sampler h.supplyCost
  comment := RandomText.drawn_nextValue sampler h.comment

/-- The rows of a part and the streams after them. -/
def readPart (sampler : IntSampler) (scaleFactor : ScaleFactor) (nextPart : Nat) (s : PartSuppStreams) :
    List PartSuppRow × PartSuppStreams :=
  PullIterator.readFrom (read sampler scaleFactor nextPart) kSuppliersPerPart 0 s

lemma drawn_advanceRows (textPool : TextPool) (r : Nat) :
    Drawn ((new textPool).advanceRows r) 0 ((new textPool).advanceRows r) where
  availableQuantity := ⟨rfl, .refl (RowRandomInt.usage_advanceRows rfl r)⟩
  supplyCost := ⟨rfl, .refl (RowRandomInt.usage_advanceRows rfl r)⟩
  comment := ⟨rfl, .refl (RowRandomInt.usage_advanceRows rfl r)⟩

/-- However many of its four rows a part has drawn, the next part starts at the same streams. -/
lemma Drawn.rowFinished {textPool : TextPool} {r n : Nat} {s : PartSuppStreams}
    (h : Drawn ((new textPool).advanceRows r) n s) (hn : n ≤ kSuppliersPerPart) :
    s.rowFinished = (new textPool).advanceRows (r + 1) := by
  have hquantity : RowStream.Fresh 4 (new textPool).availableQuantityRandom := by
    refine RandomBoundedInt.fresh_new ?_ ?_ <;> decide
  have hcost : RowStream.Fresh 4 (new textPool).supplyCostRandom := by
    refine RandomBoundedInt.fresh_new ?_ ?_ <;> decide
  have hcomment : RowStream.Fresh 8 (new textPool).commentRandom := by
    refine RandomText.fresh_new ?_ ?_ <;> decide
  have hn8 : 2 * n ≤ 8 := Nat.mul_le_mul_left 2 hn
  unfold PartSuppStreams.rowFinished
  rw [hquantity.finish_row h.availableQuantity hn, hcost.finish_row h.supplyCost hn,
    hcomment.finish_row h.comment hn8]
  rfl

theorem finish_readPart (sampler : IntSampler) (textPool : TextPool) (scaleFactor : ScaleFactor) (r : Nat) :
    (readPart sampler scaleFactor r ((new textPool).advanceRows r)).2.rowFinished =
      (new textPool).advanceRows (r + 1) := by
  have hdrawn : Drawn ((new textPool).advanceRows r) 4
      (readPart sampler scaleFactor r ((new textPool).advanceRows r)).2 :=
    PullIterator.readFrom_induction (Drawn ((new textPool).advanceRows r)) (n := 0)
      (fun k _ _ h => drawn_read sampler h r k) 4 (drawn_advanceRows textPool r)
  exact hdrawn.rowFinished le_rfl

end PartSuppStreams

namespace PartSuppCursor
open PartSuppStreams

def initial : PartSuppCursor := ⟨0, 0, 0, 1, default⟩

def reset (s : PartSuppCursor) (startPart endPart : Nat) (scaleFactor : ScaleFactor) (textPool : TextPool) :
    PartSuppCursor :=
  let nextPart := if startPart > endPart then endPart else startPart
  let streams := PartSuppStreams.new textPool
  { s with
    nextPart := nextPart
    endPart := endPart
    scaleFactor := scaleFactor
    streams := if 0 < nextPart then streams.advanceRows nextPart else streams }

def finishRow (s : PartSuppCursor) : PartSuppCursor :=
  let partSupplierNumber := s.partSupplierNumber + 1
  if partSupplierNumber ≥ kSuppliersPerPart then
    { s with
      streams := s.streams.rowFinished
      partSupplierNumber := 0
      nextPart := s.nextPart + 1 }
  else { s with partSupplierNumber := partSupplierNumber }

def next (sampler : IntSampler) (s : PartSuppCursor) : Option (PartSuppRow × PartSuppCursor) :=
  if s.nextPart ≥ s.endPart then none
  else
    let row := read sampler s.scaleFactor s.nextPart s.partSupplierNumber s.streams
    some (row.1, finishRow { s with streams := row.2 })

def done (s : PartSuppCursor) : Bool := s.nextPart ≥ s.endPart

def nextRowId (s : PartSuppCursor) : Nat := s.nextPart * kSuppliersPerPart + s.partSupplierNumber

lemma done_iff (sampler : IntSampler) (s : PartSuppCursor) :
    s.done = true ↔ s.next sampler = none := by
  unfold done next
  split <;> simp_all

def iterator (sampler : IntSampler) : PullIterator PartSuppCursor PartSuppRow where
  next := next sampler
  done := done
  nextRowId := nextRowId
  done_iff := done_iff sampler

section

variable (sampler : IntSampler) (scaleFactor : ScaleFactor)

/-- The iterator before row `k` of part `r`. -/
def inside (endPart r k : Nat) (streams : PartSuppStreams) : PartSuppCursor :=
  ⟨r, endPart, k, scaleFactor, streams⟩

lemma next_inside {endPart r : Nat} (hr : r < endPart) {k : Nat} (hk : k + 1 < kSuppliersPerPart)
    (streams : PartSuppStreams) :
    (inside scaleFactor endPart r k streams).next sampler =
      some ((read sampler scaleFactor r k streams).1,
        inside scaleFactor endPart r (k + 1) (read sampler scaleFactor r k streams).2) := by
  unfold next finishRow inside
  simp only [ge_iff_le, not_le.mpr hr, not_le.mpr hk, if_false]

lemma next_last {endPart r : Nat} (hr : r < endPart) {k : Nat} (hk : k + 1 = kSuppliersPerPart)
    (streams : PartSuppStreams) :
    (inside scaleFactor endPart r k streams).next sampler =
      some ((read sampler scaleFactor r k streams).1,
        inside scaleFactor endPart (r + 1) 0 (read sampler scaleFactor r k streams).2.rowFinished) := by
  unfold next finishRow inside
  simp only [ge_iff_le, not_le.mpr hr, hk, le_refl, if_false, if_true]

/-- The rows of part `r`, as any iterator that reaches the part emits them. -/
def partRows (textPool : TextPool) (r : Nat) : List PartSuppRow :=
  (readPart sampler scaleFactor r ((PartSuppStreams.new textPool).advanceRows r)).1

theorem emits_reset (textPool : TextPool) {a b : Nat} (hab : a ≤ b) :
    (iterator sampler).Emits (initial.reset a b scaleFactor textPool)
      ((List.range' a (b - a)).flatMap (partRows sampler scaleFactor textPool)) := by
  let start : Nat → PartSuppCursor := fun r =>
    inside scaleFactor b r 0 ((PartSuppStreams.new textPool).advanceRows r)
  have hreset : initial.reset a b scaleFactor textPool = start a := by
    unfold reset
    simp only [gt_iff_lt, not_lt.mpr hab, if_false]
    by_cases hpos : 0 < a
    · rw [if_pos hpos]
      rfl
    · obtain rfl : a = 0 := by omega
      rfl
  refine PullIterator.emits_units (fun r s => s = start r) hab ?_ ?_ hreset
  · rintro r s _ hr rfl
    have hunit : (iterator sampler).Yields (start r) (partRows sampler scaleFactor textPool r) _ :=
      PullIterator.yields_readFrom (PartSuppStreams.read sampler scaleFactor r)
        (inside scaleFactor b r) (fun t => inside scaleFactor b (r + 1) 0 t.rowFinished)
        (fun k t hk => next_inside sampler scaleFactor hr hk t)
        (fun k t hk => next_last sampler scaleFactor hr hk t) (m := 3) (k := 0) rfl _
    have hfinish := finish_readPart sampler textPool scaleFactor r
    unfold readPart at hfinish
    rw [show kSuppliersPerPart = 3 + 1 from rfl] at hfinish
    rw [hfinish] at hunit
    exact ⟨_, hunit, rfl⟩
  · rintro s rfl
    change next sampler (start b) = none
    unfold next
    rw [if_pos (by change b ≤ b; omega)]

end

end PartSuppCursor

end Schengen.Tables
