import Schengen.Tables.Lineitem
import Schengen.Tables.Orders

/-!
# Orders and line items agree

Two iterators replay the same random streams: `OrderRowIterator` in a loop over the lines of
an order, `LineitemRowIterator` line by line. Each line of the second is one turn of the loop
of the first.
-/

namespace Schengen.Tables
open Library Schengen.Random

/-- What a line adds to the total price of its order, in cents. -/
def LineitemRow.chargedCents (l : LineitemRow) : Int :=
  ((l.lExtendedpriceCents * (100 - l.lDiscountPercent)).tdiv 100 * (100 + l.lTaxPercent)).tdiv 100

/-- The streams that both iterators draw from. -/
def LineStreams.shared (s : LineStreams) : OrderLineStreams where
  lineQuantityRandom := s.quantityRandom
  lineDiscountRandom := s.discountRandom
  lineTaxRandom := s.taxRandom
  linePartKeyRandom := s.partKeyRandom
  lineShipDateRandom := s.shipDateRandom

/-- The values of a line are in range, with room for the products of its price. -/
structure LineitemRow.InRange (orderDate : Int) (l : LineitemRow) : Prop where
  price_pos : 0 ≤ l.lExtendedpriceCents
  price_le : l.lExtendedpriceCents ≤ 10495000
  discount_nonneg : 0 ≤ l.lDiscountPercent
  discount_le : l.lDiscountPercent ≤ 10
  tax_nonneg : 0 ≤ l.lTaxPercent
  tax_le : l.lTaxPercent ≤ 8
  shipped_after : 1 ≤ l.lShipdate - orderDate
  shipped_within : l.lShipdate - orderDate ≤ 121
  linestatus : l.lLinestatus = LineitemStreams.lineStatus l.lShipdate

namespace LineitemStreams

/-- The bounds of the streams that a line reads. -/
structure Bounded (s : LineStreams) : Prop where
  quantity : s.quantityRandom.params = ⟨1, 50⟩
  discount : s.discountRandom.params = ⟨0, 10⟩
  tax : s.taxRandom.params = ⟨0, 8⟩
  partKeyMin : s.partKeyRandom.lowerBound = 1
  partKeyMax : 1 ≤ s.partKeyRandom.upperBound ∧ s.partKeyRandom.upperBound < 2147483647
  shipDate : s.shipDateRandom.params = ⟨1, 121⟩

/-- The lines of an order on their way: `n` lines after the start of the order. -/
structure OnTheWay (start : LineStreams) (n : Nat) (s : LineStreams) : Prop where
  fresh : start.Fresh
  drawn : start.Drawn n s
  bounded : Bounded start

variable {start s : LineStreams} {n : Nat}

lemma Bounded.of_drawn (h : Bounded start) (hd : start.Drawn n s) : Bounded s where
  quantity := by rw [hd.quantity.params, h.quantity]
  discount := by rw [hd.discount.params, h.discount]
  tax := by rw [hd.tax.params, h.tax]
  partKeyMin := by rw [hd.partKey.rest]; exact h.partKeyMin
  partKeyMax := by rw [hd.partKey.rest]; exact h.partKeyMax
  shipDate := by rw [hd.shipDate.params, h.shipDate]

lemma calculatePartPrice_mem {partKey : Int} (h : 0 ≤ partKey) :
    90000 ≤ calculatePartPrice partKey ∧ calculatePartPrice partKey ≤ 209900 := by
  unfold calculatePartPrice
  rw [Int.tdiv_eq_ediv_of_nonneg h, Int.tmod_eq_emod_of_nonneg (by omega),
    Int.tmod_eq_emod_of_nonneg h]
  omega

lemma extendedPrice_mem {p quantity : Int} (hp : 0 ≤ p) (hq : 1 ≤ quantity)
    (hq' : quantity ≤ 50) :
    0 ≤ calculatePartPrice p * quantity ∧ calculatePartPrice p * quantity ≤ 10495000 := by
  obtain ⟨hlo, hhi⟩ := calculatePartPrice_mem hp
  constructor
  · exact mul_nonneg (by omega) (by omega)
  · calc calculatePartPrice p * quantity ≤ 209900 * 50 :=
          mul_le_mul hhi hq' (by omega) (by decide)
      _ = 10495000 := by decide

variable (sampler : IntSampler) (sf : ScaleFactor) (orderIndex : Nat) (orderDate : Int) (lineNumber : Nat)

/-- The stored price of a line is the computed one: it fits 32 bits. -/
lemma readLine_price (h : OnTheWay start n s) :
    let price := calculatePartPrice (s.partKeyRandom.nextValue sampler).1 *
      (RandomBoundedInt.nextValue sampler s.quantityRandom).1
    (readLine sampler sf orderIndex orderDate lineNumber s).1.lExtendedpriceCents = price ∧
      0 ≤ price ∧ price ≤ 10495000 := by
  intro price
  have hb := h.bounded.of_drawn h.drawn
  obtain ⟨hq1, hq2⟩ := RandomBoundedInt.nextValue_mem sampler h.fresh.quantity h.drawn.quantity
    hb.quantity (by decide) (by decide)
  have hp := RandomBoundedLong.nextValue_mem sampler h.fresh.partKey h.drawn.partKey
  rw [hb.partKeyMin] at hp
  have hmax := hb.partKeyMax.2
  obtain ⟨hp1, -⟩ := hp (by decide) hb.partKeyMax.1 hmax.le (by omega)
  have hmem := extendedPrice_mem (p := (s.partKeyRandom.nextValue sampler).1) (by omega) hq1 hq2
  exact ⟨toInt32_eq (by omega) (by omega), hmem⟩

lemma readLine_inRange (h : OnTheWay start n s) :
    (readLine sampler sf orderIndex orderDate lineNumber s).1.InRange orderDate := by
  have hb := h.bounded.of_drawn h.drawn
  obtain ⟨hd1, hd2⟩ := RandomBoundedInt.nextValue_mem sampler h.fresh.discount h.drawn.discount
    hb.discount (by decide) (by decide)
  obtain ⟨ht1, ht2⟩ := RandomBoundedInt.nextValue_mem sampler h.fresh.tax h.drawn.tax
    hb.tax (by decide) (by decide)
  obtain ⟨hs1, hs2⟩ := RandomBoundedInt.nextValue_mem sampler h.fresh.shipDate h.drawn.shipDate
    hb.shipDate (by decide) (by decide)
  obtain ⟨heq, hlo, hhi⟩ := readLine_price sampler sf orderIndex orderDate lineNumber h
  have hship : (readLine sampler sf orderIndex orderDate lineNumber s).1.lShipdate - orderDate =
      (RandomBoundedInt.nextValue sampler s.shipDateRandom).1 := Int.add_sub_cancel _ _
  exact ⟨heq ▸ hlo, heq ▸ hhi, hd1, hd2, ht1, ht2, hship ▸ hs1, hship ▸ hs2, rfl⟩

/-- One turn of the loop over the lines is one line. -/
lemma readLine_shared (h : OnTheWay start n s) (t : OrderTotals) :
    let line := readLine sampler sf orderIndex orderDate lineNumber s
    OrderStreams.readLine sampler orderDate (t, s.shared) =
      (⟨t.totalPrice + line.1.chargedCents,
        t.shippedCount + if line.1.lLinestatus = "F" then 1 else 0⟩, line.2.shared) := by
  intro line
  have hprice := (readLine_price sampler sf orderIndex orderDate lineNumber h).1
  have hstatus : (line.1.lLinestatus = "F") ↔ TPCHDate.isInPast line.1.lShipdate = true := by
    change lineStatus line.1.lShipdate = "F" ↔ _
    unfold lineStatus
    split
    · next hpast => exact iff_of_true rfl hpast
    · next hpast => exact iff_of_false (by decide) hpast
  have hcharged : line.1.chargedCents =
      ((calculatePartPrice (s.partKeyRandom.nextValue sampler).1 *
        (RandomBoundedInt.nextValue sampler s.quantityRandom).1 *
          (100 - line.1.lDiscountPercent)).tdiv 100 * (100 + line.1.lTaxPercent)).tdiv 100 := by
    unfold LineitemRow.chargedCents
    rw [hprice]
  have hcount : (if TPCHDate.isInPast line.1.lShipdate = true then t.shippedCount + 1
      else t.shippedCount) = t.shippedCount + if line.1.lLinestatus = "F" then 1 else 0 := by
    simp only [hstatus]
    split_ifs <;> omega
  rw [hcharged, ← hcount]
  rfl

lemma OnTheWay.readLine (h : OnTheWay start n s) :
    OnTheWay start (n + 1) (readLine sampler sf orderIndex orderDate lineNumber s).2 :=
  ⟨h.fresh, drawn_readLine sampler sf orderIndex orderDate h.drawn lineNumber, h.bounded⟩

/-- The loop over the lines is the lines, one after the other. -/
lemma readLines_shared (count : Nat) (h : OnTheWay start n s) (t : OrderTotals) :
    let lines := PullIterator.readFrom (readLine sampler sf orderIndex orderDate) count lineNumber s
    (OrderStreams.readLine sampler orderDate)^[count] (t, s.shared) =
      (⟨t.totalPrice + (lines.1.map LineitemRow.chargedCents).sum,
        t.shippedCount + lines.1.countP (fun l => l.lLinestatus = "F")⟩, lines.2.shared) := by
  induction count generalizing n s t lineNumber with
  | zero => simp [PullIterator.readFrom]
  | succ count ih =>
    intro lines
    rw [Function.iterate_succ_apply, readLine_shared sampler sf orderIndex orderDate lineNumber h,
      ih (lineNumber + 1) (h.readLine sampler sf orderIndex orderDate lineNumber)]
    simp only [lines, PullIterator.readFrom, List.map_cons, List.sum_cons, List.countP_cons]
    congr 2
    · exact Int.add_assoc _ _ _
    · push_cast
      simp only [decide_eq_true_eq]
      omega

/-- Enough parts for a part key, and keys that fit 32 bits. -/
lemma scaled_kPart_mem {sf : ScaleFactor} (hmin : 1 / 10000 ≤ sf.value) (hmax : sf.value ≤ 357) :
    1 ≤ scaled kPart.rowsAtSf1 sf ∧ scaled kPart.rowsAtSf1 sf < 2147483647 := by
  constructor
  · exact le_scaled (m := 1) hmin (by norm_num [kPart]) (by norm_num)
  · exact (scaled_lt (m := 71400000) hmax (by norm_num [kPart]) (by norm_num)).trans (by norm_num)

lemma createPartKeyRandom_eq {sf : ScaleFactor} (hmin : 1 / 10000 ≤ sf.value) (hmax : sf.value ≤ 357) :
    createPartKeyRandom sf = OrderStreams.createPartKeyRandom sf := by
  unfold createPartKeyRandom OrderStreams.createPartKeyRandom
  simp only [not_lt.mpr (scaled_kPart_mem hmin hmax).1, if_false]
  rfl

variable {sf} (textPool : TextPool)

lemma onTheWay_start (hmin : 1 / 10000 ≤ sf.value) (hmax : sf.value ≤ 357) (r : Nat) :
    OnTheWay ((new sf textPool).advanceRows r).lines 0 ((new sf textPool).advanceRows r).lines := by
  have hfresh := fresh_new textPool (lt_of_le_of_lt hmax (by norm_num))
  have hfreshAt := fresh_advanceRows hfresh r
  refine ⟨hfreshAt, hfreshAt.drawn, rfl, rfl, rfl, ?_, ?_, rfl⟩
  · change ((new sf textPool).lines.partKeyRandom.advanceRows r).lowerBound = 1
    rw [RandomBoundedLong.advanceRows_narrow hfresh.partKey.narrow]
    rfl
  · change 1 ≤ ((new sf textPool).lines.partKeyRandom.advanceRows r).upperBound ∧
      ((new sf textPool).lines.partKeyRandom.advanceRows r).upperBound < 2147483647
    rw [RandomBoundedLong.advanceRows_narrow hfresh.partKey.narrow]
    change 1 ≤ (createPartKeyRandom sf).upperBound ∧
      (createPartKeyRandom sf).upperBound < 2147483647
    rw [createPartKeyRandom_eq hmin hmax]
    exact scaled_kPart_mem hmin hmax

lemma shared_start (hmin : 1 / 10000 ≤ sf.value) (hmax : sf.value ≤ 357) (r : Nat) :
    ((OrderStreams.new sf textPool).advanceRows r).lines =
      ((new sf textPool).advanceRows r).lines.shared := by
  have hpart : (OrderStreams.new sf textPool).lines.linePartKeyRandom =
      (new sf textPool).lines.partKeyRandom := (createPartKeyRandom_eq hmin hmax).symm
  unfold OrderStreams.advanceRows LineStreams.shared
  rw [hpart]
  rfl

end LineitemStreams

/-- The order of an index, as any iterator that reaches it reads it. -/
def orderRow (sampler : IntSampler) (sf : ScaleFactor) (textPool : TextPool) (r : Nat) : OrderRow :=
  (OrderStreams.read sampler r ((OrderStreams.new sf textPool).advanceRows r)).1

/-- An order and its line items. The products and the partial sums of the price stay below
`2 ^ 63`, the total below `2 ^ 31`. -/
structure OrderBlock (o : OrderRow) (block : List LineitemRow) : Prop where
  key : ∀ l ∈ block, l.lOrderkey = o.oOrderkey
  length_pos : 1 ≤ block.length
  length_le : block.length ≤ 7
  linenumber : block.map LineitemRow.lLinenumber = (List.range block.length).map fun k : Nat => (k : Int) + 1
  total : o.oTotalpriceCents = (block.map LineitemRow.chargedCents).sum
  status : o.oOrderstatus =
    if ∀ l ∈ block, l.lLinestatus = "F" then "F"
    else if ∀ l ∈ block, l.lLinestatus = "O" then "O" else "P"
  shipdate : ∀ l ∈ block, 1 ≤ l.lShipdate - o.oOrderdate ∧ l.lShipdate - o.oOrderdate ≤ 121
  products : ∀ l ∈ block,
    0 ≤ l.lExtendedpriceCents * (100 - l.lDiscountPercent) ∧
      l.lExtendedpriceCents * (100 - l.lDiscountPercent) < 2 ^ 63 ∧
      (l.lExtendedpriceCents * (100 - l.lDiscountPercent)).tdiv 100 * (100 + l.lTaxPercent) < 2 ^ 63
  sums : ∀ lines, lines <+: block → 0 ≤ (lines.map LineitemRow.chargedCents).sum ∧
    (lines.map LineitemRow.chargedCents).sum < 2 ^ 31

namespace LineitemRow.InRange

variable {orderDate : Int} {l : LineitemRow}

lemma discounted (h : l.InRange orderDate) :
    0 ≤ l.lExtendedpriceCents * (100 - l.lDiscountPercent) ∧
      l.lExtendedpriceCents * (100 - l.lDiscountPercent) ≤ 1049500000 := by
  have hd := h.discount_nonneg
  have hd' := h.discount_le
  constructor
  · exact mul_nonneg h.price_pos (by omega)
  · calc l.lExtendedpriceCents * (100 - l.lDiscountPercent) ≤ 10495000 * 100 :=
          mul_le_mul h.price_le (by omega) (by omega) (by decide)
      _ = 1049500000 := by decide

lemma taxed (h : l.InRange orderDate) :
    let price := (l.lExtendedpriceCents * (100 - l.lDiscountPercent)).tdiv 100
    0 ≤ price * (100 + l.lTaxPercent) ∧ price * (100 + l.lTaxPercent) ≤ 1133460000 := by
  intro price
  obtain ⟨hlo, hhi⟩ := h.discounted
  have ht := h.tax_nonneg
  have ht' := h.tax_le
  have hprice : price = (l.lExtendedpriceCents * (100 - l.lDiscountPercent)) / 100 :=
    Int.tdiv_eq_ediv_of_nonneg hlo
  constructor
  · exact mul_nonneg (by omega) (by omega)
  · calc price * (100 + l.lTaxPercent) ≤ 10495000 * 108 :=
          mul_le_mul (by omega) (by omega) (by omega) (by decide)
      _ = 1133460000 := by decide

lemma chargedCents_mem (h : l.InRange orderDate) :
    0 ≤ l.chargedCents ∧ l.chargedCents ≤ 11334600 := by
  obtain ⟨hlo, hhi⟩ := h.taxed
  unfold LineitemRow.chargedCents
  rw [Int.tdiv_eq_ediv_of_nonneg hlo]
  omega

end LineitemRow.InRange

lemma sum_chargedCents_mem {orderDate : Int} {lines : List LineitemRow}
    (h : ∀ l ∈ lines, l.InRange orderDate) :
    0 ≤ (lines.map LineitemRow.chargedCents).sum ∧
      (lines.map LineitemRow.chargedCents).sum ≤ lines.length * 11334600 := by
  induction lines with
  | nil => exact ⟨le_rfl, le_rfl⟩
  | cons l lines ih =>
    obtain ⟨h1, h2⟩ := (h l List.mem_cons_self).chargedCents_mem
    obtain ⟨h3, h4⟩ := ih fun x hx => h x (List.mem_cons_of_mem l hx)
    rw [List.map_cons, List.sum_cons, List.length_cons]
    push_cast
    omega

lemma orderStatus_eq {lines : List LineitemRow}
    (hstatus : ∀ l ∈ lines, l.lLinestatus = "F" ∨ l.lLinestatus = "O") :
    OrderStreams.orderStatus (lines.countP fun l => l.lLinestatus = "F") lines.length =
      if ∀ l ∈ lines, l.lLinestatus = "F" then "F"
      else if ∀ l ∈ lines, l.lLinestatus = "O" then "O" else "P" := by
  have hall : (∀ l ∈ lines, l.lLinestatus = "F") ↔
      lines.countP (fun l => l.lLinestatus = "F") = lines.length := by
    rw [List.countP_eq_length]
    simp only [decide_eq_true_eq]
  have hnone : (∀ l ∈ lines, l.lLinestatus = "O") ↔
      lines.countP (fun l => l.lLinestatus = "F") = 0 := by
    rw [List.countP_eq_zero]
    constructor
    · intro h l hl
      rw [h l hl]
      decide
    · intro h l hl
      exact (hstatus l hl).resolve_left fun hf => h l hl (decide_eq_true hf)
  unfold OrderStreams.orderStatus
  simp only [hall, hnone]
  generalize lines.countP (fun l => l.lLinestatus = "F") = shipped
  by_cases hF : shipped = lines.length
  · rw [if_pos (by omega), if_pos hF]
    rfl
  · rw [if_neg (by omega), if_neg hF]
    by_cases hO : shipped = 0
    · rw [if_neg (by omega), if_pos hO]
      rfl
    · rw [if_pos (by omega), if_neg hO]
      rfl

section

open LineitemStreams LineitemCursor

lemma length_orderRows (sampler : IntSampler) (sf : ScaleFactor) (textPool : TextPool) (r : Nat) :
    (orderRows sampler sf textPool r).length = (lineCountAt sampler r).1.toNat :=
  PullIterator.readFrom_length _ _ _ _

variable (sampler : IntSampler) {sf : ScaleFactor} (textPool : TextPool)

/-- The total price and the number of shipped lines of an order, from its line items. -/
lemma readLines_orderRows (hmin : 1 / 10000 ≤ sf.value) (hmax : sf.value ≤ 357) (r : Nat) :
    (OrderStreams.readLines sampler (orderDateAt sampler r).1 (lineCountAt sampler r).1.toNat
      ((OrderStreams.new sf textPool).advanceRows r).lines).1 =
      ⟨((orderRows sampler sf textPool r).map LineitemRow.chargedCents).sum,
        (orderRows sampler sf textPool r).countP fun l => l.lLinestatus = "F"⟩ := by
  have hloop := readLines_shared sampler sf r (orderDateAt sampler r).1 0
    (lineCountAt sampler r).1.toNat (onTheWay_start textPool hmin hmax r) ⟨0, 0⟩
  unfold OrderStreams.readLines
  rw [shared_start textPool hmin hmax r, hloop]
  simp only [Int.zero_add]
  rfl

/-- Every line of an order is in range. -/
lemma orderRows_inRange (hmin : 1 / 10000 ≤ sf.value) (hmax : sf.value ≤ 357) (r : Nat) :
    ∀ l ∈ orderRows sampler sf textPool r, l.InRange (orderDateAt sampler r).1 :=
  PullIterator.readFrom_forall (OnTheWay ((new sf textPool).advanceRows r).lines)
    (fun k _ _ h => ⟨h.readLine sampler sf r _ k, readLine_inRange sampler sf r _ k h⟩) _
    (onTheWay_start textPool hmin hmax r)

/-- The lines of an order and the order agree, whichever iterators read them. -/
theorem orderBlock (hmin : 1 / 10000 ≤ sf.value) (hmax : sf.value ≤ 357) (r : Nat) :
    OrderBlock (orderRow sampler sf textPool r) (orderRows sampler sf textPool r) := by
  have hrange := orderRows_inRange sampler textPool hmin hmax r
  have htotals := readLines_orderRows sampler textPool hmin hmax r
  have hlength := length_orderRows sampler sf textPool r
  have hcount := lineCountAt_mem sampler r
  have hsums : ∀ lines, lines <+: orderRows sampler sf textPool r →
      0 ≤ (lines.map LineitemRow.chargedCents).sum ∧
        (lines.map LineitemRow.chargedCents).sum < 2 ^ 31 := by
    intro lines hinit
    have hle := hinit.length_le
    obtain ⟨h1, h2⟩ := sum_chargedCents_mem fun l hl => hrange l (hinit.subset hl)
    omega
  have htotal : (orderRow sampler sf textPool r).oTotalpriceCents =
      toInt32 (OrderStreams.readLines sampler (orderDateAt sampler r).1
        (lineCountAt sampler r).1.toNat
        ((OrderStreams.new sf textPool).advanceRows r).lines).1.totalPrice := rfl
  have hstatus : (orderRow sampler sf textPool r).oOrderstatus =
      OrderStreams.orderStatus (OrderStreams.readLines sampler (orderDateAt sampler r).1
        (lineCountAt sampler r).1.toNat
        ((OrderStreams.new sf textPool).advanceRows r).lines).1.shippedCount
        (lineCountAt sampler r).1 := rfl
  simp only [htotals] at htotal hstatus
  constructor
  case key =>
    refine PullIterator.readFrom_forall (fun _ _ => True) (n := 0) ?_ _ trivial
    intro k n s _
    exact ⟨trivial, rfl⟩
  case length_pos => omega
  case length_le => omega
  case linenumber =>
    rw [hlength, List.range_eq_range']
    refine PullIterator.readFrom_map ?_ _ _ _
    intro k s
    rfl
  case total =>
    obtain ⟨h1, h2⟩ := hsums _ (List.prefix_refl _)
    rw [htotal]
    exact toInt32_eq (by omega) (by omega)
  case status =>
    rw [hstatus, ← orderStatus_eq, hlength]
    · congr 1
      omega
    · intro l hl
      rw [(hrange l hl).linestatus]
      unfold lineStatus
      split
      · exact Or.inl rfl
      · exact Or.inr rfl
  case shipdate =>
    intro l hl
    exact ⟨(hrange l hl).shipped_after, (hrange l hl).shipped_within⟩
  case products =>
    intro l hl
    obtain ⟨h1, h2⟩ := (hrange l hl).discounted
    obtain ⟨-, h4⟩ := (hrange l hl).taxed
    refine ⟨h1, by omega, by omega⟩
  case sums => exact hsums

lemma oOrderkey_orderRow (hmax : sf.value ≤ 357) {r : Nat}
    (hr : r < ScaleConfig.rowCount ⟨sf⟩ kOrders) :
    (orderRow sampler sf textPool r).oOrderkey = ((r + 1) / 8 * 32 + (r + 1) % 8 : Nat) := by
  have hcount : scaled kOrders.rowsAtSf1 sf < 535500001 :=
    scaled_lt (m := 535500000) hmax (by norm_num [kOrders]) (by norm_num)
  have hr' : r < (scaled kOrders.rowsAtSf1 sf).toNat := hr
  have hkey : (orderRow sampler sf textPool r).oOrderkey =
      toInt32 (OrderStreams.makeOrderKey (r + 1) : Nat) := by
    simp only [orderRow, OrderStreams.read]
  rw [hkey, OrderStreams.makeOrderKey_eq, Nat.mul_comm 32]
  exact toInt32_eq (by omega) (by omega)

lemma oOrderkey_injective (hmax : sf.value ≤ 357) {i j : Nat}
    (hi : i < ScaleConfig.rowCount ⟨sf⟩ kOrders) (hj : j < ScaleConfig.rowCount ⟨sf⟩ kOrders)
    (h : (orderRow sampler sf textPool i).oOrderkey = (orderRow sampler sf textPool j).oOrderkey) :
    i = j := by
  rw [oOrderkey_orderRow sampler textPool hmax hi, oOrderkey_orderRow sampler textPool hmax hj] at h
  omega

/-- The rows of the orders and of the line items of one table: the line items with the key of
an order are one block, which agrees with the order. -/
structure OrdersAgree (orderCount : Nat) (orders : List OrderRow) (lines : List LineitemRow) :
    Prop where
  length : orders.length = orderCount
  block : ∀ (i : Nat) (o : OrderRow), orders[i]? = some o → ∃ before block after,
    lines = before ++ block ++ after ∧ (∀ l ∈ before, l.lOrderkey ≠ o.oOrderkey) ∧
      (∀ l ∈ after, l.lOrderkey ≠ o.oOrderkey) ∧ OrderBlock o block

lemma ordersAgree (hmin : 1 / 10000 ≤ sf.value) (hmax : sf.value ≤ 357) :
    let orderCount := ScaleConfig.rowCount ⟨sf⟩ kOrders
    OrdersAgree orderCount ((List.range' 0 (orderCount - 0)).flatMap
        fun r => [orderRow sampler sf textPool r])
      ((List.range' 0 (orderCount - 0)).flatMap (orderRows sampler sf textPool)) := by
  intro orderCount
  have horders : (List.range' 0 (orderCount - 0)).flatMap (fun r => [orderRow sampler sf textPool r]) =
      (List.range' 0 orderCount).map (orderRow sampler sf textPool) := by
    rw [Nat.sub_zero]
    exact List.flatMap_pure_eq_map _ _
  have hother : ∀ {i r}, i < orderCount → r < orderCount → r ≠ i →
      ∀ l ∈ orderRows sampler sf textPool r,
        l.lOrderkey ≠ (orderRow sampler sf textPool i).oOrderkey := by
    intro i r hi hr hne l hl heq
    rw [(orderBlock sampler textPool hmin hmax r).key l hl] at heq
    exact hne (oOrderkey_injective sampler textPool hmax hr hi heq)
  constructor
  case length =>
    rw [horders, List.length_map, List.length_range']
  case block =>
    intro i o hio
    have hi : i < orderCount := by
      obtain ⟨hlt, _⟩ := List.getElem?_eq_some_iff.mp hio
      rwa [horders, List.length_map, List.length_range'] at hlt
    rw [horders, List.getElem?_map, List.getElem?_range' hi, Nat.zero_add, Nat.one_mul] at hio
    obtain rfl := Option.some.inj hio
    refine ⟨(List.range' 0 (i - 0)).flatMap (orderRows sampler sf textPool),
      orderRows sampler sf textPool i,
      (List.range' (i + 1) (orderCount - (i + 1))).flatMap (orderRows sampler sf textPool),
      ?_, ?_, ?_, orderBlock sampler textPool hmin hmax i⟩
    · rw [← flatMap_range'_append _ (Nat.zero_le i) hi.le,
        ← flatMap_range'_append _ (Nat.le_succ i) hi, Nat.succ_eq_add_one, Nat.add_sub_cancel_left,
        List.range'_one, List.flatMap_singleton, List.append_assoc]
    · intro l hl
      obtain ⟨r, hr, hl⟩ := List.mem_flatMap.mp hl
      obtain ⟨-, hr⟩ := List.mem_range'_1.mp hr
      exact hother hi (by omega) (by omega) l hl
    · intro l hl
      obtain ⟨r, hr, hl⟩ := List.mem_flatMap.mp hl
      obtain ⟨hr, hr'⟩ := List.mem_range'_1.mp hr
      exact hother hi (by omega) (by omega) l hl

end

/-- The rows of all orders, each range of the split read by a new `OrderRowIterator`. -/
def OrdersOver (sampler : IntSampler) (sf : ScaleFactor) (textPool : TextPool) (m : Nat) (bound : Nat → Nat)
    (orders : List OrderRow) : Prop :=
  EmitsSplit (RowCursor.iterator (OrderStreams.read sampler) OrderStreams.rowFinished)
    (RowCursor.reset (OrderStreams.new sf textPool) OrderStreams.advanceRows) m bound orders

/-- The rows of all line items, each range of the split read by a new `LineitemRowIterator`. -/
def LinesOver (sampler : IntSampler) (sf : ScaleFactor) (textPool : TextPool) (m : Nat) (bound : Nat → Nat)
    (lines : List LineitemRow) : Prop :=
  EmitsSplit (LineitemCursor.iterator sampler)
    (fun a b => LineitemCursor.initial.reset sampler a b sf textPool) m bound lines

/-- `m` consecutive ranges over `[0, total)`. -/
structure Split (total m : Nat) (bound : Nat → Nat) : Prop where
  mono : Monotone bound
  first : bound 0 = 0
  last : bound m = total

lemma split_partitionBound (total : Nat) {n : Nat} (hn : 1 ≤ n) :
    Split total n (partitionBound total n) :=
  ⟨partitionBound_mono total n, partitionBound_zero hn, partitionBound_self total n⟩

/-- However the orders and the line items of a table are split, they agree. -/
theorem orders_lineitem_agree (sampler : IntSampler) (textPool : TextPool) {sf : ScaleFactor}
    (hmin : 1 / 10000 ≤ sf.value) (hmax : sf.value ≤ 357) {m m' : Nat} {bound bound' : Nat → Nat}
    (hbound : Split (ScaleConfig.rowCount ⟨sf⟩ kOrders) m bound)
    (hbound' : Split (ScaleConfig.rowCount ⟨sf⟩ kOrders) m' bound') :
    (∃ orders, OrdersOver sampler sf textPool m bound orders) ∧
      (∃ lines, LinesOver sampler sf textPool m' bound' lines) ∧
      ∀ orders lines, OrdersOver sampler sf textPool m bound orders →
        LinesOver sampler sf textPool m' bound' lines →
        OrdersAgree (ScaleConfig.rowCount ⟨sf⟩ kOrders) orders lines := by
  have hsf : sf.value < 30000 := lt_of_le_of_lt hmax (by norm_num)
  have horders : ∀ orders, OrdersOver sampler sf textPool m bound orders ↔ _ :=
    fun orders => emitsSplit_iff (fun hab => RowCursor.emits_reset
      (OrderStreams.advanceRows_zero textPool hsf) hab
      (OrderStreams.finish_read sampler textPool hsf)) hbound.mono
  have hlines : ∀ lines, LinesOver sampler sf textPool m' bound' lines ↔ _ :=
    fun lines => emitsSplit_iff (LineitemCursor.emits_reset sampler sf textPool hsf) hbound'.mono
  rw [hbound.first, hbound.last] at horders
  rw [hbound'.first, hbound'.last] at hlines
  refine ⟨⟨_, (horders _).mpr rfl⟩, ⟨_, (hlines _).mpr rfl⟩, ?_⟩
  intro orders lines ho hl
  rw [(horders orders).mp ho, (hlines lines).mp hl]
  exact ordersAgree sampler textPool hmin hmax

theorem orders_lineitem_agree_halves_fifths :
    let orderCount := ScaleConfig.rowCount ⟨(1 / 128 : ℚ)⟩ kOrders
    (∃ orders, OrdersOver .exact (1 / 128 : ℚ) ⟨[]⟩ 2 (partitionBound orderCount 2) orders) ∧
      (∃ lines, LinesOver .exact (1 / 128 : ℚ) ⟨[]⟩ 5 (partitionBound orderCount 5) lines) ∧
      ∀ orders lines,
        OrdersOver .exact (1 / 128 : ℚ) ⟨[]⟩ 2 (partitionBound orderCount 2) orders →
        LinesOver .exact (1 / 128 : ℚ) ⟨[]⟩ 5 (partitionBound orderCount 5) lines →
        OrdersAgree orderCount orders lines :=
  orders_lineitem_agree .exact ⟨[]⟩ (by norm_num [ScaleFactor.exact]) (by norm_num [ScaleFactor.exact])
    (split_partitionBound _ (by decide)) (split_partitionBound _ (by decide))

end Schengen.Tables
