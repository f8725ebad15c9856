import Schengen.Tables.OrdersLineitem
import Schengen.Tables.PartArithmetic

/-!
# Referential integrity of lineitem

A line draws a part key and a supplier number. The row of partsupp that it refers to has the same
key from the same number, and the row of part has the price that the line multiplies.
-/

namespace Schengen.Tables
open Library Schengen.Random

/-- What a line refers to is there: whichever ranges the other iterators are reset to, the one that
covers the part emits its rows. -/
structure LineitemRow.Referenced (sampler : IntSampler) (textPool : TextPool) (sf : ScaleFactor)
    (l : LineitemRow) : Prop where
  partKey : 1 ≤ l.lPartkey ∧ l.lPartkey ≤ ScaleConfig.rowCount ⟨sf⟩ kPart
  supplierKey : 1 ≤ l.lSuppkey ∧ l.lSuppkey ≤ ScaleConfig.rowCount ⟨sf⟩ kSupplier
  partSupp : ∀ a b : Nat, a < l.lPartkey → l.lPartkey ≤ b → ∃ rows : List PartSuppRow,
    (PartSuppCursor.iterator sampler).Emits (PartSuppCursor.initial.reset a b sf textPool) rows ∧
      ∃ row ∈ rows, row.psPartkey = l.lPartkey ∧ row.psSuppkey = l.lSuppkey
  price : ∀ a b : Nat, a < l.lPartkey → l.lPartkey ≤ b → ∃ rows : List PartRow,
    (RowCursor.iterator (PartStreams.read sampler) PartStreams.rowFinished).Emits
        (RowCursor.reset (PartStreams.new textPool) PartStreams.advanceRows a b) rows ∧
      (∃ row ∈ rows, row.pPartkey = l.lPartkey) ∧
      ∀ row ∈ rows, row.pPartkey = l.lPartkey →
        l.lExtendedpriceCents = l.lQuantity * row.pRetailpriceCents

/-- A line is made from a part key, a supplier number and a quantity of the ranges of their
streams. -/
structure LineitemRow.Keyed (sf : ScaleFactor) (l : LineitemRow) (supplierNumber : Int) : Prop where
  partKey : 1 ≤ l.lPartkey ∧ l.lPartkey ≤ scaled kPart.rowsAtSf1 sf
  number : 0 ≤ supplierNumber ∧ supplierNumber ≤ 3
  supplierKey : l.lSuppkey = LineitemStreams.selectPartSupplier l.lPartkey supplierNumber sf
  price : l.lExtendedpriceCents = l.lQuantity * LineitemStreams.calculatePartPrice l.lPartkey

namespace LineitemStreams

/-- The bounds of the streams that the keys and the price of a line are drawn from. -/
structure KeyBounds (sf : ScaleFactor) (s : LineStreams) : Prop where
  fresh : s.Fresh
  quantity : s.quantityRandom.params = ⟨1, 50⟩
  supplierNumber : s.supplierNumberRandom.params = ⟨0, 3⟩
  partKeyMin : s.partKeyRandom.lowerBound = 1
  partKeyMax : s.partKeyRandom.upperBound = scaled kPart.rowsAtSf1 sf

variable (sampler : IntSampler) {sf : ScaleFactor} {start s : LineStreams} {n : Nat}

lemma readLine_keyed (h : KeyBounds sf start) (hd : start.Drawn n s)
    (hmin : 1 ≤ scaled kPart.rowsAtSf1 sf) (hmax : scaled kPart.rowsAtSf1 sf < 2 ^ 31)
    (orderIndex : Nat) (orderDate : Int) (lineNumber : Nat) :
    (readLine sampler sf orderIndex orderDate lineNumber s).1.Keyed sf
      (RandomBoundedInt.nextValue sampler s.supplierNumberRandom).1 := by
  have hpartMin : s.partKeyRandom.lowerBound = 1 := by rw [hd.partKey.rest]; exact h.partKeyMin
  have hpartMax : s.partKeyRandom.upperBound = scaled kPart.rowsAtSf1 sf := by
    rw [hd.partKey.rest]; exact h.partKeyMax
  have hpart := RandomBoundedLong.nextValue_mem sampler h.fresh.partKey hd.partKey
  rw [hpartMin, hpartMax] at hpart
  obtain ⟨hpart1, hpart2⟩ := hpart (by decide) hmin (by omega) (by omega)
  obtain ⟨hquantity1, hquantity2⟩ := RandomBoundedInt.nextValue_mem sampler h.fresh.quantity
    hd.quantity (hd.quantity.params.trans h.quantity) (by decide) (by decide)
  have hnumber := RandomBoundedInt.nextValue_mem sampler h.fresh.supplierNumber hd.supplierNumber
    (hd.supplierNumber.params.trans h.supplierNumber)
  have hstored : toInt32 (s.partKeyRandom.nextValue sampler).1 =
      (s.partKeyRandom.nextValue sampler).1 := toInt32_eq (by omega) (by omega)
  obtain ⟨hprice1, hprice2⟩ := extendedPrice_mem
    (p := (s.partKeyRandom.nextValue sampler).1) (by omega) hquantity1 hquantity2
  have hprice := toInt32_eq (x := calculatePartPrice (s.partKeyRandom.nextValue sampler).1 *
    (RandomBoundedInt.nextValue sampler s.quantityRandom).1) (by omega) (by omega)
  have hkey : (readLine sampler sf orderIndex orderDate lineNumber s).1.lPartkey =
      (s.partKeyRandom.nextValue sampler).1 := hstored
  refine ⟨?_, hnumber (by decide) (by decide), ?_, ?_⟩
  · rw [hkey]
    exact ⟨hpart1, hpart2⟩
  · rw [hkey]
    rfl
  · rw [hkey, Int.mul_comm]
    exact hprice

lemma keyBounds_start (textPool : TextPool) (hnarrow : sf.value < 30000)
    (hmin : 1 ≤ scaled kPart.rowsAtSf1 sf) (r : Nat) :
    KeyBounds sf ((new sf textPool).advanceRows r).lines := by
  have hfresh := fresh_new textPool hnarrow
  have hpart := RandomBoundedLong.advanceRows_narrow hfresh.partKey.narrow r
  refine ⟨fresh_advanceRows hfresh r, rfl, rfl, ?_, ?_⟩
  · change ((new sf textPool).lines.partKeyRandom.advanceRows r).lowerBound = 1
    rw [hpart]
    rfl
  · change ((new sf textPool).lines.partKeyRandom.advanceRows r).upperBound = _
    rw [hpart]
    exact if_neg (not_lt.mpr hmin)

end LineitemStreams

variable (sampler : IntSampler) (textPool : TextPool) {sf : ScaleFactor}

/-- Every row of an order is keyed. -/
lemma orderRows_keyed (hnarrow : sf.value < 30000) (hmin : 1 ≤ scaled kPart.rowsAtSf1 sf)
    (hmax : scaled kPart.rowsAtSf1 sf < 2 ^ 31) (r : Nat) :
    ∀ l ∈ LineitemCursor.orderRows sampler sf textPool r, ∃ supplierNumber, l.Keyed sf supplierNumber := by
  have hstart := LineitemStreams.keyBounds_start textPool hnarrow hmin r
  exact PullIterator.readFrom_forall
    (LineStreams.Drawn ((LineitemStreams.new sf textPool).advanceRows r).lines)
    (fun k n s hd => ⟨LineitemStreams.drawn_readLine sampler sf r _ hd k, _,
      LineitemStreams.readLine_keyed sampler hstart hd hmin hmax r _ k⟩) _ hstart.fresh.drawn

lemma LineitemCursor.reset_of_lt (s : LineitemCursor) {a b : Nat} (h : b < a) :
    s.reset sampler a b sf textPool = s.reset sampler b b sf textPool := by
  unfold LineitemCursor.reset
  rw [if_pos h, if_neg (lt_irrefl b)]

/-- The iterator of partsupp that covers a part emits a row for each of its suppliers. -/
lemma partSupp_emits {partKey i : Int} (hpart32 : partKey < 2 ^ 31) (hi : 0 ≤ i) (hi' : i ≤ 3)
    {a b : Nat} (ha : a < partKey) (hb : partKey ≤ b) :
    ∃ rows : List PartSuppRow,
      (PartSuppCursor.iterator sampler).Emits (PartSuppCursor.initial.reset a b sf textPool) rows ∧
        ∃ row ∈ rows, row.psPartkey = partKey ∧
          row.psSuppkey = PartSuppStreams.selectPartSupplier partKey i sf := by
  refine ⟨_, PartSuppCursor.emits_reset sampler sf textPool (by omega), ?_⟩
  obtain ⟨r, rfl⟩ : ∃ r : Nat, partKey = r + 1 := ⟨(partKey - 1).toNat, by omega⟩
  obtain ⟨k, rfl⟩ := Int.eq_ofNat_of_zero_le hi
  have hstored : toInt32 ((r : Int) + 1) = r + 1 := toInt32_eq (by omega) (by omega)
  have hpair : (((r : Int) + 1, PartSuppStreams.selectPartSupplier (r + 1) k sf)) ∈
      (PartSuppCursor.partRows sampler sf textPool r).map fun row => (row.psPartkey, row.psSuppkey) := by
    rw [readPart_keys, hstored]
    exact List.mem_map.mpr ⟨k, List.mem_range.mpr (by omega), rfl⟩
  obtain ⟨row, hrow, hsame⟩ := List.mem_map.mp hpair
  have hmem : r ∈ List.range' a (b - a) := List.mem_range'_1.mpr ⟨by omega, by omega⟩
  exact ⟨row, List.mem_flatMap.mpr ⟨r, hmem, hrow⟩, (Prod.mk.inj hsame).1, (Prod.mk.inj hsame).2⟩

/-- The iterator of part that covers a part emits its row, with the price of its key. -/
lemma part_emits {partKey : Int} (hpart32 : partKey < 2 ^ 31) {a b : Nat} (ha : a < partKey)
    (hb : partKey ≤ b) :
    ∃ rows : List PartRow,
      (RowCursor.iterator (PartStreams.read sampler) PartStreams.rowFinished).Emits
          (RowCursor.reset (PartStreams.new textPool) PartStreams.advanceRows a b) rows ∧
        (∃ row ∈ rows, row.pPartkey = partKey) ∧
        ∀ row ∈ rows, row.pRetailpriceCents = PartStreams.calculatePartPrice row.pPartkey := by
  have hkey : ∀ r s, ((PartStreams.read sampler r s).1.pPartkey,
      (PartStreams.read sampler r s).1.pRetailpriceCents) =
        (toInt32 ((r : Int) + 1), PartStreams.calculatePartPrice (toInt32 ((r : Int) + 1))) := by
    intro r s
    simp only [PartStreams.read]
  obtain ⟨rows, hemits, hkeys⟩ := @RowCursor.emits_keys_reset _ _ (PartStreams.new textPool)
    PartStreams.advanceRows (PartStreams.read sampler) PartStreams.rowFinished _
    (fun row : PartRow => (row.pPartkey, row.pRetailpriceCents)) _ hkey a b a
    (if_neg (by omega)) (by omega)
  refine ⟨rows, hemits, ?_, fun row hrow => ?_⟩
  · obtain ⟨r, rfl⟩ : ∃ r : Nat, partKey = r + 1 := ⟨(partKey - 1).toNat, by omega⟩
    have hmem : r ∈ List.range' a (b - a) := List.mem_range'_1.mpr ⟨by omega, by omega⟩
    have hpair := List.mem_map_of_mem (f := fun r : Nat =>
      (toInt32 ((r : Int) + 1), PartStreams.calculatePartPrice (toInt32 ((r : Int) + 1)))) hmem
    rw [← hkeys] at hpair
    obtain ⟨row, hrow, hsame⟩ := List.mem_map.mp hpair
    exact ⟨row, hrow, (Prod.mk.inj hsame).1.trans (toInt32_eq (by omega) (by omega))⟩
  · have hpair := List.mem_map_of_mem (f := fun row : PartRow =>
      (row.pPartkey, row.pRetailpriceCents)) hrow
    rw [hkeys] at hpair
    obtain ⟨r, -, hsame⟩ := List.mem_map.mp hpair
    obtain ⟨hpart, hprice⟩ := Prod.mk.inj hsame
    rw [← hprice, ← hpart]

/-- The copies of the two functions agree, so a keyed line is referenced. -/
lemma LineitemRow.Keyed.referenced {l : LineitemRow} {supplierNumber : Int}
    (h : l.Keyed sf supplierNumber) (hsuppliers : 1 ≤ scaled PartSuppStreams.kSupplierScaleBase sf)
    (hmax : scaled kPart.rowsAtSf1 sf < 2 ^ 31) : l.Referenced sampler textPool sf := by
  obtain ⟨hpart, hpart'⟩ := h.partKey
  obtain ⟨hnumber, hnumber'⟩ := h.number
  have hcounts := suppliers_le_parts hsuppliers
  have hsupplier : l.lSuppkey = PartSuppStreams.selectPartSupplier l.lPartkey supplierNumber sf :=
    h.supplierKey
  have hprice : l.lExtendedpriceCents = l.lQuantity * PartStreams.calculatePartPrice l.lPartkey :=
    h.price
  obtain ⟨-, hkey, hkey'⟩ := selectPartSupplier_mem
    (rfl : scaled PartSuppStreams.kSupplierScaleBase sf = _) (by omega) (by omega) hpart hnumber
  refine ⟨⟨hpart, hpart'.trans (Int.self_le_toNat _)⟩, ?_, fun a b ha hb => ?_, fun a b ha hb => ?_⟩
  · rw [hsupplier]
    exact ⟨hkey, hkey'.trans (Int.self_le_toNat _)⟩
  · rw [hsupplier]
    exact partSupp_emits sampler textPool (by omega) hnumber hnumber' ha hb
  · obtain ⟨rows, hemits, hexists, hprices⟩ :=
      part_emits sampler textPool (by omega : l.lPartkey < 2 ^ 31) ha hb
    refine ⟨rows, hemits, hexists, fun row hrow hsame => ?_⟩
    rw [hprices row hrow, hsame]
    exact hprice

/-- Every line of every range of orders is referenced, and no step of the arithmetic of a part key
overflows, for part keys of 32 bits. -/
theorem referentialIntegrity {sf : ℚ} (hmin : 1 / 10000 ≤ sf)
    (hmax : 200000 * sf < 2147483648) :
    (∀ partKey : Int, 1 ≤ partKey → partKey ≤ ScaleConfig.rowCount ⟨sf⟩ kPart →
      PartArithmetic sf partKey) ∧
    ∀ a b : Nat, ∃ lines : List LineitemRow,
      (LineitemCursor.iterator sampler).Emits
          (LineitemCursor.initial.reset sampler a b sf textPool) lines ∧
        ∀ l ∈ lines, l.Referenced sampler textPool sf := by
  have hnarrow : sf < 30000 := by linarith
  have hsuppliers : 1 ≤ scaled PartSuppStreams.kSupplierScaleBase sf :=
    le_scaled (m := 1) hmin (by norm_num [PartSuppStreams.kSupplierScaleBase]) (by norm_num)
  have hcounts := suppliers_le_parts hsuppliers
  have hparts : scaled kPart.rowsAtSf1 sf < 2 ^ 31 := by
    rw [scaled_exact, Rat.floor_lt_iff]
    norm_num [kPart]
    exact hmax
  constructor
  · intro partKey hpart hpart'
    change partKey ≤ (scaled kPart.rowsAtSf1 sf).toNat at hpart'
    exact partArithmetic hpart (by omega) hsuppliers
      (by change scaled PartSuppStreams.kSupplierScaleBase sf < _; omega)
  · have hrange : ∀ {a b : Nat}, a ≤ b → ∃ lines : List LineitemRow,
        (LineitemCursor.iterator sampler).Emits
            (LineitemCursor.initial.reset sampler a b sf textPool) lines ∧
          ∀ l ∈ lines, l.Referenced sampler textPool sf := by
      intro a b hab
      refine ⟨_, LineitemCursor.emits_reset sampler sf textPool hnarrow hab, fun l hl => ?_⟩
      obtain ⟨r, -, hr⟩ := List.mem_flatMap.mp hl
      obtain ⟨supplierNumber, hkeyed⟩ :=
        orderRows_keyed sampler textPool hnarrow (by omega) hparts r l hr
      exact hkeyed.referenced sampler textPool hsuppliers hparts
    intro a b
    rcases Nat.lt_or_ge b a with hlt | hle
    · rw [LineitemCursor.reset_of_lt sampler textPool _ hlt]
      exact hrange le_rfl
    · exact hrange hle

theorem referentialIntegrity_hundredth :
    (∀ partKey : Int, 1 ≤ partKey → partKey ≤ ScaleConfig.rowCount ⟨(1 / 100 : ℚ)⟩ kPart →
      PartArithmetic (1 / 100 : ℚ) partKey) ∧
    ∀ a b : Nat, ∃ lines : List LineitemRow,
      (LineitemCursor.iterator IntSampler.exact).Emits
          (LineitemCursor.initial.reset IntSampler.exact a b (1 / 100 : ℚ) ⟨[]⟩) lines ∧
        ∀ l ∈ lines, l.Referenced IntSampler.exact ⟨[]⟩ (1 / 100 : ℚ) :=
  referentialIntegrity IntSampler.exact ⟨[]⟩ (by norm_num) (by norm_num)

end Schengen.Tables
