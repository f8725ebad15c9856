import Schengen.Tables.OrdersLineitem
import Schengen.Tables.PartRows

/-!
# Order keys

The sparse key spreads the order index by a factor of four. It is computed with 64 bits and
stored with 32, in orders and in lineitem.
-/

namespace Schengen.Tables
open Library Schengen.Random

namespace OrderStreams

theorem makeOrderKey_strictMono : StrictMono makeOrderKey := by
  intro a b hab
  rw [makeOrderKey_eq, makeOrderKey_eq]
  omega

/-- The last index whose key fits 32 bits is `2 ^ 29 - 1`. -/
lemma makeOrderKey_lt_iff {orderIndex : Nat} :
    makeOrderKey orderIndex < 2 ^ 31 ↔ orderIndex < 2 ^ 29 := by
  rw [makeOrderKey_eq]
  omega

end OrderStreams

open OrderStreams (makeOrderKey makeOrderKey_eq makeOrderKey_strictMono makeOrderKey_lt_iff)

/-- The keys of all orders and of their line items, whatever the number of parts. -/
structure OrderKeysExact (sampler : IntSampler) (textPool : TextPool) (sf : ℚ) : Prop where
  orders : ∀ n sizes (rows : List OrderRow), 1 ≤ n → (∀ i j, 0 < sizes i j) →
    (Table.orderGenerator sampler).PartsRows kOrders ⟨sf⟩ textPool n sizes rows →
      rows.map OrderRow.oOrderkey =
          (List.range (ScaleConfig.rowCount ⟨sf⟩ kOrders)).map (fun r => (makeOrderKey (r + 1) : Int)) ∧
        (∀ row ∈ rows, 0 < row.oOrderkey) ∧ (rows.map OrderRow.oOrderkey).Pairwise (· < ·)
  lineitem : ∀ n sizes (rows : List LineitemRow), 1 ≤ n → (∀ i j, 0 < sizes i j) →
    (Table.lineitemGenerator sampler).PartsRows kLineitem ⟨sf⟩ textPool n sizes rows →
      ∃ blocks : Nat → List LineitemRow,
        rows = (List.range (ScaleConfig.rowCount ⟨sf⟩ kOrders)).flatMap blocks ∧
          ∀ r < ScaleConfig.rowCount ⟨sf⟩ kOrders, blocks r ≠ [] ∧
            ∀ l ∈ blocks r, l.lOrderkey = makeOrderKey (r + 1)

variable (sampler : IntSampler) (textPool : TextPool) {sf : ℚ}

/-- The stored keys of the orders, at any scale. -/
lemma orders_keys (scale : ScaleConfig) {n : Nat} (hn : 1 ≤ n) {sizes : Nat → Nat → Nat}
    (hsizes : ∀ i j, 0 < sizes i j) :
    (∃ rows, (Table.orderGenerator sampler).PartsRows kOrders scale textPool n sizes rows) ∧
      ∀ rows : List OrderRow,
        (Table.orderGenerator sampler).PartsRows kOrders scale textPool n sizes rows →
          rows.map OrderRow.oOrderkey =
            (List.range (scale.rowCount kOrders)).map fun r => toInt32 (makeOrderKey (r + 1)) := by
  have hkey : ∀ r s, (OrderStreams.read sampler r s).1.oOrderkey = toInt32 (makeOrderKey (r + 1)) := by
    intro r s
    simp only [OrderStreams.read]
  have hemits : (Table.orderGenerator sampler).EmitsKeys kOrders scale textPool OrderRow.oOrderkey
      (fun r => [toInt32 (makeOrderKey (r + 1))]) (partitionBound (scale.rowCount kOrders)) :=
    TableGenerator.emitsKeys_ofCursor kOrders scale textPool hkey monotone_id TableGenerator.clamp_id
  obtain ⟨hexists, hkeys⟩ := hemits.partsRows (TableGenerator.cut_partitionBound _) hn hsizes
  rw [partitionBound_self] at hkeys
  exact ⟨hexists, fun rows hrows => (hkeys rows hrows).trans List.map_eq_flatMap.symm⟩

/-- The line items of all parts, order by order. -/
lemma lineitem_blocks (hsf : sf < 30000) {n : Nat} (hn : 1 ≤ n) {sizes : Nat → Nat → Nat}
    (hsizes : ∀ i j, 0 < sizes i j) {rows : List LineitemRow}
    (hrows : (Table.lineitemGenerator sampler).PartsRows kLineitem ⟨sf⟩ textPool n sizes rows) :
    rows = (List.range (ScaleConfig.rowCount ⟨sf⟩ kOrders)).flatMap
      (LineitemCursor.orderRows sampler sf textPool) := by
  have hblocks := (((Table.emitsUnits_lineitem sampler ⟨sf⟩ textPool hsf).emitsKeys
    fun row : LineitemRow => row).partsRows (TableGenerator.cut_partitionBound _) hn hsizes).2 rows hrows
  rw [partitionBound_self] at hblocks
  have hsame : rows.map (fun row => row) = _ := hblocks
  rw [List.map_id'] at hsame
  exact hsame.trans (List.flatMap_congr fun r _ => List.map_id' _)

lemma orderRows_keys (sf : ℚ) (r : Nat) :
    LineitemCursor.orderRows sampler sf textPool r ≠ [] ∧
      ∀ l ∈ LineitemCursor.orderRows sampler sf textPool r,
        l.lOrderkey = toInt32 (makeOrderKey (r + 1)) := by
  constructor
  · have hlength := length_orderRows sampler sf textPool r
    have hcount := (LineitemStreams.lineCountAt_mem sampler r).1
    intro hnil
    rw [hnil, List.length_nil] at hlength
    omega
  · refine PullIterator.readFrom_forall (fun _ _ => True) (fun k n t _ => ⟨trivial, ?_⟩)
      (LineitemStreams.lineCountAt sampler r).1.toNat (k := 0) (n := 0) trivial
    simp only [LineitemStreams.readLine]
    rfl

lemma rowCount_le_iff : ScaleConfig.rowCount ⟨sf⟩ kOrders < 2 ^ 29 ↔ 1500000 * sf < 536870912 := by
  have hfloor : scaled kOrders.rowsAtSf1 sf < 536870912 ↔ 1500000 * sf < 536870912 := by
    rw [scaled_exact, Rat.floor_lt_iff]
    norm_num [kOrders]
  rw [← hfloor]
  change (scaled kOrders.rowsAtSf1 sf).toNat < _ ↔ _
  omega

/-- The order of index `2 ^ 29` gets the key `-2 ^ 31`. -/
lemma not_orderKeysExact (hlarge : ¬ 1500000 * sf < 536870912) :
    ¬ OrderKeysExact sampler textPool sf := by
  intro h
  rw [← rowCount_le_iff] at hlarge
  have hsizes : ∀ i j : Nat, 0 < (fun _ _ => 1 : Nat → Nat → Nat) i j := fun _ _ => Nat.one_pos
  obtain ⟨⟨rows, hrows⟩, hkeys⟩ := orders_keys sampler textPool ⟨sf⟩ le_rfl hsizes
  have hsame := (hkeys rows hrows).symm.trans (h.orders 1 _ rows le_rfl hsizes hrows).1
  have hindex := List.map_inj_left.mp hsame 536870911 (List.mem_range.mpr (by omega))
  revert hindex
  decide

/-- The stored keys are the computed ones up to `2 ^ 29 - 1` orders and not beyond. -/
theorem orderKeysExact_iff : OrderKeysExact sampler textPool sf ↔ 1500000 * sf < 536870912 := by
  refine ⟨fun h => by_contra fun hlarge => not_orderKeysExact sampler textPool hlarge h,
    fun hsmall => ?_⟩
  have hcount := rowCount_le_iff.mpr hsmall
  have hstored : ∀ r < ScaleConfig.rowCount ⟨sf⟩ kOrders,
      toInt32 (makeOrderKey (r + 1)) = makeOrderKey (r + 1) := by
    intro r hr
    have hlt : makeOrderKey (r + 1) < 2 ^ 31 := makeOrderKey_lt_iff.mpr (by omega)
    exact toInt32_eq (by omega) (by omega)
  constructor
  · intro n sizes rows hn hsizes hrows
    have hkeys : rows.map OrderRow.oOrderkey =
        (List.range (ScaleConfig.rowCount ⟨sf⟩ kOrders)).map fun r => (makeOrderKey (r + 1) : Int) :=
      ((orders_keys sampler textPool ⟨sf⟩ hn hsizes).2 rows hrows).trans
        (List.map_congr_left fun r hr => hstored r (List.mem_range.mp hr))
    refine ⟨hkeys, fun row hrow => ?_, ?_⟩
    · have hmem : row.oOrderkey ∈ rows.map OrderRow.oOrderkey := List.mem_map_of_mem hrow
      rw [hkeys] at hmem
      obtain ⟨r, -, hr⟩ := List.mem_map.mp hmem
      have hpos : makeOrderKey 0 < makeOrderKey (r + 1) := makeOrderKey_strictMono (Nat.succ_pos r)
      omega
    · rw [hkeys, List.pairwise_map]
      refine List.pairwise_lt_range.imp fun hlt => ?_
      exact Int.ofNat_lt.mpr (makeOrderKey_strictMono (Nat.succ_lt_succ hlt))
  · intro n sizes rows hn hsizes hrows
    have hnarrow : sf < 30000 := by linarith
    refine ⟨_, lineitem_blocks sampler textPool hnarrow hn hsizes hrows, fun r hr => ?_⟩
    obtain ⟨hne, hkeys⟩ := orderRows_keys sampler textPool sf r
    exact ⟨hne, fun l hl => (hkeys l hl).trans (hstored r hr)⟩

/-- At scale factor 358 there are orders whose key does not fit. -/
theorem orderKeys_overflow : ¬ OrderKeysExact IntSampler.exact ⟨[]⟩ 358 :=
  not_orderKeysExact IntSampler.exact ⟨[]⟩ (by norm_num)

end Schengen.Tables
