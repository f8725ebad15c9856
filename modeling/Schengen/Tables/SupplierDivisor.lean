import Schengen.Tables.Generators

/-!
# The divisor of the supplier mapping

Whether there is a row is decided by the scaled number of parts or orders, the divisor of
`SelectPartSupplier` is the scaled number of suppliers. For small scale factors there are rows
and no suppliers.
-/

namespace Schengen.Tables
open Library Schengen.Random

namespace TableGenerator

/-- The states in which some partition's generator is asked for its next row. -/
def Reads (g : TableGenerator) (table : TableMetadata) (scale : ScaleConfig) (textPool : TextPool)
    (t : g.State) : Prop :=
  ∃ n i : Nat, i < n ∧ ∃ plan s rows, makePartitionPlan table scale (i + 1) n = .ok plan ∧
    g.reset ⟨scale, plan, textPool⟩ g.fresh = .ok s ∧ g.iterator.Yields s rows t

/-- Every row that is produced is computed with a divisor that is not zero. -/
def NeverDividesByZero (g : TableGenerator) (table : TableMetadata) (scale : ScaleConfig)
    (textPool : TextPool) (divisor : g.State → Int) : Prop :=
  ∀ t, g.Reads table scale textPool t → g.iterator.next t ≠ none → divisor t ≠ 0

end TableGenerator

/-- `supplier_key_max_value` in the call of `SelectPartSupplier` that `Next` makes. -/
def PartSuppCursor.supplierKeyMaxValue (s : PartSuppCursor) : Int :=
  scaled PartSuppStreams.kSupplierScaleBase s.scaleFactor

def LineitemCursor.supplierKeyMaxValue (s : LineitemCursor) : Int :=
  scaled LineitemStreams.kSupplierScaleBase s.scaleFactor

lemma rowCount_eq_zero {table : TableMetadata} (hpos : 0 < table.rowsAtSf1) {sf : ℚ} :
    ScaleConfig.rowCount ⟨sf⟩ table = 0 ↔ sf < 1 / table.rowsAtSf1 := by
  have hcount : (0 : ℚ) < table.rowsAtSf1 := Nat.cast_pos.mpr hpos
  have hfloor : scaled table.rowsAtSf1 sf < 1 ↔ sf < 1 / table.rowsAtSf1 := by
    rw [scaled_exact, Rat.floor_lt_iff, lt_div_iff₀' hcount, Int.cast_one]
  rw [← hfloor]
  change (scaled table.rowsAtSf1 sf).toNat = 0 ↔ _
  omega

lemma partitionBound_empty (n i : Nat) : partitionBound 0 n i = 0 := by
  unfold partitionBound
  split_ifs
  · rfl
  · rw [Nat.zero_div, Nat.zero_mul]

/-- The number of suppliers is zero below one for every 10000. -/
lemma scaled_suppliers_ne_zero {sf : ℚ} (hpos : 0 < sf) : scaled 10000 sf ≠ 0 ↔ 1 / 10000 ≤ sf := by
  have hone : 1 ≤ scaled 10000 sf ↔ 1 / 10000 ≤ sf := by
    rw [scaled_exact, Rat.le_floor_iff, Int.cast_one, div_le_iff₀' (by norm_num)]
    norm_num
  have hnonneg : 0 ≤ scaled 10000 sf := by
    rw [scaled_exact, Rat.le_floor_iff, Int.cast_zero]
    exact mul_nonneg (by norm_num) hpos.le
  rw [← hone]
  omega

section

variable (sampler : IntSampler) (textPool : TextPool) {sf : ℚ}

/-! ## Partsupp -/

/-- The fields that reading leaves alone. -/
def PartSuppCursor.Frame (sf : ℚ) (endPart : Nat) (s : PartSuppCursor) : Prop :=
  s.scaleFactor = sf ∧ s.endPart = endPart

lemma PartSuppCursor.frame_finishRow {endPart : Nat} {s : PartSuppCursor} (h : s.Frame sf endPart) :
    s.finishRow.Frame sf endPart := by
  simp only [PartSuppCursor.finishRow]
  split
  · exact h
  · exact h

lemma PartSuppCursor.frame_next {endPart : Nat} {s t : PartSuppCursor} {row : PartSuppRow}
    (h : s.Frame sf endPart) (hnext : s.next sampler = some (row, t)) : t.Frame sf endPart := by
  unfold PartSuppCursor.next at hnext
  split at hnext
  · cases hnext
  · simp only [Option.some.injEq, Prod.mk.injEq] at hnext
    obtain ⟨-, rfl⟩ := hnext
    exact PartSuppCursor.frame_finishRow h

lemma partSupp_reset {n i : Nat} (hi : i < n) {plan : PartitionPlan} {s : PartSuppCursor}
    (hplan : makePartitionPlan kPartsupp ⟨sf⟩ (i + 1) n = .ok plan)
    (hreset : (Table.partSuppGenerator sampler).reset ⟨⟨sf⟩, plan, textPool⟩ PartSuppCursor.initial =
      .ok s) :
    s.Frame sf (partitionBound (ScaleConfig.rowCount ⟨sf⟩ kPart) n (i + 1)) ∧
      s.nextPart = partitionBound (ScaleConfig.rowCount ⟨sf⟩ kPart) n i := by
  have hle := partitionBound_mono (ScaleConfig.rowCount ⟨sf⟩ kPart) n (Nat.le_succ i)
  rw [TableGenerator.makePartitionPlan_eq kPartsupp ⟨sf⟩ hi] at hplan
  cases hplan
  simp only [Table.partSuppGenerator, makePartitionRange_eq _ hi, bind, Except.bind, pure,
    Except.pure] at hreset
  cases hreset
  exact ⟨⟨rfl, rfl⟩, if_neg (not_lt.mpr hle)⟩

/-- The rows of partsupp are computed with a divisor that is not zero, or there are none. -/
theorem partSupp_neverDividesByZero_iff (hpos : 0 < sf) :
    (Table.partSuppGenerator sampler).NeverDividesByZero kPartsupp ⟨sf⟩ textPool
        PartSuppCursor.supplierKeyMaxValue ↔ sf < 1 / 200000 ∨ 1 / 10000 ≤ sf := by
  have hrows : ScaleConfig.rowCount ⟨sf⟩ kPart = 0 ↔ sf < 1 / 200000 :=
    rowCount_eq_zero (by decide)
  rw [← hrows, ← scaled_suppliers_ne_zero hpos]
  constructor
  · intro h
    by_contra hcon
    obtain ⟨hrow, hdivisor⟩ := not_or.mp hcon
    obtain ⟨plan, s, hplan, hreset, -⟩ :=
      Table.emitsUnits_partSupp sampler ⟨sf⟩ textPool 1 0 Nat.one_pos
    obtain ⟨⟨hsf, hend⟩, hstart⟩ := partSupp_reset sampler textPool Nat.one_pos hplan hreset
    rw [partitionBound_self] at hend
    rw [partitionBound_zero le_rfl] at hstart
    refine h s ⟨1, 0, Nat.one_pos, plan, s, [], hplan, hreset, rfl⟩ ?_ ?_
    · change PartSuppCursor.next sampler s ≠ none
      unfold PartSuppCursor.next
      rw [if_neg (by omega)]
      exact Option.some_ne_none _
    · unfold PartSuppCursor.supplierKeyMaxValue
      rw [hsf]
      exact not_not.mp hdivisor
  · rintro h t ⟨n, i, hi, plan, s, rows, hplan, hreset, hyields⟩ hnext
    obtain ⟨hframe, -⟩ := partSupp_reset sampler textPool hi hplan hreset
    obtain ⟨hsf, hend⟩ := hyields.invariant (I := PartSuppCursor.Frame sf _)
      (fun _ _ _ h hnext => PartSuppCursor.frame_next sampler h hnext) hframe
    unfold PartSuppCursor.supplierKeyMaxValue
    rw [hsf]
    refine h.resolve_left fun hempty => hnext ?_
    rw [hempty, partitionBound_empty] at hend
    exact if_pos (hend ▸ Nat.zero_le _)

/-! ## Lineitem -/

/-- The fields that reading leaves alone. -/
def LineitemCursor.Frame (sf : ℚ) (orderCount : Nat) (s : LineitemCursor) : Prop :=
  s.scaleFactor = sf ∧ s.orderCount = orderCount

lemma LineitemCursor.frame_finishLine {orderCount : Nat} {s : LineitemCursor}
    (h : s.Frame sf orderCount) : (s.finishLine sampler).Frame sf orderCount := by
  simp only [LineitemCursor.finishLine, LineitemCursor.finishOrder]
  split
  · split
    · exact h
    · exact h
  · exact h

lemma LineitemCursor.frame_next {orderCount : Nat} {s t : LineitemCursor} {row : LineitemRow}
    (h : s.Frame sf orderCount) (hnext : s.next sampler = some (row, t)) : t.Frame sf orderCount := by
  unfold LineitemCursor.next at hnext
  split at hnext
  · cases hnext
  · simp only [Option.some.injEq, Prod.mk.injEq] at hnext
    obtain ⟨-, rfl⟩ := hnext
    exact LineitemCursor.frame_finishLine sampler h

lemma lineitem_reset {n i : Nat} (hi : i < n) {plan : PartitionPlan} {s : LineitemCursor}
    (hplan : makePartitionPlan kLineitem ⟨sf⟩ (i + 1) n = .ok plan)
    (hreset : (Table.lineitemGenerator sampler).reset ⟨⟨sf⟩, plan, textPool⟩ LineitemCursor.initial =
      .ok s) :
    s.Frame sf (partitionBound (ScaleConfig.rowCount ⟨sf⟩ kOrders) n (i + 1) -
      partitionBound (ScaleConfig.rowCount ⟨sf⟩ kOrders) n i) ∧ s.index = 0 := by
  have hle := partitionBound_mono (ScaleConfig.rowCount ⟨sf⟩ kOrders) n (Nat.le_succ i)
  rw [TableGenerator.makePartitionPlan_eq kLineitem ⟨sf⟩ hi] at hplan
  cases hplan
  simp only [Table.lineitemGenerator, makePartitionRange_eq _ hi, bind, Except.bind, pure,
    Except.pure, Except.ok.injEq] at hreset
  subst hreset
  unfold LineitemCursor.reset
  simp only [gt_iff_lt, not_lt.mpr hle, if_false]
  split
  · exact ⟨⟨rfl, rfl⟩, rfl⟩
  · exact ⟨⟨rfl, rfl⟩, rfl⟩

/-- The rows of lineitem are computed with a divisor that is not zero, or there are none. -/
theorem lineitem_neverDividesByZero_iff (hpos : 0 < sf) :
    (Table.lineitemGenerator sampler).NeverDividesByZero kLineitem ⟨sf⟩ textPool
        LineitemCursor.supplierKeyMaxValue ↔ sf < 1 / 1500000 ∨ 1 / 10000 ≤ sf := by
  have hrows : ScaleConfig.rowCount ⟨sf⟩ kOrders = 0 ↔ sf < 1 / 1500000 :=
    rowCount_eq_zero (by decide)
  rw [← hrows]
  constructor
  · intro h
    by_contra hcon
    obtain ⟨hrow, hsmall⟩ := not_or.mp hcon
    have hnarrow : sf < 30000 := (not_le.mp hsmall).trans (by norm_num)
    obtain ⟨plan, s, hplan, hreset, -⟩ :=
      Table.emitsUnits_lineitem sampler ⟨sf⟩ textPool hnarrow 1 0 Nat.one_pos
    obtain ⟨⟨hsf, hcount⟩, hindex⟩ := lineitem_reset sampler textPool Nat.one_pos hplan hreset
    rw [partitionBound_self, partitionBound_zero le_rfl, Nat.sub_zero] at hcount
    refine h s ⟨1, 0, Nat.one_pos, plan, s, [], hplan, hreset, rfl⟩ ?_ ?_
    · change LineitemCursor.next sampler s ≠ none
      unfold LineitemCursor.next
      rw [if_neg (by omega)]
      exact Option.some_ne_none _
    · unfold LineitemCursor.supplierKeyMaxValue
      rw [hsf]
      exact not_not.mp fun hdivisor => hsmall ((scaled_suppliers_ne_zero hpos).mp hdivisor)
  · rintro h t ⟨n, i, hi, plan, s, rows, hplan, hreset, hyields⟩ hnext
    obtain ⟨hframe, -⟩ := lineitem_reset sampler textPool hi hplan hreset
    obtain ⟨hsf, hcount⟩ := hyields.invariant (I := LineitemCursor.Frame sf _)
      (fun _ _ _ h hnext => LineitemCursor.frame_next sampler h hnext) hframe
    unfold LineitemCursor.supplierKeyMaxValue
    rw [hsf]
    refine (scaled_suppliers_ne_zero hpos).mpr (h.resolve_left fun hempty => hnext ?_)
    rw [hempty, partitionBound_empty, partitionBound_empty] at hcount
    exact if_pos (hcount ▸ Nat.zero_le _)

/-- The supplier mapping divides by a number that is not zero, except for scale factors with rows
but without suppliers. -/
theorem supplierDivisor_iff (hpos : 0 < sf) :
    ((Table.partSuppGenerator sampler).NeverDividesByZero kPartsupp ⟨sf⟩ textPool
        PartSuppCursor.supplierKeyMaxValue ∧
      (Table.lineitemGenerator sampler).NeverDividesByZero kLineitem ⟨sf⟩ textPool
        LineitemCursor.supplierKeyMaxValue) ↔ sf < 1 / 1500000 ∨ 1 / 10000 ≤ sf := by
  rw [partSupp_neverDividesByZero_iff sampler textPool hpos,
    lineitem_neverDividesByZero_iff sampler textPool hpos]
  constructor
  · exact And.right
  · exact fun h => ⟨h.imp_left fun hsmall => hsmall.trans (by norm_num), h⟩

theorem supplierDivisor_iff_one :
    ((Table.partSuppGenerator IntSampler.exact).NeverDividesByZero kPartsupp ⟨1⟩ ⟨[]⟩
        PartSuppCursor.supplierKeyMaxValue ∧
      (Table.lineitemGenerator IntSampler.exact).NeverDividesByZero kLineitem ⟨1⟩ ⟨[]⟩
        LineitemCursor.supplierKeyMaxValue) ↔ (1 : ℚ) < 1 / 1500000 ∨ (1 : ℚ) / 10000 ≤ 1 :=
  supplierDivisor_iff IntSampler.exact ⟨[]⟩ (by norm_num)

end

/-- At scale factor 1/20000 there are ten parts and half a supplier. -/
theorem partSupp_dividesByZero :
    ¬ (Table.partSuppGenerator IntSampler.exact).NeverDividesByZero kPartsupp ⟨(1 / 20000 : ℚ)⟩ ⟨[]⟩
      PartSuppCursor.supplierKeyMaxValue := by
  rw [partSupp_neverDividesByZero_iff IntSampler.exact ⟨[]⟩ (by norm_num)]
  norm_num

end Schengen.Tables
