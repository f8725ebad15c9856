import Schengen.Tables.PartRows

/-!
# The rows of a table

A table is made of units, and the generator of a part hands out those between two bounds. So the
parts of any number, read in batches of any size, are the rows of the table in their order.
-/

namespace Schengen.Tables
open Library Schengen.Random

namespace TableGenerator

variable {g : TableGenerator} {table : TableMetadata} {scale : ScaleConfig} {textPool : TextPool}
  {unit : Nat → List g.Row} {bound : Nat → Nat → Nat}

/-- All units, in the order of their numbers. -/
def unitRows (unit : Nat → List g.Row) (bound : Nat → Nat → Nat) : List g.Row :=
  (List.range' 0 (bound 1 1)).flatMap unit

/-- The parts of a run, one after the other, are the whole table. -/
lemma EmitsUnits.rows_of_parts (h : g.EmitsUnits table scale textPool unit bound)
    (hcut : Cut bound) {n : Nat} (hn : 1 ≤ n) {sizes : Nat → Nat} (hsizes : ∀ j, 0 < sizes j)
    {parts : Nat → List (Batch g.Row)}
    (hparts : ∀ i < n, g.PartRun table scale textPool sizes (i + 1) n (parts i)) :
    (List.range n).flatMap (fun i => (parts i).flatMap Batch.rows) = unitRows unit bound := by
  have hkeys := ((h.emitsKeys id).partsRows hcut hn fun _ => hsizes).2 _ ⟨parts, hparts, rfl⟩
  simp only [List.map_id_fun, id] at hkeys
  rw [hkeys, List.range_eq_range']
  rfl

end TableGenerator

namespace Table
open TableGenerator

/-- Every table is made of units, in the mode of the 32-bit generator. -/
lemma exists_units (sampler : IntSampler) (table : Table) (textPool : TextPool) {sf : ScaleFactor}
    (hmax : sf.value < 30000) : ∃ unit bound,
      (table.generator sampler).EmitsUnits table.metadata ⟨sf⟩ textPool unit bound ∧ Cut bound := by
  have hcut : ∀ table : TableMetadata, Cut (partitionBound (ScaleConfig.rowCount ⟨sf⟩ table)) :=
    fun table => cut_partitionBound _
  cases table with
  | region =>
    exact ⟨_, _, emitsUnits_ofCursor kRegion (fun _ => rfl) (RegionStreams.advanceRows_zero textPool)
      (RegionStreams.finish_read sampler textPool) (monotone_min _) (clamp_min _),
      (hcut kRegion).clamp (monotone_min _) (Nat.zero_min _)⟩
  | nation =>
    exact ⟨_, _, emitsUnits_ofCursor kNation (fun _ => rfl) (NationStreams.advanceRows_zero textPool)
      (NationStreams.finish_read sampler textPool) (monotone_min _) (clamp_min _),
      (hcut kNation).clamp (monotone_min _) (Nat.zero_min _)⟩
  | supplier =>
    exact ⟨_, _, emitsUnits_ofCursor kSupplier (fun _ => rfl)
      (SupplierStreams.advanceRows_zero textPool) (SupplierStreams.finish_read sampler textPool)
      monotone_id clamp_id, hcut kSupplier⟩
  | part =>
    exact ⟨_, _, emitsUnits_ofCursor kPart (fun _ => rfl) (PartStreams.advanceRows_zero textPool)
      (PartStreams.finish_read sampler textPool) monotone_id clamp_id, hcut kPart⟩
  | partsupp => exact ⟨_, _, emitsUnits_partSupp sampler ⟨sf⟩ textPool, hcut kPart⟩
  | customer =>
    exact ⟨_, _, emitsUnits_ofCursor kCustomer (fun _ => rfl)
      (CustomerStreams.advanceRows_zero textPool) (CustomerStreams.finish_read sampler textPool)
      monotone_id clamp_id, hcut kCustomer⟩
  | orders =>
    exact ⟨_, _, emitsUnits_ofCursor kOrders (fun _ => rfl)
      (OrderStreams.advanceRows_zero textPool hmax) (OrderStreams.finish_read sampler textPool hmax)
      monotone_id clamp_id, hcut kOrders⟩
  | lineitem => exact ⟨_, _, emitsUnits_lineitem sampler ⟨sf⟩ textPool hmax, hcut kOrders⟩

end Table

end Schengen.Tables
