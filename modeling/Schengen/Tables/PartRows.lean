import Schengen.Tables.Generators

/-!
# The rows of all parts

What the runs of the parts `1..n` of a table add up to, seen through a key of its rows. The
streams do not matter where the key depends on the position alone.
-/

namespace Schengen.Tables
open Library Schengen.Random

namespace TableGenerator

/-- Reading the parts `1..n` one after the other gives the rows. -/
def PartsRows (g : TableGenerator) (table : TableMetadata) (scale : ScaleConfig)
    (textPool : TextPool) (n : Nat) (sizes : Nat → Nat → Nat) (rows : List g.Row) : Prop :=
  ∃ parts : Nat → List (Batch g.Row),
    (∀ i < n, g.PartRun table scale textPool (sizes i) (i + 1) n (parts i)) ∧
      (List.range n).flatMap (fun i => (parts i).flatMap Batch.rows) = rows

/-- Part `i + 1` of `n` emits rows with the keys of the units from `bound n i` to
`bound n (i + 1)`. -/
def EmitsKeys {κ : Type} (g : TableGenerator) (table : TableMetadata) (scale : ScaleConfig)
    (textPool : TextPool) (key : g.Row → κ) (unit : Nat → List κ) (bound : Nat → Nat → Nat) : Prop :=
  ∀ n i : Nat, i < n → ∃ plan s rows, makePartitionPlan table scale (i + 1) n = .ok plan ∧
    g.reset ⟨scale, plan, textPool⟩ g.fresh = .ok s ∧ g.iterator.Emits s rows ∧
    rows.map key = (List.range' (bound n i) (bound n (i + 1) - bound n i)).flatMap unit

variable {κ : Type} {g : TableGenerator} {table : TableMetadata} {scale : ScaleConfig}
  {textPool : TextPool} {key : g.Row → κ} {unit : Nat → List κ} {bound : Nat → Nat → Nat}

lemma PartRun.unique {sizes : Nat → Nat} {partNum partCount : Int} {batches batches' : List (Batch g.Row)}
    (h : g.PartRun table scale textPool sizes partNum partCount batches)
    (h' : g.PartRun table scale textPool sizes partNum partCount batches') : batches = batches' := by
  obtain ⟨bound, hbound⟩ := h
  obtain ⟨bound', hbound'⟩ := h'
  have hsame := (hbound _ (le_max_left bound bound')).symm.trans (hbound' _ (le_max_right bound bound'))
  exact Option.some.inj (Except.ok.inj hsame)

lemma EmitsUnits.emitsKeys {unit : Nat → List g.Row}
    (h : g.EmitsUnits table scale textPool unit bound) (key : g.Row → κ) :
    g.EmitsKeys table scale textPool key (fun r => (unit r).map key) bound := by
  intro n i hi
  obtain ⟨plan, s, hplan, hreset, hemits⟩ := h n i hi
  exact ⟨plan, s, _, hplan, hreset, hemits, List.map_flatMap⟩

/-- The runs of the parts exist, and their keys are the keys of all units in order. -/
theorem EmitsKeys.partsRows (h : g.EmitsKeys table scale textPool key unit bound) (hcut : Cut bound)
    {n : Nat} (hn : 1 ≤ n) {sizes : Nat → Nat → Nat} (hsizes : ∀ i j, 0 < sizes i j) :
    (∃ rows, g.PartsRows table scale textPool n sizes rows) ∧
      ∀ rows, g.PartsRows table scale textPool n sizes rows →
        rows.map key = (List.range (bound 1 1)).flatMap unit := by
  have hpart : ∀ i, ∃ batches, i < n → g.PartRun table scale textPool (sizes i) (i + 1) n batches ∧
      (batches.flatMap Batch.rows).map key =
        (List.range' (bound n i) (bound n (i + 1) - bound n i)).flatMap unit := by
    intro i
    by_cases hi : i < n
    · obtain ⟨plan, s, rows, hplan, hreset, hemits, hkeys⟩ := h n i hi
      obtain ⟨batches, hrun, hrows, -⟩ := partRun_of_emits hplan hreset hemits (hsizes i)
      exact ⟨batches, fun _ => ⟨hrun, hrows ▸ hkeys⟩⟩
    · exact ⟨[], fun hlt => absurd hlt hi⟩
  choose parts hparts using hpart
  refine ⟨⟨_, parts, fun i hi => (hparts i hi).1, rfl⟩, ?_⟩
  rintro rows ⟨parts', hruns, rfl⟩
  have hsame : ∀ i ∈ List.range n, ((parts' i).flatMap Batch.rows).map key =
      (List.range' (bound n i) (bound n (i + 1) - bound n i)).flatMap unit := by
    intro i hi
    have hlt := List.mem_range.mp hi
    rw [(hruns i hlt).unique (hparts i hlt).1]
    exact (hparts i hlt).2
  rw [List.map_flatMap]
  calc (List.range n).flatMap (fun i => ((parts' i).flatMap Batch.rows).map key)
      = (List.range n).flatMap (fun i =>
          (List.range' (bound n i) (bound n (i + 1) - bound n i)).flatMap unit) :=
        List.flatMap_congr hsame
    _ = (List.range' (bound n 0) (bound n n - bound n 0)).flatMap unit :=
        flatMap_consecutive unit (hcut.mono n) n
    _ = (List.range (bound 1 1)).flatMap unit := by
        rw [hcut.zero hn, hcut.total hn, Nat.sub_zero, List.range_eq_range']

/-- A key that depends on the position alone, whatever the streams are. -/
lemma emitsKeys_ofCursor {σ ρ : Type} [Inhabited σ] {new : GeneratorContext → σ}
    {advanceRows : σ → Nat → σ} {read : Nat → σ → ρ × σ} {rowFinished : σ → σ} {clamp : Nat → Nat}
    {key : ρ → κ} {position : Nat → κ} (table : TableMetadata) (scale : ScaleConfig)
    (textPool : TextPool) (hkey : ∀ r s, key (read r s).1 = position r) (hmono : Monotone clamp)
    (hclamp : ∀ a b, a ≤ b → (if a > clamp b then clamp b else a) = clamp a) :
    (ofCursor new advanceRows read rowFinished clamp).EmitsKeys table scale textPool key
      (fun r => [position r]) (fun n i => clamp (partitionBound (scale.rowCount table) n i)) := by
  intro n i hi
  have hle := partitionBound_mono (scale.rowCount table) n (Nat.le_succ i)
  let plan : PartitionPlan := ⟨⟨partitionBound (scale.rowCount table) n i,
    partitionBound (scale.rowCount table) n (i + 1)⟩, i + 1, n⟩
  obtain ⟨rows, hemits, hkeys⟩ := @RowCursor.emits_keys_reset _ _ (new ⟨scale, plan, textPool⟩)
    advanceRows read rowFinished _ _ _ hkey _ _ _ (hclamp _ _ hle) (hmono hle)
  exact ⟨plan, _, rows, makePartitionPlan_eq table scale hi, rfl, hemits,
    hkeys.trans List.map_eq_flatMap⟩

end TableGenerator

end Schengen.Tables
