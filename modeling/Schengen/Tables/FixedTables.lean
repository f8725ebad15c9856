import Schengen.Tables.PartRows

/-!
# The fixed tables at any scale

The lists of the regions and the nations are clamped at their end, but the range of rows is cut
from the scaled row count. Below scale factor 1 the count is too small for the list.
-/

namespace Schengen.Tables
open Library Schengen.Random

/-- The rows of all parts are the regions, each once and in order. -/
def RegionsComplete (sampler : IntSampler) (sf : ℚ) (textPool : TextPool) (n : Nat)
    (sizes : Nat → Nat → Nat) : Prop :=
  ∃ rows : List RegionRow,
    (Table.regionGenerator sampler).PartsRows kRegion ⟨sf⟩ textPool n sizes rows ∧
      rows.map RegionRow.rRegionkey = [0, 1, 2, 3, 4] ∧
      rows.map RegionRow.rName = RegionStreams.kRegionNames

/-- The rows of all parts are the nations, each once and in order. -/
def NationsComplete (sampler : IntSampler) (sf : ℚ) (textPool : TextPool) (n : Nat)
    (sizes : Nat → Nat → Nat) : Prop :=
  ∃ rows : List NationRow,
    (Table.nationGenerator sampler).PartsRows kNation ⟨sf⟩ textPool n sizes rows ∧
      rows.map NationRow.nNationkey = (List.range 25).map (fun key : Nat => (key : Int)) ∧
      rows.map NationRow.nName = kNations.map DistributionEntry.token

/-- The scaled count covers the list from scale factor 1 on. -/
lemma rowsAtSf1_le_rowCount (table : TableMetadata) (hpos : 0 < table.rowsAtSf1) {sf : ℚ} :
    table.rowsAtSf1 ≤ ScaleConfig.rowCount ⟨sf⟩ table ↔ 1 ≤ sf := by
  have hcount : (0 : ℚ) < table.rowsAtSf1 := Nat.cast_pos.mpr hpos
  have hfloor : (table.rowsAtSf1 : Int) ≤ scaled table.rowsAtSf1 sf ↔ 1 ≤ sf := by
    rw [scaled_exact, Rat.le_floor_iff, Int.cast_natCast, le_mul_iff_one_le_right hcount]
  rw [← hfloor]
  change table.rowsAtSf1 ≤ (scaled table.rowsAtSf1 sf).toNat ↔ _
  omega

variable (sampler : IntSampler) (textPool : TextPool) {sf : ℚ} {n : Nat} {sizes : Nat → Nat → Nat}

lemma emitsKeys_region (scale : ScaleConfig) :
    (Table.regionGenerator sampler).EmitsKeys kRegion scale textPool
      (fun row : RegionRow => (row.rRegionkey, row.rName))
      (fun r => [(toInt32 r, RegionStreams.kRegionNames.getD r "")])
      (fun n i => min (partitionBound (scale.rowCount kRegion) n i) RegionStreams.kRegionCount) := by
  have hkey : ∀ r s, ((RegionStreams.read sampler r s).1.rRegionkey,
      (RegionStreams.read sampler r s).1.rName) = (toInt32 r, RegionStreams.kRegionNames.getD r "") := by
    intro r s
    simp only [RegionStreams.read]
  exact TableGenerator.emitsKeys_ofCursor kRegion scale textPool hkey
    (TableGenerator.monotone_min _) (TableGenerator.clamp_min _)

lemma emitsKeys_nation (scale : ScaleConfig) :
    (Table.nationGenerator sampler).EmitsKeys kNation scale textPool
      (fun row : NationRow => (row.nNationkey, row.nName))
      (fun r => [(toInt32 r, ((kNations[r]?).map DistributionEntry.token).getD "")])
      (fun n i => min (partitionBound (scale.rowCount kNation) n i) NationStreams.kNationCount) := by
  have hkey : ∀ r s, ((NationStreams.read sampler r s).1.nNationkey,
      (NationStreams.read sampler r s).1.nName) =
        (toInt32 r, ((kNations[r]?).map DistributionEntry.token).getD "") := by
    intro r s
    simp only [NationStreams.read]
  exact TableGenerator.emitsKeys_ofCursor kNation scale textPool hkey
    (TableGenerator.monotone_min _) (TableGenerator.clamp_min _)

lemma cut_clamp (totalRows top : Nat) :
    TableGenerator.Cut fun n i => min (partitionBound totalRows n i) top :=
  (TableGenerator.cut_partitionBound totalRows).clamp (TableGenerator.monotone_min top)
    (Nat.zero_min top)

lemma map_pairs {ρ α β : Type} {rows : List ρ} {f : ρ → α} {g : ρ → β} {pairs : List (α × β)}
    (h : rows.map (fun row => (f row, g row)) = pairs) :
    rows.map f = pairs.map Prod.fst ∧ rows.map g = pairs.map Prod.snd := by
  subst h
  simp only [List.map_map]
  exact ⟨rfl, rfl⟩

/-- Rows that are read up to the smaller of the count and the length of the list. -/
lemma clamped_length {ρ κ : Type} {rows : List ρ} {key : ρ → κ} {position : Nat → κ} {count top : Nat}
    (hkeys : rows.map key = (List.range (min count top)).flatMap fun r => [position r])
    (hlength : rows.length = top) : top ≤ count := by
  have h := congrArg List.length hkeys
  rw [← List.map_eq_flatMap, List.length_map, List.length_map, List.length_range, hlength] at h
  omega

/-- All regions are generated from scale factor 1 on, and below it never; and all nations too. -/
theorem fixedTables_complete_iff (hn : 1 ≤ n) (hsizes : ∀ i j, 0 < sizes i j) :
    (RegionsComplete sampler sf textPool n sizes ↔ 1 ≤ sf) ∧
      (NationsComplete sampler sf textPool n sizes ↔ 1 ≤ sf) := by
  obtain ⟨⟨regions, hregions⟩, hregionKeys⟩ :=
    (emitsKeys_region sampler textPool ⟨sf⟩).partsRows (cut_clamp _ _) hn hsizes
  obtain ⟨⟨nations, hnations⟩, hnationKeys⟩ :=
    (emitsKeys_nation sampler textPool ⟨sf⟩).partsRows (cut_clamp _ _) hn hsizes
  rw [partitionBound_self] at hregionKeys hnationKeys
  constructor
  · constructor
    · rintro ⟨rows, hrows, hkeys, -⟩
      have hlength := congrArg List.length hkeys
      rw [List.length_map] at hlength
      have hcovers : kRegion.rowsAtSf1 ≤ ScaleConfig.rowCount ⟨sf⟩ kRegion :=
        clamped_length (hregionKeys rows hrows) hlength
      exact (rowsAtSf1_le_rowCount kRegion (by decide)).mp hcovers
    · intro hsf
      have hcovers : RegionStreams.kRegionCount ≤ ScaleConfig.rowCount ⟨sf⟩ kRegion :=
        (rowsAtSf1_le_rowCount kRegion (by decide)).mpr hsf
      have hkeys := hregionKeys regions hregions
      rw [min_eq_right hcovers] at hkeys
      exact ⟨regions, hregions, (map_pairs hkeys).1.trans (by decide),
        (map_pairs hkeys).2.trans (by decide)⟩
  · constructor
    · rintro ⟨rows, hrows, hkeys, -⟩
      have hlength := congrArg List.length hkeys
      rw [List.length_map, List.length_map, List.length_range] at hlength
      have hcovers : kNation.rowsAtSf1 ≤ ScaleConfig.rowCount ⟨sf⟩ kNation :=
        clamped_length (hnationKeys rows hrows) hlength
      exact (rowsAtSf1_le_rowCount kNation (by decide)).mp hcovers
    · intro hsf
      have hcovers : NationStreams.kNationCount ≤ ScaleConfig.rowCount ⟨sf⟩ kNation :=
        (rowsAtSf1_le_rowCount kNation (by decide)).mpr hsf
      have hkeys := hnationKeys nations hnations
      rw [min_eq_right hcovers] at hkeys
      exact ⟨nations, hnations, (map_pairs hkeys).1.trans (by decide),
        (map_pairs hkeys).2.trans (by decide)⟩

theorem fixedTables_complete_two :
    (RegionsComplete IntSampler.exact 2 ⟨[]⟩ 7 (fun _ _ => 4) ↔ (1 : ℚ) ≤ 2) ∧
      (NationsComplete IntSampler.exact 2 ⟨[]⟩ 7 (fun _ _ => 4) ↔ (1 : ℚ) ≤ 2) :=
  fixedTables_complete_iff IntSampler.exact ⟨[]⟩ (by decide) (fun _ _ => by decide)

/-- Half of the scale: two regions. -/
theorem regions_incomplete_half :
    ¬ RegionsComplete IntSampler.exact (1 / 2) ⟨[]⟩ 1 (fun _ _ => 100) := by
  rintro ⟨rows, hrows, hkeys, -⟩
  have h := ((emitsKeys_region IntSampler.exact ⟨[]⟩ ⟨(1 / 2 : ℚ)⟩).partsRows (cut_clamp _ _) le_rfl
    (fun _ _ => by decide)).2 rows hrows
  have hcount : ScaleConfig.rowCount ⟨(1 / 2 : ℚ)⟩ kRegion = 2 := by decide +kernel
  rw [partitionBound_self, hcount] at h
  have hlength := congrArg List.length hkeys
  rw [List.length_map] at hlength
  have hcovers : 5 ≤ 2 := clamped_length h hlength
  omega

end Schengen.Tables
