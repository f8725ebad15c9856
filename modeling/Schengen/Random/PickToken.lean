import Schengen.Library.CheckedArithmetic
import Schengen.Library.CumulativeSearch
import Schengen.Random.RoundedDraws

/-!
# Picking a token by weight

`SumWeights` and the two copies of `PickToken` with the sums that `std::int32_t` holds, and the loop
with the place where it returns. Weights that are not negative are running totals that stay below
their sum, so the loop returns an entry for every sample below `total_weight`.
-/

namespace Schengen.Random
open Library

/-- `SumWeights`, as long as the sums fit. -/
def sumWeights32 (entries : List DistributionEntry) : Option Int :=
  entries.foldlM (fun sum entry => checked 32 (sum + entry.weight)) 0

/-- How `PickToken` ends: at an entry in its loop, behind the loop, or with a sum that does not
fit. -/
inductive PickExit
  | entry (index : Nat)
  | afterLoop
  | overflow
  deriving DecidableEq

/-- The loop of both copies. -/
def pickLoop (sample : Int) : Int → Nat → List DistributionEntry → PickExit
  | _, _, [] => .afterLoop
  | cumulative, i, entry :: entries =>
    match checked 32 (cumulative + entry.weight) with
    | none => .overflow
    | some cumulative =>
      if sample < cumulative then .entry i else pickLoop sample cumulative (i + 1) entries

/-- The token that is returned, if there is one. -/
def PickExit.token (dist : DistributionView) : PickExit → Option String
  | .entry i => dist.entries[i]?.map DistributionEntry.token
  | .afterLoop => dist.entries[dist.size - 1]?.map DistributionEntry.token
  | .overflow => none

/-- `RandomString::PickToken` -/
def RandomString.pickToken (sampler : IntSampler) (dist : DistributionView)
    (random : RowRandomInt) : PickExit × RowRandomInt :=
  let total := dist.totalWeight
  let (sample, random) := random.nextInt sampler 0 (total - 1)
  (pickLoop sample 0 0 dist.entries, random)

/-- `TextPool::PickToken` -/
def TextPool.pickToken (sampler : IntSampler) (dist : DistributionView)
    (random : RowRandomInt) : PickExit × RowRandomInt :=
  let total := dist.totalWeight
  let (sample, random) := random.nextInt sampler 0 (total - 1)
  (pickLoop sample 0 0 dist.entries, random)

def weightsOf (entries : List DistributionEntry) : List Int := entries.map DistributionEntry.weight

variable {entries : List DistributionEntry} {sample cumulative : Int} {i : Nat}

lemma weightsOf_cons (entry : DistributionEntry) (entries : List DistributionEntry) :
    weightsOf (entry :: entries) = entry.weight :: weightsOf entries := rfl

lemma length_weightsOf : (weightsOf entries).length = entries.length := List.length_map _

lemma foldl_weights (entries : List DistributionEntry) (sum : Int) :
    entries.foldl (fun sum entry => sum + entry.weight) sum = sum + (weightsOf entries).sum := by
  induction entries generalizing sum with
  | nil => exact (add_zero sum).symm
  | cons entry entries ih => rw [List.foldl_cons, ih, weightsOf_cons, List.sum_cons, add_assoc]

lemma sumWeights_eq (entries : List DistributionEntry) :
    sumWeights entries = (weightsOf entries).sum :=
  (foldl_weights entries 0).trans (zero_add _)

lemma weightsOf_nonneg (hweights : ∀ entry ∈ entries, 0 ≤ entry.weight) :
    ∀ weight ∈ weightsOf entries, 0 ≤ weight := by
  intro weight hmem
  obtain ⟨entry, hentry, rfl⟩ := List.mem_map.mp hmem
  exact hweights entry hentry

/-- The next running total fits, and leaves room for the rest. -/
lemma checked_weight {entry : DistributionEntry}
    (hweights : ∀ e ∈ entry :: entries, 0 ≤ e.weight) (hcumulative : 0 ≤ cumulative)
    (hfits : cumulative + (weightsOf (entry :: entries)).sum < 2 ^ 31) :
    checked 32 (cumulative + entry.weight) = some (cumulative + entry.weight) ∧
      0 ≤ cumulative + entry.weight ∧
      cumulative + entry.weight + (weightsOf entries).sum < 2 ^ 31 := by
  obtain ⟨hweight, hrest⟩ := List.forall_mem_cons.mp hweights
  have hsum : 0 ≤ (weightsOf entries).sum := List.sum_nonneg (weightsOf_nonneg hrest)
  rw [weightsOf_cons, List.sum_cons, ← add_assoc] at hfits
  exact ⟨checked_eq ⟨by omega, by omega⟩, by omega, hfits⟩

lemma foldlM_weights (hweights : ∀ entry ∈ entries, 0 ≤ entry.weight)
    (hcumulative : 0 ≤ cumulative) (hfits : cumulative + (weightsOf entries).sum < 2 ^ 31) :
    entries.foldlM (fun sum entry => checked 32 (sum + entry.weight)) cumulative =
      some (cumulative + (weightsOf entries).sum) := by
  induction entries generalizing cumulative with
  | nil => exact congrArg some (add_zero cumulative).symm
  | cons entry entries ih =>
    obtain ⟨hnext, hnonneg, hroom⟩ := checked_weight hweights hcumulative hfits
    rw [List.foldlM_cons, hnext, weightsOf_cons, List.sum_cons, ← add_assoc]
    exact ih (List.forall_mem_cons.mp hweights).2 hnonneg hroom

/-- The loop is the search in the running totals. -/
lemma pickLoop_eq (hweights : ∀ entry ∈ entries, 0 ≤ entry.weight)
    (hcumulative : 0 ≤ cumulative) (hfits : cumulative + (weightsOf entries).sum < 2 ^ 31) :
    pickLoop sample cumulative i entries =
      (cumulativeSearch sample cumulative (weightsOf entries)).elim .afterLoop
        fun k => .entry (i + k) := by
  induction entries generalizing cumulative i with
  | nil => rfl
  | cons entry entries ih =>
    obtain ⟨hnext, hnonneg, hroom⟩ := checked_weight hweights hcumulative hfits
    have hrest := ih (i := i + 1) (List.forall_mem_cons.mp hweights).2 hnonneg hroom
    unfold pickLoop
    rw [hnext, weightsOf_cons]
    dsimp only
    rcases lt_or_ge sample (cumulative + entry.weight) with hhere | hlater
    · rw [if_pos hhere, cumulativeSearch_here hhere]
      rfl
    · rw [if_neg (not_lt.mpr hlater), hrest, cumulativeSearch_later hlater, Option.elim_map]
      simp only [Function.comp_def, Nat.add_right_comm i 1, Nat.add_assoc]

/-- The token that the columns and the text pool are given is the one that is selected. -/
lemma pickEntry_eq (hne : entries ≠ []) :
    some (pickEntry sample cumulative entries) =
      ((cumulativeSearch sample cumulative (weightsOf entries)).elim entries.getLast?
        fun i => entries[i]?).map DistributionEntry.token := by
  induction entries generalizing cumulative with
  | nil => exact absurd rfl hne
  | cons entry entries ih =>
    rw [weightsOf_cons]
    rcases lt_or_ge sample (cumulative + entry.weight) with hhere | hlater
    · rw [cumulativeSearch_here hhere]
      cases entries with
      | nil => rfl
      | cons entry' entries =>
        unfold pickEntry
        rw [if_pos hhere]
        rfl
    · rw [cumulativeSearch_later hlater, Option.elim_map]
      cases entries with
      | nil => rfl
      | cons entry' entries =>
        unfold pickEntry
        rw [if_neg (not_lt.mpr hlater), ih (List.cons_ne_nil _ _), List.getLast?_cons_cons]
        rfl

variable {dist : DistributionView}

lemma pickLoop_start (hweights : ∀ entry ∈ dist.entries, 0 ≤ entry.weight)
    (hfits : dist.totalWeight < 2 ^ 31) :
    pickLoop sample 0 0 dist.entries =
      (cumulativeSearch sample 0 (weightsOf dist.entries)).elim .afterLoop .entry := by
  have hsum : 0 + (weightsOf dist.entries).sum < 2 ^ 31 := by
    rw [zero_add, ← sumWeights_eq]
    exact hfits
  rw [pickLoop_eq hweights le_rfl hsum]
  simp only [Nat.zero_add]

lemma pickLoop_entry_iff (hweights : ∀ entry ∈ dist.entries, 0 ≤ entry.weight)
    (hfits : dist.totalWeight < 2 ^ 31) :
    pickLoop sample 0 0 dist.entries = .entry i ↔
      cumulativeSearch sample 0 (weightsOf dist.entries) = some i := by
  rw [pickLoop_start hweights hfits]
  cases cumulativeSearch sample 0 (weightsOf dist.entries) with
  | none => simp
  | some k => simp

lemma token_pickLoop (hweights : ∀ entry ∈ dist.entries, 0 ≤ entry.weight)
    (hfits : dist.totalWeight < 2 ^ 31) (hne : dist.entries ≠ []) :
    (pickLoop sample 0 0 dist.entries).token dist = some (pickEntry sample 0 dist.entries) := by
  rw [pickLoop_start hweights hfits, pickEntry_eq hne, List.getLast?_eq_getElem?]
  cases cumulativeSearch sample 0 (weightsOf dist.entries) with
  | none => rfl
  | some k => rfl

/-- A sample below the sum selects an entry with a weight. -/
lemma exists_pickLoop (hweights : ∀ entry ∈ dist.entries, 0 ≤ entry.weight)
    (hfits : dist.totalWeight < 2 ^ 31) (hsample : 0 ≤ sample) (hsample' : sample < dist.totalWeight) :
    ∃ i entry, pickLoop sample 0 0 dist.entries = .entry i ∧ dist.entries[i]? = some entry ∧
      0 < entry.weight := by
  have hnonneg := weightsOf_nonneg hweights
  have hsum : dist.totalWeight = (weightsOf dist.entries).sum := sumWeights_eq dist.entries
  obtain ⟨i, hfound⟩ := Option.ne_none_iff_exists'.mp fun hnone =>
    absurd ((cumulativeSearch_eq_none_iff hnonneg hsample).mp hnone) (by omega)
  obtain ⟨hi, hlow, hhigh⟩ := (cumulativeSearch_eq_some_iff hnonneg hsample).mp hfound
  have hnext := List.sum_take_succ (weightsOf dist.entries) i hi
  have hi' : i < dist.entries.length := by rwa [length_weightsOf] at hi
  have hweight : (weightsOf dist.entries)[i] = dist.entries[i].weight := List.getElem_map _
  exact ⟨i, dist.entries[i], (pickLoop_entry_iff hweights hfits).mpr hfound,
    List.getElem?_eq_getElem hi', by omega⟩

/-- Every entry is selected by as many samples as its weight says, the loop returns an entry for every
sample, and the two copies agree, draw once and give the token that the columns and the texts have. -/
structure SamplesByWeight (dist : DistributionView) : Prop where
  total : sumWeights32 dist.entries = some dist.totalWeight
  counted : ∀ i entry, dist.entries[i]? = some entry →
    (((Finset.Ico 0 dist.totalWeight).filter fun sample =>
      pickLoop sample 0 0 dist.entries = .entry i).card : Int) = entry.weight
  zeroWeight : ∀ i entry, dist.entries[i]? = some entry → entry.weight = 0 →
    ∀ sample, 0 ≤ sample → sample < dist.totalWeight → pickLoop sample 0 0 dist.entries ≠ .entry i
  inLoop : ∀ sample, 0 ≤ sample → sample < dist.totalWeight →
    ∃ i entry, pickLoop sample 0 0 dist.entries = .entry i ∧ dist.entries[i]? = some entry
  copies : ∀ sampler random,
    RandomString.pickToken sampler dist random = TextPool.pickToken sampler dist random
  token : ∀ sampler random,
    (RandomString.pickToken sampler dist random).1.token dist =
      some (pickToken sampler dist random).1
  oneDraw : ∀ sampler random,
    (RandomString.pickToken sampler dist random).2 = random.nextRand ∧
      (TextPool.pickToken sampler dist random).2 = random.nextRand
  drawn : ∀ sampler random, random.SeedInRange →
    ∃ i entry, (RandomString.pickToken sampler dist random).1 = .entry i ∧
      dist.entries[i]? = some entry ∧ 0 < entry.weight

/-- `PickToken` samples by weight. -/
theorem pickToken_samplesByWeight (dist : DistributionView)
    (hweights : ∀ entry ∈ dist.entries, 0 ≤ entry.weight) (hpos : 0 < dist.totalWeight)
    (hfits : dist.totalWeight < 2 ^ 31) : SamplesByWeight dist where
  total := by
    have hsum : dist.totalWeight = 0 + (weightsOf dist.entries).sum :=
      foldl_weights dist.entries 0
    rw [hsum] at hfits ⊢
    exact foldlM_weights hweights le_rfl hfits
  counted i entry hentry := by
    obtain ⟨hi, rfl⟩ := List.getElem?_eq_some_iff.mp hentry
    have hsum : dist.totalWeight = (weightsOf dist.entries).sum := sumWeights_eq dist.entries
    have hcard := card_cumulativeSearch (weightsOf_nonneg hweights)
      (show i < (weightsOf dist.entries).length by rwa [length_weightsOf])
    simp only [pickLoop_entry_iff hweights hfits]
    rw [hsum, hcard]
    exact List.getElem_map _
  zeroWeight i entry hentry hzero sample hsample hsample' hpick := by
    obtain ⟨j, other, hpick', hother, hpositive⟩ :=
      exists_pickLoop hweights hfits hsample hsample'
    obtain rfl := PickExit.entry.inj (hpick.symm.trans hpick')
    obtain rfl := Option.some.inj (hentry.symm.trans hother)
    exact hpositive.ne' hzero
  inLoop sample hsample hsample' := by
    obtain ⟨i, entry, hpick, hentry, _⟩ := exists_pickLoop hweights hfits hsample hsample'
    exact ⟨i, entry, hpick, hentry⟩
  copies _ _ := rfl
  token sampler random := by
    have hne : dist.entries ≠ [] := by
      intro hnil
      rw [show dist.totalWeight = 0 by
        rw [DistributionView.totalWeight, hnil]; rfl] at hpos
      exact absurd hpos (lt_irrefl 0)
    exact token_pickLoop hweights hfits hne
  oneDraw _ _ := ⟨rfl, rfl⟩
  drawn sampler random hseed := by
    obtain ⟨hsample, hsample'⟩ := RowRandomInt.nextInt_mem sampler hseed
      (show 0 ≤ dist.totalWeight - 1 by omega) (by omega)
    exact exists_pickLoop hweights hfits hsample (Int.lt_of_le_sub_one hsample')

theorem pickToken_samplesByWeight_terminators : SamplesByWeight kTerminatorsDist :=
  pickToken_samplesByWeight kTerminatorsDist (by decide) (by decide) (by decide)

end Schengen.Random
