import Schengen.Library.CheckedArithmetic
import Schengen.Library.Runs
import Schengen.Random.RowRandomInt

/-!
# Skipping ahead

`RowRandomInt` with the arithmetic of the machine, undefined where a result does not fit its type.
Rows that are drawn and finished one after the other lead where the skip leads, and every product
on the way fits 64 bits.
-/

namespace Schengen.Random
open Library Function

namespace RowRandomInt

/-! ## The arithmetic of the machine -/

/-- `(x * y) % kModulus` -/
def mulMod64 (x y : Int) : Option Int := (checked 64 (x * y)).bind fun p => checkedMod 64 p kModulus

def nextRand64 (g : RowRandomInt) : Option RowRandomInt :=
  (mulMod64 g.seed kMultiplier).bind fun seed =>
    (checked 32 (g.usage + 1)).map fun usage => { g with seed := seed, usage := usage.toNat }

def advanceSeed64 (g : RowRandomInt) (count : Nat) : Option RowRandomInt :=
  (squareMultiplyPartial (fun m => mulMod64 m m) mulMod64 kMultiplier g.seed count).map fun seed =>
    { g with seed := seed }

def rowFinished64 (g : RowRandomInt) : Option RowRandomInt :=
  (if g.usage < g.seedsPerRow then g.advanceSeed64 (g.seedsPerRow - g.usage) else some g).map fun g =>
    { g with usage := 0 }

def advanceRows64 (g : RowRandomInt) (rowCount : Nat) : Option RowRandomInt :=
  (if g.usage ≠ 0 then g.rowFinished64 else some g).bind fun g =>
    (checked 64 (g.seedsPerRow * rowCount)).bind fun count =>
      if 0 < count then g.advanceSeed64 count.toNat else some g

/-- `u` calls of `NextRand`. -/
def draw64 : Nat → RowRandomInt → Option RowRandomInt
  | 0, g => some g
  | u + 1, g => g.nextRand64.bind (draw64 u)

/-- For each row its draws and then `RowFinished`. -/
def drawRows64 : List Nat → RowRandomInt → Option RowRandomInt
  | [], g => some g
  | u :: us, g => (draw64 u g).bind fun g => g.rowFinished64.bind (drawRows64 us)

lemma mulMod64_eq {x y : Int} (hx : 0 ≤ x ∧ x < kModulus) (hy : 0 ≤ y ∧ y < kModulus) :
    mulMod64 x y = some ((x * y).tmod kModulus) := by
  have hpos : 0 ≤ x * y := mul_nonneg hx.1 hy.1
  have hlt : x * y < kModulus * kModulus :=
    mul_lt_mul'' hx.2 hy.2 hx.1 hy.1
  have hfits : Fits 64 (x * y) := by
    unfold kModulus at hlt
    exact ⟨by omega, by omega⟩
  unfold mulMod64
  rw [checked_eq hfits, Option.bind_some, checkedMod_eq hpos (by decide) hfits,
    Int.tmod_eq_emod_of_nonneg hpos]

lemma tmod_mem {x : Int} (hx : 0 ≤ x) : 0 ≤ x.tmod kModulus ∧ x.tmod kModulus < kModulus :=
  ⟨Int.tmod_nonneg _ hx, Int.tmod_lt_of_pos _ (by decide)⟩

variable {g t : RowRandomInt}

lemma nextRand64_eq (h : g.SeedInRange) (husage : g.usage + 1 < 2 ^ 31) :
    g.nextRand64 = some g.nextRand := by
  have hfits : Fits 32 ((g.usage : Int) + 1) := ⟨by omega, by omega⟩
  unfold nextRand64
  rw [mulMod64_eq h (by decide), Option.bind_some, checked_eq hfits]
  rfl

lemma advanceSeed64_eq (h : g.SeedInRange) (count : Nat) :
    g.advanceSeed64 count = some (g.advanceSeed count) := by
  have hloop := @squareMultiplyPartial_eq _ _ squareMultiplier multiplySeed
    (fun m => 0 ≤ m ∧ m < kModulus) (fun x => 0 ≤ x ∧ x < kModulus)
    (fun m => mulMod64 m m) mulMod64
    (fun m hm => tmod_mem (mul_nonneg hm.1 hm.1)) (fun m x hm hx => tmod_mem (mul_nonneg hm.1 hx.1))
    (fun m hm => mulMod64_eq hm hm) (fun m x hm hx => mulMod64_eq hm hx)
    _ (show 0 ≤ kMultiplier ∧ kMultiplier < kModulus by decide) _ h count
  unfold advanceSeed64
  rw [hloop]
  rfl

lemma rowFinished64_eq (h : g.SeedInRange) : g.rowFinished64 = some g.rowFinished := by
  unfold rowFinished64 rowFinished
  by_cases hleft : g.usage < g.seedsPerRow
  · rw [if_pos hleft, if_pos hleft, advanceSeed64_eq h, Option.map_some]
  · rw [if_neg hleft, if_neg hleft, Option.map_some]

lemma seedsPerRow_rowFinished (g : RowRandomInt) : g.rowFinished.seedsPerRow = g.seedsPerRow := by
  rw [rowFinished_eq]

lemma usage_rowFinished (g : RowRandomInt) : g.rowFinished.usage = 0 := rfl

/-- In the middle of a row the skip finishes the row first. -/
lemma advanceRows_of_usage (husage : g.usage ≠ 0) (rowCount : Nat) :
    g.advanceRows rowCount = g.rowFinished.advanceRows rowCount := by
  unfold advanceRows
  rw [if_pos husage, usage_rowFinished, if_neg (not_not.mpr rfl)]

/-- Only the number of the seeds to skip can overflow. -/
lemma advanceRows64_eq_map (h : g.SeedInRange) (rowCount : Nat) :
    g.advanceRows64 rowCount =
      (checked 64 ((g.seedsPerRow : Int) * rowCount)).map fun _ => g.advanceRows rowCount := by
  have hstart : (if g.usage ≠ 0 then g.rowFinished64 else some g) =
      some (if g.usage ≠ 0 then g.rowFinished else g) := by
    split
    · exact rowFinished64_eq h
    · rfl
  have hseed : (if g.usage ≠ 0 then g.rowFinished else g).SeedInRange := by
    split
    · exact seedInRange_rowFinished h
    · exact h
  have hsame : (if g.usage ≠ 0 then g.rowFinished else g).seedsPerRow = g.seedsPerRow := by
    split
    · exact seedsPerRow_rowFinished g
    · rfl
  unfold advanceRows64 advanceRows
  rw [hstart, Option.bind_some]
  generalize (if g.usage ≠ 0 then g.rowFinished else g) = start at hseed hsame ⊢
  dsimp only
  rw [hsame, checked]
  split
  · rw [Option.bind_some, Option.map_some]
    by_cases hpos : 0 < g.seedsPerRow * rowCount
    · rw [if_pos (by exact_mod_cast hpos), if_pos hpos, advanceSeed64_eq hseed]
      norm_cast
    · rw [if_neg (by exact_mod_cast hpos), if_neg hpos]
  · rfl

lemma advanceRows64_eq (h : g.SeedInRange) {rowCount : Nat}
    (hcount : g.seedsPerRow * rowCount < 2 ^ 63) :
    g.advanceRows64 rowCount = some (g.advanceRows rowCount) := by
  have hcast : (g.seedsPerRow : Int) * rowCount < 2 ^ 63 := by exact_mod_cast hcount
  have hpos : (0 : Int) ≤ g.seedsPerRow * rowCount := by positivity
  rw [advanceRows64_eq_map h, checked_eq ⟨by omega, by omega⟩, Option.map_some]

lemma draw64_eq (h : g.SeedInRange) {u : Nat} (husage : g.usage + u < 2 ^ 31) :
    draw64 u g = some (nextRand^[u] g) := by
  induction u generalizing g with
  | zero => rfl
  | succ u ih =>
    have hnext : g.nextRand.SeedInRange := nextSeed_iterate_mem h 1
    have hless : g.nextRand.usage + u < 2 ^ 31 := by
      change g.usage + 1 + u < 2 ^ 31
      omega
    rw [draw64, nextRand64_eq h (by omega), Option.bind_some, ih hnext hless, iterate_succ_apply]

/-- However many draws the rest of the budget allows, the row ends at the same seed. -/
lemma rowFinished_draws {u : Nat} (hbudget : g.usage + u ≤ g.seedsPerRow) :
    (nextRand^[u] g).rowFinished = g.rowFinished := by
  rw [nextRand_iterate, rowFinished_eq, rowFinished_eq, ← iterate_add_apply]
  congr 2
  change g.seedsPerRow - (g.usage + u) + u = g.seedsPerRow - g.usage
  omega

/-- The draws of one row and its end. -/
lemma drawRows64_cons (h : g.SeedInRange) (hk : g.seedsPerRow < 2 ^ 31) {u : Nat}
    (hbudget : g.usage + u ≤ g.seedsPerRow) (us : List Nat) :
    drawRows64 (u :: us) g = drawRows64 us g.rowFinished := by
  have hdrawn : (nextRand^[u] g).SeedInRange := by
    rw [nextRand_iterate]
    exact nextSeed_iterate_mem h u
  rw [drawRows64, draw64_eq h (by omega), Option.bind_some, rowFinished64_eq hdrawn,
    Option.bind_some, rowFinished_draws hbudget]

/-- Drawing and finishing row after row is skipping. -/
lemma drawRows64_eq (h : g.SeedInRange) (hk : g.seedsPerRow < 2 ^ 31) (hfresh : g.usage = 0)
    {us : List Nat} (hus : ∀ u ∈ us, u ≤ g.seedsPerRow) :
    drawRows64 us g = some (g.advanceRows us.length) := by
  induction us generalizing g with
  | nil => rw [drawRows64, List.length_nil, advanceRows_zero hfresh]
  | cons u us ih =>
    obtain ⟨hu, hus⟩ := List.forall_mem_cons.mp hus
    have hrow : g.rowFinished = g.advanceRows 1 := (Drawn.refl hfresh).rowFinished (Nat.zero_le _)
    have hsame := seedsPerRow_rowFinished g
    rw [drawRows64_cons h hk (by omega), ih (seedInRange_rowFinished h) (hsame ▸ hk)
      (usage_rowFinished g) (hsame ▸ hus), hrow, advanceRows_add hfresh, List.length_cons,
      Nat.add_comm]

/-! ## Runs -/

inductive Call
  | nextRand
  | rowFinished
  | advanceRows (rowCount : Nat)

def call64 (g : RowRandomInt) : Call → Option RowRandomInt
  | .nextRand => g.nextRand64
  | .rowFinished => g.rowFinished64
  | .advanceRows rowCount => g.advanceRows64 rowCount

/-- Every call goes some steps on in the sequence of the seeds. -/
lemma call64_seed (h : g.SeedInRange) {c : Call} (hc : g.call64 c = some t) :
    ∃ m, t.seed = nextSeed^[m] g.seed := by
  cases c with
  | nextRand =>
    unfold call64 nextRand64 at hc
    rw [mulMod64_eq h (by decide), Option.bind_some] at hc
    obtain ⟨usage, -, rfl⟩ := Option.map_eq_some_iff.mp hc
    exact ⟨1, rfl⟩
  | rowFinished =>
    obtain rfl := Option.some.inj ((rowFinished64_eq h).symm.trans hc)
    exact ⟨_, by rw [rowFinished_eq]⟩
  | advanceRows rowCount =>
    rw [call64, advanceRows64_eq_map h] at hc
    obtain ⟨-, -, rfl⟩ := Option.map_eq_some_iff.mp hc
    by_cases husage : g.usage = 0
    · exact ⟨_, by rw [advanceRows_eq husage]⟩
    · refine ⟨g.seedsPerRow * rowCount + (g.seedsPerRow - g.usage), ?_⟩
      rw [advanceRows_of_usage husage, advanceRows_eq (usage_rowFinished g), rowFinished_eq,
        iterate_add_apply]

lemma call64_seedInRange (h : g.SeedInRange) {c : Call} (hc : g.call64 c = some t) : t.SeedInRange := by
  obtain ⟨m, hm⟩ := call64_seed h hc
  unfold SeedInRange
  rw [hm]
  exact nextSeed_iterate_mem h m

lemma exec_seedInRange (h : g.SeedInRange) {calls : List Call} (hrun : exec call64 g calls = some t) :
    t.SeedInRange :=
  Reachable.invariant h (fun _ _ _ hs hc => call64_seedInRange hs hc) ⟨calls, hrun⟩

/-- The modulus is prime, so a seed that is not zero does not become zero. -/
lemma exec_seed_pos (h : 0 < g.seed ∧ g.seed < kModulus) {calls : List Call}
    (hrun : exec call64 g calls = some t) : 0 < t.seed ∧ t.seed < kModulus := by
  refine Reachable.invariant (I := fun s : RowRandomInt => 0 < s.seed ∧ s.seed < kModulus) h ?_
    ⟨calls, hrun⟩
  intro s c u hs hc
  obtain ⟨m, hm⟩ := call64_seed ⟨hs.1.le, hs.2⟩ hc
  rw [hm]
  exact ⟨nextSeed_iterate_pos hs m, (nextSeed_iterate_mem ⟨hs.1.le, hs.2⟩ m).2⟩

/-- Both ways lead to the same generator, and none of their steps is undefined. -/
def SameSkip (g : RowRandomInt) (draws : List Nat) (rowCount : Nat) : Prop :=
  ∃ t, drawRows64 draws g = some t ∧ g.advanceRows64 rowCount = some t

/-- Skipping rows is drawing and finishing them, from the start of a row and from the middle of one;
skipping seeds is drawing them; no product overflows, and no seed becomes zero. -/
theorem skipAhead (hseed : 0 ≤ g.seed ∧ g.seed < 2147483647) (hk : g.seedsPerRow < 2 ^ 31) :
    (∀ us : List Nat, (∀ u ∈ us, u ≤ g.seedsPerRow) → g.seedsPerRow * us.length < 2 ^ 63 →
      (g.usage = 0 → SameSkip g us us.length) ∧
      (g.usage ≠ 0 → ∀ u, g.usage + u ≤ g.seedsPerRow → SameSkip g (u :: us) us.length)) ∧
    (∀ count, g.advanceSeed64 count = some { g with seed := (nextRand^[count] g).seed }) ∧
    ∀ calls t, exec call64 g calls = some t →
      (g.seed ≠ 0 → 1 ≤ t.seed ∧ t.seed ≤ 2147483646) ∧
        (mulMod64 t.seed kMultiplier).isSome ∧ ∀ count, (t.advanceSeed64 count).isSome := by
  have h : g.SeedInRange := hseed
  refine ⟨fun us hus hcount => ⟨fun hfresh => ?_, fun husage u hu => ?_⟩, fun count => ?_,
    fun calls t hrun => ⟨fun hne => ?_, ?_, fun count => ?_⟩⟩
  · exact ⟨_, drawRows64_eq h hk hfresh hus, advanceRows64_eq h hcount⟩
  · have hsame := seedsPerRow_rowFinished g
    refine ⟨_, ?_, advanceRows64_eq h hcount⟩
    rw [drawRows64_cons h hk hu, drawRows64_eq (seedInRange_rowFinished h) (hsame ▸ hk)
      (usage_rowFinished g) (hsame ▸ hus), advanceRows_of_usage husage]
  · rw [advanceSeed64_eq h, advanceSeed_eq, nextRand_iterate]
  · have hpos := exec_seed_pos ⟨by omega, h.2⟩ hrun
    unfold kModulus at hpos
    omega
  · rw [mulMod64_eq (exec_seedInRange h hrun) (by decide)]
    rfl
  · rw [advanceSeed64_eq (exec_seedInRange h hrun)]
    rfl

theorem skipAhead_default :
    SameSkip ⟨19620718, 0, 3⟩ [1, 0, 3] 3 ∧ SameSkip ⟨19620718, 2, 3⟩ [1, 2] 1 :=
  ⟨((skipAhead (by decide) (by decide)).1 [1, 0, 3] (by decide) (by decide)).1 rfl,
    ((skipAhead (by decide) (by decide)).1 [2] (by decide) (by decide)).2 (by decide) 1 (by decide)⟩

end RowRandomInt

end Schengen.Random
