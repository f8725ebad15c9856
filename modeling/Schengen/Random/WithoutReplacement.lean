import Mathlib.Data.List.GetD
import Schengen.Library.PartialShuffle
import Schengen.Random.Streams

/-!
# Drawing without replacement

`RandomStringSequence` shuffles the tokens of its distribution as far as it needs them. What it
returns are the tokens at different positions, and with the right draws it returns any of them in any
order.
-/

namespace Schengen.Random
open Library Function

lemma swap_eq (values : List String) (i j : Nat) : swap values i j = values.swap i j := by
  rw [List.swap_eq, swap]
  split
  · next x y hx hy =>
    obtain ⟨hi, rfl⟩ := List.getElem?_eq_some_iff.mp hx
    obtain ⟨hj, rfl⟩ := List.getElem?_eq_some_iff.mp hy
    rw [dif_pos ⟨hi, hj⟩]
  · next hnone =>
    rw [dif_neg]
    rintro ⟨hi, hj⟩
    exact hnone _ _ (List.getElem?_eq_getElem hi) (List.getElem?_eq_getElem hj)

namespace RandomStringSequence

/-- The indices that the loop draws. -/
def swapIndices (sampler : IntSampler) (size current : Nat) (random : RowRandomInt) : Nat → List Int
  | 0 => []
  | remaining + 1 =>
    (random.nextInt sampler current (size - 1)).1 ::
      swapIndices sampler size (current + 1) random.nextRand remaining

variable {sampler : IntSampler}

lemma length_swapIndices (size current : Nat) (random : RowRandomInt) (remaining : Nat) :
    (swapIndices sampler size current random remaining).length = remaining := by
  induction remaining generalizing current random with
  | zero => rfl
  | succ remaining ih => exact congrArg Nat.succ (ih (current + 1) _)

lemma shuffle_succ (current : Nat) (values : List String) (random : RowRandomInt) (remaining : Nat) :
    shuffle sampler current values random (remaining + 1) =
      shuffle sampler (current + 1)
        (swap values current (random.nextInt sampler current (values.length - 1)).1.toNat)
        random.nextRand remaining := rfl

/-- The loop is the partial shuffle with the drawn indices. -/
lemma shuffle_eq (current : Nat) (values : List String) (random : RowRandomInt) (remaining : Nat) :
    shuffle sampler current values random remaining =
      (partialShuffle current
          ((swapIndices sampler values.length current random remaining).map Int.toNat) values,
        RowRandomInt.nextRand^[remaining] random) := by
  induction remaining generalizing current values random with
  | zero => rfl
  | succ remaining ih =>
    rw [shuffle_succ, ih, swap_eq, List.length_swap, iterate_succ_apply]
    rfl

/-- Every index drawn lies between the current position and the end. -/
lemma swapIndices_mem (h : sampler.Bounded) {size current remaining : Nat}
    (hroom : current + remaining ≤ size) (random : RowRandomInt) :
    ∀ i (hi : i < (swapIndices sampler size current random remaining).length),
      ((current + i : Nat) : Int) ≤ (swapIndices sampler size current random remaining)[i] ∧
        (swapIndices sampler size current random remaining)[i] < size := by
  induction remaining generalizing current random with
  | zero =>
    intro i hi
    exact absurd hi (Nat.not_lt_zero i)
  | succ remaining ih =>
    intro i hi
    cases i with
    | zero =>
      have hmem := h (random.nextRand.seed) current (size - 1) (by omega)
      exact ⟨hmem.1, Int.lt_of_le_sub_one hmem.2⟩
    | succ i =>
      have hnext := @ih (current + 1) (by omega) random.nextRand i (Nat.lt_of_succ_lt_succ hi)
      rw [Nat.add_assoc, Nat.add_comm 1 i] at hnext
      exact hnext

/-! ## The choice of the positions -/

/-- The number of tokens that are returned. -/
def limit (s : RandomStringSequence) : Nat := min s.params.count.toNat s.params.distribution.size

/-- Different positions of the distribution, as many as tokens are returned. -/
structure Choice (s : RandomStringSequence) (positions : List Nat) : Prop where
  count : positions.length = s.limit
  distinct : positions.Nodup
  inside : ∀ p ∈ positions, p < s.params.distribution.size

def tokensAt (s : RandomStringSequence) (positions : List Nat) : List String :=
  positions.map fun p => (s.params.distribution.entries.map DistributionEntry.token).getD p ""

/-- The indices that a row draws. -/
def rowIndices (sampler : IntSampler) (s : RandomStringSequence) : List Int :=
  swapIndices sampler s.params.distribution.size 0 s.inner s.limit

variable (sampler) in
/-- The positions that a row shuffles to the front. -/
def rowPositions (s : RandomStringSequence) : List Nat :=
  (partialShuffle 0 ((s.rowIndices sampler).map Int.toNat)
    (List.range s.params.distribution.size)).take s.limit

lemma map_getD_range (tokens : List String) :
    (List.range tokens.length).map (fun p => tokens.getD p "") = tokens := by
  apply List.ext_getElem
  · rw [List.length_map, List.length_range]
  · intro i hi hi'
    rw [List.getElem_map, List.getElem_range, List.getD_eq_getElem _ _ hi']

variable (sampler) in
lemma nextValue_eq (s : RandomStringSequence) :
    nextValue sampler s = (s.tokensAt (s.rowPositions sampler),
      { s with inner := RowRandomInt.nextRand^[s.limit] s.inner }) := by
  unfold nextValue rowPositions tokensAt
  by_cases hnone : s.params.distribution.size = 0 ∨ s.params.count ≤ 0
  · have hlimit : s.limit = 0 := by
      unfold limit
      omega
    rw [if_pos hnone, hlimit, List.take_zero]
    rfl
  · have hsize : s.params.distribution.size =
        (s.params.distribution.entries.map DistributionEntry.token).length :=
      (List.length_map _).symm
    have hlimit : min s.params.count.toNat
        (s.params.distribution.entries.map DistributionEntry.token).length = s.limit := by
      rw [← hsize]
      rfl
    rw [if_neg hnone]
    dsimp only
    rw [hlimit, shuffle_eq, List.map_take, ← partialShuffle_map, hsize, map_getD_range, rowIndices,
      hsize]

/-- The tokens that are returned stand at different positions. -/
lemma choice_rowPositions (sampler : IntSampler) (s : RandomStringSequence) :
    s.Choice (s.rowPositions sampler) := by
  have hperm := partialShuffle_perm ((s.rowIndices sampler).map Int.toNat) 0
    (List.range s.params.distribution.size)
  refine ⟨?_, ?_, fun p hp => ?_⟩
  · rw [rowPositions, List.length_take, hperm.length_eq, List.length_range]
    exact min_eq_left (min_le_right _ _)
  · exact (hperm.nodup_iff.mpr List.nodup_range).sublist (List.take_sublist _ _)
  · exact List.mem_range.mp (hperm.mem_iff.mp (List.mem_of_mem_take hp))

/-- A row returns the tokens at different positions; it draws its indices inside the list and within
its budget. -/
structure WithoutReplacement (sampler : IntSampler) (s : RandomStringSequence) : Prop where
  chosen : ∃ positions, s.Choice positions ∧ (s.nextValue sampler).1 = s.tokensAt positions
  shuffled : (s.nextValue sampler).1 = (partialShuffle 0 ((s.rowIndices sampler).map Int.toNat)
    (s.params.distribution.entries.map DistributionEntry.token)).take s.limit
  inside : ∀ i (hi : i < (s.rowIndices sampler).length),
    (i : Int) ≤ (s.rowIndices sampler)[i] ∧ (s.rowIndices sampler)[i] < s.params.distribution.size
  drawn : (s.nextValue sampler).2.inner = RowRandomInt.nextRand^[(s.rowIndices sampler).length] s.inner
  budget : (s.rowIndices sampler).length ≤ s.params.distribution.size

lemma withoutReplacement (h : sampler.Bounded) (s : RandomStringSequence) :
    s.WithoutReplacement sampler where
  chosen := ⟨s.rowPositions sampler, choice_rowPositions sampler s, by rw [nextValue_eq]⟩
  shuffled := by
    have hsize : s.params.distribution.size =
        (s.params.distribution.entries.map DistributionEntry.token).length :=
      (List.length_map _).symm
    rw [nextValue_eq, tokensAt, rowPositions, List.map_take, ← partialShuffle_map, hsize,
      map_getD_range]
  inside i hi := by
    have hlimit : 0 + s.limit ≤ s.params.distribution.size := by
      rw [Nat.zero_add]
      exact min_le_right _ _
    have hmem := swapIndices_mem h hlimit s.inner i hi
    rwa [Nat.zero_add] at hmem
  drawn := by rw [nextValue_eq, rowIndices, length_swapIndices]
  budget := by
    rw [rowIndices, length_swapIndices]
    exact min_le_right _ _

/-- The loop draws what it is given. -/
lemma swapIndices_ofDraws {size : Nat} (ds : List Nat) {draw : Int → Int} {current : Nat}
    (hdraw : ∀ i (hi : i < ds.length), draw ((current + i : Nat) : Int) = ds[i])
    (hfrom : DrawsFrom size current ds) (random : RowRandomInt) :
    (swapIndices (.ofDraws draw) size current random ds.length).map Int.toNat = ds := by
  induction ds generalizing current random with
  | nil => rfl
  | cons d ds ih =>
    obtain ⟨⟨hlow, hhigh⟩, hrest⟩ := hfrom
    have hd : draw current = d := hdraw 0 (Nat.succ_pos _)
    have hpick : (random.nextInt (.ofDraws draw) current (size - 1)).1 = d := by
      change (if (current : Int) ≤ draw current ∧ draw current ≤ (size : Int) - 1 then draw current
        else (current : Int)) = d
      rw [hd, if_pos (by omega)]
    have hnext : ∀ i (hi : i < ds.length), draw ((current + 1 + i : Nat) : Int) = ds[i] := by
      intro i hi
      rw [Nat.add_assoc, Nat.add_comm 1 i]
      exact hdraw (i + 1) (Nat.succ_lt_succ hi)
    rw [List.length_cons, swapIndices, List.map_cons, hpick, ih hnext hrest, Int.toNat_natCast]

/-- Every choice of different positions is returned for some draws. -/
lemma exists_sampler {s : RandomStringSequence} {positions : List Nat} (h : s.Choice positions) :
    ∃ sampler : IntSampler, sampler.Bounded ∧ (nextValue sampler s).1 = s.tokensAt positions := by
  obtain ⟨ds, hlength, hfrom, hresult⟩ := @exists_draws _
    (List.range s.params.distribution.size) 0 _ h.distinct (fun p hp => by simpa using h.inside p hp)
  rw [List.length_range] at hfrom
  rw [Nat.zero_add, List.take_zero, List.nil_append] at hresult
  let draw : Int → Int := fun lo => ((ds.getD lo.toNat 0 : Nat) : Int)
  have hdraw : ∀ i (hi : i < ds.length), draw ((0 + i : Nat) : Int) = ds[i] := by
    intro i hi
    change ((ds.getD ((0 + i : Nat) : Int).toNat 0 : Nat) : Int) = ds[i]
    rw [Nat.zero_add, Int.toNat_natCast, List.getD_eq_getElem _ _ hi]
  have hrow : s.rowPositions (.ofDraws draw) = positions := by
    unfold rowPositions rowIndices
    rw [← h.count, ← hlength, swapIndices_ofDraws ds hdraw hfrom, hlength, hresult]
  exact ⟨.ofDraws draw, IntSampler.bounded_ofDraws draw, by rw [nextValue_eq, hrow]⟩

end RandomStringSequence

end Schengen.Random
