import Mathlib.Data.List.Nodup
import Mathlib.Tactic.Common

/-!
# First occurrences

A pass over a list that skips every item with a key it has seen before.
-/

namespace Schengen.Library

variable {α κ : Type*} [DecidableEq κ]

/-- The items with a key that is neither in `seen` nor the key of an earlier item. -/
def firstsFrom (key : α → κ) (seen : List κ) : List α → List α
  | [] => []
  | a :: as => if key a ∈ seen then firstsFrom key seen as else a :: firstsFrom key (key a :: seen) as

def firsts (key : α → κ) (items : List α) : List α := firstsFrom key [] items

variable (key : α → κ) {seen : List κ} {items : List α} {a : α}

lemma firstsFrom_seen (h : key a ∈ seen) :
    firstsFrom key seen (a :: items) = firstsFrom key seen items := if_pos h

lemma firstsFrom_new (h : key a ∉ seen) :
    firstsFrom key seen (a :: items) = a :: firstsFrom key (key a :: seen) items := if_neg h

variable {key}

lemma firstsFrom_sublist : (firstsFrom key seen items).Sublist items := by
  induction items generalizing seen with
  | nil => exact List.Sublist.slnil
  | cons a items ih =>
    by_cases h : key a ∈ seen
    · rw [firstsFrom_seen key h]
      exact ih.cons a
    · rw [firstsFrom_new key h]
      exact ih.cons_cons a

/-- Every key that is not seen before the pass stays. -/
lemma mem_map_firstsFrom {k : κ} :
    k ∈ (firstsFrom key seen items).map key ↔ k ∈ items.map key ∧ k ∉ seen := by
  induction items generalizing seen with
  | nil => simp [firstsFrom]
  | cons a items ih =>
    by_cases h : key a ∈ seen
    · rw [firstsFrom_seen key h, ih, List.map_cons, List.mem_cons]
      constructor
      · rintro ⟨hk, hseen⟩
        exact ⟨.inr hk, hseen⟩
      · rintro ⟨rfl | hk, hseen⟩
        · exact absurd h hseen
        · exact ⟨hk, hseen⟩
    · rw [firstsFrom_new key h, List.map_cons, List.mem_cons, ih, List.map_cons, List.mem_cons,
        List.mem_cons]
      by_cases hk : k = key a
      · simp [hk, h]
      · simp [hk]

lemma firstsFrom_nodup : ((firstsFrom key seen items).map key).Nodup := by
  induction items generalizing seen with
  | nil => exact List.nodup_nil
  | cons a items ih =>
    by_cases h : key a ∈ seen
    · rw [firstsFrom_seen key h]
      exact ih
    · rw [firstsFrom_new key h, List.map_cons, List.nodup_cons]
      refine ⟨?_, ih⟩
      intro hmem
      exact (mem_map_firstsFrom.mp hmem).2 List.mem_cons_self

/-- A pass only depends on which keys of the list are seen. -/
lemma firstsFrom_congr {seen' : List κ} (h : ∀ a ∈ items, key a ∈ seen ↔ key a ∈ seen') :
    firstsFrom key seen items = firstsFrom key seen' items := by
  induction items generalizing seen seen' with
  | nil => rfl
  | cons a items ih =>
    have ha := h a List.mem_cons_self
    by_cases hseen : key a ∈ seen
    · rw [firstsFrom_seen key hseen, firstsFrom_seen key (ha.mp hseen)]
      exact ih fun b hb => h b (List.mem_cons_of_mem a hb)
    · rw [firstsFrom_new key hseen, firstsFrom_new key (fun h' => hseen (ha.mpr h'))]
      congr 1
      refine ih fun b hb => ?_
      rw [List.mem_cons, List.mem_cons, h b (List.mem_cons_of_mem a hb)]

lemma firsts_eq_self (h : (items.map key).Nodup) : firsts key items = items := by
  unfold firsts
  induction items with
  | nil => rfl
  | cons a items ih =>
    rw [List.map_cons, List.nodup_cons] at h
    have hunseen : firstsFrom key [key a] items = firstsFrom key [] items := by
      refine firstsFrom_congr fun b hb => ?_
      have hne : key b ≠ key a := by
        intro heq
        exact h.1 (heq ▸ List.mem_map_of_mem hb)
      simp [hne]
    rw [firstsFrom_new key List.not_mem_nil, hunseen, ih h.2]

/-- The keys of a pass are the pass over the keys. -/
lemma map_firstsFrom :
    (firstsFrom key seen items).map key = firstsFrom id seen (items.map key) := by
  induction items generalizing seen with
  | nil => rfl
  | cons a items ih =>
    by_cases h : key a ∈ seen
    · rw [firstsFrom_seen key h, List.map_cons, firstsFrom_seen id h, ih]
    · rw [firstsFrom_new key h, List.map_cons, List.map_cons, firstsFrom_new id h, ih, id]

lemma mem_firsts {keys : List κ} {k : κ} : k ∈ firsts id keys ↔ k ∈ keys := by
  have h : k ∈ (firstsFrom id [] keys).map id ↔ k ∈ keys.map id ∧ k ∉ [] := mem_map_firstsFrom
  simpa [firsts] using h

lemma firsts_nodup (keys : List κ) : (firsts id keys).Nodup := by
  have h : ((firstsFrom id [] keys).map id).Nodup := firstsFrom_nodup
  simpa [firsts] using h

/-- Dropping keys before the pass or after it comes to the same. -/
lemma filter_firsts (keep : κ → Bool) (keys : List κ) :
    (firsts id keys).filter keep = firsts id (keys.filter keep) := by
  suffices hall : ∀ seen, (firstsFrom id seen keys).filter keep =
      firstsFrom id seen (keys.filter keep) from hall []
  induction keys with
  | nil => intro seen; rfl
  | cons k keys ih =>
    intro seen
    by_cases hseen : k ∈ seen
    · rw [firstsFrom_seen id hseen, ih]
      by_cases hkeep : keep k
      · rw [List.filter_cons_of_pos hkeep, firstsFrom_seen id hseen]
      · rw [List.filter_cons_of_neg hkeep]
    · rw [firstsFrom_new id hseen]
      by_cases hkeep : keep k
      · rw [List.filter_cons_of_pos hkeep, List.filter_cons_of_pos hkeep,
          firstsFrom_new id hseen, ih]
      · rw [List.filter_cons_of_neg hkeep, List.filter_cons_of_neg hkeep, ih]
        refine firstsFrom_congr fun b hb => ?_
        have hne : b ≠ k := by
          rintro rfl
          exact hkeep (List.mem_filter.mp hb).2
        simp [hne]

/-- Where one key stays, it is repeated. -/
lemma eq_replicate_of_firsts {keys : List κ} {k : κ} (h : firsts id keys = [k]) :
    keys = List.replicate keys.length k := by
  refine List.eq_replicate_iff.mpr ⟨rfl, ?_⟩
  intro b hb
  have hmem := mem_firsts.mpr hb
  rwa [h, List.mem_singleton] at hmem

lemma firsts_replicate (k : κ) (n : ℕ) : firsts id (List.replicate (n + 1) k) = [k] := by
  have hskip : ∀ m, firstsFrom id [k] (List.replicate m k) = [] := by
    intro m
    induction m with
    | zero => rfl
    | succ m ih => exact (firstsFrom_seen id List.mem_cons_self).trans ih
  unfold firsts
  rw [List.replicate_succ, firstsFrom_new id List.not_mem_nil, id, hskip]

end Schengen.Library
