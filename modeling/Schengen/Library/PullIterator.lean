import Mathlib.Data.List.Flatten
import Mathlib.Data.List.Range
import Mathlib.Order.Monotone.Basic
import Mathlib.Tactic.Common

/-!
# Pull iterators and batches

An iterator is read row by row with a partial step `next`. Reading it in batches of any
positive sizes gives the same rows as reading it row by row. The second part is about
sources that are divided into units: a source that emits the units of a range emits the
same rows when the range is cut into consecutive ranges.
-/

namespace Schengen.Library

structure Batch (ρ : Type*) where
  firstRowId : Nat
  rows : List ρ

structure PullIterator (σ ρ : Type*) where
  next : σ → Option (ρ × σ)
  done : σ → Bool
  nextRowId : σ → Nat
  done_iff : ∀ s, done s = true ↔ next s = none

namespace PullIterator

variable {σ ρ : Type*} (it : PullIterator σ ρ)

/-- Up to `maxRows` calls of `next`, as far as they return rows. -/
def takeRows : Nat → σ → List ρ × σ
  | 0, s => ([], s)
  | maxRows + 1, s =>
    match it.next s with
    | none => ([], s)
    | some (row, t) =>
      let (rows, u) := takeRows maxRows t
      (row :: rows, u)

/-- The next batch, or `none` where there is none. -/
def nextBatch (maxRows : Nat) (s : σ) : Option (Batch ρ × σ) :=
  if maxRows = 0 ∨ it.done s then none
  else
    let (rows, t) := it.takeRows maxRows s
    some (⟨it.nextRowId s, rows⟩, t)

/-- The batches up to the end, with `sizes i` rows at most in batch `i`; `none` where the
fuel does not suffice. -/
def drain (sizes : Nat → Nat) : Nat → σ → Option (List (Batch ρ))
  | 0, _ => none
  | fuel + 1, s =>
    match it.nextBatch (sizes 0) s with
    | none => some []
    | some (batch, t) => (drain (fun i => sizes (i + 1)) fuel t).map (batch :: ·)

/-- Reading from `s` gives the rows and leads to `t`. -/
def Yields : σ → List ρ → σ → Prop
  | s, [], t => s = t
  | s, row :: rows, t => ∃ u, it.next s = some (row, u) ∧ Yields u rows t

/-- Reading from `s` gives the rows and then ends. -/
def Emits (s : σ) (rows : List ρ) : Prop :=
  ∃ t, it.Yields s rows t ∧ it.next t = none

variable {it} {s t : σ} {rows : List ρ}

lemma Yields.append {u : σ} {rows' : List ρ} (h : it.Yields s rows t) (h' : it.Yields t rows' u) :
    it.Yields s (rows ++ rows') u := by
  induction rows generalizing s with
  | nil =>
    obtain rfl : s = t := h
    exact h'
  | cons row rows ih =>
    obtain ⟨v, hv, hrest⟩ := h
    exact ⟨v, hv, ih hrest⟩

lemma Yields.emits {rows' : List ρ} (h : it.Yields s rows t) (h' : it.Emits t rows') :
    it.Emits s (rows ++ rows') := by
  obtain ⟨u, hu, hend⟩ := h'
  exact ⟨u, h.append hu, hend⟩

/-- What every call of `next` keeps. -/
lemma Yields.invariant {I : σ → Prop} (hnext : ∀ s row t, I s → it.next s = some (row, t) → I t)
    (h : it.Yields s rows t) (hs : I s) : I t := by
  induction rows generalizing s with
  | nil =>
    cases h
    exact hs
  | cons row rows ih =>
    obtain ⟨u, hu, hyields⟩ := h
    exact ih hyields (hnext s row u hs hu)

lemma emits_nil (h : it.next s = none) : it.Emits s [] := ⟨s, rfl, h⟩

lemma Emits.cons {row : ρ} (hnext : it.next s = some (row, t)) (h : it.Emits t rows) :
    it.Emits s (row :: rows) := by
  obtain ⟨u, hu, hend⟩ := h
  exact ⟨u, ⟨t, hnext, hu⟩, hend⟩

lemma Emits.takeRows (h : it.Emits s rows) (maxRows : Nat) :
    (it.takeRows maxRows s).1 = rows.take maxRows ∧
      it.Emits (it.takeRows maxRows s).2 (rows.drop maxRows) := by
  induction maxRows generalizing s rows with
  | zero => exact ⟨rfl, h⟩
  | succ maxRows ih =>
    unfold PullIterator.takeRows
    cases rows with
    | nil =>
      obtain ⟨u, rfl, hend⟩ := h
      simp only [hend]
      exact ⟨rfl, emits_nil hend⟩
    | cons row rows =>
      obtain ⟨u, ⟨v, hv, hrest⟩, hend⟩ := h
      obtain ⟨h1, h2⟩ := ih ⟨u, hrest, hend⟩
      simp only [hv]
      exact ⟨congrArg (row :: ·) h1, h2⟩

lemma Emits.done_iff (h : it.Emits s rows) : it.done s = true ↔ rows = [] := by
  rw [it.done_iff]
  obtain ⟨u, hu, hend⟩ := h
  cases rows with
  | nil =>
    obtain rfl : s = u := hu
    simp [hend]
  | cons row rows =>
    obtain ⟨v, hv, _⟩ := hu
    simp [hv]

/-- A batch that is returned has a row. -/
theorem nextBatch_rows_ne_nil {maxRows : Nat} {batch : Batch ρ}
    (h : it.nextBatch maxRows s = some (batch, t)) : batch.rows ≠ [] := by
  unfold nextBatch at h
  split at h
  · cases h
  · next hopen =>
    obtain ⟨hmax, hdone⟩ := not_or.mp hopen
    obtain ⟨m, rfl⟩ := Nat.exists_eq_succ_of_ne_zero hmax
    rw [it.done_iff] at hdone
    obtain ⟨⟨row, u⟩, hnext⟩ := Option.ne_none_iff_exists'.mp hdone
    cases h
    unfold PullIterator.takeRows
    simp [hnext]

lemma drain_mono {sizes : Nat → Nat} {fuel fuel' : Nat} (hfuel : fuel ≤ fuel')
    {batches : List (Batch ρ)} (h : it.drain sizes fuel s = some batches) :
    it.drain sizes fuel' s = some batches := by
  induction fuel generalizing fuel' s sizes batches with
  | zero => cases h
  | succ fuel ih =>
    obtain ⟨fuel', rfl⟩ : ∃ k, fuel' = k + 1 := ⟨fuel' - 1, by omega⟩
    unfold drain at h ⊢
    cases hnext : it.nextBatch (sizes 0) s with
    | none =>
      rw [hnext] at h
      exact h
    | some next =>
      rw [hnext] at h
      obtain ⟨rest, hrest, rfl⟩ := Option.map_eq_some_iff.mp h
      exact Option.map_eq_some_iff.mpr ⟨rest, ih (by omega) hrest, rfl⟩

/-- Whatever the positive batch sizes, the batches are not empty and hold the rows. -/
theorem Emits.drain (h : it.Emits s rows) {sizes : Nat → Nat} (hsizes : ∀ i, 0 < sizes i)
    {fuel : Nat} (hfuel : rows.length < fuel) :
    ∃ batches, it.drain sizes fuel s = some batches ∧ batches.flatMap Batch.rows = rows ∧
      (∀ b ∈ batches, b.rows ≠ []) ∧ (rows.length ≤ sizes 0 → batches.length ≤ 1) := by
  induction fuel generalizing s rows sizes with
  | zero => omega
  | succ fuel ih =>
    unfold PullIterator.drain PullIterator.nextBatch
    by_cases hrows : rows = []
    · have hdone := h.done_iff.mpr hrows
      subst hrows
      simp [hdone]
    · have hdone : it.done s = false := by
        rw [← Bool.not_eq_true, h.done_iff]
        exact hrows
      have hpos := hsizes 0
      have hlen : 0 < rows.length := List.length_pos_of_ne_nil hrows
      obtain ⟨htake, hdrop⟩ := h.takeRows (sizes 0)
      obtain ⟨batches, hdrain, hflat, hne, -⟩ :=
        ih hdrop (fun i => hsizes (i + 1)) (by rw [List.length_drop]; omega)
      have hopen : ¬ (sizes 0 = 0 ∨ it.done s = true) := by
        rw [hdone]
        rintro (hz | hz)
        · omega
        · cases hz
      rw [if_neg hopen]
      refine ⟨⟨it.nextRowId s, (it.takeRows (sizes 0) s).1⟩ :: batches,
        by simp only [hdrain, Option.map_some], ?_, ?_, ?_⟩
      · rw [List.flatMap_cons, hflat, htake, List.take_append_drop]
      · intro b hb
        rcases List.mem_cons.mp hb with rfl | hb
        · rw [htake]
          intro hnil
          have := congrArg List.length hnil
          rw [List.length_take, List.length_nil] at this
          omega
        · exact hne b hb
      · intro hle
        have hnil : rows.drop (sizes 0) = [] := List.drop_eq_nil_of_le hle
        rw [hnil] at hflat
        cases batches with
        | nil => simp
        | cons b batches =>
          refine absurd ?_ (hne b List.mem_cons_self)
          exact (List.append_eq_nil_iff.mp hflat).1

/-- Rows that are read in units: from the start of a unit the iterator yields it and gets
to the start of the next one. -/
theorem emits_units (Start : Nat → σ → Prop) {unit : Nat → List ρ} {a b : Nat} (hab : a ≤ b)
    (hunit : ∀ r s, a ≤ r → r < b → Start r s → ∃ t, it.Yields s (unit r) t ∧ Start (r + 1) t)
    (hend : ∀ s, Start b s → it.next s = none) (h : Start a s) :
    it.Emits s ((List.range' a (b - a)).flatMap unit) := by
  obtain ⟨count, rfl⟩ : ∃ count, b = a + count := ⟨b - a, by omega⟩
  rw [Nat.add_sub_cancel_left]
  clear hab
  induction count generalizing a s with
  | zero => exact emits_nil (hend s h)
  | succ count ih =>
    rw [List.range'_succ, List.flatMap_cons]
    obtain ⟨t, hyields, ht⟩ := hunit a s le_rfl (by omega) h
    rw [show a + (count + 1) = a + 1 + count by omega] at hunit hend
    exact hyields.emits (ih ht (fun r u hr hrb => hunit r u (by omega) hrb) hend)

/-- The rows of one unit, read at the positions from `k` on. -/
def readFrom {τ : Type*} (read : Nat → τ → ρ × τ) : Nat → Nat → τ → List ρ × τ
  | 0, _, t => ([], t)
  | count + 1, k, t =>
    let rest := readFrom read count (k + 1) (read k t).2
    ((read k t).1 :: rest.1, rest.2)

/-- An iterator that steps through the positions of a unit and then leaves it. -/
lemma yields_readFrom {τ : Type*} (read : Nat → τ → ρ × τ) (inside : Nat → τ → σ) (after : τ → σ)
    {count : Nat}
    (hinside : ∀ k t, k + 1 < count →
      it.next (inside k t) = some ((read k t).1, inside (k + 1) (read k t).2))
    (hafter : ∀ k t, k + 1 = count → it.next (inside k t) = some ((read k t).1, after (read k t).2))
    {m k : Nat} (hk : k + (m + 1) = count) (t : τ) :
    it.Yields (inside k t) (readFrom read (m + 1) k t).1 (after (readFrom read (m + 1) k t).2) := by
  induction m generalizing k t with
  | zero => exact ⟨_, hafter k t hk, rfl⟩
  | succ m ih => exact ⟨_, hinside k t (by omega), ih (by omega) (read k t).2⟩

/-- A property of the states inside a unit that counts the reads. -/
lemma readFrom_induction {τ : Type*} {read : Nat → τ → ρ × τ} (P : Nat → τ → Prop)
    (hstep : ∀ k n t, P n t → P (n + 1) (read k t).2) (count : Nat) {k n : Nat} {t : τ}
    (h : P n t) : P (n + count) (readFrom read count k t).2 := by
  induction count generalizing k n t with
  | zero => exact h
  | succ count ih =>
    rw [show n + (count + 1) = n + 1 + count by omega]
    exact ih (hstep k n t h)

lemma readFrom_length {τ : Type*} (read : Nat → τ → ρ × τ) (count k : Nat) (t : τ) :
    (readFrom read count k t).1.length = count := by
  induction count generalizing k t with
  | zero => rfl
  | succ count ih => exact congrArg Nat.succ (ih (k + 1) (read k t).2)

lemma readFrom_map {τ : Type*} {read : Nat → τ → ρ × τ} {α : Type*} {f : ρ → α} {g : Nat → α}
    (hread : ∀ k t, f (read k t).1 = g k) (count k : Nat) (t : τ) :
    (readFrom read count k t).1.map f = (List.range' k count).map g := by
  induction count generalizing k t with
  | zero => rfl
  | succ count ih =>
    rw [List.range'_succ, List.map_cons, ← ih (k + 1) (read k t).2, ← hread k t]
    rfl

lemma readFrom_forall {τ : Type*} {read : Nat → τ → ρ × τ} (P : Nat → τ → Prop) {Q : ρ → Prop}
    (hstep : ∀ k n t, P n t → P (n + 1) (read k t).2 ∧ Q (read k t).1) (count : Nat) {k n : Nat}
    {t : τ} (h : P n t) : ∀ row ∈ (readFrom read count k t).1, Q row := by
  induction count generalizing k n t with
  | zero =>
    intro row hrow
    cases hrow
  | succ count ih =>
    intro row hrow
    rcases List.mem_cons.mp hrow with rfl | hrow
    · exact (hstep k n t h).2
    · exact ih (hstep k n t h).1 row hrow

lemma Yields.unique {rows' : List ρ} {t' : σ} (h : it.Yields s rows t) (hend : it.next t = none)
    (h' : it.Yields s rows' t') (hend' : it.next t' = none) : rows = rows' := by
  induction rows generalizing s rows' with
  | nil =>
    obtain rfl : s = t := h
    cases rows' with
    | nil => rfl
    | cons row' rows' =>
      obtain ⟨u, hu, _⟩ := h'
      rw [hend] at hu
      cases hu
  | cons row rows ih =>
    obtain ⟨u, hu, hrest⟩ := h
    cases rows' with
    | nil =>
      obtain rfl : s = t' := h'
      rw [hend'] at hu
      cases hu
    | cons row' rows' =>
      obtain ⟨u', hu', hrest'⟩ := h'
      rw [hu] at hu'
      cases hu'
      rw [ih hrest hrest']

lemma Emits.unique {rows' : List ρ} (h : it.Emits s rows) (h' : it.Emits s rows') :
    rows = rows' := by
  obtain ⟨t, ht, hend⟩ := h
  obtain ⟨t', ht', hend'⟩ := h'
  exact ht.unique hend ht' hend'

end PullIterator

/-! ## Consecutive ranges -/

section Ranges

variable {ρ : Type*}

lemma flatMap_range'_append (f : Nat → List ρ) {a b c : Nat} (hab : a ≤ b) (hbc : b ≤ c) :
    (List.range' a (b - a)).flatMap f ++ (List.range' b (c - b)).flatMap f =
      (List.range' a (c - a)).flatMap f := by
  have hb : a + (b - a) = b := by omega
  have hsplit : List.range' a (b - a) ++ List.range' b (c - b) = List.range' a (c - a) := by
    have happend := List.range'_append_1 (s := a) (m := b - a) (n := c - b)
    rwa [hb, show b - a + (c - b) = c - a by omega] at happend
  rw [← List.flatMap_append, hsplit]

/-- A range cut at increasing bounds. -/
theorem flatMap_consecutive (f : Nat → List ρ) {bound : Nat → Nat} (hmono : Monotone bound)
    (n : Nat) : (List.range n).flatMap
      (fun i => (List.range' (bound i) (bound (i + 1) - bound i)).flatMap f) =
        (List.range' (bound 0) (bound n - bound 0)).flatMap f := by
  induction n with
  | zero => simp
  | succ n ih =>
    rw [List.range_succ, List.flatMap_append, ih, List.flatMap_singleton,
      flatMap_range'_append f (hmono (Nat.zero_le n)) (hmono (Nat.le_succ n))]

/-- A new iterator for each of the `m` ranges that the increasing bounds cut, read to its
end: the rows one after the other. -/
def EmitsSplit {σ : Type*} (it : PullIterator σ ρ) (reset : Nat → Nat → σ) (m : Nat)
    (bound : Nat → Nat) (rows : List ρ) : Prop :=
  ∃ parts : Nat → List ρ, (∀ i < m, it.Emits (reset (bound i) (bound (i + 1))) (parts i)) ∧
    rows = (List.range m).flatMap parts

/-- If every range emits its units, so does every way to split a range. -/
theorem emitsSplit_iff {σ : Type*} {it : PullIterator σ ρ} {reset : Nat → Nat → σ}
    {unit : Nat → List ρ} (h : ∀ {a b}, a ≤ b →
      it.Emits (reset a b) ((List.range' a (b - a)).flatMap unit))
    {m : Nat} {bound : Nat → Nat} (hmono : Monotone bound) {rows : List ρ} :
    EmitsSplit it reset m bound rows ↔
      rows = (List.range' (bound 0) (bound m - bound 0)).flatMap unit := by
  rw [← flatMap_consecutive unit hmono m]
  constructor
  · rintro ⟨parts, hparts, rfl⟩
    exact List.flatMap_congr fun i hi =>
      (hparts i (List.mem_range.mp hi)).unique (h (hmono (Nat.le_succ i)))
  · rintro rfl
    exact ⟨_, fun i _ => h (hmono (Nat.le_succ i)), rfl⟩

end Ranges

end Schengen.Library
