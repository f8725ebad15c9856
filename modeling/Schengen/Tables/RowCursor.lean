import Schengen.Library.PullIterator

/-!
# Row iterators

Six of the tables have one random row per output row. Their iterators share `next_row_`,
`end_row_` and the way `Reset` clamps and skips; they differ in their streams, in how a row
is read from them and in how they are advanced.
-/

namespace Schengen.Tables
open Library

/-- A row iterator with the streams `σ`. -/
structure RowCursor (σ : Type) where
  nextRow : Nat
  endRow : Nat
  streams : σ
  deriving Inhabited

namespace RowCursor

variable {σ ρ : Type}

def reset (base : σ) (advanceRows : σ → Nat → σ) (startRow endRow : Nat) : RowCursor σ :=
  let nextRow := if startRow > endRow then endRow else startRow
  ⟨nextRow, endRow, if 0 < nextRow then advanceRows base nextRow else base⟩

def next (read : Nat → σ → ρ × σ) (rowFinished : σ → σ) (s : RowCursor σ) :
    Option (ρ × RowCursor σ) :=
  if s.nextRow ≥ s.endRow then none
  else
    let (out, streams) := read s.nextRow s.streams
    some (out, ⟨s.nextRow + 1, s.endRow, rowFinished streams⟩)

def done (s : RowCursor σ) : Bool := s.nextRow ≥ s.endRow

lemma done_iff (read : Nat → σ → ρ × σ) (rowFinished : σ → σ) (s : RowCursor σ) :
    s.done = true ↔ s.next read rowFinished = none := by
  unfold done next
  split <;> simp_all

/-- A row that is emitted is the one that is read from the streams. -/
lemma read_of_next {read : Nat → σ → ρ × σ} {rowFinished : σ → σ} {s t : RowCursor σ} {row : ρ}
    (h : s.next read rowFinished = some (row, t)) :
    s.nextRow < s.endRow ∧ (read s.nextRow s.streams).1 = row := by
  unfold next at h
  split at h
  · cases h
  · next hopen => exact ⟨not_le.mp hopen, congrArg Prod.fst (Option.some.inj h)⟩

/-- The iterator as it is read by `NextBatch`. -/
def iterator (read : Nat → σ → ρ × σ) (rowFinished : σ → σ) : PullIterator (RowCursor σ) ρ where
  next := next read rowFinished
  done := done
  nextRowId := nextRow
  done_iff := done_iff read rowFinished

variable {base : σ} {advanceRows : σ → Nat → σ} {read : Nat → σ → ρ × σ} {rowFinished : σ → σ}

lemma reset_eq (hzero : advanceRows base 0 = base) {a b : Nat} (hab : a ≤ b) :
    reset base advanceRows a b = ⟨a, b, advanceRows base a⟩ := by
  unfold reset
  simp only [gt_iff_lt, not_lt.mpr hab, if_false]
  by_cases hpos : 0 < a
  · rw [if_pos hpos]
  · obtain rfl : a = 0 := by omega
    rw [if_neg hpos, hzero]

/-- If reading row `r` and skipping it lead to the same streams, then a reset to `[a, b)`
emits the rows that resets to the single rows emit. -/
theorem emits_reset (hzero : advanceRows base 0 = base) {a b : Nat} (hab : a ≤ b)
    (hread : ∀ r, rowFinished (read r (advanceRows base r)).2 = advanceRows base (r + 1)) :
    (iterator read rowFinished).Emits (reset base advanceRows a b)
      ((List.range' a (b - a)).flatMap fun r => [(read r (advanceRows base r)).1]) := by
  let start : Nat → RowCursor σ := fun r => ⟨r, b, advanceRows base r⟩
  refine PullIterator.emits_units (fun r s => s = start r) hab ?_ ?_ (reset_eq hzero hab)
  · rintro r s _ hr rfl
    refine ⟨start (r + 1), ⟨start (r + 1), ?_, rfl⟩, rfl⟩
    change next read rowFinished (start r) = _
    unfold next
    rw [if_neg (by change ¬ b ≤ r; omega)]
    simp only [start, hread r]
  · rintro s rfl
    change next read rowFinished (start b) = none
    unfold next
    rw [if_pos (by change b ≤ b; omega)]

/-- A key that depends on the position alone, whatever the streams are. -/
lemma emits_keys {κ : Type} {key : ρ → κ} {position : Nat → κ}
    (hkey : ∀ r streams, key (read r streams).1 = position r) (count a : Nat) (streams : σ) :
    ∃ rows, (iterator read rowFinished).Emits ⟨a, a + count, streams⟩ rows ∧
      rows.map key = (List.range' a count).map position := by
  induction count generalizing a streams with
  | zero => exact ⟨[], PullIterator.emits_nil (if_pos le_rfl), rfl⟩
  | succ count ih =>
    obtain ⟨rows, hemits, hkeys⟩ := ih (a + 1) (rowFinished (read a streams).2)
    rw [show a + 1 + count = a + (count + 1) by omega] at hemits
    refine ⟨(read a streams).1 :: rows, hemits.cons ?_, ?_⟩
    · exact if_neg (by change ¬ a + (count + 1) ≤ a; omega)
    · rw [List.map_cons, hkey, hkeys, List.range'_succ, List.map_cons]

/-- A reset that clamps the start `a` of the range to `start`. -/
lemma emits_keys_reset {κ : Type} {key : ρ → κ} {position : Nat → κ}
    (hkey : ∀ r streams, key (read r streams).1 = position r) {a endRow start : Nat}
    (hstart : (if a > endRow then endRow else a) = start) (hle : start ≤ endRow) :
    ∃ rows, (iterator read rowFinished).Emits (reset base advanceRows a endRow) rows ∧
      rows.map key = (List.range' start (endRow - start)).map position := by
  obtain ⟨rows, hemits, hkeys⟩ := @emits_keys _ _ read rowFinished _ _ _ hkey (endRow - start) start
    (reset base advanceRows a endRow).streams
  refine ⟨rows, ?_, hkeys⟩
  rw [Nat.add_sub_cancel' hle] at hemits
  unfold reset at hemits ⊢
  simp only [hstart] at hemits ⊢
  exact hemits

end RowCursor

end Schengen.Tables
