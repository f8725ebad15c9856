import Schengen.Tables.ResetIterators

/-!
# Rows that are skipped

Six tables finish their streams after every row, so that it does not matter which draws of the row
were left out; lineitem draws for a skipped row, too. A row of partsupp that is skipped draws
nothing, and the streams finish only with the part.
-/

namespace Schengen.Tables
open Library Schengen.Random

namespace RowCursor

variable {σ ρ : Type}

/-- The streams at the start of row `r` meet `Start r`, and there a skipped row leaves the streams
as a row that is read does. -/
structure SkipsAsItReads (Start : Nat → σ → Prop) (new : ResetArgs → σ) (advanceRows : σ → Nat → σ)
    (read : Nat → σ → ρ × σ) (skipRow : Nat → σ → σ) (rowFinished : σ → σ) : Prop where
  start_new : ∀ args, Start 0 (new args)
  start_advanceRows : ∀ args r, Start r (advanceRows (new args) r)
  start_read : ∀ r s, Start r s → Start (r + 1) (rowFinished (read r s).2)
  rowFinished_skipRow : ∀ r s, Start r s → rowFinished (skipRow r s) = rowFinished (read r s).2

namespace SkipsAsItReads

variable {Start : Nat → σ → Prop} {new : ResetArgs → σ} {advanceRows : σ → Nat → σ}
  {read : Nat → σ → ρ × σ} {skipRow : Nat → σ → σ} {rowFinished : σ → σ} {clamp : Nat → Nat}
  {s t : RowCursor σ} {row : ρ}

lemma next (h : SkipsAsItReads Start new advanceRows read skipRow rowFinished)
    (hs : s.nextRow < s.endRow → Start s.nextRow s.streams)
    (hnext : s.next read rowFinished = some (row, t)) :
    t.nextRow < t.endRow → Start t.nextRow t.streams := by
  unfold RowCursor.next at hnext
  split at hnext
  · cases hnext
  · next hopen =>
    cases hnext
    exact fun _ => h.start_read _ _ (hs (not_le.mp hopen))

lemma skip_eq (h : SkipsAsItReads Start new advanceRows read skipRow rowFinished)
    (hs : s.nextRow < s.endRow → Start s.nextRow s.streams) :
    s.skip skipRow rowFinished = (s.next read rowFinished).map Prod.snd := by
  unfold RowCursor.skip RowCursor.next
  split
  · rfl
  · next hopen =>
    rw [h.rowFinished_skipRow _ _ (hs (not_le.mp hopen))]
    rfl

variable [Inhabited σ]

/-- The streams of an iterator that is reached are those at the start of its next row. -/
lemma start (h : SkipsAsItReads Start new advanceRows read skipRow rowFinished)
    (hs : (reader new advanceRows read skipRow rowFinished clamp).Reaches s) :
    s.nextRow < s.endRow → Start s.nextRow s.streams := by
  refine hs.invariant (I := fun s => s.nextRow < s.endRow → Start s.nextRow s.streams)
    (fun hopen => absurd hopen (Nat.lt_irrefl 0)) (fun args s _ _ => ?_)
    (fun s row t hs hnext => h.next hs hnext) (fun s t hs hskip => ?_)
  · change Start (RowCursor.reset (new args) advanceRows args.startRow (clamp args.endRow)).nextRow
      (RowCursor.reset (new args) advanceRows args.startRow (clamp args.endRow)).streams
    unfold RowCursor.reset
    generalize (if args.startRow > clamp args.endRow then clamp args.endRow else args.startRow) = r
    by_cases hpos : 0 < r
    · simp only [hpos, if_true]
      exact h.start_advanceRows args r
    · obtain rfl : r = 0 := by omega
      exact h.start_new args
  · change s.skip skipRow rowFinished = _ at hskip
    rw [h.skip_eq hs] at hskip
    obtain ⟨⟨row, u⟩, hnext, rfl⟩ := Option.map_eq_some_iff.mp hskip
    exact h.next hs hnext

lemma agrees (h : SkipsAsItReads Start new advanceRows read skipRow rowFinished)
    (hs : s.nextRow < s.endRow → Start s.nextRow s.streams) (pattern : Nat → Bool) :
    (reader new advanceRows read skipRow rowFinished clamp).Agrees pattern s :=
  SkippingReader.agrees_of_skip
    (I := fun s : RowCursor σ => s.nextRow < s.endRow → Start s.nextRow s.streams)
    (fun _ _ _ hs hnext => h.next hs hnext) (fun _ hs => h.skip_eq hs) hs pattern

end SkipsAsItReads

/-- In every iterator that is reached, skipped rows do not matter for those that are read. -/
lemma agrees_of_reaches {Start : Nat → σ → Prop} {new : ResetArgs → σ} {advanceRows : σ → Nat → σ}
    {read : IntSampler → Nat → σ → ρ × σ} {rowFinished : σ → σ} [Inhabited σ] {s : RowCursor σ}
    {sampler : IntSampler} (skipRow : IntSampler → Nat → σ → σ) (clamp : Nat → Nat)
    (h : ∀ sampler, SkipsAsItReads Start new advanceRows (read sampler) (skipRow sampler) rowFinished)
    (hs : (reader new advanceRows (read sampler) (skipRow sampler) rowFinished clamp).Reaches s)
    (pattern : Nat → Bool) (sampler' : IntSampler) :
    (reader new advanceRows (read sampler') (skipRow sampler') rowFinished clamp).Agrees pattern s :=
  (h sampler').agrees ((h sampler).start hs) pattern

/-- Streams that are padded to their budget in every row. -/
lemma skipsAsItReads_of_finish {new : TextPool → σ} {advanceRows : σ → Nat → σ}
    {read : Nat → σ → ρ × σ} {skipRow : Nat → σ → σ} {rowFinished : σ → σ}
    (hzero : ∀ textPool, advanceRows (new textPool) 0 = new textPool)
    (hread : ∀ textPool r, rowFinished (read r (advanceRows (new textPool) r)).2 =
      advanceRows (new textPool) (r + 1))
    (hskip : ∀ textPool r, rowFinished (skipRow r (advanceRows (new textPool) r)) =
      advanceRows (new textPool) (r + 1)) :
    SkipsAsItReads (fun r s => ∃ textPool, s = advanceRows (new textPool) r)
      (fun args => new args.textPool) advanceRows read skipRow rowFinished where
  start_new args := ⟨args.textPool, (hzero args.textPool).symm⟩
  start_advanceRows args r := ⟨args.textPool, rfl⟩
  start_read := by
    rintro r s ⟨textPool, rfl⟩
    exact ⟨textPool, hread textPool r⟩
  rowFinished_skipRow := by
    rintro r s ⟨textPool, rfl⟩
    rw [hread, hskip]

end RowCursor

/-! ## The rows of the single tables -/

lemma RegionStreams.finish_skip (textPool : TextPool) (r : Nat) :
    ((new textPool).advanceRows r).rowFinished = (new textPool).advanceRows (r + 1) := by
  unfold rowFinished advanceRows
  congr 1
  exact RowStream.finish_skip rfl r

lemma RegionStreams.skipsAsItReads (sampler : IntSampler) :
    RowCursor.SkipsAsItReads (fun r s => ∃ textPool, s = (new textPool).advanceRows r)
      (fun args => new args.textPool) advanceRows (read sampler) (fun _ s => s) rowFinished :=
  RowCursor.skipsAsItReads_of_finish advanceRows_zero (finish_read sampler) finish_skip

lemma NationStreams.finish_skip (textPool : TextPool) (r : Nat) :
    (skipRow r ((new textPool).advanceRows r)).rowFinished = (new textPool).advanceRows (r + 1) := by
  unfold rowFinished advanceRows
  congr 1
  · rw [List.range_succ, List.foldl_append]
    rfl
  · exact RowStream.finish_skip rfl r

lemma NationStreams.skipsAsItReads (sampler : IntSampler) :
    RowCursor.SkipsAsItReads (fun r s => ∃ textPool, s = (new textPool).advanceRows r)
      (fun args => new args.textPool) advanceRows (read sampler) skipRow rowFinished :=
  RowCursor.skipsAsItReads_of_finish advanceRows_zero (finish_read sampler) finish_skip

lemma SupplierStreams.finish_skip (textPool : TextPool) (r : Nat) :
    ((new textPool).advanceRows r).rowFinished = (new textPool).advanceRows (r + 1) := by
  unfold rowFinished advanceRows
  congr 1
  · exact RowStream.finish_skip rfl r
  · exact RowStream.finish_skip rfl r
  · exact RowStream.finish_skip rfl r
  · exact RowStream.finish_skip rfl r
  · exact RowStream.finish_skip rfl r
  · exact RowStream.finish_skip rfl r
  · congr 1
    · exact RowRandomInt.finish_skip rfl r
    · exact RowRandomInt.finish_skip rfl r
    · exact RowStream.finish_skip rfl r

lemma SupplierStreams.skipsAsItReads (sampler : IntSampler) :
    RowCursor.SkipsAsItReads (fun r s => ∃ textPool, s = (new textPool).advanceRows r)
      (fun args => new args.textPool) advanceRows (read sampler) (fun _ s => s) rowFinished :=
  RowCursor.skipsAsItReads_of_finish advanceRows_zero (finish_read sampler) finish_skip

lemma PartStreams.finish_skip (textPool : TextPool) (r : Nat) :
    ((new textPool).advanceRows r).rowFinished = (new textPool).advanceRows (r + 1) := by
  simp only [rowFinished, advanceRows, PartStreams.mk.injEq]
  exact ⟨RowStream.finish_skip rfl r, RowStream.finish_skip rfl r, RowStream.finish_skip rfl r,
    RowStream.finish_skip rfl r, RowStream.finish_skip rfl r, RowStream.finish_skip rfl r,
    RowStream.finish_skip rfl r⟩

lemma PartStreams.skipsAsItReads (sampler : IntSampler) :
    RowCursor.SkipsAsItReads (fun r s => ∃ textPool, s = (new textPool).advanceRows r)
      (fun args => new args.textPool) advanceRows (read sampler) (fun _ s => s) rowFinished :=
  RowCursor.skipsAsItReads_of_finish advanceRows_zero (finish_read sampler) finish_skip

/-- A customer that is skipped draws what one that is read draws. -/
lemma CustomerStreams.skipsAsItReads (sampler : IntSampler) :
    RowCursor.SkipsAsItReads (fun r s => ∃ textPool, s = (new textPool).advanceRows r)
      (fun args => new args.textPool) advanceRows (read sampler) (fun _ => skipRow sampler) rowFinished :=
  RowCursor.skipsAsItReads_of_finish advanceRows_zero (finish_read sampler) (finish_read sampler)

namespace OrderStreams

/-- The two streams that a skipped order does not draw from, at the start of an order. -/
structure Start (s : OrderStreams) : Prop where
  orderPriority : RowStream.Fresh 1 s.orderPriorityRandom
  comment : RowStream.Fresh 2 s.commentRandom

lemma start_new (scaleFactor : ScaleFactor) (textPool : TextPool) : (new scaleFactor textPool).Start where
  orderPriority := RandomString.fresh_new le_rfl (by decide)
  comment := RandomText.fresh_new (by decide) (by decide)

lemma skipsAsItReads (sampler : IntSampler) :
    RowCursor.SkipsAsItReads (fun _ => Start) (fun args => new args.scaleFactor args.textPool)
      advanceRows (read sampler) (fun _ => skipRow sampler) rowFinished where
  start_new args := start_new args.scaleFactor args.textPool
  start_advanceRows args r :=
    ⟨(start_new args.scaleFactor args.textPool).orderPriority.advanceRows r,
      (start_new args.scaleFactor args.textPool).comment.advanceRows r⟩
  start_read _ _ h :=
    ⟨h.orderPriority.rowFinished (RandomString.drawn_nextValue sampler h.orderPriority.drawn) le_rfl,
      h.comment.rowFinished (RandomText.drawn_nextValue sampler h.comment.drawn) le_rfl⟩
  rowFinished_skipRow r s h := by
    have hpriority := h.orderPriority.rowFinished_eq
      (RandomString.drawn_nextValue sampler h.orderPriority.drawn) le_rfl
    have hcomment := h.comment.rowFinished_eq
      (RandomText.drawn_nextValue sampler h.comment.drawn) le_rfl
    simp only [rowFinished, skipRow, read, hpriority, hcomment]

end OrderStreams

lemma LineitemCursor.skip_eq (sampler : IntSampler) (s : LineitemCursor) :
    s.skip sampler = (s.next sampler).map Prod.snd := by
  unfold LineitemCursor.skip LineitemCursor.next
  split <;> rfl

end Schengen.Tables
