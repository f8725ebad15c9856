import Schengen.Tables.SkippedRows

/-!
# Suppliers that are skipped

A skipped row of partsupp draws nothing and the streams are padded when the part ends. The next
part starts at the same streams, whatever was skipped; a row that is read behind a skipped row of
its part gets the draws of an earlier row.
-/

namespace Schengen.Tables
open Library Schengen.Random

/-- The lower bound for one seed and the upper bound for all others. -/
def lowestAt (a : Int) : IntSampler where
  pick seed lo hi := if seed = a then lo else hi
  pick_mem seed lo hi _ _ hle _ := by
    split
    · exact ⟨le_rfl, hle⟩
    · exact ⟨hle, le_rfl⟩

namespace PartSuppStreams

variable {sampler : IntSampler} {start s t : PartSuppStreams} {number skips : Nat}

/-- The streams inside a part after `number` rows: `t` has read them all, and `s` without `skips`
of them. -/
structure Behind (start : PartSuppStreams) (number skips : Nat) (s t : PartSuppStreams) : Prop where
  left : Drawn start number s
  right : Drawn start number t
  usage : t.availableQuantityRandom.inner.usage =
    s.availableQuantityRandom.inner.usage + skips
  same : skips = 0 → s = t

lemma Behind.read (h : Behind start number skips s t) (scaleFactor : ScaleFactor) (nextPart k : Nat) :
    Behind start (number + 1) skips (read sampler scaleFactor nextPart k s).2
      (PartSuppStreams.read sampler scaleFactor nextPart k t).2 where
  left := drawn_read sampler h.left nextPart k
  right := drawn_read sampler h.right nextPart k
  usage := by
    have husage := h.usage
    change _ + 1 = _ + 1 + skips
    omega
  same hzero := by rw [h.same hzero]

lemma Drawn.mono (h : Drawn start number s) {n : Nat} (hn : number ≤ n) : Drawn start n s :=
  ⟨h.availableQuantity.mono hn, h.supplyCost.mono hn, h.comment.mono (Nat.mul_le_mul_left 2 hn)⟩

lemma Behind.skip (h : Behind start number skips s t) (scaleFactor : ScaleFactor) (nextPart k : Nat) :
    Behind start (number + 1) (skips + 1) s
      (PartSuppStreams.read sampler scaleFactor nextPart k t).2 where
  left := h.left.mono (Nat.le_succ number)
  right := drawn_read sampler h.right nextPart k
  usage := by
    have husage := h.usage
    change _ + 1 = _ + (skips + 1)
    omega
  same hzero := by cases hzero

lemma Behind.skips_le (h : Behind start number skips s t) : skips ≤ number := by
  have husage := h.usage
  have hle := h.right.availableQuantity.inner.usage
  omega

/-- Behind a skipped row the seed is another one. -/
lemma Behind.seed_ne (h : Behind start number skips s t)
    (hseed : 0 < start.availableQuantityRandom.inner.seed ∧
      start.availableQuantityRandom.inner.seed < RowRandomInt.kModulus)
    (hskips : 0 < skips) (hnumber : number < kSuppliersPerPart) :
    t.availableQuantityRandom.inner.nextRand.seed ≠
      s.availableQuantityRandom.inner.nextRand.seed := by
  have hs := h.left.availableQuantity.inner.nextRand
  have ht := h.right.availableQuantity.inner.nextRand
  have hle := h.skips_le
  have husage : t.availableQuantityRandom.inner.nextRand.usage =
      skips + s.availableQuantityRandom.inner.nextRand.usage := by
    change _ + 1 = skips + (_ + 1)
    have := h.usage
    omega
  rw [ht.seed, husage, Function.iterate_add_apply, ← hs.seed]
  have hpos := RowRandomInt.nextSeed_iterate_pos hseed
    s.availableQuantityRandom.inner.nextRand.usage
  have hmem := RowRandomInt.nextSeed_iterate_mem ⟨hseed.1.le, hseed.2⟩
    s.availableQuantityRandom.inner.nextRand.usage
  rw [← hs.seed] at hpos hmem
  simp only [kSuppliersPerPart] at hnumber
  exact RowRandomInt.nextSeed_iterate_ne ⟨hpos, hmem.2⟩ hskips (by omega)

/-- The multiplier has no factor in common with the modulus, so that no seed gets zero. -/
lemma seed_advanceRows (textPool : TextPool) (r : Nat) :
    0 < ((new textPool).advanceRows r).availableQuantityRandom.inner.seed ∧
      ((new textPool).advanceRows r).availableQuantityRandom.inner.seed < RowRandomInt.kModulus := by
  have hseed : ((new textPool).advanceRows r).availableQuantityRandom.inner.seed =
      RowRandomInt.nextSeed^[kSuppliersPerPart * r] kAvailableQuantitySeed :=
    congrArg RowRandomInt.seed (RowRandomInt.advanceRows_eq rfl r)
  rw [hseed]
  exact ⟨RowRandomInt.nextSeed_iterate_pos (by decide) _,
    (RowRandomInt.nextSeed_iterate_mem (by decide) _).2⟩

/-- What is drawn from the streams does not depend on the values. -/
lemma read_streams (sampler sampler' : IntSampler) (scaleFactor : ScaleFactor) (nextPart k : Nat)
    (s : PartSuppStreams) :
    (read sampler scaleFactor nextPart k s).2 = (read sampler' scaleFactor nextPart k s).2 := by
  have hcomment : (s.commentRandom.nextValue sampler).2 = (s.commentRandom.nextValue sampler').2 := by
    unfold RandomText.nextValue
    split <;> rfl
  unfold read
  simp only [hcomment]
  rfl

end PartSuppStreams

namespace PartSuppCursor
open PartSuppStreams

/-- How many rows of the current part the calls before call `i` skipped, where call 0 takes the
output row `position`. -/
def skippedSince (pattern : Nat → Bool) (position : Nat) : Nat → Nat
  | 0 => 0
  | i + 1 =>
    if (position + i + 1) % kSuppliersPerPart = 0 then 0
    else skippedSince pattern position i + if pattern i then 0 else 1

variable {sampler : IntSampler} {s t : PartSuppCursor} {pattern : Nat → Bool}
  {position endPart i : Nat} {scaleFactor : ScaleFactor} {textPool : TextPool}

lemma skippedSince_pos_iff :
    0 < skippedSince pattern position i ↔ ∃ j < i,
      (position + j) / kSuppliersPerPart = (position + i) / kSuppliersPerPart ∧
        pattern j = false := by
  induction i with
  | zero => simp [skippedSince]
  | succ i ih =>
    unfold skippedSince
    by_cases hlast : (position + i + 1) % kSuppliersPerPart = 0
    · rw [if_pos hlast]
      simp only [kSuppliersPerPart] at hlast ⊢
      refine ⟨fun h => absurd h (Nat.lt_irrefl 0), ?_⟩
      rintro ⟨j, hj, hpart, -⟩
      omega
    · rw [if_neg hlast]
      simp only [kSuppliersPerPart] at hlast ih ⊢
      constructor
      · intro h
        cases hi : pattern i with
        | false => exact ⟨i, Nat.lt_succ_self i, by omega, hi⟩
        | true =>
          rw [hi, if_pos rfl, Nat.add_zero] at h
          obtain ⟨j, hj, hpart, hskip⟩ := ih.mp h
          exact ⟨j, by omega, by omega, hskip⟩
      · rintro ⟨j, hj, hpart, hskip⟩
        rcases Nat.lt_succ_iff_lt_or_eq.mp hj with hlt | rfl
        · have hpos := ih.mpr ⟨j, hlt, by omega, hskip⟩
          omega
        · rw [hskip]
          exact Nat.succ_pos _

/-- The streams of the current part after at most as many rows as the supplier number says. -/
def Inside (s : PartSuppCursor) : Prop :=
  s.nextPart < s.endPart → ∃ textPool, Drawn ((PartSuppStreams.new textPool).advanceRows s.nextPart)
    s.partSupplierNumber s.streams

/-- A row that has been taken, with the part that it ends. -/
lemma finishRow_streams {streams : PartSuppStreams}
    (h : Drawn ((PartSuppStreams.new textPool).advanceRows s.nextPart) (s.partSupplierNumber + 1)
      streams) (hnumber : s.partSupplierNumber < kSuppliersPerPart) :
    ({ s with streams := streams } : PartSuppCursor).finishRow =
      if s.partSupplierNumber + 1 = kSuppliersPerPart then
        inside s.scaleFactor s.endPart (s.nextPart + 1) 0
          ((PartSuppStreams.new textPool).advanceRows (s.nextPart + 1))
      else inside s.scaleFactor s.endPart s.nextPart (s.partSupplierNumber + 1) streams := by
  unfold finishRow inside
  by_cases hlast : s.partSupplierNumber + 1 = kSuppliersPerPart
  · rw [if_pos hlast.ge, if_pos hlast, h.rowFinished hnumber]
  · rw [if_neg (show ¬ s.partSupplierNumber + 1 ≥ kSuppliersPerPart by omega), if_neg hlast]

lemma inside_finishRow {streams : PartSuppStreams}
    (h : Drawn ((PartSuppStreams.new textPool).advanceRows s.nextPart) (s.partSupplierNumber + 1)
      streams) (hnumber : s.partSupplierNumber < kSuppliersPerPart) :
    Inside ({ s with streams := streams } : PartSuppCursor).finishRow := by
  rw [finishRow_streams h hnumber]
  intro _
  split
  · exact ⟨textPool, drawn_advanceRows textPool _⟩
  · exact ⟨textPool, h⟩

lemma inside_reset (args : ResetArgs) (s : PartSuppCursor) :
    Inside ((Table.partSuppRowIterator sampler).reset args s) := by
  intro _
  refine ⟨args.textPool, ?_⟩
  change Drawn (PartSuppStreams.advanceRows _
    (if args.startRow > args.endRow then args.endRow else args.startRow)) s.partSupplierNumber
      (if 0 < (if args.startRow > args.endRow then args.endRow else args.startRow) then _ else _)
  generalize (if args.startRow > args.endRow then args.endRow else args.startRow) = r
  by_cases hpos : 0 < r
  · rw [if_pos hpos]
    exact (drawn_advanceRows args.textPool r).mono (Nat.zero_le _)
  · obtain rfl : r = 0 := by omega
    exact (drawn_advanceRows args.textPool 0).mono (Nat.zero_le _)

/-- Every iterator that is reached is inside the budgets of its part. -/
lemma inside_of_reaches (h : (Table.partSuppRowIterator sampler).Reaches s) : Inside s := by
  refine (h.invariant (I := fun s => s.partSupplierNumber < kSuppliersPerPart ∧ Inside s)
    ⟨show (0 : Nat) < kSuppliersPerPart by decide, fun hlt => absurd hlt (Nat.lt_irrefl 0)⟩
    (fun args s hs => ⟨hs.1, inside_reset args s⟩)
    (fun s row t hs hnext => ?_) (fun s t hs hskip => ?_)).2
  · change s.next sampler = _ at hnext
    unfold next at hnext
    split at hnext
    · cases hnext
    · next hopen =>
      rw [← (Prod.mk.inj (Option.some.inj hnext)).2]
      obtain ⟨textPool, hdrawn⟩ := hs.2 (not_le.mp hopen)
      exact ⟨finishRow_number_lt hs.1, inside_finishRow (drawn_read sampler hdrawn _ _) hs.1⟩
  · change s.skip = _ at hskip
    unfold skip at hskip
    split at hskip
    · cases hskip
    · next hopen =>
      rw [← Option.some.inj hskip]
      obtain ⟨textPool, hdrawn⟩ := hs.2 (not_le.mp hopen)
      exact ⟨finishRow_number_lt hs.1, inside_finishRow (hdrawn.mono (Nat.le_succ _)) hs.1⟩

/-! ## Two runs -/

lemma At.ext (hs : At position endPart scaleFactor s) (ht : At position endPart scaleFactor t)
    (hstreams : s.streams = t.streams) : s = t := by
  obtain ⟨_, _, _, _, _⟩ := s
  obtain ⟨_, _, _, _, _⟩ := t
  obtain ⟨hpart, hnumber, hend, hscale⟩ := hs
  obtain ⟨hpart', hnumber', hend', hscale'⟩ := ht
  cases hpart.trans hpart'.symm
  cases hnumber.trans hnumber'.symm
  cases hend.trans hend'.symm
  cases hscale.trans hscale'.symm
  cases hstreams
  rfl

variable (sampler) in
/-- One call of the run with the skips beside one of the run that reads every row. -/
lemma behind_drawnBy {skips : Nat} {start : PartSuppStreams}
    (hs : At position endPart scaleFactor s) (ht : At position endPart scaleFactor t)
    (h : Behind start (position % kSuppliersPerPart) skips s.streams t.streams) (reads : Bool) :
    Behind start (position % kSuppliersPerPart + 1) (skips + if reads then 0 else 1)
      (s.drawnBy sampler reads) (t.drawnBy sampler true) := by
  unfold drawnBy
  rw [hs.scaleFactor, hs.nextPart, hs.number, ht.scaleFactor, ht.nextPart, ht.number]
  cases reads with
  | true => exact h.read scaleFactor _ _
  | false => exact h.skip scaleFactor _ _

lemma last_position {n : Nat} (h : n % kSuppliersPerPart + 1 = kSuppliersPerPart) :
    (n + 1) / kSuppliersPerPart = n / kSuppliersPerPart + 1 ∧ (n + 1) % kSuppliersPerPart = 0 := by
  simp only [kSuppliersPerPart] at h ⊢
  omega

lemma inner_position {n : Nat} (h : n % kSuppliersPerPart + 1 ≠ kSuppliersPerPart) :
    (n + 1) / kSuppliersPerPart = n / kSuppliersPerPart ∧
      (n + 1) % kSuppliersPerPart = n % kSuppliersPerPart + 1 := by
  simp only [kSuppliersPerPart] at h ⊢
  omega

/-- The run with the skips stays behind the run that reads every row, and catches up at every new
part. -/
lemma behind_before (h : At position endPart scaleFactor s)
    (hdrawn : Drawn ((PartSuppStreams.new textPool).advanceRows (position / kSuppliersPerPart))
      (position % kSuppliersPerPart) s.streams) (pattern : Nat → Bool) (i : Nat)
    (hi : position + i < kSuppliersPerPart * endPart) :
    Behind ((PartSuppStreams.new textPool).advanceRows ((position + i) / kSuppliersPerPart))
      ((position + i) % kSuppliersPerPart) (skippedSince pattern position i)
      ((Table.partSuppRowIterator sampler).before pattern i s).streams
      ((Table.partSuppRowIterator sampler).before (fun _ => true) i s).streams := by
  induction i with
  | zero => exact ⟨hdrawn, hdrawn, rfl, fun _ => rfl⟩
  | succ i ih =>
    have hopen : position + i < kSuppliersPerPart * endPart := by omega
    have hle : position ≤ kSuppliersPerPart * endPart := by omega
    have hs := h.before sampler hle pattern i
    have ht := h.before sampler hle (fun _ => true) i
    rw [Nat.min_eq_left hopen.le] at hs ht
    have hcall := behind_drawnBy sampler hs ht (ih hopen) (pattern i)
    have hleft := hcall.left
    have hright := hcall.right
    rw [← hs.nextPart, ← hs.number] at hleft
    rw [← ht.nextPart, ← ht.number] at hright
    have hs' := call_eq sampler hs hopen (pattern i)
    have ht' := call_eq sampler ht hopen true
    rw [if_pos rfl] at ht'
    rw [finishRow_streams hleft hs.number_lt, hs.nextPart, hs.number] at hs'
    rw [finishRow_streams hright ht.number_lt, ht.nextPart, ht.number] at ht'
    unfold SkippingReader.before skippedSince
    rw [hs', if_pos rfl, ht', ← Nat.add_assoc]
    by_cases hlast : (position + i) % kSuppliersPerPart + 1 = kSuppliersPerPart
    · obtain ⟨hpart, hnumber⟩ := last_position hlast
      rw [if_pos hlast, if_pos hlast, hpart, hnumber, if_pos rfl]
      have hnew := drawn_advanceRows textPool ((position + i) / kSuppliersPerPart + 1)
      exact ⟨hnew, hnew, rfl, fun _ => rfl⟩
    · obtain ⟨hpart, hnumber⟩ := inner_position hlast
      rw [if_neg hlast, if_neg hlast, hpart, hnumber, if_neg (Nat.succ_ne_zero _)]
      exact hcall

/-- In every part, the rows behind a skipped one are skipped. -/
def SkipsToEnd (pattern : Nat → Bool) (s : PartSuppCursor) : Prop :=
  ∀ i j, i < j → s.nextRowId + j < kSuppliersPerPart * s.endPart →
    (s.nextRowId + i) / kSuppliersPerPart = (s.nextRowId + j) / kSuppliersPerPart →
    pattern i = false → pattern j = false

lemma skippedSince_eq_zero (h : SkipsToEnd pattern s) (hread : pattern i = true)
    (hi : s.nextRowId + i < kSuppliersPerPart * s.endPart) :
    skippedSince pattern s.nextRowId i = 0 := by
  by_contra hne
  obtain ⟨j, hj, hpart, hskip⟩ := skippedSince_pos_iff.mp (Nat.pos_of_ne_zero hne)
  have hskipped := h j i hj hi hpart hskip
  rw [hread] at hskipped
  cases hskipped

lemma agrees_end (hend : s.endPart ≤ s.nextPart) (pattern : Nat → Bool) :
    (Table.partSuppRowIterator sampler).Agrees pattern s := by
  refine SkippingReader.agrees_of_skip (I := fun s : PartSuppCursor => s.endPart ≤ s.nextPart)
    (fun s row t hs hnext => ?_) (fun s hs => ?_) hend pattern
  · have hnone := (next_end sampler hs).symm.trans hnext
    cases hnone
  · exact (skip_end hs).trans (congrArg (Option.map Prod.snd) (next_end sampler hs)).symm

lemma nextRowId_le (hnumber : s.partSupplierNumber < kSuppliersPerPart)
    (hlt : s.nextPart < s.endPart) : s.nextRowId ≤ kSuppliersPerPart * s.endPart := by
  unfold nextRowId
  simp only [kSuppliersPerPart] at hnumber ⊢
  omega

variable (sampler) in
lemma behind_of_inside (hnumber : s.partSupplierNumber < kSuppliersPerPart)
    (hdrawn : Drawn ((PartSuppStreams.new textPool).advanceRows s.nextPart) s.partSupplierNumber
      s.streams) (pattern : Nat → Bool) (hi : s.nextRowId + i < kSuppliersPerPart * s.endPart) :
    Behind ((PartSuppStreams.new textPool).advanceRows ((s.nextRowId + i) / kSuppliersPerPart))
      ((s.nextRowId + i) % kSuppliersPerPart) (skippedSince pattern s.nextRowId i)
      ((Table.partSuppRowIterator sampler).before pattern i s).streams
      ((Table.partSuppRowIterator sampler).before (fun _ => true) i s).streams := by
  have hat := at_nextRowId hnumber
  refine behind_before hat ?_ pattern i hi
  rw [← hat.nextPart, ← hat.number]
  exact hdrawn

lemma agrees_of_skipsToEnd (hnumber : s.partSupplierNumber < kSuppliersPerPart)
    (hlt : s.nextPart < s.endPart)
    (hdrawn : Drawn ((PartSuppStreams.new textPool).advanceRows s.nextPart) s.partSupplierNumber
      s.streams) (h : SkipsToEnd pattern s) :
    (Table.partSuppRowIterator sampler).Agrees pattern s := by
  intro i hread
  have hle := nextRowId_le hnumber hlt
  have hs := (at_nextRowId hnumber).before sampler hle pattern i
  have ht := (at_nextRowId hnumber).before sampler hle (fun _ => true) i
  by_cases hi : s.nextRowId + i < kSuppliersPerPart * s.endPart
  · have hbehind := behind_of_inside sampler hnumber hdrawn pattern hi
    have hsame := hs.ext ht (hbehind.same (skippedSince_eq_zero h hread hi))
    rw [SkippingReader.readAt, SkippingReader.rowAt, SkippingReader.rowAt, hsame]
  · rw [Nat.min_eq_right (not_lt.mp hi)] at hs ht
    exact (congrArg (Option.map Prod.fst) (next_end sampler hs.closed)).trans
      (congrArg (Option.map Prod.fst) (next_end sampler ht.closed)).symm

lemma next_snd (sampler sampler' : IntSampler) (s : PartSuppCursor) :
    (s.next sampler).map Prod.snd = (s.next sampler').map Prod.snd := by
  unfold next
  split
  · rfl
  · simp only [Option.map_some, read_streams sampler sampler']

lemma before_eq (sampler sampler' : IntSampler) (pattern : Nat → Bool) (i : Nat) :
    (Table.partSuppRowIterator sampler).before pattern i s =
      (Table.partSuppRowIterator sampler').before pattern i s := by
  refine SkippingReader.before_congr ?_ ?_ pattern i
  · exact next_snd sampler sampler'
  · exact fun _ => rfl

/-- The quantity in the row that is read at an output row of the range. -/
lemma At.availqty_next (h : At position endPart scaleFactor s)
    (hopen : position < kSuppliersPerPart * endPart)
    (hparams : s.streams.availableQuantityRandom.params =
      ⟨kAvailableQuantityMin, kAvailableQuantityMax⟩) (sampler : IntSampler) :
    ((s.next sampler).map Prod.fst).map PartSuppRow.psAvailqty =
      some (sampler.pick s.streams.availableQuantityRandom.inner.nextRand.seed
        kAvailableQuantityMin kAvailableQuantityMax) := by
  rw [h.next_eq hopen]
  simp only [Option.map_some, PartSuppStreams.read, RandomBoundedInt.nextValue,
    RowRandomInt.nextInt, hparams]

/-- A row behind a skipped one is drawn from another seed. -/
lemma skipsToEnd_of_agrees (hnumber : s.partSupplierNumber < kSuppliersPerPart)
    (hlt : s.nextPart < s.endPart)
    (hdrawn : Drawn ((PartSuppStreams.new textPool).advanceRows s.nextPart) s.partSupplierNumber
      s.streams) (h : ∀ sampler, (Table.partSuppRowIterator sampler).Agrees pattern s) :
    SkipsToEnd pattern s := by
  intro i j hij hj hpart hskip
  by_contra hread
  have hread := Bool.eq_true_of_not_eq_false hread
  have hle := nextRowId_le hnumber hlt
  have hs := (at_nextRowId hnumber).before .exact hle pattern j
  have ht := (at_nextRowId hnumber).before .exact hle (fun _ => true) j
  have hbehind := behind_of_inside .exact hnumber hdrawn pattern hj
  have hskips := skippedSince_pos_iff.mpr ⟨i, hij, hpart, hskip⟩
  obtain ⟨a, ha⟩ : ∃ a, a = ((Table.partSuppRowIterator .exact).before pattern j
      s).streams.availableQuantityRandom.inner.nextRand.seed := ⟨_, rfl⟩
  have hrow := h (lowestAt a) j hread
  rw [SkippingReader.readAt, SkippingReader.rowAt, SkippingReader.rowAt,
    before_eq (lowestAt a) .exact pattern, before_eq (lowestAt a) .exact fun _ => true] at hrow
  rw [Nat.min_eq_left hj.le] at hs ht
  have hquantity := congrArg (Option.map PartSuppRow.psAvailqty) hrow
  have hu := hs.availqty_next hj hbehind.left.availableQuantity.params (lowestAt a)
  have hv := ht.availqty_next hj hbehind.right.availableQuantity.params (lowestAt a)
  have hne := hbehind.seed_ne (seed_advanceRows textPool _) hskips (Nat.mod_lt _ (by decide))
  have hvalues := Option.some.inj (hu.symm.trans (hquantity.trans hv))
  unfold lowestAt at hvalues
  rw [← ha] at hne hvalues
  simp only [if_true, if_neg hne] at hvalues
  exact absurd hvalues (by decide)

/-- What is read from partsupp is what a run without skips reads, exactly where no row of a part is
read behind a skipped one. -/
lemma agrees_iff_skipsToEnd (hs : (Table.partSuppRowIterator sampler).Reaches s)
    (pattern : Nat → Bool) :
    (∀ sampler, (Table.partSuppRowIterator sampler).Agrees pattern s) ↔ SkipsToEnd pattern s := by
  have hnumber := number_lt hs
  by_cases hlt : s.nextPart < s.endPart
  · obtain ⟨textPool, hdrawn⟩ := inside_of_reaches hs hlt
    exact ⟨skipsToEnd_of_agrees hnumber hlt hdrawn,
      fun h _ => agrees_of_skipsToEnd hnumber hlt hdrawn h⟩
  · refine ⟨fun _ i j hij hj => ?_, fun _ _ => agrees_end (not_lt.mp hlt) pattern⟩
    unfold nextRowId at hj
    simp only [kSuppliersPerPart] at hj
    omega

end PartSuppCursor

namespace Table

/-- Of partsupp no row is read behind a skipped row of its part. -/
def SkipsToEnd (pattern : Nat → Bool) : (table : Table) → table.Cursor → Prop
  | partsupp, s => PartSuppCursor.SkipsToEnd pattern s
  | _, _ => True

/-- Skipping a row equals reading it, whatever `NextInt` computes, unless a row of partsupp is read
behind a skipped row of its part. -/
theorem agrees_iff {sampler : IntSampler} {table : Table} {s : table.Cursor}
    (hs : (rowIterator sampler table).Reaches s) (pattern : Nat → Bool) :
    (∀ sampler, (rowIterator sampler table).Agrees pattern s) ↔ SkipsToEnd pattern table s := by
  cases table with
  | partsupp => exact PartSuppCursor.agrees_iff_skipsToEnd hs pattern
  | lineitem =>
    refine ⟨fun _ => trivial, fun _ sampler => ?_⟩
    exact SkippingReader.agrees_of_skip (I := fun _ => True) (fun _ _ _ _ _ => trivial)
      (fun s _ => LineitemCursor.skip_eq sampler s) trivial pattern
  | orders =>
    exact ⟨fun _ => trivial, fun _ => RowCursor.agrees_of_reaches (fun sampler _ => OrderStreams.skipRow sampler)
      id OrderStreams.skipsAsItReads hs pattern⟩
  | region =>
    exact ⟨fun _ => trivial, fun _ => RowCursor.agrees_of_reaches (fun _ _ s => s)
      (min · RegionStreams.kRegionCount) RegionStreams.skipsAsItReads hs pattern⟩
  | nation =>
    exact ⟨fun _ => trivial, fun _ => RowCursor.agrees_of_reaches (fun _ => NationStreams.skipRow)
      (min · NationStreams.kNationCount) NationStreams.skipsAsItReads hs pattern⟩
  | supplier =>
    exact ⟨fun _ => trivial, fun _ => RowCursor.agrees_of_reaches (fun _ _ s => s)
      id SupplierStreams.skipsAsItReads hs pattern⟩
  | part =>
    exact ⟨fun _ => trivial, fun _ => RowCursor.agrees_of_reaches (fun _ _ s => s)
      id PartStreams.skipsAsItReads hs pattern⟩
  | customer =>
    exact ⟨fun _ => trivial, fun _ => RowCursor.agrees_of_reaches (fun sampler _ => CustomerStreams.skipRow sampler)
      id CustomerStreams.skipsAsItReads hs pattern⟩

/-- A new iterator of partsupp after a reset to the first part. -/
def firstPart : PartSuppCursor :=
  (partSuppRowIterator .exact).call PartSuppCursor.initial (.reset onePart)

/-- The first row is skipped. -/
def skipFirst (i : Nat) : Bool := i != 0

lemma reaches_firstPart : (partSuppRowIterator .exact).Reaches firstPart :=
  SkippingReader.Reaches.initial.call _

theorem agrees_iff_firstPart :
    (∀ sampler, (rowIterator sampler partsupp).Agrees skipFirst firstPart) ↔
      SkipsToEnd skipFirst partsupp firstPart :=
  @agrees_iff .exact partsupp firstPart reaches_firstPart skipFirst

/-- The second supplier gets the quantity of the first one. -/
theorem firstPart_not_agrees :
    (rowIterator .exact partsupp).Reaches firstPart ∧
      ¬ (rowIterator .exact partsupp).Agrees skipFirst firstPart := by
  refine ⟨reaches_firstPart, fun h => ?_⟩
  have hquantity : ((partSuppRowIterator .exact).rowAt skipFirst 1 firstPart).map
      PartSuppRow.psAvailqty = some 3325 := by decide +kernel
  have hquantity' : ((partSuppRowIterator .exact).readAt 1 firstPart).map
      PartSuppRow.psAvailqty = some 8076 := by decide +kernel
  have hrow := congrArg (Option.map PartSuppRow.psAvailqty) (h 1 rfl)
  have hsame := hquantity.symm.trans (hrow.trans hquantity')
  exact absurd hsame (by decide)

end Table

end Schengen.Tables
