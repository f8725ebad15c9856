import Schengen.Library.Overwrite
import Schengen.Tables.Supplier

/-!
# The splice of a comment

`ApplyBBBComment` with its casts to `std::int32_t` and with slices that must lie inside the comment.
It overwrites two places of the comment, and everything else stays.
-/

namespace Schengen.Tables
open Library Schengen.Random

namespace SupplierStreams

def maxNoise (comment : List Char) : Int := toInt32 (comment.length - kBbbCommentLength)

/-- The sum and the difference wrap, so the last cast is the only one that matters. -/
def maxOffset (comment : List Char) (noise : Int) : Int :=
  toInt32 (comment.length - (kBbbCommentLength + noise))

def noiseDraw (sampler : IntSampler) (comment : List Char) (s : BbbStreams) : Int × RowRandomInt :=
  s.junkRandom.nextInt sampler 0 (maxNoise comment)

def offsetDraw (sampler : IntSampler) (comment : List Char) (s : BbbStreams) : Int × RowRandomInt :=
  s.offsetRandom.nextInt sampler 0 (maxOffset comment (noiseDraw sampler comment s).1)

def typeText (sampler : IntSampler) (s : BbbStreams) : List Char :=
  if (s.typeRandom.nextValue sampler).1 < kBbbComplaintPercent then kBbbComplaintText
  else kBbbRecommendText

/-- `ApplyBBBComment`; `none` where it reads outside the comment. -/
def applyBBBComment32 (sampler : IntSampler) (comment : List Char) (s : BbbStreams) :
    Option (List Char × BbbStreams) :=
  if (comment.length : Int) < kBbbCommentLength then some (comment, s)
  else
    let noise := noiseDraw sampler comment s
    let offset := offsetDraw sampler comment s
    let typeText := typeText sampler s
    let base : Int := kBbbBaseText.length
    let typeLen : Int := typeText.length
    (readSlice comment 0 offset.1).bind fun before =>
      (readSlice comment (offset.1 + base) noise.1).bind fun between =>
        (readSlice comment (offset.1 + base + noise.1 + typeLen)
            (comment.length - (offset.1 + base + noise.1 + typeLen))).map fun behind =>
          (before ++ kBbbBaseText ++ between ++ typeText ++ behind,
            { junkRandom := noise.2
              offsetRandom := offset.2
              typeRandom := (s.typeRandom.nextValue sampler).2 })

/-- The two draws lie in the bounds that they are called with. -/
structure DrawsInside (sampler : IntSampler) (comment : List Char) (s : BbbStreams) : Prop where
  noise_nonneg : 0 ≤ (noiseDraw sampler comment s).1
  noise_le : (noiseDraw sampler comment s).1 ≤ maxNoise comment
  offset_nonneg : 0 ≤ (offsetDraw sampler comment s).1
  offset_le : (offsetDraw sampler comment s).1 ≤ maxOffset comment (noiseDraw sampler comment s).1

/-- The texts stand in the result, and the rest of it is that of the comment. -/
structure Spliced (comment result : List Char) (offset noise : Nat) (typeText : List Char) : Prop where
  fits : offset + 19 + noise ≤ comment.length
  length : result.length = comment.length
  base : (result.drop offset).take 9 = "Customer ".toList
  type : (result.drop (offset + 9 + noise)).take 10 = typeText
  same : ∀ i, ¬ (offset ≤ i ∧ i < offset + 9) →
    ¬ (offset + 9 + noise ≤ i ∧ i < offset + 19 + noise) → result[i]? = comment[i]?

variable {sampler : IntSampler} {comment : List Char} {s : BbbStreams}

lemma kBbbCommentLength_eq : kBbbCommentLength = 19 := rfl

lemma toInt32_le {x : Int} (h : 0 ≤ x) : toInt32 x ≤ x := by
  unfold toInt32
  rw [Int.bmod_def]
  split <;> omega

lemma spliced_overwrite {offset noise : Nat} {typeText : List Char}
    (hfits : offset + 19 + noise ≤ comment.length) (htype : typeText.length = 10) :
    Spliced comment (overwrite (overwrite comment offset kBbbBaseText) (offset + 9 + noise) typeText)
      offset noise typeText := by
  have hbase : kBbbBaseText.length = 9 := by decide
  have hfirst : offset + kBbbBaseText.length ≤ comment.length := by omega
  have hlength := length_overwrite hfirst
  have hsecond : offset + 9 + noise + typeText.length ≤
      (overwrite comment offset kBbbBaseText).length := by omega
  refine ⟨hfits, (length_overwrite hsecond).trans hlength, ?_, ?_, fun i hi hi' => ?_⟩
  · have hread := @slice_overwrite _ comment kBbbBaseText offset (by omega)
    rw [hbase] at hread
    refine Eq.trans (List.ext_getElem? fun k => ?_) hread
    by_cases hk : k < 9
    · rw [List.getElem?_take_of_lt hk, List.getElem?_take_of_lt hk, List.getElem?_drop,
        List.getElem?_drop, getElem?_overwrite hsecond (by omega)]
    · rw [List.getElem?_take_eq_none (not_lt.mp hk), List.getElem?_take_eq_none (not_lt.mp hk)]
  · have hread := @slice_overwrite _ (overwrite comment offset kBbbBaseText) typeText
      (offset + 9 + noise) (by omega)
    rwa [htype] at hread
  · rw [getElem?_overwrite hsecond (by omega), getElem?_overwrite hfirst (by omega)]

/-- What the splice makes of its draws. -/
def spliceWith (comment typeText : List Char) (offset noise : Nat) : List Char :=
  comment.take offset ++ kBbbBaseText ++ (comment.drop (offset + kBbbBaseText.length)).take noise ++
    typeText ++ comment.drop (offset + kBbbBaseText.length + noise + typeText.length)

lemma spliceWith_eq {typeText : List Char} {offset noise : Nat}
    (hfits : offset + 19 + noise ≤ comment.length) : spliceWith comment typeText offset noise =
      overwrite (overwrite comment offset kBbbBaseText) (offset + 9 + noise) typeText := by
  have hbase : kBbbBaseText.length = 9 := by decide
  rw [overwrite_overwrite (by omega) (by omega), hbase, Nat.add_sub_cancel_left, spliceWith, hbase]

lemma typeText_eq (sampler : IntSampler) (s : BbbStreams) :
    typeText sampler s = kBbbComplaintText ∨ typeText sampler s = kBbbRecommendText := by
  unfold typeText
  split
  · exact Or.inl rfl
  · exact Or.inr rfl

lemma length_typeText (sampler : IntSampler) (s : BbbStreams) : (typeText sampler s).length = 10 := by
  rcases typeText_eq sampler s with h | h <;> rw [h] <;> decide

lemma maxNoise_le (hlong : 19 ≤ comment.length) : maxNoise comment ≤ comment.length - 19 := by
  unfold maxNoise kBbbCommentLength
  exact toInt32_le (by omega)

lemma maxOffset_le {noise : Int} (hnoise : noise ≤ comment.length - 19) :
    maxOffset comment noise ≤ comment.length - (19 + noise) := by
  unfold maxOffset kBbbCommentLength
  exact toInt32_le (by omega)

lemma maxNoise_eq (hlong : 19 ≤ comment.length) (hmax : comment.length < 2 ^ 31) :
    maxNoise comment = comment.length - kBbbCommentLength := by
  unfold maxNoise kBbbCommentLength
  exact toInt32_eq (by omega) (by omega)

lemma maxOffset_eq {noise : Int} (hnoise : 0 ≤ noise) (hnoise' : noise ≤ comment.length - 19)
    (hmax : comment.length < 2 ^ 31) :
    maxOffset comment noise = comment.length - (kBbbCommentLength + noise) := by
  unfold maxOffset kBbbCommentLength
  exact toInt32_eq (by omega) (by omega)

/-- The draws leave room for both texts. -/
lemma DrawsInside.fits (h : DrawsInside sampler comment s) (hlong : 19 ≤ comment.length) :
    (offsetDraw sampler comment s).1.toNat + 19 + (noiseDraw sampler comment s).1.toNat ≤
      comment.length := by
  obtain ⟨hnoise, hnoise', hoffset, hoffset'⟩ := h
  have hmaxNoise := hnoise'.trans (maxNoise_le hlong)
  have hmaxOffset := maxOffset_le hmaxNoise
  omega

/-- A comment that is long enough is spliced, and the slices lie inside it. -/
lemma applyBBBComment32_eq (hlong : 19 ≤ comment.length) (h : DrawsInside sampler comment s) :
    applyBBBComment32 sampler comment s =
      some (spliceWith comment (typeText sampler s) (offsetDraw sampler comment s).1.toNat
          (noiseDraw sampler comment s).1.toNat,
        { junkRandom := (noiseDraw sampler comment s).2
          offsetRandom := (offsetDraw sampler comment s).2
          typeRandom := (s.typeRandom.nextValue sampler).2 }) := by
  have hfits := h.fits hlong
  have hbase : kBbbBaseText.length = 9 := by decide
  have hlength := length_typeText sampler s
  have hnoise := Int.toNat_of_nonneg h.noise_nonneg
  have hoffset := Int.toNat_of_nonneg h.offset_nonneg
  generalize (noiseDraw sampler comment s).1.toNat = n at *
  generalize (offsetDraw sampler comment s).1.toNat = off at *
  have hbefore : readSlice comment 0 (offsetDraw sampler comment s).1 = some (comment.take off) :=
    readSlice_eq (i := 0) rfl hoffset.symm (by omega)
  have hbetween : readSlice comment ((offsetDraw sampler comment s).1 + (kBbbBaseText.length : Int))
      (noiseDraw sampler comment s).1 = some ((comment.drop (off + kBbbBaseText.length)).take n) :=
    readSlice_eq (by omega) hnoise.symm (by omega)
  have hbehind := @readSlice_eq _ comment (off + kBbbBaseText.length + n + (typeText sampler s).length)
    (comment.length - (off + kBbbBaseText.length + n + (typeText sampler s).length))
    ((offsetDraw sampler comment s).1 + (kBbbBaseText.length : Int) + (noiseDraw sampler comment s).1 +
      ((typeText sampler s).length : Int)) _ (by omega) (by omega : (comment.length : Int) -
      ((offsetDraw sampler comment s).1 + (kBbbBaseText.length : Int) + (noiseDraw sampler comment s).1 +
      ((typeText sampler s).length : Int)) = _) (by omega)
  rw [List.take_of_length_le (by rw [List.length_drop])] at hbehind
  unfold applyBBBComment32
  rw [if_neg (by unfold kBbbCommentLength; omega)]
  simp only [hbefore, hbetween, hbehind, Option.bind_some, Option.map_some, spliceWith]

/-- A comment that is too short stays, and nothing is drawn. -/
lemma applyBBBComment32_short (hshort : comment.length < 19) :
    applyBBBComment32 sampler comment s = some (comment, s) := by
  unfold applyBBBComment32
  rw [if_pos (by unfold kBbbCommentLength; omega)]

/-- A sampler into its bounds draws inside, where the lengths fit into `std::int32_t`. -/
lemma drawsInside_of_bounded (h : sampler.Bounded) (hlong : 19 ≤ comment.length)
    (hmax : comment.length < 2 ^ 31) (s : BbbStreams) : DrawsInside sampler comment s := by
  have hmaxNoise := maxNoise_eq hlong hmax
  rw [kBbbCommentLength_eq] at hmaxNoise
  have hnoise : 0 ≤ (noiseDraw sampler comment s).1 ∧
      (noiseDraw sampler comment s).1 ≤ maxNoise comment := h _ _ _ (by omega)
  have hmaxOffset := maxOffset_eq hnoise.1 (hnoise.2.trans (maxNoise_le hlong)) hmax
  rw [kBbbCommentLength_eq] at hmaxOffset
  have hoffset : 0 ≤ (offsetDraw sampler comment s).1 ∧
      (offsetDraw sampler comment s).1 ≤ maxOffset comment (noiseDraw sampler comment s).1 :=
    h _ _ _ (by omega)
  exact ⟨hnoise.1, hnoise.2, hoffset.1, hoffset.2⟩

/-- The rows are spliced so: the casts do not matter for the lengths of their comments. -/
lemma applyBBBComment_eq (h : sampler.Bounded) (hmax : comment.length < 2 ^ 31) (s : BbbStreams) :
    applyBBBComment32 sampler comment s = some (applyBBBComment sampler comment s) := by
  unfold applyBBBComment
  by_cases hlong : 19 ≤ comment.length
  · have hdraws := drawsInside_of_bounded h hlong hmax s
    have hnoise := hdraws.noise_le.trans (maxNoise_le hlong)
    have hnoiseDraw : s.junkRandom.nextInt sampler 0 ((comment.length : Int) - kBbbCommentLength) =
        noiseDraw sampler comment s := by
      rw [← maxNoise_eq hlong hmax]
      rfl
    have hoffsetDraw : s.offsetRandom.nextInt sampler 0
        ((comment.length : Int) - (kBbbCommentLength + (noiseDraw sampler comment s).1)) =
          offsetDraw sampler comment s := by
      rw [← maxOffset_eq hdraws.noise_nonneg hnoise hmax]
      rfl
    rw [applyBBBComment32_eq hlong hdraws, if_neg (by rw [kBbbCommentLength_eq]; omega)]
    simp only [hnoiseDraw, hoffsetDraw, spliceWith, typeText]
  · rw [applyBBBComment32_short (not_le.mp hlong), if_pos (by rw [kBbbCommentLength_eq]; omega)]

end SupplierStreams

open SupplierStreams in
/-- A long comment keeps its length and everything but the two texts; a short one stays and draws
nothing. -/
theorem bbbComment_spliced {sampler : IntSampler} {comment : List Char} {s : BbbStreams}
    (hdraws : 19 ≤ comment.length → DrawsInside sampler comment s) :
    (19 ≤ comment.length → ∃ (offset noise : Nat) (typeText result : List Char) (t : BbbStreams),
      applyBBBComment32 sampler comment s = some (result, t) ∧
        (typeText = "Complaints".toList ∨ typeText = "Recommends".toList) ∧
        Spliced comment result offset noise typeText) ∧
      (comment.length < 19 → applyBBBComment32 sampler comment s = some (comment, s)) ∧
      (sampler.Bounded → comment.length < 2 ^ 31 →
        (19 ≤ comment.length → DrawsInside sampler comment s) ∧
          applyBBBComment32 sampler comment s = some (applyBBBComment sampler comment s)) := by
  refine ⟨fun hlong => ?_, applyBBBComment32_short, fun h hmax =>
    ⟨fun hlong => drawsInside_of_bounded h hlong hmax s, applyBBBComment_eq h hmax s⟩⟩
  have hfits := (hdraws hlong).fits hlong
  have hspliced := spliced_overwrite hfits (length_typeText sampler s)
  rw [← spliceWith_eq hfits] at hspliced
  exact ⟨_, _, _, _, _, applyBBBComment32_eq hlong (hdraws hlong), typeText_eq sampler s, hspliced⟩

def longComment : List Char := "the quick brown fox jumps over the lazy dog again and again".toList

/-- The streams of the splice in the second row. -/
def secondRow : BbbStreams := ((SupplierStreams.new default).advanceRows 1).bbb

open SupplierStreams in
theorem bbbComment_spliced_secondRow :
    (applyBBBComment32 .exact longComment secondRow).map Prod.fst =
        some "thCustomer rown fox jumps Complaintsazy dog again and again".toList ∧
      ∃ (offset noise : Nat) (typeText result : List Char) (t : BbbStreams),
        applyBBBComment32 .exact longComment secondRow = some (result, t) ∧
          (typeText = "Complaints".toList ∨ typeText = "Recommends".toList) ∧
          Spliced longComment result offset noise typeText :=
  ⟨by decide +kernel, (bbbComment_spliced fun _ =>
    ⟨by decide +kernel, by decide +kernel, by decide +kernel, by decide +kernel⟩).1 (by decide)⟩

end Schengen.Tables
