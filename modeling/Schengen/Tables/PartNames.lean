import Schengen.Random.WithoutReplacement
import Schengen.Tables.SkippedRows

/-!
# The names of parts

A part is named by five colours that are drawn without replacement, so they differ.
-/

namespace Schengen.Tables
open Library Schengen.Random

def colourTokens : List String := kColors.map DistributionEntry.token

lemma nodup_colourTokens : colourTokens.Nodup := by decide +kernel

/-- A name of five different colours. -/
def NamedByColours (row : PartRow) : Prop :=
  ∃ colours : List String, colours.Nodup ∧ colours.length = 5 ∧ (∀ c ∈ colours, c ∈ colourTokens) ∧
    row.pName = joinTokens colours

/-- Different positions of a list without repetitions have different tokens. -/
lemma nodup_tokensAt {s : RandomStringSequence} {positions : List Nat} (h : s.Choice positions)
    (hs : (s.params.distribution.entries.map DistributionEntry.token).Nodup) :
    (s.tokensAt positions).Nodup := by
  refine List.Nodup.map_on (fun p hp q hq heq => ?_) h.distinct
  have hlen : ∀ p ∈ positions,
      p < (s.params.distribution.entries.map DistributionEntry.token).length := by
    intro p hp
    rw [List.length_map]
    exact h.inside p hp
  rw [List.getD_eq_getElem _ _ (hlen p hp), List.getD_eq_getElem _ _ (hlen q hq)] at heq
  exact (List.Nodup.getElem_inj_iff hs).mp heq

lemma mem_tokensAt {s : RandomStringSequence} {positions : List Nat} (h : s.Choice positions)
    {token : String} (htoken : token ∈ s.tokensAt positions) :
    token ∈ s.params.distribution.entries.map DistributionEntry.token := by
  obtain ⟨p, hp, rfl⟩ := List.mem_map.mp htoken
  have hlen : p < (s.params.distribution.entries.map DistributionEntry.token).length := by
    rw [List.length_map]
    exact h.inside p hp
  rw [List.getD_eq_getElem _ _ hlen]
  exact List.getElem_mem hlen

/-- The names of the parts, for the streams at the start of any row. -/
lemma namedByColours_read (sampler : IntSampler) (textPool : TextPool) (r nextRow : Nat) :
    NamedByColours (((PartStreams.new textPool).advanceRows r).read sampler nextRow).1 := by
  generalize hs : ((PartStreams.new textPool).advanceRows r).nameRandom = s
  have hparams : s.params = ⟨PartStreams.kNameWords, kColorsDist⟩ := by
    rw [← hs]
    rfl
  have hchoice := s.choice_rowPositions sampler
  have hname : (((PartStreams.new textPool).advanceRows r).read sampler nextRow).1.pName =
      joinTokens (s.tokensAt (s.rowPositions sampler)) := by
    rw [PartStreams.read]
    simp only [hs, RandomStringSequence.nextValue_eq]
  refine ⟨s.tokensAt (s.rowPositions sampler), nodup_tokensAt hchoice ?_, ?_, fun c hc => ?_, hname⟩
  · rw [hparams]
    exact nodup_colourTokens
  · rw [RandomStringSequence.tokensAt, List.length_map, hchoice.count, RandomStringSequence.limit,
      hparams]
    decide
  · have hmem := mem_tokensAt hchoice hc
    rw [hparams] at hmem
    exact hmem

/-- The names of the parts, in every iterator that is reached. -/
lemma namedByColours_next {sampler : IntSampler} {cursor next : RowCursor PartStreams} {row : PartRow}
    (hreaches : (Table.partRowIterator sampler).Reaches cursor)
    (hnext : (Table.partRowIterator sampler).next cursor = some (row, next)) : NamedByColours row := by
  have hcursor : cursor.next (PartStreams.read sampler) PartStreams.rowFinished = some (row, next) :=
    hnext
  obtain ⟨hopen, hrow⟩ := RowCursor.read_of_next hcursor
  obtain ⟨textPool, hstreams⟩ := (PartStreams.skipsAsItReads sampler).start hreaches hopen
  rw [← hrow, hstreams]
  exact namedByColours_read sampler textPool _ _

/-- The tokens of a row stand at different positions of the distribution, any choice of them can be
returned, and so the colours in the name of a part differ. -/
theorem partNames_withoutReplacement {sampler : IntSampler} (h : sampler.Bounded) :
    (∀ s : RandomStringSequence, s.WithoutReplacement sampler) ∧
      (∀ seed count distribution expectedRowCount,
        (RandomStringSequence.new seed count distribution expectedRowCount).inner.seedsPerRow =
          distribution.size * expectedRowCount) ∧
      (∀ (s : RandomStringSequence) (positions : List Nat), s.Choice positions →
        ∃ draws : IntSampler, draws.Bounded ∧ (s.nextValue draws).1 = s.tokensAt positions) ∧
      ∀ cursor row next, (Table.partRowIterator sampler).Reaches cursor →
        (Table.partRowIterator sampler).next cursor = some (row, next) → NamedByColours row :=
  ⟨fun s => s.withoutReplacement h, fun _ _ _ _ => rfl,
    fun _ _ hchoice => RandomStringSequence.exists_sampler hchoice,
    fun _ _ _ hreaches hnext => namedByColours_next hreaches hnext⟩

/-- Draws that fall by twenty from one position to the next. -/
def fallingDraws : IntSampler := .ofDraws fun lo => 91 - 20 * lo

def nameSequence : RandomStringSequence :=
  .new PartStreams.kNameSeed PartStreams.kNameWords kColorsDist 1

/-- The iterator in front of the third of five parts. -/
def thirdPart : RowCursor PartStreams :=
  (Table.partRowIterator fallingDraws).reset ⟨2, 5, 1, default⟩
    (Table.partRowIterator fallingDraws).initial

theorem partNames_withoutReplacement_falling :
    (nameSequence.nextValue fallingDraws).1 =
        ["yellow", "rosy", "midnight", "ghost", "burlywood"] ∧
      nameSequence.WithoutReplacement fallingDraws ∧ nameSequence.inner.seedsPerRow = 92 ∧
      (∃ draws : IntSampler, draws.Bounded ∧
        (nameSequence.nextValue draws).1 = nameSequence.tokensAt [90, 3, 41, 0, 17]) ∧
      ∃ row next, (Table.partRowIterator fallingDraws).next thirdPart = some (row, next) ∧
        NamedByColours row := by
  obtain ⟨hrow, hseeds, hany, hnames⟩ :=
    partNames_withoutReplacement (IntSampler.bounded_ofDraws fun lo => 91 - 20 * lo)
  have hreaches : (Table.partRowIterator fallingDraws).Reaches thirdPart :=
    SkippingReader.Reaches.initial.call (.reset (⟨2, 5, 1, default⟩ : ResetArgs))
  exact ⟨by decide +kernel, hrow nameSequence, hseeds _ _ _ _,
    hany nameSequence [90, 3, 41, 0, 17] ⟨by decide, by decide, by decide⟩,
    _, _, rfl, hnames _ _ _ hreaches rfl⟩

end Schengen.Tables
